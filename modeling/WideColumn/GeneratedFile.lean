/-!
# Generated files

Main definitions: `Language`, `GeneratedFile`.
-/

namespace WideColumn

/-- The language of a generated text. -/
inductive Language where
  | typeScript
  | cql
  deriving DecidableEq, Repr

/-- A text to be printed, or written below a directory. -/
structure GeneratedFile where
  /-- Where the file goes, below the directory. -/
  path : String
  content : String
  language : Language
  deriving DecidableEq

end WideColumn
