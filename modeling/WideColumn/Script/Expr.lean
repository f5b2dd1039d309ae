import WideColumn.Text.Digits

/-!
# Script expressions

The converters of a model are arrow functions in JavaScript. They are built as expressions of a
small fragment of the language and written by one printer, so that what a converter does can be said
of its expression and not of its text.

The printer puts parentheses where the grammar needs them: around an arrow function or a condition
that is called or has a member taken, and around a condition that is the body of an arrow function.

Main definitions: `Script.Binding`, `Script.Expr`, `Script.Expr.text`.
-/

namespace WideColumn.Script

/-- What the parameter of an arrow function binds. -/
inductive Binding where
  /-- The whole argument. -/
  | whole (name : String)
  /-- The two elements of an argument that is an array. -/
  | pair (first second : String)
  deriving DecidableEq, Repr

/-- An expression. -/
inductive Expr where
  /-- A variable or a global object. -/
  | ident (name : String)
  /-- A property, written after a point. -/
  | member (object : Expr) (property : String)
  /-- An element of an array, by its index. -/
  | item (object : Expr) (index : Nat)
  /-- A call with its arguments. -/
  | call (callee : Expr) (arguments : List Expr)
  /-- A new object of a class. -/
  | create (className : String) (arguments : List Expr)
  /-- An array of its elements. -/
  | array (elements : List Expr)
  /-- A function of one parameter. -/
  | arrow (parameter : Binding) (body : Expr)
  /-- The second expression where the first one is `null` or `undefined`, else the third. -/
  | ifNull (subject whenNull otherwise : Expr)
  deriving Repr

/-- The parameter list of an arrow function. -/
def Binding.text : Binding → String
  | whole name => "(" ++ name ++ ")"
  | pair first second => "([" ++ first ++ ", " ++ second ++ "])"

namespace Expr

/-- The expression ends where its last token ends, so that a call or a member can follow it. -/
def isClosed : Expr → Bool
  | arrow _ _ | ifNull _ _ _ => false
  | _ => true

/-- The expression is a condition. -/
def isCondition : Expr → Bool
  | ifNull _ _ _ => true
  | _ => false

/-- The text in parentheses if they are needed. -/
def parenthesized (needed : Bool) (text : String) : String :=
  if needed then "(" ++ text ++ ")" else text

mutual

/-- The expression in JavaScript. -/
def text : Expr → String
  | ident name => name
  | member object property => parenthesized (!object.isClosed) object.text ++ "." ++ property
  | item object index =>
    parenthesized (!object.isClosed) object.text ++ "[" ++ String.ofList (Text.ofNat index) ++ "]"
  | call callee arguments =>
    parenthesized (!callee.isClosed) callee.text ++ "(" ++ commaSeparated arguments ++ ")"
  | create className arguments => "new " ++ className ++ "(" ++ commaSeparated arguments ++ ")"
  | array elements => "[" ++ commaSeparated elements ++ "]"
  | arrow parameter body =>
    parameter.text ++ " => " ++ parenthesized body.isCondition body.text
  | ifNull subject whenNull otherwise =>
    subject.text ++ " == null ? " ++ whenNull.text ++ " : " ++ otherwise.text

/-- Several expressions, with a comma and a space between neighbours. -/
def commaSeparated : List Expr → String
  | [] => ""
  | [e] => e.text
  | e :: f :: r => e.text ++ ", " ++ commaSeparated (f :: r)

end

/-- The method of an object called with one argument or none. -/
def invoke (object : Expr) (method : String) (arguments : List Expr) : Expr :=
  call (member object method) arguments

end Expr

end WideColumn.Script
