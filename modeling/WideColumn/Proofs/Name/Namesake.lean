import WideColumn.Name.Model
import WideColumn.Proofs.Name.Plain
import WideColumn.Proofs.Name.Plural

/-!
# Tables with the name of something else

The entity of a table is named for the table, and nothing keeps that name apart from other names. A
name that begins with a small letter is never an entity's. For a name that begins with a capital the
tables can be listed: they are called like it in small letters, in the singular or in the plural,
and the underscore that becomes a capital may be written in front.

Main definition: `Name.namesakes`.
Main results: `Name.entity_eq_iff`, `Name.entity_ne`.
-/

namespace WideColumn.Name

open Text

/-- The form, and its plurals with `s`. -/
def formsOf (form : List Char) : List (List Char) := [form, form ++ ['s'], form ++ ['S']]

theorem mem_formsOf {name form : List Char} (hform : hasOtherPlural form = false)
    (h : singularChars name = form) : name ∈ formsOf form := by
  rcases plural_of_singularChars hform h with rfl | ⟨s, hs, rfl⟩
  · simp [formsOf]
  · rcases eq_or_eq_toUpper hs with rfl | rfl
    · simp [formsOf]
    · rw [show ('s' : Char).toUpper = 'S' by decide]
      simp [formsOf]

/-! ## Pascal case -/

theorem isLower_of_capitalized {s : List Char} (hs : ∀ c ∈ s, c.toNat < 128) {c : Char}
    {r : List Char} (h : capitalized s = c :: r) : c.isLower = false := by
  cases s with
  | nil => cases h
  | cons first rest =>
    rw [capitalized, upperChar_of_lt (hs first List.mem_cons_self)] at h
    obtain rfl := (List.cons.inj h).1
    cases hfirst : first.isLower with
    | true =>
      have hcapital := isUpper_toUpper hfirst
      rw [← Bool.not_eq_true]
      intro hsmall
      exact absurd hcapital (by rw [isUpper_eq_false_of_isLower hsmall]; decide)
    | false => rw [toUpper_eq_self hfirst, hfirst]

/-- A name without capitals is its pascal case undone, but for an underscore in front. -/
theorem snakeChars_capitalized {s : List Char} (hs : ∀ c ∈ s, c.isUpper = false)
    (hascii : ∀ c ∈ camelChars s, c.toNat < 128) :
    snakeChars (capitalized (camelChars s)) = s ∨
      snakeChars (capitalized (camelChars s)) = '_' :: s := by
  have hundone : snakeChars (camelChars s) = s := by
    rw [snakeChars_camelChars, snakeChars_of_noCapital hs]
  cases hcamel : camelChars s with
  | nil =>
    rw [hcamel] at hundone
    exact .inl hundone
  | cons first rest =>
    rw [hcamel] at hundone hascii
    rw [capitalized, upperChar_of_lt (hascii first List.mem_cons_self), List.singleton_append]
    cases hfirst : first.isLower with
    | true =>
      right
      have hsmall : first.isUpper = false := isUpper_eq_false_of_isLower hfirst
      rw [snakeChars_cons_other hsmall] at hundone
      rw [snakeChars_cons_upper (isUpper_toUpper hfirst), toLower_toUpper, toLower_eq_self hsmall,
        hundone]
    | false =>
      left
      rw [toUpper_eq_self hfirst, hundone]

/-! ## Entities -/

/-- The global names that the types and converters of a model can use. -/
def globals : List String := ["Date", "Buffer", "Record", "Promise", "Object", "Array"]

/-- The names that a model binds whatever its table is called. -/
def fixed : List String := ["cassandra", "dbClient", "PartitionKeys", "ClusteringKeys", "mapper"]

/-- The tables that are called like the name, in small letters: in the singular or the plural, and
with an underscore in front or without. -/
def namesakes (name : String) : List String :=
  ["", "_"].flatMap fun front =>
    ["", "s", "_s"].map fun back => front ++ String.ofList (asciiLower name.toList) ++ back

theorem toList_entity (table : String) :
    (entity table).toList = singularChars (capitalized (camelChars table.toList)) := by
  rw [entity, singular, pascal, String.toList_ofList, String.toList_ofList]

/-- Only the forms of a name become that name. -/
theorem capitalized_mem_formsOf {table name : String} (hname : hasOtherPlural name.toList = false)
    (h : entity table = name) : capitalized (camelChars table.toList) ∈ formsOf name.toList := by
  refine mem_formsOf hname ?_
  rw [← toList_entity, h]

section Plain

variable {table : String} (hplain : Cql.isPlain table.toList = true)

include hplain

theorem ascii_of_mem_camelChars : ∀ c ∈ camelChars table.toList, c.toNat < 128 := by
  intro c hc
  have hword := (Cql.within_isWordChar hplain).camelChars isAlphabet_isWordChar
  exact isAlphabet_isWordChar.ascii (hword c hc)

/-- The entity of a table has the name of a global just if the table is one of the few that are
called like it. -/
theorem entity_eq_iff {name : String} (hname : name ∈ globals) :
    entity table = name ↔ table ∈ namesakes name := by
  constructor
  · intro h
    have hregular : ∀ name ∈ globals, hasOtherPlural name.toList = false := by decide
    have hforms : ∀ name ∈ globals, ∀ form ∈ formsOf name.toList,
        String.ofList (snakeChars form) ∈ namesakes name ∧
          String.ofList (snakeChars form).tail ∈ namesakes name := by decide
    -- What the entity is made from is a form of the name, and undone it is the table but for the
    -- underscore that may be in front.
    have hform := capitalized_mem_formsOf (hregular name hname) h
    obtain ⟨hbare, hunderscore⟩ := hforms name hname _ hform
    rw [← String.ofList_toList (s := table)]
    rcases snakeChars_capitalized (Cql.isUpper_of_mem hplain) (ascii_of_mem_camelChars hplain) with
      hundone | hundone
    · rwa [hundone] at hbare
    · rwa [hundone, List.tail_cons] at hunderscore
  · intro h
    have hentities : ∀ name ∈ globals, ∀ table ∈ namesakes name, entity table = name := by
      decide +kernel
    exact hentities name hname table h

/-- No entity has one of the names that every model binds. -/
theorem entity_ne {name : String} (hname : name ∈ fixed) : entity table ≠ name := by
  intro h
  have hregular : ∀ name ∈ fixed, hasOtherPlural name.toList = false := by decide
  have hforms : ∀ name ∈ fixed, ∀ form ∈ formsOf name.toList,
      form.head?.map Char.isLower = some true ∨ singularChars form ≠ name.toList := by decide
  -- The types of the keys begin with a capital, but they are plurals: none of their forms has them
  -- for its singular.
  have hform := capitalized_mem_formsOf (hregular name hname) h
  rcases hforms name hname _ hform with hsmall | hsingular
  · obtain ⟨c, hc, hlower⟩ := Option.map_eq_some_iff.mp hsmall
    obtain ⟨r, hr⟩ := List.head?_eq_some_iff.mp hc
    have hcapital := isLower_of_capitalized (ascii_of_mem_camelChars hplain) hr
    exact absurd (hlower.symm.trans hcapital) (by decide)
  · exact hsingular (by rw [← toList_entity, h])

end Plain

end WideColumn.Name
