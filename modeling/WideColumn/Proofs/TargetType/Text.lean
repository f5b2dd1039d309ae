import WideColumn.Proofs.Text.Apart
import WideColumn.TargetType

/-!
# The text of a target type

A declared type can be read off its text, and no parentheses are needed for it. Brackets stand at
two places, around the components of a tuple and behind the element of an array, and what stands in
front tells which is meant: the text of a tuple begins with its bracket, and the brackets of an
array come after a whole type. So two texts can only agree for different types where one type is an
array of the other and the text behind goes on with brackets.

Main definitions: `TargetType.arrays`, `brackets`.
Main results: `TargetType.chars_apart`, `TargetType.text_unambiguous`.
-/

namespace WideColumn.TargetType

open Text

/-! ## Parts of a text -/

theorem chars_array (element : TargetType) (x : List Char) :
    (array element).chars ++ x = element.chars ++ '[' :: ']' :: x := by
  have htext : (array element).chars = element.chars ++ ['[', ']'] := rfl
  rw [htext, List.append_assoc]
  rfl

theorem chars_record (key value : TargetType) (x : List Char) :
    (record key value).chars ++ x =
      "Record<".toList ++ (key.chars ++ ',' :: ' ' :: (value.chars ++ '>' :: x)) := by
  have htext : (record key value).chars =
    "Record<".toList ++ key.chars ++ [',', ' '] ++ value.chars ++ ['>'] := rfl
  rw [htext]
  simp only [List.append_assoc]
  rfl

theorem chars_tuple (components : List TargetType) (x : List Char) :
    (tuple components).chars ++ x = '[' :: (commaSeparated components ++ ']' :: x) := by
  have htext : (tuple components).chars = ['['] ++ commaSeparated components ++ [']'] := rfl
  rw [htext, List.append_assoc, List.append_assoc]
  rfl

/-! ## Arrays of arrays -/

/-- The type of arrays of arrays of the element, so many times. -/
def arrays : Nat → TargetType → TargetType
  | 0, element => element
  | n + 1, element => array (arrays n element)

/-- So many pairs of brackets. -/
def brackets : Nat → List Char
  | 0 => []
  | n + 1 => '[' :: ']' :: brackets n

theorem arrays_array (n : Nat) (element : TargetType) :
    arrays n (array element) = array (arrays n element) := by
  induction n with
  | zero => rfl
  | succ n ih => rw [arrays, ih, arrays]

theorem brackets_append_cons (n : Nat) (x : List Char) :
    brackets n ++ '[' :: ']' :: x = '[' :: ']' :: (brackets n ++ x) := by
  induction n with
  | zero => rfl
  | succ n ih => simp [brackets, ih]

theorem chars_arrays (n : Nat) (element : TargetType) (x : List Char) :
    (arrays n element).chars ++ x = element.chars ++ (brackets n ++ x) := by
  induction n generalizing x with
  | zero => rfl
  | succ n ih => rw [arrays, chars_array, ih, brackets_append_cons, brackets]; rfl

/-- The type is an array. -/
def isArray : TargetType → Bool
  | array _ => true
  | _ => false

/-- A type is an array, perhaps of no dimension, of a type that is no array. -/
theorem exists_arrays (t : TargetType) : ∃ n base, isArray base = false ∧ t = arrays n base := by
  cases t with
  | array element =>
    obtain ⟨n, base, hbase, rfl⟩ := exists_arrays element
    exact ⟨n + 1, base, hbase, rfl⟩
  | string | number | boolean | buffer | date | record _ _ | tuple _ | unknown =>
    exact ⟨0, _, rfl, rfl⟩

/-! ## First characters -/

/-- The first character of a type's text. It tells the form of a type that is no array. -/
def lead : TargetType → Char
  | string => 's'
  | number => 'n'
  | boolean => 'b'
  | buffer => 'B'
  | date => 'D'
  | array element => element.lead
  | record _ _ => 'R'
  | tuple _ => '['
  | unknown => 'u'

theorem head?_chars (t : TargetType) (x : List Char) : (t.chars ++ x).head? = some t.lead := by
  cases t with
  | array element => rw [chars_array, head?_chars element, lead]
  | record key value => rw [chars_record]; rfl
  | tuple components => rw [chars_tuple]; rfl
  | string | number | boolean | buffer | date | unknown => rfl

theorem lead_ne_close (t : TargetType) : t.lead ≠ ']' := by
  cases t with
  | array element => exact lead_ne_close element
  | string | number | boolean | buffer | date | record _ _ | tuple _ | unknown => simp [lead]

theorem lead_eq_of_chars {t u : TargetType} {x y : List Char}
    (h : t.chars ++ x = u.chars ++ y) : u.lead = t.lead := by
  have hheads := congrArg List.head? h
  rw [head?_chars, head?_chars] at hheads
  exact (Option.some.inj hheads).symm

theorem lead_eq_of_cons {t : TargetType} {x y : List Char} {c : Char}
    (h : t.chars ++ x = c :: y) : t.lead = c := by
  have hheads := congrArg List.head? h
  rw [head?_chars] at hheads
  exact Option.some.inj hheads

/-- A scalar type is told by its first character. -/
theorem eq_of_lead {t base : TargetType} (ht : t ∈ [string, number, boolean, buffer, date, unknown])
    (hbase : isArray base = false) (h : base.lead = t.lead) : base = t := by
  simp only [List.mem_cons, List.not_mem_nil, or_false] at ht
  cases base <;> rcases ht with rfl | rfl | rfl | rfl | rfl | rfl <;> simp_all [lead, isArray]

theorem exists_record_of_lead {base : TargetType} (hbase : isArray base = false)
    (h : base.lead = 'R') : ∃ key value, base = record key value := by
  cases base <;> simp_all [lead, isArray]

theorem exists_tuple_of_lead {base : TargetType} (hbase : isArray base = false)
    (h : base.lead = '[') : ∃ components, base = tuple components := by
  cases base <;> simp_all [lead, isArray]

/-! ## Lists of types -/

theorem commaSeparated_cons (t : TargetType) (ts : List TargetType) :
    commaSeparated (t :: ts) = t.chars ++ andListed (ts.map chars) := by
  induction ts generalizing t with
  | nil => exact (List.append_nil _).symm
  | cons u ts ih =>
    have htext : commaSeparated (t :: u :: ts) =
      t.chars ++ [',', ' '] ++ commaSeparated (u :: ts) := rfl
    rw [htext, ih, List.map_cons, andListed_cons, List.append_assoc]
    rfl

/-- Behind a comma stands the text of the types that are left. -/
theorem andListed_cons_append (t : TargetType) (ts : List TargetType) (x : List Char) :
    andListed ((t :: ts).map chars) ++ x = ',' :: ' ' :: (commaSeparated (t :: ts) ++ x) := by
  rw [commaSeparated_cons, List.map_cons, andListed_cons]
  rfl

theorem head?_andListed_ne (ts : List TargetType) (x : List Char) :
    (andListed (ts.map chars) ++ ']' :: x).head? ≠ some '[' := by
  cases ts <;> simp

/-! ## Telling types apart -/

/-- The texts of two types agree up to what follows: one type is an array of the other, and the
brackets that make it one stand behind the text of the other. -/
def Overlap (t u : TargetType) (x y : List Char) : Prop :=
  (∃ n, u = arrays n t ∧ x = brackets n ++ y) ∨ ∃ n, t = arrays n u ∧ y = brackets n ++ x

namespace Overlap

variable {t u element : TargetType} {x y : List Char}

/-- Brackets of the first type are the first of the other's, or one more behind them all. -/
theorem array (h : Overlap element u ('[' :: ']' :: x) y) :
    Overlap (TargetType.array element) u x y := by
  rcases h with ⟨n, rfl, hx⟩ | ⟨n, rfl, rfl⟩
  · cases n with
    | zero => exact .inr ⟨1, rfl, hx.symm⟩
    | succ n =>
      refine .inl ⟨n, by rw [arrays, arrays_array], ?_⟩
      exact (List.cons.inj (List.cons.inj hx).2).2
  · exact .inr ⟨n + 1, rfl, brackets_append_cons n x⟩

/-- Without brackets behind, the types are the same. -/
theorem eq (h : Overlap t u x y) (hx : x.head? ≠ some '[') (hy : y.head? ≠ some '[') :
    t = u ∧ x = y := by
  rcases h with ⟨n, rfl, hxy⟩ | ⟨n, rfl, hxy⟩
  · cases n with
    | zero => exact ⟨rfl, hxy⟩
    | succ n => exact absurd (by rw [hxy]; rfl) hx
  · cases n with
    | zero => exact ⟨rfl, hxy.symm⟩
    | succ n => exact absurd (by rw [hxy]; rfl) hy

end Overlap

mutual

theorem overlap_of_chars (t : TargetType) {u : TargetType} {x y : List Char}
    (h : t.chars ++ x = u.chars ++ y) : Overlap t u x y := by
  cases t with
  | array element =>
    rw [chars_array] at h
    exact (overlap_of_chars element h).array
  | record key value =>
    obtain ⟨n, base, hbase, rfl⟩ := exists_arrays u
    rw [chars_arrays] at h
    obtain ⟨key', value', rfl⟩ := exists_record_of_lead hbase (lead_eq_of_chars h)
    rw [chars_record, chars_record] at h
    obtain ⟨rfl, hvalues⟩ :=
      (overlap_of_chars key (List.append_cancel_left h)).eq (by simp) (by simp)
    obtain ⟨rfl, hrest⟩ :=
      (overlap_of_chars value (List.cons.inj (List.cons.inj hvalues).2).2).eq (by simp) (by simp)
    exact .inl ⟨n, rfl, (List.cons.inj hrest).2⟩
  | tuple components =>
    -- The bracket in front is never that of an array, whose text begins with its element.
    obtain ⟨n, base, hbase, rfl⟩ := exists_arrays u
    rw [chars_arrays] at h
    obtain ⟨components', rfl⟩ := exists_tuple_of_lead hbase (lead_eq_of_chars h)
    rw [chars_tuple, chars_tuple] at h
    obtain ⟨rfl, hrest⟩ := commaSeparated_apart components (List.cons.inj h).2
    exact .inl ⟨n, rfl, hrest⟩
  | string | number | boolean | buffer | date | unknown =>
    obtain ⟨n, base, hbase, rfl⟩ := exists_arrays u
    rw [chars_arrays] at h
    obtain rfl := eq_of_lead (by simp) hbase (lead_eq_of_chars h)
    exact .inl ⟨n, rfl, List.append_cancel_left h⟩

/-- The components of a tuple can be told apart up to its closing bracket. -/
theorem commaSeparated_apart (ts : List TargetType) {us : List TargetType} {x y : List Char}
    (h : commaSeparated ts ++ ']' :: x = commaSeparated us ++ ']' :: y) : ts = us ∧ x = y := by
  cases ts with
  | nil =>
    cases us with
    | nil => exact ⟨rfl, (List.cons.inj h).2⟩
    | cons u us =>
      rw [commaSeparated_cons, List.append_assoc] at h
      exact absurd (lead_eq_of_cons h.symm) (lead_ne_close u)
  | cons t ts =>
    cases us with
    | nil =>
      rw [commaSeparated_cons, List.append_assoc] at h
      exact absurd (lead_eq_of_cons h) (lead_ne_close t)
    | cons u us =>
      rw [commaSeparated_cons, commaSeparated_cons, List.append_assoc, List.append_assoc] at h
      obtain ⟨rfl, hrest⟩ :=
        (overlap_of_chars t h).eq (head?_andListed_ne _ _) (head?_andListed_ne _ _)
      cases ts with
      | nil =>
        cases us with
        | nil => exact ⟨rfl, (List.cons.inj hrest).2⟩
        | cons u us => exact absurd (List.cons.inj hrest).1 (by decide)
      | cons t' ts =>
        cases us with
        | nil => exact absurd (List.cons.inj hrest).1 (by decide)
        | cons u us =>
          rw [andListed_cons_append, andListed_cons_append] at hrest
          obtain ⟨htail, hxy⟩ :=
            commaSeparated_apart (t' :: ts) (List.cons.inj (List.cons.inj hrest).2).2
          exact ⟨by rw [htail], hxy⟩

end

/-- A type is told by its text, if no more brackets follow. -/
theorem chars_apart : TellsApart (fun x => x.head? ≠ some '[') chars id := by
  intro t u x y hx hy h
  exact (overlap_of_chars t h).eq hx hy

/-- The texts of types agree nowhere but where one type is an array of the other. -/
theorem chars_append_eq_iff {t u : TargetType} {x y : List Char} :
    t.chars ++ x = u.chars ++ y ↔ Overlap t u x y := by
  constructor
  · exact overlap_of_chars t
  · rintro (⟨n, rfl, rfl⟩ | ⟨n, rfl, rfl⟩)
    · rw [chars_arrays]
    · rw [chars_arrays]

/-- Two types have one text only if they are one type. In a longer text, too, a type can be read in
one way only, up to the brackets right behind it: no parentheses are needed around any part. -/
theorem text_unambiguous (t u : TargetType) :
    (t.text = u.text ↔ t = u) ∧
      ∀ x y : List Char, t.chars ++ x = u.chars ++ y ↔
        (∃ n, u = arrays n t ∧ x = brackets n ++ y) ∨
          ∃ n, t = arrays n u ∧ y = brackets n ++ x := by
  refine ⟨⟨fun h => ?_, fun h => by rw [h]⟩, fun x y => chars_append_eq_iff⟩
  have hchars : t.chars ++ [] = u.chars ++ [] := by rw [String.ofList_inj.mp h]
  exact ((overlap_of_chars t hchars).eq (by simp) (by simp)).1

/-- An array of empty tuples and a tuple of one empty tuple. -/
example : (array (tuple [])).text = "[][]" ∧ (tuple [tuple []]).text = "[[]]" := by decide

end WideColumn.TargetType
