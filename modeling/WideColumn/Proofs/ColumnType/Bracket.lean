import WideColumn.ColumnType.Spelling

/-!
# Brackets and commas in a type's spelling

The reader looks for two things in a text: the bracket that closes the first one, and the commas
outside all brackets. Both loops count open brackets, each with exits of its own. Here both are
measured by one step, `bracketStep`, which fails where a bracket closes that was not open, or where
a character stands outside all brackets that may not.

* `IsBalanced`: every bracket of the text has its partner in the text.
* `IsArgument`: balanced, with no comma outside the brackets.
* `beforeClose_eq_some_iff`: the bracket search finds exactly the balanced text before a final `>`.
* `cutAtCommas_eq_some_iff`: the cut yields exactly the arguments that commas join to the text.
-/

namespace WideColumn.TypeTerm

open Text

/-! ## Counting -/

/-- How many brackets are open after a character, when `depth` were open before it. Outside all
brackets only `allowed` characters may stand. -/
def bracketStep (allowed : Char → Bool) (depth : Nat) (c : Char) : Option Nat :=
  if c = '<' then some (depth + 1)
  else if c = '>' then
    match depth with
    | 0 => none
    | depth + 1 => some depth
  else if depth = 0 && !allowed c then none
  else some depth

/-- How many brackets are open after a text, when `depth` were open before it. -/
def depthAfter? (allowed : Char → Bool) (depth : Nat) (s : List Char) : Option Nat :=
  s.foldlM (bracketStep allowed) depth

/-- Every bracket of the text has its partner in the text. -/
def IsBalanced (s : List Char) : Prop := depthAfter? (fun _ => true) 0 s = some 0

/-- The text can be one argument: it is balanced, and its commas stand inside brackets. -/
def IsArgument (s : List Char) : Prop := depthAfter? (· ≠ ',') 0 s = some 0

@[simp] theorem depthAfter?_nil (allowed : Char → Bool) (depth : Nat) :
    depthAfter? allowed depth [] = some depth := rfl

theorem depthAfter?_cons (allowed : Char → Bool) (depth : Nat) (c : Char) (r : List Char) :
    depthAfter? allowed depth (c :: r) =
      (bracketStep allowed depth c).bind (depthAfter? allowed · r) := rfl

theorem depthAfter?_append (allowed : Char → Bool) (depth : Nat) (s t : List Char) :
    depthAfter? allowed depth (s ++ t) =
      (depthAfter? allowed depth s).bind (depthAfter? allowed · t) :=
  List.foldlM_append

/-- What one step gives carries over to a text when it carries over to every single step. -/
theorem depthAfter?_of_step {allowed allowed' : Char → Bool} (up : Nat → Nat)
    (hstep : ∀ {depth depth' c}, bracketStep allowed depth c = some depth' →
      bracketStep allowed' (up depth) c = some (up depth')) {s : List Char} :
    ∀ {depth depth' : Nat}, depthAfter? allowed depth s = some depth' →
      depthAfter? allowed' (up depth) s = some (up depth') := by
  induction s with
  | nil =>
    intro depth depth' h
    obtain rfl : depth = depth' := Option.some.inj h
    rfl
  | cons c r ih =>
    intro depth depth' h
    rw [depthAfter?_cons, Option.bind_eq_some_iff] at h
    obtain ⟨mid, hmid, hr⟩ := h
    rw [depthAfter?_cons, hstep hmid]
    exact ih hr

/-- Inside an outer bracket every character may stand. -/
theorem depthAfter?_succ {allowed allowed' : Char → Bool} {s : List Char} {depth depth' : Nat}
    (h : depthAfter? allowed depth s = some depth') :
    depthAfter? allowed' (depth + 1) s = some (depth' + 1) := by
  refine depthAfter?_of_step (· + 1) ?_ h
  intro depth depth' c hc
  unfold bracketStep at hc ⊢
  cases depth <;> grind

/-- What may stand outside the brackets may be relaxed. -/
theorem depthAfter?_mono {allowed allowed' : Char → Bool}
    (hsub : ∀ c, allowed c = true → allowed' c = true) {s : List Char} {depth depth' : Nat}
    (h : depthAfter? allowed depth s = some depth') :
    depthAfter? allowed' depth s = some depth' := by
  refine depthAfter?_of_step id ?_ h
  intro depth depth' c hc
  unfold bracketStep at hc ⊢
  cases depth <;> grind

/-- A text without brackets, all of whose characters may stand outside, leaves the depth alone. -/
theorem depthAfter?_plain {allowed : Char → Bool} {s : List Char}
    (h : ∀ c ∈ s, c ≠ '<' ∧ c ≠ '>' ∧ allowed c = true) (depth : Nat) :
    depthAfter? allowed depth s = some depth := by
  induction s with
  | nil => rfl
  | cons c r ih =>
    obtain ⟨ho, hc, ha⟩ := h c List.mem_cons_self
    have hstep : bracketStep allowed depth c = some depth := by simp [bracketStep, ho, hc, ha]
    rw [depthAfter?_cons, hstep]
    exact ih fun d hd => h d (List.mem_cons_of_mem c hd)

theorem depthAfter?_unmarked {s : List Char} (h : ∀ c ∈ s, c ≠ '<' ∧ c ≠ '>' ∧ c ≠ ',')
    (depth : Nat) : depthAfter? (· ≠ ',') depth s = some depth :=
  depthAfter?_plain (fun c hc => ⟨(h c hc).1, (h c hc).2.1, by simpa using (h c hc).2.2⟩) depth

/-! ## Balanced texts and arguments -/

theorem IsArgument.isBalanced {s : List Char} (h : IsArgument s) : IsBalanced s :=
  depthAfter?_mono (fun _ _ => rfl) h

theorem IsArgument.append {s t : List Char} (hs : IsArgument s) (ht : IsArgument t) :
    IsArgument (s ++ t) := by
  unfold IsArgument at *
  rw [depthAfter?_append, hs]
  exact ht

theorem isArgument_of_plain {s : List Char} (h : ∀ c ∈ s, c ≠ '<' ∧ c ≠ '>' ∧ c ≠ ',') :
    IsArgument s :=
  depthAfter?_unmarked h 0

/-- Brackets around a balanced text hide its commas. -/
theorem IsBalanced.isArgument_bracket {s : List Char} (h : IsBalanced s) :
    IsArgument ('<' :: (s ++ ['>'])) := by
  have hs : depthAfter? (· ≠ ',') 1 s = some 1 := depthAfter?_succ h
  have hopen : bracketStep (· ≠ ',') 0 '<' = some 1 := rfl
  unfold IsArgument
  rw [depthAfter?_cons, hopen, Option.bind_some, depthAfter?_append, hs]
  rfl

/-- Arguments with commas between are balanced. -/
theorem isBalanced_intercalate {parts : List (List Char)} (h : ∀ p ∈ parts, IsArgument p) :
    IsBalanced ([','].intercalate parts) := by
  induction parts with
  | nil => rfl
  | cons p rest ih =>
    have hp : IsBalanced p := (h p List.mem_cons_self).isBalanced
    have hrest : IsBalanced ([','].intercalate rest) :=
      ih fun q hq => h q (List.mem_cons_of_mem p hq)
    cases rest with
    | nil => rwa [List.intercalate_singleton]
    | cons q rest =>
      unfold IsBalanced at *
      rw [List.intercalate_cons_cons, depthAfter?_append, depthAfter?_append, hp]
      exact hrest

/-! ## The bracket search -/

/-- One step of the bracket search: it ends at the bracket that closes the outer one, and otherwise
counts. -/
theorem beforeClose_cons (depth : Nat) (c : Char) (r : List Char) :
    beforeClose depth (c :: r) =
      if depth = 0 ∧ c = '>' then if r.isEmpty then some [] else none
      else (bracketStep (fun _ => true) depth c).bind fun d => (beforeClose d r).map (c :: ·) := by
  conv => lhs; unfold beforeClose
  unfold bracketStep
  by_cases ho : c = '<'
  · subst ho
    simp
  · by_cases hc : c = '>'
    · subst hc
      cases depth <;> simp
    · simp [ho, hc]

/-- The search finds exactly the text before the last character, which closes the bracket, provided
that this text closes no bracket but its own. -/
theorem beforeClose_eq_some_iff {s inside : List Char} :
    ∀ {depth : Nat}, beforeClose depth s = some inside ↔
      s = inside ++ ['>'] ∧ depthAfter? (fun _ => true) depth inside = some 0 := by
  induction s generalizing inside with
  | nil => intro depth; simp [beforeClose]
  | cons c r ih =>
    intro depth
    rw [beforeClose_cons]
    split
    · rename_i hend
      obtain ⟨rfl, rfl⟩ := hend
      cases inside with
      | nil => cases r <;> simp
      | cons d t =>
        -- A `>` that closes the outer bracket cannot be the first character inside.
        constructor
        · intro h
          split at h <;> simp at h
        · rintro ⟨hs, hd⟩
          obtain ⟨rfl, -⟩ := List.cons.inj hs
          simp [depthAfter?_cons, bracketStep] at hd
    · rename_i hend
      rw [Option.bind_eq_some_iff]
      constructor
      · rintro ⟨mid, hmid, h⟩
        obtain ⟨t, ht, rfl⟩ := Option.map_eq_some_iff.mp h
        obtain ⟨rfl, hd⟩ := ih.mp ht
        exact ⟨rfl, by rw [depthAfter?_cons, hmid]; exact hd⟩
      · rintro ⟨hs, hd⟩
        cases inside with
        | nil =>
          obtain ⟨rfl, -⟩ := List.cons.inj hs
          exact absurd ⟨Option.some.inj hd, rfl⟩ hend
        | cons d t =>
          obtain ⟨rfl, rfl⟩ := List.cons.inj hs
          rw [depthAfter?_cons, Option.bind_eq_some_iff] at hd
          obtain ⟨mid, hmid, hd⟩ := hd
          exact ⟨mid, hmid, Option.map_eq_some_iff.mpr ⟨t, ih.mpr ⟨rfl, hd⟩, rfl⟩⟩

/-! ## The cut at commas -/

/-- One step of the cut: a comma outside all brackets ends a part, and every other character is
counted. -/
theorem cutAtCommas_cons (depth : Nat) (c : Char) (r : List Char) :
    cutAtCommas depth (c :: r) =
      if depth = 0 ∧ c = ',' then (cutAtCommas 0 r).map ([] :: ·)
      else (bracketStep (· ≠ ',') depth c).bind fun d => (cutAtCommas d r).map (consFirst c) := by
  conv => lhs; unfold cutAtCommas
  unfold bracketStep
  by_cases ho : c = '<'
  · subst ho
    simp
  · by_cases hc : c = '>'
    · subst hc
      cases depth <;> simp
    · by_cases hm : c = ','
      · subst hm
        cases depth <;> simp
      · simp [ho, hc, hm]

/-- A text that closes what was open is a part of its own. -/
theorem cutAtCommas_last {p : List Char} :
    ∀ {depth : Nat}, depthAfter? (· ≠ ',') depth p = some 0 →
      cutAtCommas depth p = some [p] := by
  induction p with
  | nil =>
    intro depth h
    obtain rfl : depth = 0 := Option.some.inj h
    rfl
  | cons c r ih =>
    intro depth h
    rw [depthAfter?_cons, Option.bind_eq_some_iff] at h
    obtain ⟨mid, hmid, hr⟩ := h
    rw [cutAtCommas_cons, if_neg, hmid, Option.bind_some, ih hr]
    · rfl
    · rintro ⟨rfl, rfl⟩
      simp [bracketStep] at hmid

/-- A text that closes what was open is the part before the next comma. -/
theorem cutAtCommas_append {p r : List Char} :
    ∀ {depth : Nat}, depthAfter? (· ≠ ',') depth p = some 0 →
      cutAtCommas depth (p ++ ',' :: r) = (cutAtCommas 0 r).map (p :: ·) := by
  induction p with
  | nil =>
    intro depth h
    obtain rfl : depth = 0 := Option.some.inj h
    rw [List.nil_append, cutAtCommas_cons, if_pos ⟨rfl, rfl⟩]
  | cons c q ih =>
    intro depth h
    rw [depthAfter?_cons, Option.bind_eq_some_iff] at h
    obtain ⟨mid, hmid, hq⟩ := h
    rw [List.cons_append, cutAtCommas_cons, if_neg, hmid, Option.bind_some, ih hq, Option.map_map]
    · rfl
    · rintro ⟨rfl, rfl⟩
      simp [bracketStep] at hmid

/-- What the cut yields, joined by commas, is the text, and only the first part may close brackets
from outside. -/
theorem parts_of_cutAtCommas {s : List Char} :
    ∀ {depth : Nat} {parts : List (List Char)}, cutAtCommas depth s = some parts →
      ∃ first rest, parts = first :: rest ∧ s = [','].intercalate (first :: rest) ∧
        depthAfter? (· ≠ ',') depth first = some 0 ∧ ∀ p ∈ rest, IsArgument p := by
  induction s with
  | nil =>
    intro depth parts h
    rw [cutAtCommas] at h
    split at h
    · subst ‹depth = 0›
      obtain rfl := Option.some.inj h
      exact ⟨[], [], rfl, rfl, rfl, by simp⟩
    · exact absurd h (by simp)
  | cons c r ih =>
    intro depth parts h
    rw [cutAtCommas_cons] at h
    split at h
    · rename_i hend
      obtain ⟨rfl, rfl⟩ := hend
      obtain ⟨parts', hparts, rfl⟩ := Option.map_eq_some_iff.mp h
      obtain ⟨first, rest, rfl, rfl, hfirst, hrest⟩ := ih hparts
      refine ⟨[], first :: rest, rfl, ?_, rfl, ?_⟩
      · rw [List.intercalate_cons_cons]
        rfl
      · intro p hp
        rcases List.mem_cons.mp hp with rfl | hp
        · exact hfirst
        · exact hrest p hp
    · rw [Option.bind_eq_some_iff] at h
      obtain ⟨mid, hmid, h⟩ := h
      obtain ⟨parts', hparts, rfl⟩ := Option.map_eq_some_iff.mp h
      obtain ⟨first, rest, rfl, rfl, hfirst, hrest⟩ := ih hparts
      refine ⟨c :: first, rest, rfl, ?_, ?_, hrest⟩
      · rw [List.intercalate_cons_cons_left]
      · rw [depthAfter?_cons, hmid]
        exact hfirst

/-- The cut yields exactly the arguments that commas join to the text. -/
theorem cutAtCommas_eq_some_iff {s : List Char} {parts : List (List Char)} :
    cutAtCommas 0 s = some parts ↔
      parts ≠ [] ∧ s = [','].intercalate parts ∧ ∀ p ∈ parts, IsArgument p := by
  constructor
  · intro h
    obtain ⟨first, rest, rfl, hs, hfirst, hrest⟩ := parts_of_cutAtCommas h
    refine ⟨List.cons_ne_nil _ _, hs, ?_⟩
    intro p hp
    rcases List.mem_cons.mp hp with rfl | hp
    · exact hfirst
    · exact hrest p hp
  · rintro ⟨hne, rfl, hparts⟩
    induction parts with
    | nil => exact absurd rfl hne
    | cons p rest ih =>
      have hp : IsArgument p := hparts p List.mem_cons_self
      cases rest with
      | nil =>
        rw [List.intercalate_singleton]
        exact cutAtCommas_last hp
      | cons q rest =>
        have hrest := ih (List.cons_ne_nil _ _) fun r hr => hparts r (List.mem_cons_of_mem p hr)
        rw [List.intercalate_cons_cons, List.append_assoc, List.singleton_append,
          cutAtCommas_append hp, hrest]
        rfl

end WideColumn.TypeTerm
