import Mathlib.Logic.Relation
import WideColumn.Proofs.TargetType.Text

/-!
# Where a type is unknown

A column type is unknown somewhere when it leads to `unknown` through its arguments, and so is a
target. On the way from a column type to its target two kinds of arguments are lost: the key of a
map becomes the domain of property names, and a vector is an array of numbers whatever its elements
are. So the target is unknown somewhere just when the column type leads to `unknown` through other
arguments than these.

Main definitions: `Leads`, `ColumnType.arguments`, `ColumnType.shownArguments`,
`TargetType.arguments`.

* `ColumnType.containsUnknown_iff`: the test for unknown types follows all arguments.
* `ColumnType.target_leads_iff`: the target follows those that it shows.
* `TargetType.isInfix_unknown_iff`: the text of a target has the word `unknown` just when the target
  has the type.
-/

namespace WideColumn

/-! ## Arguments -/

/-- The second type is the first one, or one of its arguments at any depth. -/
def Leads {α : Type} (arguments : α → List α) : α → α → Prop :=
  Relation.ReflTransGen fun t u => u ∈ arguments t

theorem leads_iff {α : Type} {arguments : α → List α} {t goal : α} :
    Leads arguments t goal ↔ t = goal ∨ ∃ u ∈ arguments t, Leads arguments u goal :=
  Relation.ReflTransGen.cases_head_iff

theorem Leads.mono {α : Type} {shown arguments : α → List α} (h : ∀ t, shown t ⊆ arguments t)
    {t goal : α} (hleads : Leads shown t goal) : Leads arguments t goal :=
  Relation.ReflTransGen.mono (fun t _ hu => h t hu) _ _ hleads

namespace ColumnType

/-- The arguments of a type. -/
def arguments : ColumnType → List ColumnType
  | native _ | unknown => []
  | list element | set element | vector element _ => [element]
  | map key value => [key, value]
  | tuple components => components

/-- The arguments of a type but for the key of a map and the element of a vector. -/
def shownArguments : ColumnType → List ColumnType
  | native _ | unknown | vector _ _ => []
  | list element | set element => [element]
  | map _ value => [value]
  | tuple components => components

theorem shownArguments_subset (t : ColumnType) : t.shownArguments ⊆ t.arguments := by
  cases t <;> simp [shownArguments, arguments]

/-- What every type has if its arguments have it, all types have. -/
@[elab_as_elim]
theorem argumentInduction {P : ColumnType → Prop} (t : ColumnType)
    (step : ∀ t : ColumnType, (∀ u ∈ t.arguments, P u) → P t) : P t := by
  induction t using ColumnType.rec (motive_2 := fun ts => ∀ t ∈ ts, P t) with
  | native _ | unknown => exact step _ (by simp [arguments])
  | list t ih | set t ih | vector t _ ih => exact step _ (by simpa [arguments] using ih)
  | map key value ihKey ihValue => exact step _ (by simpa [arguments] using ⟨ihKey, ihValue⟩)
  | tuple ts ih => exact step _ ih
  | nil t ht => exact absurd ht List.not_mem_nil
  | cons t ts ih ihs u hu =>
    rcases List.mem_cons.mp hu with rfl | hu
    · exact ih
    · exact ihs u hu

/-- A type contains an unknown one just when it leads there. -/
theorem containsUnknown_iff (t : ColumnType) :
    t.containsUnknown = true ↔ Leads arguments t .unknown := by
  induction t using argumentInduction with
  | step t ih =>
    rw [leads_iff]
    cases t with
    | native type => simp [containsUnknown, arguments]
    | list element | set element | vector element dimension =>
      have helement := ih element (by simp [arguments])
      simp [containsUnknown, arguments, helement]
    | map key value =>
      have hkey := ih key (by simp [arguments])
      have hvalue := ih value (by simp [arguments])
      simp [containsUnknown, arguments, hkey, hvalue]
    | tuple components =>
      rw [containsUnknown, anyContainsUnknown_eq_any, List.any_eq_true]
      simp only [arguments, reduceCtorEq, false_or]
      exact exists_congr fun u => and_congr_right fun hu => ih u hu
    | unknown => simp [containsUnknown]

end ColumnType

/-! ## Targets -/

namespace TargetType

/-- The types that are written inside a target. -/
def arguments : TargetType → List TargetType
  | array element => [element]
  | record key value => [key, value]
  | tuple components => components
  | string | number | boolean | buffer | date | unknown => []

theorem keyDomain_leads_unknown (t : TargetType) : ¬ Leads arguments t.keyDomain .unknown := by
  cases t <;> simp [keyDomain, leads_iff (t := string), leads_iff (t := number), arguments]

end TargetType

/-- The target is unknown somewhere just when the column type leads to `unknown` through arguments
that are shown. -/
theorem ColumnType.target_leads_iff (t : ColumnType) :
    Leads TargetType.arguments t.target .unknown ↔ Leads shownArguments t .unknown := by
  induction t using argumentInduction with
  | step t ih =>
    rw [leads_iff, @leads_iff _ shownArguments]
    cases t with
    | native type =>
      cases type <;> simp [target, NativeType.target, TargetType.arguments, shownArguments]
    | list element | set element =>
      have helement := ih element (by simp [arguments])
      simp [target, TargetType.arguments, shownArguments, helement]
    | map key value =>
      have hvalue := ih value (by simp [arguments])
      have hkey := TargetType.keyDomain_leads_unknown key.target
      simp [target, TargetType.arguments, shownArguments, hvalue, hkey]
    | tuple components =>
      simp only [target, targets_eq_map, TargetType.arguments, shownArguments, reduceCtorEq,
        false_or, List.mem_map, exists_exists_and_eq_and]
      exact exists_congr fun u => and_congr_right fun hu => ih u hu
    | vector element dimension =>
      simp [target, TargetType.arguments, shownArguments, leads_iff (t := TargetType.number)]
    | unknown => simp [target]

/-! ## Texts -/

namespace TargetType

open Text

@[elab_as_elim]
theorem argumentInduction {P : TargetType → Prop} (t : TargetType)
    (step : ∀ t : TargetType, (∀ u ∈ t.arguments, P u) → P t) : P t := by
  induction t using TargetType.rec (motive_2 := fun ts => ∀ t ∈ ts, P t) with
  | string | number | boolean | buffer | date | unknown => exact step _ (by simp [arguments])
  | array t ih => exact step _ (by simpa [arguments] using ih)
  | record key value ihKey ihValue => exact step _ (by simpa [arguments] using ⟨ihKey, ihValue⟩)
  | tuple ts ih => exact step _ ih
  | nil t ht => exact absurd ht List.not_mem_nil
  | cons t ts ih ihs u hu =>
    rcases List.mem_cons.mp hu with rfl | hu
    · exact ih
    · exact ihs u hu

theorem isInfix_commaSeparated {t : TargetType} {ts : List TargetType} (h : t ∈ ts) :
    t.chars <:+: commaSeparated ts := by
  induction ts with
  | nil => exact absurd h List.not_mem_nil
  | cons u ts ih =>
    rw [commaSeparated_cons]
    rcases List.mem_cons.mp h with rfl | h
    · exact (List.prefix_append _ _).isInfix
    · cases ts with
      | nil => exact absurd h List.not_mem_nil
      | cons v ts =>
        have hrest := andListed_cons_append v ts []
        rw [List.append_nil, List.append_nil] at hrest
        rw [hrest, List.append_cons, List.append_cons]
        exact (ih h).trans (List.suffix_append _ _).isInfix

/-- An argument is written inside its type. -/
theorem isInfix_of_mem_arguments {t u : TargetType} (h : u ∈ t.arguments) :
    u.chars <:+: t.chars := by
  cases t with
  | array element =>
    obtain rfl := List.mem_singleton.mp h
    exact (List.prefix_append _ _).isInfix
  | record key value =>
    have htext : (record key value).chars =
      "Record<".toList ++ key.chars ++ [',', ' '] ++ value.chars ++ ['>'] := rfl
    rcases List.mem_pair.mp h with rfl | rfl
    · refine ⟨"Record<".toList, [',', ' '] ++ value.chars ++ ['>'], ?_⟩
      rw [htext]
      simp only [List.append_assoc]
    · exact ⟨_, _, htext.symm⟩
  | tuple components =>
    have htext : (tuple components).chars = ['['] ++ commaSeparated components ++ [']'] := rfl
    rw [htext]
    exact (isInfix_commaSeparated h).trans (List.infix_append _ _ _)
  | string | number | boolean | buffer | date | unknown => exact absurd h List.not_mem_nil

theorem isInfix_of_leads {t u : TargetType} (h : Leads arguments t u) : u.chars <:+: t.chars := by
  induction h with
  | refl => exact List.infix_rfl
  | tail _ hu ih => exact (isInfix_of_mem_arguments hu).trans ih

theorem mem_commaSeparated_iff {c : Char} (h : c ∉ [',', ' ']) (ts : List TargetType) :
    c ∈ commaSeparated ts ↔ ∃ t ∈ ts, c ∈ t.chars := by
  cases ts with
  | nil => simp [commaSeparated]
  | cons t ts =>
    simp only [List.mem_cons, List.not_mem_nil, or_false, not_or] at h
    rw [commaSeparated_cons, andListed]
    simp [h]

/-- No word that targets are written with has this letter but `unknown`. -/
theorem mem_chars_iff (t : TargetType) : 'k' ∈ t.chars ↔ Leads arguments t .unknown := by
  induction t using argumentInduction with
  | step t ih =>
    rw [leads_iff]
    cases t with
    | string | number | boolean | buffer | date =>
      refine iff_of_false (by decide) ?_
      simp [arguments]
    | unknown => exact iff_of_true (by decide) (.inl rfl)
    | array element =>
      have htext : (array element).chars = element.chars ++ ['[', ']'] := rfl
      have helement := ih element (by simp [arguments])
      rw [htext, List.mem_append, helement]
      simp [arguments]
    | record key value =>
      have htext : (record key value).chars =
        ['R', 'e', 'c', 'o', 'r', 'd', '<'] ++ key.chars ++ [',', ' '] ++ value.chars ++ ['>'] :=
        rfl
      have hkey := ih key (by simp [arguments])
      have hvalue := ih value (by simp [arguments])
      simp only [htext, List.mem_append, hkey, hvalue]
      simp [arguments]
    | tuple components =>
      have htext : (tuple components).chars = ['['] ++ commaSeparated components ++ [']'] := rfl
      have hcomponents : (∃ t ∈ components, 'k' ∈ t.chars) ↔
          ∃ u ∈ components, Leads arguments u .unknown :=
        exists_congr fun u => and_congr_right fun hu => ih u hu
      rw [htext, List.mem_append, List.mem_append, mem_commaSeparated_iff (by decide), hcomponents]
      simp [arguments]

/-- The word stands in the text of a target just when the target is unknown somewhere. -/
theorem isInfix_unknown_iff (t : TargetType) :
    "unknown".toList <:+: t.chars ↔ Leads arguments t .unknown := by
  constructor
  · intro h
    exact (mem_chars_iff t).mp (h.subset (by decide))
  · exact isInfix_of_leads

end TargetType

end WideColumn
