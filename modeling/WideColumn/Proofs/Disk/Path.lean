import WideColumn.Disk.Path
import WideColumn.Proofs.Text.Split

/-!
# Paths and the names in them

Joining a name to a directory adds one name to the directory's and changes nothing else, and the
path of some components has these components for its names. `ofComponents_sublist` bounds a path
that is put together again by the path that its components come from, so the system does not refuse
it.
-/

namespace WideColumn

open Text

theorem utf8ByteSize_le_of_sublist {s t : List Char} (h : s.Sublist t) :
    (String.ofList s).utf8ByteSize ≤ (String.ofList t).utf8ByteSize := by
  induction h with
  | slnil => exact Nat.le_refl _
  | cons c h ih =>
    rw [String.ofList_cons, String.utf8ByteSize_append]
    omega
  | cons_cons c h ih =>
    rw [String.ofList_cons, String.ofList_cons, String.utf8ByteSize_append,
      String.utf8ByteSize_append]
    omega

namespace Path

/-! ## Names -/

/-- A text that can stand between slashes. -/
def IsName (name : String) : Prop := name ≠ "" ∧ '/' ∉ name.toList

theorem names_nil : names [] = [] := rfl

theorem names_append_slash (s t : List Char) : names (s ++ '/' :: t) = names s ++ names t := by
  unfold names
  rw [splitAt_eq_splitOn, splitAt_eq_splitOn, splitAt_eq_splitOn, List.splitOn_append_cons_self,
    List.filter_append, List.map_append]

theorem names_toList {name : String} (h : IsName name) : names name.toList = [name] := by
  unfold names
  rw [splitAt_eq_splitOn, List.splitOn_eq_singleton h.2]
  have : name.toList ≠ [] := fun e => h.1 (String.toList_inj.1 (e.trans String.toList_empty.symm))
  simp [this]

theorem isName_of_mem_names {s : List Char} {name : String} (h : name ∈ names s) :
    IsName name := by
  obtain ⟨part, hp, rfl⟩ := List.mem_map.1 h
  obtain ⟨hp, hne⟩ := List.mem_filter.1 hp
  refine ⟨fun e => ?_, by simpa using not_mem_of_mem_splitAt hp⟩
  have : part = [] := by simpa using congrArg String.toList e
  simp [this] at hne

/-! ## Joining -/

theorem toList_join (dir : String) {name : String} (h : IsName name) :
    (join dir name).toList = dir.toList ++ name.toList ∧
        (dir = "" ∨ ∃ s, dir.toList = s ++ ['/']) ∨
      (join dir name).toList = dir.toList ++ '/' :: name.toList ∧ dir ≠ "" := by
  have relative : isAbsolute name.toList = false := by
    cases hn : name.toList with
    | nil => rfl
    | cons c r =>
      have : c ≠ '/' := fun e => h.2 (by simp [hn, e])
      simp [isAbsolute, this]
  unfold join joinChars
  rw [relative, String.toList_ofList]
  by_cases hd : dir.toList.isEmpty || dir.toList.getLast? == some '/'
  · left
    simp only [Bool.false_eq_true, if_false, hd, if_true, true_and]
    rcases Bool.or_eq_true _ _ ▸ hd with hd | hd
    · exact .inl (by simpa using hd)
    · exact .inr (List.getLast?_eq_some_iff.1 (by simpa using hd))
  · right
    simp only [Bool.false_eq_true, if_false, hd]
    refine ⟨by simp, fun e => hd ?_⟩
    simp [e]

theorem prefix_join (dir : String) {name : String} (h : IsName name) :
    dir.toList <+: (join dir name).toList := by
  rcases toList_join dir h with ⟨e, -⟩ | ⟨e, -⟩
  · exact e ▸ List.prefix_append _ _
  · exact e ▸ List.prefix_append _ _

theorem names_join (dir : String) {name : String} (h : IsName name) :
    names (join dir name).toList = names dir.toList ++ [name] := by
  rcases toList_join dir h with ⟨e, rfl | ⟨s, hs⟩⟩ | ⟨e, -⟩
  · rw [e]
    simpa [names_nil] using names_toList h
  · rw [e, hs, List.append_assoc, List.singleton_append, names_append_slash, names_append_slash,
      names_toList h, names_nil, List.append_nil]
  · rw [e, names_append_slash, names_toList h]

theorem isAbsolute_join (dir : String) {name : String} (h : IsName name) :
    isAbsolute (join dir name).toList = isAbsolute dir.toList := by
  unfold isAbsolute
  rcases toList_join dir h with ⟨e, rfl | ⟨s, hs⟩⟩ | ⟨e, hd⟩
  · rw [e]
    cases hn : name.toList with
    | nil => rfl
    | cons c r =>
      have : c ≠ '/' := fun e => h.2 (by simp [hn, e])
      simp [this]
  · rw [e, hs]
    cases s <;> simp
  · rw [e]
    cases hdir : dir.toList with
    | nil => exact absurd (by simpa using hdir) hd
    | cons c r => simp

theorem getLast?_join (dir : String) {name : String} (h : IsName name) :
    (join dir name).toList.getLast? ≠ some '/' := by
  have hn : name.toList ≠ [] := fun e => h.1 (by simpa using e)
  have last : name.toList.getLast hn ≠ '/' := fun e => h.2 (e ▸ List.getLast_mem hn)
  rcases toList_join dir h with ⟨e, -⟩ | ⟨e, -⟩
  · simp [e, List.getLast?_append, List.getLast?_eq_some_getLast hn, last]
  · simp [e, List.getLast?_append, List.getLast?_cons_of_ne_nil hn,
      List.getLast?_eq_some_getLast hn, last]

/-! ## Components -/

/-- The names without the dots that stay, but for one in front of a relative path. -/
def withoutDots (isAbsolute : Bool) : List String → List String
  | [] => []
  | first :: rest =>
    if first = "." && !isAbsolute then first :: rest.filter (· ≠ ".")
    else (first :: rest).filter (· ≠ ".")

theorem components_eq (path : String) :
    components path = withoutDots (isAbsolute path.toList) (names path.toList) := by
  unfold components
  dsimp only
  cases names path.toList <;> rfl

theorem withoutDots_sublist (isAbsolute : Bool) (ns : List String) :
    (withoutDots isAbsolute ns).Sublist ns := by
  cases ns with
  | nil => exact List.Sublist.refl _
  | cons first rest =>
    rw [withoutDots]
    split
    · exact List.filter_sublist.cons_cons first
    · exact List.filter_sublist

theorem withoutDots_concat (isAbsolute : Bool) (ns : List String) {name : String}
    (h : name ≠ ".") :
    withoutDots isAbsolute (ns ++ [name]) = withoutDots isAbsolute ns ++ [name] := by
  cases ns with
  | nil => simp [withoutDots, h]
  | cons first rest =>
    by_cases hf : first = "." && !isAbsolute
    · simp [withoutDots, hf, h]
    · simp [withoutDots, hf, h, List.filter_cons]
      split <;> simp

theorem dropLast_withoutDots (isAbsolute : Bool) (ns : List String) (name : String) :
    (withoutDots isAbsolute (ns ++ [name])).dropLast <+: withoutDots isAbsolute ns := by
  by_cases h : name = "."
  · subst h
    cases ns with
    | nil => cases isAbsolute <;> simp [withoutDots]
    | cons first rest =>
      have : withoutDots isAbsolute (first :: rest ++ ["."]) =
          withoutDots isAbsolute (first :: rest) := by
        simp [withoutDots, List.filter_cons]
      rw [this]
      exact List.dropLast_prefix _
  · simp [withoutDots_concat isAbsolute ns h]

theorem toList_ofComponents (isAbsolute : Bool) (cs : List String) :
    (ofComponents isAbsolute cs).toList =
      (if isAbsolute then ['/'] else []) ++ ['/'].intercalate (cs.map String.toList) := by
  unfold ofComponents
  rw [String.toList_append, String.toList_intercalate]
  cases isAbsolute <;> rfl

theorem names_intercalate {cs : List String} (h : ∀ c ∈ cs, IsName c) :
    names (['/'].intercalate (cs.map String.toList)) = cs := by
  cases cs with
  | nil => rfl
  | cons c r =>
    have slashless : ∀ part ∈ (c :: r).map String.toList, '/' ∉ part := by
      intro part hp
      obtain ⟨name, hn, rfl⟩ := List.mem_map.1 hp
      exact (h name hn).2
    have nonempty : ∀ part ∈ (c :: r).map String.toList, (!part.isEmpty) = true := by
      intro part hp
      obtain ⟨name, hn, rfl⟩ := List.mem_map.1 hp
      simpa using (h name hn).1
    unfold names
    rw [splitAt_eq_splitOn, List.splitOn_intercalate '/' slashless (by simp),
      List.filter_eq_self.2 nonempty, List.map_map]
    simp

theorem names_ofComponents (isAbsolute : Bool) {cs : List String} (h : ∀ c ∈ cs, IsName c) :
    names (ofComponents isAbsolute cs).toList = cs := by
  rw [toList_ofComponents]
  cases isAbsolute with
  | false => exact names_intercalate h
  | true =>
    rw [if_pos rfl, List.singleton_append, ← List.nil_append ('/' :: _), names_append_slash,
      names_nil, List.nil_append]
    exact names_intercalate h

theorem isAbsolute_ofComponents (isAbsolute : Bool) {cs : List String}
    (h : ∀ c ∈ cs, IsName c) (hcs : cs ≠ []) :
    Path.isAbsolute (ofComponents isAbsolute cs).toList = isAbsolute := by
  rw [toList_ofComponents]
  cases isAbsolute with
  | true => rfl
  | false =>
    cases cs with
    | nil => exact absurd rfl hcs
    | cons c r =>
      obtain ⟨hne, hs⟩ := h c List.mem_cons_self
      cases hc : c.toList with
      | nil => exact absurd (by simpa using hc) hne
      | cons d t =>
        have hd : d ≠ '/' := fun e => hs (by simp [hc, e])
        cases r <;> simp [hc, Path.isAbsolute, hd]

/-- A path that is put together again from names of a path is no longer than that path. -/
theorem ofComponents_sublist {path : String} {cs : List String}
    (h : cs.Sublist (names path.toList)) :
    (ofComponents (isAbsolute path.toList) cs).toList.Sublist path.toList := by
  have shorter : ∀ s : List Char, cs.Sublist (names s) →
      (['/'].intercalate (cs.map String.toList)).Sublist s := by
    intro s hs
    have parts : (names s).map String.toList = (splitAt '/' s).filter (!·.isEmpty) := by
      simp [names, List.map_map, Function.comp_def]
    have := (hs.map String.toList).trans (parts ▸ List.filter_sublist)
    exact intercalate_splitAt '/' s ▸ intercalate_sublist ['/'] this
  rw [toList_ofComponents]
  cases hs : path.toList with
  | nil => exact shorter [] (hs ▸ h)
  | cons c r =>
    rw [hs] at h
    by_cases hc : c = '/'
    · subst hc
      rw [← List.nil_append ('/' :: r), names_append_slash, names_nil, List.nil_append] at h
      exact (shorter r h).cons_cons '/'
    · rw [show isAbsolute (c :: r) = false by simp [isAbsolute, hc]]
      exact shorter (c :: r) h

/-! ## Routes -/

theorem route?_eq {path : String} {route : Route} (h : route? path = .ok route) :
    route = ⟨isAbsolute path.toList, names path.toList, path.toList.getLast? == some '/'⟩ := by
  unfold route? at h
  dsimp only at h
  split at h
  · cases h
  · split at h
    · cases h
    · split at h
      · cases h
      · exact (Except.ok.inj h).symm

/-- The system takes a path that is a part of a path it takes. -/
theorem route?_of_sublist {path part : String} {route : Route} (h : route? path = .ok route)
    (hs : part.toList.Sublist path.toList) (hne : part ≠ "") :
    route? part = .ok
      ⟨isAbsolute part.toList, names part.toList, part.toList.getLast? == some '/'⟩ := by
  have size := utf8ByteSize_le_of_sublist hs
  rw [String.ofList_toList, String.ofList_toList] at size
  unfold route? at h ⊢
  dsimp only at h ⊢
  split at h
  · cases h
  case isFalse noNul =>
    split at h
    · cases h
    · split at h
      · cases h
      case isFalse short =>
        rw [if_neg, if_neg, if_neg]
        · omega
        · simpa using hne
        · intro hc
          rw [List.contains_iff_mem] at hc noNul
          exact noNul (hs.subset hc)

end Path

end WideColumn
