import WideColumn.Proofs.ColumnType.Meaning
import WideColumn.Proofs.ColumnType.Shape

/-!
# Reading accepts nothing outside the grammar

Whatever text the reader is given, the type it returns nests at most two families and has no empty
tuple; and where the type has no unknown part, the text is a spelling of it. So a wrong number of
arguments, an empty argument, brackets that do not match, text after the last bracket or a family
that is not listed always leave an unknown behind.

The proof is a strong induction on the length of the text, along the shape that is read from it.
-/

namespace WideColumn.TypeTerm

open Text

/-! ## Leaves -/

theorem Spells.of_trim {s : List Char} {t : ColumnType} (h : Spells (trim s) t) : Spells s t := by
  obtain ⟨b, a, hb, ha, hs⟩ := exists_pad_trim s
  rw [hs]
  exact .padded hb ha h

theorem asciiLower_nativeName (t : NativeType) : asciiLower t.name.toList = t.name.toList := by
  cases t <;> decide

/-- A number that is read from a text was written there in decimal, perhaps after a plus sign. -/
theorem isDimension_of_readBelow? {s : List Char} {m : Nat}
    (h : readBelow? UInt32.size s = some m) : IsDimension s (UInt32.ofNat m) := by
  unfold readBelow? at h
  dsimp only at h
  split at h
  · rename_i hc
    simp only [Bool.and_eq_true, decide_eq_true_eq, isNumeral, Bool.not_eq_true',
      List.isEmpty_eq_false_iff, List.all_eq_true] at hc
    obtain ⟨⟨hne, hdigits⟩, hlt⟩ := hc
    obtain rfl := Option.some.inj h
    refine ⟨dropPlus s, ?_, hne, hdigits, (UInt32.toNat_ofNat_of_lt hlt).symm⟩
    unfold dropPlus
    split
    · exact .inr rfl
    · exact .inl rfl
  · exact absurd h (by simp)

/-- A text with a dimension is that dimension between blanks. -/
theorem exists_isDimension {s : List Char} {n : UInt32} (h : (read s).dimension? = some n) :
    ∃ before dimension after, allBlank before = true ∧ allBlank after = true ∧
      IsDimension dimension n ∧ s = before ++ dimension ++ after := by
  rcases read_cases s with hread | ⟨name, parts, -, -, hread⟩
  · rw [hread, dimension?, String.toList_ofList] at h
    obtain ⟨m, hm, rfl⟩ := Option.map_eq_some_iff.mp h
    obtain ⟨b, a, hb, ha, hs⟩ := exists_pad_trim s
    exact ⟨b, trim s, a, hb, ha, isDimension_of_readBelow? hm, hs⟩
  · rw [hread] at h
    exact absurd h (by simp [dimension?])

/-! ## What a text that is read satisfies -/

/-- The type that is read from `s` inside `depth` families. -/
structure Sound (depth : Nat) (s : List Char) (t : ColumnType) : Prop where
  nesting : depth + t.nesting ≤ maxNesting
  tuples : t.hasEmptyTuple = false
  spells : t.containsUnknown = false → Spells s t

theorem Sound.unknown {depth : Nat} (h : depth ≤ maxNesting) (s : List Char) :
    Sound depth s .unknown where
  nesting := h
  tuples := rfl
  spells := fun hu => absurd hu (by simp [ColumnType.containsUnknown])

theorem Sound.of_trim {depth : Nat} {s : List Char} {t : ColumnType}
    (h : Sound depth (trim s) t) : Sound depth s t where
  nesting := h.nesting
  tuples := h.tuples
  spells := fun hu => (h.spells hu).of_trim

/-- The types that are read from several texts. -/
structure SoundAll (depth : Nat) (parts : List (List Char)) (ts : List ColumnType) : Prop where
  nesting : depth + ColumnType.nestingOfAll ts ≤ maxNesting
  tuples : ColumnType.anyHasEmptyTuple ts = false
  spells : ColumnType.anyContainsUnknown ts = false → SpellsAll parts ts

theorem soundAll_of_columns? {depth : Nat} (hdepth : depth ≤ maxNesting)
    {parts : List (List Char)} {ts : List ColumnType}
    (hparts : ∀ p ∈ parts, ∀ t, column? depth (read p) = some t → Sound depth p t)
    (h : columns? depth (parts.map read) = some ts) : SoundAll depth parts ts := by
  induction parts generalizing ts with
  | nil =>
    obtain rfl := Option.some.inj h
    exact ⟨hdepth, rfl, fun _ => .nil⟩
  | cons p rest ih =>
    rw [List.map_cons, columns?_cons, Option.bind_eq_some_iff] at h
    obtain ⟨t, ht, h⟩ := h
    obtain ⟨us, hus, rfl⟩ := Option.map_eq_some_iff.mp h
    have hfirst := hparts p List.mem_cons_self t ht
    have hrest := ih (fun q hq => hparts q (List.mem_cons_of_mem p hq)) hus
    refine ⟨?_, ?_, ?_⟩
    · have hn := hfirst.nesting
      have hm := hrest.nesting
      rw [ColumnType.nestingOfAll]
      omega
    · rw [ColumnType.anyHasEmptyTuple, hfirst.tuples, hrest.tuples]
      rfl
    · intro hu
      rw [ColumnType.anyContainsUnknown, Bool.or_eq_false_iff] at hu
      exact .cons (hfirst.spells hu.1) (hrest.spells hu.2)

/-! ## The induction on the length of the text -/

theorem length_le_intercalate {parts : List (List Char)} {p : List Char} (hp : p ∈ parts) :
    p.length ≤ ([','].intercalate parts).length := by
  induction parts with
  | nil => exact absurd hp List.not_mem_nil
  | cons q rest ih =>
    cases rest with
    | nil =>
      obtain rfl := List.mem_singleton.mp hp
      rw [List.intercalate_singleton]
    | cons r rest =>
      rw [List.intercalate_cons_cons, List.length_append, List.length_append]
      rcases List.mem_cons.mp hp with rfl | hp
      · omega
      · have := ih hp
        omega

theorem length_lt_applied (name : List Char) {parts : List (List Char)} {p : List Char}
    (hp : p ∈ parts) : p.length < (applied name parts).length := by
  have := length_le_intercalate hp
  simp only [applied, List.length_append, List.length_cons, List.length_nil]
  omega

theorem sound_word {depth : Nat} (hdepth : depth ≤ maxNesting) {s : List Char} {t : ColumnType}
    (h : column? depth (word (String.ofList s)) = some t) : Sound depth s t := by
  rw [column?] at h
  split at h
  · rename_i native hname
    obtain rfl := Option.some.inj h
    have hs : s = native.name.toList := by
      rw [NativeType.name_of_ofName?_eq_some hname, String.toList_ofList]
    exact ⟨hdepth, rfl, fun _ => .native (by rw [hs, asciiLower_nativeName])⟩
  · obtain rfl := Option.some.inj h
    exact .unknown hdepth s

theorem exists_pair_of_map {α β : Type} {f : α → β} {l : List α} {a b : β}
    (h : l.map f = [a, b]) : ∃ p q, l = [p, q] ∧ f p = a ∧ f q = b := by
  obtain ⟨p, rest, rfl, rfl, hrest⟩ := List.map_eq_cons_iff.mp h
  obtain ⟨q, rfl, rfl⟩ := List.map_eq_singleton_iff.mp hrest
  exact ⟨p, q, rfl, rfl, rfl⟩

/-- A family is sound when its parts are. -/
theorem sound_family {depth : Nat} (hdepth : depth ≤ maxNesting) {name : List Char}
    {parts : List (List Char)} {t : ColumnType} (hne : parts ≠ [])
    (hparts : ∀ p ∈ parts, ∀ {d : Nat} {u : ColumnType}, d ≤ maxNesting →
      column? d (read p) = some u → Sound d p u)
    (h : FamilyMeaning depth (String.ofList name) (parts.map read) t) :
    Sound depth (applied name parts) t := by
  -- The name of a family that has a meaning is written in small letters already.
  have hfold : ∀ {w : String}, String.ofList name = w → asciiLower w.toList = w.toList →
      asciiLower name = w.toList := by
    intro w hw hlower
    rw [← hlower, ← hw, String.toList_ofList]
  generalize hn : String.ofList name = n at h
  generalize ha : parts.map read = arguments at h
  cases h with
  | unknown => exact .unknown hdepth _
  | frozen hread =>
    obtain ⟨p, rfl, rfl⟩ := List.map_eq_singleton_iff.mp ha
    have hp := hparts p List.mem_cons_self hdepth hread
    exact ⟨hp.nesting, hp.tuples, fun hu => .frozen (hfold hn (by decide)) (hp.spells hu)⟩
  | list hlt hread =>
    obtain ⟨p, rfl, rfl⟩ := List.map_eq_singleton_iff.mp ha
    have hp := hparts p List.mem_cons_self hlt hread
    have hnest := hp.nesting
    exact ⟨by rw [ColumnType.nesting]; omega, hp.tuples,
      fun hu => .list (hfold hn (by decide)) (hp.spells hu)⟩
  | set hlt hread =>
    obtain ⟨p, rfl, rfl⟩ := List.map_eq_singleton_iff.mp ha
    have hp := hparts p List.mem_cons_self hlt hread
    have hnest := hp.nesting
    exact ⟨by rw [ColumnType.nesting]; omega, hp.tuples,
      fun hu => .set (hfold hn (by decide)) (hp.spells hu)⟩
  | map hlt hkey hvalue =>
    obtain ⟨p, q, rfl, rfl, rfl⟩ := exists_pair_of_map ha
    have hp := hparts p List.mem_cons_self hlt hkey
    have hq := hparts q (List.mem_cons_of_mem p List.mem_cons_self) hlt hvalue
    refine ⟨?_, ?_, ?_⟩
    · have hpn := hp.nesting
      have hqn := hq.nesting
      rw [ColumnType.nesting]
      omega
    · rw [ColumnType.hasEmptyTuple, hp.tuples, hq.tuples]
      rfl
    · intro hu
      rw [ColumnType.containsUnknown, Bool.or_eq_false_iff] at hu
      exact .map (hfold hn (by decide)) (hp.spells hu.1) (hq.spells hu.2)
  | tuple hlt hreads =>
    rw [← ha] at hreads
    have hall := soundAll_of_columns? hlt (fun p hp t ht => hparts p hp hlt ht) hreads
    refine ⟨?_, ?_, ?_⟩
    · have hnest := hall.nesting
      rw [ColumnType.nesting]
      omega
    · -- There is a part, so there is a component.
      rw [ColumnType.hasEmptyTuple, hall.tuples, Bool.or_false]
      obtain ⟨p, rest, rfl⟩ := List.exists_cons_of_ne_nil hne
      rw [List.map_cons, columns?_cons, Option.bind_eq_some_iff] at hreads
      obtain ⟨c, -, hreads⟩ := hreads
      obtain ⟨cs, -, rfl⟩ := Option.map_eq_some_iff.mp hreads
      rfl
    · intro hu
      exact .tuple (hfold hn (by decide)) hne (hall.spells hu)
  | vector hlt hread hdim =>
    obtain ⟨p, q, rfl, rfl, rfl⟩ := exists_pair_of_map ha
    obtain ⟨before, dimension, after, hb, haf, hd, rfl⟩ := exists_isDimension hdim
    have hp := hparts p List.mem_cons_self hlt hread
    have hnest := hp.nesting
    exact ⟨by rw [ColumnType.nesting]; omega, hp.tuples,
      fun hu => .vector (hfold hn (by decide)) (hp.spells hu) hb haf hd⟩

/-- Every type that is read from a text is sound, inside any number of families that may nest. -/
theorem sound_of_column? (s : List Char) :
    ∀ {depth : Nat} {t : ColumnType}, depth ≤ maxNesting → column? depth (read s) = some t →
      Sound depth s t := by
  induction hlen : s.length using Nat.strong_induction_on generalizing s with
  | _ n ih =>
    intro depth t hdepth h
    -- What is read is the text between the blanks, and its parts are shorter than the whole.
    refine Sound.of_trim ?_
    rcases read_cases s with hread | ⟨name, parts, hfamily, htrim, hread⟩
    · rw [hread] at h
      exact sound_word hdepth h
    · rw [hread] at h
      rw [htrim]
      refine sound_family hdepth hfamily.parts_ne_nil ?_ (familyMeaning_of_column? h)
      intro p hp d u hd hu
      have hlt : p.length < n := by
        have hshort := length_lt_applied name hp
        have htrimmed := length_trim_le s
        rw [htrim] at htrimmed
        omega
      exact ih p.length hlt p rfl hd hu

/-! ## All texts -/

/-- Reading accepts nothing outside the grammar. -/
theorem parse_sound (raw : String) :
    (ColumnType.parse raw).nesting ≤ 2 ∧ (ColumnType.parse raw).hasEmptyTuple = false ∧
      ((ColumnType.parse raw).containsUnknown = false →
        Spells raw.toList (ColumnType.parse raw)) := by
  have hsound : Sound 0 (asciiLower raw.toList) (ColumnType.parse raw) := by
    unfold ColumnType.parse
    cases h : column? 0 (read (asciiLower raw.toList)) with
    | none => exact .unknown (Nat.zero_le _) _
    | some t => exact sound_of_column? _ (Nat.zero_le _) h
  refine ⟨?_, hsound.tuples, fun hu => (hsound.spells hu).of_asciiLower rfl⟩
  have hnest := hsound.nesting
  rwa [Nat.zero_add] at hnest

end WideColumn.TypeTerm
