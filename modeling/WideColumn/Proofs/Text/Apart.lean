import Mathlib.Data.List.Basic

/-!
# Telling texts apart

A text that is put together from parts can be taken apart again if of each part it can be told where
it ends. For one part that is `TellsApart`: when two texts of a kind are followed by something and
the wholes agree, then what was written agrees, and so does what follows. Lists inherit it from
their items, be they one after another or with something between, if no item begins like the end of
the list.
-/

namespace WideColumn.Text

variable {α β : Type}

/-- Two texts of `write` that are followed by what may follow them are the same only if the same is
`shown` in both, and the same follows. -/
def TellsApart (follows : List Char → Prop) (write : α → List Char) (shown : α → β) : Prop :=
  ∀ ⦃a b : α⦄ ⦃x y : List Char⦄, follows x → follows y → write a ++ x = write b ++ y →
    shown a = shown b ∧ x = y

/-- Texts without a mark are told apart by the mark behind them. -/
theorem marked_apart {mark : Char} {a b x y : List Char} (ha : mark ∉ a) (hb : mark ∉ b)
    (h : a ++ mark :: x = b ++ mark :: y) : a = b ∧ x = y := by
  induction a generalizing b with
  | nil =>
    cases b with
    | nil => exact ⟨rfl, (List.cons.inj h).2⟩
    | cons d b => exact absurd (List.cons.inj h).1 (List.ne_of_not_mem_cons hb)
  | cons c a ih =>
    cases b with
    | nil => exact absurd (List.cons.inj h).1.symm (List.ne_of_not_mem_cons ha)
    | cons d b =>
      obtain ⟨hcd, hrest⟩ := List.cons.inj h
      obtain ⟨hab, hxy⟩ :=
        ih (List.not_mem_of_not_mem_cons ha) (List.not_mem_of_not_mem_cons hb) hrest
      exact ⟨by rw [hcd, hab], hxy⟩

/-! ## Lists of texts -/

theorem intercalate_cons_flatMap (sep item : List Char) (rest : List (List Char)) :
    sep.intercalate (item :: rest) = item ++ rest.flatMap (sep ++ ·) := by
  induction rest generalizing item with
  | nil => simp
  | cons next rest ih => simp [List.intercalate_cons_cons, ih]

/-- Items with a comma and a space between neighbours. -/
def listed (items : List (List Char)) : List Char := [',', ' '].intercalate items

/-- Items with a comma and a space in front of each. -/
def andListed (items : List (List Char)) : List Char := items.flatMap ([',', ' '] ++ ·)

@[simp] theorem listed_nil : listed [] = [] := rfl

@[simp] theorem andListed_nil : andListed [] = [] := rfl

@[simp] theorem andListed_cons (item : List Char) (rest : List (List Char)) :
    andListed (item :: rest) = ',' :: ' ' :: (item ++ andListed rest) := rfl

theorem listed_cons (item : List Char) (rest : List (List Char)) :
    listed (item :: rest) = item ++ andListed rest :=
  intercalate_cons_flatMap _ item rest

namespace TellsApart

variable {follows : List Char → Prop} {write : α → List Char} {shown : α → β}

/-- A text in front of each item changes nothing. -/
theorem behind (item : TellsApart follows write shown) (front : List Char) :
    TellsApart follows (fun a => front ++ write a) shown := by
  intro a b x y hx hy h
  dsimp only at h
  rw [List.append_assoc, List.append_assoc] at h
  exact item hx hy (List.append_cancel_left h)

/-- Lists can be told apart if their items can, and if no item begins like what ends a list. -/
theorem flatMap (item : TellsApart follows write shown) (ends : List Char → Prop)
    (next : ∀ a x, follows (write a ++ x)) (last : ∀ x, ends x → follows x)
    (begins : ∀ a x, ¬ ends (write a ++ x)) {l m : List α} {x y : List Char} (hx : ends x)
    (hy : ends y)
    (h : l.flatMap write ++ x = m.flatMap write ++ y) : l.map shown = m.map shown ∧ x = y := by
  have hfollows : ∀ (l : List α) {x : List Char}, ends x → follows (l.flatMap write ++ x) := by
    intro l x hx
    cases l with
    | nil => exact last x hx
    | cons a l => rw [List.flatMap_cons, List.append_assoc]; exact next a _
  induction l generalizing m with
  | nil =>
    cases m with
    | nil => exact ⟨rfl, h⟩
    | cons b m =>
      rw [List.flatMap_cons, List.append_assoc] at h
      obtain rfl : x = _ := h
      exact absurd hx (begins b _)
  | cons a l ih =>
    cases m with
    | nil =>
      rw [List.flatMap_cons, List.append_assoc] at h
      obtain rfl : _ = y := h
      exact absurd hy (begins a _)
    | cons b m =>
      rw [List.flatMap_cons, List.flatMap_cons, List.append_assoc, List.append_assoc] at h
      obtain ⟨hab, hrest⟩ := item (hfollows l hx) (hfollows m hy) h
      obtain ⟨hlm, hxy⟩ := ih hrest
      exact ⟨by rw [List.map_cons, List.map_cons, hab, hlm], hxy⟩

/-- The same for lists with something between neighbours, which may begin like what ends a list but
not go on like it with an item. -/
theorem intercalate (item : TellsApart follows write shown) (sep : List Char)
    (ends : List Char → Prop)
    (next : ∀ a x, follows (sep ++ (write a ++ x))) (last : ∀ x, ends x → follows x)
    (begins : ∀ a x, ¬ ends (write a ++ x)) (separated : ∀ a x, ¬ ends (sep ++ (write a ++ x)))
    {l m : List α} {x y : List Char} (hx : ends x) (hy : ends y)
    (h : sep.intercalate (l.map write) ++ x = sep.intercalate (m.map write) ++ y) :
    l.map shown = m.map shown ∧ x = y := by
  have hcons : ∀ (a : α) (l : List α) (x : List Char),
      sep.intercalate ((a :: l).map write) ++ x =
        write a ++ (l.flatMap (fun a => sep ++ write a) ++ x) := by
    intro a l x
    rw [List.map_cons, intercalate_cons_flatMap, List.append_assoc, List.flatMap_map]
  have hfollows : ∀ (l : List α) {x : List Char}, ends x →
      follows (l.flatMap (fun a => sep ++ write a) ++ x) := by
    intro l x hx
    cases l with
    | nil => exact last x hx
    | cons a l =>
      rw [List.flatMap_cons, List.append_assoc, List.append_assoc]
      exact next a _
  cases l with
  | nil =>
    cases m with
    | nil => exact ⟨rfl, h⟩
    | cons b m =>
      rw [hcons] at h
      obtain rfl : x = _ := h
      exact absurd hx (begins b _)
  | cons a l =>
    cases m with
    | nil =>
      rw [hcons] at h
      obtain rfl : _ = y := h
      exact absurd hy (begins a _)
    | cons b m =>
      rw [hcons, hcons] at h
      obtain ⟨hab, hrest⟩ := item (hfollows l hx) (hfollows m hy) h
      obtain ⟨hlm, hxy⟩ := (item.behind sep).flatMap ends
        (fun a x => by rw [List.append_assoc]; exact next a x) last
        (fun a x => by rw [List.append_assoc]; exact separated a x) hx hy hrest
      exact ⟨by rw [List.map_cons, List.map_cons, hab, hlm], hxy⟩

/-! ## Commas between -/

variable {close : Char}

theorem andListed (item : TellsApart follows write shown) (comma : ∀ x, follows (',' :: x))
    (closed : ∀ x, follows (close :: x)) (hclose : close ≠ ',') {l m : List α} {x y : List Char}
    (h : Text.andListed (l.map write) ++ close :: x = Text.andListed (m.map write) ++ close :: y) :
    l.map shown = m.map shown ∧ x = y := by
  unfold Text.andListed at h
  rw [List.flatMap_map, List.flatMap_map] at h
  obtain ⟨hlm, hxy⟩ := (item.behind [',', ' ']).flatMap (fun x => ∃ r, x = close :: r)
    (fun a x => comma _) (fun x ⟨r, hr⟩ => hr ▸ closed r)
    (fun a x ⟨r, hr⟩ => hclose (List.cons.inj hr).1.symm) ⟨x, rfl⟩ ⟨y, rfl⟩ h
  exact ⟨hlm, (List.cons.inj hxy).2⟩

/-- Lists that end with a mark can be told apart if their items can, and if no item begins like the
end of a list. -/
theorem listed (item : TellsApart follows write shown) (comma : ∀ x, follows (',' :: x))
    (closed : ∀ x, follows (close :: x)) (hclose : close ≠ ',')
    (begins : ∀ a x, (write a ++ x).head? ≠ some close) {l m : List α} {x y : List Char}
    (h : Text.listed (l.map write) ++ close :: x = Text.listed (m.map write) ++ close :: y) :
    l.map shown = m.map shown ∧ x = y := by
  obtain ⟨hlm, hxy⟩ := item.intercalate _ (fun x => ∃ r, x = close :: r)
    (fun a x => comma _) (fun x ⟨r, hr⟩ => hr ▸ closed r)
    (fun a x ⟨r, hr⟩ => begins a x (congrArg List.head? hr))
    (fun a x ⟨r, hr⟩ => hclose (List.cons.inj hr).1.symm) ⟨x, rfl⟩ ⟨y, rfl⟩ h
  exact ⟨hlm, (List.cons.inj hxy).2⟩

end TellsApart

end WideColumn.Text
