import Mathlib.Data.List.TakeWhile
import WideColumn.ContactPoint.Address
import WideColumn.Proofs.Text.Run

/-!
# Where an address ends

A reader of addresses takes characters from the front of a text and does not look beyond the first
one that no address has, so an address in brackets is read as it is without them. Every group of an
IPv6 address but the first has a colon in front, and so an IPv6 address has two colons or more; a
socket address ends with a colon and a port.

Main definitions: `Address.IsReader`, `Address.isPort`, `Address.IsScoped`.
Main results: `Address.isReader_ipv6`, `Address.two_le_count_of_ipv6`,
`Address.ends_of_isSocketAddress`, `Address.isSocketAddress_bracketed`.
-/

namespace WideColumn.Address

/-! ## Readers -/

/-- A character that an address may have. -/
def isAddressChar (c : Char) : Bool := isHexDigit c || c = ':' || c = '.'

/-- The text does not go on an address. -/
def Closes (t : List Char) : Prop := ∀ c ∈ t.head?, isAddressChar c = false

/-- The reader returns the end of what it is given, and does not look at what stands behind an
address. -/
structure IsReader (read : List Char → Option (List Char)) : Prop where
  suffix : ∀ {s r : List Char}, read s = some r → r <:+ s
  append : ∀ {t : List Char}, Closes t → ∀ s, read (s ++ t) = (read s).map (· ++ t)

theorem IsReader.bind {first second : List Char → Option (List Char)} (hf : IsReader first)
    (hs : IsReader second) : IsReader fun s => (first s).bind second where
  suffix h := by
    obtain ⟨m, hm, hr⟩ := Option.bind_eq_some_iff.mp h
    exact (hs.suffix hr).trans (hf.suffix hm)
  append ht s := by
    rw [hf.append ht]
    cases first s with
    | none => rfl
    | some m => exact hs.append ht m

theorem Closes.isHexDigit {t : List Char} (ht : Closes t) :
    ∀ c ∈ t.head?, isHexDigit c = false := by
  intro c hc
  have other := ht c hc
  rw [isAddressChar, Bool.or_eq_false_iff, Bool.or_eq_false_iff] at other
  exact other.1.1

theorem Closes.isDigit {t : List Char} (ht : Closes t) : ∀ c ∈ t.head?, c.isDigit = false := by
  intro c hc
  have other := ht.isHexDigit c hc
  rw [Address.isHexDigit, Bool.or_eq_false_iff, Bool.or_eq_false_iff] at other
  exact other.1.1

theorem eq_cons_of_expect {c : Char} {s r : List Char} (h : expect c s = some r) : s = c :: r := by
  cases s with
  | nil => cases h
  | cons d s =>
    rw [expect] at h
    split at h
    case isTrue hd => rw [hd, Option.some.inj h]
    case isFalse => cases h

theorem isReader_expect {c : Char} (hc : isAddressChar c = true) : IsReader (expect c) where
  suffix h := by
    rw [eq_cons_of_expect h]
    exact List.suffix_cons c _
  append {t} ht s := by
    cases s with
    | nil =>
      cases t with
      | nil => rfl
      | cons d t =>
        have other : d ≠ c := fun e => by
          have closing := ht d rfl
          rw [e, hc] at closing
          cases closing
        simp [expect, other]
    | cons d s =>
      rw [List.cons_append, expect, expect]
      split <;> rfl

theorem isReader_octet : IsReader octet where
  suffix {s r} h := by
    unfold octet at h
    dsimp only at h
    split at h
    · cases h
    split at h
    · cases h
    split at h
    · exact Option.some.inj h ▸ List.dropWhile_suffix _
    · cases h
  append ht s := by
    unfold octet
    rw [Text.takeWhile_append_closing ht.isDigit, Text.dropWhile_append_closing ht.isDigit]
    dsimp only
    split
    · rfl
    split
    · rfl
    split <;> rfl

theorem isReader_group : IsReader group where
  suffix {s r} h := by
    unfold group at h
    dsimp only at h
    split at h
    · cases h
    · exact Option.some.inj h ▸ List.dropWhile_suffix _
  append ht s := by
    unfold group
    rw [Text.takeWhile_append_closing ht.isHexDigit, Text.dropWhile_append_closing ht.isHexDigit]
    dsimp only
    split <;> rfl

theorem isReader_ipv4 : IsReader ipv4 := by
  have dot : IsReader (expect '.') := isReader_expect (by decide)
  exact isReader_octet.bind (dot.bind (isReader_octet.bind (dot.bind (isReader_octet.bind
    (dot.bind isReader_octet)))))

theorem isReader_separator (isFirst : Bool) : IsReader (separator isFirst) := by
  cases isFirst with
  | true =>
    exact
      { suffix := fun h => Option.some.inj h ▸ List.suffix_rfl
        append := fun _ _ => rfl }
  | false => exact isReader_expect (by decide)

/-! ## Groups -/

theorem groups_succ (isFirst : Bool) (room : Nat) (s : List Char) :
    groups isFirst (room + 1) s =
      match if room > 0 then (separator isFirst s).bind ipv4 else none with
      | some r => ⟨2, true, r⟩
      | none =>
        match (separator isFirst s).bind group with
        | some r =>
          { groups false room r with count := (groups false room r).count + 1 }
        | none => ⟨0, false, s⟩ := rfl

theorem groups_suffix (isFirst : Bool) (room : Nat) (s : List Char) :
    (groups isFirst room s).rest <:+ s := by
  induction room generalizing isFirst s with
  | zero => exact List.suffix_rfl
  | succ room ih =>
    rw [groups_succ]
    split
    case _ r hr =>
      split at hr
      · exact ((isReader_separator isFirst).bind isReader_ipv4).suffix hr
      · cases hr
    case _ =>
      split
      case _ r hr =>
        exact (ih false r).trans (((isReader_separator isFirst).bind isReader_group).suffix hr)
      case _ => exact List.suffix_rfl

theorem groups_append {t : List Char} (ht : Closes t) (isFirst : Bool) (room : Nat)
    (s : List Char) :
    groups isFirst room (s ++ t) =
      { groups isFirst room s with rest := (groups isFirst room s).rest ++ t } := by
  induction room generalizing isFirst s with
  | zero => rfl
  | succ room ih =>
    have last := ((isReader_separator isFirst).bind isReader_ipv4).append ht s
    have next := ((isReader_separator isFirst).bind isReader_group).append ht s
    rw [groups_succ, groups_succ, last, next]
    have limited : (if room > 0 then ((separator isFirst s).bind ipv4).map (· ++ t) else none) =
        (if room > 0 then (separator isFirst s).bind ipv4 else none).map (· ++ t) := by
      split <;> rfl
    rw [limited]
    cases if room > 0 then (separator isFirst s).bind ipv4 else none with
    | some r => rfl
    | none =>
      dsimp only [Option.map_none]
      cases (separator isFirst s).bind group with
      | some r =>
        dsimp only [Option.map_some]
        rw [ih]
      | none => rfl

/-- Each group but the first has a colon in front. -/
theorem count_of_separator {isFirst : Bool} {read : List Char → Option (List Char)}
    (hread : IsReader read) {s r : List Char} (h : (separator isFirst s).bind read = some r) :
    r.count ':' + 1 ≤ s.count ':' + if isFirst then 1 else 0 := by
  obtain ⟨m, hm, hr⟩ := Option.bind_eq_some_iff.mp h
  have shorter : r.count ':' ≤ m.count ':' := (hread.suffix hr).sublist.count_le _
  cases isFirst with
  | true =>
    obtain rfl : s = m := Option.some.inj hm
    simpa using shorter
  | false =>
    rw [eq_cons_of_expect hm]
    simpa using shorter

/-- An IPv4 address counts for two groups, and has the colon of one. -/
theorem count_groups (isFirst : Bool) (room : Nat) (s : List Char) :
    (groups isFirst room s).count + 2 * (groups isFirst room s).rest.count ':' ≤
      2 * (s.count ':' + if isFirst then 1 else 0) := by
  induction room generalizing isFirst s with
  | zero =>
    simp only [groups]
    omega
  | succ room ih =>
    rw [groups_succ]
    split
    case _ r hr =>
      split at hr
      · have colon := count_of_separator isReader_ipv4 hr
        dsimp only
        omega
      · cases hr
    case _ =>
      split
      case _ r hr =>
        have colon := count_of_separator isReader_group hr
        have more := ih false r
        simp only [Bool.false_eq_true, if_false] at more
        dsimp only
        omega
      case _ =>
        dsimp only
        omega

/-! ## Addresses -/

theorem isReader_colon : IsReader (expect ':') := isReader_expect (by decide)

theorem isReader_ipv6 : IsReader ipv6 where
  suffix {s r} h := by
    have front := groups_suffix true 8 s
    unfold ipv6 at h
    dsimp only at h
    split at h
    · exact Option.some.inj h ▸ front
    split at h
    · cases h
    · obtain ⟨m, hm, hr⟩ := Option.map_eq_some_iff.mp h
      have back := groups_suffix true (7 - (groups true 8 s).count) m
      exact hr ▸ back.trans (((isReader_colon.bind isReader_colon).suffix hm).trans front)
  append ht s := by
    unfold ipv6
    rw [groups_append ht]
    dsimp only
    split
    · rfl
    split
    · rfl
    · rw [(isReader_colon.bind isReader_colon).append ht]
      cases (expect ':' (groups true 8 s).rest).bind (expect ':') with
      | none => rfl
      | some m =>
        dsimp only [Option.map_some]
        rw [groups_append ht]

/-- An IPv6 address has eight groups, or two colons in its middle. -/
theorem two_le_count_of_ipv6 {s r : List Char} (h : ipv6 s = some r) : 2 ≤ s.count ':' := by
  have front := groups_suffix true 8 s
  have colons := count_groups true 8 s
  unfold ipv6 at h
  dsimp only at h
  split at h
  · simp only [if_true] at colons
    omega
  split at h
  · cases h
  · obtain ⟨m, hm, -⟩ := Option.map_eq_some_iff.mp h
    obtain ⟨m', hm', hm⟩ := Option.bind_eq_some_iff.mp hm
    rw [eq_cons_of_expect hm', eq_cons_of_expect hm] at front
    have middle := front.sublist.count_le ':'
    simp only [List.count_cons_self] at middle
    omega

theorem isIpv6_iff {s : List Char} : isIpv6 s = true ↔ ipv6 s = some [] := by
  simp [isIpv6]

theorem isIpv6_eq_false {s : List Char} (h : s.count ':' < 2) : isIpv6 s = false := by
  rw [← Bool.not_eq_true, isIpv6_iff]
  intro address
  have := two_le_count_of_ipv6 address
  omega

theorem ipv6_bracket (s : List Char) : ipv6 ('[' :: s) = none := by
  simp [ipv6, groups, separator, ipv4, octet, group, expect, isHexDigit]

/-- The groups of an IPv6 address do not begin with an IPv4 address. -/
theorem ipv4_eq_none_of_ipv6 {s r : List Char} (h : ipv6 s = some r) : ipv4 s = none := by
  cases hs : ipv4 s with
  | none => rfl
  | some m =>
    have front : groups true 8 s = ⟨2, true, m⟩ := by
      rw [groups_succ]
      simp [separator, hs]
    simp [ipv6, front] at h

/-! ## Ports and scopes -/

/-- The text is decimal digits with a value below the bound. -/
def isNumberBelow (bound : Nat) (p : List Char) : Bool :=
  Text.isNumeral p && Text.decimalValue p < bound

/-- The text is a port. -/
def isPort (p : List Char) : Bool := isNumberBelow UInt16.size p

theorem isNumberBelow_iff {bound : Nat} {p : List Char} :
    isNumberBelow bound p = true ↔
      p ≠ [] ∧ (∀ c ∈ p, c.isDigit = true) ∧ Text.decimalValue p < bound := by
  simp [isNumberBelow, Text.isNumeral, and_assoc]

theorem isPort_iff {p : List Char} :
    isPort p = true ↔
      p ≠ [] ∧ (∀ c ∈ p, c.isDigit = true) ∧ Text.decimalValue p < UInt16.size :=
  isNumberBelow_iff

/-- A number is read up to the first character that is no digit. -/
theorem numberBelow_append {bound : Nat} {p t : List Char} (h : isNumberBelow bound p = true)
    (ht : ∀ c ∈ t.head?, c.isDigit = false) : numberBelow bound (p ++ t) = some t := by
  obtain ⟨hne, digits, small⟩ := isNumberBelow_iff.mp h
  unfold numberBelow
  rw [Text.takeWhile_run digits ht, Text.dropWhile_run digits ht]
  simp [hne, small]

theorem isPort_of_numberBelow {p : List Char} (h : numberBelow UInt16.size p = some []) :
    isPort p = true := by
  unfold numberBelow at h
  dsimp only at h
  split at h
  case isTrue number =>
    have digits : ∀ c ∈ p, c.isDigit = true := List.dropWhile_eq_nil_iff.mp (Option.some.inj h)
    rw [List.takeWhile_eq_self_iff.mpr digits, Bool.and_eq_true] at number
    exact isPort_iff.mpr ⟨by simpa using number.1, digits, of_decide_eq_true number.2⟩
  case isFalse => cases h

theorem port_iff {s : List Char} : port s = some [] ↔ ∃ p, s = ':' :: p ∧ isPort p = true := by
  constructor
  · intro h
    obtain ⟨p, hp, number⟩ := Option.bind_eq_some_iff.mp h
    exact ⟨p, eq_cons_of_expect hp, isPort_of_numberBelow number⟩
  · intro ⟨p, hs, number⟩
    rw [hs, port, expect, if_pos rfl]
    simpa using numberBelow_append (t := []) number

theorem numberBelow_suffix {bound : Nat} {s r : List Char} (h : numberBelow bound s = some r) :
    r <:+ s := by
  unfold numberBelow at h
  dsimp only at h
  split at h
  · exact Option.some.inj h ▸ List.dropWhile_suffix _
  · cases h

theorem scope_suffix (s : List Char) : scope s <:+ s := by
  unfold scope
  cases hs : (expect '%' s).bind (numberBelow UInt32.size) with
  | none => exact List.suffix_rfl
  | some r =>
    obtain ⟨m, hm, hr⟩ := Option.bind_eq_some_iff.mp hs
    rw [eq_cons_of_expect hm]
    exact (numberBelow_suffix hr).trans (List.suffix_cons _ _)

/-! ## Socket addresses -/

/-- A socket address ends with a colon and a port. -/
theorem ends_of_isSocketAddress {s : List Char} (h : isSocketAddress s = true) :
    ∃ front p, s = front ++ ':' :: p ∧ isPort p = true := by
  have ends : ∀ {m : List Char}, m <:+ s → port m = some [] →
      ∃ front p, s = front ++ ':' :: p ∧ isPort p = true := by
    intro m ⟨front, hs⟩ hm
    obtain ⟨p, rfl, number⟩ := port_iff.mp hm
    exact ⟨front, p, hs.symm, number⟩
  rw [isSocketAddress, Bool.or_eq_true, beq_iff_eq, beq_iff_eq] at h
  rcases h with v4 | v6
  · obtain ⟨m, hm, hport⟩ := Option.bind_eq_some_iff.mp v4
    exact ends (isReader_ipv4.suffix hm) hport
  · obtain ⟨a, ha, v6⟩ := Option.bind_eq_some_iff.mp v6
    obtain ⟨b, hb, v6⟩ := Option.bind_eq_some_iff.mp v6
    obtain ⟨m, hm, hport⟩ := Option.bind_eq_some_iff.mp v6
    have front := scope_suffix b
    rw [eq_cons_of_expect hm] at front
    refine ends ?_ hport
    rw [eq_cons_of_expect ha]
    exact (List.suffix_cons _ _).trans (front.trans ((isReader_ipv6.suffix hb).trans
      (List.suffix_cons _ _)))

/-- An IPv6 address is no socket address. -/
theorem isSocketAddress_ipv6 {s : List Char} (h : isIpv6 s = true) : isSocketAddress s = false := by
  have address := isIpv6_iff.mp h
  have noBracket : expect '[' s = none := by
    cases hs : expect '[' s with
    | none => rfl
    | some r =>
      rw [eq_cons_of_expect hs, ipv6_bracket] at address
      cases address
  simp [isSocketAddress, socketV6, ipv4_eq_none_of_ipv6 address, noBracket]

/-- An IPv6 address that may name a scope, as it stands in brackets. -/
inductive IsScoped : List Char → Prop
  | bare {a : List Char} : isIpv6 a = true → IsScoped a
  | withScope {a n : List Char} : isIpv6 a = true → isNumberBelow UInt32.size n = true →
      IsScoped (a ++ '%' :: n)

/-- The address is read up to the bracket behind it, and so is its scope. -/
theorem IsScoped.read {a : List Char} (h : IsScoped a) (t : List Char) :
    (ipv6 (a ++ ']' :: t)).map scope = some (']' :: t) := by
  have closes : ∀ {c : Char} {s : List Char}, isAddressChar c = false → Closes (c :: s) := by
    intro c s hc d hd
    exact Option.some.inj hd ▸ hc
  cases h with
  | bare ha =>
    rw [isReader_ipv6.append (closes (by decide)), isIpv6_iff.mp ha]
    rfl
  | @withScope b n hb hn =>
    have bracket : ∀ c ∈ (']' :: t).head?, c.isDigit = false := (closes (by decide)).isDigit
    rw [List.append_assoc, List.cons_append, isReader_ipv6.append (closes (by decide)),
      isIpv6_iff.mp hb]
    simp [scope, expect, numberBelow_append hn bracket]

/-- An IPv6 address in brackets with a port is a socket address. -/
theorem isSocketAddress_bracketed {a p : List Char} (ha : IsScoped a)
    (hp : isPort p = true) : isSocketAddress ('[' :: a ++ ']' :: ':' :: p) = true := by
  obtain ⟨r, hr, hscope⟩ := Option.map_eq_some_iff.mp (ha.read (':' :: p))
  have hport : port (':' :: p) = some [] := port_iff.mpr ⟨p, rfl, hp⟩
  have v6 : socketV6 ('[' :: a ++ ']' :: ':' :: p) = some [] := by
    simp [socketV6, expect, hr, hscope, hport]
  rw [isSocketAddress, v6]
  simp

end WideColumn.Address
