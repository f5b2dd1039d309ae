import WideColumn.Catalog.Source
import WideColumn.Proofs.ContactPoint.Address
import WideColumn.Proofs.Text.Trim

/-!
# Nodes and their ports

A contact point names a host, and perhaps a port. Its node is the host with that port, or else with
the default, and an IPv6 address is put in brackets. A node names its own port, so asking for a port
again changes nothing. Settings that say how to connect leave a node to connect to.

Main definitions: `ContactPoint.Names`, `ContactPoint.node`.
Main results: `ContactPoint.withPort_of_names`, `ContactPoint.nodes_ported`.
-/

namespace WideColumn

namespace ContactPoint

open Address Text

/-- The text in brackets. -/
def bracketed (s : List Char) : List Char := ['['] ++ s ++ [']']

/-- The point names a host, as it stands in a node, and a port if one is given. -/
inductive Names : (point host : List Char) → (given : Option (List Char)) → Prop
  /-- A host name or an IPv4 address. -/
  | host {h : List Char} : h ≠ [] → ':' ∉ h → Names h h none
  /-- The same, with a port. -/
  | hostWithPort {h p : List Char} : ':' ∉ h → isPort p = true → Names (h ++ ':' :: p) h (some p)
  /-- An IPv6 address alone, whose colons are none of a port. -/
  | ipv6 {a : List Char} : isIpv6 a = true → Names a (bracketed a) none
  /-- An IPv6 address in brackets. -/
  | inBrackets {a : List Char} : IsScoped a → Names (bracketed a) (bracketed a) none
  /-- The same, with a port. -/
  | inBracketsWithPort {a p : List Char} : IsScoped a → isPort p = true →
      Names (bracketed a ++ ':' :: p) (bracketed a) (some p)

/-! ## The tests on a point -/

theorem ne_colon_of_isPort {p : List Char} (h : isPort p = true) : ':' ∉ p := by
  intro colon
  exact absurd ((isPort_iff.mp h).2.1 ':' colon) (by decide)

theorem isPort_ofNat (port : UInt16) : isPort (ofNat port.toNat) = true := by
  refine isPort_iff.mpr ⟨ofNat_ne_nil _, fun c hc => isDigit_of_mem_ofNat hc, ?_⟩
  rw [decimalValue_ofNat]
  exact port.toNat_lt

/-- A port ends with a digit. -/
theorem exists_last_of_isPort {p : List Char} (h : isPort p = true) (front : List Char) :
    ∃ c, (front ++ ':' :: p).getLast? = some c ∧ c.isDigit = true := by
  obtain ⟨hne, digits, -⟩ := isPort_iff.mp h
  refine ⟨p.getLast hne, ?_, digits _ (List.getLast_mem hne)⟩
  simp [List.getLast?_append, List.getLast?_cons_of_ne_nil hne, List.getLast?_eq_some_getLast hne]

theorem isBracketed_port {p : List Char} (h : isPort p = true) (front : List Char) :
    isBracketed (front ++ ':' :: p) = false := by
  obtain ⟨c, hc, digit⟩ := exists_last_of_isPort h front
  have other : c ≠ ']' := by
    intro close
    rw [close] at digit
    exact absurd digit (by decide)
  simp [isBracketed, hc, other]

theorem getLast?_bracketed (s : List Char) : (bracketed s).getLast? = some ']' :=
  List.getLast?_concat

theorem isBracketed_bracketed (s : List Char) : isBracketed (bracketed s) = true := by
  rw [isBracketed, getLast?_bracketed]
  rfl

theorem splitAtLastColon_append {p : List Char} (h : ':' ∉ p) (front : List Char) :
    splitAtLastColon (front ++ ':' :: p) = some (front, p) := by
  have reversed : (front ++ ':' :: p).reverse = p.reverse ++ ':' :: front.reverse := by simp
  have noColon : ∀ c ∈ p.reverse, decide (c ≠ ':') = true := by
    intro c hc
    have hmem : c ∈ p := List.mem_reverse.mp hc
    exact decide_eq_true fun e => h (e ▸ hmem)
  have colon : ∀ c ∈ (':' :: front.reverse).head?, decide (c ≠ ':') = false := by
    intro c hc
    obtain rfl := Option.some.inj hc
    rfl
  unfold splitAtLastColon
  rw [reversed, dropWhile_run noColon colon, takeWhile_run noColon colon]
  simp

theorem splitAtLastColon_of_noColon {s : List Char} (h : ':' ∉ s) : splitAtLastColon s = none := by
  have all : s.reverse.dropWhile (· ≠ ':') = [] := by
    rw [List.dropWhile_eq_nil_iff]
    intro c hc
    exact decide_eq_true fun e => h (e ▸ List.mem_reverse.mp hc)
  rw [splitAtLastColon, all]

theorem readBelow?_of_isPort {p : List Char} (h : isPort p = true) :
    readBelow? UInt16.size p = some (decimalValue p) := by
  unfold readBelow?
  rw [dropPlus_of_isDigit (isPort_iff.mp h).2.1]
  exact if_pos h

theorem hasPort_append {h p : List Char} (hh : ':' ∉ h) (hp : isPort p = true) :
    hasPort (h ++ ':' :: p) = true := by
  rw [hasPort, splitAtLastColon_append (ne_colon_of_isPort hp)]
  dsimp only
  rw [readBelow?_of_isPort hp]
  simp [hh]

theorem isSocketAddress_of_noColon {s : List Char} (h : ':' ∉ s) : isSocketAddress s = false := by
  rw [← Bool.not_eq_true]
  intro address
  obtain ⟨front, p, rfl, -⟩ := ends_of_isSocketAddress address
  simp at h

/-- A text with brackets around it ends with no port. -/
theorem isSocketAddress_inBrackets (s : List Char) : isSocketAddress (bracketed s) = false := by
  rw [← Bool.not_eq_true]
  intro address
  obtain ⟨front, p, hs, hp⟩ := ends_of_isSocketAddress address
  obtain ⟨c, hc, digit⟩ := exists_last_of_isPort hp front
  have close := getLast?_bracketed s
  rw [hs, hc] at close
  rw [Option.some.inj close] at digit
  exact absurd digit (by decide)

theorem isIpv6_bracketed (s : List Char) : isIpv6 (bracketed s) = false := by
  simp [isIpv6, bracketed, ipv6_bracket]

/-! ## Ports for points -/

/-- The text stands for a host in front of a colon and a port: it has no colons of its own, or else
brackets around them. -/
def IsHost (h : List Char) : Prop := ':' ∉ h ∨ ∃ a, IsScoped a ∧ h = bracketed a

/-- A host with a port keeps the port. -/
theorem withPort_host {h q : List Char} (port : UInt16) (hh : IsHost h) (hq : isPort q = true) :
    withPort port (h ++ ':' :: q) = h ++ ':' :: q := by
  unfold withPort
  rcases hh with plain | ⟨a, ha, rfl⟩
  · have one : isIpv6 (h ++ ':' :: q) = false := by
      refine isIpv6_eq_false ?_
      simp [List.count_eq_zero.mpr plain, List.count_eq_zero.mpr (ne_colon_of_isPort hq)]
    rw [one, isBracketed_port hq, hasPort_append plain hq]
    simp
  · have socket : isSocketAddress (bracketed a ++ ':' :: q) = true := by
      simpa [bracketed] using isSocketAddress_bracketed ha hq
    rw [if_pos socket]

section Names

variable {point host : List Char} {given : Option (List Char)}

theorem Names.isHost (h : Names point host given) : IsHost host := by
  cases h with
  | host _ plain => exact .inl plain
  | hostWithPort plain _ => exact .inl plain
  | ipv6 ha => exact .inr ⟨_, .bare ha, rfl⟩
  | inBrackets ha => exact .inr ⟨_, ha, rfl⟩
  | inBracketsWithPort ha _ => exact .inr ⟨_, ha, rfl⟩

/-- The port of a point, or else the default, is a port. -/
theorem Names.isPort_getD (h : Names point host given) (port : UInt16) :
    isPort (given.getD (ofNat port.toNat)) = true := by
  cases h with
  | hostWithPort _ hp => exact hp
  | inBracketsWithPort _ hp => exact hp
  | host _ _ => exact isPort_ofNat port
  | ipv6 _ => exact isPort_ofNat port
  | inBrackets _ => exact isPort_ofNat port

/-- A point that names a host is given its own port, or else the default. -/
theorem withPort_of_names (h : Names point host given) (port : UInt16) :
    withPort port point = host ++ ':' :: given.getD (ofNat port.toNat) := by
  have kept := fun q (hq : isPort q = true) => withPort_host port h.isHost hq
  cases h with
  | hostWithPort _ hp => exact kept _ hp
  | inBracketsWithPort _ hp => exact kept _ hp
  | host _ plain =>
    have noAddress : isIpv6 point = false := by
      refine isIpv6_eq_false ?_
      rw [List.count_eq_zero.mpr plain]
      decide
    unfold withPort
    rw [isSocketAddress_of_noColon plain, noAddress, hasPort, splitAtLastColon_of_noColon plain]
    simp
  | ipv6 ha =>
    unfold withPort
    rw [isSocketAddress_ipv6 ha, ha]
    simp [bracketed]
  | @inBrackets a ha =>
    unfold withPort
    rw [isSocketAddress_inBrackets, isIpv6_bracketed, isBracketed_bracketed]
    simp

/-- The host begins as the point does, or with a bracket. -/
theorem Names.head?_host (h : Names point host given) (rest : List Char) :
    ∀ c ∈ (host ++ ':' :: rest).head?, c ∈ point.head? ∨ c = '[' ∨ c = ':' := by
  intro c hc
  cases h with
  | @host _ hne _ =>
    obtain ⟨d, r, rfl⟩ := List.exists_cons_of_ne_nil hne
    exact .inl hc
  | hostWithPort _ _ =>
    cases host with
    | nil => exact .inr (.inr (Option.some.inj hc).symm)
    | cons d r => exact .inl hc
  | ipv6 _ => exact .inr (.inl (Option.some.inj hc).symm)
  | inBrackets _ => exact .inr (.inl (Option.some.inj hc).symm)
  | inBracketsWithPort _ _ => exact .inr (.inl (Option.some.inj hc).symm)

end Names

/-! ## Nodes -/

/-- The node that a contact point names. -/
def node (port : UInt16) (point : String) : String :=
  String.ofList (withPort port (trim point.toList))

theorem toList_node (port : UInt16) (point : String) :
    (node port point).toList = withPort port (trim point.toList) :=
  String.toList_ofList

theorem nodes_cons (point : String) (points : List String) (port : UInt16) :
    nodes (point :: points) port =
      if allBlank point.toList then nodes points port
      else node port point :: nodes points port := by
  have blank : (trim point.toList).isEmpty = allBlank point.toList := by
    rw [Bool.eq_iff_iff, List.isEmpty_iff, trim_eq_nil_iff]
  unfold nodes
  rw [List.map_cons, List.filterMap_cons, blank]
  cases allBlank point.toList with
  | true => rfl
  | false => rfl

/-- Each point that is not blank names a node, and the nodes stand in the order of the points. -/
theorem nodes_eq (points : List String) (port : UInt16) :
    nodes points port = (points.filter fun p => !allBlank p.toList).map (node port) := by
  induction points with
  | nil => rfl
  | cons point points ih =>
    rw [nodes_cons, ih, List.filter_cons]
    cases allBlank point.toList with
    | true => rfl
    | false => rfl

section Named

variable {point : String} {host : List Char} {given : Option (List Char)}

theorem node_of_names (h : Names (trim point.toList) host given) (port : UInt16) :
    (node port point).toList = host ++ ':' :: given.getD (ofNat port.toNat) := by
  rw [toList_node, withPort_of_names h]

/-- A node has no blanks around it: it begins as its point does, and ends with a digit. -/
theorem trim_node (h : Names (trim point.toList) host given) (port : UInt16) :
    trim (node port point).toList = (node port point).toList := by
  rw [node_of_names h]
  refine trim_eq_self ?_ ?_
  · intro c hc
    rcases h.head?_host _ c hc with own | rfl | rfl
    · exact head?_trim _ c own
    · decide
    · decide
  · intro c hc
    obtain ⟨d, hd, digit⟩ := exists_last_of_isPort (h.isPort_getD port) host
    rw [hd] at hc
    obtain rfl := Option.some.inj hc
    exact not_isBlank_of_isDigit digit

/-- A node names itself, whatever the default port is. -/
theorem nodes_node (h : Names (trim point.toList) host given) (port other : UInt16) :
    nodes [node port point] other = [node port point] := by
  have same : node other (node port point) = node port point := by
    rw [node, trim_node h, node_of_names h, withPort_host other h.isHost (h.isPort_getD port),
      ← node_of_names h port, String.ofList_toList]
  have visible : allBlank (node port point).toList = false := by
    rw [← Bool.not_eq_true, ← trim_eq_nil_iff, trim_node h, node_of_names h]
    simp
  rw [nodes_cons, visible, same]
  rfl

end Named

end ContactPoint

/-! ## Settings -/

/-- Options that settings give name a node: points that are all blank are refused before. -/
theorem Settings.nodes_ne_nil {settings : Settings} {options : ConnectOptions}
    (h : settings.connectOptions = .ok options) : options.nodes ≠ [] := by
  unfold Settings.connectOptions at h
  dsimp only at h
  split at h
  case isTrue => cases h
  case isFalse visible =>
    have points : options.contactPoints = settings.connection.contactPoints := by
      split at h
      · cases h
      · split at h
        · exact (Except.ok.inj h).symm ▸ rfl
        · exact (Except.ok.inj h).symm ▸ rfl
        · cases h
    intro empty
    rw [ConnectOptions.nodes, ContactPoint.nodes_eq, points, List.map_eq_nil_iff,
      List.filter_eq_nil_iff] at empty
    refine visible (List.all_eq_true.mpr fun point hpoint => ?_)
    simpa using empty point hpoint

/-- Whoever has a node to connect to does not miss a contact point. -/
theorem Catalog.connect_ne_noContactPoints {σ : Type} {options : ConnectOptions}
    (h : options.nodes ≠ []) (host : Host (StateM σ)) (s : σ) :
    (Catalog.connect host options s).1 ≠ .error .noContactPoints := by
  have present : options.nodes.isEmpty = false := List.isEmpty_eq_false_iff.mpr h
  intro missing
  unfold Catalog.connect at missing
  rw [present] at missing
  cases missing

/-! ## Contact points -/

/-- Points that are not blank become nodes in their order. A point that names a host becomes the
host with its own port or else the default, and stays the same from then on. Settings that say how
to connect leave a node, so no run fails for want of one. -/
theorem ContactPoint.nodes_ported :
    (∀ points port, nodes points port =
      (points.filter fun p => !Text.allBlank p.toList).map (node port)) ∧
    (∀ point host given, Names (Text.trim point.toList) host given → ∀ port,
      (node port point).toList = host ++ ':' :: given.getD (Text.ofNat port.toNat) ∧
      ∀ other, nodes [node port point] other = [node port point]) ∧
    (∀ flags file outDir options,
      (Settings.resolve flags file outDir).bind Settings.connectOptions = .ok options →
      options.nodes ≠ [] ∧ ∀ {σ : Type} (host : Host (StateM σ)) (s : σ),
        (Catalog.connect host options s).1 ≠ .error .noContactPoints) := by
  refine ⟨nodes_eq, ?_, ?_⟩
  · intro point host given h port
    exact ⟨node_of_names h port, nodes_node h port⟩
  · intro flags file outDir options h
    cases hs : Settings.resolve flags file outDir with
    | error e =>
      rw [hs] at h
      cases h
    | ok settings =>
      rw [hs] at h
      have present := Settings.nodes_ne_nil h
      exact ⟨present, Catalog.connect_ne_noContactPoints present⟩

/-- The loopback address gets brackets and the port that the driver takes unless told otherwise. -/
theorem ContactPoint.nodes_ported_loopback :
    Names (Text.trim " ::1".toList) "[::1]".toList none ∧
    (node 9042 " ::1").toList = "[::1]:9042".toList ∧
    nodes [node 9042 " ::1"] 19042 = [node 9042 " ::1"] ∧
    ∃ options, (Settings.resolve { keyspace := some "shop", contactPoints := [" ::1"] }
        { connection := { localDataCenter := some "dc1" } } none).bind Settings.connectOptions =
        .ok options ∧
      options.nodes ≠ [] := by
  have names : Names (Text.trim " ::1".toList) "[::1]".toList none := .ipv6 (by decide)
  have settles : (Settings.resolve { keyspace := some "shop", contactPoints := [" ::1"] }
      { connection := { localDataCenter := some "dc1" } } none).bind Settings.connectOptions =
      .ok
        { contactPoints := [" ::1"]
          port := 9042
          localDataCenter := "dc1"
          credentials := none
          connectTimeout := 5
          requestTimeout := 10 } := rfl
  obtain ⟨-, named, settled⟩ := nodes_ported
  obtain ⟨text, stable⟩ := named _ _ _ names 9042
  exact ⟨names, text, stable 19042, _, settles, (settled _ _ _ _ settles).1⟩

end WideColumn
