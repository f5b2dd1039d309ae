import WideColumn.Text.Digits

/-!
# Network addresses

Whether a text is an address decides how a port is appended to it. An IPv4 address has four decimal
parts without leading zeros; an IPv6 address has eight hexadecimal groups, of which one run of zeros
may be written `::`, and the last two may be written as an IPv4 address. A socket address is either
followed by a port, where IPv6 stands in brackets and may name a scope.

Only the form of an address matters here, so a reader returns what follows the part it accepts.

Main definitions: `Address.isIpv6`, `Address.isSocketAddress`.
-/

namespace WideColumn.Address

/-! ## Parts -/

/-- The character is a hexadecimal digit in either case. -/
def isHexDigit (c : Char) : Bool :=
  c.isDigit || ('a' ≤ c && c ≤ 'f') || ('A' ≤ c && c ≤ 'F')

/-- Reads one character. -/
def expect (c : Char) : List Char → Option (List Char)
  | d :: r => if d = c then some r else none
  | [] => none

/-- Reads a part of an IPv4 address: at most three digits below 256, and no zero in front. -/
def octet (s : List Char) : Option (List Char) :=
  let digits := s.takeWhile Char.isDigit
  if digits.isEmpty || digits.length > 3 then none
  else if digits.head? == some '0' && digits.length > 1 then none
  else if Text.decimalValue digits < 256 then some (s.dropWhile Char.isDigit)
  else none

/-- Reads a group of an IPv6 address: one to four hexadecimal digits. -/
def group (s : List Char) : Option (List Char) :=
  let digits := s.takeWhile isHexDigit
  if digits.isEmpty || digits.length > 4 then none else some (s.dropWhile isHexDigit)

/-- Reads decimal digits whose value is below the bound, with any zeros in front. -/
def numberBelow (bound : Nat) (s : List Char) : Option (List Char) :=
  let digits := s.takeWhile Char.isDigit
  if !digits.isEmpty && Text.decimalValue digits < bound then some (s.dropWhile Char.isDigit)
  else none

/-- Reads a colon and a port. -/
def port (s : List Char) : Option (List Char) := (expect ':' s).bind (numberBelow UInt16.size)

/-! ## Addresses -/

/-- Reads an IPv4 address. -/
def ipv4 (s : List Char) : Option (List Char) :=
  (octet s).bind fun s => (expect '.' s).bind fun s => (octet s).bind fun s =>
  (expect '.' s).bind fun s => (octet s).bind fun s => (expect '.' s).bind octet

/-- What a run of groups came to. -/
structure Groups where
  /-- How many groups were read; an IPv4 address counts for two. -/
  count : Nat
  /-- The run ended with an IPv4 address. -/
  endsInIpv4 : Bool
  /-- What follows. -/
  rest : List Char

/-- Reads the colon between two groups; the first group has none. -/
def separator (isFirst : Bool) (s : List Char) : Option (List Char) :=
  if isFirst then some s else expect ':' s

/-- Reads as many groups as there are, but no more than `room`. An IPv4 address is tried first
wherever two groups have room, and ends the run. -/
def groups (isFirst : Bool) : (room : Nat) → List Char → Groups
  | 0, s => ⟨0, false, s⟩
  | room + 1, s =>
    match if room > 0 then (separator isFirst s).bind ipv4 else none with
    | some r => ⟨2, true, r⟩
    | none =>
      match (separator isFirst s).bind group with
      | some r =>
        let more := groups false room r
        { more with count := more.count + 1 }
      | none => ⟨0, false, s⟩

/-- Reads an IPv6 address: eight groups, or fewer around one `::`. An IPv4 address may not stand
before the `::`. -/
def ipv6 (s : List Char) : Option (List Char) :=
  let head := groups true 8 s
  if head.count = 8 then some head.rest
  else if head.endsInIpv4 then none
  else ((expect ':' head.rest).bind (expect ':')).map fun r => (groups true (7 - head.count) r).rest

/-- Reads the scope of an IPv6 address if there is one. -/
def scope (s : List Char) : List Char :=
  ((expect '%' s).bind (numberBelow UInt32.size)).getD s

/-- Reads an IPv6 address in brackets with a port. -/
def socketV6 (s : List Char) : Option (List Char) :=
  (expect '[' s).bind fun s => (ipv6 s).bind fun s => (expect ']' (scope s)).bind port

/-- The whole text is an IPv6 address. -/
def isIpv6 (s : List Char) : Bool := ipv6 s == some []

/-- The whole text is an address with a port. -/
def isSocketAddress (s : List Char) : Bool :=
  (ipv4 s).bind port == some [] || socketV6 s == some []

end WideColumn.Address
