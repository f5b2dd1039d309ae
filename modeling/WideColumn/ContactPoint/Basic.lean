import WideColumn.ContactPoint.Address
import WideColumn.Text.Blank

/-!
# Contact points

A contact point names a node of the cluster by host name or address, with a port or without one. The
driver wants a port on every node, so the default port is appended where none is given; a bare IPv6
address is put in brackets first, since its colons would be taken for one.

Main definitions: `ContactPoint.defaultPort`, `ContactPoint.withPort`, `ContactPoint.nodes`.
-/

namespace WideColumn.ContactPoint

open Text

/-- The port on which a node listens unless it is told otherwise. -/
def defaultPort : UInt16 := 9042

/-- The text before the last colon and the text after it. -/
def splitAtLastColon (s : List Char) : Option (List Char × List Char) :=
  match s.reverse.dropWhile (· ≠ ':') with
  | [] => none
  | _ :: before => some (before.reverse, (s.reverse.takeWhile (· ≠ ':')).reverse)

/-- The text is a name without colons, a colon and a port. -/
def hasPort (s : List Char) : Bool :=
  match splitAtLastColon s with
  | some (host, given) => !host.contains ':' && (readBelow? UInt16.size given).isSome
  | none => false

/-- The text is put in brackets already. -/
def isBracketed (s : List Char) : Bool := s.head? == some '[' && s.getLast? == some ']'

/-- The contact point with a port: its own, or else the given one. -/
def withPort (port : UInt16) (point : List Char) : List Char :=
  let suffix := ':' :: ofNat port.toNat
  if Address.isSocketAddress point then point
  else if Address.isIpv6 point then ['['] ++ point ++ [']'] ++ suffix
  else if isBracketed point then point ++ suffix
  else if hasPort point then point
  else point ++ suffix

/-- The nodes that contact points name. Blank points name none. -/
def nodes (points : List String) (port : UInt16) : List String :=
  (points.map (trim ·.toList)).filterMap fun point =>
    if point.isEmpty then none else some (String.ofList (withPort port point))

end WideColumn.ContactPoint
