/-!
# Bytes of a text

A device takes the bytes of a text, and may stop in the middle of a character; a program that works
on bytes may even leave some that are the bytes of no text. When bytes are shown, a mark stands for
each piece that is no character: as many bytes as could have been the beginning of one.

Programs that work on bytes are described on lists of characters below 256, one for each byte, so
that what they look for can be written down.

Main definitions: `Text.utf8`, `Text.ofUtf8`, `Text.octets`, `Text.ofOctets`.
-/

namespace WideColumn.Text

/-! ## Bytes -/

/-- The bytes of a text. -/
def utf8 (s : List Char) : List UInt8 := s.flatMap String.utf8EncodeChar

/-- The mark that stands for bytes that are no character. -/
def cutMark : Char := '\uFFFD'

/-- The bits that a byte after the first adds to a code point. -/
def addBits (code : Nat) (byte : UInt8) : Nat := code * 64 + byte.toNat % 64

/-- The byte may follow the first one of a character. -/
def isFollower (byte : UInt8) : Bool := 0x80 ≤ byte && byte ≤ 0xBF

/-- The least and the greatest byte that may come second after a first one, and how many bytes
follow the first; none if it is the first byte of no long character. -/
def shape? (first : UInt8) : Option (UInt8 × UInt8 × Nat) :=
  if first < 0xC2 then none
  else if first < 0xE0 then some (0x80, 0xBF, 1)
  else if first = 0xE0 then some (0xA0, 0xBF, 2)
  else if first = 0xED then some (0x80, 0x9F, 2)
  else if first < 0xF0 then some (0x80, 0xBF, 2)
  else if first = 0xF0 then some (0x90, 0xBF, 3)
  else if first < 0xF4 then some (0x80, 0xBF, 3)
  else if first = 0xF4 then some (0x80, 0x8F, 3)
  else none

/-- The character that begins with two bytes and has some more to come, or a mark, and how many of
the further bytes belong to it. -/
def further (code : Nat) : (missing : Nat) → List UInt8 → Char × Nat
  | 0, _ => (Char.ofNat code, 0)
  | _ + 1, [] => (cutMark, 0)
  | missing + 1, byte :: r =>
    if isFollower byte then
      let (c, taken) := further (addBits code byte) missing r
      (c, taken + 1)
    else (cutMark, 0)

/-- The bits of a code point that the first byte of so many more holds. -/
def firstBits (first : UInt8) (more : Nat) : Nat :=
  first.toNat % (if more = 1 then 32 else if more = 2 then 16 else 8)

/-- The text of some bytes. `skipped` bytes belong to a character that was read before. -/
def ofUtf8From : (skipped : Nat) → List UInt8 → List Char
  | _, [] => []
  | skipped + 1, _ :: r => ofUtf8From skipped r
  | 0, first :: r =>
    if first < 0x80 then Char.ofNat first.toNat :: ofUtf8From 0 r
    else
      match shape? first, r with
      | some (least, most, more), second :: rest =>
        if least ≤ second && second ≤ most then
          let (c, taken) := further (addBits (firstBits first more) second) (more - 1) rest
          c :: ofUtf8From (taken + 1) r
        else cutMark :: ofUtf8From 0 r
      | _, _ => cutMark :: ofUtf8From 0 r

/-- The text of some bytes, with a mark for each piece that is no character. -/
def ofUtf8 (bytes : List UInt8) : List Char := ofUtf8From 0 bytes

@[simp] theorem utf8_nil : utf8 [] = [] := rfl

@[simp] theorem utf8_append (s t : List Char) : utf8 (s ++ t) = utf8 s ++ utf8 t := by
  simp [utf8]

/-! ## Octets -/

/-- The bytes of a text, each as the character with its number. -/
def octets (s : List Char) : List Char := (utf8 s).map fun byte => Char.ofNat byte.toNat

/-- The text of bytes that are held as characters. -/
def ofOctets (s : List Char) : List Char := ofUtf8 (s.map fun c => UInt8.ofNat c.toNat)

@[simp] theorem octets_append (s t : List Char) : octets (s ++ t) = octets s ++ octets t := by
  simp [octets]

end WideColumn.Text
