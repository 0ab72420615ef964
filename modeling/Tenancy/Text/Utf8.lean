import Tenancy.Number.Power

/-!
# Bytes as text

Decoding of UTF-8. Bytes that encode no character are reported piece by piece: a piece is one
byte, or the longest beginning of an encoded character that is there.
-/

namespace Tenancy.Text

/-- The second byte that a first byte allows, from least to greatest, and the number of bytes of
the character; none for bytes that cannot come first. -/
def leadingByte? (b : UInt8) : Option (Nat × UInt8 × UInt8) :=
  if 0xc2 ≤ b && b ≤ 0xdf then some (2, 0x80, 0xbf)
  else if b == 0xe0 then some (3, 0xa0, 0xbf)
  else if b == 0xed then some (3, 0x80, 0x9f)
  else if 0xe1 ≤ b && b ≤ 0xef then some (3, 0x80, 0xbf)
  else if b == 0xf0 then some (4, 0x90, 0xbf)
  else if 0xf1 ≤ b && b ≤ 0xf3 then some (4, 0x80, 0xbf)
  else if b == 0xf4 then some (4, 0x80, 0x8f)
  else none

/-- How many of the next bytes go on with a character: up to `wanted` bytes, the first of them
between `least` and `greatest`. -/
def continuation (wanted : Nat) (least greatest : UInt8) : List UInt8 → List UInt8
  | [] => []
  | b :: rest => match wanted with
    | 0 => []
    | wanted + 1 =>
      if least ≤ b && b ≤ greatest then b :: continuation wanted 0x80 0xbf rest else []

/-- The code point of a first byte and the bytes that go on with it. -/
def codePoint (size : Nat) (lead : UInt8) (rest : List UInt8) : Nat :=
  rest.foldl (fun n b => 64 * n + b.toNat % 64) (lead.toNat % 2 ^ (7 - size))

/-- The first character, or none for a piece that encodes no character, and the number of bytes
after the first that belong to it. -/
def firstChar (b : UInt8) (rest : List UInt8) : Option Char × Nat :=
  if b < 0x80 then (some (Char.ofNat b.toNat), 0)
  else match leadingByte? b with
    | none => (none, 0)
    | some (size, least, greatest) =>
      let more := continuation (size - 1) least greatest rest
      if more.length + 1 = size then (some (Char.ofNat (codePoint size b more)), more.length)
      else (none, more.length)

/-- The characters of bytes, with none in the place of every piece that encodes no character. -/
def decodeBytes : List UInt8 → List (Option Char)
  | [] => []
  | b :: rest =>
    let (char, more) := firstChar b rest
    char :: decodeBytes (rest.drop more)
termination_by bytes => bytes.length
decreasing_by
  rw [List.length_drop, List.length_cons]
  omega

/-- The text of bytes that encode characters throughout. -/
def ofBytes? (bytes : List UInt8) : Option String :=
  ((decodeBytes bytes).mapM id).map String.ofList

/-- The text of any bytes, with a replacement character for every other piece. -/
def ofBytesReplacing (bytes : List UInt8) : String :=
  String.ofList ((decodeBytes bytes).map (·.getD (Char.ofNat 0xfffd)))

end Tenancy.Text
