import Tenancy.Text.Hex
import Tenancy.Text.Utf8

/-!
# Percent-encoded text

Bytes written as a percent sign and two hexadecimal digits, as URLs do. A percent sign that two
digits do not follow stands for itself.
-/

namespace Tenancy.Text

/-- The bytes of a character. -/
def utf8Bytes (c : Char) : List UInt8 := (String.singleton c).toUTF8.toList

/-- The bytes that the characters stand for. -/
def percentDecode : List Char → List UInt8
  | '%' :: a :: b :: rest =>
    match readHex? [a, b] with
    | some n => UInt8.ofNat n :: percentDecode rest
    | none => utf8Bytes '%' ++ percentDecode (a :: b :: rest)
  | c :: rest => utf8Bytes c ++ percentDecode rest
  | [] => []
termination_by cs => cs.length

/-- One byte as a percent sign and two digits, in capital letters. -/
def percentByte (b : UInt8) : List Char := '%' :: (hexDigits 2 b.toNat).map Char.toUpper

/-- The characters with those that are no visible ASCII characters percent-encoded. -/
def percentEncodeInvisible (cs : List Char) : List Char :=
  cs.flatMap fun c =>
    if 0x20 ≤ c.toNat && c.toNat < 0x7f then [c] else (utf8Bytes c).flatMap percentByte

end Tenancy.Text
