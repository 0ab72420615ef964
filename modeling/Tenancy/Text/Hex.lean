/-!
# Hexadecimal digits

Numbers as hexadecimal digits of a fixed width, and back. Letters are written in lower case and
read in either case.
-/

namespace Tenancy.Text

/-- The digit of a number below sixteen. -/
def hexDigit (n : Nat) : Char := if n < 10 then Char.ofNat (48 + n) else Char.ofNat (87 + n)

/-- The value of a digit. -/
def hexValue? (c : Char) : Option Nat :=
  let n := c.toNat
  if 48 ≤ n ∧ n ≤ 57 then some (n - 48)
  else if 97 ≤ n ∧ n ≤ 102 then some (n - 87)
  else if 65 ≤ n ∧ n ≤ 70 then some (n - 55)
  else none

/-- The last `width` digits of a number. -/
def hexDigits : Nat → Nat → List Char
  | 0, _ => []
  | width + 1, n => hexDigits width (n / 16) ++ [hexDigit (n % 16)]

/-- Reads digits onto a number that has been read already. -/
def readHexFrom (read : Nat) : List Char → Option Nat
  | [] => some read
  | c :: rest => do readHexFrom (16 * read + (← hexValue? c)) rest

/-- The number that the digits write. -/
def readHex? (digits : List Char) : Option Nat := readHexFrom 0 digits

/-- The digits of a number without leading zeros. -/
def hexText (n : Nat) : String := String.ofList (Nat.toDigits 16 n)

end Tenancy.Text
