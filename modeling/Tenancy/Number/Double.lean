import Tenancy.Number.Power

/-!
# Binary floating-point numbers

A `Double` is an IEEE 754 binary64 number, kept as its sign and the 63 bits below it. Those bits
grow with the absolute value, so the order of two numbers is the order of two integers
(`Double.rank`), and rounding is done in exact integer arithmetic (`Double.ofRatio`).
-/

namespace Tenancy

/-- An IEEE 754 binary64 number: its sign bit and the 63 bits below it. -/
structure Double where
  negative : Bool
  magnitude : Nat
  magnitude_lt : magnitude < 2 ^ 63
deriving DecidableEq

namespace Double

/-- The magnitude bits of infinity: all exponent bits set and an empty fraction. -/
def infinityBits : Nat := 2047 * 2 ^ 52

/-- Not a number: the exponent bits are all set and the fraction is not empty. -/
def isNaN (x : Double) : Bool := infinityBits < x.magnitude

/-- Neither infinite nor not a number. -/
def isFinite (x : Double) : Bool := x.magnitude < infinityBits

def zero : Double := ⟨false, 0, by decide⟩

def infinity (negative : Bool) : Double := ⟨negative, infinityBits, by decide⟩

def nan : Double := ⟨false, infinityBits + 2 ^ 51, by decide⟩

/-! ## Order -/

/-- An integer that orders all numbers other than `nan`; both zeros have rank `0`. -/
def rank (x : Double) : Int := if x.negative then -x.magnitude else x.magnitude

/-- The numeric order; nothing compares with `nan`. -/
def compare? (x y : Double) : Option Ordering :=
  if x.isNaN || y.isNaN then none else some (compare x.rank y.rank)

/-- Numeric equality: `nan` differs from itself and the two zeros are equal. -/
def same (x y : Double) : Bool := x.compare? y == some .eq

/-! ## Rounding -/

/-- `num / den` to the nearest integer, a half to the even neighbour. -/
def roundHalfEven (num den : Nat) : Nat :=
  let q := num / den
  let r := num % den
  if 2 * r < den then q else if den < 2 * r then q + 1 else q + q % 2

/-- `den * 2 ^ e ≤ num`, for an exponent of either sign. -/
def reachesPowerOfTwo (num den : Nat) (e : Int) : Bool :=
  den * 2 ^ e.toNat ≤ num * 2 ^ (-e).toNat

/-- The exponent of the largest power of two that does not exceed `num / den`. -/
def binaryExponent (num den : Nat) : Int :=
  let guess := (num.log2 : Int) - den.log2
  if reachesPowerOfTwo num den guess then guess else guess - 1

/-- The magnitude bits of the number nearest to `num / den`. The last place of the result is
worth `2 ^ q`; subnormal numbers share the smallest such place. -/
def magnitudeOfRatio (num den : Nat) : Nat :=
  let q := max (binaryExponent num den - 52) (-1074)
  let m := roundHalfEven (num * 2 ^ (-q).toNat) (den * 2 ^ q.toNat)
  min infinityBits (m + (q + 1074).toNat * 2 ^ 52)

theorem magnitudeOfRatio_lt (num den : Nat) : magnitudeOfRatio num den < 2 ^ 63 :=
  Nat.lt_of_le_of_lt (Nat.min_le_left _ _) (by decide)

/-- The number nearest to `num / den`, ties to an even last place; too large a ratio gives
infinity. -/
def ofRatio (negative : Bool) (num den : Nat) : Double :=
  if num = 0 then ⟨negative, 0, by decide⟩
  else ⟨negative, magnitudeOfRatio num den, magnitudeOfRatio_lt num den⟩

/-- The number nearest to an integer. -/
def ofInt (i : Int) : Double := ofRatio (i < 0) i.natAbs 1

/-- The number nearest to `digits * 10 ^ exponent`. Exponents far outside of the range of the
format are decided without computing the power. -/
def ofDecimal (negative : Bool) (digits : Nat) (exponent : Int) : Double :=
  let places : Int := exponent + digits.log2
  if digits = 0 || places < -1500 then ⟨negative, 0, by decide⟩
  else if 400 < exponent then infinity negative
  else ofRatio negative (digits * 10 ^ exponent.toNat) (10 ^ (-exponent).toNat)

/-! ## Exact value -/

/-- `(m, q)` such that the absolute value is `m * 2 ^ q`. -/
def significand (x : Double) : Nat × Int :=
  let field : Nat := x.magnitude / 2 ^ 52
  let fraction : Nat := x.magnitude % 2 ^ 52
  if field = 0 then (fraction, -1074) else (fraction + 2 ^ 52, (field : Int) - 1075)

/-- The neighbour below is only half as far away as the one above: the fraction is empty and the
number is not subnormal. -/
def hasNarrowGapBelow (x : Double) : Bool :=
  x.magnitude % 2 ^ 52 == 0 && 1 < x.magnitude / 2 ^ 52

end Double

end Tenancy
