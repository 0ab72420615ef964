import Tenancy.Number.Double

/-!
# Shortest decimal text of a number

`Double.shortest` gives the fewest decimal digits that read back as the same number, the nearest
such decimal if there are several. A `DecimalLayout` says which of two equally near ones is taken
and how digits and exponent are written.
-/

namespace Tenancy

/-- A positive decimal number `digits * 10 ^ exponent`. -/
structure Decimal where
  digits : Nat
  exponent : Int
deriving DecidableEq, Repr

namespace Decimal

/-- Drops trailing zeros of the digits, at most `fuel` of them. -/
def stripZeros : Nat → Decimal → Decimal
  | 0, d => d
  | fuel + 1, d =>
    if d.digits % 10 = 0 then stripZeros fuel ⟨d.digits / 10, d.exponent + 1⟩ else d

end Decimal

namespace Double

/-- The number of digits before the decimal point: the `p` with `10 ^ (p - 1) ≤ num / den` and
`num / den < 10 ^ p`. -/
def decimalPlaces (num den : Nat) : Int :=
  if den ≤ num then ((num / den).repr.length : Nat)
  else
    let leading := (den / num).repr.length
    if den ≤ num * 10 ^ (leading - 1) then 2 - (leading : Int) else 1 - (leading : Int)

/-- The decimal on the grid `10 ^ e` that reads back as `m * 2 ^ q`, if there is one. Of the two
grid neighbours of the number the nearer one is taken, and of two equally near the greater one or
else the even one. `narrow` tells that the gap below the number is half of the gap above it. -/
def onGrid? (tieUp : Bool) (m : Nat) (q : Int) (narrow : Bool) (e : Int) : Option Decimal :=
  -- One quarter of the last place, in units of the grid, is `a / b`.
  let a := 2 ^ (q - 2).toNat * 10 ^ (-e).toNat
  let b := 2 ^ (2 - q).toNat * 10 ^ e.toNat
  let value := 4 * m * a
  let least := (4 * m - if narrow then 1 else 2) * a
  let greatest := (4 * m + 2) * a
  let closed := m % 2 == 0
  let low := value / b
  let high := low + 1
  let lowFits := if closed then least ≤ low * b else least < low * b
  let highFits := if closed then high * b ≤ greatest else high * b < greatest
  let below := value - low * b
  let above := high * b - value
  if lowFits && highFits then
    if below < above then some ⟨low, e⟩
    else if above < below then some ⟨high, e⟩
    else some ⟨if tieUp then high else low + low % 2, e⟩
  else if lowFits then some ⟨low, e⟩
  else if highFits then some ⟨high, e⟩
  else none

/-- The fewest digits that read back as this number; the number is finite and not zero. -/
def shortest (tieUp : Bool) (x : Double) : Decimal :=
  let (m, q) := x.significand
  let places := decimalPlaces (m * 2 ^ q.toNat) (2 ^ (-q).toNat)
  let grids := (List.range 17).map fun (n : Nat) => places - (n : Int) - 1
  match grids.findSome? (onGrid? tieUp m q x.hasNarrowGapBelow) with
  | some d => d.stripZeros 17
  | none => ⟨m, q⟩

end Double

/-! ## Layout -/

/-- How a decimal is written. It has no exponent if its decimal point stands more than
`leastPoint` places and at most `greatestPoint` places to the right of the first digit's left
edge. -/
structure DecimalLayout where
  leastPoint : Int
  greatestPoint : Int
  /-- The sign of an exponent that is not negative, which may be empty. -/
  plus : String
  /-- Of two equally near decimals the greater one is written, and not the even one. -/
  tieUp : Bool

namespace DecimalLayout

/-- A positive decimal without its sign. Without an exponent there is always a point with a digit
on both sides of it. -/
def write (layout : DecimalLayout) (d : Decimal) : String :=
  let text := d.digits.repr
  let point : Int := text.length + d.exponent
  if layout.leastPoint < point && point ≤ layout.greatestPoint then
    if 0 ≤ d.exponent then text ++ "".pushn '0' d.exponent.toNat ++ ".0"
    else if 0 < point then
      String.ofList (text.toList.take point.toNat) ++ "." ++
        String.ofList (text.toList.drop point.toNat)
    else "0." ++ "".pushn '0' (-point).toNat ++ text
  else
    let fraction := String.ofList (text.toList.drop 1)
    let mantissa := String.ofList (text.toList.take 1) ++
      (if fraction.isEmpty then "" else "." ++ fraction)
    mantissa ++ "e" ++ (if 0 < point then layout.plus else "") ++ toString (point - 1)

/-- The text of any number; both zeros keep their sign. -/
def text (layout : DecimalLayout) (x : Double) : String :=
  let sign := if x.negative then "-" else ""
  if x.isNaN then "NaN"
  else if !x.isFinite then sign ++ "inf"
  else if x.magnitude = 0 then sign ++ "0.0"
  else sign ++ layout.write (x.shortest layout.tieUp)

end DecimalLayout

end Tenancy
