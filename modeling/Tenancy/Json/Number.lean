import Tenancy.Number.Shortest

/-!
# Numbers of JSON

A number is an integer from `-2 ^ 63` to `2 ^ 64 - 1` or a finite binary64 number. The two kinds
are told apart even where they have the same numeric value.
-/

namespace Tenancy.Json

/-- A JSON number. -/
inductive Number where
  | integer (value : Int) (least : -2 ^ 63 ≤ value) (greatest : value < 2 ^ 64)
  | float (value : Double) (finite : value.isFinite = true)
deriving DecidableEq

namespace Number

def ofInt? (i : Int) : Option Number :=
  if h : -2 ^ 63 ≤ i ∧ i < 2 ^ 64 then some (.integer i h.1 h.2) else none

/-- Every signed 64-bit integer is a number. -/
def ofInt64 (i : Int64) : Number :=
  .integer i.toInt (by have := i.le_toInt; omega) (by have := i.toInt_lt; omega)

/-- Finite numbers only. -/
def ofDouble? (x : Double) : Option Number :=
  if h : x.isFinite = true then some (.float x h) else none

/-- The number as a signed 64-bit integer; none for floats, whatever their value. -/
def asInt64? : Number → Option Int64
  | .integer i _ _ => if i < 2 ^ 63 then some (Int64.ofInt i) else none
  | .float _ _ => none

/-- The number as a natural number; none for floats, whatever their value. -/
def asNat? : Number → Option Nat
  | .integer i _ _ => if 0 ≤ i then some i.toNat else none
  | .float _ _ => none

/-- The nearest binary64 number. -/
def toDouble : Number → Double
  | .integer i _ _ => Double.ofInt i
  | .float x _ => x

/-- Equality of JSON numbers: the same kind and the same value, with equal zeros. -/
def same : Number → Number → Bool
  | .integer a _ _, .integer b _ _ => a == b
  | .float a _, .float b _ => a.same b
  | _, _ => false

/-- Floats have an exponent when they are below `10 ^ -5` or not below `10 ^ 16`, and the exponent
always has a sign. -/
def layout : DecimalLayout := ⟨-5, 16, "+", false⟩

def text : Number → String
  | .integer i _ _ => toString i
  | .float x _ => layout.text x

end Number

end Tenancy.Json
