import Tenancy.Value.Basic

/-!
# Comparison of cells

`Value.compareCell?` places a stored cell relative to a typed value, as a filter needs it: a
comparison with `null` has no answer. `Json.compareCells` orders any two stored cells, as sorting
and unique keys need it.
-/

namespace Tenancy

namespace Value

/-- Where the cell stands relative to the value; none if the two cannot be compared. -/
def compareCell? (v : Value) (cell : Json) : Option Ordering :=
  match v, cell with
  | _, .null => none
  | .bool b, .bool c => some (compare c.toNat b.toNat)
  | .int i, .number n => match n.asInt64? with
    | some c => some (compare c.toInt i.toInt)
    | none => n.toDouble.compare? (Double.ofInt i.toInt)
  | .float x, .number n => n.toDouble.compare? x
  | .text s, .string c => some (compare c s)
  | .uuid u, .string c => (Uuid.ofText? c).map fun c => c.compare u
  | .timestamp t, .string c => (Rfc3339.ofText? c).map fun c => c.compare t
  | .json j, cell => if j.same cell then some .eq else none
  | _, _ => none

/-- The cell compares equal to the value. -/
def matchesCell (v : Value) (cell : Json) : Bool := v.compareCell? cell == some .eq

end Value

namespace Json

/-- Numbers are compared as integers if both are signed 64-bit integers, and otherwise as floats.
Finite floats always compare. -/
def compareNumbers (a b : Number) : Ordering :=
  match a.asInt64?, b.asInt64? with
  | some a, some b => compare a.toInt b.toInt
  | _, _ => (a.toDouble.compare? b.toDouble).getD .eq

/-- Two strings that both name an instant are ordered in time, others as text. -/
def compareStrings (a b : String) : Ordering :=
  match Rfc3339.ofText? a, Rfc3339.ofText? b with
  | some a, some b => a.compare b
  | _, _ => compare a b

/-- The order of stored cells: `null` comes last, and cells of different kinds are ordered by
their text. -/
def compareCells : Json → Json → Ordering
  | .null, .null => .eq
  | .null, _ => .gt
  | _, .null => .lt
  | .string a, .string b => compareStrings a b
  | .number a, .number b => compareNumbers a b
  | .bool a, .bool b => compare a.toNat b.toNat
  | a, b => compare a.text b.text

/-- Two cells that a unique key takes for the same: neither is `null` and they compare equal. -/
def sameCell (a b : Json) : Bool := !a.isNull && !b.isNull && compareCells a b == .eq

end Json

end Tenancy
