import Tenancy.Row
import Tenancy.Value.Compare
import Tenancy.Value.Description

/-!
# Filters

A `Filter` is a conjunction of conditions on named fields. It is built condition by condition;
equality with `null` is taken for the test whether the field is `null`.
-/

namespace Tenancy

/-- A test of one cell. -/
inductive Test where
  | eq (value : Value)
  | ne (value : Value)
  | lt (value : Value)
  | le (value : Value)
  | gt (value : Value)
  | ge (value : Value)
  | oneOf (values : List Value)
  | isNull
  | isNotNull

namespace Test

/-- Equality with `null` never holds, so callers who ask for it mean the test for `null`. -/
def normalized : Test → Test
  | .eq .null => .isNull
  | .ne .null => .isNotNull
  | other => other

/-- The cell passes the test. A comparison without an answer fails; a cell that is not `null`
differs from everything that it does not equal. -/
def holds (test : Test) (cell : Json) : Bool :=
  match test with
  | .eq v => v.matchesCell cell
  | .ne v => !cell.isNull && !v.matchesCell cell
  | .lt v => v.compareCell? cell == some .lt
  | .le v => v.compareCell? cell == some .lt || v.matchesCell cell
  | .gt v => v.compareCell? cell == some .gt
  | .ge v => v.compareCell? cell == some .gt || v.matchesCell cell
  | .oneOf vs => vs.any (·.matchesCell cell)
  | .isNull => cell.isNull
  | .isNotNull => !cell.isNull

def describe : Test → String
  | .eq v => "Eq(" ++ v.describe ++ ")"
  | .ne v => "Ne(" ++ v.describe ++ ")"
  | .lt v => "Lt(" ++ v.describe ++ ")"
  | .le v => "Lte(" ++ v.describe ++ ")"
  | .gt v => "Gt(" ++ v.describe ++ ")"
  | .ge v => "Gte(" ++ v.describe ++ ")"
  | .oneOf vs => "In([" ++ ", ".intercalate (vs.map Value.describe) ++ "])"
  | .isNull => "IsNull"
  | .isNotNull => "IsNotNull"

end Test

/-- A test of a field of records, or of a column of rows. -/
structure Condition where
  name : String
  test : Test

namespace Condition

def holds (c : Condition) (row : Row) : Bool := c.test.holds (row.cell c.name)

def describe (c : Condition) : String :=
  "Condition \x7b field: " ++ Text.quoted c.name ++ ", op: " ++ c.test.describe ++ " \x7d"

/-- The descriptions of several conditions in brackets. -/
def describeAll (cs : List Condition) : String :=
  "[" ++ ", ".intercalate (cs.map describe) ++ "]"

end Condition

/-- A conjunction of conditions on fields. -/
structure Filter where
  conditions : List Condition

namespace Filter

/-- The filter that every record passes. -/
def all : Filter := ⟨[]⟩

/-- Adds a condition. -/
def require (f : Filter) (field : String) (test : Test) : Filter :=
  ⟨f.conditions ++ [⟨field, test.normalized⟩]⟩

/-- The records whose field equals the value. -/
def ofEq (field : String) (value : Value) : Filter := all.require field (.eq value)

/-- The conditions of both filters. -/
def and (f g : Filter) : Filter := ⟨f.conditions ++ g.conditions⟩

def isEmpty (f : Filter) : Bool := f.conditions.isEmpty

end Filter

/-! ## Order of results -/

inductive Direction where
  | ascending
  | descending
deriving DecidableEq

/-- One criterion of an order: a field or column and the direction along it. -/
structure SortKey where
  name : String
  direction : Direction
deriving DecidableEq

namespace SortKey

def compareRows (key : SortKey) (a b : Row) : Ordering :=
  let o := Json.compareCells (a.cell key.name) (b.cell key.name)
  match key.direction with
  | .ascending => o
  | .descending => o.swap

/-- The first criterion that tells the rows apart decides. -/
def compareAll (keys : List SortKey) (a b : Row) : Ordering :=
  keys.foldr (fun key rest => (key.compareRows a b).then rest) .eq

end SortKey

end Tenancy
