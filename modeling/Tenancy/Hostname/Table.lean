import Tenancy.Text.Hex
import Tenancy.Text.Pieces

/-!
# Tables of characters

The properties of characters that host names depend on stand in tables of hexadecimal numbers. A
line of a table holds rows between commas, and a row holds numbers between spaces.
-/

namespace Tenancy.Hostname

/-- The rows of a table. -/
def readRows (lines : List String) : List (List Nat) :=
  lines.flatMap fun line => (Text.pieces ',' line.toList).map fun row =>
    (Text.pieces ' ' row).filterMap Text.readHex?

/-- A range of code points with a number that they share. -/
structure Span where
  first : Nat
  last : Nat
  value : Nat
deriving DecidableEq, Repr

/-- The ranges of a table; a range without a number has the number zero. -/
def readSpans (lines : List String) : List Span :=
  (readRows lines).filterMap fun
    | [first, last] => some ⟨first, last, 0⟩
    | [first, last, value] => some ⟨first, last, value⟩
    | _ => none

namespace Span

def contains (s : Span) (c : Char) : Bool := s.first ≤ c.toNat && c.toNat ≤ s.last

/-- The number of the first range that holds the character. -/
def value? (spans : List Span) (c : Char) : Option Nat :=
  (spans.find? (·.contains c)).map Span.value

/-- One of the ranges holds the character. -/
def cover (spans : List Span) (c : Char) : Bool := spans.any (·.contains c)

end Span

end Tenancy.Hostname
