import Tenancy.Number.Power

/-!
# Lengths of time

A `Duration` counts nanoseconds and is shorter than `2 ^ 64` seconds.
-/

namespace Tenancy

/-- Nanoseconds in a second. -/
abbrev nanosPerSecond : Nat := 1000000000

/-- A length of time in nanoseconds, below `2 ^ 64` seconds. -/
structure Duration where
  nanoseconds : Nat
  bounded : nanoseconds < 2 ^ 64 * nanosPerSecond
deriving DecidableEq

namespace Duration

def ofNanos? (n : Nat) : Option Duration :=
  if h : n < 2 ^ 64 * nanosPerSecond then some ⟨n, h⟩ else none

/-- The longest duration. -/
def longest : Duration := ⟨2 ^ 64 * nanosPerSecond - 1, by decide⟩

/-- So many nanoseconds, or the longest duration if that is too long. -/
def ofNanos (n : Nat) : Duration := (ofNanos? n).getD longest

def ofSeconds (n : Nat) : Duration := ofNanos (n * nanosPerSecond)

def ofMillis (n : Nat) : Duration := ofNanos (n * 1000000)

def zero : Duration := ⟨0, by decide⟩

/-- Whole seconds. -/
def seconds (d : Duration) : Nat := d.nanoseconds / nanosPerSecond

/-- The nanoseconds beyond the whole seconds. -/
def subsecond (d : Duration) : Nat := d.nanoseconds % nanosPerSecond

/-- Whole milliseconds. -/
def millis (d : Duration) : Nat := d.nanoseconds / 1000000

/-- A multiple, unless it is too long. -/
def scale? (d : Duration) (factor : Nat) : Option Duration := ofNanos? (d.nanoseconds * factor)

/-- The shorter of two durations. -/
def shorter (a b : Duration) : Duration := if a.nanoseconds ≤ b.nanoseconds then a else b

/-! ## Text -/

/-- The digits of a fraction of `places` places without trailing zeros, after a point; nothing
for a zero fraction. -/
def fractionText (places fraction : Nat) : String :=
  let digits := fraction.repr.toList
  let padded := List.replicate (places - digits.length) '0' ++ digits
  let kept := (padded.reverse.dropWhile (· == '0')).reverse
  if kept.isEmpty then "" else "." ++ String.ofList kept

/-- The largest unit of which there is at least one, with the rest as a decimal fraction. -/
def text (d : Duration) : String :=
  let n := d.nanoseconds
  if nanosPerSecond ≤ n then
    toString (n / nanosPerSecond) ++ fractionText 9 (n % nanosPerSecond) ++ "s"
  else if 1000000 ≤ n then toString (n / 1000000) ++ fractionText 6 (n % 1000000) ++ "ms"
  else if 1000 ≤ n then toString (n / 1000) ++ fractionText 3 (n % 1000) ++ "µs"
  else toString n ++ "ns"

end Duration

end Tenancy
