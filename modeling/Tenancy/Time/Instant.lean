import Tenancy.Time.Calendar
import Tenancy.Time.Duration

/-!
# Points in time

An `Instant` is a second since 1970-01-01T00:00:00Z and a nanosecond within it, in the years
-262143 to 262142. A leap second shares the number of the second before it and has nanoseconds
from `10 ^ 9` on, so it comes after that second and before the next minute.
-/

namespace Tenancy

/-- The first second of the year -262143. -/
abbrev firstSecond : Int := -8334601228800

/-- The last second of the year 262142. -/
abbrev lastSecond : Int := 8210266876799

/-- A point in time with nanoseconds. -/
structure Instant where
  second : Int
  nano : Nat
  second_ge : firstSecond ≤ second
  second_le : second ≤ lastSecond
  nano_lt : nano < 2 * nanosPerSecond
  leap : nanosPerSecond ≤ nano → second % 60 = 59
deriving DecidableEq

/-- The instant 1970-01-01T00:00:00Z. -/
instance : Inhabited Instant := ⟨⟨0, 0, by decide, by decide, by decide, by decide⟩⟩

namespace Instant

/-- The instant of that second and nanosecond, if it is in range. -/
def of? (second : Int) (nano : Nat) : Option Instant :=
  if h : firstSecond ≤ second ∧ second ≤ lastSecond ∧ nano < 2 * nanosPerSecond ∧
      (nanosPerSecond ≤ nano → second % 60 = 59) then
    some ⟨second, nano, h.1, h.2.1, h.2.2.1, h.2.2.2⟩
  else none

/-- The earlier instant comes first. -/
def compare (a b : Instant) : Ordering :=
  (Ord.compare a.second b.second).then (Ord.compare a.nano b.nano)

/-! ## Moving along the time line -/

/-- The instant `seconds` seconds and `nanos` nanoseconds from a point that may lie beyond a
whole second. -/
def ofSum? (seconds nanos : Int) : Option Instant :=
  of? (seconds + nanos / nanosPerSecond) (nanos % nanosPerSecond).toNat

/-- The instant `delta` nanoseconds later, or earlier if `delta` is negative. Only a move of less
than a second can stay within a leap second; any other one leaves it first, forwards to its own
second or backwards to the next one, which is where the clock stands after it. -/
def shift? (t : Instant) (delta : Int) : Option Instant :=
  let seconds := delta.tdiv nanosPerSecond
  let nanos := delta.tmod nanosPerSecond
  if nanosPerSecond ≤ t.nano then
    let fraction : Int := (t.nano : Int) - nanosPerSecond
    if 0 < seconds ∨ (0 < nanos ∧ nanosPerSecond ≤ fraction + nanos) then
      ofSum? (t.second + seconds) (fraction + nanos)
    else if seconds < 0 then ofSum? (t.second + 1 + seconds) (fraction + nanos)
    else of? t.second (t.nano + nanos).toNat
  else ofSum? (t.second + seconds) (t.nano + nanos)

/-- The longest move in nanoseconds: `2 ^ 63 - 1` milliseconds. -/
def longestMove : Nat := (2 ^ 63 - 1) * 1000000

/-- The instant after a duration; none for a duration longer than the longest move and for an
instant out of range. -/
def after? (t : Instant) (d : Duration) : Option Instant :=
  if d.nanoseconds ≤ longestMove then t.shift? d.nanoseconds else none

/-- The instant before a duration that is no longer than the longest move. -/
def before? (t : Instant) (d : Duration) : Option Instant := t.shift? (-(d.nanoseconds : Int))

end Instant

end Tenancy
