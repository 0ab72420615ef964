import Tenancy.Time.Duration

/-!
# Delays between attempts

The delay before an attempt doubles with every failure and never exceeds a cap.
-/

namespace Tenancy

/-- The delay after no failure, and the longest delay. -/
structure Backoff where
  base : Duration
  cap : Duration
deriving DecidableEq

namespace Backoff

/-- Five seconds at first and an hour at most. -/
def standard : Backoff := ⟨Duration.ofSeconds 5, Duration.ofSeconds 3600⟩

/-- Doubling goes on for this many failures; after that the cap applies. -/
def doublings : Nat := 32

/-- The delay after so many failures. A delay that has no `Duration` gives way to the cap. -/
def delay (b : Backoff) (failures : Nat) : Duration :=
  if failures < doublings then
    match b.base.scale? (2 ^ failures) with
    | some d => d.shorter b.cap
    | none => b.cap
  else b.cap

end Backoff

end Tenancy
