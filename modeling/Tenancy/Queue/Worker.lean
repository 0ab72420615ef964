import Tenancy.Queue.Basic

/-!
# Workers

A `Worker` claims batches from a queue, runs its handler on every record and writes back the
outcome. A record whose outcome cannot be written back stays claimed and does not keep the others
from being handled.
-/

namespace Tenancy

/-- How a worker works. -/
structure WorkerSettings where
  name : String
  batchSize : Nat
  /-- The pause after an idle cycle. -/
  pollInterval : Duration
  /-- The number of attempts after which a row is given up. -/
  maxAttempts : Option Nat
  success : Value
  failed : Value
  backoff : Backoff
  /-- The age from which claims are released at the start of a cycle. -/
  staleAfter : Option Duration

namespace WorkerSettings

def standard : WorkerSettings :=
  ⟨"claim-worker", 10, Duration.ofSeconds 1, none, .text "DONE", .text "FAILED", .standard, none⟩

end WorkerSettings

/-- What one cycle did. -/
structure CycleReport where
  claimed : Nat
  succeeded : Nat
  retried : Nat
  exhausted : Nat
  released : Nat
  /-- Records whose outcome could not be written back. -/
  errors : Nat
deriving DecidableEq, Repr

/-- Totals over several cycles. -/
structure WorkerTotals where
  batches : Nat
  processed : Nat
  succeeded : Nat
  retried : Nat
  exhausted : Nat
  released : Nat
  errors : Nat
deriving DecidableEq, Repr

namespace WorkerTotals

def zero : WorkerTotals := ⟨0, 0, 0, 0, 0, 0, 0⟩

def toJson (t : WorkerTotals) : Json :=
  (Row.ofEntries [("batches", .ofNat t.batches), ("processed", .ofNat t.processed),
    ("succeeded", .ofNat t.succeeded), ("retried", .ofNat t.retried),
    ("exhausted", .ofNat t.exhausted), ("released", .ofNat t.released),
    ("errors", .ofNat t.errors)]).toJson

/-- Adds a finished cycle. -/
def record (t : WorkerTotals) (r : CycleReport) : WorkerTotals :=
  ⟨t.batches + 1, t.processed + r.claimed, t.succeeded + r.succeeded, t.retried + r.retried,
    t.exhausted + r.exhausted, t.released + r.released, t.errors + r.errors⟩

end WorkerTotals

/-- What was written back for a record. -/
inductive Outcome where
  | succeeded
  | retried
  | exhausted
deriving DecidableEq, Repr

namespace CycleReport

def toJson (r : CycleReport) : Json :=
  (Row.ofEntries [("claimed", .ofNat r.claimed), ("succeeded", .ofNat r.succeeded),
    ("retried", .ofNat r.retried), ("exhausted", .ofNat r.exhausted),
    ("released", .ofNat r.released), ("errors", .ofNat r.errors)]).toJson

/-- Counts the outcome of one record, or the failure to write it back. -/
def tally (r : CycleReport) : Except StoreError Outcome → CycleReport
  | .ok .succeeded => { r with succeeded := r.succeeded + 1 }
  | .ok .retried => { r with retried := r.retried + 1 }
  | .ok .exhausted => { r with exhausted := r.exhausted + 1 }
  | .error _ => { r with errors := r.errors + 1 }

end CycleReport

/-- A worker on a queue. -/
structure Worker (ρ : Type) where
  queue : Queue ρ
  settings : WorkerSettings

namespace Worker

variable {ρ : Type}

/-- The worker with these settings: it can release stale claims only if the queue stamps its
claims, and its success status must not be one of the queue's own. -/
def ofSettings (queue : Queue ρ) (settings : WorkerSettings) : Except StoreError (Worker ρ) := do
  if settings.staleAfter.isSome && queue.roles.claimedAt.isNone then
    throw (.configuration (.sweepWithoutClaimedAt settings.name))
  if settings.success.same queue.roles.inProgress || settings.success.same queue.roles.pending then
    throw (.configuration (.successIsQueueStatus settings.name))
  pure ⟨queue, settings⟩

/-- One more failure uses up the attempts of a row. -/
def isLastAttempt (w : Worker ρ) (attempts : Nat) : Bool :=
  w.settings.maxAttempts.any (· ≤ nextAttempt attempts)

/-- The number of attempts that a cell counts; anything that is no natural number counts none. -/
def attemptsOf : Option Json → Nat
  | some (.number n) => min (n.asNat?.getD 0) attemptLimit
  | _ => 0

/-- Runs the handler on a claimed record and writes back its outcome. Log lines are left out. The one
on a row that is given up shows the plain sum `attempts + 1`, which does not fit its counter at
`attemptLimit`: it wraps around there, or aborts where overflow is checked. What is written back is
`nextAttempt`, which saturates. -/
def finalize (w : Worker ρ) (record : ρ) : Program ρ Outcome := do
  let id ← Program.ofExcept (w.queue.store.recordId record)
  let cell ← Program.ofExcept (w.queue.store.fieldValue record w.queue.roles.attempts)
  let attempts := attemptsOf cell
  if ← Program.handle record then
    let _ ← w.queue.markSuccess id w.settings.success
    pure .succeeded
  else if w.isLastAttempt attempts then
    let _ ← w.queue.markExhausted id w.settings.failed attempts
    pure .exhausted
  else
    let _ ← w.queue.markFailureWith id w.queue.roles.retryFields attempts w.settings.backoff
    pure .retried

/-- Handles records one after the other and counts what became of them. -/
def finalizeAll (w : Worker ρ) : CycleReport → List ρ → Program ρ CycleReport
  | report, [] => pure report
  | report, record :: rest => do
    let outcome ← Program.attempt (w.finalize record)
    w.finalizeAll (report.tally outcome) rest

/-- One cycle: releases stale claims if that is asked for, claims a batch, and handles it. -/
def runOnce (w : Worker ρ) : Program ρ CycleReport := do
  let released ← match w.settings.staleAfter with
    | some age => w.queue.releaseStale age
    | none => pure 0
  let batch ← w.queue.claimBatch w.settings.batchSize
  w.finalizeAll ⟨batch.records.length, 0, 0, 0, released, 0⟩ batch.records

/-- Runs cycles up to the first idle one, which claims nothing or fails, at most `fuel` of them. A
cycle that aborts ends the worker and does not count. -/
def runUntilIdle (w : Worker ρ) : Nat → WorkerTotals → Program ρ WorkerTotals
  | 0, totals => pure totals
  | fuel + 1, totals => do
    match ← Program.settle w.runOnce with
    | .error .abort => pure totals
    | .error (.error _) => pure { totals with errors := totals.errors + 1 }
    | .ok report =>
      let totals := totals.record report
      if report.claimed = 0 then pure totals else w.runUntilIdle fuel totals

/-- The worker on its own: it does not see the tenant that is active where it is started. -/
def background (w : Worker ρ) (fuel : Nat) : Program ρ WorkerTotals :=
  Program.detached (w.runUntilIdle fuel .zero)

end Worker

end Tenancy
