import Tenancy.Queue.Worker
import Tenancy.Settings.Number

/-!
# Settings of a worker

A worker's numbers can be set from outside, under names that begin with a stem of the worker's
own.
-/

namespace Tenancy.WorkerSettings

/-- The settings with those numbers replaced that are set. The names are checked in the order in
which they stand here. -/
def override (s : WorkerSettings) (stem : String) (lookup : Lookup) :
    Except SettingError WorkerSettings := do
  let number := fun (limit : Nat) (name : String) =>
    Setting.number limit lookup (stem ++ "_" ++ name)
  let batchSize ← number Setting.limit64 "BATCH_SIZE"
  let pollInterval ← number Setting.limit64 "POLL_INTERVAL_MS"
  let maxAttempts ← number Setting.limit32 "MAX_ATTEMPTS"
  let base ← number Setting.limit64 "BACKOFF_BASE_SECS"
  let cap ← number Setting.limit64 "BACKOFF_CAP_SECS"
  let staleAfter ← number Setting.limit64 "STALE_AFTER_SECS"
  pure { s with
    batchSize := batchSize.getD s.batchSize
    pollInterval := (pollInterval.map Duration.ofMillis).getD s.pollInterval
    maxAttempts := maxAttempts.orElse fun _ => s.maxAttempts
    backoff := ⟨(base.map Duration.ofSeconds).getD s.backoff.base,
      (cap.map Duration.ofSeconds).getD s.backoff.cap⟩
    staleAfter := (staleAfter.map Duration.ofSeconds).orElse fun _ => s.staleAfter }

end Tenancy.WorkerSettings
