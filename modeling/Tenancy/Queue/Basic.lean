import Tenancy.Queue.Backoff
import Tenancy.Queue.Roles
import Tenancy.Store.Reads
import Tenancy.Store.Writes

/-!
# Queues

A `Queue` hands out the due rows of its store in batches. A claimed row stays in progress until
its outcome is written back: success, a retry after a delay, or exhaustion. Claims that were
never finished can be released after some time.
-/

namespace Tenancy

/-- A store that serves as a queue. -/
structure Queue (ρ : Type) where
  store : Store ρ
  roles : QueueRoles
  columns : ClaimColumns
  backoff : Backoff
  resolved : roles.resolve store.descriptor store.columns = .ok columns

/-- Records claimed together, oldest first, and the time of the claim. -/
structure ClaimedBatch (ρ : Type) where
  records : List ρ
  claimedAt : Instant

/-- A failed row on its way back to the queue. -/
structure ScheduledRetry where
  attempts : Nat
  delay : Duration
  nextAttemptAt : Instant

/-- Counters of attempts stop here. -/
def attemptLimit : Nat := 2 ^ 32 - 1

/-- The count after one more attempt. -/
def nextAttempt (attempts : Nat) : Nat := min (attempts + 1) attemptLimit

namespace Queue

variable {ρ : Type}

/-- The queue of a store, if the roles fit its table. -/
def ofRoles (store : Store ρ) (roles : QueueRoles) (backoff : Backoff) :
    Except StoreError (Queue ρ) :=
  match h : roles.resolve store.descriptor store.columns with
  | .ok columns => .ok ⟨store, roles, columns, backoff, h⟩
  | .error e => .error e

/-! ## Claims -/

/-- Claims at most `limit` due rows, oldest first. A limit of zero needs no command. -/
def claimBatch (q : Queue ρ) (limit : Nat) : Program ρ (ClaimedBatch ρ) := do
  let tenant ← q.store.requireTenant "claim_batch"
  let now ← Program.time
  if limit = 0 then return ⟨[], now⟩
  let claim : Claim := { q.columns with limit, now }
  let rows : List Row ← Program.send (.claim q.store.table tenant claim)
  let records ← Program.ofExcept (q.store.decodeRows rows)
  pure ⟨records, now⟩

/-! ## Write-backs -/

/-- Changes the status of a row, whatever it was. -/
def updateStatus (q : Queue ρ) (id status : Value) : Program ρ Bool :=
  q.store.updateById id (Patch.empty.set q.roles.status status)

/-- Moves a processed row to its final status. -/
def markSuccess (q : Queue ρ) (id status : Value) : Program ρ Bool := q.updateStatus id status

/-- Takes the time of the claim off a row, where there is one. -/
def clearClaim (q : Queue ρ) (patch : Patch) : Patch :=
  match q.roles.claimedAt with
  | some field => patch.set field .null
  | none => patch

/-- What a failed row is given: one attempt more, the time of the next one, and the status of
rows that wait. -/
def retryPatch (q : Queue ρ) (fields : RetryFields) (attempts : Nat) (next : Instant) : Patch :=
  q.clearClaim (((Patch.empty.set fields.attempts (.ofNat attempts)).set fields.nextAttemptAt
    (.timestamp next)).set fields.status fields.pending)

/-- Puts a failed row back into the queue after the delay for its attempts so far. None if the
tenant has no row of this id. -/
def markFailureWith (q : Queue ρ) (id : Value) (fields : RetryFields) (attempts : Nat)
    (backoff : Backoff) : Program ρ (Option ScheduledRetry) := do
  let _ ← q.store.requireTenant "mark_failure_with_backoff"
  let delay := backoff.delay attempts
  let now ← Program.time
  match now.after? delay with
  | none => Program.fail (.configuration (.delayOutOfRange delay))
  | some next =>
    let attempts := nextAttempt attempts
    let hit ← q.store.updateById id (q.retryPatch fields attempts next)
    pure (if hit then some ⟨attempts, delay, next⟩ else none)

/-- Puts a failed row back into the queue by the fields and the backoff of the queue. -/
def markFailure (q : Queue ρ) (id : Value) (attempts : Nat) :
    Program ρ (Option ScheduledRetry) :=
  q.markFailureWith id q.roles.retryFields attempts q.backoff

/-- Records the last attempt of a row and a status that no claim picks up. -/
def markExhausted (q : Queue ρ) (id status : Value) (attempts : Nat) : Program ρ Bool :=
  q.store.updateById id
    (q.clearClaim ((Patch.empty.set q.roles.status status).set q.roles.attempts
      (.ofNat (nextAttempt attempts))))

/-! ## Stale claims -/

/-- Puts back the rows in progress that were claimed more than `age` ago, and counts them. A time
that cannot be reached backwards aborts the program. -/
def releaseStale (q : Queue ρ) (age : Duration) : Program ρ Nat := do
  let _ ← q.store.requireTenant "release_stale_claims"
  match q.roles.claimedAt with
  | none => Program.fail (.configuration (.noClaimedAt q.store.table.name))
  | some claimedAt =>
    if Instant.longestMove < age.nanoseconds then
      Program.fail (.configuration .ageOutOfRange)
    else
      let now ← Program.time
      match now.before? age with
      | none => Program.abort
      | some cutoff =>
        q.store.update
          ((Filter.ofEq q.roles.status q.roles.inProgress).require claimedAt
            (.lt (.timestamp cutoff)))
          ((Patch.empty.set q.roles.status q.roles.pending).set claimedAt .null)

end Queue

end Tenancy
