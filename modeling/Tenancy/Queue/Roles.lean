import Tenancy.Program

/-!
# Fields of a queue

A table serves as a queue when some of its fields take the roles of status, creation time, time
of the next attempt, and number of attempts, with two status values that mark a row as waiting
and as taken.
-/

namespace Tenancy

/-- The fields that take the roles of a queue. -/
structure QueueRoles where
  status : String
  pending : Value
  inProgress : Value
  createdAt : String
  nextAttemptAt : String
  /-- A second field before whose time a row is not due. -/
  schedule : Option String
  attempts : String
  /-- Stamped with the time of each claim, so that stale claims can be told. -/
  claimedAt : Option String

/-- The fields that are written when a failed row goes back to the queue. -/
structure RetryFields where
  attempts : String
  nextAttemptAt : String
  status : String
  pending : Value

namespace QueueRoles

/-- The fields of the failure write-back. -/
def retryFields (r : QueueRoles) : RetryFields :=
  ⟨r.attempts, r.nextAttemptAt, r.status, r.pending⟩

/-- All fields with a role. -/
def fields (r : QueueRoles) : List String :=
  [r.status, r.createdAt, r.nextAttemptAt, r.attempts] ++ r.schedule.toList ++ r.claimedAt.toList

/-- The columns of the roles. No role may fall on the id or the tenant field, the two status
values must be distinct and not `null`, and every field must be declared. -/
def resolve (r : QueueRoles) (descriptor : Descriptor) (columns : ColumnMap) :
    Except StoreError ClaimColumns := do
  match r.fields.find? fun f => f = descriptor.tenantField || f = descriptor.idField with
  | some field => throw (.configuration (.reservedRole field descriptor.table))
  | none => pure ()
  if r.pending.isNull || r.inProgress.isNull || r.pending.same r.inProgress then
    throw (.configuration .indistinctStatuses)
  let _ ← columns.column r.attempts
  let status ← columns.column r.status
  let createdAt ← columns.column r.createdAt
  let nextAttemptAt ← columns.column r.nextAttemptAt
  let schedule ← r.schedule.mapM columns.column
  let claimedAt ← r.claimedAt.mapM columns.column
  pure ⟨status, r.pending, r.inProgress, createdAt, nextAttemptAt, schedule, claimedAt⟩

end QueueRoles

end Tenancy
