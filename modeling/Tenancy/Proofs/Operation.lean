import Tenancy.Queue.Worker
import Tenancy.Store.Idempotence
import Tenancy.Store.SqlQuery

/-!
# Operations

All entry points of stores, queries, idempotent writers, queues and workers in one type, so that
a statement about every operation is one statement. An `Operation ρ α` works on records of type
`ρ` and has results in `α`.
-/

namespace Tenancy

/-! ## Queries as they are built -/

/-- One call on a query before it is read. -/
inductive Query.Call where
  | restrict (filter : Filter)
  | require (field : String) (test : Test)
  | orderBy (field : String) (direction : Direction)
  | limit (n : Nat)
  | offset (n : Nat)
  | withDeleted

namespace Query

variable {ρ : Type}

def Call.apply (q : Query ρ) : Call → Query ρ
  | .restrict filter => q.restrict filter
  | .require field test => q.require field test
  | .orderBy field direction => q.orderBy field direction
  | .limit n => { q with limit := some n }
  | .offset n => { q with offset := some n }
  | .withDeleted => { q with withDeleted := true }

/-- The query after these calls. -/
def build (q : Query ρ) (calls : List Call) : Query ρ := calls.foldl Call.apply q

/-- No call changes the tenant or the store of a query. -/
theorem build_pinned (q : Query ρ) (calls : List Call) :
    (q.build calls).tenant = q.tenant ∧ (q.build calls).store = q.store := by
  induction calls generalizing q with
  | nil => exact ⟨rfl, rfl⟩
  | cons call calls ih =>
    obtain ⟨hTenant, hStore⟩ := ih (call.apply q)
    refine ⟨hTenant.trans ?_, hStore.trans ?_⟩ <;> cases call <;> rfl

end Query

/-! ## Operations -/

/-- An entry point with its arguments. -/
inductive Operation (ρ : Type) : Type → Type where
  | tenant (s : Store ρ) : Operation ρ TenantId
  | find (s : Store ρ) (filter : Filter) : Operation ρ (List ρ)
  | findOne (s : Store ρ) (filter : Filter) : Operation ρ (Option ρ)
  | findOneOrFail (s : Store ρ) (filter : Filter) : Operation ρ ρ
  | findById (s : Store ρ) (id : Value) : Operation ρ (Option ρ)
  | findByIdOrFail (s : Store ρ) (id : Value) : Operation ρ ρ
  | count (s : Store ρ) (filter : Filter) : Operation ρ Nat
  | exists? (s : Store ρ) (filter : Filter) : Operation ρ Bool
  | create (s : Store ρ) (partialRecord : Json) : Operation ρ ρ
  | saveAll (s : Store ρ) (records : List ρ) : Operation ρ (List ρ)
  | save (s : Store ρ) (record : ρ) : Operation ρ ρ
  | insertAll (s : Store ρ) (records : List ρ) : Operation ρ (List ρ)
  | insert (s : Store ρ) (record : ρ) : Operation ρ ρ
  | update (s : Store ρ) (filter : Filter) (patch : Patch) : Operation ρ Nat
  | updateById (s : Store ρ) (id : Value) (patch : Patch) : Operation ρ Bool
  | delete (s : Store ρ) (filter : Filter) : Operation ρ Nat
  | softDelete (s : Store ρ) (filter : Filter) : Operation ρ Nat
  | restore (s : Store ρ) (filter : Filter) : Operation ρ Nat
  | query (s : Store ρ) : Operation ρ (Query ρ)
  | sqlQuery (s : Store ρ) (name : String) : Operation ρ Sql.ScopedSelect
  | fetchAll (q : Query ρ) : Operation ρ (List ρ)
  | fetchOne (q : Query ρ) : Operation ρ (Option ρ)
  | countAll (q : Query ρ) : Operation ρ Nat
  | saveOnce (w : IdempotentWriter ρ) (record : ρ) : Operation ρ (Insertion ρ)
  | claimBatch (q : Queue ρ) (limit : Nat) : Operation ρ (ClaimedBatch ρ)
  | updateStatus (q : Queue ρ) (id status : Value) : Operation ρ Bool
  | markSuccess (q : Queue ρ) (id status : Value) : Operation ρ Bool
  | markFailureWith (q : Queue ρ) (id : Value) (fields : RetryFields) (attempts : Nat)
      (backoff : Backoff) : Operation ρ (Option ScheduledRetry)
  | markFailure (q : Queue ρ) (id : Value) (attempts : Nat) :
      Operation ρ (Option ScheduledRetry)
  | markExhausted (q : Queue ρ) (id status : Value) (attempts : Nat) : Operation ρ Bool
  | releaseStale (q : Queue ρ) (age : Duration) : Operation ρ Nat
  | runOnce (w : Worker ρ) : Operation ρ CycleReport

/-- The tenant that the context reports where `active` is the active tenant. -/
def TenantContext.reports (active : Option TenantId) : TenantContext → Option TenantId
  | .pinned t => some t
  | .ambient => active

namespace Operation

variable {ρ α : Type}

def program : Operation ρ α → Program ρ α
  | .tenant s => s.tenant
  | .find s filter => s.find filter
  | .findOne s filter => s.findOne filter
  | .findOneOrFail s filter => s.findOneOrFail filter
  | .findById s id => s.findById id
  | .findByIdOrFail s id => s.findByIdOrFail id
  | .count s filter => s.count filter
  | .exists? s filter => s.exists? filter
  | .create s partialRecord => s.create partialRecord
  | .saveAll s records => s.saveAll records
  | .save s record => s.save record
  | .insertAll s records => s.insertAll records
  | .insert s record => s.insert record
  | .update s filter patch => s.update filter patch
  | .updateById s id patch => s.updateById id patch
  | .delete s filter => s.delete filter
  | .softDelete s filter => s.softDelete filter
  | .restore s filter => s.restore filter
  | .query s => s.query
  | .sqlQuery s name => s.sqlQuery name
  | .fetchAll q => q.fetchAll
  | .fetchOne q => q.fetchOne
  | .countAll q => q.count
  | .saveOnce w record => w.save record
  | .claimBatch q limit => q.claimBatch limit
  | .updateStatus q id status => q.updateStatus id status
  | .markSuccess q id status => q.markSuccess id status
  | .markFailureWith q id fields attempts backoff => q.markFailureWith id fields attempts backoff
  | .markFailure q id attempts => q.markFailure id attempts
  | .markExhausted q id status attempts => q.markExhausted id status attempts
  | .releaseStale q age => q.releaseStale age
  | .runOnce w => w.runOnce

/-- The store that the operation works on. -/
def store : Operation ρ α → Store ρ
  | .tenant s | .find s _ | .findOne s _ | .findOneOrFail s _ | .findById s _
  | .findByIdOrFail s _ | .count s _ | .exists? s _ | .create s _ | .saveAll s _ | .save s _
  | .insertAll s _ | .insert s _ | .update s _ _ | .updateById s _ _ | .delete s _
  | .softDelete s _ | .restore s _ | .query s | .sqlQuery s _ => s
  | .fetchAll q | .fetchOne q | .countAll q => q.store
  | .saveOnce w _ => w.store
  | .claimBatch q _ | .updateStatus q _ _ | .markSuccess q _ _ | .markFailureWith q _ _ _ _
  | .markFailure q _ _ | .markExhausted q _ _ _ | .releaseStale q _ => q.store
  | .runOnce w => w.queue.store

/-- The tenant under which the operation runs where `active` is the active tenant: that of the
query for reads of a query, and the one that the context reports for all others. -/
def tenant? (active : Option TenantId) : Operation ρ α → Option TenantId
  | .fetchAll q | .fetchOne q | .countAll q => some q.tenant
  | op => op.store.context.reports active

/-- The name under which the operation asks for the tenant first. -/
def entry : Operation ρ α → String
  | .tenant _ => "tenant_id"
  | .find _ _ => "find"
  | .findOne _ _ | .findOneOrFail _ _ | .findById _ _ | .findByIdOrFail _ _
  | .exists? _ _ => "find_one"
  | .count _ _ | .countAll _ => "count"
  | .create _ _ => "create"
  | .saveAll _ _ | .save _ _ => "save"
  | .insertAll _ _ | .insert _ _ => "insert"
  | .update _ _ _ | .updateById _ _ _ | .updateStatus _ _ _ | .markSuccess _ _ _
  | .markExhausted _ _ _ _ => "update"
  | .delete _ _ => "delete"
  | .softDelete _ _ => "soft_delete"
  | .restore _ _ => "restore"
  | .query _ | .fetchAll _ | .fetchOne _ => "scoped_query"
  | .sqlQuery _ _ => "scoped_sql"
  | .saveOnce _ _ => "save_with_idempotency"
  | .claimBatch _ _ => "claim_batch"
  | .markFailureWith _ _ _ _ _ | .markFailure _ _ _ => "mark_failure_with_backoff"
  | .releaseStale _ _ => "release_stale_claims"
  | .runOnce w => if w.settings.staleAfter.isSome then "release_stale_claims" else "claim_batch"

/-- The records in a result. -/
def records : Operation ρ α → α → List ρ
  | .find _ _, found | .saveAll _ _, found | .insertAll _ _, found | .fetchAll _, found => found
  | .findOne _ _, found | .findById _ _, found | .fetchOne _, found => found.toList
  | .findOneOrFail _ _, record | .findByIdOrFail _ _, record | .create _ _, record
  | .save _ _, record | .insert _ _, record => [record]
  | .saveOnce _ _, insertion => [insertion.record]
  | .claimBatch _ _, batch => batch.records
  | .tenant _, _ | .count _ _, _ | .exists? _ _, _ | .update _ _ _, _ | .updateById _ _ _, _
  | .delete _ _, _ | .softDelete _ _, _ | .restore _ _, _ | .query _, _ | .sqlQuery _ _, _
  | .countAll _, _ | .updateStatus _ _ _, _ | .markSuccess _ _ _, _
  | .markFailureWith _ _ _ _ _, _ | .markFailure _ _ _, _ | .markExhausted _ _ _ _, _
  | .releaseStale _ _, _ | .runOnce _, _ => []

end Operation

/-! ## A queue of jobs

The store and the queue that statements about single runs are about. -/

namespace Jobs

def descriptor : Descriptor :=
  .ofFields "jobs" ["id", "tenant_id", "status", "created_at", "due_at", "attempts", "claimed_at"]

def columns : ColumnMap where
  table := "jobs"
  pairs := descriptor.fields.map fun field => ⟨field, field⟩
  fields_nodup := by decide
  columns_nodup := by decide

/-- Records are JSON values, and the tenant is the active one. -/
def store : Store Json :=
  ⟨.json, .ambient, descriptor, columns, ⟨"jobs", "id", "tenant_id", none, []⟩, rfl⟩

def roles : QueueRoles :=
  ⟨"status", .text "PENDING", .text "TAKEN", "created_at", "due_at", none, "attempts",
    some "claimed_at"⟩

def queue : Queue Json :=
  ⟨store, roles, ⟨"status", .text "PENDING", .text "TAKEN", "created_at", "due_at", none,
    some "claimed_at"⟩, .standard, rfl⟩

def tenant : TenantId := ⟨⟨1, by decide⟩⟩

/-- Another tenant. -/
def stranger : TenantId := ⟨⟨2, by decide⟩⟩

/-- The time 1970-01-01T00:00:00Z. -/
def epoch : Instant := default

/-- The row of a job of the tenant that waits. -/
def waiting (id : String) : Row :=
  .ofEntries [("id", .string id), ("tenant_id", .string tenant.text), ("status", .string "PENDING")]

/-- A claim of one job. -/
def claim : Claim := { queue.columns with limit := 1, now := epoch }

/-! ### Jobs as typed records -/

/-- A record that knows its id as an identifier, and its attempts as a number. -/
structure Ticket where
  id : Uuid
  attempts : Nat

/-- An identifier in any of its spellings. -/
def Ticket.readId : Option Json → Option Uuid
  | some (.string text) => Uuid.ofText? text
  | _ => none

/-- A number within the limit of the counter; none if it is left out. -/
def Ticket.readAttempts : Option Json → Option Nat
  | none => some 0
  | some (.number n) => n.asNat?.filter (· ≤ attemptLimit)
  | some _ => none

/-- Tickets are read with their id in any spelling, and written with it in lower case. -/
def Ticket.codec : Codec Ticket where
  encode t := .ok (.object
    [("attempts", (Value.ofNat t.attempts).toJson), ("id", .string t.id.text)])
  decode
    | .object fields =>
      match readId ((Row.ofEntries fields).get? "id"),
        readAttempts ((Row.ofEntries fields).get? "attempts") with
      | some id, some attempts => .ok ⟨id, attempts⟩
      | _, _ => .error "not a ticket"
    | _ => .error "not a ticket"

/-- The identifier 00000000-0000-0000-0000-00000000000a. -/
def ticketId : Uuid := ⟨10, by decide⟩

/-- The queue of jobs whose records are tickets. -/
def ticketQueue : Queue Ticket :=
  ⟨⟨Ticket.codec, .ambient, descriptor, columns, store.table, rfl⟩, roles, queue.columns, .standard,
    rfl⟩

end Jobs

end Tenancy
