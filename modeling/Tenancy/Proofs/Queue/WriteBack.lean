import Tenancy.Proofs.Backend.Ids
import Tenancy.Proofs.Patch
import Tenancy.Proofs.Runs

/-!
# Runs of a queue in memory

What a claim and the three ways to write back an outcome do to a table with unique ids
(`Queue.run_claimBatch`, `Queue.run_finalize`). A write-back of a row of the tenant either fails and
changes nothing, or it hits exactly this row and changes its roles only.
-/

namespace Tenancy

variable {ρ σ : Type}

/-! ## Roles in patches -/

namespace Queue

variable {q : Queue ρ} {tenant : TenantId} {now : Instant} {m : Memory} {i : Nat} {row : Row}

theorem get?_clearClaim (q : Queue ρ) (patch : Patch) (field : String) :
    (q.clearClaim patch).get? field =
      if q.roles.claimedAt = some field then some .null else patch.get? field := by
  unfold clearClaim
  cases q.roles.claimedAt with
  | none => simp
  | some claimedAt => simp [Patch.get?_set, eq_comm (a := field)]

/-- The patch assigns to fields with a role in the queue and to no other fields. -/
def OnRoles (q : Queue ρ) (patch : Patch) : Prop :=
  ∀ name value, patch.get? name = some value → name ∈ q.roles.fields

namespace OnRoles

variable {patch : Patch}

theorem empty (q : Queue ρ) : q.OnRoles Patch.empty := by
  intro name value hValue
  rw [Patch.get?_empty] at hValue
  cases hValue

theorem set (h : q.OnRoles patch) {role : String} (hRole : role ∈ q.roles.fields) (value : Value) :
    q.OnRoles (patch.set role value) := by
  intro name value hValue
  rw [Patch.get?_set] at hValue
  split at hValue
  · rename_i hName
    exact hName ▸ hRole
  · exact h name value hValue

theorem clearClaim (h : q.OnRoles patch) : q.OnRoles (q.clearClaim patch) := by
  intro name value hValue
  rw [get?_clearClaim] at hValue
  split at hValue
  · rename_i hClaimedAt
    simp [QueueRoles.fields, hClaimedAt]
  · exact h name value hValue

end OnRoles

theorem mem_fields (r : QueueRoles) :
    r.status ∈ r.fields ∧ r.nextAttemptAt ∈ r.fields ∧ r.attempts ∈ r.fields := by
  simp [QueueRoles.fields]

/-! ## Changes of one row -/

/-- A change of rows that leaves their id and their tenant alone. -/
structure KeepsIdentity (table : Table) (f : Row → Row) : Prop where
  id : ∀ row : Row, (f row).cell table.idColumn = row.cell table.idColumn
  tenant : ∀ row : Row, (f row).cell table.tenantColumn = row.cell table.tenantColumn

/-- Either nothing happened, or the row at one place was changed, with the status that is given. -/
def HitsOrFails (q : Queue ρ) (i : Nat) (status : Option Value) (m : Memory)
    (outcome : Except Failure Bool × Memory) : Prop :=
  (∃ e, outcome = (.error (.error e), m)) ∨
    ∃ f, outcome = (.ok true, m.setRows q.store.table.name
        (Memory.changeAt f [i] (m.rows q.store.table.name))) ∧
      KeepsIdentity q.store.table f ∧
      ∀ value, status = some value → ∀ row, (f row).cell q.columns.status = value.toJson

/-- A patch of roles, the status among them, goes to the row whose id it is sent to. -/
theorem run_updateById_status (now : Instant)
    (hContext : q.store.context.reports (some tenant) = some tenant)
    {patch : Patch} {status : Value} (hStatus : patch.get? q.roles.status = some status)
    (hRoles : q.OnRoles patch)
    (hIds : Memory.UniqueIds q.store.table (m.rows q.store.table.name))
    (hRow : (m.rows q.store.table.name)[i]? = some row)
    (hOwned : Memory.ownedBy q.store.table tenant row) :
    HitsOrFails q i (some status) m ((World.still (some tenant) now).run
      (q.store.updateById (.ofJson (row.cell q.store.table.idColumn)) patch) m) := by
  have hResolved := QueueRoles.resolved q.resolved
  obtain ⟨hScalar, hNull⟩ := hIds.scalar_of_mem (List.mem_of_getElem? hRow)
  obtain ⟨assignments, hAssignments, hSome⟩ := q.store.resolvePatch_ok (fun a ha => by
    obtain ⟨value, hAssigned⟩ := Patch.get?_of_mem ha
    exact hResolved.column_of_mem (hRoles _ _ hAssigned))
    (hResolved.reserved _ (hRoles _ _ hStatus)).1 hStatus
  have hPlace := hIds.placesOf_id hRow hOwned
  rw [Store.run_updateById (w := World.still (some tenant) now) hContext
    (q.store.scopeConditions_ofEq q.store.resolution.idColumn
      q.store.resolution.idField_ne_tenantField hNull) hAssignments hSome]
  simp only [World.still, Memory.backend]
  rcases Memory.update_eq q.store.table tenant
    [⟨q.store.table.idColumn, .eq (.ofJson (row.cell q.store.table.idColumn))⟩] assignments m with
    ⟨e, hUpdate⟩ | hUpdate
  · rw [hUpdate]
    exact .inl ⟨e, rfl⟩
  · rw [hUpdate, hPlace]
    refine .inr ⟨Memory.assign assignments, rfl, ⟨?_, ?_⟩, ?_⟩
    · -- No role is the id, so the patch does not assign to it.
      intro other
      have hName : patch.get? q.store.descriptor.idField = none := by
        by_contra hAssigned
        obtain ⟨value, hAssigned⟩ := Option.ne_none_iff_exists'.mp hAssigned
        exact (hResolved.reserved _ (hRoles _ _ hAssigned)).2 rfl
      have hCell := Store.get?_assign hAssignments q.store.resolution.idColumn
        q.store.resolution.idField_ne_tenantField other
      rw [Row.cell, hCell, hName]
      rfl
    · intro other
      rw [Row.cell, Store.get?_assign_tenant hAssignments other]
      rfl
    · intro value hValue other
      cases hValue
      have hCell := Store.get?_assign hAssignments hResolved.status
        (hResolved.reserved _ (hRoles _ _ hStatus)).1 other
      rw [Row.cell, hCell, hStatus]
      rfl

/-! ## The three ways to finalize a row -/

end Queue

/-- The outcome that is written back for a claimed row. -/
inductive Verdict where
  | failure (attempts : Nat)
  | success (status : Value)
  | exhausted (status : Value) (attempts : Nat)

namespace Verdict

/-- The status of a row that does not go back to the queue. -/
def status? : Verdict → Option Value
  | .failure _ => none
  | .success status | .exhausted status _ => some status

end Verdict

namespace Queue

variable {q : Queue ρ} {tenant : TenantId} {now : Instant} {m : Memory} {i : Nat} {row : Row}

/-- Writes back the outcome; tells whether there was a row of this id. -/
def finalize (q : Queue ρ) (id : Value) : Verdict → Program ρ Bool
  | .failure attempts => do pure (← q.markFailure id attempts).isSome
  | .success status => q.markSuccess id status
  | .exhausted status attempts => q.markExhausted id status attempts

/-- The report of a failure is an update at an instant that can be reached, or it fails. -/
theorem run_markFailureWith {w : World σ ρ}
    (hContext : q.store.context.reports w.tenant = some tenant) (id : Value) (fields : RetryFields)
    (attempts : Nat) (backoff : Backoff) (x : σ) :
    w.run (q.markFailureWith id fields attempts backoff) x =
      match (w.time x).1.after? (backoff.delay attempts) with
      | none => (.error (.error (.configuration (.delayOutOfRange (backoff.delay attempts)))),
          (w.time x).2)
      | some next =>
        match w.run (q.store.updateById id (q.retryPatch fields (nextAttempt attempts) next))
          (w.time x).2 with
        | (.error e, y) => (.error e, y)
        | (.ok hit, y) => (.ok (if hit then
            some ⟨nextAttempt attempts, backoff.delay attempts, next⟩ else none), y) := by
  rw [markFailureWith, Store.run_scope hContext, World.run_bind, World.run_time]
  dsimp only
  cases (w.time x).1.after? (backoff.delay attempts) with
  | none => rfl
  | some next =>
    dsimp only
    rw [World.run_bind]
    generalize World.run _ _ _ = outcome
    obtain ⟨e | hit, y⟩ := outcome <;> rfl

theorem run_markFailure {active : Option TenantId}
    (hContext : q.store.context.reports active = some tenant) (id : Value) (attempts : Nat)
    (m : Memory) :
    (World.still active now).run (q.markFailure id attempts) m =
      match now.after? (q.backoff.delay attempts) with
      | none => (.error (.error (.configuration
          (.delayOutOfRange (q.backoff.delay attempts)))), m)
      | some next =>
        match (World.still active now).run (q.store.updateById id
          (q.retryPatch q.roles.retryFields (nextAttempt attempts) next)) m with
        | (.error e, m) => (.error e, m)
        | (.ok hit, m) => (.ok (if hit then
            some ⟨nextAttempt attempts, q.backoff.delay attempts, next⟩ else none), m) := by
  rw [markFailure, run_markFailureWith (w := World.still active now) hContext]
  simp only [World.time_still]
  cases now.after? (q.backoff.delay attempts) with
  | none => rfl
  | some next =>
    dsimp only
    generalize World.run _ _ m = outcome
    obtain ⟨e | hit, m'⟩ := outcome <;> rfl

theorem run_finalize_failure (hContext : q.store.context.reports (some tenant) = some tenant)
    (id : Value) (attempts : Nat) (m : Memory) :
    (World.still (some tenant) now).run (q.finalize id (.failure attempts)) m =
      match now.after? (q.backoff.delay attempts) with
      | none => (.error (.error (.configuration
          (.delayOutOfRange (q.backoff.delay attempts)))), m)
      | some next => (World.still (some tenant) now).run (q.store.updateById id
          (q.retryPatch q.roles.retryFields (nextAttempt attempts) next)) m := by
  rw [finalize, World.run_bind, run_markFailure hContext]
  cases now.after? (q.backoff.delay attempts) with
  | none => rfl
  | some next =>
    dsimp only
    generalize World.run _ _ m = outcome
    obtain ⟨e | hit, m'⟩ := outcome
    · rfl
    · cases hit <;> rfl

theorem claimedAt_ne_status (hDistinct : q.roles.fields.Nodup) :
    q.roles.claimedAt ≠ some q.roles.status := by
  intro hClaimedAt
  simp [QueueRoles.fields, hClaimedAt] at hDistinct

theorem attempts_ne_status (hDistinct : q.roles.fields.Nodup) :
    q.roles.attempts ≠ q.roles.status := by
  intro hAttempts
  simp [QueueRoles.fields, hAttempts] at hDistinct

/-- A write-back to a row of the tenant hits it, or fails and changes nothing. -/
theorem run_finalize (hContext : q.store.context.reports (some tenant) = some tenant)
    (hDistinct : q.roles.fields.Nodup) (verdict : Verdict)
    (hIds : Memory.UniqueIds q.store.table (m.rows q.store.table.name))
    (hRow : (m.rows q.store.table.name)[i]? = some row)
    (hOwned : Memory.ownedBy q.store.table tenant row) :
    HitsOrFails q i verdict.status? m ((World.still (some tenant) now).run
      (q.finalize (.ofJson (row.cell q.store.table.idColumn)) verdict) m) := by
  obtain ⟨hStatus, hNextAttemptAt, hAttempts⟩ := mem_fields q.roles
  cases verdict with
  | failure attempts =>
    rw [run_finalize_failure hContext]
    split
    · exact .inl ⟨_, rfl⟩
    · rename_i next hNext
      have hPending : (q.retryPatch q.roles.retryFields (nextAttempt attempts) next).get?
          q.roles.status = some q.roles.pending := by
        rw [retryPatch, get?_clearClaim, if_neg (claimedAt_ne_status hDistinct), Patch.get?_set]
        exact if_pos rfl
      have hRoles : q.OnRoles (q.retryPatch q.roles.retryFields (nextAttempt attempts) next) :=
        ((((OnRoles.empty q).set hAttempts _).set hNextAttemptAt _).set hStatus _).clearClaim
      rcases run_updateById_status now hContext hPending hRoles hIds hRow hOwned with
        hFails | ⟨f, hRun, hKeeps, -⟩
      · exact .inl hFails
      · refine .inr ⟨f, hRun, hKeeps, ?_⟩
        intro value hNone
        cases hNone
  | success status =>
    have hValue : (Patch.empty.set q.roles.status status).get? q.roles.status = some status := by
      rw [Patch.get?_set, if_pos rfl]
    exact run_updateById_status now hContext hValue ((OnRoles.empty q).set hStatus _) hIds hRow
      hOwned
  | exhausted status attempts =>
    have hValue : (q.clearClaim ((Patch.empty.set q.roles.status status).set q.roles.attempts
        (.ofNat (nextAttempt attempts)))).get? q.roles.status = some status := by
      rw [get?_clearClaim, if_neg (claimedAt_ne_status hDistinct), Patch.get?_set,
        if_neg (attempts_ne_status hDistinct).symm, Patch.get?_set, if_pos rfl]
    exact run_updateById_status now hContext hValue
      (((OnRoles.empty q).set hStatus _).set hAttempts _).clearClaim hIds hRow hOwned

/-! ## Claims -/

/-- A batch is decoded from the rows that the backend answers. -/
theorem run_claimBatch_eq {w : World σ ρ}
    (hContext : q.store.context.reports w.tenant = some tenant) (limit : Nat) (x : σ) :
    w.run (q.claimBatch limit) x =
      if limit = 0 then (.ok ⟨[], (w.time x).1⟩, (w.time x).2)
      else match w.backend (.claim q.store.table tenant
          { q.columns with limit, now := (w.time x).1 }) (w.time x).2 with
        | (.ok rows, y) => (((q.store.decodeRows rows).map
            (ClaimedBatch.mk · (w.time x).1)).mapError .error, y)
        | (.error e, y) => (.error (.error e), y) := by
  rw [claimBatch, Store.run_scope hContext, World.run_bind, World.run_time]
  dsimp only
  split
  · rfl
  · refine (World.run_send_bind _ (.claim q.store.table tenant
      { q.columns with limit, now := (w.time x).1 }) _ (w.time x).2).trans ?_
    generalize w.backend _ _ = answered
    obtain ⟨e | rows, y⟩ := answered
    · rfl
    · dsimp only
      rw [World.run_bind, World.run_ofExcept]
      cases q.store.decodeRows rows <;> rfl

/-- A batch is decoded from the rows that the claim takes. -/
theorem run_claimBatch {active : Option TenantId}
    (hContext : q.store.context.reports active = some tenant) (limit : Nat) (m : Memory) :
    (World.still active now).run (q.claimBatch limit) m =
      if limit = 0 then (.ok ⟨[], now⟩, m)
      else (((q.store.decodeRows
          (m.claim q.store.table tenant { q.columns with limit, now }).1).map
          (ClaimedBatch.mk · now)).mapError .error,
        (m.claim q.store.table tenant { q.columns with limit, now }).2) :=
  run_claimBatch_eq (w := World.still active now) hContext limit m

end Queue

end Tenancy
