import Tenancy.Proofs.Queue.Retry
import Tenancy.Proofs.Queue.Terminal

/-!
# Commands of operations

Which commands the operations on stored records send, whatever they are answered
(`Program.Sends`). Reads and deletions name a tenant and conditions. All other changes are updates
that come from patches, so what is asked of these commands is asked of the patches
(`Store.Admits`), and for everything that a queue and its workers do it is enough to ask it of
claims and of reports (`Queue.Grants`).
-/

namespace Tenancy

variable {ρ α : Type} {P : Command → Prop}

/-! ## Stores -/

namespace Store

variable {s : Store ρ}

/-- All updates of the table by this patch satisfy `P`. -/
def Admits (s : Store ρ) (P : Command → Prop) (patch : Patch) : Prop :=
  ∀ tenant conditions assignments, s.resolvePatch patch = .ok assignments →
    P (.update s.table tenant conditions assignments)

/-- The question for the tenant is no command. -/
theorem requireTenant_sends (s : Store ρ) (operation : String) :
    (s.requireTenant operation).Sends P := by
  have hCurrent : (TenantContext.current s.context : Program ρ _).Sends P := by
    cases s.context with
    | pinned t => exact .pure _
    | ambient => exact Honors.ask trivial fun _ _ => trivial
  refine hCurrent.bind fun found => ?_
  cases found with
  | none => exact .fail _
  | some t => exact .pure t

/-! ### Reads -/

section Reads

variable (h : ∀ tenant selection, P (.select s.table tenant selection))
include h

theorem selectRecords_sends (tenant : TenantId) (selection : Selection) :
    (s.selectRecords tenant selection).Sends P :=
  (Program.Sends.send (h tenant selection)).bind fun _ => .ofExcept _

theorem find_sends (filter : Filter) : (s.find filter).Sends P :=
  (s.requireTenant_sends _).bind fun tenant => (Program.Sends.ofExcept _).bind fun _ =>
    selectRecords_sends h tenant _

theorem findOne_sends (filter : Filter) : (s.findOne filter).Sends P :=
  (s.requireTenant_sends _).bind fun tenant => (Program.Sends.ofExcept _).bind fun _ =>
    (selectRecords_sends h tenant _).bind fun _ => .pure _

theorem findOneOrFail_sends (filter : Filter) : (s.findOneOrFail filter).Sends P := by
  refine (findOne_sends h filter).bind fun found => ?_
  cases found with
  | none => exact .fail _
  | some record => exact .pure _

theorem findByIdOrFail_sends (id : Value) : (s.findByIdOrFail id).Sends P := by
  refine (findOne_sends h _).bind fun found => ?_
  cases found with
  | none => exact .fail _
  | some record => exact .pure _

end Reads

theorem count_sends (h : ∀ tenant conditions, P (.count s.table tenant conditions))
    (filter : Filter) : (s.count filter).Sends P :=
  (s.requireTenant_sends _).bind fun tenant => (Program.Sends.ofExcept _).bind fun conditions =>
    .send (h tenant conditions)

theorem create_sends (partialRecord : Json) : (s.create partialRecord).Sends P := by
  refine (s.requireTenant_sends _).bind fun tenant => ?_
  cases partialRecord with
  | object fields => exact (Program.Sends.pure _).bind fun _ => .ofExcept _
  | null => exact (Program.Sends.pure _).bind fun _ => .ofExcept _
  | _ => exact (Program.Sends.fail _).bind fun _ => .ofExcept _

theorem query_sends (s : Store ρ) : s.query.Sends P :=
  (s.requireTenant_sends _).bind fun _ => .pure _

theorem sqlQuery_sends (s : Store ρ) (name : String) : (s.sqlQuery name).Sends P :=
  (s.requireTenant_sends _).bind fun _ => .ofExcept _

/-! ### Writes -/

theorem insertAll_sends {records : List ρ}
    (h : ∀ tenant rows, records.mapM (s.encodeRow tenant) = .ok rows → P (.insert s.table rows)) :
    (s.insertAll records).Sends P := by
  refine (s.requireTenant_sends _).bind fun tenant => ?_
  split
  · exact .pure _
  · refine .check fun rows hRows => ?_
    exact (Program.Sends.send (h tenant rows hRows)).bind fun _ => .ofExcept _

theorem insert_sends {record : ρ}
    (h : ∀ tenant rows, [record].mapM (s.encodeRow tenant) = .ok rows → P (.insert s.table rows)) :
    (s.insert record).Sends P := by
  refine (insertAll_sends h).bind fun inserted => ?_
  split
  · exact .pure _
  · exact .fail _

theorem update_sends {patch : Patch} (h : s.Admits P patch) (filter : Filter) :
    (s.update filter patch).Sends P := by
  refine (s.requireTenant_sends _).bind fun tenant => (Program.Sends.ofExcept _).bind
    fun conditions => .check fun assignments hAssignments => ?_
  split
  · exact .pure _
  · exact (Program.Sends.send (h tenant conditions assignments hAssignments)).bind fun _ => .pure _

theorem updateById_sends {patch : Patch} (h : s.Admits P patch) (id : Value) :
    (s.updateById id patch).Sends P :=
  (update_sends h _).bind fun _ => .pure _

theorem delete_sends (h : ∀ tenant conditions, P (.delete s.table tenant conditions))
    (filter : Filter) : (s.delete filter).Sends P :=
  (s.requireTenant_sends _).bind fun tenant => (Program.Sends.ofExcept _).bind fun conditions =>
    .send (h tenant conditions)

theorem softDeleteField_eq_ok {field : String} (h : s.softDeleteField = .ok field) :
    s.descriptor.softDeleteField = some field := by
  unfold softDeleteField at h
  split at h
  · rename_i hField
    rw [hField, Except.ok.inj h]
  · cases h

theorem softDelete_sends (h : ∀ field now, s.descriptor.softDeleteField = some field →
      s.Admits P (Patch.empty.set field (.timestamp now))) (filter : Filter) :
    (s.softDelete filter).Sends P :=
  (s.requireTenant_sends _).bind fun _ => .check fun field hField =>
    Program.Sends.time.bind fun now =>
      update_sends (h field now (softDeleteField_eq_ok hField)) _

theorem restore_sends (h : ∀ field, s.descriptor.softDeleteField = some field →
      s.Admits P (Patch.empty.set field .null)) (filter : Filter) :
    (s.restore filter).Sends P :=
  (s.requireTenant_sends _).bind fun _ => .check fun field hField =>
    update_sends (h field (softDeleteField_eq_ok hField)) _

end Store

/-! ## Queries -/

namespace Query

variable {q : Query ρ}

theorem fetchAll_sends (h : ∀ tenant selection, P (.select q.store.table tenant selection)) :
    q.fetchAll.Sends P :=
  (Program.Sends.ofExcept _).bind fun _ => Store.selectRecords_sends h _ _

theorem fetchOne_sends (h : ∀ tenant selection, P (.select q.store.table tenant selection)) :
    q.fetchOne.Sends P :=
  (Program.Sends.ofExcept _).bind fun _ =>
    (Store.selectRecords_sends h _ _).bind fun _ => .pure _

theorem count_sends (h : ∀ tenant conditions, P (.count q.store.table tenant conditions)) :
    q.count.Sends P :=
  (Program.Sends.ofExcept _).bind fun _ => .send (h _ _)

end Query

/-! ## Queues -/

namespace Queue

variable {q : Queue ρ}

theorem claimBatch_sends
    (h : ∀ tenant limit now, P (.claim q.store.table tenant { q.columns with limit, now }))
    (limit : Nat) : (q.claimBatch limit).Sends P := by
  refine (q.store.requireTenant_sends _).bind fun tenant => Program.Sends.time.bind fun now => ?_
  split
  · exact .pure _
  · exact (Program.Sends.send (h tenant limit now)).bind fun rows =>
      (Program.Sends.ofExcept _).bind fun _ => .pure _

theorem updateStatus_sends {status : Value}
    (h : q.store.Admits P (Patch.empty.set q.roles.status status)) (id : Value) :
    (q.updateStatus id status).Sends P :=
  Store.updateById_sends h id

theorem markExhausted_sends {status : Value} {attempts : Nat}
    (h : q.store.Admits P (q.clearClaim ((Patch.empty.set q.roles.status status).set
      q.roles.attempts (.ofNat (nextAttempt attempts))))) (id : Value) :
    (q.markExhausted id status attempts).Sends P :=
  Store.updateById_sends h id

theorem markFailureWith_sends {fields : RetryFields} {attempts : Nat}
    (h : ∀ next, q.store.Admits P (q.retryPatch fields (nextAttempt attempts) next)) (id : Value)
    (backoff : Backoff) : (q.markFailureWith id fields attempts backoff).Sends P := by
  refine (q.store.requireTenant_sends _).bind fun _ => Program.Sends.time.bind fun now => ?_
  split
  · exact .fail _
  · exact (Store.updateById_sends (h _) id).bind fun _ => .pure _

theorem releaseStale_sends (h : q.store.Admits P q.releasePatch) (age : Duration) :
    (q.releaseStale age).Sends P := by
  rw [releasePatch, clearClaim] at h
  refine (q.store.requireTenant_sends _).bind fun _ => ?_
  split
  · exact .fail _
  · rename_i claimedAt hClaimedAt
    rw [hClaimedAt] at h
    split
    · exact .fail _
    · refine Program.Sends.time.bind fun now => ?_
      split
      · exact .abort
      · exact Store.update_sends h _

/-! ### Fields of the patches -/

variable {field : String} {value : Value}

theorem mem_of_statusPatch {status : Value}
    (h : (Patch.empty.set q.roles.status status).get? field = some value) :
    field ∈ [q.roles.status] := by
  rw [Patch.get?_set] at h
  split_ifs at h with hStatus
  · exact List.mem_singleton.mpr hStatus
  · cases h

theorem mem_of_clearClaim {patch : Patch} (fields : List String)
    (hPatch : ∀ {field value}, patch.get? field = some value → field ∈ fields)
    (h : (q.clearClaim patch).get? field = some value) :
    field ∈ fields ++ q.roles.claimedAt.toList := by
  rw [get?_clearClaim] at h
  rw [List.mem_append]
  split_ifs at h with hClaimedAt
  · exact .inr (by simp [hClaimedAt])
  · exact .inl (hPatch h)

theorem mem_of_exhaustedPatch {status : Value} {attempts : Nat}
    (h : (q.clearClaim ((Patch.empty.set q.roles.status status).set q.roles.attempts
      (.ofNat attempts))).get? field = some value) :
    field ∈ q.roles.status :: q.roles.attempts :: q.roles.claimedAt.toList := by
  refine mem_of_clearClaim [q.roles.status, q.roles.attempts] ?_ h
  intro field value hValue
  rw [Patch.get?_set] at hValue
  split_ifs at hValue with hAttempts
  · simp [hAttempts]
  · exact List.mem_cons.mpr (.inl (List.mem_singleton.mp (mem_of_statusPatch hValue)))

theorem written_subset (r : QueueRoles) :
    [r.status] ⊆ r.written ∧ r.status :: r.claimedAt.toList ⊆ r.written ∧
      r.status :: r.attempts :: r.claimedAt.toList ⊆ r.written := by
  refine ⟨by simp [QueueRoles.written], ?_, ?_⟩
  · exact (((List.Sublist.refl _).cons _).cons _).cons_cons _ |>.subset
  · exact ((List.Sublist.refl _).cons _).cons_cons _ |>.subset

/-! ### All commands of a queue -/

/-- `P` holds of the claims of the queue and of all reports to the fields that the queue writes. -/
structure Grants (q : Queue ρ) (P : Command → Prop) : Prop where
  claim : ∀ tenant limit now, P (.claim q.store.table tenant { q.columns with limit, now })
  report : ∀ patch, q.IsReport patch →
    (∀ field value, patch.get? field = some value → field ∈ q.roles.written) →
      q.store.Admits P patch

namespace Grants

theorem claimBatch (h : q.Grants P) (limit : Nat) : (q.claimBatch limit).Sends P :=
  claimBatch_sends h.claim limit

theorem updateStatus (h : q.Grants P) (id status : Value) : (q.updateStatus id status).Sends P :=
  updateStatus_sends (h.report _ (q.isReport_statusPatch status) fun _ _ hValue =>
    (written_subset q.roles).1 (mem_of_statusPatch hValue)) id

theorem markExhausted (h : q.Grants P) (id status : Value) (attempts : Nat) :
    (q.markExhausted id status attempts).Sends P :=
  markExhausted_sends (h.report _ (q.isReport_exhaustedPatch status _) fun _ _ hValue =>
    (written_subset q.roles).2.2 (mem_of_exhaustedPatch hValue)) id

theorem markFailureWith (h : q.Grants P) (id : Value) (attempts : Nat) (backoff : Backoff) :
    (q.markFailureWith id q.roles.retryFields attempts backoff).Sends P :=
  markFailureWith_sends (fun next => h.report _ (q.isReport_retryPatch _ next)
    fun _ _ hValue => mem_written_of_retryPatch hValue) id backoff

theorem releaseStale (h : q.Grants P) (age : Duration) : (q.releaseStale age).Sends P :=
  releaseStale_sends (h.report _ q.isReport_releasePatch fun _ _ hValue =>
    (written_subset q.roles).2.1 (mem_of_clearClaim _ mem_of_statusPatch hValue)) age

end Grants

end Queue

/-! ## Workers -/

namespace Worker

variable {w : Worker ρ}

theorem finalize_sends (h : w.queue.Grants P) (record : ρ) : (w.finalize record).Sends P := by
  refine (Program.Sends.ofExcept _).bind fun id => (Program.Sends.ofExcept _).bind fun cell => ?_
  refine (Program.Sends.handle record).bind fun succeeds => ?_
  split
  · exact (h.updateStatus id _).bind fun _ => .pure _
  · split
    · exact (h.markExhausted id _ _).bind fun _ => .pure _
    · exact (h.markFailureWith id _ _).bind fun _ => .pure _

theorem finalizeAll_sends (h : w.queue.Grants P) (report : CycleReport) (records : List ρ) :
    (w.finalizeAll report records).Sends P := by
  induction records generalizing report with
  | nil => exact .pure _
  | cons record rest ih => exact (finalize_sends h record).attempt.bind fun _ => ih _

theorem runOnce_sends (h : w.queue.Grants P) : w.runOnce.Sends P := by
  have hSweep : w.sweep.Sends P := by
    unfold sweep
    split
    · exact h.releaseStale _
    · exact .pure _
  rw [runOnce_eq]
  exact hSweep.bind fun _ => (h.claimBatch _).bind fun _ => finalizeAll_sends h _ _

theorem runUntilIdle_sends (h : w.queue.Grants P) (fuel : Nat) (totals : WorkerTotals) :
    (w.runUntilIdle fuel totals).Sends P := by
  induction fuel generalizing totals with
  | zero => exact .pure _
  | succ fuel ih =>
    refine (runOnce_sends h).settle.bind fun outcome => ?_
    rcases outcome with (e | _) | report
    · exact .pure _
    · exact .pure _
    · dsimp only
      split
      · exact .pure _
      · exact ih _

end Worker

end Tenancy
