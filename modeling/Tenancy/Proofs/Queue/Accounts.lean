import Tenancy.Proofs.Exchanges
import Tenancy.Proofs.Queue.Terminal

/-!
# A cycle accounts for every record

A cycle of a worker fails only if its sweep or its claim fails. Otherwise there is an `Account` of
each record of the batch, in the order of the batch: a record that cannot be read is left alone, and
every other one is handed to the handler once, and then one write-back is made that the verdict of
the handler calls for (`Worker.Settles`). However the write-back ends, the next record follows. The
report counts the outcomes in these accounts (`cycle_accounts`).

All of this holds in every world, that is, for any backend and any handler.
-/

namespace Tenancy

variable {ρ α β σ : Type}

/-! ## Programs that call no handler -/

/-- The answers may be any, and the handler is not called. -/
def unattended (ρ : Type) : Terms (Question ρ) Question.Answer where
  answers _ _ := True
  asks
    | .handle _ => False
    | _ => True

theorem World.respects_unattended (w : World σ ρ) : w.Respects (unattended ρ) fun _ => True :=
  fun _ _ _ _ => ⟨trivial, trivial⟩

/-- Whatever it is answered, the program does not call the handler. -/
abbrev Program.Unattended (p : Program ρ α) : Prop :=
  Honors (unattended ρ) p (fun _ => True) fun _ => True

/-- Whatever it is answered, the program does not call the handler, and it ends with a result or an
error. -/
abbrev Program.Returns (p : Program ρ α) : Prop :=
  Honors (unattended ρ) p (fun _ => True) (· ≠ .abort)

namespace Program.Returns

theorem unattended {p : Program ρ α} (h : p.Returns) : p.Unattended :=
  Dialogue.Honors.mono (fun outcome _ => by cases outcome <;> trivial) h

theorem run_ne_abort {p : Program ρ α} (h : p.Returns) (w : World σ ρ) (s : σ) :
    (w.run p s).1 ≠ .error .abort := by
  have hMeets := (Honors.run h w.respects_unattended (s := s) trivial).1
  intro hAbort
  rw [hAbort] at hMeets
  exact hMeets rfl

theorem bind {p : Program ρ α} {f : α → Program ρ β} (h : p.Returns)
    (hf : ∀ a, (f a).Returns) : (p >>= f).Returns :=
  Honors.bind h fun a _ => hf a

theorem pure (a : α) : (Pure.pure a : Program ρ α).Returns := Honors.pure trivial

theorem fail (e : StoreError) : (Program.fail e : Program ρ α).Returns := Honors.fail nofun

theorem ofExcept (x : Except StoreError α) : (Program.ofExcept x : Program ρ α).Returns :=
  Honors.ofExcept (fun _ _ => trivial) fun _ _ => nofun

theorem time : (Program.time : Program ρ Instant).Returns := Honors.ask trivial fun _ _ => trivial

theorem send (c : Command) : (Program.send c : Program ρ _).Returns :=
  Honors.send trivial (fun _ _ => trivial) fun _ _ => nofun

theorem requireTenant (s : Store ρ) (operation : String) :
    (s.requireTenant operation).Returns := by
  have hCurrent : (TenantContext.current s.context : Program ρ _).Returns := by
    cases s.context with
    | pinned t => exact pure _
    | ambient => exact Honors.ask trivial fun _ _ => trivial
  refine hCurrent.bind fun found => ?_
  cases found with
  | none => exact fail _
  | some t => exact pure t

theorem update (s : Store ρ) (filter : Filter) (patch : Patch) :
    (s.update filter patch).Returns := by
  refine (requireTenant s _).bind fun _ => (ofExcept _).bind fun _ => (ofExcept _).bind fun _ => ?_
  split
  · exact pure _
  · exact (send _).bind fun _ => pure _

theorem claimBatch (q : Queue ρ) (limit : Nat) : (q.claimBatch limit).Returns := by
  refine (requireTenant _ _).bind fun _ => time.bind fun _ => ?_
  split
  · exact pure _
  · exact (send _).bind fun _ => (ofExcept _).bind fun _ => pure _

theorem markFailureWith (q : Queue ρ) (id : Value) (fields : RetryFields) (attempts : Nat)
    (backoff : Backoff) : (q.markFailureWith id fields attempts backoff).Returns := by
  refine (requireTenant _ _).bind fun _ => time.bind fun _ => ?_
  split
  · exact fail _
  · exact Returns.bind ((update _ _ _).bind fun _ => pure _) fun _ => pure _

end Program.Returns

namespace Program.Unattended

theorem handledRecords_eq_nil {p : Program ρ α} (h : p.Unattended) (w : World σ ρ) (s : σ) :
    w.handledRecords p s = [] := by
  have hAsks := (Honors.run h w.respects_unattended (s := s) trivial).2.2
  rw [World.handledRecords, List.filterMap_eq_nil_iff]
  rintro ⟨q, answer⟩ hx
  have hAsk := hAsks q (by
    rw [World.questions, ← Dialogue.map_exchanges]
    exact List.mem_map_of_mem (List.mem_of_mem_filter hx))
  cases q with
  | handle record => exact hAsk.elim
  | _ => rfl

theorem bind {p : Program ρ α} {f : α → Program ρ β} (h : p.Unattended)
    (hf : ∀ a, (f a).Unattended) : (p >>= f).Unattended :=
  Honors.bind h fun a _ => hf a

theorem pure (a : α) : (Pure.pure a : Program ρ α).Unattended := Honors.pure trivial

theorem fail (e : StoreError) : (Program.fail e : Program ρ α).Unattended := Honors.fail trivial

theorem abort : (Program.abort : Program ρ α).Unattended := Honors.abort trivial

theorem claimBatch (q : Queue ρ) (limit : Nat) : (q.claimBatch limit).Unattended :=
  (Returns.claimBatch q limit).unattended

theorem releaseStale (q : Queue ρ) (age : Duration) : (q.releaseStale age).Unattended := by
  refine (Returns.requireTenant _ _).unattended.bind fun _ => ?_
  split
  · exact fail _
  · split
    · exact fail _
    · refine Returns.time.unattended.bind fun _ => ?_
      split
      · exact abort
      · exact (Returns.update _ _ _).unattended

theorem sweep (w : Worker ρ) : w.sweep.Unattended := by
  unfold Worker.sweep
  split
  · exact releaseStale _ _
  · exact pure _

end Program.Unattended

/-! ## Deeds of write-backs -/

namespace Store

variable {s : Store ρ} {w : World σ ρ} {tenant : TenantId}

theorem deeds_scope (hContext : s.context.reports w.tenant = some tenant) (operation : String)
    (f : TenantId → Program ρ α) (x : σ) :
    w.deeds (s.requireTenant operation >>= f) x = w.deeds (f tenant) x := by
  have hNone : w.deeds (s.requireTenant operation) x = [] := by
    unfold requireTenant
    cases hCase : s.context with
    | pinned t => rfl
    | ambient =>
      rw [hCase] at hContext
      have hTenant : w.tenant = some tenant := hContext
      rw [World.deeds_bind, TenantContext.current, World.run_activeTenant, hTenant]
      rfl
  rw [World.deeds_bind, run_requireTenant hContext, hNone]
  rfl

/-- An update whose id and patch are accepted is one command. -/
theorem deeds_updateById (hContext : s.context.reports w.tenant = some tenant) {id : Value}
    {patch : Patch} {conditions : List Condition} {assignments : List Assignment}
    (hConditions : s.scopeConditions (s.idFilter id) = .ok conditions)
    (hAssignments : s.resolvePatch patch = .ok assignments) (hSome : assignments ≠ []) (x : σ) :
    w.deeds (s.updateById id patch) x =
      [⟨.backend (.update s.table tenant conditions assignments),
        (w.backend (.update s.table tenant conditions assignments) x).1⟩] := by
  have hNonempty : assignments.isEmpty = false := by simpa using hSome
  refine (w.deeds_map _ _ x).trans ?_
  rw [update, deeds_scope hContext]
  simp only [hConditions, hAssignments, hNonempty, Program.ofExcept, pure_bind,
    Bool.false_eq_true, ite_false]
  exact (w.deeds_map _ _ x).trans (w.deeds_send _ x)

end Store

namespace Queue

variable {q : Queue ρ} {w : World σ ρ} {tenant : TenantId}

/-- One write-back of a verdict: what is done for it, and how it ends. A final verdict is one
update of the rows with the id. For a retry the time is asked for, and there is one update, too,
unless the time of the next attempt cannot be reached. -/
inductive WritesBack (q : Queue ρ) (tenant : TenantId) (id : Value) :
    Verdict → List (Exchange ρ) → Except StoreError Unit → Prop
  | final {verdict : Verdict} {assignments : List Assignment}
      {answer : Except StoreError (List Row)} (hFinal : verdict.status?.isSome)
      (hAssignments : ∀ next,
        q.store.resolvePatch (q.verdictPatch next verdict) = .ok assignments) :
      WritesBack q tenant id verdict
        [⟨.backend (.update q.store.table tenant [q.store.idCondition id] assignments), answer⟩]
        (answer.map fun _ => ())
  | retry {attempts : Nat} {now next : Instant} {assignments : List Assignment}
      {answer : Except StoreError (List Row)}
      (hNext : now.after? (q.backoff.delay attempts) = some next)
      (hAssignments : q.store.resolvePatch (q.verdictPatch next (.failure attempts)) =
        .ok assignments) :
      WritesBack q tenant id (.failure attempts)
        [⟨.time, now⟩,
          ⟨.backend (.update q.store.table tenant [q.store.idCondition id] assignments), answer⟩]
        (answer.map fun _ => ())
  | outOfRange {attempts : Nat} {now : Instant}
      (hNext : now.after? (q.backoff.delay attempts) = none) :
      WritesBack q tenant id (.failure attempts) [⟨.time, now⟩]
        (.error (.configuration (.delayOutOfRange (q.backoff.delay attempts))))

/-- The handler is not called for a write-back. -/
theorem WritesBack.handledRecords {id : Value} {verdict : Verdict} {deeds : List (Exchange ρ)}
    {result : Except StoreError Unit} (h : q.WritesBack tenant id verdict deeds result) :
    deeds.filterMap Exchange.handled? = [] := by
  cases h <;> rfl

/-- How a run ends, without its result. -/
def ending (outcome : Except Failure α) : Except Failure Unit := outcome.map fun _ => ()

/-- A program with a fixed result ends as the one before it. -/
theorem run_const {p : Program ρ α} {result : Except StoreError Unit} {x : σ}
    (h : ending (w.run p x).1 = result.mapError .error) (b : β) :
    (w.run (p >>= fun _ => pure b) x).1 = (result.map fun _ => b).mapError .error := by
  rw [World.run_bind]
  revert h
  generalize w.run p x = outcome
  obtain ⟨e | a, y⟩ := outcome <;> intro h <;> cases result <;> cases h <;> rfl

theorem ending_updateById (hContext : q.store.context.reports w.tenant = some tenant) (id : Value)
    {patch : Patch} {assignments : List Assignment}
    (hAssignments : q.store.resolvePatch patch = .ok assignments) (hSome : assignments ≠ [])
    (x : σ) :
    ∃ answer : Except StoreError (List Row),
      w.deeds (q.store.updateById id patch) x =
        [⟨.backend (.update q.store.table tenant [q.store.idCondition id] assignments), answer⟩] ∧
      ending (w.run (q.store.updateById id patch) x).1 =
        (answer.map fun _ => ()).mapError .error := by
  have hConditions := q.store.scopeConditions_idFilter id
  refine ⟨_, Store.deeds_updateById hContext hConditions hAssignments hSome x, ?_⟩
  rw [Store.run_updateById hContext hConditions hAssignments hSome]
  generalize w.backend _ x = answered
  obtain ⟨e | rows, y⟩ := answered <;> rfl

theorem writesBack_final (hContext : q.store.context.reports w.tenant = some tenant) (id : Value)
    {verdict : Verdict} (hFinal : verdict.status?.isSome) (x : σ) :
    ∃ result, q.WritesBack tenant id verdict (w.deeds (q.finalize id verdict) x) result ∧
      ending (w.run (q.finalize id verdict) x).1 = result.mapError .error := by
  -- The patch of a final verdict does not depend on a time.
  have hSame : ∀ next, q.finalize id verdict = q.store.updateById id (q.verdictPatch next verdict) ∧
      q.verdictPatch next verdict = q.verdictPatch default verdict := by
    cases verdict with
    | failure attempts => cases hFinal
    | success status => exact fun _ => ⟨rfl, rfl⟩
    | exhausted status attempts => exact fun _ => ⟨rfl, rfl⟩
  obtain ⟨assignments, hAssignments, hSome⟩ :=
    (q.isReport_verdictPatch default verdict).exists_assignments
  obtain ⟨answer, hDeeds, hEnding⟩ := ending_updateById hContext id hAssignments hSome x
  rw [(hSame default).1, hDeeds]
  exact ⟨_, .final hFinal fun next => (hSame next).2 ▸ hAssignments, hEnding⟩

theorem deeds_finalize_failure (hContext : q.store.context.reports w.tenant = some tenant)
    (id : Value) (attempts : Nat) (x : σ) :
    w.deeds (q.finalize id (.failure attempts)) x =
      ⟨.time, (w.time x).1⟩ :: match (w.time x).1.after? (q.backoff.delay attempts) with
        | none => []
        | some next => w.deeds (q.store.updateById id (q.verdictPatch next (.failure attempts)))
            (w.time x).2 := by
  refine (w.deeds_map _ _ x).trans ?_
  rw [markFailure, markFailureWith, Store.deeds_scope hContext, World.deeds_bind,
    World.deeds_time, World.run_time]
  refine congrArg (List.cons _) ?_
  dsimp only
  cases (w.time x).1.after? (q.backoff.delay attempts) with
  | none => rfl
  | some next => exact w.deeds_map _ _ _

theorem ending_finalize_failure (hContext : q.store.context.reports w.tenant = some tenant)
    (id : Value) (attempts : Nat) (x : σ) :
    ending (w.run (q.finalize id (.failure attempts)) x).1 =
      match (w.time x).1.after? (q.backoff.delay attempts) with
        | none => .error (.error (.configuration (.delayOutOfRange (q.backoff.delay attempts))))
        | some next => ending (w.run (q.store.updateById id
            (q.verdictPatch next (.failure attempts))) (w.time x).2).1 := by
  rw [finalize, World.run_bind, markFailure, run_markFailureWith hContext]
  cases (w.time x).1.after? (q.backoff.delay attempts) with
  | none => rfl
  | some next =>
    dsimp only [verdictPatch]
    generalize w.run _ (w.time x).2 = outcome
    obtain ⟨e | hit, y⟩ := outcome <;> rfl

/-- Every verdict is written back once. -/
theorem writesBack_finalize (hContext : q.store.context.reports w.tenant = some tenant)
    (id : Value) (verdict : Verdict) (x : σ) :
    ∃ result, q.WritesBack tenant id verdict (w.deeds (q.finalize id verdict) x) result ∧
      ending (w.run (q.finalize id verdict) x).1 = result.mapError .error := by
  cases verdict with
  | success status => exact writesBack_final hContext id rfl x
  | exhausted status attempts => exact writesBack_final hContext id rfl x
  | failure attempts =>
    rw [deeds_finalize_failure hContext, ending_finalize_failure hContext]
    cases hNext : (w.time x).1.after? (q.backoff.delay attempts) with
    | none => exact ⟨_, .outOfRange hNext, rfl⟩
    | some next =>
      obtain ⟨assignments, hAssignments, hSome⟩ :=
        (q.isReport_verdictPatch next (.failure attempts)).exists_assignments
      obtain ⟨answer, hDeeds, hEnding⟩ :=
        ending_updateById hContext id hAssignments hSome (w.time x).2
      dsimp only
      rw [hDeeds, hEnding]
      exact ⟨_, .retry hNext hAssignments, rfl⟩

end Queue

/-! ## Accounts -/

/-- A record, what was done for it, and how that ended. -/
structure Account (ρ : Type) where
  record : ρ
  deeds : List (Exchange ρ)
  outcome : Except StoreError Outcome

namespace Account

/-- The outcome was written back. -/
def ended (a : Account ρ) (outcome : Outcome) : Bool :=
  match a.outcome with
  | .ok o => o == outcome
  | .error _ => false

/-- The record could not be read, or its outcome could not be written back. -/
def failed (a : Account ρ) : Bool :=
  match a.outcome with
  | .ok _ => false
  | .error _ => true

/-- Counts the outcomes of accounts, one after the other. -/
def tally (report : CycleReport) (ledger : List (Account ρ)) : CycleReport :=
  ledger.foldl (fun r a => r.tally a.outcome) report

theorem tally_eq (report : CycleReport) (ledger : List (Account ρ)) :
    tally report ledger =
      { claimed := report.claimed
        succeeded := report.succeeded + ledger.countP (·.ended .succeeded)
        retried := report.retried + ledger.countP (·.ended .retried)
        exhausted := report.exhausted + ledger.countP (·.ended .exhausted)
        released := report.released
        errors := report.errors + ledger.countP (·.failed) } := by
  induction ledger generalizing report with
  | nil => rfl
  | cons a ledger ih =>
    refine (ih (report.tally a.outcome)).trans ?_
    simp only [List.countP_cons, ended, failed]
    rcases a.outcome with e | (_ | _ | _) <;> simp [CycleReport.tally] <;> omega

/-- Every account counts once. -/
theorem countP_outcomes (ledger : List (Account ρ)) :
    ledger.countP (·.ended .succeeded) + ledger.countP (·.ended .retried) +
      ledger.countP (·.ended .exhausted) + ledger.countP (·.failed) = ledger.length := by
  induction ledger with
  | nil => rfl
  | cons a ledger ih =>
    have hOne : (if a.ended .succeeded then 1 else 0) + (if a.ended .retried then 1 else 0) +
        (if a.ended .exhausted then 1 else 0) + (if a.failed then 1 else 0) = 1 := by
      unfold ended failed
      rcases a.outcome with e | (_ | _ | _) <;> rfl
    simp only [List.countP_cons, List.length_cons]
    omega

end Account

namespace Worker

variable {w : Worker ρ} {world : World σ ρ} {tenant : TenantId}

/-- The id and the attempts that are read off a record before it is handled. -/
def reading (w : Worker ρ) (record : ρ) : Except StoreError (Value × Nat) := do
  let id ← w.queue.store.recordId record
  let cell ← w.queue.store.fieldValue record w.queue.roles.attempts
  pure (id, attemptsOf cell)

/-- What a worker does for a record: nothing if it cannot be read, and otherwise it hands it to the
handler once and writes back the verdict once. -/
inductive Settles (w : Worker ρ) (tenant : TenantId) : Account ρ → Prop
  | unread {record : ρ} {e : StoreError} (hReading : w.reading record = .error e) :
      Settles w tenant ⟨record, [], .error e⟩
  | handled {record : ρ} {id : Value} {attempts : Nat} {succeeds : Bool}
      {deeds : List (Exchange ρ)} {result : Except StoreError Unit}
      (hReading : w.reading record = .ok (id, attempts))
      (hWrites : w.reporter.WritesBack tenant id (w.verdict attempts succeeds) deeds result) :
      Settles w tenant ⟨record, ⟨.handle record, succeeds⟩ :: deeds,
        result.map fun _ => (w.verdict attempts succeeds).outcome⟩

theorem finalize_eq_reading (w : Worker ρ) (record : ρ) :
    w.finalize record = (do
      let read ← Program.ofExcept (w.reading record)
      let succeeds ← Program.handle record
      let _ ← w.reporter.finalize read.1 (w.verdict read.2 succeeds)
      pure (w.verdict read.2 succeeds).outcome) := by
  rw [finalize_eq, reading]
  cases w.queue.store.recordId record with
  | error e => rfl
  | ok id =>
    cases w.queue.store.fieldValue record w.queue.roles.attempts with
    | error e => rfl
    | ok cell => rfl

/-- The finalization of a record settles it; it does not abort. -/
theorem settles_finalize (hContext : w.queue.store.context.reports world.tenant = some tenant)
    (record : ρ) (x : σ) :
    ∃ outcome, w.Settles tenant ⟨record, world.deeds (w.finalize record) x, outcome⟩ ∧
      (world.run (w.finalize record) x).1 = outcome.mapError .error := by
  rw [finalize_eq_reading]
  cases hReading : w.reading record with
  | error e => exact ⟨_, .unread hReading, rfl⟩
  | ok read =>
    obtain ⟨id, attempts⟩ := read
    obtain ⟨result, hWrites, hEnding⟩ := Queue.writesBack_finalize (q := w.reporter) hContext id
      (w.verdict attempts (world.handle record x).1) (world.handle record x).2
    refine ⟨result.map fun _ => (w.verdict attempts (world.handle record x).1).outcome, ?_, ?_⟩
    · rw [Program.ofExcept, pure_bind, World.deeds_bind, World.deeds_handle, World.run_handle]
      dsimp only
      rw [World.deeds_map]
      exact .handled hReading hWrites
    · rw [Program.ofExcept, pure_bind, World.run_bind, World.run_handle]
      exact Queue.run_const hEnding _

/-- Records that are finalized one after the other are settled, all of them. -/
theorem settles_finalizeAll (hContext : w.queue.store.context.reports world.tenant = some tenant)
    (report : CycleReport) (records : List ρ) (x : σ) :
    ∃ ledger : List (Account ρ), ledger.map (·.record) = records ∧
      (∀ a ∈ ledger, w.Settles tenant a) ∧
      world.deeds (w.finalizeAll report records) x = ledger.flatMap (·.deeds) ∧
      (world.run (w.finalizeAll report records) x).1 = .ok (Account.tally report ledger) := by
  induction records generalizing report x with
  | nil => exact ⟨[], rfl, by simp, rfl, rfl⟩
  | cons record rest ih =>
    obtain ⟨outcome, hSettles, hRun⟩ := settles_finalize hContext record x
    have hAttempt : ∃ y, world.run (Program.attempt (w.finalize record)) x = (.ok outcome, y) := by
      rw [World.run_attempt]
      revert hRun
      generalize world.run (w.finalize record) x = result
      obtain ⟨e | a, y⟩ := result <;> intro hRun <;> cases outcome <;> cases hRun <;> exact ⟨y, rfl⟩
    obtain ⟨y, hAttempt⟩ := hAttempt
    obtain ⟨ledger, hRecords, hAll, hDeeds, hTally⟩ := ih (report.tally outcome) y
    refine ⟨⟨record, _, outcome⟩ :: ledger, by rw [List.map_cons, hRecords],
      List.forall_mem_cons.mpr ⟨hSettles, hAll⟩, ?_, ?_⟩
    · rw [finalizeAll, World.deeds_bind, World.deeds_attempt, hAttempt, List.flatMap_cons, ← hDeeds]
    · rw [finalizeAll, World.run_bind, hAttempt]
      exact hTally

/-- The records that are handed to the handler are those that can be read. -/
theorem Settles.handledRecords {a : Account ρ} (h : w.Settles tenant a) :
    a.deeds.filterMap Exchange.handled? = [a.record].filter fun r => (w.reading r).isOk := by
  cases h with
  | unread hReading => simp [hReading, Except.isOk, Except.toBool]
  | handled hReading hWrites =>
    simp [Exchange.handled?, hWrites.handledRecords, hReading, Except.isOk, Except.toBool]

theorem handledRecords_ledger {ledger : List (Account ρ)} (h : ∀ a ∈ ledger, w.Settles tenant a) :
    (ledger.flatMap (·.deeds)).filterMap Exchange.handled? =
      (ledger.map (·.record)).filter fun r => (w.reading r).isOk := by
  induction ledger with
  | nil => rfl
  | cons a ledger ih =>
    obtain ⟨hFirst, hRest⟩ := List.forall_mem_cons.mp h
    rw [List.flatMap_cons, List.filterMap_append, hFirst.handledRecords, ih hRest,
      ← List.filter_append, List.map_cons, List.singleton_append]

/-- The last attempt is the one with which the count reaches the maximum. -/
theorem isLastAttempt_iff (hMax : ∀ max ∈ w.settings.maxAttempts, max ≤ attemptLimit)
    (attempts : Nat) :
    w.isLastAttempt attempts ↔ ∃ max ∈ w.settings.maxAttempts, max ≤ attempts + 1 := by
  rw [isLastAttempt, nextAttempt]
  cases hCase : w.settings.maxAttempts with
  | none => simp
  | some max =>
    have hLimit := hMax max hCase
    simp only [Option.any_some, decide_eq_true_eq, Option.mem_def, Option.some.injEq,
      exists_eq_left']
    omega

/-- What the report of a cycle accounts for: the sweep, the batch, and one account of each record of
the batch. -/
structure AccountsFor (w : Worker ρ) (world : World σ ρ) (tenant : TenantId) (x : σ)
    (report : CycleReport) (batch : ClaimedBatch ρ) (ledger : List (Account ρ)) : Prop where
  /-- The sweep and the claim succeeded, and nothing but them comes before the accounts. -/
  begins : ∃ y z, world.run w.sweep x = (.ok report.released, y) ∧
    world.run (w.queue.claimBatch w.settings.batchSize) y = (.ok batch, z) ∧
    world.deeds w.runOnce x = world.deeds w.sweep x ++
      (world.deeds (w.queue.claimBatch w.settings.batchSize) y ++ ledger.flatMap (·.deeds))
  records : ledger.map (·.record) = batch.records
  settles : ∀ a ∈ ledger, w.Settles tenant a
  handled : world.handledRecords w.runOnce x =
    batch.records.filter fun record => (w.reading record).isOk
  claimed : report.claimed = batch.records.length
  succeeded : report.succeeded = ledger.countP (·.ended .succeeded)
  retried : report.retried = ledger.countP (·.ended .retried)
  exhausted : report.exhausted = ledger.countP (·.ended .exhausted)
  errors : report.errors = ledger.countP (·.failed)
  total : report.claimed = report.succeeded + report.retried + report.exhausted + report.errors

theorem exists_tenant_of_claimBatch {q : Queue ρ} {limit : Nat} {batch : ClaimedBatch ρ} {x y : σ}
    (h : world.run (q.claimBatch limit) x = (.ok batch, y)) :
    ∃ tenant, q.store.context.reports world.tenant = some tenant := by
  cases hContext : q.store.context.reports world.tenant with
  | some tenant => exact ⟨tenant, rfl⟩
  | none =>
    rw [Queue.claimBatch, Store.run_unscoped hContext] at h
    cases h

/-- What follows the sweep and the claim does not fail. -/
theorem runOnce_accounted (w : Worker ρ) {world : World σ ρ} {x y z : σ} {released : Nat}
    {batch : ClaimedBatch ρ} (hSweep : world.run w.sweep x = (.ok released, y))
    (hClaim : world.run (w.queue.claimBatch w.settings.batchSize) y = (.ok batch, z)) :
    ∃ report tenant ledger, (world.run w.runOnce x).1 = .ok report ∧
      w.queue.store.context.reports world.tenant = some tenant ∧
      w.AccountsFor world tenant x report batch ledger := by
  obtain ⟨tenant, hContext⟩ := exists_tenant_of_claimBatch hClaim
  obtain ⟨ledger, hRecords, hSettles, hDeeds, hRun⟩ := settles_finalizeAll hContext
    ⟨batch.records.length, 0, 0, 0, released, 0⟩ batch.records z
  simp only [Account.tally_eq, Nat.zero_add] at hRun
  have hAll : world.deeds w.runOnce x = world.deeds w.sweep x ++
      (world.deeds (w.queue.claimBatch w.settings.batchSize) y ++ ledger.flatMap (·.deeds)) := by
    rw [runOnce_eq, World.deeds_bind, hSweep]
    dsimp only
    rw [World.deeds_bind, hClaim]
    dsimp only
    rw [hDeeds]
  have hSame : world.run w.runOnce x =
      world.run (w.finalizeAll ⟨batch.records.length, 0, 0, 0, released, 0⟩ batch.records) z := by
    rw [runOnce_eq, World.run_bind, hSweep]
    dsimp only
    rw [World.run_bind, hClaim]
  have hHandled : world.handledRecords w.runOnce x =
      batch.records.filter fun record => (w.reading record).isOk := by
    have hNoSweep := (Program.Unattended.sweep w).handledRecords_eq_nil world x
    have hNoClaim := (Program.Unattended.claimBatch w.queue
      w.settings.batchSize).handledRecords_eq_nil world y
    rw [World.handledRecords] at hNoSweep hNoClaim ⊢
    rw [hAll, List.filterMap_append, List.filterMap_append, hNoSweep, hNoClaim,
      handledRecords_ledger hSettles, hRecords]
    rfl
  refine ⟨_, tenant, ledger, (congrArg Prod.fst hSame).trans hRun, hContext,
    ⟨y, z, hSweep, hClaim, hAll⟩, hRecords, hSettles, hHandled, rfl, rfl, rfl, rfl, rfl, ?_⟩
  rw [Account.countP_outcomes, ← hRecords, List.length_map]

/-- A cycle fails with its sweep or its claim and calls no handler, or its report accounts for the
batch. -/
theorem runOnce_cases (w : Worker ρ) (world : World σ ρ) (x : σ) :
    (∃ e, (world.run w.runOnce x).1 = .error e ∧
      ((world.run w.sweep x).1 = .error e ∨ ∃ released y,
        world.run w.sweep x = (.ok released, y) ∧
          (world.run (w.queue.claimBatch w.settings.batchSize) y).1 = .error e) ∧
      world.handledRecords w.runOnce x = []) ∨
    ∃ report tenant batch ledger, (world.run w.runOnce x).1 = .ok report ∧
      w.queue.store.context.reports world.tenant = some tenant ∧
      w.AccountsFor world tenant x report batch ledger := by
  have hNoSweep := (Program.Unattended.sweep w).handledRecords_eq_nil world x
  rw [World.handledRecords] at hNoSweep
  rcases hSweep : world.run w.sweep x with ⟨e | released, y⟩
  · refine .inl ⟨e, ?_, .inl rfl, ?_⟩
    · rw [runOnce_eq, World.run_bind, hSweep]
    · rw [World.handledRecords, runOnce_eq, World.deeds_bind, hSweep, List.filterMap_append,
        hNoSweep]
      rfl
  · rcases hClaim : world.run (w.queue.claimBatch w.settings.batchSize) y with ⟨e | batch, z⟩
    · have hNoClaim := (Program.Unattended.claimBatch w.queue
        w.settings.batchSize).handledRecords_eq_nil world y
      rw [World.handledRecords] at hNoClaim
      refine .inl ⟨e, ?_, .inr ⟨released, y, rfl, by rw [hClaim]⟩, ?_⟩
      · rw [runOnce_eq, World.run_bind, hSweep]
        dsimp only
        rw [World.run_bind, hClaim]
      · rw [World.handledRecords, runOnce_eq, World.deeds_bind, hSweep, List.filterMap_append,
          hNoSweep]
        dsimp only
        rw [World.deeds_bind, hClaim, List.filterMap_append, hNoClaim]
        rfl
    · obtain ⟨report, tenant, ledger, hRun, hContext, hAccounts⟩ :=
        w.runOnce_accounted hSweep hClaim
      exact .inr ⟨report, tenant, batch, ledger, hRun, hContext, hAccounts⟩

end Worker

/-- **A cycle accounts for every record**, in every world.
1. It fails only with the failure of its sweep or of its claim, and then no handler is called.
2. Otherwise its report accounts for the batch: each record has one account, in the order of the
batch; the handler is called once for each record that can be read, and then the verdict on it is
written back once, whatever became of the records before; and the counts of the report are those of
the outcomes, which make up the batch.
3. The verdict on a record that is handled with success has the success status, and otherwise it has
the failed status if one more attempt reaches the maximum, and else it is a retry. -/
theorem cycle_accounts (w : Worker ρ) (world : World σ ρ) (x : σ) :
    (∀ e, (world.run w.runOnce x).1 = .error e →
      ((world.run w.sweep x).1 = .error e ∨ ∃ released y,
        world.run w.sweep x = (.ok released, y) ∧
          (world.run (w.queue.claimBatch w.settings.batchSize) y).1 = .error e) ∧
      world.handledRecords w.runOnce x = []) ∧
    (∀ report, (world.run w.runOnce x).1 = .ok report → ∃ tenant batch ledger,
      w.queue.store.context.reports world.tenant = some tenant ∧
        w.AccountsFor world tenant x report batch ledger) ∧
    ((∀ max ∈ w.settings.maxAttempts, max ≤ attemptLimit) → ∀ attempts,
      w.verdict attempts true = .success w.settings.success ∧
      ((∃ max ∈ w.settings.maxAttempts, max ≤ attempts + 1) →
        w.verdict attempts false = .exhausted w.settings.failed attempts) ∧
      ((∀ max ∈ w.settings.maxAttempts, attempts + 1 < max) →
        w.verdict attempts false = .failure attempts)) := by
  refine ⟨fun e hRun => ?_, fun report hRun => ?_, fun hMax attempts => ⟨rfl, ?_, ?_⟩⟩
  · rcases w.runOnce_cases world x with ⟨e', hFails, hCause, hNone⟩ | ⟨report, _, _, _, hOk, -⟩
    · cases hFails.symm.trans hRun
      exact ⟨hCause, hNone⟩
    · cases hOk.symm.trans hRun
  · rcases w.runOnce_cases world x with ⟨e, hFails, -⟩ |
      ⟨report', tenant, batch, ledger, hOk, hContext, hAccounts⟩
    · cases hFails.symm.trans hRun
    · cases hOk.symm.trans hRun
      exact ⟨tenant, batch, ledger, hContext, hAccounts⟩
  · intro hReached
    have hLast : w.isLastAttempt attempts = true :=
      (Worker.isLastAttempt_iff hMax attempts).mpr hReached
    rw [Worker.verdict, hLast]
    rfl
  · intro hLeft
    have hLast : w.isLastAttempt attempts = false := by
      rw [← Bool.not_eq_true, Worker.isLastAttempt_iff hMax attempts]
      rintro ⟨max, hSome, hReached⟩
      exact absurd (hLeft max hSome) (by omega)
    rw [Worker.verdict, hLast]
    rfl

/-! ## Jobs that cannot be written back -/

namespace Jobs

/-- A backend that refuses all updates of jobs; no job succeeds. -/
def stuck : World (Memory × Unit) Json :=
  { failing with backend := fun
    | .update _ _ _ _, x => (.error (.transient "down"), x)
    | c, x => failing.backend c x }

def twoWaiting : Memory × Unit := (⟨[("jobs", [waiting "a", waiting "b"])], 1⟩, ())

end Jobs

/-- Both jobs are handled though the first one is not written back; without a tenant the claim
fails and no job is handled. -/
theorem jobs_accounted :
    (∃ tenant batch ledger, Jobs.queue.store.context.reports Jobs.stuck.tenant = some tenant ∧
      Jobs.impatient.AccountsFor Jobs.stuck tenant Jobs.twoWaiting ⟨2, 0, 0, 0, 0, 2⟩ batch
        ledger) ∧
    Jobs.stuck.handledRecords Jobs.impatient.runOnce Jobs.twoWaiting =
      ["a", "b"].map (fun id => (Memory.markClaimed Jobs.claim (Jobs.waiting id)).toJson) ∧
    { Jobs.stuck with tenant := none }.handledRecords Jobs.impatient.runOnce Jobs.twoWaiting = [] ∧
    Jobs.impatient.verdict 0 false = .exhausted (.text "FAILED") 0 := by
  refine ⟨(cycle_accounts Jobs.impatient Jobs.stuck Jobs.twoWaiting).2.1 _ rfl, rfl,
    ((cycle_accounts Jobs.impatient { Jobs.stuck with tenant := none } Jobs.twoWaiting).1 _ rfl).2,
    ?_⟩
  refine ((cycle_accounts Jobs.impatient Jobs.stuck Jobs.twoWaiting).2.2 ?_ 0).2.1 ⟨1, rfl, ?_⟩
  · simp [Jobs.impatient, attemptLimit]
  · decide

end Tenancy
