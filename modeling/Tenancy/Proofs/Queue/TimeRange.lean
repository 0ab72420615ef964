import Tenancy.Proofs.Queue.Accounts
import Tenancy.Proofs.Time.Instant

/-!
# Times beyond all instants

The time of a next attempt and the cutoff of a sweep may lie beyond the last or before the first
instant. A write-back is refused then with an error and changes nothing. A sweep is refused for an
age that is longer than the longest move, but for a shorter one that leads before the first instant
it aborts (`Queue.SweepAborts`), and so does the cycle of a worker that begins with it. Apart from
that, no write-back, no sweep and no cycle aborts (`times_out_of_range`).
-/

namespace Tenancy

variable {ρ α σ τ : Type}

/-- The error of an operation that is refused for this cause, or already for lack of a tenant. -/
def Store.refusal (s : Store ρ) (active : Option TenantId) (operation : String)
    (cause : Misconfiguration) : StoreError :=
  match s.context.reports active with
  | some _ => .configuration cause
  | none => .missingTenant operation

theorem Store.isConfiguration_refusal (s : Store ρ) (active : Option TenantId) (operation : String)
    (cause : Misconfiguration) : (s.refusal active operation cause).isConfiguration = true := by
  unfold Store.refusal
  split <;> rfl

namespace Queue

variable {q : Queue ρ} {w : World σ ρ} {tenant : TenantId}

/-! ## Write-backs -/

theorem run_markFailureWith_of_overflows (w : World σ ρ) (id : Value) (fields : RetryFields)
    {attempts : Nat} {backoff : Backoff} {x : σ}
    (hOver : (w.time x).1.Overflows (backoff.delay attempts)) :
    ∃ y, w.run (q.markFailureWith id fields attempts backoff) x =
      (.error (.error (q.store.refusal w.tenant "mark_failure_with_backoff"
        (.delayOutOfRange (backoff.delay attempts)))), y) ∧ (y = x ∨ y = (w.time x).2) := by
  unfold Store.refusal
  cases hContext : q.store.context.reports w.tenant with
  | none => exact ⟨x, Store.run_unscoped hContext _ _ x, .inl rfl⟩
  | some tenant =>
    refine ⟨(w.time x).2, ?_, .inr rfl⟩
    rw [run_markFailureWith hContext, Instant.after?_eq_none_iff_overflows.mpr hOver]

/-! ## Sweeps -/

/-- What a sweep is refused for if the cutoff of its age is out of range. -/
def sweepFault (q : Queue ρ) : Misconfiguration :=
  match q.roles.claimedAt with
  | some _ => .ageOutOfRange
  | none => .noClaimedAt q.store.table.name

/-- The age passes all checks of a sweep, and yet there is no instant that much earlier. -/
structure SweepAborts (q : Queue ρ) (active : Option TenantId) (now : Instant) (age : Duration) :
    Prop where
  hasTenant : (q.store.context.reports active).isSome
  hasClaimedAt : q.roles.claimedAt.isSome
  isMove : age.nanoseconds ≤ Instant.longestMove
  underflows : now.Underflows age

/-- A sweep aborts, it is refused without a look at the tables, or it is an update. -/
theorem run_releaseStale_trichotomy (q : Queue ρ) (w : World σ ρ) (age : Duration) (x : σ) :
    (q.SweepAborts w.tenant (w.time x).1 age ∧
      w.run (q.releaseStale age) x = (.error .abort, (w.time x).2)) ∨
    ¬q.SweepAborts w.tenant (w.time x).1 age ∧
      (w.run (q.releaseStale age) x =
        (.error (.error (q.store.refusal w.tenant "release_stale_claims" q.sweepFault)), x) ∨
      ¬(w.time x).1.Underflows age ∧ ∃ filter patch,
        w.run (q.releaseStale age) x = w.run (q.store.update filter patch) (w.time x).2) := by
  unfold Store.refusal sweepFault
  cases hContext : q.store.context.reports w.tenant with
  | none =>
    refine .inr ⟨fun h => ?_, .inl (Store.run_unscoped hContext _ _ x)⟩
    simpa [hContext] using h.hasTenant
  | some tenant =>
    rw [releaseStale, Store.run_scope hContext]
    cases hField : q.roles.claimedAt with
    | none =>
      refine .inr ⟨fun h => ?_, .inl rfl⟩
      simpa [hField] using h.hasClaimedAt
    | some field =>
      by_cases hLong : Instant.longestMove < age.nanoseconds
      · simp only [if_pos hLong]
        exact .inr ⟨fun h => absurd h.isMove (Nat.not_le.mpr hLong), .inl rfl⟩
      · simp only [if_neg hLong, World.run_bind, World.run_time]
        cases hCutoff : (w.time x).1.before? age with
        | none =>
          have hUnder := Instant.before?_eq_none_iff_underflows.mp hCutoff
          exact .inl ⟨⟨by simp [hContext], by simp [hField], Nat.not_lt.mp hLong, hUnder⟩, rfl⟩
        | some cutoff =>
          have hUnder : ¬(w.time x).1.Underflows age := by
            rw [← Instant.before?_eq_none_iff_underflows, hCutoff]
            exact Option.some_ne_none cutoff
          exact .inr ⟨fun h => hUnder h.underflows, .inr ⟨hUnder, _, _, rfl⟩⟩

theorem run_releaseStale_eq_abort_iff {age : Duration} {x : σ} :
    (w.run (q.releaseStale age) x).1 = .error .abort ↔
      q.SweepAborts w.tenant (w.time x).1 age := by
  rcases q.run_releaseStale_trichotomy w age x with
    ⟨hAborts, hRun⟩ | ⟨hNot, hRun | ⟨-, filter, patch, hRun⟩⟩
  · exact iff_of_true (by rw [hRun]) hAborts
  · exact iff_of_false (by rw [hRun]; exact nofun) hNot
  · refine iff_of_false ?_ hNot
    rw [hRun]
    exact (Program.Returns.update _ _ _).run_ne_abort w _

end Queue

/-! ## Cycles -/

namespace Worker

variable {w : Worker ρ} {world : World σ ρ} {x : σ}

theorem run_sweep_eq_abort_iff :
    (world.run w.sweep x).1 = .error .abort ↔
      ∃ age, w.settings.staleAfter = some age ∧
        w.queue.SweepAborts world.tenant (world.time x).1 age := by
  unfold sweep
  cases hStale : w.settings.staleAfter with
  | none => exact iff_of_false nofun (by simp)
  | some age => simp [Queue.run_releaseStale_eq_abort_iff]

theorem run_runOnce_of_sweep {e : Failure} (h : (world.run w.sweep x).1 = .error e) :
    world.run w.runOnce x = (.error e, (world.run w.sweep x).2) := by
  rw [runOnce_eq, World.run_bind]
  revert h
  generalize world.run w.sweep x = outcome
  obtain ⟨e' | released, y⟩ := outcome <;> intro h <;> cases h
  rfl

/-- Only the sweep at its start can abort a cycle. -/
theorem run_runOnce_eq_abort_iff :
    (world.run w.runOnce x).1 = .error .abort ↔ (world.run w.sweep x).1 = .error .abort := by
  refine ⟨fun hAbort => ?_, fun hAbort => by rw [run_runOnce_of_sweep hAbort]⟩
  rcases w.runOnce_cases world x with
    ⟨e, hRun, hSweep | ⟨released, y, -, hClaim⟩, -⟩ | ⟨report, -, -, -, hRun, -⟩
  · cases hRun.symm.trans hAbort
    exact hSweep
  · cases hRun.symm.trans hAbort
    exact absurd hClaim ((Program.Returns.claimBatch _ _).run_ne_abort world y)
  · cases hRun.symm.trans hAbort

end Worker

/-! ## Tables in memory -/

section Memory

variable {active : Option TenantId} {clock : τ → Instant × τ} {handler : ρ → τ → Bool × τ}
  {m : Memory} {t : τ}

/-- A sweep whose cutoff is out of range does not come to the tables. -/
theorem Queue.run_releaseStale_of_underflows (q : Queue ρ) {age : Duration}
    (hUnder : (clock t).1.Underflows age) :
    let outcome := (World.inMemory active clock handler).run (q.releaseStale age) (m, t)
    (q.SweepAborts active (clock t).1 age ∨ outcome.1 =
      .error (.error (q.store.refusal active "release_stale_claims" q.sweepFault))) ∧
    outcome.2.1 = m := by
  rcases q.run_releaseStale_trichotomy (World.inMemory active clock handler) age (m, t) with
    ⟨hAborts, hRun⟩ | ⟨-, hRun | ⟨hReached, -⟩⟩
  · exact ⟨.inl hAborts, by rw [hRun]; rfl⟩
  · exact ⟨.inr (by rw [hRun]; rfl), by rw [hRun]⟩
  · exact absurd hUnder hReached

theorem Worker.run_runOnce_of_aborts {w : Worker ρ}
    (hAbort : ((World.inMemory active clock handler).run w.runOnce (m, t)).1 = .error .abort) :
    ((World.inMemory active clock handler).run w.runOnce (m, t)).2.1 = m := by
  have hSweep := run_runOnce_eq_abort_iff.mp hAbort
  obtain ⟨age, hStale, hAborts⟩ := run_sweep_eq_abort_iff.mp hSweep
  have hSame : w.sweep = w.queue.releaseStale age := by rw [sweep, hStale]
  have hUnder : (clock t).1.Underflows age := hAborts.underflows
  rw [run_runOnce_of_sweep hSweep, hSame]
  exact (w.queue.run_releaseStale_of_underflows hUnder).2

/-- **Times beyond all instants.** Whatever the clock shows and the handlers do, with any tables in
memory,
1. a write-back of a failure does not abort, and where the time of the next attempt is beyond the
last instant, it is refused and changes nothing;
2. a sweep aborts exactly if it passes all its checks and its cutoff is before the first instant; with
any other cutoff before the first instant it is refused, and neither way it changes anything;
3. a cycle aborts exactly if it begins with a sweep that does, and then it changes nothing;
4. whatever is refused is refused with an error of the configuration. -/
theorem times_out_of_range (q : Queue ρ) (active : Option TenantId) (clock : τ → Instant × τ)
    (handler : ρ → τ → Bool × τ) (m : Memory) (t : τ) :
    let world : World (Memory × τ) ρ := .inMemory active clock handler
    (∀ id fields attempts backoff,
      let outcome := world.run (q.markFailureWith id fields attempts backoff) (m, t)
      outcome.1 ≠ .error .abort ∧
      ((clock t).1.Overflows (backoff.delay attempts) →
        outcome.1 = .error (.error (q.store.refusal active "mark_failure_with_backoff"
          (.delayOutOfRange (backoff.delay attempts)))) ∧
        outcome.2.1 = m)) ∧
    (∀ age,
      let outcome := world.run (q.releaseStale age) (m, t)
      (outcome.1 = .error .abort ↔ q.SweepAborts active (clock t).1 age) ∧
      ((clock t).1.Underflows age →
        (q.SweepAborts active (clock t).1 age ∨ outcome.1 =
          .error (.error (q.store.refusal active "release_stale_claims" q.sweepFault))) ∧
        outcome.2.1 = m)) ∧
    (∀ settings,
      let outcome := world.run (Worker.runOnce ⟨q, settings⟩) (m, t)
      (outcome.1 = .error .abort ↔
        ∃ age, settings.staleAfter = some age ∧ q.SweepAborts active (clock t).1 age) ∧
      (outcome.1 = .error .abort → outcome.2.1 = m)) ∧
    ∀ operation cause, (q.store.refusal active operation cause).isConfiguration = true := by
  refine ⟨fun id fields attempts backoff => ⟨?_, fun hOver => ?_⟩,
    fun age => ⟨Queue.run_releaseStale_eq_abort_iff, q.run_releaseStale_of_underflows⟩,
    fun settings => ⟨?_, Worker.run_runOnce_of_aborts⟩, q.store.isConfiguration_refusal active⟩
  · exact (Program.Returns.markFailureWith _ _ _ _ _).run_ne_abort _ _
  · obtain ⟨y, hRun, hSame⟩ := q.run_markFailureWith_of_overflows
      (World.inMemory active clock handler) id fields (x := (m, t)) hOver
    rw [hRun]
    exact ⟨rfl, by rcases hSame with rfl | rfl <;> rfl⟩
  · exact Worker.run_runOnce_eq_abort_iff.trans Worker.run_sweep_eq_abort_iff

end Memory

namespace Jobs

/-- An age that is a move and yet longer than the time since the first instant. -/
def ages : Duration := Duration.ofSeconds 9000000000000

/-- Sweeps claims of that age. -/
def sweeper : WorkerSettings := { WorkerSettings.standard with staleAfter := some ages }

/-- A sweep of that age aborts, and so does the cycle of a worker that begins with it: neither ends
with a result or an error. -/
theorem sweep_aborts :
    (failing.run (queue.releaseStale ages) oneWaiting).1 = .error .abort ∧
      (failing.run (Worker.runOnce ⟨queue, sweeper⟩) oneWaiting).1 = .error .abort :=
  ⟨rfl, rfl⟩

/-- A failed job whose delay is the longest duration is refused, and so is a sweep of that age; one
of a shorter age that is out of range aborts. -/
theorem jobs_out_of_range :
    let longest : Backoff := ⟨Duration.longest, Duration.longest⟩
    let refused := failing.run (queue.markFailureWith (.text "a") queue.roles.retryFields 0 longest)
      oneWaiting
    (refused.1 = .error (.error (.configuration (.delayOutOfRange Duration.longest))) ∧
      refused.2.1 = oneWaiting.1) ∧
    (failing.run (queue.releaseStale Duration.longest) oneWaiting).2.1 = oneWaiting.1 ∧
    (failing.run (queue.releaseStale ages) oneWaiting).1 = .error .abort ∧
    (failing.run (Worker.runOnce ⟨queue, sweeper⟩) oneWaiting).2.1 = oneWaiting.1 := by
  have hAborts : queue.SweepAborts (some tenant) epoch ages :=
    ⟨rfl, rfl, by decide, by decide⟩
  obtain ⟨hFailures, hSweeps, hCycles, -⟩ := times_out_of_range queue (some tenant)
    (fun u : Unit => (epoch, u)) (fun _ u => (false, u)) oneWaiting.1 ()
  refine ⟨(hFailures (.text "a") queue.roles.retryFields 0
      ⟨Duration.longest, Duration.longest⟩).2 (by decide),
    ((hSweeps Duration.longest).2 (by decide)).2, (hSweeps ages).1.mpr hAborts, ?_⟩
  exact (hCycles sweeper).2 ((hCycles sweeper).1.mpr ⟨ages, rfl, hAborts⟩)

end Jobs

end Tenancy
