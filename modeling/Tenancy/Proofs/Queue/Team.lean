import Tenancy.Proofs.Queue.Exclusivity
import Tenancy.Proofs.Queue.Retry
import Tenancy.Proofs.Queue.Terminal

/-!
# Workers that count attempts

Workers who share a queue and never sweep it (`Team`) claim batches, run their handlers and write
back the outcomes, in any order and with other writes to other rows in between. The attempts of a
row are read from its record, compared with the cap, and written back: `Team.Counted` ties the cell
of the row to the number of failed runs of the handler, and one more failure keeps that
(`Team.Counted.failed`).
-/

namespace Tenancy

/-! ## Counters in cells -/

/-- A counter that was stored is read back. -/
theorem Worker.attemptsOf_ofNat {n : Nat} (h : n ≤ attemptLimit) :
    attemptsOf (some (Value.ofNat n).toJson) = n := by
  have hInt : (Int64.ofNat n).toInt = n := by
    unfold attemptLimit at h
    exact Int64.toInt_ofNat_of_lt (by omega)
  have hNat : (Json.Number.ofInt64 (Int64.ofNat n)).asNat? = some n := by
    simp [Json.Number.ofInt64, Json.Number.asNat?, hInt]
  simp only [Value.ofNat, Value.toJson, Json.ofInt64, attemptsOf, hNat, Option.getD_some]
  exact min_eq_left h

/-- One more attempt after some, up to the limit. -/
theorem nextAttempt_min (start runs : Nat) :
    nextAttempt (min (start + runs) attemptLimit) = min (start + (runs + 1)) attemptLimit := by
  unfold nextAttempt
  omega

/-! ## Runs with a clock and a handler beside the tables -/

section InMemory

variable {ρ τ : Type} {active : Option TenantId} {tenant : TenantId}
  (clock : τ → Instant × τ) (handler : ρ → τ → Bool × τ)

/-- A patch of an id changes the tables only. -/
theorem Store.run_updateById_inMemory {s : Store ρ}
    (hContext : s.context.reports active = some tenant) {patch : Patch}
    {assignments : List Assignment} (hAssignments : s.resolvePatch patch = .ok assignments)
    (hSome : assignments ≠ []) (id : Value) (m : Memory) (t : τ) :
    (∃ e, (World.inMemory active clock handler).run (s.updateById id patch) (m, t) =
        (.error (.error e), m, t)) ∨
      (World.inMemory active clock handler).run (s.updateById id patch) (m, t) =
        (.ok (decide (0 < (s.reached tenant id (m.rows s.table.name)).length)),
          s.rewriteAt patch (s.reached tenant id (m.rows s.table.name)) m, t) := by
  rw [run_updateById (w := World.inMemory active clock handler) hContext
    (s.scopeConditions_idFilter id) hAssignments hSome]
  simp only [World.inMemory, Memory.backend]
  rcases Memory.update_eq s.table tenant [s.idCondition id] assignments m with
    ⟨e, hUpdate⟩ | hUpdate
  · rw [hUpdate]
    exact .inl ⟨e, rfl⟩
  · rw [hUpdate, rewriteAt, patched_eq hAssignments]
    refine .inr ?_
    simp only [Except.map, Except.mapError, List.length_map]
    rfl

/-- A verdict changes the tables and may ask the clock. It is written to all rows that the id
reaches, or it fails and changes nothing. -/
theorem Queue.run_finalize_inMemory {q : Queue ρ}
    (hContext : q.store.context.reports active = some tenant) (id : Value) (verdict : Verdict)
    (m : Memory) (t : τ) :
    ∃ t', (t' = t ∨ t' = (clock t).2) ∧
      ((∃ e, (World.inMemory active clock handler).run (q.finalize id verdict) (m, t) =
          (.error (.error e), m, t')) ∨
        ∃ hit next, (World.inMemory active clock handler).run (q.finalize id verdict) (m, t) =
          (.ok hit, q.store.rewriteAt (q.verdictPatch next verdict)
            (q.store.reached tenant id (m.rows q.store.table.name)) m, t')) := by
  by_cases hFinal : verdict.status?.isSome
  · have hUpdate : q.finalize id verdict =
        q.store.updateById id (q.verdictPatch (clock t).1 verdict) := by
      cases verdict with
      | failure attempts => cases hFinal
      | success status => rfl
      | exhausted status attempts => rfl
    obtain ⟨assignments, hAssignments, hSome⟩ :=
      (q.isReport_verdictPatch (clock t).1 verdict).exists_assignments
    rw [hUpdate]
    refine ⟨t, .inl rfl, ?_⟩
    rcases Store.run_updateById_inMemory clock handler hContext
      hAssignments hSome id m t with ⟨e, hRun⟩ | hRun
    · exact .inl ⟨e, hRun⟩
    · exact .inr ⟨_, _, hRun⟩
  · cases verdict with
    | success status => exact absurd rfl hFinal
    | exhausted status attempts => exact absurd rfl hFinal
    | failure attempts =>
      refine ⟨(clock t).2, .inr rfl, ?_⟩
      rw [finalize, World.run_bind, markFailure,
        run_markFailureWith (w := World.inMemory active clock handler) hContext]
      simp only [World.time_inMemory]
      cases (clock t).1.after? (q.backoff.delay attempts) with
      | none => exact .inl ⟨_, rfl⟩
      | some next =>
        obtain ⟨assignments, hAssignments, hSome⟩ :=
          (q.isReport_retryPatch (nextAttempt attempts) next).exists_assignments
        dsimp only
        rcases Store.run_updateById_inMemory clock handler hContext
          hAssignments hSome id m (clock t).2 with ⟨e, hRun⟩ | hRun
        · rw [hRun]
          exact .inl ⟨e, rfl⟩
        · rw [hRun]
          exact .inr ⟨_, next, rfl⟩

end InMemory

/-! ## The two halves of handling a record -/

namespace Worker

variable {ρ : Type}

/-- Runs the handler on a record and tells what is to be written back under which id. -/
def judge (w : Worker ρ) (record : ρ) : Program ρ (Value × Verdict) := do
  let id ← Program.ofExcept (w.queue.store.recordId record)
  let cell ← Program.ofExcept (w.queue.store.fieldValue record w.queue.roles.attempts)
  let succeeds ← Program.handle record
  pure (id, w.verdict (attemptsOf cell) succeeds)

theorem finalize_eq_judge (w : Worker ρ) (record : ρ) :
    w.finalize record = (do
      let report ← w.judge record
      let _ ← w.reporter.finalize report.1 report.2
      pure report.2.outcome) := by
  simp only [finalize_eq, judge, bind_assoc, pure_bind]

end Worker

/-- Workers on one shared queue, with one clock and a handler each. They sweep no stale claims, and
give up rows after the same number of attempts if at all, with statuses that do not wait. -/
structure Team (ε : Type) (ρ : ε → Type) (τ : Type) extends SharedQueue ε ρ where
  settings : ε → WorkerSettings
  cap : Option Nat
  clock : τ → Instant × τ
  handler : (e : ε) → ρ e → τ → Bool × τ
  maxAttempts : ∀ e, (settings e).maxAttempts = cap
  unswept : ∀ e, (settings e).staleAfter = none
  failed_settled : ∀ e, roles.pending.matchesCell (settings e).failed.toJson = false

namespace Team

variable {ε : Type} {ρ : ε → Type} {τ : Type}

def worker (c : Team ε ρ τ) (e : ε) : Worker (ρ e) := ⟨c.queue e, c.settings e⟩

/-! ## Steps -/

/-- The record shows this id. -/
def concerns (c : Team ε ρ τ) (id : Json) (e : ε) (record : ρ e) : Bool :=
  match (c.queue e).store.recordId record with
  | .ok value => value.matchesCell id
  | .error _ => false

/-- The attempts that a row counts: none if the cell is absent, `null`, or no natural number. -/
def attemptsIn (c : Team ε ρ τ) (row : Row) : Nat :=
  Worker.attemptsOf (((c.columns.column? c.roles.attempts).bind row.get?).filter (!·.isNull))

/-- The id of the record matches this one exactly if the row has it, and then the record shows the
attempts that the row counts. -/
structure Reads (c : Team ε ρ τ) (id : Json) (e : ε) (row : Row) (record : ρ e) : Prop where
  id_iff : ∀ value, (c.queue e).store.recordId record = .ok value →
    (value.matchesCell id ↔ row.cell c.table.idColumn = id)
  attempts : row.cell c.table.idColumn = id → ∀ cell,
    (c.queue e).store.fieldValue record c.roles.attempts = .ok cell →
      Worker.attemptsOf cell = c.attemptsIn row

/-- The records of a worker keep the id and the attempts of the row. -/
structure Keeps (c : Team ε ρ τ) (e : ε) (row : Row) : Prop where
  id : (c.queue e).store.KeepsCell c.descriptor.idField (row.cell c.table.idColumn)
  attempts : ∀ column, c.columns.column? c.roles.attempts = some column →
    (c.queue e).store.KeepsCell c.roles.attempts (row.cell column)

/-- The clock beside the count of runs. -/
def ticking (c : Team ε ρ τ) (x : τ × Nat) : Instant × τ × Nat :=
  ((c.clock x.1).1, (c.clock x.1).2, x.2)

/-- The handler of a worker, which is counted where it runs on a record with this id. -/
def counting (c : Team ε ρ τ) (id : Json) (e : ε) (record : ρ e) (x : τ × Nat) : Bool × τ × Nat :=
  ((c.handler e record x.1).1, (c.handler e record x.1).2,
    if c.concerns id e record then x.2 + 1 else x.2)

/-- The surroundings of one worker. -/
def world (c : Team ε ρ τ) (id : Json) (e : ε) : World (Memory × τ × Nat) (ρ e) :=
  .inMemory (some c.tenant) c.ticking (c.counting id e)

/-- The tables, the state of clock and handlers, how often the handlers were run on records with the
id, the claimed rows that each worker has still to handle, and what it has still to write back for
the first of them. -/
structure State (ε τ : Type) where
  memory : Memory
  surroundings : τ
  runs : Nat
  batch : ε → List Row
  judged : ε → Option (Value × Verdict)

/-- What the programs of workers see of a state. -/
def State.seen (s : State ε τ) : Memory × τ × Nat := (s.memory, s.surroundings, s.runs)

/-- The state behind the run of a program. -/
def State.after (s : State ε τ) (x : Memory × τ × Nat) : State ε τ :=
  { s with memory := x.1, surroundings := x.2.1, runs := x.2.2 }

inductive Event (ε τ : Type) where
  /-- The claim at the start of a cycle. -/
  | claim (e : ε)
  /-- The handler runs on the first row that is left of a batch. -/
  | handle (e : ε)
  /-- The outcome of the handler is written back. -/
  | report (e : ε)
  /-- Somebody else writes to other rows. -/
  | write (m : Memory) (t : τ)

/-- The rows of the shared table. -/
def rows (c : Team ε ρ τ) (s : State ε τ) : List Row := s.memory.rows c.table.name

/-- The rows that a worker claims in a state. -/
def claimed (c : Team ε ρ τ) (s : State ε τ) (e : ε) : List Row :=
  c.claimedRows (c.settings e).batchSize (c.clock s.surroundings).1 s.memory

section Steps

variable [DecidableEq ε]

/-- The worker is done with the first row of its batch. -/
def State.done (s : State ε τ) (e : ε) : State ε τ :=
  { s with
    batch := Function.update s.batch e (s.batch e).tail
    judged := Function.update s.judged e none }

/-- A worker that has claimed a batch handles its rows one after the other. A row on which the
handler cannot be run is left, and a row that cannot be decoded keeps the whole batch from being
handled. -/
def next (c : Team ε ρ τ) (id : Json) (s : State ε τ) : Event ε τ → State ε τ
  | .claim e =>
    match (c.world id e).run ((c.queue e).claimBatch (c.settings e).batchSize) s.seen with
    | (.ok _, x) => { s.after x with batch := Function.update s.batch e (c.claimed s e) }
    | (.error _, x) => s.after x
  | .handle e =>
    match s.batch e with
    | [] => s
    | row :: rest =>
      match (c.queue e).store.decodeRow row with
      | .error _ => s
      | .ok record =>
        match (c.world id e).run ((c.worker e).judge record) s.seen with
        | (.ok report, x) => { s.after x with judged := Function.update s.judged e (some report) }
        | (.error _, x) => { s.after x with batch := Function.update s.batch e rest }
  | .report e =>
    match s.judged e with
    | none => s
    | some (value, verdict) =>
      (s.after ((c.world id e).run ((c.worker e).reporter.finalize value verdict) s.seen).2).done e
  | .write m t => { s with memory := m, surroundings := t }

/-- The handler was run on the row with the id, and the outcome is not written back yet. -/
def IsOpen (c : Team ε ρ τ) (id : Json) (s : State ε τ) (e : ε) : Prop :=
  s.judged e ≠ none ∧ ∃ row rest, s.batch e = row :: rest ∧ row.cell c.table.idColumn = id

/-- A worker claims when it has no rows left, and handles one row at a time, of which it reads what
matters. The outcome for the row with the id is written back without a failure, and others leave
this row alone. -/
def Permits (c : Team ε ρ τ) (id : Json) (s : State ε τ) : Event ε τ → Prop
  | .claim e => s.batch e = []
  | .handle e => s.judged e = none ∧ ∀ row rest record, s.batch e = row :: rest →
      (c.queue e).store.decodeRow row = .ok record → c.Reads id e row record
  | .report e => c.IsOpen id s e → ∀ value verdict, s.judged e = some (value, verdict) →
      ∃ hit, ((c.world id e).run ((c.worker e).reporter.finalize value verdict) s.seen).1 = .ok hit
  | .write m _ => Memory.UniqueIds c.table (m.rows c.table.name) ∧
      ∀ row ∈ c.rows s, row.cell c.table.idColumn = id → row ∈ m.rows c.table.name

/-- States after any permitted events. -/
inductive Reachable (c : Team ε ρ τ) (id : Json) (start : State ε τ) : State ε τ → Prop
  | start : Reachable c id start start
  | next {s : State ε τ} (h : Reachable c id start s) (event : Event ε τ)
      (hPermits : c.Permits id s event) : Reachable c id start (c.next id s event)

end Steps

/-! ## The row with the id -/

/-- The handler has run as often as the cap allows on a row that had some attempts at first. -/
def Spent (c : Team ε ρ τ) (start runs : Nat) : Prop :=
  ∃ most, c.cap = some most ∧ max 1 (most - start) ≤ runs

/-- The row has the id and counts the runs of the handler on top of its first attempts. It has a
failed status if the attempts are used up. -/
structure Counted (c : Team ε ρ τ) (id : Json) (start runs : Nat) (row : Row) : Prop where
  id_eq : row.cell c.table.idColumn = id
  read : c.attemptsIn row = min (start + runs) attemptLimit
  stored : runs ≠ 0 → ∀ column, c.columns.column? c.roles.attempts = some column →
    row.cell column = (Value.ofNat (min (start + runs) attemptLimit)).toJson
  spent : c.Spent start runs →
    ∃ e, row.cell c.claimColumns.status = (c.settings e).failed.toJson

variable {c : Team ε ρ τ} {id : Json} {start runs : Nat} {row : Row} {s : State ε τ} {e : ε}

/-- A row whose attempts are used up does not wait. -/
theorem Counted.not_spent (h : c.Counted id start runs row)
    (hPending : c.claimColumns.pending.matchesCell (row.cell c.claimColumns.status)) :
    ¬c.Spent start runs := by
  intro hSpent
  obtain ⟨e, hStatus⟩ := h.spent hSpent
  rw [hStatus, c.roles_resolved.pending, c.failed_settled e] at hPending
  cases hPending

theorem exists_attempts (c : Team ε ρ τ) :
    ∃ column, c.columns.column? c.roles.attempts = some column :=
  c.roles_resolved.column_of_mem (Queue.mem_fields c.roles).2.2

/-- The time of a claim is kept neither in the status nor in the attempts. -/
theorem claimedAt_ne (c : Team ε ρ τ) :
    c.roles.claimedAt ≠ some c.roles.status ∧ c.roles.claimedAt ≠ some c.roles.attempts := by
  have hDistinct := c.distinct
  refine ⟨?_, ?_⟩ <;> intro hClaimedAt <;> simp [QueueRoles.fields, hClaimedAt] at hDistinct

theorem attempts_ne_status (c : Team ε ρ τ) : c.roles.attempts ≠ c.roles.status := by
  have hDistinct := c.distinct
  intro hSame
  simp [QueueRoles.fields, hSame] at hDistinct

theorem claimedAt_column_ne {field column : String} (hField : c.roles.claimedAt ≠ some field)
    (hColumn : c.columns.column? field = some column) :
    c.claimColumns.claimedAt ≠ some column := by
  intro hClaimedAt
  obtain ⟨role, hRole, hName⟩ := c.roles_resolved.exists_claimedAt hClaimedAt
  exact hField (ColumnMap.column?_inj hName hColumn ▸ hRole)

/-- A claim does not write to the column of the attempts. -/
theorem get?_markClaimed_attempts (limit : Nat) (now : Instant) {column : String}
    (hColumn : c.columns.column? c.roles.attempts = some column) (row : Row) :
    (Memory.markClaimed { c.claimColumns with limit, now } row).get? column = row.get? column := by
  have hStatus : column ≠ c.claimColumns.status := by
    rintro rfl
    exact c.attempts_ne_status (ColumnMap.column?_inj hColumn c.roles_resolved.status)
  rw [Memory.get?_markClaimed, if_neg (claimedAt_column_ne c.claimedAt_ne.2 hColumn),
    if_neg hStatus]

/-- A claim does not count. -/
theorem Counted.markClaimed {limit : Nat} {now : Instant} (h : c.Counted id start runs row)
    (hPending : c.claimColumns.pending.matchesCell (row.cell c.claimColumns.status)) :
    c.Counted id start runs (Memory.markClaimed { c.claimColumns with limit, now } row) := by
  obtain ⟨column, hColumn⟩ := c.exists_attempts
  have hAttempts := get?_markClaimed_attempts limit now hColumn row
  refine ⟨?_, ?_, ?_, fun hSpent => absurd hSpent (h.not_spent hPending)⟩
  · rw [c.cell_markClaimed c.store_resolved.idColumn (.inr rfl)]
    exact h.id_eq
  · rw [← h.read, attemptsIn, attemptsIn, hColumn, Option.bind_some, Option.bind_some, hAttempts]
  · intro hRuns column' hColumn'
    cases Option.some.inj (hColumn.symm.trans hColumn')
    rw [Row.cell, hAttempts]
    exact h.stored hRuns column hColumn

/-- Records that keep the id and the attempts of a row show them, if no other id counts as the same
as that of the row. -/
theorem Keeps.reads (h : c.Keeps e row) (hScalar : (row.cell c.table.idColumn).isScalar)
    (hNull : row.cell c.table.idColumn ≠ .null)
    (hApart : row.cell c.table.idColumn ≠ id → Json.sameCell id (row.cell c.table.idColumn) = false)
    {record : ρ e} (hDecode : (c.queue e).store.decodeRow row = .ok record) :
    c.Reads id e row record := by
  refine ⟨fun value hValue => ?_, fun _ cell hCell => ?_⟩
  · cases (h.id.recordId hDecode).symm.trans hValue
    refine ⟨fun hMatches => ?_, ?_⟩
    · by_contra hOther
      have hSame := Value.sameCell_of_matchesCell hScalar hMatches
      rw [hApart hOther] at hSame
      cases hSame
    · rintro rfl
      exact Value.ofJson_matchesCell hScalar hNull
  · obtain ⟨column, hColumn⟩ := c.exists_attempts
    have hKept := (h.attempts column hColumn).fieldValue hColumn hDecode
    cases hKept.symm.trans hCell
    rw [attemptsIn, hColumn, Option.bind_some, Row.cell]
    cases row.get? column <;> rfl

/-! ### Verdicts -/

/-- One failure more uses up the attempts if the cap says so. -/
theorem isLastAttempt_iff (c : Team ε ρ τ) (e : ε)
    (hRoom : ∀ most, c.cap = some most → start + max 1 (most - start) ≤ attemptLimit)
    (hUnspent : ¬c.Spent start runs) :
    (c.worker e).isLastAttempt (min (start + runs) attemptLimit) ↔ c.Spent start (runs + 1) := by
  rw [Worker.isLastAttempt, nextAttempt_min, worker, c.maxAttempts e]
  cases hCap : c.cap with
  | none => simp [Spent, hCap]
  | some most =>
    have hBound := hRoom most hCap
    have hLeft : runs < max 1 (most - start) :=
      Nat.lt_of_not_le fun hSpent => hUnspent ⟨most, hCap, hSpent⟩
    simp only [Option.any_some, decide_eq_true_eq, Spent, hCap, Option.some.injEq,
      exists_eq_left']
    omega

/-- What the failure of the handler assigns to the attempts and to the status. -/
theorem get?_failurePatch (c : Team ε ρ τ) (e : ε) (next : Instant) (attempts : Nat) :
    ((c.worker e).reporter.verdictPatch next ((c.worker e).verdict attempts false)).get?
        c.roles.attempts = some (.ofNat (nextAttempt attempts)) ∧
      ((c.worker e).reporter.verdictPatch next ((c.worker e).verdict attempts false)).get?
        c.roles.status = some (if (c.worker e).isLastAttempt attempts then
          (c.settings e).failed else c.roles.pending) := by
  obtain ⟨hClaimedStatus, hClaimedAttempts⟩ := c.claimedAt_ne
  cases hLast : (c.worker e).isLastAttempt attempts with
  | true =>
    have hVerdict : (c.worker e).verdict attempts false =
        .exhausted (c.settings e).failed attempts := by
      simp only [Worker.verdict, hLast]
      rfl
    rw [hVerdict, Queue.verdictPatch]
    refine ⟨?_, ?_⟩
    · rw [Queue.get?_clearClaim]
      exact (if_neg hClaimedAttempts).trans ((Patch.get?_set _ _ _ _).trans (if_pos rfl))
    · rw [Queue.get?_clearClaim]
      refine (if_neg hClaimedStatus).trans ((Patch.get?_set _ _ _ _).trans ?_)
      refine (if_neg c.attempts_ne_status.symm).trans ((Patch.get?_set _ _ _ _).trans ?_)
      exact if_pos rfl
  | false =>
    have hVerdict : (c.worker e).verdict attempts false = .failure attempts := by
      simp [Worker.verdict, hLast]
    obtain ⟨hAttempts, -, hStatus⟩ := Queue.get?_retryPatch_of_nodup
      (q := (c.worker e).reporter) (Queue.written_nodup (q := (c.worker e).reporter) c.distinct)
      (nextAttempt attempts) next
    rw [hVerdict]
    exact ⟨hAttempts, hStatus⟩

/-- A row with a failure of the handler written back, after some attempts. -/
def failedRow (c : Team ε ρ τ) (e : ε) (next : Instant) (attempts : Nat) : Row → Row :=
  (c.queue e).store.patched
    ((c.worker e).reporter.verdictPatch next ((c.worker e).verdict attempts false))

theorem cell_failedRow_id (c : Team ε ρ τ) (e : ε) (next : Instant) (attempts : Nat) (row : Row) :
    (c.failedRow e next attempts row).cell c.table.idColumn = row.cell c.table.idColumn :=
  ((c.worker e).reporter.isReport_verdictPatch next
    ((c.worker e).verdict attempts false)).keepsIdentity.id row

/-- A failure gives the row up if it was the last attempt, and sends it back otherwise. -/
theorem Counted.failedRow_status (h : c.Counted id start runs row)
    (hRoom : ∀ most, c.cap = some most → start + max 1 (most - start) ≤ attemptLimit)
    (hUnspent : ¬c.Spent start runs) (e : ε) (next : Instant) :
    (c.Spent start (runs + 1) →
        (c.failedRow e next (c.attemptsIn row) row).cell c.claimColumns.status =
          (c.settings e).failed.toJson) ∧
      (¬c.Spent start (runs + 1) →
        (c.failedRow e next (c.attemptsIn row) row).cell c.claimColumns.status =
          c.roles.pending.toJson) := by
  obtain ⟨-, hStatus⟩ := c.get?_failurePatch e next (c.attemptsIn row)
  have hCell := ((c.worker e).reporter.isReport_verdictPatch next
    ((c.worker e).verdict (c.attemptsIn row) false)).cell_patched (Queue.mem_fields c.roles).1
    c.roles_resolved.status hStatus row
  have hLast := c.isLastAttempt_iff e hRoom hUnspent
  rw [← h.read] at hLast
  refine ⟨fun hSpent => ?_, fun hLeft => ?_⟩
  · rw [if_pos (hLast.mpr hSpent)] at hCell
    exact hCell
  · rw [if_neg fun hIsLast => hLeft (hLast.mp hIsLast)] at hCell
    exact hCell

/-- A failure of the handler counts. -/
theorem Counted.failed (h : c.Counted id start runs row)
    (hRoom : ∀ most, c.cap = some most → start + max 1 (most - start) ≤ attemptLimit)
    (hUnspent : ¬c.Spent start runs) (e : ε) (next : Instant) :
    c.Counted id start (runs + 1) (c.failedRow e next (c.attemptsIn row) row) := by
  obtain ⟨hAttempts, -⟩ := c.get?_failurePatch e next (c.attemptsIn row)
  obtain ⟨hGivenUp, -⟩ := h.failedRow_status hRoom hUnspent e next
  have hReport := (c.worker e).reporter.isReport_verdictPatch next
    ((c.worker e).verdict (c.attemptsIn row) false)
  obtain ⟨column, hColumn⟩ := c.exists_attempts
  have hGet : (c.failedRow e next (c.attemptsIn row) row).get? column =
      some (Value.ofNat (min (start + (runs + 1)) attemptLimit)).toJson := by
    refine (hReport.get?_patched (Queue.mem_fields c.roles).2.2 hColumn row).trans ?_
    rw [hAttempts, h.read, nextAttempt_min]
    rfl
  refine ⟨(c.cell_failedRow_id e next _ row).trans h.id_eq, ?_, ?_, ?_⟩
  · rw [attemptsIn, hColumn, Option.bind_some, hGet]
    exact Worker.attemptsOf_ofNat (min_le_right _ _)
  · intro _ column' hColumn'
    cases Option.some.inj (hColumn.symm.trans hColumn')
    rw [Row.cell, hGet]
    rfl
  · exact fun hSpent => ⟨e, hGivenUp hSpent⟩

/-! ### Runs of the two steps -/

/-- The places of the rows that a worker claims. -/
def taken (c : Team ε ρ τ) (s : State ε τ) (e : ε) : List Nat :=
  Memory.claimedPlaces c.table c.tenant { c.claimColumns with
    limit := (c.settings e).batchSize, now := (c.clock s.surroundings).1 } (c.rows s)

/-- A claim marks the rows that it takes, whether or not it can hand them out. -/
theorem run_claim (c : Team ε ρ τ) (id : Json) (s : State ε τ) (e : ε) :
    ∃ m, m.rows c.table.name = Memory.changeAt (Memory.markClaimed { c.claimColumns with
        limit := (c.settings e).batchSize, now := (c.clock s.surroundings).1 })
        (c.taken s e) (c.rows s) ∧
      ((∃ failure, (c.world id e).run ((c.queue e).claimBatch (c.settings e).batchSize) s.seen =
          (.error (.error failure), m, (c.clock s.surroundings).2, s.runs)) ∨
        ∃ batch, (c.queue e).store.decodeRows (c.claimed s e) = .ok batch.records ∧
          (c.world id e).run ((c.queue e).claimBatch (c.settings e).batchSize) s.seen =
            (.ok batch, m, (c.clock s.surroundings).2, s.runs)) := by
  have hRun := Queue.run_claimBatch_eq (w := c.world id e) (q := c.queue e) (c.reports e)
    (c.settings e).batchSize s.seen
  rw [hRun]
  by_cases hLimit : (c.settings e).batchSize = 0
  · rw [if_pos hLimit]
    refine ⟨s.memory, ?_, .inr ⟨_, ?_, rfl⟩⟩
    · rw [taken, hLimit]
      rfl
    · rw [claimed, hLimit, SharedQueue.claimedRows_zero]
      rfl
  · rw [if_neg hLimit]
    have hAnswer : (c.world id e).backend (.claim (c.queue e).store.table c.tenant
        { (c.queue e).columns with
          limit := (c.settings e).batchSize, now := ((c.world id e).time s.seen).1 })
        ((c.world id e).time s.seen).2 =
      (.ok (c.claimed s e), (s.memory.claim c.table c.tenant { c.claimColumns with
        limit := (c.settings e).batchSize, now := (c.clock s.surroundings).1 }).2,
        (c.clock s.surroundings).2, s.runs) := rfl
    rw [hAnswer]
    refine ⟨_, Memory.rows_claim _ _ _ _, ?_⟩
    dsimp only
    cases hDecode : (c.queue e).store.decodeRows (c.claimed s e) with
    | error failure => exact .inl ⟨failure, rfl⟩
    | ok records => exact .inr ⟨_, rfl, rfl⟩

/-- The handler runs once the record has shown its id and its attempts. -/
theorem run_judge (c : Team ε ρ τ) (id : Json) (s : State ε τ) (e : ε) (record : ρ e) :
    (∃ failure, (c.world id e).run ((c.worker e).judge record) s.seen =
        (.error (.error failure), s.seen)) ∨
      ∃ value cell, (c.queue e).store.recordId record = .ok value ∧
        (c.queue e).store.fieldValue record c.roles.attempts = .ok cell ∧
        (c.world id e).run ((c.worker e).judge record) s.seen =
          (.ok (value, (c.worker e).verdict (Worker.attemptsOf cell)
            (c.handler e record s.surroundings).1), s.memory,
            (c.handler e record s.surroundings).2,
            if c.concerns id e record then s.runs + 1 else s.runs) := by
  rw [Worker.judge, World.run_bind, World.run_ofExcept]
  cases hId : (c.worker e).queue.store.recordId record with
  | error failure => exact .inl ⟨failure, rfl⟩
  | ok value =>
    dsimp only [Except.mapError]
    rw [World.run_bind, World.run_ofExcept]
    cases hCell : (c.worker e).queue.store.fieldValue record (c.worker e).queue.roles.attempts with
    | error failure => exact .inl ⟨failure, rfl⟩
    | ok cell => exact .inr ⟨value, cell, hId, hCell, rfl⟩

/-- An outcome is written to all rows that the id reaches, or that fails and changes no rows. -/
theorem run_report (c : Team ε ρ τ) (id : Json) (s : State ε τ) (e : ε) (value : Value)
    (verdict : Verdict) :
    (∃ failure t, (c.world id e).run ((c.worker e).reporter.finalize value verdict) s.seen =
        (.error (.error failure), s.memory, t, s.runs)) ∨
      ∃ hit next t, (c.world id e).run ((c.worker e).reporter.finalize value verdict) s.seen =
        (.ok hit, (c.queue e).store.rewriteAt ((c.worker e).reporter.verdictPatch next verdict)
          ((c.queue e).store.reached c.tenant value (c.rows s)) s.memory, t, s.runs) := by
  obtain ⟨⟨t, n⟩, hTime, hRun⟩ := Queue.run_finalize_inMemory (q := (c.worker e).reporter)
    c.ticking (c.counting id e) (c.reports e) value verdict s.memory (s.surroundings, s.runs)
  have hCount : n = s.runs := by
    rcases hTime with hTime | hTime
    · exact congrArg Prod.snd hTime
    · exact congrArg Prod.snd hTime
  subst hCount
  rcases hRun with ⟨failure, hRun⟩ | ⟨hit, next, hRun⟩
  · exact .inl ⟨failure, t, hRun⟩
  · exact .inr ⟨hit, next, t, hRun⟩

end Team

end Tenancy
