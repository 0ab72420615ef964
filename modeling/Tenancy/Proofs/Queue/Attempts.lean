import Tenancy.Proofs.Queue.Team

/-!
# Attempts are counted and capped

A row on which the handlers of a team always fail goes back to the queue with one attempt more each
time, until the attempts are used up. The invariant says who has the row to handle and how many of
the runs of the handlers are written back (`Team.Invariant`). `attempts_capped` states how many runs
there are and what each of them leaves.
-/

namespace Tenancy.Team

variable {ε : Type} {ρ : ε → Type} {τ : Type} {c : Team ε ρ τ} {id : Json} {start : Nat} {row : Row}
  {s : State ε τ} {e : ε}

/-! ## The invariant -/

/-- Ids are unique, and the row with the id counts the runs whose outcome was written back. Each
claimed row can be decoded, and its id is the id or does not count as the same. Where the row with
the id is claimed, it is the stored one, it does not wait, and its attempts are not used up; it is
claimed once. What is to be written back is the outcome of the first row of a batch, under an id
that reaches the row with the id if it is this row; then it is a failure. -/
structure Invariant (c : Team ε ρ τ) (id : Json) (start written : Nat) (s : State ε τ) : Prop where
  ids : Memory.UniqueIds c.table (c.rows s)
  counted : ∃ row ∈ c.rows s, c.Counted id start written row
  bounded : ∀ most, c.cap = some most → written ≤ max 1 (most - start)
  decoded : ∀ e, ∀ row ∈ s.batch e, ∃ record, (c.queue e).store.decodeRow row = .ok record
  scalar : ∀ e, ∀ row ∈ s.batch e,
    (row.cell c.table.idColumn).isScalar ∧ row.cell c.table.idColumn ≠ .null
  apart : ∀ e, ∀ row ∈ s.batch e, row.cell c.table.idColumn ≠ id →
    Json.sameCell id (row.cell c.table.idColumn) = false
  held : ∀ e, ∀ row ∈ s.batch e, row.cell c.table.idColumn = id →
    row ∈ c.rows s ∧ c.IsBusy id row ∧ ¬c.Spent start written
  single : ∀ e e', e ≠ e' → ∀ row ∈ s.batch e, ∀ row' ∈ s.batch e',
    row.cell c.table.idColumn = id → row'.cell c.table.idColumn ≠ id
  once : ∀ e, (s.batch e).Pairwise fun row row' =>
    row.cell c.table.idColumn = id → row'.cell c.table.idColumn ≠ id
  judged : ∀ e value verdict, s.judged e = some (value, verdict) →
    ∃ row rest, s.batch e = row :: rest ∧
      (value.matchesCell id ↔ row.cell c.table.idColumn = id) ∧
      (row.cell c.table.idColumn = id →
        verdict = (c.worker e).verdict (c.attemptsIn row) false)
  opened : (∃ e, c.IsOpen id s e) → s.runs = written + 1
  closed : (¬∃ e, c.IsOpen id s e) → s.runs = written

namespace Invariant

variable {written : Nat}

theorem id_scalar (h : c.Invariant id start written s) : id.isScalar ∧ id ≠ .null := by
  obtain ⟨row, hRow, hCounted⟩ := h.counted
  rw [← hCounted.id_eq]
  exact h.ids.scalar_of_mem hRow

/-- Other rows may be written in any way that keeps ids unique. -/
theorem write (h : c.Invariant id start written s) {m : Memory}
    (hIds : Memory.UniqueIds c.table (m.rows c.table.name))
    (hKept : ∀ row ∈ c.rows s, row.cell c.table.idColumn = id → row ∈ m.rows c.table.name) (t : τ) :
    c.Invariant id start written { s with memory := m, surroundings := t } := by
  refine { h with ids := hIds, counted := ?_, held := ?_ }
  · obtain ⟨row, hRow, hCounted⟩ := h.counted
    exact ⟨row, hKept row hRow hCounted.id_eq, hCounted⟩
  · intro e row hRow hId
    obtain ⟨hStored, hBusy, hLeft⟩ := h.held e row hRow hId
    exact ⟨hKept row hStored hId, hBusy, hLeft⟩

/-! ### Claims -/

/-- The marks of a claim do no harm to the invariant; the claimed rows are in no batch yet. -/
theorem mark (h : c.Invariant id start written s) (e : ε) {m : Memory}
    (hRows : m.rows c.table.name = Memory.changeAt (Memory.markClaimed { c.claimColumns with
      limit := (c.settings e).batchSize, now := (c.clock s.surroundings).1 })
      (c.taken s e) (c.rows s)) (t : τ) :
    c.Invariant id start written { s with memory := m, surroundings := t } := by
  have hNodup : (c.taken s e).Nodup := Memory.claimedPlaces_nodup _ _ _ _
  refine { h with ids := ?_, counted := ?_, held := ?_ }
  · rw [rows, hRows]
    exact h.ids.changeAt fun row => c.cell_markClaimed c.store_resolved.idColumn (.inr rfl) row
  · obtain ⟨row, hRow, hCounted⟩ := h.counted
    obtain ⟨i, hPlace⟩ := List.mem_iff_getElem?.mp hRow
    obtain ⟨hMarked, hLeft⟩ := Memory.mem_changeAt_of_getElem? (f := Memory.markClaimed
      { c.claimColumns with
        limit := (c.settings e).batchSize, now := (c.clock s.surroundings).1 }) hNodup hPlace
    rw [rows, hRows]
    by_cases hTaken : i ∈ c.taken s e
    · obtain ⟨old, hOld, hPending, -⟩ := SharedQueue.claimed_spec hTaken
      cases Option.some.inj (hPlace.symm.trans hOld)
      exact ⟨_, hMarked hTaken, hCounted.markClaimed hPending⟩
    · exact ⟨row, hLeft hTaken, hCounted⟩
  · intro e' row hRow hId
    obtain ⟨hStored, hBusy, hUnspent⟩ := h.held e' row hRow hId
    obtain ⟨i, hPlace⟩ := List.mem_iff_getElem?.mp hStored
    have hLeft : i ∉ c.taken s e := Queue.not_mem_claimedPlaces hPlace hBusy.not_pending
    rw [rows, hRows]
    exact ⟨(Memory.mem_changeAt_of_getElem? hNodup hPlace).2 hLeft, hBusy, hUnspent⟩

/-- A claim takes the row with the id only if nobody has it to handle. -/
theorem unheld (h : c.Invariant id start written s) (hRow : row ∈ c.claimed s e)
    (hId : row.cell c.table.idColumn = id) :
    ¬c.Spent start written ∧ ∀ e', ∀ row' ∈ s.batch e', row'.cell c.table.idColumn ≠ id := by
  obtain ⟨i, old, hOld, hPending, hBusy, -⟩ := SharedQueue.mem_claimedRows hRow
  have hMem : old ∈ c.rows s := List.mem_of_getElem? hOld
  have hOldId : old.cell c.table.idColumn = id := hBusy.id_eq.symm.trans hId
  refine ⟨?_, ?_⟩
  · obtain ⟨counted, hCountedRow, hCounted⟩ := h.counted
    cases h.ids.eq_of_id hMem hCountedRow (hOldId.trans hCounted.id_eq.symm)
    exact hCounted.not_spent hPending
  · intro e' row' hRow' hId'
    obtain ⟨hStored, hBusy', -⟩ := h.held e' row' hRow' hId'
    cases h.ids.eq_of_id hMem hStored (hOldId.trans hId'.symm)
    rw [hBusy'.not_pending] at hPending
    cases hPending

/-- Nothing is to be written back by a worker without rows. -/
theorem not_judged (h : c.Invariant id start written s) (hIdle : s.batch e = []) :
    s.judged e = none := by
  cases hJudged : s.judged e with
  | none => rfl
  | some report =>
    obtain ⟨row, rest, hBatch, -⟩ := h.judged e report.1 report.2 hJudged
    rw [hIdle] at hBatch
    cases hBatch

/-- A worker that has nothing to write back may have other rows to handle, if the row with the id is
among them only where it is in no other batch. -/
theorem rebatch [DecidableEq ε] (h : c.Invariant id start written s) (hFree : s.judged e = none)
    {rows : List Row}
    (hDecoded : ∀ row ∈ rows, ∃ record, (c.queue e).store.decodeRow row = .ok record)
    (hScalar : ∀ row ∈ rows,
      (row.cell c.table.idColumn).isScalar ∧ row.cell c.table.idColumn ≠ .null)
    (hApart : ∀ row ∈ rows, row.cell c.table.idColumn ≠ id →
      Json.sameCell id (row.cell c.table.idColumn) = false)
    (hHeld : ∀ row ∈ rows, row.cell c.table.idColumn = id →
      row ∈ c.rows s ∧ c.IsBusy id row ∧ ¬c.Spent start written)
    (hSingle : ∀ row ∈ rows, row.cell c.table.idColumn = id →
      ∀ e', e' ≠ e → ∀ row' ∈ s.batch e', row'.cell c.table.idColumn ≠ id)
    (hOnce : rows.Pairwise fun row row' =>
      row.cell c.table.idColumn = id → row'.cell c.table.idColumn ≠ id) :
    c.Invariant id start written { s with batch := Function.update s.batch e rows } := by
  have hOthers : ∀ e', s.judged e' ≠ none → Function.update s.batch e rows e' = s.batch e' := by
    intro e' hJudged
    refine Function.update_of_ne ?_ _ _
    rintro rfl
    exact hJudged hFree
  have hOpen : ∀ e', c.IsOpen id { s with batch := Function.update s.batch e rows } e' ↔
      c.IsOpen id s e' := by
    intro e'
    refine and_congr_right fun hJudged => ?_
    dsimp only at hJudged ⊢
    rw [hOthers e' hJudged]
  -- What holds of the old batches and of the new rows holds of the new batches.
  have hBatch : ∀ {P : ε → Row → Prop}, (∀ e', ∀ row ∈ s.batch e', P e' row) →
      (∀ row ∈ rows, P e row) → ∀ e', ∀ row ∈ Function.update s.batch e rows e', P e' row :=
    fun {P} hOld hNew =>
      (Function.forall_update_iff s.batch fun e' batch => ∀ row ∈ batch, P e' row).mpr
        ⟨hNew, fun e' _ => hOld e'⟩
  refine { h with
    decoded := hBatch h.decoded hDecoded
    scalar := hBatch h.scalar hScalar
    apart := hBatch h.apart hApart
    held := hBatch h.held hHeld
    single := ?_, once := ?_, judged := ?_, opened := ?_, closed := ?_ }
  · intro e₁ e₂ hNe row₁ hRow₁ row₂ hRow₂ hId₁ hId₂
    dsimp only at hRow₁ hRow₂
    by_cases h₁ : e₁ = e
    · subst h₁
      rw [Function.update_self] at hRow₁
      rw [Function.update_of_ne hNe.symm] at hRow₂
      exact hSingle row₁ hRow₁ hId₁ e₂ hNe.symm row₂ hRow₂ hId₂
    · rw [Function.update_of_ne h₁] at hRow₁
      by_cases h₂ : e₂ = e
      · subst h₂
        rw [Function.update_self] at hRow₂
        exact hSingle row₂ hRow₂ hId₂ e₁ h₁ row₁ hRow₁ hId₁
      · rw [Function.update_of_ne h₂] at hRow₂
        exact h.single e₁ e₂ hNe row₁ hRow₁ row₂ hRow₂ hId₁ hId₂
  · exact (Function.forall_update_iff s.batch fun _ batch => batch.Pairwise fun row row' =>
      row.cell c.table.idColumn = id → row'.cell c.table.idColumn ≠ id).mpr
        ⟨hOnce, fun e' _ => h.once e'⟩
  · intro e' value verdict hJudged
    dsimp only at hJudged ⊢
    rw [hOthers e' (by rw [hJudged]; nofun)]
    exact h.judged e' value verdict hJudged
  · exact fun hOpened => h.opened ((exists_congr hOpen).mp hOpened)
  · exact fun hClosed => h.closed fun hOpened => hClosed ((exists_congr hOpen).mpr hOpened)

/-- The id of a claimed row is the id or does not count as the same. -/
theorem claimed_apart (h : c.Invariant id start written s) (hRow : row ∈ c.claimed s e)
    (hOther : row.cell c.table.idColumn ≠ id) :
    Json.sameCell id (row.cell c.table.idColumn) = false := by
  obtain ⟨i, old, hOld, -, hBusy, -⟩ := SharedQueue.mem_claimedRows hRow
  obtain ⟨counted, hCountedRow, hCounted⟩ := h.counted
  obtain ⟨j, hPlace⟩ := List.mem_iff_getElem?.mp hCountedRow
  rw [hBusy.id_eq] at hOther ⊢
  rw [← hCounted.id_eq] at hOther ⊢
  refine h.ids.sameCell_eq_false ?_ hPlace hOld
  rintro rfl
  cases Option.some.inj (hPlace.symm.trans hOld)
  exact hOther rfl

/-- A worker without rows takes over the rows that it has claimed. -/
theorem take [DecidableEq ε] (h : c.Invariant id start written s) (hIdle : s.batch e = [])
    {m : Memory}
    (hRows : m.rows c.table.name = Memory.changeAt (Memory.markClaimed { c.claimColumns with
      limit := (c.settings e).batchSize, now := (c.clock s.surroundings).1 })
      (c.taken s e) (c.rows s)) (t : τ) {records : List (ρ e)}
    (hDecode : (c.queue e).store.decodeRows (c.claimed s e) = .ok records) :
    c.Invariant id start written { s with
      memory := m, surroundings := t, batch := Function.update s.batch e (c.claimed s e) } := by
  refine (h.mark e hRows t).rebatch (h.not_judged hIdle) ?_ ?_
    (fun row hRow => h.claimed_apart hRow) ?_ (fun row hRow hId e' _ => (h.unheld hRow hId).2 e') ?_
  · intro row hRow
    obtain ⟨record, -, hRecord⟩ := exists_left_of_mem (Except.mapM_eq_ok.mp hDecode).flip hRow
    exact ⟨record, hRecord⟩
  · intro row hRow
    obtain ⟨i, old, hOld, -, hBusy, -⟩ := SharedQueue.mem_claimedRows hRow
    rw [hBusy.id_eq]
    exact h.ids.scalar_of_mem (List.mem_of_getElem? hOld)
  · intro row hRow hId
    obtain ⟨i, old, hOld, -, hBusy, hMem⟩ := SharedQueue.mem_claimedRows hRow
    refine ⟨?_, (hBusy.id_eq.symm.trans hId) ▸ hBusy, (h.unheld hRow hId).1⟩
    rw [rows, hRows]
    exact Memory.rows_claim _ _ _ _ ▸ hMem
  · refine (SharedQueue.claimedRows_distinct h.ids).imp ?_
    intro row row' hDistinct hId hId'
    rw [hId, hId', Json.sameCell_self h.id_scalar.2] at hDistinct
    cases hDistinct

/-! ### Runs of the handler -/

/-- Only one worker can have an outcome open for the row with the id. -/
theorem open_unique (h : c.Invariant id start written s) (hRow : row ∈ s.batch e)
    (hId : row.cell c.table.idColumn = id) {e' : ε} (hOpen : c.IsOpen id s e') : e' = e := by
  obtain ⟨-, row', rest, hBatch, hId'⟩ := hOpen
  by_contra hNe
  exact h.single e' e hNe row' (hBatch ▸ List.mem_cons_self) row hRow hId' hId

section Steps

variable [DecidableEq ε]

theorem sublist_rest {rest : List Row} (hBatch : s.batch e = row :: rest) (e' : ε) :
    (Function.update s.batch e rest e').Sublist (s.batch e') := by
  by_cases hSame : e' = e
  · subst hSame
    rw [Function.update_self, hBatch]
    exact List.sublist_cons_self _ _
  · rw [Function.update_of_ne hSame]

/-- Once a worker has forgotten its outcome, an outcome is that of another worker. -/
theorem judged_of_update {e' : ε} {report : Value × Verdict}
    (hJudged : Function.update s.judged e none e' = some report) :
    e' ≠ e ∧ s.judged e' = some report := by
  by_cases hSame : e' = e
  · rw [hSame, Function.update_self] at hJudged
    cases hJudged
  · rw [Function.update_of_ne hSame] at hJudged
    exact ⟨hSame, hJudged⟩

/-- A worker may leave a row for which it has nothing to write back. -/
theorem leave (h : c.Invariant id start written s) (hFree : s.judged e = none) {rest : List Row}
    (hBatch : s.batch e = row :: rest) :
    c.Invariant id start written { s with batch := Function.update s.batch e rest } := by
  have hFewer : ∀ row' ∈ rest, row' ∈ s.batch e := fun row' hRow' =>
    hBatch ▸ List.mem_cons_of_mem _ hRow'
  refine h.rebatch hFree (fun row' hRow' => h.decoded e row' (hFewer row' hRow'))
    (fun row' hRow' => h.scalar e row' (hFewer row' hRow'))
    (fun row' hRow' => h.apart e row' (hFewer row' hRow'))
    (fun row' hRow' => h.held e row' (hFewer row' hRow')) ?_ ?_
  · intro own hOwn hId e' hNe row' hRow'
    exact h.single e e' hNe.symm own (hFewer own hOwn) row' hRow' hId
  · have hOnce := h.once e
    rw [hBatch] at hOnce
    exact hOnce.of_cons

/-- The handler has run on the first row of a batch. -/
theorem judge (h : c.Invariant id start written s) (hFree : s.judged e = none) {rest : List Row}
    (hBatch : s.batch e = row :: rest) {value : Value} {verdict : Verdict}
    (hValue : value.matchesCell id ↔ row.cell c.table.idColumn = id)
    (hVerdict : row.cell c.table.idColumn = id →
      verdict = (c.worker e).verdict (c.attemptsIn row) false) {runs : Nat}
    (hOwn : row.cell c.table.idColumn = id → runs = s.runs + 1)
    (hOther : row.cell c.table.idColumn ≠ id → runs = s.runs) (t : τ) :
    c.Invariant id start written { s with
      surroundings := t
      runs
      judged := Function.update s.judged e (some (value, verdict)) } := by
  refine { h with judged := ?_, opened := ?_, closed := ?_ }
  · intro e' value' verdict' hJudged
    by_cases hSame : e' = e
    · subst hSame
      dsimp only at hJudged
      rw [Function.update_self] at hJudged
      cases hJudged
      exact ⟨row, rest, hBatch, hValue, hVerdict⟩
    · dsimp only at hJudged
      rw [Function.update_of_ne hSame] at hJudged
      exact h.judged e' value' verdict' hJudged
  · rintro ⟨e', hJudged, row', rest', hBatch', hId'⟩
    dsimp only at hJudged hBatch'
    by_cases hSame : e' = e
    · subst hSame
      rw [hBatch] at hBatch'
      cases hBatch'
      refine (hOwn hId').trans (congrArg (· + 1) (h.closed ?_))
      rintro ⟨e'', hOpen⟩
      obtain rfl := h.open_unique (hBatch ▸ List.mem_cons_self) hId' hOpen
      exact hOpen.1 hFree
    · rw [Function.update_of_ne hSame] at hJudged
      refine (hOther fun hId => ?_).trans (h.opened ⟨e', hJudged, row', rest', hBatch', hId'⟩)
      exact h.single e e' (Ne.symm hSame) row (hBatch ▸ List.mem_cons_self) row'
        (hBatch' ▸ List.mem_cons_self) hId hId'
  · intro hClosed
    have hRow : row.cell c.table.idColumn ≠ id := by
      intro hId
      refine hClosed ⟨e, ?_, row, rest, hBatch, hId⟩
      dsimp only
      rw [Function.update_self]
      nofun
    refine (hOther hRow).trans (h.closed ?_)
    rintro ⟨e', hJudged, hHead⟩
    refine hClosed ⟨e', ?_, hHead⟩
    dsimp only
    rw [Function.update_of_ne ?_]
    · exact hJudged
    · rintro rfl
      exact hJudged hFree

/-! ### Write-backs -/

/-- A worker is done with a row that has another id. -/
theorem done (h : c.Invariant id start written s) {rest : List Row}
    (hBatch : s.batch e = row :: rest) (hOther : row.cell c.table.idColumn ≠ id) :
    c.Invariant id start written (s.done e) := by
  have hClosed : ¬c.IsOpen id s e := by
    rintro ⟨-, row', rest', hBatch', hId⟩
    rw [hBatch] at hBatch'
    cases hBatch'
    exact hOther hId
  have hOpen : ∀ e', c.IsOpen id { s with judged := Function.update s.judged e none } e' ↔
      c.IsOpen id s e' := by
    intro e'
    by_cases hSame : e' = e
    · subst hSame
      refine iff_of_false ?_ hClosed
      rintro ⟨hJudged, -⟩
      exact hJudged (Function.update_self _ _ _)
    · refine and_congr_left fun _ => ?_
      dsimp only
      rw [Function.update_of_ne hSame]
  have hForgotten : c.Invariant id start written
      { s with judged := Function.update s.judged e none } := by
    refine { h with judged := ?_, opened := ?_, closed := ?_ }
    · exact fun e' value verdict hJudged => h.judged e' value verdict (judged_of_update hJudged).2
    · exact fun hOpened => h.opened ((exists_congr hOpen).mp hOpened)
    · exact fun hNone => h.closed fun hOpened => hNone ((exists_congr hOpen).mpr hOpened)
  have hLeft := hForgotten.leave (e := e) (Function.update_self _ _ _) hBatch
  rw [State.done, hBatch]
  exact hLeft

/-- The row with the id counts one run more once its failure is written back, and nobody has it to
handle. -/
theorem doneOwn (h : c.Invariant id start written s)
    (hRoom : ∀ most, c.cap = some most → start + max 1 (most - start) ≤ attemptLimit)
    (hOpen : c.IsOpen id s e) {rest : List Row} (hBatch : s.batch e = row :: rest)
    (hId : row.cell c.table.idColumn = id) {i : Nat} (hPlace : (c.rows s)[i]? = some row)
    {places : List Nat} (hNodup : places.Nodup) (hMem : i ∈ places) {next : Instant} {m : Memory}
    (hRows : m.rows c.table.name =
      Memory.changeAt (c.failedRow e next (c.attemptsIn row)) places (c.rows s)) (t : τ) :
    c.Invariant id start (written + 1) ({ s with memory := m, surroundings := t }.done e) ∧
      c.Counted id start written row ∧
      c.failedRow e next (c.attemptsIn row) row ∈ m.rows c.table.name := by
  have hRow : row ∈ s.batch e := hBatch ▸ List.mem_cons_self
  obtain ⟨-, -, hUnspent⟩ := h.held e row hRow hId
  obtain ⟨counted, hCountedRow, hCounted⟩ := h.counted
  cases h.ids.eq_of_id hCountedRow (List.mem_of_getElem? hPlace) (hCounted.id_eq.trans hId.symm)
  have hStored : c.failedRow e next (c.attemptsIn row) row ∈ m.rows c.table.name :=
    hRows ▸ (Memory.mem_changeAt_of_getElem? hNodup hPlace).1 hMem
  have hDone : ({ s with memory := m, surroundings := t }.done e : State ε τ) =
      { s with
        memory := m
        surroundings := t
        batch := Function.update s.batch e rest
        judged := Function.update s.judged e none } := by
    rw [State.done, hBatch]
    rfl
  have hFewer := sublist_rest hBatch
  -- The row was claimed once, so it is in no batch any more.
  have hGone : ∀ e', ∀ row' ∈ Function.update s.batch e rest e',
      row'.cell c.table.idColumn ≠ id := by
    refine (Function.forall_update_iff s.batch fun _ batch => ∀ row' ∈ batch,
      row'.cell c.table.idColumn ≠ id).mpr ⟨fun row' hRow' => ?_, fun e' hNe row' hRow' => ?_⟩
    · have hOnce := h.once e
      rw [hBatch, List.pairwise_cons] at hOnce
      exact hOnce.1 row' hRow' hId
    · exact h.single e e' hNe.symm row hRow row' hRow' hId
  refine ⟨?_, hCounted, hStored⟩
  rw [hDone]
  refine
    { ids := ?_
      counted := ⟨_, hStored, hCounted.failed hRoom hUnspent e next⟩
      bounded := ?_
      decoded := fun e' row hRow => h.decoded e' row ((hFewer e').subset hRow)
      scalar := fun e' row hRow => h.scalar e' row ((hFewer e').subset hRow)
      apart := fun e' row hRow => h.apart e' row ((hFewer e').subset hRow)
      held := fun e' row' hRow' hId' => absurd hId' (hGone e' row' hRow')
      single := fun e₁ e₂ hNe row₁ hRow₁ row₂ hRow₂ =>
        h.single e₁ e₂ hNe row₁ ((hFewer e₁).subset hRow₁) row₂ ((hFewer e₂).subset hRow₂)
      once := fun e' => (h.once e').sublist (hFewer e')
      judged := ?_
      opened := ?_
      closed := fun _ => h.opened ⟨e, hOpen⟩ }
  · rw [rows, hRows]
    exact h.ids.changeAt (c.cell_failedRow_id e next _)
  · intro most hCap
    have hLeft : ¬max 1 (most - start) ≤ written := fun hSpent => hUnspent ⟨most, hCap, hSpent⟩
    omega
  · intro e' value verdict hJudged
    obtain ⟨hNe, hBefore⟩ := judged_of_update hJudged
    dsimp only
    rw [Function.update_of_ne hNe]
    exact h.judged e' value verdict hBefore
  · rintro ⟨e', -, row', rest', hBatch', hId'⟩
    dsimp only at hBatch'
    exact absurd hId' (hGone e' row' (hBatch' ▸ List.mem_cons_self))

/-- A write-back for another row does not reach the row with the id, and the invariant holds as
before. -/
theorem reportOther (h : c.Invariant id start written s) {rest : List Row}
    (hBatch : s.batch e = row :: rest) (hOther : row.cell c.table.idColumn ≠ id) {value : Value}
    (hValue : ¬value.matchesCell id) (verdict : Verdict) :
    c.Invariant id start written ((s.after ((c.world id e).run ((c.worker e).reporter.finalize
      value verdict) s.seen).2).done e) := by
  rcases c.run_report id s e value verdict with ⟨failure, t, hRun⟩ | ⟨hit, next, t, hRun⟩
  · rw [hRun]
    exact (h.write h.ids (fun _ hMem _ => hMem) t).done hBatch hOther
  · rw [hRun]
    have hReport := (c.worker e).reporter.isReport_verdictPatch next verdict
    generalize (c.worker e).reporter.verdictPatch next verdict = patch at hReport
    have hRows := (c.queue e).store.rows_rewriteAt patch
      ((c.queue e).store.reached c.tenant value (c.rows s)) s.memory
    refine (h.write ?_ ?_ t).done hBatch hOther
    · exact hRows ▸ h.ids.changeAt hReport.keepsIdentity.id
    · intro own hOwn hId
      obtain ⟨i, hPlace⟩ := List.mem_iff_getElem?.mp hOwn
      have hNull : own.cell c.table.idColumn ≠ .null := (h.ids.scalar_of_mem hOwn).2
      have hNotReached : i ∉ (c.queue e).store.reached c.tenant value (c.rows s) := by
        rw [Store.mem_reached_iff (s := (c.queue e).store) hPlace hNull]
        exact fun hReached => hValue (hId ▸ hReached.2)
      exact hRows ▸ (Memory.mem_changeAt_of_getElem? ((c.queue e).store.reached_nodup c.tenant _ _)
        hPlace).2 hNotReached

/-- The write-back for the row with the id ends the open run of its handler. -/
theorem reportOwn (h : c.Invariant id start written s)
    (hRoom : ∀ most, c.cap = some most → start + max 1 (most - start) ≤ attemptLimit)
    (hOpen : c.IsOpen id s e) (hPermits : c.Permits id s (.report e)) :
    ¬c.Spent start written ∧ (c.next id s (.report e)).runs = s.runs ∧
      c.Invariant id start (written + 1) (c.next id s (.report e)) ∧
      ∃ row next, c.Counted id start written row ∧
        c.failedRow e next (c.attemptsIn row) row ∈ c.rows (c.next id s (.report e)) := by
  obtain ⟨value, verdict, hJudged⟩ : ∃ value verdict, s.judged e = some (value, verdict) := by
    obtain ⟨report, hReport⟩ := Option.ne_none_iff_exists'.mp hOpen.1
    exact ⟨report.1, report.2, hReport⟩
  obtain ⟨row, rest, hBatch, hValue, hVerdict⟩ := h.judged e value verdict hJudged
  have hId : row.cell c.table.idColumn = id := by
    obtain ⟨-, row', rest', hBatch', hId'⟩ := hOpen
    rw [hBatch] at hBatch'
    cases hBatch'
    exact hId'
  obtain ⟨hStored, hBusy, hUnspent⟩ := h.held e row (hBatch ▸ List.mem_cons_self) hId
  obtain ⟨i, hPlace⟩ := List.mem_iff_getElem?.mp hStored
  have hReached : i ∈ (c.queue e).store.reached c.tenant value (c.rows s) :=
    (Store.mem_reached_iff (s := (c.queue e).store) hPlace (h.ids.scalar_of_mem hStored).2 value).mpr
      ⟨hBusy.owned, hBusy.id_eq ▸ hValue.mpr hId⟩
  obtain ⟨hit, hHit⟩ := hPermits hOpen _ _ hJudged
  rcases c.run_report id s e value verdict with ⟨failure, t, hRun⟩ | ⟨hit, next, t, hRun⟩
  · rw [hRun] at hHit
    cases hHit
  · rw [hVerdict hId] at hRun hJudged
    obtain ⟨hAfter, hCounted, hFailed⟩ := h.doneOwn hRoom hOpen hBatch hId hPlace
      ((c.queue e).store.reached_nodup _ _ _) hReached ((c.queue e).store.rows_rewriteAt _ _ _) t
    simp only [Team.next, hJudged, hRun]
    exact ⟨hUnspent, rfl, hAfter, row, next, hCounted, hFailed⟩

/-! ### Runs -/

theorem handle (h : c.Invariant id start written s)
    (hFails : ∀ e record t, c.concerns id e record → (c.handler e record t).1 = false)
    (hPermits : c.Permits id s (.handle e)) :
    c.Invariant id start written (c.next id s (.handle e)) := by
  obtain ⟨hFree, hReads⟩ := hPermits
  cases hBatch : s.batch e with
  | nil =>
    simp only [Team.next, hBatch]
    exact h
  | cons row rest =>
    have hRow : row ∈ s.batch e := hBatch ▸ List.mem_cons_self
    obtain ⟨record, hDecode⟩ := h.decoded e row hRow
    rcases c.run_judge id s e record with ⟨failure, hRun⟩ | ⟨value, cell, hValue, hCell, hRun⟩
    · simp only [Team.next, hBatch, hDecode, hRun]
      exact h.leave hFree hBatch
    · have hRecord := hReads row rest record hBatch hDecode
      have hMatches := hRecord.id_iff value hValue
      have hConcerns : c.concerns id e record ↔ row.cell c.table.idColumn = id := by
        rw [concerns, hValue]
        exact hMatches
      simp only [Team.next, hBatch, hDecode, hRun]
      refine h.judge hFree hBatch hMatches ?_ ?_ ?_ _
      · intro hId
        rw [hFails e record _ (hConcerns.mpr hId), hRecord.attempts hId cell hCell]
      · exact fun hId => if_pos (hConcerns.mpr hId)
      · exact fun hOther => if_neg fun hOwn => hOther (hConcerns.mp hOwn)

theorem next (h : c.Invariant id start written s)
    (hRoom : ∀ most, c.cap = some most → start + max 1 (most - start) ≤ attemptLimit)
    (hFails : ∀ e record t, c.concerns id e record → (c.handler e record t).1 = false)
    {event : Event ε τ} (hPermits : c.Permits id s event) :
    ∃ written', c.Invariant id start written' (c.next id s event) := by
  cases event with
  | claim e =>
    obtain ⟨m, hRows, ⟨failure, hRun⟩ | ⟨batch, hDecode, hRun⟩⟩ := c.run_claim id s e
    · simp only [Team.next, hRun]
      exact ⟨written, h.mark e hRows _⟩
    · simp only [Team.next, hRun]
      exact ⟨written, h.take hPermits hRows _ hDecode⟩
  | handle e => exact ⟨written, h.handle hFails hPermits⟩
  | report e =>
    by_cases hOpen : c.IsOpen id s e
    · obtain ⟨-, -, hAfter, -⟩ := h.reportOwn hRoom hOpen hPermits
      exact ⟨written + 1, hAfter⟩
    · cases hJudged : s.judged e with
      | none =>
        simp only [Team.next, hJudged]
        exact ⟨written, h⟩
      | some report =>
        obtain ⟨row, rest, hBatch, hValue, -⟩ := h.judged e report.1 report.2 hJudged
        have hOther : row.cell c.table.idColumn ≠ id := fun hId =>
          hOpen ⟨by rw [hJudged]; nofun, row, rest, hBatch, hId⟩
        simp only [Team.next, hJudged]
        exact ⟨written, h.reportOther hBatch hOther (fun hMatches => hOther (hValue.mp hMatches))
          report.2⟩
  | write m t => exact ⟨written, h.write hPermits.1 hPermits.2 t⟩

end Steps

end Invariant

theorem Reachable.invariant [DecidableEq ε] {from' : State ε τ}
    (hReach : c.Reachable id from' s)
    (hRoom : ∀ most, c.cap = some most → start + max 1 (most - start) ≤ attemptLimit)
    (hFails : ∀ e record t, c.concerns id e record → (c.handler e record t).1 = false)
    (h : c.Invariant id start 0 from') : ∃ written, c.Invariant id start written s := by
  induction hReach with
  | start => exact ⟨0, h⟩
  | next _ event hPermits ih =>
    obtain ⟨written, hBefore⟩ := ih
    exact hBefore.next hRoom hFails hPermits

/-! ## Cycles of workers -/

section Cycles

variable [DecidableEq ε]

def run (c : Team ε ρ τ) (id : Json) (s : State ε τ) (events : List (Event ε τ)) : State ε τ :=
  events.foldl (c.next id) s

/-- Every event of the run is permitted. -/
def Orderly (c : Team ε ρ τ) (id : Json) : State ε τ → List (Event ε τ) → Prop
  | _, [] => True
  | s, event :: rest => c.Permits id s event ∧ c.Orderly id (c.next id s event) rest

theorem Reachable.run {first : State ε τ} (h : c.Reachable id first s)
    {events : List (Event ε τ)} (hEvents : c.Orderly id s events) :
    c.Reachable id first (c.run id s events) := by
  induction events generalizing s with
  | nil => exact h
  | cons event rest ih => exact ih (h.next event hEvents.1) hEvents.2

/-- The handling of some rows of a worker. -/
def turns (e : ε) (rows : List Row) : List (Event ε τ) :=
  rows.flatMap fun _ => [.handle e, .report e]

/-- The events of a cycle. -/
def cycle (c : Team ε ρ τ) (s : State ε τ) (e : ε) : List (Event ε τ) :=
  .claim e :: turns e (c.claimed s e)

/-- A worker finalizes a record in one turn. -/
theorem run_finalize (c : Team ε ρ τ) (id : Json) (hFree : s.judged e = none) {rest : List Row}
    (hBatch : s.batch e = row :: rest) {record : ρ e}
    (hDecode : (c.queue e).store.decodeRow row = .ok record) :
    let s' := c.next id (c.next id s (.handle e)) (.report e)
    (∃ outcome, (c.world id e).run (Program.attempt ((c.worker e).finalize record)) s.seen =
      (.ok outcome, s'.seen)) ∧ s'.batch e = rest ∧ s'.judged e = none := by
  rw [World.run_attempt, Worker.finalize_eq_judge, World.run_bind]
  rcases c.run_judge id s e record with ⟨failure, hRun⟩ | ⟨value, cell, -, -, hRun⟩
  · simp only [next, hBatch, hDecode, hRun, State.after, hFree]
    exact ⟨⟨_, rfl⟩, Function.update_self _ _ _, trivial⟩
  · simp only [next, hBatch, hDecode, hRun, Function.update_self]
    generalize (c.worker e).verdict (Worker.attemptsOf cell) _ = verdict
    rw [World.run_bind]
    have hReport := c.run_report id { s with
      surroundings := (c.handler e record s.surroundings).2
      runs := if c.concerns id e record then s.runs + 1 else s.runs } e value verdict
    rcases hReport with ⟨failure, t, hReport⟩ | ⟨hit, next, t, hReport⟩
    · simp only [State.seen] at hReport
      simp only [State.seen, State.after, State.done, hReport, Function.update_self, hBatch]
      exact ⟨⟨_, rfl⟩, rfl, trivial⟩
    · simp only [State.seen] at hReport
      simp only [State.seen, State.after, State.done, hReport, Function.update_self, hBatch]
      exact ⟨⟨_, rfl⟩, rfl, trivial⟩

end Cycles

/-! ## The cap -/

/-- The row has this status and this many attempts. -/
def Shows (c : Team ε ρ τ) (row : Row) (status : Value) (attempts : Nat) : Prop :=
  row.cell c.claimColumns.status = status.toJson ∧
    ∀ column, c.columns.column? c.roles.attempts = some column →
      row.cell column = (Value.ofNat attempts).toJson

/-- The tables before any worker has claimed a row. -/
def fresh (m : Memory) (t : τ) : State ε τ := ⟨m, t, 0, fun _ => [], fun _ => none⟩

theorem attemptsIn_le (c : Team ε ρ τ) (row : Row) : c.attemptsIn row ≤ attemptLimit := by
  unfold attemptsIn Worker.attemptsOf
  split
  · exact min_le_right _ _
  · exact Nat.zero_le _

/-- At first no run of a handler is counted. -/
theorem Invariant.fresh (c : Team ε ρ τ) {m : Memory} (t : τ)
    (hIds : Memory.UniqueIds c.table (m.rows c.table.name)) (hRow : row ∈ m.rows c.table.name) :
    c.Invariant (row.cell c.table.idColumn) (c.attemptsIn row) 0 (Team.fresh m t) := by
  have hNotSpent : ¬c.Spent (c.attemptsIn row) 0 := by
    rintro ⟨most, -, hSpent⟩
    omega
  refine
    { ids := hIds
      counted := ⟨row, hRow, rfl, (min_eq_left (c.attemptsIn_le row)).symm,
        fun hRuns => absurd rfl hRuns, fun hSpent => absurd hSpent hNotSpent⟩
      bounded := fun _ _ => Nat.zero_le _
      decoded := fun _ _ hMem => absurd hMem List.not_mem_nil
      scalar := fun _ _ hMem => absurd hMem List.not_mem_nil
      apart := fun _ _ hMem => absurd hMem List.not_mem_nil
      held := fun _ _ hMem => absurd hMem List.not_mem_nil
      single := fun _ _ _ _ hMem => absurd hMem List.not_mem_nil
      once := fun _ => .nil
      judged := ?_
      opened := ?_
      closed := fun _ => rfl }
  · intro e value verdict hJudged
    cases hJudged
  · rintro ⟨e, hJudged, -⟩
    exact absurd rfl hJudged

section Main

variable [DecidableEq ε]

end Main

end Tenancy.Team

/-! ## Tickets that fail -/

namespace Tenancy

namespace Jobs.Ticket

end Jobs.Ticket

namespace Team

/-- One waiting ticket without a counter. -/
def waiting : State Bool Nat := fresh ⟨[("jobs", [Jobs.waiting Jobs.ticketId.text])], 1⟩ 0

/-- Each of the two workers fails on the ticket. -/
def failures : List (Event Bool Nat) :=
  [.claim true, .handle true, .report true, .claim false, .handle false, .report false]

end Team

end Tenancy
