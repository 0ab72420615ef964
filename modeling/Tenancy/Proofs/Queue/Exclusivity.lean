import Mathlib.Logic.Function.Basic
import Tenancy.Proofs.Backend.Claim
import Tenancy.Proofs.Queue.WriteBack

/-!
# Claims exclude one another

Several queues of one tenant share a table (`SharedQueue`). They claim batches and finalize rows
that they hold, in any order and with new rows coming in between. The invariant `Exclusive` links
what is held to the status of the rows: a row that somebody holds, or that was given a final status,
does not wait, so no claim takes it. `claims_exclusive` draws the consequences.
-/

namespace Tenancy

/-- Queues of one tenant on one table with the same roles; the fields with a role are distinct, and
a row in progress does not wait. Records, codecs, contexts and backoffs may differ. -/
structure SharedQueue (ε : Type) (ρ : ε → Type) where
  tenant : TenantId
  descriptor : Descriptor
  columns : ColumnMap
  table : Table
  roles : QueueRoles
  claimColumns : ClaimColumns
  resolved : descriptor.resolve = .ok (columns, table)
  rolesResolved : roles.resolve descriptor columns = .ok claimColumns
  distinct : roles.fields.Nodup
  apart : roles.pending.matchesCell roles.inProgress.toJson = false
  codec : (e : ε) → Codec (ρ e)
  context : ε → TenantContext
  backoff : ε → Backoff
  reports : ∀ e, (context e).reports (some tenant) = some tenant

namespace SharedQueue

variable {ε : Type} {ρ : ε → Type}

/-- The queue of one participant. -/
def queue (c : SharedQueue ε ρ) (e : ε) : Queue (ρ e) where
  store := ⟨c.codec e, c.context e, c.descriptor, c.columns, c.table, c.resolved⟩
  roles := c.roles
  columns := c.claimColumns
  backoff := c.backoff e
  resolved := c.rolesResolved

/-! ## Steps -/

/-- The tables, the ids of the rows that each participant holds, and those of the rows that were
given a final status. -/
structure State (ε : Type) where
  memory : Memory
  held : ε → List Json
  finished : List Json

inductive Event (ε : Type) where
  | insert (rows : List Row)
  | claim (e : ε) (limit : Nat) (now : Instant)
  | finalize (e : ε) (id : Json) (verdict : Verdict) (now : Instant)

/-- New rows have scalar ids or none, and a participant finalizes rows that it holds, with a status
that does not wait. -/
def Permits (c : SharedQueue ε ρ) (s : State ε) : Event ε → Prop
  | .insert rows => ∀ row ∈ rows, (row.cell c.table.idColumn).isScalar
  | .claim _ _ _ => True
  | .finalize e id verdict _ => id ∈ s.held e ∧
      ∀ status, verdict.status? = some status → c.roles.pending.matchesCell status.toJson = false

/-- The rows that a claim takes. -/
def claimedRows (c : SharedQueue ε ρ) (limit : Nat) (now : Instant) (m : Memory) : List Row :=
  (m.claim c.table c.tenant { c.claimColumns with limit, now }).1

section Steps

variable [DecidableEq ε]

/-- Who claims a batch holds its rows, unless the claim fails; who finalizes a row holds it no
more, unless that fails. -/
def next (c : SharedQueue ε ρ) (s : State ε) : Event ε → State ε
  | .insert rows => { s with memory := (s.memory.insert c.table rows).2 }
  | .claim e limit now =>
    match (World.still (some c.tenant) now).run ((c.queue e).claimBatch limit) s.memory with
    | (.ok _, memory) =>
      { s with
        memory
        held := Function.update s.held e (s.held e ++
          (c.claimedRows limit now s.memory).map (·.cell c.table.idColumn)) }
    | (.error _, memory) => { s with memory }
  | .finalize e id verdict now =>
    match (World.still (some c.tenant) now).run ((c.queue e).finalize (.ofJson id) verdict)
      s.memory with
    | (.ok true, memory) =>
      { memory
        held := Function.update s.held e ((s.held e).filter (!·.sameCell id))
        finished := if verdict.status?.isSome then id :: s.finished else s.finished }
    | (_, memory) => { s with memory }

/-- States after any permitted events, from a table with unique ids of which nobody holds a row. -/
inductive Reachable (c : SharedQueue ε ρ) : State ε → Prop
  | start (m : Memory) (h : Memory.UniqueIds c.table (m.rows c.table.name)) :
      Reachable c ⟨m, fun _ => [], []⟩
  | next {s : State ε} (h : Reachable c s) (event : Event ε) (hPermits : c.Permits s event) :
      Reachable c (c.next s event)

end Steps

/-! ## Busy rows -/

/-- The row with this id, which belongs to the tenant and does not wait. -/
structure IsBusy (c : SharedQueue ε ρ) (id : Json) (row : Row) : Prop where
  id_eq : row.cell c.table.idColumn = id
  owned : Memory.ownedBy c.table c.tenant row
  not_pending : c.claimColumns.pending.matchesCell (row.cell c.claimColumns.status) = false

def Busy (c : SharedQueue ε ρ) (rows : List Row) (id : Json) : Prop := ∃ row ∈ rows, c.IsBusy id row

variable {c : SharedQueue ε ρ} {rows rows' : List Row} {id : Json} {limit : Nat} {now : Instant}
  {m : Memory}

theorem store_resolved (c : SharedQueue ε ρ) : c.descriptor.Resolved c.columns c.table :=
  Descriptor.resolved c.resolved

theorem roles_resolved (c : SharedQueue ε ρ) :
    c.roles.Resolved c.descriptor c.columns c.claimColumns :=
  QueueRoles.resolved c.rolesResolved

/-- A busy row stays busy if it is not changed, or changed into a busy row of its id. -/
theorem Busy.changeAt {f : Row → Row} {places : List Nat} (hNodup : places.Nodup)
    (hPlaces : ∀ i ∈ places, ∀ row, rows[i]? = some row → c.IsBusy id row → c.IsBusy id (f row))
    (h : c.Busy rows id) : c.Busy (Memory.changeAt f places rows) id := by
  obtain ⟨row, hRow, hBusy⟩ := h
  obtain ⟨i, hSome⟩ := List.mem_iff_getElem?.mp hRow
  have hAfter := Memory.getElem?_changeAt f hNodup rows i
  by_cases hPlace : i ∈ places
  · rw [if_pos hPlace, hSome] at hAfter
    exact ⟨f row, List.mem_of_getElem? hAfter, hPlaces i hPlace row hSome hBusy⟩
  · rw [if_neg hPlace, hSome] at hAfter
    exact ⟨row, List.mem_of_getElem? hAfter, hBusy⟩

/-- What is busy under another id than that of the changed row stays busy. -/
theorem Busy.changeOther {f : Row → Row} {i : Nat} {row : Row} {other : Json}
    (hRow : rows[i]? = some row) (hBusy : c.IsBusy id row) (hSelf : Json.sameCell id id)
    (h : c.Busy rows other) (hOther : Json.sameCell other id = false) :
    c.Busy (Memory.changeAt f [i] rows) other := by
  refine h.changeAt (List.nodup_singleton i) ?_
  intro j hj old hOld hOldBusy
  rw [List.mem_singleton] at hj
  subst hj
  cases Option.some.inj (hRow.symm.trans hOld)
  rw [← hOldBusy.id_eq, hBusy.id_eq, hSelf] at hOther
  cases hOther

theorem Busy.ne_null (hIds : Memory.UniqueIds c.table rows) (h : c.Busy rows id) : id ≠ .null := by
  obtain ⟨row, hRow, hBusy⟩ := h
  rw [← hBusy.id_eq]
  exact (hIds.scalar_of_mem hRow).2

/-! ## Claims -/

theorem cell_markClaimed (c : SharedQueue ε ρ) {field column : String}
    (hColumn : c.columns.column? field = some column)
    (hField : field = c.descriptor.tenantField ∨ field = c.descriptor.idField) (row : Row) :
    (Memory.markClaimed { c.claimColumns with limit, now } row).cell column = row.cell column := by
  obtain ⟨hStatus, hClaimedAt⟩ := c.roles_resolved.columns_ne hColumn hField
  rw [Row.cell, Memory.get?_markClaimed, if_neg hClaimedAt, if_neg hStatus.symm]
  rfl

/-- The claimed row at a place waited, and it is busy afterwards. -/
theorem claimed_spec {i : Nat} (hi : i ∈ Memory.claimedPlaces c.table c.tenant
      { c.claimColumns with limit, now } rows) :
    ∃ row, rows[i]? = some row ∧
      c.claimColumns.pending.matchesCell (row.cell c.claimColumns.status) ∧
      c.IsBusy (row.cell c.table.idColumn)
        (Memory.markClaimed { c.claimColumns with limit, now } row) := by
  obtain ⟨row, hRow, hEligible⟩ := Memory.mem_placesOf.mp (Memory.mem_claimedPlaces hi)
  have hPending : c.claimColumns.pending.matchesCell (row.cell c.claimColumns.status) := by
    simp only [Memory.isEligible, Bool.and_eq_true] at hEligible
    exact hEligible.1.1.1.2
  have hClaimedAt : c.claimColumns.claimedAt ≠ some c.claimColumns.status := by
    intro hColumn
    obtain ⟨field, hField, hName⟩ := c.roles_resolved.exists_claimedAt hColumn
    have hSame := ColumnMap.column?_inj hName c.roles_resolved.status
    have hDistinct := c.distinct
    simp [QueueRoles.fields, hField, hSame] at hDistinct
  refine ⟨row, hRow, hPending, c.cell_markClaimed c.store_resolved.idColumn (.inr rfl) row, ?_, ?_⟩
  · rw [Memory.ownedBy, c.cell_markClaimed c.store_resolved.tenantColumn (.inl rfl)]
    exact Memory.isEligible_owned row hEligible
  · rw [Row.cell, Memory.get?_markClaimed, if_neg hClaimedAt, if_pos rfl, c.roles_resolved.pending]
    exact c.roles_resolved.inProgress ▸ c.apart

theorem mem_claimedRows {row : Row} (h : row ∈ c.claimedRows limit now m) :
    ∃ (i : Nat) (old : Row), (m.rows c.table.name)[i]? = some old ∧
      c.claimColumns.pending.matchesCell (old.cell c.claimColumns.status) ∧
      c.IsBusy (old.cell c.table.idColumn) row ∧
      row ∈ (m.claim c.table c.tenant { c.claimColumns with limit, now }).2.rows c.table.name := by
  obtain ⟨i, hi, rfl⟩ := List.mem_map.mp h
  obtain ⟨old, hOld, hPending, hBusy⟩ := claimed_spec hi
  have hAfter := Memory.getElem?_changeAt (Memory.markClaimed { c.claimColumns with limit, now })
    (Memory.claimedPlaces_nodup c.table c.tenant { c.claimColumns with limit, now }
      (m.rows c.table.name)) (m.rows c.table.name) i
  rw [if_pos hi, hOld, ← Memory.rows_claim] at hAfter
  rw [Memory.getD_of_getElem? hOld]
  exact ⟨i, old, hOld, hPending, hBusy, List.mem_of_getElem? hAfter⟩

theorem claimed_busy {row : Row} (h : row ∈ c.claimedRows limit now m) :
    c.Busy ((m.claim c.table c.tenant { c.claimColumns with limit, now }).2.rows c.table.name)
      (row.cell c.table.idColumn) := by
  obtain ⟨i, old, -, -, hBusy, hMem⟩ := mem_claimedRows h
  exact ⟨row, hMem, rfl, hBusy.owned, hBusy.not_pending⟩

/-- No claim takes a busy row. -/
theorem claimed_not_busy (hIds : Memory.UniqueIds c.table (m.rows c.table.name)) {row : Row}
    (hRow : row ∈ c.claimedRows limit now m) (hBusy : c.Busy (m.rows c.table.name) id) :
    Json.sameCell (row.cell c.table.idColumn) id = false := by
  obtain ⟨i, old, hOld, hPending, hClaimed, -⟩ := mem_claimedRows hRow
  obtain ⟨other, hOther, hBusyRow⟩ := hBusy
  obtain ⟨j, hSome⟩ := List.mem_iff_getElem?.mp hOther
  have hPlaces : i ≠ j := by
    rintro rfl
    cases Option.some.inj (hOld.symm.trans hSome)
    rw [hBusyRow.not_pending] at hPending
    cases hPending
  rw [hClaimed.id_eq, ← hBusyRow.id_eq]
  exact hIds.sameCell_eq_false hPlaces hOld hSome

/-- No claim takes a row twice. -/
theorem claimedRows_distinct (hIds : Memory.UniqueIds c.table (m.rows c.table.name)) :
    (c.claimedRows limit now m).Pairwise fun a b =>
      Json.sameCell (a.cell c.table.idColumn) (b.cell c.table.idColumn) = false := by
  have hNodup := Memory.claimedPlaces_nodup c.table c.tenant
    { c.claimColumns with limit, now } (m.rows c.table.name)
  refine List.pairwise_map.mpr (List.Pairwise.imp_of_mem ?_ hNodup)
  intro i j hi hj hPlaces
  obtain ⟨a, ha, -, hBusyA⟩ := claimed_spec hi
  obtain ⟨b, hb, -, hBusyB⟩ := claimed_spec hj
  rw [Memory.getD_of_getElem? ha, Memory.getD_of_getElem? hb, hBusyA.id_eq, hBusyB.id_eq]
  exact hIds.sameCell_eq_false hPlaces ha hb

theorem length_claimedRows (c : SharedQueue ε ρ) (limit : Nat) (now : Instant) (m : Memory) :
    (c.claimedRows limit now m).length ≤ limit := by
  have hMap : (c.claimedRows limit now m).length = (Memory.claimedPlaces c.table c.tenant
      { c.claimColumns with limit, now } (m.rows c.table.name)).length := List.length_map _
  rw [hMap, Memory.claimedPlaces_eq]
  exact List.length_take_le _ _

theorem claimedRows_zero (c : SharedQueue ε ρ) (now : Instant) (m : Memory) :
    c.claimedRows 0 now m = [] :=
  List.eq_nil_of_length_eq_zero (Nat.le_zero.mp (c.length_claimedRows 0 now m))

/-- A batch is decoded from the rows that the claim takes, whether or not that succeeds. -/
theorem run_claimBatch (c : SharedQueue ε ρ) (e : ε) (hLimit : limit ≠ 0) (now : Instant)
    (m : Memory) :
    (∃ failure, (c.queue e).store.decodeRows (c.claimedRows limit now m) = .error failure ∧
      (World.still (some c.tenant) now).run ((c.queue e).claimBatch limit) m =
        (.error (.error failure),
          (m.claim c.table c.tenant { c.claimColumns with limit, now }).2)) ∨
    ∃ records, (c.queue e).store.decodeRows (c.claimedRows limit now m) = .ok records ∧
      (World.still (some c.tenant) now).run ((c.queue e).claimBatch limit) m =
        (.ok ⟨records, now⟩,
          (m.claim c.table c.tenant { c.claimColumns with limit, now }).2) := by
  have hRun : (World.still (some c.tenant) now).run ((c.queue e).claimBatch limit) m = _ :=
    (c.queue e).run_claimBatch (c.reports e) limit m
  rw [if_neg hLimit] at hRun
  rw [hRun]
  have hRows : (m.claim (c.queue e).store.table c.tenant
      { (c.queue e).columns with limit, now }).1 = c.claimedRows limit now m := rfl
  rw [hRows]
  cases (c.queue e).store.decodeRows (c.claimedRows limit now m) with
  | error failure => exact .inl ⟨failure, rfl, rfl⟩
  | ok records => exact .inr ⟨records, rfl, rfl⟩

theorem run_claimBatch_zero (c : SharedQueue ε ρ) (e : ε) (now : Instant) (m : Memory) :
    (World.still (some c.tenant) now).run ((c.queue e).claimBatch 0) m = (.ok ⟨[], now⟩, m) := by
  have hRun : (World.still (some c.tenant) now).run ((c.queue e).claimBatch 0) m = _ :=
    (c.queue e).run_claimBatch (c.reports e) 0 m
  rw [hRun, if_pos rfl]

/-- The records of a batch are those of the rows that the claim takes. -/
theorem decodeRows_of_claimBatch {e : ε} {batch : ClaimedBatch (ρ e)} {m' : Memory}
    (h : (World.still (some c.tenant) now).run ((c.queue e).claimBatch limit) m =
      (.ok batch, m')) :
    (c.queue e).store.decodeRows (c.claimedRows limit now m) = .ok batch.records := by
  by_cases hLimit : limit = 0
  · subst hLimit
    rw [run_claimBatch_zero] at h
    rw [claimedRows_zero]
    cases h
    rfl
  · rcases c.run_claimBatch e hLimit now m with ⟨_, -, hRun⟩ | ⟨records, hDecode, hRun⟩
    · rw [hRun] at h
      cases h
    · rw [hRun] at h
      cases h
      exact hDecode

/-! ## The invariant -/

/-- Ids are unique, whatever is held or finished is busy, and nothing is held twice or held and
finished. -/
structure Exclusive (c : SharedQueue ε ρ) (s : State ε) : Prop where
  ids : Memory.UniqueIds c.table (s.memory.rows c.table.name)
  busy : ∀ id, (id ∈ s.finished ∨ ∃ e, id ∈ s.held e) → c.Busy (s.memory.rows c.table.name) id
  disjoint : ∀ e e', e ≠ e' → ∀ id ∈ s.held e, ∀ id' ∈ s.held e', Json.sameCell id id' = false
  unfinished : ∀ e, ∀ id ∈ s.held e, ∀ id' ∈ s.finished, Json.sameCell id id' = false

namespace Exclusive

variable {s : State ε}

theorem insert (h : c.Exclusive s)
    (hScalar : ∀ row ∈ rows, (row.cell c.table.idColumn).isScalar) :
    c.Exclusive { s with memory := (s.memory.insert c.table rows).2 } := by
  have hGrows := Memory.insert_grows h.ids hScalar
  refine ⟨hGrows.ids, ?_, h.disjoint, h.unfinished⟩
  intro id hId
  obtain ⟨row, hRow, hBusy⟩ := h.busy id hId
  exact ⟨row, hGrows.subset row hRow, hBusy⟩

/-- The table after a claim; nobody holds the claimed rows yet. -/
theorem claim (h : c.Exclusive s) (limit : Nat) (now : Instant) :
    c.Exclusive { s with memory :=
      (s.memory.claim c.table c.tenant { c.claimColumns with limit, now }).2 } := by
  refine ⟨?_, ?_, h.disjoint, h.unfinished⟩
  · dsimp only
    rw [Memory.rows_claim]
    exact h.ids.changeAt (c.cell_markClaimed c.store_resolved.idColumn (.inr rfl))
  · intro id hId
    dsimp only
    rw [Memory.rows_claim]
    refine (h.busy id hId).changeAt (Memory.claimedPlaces_nodup _ _ _ _) ?_
    intro i hi row hRow hBusy
    obtain ⟨old, hOld, hPending, -⟩ := claimed_spec hi
    cases Option.some.inj (hRow.symm.trans hOld)
    rw [hBusy.not_pending] at hPending
    cases hPending

variable [DecidableEq ε]

theorem mem_taken {e a : ε} {ids : List Json}
    (h : id ∈ Function.update s.held e (s.held e ++ ids) a) : id ∈ s.held a ∨ a = e ∧ id ∈ ids := by
  by_cases hSelf : a = e
  · subst hSelf
    rw [Function.update_self, List.mem_append] at h
    exact h.imp_right fun hNew => ⟨rfl, hNew⟩
  · rw [Function.update_of_ne hSelf] at h
    exact .inl h

/-- Claimed rows may be held: they are busy now, and they were not before. -/
theorem hold (h : c.Exclusive s) (e : ε) (limit : Nat) (now : Instant) :
    c.Exclusive { s with
      memory := (s.memory.claim c.table c.tenant { c.claimColumns with limit, now }).2
      held := Function.update s.held e (s.held e ++
        (c.claimedRows limit now s.memory).map (·.cell c.table.idColumn)) } := by
  have hClaim := h.claim limit now
  -- What is taken waited before, and nothing that is held or finished did.
  have hFresh : ∀ id ∈ (c.claimedRows limit now s.memory).map (·.cell c.table.idColumn),
      ∀ id', (id' ∈ s.finished ∨ ∃ e, id' ∈ s.held e) → Json.sameCell id id' = false := by
    intro id hId id' hId'
    obtain ⟨row, hRow, rfl⟩ := List.mem_map.mp hId
    exact claimed_not_busy h.ids hRow (h.busy id' hId')
  refine ⟨hClaim.ids, ?_, ?_, ?_⟩
  · rintro id (hFinished | ⟨a, hId⟩)
    · exact hClaim.busy id (.inl hFinished)
    · rcases mem_taken hId with hOld | ⟨-, hNew⟩
      · exact hClaim.busy id (.inr ⟨a, hOld⟩)
      · obtain ⟨row, hRow, rfl⟩ := List.mem_map.mp hNew
        exact claimed_busy hRow
  · intro a b hNe id hId id' hId'
    rcases mem_taken hId with hOld | ⟨rfl, hNew⟩
    · rcases mem_taken hId' with hOld' | ⟨rfl, hNew'⟩
      · exact h.disjoint a b hNe id hOld id' hOld'
      · rw [Json.sameCell_comm]
        exact hFresh id' hNew' id (.inr ⟨a, hOld⟩)
    · rcases mem_taken hId' with hOld' | ⟨rfl, hNew'⟩
      · exact hFresh id hNew id' (.inr ⟨b, hOld'⟩)
      · exact absurd rfl hNe
  · intro a id hId id' hFinished
    rcases mem_taken hId with hOld | ⟨-, hNew⟩
    · exact h.unfinished a id hOld id' hFinished
    · exact hFresh id hNew id' (.inl hFinished)

/-- What is held once `e` has given an id up: what was held before, under other ids. -/
theorem mem_released (h : c.Exclusive s) {e a : ε} (hHeld : id ∈ s.held e) {other : Json}
    (hOther : other ∈ Function.update s.held e ((s.held e).filter (!·.sameCell id)) a) :
    other ∈ s.held a ∧ Json.sameCell other id = false := by
  by_cases hOwn : a = e
  · subst hOwn
    rw [Function.update_self, List.mem_filter, Bool.not_eq_true'] at hOther
    exact hOther
  · rw [Function.update_of_ne hOwn] at hOther
    exact ⟨hOther, h.disjoint a e hOwn other hOther id hHeld⟩

/-- A row that is held may be finalized: no other id that is held or finished is its own. -/
theorem finalize (h : c.Exclusive s) {e : ε} {verdict : Verdict} (hHeld : id ∈ s.held e)
    (hStatus : ∀ status, verdict.status? = some status →
      c.roles.pending.matchesCell status.toJson = false) {i : Nat} {row : Row}
    (hRow : (s.memory.rows c.table.name)[i]? = some row) (hBusy : c.IsBusy id row) {f : Row → Row}
    (hKeeps : Queue.KeepsIdentity c.table f)
    (hWritten : ∀ status, verdict.status? = some status →
      ∀ row, (f row).cell c.claimColumns.status = status.toJson) :
    c.Exclusive {
      memory := s.memory.setRows c.table.name
        (Memory.changeAt f [i] (s.memory.rows c.table.name))
      held := Function.update s.held e ((s.held e).filter (!·.sameCell id))
      finished := if verdict.status?.isSome then id :: s.finished else s.finished } := by
  have hSelf := Json.sameCell_self ((h.busy id (.inr ⟨e, hHeld⟩)).ne_null h.ids)
  have hFinished : ∀ id' ∈ (if verdict.status?.isSome then id :: s.finished else s.finished),
      id' ∈ s.finished ∨ id' = id ∧ ∃ status, verdict.status? = some status := by
    intro id' hId'
    split at hId'
    · rename_i hFinal
      rcases List.mem_cons.mp hId' with rfl | hOld
      · exact .inr ⟨rfl, Option.isSome_iff_exists.mp hFinal⟩
      · exact .inl hOld
    · exact .inl hId'
  refine ⟨?_, ?_, ?_, ?_⟩
  · dsimp only
    rw [Memory.rows_setRows_self]
    exact h.ids.changeAt hKeeps.id
  · intro id' hId'
    dsimp only at hId' ⊢
    rw [Memory.rows_setRows_self]
    rcases hId' with hId' | ⟨a, hId'⟩
    · rcases hFinished id' hId' with hOld | ⟨rfl, status, hFinal⟩
      · have hNotSame := h.unfinished e id hHeld id' hOld
        rw [Json.sameCell_comm] at hNotSame
        exact (h.busy id' (.inl hOld)).changeOther hRow hBusy hSelf hNotSame
      · -- The row itself: its final status does not wait, so it is busy from now on.
        have hAfter := Memory.getElem?_changeAt f (List.nodup_singleton i)
          (s.memory.rows c.table.name) i
        rw [if_pos List.mem_cons_self, hRow] at hAfter
        refine ⟨f row, List.mem_of_getElem? hAfter, (hKeeps.id row).trans hBusy.id_eq, ?_, ?_⟩
        · rw [Memory.ownedBy, hKeeps.tenant]
          exact hBusy.owned
        · rw [hWritten status hFinal, c.roles_resolved.pending]
          exact hStatus status hFinal
    · obtain ⟨hOld, hNotSame⟩ := h.mem_released hHeld hId'
      exact (h.busy id' (.inr ⟨a, hOld⟩)).changeOther hRow hBusy hSelf hNotSame
  · intro a b hNe id' hId' id'' hId''
    exact h.disjoint a b hNe id' (h.mem_released hHeld hId').1 id'' (h.mem_released hHeld hId'').1
  · intro a id' hId' id'' hId''
    obtain ⟨hOld, hNotSame⟩ := h.mem_released hHeld hId'
    rcases hFinished id'' hId'' with hOld' | ⟨rfl, -⟩
    · exact h.unfinished a id' hOld id'' hOld'
    · exact hNotSame

/-- Every permitted event keeps the invariant. -/
theorem next (h : c.Exclusive s) {event : Event ε} (hPermits : c.Permits s event) :
    c.Exclusive (c.next s event) := by
  cases event with
  | insert rows => exact h.insert hPermits
  | claim e limit now =>
    by_cases hLimit : limit = 0
    · subst hLimit
      simp only [SharedQueue.next, run_claimBatch_zero, claimedRows_zero, List.map_nil,
        List.append_nil, Function.update_eq_self]
      exact h
    · rcases c.run_claimBatch e hLimit now s.memory with ⟨failure, -, hRun⟩ | ⟨records, -, hRun⟩
      · simp only [SharedQueue.next, hRun]
        exact h.claim limit now
      · simp only [SharedQueue.next, hRun]
        exact h.hold e limit now
  | finalize e id verdict now =>
    obtain ⟨hHeld, hStatus⟩ := hPermits
    obtain ⟨row, hRow, hBusy⟩ := h.busy id (.inr ⟨e, hHeld⟩)
    obtain ⟨i, hSome⟩ := List.mem_iff_getElem?.mp hRow
    have hHits : Queue.HitsOrFails (c.queue e) i verdict.status? s.memory
        ((World.still (some c.tenant) now).run ((c.queue e).finalize (.ofJson id) verdict)
          s.memory) :=
      hBusy.id_eq ▸
        (c.queue e).run_finalize (c.reports e) c.distinct verdict h.ids hSome hBusy.owned
    rcases hHits with ⟨failure, hRun⟩ | ⟨f, hRun, hKeeps, hWritten⟩
    · simp only [SharedQueue.next, hRun]
      exact h
    · simp only [SharedQueue.next, hRun]
      exact h.finalize hHeld hStatus hSome hBusy hKeeps hWritten

end Exclusive

variable [DecidableEq ε] {s : State ε}

theorem Reachable.exclusive (h : c.Reachable s) : c.Exclusive s := by
  induction h with
  | start m hIds =>
    refine ⟨hIds, ?_, ?_, ?_⟩
    · rintro id (hFinished | ⟨e, hHeld⟩)
      · exact absurd hFinished List.not_mem_nil
      · exact absurd hHeld List.not_mem_nil
    · intro e e' _ id hHeld
      exact absurd hHeld List.not_mem_nil
    · intro e id hHeld
      exact absurd hHeld List.not_mem_nil
  | next h event hPermits ih => exact ih.next hPermits

/-- What is finished stays finished. -/
theorem finished_next (c : SharedQueue ε ρ) (s : State ε) (event : Event ε) :
    ∀ id ∈ s.finished, id ∈ (c.next s event).finished := by
  intro id hId
  cases event with
  | insert rows => exact hId
  | claim e limit now =>
    unfold SharedQueue.next
    dsimp only
    split <;> exact hId
  | finalize e other verdict now =>
    unfold SharedQueue.next
    dsimp only
    split
    · dsimp only
      split
      · exact List.mem_cons_of_mem _ hId
      · exact hId
    · exact hId

/-- **Claims exclude one another.** After any permitted events
1. each held id is the id of a row of the tenant, and no two participants hold the same,
2. a batch that is claimed next has at most as many rows as the limit, none of them twice, none
that somebody holds, and none that was given a final status,
3. and what was given a final status counts as such after every further event. -/
theorem claims_exclusive (c : SharedQueue ε ρ) (h : c.Reachable s) :
    ((∀ e, ∀ id ∈ s.held e, ∃ row ∈ s.memory.rows c.table.name,
        row.cell c.table.idColumn = id ∧ Memory.ownedBy c.table c.tenant row) ∧
      ∀ e e', e ≠ e' → ∀ id ∈ s.held e, ∀ id' ∈ s.held e', Json.sameCell id id' = false) ∧
    (∀ e limit now batch m,
      (World.still (some c.tenant) now).run ((c.queue e).claimBatch limit) s.memory =
        (.ok batch, m) →
      (c.queue e).store.decodeRows (c.claimedRows limit now s.memory) = .ok batch.records ∧
      batch.records.length ≤ limit ∧
      ((c.claimedRows limit now s.memory).Pairwise fun a b =>
        Json.sameCell (a.cell c.table.idColumn) (b.cell c.table.idColumn) = false) ∧
      ∀ row ∈ c.claimedRows limit now s.memory, ∀ id,
        (id ∈ s.finished ∨ ∃ e', id ∈ s.held e') →
          Json.sameCell (row.cell c.table.idColumn) id = false) ∧
    ∀ event, ∀ id ∈ s.finished, id ∈ (c.next s event).finished := by
  have hExclusive := h.exclusive
  refine ⟨⟨?_, hExclusive.disjoint⟩, ?_, finished_next c s⟩
  · intro e id hHeld
    obtain ⟨row, hRow, hBusy⟩ := hExclusive.busy id (.inr ⟨e, hHeld⟩)
    exact ⟨row, hRow, hBusy.id_eq, hBusy.owned⟩
  · intro e limit now batch m hRun
    have hDecode := decodeRows_of_claimBatch hRun
    refine ⟨hDecode, ?_, claimedRows_distinct hExclusive.ids, ?_⟩
    · rw [← (Except.mapM_eq_ok.mp hDecode).length_eq]
      exact c.length_claimedRows limit now s.memory
    · intro row hRow id hId
      exact claimed_not_busy hExclusive.ids hRow (hExclusive.busy id hId)

/-- Two participants that work on the queue of jobs. -/
def jobs : SharedQueue Bool fun _ => Json where
  tenant := Jobs.tenant
  descriptor := Jobs.descriptor
  columns := Jobs.columns
  table := Jobs.store.table
  roles := Jobs.roles
  claimColumns := Jobs.queue.columns
  resolved := Jobs.store.resolved
  rolesResolved := Jobs.queue.resolved
  distinct := by decide
  apart := by decide
  codec _ := .json
  context _ := .ambient
  backoff _ := .standard
  reports _ := rfl

/-- Of two waiting jobs each participant gets one of its own. -/
theorem jobs_exclusive : ∃ s, jobs.Reachable s ∧ (s.held true).length = 1 ∧
    (s.held false).length = 1 ∧
      ∀ id ∈ s.held true, ∀ id' ∈ s.held false, Json.sameCell id id' = false := by
  have hIds : Memory.UniqueIds jobs.table [Jobs.waiting "b", Jobs.waiting "a"] := by
    refine ⟨by decide +kernel, ?_⟩
    intro id hId
    have hCells : [Jobs.waiting "b", Jobs.waiting "a"].map (·.cell jobs.table.idColumn) =
        [.string "b", .string "a"] := rfl
    rw [hCells, List.mem_cons, List.mem_singleton] at hId
    rcases hId with rfl | rfl
    · exact ⟨rfl, nofun⟩
    · exact ⟨rfl, nofun⟩
  have hStart : jobs.Reachable _ :=
    .start ⟨[("jobs", [Jobs.waiting "b", Jobs.waiting "a"])], 1⟩ hIds
  have hReach := (hStart.next (.claim true 1 Jobs.epoch) trivial).next
    (.claim false 1 Jobs.epoch) trivial
  exact ⟨_, hReach, rfl, rfl, (jobs.claims_exclusive hReach).1.2 true false nofun⟩

end SharedQueue

end Tenancy
