import Tenancy.Proofs.Queue.Conservation

/-!
# Stale claims

A row in progress carries the time of the claim that took it last (`Queue.Stamped`), whatever the
queues on its table do: a claim stamps all rows that it takes, and after any other write of a queue
the rows that it reaches are not in progress (`Command.Ends`). So a sweep meets exactly the rows
that were claimed too long ago, and it puts all of them back, or none where one of them collides
with another row (`Queue.sweeps_release_stale`).
-/

namespace Tenancy

variable {ρ ρ' α : Type}

/-! ## Rows in progress -/

/-- The row has the status of rows in progress. -/
def ClaimColumns.InProgress (c : ClaimColumns) (row : Row) : Prop :=
  c.inProgress.matchesCell (row.cell c.status)

instance (c : ClaimColumns) (row : Row) : Decidable (c.InProgress row) :=
  inferInstanceAs (Decidable (c.inProgress.matchesCell (row.cell c.status) = true))

/-- Every row in progress has been there before, at the same place and with the same cells. -/
def ClaimColumns.NoneNew (c : ClaimColumns) (rows rows' : List Row) : Prop :=
  ∀ (k : Nat) row, rows'[k]? = some row → c.InProgress row → rows[k]? = some row

namespace ClaimColumns.NoneNew

variable {c : ClaimColumns} {rows rows' rows'' : List Row}

theorem refl (rows : List Row) : c.NoneNew rows rows := fun _ _ hRow _ => hRow

theorem trans (h : c.NoneNew rows rows') (h' : c.NoneNew rows' rows'') : c.NoneNew rows rows'' :=
  fun k row hRow hBusy => h k row (h' k row hRow hBusy) hBusy

theorem append {row : Row} (hRow : ¬c.InProgress row) : c.NoneNew rows (rows ++ [row]) := by
  intro k other hOther hBusy
  rcases List.mem_append.mp (List.mem_of_getElem? hOther) with hOld | hNew
  · by_cases hPlace : k < rows.length
    · rwa [List.getElem?_append_left hPlace] at hOther
    · rw [List.getElem?_append_right (Nat.le_of_not_lt hPlace)] at hOther
      cases List.mem_singleton.mp (List.mem_of_getElem? hOther)
      exact absurd hBusy hRow
  · cases List.mem_singleton.mp hNew
    exact absurd hBusy hRow

theorem changeAt {f : Row → Row} {places : List Nat} (hNodup : places.Nodup)
    (hf : ∀ row, ¬c.InProgress (f row)) : c.NoneNew rows (Memory.changeAt f places rows) := by
  intro k row hRow hBusy
  rw [Memory.getElem?_changeAt f hNodup] at hRow
  split at hRow
  · obtain ⟨old, -, rfl⟩ := Option.map_eq_some_iff.mp hRow
    exact absurd hBusy (hf old)
  · exact hRow

end ClaimColumns.NoneNew

/-! ## Writes that end progress -/

/-- An update of the table that leaves no row in progress, or an insertion of rows that are not in
progress. -/
def Command.Ends (table : Table) (c : ClaimColumns) : Command → Prop
  | .update t _ _ assignments =>
    t = table ∧ ∀ row, ¬c.InProgress (Memory.assign assignments row)
  | .insert t rows => t = table ∧ ∀ row ∈ rows, ¬c.InProgress row
  | .select _ _ _ | .count _ _ _ | .upsert _ _ | .delete _ _ _ | .claim _ _ _ => False

namespace Memory

variable {table : Table} {c : ClaimColumns}

/-- A row that draws an id keeps its status. -/
theorem insertOne_noneNew (hStatus : c.status ≠ table.idColumn) {row : Row}
    (hRow : ¬c.InProgress row) (s : Staged) :
    c.NoneNew s.rows (insertOne table row s).2.rows := by
  have hDrawn : ¬c.InProgress (withId table row s.nextId).1 := by
    unfold withId
    split
    · rwa [ClaimColumns.InProgress, Row.cell_insert_of_ne _ _ hStatus]
    · exact hRow
  unfold insertOne append
  dsimp only
  split
  · exact .refl _
  · split
    · exact .refl _
    · exact .append hDrawn

theorem backend_noneNew (hStatus : c.status ≠ table.idColumn) {command : Command}
    (h : command.Ends table c) (m : Memory) :
    c.NoneNew (m.rows table.name) ((backend command m).2.rows table.name) := by
  cases command with
  | update t owner conditions assignments =>
    obtain ⟨rfl, hAssign⟩ := h
    rcases update_eq t owner conditions assignments m with ⟨e, hUpdate⟩ | hUpdate
    · rw [backend, hUpdate]
      exact .refl _
    · rw [backend, hUpdate, rows_setRows_self]
      exact .changeAt (placesOf_nodup _ _) hAssign
  | insert t rows =>
    obtain ⟨rfl, hRows⟩ := h
    rcases write_cases (insertOne t) t rows m with ⟨-, -, hSame⟩ | ⟨written, -, -, hStaged⟩
    · rw [backend, insert, hSame]
      exact .refl _
    · rw [backend, insert, hStaged]
      have hStep : ∀ row s, c.NoneNew (m.rows t.name) s.rows → ¬c.InProgress row →
          c.NoneNew (m.rows t.name) (insertOne t row s).2.rows ∧
            ∀ written, (insertOne t row s).1 = .ok written → True :=
        fun row s hKept hRow =>
          ⟨hKept.trans (insertOne_noneNew hStatus hRow s), fun _ _ => trivial⟩
      exact (stageAll_induction hStep (s := ⟨m.rows t.name, m.nextId⟩) (.refl _) hRows).1
  | select t owner s => exact h.elim
  | count t owner conditions => exact h.elim
  | upsert t rows => exact h.elim
  | delete t owner conditions => exact h.elim
  | claim t owner claim => exact h.elim

theorem backend_keepsApart {command : Command} (h : command.Ends table c) {m : Memory}
    (hApart : KeysApart table (m.rows table.name)) :
    KeysApart table ((backend command m).2.rows table.name) := by
  cases command with
  | update t owner conditions assignments =>
    obtain ⟨rfl, -⟩ := h
    exact (Write.update owner conditions assignments).keepsApart hApart
  | insert t rows =>
    obtain ⟨rfl, -⟩ := h
    exact (Write.insert rows).keepsApart hApart
  | select t owner s => exact h.elim
  | count t owner conditions => exact h.elim
  | upsert t rows => exact h.elim
  | delete t owner conditions => exact h.elim
  | claim t owner claim => exact h.elim

end Memory

namespace Queue

variable {q : Queue ρ}

/-! ## What is done to the rows of a queue -/

/-- What is done to the rows on the table of a queue between its claims: write-backs that do not
give rows the status of rows in progress, sweeps, and insertions of rows that do not have it. -/
inductive Settles (q : Queue ρ) : {ρ' α : Type} → Program ρ' α → Prop
  | updateStatus {ρ' : Type} (q' : Queue ρ') (h : q.Shares q') (id : Value) {status : Value}
      (hStatus : q.roles.inProgress.matchesCell status.toJson = false) :
      Settles q (q'.updateStatus id status)
  | markSuccess {ρ' : Type} (q' : Queue ρ') (h : q.Shares q') (id : Value) {status : Value}
      (hStatus : q.roles.inProgress.matchesCell status.toJson = false) :
      Settles q (q'.markSuccess id status)
  | markExhausted {ρ' : Type} (q' : Queue ρ') (h : q.Shares q') (id : Value) {status : Value}
      (hStatus : q.roles.inProgress.matchesCell status.toJson = false) (attempts : Nat) :
      Settles q (q'.markExhausted id status attempts)
  | markFailureWith {ρ' : Type} (q' : Queue ρ') (h : q.Shares q') (id : Value) (attempts : Nat)
      (backoff : Backoff) : Settles q (q'.markFailureWith id q'.roles.retryFields attempts backoff)
  | markFailure {ρ' : Type} (q' : Queue ρ') (h : q.Shares q') (id : Value) (attempts : Nat) :
      Settles q (q'.markFailure id attempts)
  | releaseStale {ρ' : Type} (q' : Queue ρ') (h : q.Shares q') (age : Duration) :
      Settles q (q'.releaseStale age)
  | insertAll {ρ' : Type} (q' : Queue ρ') (h : q.Shares q') {records : List ρ'}
      (hRows : ∀ tenant rows, records.mapM (q'.store.encodeRow tenant) = .ok rows →
        ∀ row ∈ rows, ¬q.columns.InProgress row) : Settles q (q'.store.insertAll records)
  | insert {ρ' : Type} (q' : Queue ρ') (h : q.Shares q') {record : ρ'}
      (hRow : ∀ tenant row, q'.store.encodeRow tenant record = .ok row →
        ¬q.columns.InProgress row) : Settles q (q'.store.insert record)

/-- The places of the rows that a claim takes where `active` is the active tenant. -/
def takenPlaces (q : Queue ρ) (active : Option TenantId) (limit : Nat) (now : Instant)
    (m : Memory) : List Nat :=
  match q.store.context.reports active with
  | some tenant => Memory.claimedPlaces q.store.table tenant { q.columns with limit, now }
      (m.rows q.store.table.name)
  | none => []

/-- The tables to which claims of queues with the same roles on the same table lead, together with
what else is done to its rows in between, under any tenants and at any times; and with each place
the time of the claim that took its row last. -/
inductive Worked (q : Queue ρ) (start : Memory) : Memory → (Nat → Option Instant) → Prop
  | start : Worked q start start fun _ => none
  | claimBatch {ρ' : Type} {m : Memory} {last : Nat → Option Instant} (h : Worked q start m last)
      (q' : Queue ρ') (hShares : q.Shares q') (active : Option TenantId) (limit : Nat)
      {now : Instant} (hYear : 0 ≤ now.year ∧ now.year ≤ 9999) :
      Worked q start ((World.still active now).run (q'.claimBatch limit) m).2
        fun k => if k ∈ q'.takenPlaces active limit now m then some now else last k
  | settle {ρ' α : Type} {m : Memory} {last : Nat → Option Instant} (h : Worked q start m last)
      {p : Program ρ' α} (hp : q.Settles p) (active : Option TenantId) (now : Instant) :
      Worked q start ((World.still active now).run p m).2 last

/-- A report that gives rows another status than that of rows in progress ends their progress. -/
theorem IsReport.admits_ends {patch : Patch} (h : q.IsReport patch) {status : Value}
    (hStatus : patch.get? q.roles.status = some status)
    (hEnds : q.roles.inProgress.matchesCell status.toJson = false) :
    q.store.Admits (Command.Ends q.store.table q.columns) patch := by
  intro tenant conditions assignments hAssignments
  refine ⟨rfl, fun row => ?_⟩
  have hCell := h.cell_patched (mem_fields q.roles).1 q.resolution.status hStatus row
  rw [← Store.patched_eq hAssignments, ClaimColumns.InProgress, hCell, q.resolution.inProgress,
    hEnds]
  exact Bool.false_ne_true

section Ends

variable (hDistinct : q.roles.written.Nodup)
  (hWaits : q.roles.inProgress.matchesCell q.roles.pending.toJson = false)

theorem updateStatus_ends (id : Value) {status : Value}
    (hStatus : q.roles.inProgress.matchesCell status.toJson = false) :
    (q.updateStatus id status).Sends (Command.Ends q.store.table q.columns) := by
  refine updateStatus_sends ((q.isReport_statusPatch status).admits_ends ?_ hStatus) id
  rw [Patch.get?_set, if_pos rfl]

include hDistinct

theorem markExhausted_ends (id : Value) {status : Value}
    (hStatus : q.roles.inProgress.matchesCell status.toJson = false) (attempts : Nat) :
    (q.markExhausted id status attempts).Sends (Command.Ends q.store.table q.columns) := by
  have hAttempts : q.roles.attempts ≠ q.roles.status := by
    simp only [QueueRoles.written, List.nodup_cons, List.mem_cons, not_or] at hDistinct
    exact Ne.symm hDistinct.1.2.1
  exact markExhausted_sends ((q.isReport_exhaustedPatch status _).admits_ends
    (get?_exhaustedPatch_status (claimedAt_ne hDistinct (by simp)) hAttempts status _) hStatus) id

include hWaits

theorem markFailureWith_ends (id : Value) (attempts : Nat) (backoff : Backoff) :
    (q.markFailureWith id q.roles.retryFields attempts backoff).Sends
      (Command.Ends q.store.table q.columns) :=
  markFailureWith_sends (fun next => (q.isReport_retryPatch _ next).admits_ends
    (get?_retryPatch_of_nodup hDistinct _ next).2.2 hWaits) id backoff

theorem releaseStale_ends (age : Duration) :
    (q.releaseStale age).Sends (Command.Ends q.store.table q.columns) := by
  refine releaseStale_sends (q.isReport_releasePatch.admits_ends ?_ hWaits) age
  rw [get?_releasePatch, if_neg (claimedAt_ne hDistinct (by simp)), if_pos rfl]

end Ends

theorem Settles.ends {p : Program ρ' α} (h : q.Settles p) (hDistinct : q.roles.written.Nodup)
    (hWaits : q.roles.inProgress.matchesCell q.roles.pending.toJson = false) :
    p.Sends (Command.Ends q.store.table q.columns) := by
  have hEnds : ∀ {ρ'' β : Type} {q'' : Queue ρ''} {p : Program ρ'' β}, q.Shares q'' →
      p.Sends (Command.Ends q''.store.table q''.columns) →
      p.Sends (Command.Ends q.store.table q.columns) := by
    intro ρ'' β q'' p hShares hSends
    obtain ⟨hColumns, hTable⟩ := columns_eq hShares.1 hShares.2
    rwa [hColumns, hTable] at hSends
  cases h with
  | updateStatus q' h id hStatus => exact hEnds h (updateStatus_ends id (h.1 ▸ hStatus))
  | markSuccess q' h id hStatus => exact hEnds h (updateStatus_ends id (h.1 ▸ hStatus))
  | markExhausted q' h id hStatus attempts =>
    exact hEnds h (markExhausted_ends (h.1 ▸ hDistinct) id (h.1 ▸ hStatus) attempts)
  | markFailureWith q' h id attempts backoff =>
    exact hEnds h (markFailureWith_ends (h.1 ▸ hDistinct) (h.1 ▸ hWaits) id attempts backoff)
  | markFailure q' h id attempts =>
    exact hEnds h (markFailureWith_ends (h.1 ▸ hDistinct) (h.1 ▸ hWaits) id attempts q'.backoff)
  | releaseStale q' h age =>
    exact hEnds h (releaseStale_ends (h.1 ▸ hDistinct) (h.1 ▸ hWaits) age)
  | insertAll q' h hRows =>
    have hTable := (columns_eq h.1 h.2).2
    exact Store.insertAll_sends fun tenant rows hEncoded => ⟨hTable, hRows tenant rows hEncoded⟩
  | insert q' h hRow =>
    have hTable := (columns_eq h.1 h.2).2
    refine Store.insert_sends fun tenant rows hEncoded => ⟨hTable, fun row hMem => ?_⟩
    obtain ⟨record, hRecord, hOk⟩ := (Except.mem_mapM hEncoded).mp hMem
    cases List.mem_singleton.mp hRecord
    exact hRow tenant row hOk

/-! ## The times of claims -/

/-- Every row in progress carries the time of the claim that took it last. -/
def Stamped (q : Queue ρ) (claimedAt : String) (last : Nat → Option Instant) (rows : List Row) :
    Prop :=
  ∀ (k : Nat) row, rows[k]? = some row → q.columns.InProgress row →
    ∃ time, last k = some time ∧ (0 ≤ time.year ∧ time.year ≤ 9999) ∧
      row.cell claimedAt = .string (Rfc3339.text time)

variable {claimedAt : String} {start m : Memory} {last : Nat → Option Instant}

theorem Stamped.noneNew {rows rows' : List Row} (h : q.Stamped claimedAt last rows)
    (hNone : q.columns.NoneNew rows rows') : q.Stamped claimedAt last rows' :=
  fun k row hRow hBusy => h k row (hNone k row hRow hBusy) hBusy

theorem takenPlaces_nodup (q : Queue ρ) (active : Option TenantId) (limit : Nat) (now : Instant)
    (m : Memory) : (q.takenPlaces active limit now m).Nodup := by
  unfold takenPlaces
  split
  · exact Memory.claimedPlaces_nodup _ _ _ _
  · exact List.nodup_nil

/-- A claim marks the rows that it takes and leaves all others alone. -/
theorem rows_claimBatch (q : Queue ρ) (active : Option TenantId) (limit : Nat) (now : Instant)
    (m : Memory) :
    ((World.still active now).run (q.claimBatch limit) m).2.rows q.store.table.name =
      Memory.changeAt (Memory.markClaimed { q.columns with limit, now })
        (q.takenPlaces active limit now m) (m.rows q.store.table.name) := by
  unfold takenPlaces
  cases hContext : q.store.context.reports active with
  | none =>
    rw [claimBatch, Store.run_unscoped (w := World.still active now) hContext]
    rfl
  | some tenant =>
    rw [run_claimBatch hContext]
    split
    · rename_i hLimit
      simp [Memory.claimedPlaces, hLimit, Memory.changeAt]
    · exact Memory.rows_claim _ _ _ _

theorem Stamped.claimBatch (h : q.Stamped claimedAt last (m.rows q.store.table.name))
    (hClaimedAt : q.columns.claimedAt = some claimedAt) {q' : Queue ρ'} (hShares : q.Shares q')
    (active : Option TenantId) (limit : Nat) {now : Instant}
    (hYear : 0 ≤ now.year ∧ now.year ≤ 9999) :
    q.Stamped claimedAt
      (fun k => if k ∈ q'.takenPlaces active limit now m then some now else last k)
      (((World.still active now).run (q'.claimBatch limit) m).2.rows q.store.table.name) := by
  obtain ⟨hColumns, hTable⟩ := columns_eq hShares.1 hShares.2
  intro k row hRow hBusy
  rw [← hTable, rows_claimBatch, Memory.getElem?_changeAt _ (q'.takenPlaces_nodup _ _ _ _),
    hTable] at hRow
  dsimp only
  split at hRow
  · rename_i hTaken
    obtain ⟨old, -, rfl⟩ := Option.map_eq_some_iff.mp hRow
    refine ⟨now, if_pos hTaken, hYear, ?_⟩
    rw [Row.cell, Memory.get?_markClaimed, if_pos (hColumns ▸ hClaimedAt)]
    rfl
  · rename_i hLeft
    rw [if_neg hLeft]
    exact h k row hRow hBusy

/-- One step keeps the times, so a whole run does. -/
theorem Worked.stamped (h : q.Worked start m last)
    (hClaimedAt : q.columns.claimedAt = some claimedAt) (hDistinct : q.roles.written.Nodup)
    (hWaits : q.roles.inProgress.matchesCell q.roles.pending.toJson = false)
    (hStart : ∀ row ∈ start.rows q.store.table.name, ¬q.columns.InProgress row) :
    q.Stamped claimedAt last (m.rows q.store.table.name) := by
  have hStatus : q.columns.status ≠ q.store.table.idColumn :=
    (q.resolution.columns_ne q.store.resolution.idColumn (.inr rfl)).1
  have hStep : ∀ (last : Nat → Option Instant) c m', Command.Ends q.store.table q.columns c →
      q.Stamped claimedAt last (m'.rows q.store.table.name) →
      q.Stamped claimedAt last ((Memory.backend c m').2.rows q.store.table.name) :=
    fun last c m' hEnds hStamped => hStamped.noneNew (Memory.backend_noneNew hStatus hEnds m')
  induction h with
  | start => exact fun k row hRow hBusy => absurd hBusy (hStart row (List.mem_of_getElem? hRow))
  | claimBatch h q' hShares active limit hYear ih =>
    exact ih.claimBatch hClaimedAt hShares active limit hYear
  | settle h hp active now ih =>
    exact (hp.ends hDistinct hWaits).run_still (hStep _) active now ih

/-- A claim does not touch the keys of a table that has no role in them. -/
theorem keepsKeys_markClaimed
    (hKeys : ∀ key ∈ q.store.descriptor.uniqueKeys, ∀ field ∈ key, field ∉ q.roles.fields)
    (limit : Nat) (now : Instant) :
    Memory.KeepsKeys q.store.table (Memory.markClaimed { q.columns with limit, now }) := by
  intro row key hKey column hColumn
  have hOther := column?_ne_of_mem_key hKeys hKey hColumn
  refine Memory.cell_markClaimed_of_not_mem (fun hStamped => ?_) row
  rcases List.mem_cons.mp hStamped with rfl | hStamped
  · exact hOther _ (mem_fields q.roles).1 q.resolution.status
  · obtain ⟨field, hField, hName⟩ := q.resolution.exists_claimedAt (Option.mem_toList.mp hStamped)
    exact hOther field (by simp [QueueRoles.fields, hField]) hName

/-- Rows that do not collide at the start never do. -/
theorem Worked.keysApart (h : q.Worked start m last) (hDistinct : q.roles.written.Nodup)
    (hKeys : ∀ key ∈ q.store.descriptor.uniqueKeys, ∀ field ∈ key, field ∉ q.roles.fields)
    (hWaits : q.roles.inProgress.matchesCell q.roles.pending.toJson = false)
    (hApart : Memory.KeysApart q.store.table (start.rows q.store.table.name)) :
    Memory.KeysApart q.store.table (m.rows q.store.table.name) := by
  have hStep : ∀ c m', Command.Ends q.store.table q.columns c →
      Memory.KeysApart q.store.table (m'.rows q.store.table.name) →
      Memory.KeysApart q.store.table ((Memory.backend c m').2.rows q.store.table.name) :=
    fun c m' hEnds hApart => Memory.backend_keepsApart hEnds hApart
  induction h with
  | start => exact hApart
  | @claimBatch _ m _ h q' hShares active limit now hYear ih =>
    obtain ⟨hColumns, hTable⟩ := columns_eq hShares.1 hShares.2
    have hKeeps := q.keepsKeys_markClaimed hKeys limit now
    have hRows := q'.rows_claimBatch active limit now m
    rw [hTable, hColumns] at hRows
    rw [hRows, Memory.keysApart_iff_alone]
    exact fun k => (Memory.alone_changeAt_iff hKeeps _).mpr (Memory.keysApart_iff_alone.mp ih k)
  | settle h hp active now ih =>
    exact (hp.ends hDistinct hWaits).run_still hStep active now ih

/-! ## Sweeps -/

/-- The tenant has a row in progress at the place, and its last claim is before the cutoff. -/
def IsStale (q : Queue ρ) (tenant : TenantId) (cutoff : Instant) (last : Nat → Option Instant)
    (rows : List Row) (k : Nat) : Prop :=
  ∃ row time, rows[k]? = some row ∧ Memory.ownedBy q.store.table tenant row ∧
    q.columns.InProgress row ∧ last k = some time ∧ time.compare cutoff = .lt

/-- The new row waits, carries no time of a claim, and is the old one in all other columns. -/
structure Released (q : Queue ρ) (old new : Row) : Prop where
  status : new.get? q.columns.status = some q.roles.pending.toJson
  unclaimed : ∀ column, q.columns.claimedAt = some column → new.get? column = some .null
  kept : ∀ column, column ≠ q.columns.status → q.columns.claimedAt ≠ some column →
    new.get? column = old.get? column

variable {tenant : TenantId} {active : Option TenantId} {now : Instant}

/-- A stamp is before a cutoff if the claim was. -/
theorem lt_stamp_iff {time cutoff : Instant} (hYear : 0 ≤ time.year ∧ time.year ≤ 9999) :
    (Test.lt (.timestamp cutoff)).holds (.string (Rfc3339.text time)) ↔
      time.compare cutoff = .lt := by
  simp [Test.holds, Value.compareCell?, Rfc3339.ofText?_text hYear]

theorem Stamped.mem_stalePlaces_iff {rows : List Row} (h : q.Stamped claimedAt last rows)
    (hClaimedAt : q.columns.claimedAt = some claimedAt) {age : Duration} {cutoff : Instant}
    (hCutoff : now.before? age = some cutoff) {k : Nat} :
    k ∈ q.stalePlaces tenant age now rows ↔ q.IsStale tenant cutoff last rows k := by
  have hSelects : ∀ row : Row, Memory.selects q.store.table tenant
      [⟨q.columns.status, .eq q.columns.inProgress⟩, ⟨claimedAt, .lt (.timestamp cutoff)⟩] row ↔
      Memory.ownedBy q.store.table tenant row ∧ q.columns.InProgress row ∧
        (Test.lt (.timestamp cutoff)).holds (row.cell claimedAt) := by
    intro row
    simp [Memory.selects, Condition.holds, Test.holds, ClaimColumns.InProgress]
  rw [stalePlaces, hClaimedAt, hCutoff]
  dsimp only
  rw [Memory.mem_placesOf]
  constructor
  · rintro ⟨row, hRow, hSelected⟩
    obtain ⟨hOwned, hBusy, hLt⟩ := (hSelects row).mp hSelected
    obtain ⟨time, hLast, hYear, hCell⟩ := h k row hRow hBusy
    rw [hCell, lt_stamp_iff hYear] at hLt
    exact ⟨row, time, hRow, hOwned, hBusy, hLast, hLt⟩
  · rintro ⟨row, time, hRow, hOwned, hBusy, hLast, hLt⟩
    obtain ⟨time', hLast', hYear, hCell⟩ := h k row hRow hBusy
    cases Option.some.inj (hLast.symm.trans hLast')
    refine ⟨row, hRow, (hSelects row).mpr ⟨hOwned, hBusy, ?_⟩⟩
    rw [hCell, lt_stamp_iff hYear]
    exact hLt

theorem released_patched (hDistinct : q.roles.written.Nodup) (row : Row) :
    q.Released row (q.store.patched q.releasePatch row) := by
  have hReport := q.isReport_releasePatch
  refine ⟨?_, ?_, ?_⟩
  · rw [hReport.get?_patched (mem_fields q.roles).1 q.resolution.status, get?_releasePatch,
      if_neg (claimedAt_ne hDistinct (by simp)), if_pos rfl]
    rfl
  · intro column hColumn
    obtain ⟨field, hField, hName⟩ := q.resolution.exists_claimedAt hColumn
    rw [hReport.get?_patched (by simp [QueueRoles.fields, hField]) hName, get?_releasePatch,
      if_pos hField]
    rfl
  · intro column hStatus hClaimedAt
    refine Store.get?_patched_of_ne (fun field value hValue hColumn => ?_) row
    rw [get?_releasePatch] at hValue
    split_ifs at hValue with hField hField
    · obtain ⟨column', hRole, hName⟩ := Except.mapM_some (hField ▸ q.resolution.claimedAt)
      have hName := ColumnMap.column_eq_ok_iff.mp hName
      cases Option.some.inj (hColumn.symm.trans hName)
      exact hClaimedAt hRole
    · subst hField
      exact hStatus (Option.some.inj (hColumn.symm.trans q.resolution.status))

/-- A sweep puts back all stale rows, or none of them where one collides with another row. -/
theorem run_releaseStale_apart (hContext : q.store.context.reports active = some tenant)
    (hClaimedAt : q.columns.claimedAt = some claimedAt)
    (hKeys : ∀ key ∈ q.store.descriptor.uniqueKeys, ∀ field ∈ key, field ∉ q.roles.fields)
    {age : Duration} {cutoff : Instant} (hCutoff : now.before? age = some cutoff) (m : Memory) :
    let stale := q.stalePlaces tenant age now (m.rows q.store.table.name)
    ((∀ k ∈ stale, Memory.Alone q.store.table (m.rows q.store.table.name) k) →
      (World.still active now).run (q.releaseStale age) m =
        (.ok stale.length, q.store.rewriteAt q.releasePatch stale m)) ∧
    ((∃ k ∈ stale, ¬Memory.Alone q.store.table (m.rows q.store.table.name) k) →
      ∃ key, (World.still active now).run (q.releaseStale age) m =
        (.error (.error (.conflict (.duplicateKey q.store.table.name key))), m)) := by
  obtain ⟨assignments, hAssignments, hPlaces, hRun⟩ := q.run_releaseStale_eq hContext hClaimedAt
    (Instant.le_longestMove_of_before? hCutoff) hCutoff m
  have hKeeps := q.isReport_releasePatch.keepsKeys hKeys
  rw [Store.patched_eq hAssignments] at hKeeps
  dsimp only
  rw [hRun, hPlaces, Store.rewriteAt, Store.patched_eq hAssignments]
  rcases Memory.update_cases hKeeps m with ⟨hAlone, hUpdate⟩ | ⟨⟨k, hk, hCollides⟩, key, hUpdate⟩
  · rw [hUpdate]
    refine ⟨fun _ => by simp only [Except.map, Except.mapError, List.length_map], ?_⟩
    rintro ⟨k, hk, hCollides⟩
    exact absurd (hAlone k hk) hCollides
  · rw [hUpdate]
    exact ⟨fun hAlone => absurd (hAlone k hk) hCollides, fun _ => ⟨key, rfl⟩⟩

/-- **Sweeps release what is stale.** For roles that fall on distinct fields and in no unique key,
and a pending value that is not taken for the status of rows in progress, start with a table that
has no row in progress. Whatever is done to it by claims of queues with these roles at times up to
the year 9999, by their write-backs and sweeps, and by insertions of rows that are not in progress,
1. every row in progress carries the time of the claim that took it last,
2. no two rows collide if none did at the start,
3. and a sweep finds exactly the rows in progress of its tenant whose last claim is before the
cutoff, those that count as deleted included. If none of them collides with another row, it puts
them all back and answers their number: they wait and carry no time of a claim, and nothing else
changes. If one of them does, the sweep conflicts and changes nothing. -/
theorem sweeps_release_stale (hClaimedAt : q.columns.claimedAt = some claimedAt)
    (hDistinct : q.roles.fields.Nodup)
    (hKeys : ∀ key ∈ q.store.descriptor.uniqueKeys, ∀ field ∈ key, field ∉ q.roles.fields)
    (hWaits : q.roles.inProgress.matchesCell q.roles.pending.toJson = false)
    (hStart : ∀ row ∈ start.rows q.store.table.name, ¬q.columns.InProgress row)
    (hWorked : q.Worked start m last) :
    (∀ (k : Nat) row, (m.rows q.store.table.name)[k]? = some row → q.columns.InProgress row →
      ∃ time, last k = some time ∧ row.cell claimedAt = .string (Rfc3339.text time)) ∧
    (Memory.KeysApart q.store.table (start.rows q.store.table.name) →
      ∀ k, Memory.Alone q.store.table (m.rows q.store.table.name) k) ∧
    ∀ active tenant now age cutoff, q.store.context.reports active = some tenant →
      now.before? age = some cutoff →
      ∃ stale : List Nat, stale.Nodup ∧
        (∀ k, k ∈ stale ↔ q.IsStale tenant cutoff last (m.rows q.store.table.name) k) ∧
        ((∀ k ∈ stale, Memory.Alone q.store.table (m.rows q.store.table.name) k) →
          ∃ rows, (World.still active now).run (q.releaseStale age) m =
              (.ok stale.length, m.setRows q.store.table.name rows) ∧
            rows.length = (m.rows q.store.table.name).length ∧
            ∀ (k : Nat) old, (m.rows q.store.table.name)[k]? = some old →
              ∃ new, rows[k]? = some new ∧ (k ∈ stale → q.Released old new) ∧
                (k ∉ stale → new = old)) ∧
        ((∃ k ∈ stale, ¬Memory.Alone q.store.table (m.rows q.store.table.name) k) →
          ∃ key, (World.still active now).run (q.releaseStale age) m =
            (.error (.error (.conflict (.duplicateKey q.store.table.name key))), m)) := by
  have hWritten := written_nodup hDistinct
  have hStamped := hWorked.stamped hClaimedAt hWritten hWaits hStart
  refine ⟨?_, ?_, ?_⟩
  · intro k row hRow hBusy
    obtain ⟨time, hLast, -, hCell⟩ := hStamped k row hRow hBusy
    exact ⟨time, hLast, hCell⟩
  · intro hApart
    exact Memory.keysApart_iff_alone.mp (hWorked.keysApart hWritten hKeys hWaits hApart)
  · intro active tenant now age cutoff hContext hCutoff
    have hNodup := q.stalePlaces_nodup tenant age now (m.rows q.store.table.name)
    obtain ⟨hReleased, hConflict⟩ := run_releaseStale_apart hContext hClaimedAt hKeys hCutoff m
    refine ⟨q.stalePlaces tenant age now (m.rows q.store.table.name), hNodup,
      fun k => hStamped.mem_stalePlaces_iff hClaimedAt hCutoff, ?_, hConflict⟩
    intro hAlone
    refine ⟨_, hReleased hAlone, Memory.length_changeAt _ _ _, ?_⟩
    intro k old hOld
    rw [Memory.getElem?_changeAt _ hNodup, hOld]
    split
    · rename_i hStale
      exact ⟨_, rfl, fun _ => released_patched hWritten old, fun hNot => absurd hStale hNot⟩
    · rename_i hFresh
      exact ⟨old, rfl, fun hStale => absurd hStale hFresh, fun _ => rfl⟩

end Queue

/-! ## Jobs that were claimed too long ago -/

namespace Jobs

/-- A second before `later`. -/
def cutoff : Instant := (Instant.of? 4 0).getD epoch

/-- The tables after the only waiting job was claimed. -/
def onlyClaimed : Memory :=
  ((World.still (some tenant) epoch).run (queue.claimBatch 1) oneWaitingRow).2

/-- A job that was claimed five seconds ago goes back to the queue in a sweep of all jobs that were
claimed more than a second ago. -/
theorem stale_released : ∃ last, queue.Worked oneWaitingRow onlyClaimed last ∧
    last 0 = some epoch ∧
    ∃ (stale : List Nat) (rows : List Row),
      (World.still (some tenant) later).run (queue.releaseStale (Duration.ofSeconds 1))
        onlyClaimed = (.ok stale.length, onlyClaimed.setRows "jobs" rows) ∧
      0 ∈ stale ∧ ∃ new, rows[0]? = some new ∧
        queue.Released (Memory.markClaimed claim (waiting "a")) new := by
  have hWorked : queue.Worked oneWaitingRow onlyClaimed fun k =>
      if k ∈ queue.takenPlaces (some tenant) 1 epoch oneWaitingRow then some epoch else none :=
    .claimBatch .start queue ⟨rfl, rfl⟩ (some tenant) 1 (by decide)
  have hStart : ∀ row ∈ oneWaitingRow.rows queue.store.table.name,
      ¬queue.columns.InProgress row := by
    decide +kernel
  have hKeys : ∀ key ∈ queue.store.descriptor.uniqueKeys, ∀ field ∈ key,
      field ∉ queue.roles.fields := nofun
  have hApart : Memory.KeysApart queue.store.table
      (oneWaitingRow.rows queue.store.table.name) := by
    decide +kernel
  have hContext : queue.store.context.reports (some tenant) = some tenant := rfl
  have hCutoff : later.before? (Duration.ofSeconds 1) = some cutoff := by decide
  have hRow : (onlyClaimed.rows "jobs")[0]? = some (Memory.markClaimed claim (waiting "a")) := rfl
  obtain ⟨-, hAlone, hSweeps⟩ :=
    Queue.sweeps_release_stale rfl (by decide) hKeys (by decide) hStart hWorked
  obtain ⟨stale, -, hStale, hReleased, -⟩ := hSweeps _ _ _ _ _ hContext hCutoff
  obtain ⟨rows, hRun, -, hRows⟩ := hReleased fun k _ => hAlone hApart k
  have hTaken : 0 ∈ queue.takenPlaces (some tenant) 1 epoch oneWaitingRow := by decide +kernel
  have hFirst : 0 ∈ stale := (hStale 0).mpr
    ⟨_, epoch, hRow, by decide +kernel, by decide +kernel, if_pos hTaken, by decide⟩
  obtain ⟨new, hNew, hPut, -⟩ := hRows 0 _ hRow
  exact ⟨_, hWorked, if_pos hTaken, stale, rows, hRun, hFirst, new, hNew, hPut hFirst⟩

/-- Jobs in lanes that carry the times of their claims. -/
def timed : Queue Json where
  store :=
    { store with
      descriptor :=
        { Descriptor.ofFields "jobs" ["id", "tenant_id", "status", "created_at", "due_at",
            "attempts", "lane", "claimed_at"] with
          uniqueKeys := [["tenant_id", "lane"]] }
      columns :=
        { table := "jobs"
          pairs := ["id", "tenant_id", "status", "created_at", "due_at", "attempts", "lane",
            "claimed_at"].map fun field => ⟨field, field⟩
          fields_nodup := by decide
          columns_nodup := by decide }
      table := keyed "lane"
      resolved := rfl }
  roles := roles
  columns := queue.columns
  backoff := .standard
  resolved := rfl

/-- Where another queue has brought two jobs into one lane, a sweep conflicts and releases nothing,
although a job in progress was claimed too long ago and no role of its queue falls on a key. -/
theorem stale_in_shared_lane :
    let start := ((World.still (some tenant) epoch).run (moving.claimBatch 1) twoLanes).2
    let m := ((World.still (some tenant) epoch).run (timed.claimBatch 1) start).2
    timed.roles.fields.Nodup ∧
    (∀ key ∈ timed.store.descriptor.uniqueKeys, ∀ field ∈ key, field ∉ timed.roles.fields) ∧
    (timed.roles.pending.matchesCell timed.roles.pending.toJson ∧
      timed.roles.pending.matchesCell timed.roles.inProgress.toJson = false) ∧
    (timed.roles.inProgress.matchesCell timed.roles.inProgress.toJson ∧
      timed.roles.inProgress.matchesCell timed.roles.pending.toJson = false) ∧
    Memory.UniqueIds timed.store.table (start.rows "jobs") ∧
    (∀ row ∈ start.rows "jobs", ¬timed.columns.InProgress row) ∧
    (∃ row, (m.rows "jobs")[0]? = some row ∧ Memory.ownedBy timed.store.table tenant row ∧
      timed.columns.InProgress row ∧ row.cell "claimed_at" = .string (Rfc3339.text epoch)) ∧
    later.before? (Duration.ofSeconds 1) = some cutoff ∧ epoch.compare cutoff = .lt ∧
    (World.still (some tenant) later).run (timed.releaseStale (Duration.ofSeconds 1)) m =
      (.error (.error (.conflict (.duplicateKey "jobs" ["tenant_id", "lane"]))), m) := by
  refine ⟨by decide, by decide, by decide, by decide, uniqueIds_of_texts ["a", "b"] rfl ?_, ?_,
    ⟨_, rfl, ?_, ?_, rfl⟩, by decide, by decide, rfl⟩
  · decide +kernel
  · decide +kernel
  · decide +kernel
  · decide +kernel

end Jobs

end Tenancy
