import Tenancy.Proofs.Own
import Tenancy.Proofs.Queue.Handover

/-!
# Reads without deleted records

A read that does not ask for deleted records has the condition on its command that a row does not
count as deleted, and a claim has the same test built in (`Command.SkipsDeleted`). The backend does
not look at any other row then: it answers such a command as if rows that count as deleted were not
there (`Memory.backend_sameLive`), and none of them is in its answer (`Memory.live_of_answer`).

`liveOnly` are the terms of programs that send such commands only. The reads of a store, the queries
of it and the claims of its queues honor them (`Operation.HidesDeleted.honors`), so deleted records
do not show in what they answer (`Operation.HidesDeleted.run`).
-/

namespace Tenancy

variable {ρ α β : Type}

/-! ## Rows that do not count as deleted -/

namespace Memory

variable {table : Table} {tenant : TenantId} {rows : List Row} {m m' : Memory}

/-- The row does not count as deleted. -/
def live (table : Table) (row : Row) : Bool :=
  table.softDeleteColumn.all fun column => (row.cell column).isNull

theorem live_iff {row : Row} : live table row ↔
    ∀ column, table.softDeleteColumn = some column → row.cell column = .null := by
  simp only [live, Option.all_eq_true, isNull_iff]

/-- The conditions let no row through that counts as deleted. -/
def Guarded (table : Table) (conditions : List Condition) : Prop :=
  ∀ column, table.softDeleteColumn = some column → ⟨column, .isNull⟩ ∈ conditions

theorem Guarded.live_of_selects {conditions : List Condition} (h : Guarded table conditions)
    (row : Row) (hRow : selects table tenant conditions row) : live table row := by
  rw [selects, Bool.and_eq_true, List.all_eq_true] at hRow
  exact live_iff.mpr fun column hColumn => isNull_iff.mp (hRow.2 _ (h column hColumn))

theorem live_of_isEligible {c : Claim} (row : Row) (h : isEligible table tenant c row) :
    live table row := live_iff.mpr (isEligible_iff.mp h).visible

end Memory

/-- A command that is not for rows that count as deleted: a read, or a claim that marks no row as
deleted. -/
def Command.SkipsDeleted (table : Table) : Command → Prop
  | .select t _ selection => t = table ∧ Memory.Guarded table selection.conditions
  | .count t _ conditions => t = table ∧ Memory.Guarded table conditions
  | .claim t _ c => t = table ∧ ∀ column, table.softDeleteColumn = some column → column ∉ c.stamped
  | .insert _ _ | .upsert _ _ | .update _ _ _ _ | .delete _ _ _ => False

namespace Memory

variable {table : Table} {tenant : TenantId} {rows : List Row} {m m' : Memory}

theorem live_markClaimed {c : Claim}
    (h : ∀ column, table.softDeleteColumn = some column → column ∉ c.stamped) (row : Row)
    (hRow : live table row) : live table (markClaimed c row) := by
  refine live_iff.mpr fun column hColumn => ?_
  rw [cell_markClaimed_of_not_mem (h column hColumn)]
  exact live_iff.mp hRow column hColumn

/-- No row in the answer counts as deleted. -/
theorem live_of_answer {c : Command} (hc : c.SkipsDeleted table) {answer : c.Result}
    (hAnswer : (backend c m).1 = .ok answer) : ∀ row ∈ c.rowsIn answer, live table row := by
  intro row hRow
  cases c with
  | select t owner selection =>
    obtain ⟨rfl, hGuarded⟩ := hc
    cases Except.ok.inj hAnswer
    exact hGuarded.live_of_selects row (mem_select hRow).2
  | claim t owner c =>
    obtain ⟨rfl, hStamped⟩ := hc
    cases Except.ok.inj hAnswer
    obtain ⟨i, hi, rfl⟩ := List.mem_map.mp hRow
    obtain ⟨old, hOld, hEligible⟩ := mem_placesOf.mp (mem_claimedPlaces hi)
    rw [getD_of_getElem? hOld]
    exact live_markClaimed hStamped old (live_of_isEligible old hEligible)
  | count t owner conditions => exact absurd hRow List.not_mem_nil
  | insert t rows | upsert t rows => exact hc.elim
  | update t owner conditions assignments => exact hc.elim
  | delete t owner conditions => exact hc.elim

/-- The tables differ at most in rows that count as deleted. -/
def SameLive (table : Table) (m m' : Memory) : Prop :=
  (m.rows table.name).filter (live table) = (m'.rows table.name).filter (live table)

/-- The tables without the rows that count as deleted. -/
def purged (table : Table) (m : Memory) : Memory :=
  m.setRows table.name ((m.rows table.name).filter (live table))

theorem sameLive_purged (table : Table) (m : Memory) : SameLive table m (m.purged table) := by
  rw [SameLive, purged, rows_setRows_self, List.filter_filter]
  simp only [Bool.and_self]

/-- Conditions that let no deleted row through find the same rows. -/
theorem SameLive.filter_selects (h : SameLive table m m') {conditions : List Condition}
    (hGuarded : Guarded table conditions) (tenant : TenantId) :
    (m.rows table.name).filter (selects table tenant conditions) =
      (m'.rows table.name).filter (selects table tenant conditions) := by
  have hLive : ∀ rows : List Row, rows.filter (selects table tenant conditions) =
      (rows.filter (live table)).filter (selects table tenant conditions) := by
    intro rows
    rw [List.filter_filter]
    refine List.filter_congr fun row _ => ?_
    cases hRow : selects table tenant conditions row with
    | false => rfl
    | true => rw [hGuarded.live_of_selects row hRow, Bool.and_self]
  rw [hLive, h, ← hLive]

/-- Rows that count as deleted make no difference to the answer, and the tables differ at most in
such rows again. -/
theorem backend_sameLive {c : Command} (hc : c.SkipsDeleted table) (h : SameLive table m m') :
    (backend c m).1 = (backend c m').1 ∧ SameLive table (backend c m).2 (backend c m').2 := by
  cases c with
  | select t owner selection =>
    obtain ⟨rfl, hGuarded⟩ := hc
    refine ⟨congrArg Except.ok ?_, h⟩
    rw [select, select, h.filter_selects hGuarded]
  | count t owner conditions =>
    obtain ⟨rfl, hGuarded⟩ := hc
    refine ⟨congrArg Except.ok ?_, h⟩
    rw [count, count, List.countP_eq_length_filter, List.countP_eq_length_filter,
      h.filter_selects hGuarded]
  | claim t owner c =>
    obtain ⟨rfl, hStamped⟩ := hc
    have hSub : ∀ row, isEligible t owner c row → live t row := live_of_isEligible
    have hClaim := claim_filter hSub (live_markClaimed hStamped)
    obtain ⟨hAnswer, hRows⟩ := hClaim m
    obtain ⟨hAnswer', hRows'⟩ := hClaim m'
    rw [h] at hAnswer hRows
    exact ⟨congrArg Except.ok (hAnswer.trans hAnswer'.symm), hRows.trans hRows'.symm⟩
  | insert t rows | upsert t rows => exact hc.elim
  | update t owner conditions assignments => exact hc.elim
  | delete t owner conditions => exact hc.elim

end Memory

/-! ## Programs that do not see deleted rows -/

/-- No row that the backend answers counts as deleted, and no command is for such rows. -/
def liveOnly (ρ : Type) (table : Table) : Terms (Question ρ) Question.Answer where
  answers
    | .backend c, .ok answer => ∀ row ∈ c.rowsIn answer, Memory.live table row
    | _, _ => True
  asks
    | .backend c => c.SkipsDeleted table
    | _ => True

namespace Store

variable {s : Store ρ} {results : α → Prop}

/-- The record is that of a row that does not count as deleted. -/
def Shows (s : Store ρ) (record : ρ) : Prop :=
  ∃ row, s.Visible row ∧ s.decodeRow row = .ok record

/-- The program does not see deleted rows, and each of its results satisfies `results`. -/
abbrev Hides (s : Store ρ) (p : Program ρ α) (results : α → Prop) : Prop :=
  Honors (liveOnly ρ s.table) p results fun _ => True

theorem visible_iff {row : Row} : s.Visible row ↔ Memory.live s.table row := Memory.live_iff.symm

theorem scope_hides {f : TenantId → Program ρ α} (h : ∀ tenant, s.Hides (f tenant) results)
    (operation : String) : s.Hides (s.requireTenant operation >>= f) results := by
  have hCurrent : s.Hides s.context.current fun _ => True := by
    cases s.context with
    | pinned t => exact .pure trivial
    | ambient => exact .ask trivial fun _ _ => trivial
  have hTenant : s.Hides (s.requireTenant operation) fun _ => True := by
    refine Honors.bind hCurrent fun found _ => ?_
    cases found with
    | none => exact .fail trivial
    | some t => exact .pure trivial
  exact hTenant.bind fun tenant _ => h tenant

theorem send_hides {c : Command} (h : c.SkipsDeleted s.table) {f : c.Result → Program ρ α}
    (hf : ∀ answer, (∀ row ∈ c.rowsIn answer, Memory.live s.table row) →
      s.Hides (f answer) results) : s.Hides (Program.send c >>= f) results :=
  Honors.bind (Honors.send h (fun _ hRows => hRows) fun _ _ => trivial) hf

theorem visibleConditions_guarded {filter : Filter} {conditions : List Condition}
    (h : s.visibleConditions filter = .ok conditions) : Memory.Guarded s.table conditions := by
  intro column hColumn
  obtain ⟨own, -, h⟩ := Except.bind_eq_ok.mp h
  rw [hColumn] at h
  cases Except.ok.inj h
  simp

theorem decodeRows_hides {rows : List Row} (h : ∀ row ∈ rows, Memory.live s.table row) :
    s.Hides (Program.ofExcept (s.decodeRows rows)) fun records => ∀ r ∈ records, s.Shows r := by
  refine Honors.ofExcept (fun records hRecords r hr => ?_) fun _ _ => trivial
  obtain ⟨row, hRow, hDecode⟩ := (Except.mem_mapM hRecords).mp hr
  exact ⟨row, visible_iff.mpr (h row hRow), hDecode⟩

theorem selectRecords_hides {selection : Selection}
    (h : Memory.Guarded s.table selection.conditions) (tenant : TenantId) :
    s.Hides (s.selectRecords tenant selection) fun records => ∀ r ∈ records, s.Shows r :=
  send_hides (c := .select s.table tenant selection) ⟨rfl, h⟩ fun _ => decodeRows_hides

theorem find_hides (filter : Filter) :
    s.Hides (s.find filter) fun records => ∀ r ∈ records, s.Shows r :=
  scope_hides (fun tenant => Honors.check fun _ hConditions =>
    selectRecords_hides (visibleConditions_guarded hConditions) tenant) _

/-- The last record of a selection. -/
theorem last_hides {p : Program ρ (List ρ)}
    (h : s.Hides p fun records => ∀ r ∈ records, s.Shows r) :
    s.Hides (p >>= fun found => pure found.getLast?) fun found => ∀ r ∈ found, s.Shows r :=
  h.bind fun _ hFound => Honors.pure fun r hr => hFound r (List.mem_of_getLast? hr)

theorem findOne_hides (filter : Filter) :
    s.Hides (s.findOne filter) fun found => ∀ r ∈ found, s.Shows r :=
  scope_hides (fun tenant => Honors.check fun _ hConditions =>
    last_hides (selectRecords_hides (visibleConditions_guarded hConditions) tenant)) _

/-- What is counted does not show. -/
theorem count_hides {conditions : List Condition} (h : Memory.Guarded s.table conditions)
    (tenant : TenantId) :
    s.Hides (Program.send (.count s.table tenant conditions)) fun _ => True :=
  Honors.send ⟨rfl, h⟩ (fun _ _ => trivial) fun _ _ => trivial

end Store

theorem Query.conditions_guarded {q : Query ρ} (hQuery : q.withDeleted = false)
    {conditions : List Condition} (h : q.conditions = .ok conditions) :
    Memory.Guarded q.store.table conditions := by
  rw [Query.conditions, hQuery] at h
  exact Store.visibleConditions_guarded h

theorem Query.selection_guarded {q : Query ρ} (hQuery : q.withDeleted = false)
    {limit : Option Nat} {selection : Selection} (h : q.selection limit = .ok selection) :
    Memory.Guarded q.store.table selection.conditions := by
  obtain ⟨conditions, hConditions, h⟩ := Except.bind_eq_ok.mp h
  obtain ⟨order, -, h⟩ := Except.bind_eq_ok.mp h
  cases Except.ok.inj h
  exact conditions_guarded hQuery hConditions

/-- A claim marks no row as deleted if the field for that has no role in the queue. -/
theorem Queue.softDelete_not_stamped {q : Queue ρ}
    (h : ∀ field, q.store.descriptor.softDeleteField = some field → field ∉ q.roles.fields)
    (limit : Nat) (now : Instant) {column : String}
    (hColumn : q.store.table.softDeleteColumn = some column) :
    column ∉ Claim.stamped { q.columns with limit, now } := by
  obtain ⟨field, hField, hOk⟩ :=
    Except.some_of_mapM (hColumn ▸ q.store.resolution.softDeleteColumn)
  have hName := ColumnMap.column_eq_ok_iff.mp hOk
  have hRole := h field hField
  intro hStamped
  rcases List.mem_cons.mp hStamped with hStatus | hClaimedAt
  · have hStatus : column = q.columns.status := hStatus
    cases ColumnMap.column?_inj hName (hStatus ▸ q.resolution.status)
    exact hRole (mem_fields q.roles).1
  · obtain ⟨claimedAt, hClaimed, hTime⟩ :=
      q.resolution.exists_claimedAt (Option.mem_toList.mp hClaimedAt)
    cases ColumnMap.column?_inj hName hTime
    exact hRole (by simp [QueueRoles.fields, hClaimed])

/-! ## Operations -/

/-- Tables in memory keep to the terms. -/
theorem World.respects_liveOnly (table : Table) (active : Option TenantId) (now : Instant) :
    (World.still active now).Respects (liveOnly ρ table) fun _ => True := by
  intro q m _ hAsk
  refine ⟨?_, trivial⟩
  cases q with
  | backend c =>
    cases hAnswer : ((World.still active now : World Memory ρ).answer (.backend c) m).1 with
    | error e => trivial
    | ok answer => exact Memory.live_of_answer hAsk hAnswer
  | _ => trivial

namespace Operation

/-- A read that does not ask for deleted records, or a claim of a queue in which the field that
marks records as deleted has no role. -/
def HidesDeleted : Operation ρ α → Prop
  | .find _ _ | .findOne _ _ | .findOneOrFail _ _ | .findById _ _ | .findByIdOrFail _ _
  | .count _ _ | .exists? _ _ => True
  | .fetchAll q | .fetchOne q | .countAll q => q.withDeleted = false
  | .claimBatch q _ =>
    ∀ field, q.store.descriptor.softDeleteField = some field → field ∉ q.roles.fields
  | _ => False

namespace HidesDeleted

variable {op : Operation ρ α}

theorem honors (h : op.HidesDeleted) :
    op.store.Hides op.program fun a => ∀ r ∈ op.records a, op.store.Shows r := by
  have hNone : ∀ r ∈ ([] : List ρ), op.store.Shows r := by simp
  have hOption : ∀ found : Option ρ, (∀ r ∈ found, op.store.Shows r) →
      ∀ r ∈ found.toList, op.store.Shows r :=
    fun found hFound r hr => hFound r (Option.mem_toList.mp hr)
  have hSingle : ∀ record : ρ, op.store.Shows record → ∀ r ∈ [record], op.store.Shows r :=
    fun record hRecord r hr => List.mem_singleton.mp hr ▸ hRecord
  cases op with
  | find s filter => exact Store.find_hides filter
  | findOne s filter => exact (Store.findOne_hides filter).weaken hOption
  | findOneOrFail s filter =>
    exact (Honors.orFail (Store.findOne_hides filter) trivial).weaken hSingle
  | findById s id => exact (Store.findOne_hides _).weaken hOption
  | findByIdOrFail s id => exact (Honors.orFail (Store.findOne_hides _) trivial).weaken hSingle
  | count s filter =>
    refine Store.scope_hides (fun tenant => Honors.check fun conditions hConditions => ?_) _
    exact (Store.count_hides (Store.visibleConditions_guarded hConditions) tenant).weaken
      fun _ _ => hNone
  | exists? s filter => exact (Store.findOne_hides filter).bind fun _ _ => .pure hNone
  | fetchAll q =>
    exact Honors.check fun _ hSelection =>
      Store.selectRecords_hides (Query.selection_guarded h hSelection) _
  | fetchOne q =>
    refine Honors.weaken (Honors.check fun _ hSelection => ?_) hOption
    exact Store.last_hides (Store.selectRecords_hides (Query.selection_guarded h hSelection) _)
  | countAll q =>
    refine Honors.check fun conditions hConditions => ?_
    exact (Store.count_hides (Query.conditions_guarded h hConditions) _).weaken fun _ _ => hNone
  | claimBatch q limit =>
    refine Store.scope_hides (fun tenant => ?_) _
    have hTime : q.store.Hides Program.time fun _ => True := .ask trivial fun _ _ => trivial
    refine Honors.bind hTime fun now _ => ?_
    split
    · exact .pure hNone
    · have hClaim : Command.SkipsDeleted q.store.table
          (.claim q.store.table tenant { q.columns with limit, now }) :=
        ⟨rfl, fun _ => Queue.softDelete_not_stamped h limit now⟩
      refine Store.send_hides hClaim fun rows hRows => ?_
      exact (Store.decodeRows_hides hRows).bind fun records hRecords => .pure hRecords
  | _ => exact h.elim

/-- Deleted records do not show: the operation has the same outcome in all tables that differ in
rows that count as deleted only, and its records are those of other rows. -/
theorem run (h : op.HidesDeleted) (active : Option TenantId) (now : Instant) {m m' : Memory}
    (hSame : Memory.SameLive op.store.table m m') :
    ((World.still active now).run op.program m).1 =
        ((World.still active now).run op.program m').1 ∧
      ∀ a, ((World.still active now).run op.program m).1 = .ok a →
        ∀ r ∈ op.records a, op.store.Shows r := by
  have hWorld := World.respects_liveOnly (ρ := ρ) op.store.table active now
  refine ⟨(h.honors.run_related (fun q m m' hSame hAsk => ?_) hSame).1, fun a hOk => ?_⟩
  · have hAnswer := (hWorld q m trivial hAsk).1
    cases q with
    | backend c =>
      obtain ⟨hEq, hAfter⟩ := Memory.backend_sameLive hAsk hSame
      exact ⟨hEq, hAnswer, hAfter⟩
    | _ => exact ⟨rfl, hAnswer, hSame⟩
  · have hResult := (h.honors.run hWorld (s := m) trivial).1
    rw [hOk] at hResult
    exact hResult

end HidesDeleted

end Operation

end Tenancy
