import Tenancy.Proofs.Equality
import Tenancy.Proofs.Failures
import Tenancy.Proofs.Turns

/-!
# Turns of an idempotent writer

A save under a key takes up to three turns: an insertion, a look-up of the record that stood in its
way, and a second insertion if that record is gone. Here is what each of these turns does to the
table (`IdempotentWriter.turn_save`, `turn_lookUp`, `turn_retry`), and what a soft deletion does
(`Store.rows_softDelete`).
-/

namespace Tenancy

/-! ## Rows that are inserted and rows that are marked -/

namespace Memory

variable {table : Table} {rows : List Row} {m : Memory}

theorem stageAll_insertOne {s : Staged} {written : List Row}
    (h : (stageAll (insertOne table) rows s).1 = .ok written) :
    (stageAll (insertOne table) rows s).2.rows = s.rows ++ written := by
  induction rows generalizing s written with
  | nil =>
    cases h
    exact (List.append_nil _).symm
  | cons row rest ih =>
    have hFirst : ∀ row', (insertOne table row s).1 = .ok row' →
        (insertOne table row s).2.rows = s.rows ++ [row'] := by
      intro row' hOk
      unfold insertOne append at hOk ⊢
      split at hOk
      · cases hOk
      · rename_i hTenant
        rw [if_neg hTenant]
        dsimp only at hOk ⊢
        split at hOk
        · cases hOk
        · cases hOk
          rfl
    unfold stageAll at h ⊢
    generalize insertOne table row s = outcome at h hFirst
    obtain ⟨e | row', s'⟩ := outcome
    · cases h
    · dsimp only at h ⊢
      have hRest := @ih s'
      generalize stageAll (insertOne table) rest s' = outcome at h hRest
      obtain ⟨e | others, s''⟩ := outcome
      · cases h
      · cases h
        rw [hRest rfl, hFirst row' rfl, List.append_assoc]
        rfl

/-- An insertion appends the rows that it answers, or it fails and appends none. -/
theorem rows_insert (m : Memory) (table : Table) (rows : List Row) :
    (∃ e, (m.insert table rows).1 = .error e ∧ SameRows m (m.insert table rows).2) ∨
      ∃ written, (m.insert table rows).1 = .ok written ∧
        (m.insert table rows).2.rows table.name = m.rows table.name ++ written := by
  rw [Memory.insert]
  rcases write_cases (insertOne table) table rows m with
    ⟨e, hError, hSame⟩ | ⟨written, hStaged, hOk, hRows⟩
  · exact .inl ⟨e, hError, hSame⟩
  · exact .inr ⟨written, hOk, hRows.trans (stageAll_insertOne hStaged)⟩

/-- The row as an insertion writes it: with an id, which is drawn if the row has none. -/
def drawn (m : Memory) (table : Table) (row : Row) : Row := (withId table row m.nextId).1

/-- One row of a tenant is appended, or it collides and nothing is. -/
theorem insert_single {row : Row} (hTenant : (row.cell table.tenantColumn).isNull = false)
    (m : Memory) :
    (checkUnique table (m.rows table.name) (m.drawn table row) = .ok () ∧
        (m.insert table [row]).1 = .ok [m.drawn table row] ∧
        (m.insert table [row]).2.rows table.name = m.rows table.name ++ [m.drawn table row]) ∨
      ∃ cause, checkUnique table (m.rows table.name) (m.drawn table row) =
          .error (.conflict cause) ∧
        (m.insert table [row]).1 = .error (.conflict cause) ∧
        SameRows m (m.insert table [row]).2 := by
  have hOne : insertOne table row ⟨m.rows table.name, m.nextId⟩ =
      append table row ⟨m.rows table.name, m.nextId⟩ := by
    rw [insertOne, hTenant]
    rfl
  unfold Memory.insert write stageAll
  rw [hOne]
  unfold append checkUnique drawn
  dsimp only
  cases (m.rows table.name).findSome? (collision? table (withId table row m.nextId).1) with
  | none => exact .inl ⟨rfl, rfl, rows_setRows_self m table.name _⟩
  | some key => exact .inr ⟨_, rfl, rfl, fun _ => rfl⟩

end Memory

open Memory

section Stores

variable {ρ : Type} {s : Store ρ} {active : Option TenantId} {tenant : TenantId} {now : Instant}
  {m : Memory}

namespace Store

theorem softDeleteColumn_of_field {field : String} (h : s.softDeleteField = .ok field) :
    ∃ column, s.table.softDeleteColumn = some column ∧ s.columns.column? field = some column := by
  have hResolved := s.resolution.softDeleteColumn
  unfold softDeleteField at h
  split at h
  · rename_i declared hDeclared
    cases h
    rw [hDeclared] at hResolved
    obtain ⟨column, hColumn, hTable⟩ := Except.bind_eq_ok.mp hResolved
    exact ⟨column, (Except.ok.inj hTable).symm, ColumnMap.column_eq_ok_iff.mp hColumn⟩
  · cases h

/-- A patch of one field other than that of the tenant is one assignment. -/
theorem resolvePatch_single (s : Store ρ) {field column : String}
    (hColumn : s.columns.column? field = some column) (hField : field ≠ s.descriptor.tenantField)
    (value : Value) :
    s.resolvePatch (Patch.empty.set field value) = .ok [⟨column, value⟩] := by
  have hAssignments : (Patch.empty.set field value).assignments = [⟨field, value⟩] := rfl
  have hOwn : s.isTenantField field = false := beq_false_of_ne hField
  rw [resolvePatch, hAssignments, List.filter_cons, hOwn]
  simp only [Bool.not_false, if_true, List.filter_nil, List.mapM_cons, List.mapM_nil,
    ColumnMap.column_eq_ok_iff.mpr hColumn]
  rfl

/-- A patch of one field is one assignment, or none if the field is that of the tenant. -/
theorem resolvePatch_set {field column : String} {value : Value} {assignments : List Assignment}
    (hColumn : s.columns.column? field = some column)
    (h : s.resolvePatch (Patch.empty.set field value) = .ok assignments) :
    assignments = [] ∨ assignments = [⟨column, value⟩] := by
  by_cases hField : field = s.descriptor.tenantField
  · have hOwn : s.isTenantField field = true := beq_iff_eq.mpr hField
    have hAssignments : (Patch.empty.set field value).assignments = [⟨field, value⟩] := rfl
    rw [resolvePatch, hAssignments, List.filter_cons, hOwn] at h
    exact .inl (Except.ok.inj h).symm
  · rw [s.resolvePatch_single hColumn hField] at h
    exact .inr (Except.ok.inj h).symm

/-- An update changes the rows at some places as its patch says, or it changes nothing. -/
theorem rows_update (hContext : s.context.reports active = some tenant) (filter : Filter)
    (patch : Patch) (m : Memory) :
    ((World.still active now).run (s.update filter patch) m).2 = m ∨
      ∃ assignments places, s.resolvePatch patch = .ok assignments ∧ assignments ≠ [] ∧
        places.Nodup ∧ ((World.still active now).run (s.update filter patch) m).2 =
          m.setRows s.table.name (changeAt (assign assignments) places (m.rows s.table.name)) := by
  cases hConditions : s.scopeConditions filter with
  | error e =>
    rw [update, run_scope (w := World.still active now) hContext, hConditions]
    exact .inl rfl
  | ok conditions =>
    cases hPatch : s.resolvePatch patch with
    | error e =>
      rw [update, run_scope (w := World.still active now) hContext, hConditions, hPatch]
      exact .inl rfl
    | ok assignments =>
      by_cases hNone : assignments = []
      · rw [update, run_scope (w := World.still active now) hContext, hConditions, hPatch,
          hNone]
        exact .inl rfl
      · rw [run_update (w := World.still active now) hContext hConditions hPatch hNone]
        rcases update_eq s.table tenant conditions assignments m with ⟨e, hUpdate⟩ | hUpdate
        · exact .inl (congrArg Prod.snd hUpdate)
        · exact .inr ⟨assignments, _, rfl, hNone, placesOf_nodup _ _, congrArg Prod.snd hUpdate⟩

/-- A soft deletion marks the rows at some places with its time, or it changes nothing. -/
theorem rows_softDelete (hContext : s.context.reports active = some tenant) (filter : Filter)
    (m : Memory) :
    ((World.still active now).run (s.softDelete filter) m).2 = m ∨
      ∃ column places, s.table.softDeleteColumn = some column ∧ places.Nodup ∧
        ((World.still active now).run (s.softDelete filter) m).2 = m.setRows s.table.name
          (changeAt (fun row => row.insert column (.string (Rfc3339.text now))) places
            (m.rows s.table.name)) := by
  rw [softDelete, run_scope (w := World.still active now) hContext, World.run_bind,
    World.run_ofExcept]
  cases hField : s.softDeleteField with
  | error e => exact .inl rfl
  | ok field =>
    obtain ⟨column, hTable, hColumn⟩ := softDeleteColumn_of_field hField
    simp only [Except.mapError, World.run_bind, World.run_time]
    rcases rows_update hContext (filter.require field .isNull)
      (Patch.empty.set field (.timestamp now)) m with hSame | ⟨_, places, hPatch, hSome, hRows⟩
    · exact .inl hSame
    · rcases resolvePatch_set hColumn hPatch with rfl | rfl
      · exact absurd rfl hSome
      · exact .inr ⟨column, places, hTable, hRows⟩

end Store

/-- A query for a cell in a field, with deleted records, has one condition. -/
theorem Query.selection_ofEq {field column : String}
    (hColumn : s.columns.column? field = some column) (hField : field ≠ s.descriptor.tenantField)
    {cell : Json} (hNull : cell ≠ .null) {limit limit' : Option Nat} :
    Query.selection ⟨s, tenant, .ofEq field (.ofJson cell), [], limit', none, true⟩ limit =
      .ok ⟨[⟨column, .eq (.ofJson cell)⟩], [], limit, none⟩ := by
  have hConditions := s.scopeConditions_ofEq hColumn hField hNull
  simp only [Query.selection, Query.conditions, hConditions, ite_true]
  rfl

namespace Store

/-! ## Insertions of one record -/

/-- The written row has the key of the record in the column of its field. -/
theorem cell_encodeRow {record : ρ} {row : Row} {field column : String} {key : Json}
    (hRow : s.encodeRow tenant record = .ok row) (hColumn : s.columns.column? field = some column)
    (hField : field ≠ s.descriptor.tenantField)
    (hKey : s.fieldValue record field = .ok (some key)) : row.cell column = key ∧ key ≠ .null := by
  obtain ⟨_, -, hKey⟩ := Except.bind_eq_ok.mp hKey
  obtain ⟨cells, hCells, hKey⟩ := Except.bind_eq_ok.mp hKey
  obtain ⟨cells', hCells', hRow⟩ := Except.bind_eq_ok.mp hRow
  cases hCells.symm.trans hCells'
  obtain ⟨hGet, hNull⟩ := Option.filter_eq_some_iff.mp (Except.ok.inj hKey)
  have hNotNull : key.isNull = false := by simpa using hNull
  refine ⟨?_, ?_⟩
  · have hInsert : (cells.insert s.descriptor.tenantField (.string tenant.text)).get? field =
        some key := by rw [Row.get?_insert_of_ne _ _ hField, hGet]
    rw [Row.cell, ColumnMap.get?_toColumns hRow hColumn]
    split
    · rename_i hId
      -- The id is dropped only where it is `null`, and the key is not.
      have hOther : field ≠ s.descriptor.idField := by
        rintro rfl
        rw [Row.cell, hInsert] at hId
        exact absurd hId (by simp [hNotNull])
      rw [Row.get?_erase, if_neg hOther, hInsert]
      rfl
    · rw [hInsert]
      rfl
  · rintro rfl
    cases hNotNull

theorem isNull_tenant {record : ρ} {row : Row} (hRow : s.encodeRow tenant record = .ok row) :
    (row.cell s.table.tenantColumn).isNull = false := by
  have hTenant := encodeRow_carries hRow
  rw [Row.cell, hTenant]
  rfl

/-- The record that an insertion of one record answers. -/
def lastInserted (s : Store ρ) (records : List ρ) : Program ρ ρ :=
  match records.getLast? with
  | some record => pure record
  | none => Program.fail (.database (.insertedNothing s.table.name))

theorem insert_eq (s : Store ρ) (record : ρ) :
    s.insert record = s.insertAll [record] >>= s.lastInserted := rfl

/-- What is left of an insertion when its command is answered. -/
def inserted (s : Store ρ) (answer : Except StoreError (List Row)) : Program ρ ρ :=
  Program.ofExcept answer >>= (fun rows => Program.ofExcept (s.decodeRows rows)) >>= s.lastInserted

theorem awaits_insert (hContext : s.context.reports active = some tenant) {record : ρ} {row : Row}
    (hRow : s.encodeRow tenant record = .ok row) (m : Memory) :
    (World.still active now).Awaits (s.insert record) m (.insert s.table [row]) s.inserted := by
  have hRows : [record].mapM (s.encodeRow tenant) = .ok [row] := by
    rw [List.mapM_cons, hRow]
    rfl
  have hAll : (World.still active now).Awaits (s.insertAll [record]) m (.insert s.table [row])
      fun answer => Program.ofExcept answer >>= fun rows =>
        Program.ofExcept (s.decodeRows rows) := by
    refine World.Awaits.scope (w := World.still active now) hContext "insert" ?_
    change (World.still active now).Awaits
      (Program.ofExcept ([record].mapM (s.encodeRow tenant)) >>= fun rows =>
        Program.send (.insert s.table rows) >>= fun inserted =>
          Program.ofExcept (s.decodeRows inserted)) m _ _
    rw [hRows]
    exact World.Awaits.send (.insert s.table [row]) _
  rw [insert_eq]
  exact hAll.bind s.lastInserted

theorem decodeRows_singleton (s : Store ρ) (row : Row) :
    s.decodeRows [row] = (s.decodeRow row).map ([·]) := by
  rw [decodeRows, List.mapM_cons]
  cases s.decodeRow row <;> rfl

theorem inserted_ok (s : Store ρ) (row : Row) :
    s.inserted (.ok [row]) = Program.ofExcept (s.decodeRow row) := by
  have hInserted : s.inserted (.ok [row]) =
      Program.ofExcept (s.decodeRows [row]) >>= s.lastInserted := rfl
  rw [hInserted, decodeRows_singleton]
  cases s.decodeRow row <;> rfl

end Store

namespace IdempotentWriter

variable {w : IdempotentWriter ρ}

/-- The second insertion of a save. -/
def retry (w : IdempotentWriter ρ) (record : ρ) : Program ρ (Insertion ρ) := do
  pure (.inserted (← w.store.insert record))

/-- A save after it looked for the record that holds its key. -/
def reuse (w : IdempotentWriter ρ) (record : ρ) : Option ρ → Program ρ (Insertion ρ)
  | some existing => pure (.existing existing)
  | none => w.retry record

/-- A save after its first insertion met a conflict. -/
def lookUp (w : IdempotentWriter ρ) (record : ρ) (key : Json) : Program ρ (Insertion ρ) :=
  w.findByKey (.ofJson key) >>= w.reuse record

/-- A save after its first insertion. -/
def settle (w : IdempotentWriter ρ) (record : ρ) (key : Json) :
    Except StoreError ρ → Program ρ (Insertion ρ)
  | .ok inserted => pure (.inserted inserted)
  | .error (.conflict _) => w.lookUp record key
  | .error e => Program.fail e

theorem save_eq {record : ρ} {key : Json}
    (hKey : w.store.fieldValue record w.keyField = .ok (some key)) :
    w.save record = w.store.requireTenant "save_with_idempotency" >>= fun _ =>
      Program.attempt (w.store.insert record) >>= w.settle record key := by
  unfold save
  rw [hKey]
  rfl

/-- How a save ends with a row that it inserted or found. -/
def answered (w : IdempotentWriter ρ) (kind : ρ → Insertion ρ) (row : Row) :
    Except Failure (Insertion ρ) :=
  ((w.store.decodeRow row).map kind).mapError .error

theorem answered_eq_ok {kind : ρ → Insertion ρ} {row : Row} {insertion : Insertion ρ} :
    w.answered kind row = .ok insertion ↔
      ∃ record, w.store.decodeRow row = .ok record ∧ insertion = kind record := by
  unfold answered
  cases w.store.decodeRow row <;> simp [Except.map, Except.mapError, eq_comm]

theorem outcome?_settle (w : IdempotentWriter ρ) (record : ρ) (key : Json) (row : Row) :
    (Program.attempt (Program.ofExcept (w.store.decodeRow row)) >>=
      w.settle record key).outcome? = some (w.answered .inserted row) := by
  unfold answered
  cases hRow : w.store.decodeRow row with
  | ok record => rfl
  | error e =>
    unfold Store.decodeRow Store.decodeJson at hRow
    split at hRow
    · cases hRow
    · cases hRow
      rfl

/-- In a turn that is an insertion the row is written, or it collides and nothing is. -/
theorem turn_insert {record : ρ} {row : Row} (hRow : w.store.encodeRow tenant record = .ok row)
    {p : Program ρ (Insertion ρ)}
    {next : Except StoreError (List Row) → Program ρ (Insertion ρ)}
    (h : (World.still active now).Awaits p m (.insert w.store.table [row]) next) :
    (checkUnique w.store.table (m.rows w.store.table.name) (m.drawn w.store.table row) = .ok () ∧
        ((World.still active now).turn p m).2.rows w.store.table.name =
          m.rows w.store.table.name ++ [m.drawn w.store.table row] ∧
        ((World.still active now).turn p m).1 = next (.ok [m.drawn w.store.table row])) ∨
      ∃ cause, checkUnique w.store.table (m.rows w.store.table.name)
          (m.drawn w.store.table row) = .error (.conflict cause) ∧
        SameRows m ((World.still active now).turn p m).2 ∧
        ((World.still active now).turn p m).1 = next (.error (.conflict cause)) := by
  rw [h.turn]
  simp only [World.still, backend]
  rcases insert_single (Store.isNull_tenant hRow) m with
    ⟨hUnique, hOk, hRows⟩ | ⟨cause, hUnique, hError, hSame⟩
  · exact .inl ⟨hUnique, hRows, congrArg next hOk⟩
  · exact .inr ⟨cause, hUnique, hSame, congrArg next hError⟩

section Turns

variable {record : ρ} {row : Row} {key : Json}
  (hContext : w.store.context.reports active = some tenant)
  (hRow : w.store.encodeRow tenant record = .ok row)

include hContext hRow

theorem awaits_save (hKey : w.store.fieldValue record w.keyField = .ok (some key)) (m : Memory) :
    (World.still active now).Awaits (w.save record) m (.insert w.store.table [row])
      fun answer => (w.store.inserted answer).attempt >>= w.settle record key := by
  rw [save_eq hKey]
  exact World.Awaits.scope (w := World.still active now) hContext _
    ((Store.awaits_insert hContext hRow m).attempt.bind _)

theorem awaits_retry (m : Memory) :
    (World.still active now).Awaits (w.retry record) m (.insert w.store.table [row])
      fun answer => w.store.inserted answer >>= fun inserted => pure (.inserted inserted) :=
  (Store.awaits_insert hContext hRow m).bind _

/-- In its first turn a save inserts the row, or the row collides and is looked for. -/
theorem turn_save (hKey : w.store.fieldValue record w.keyField = .ok (some key)) (m : Memory) :
    (checkUnique w.store.table (m.rows w.store.table.name) (m.drawn w.store.table row) = .ok () ∧
        ((World.still active now).turn (w.save record) m).2.rows w.store.table.name =
          m.rows w.store.table.name ++ [m.drawn w.store.table row] ∧
        ((World.still active now).turn (w.save record) m).1.outcome? =
          some (w.answered .inserted (m.drawn w.store.table row))) ∨
      ∃ cause, checkUnique w.store.table (m.rows w.store.table.name)
          (m.drawn w.store.table row) = .error (.conflict cause) ∧
        SameRows m ((World.still active now).turn (w.save record) m).2 ∧
        ((World.still active now).turn (w.save record) m).1 = w.lookUp record key := by
  rcases turn_insert hRow (awaits_save hContext hRow hKey m) with
    ⟨hUnique, hRows, hNext⟩ | ⟨cause, hUnique, hSame, hNext⟩
  · refine .inl ⟨hUnique, hRows, ?_⟩
    rw [hNext, Store.inserted_ok]
    exact outcome?_settle w record key _
  · exact .inr ⟨cause, hUnique, hSame, hNext⟩

/-- In its last turn a save inserts the row or fails. -/
theorem turn_retry (m : Memory) :
    (checkUnique w.store.table (m.rows w.store.table.name) (m.drawn w.store.table row) = .ok () ∧
        ((World.still active now).turn (w.retry record) m).2.rows w.store.table.name =
          m.rows w.store.table.name ++ [m.drawn w.store.table row] ∧
        ((World.still active now).turn (w.retry record) m).1.outcome? =
          some (w.answered .inserted (m.drawn w.store.table row))) ∨
      ∃ cause, checkUnique w.store.table (m.rows w.store.table.name)
          (m.drawn w.store.table row) = .error (.conflict cause) ∧
        SameRows m ((World.still active now).turn (w.retry record) m).2 ∧
        ((World.still active now).turn (w.retry record) m).1.outcome? =
          some (.error (.error (.conflict cause))) := by
  rcases turn_insert hRow (awaits_retry hContext hRow m) with
    ⟨hUnique, hRows, hNext⟩ | ⟨cause, hUnique, hSame, hNext⟩
  · refine .inl ⟨hUnique, hRows, ?_⟩
    rw [hNext, Store.inserted_ok, answered]
    cases w.store.decodeRow (m.drawn w.store.table row) <;> rfl
  · refine .inr ⟨cause, hUnique, hSame, ?_⟩
    rw [hNext]
    rfl

end Turns

/-! ## The look-up -/

/-- The conditions of the look-up: the key is in its column. -/
def keyConditions (column : String) (key : Json) : List Condition := [⟨column, .eq (.ofJson key)⟩]

section LookUp

variable {column : String} {key : Json} (hContext : w.store.context.reports active = some tenant)
  (hColumn : w.store.columns.column? w.keyField = some column)
  (hField : w.keyField ≠ w.store.descriptor.tenantField) (hNull : key ≠ .null)

include hContext hColumn hField hNull

theorem awaits_findByKey (m : Memory) :
    (World.still active now).Awaits (w.findByKey (.ofJson key)) m
      (.select w.store.table tenant ⟨keyConditions column key, [], some 1, none⟩)
      fun answer => Program.ofExcept answer >>= (fun rows =>
        Program.ofExcept (w.store.decodeRows rows)) >>= fun found => pure found.getLast? := by
  have hFind : w.findByKey (.ofJson key) = w.store.requireTenant "scoped_query" >>= fun tenant =>
      Query.fetchOne ⟨w.store, tenant, .ofEq w.keyField (.ofJson key), [], none, none, true⟩ := by
    rw [findByKey, Store.query, bind_assoc]
    rfl
  rw [hFind]
  refine World.Awaits.scope (w := World.still active now) hContext _ ?_
  rw [Query.fetchOne, Query.selection_ofEq hColumn hField hNull]
  exact (World.Awaits.send (.select w.store.table tenant _) _).bind _

theorem awaits_lookUp (record : ρ) (m : Memory) :
    (World.still active now).Awaits (w.lookUp record key) m
      (.select w.store.table tenant ⟨keyConditions column key, [], some 1, none⟩)
      fun answer => Program.ofExcept answer >>= (fun rows =>
        Program.ofExcept (w.store.decodeRows rows)) >>= (fun found => pure found.getLast?) >>=
          w.reuse record :=
  (awaits_findByKey hContext hColumn hField hNull m).bind _

/-- A look-up changes nothing. It ends with the first row that holds the key; without one the save
goes on to its last turn. -/
theorem turn_lookUp (record : ρ) (m : Memory) :
    ((World.still active now).turn (w.lookUp record key) m).2 = m ∧
      match (m.rows w.store.table.name).find?
          (selects w.store.table tenant (keyConditions column key)) with
      | some row => ((World.still active now).turn (w.lookUp record key) m).1.outcome? =
          some (w.answered .existing row)
      | none => ((World.still active now).turn (w.lookUp record key) m).1 = w.retry record := by
  have hAnswer : m.select w.store.table tenant ⟨keyConditions column key, [], some 1, none⟩ =
      ((m.rows w.store.table.name).find?
        (selects w.store.table tenant (keyConditions column key))).toList := by
    rw [← List.head?_filter, ← List.take_one]
    rfl
  rw [(awaits_lookUp hContext hColumn hField hNull record m).turn]
  refine ⟨rfl, ?_⟩
  simp only [World.still, backend]
  rw [hAnswer]
  cases (m.rows w.store.table.name).find?
      (selects w.store.table tenant (keyConditions column key)) with
  | none => rfl
  | some row =>
    change (Program.ofExcept (w.store.decodeRows [row]) >>= (fun found => pure found.getLast?) >>=
      w.reuse record).outcome? = _
    rw [Store.decodeRows_singleton, answered]
    cases w.store.decodeRow row <;> rfl

end LookUp

end IdempotentWriter

end Stores

end Tenancy
