import Tenancy.Proofs.Backend.Update
import Tenancy.Proofs.Store.Declared
import Tenancy.Proofs.Store.Visibility

/-!
# Soft deletion and restoration

A soft deletion and a count have the same condition that a record is not deleted, but come to it in
different ways: reads have the test added to their command, the deletion adds it to its filter
(`Store.visibleConditions_eq`). So a deletion marks just the rows that a count finds, and there are
none left afterwards. A restoration has the opposite test, and takes off the mark that the deletion
set (`soft_deleted_until_restored`).

What these operations do to a table is said row by row: `Store.markWhere` puts a cell into the
column of the mark in all rows with a property, and `Store.matching` says which rows a filter is
for, read from the fields of the row.
-/

namespace Tenancy

variable {ρ α : Type}

namespace Store

variable {s : Store ρ} {field : String} {active : Option TenantId} {tenant : TenantId}
  {now : Instant} {m : Memory} {f : Filter} {row : Row}

/-! ## Rows that a filter is for -/

/-- The row is the tenant's, and its fields pass all tests of the filter but those of the tenant
field, which make no difference. -/
def matching (s : Store ρ) (tenant : TenantId) (f : Filter) (row : Row) : Bool :=
  Memory.ownedBy s.table tenant row &&
    f.conditions.all fun c => s.isTenantField c.name || c.holds (s.columns.toFields row)

/-- The rows that the filter is for and that do not count as deleted. -/
def matchingLive (s : Store ρ) (tenant : TenantId) (f : Filter) (row : Row) : Bool :=
  s.matching tenant f row && Memory.live s.table row

/-- The rows that the filter is for and that count as deleted. -/
def matchingDeleted (s : Store ρ) (tenant : TenantId) (f : Filter) (row : Row) : Bool :=
  s.matching tenant f row && !Memory.live s.table row

theorem cell_toFields {column : String} (h : s.columns.column? field = some column) (row : Row) :
    (s.columns.toFields row).cell field = row.cell column := by
  rw [Row.cell, ColumnMap.get?_toFields row h, Row.cell]

/-- The conditions on columns select the rows whose fields pass the filter. -/
theorem selects_eq_matching {conditions : List Condition}
    (h : s.scopeConditions f = .ok conditions) (tenant : TenantId) :
    Memory.selects s.table tenant conditions = s.matching tenant f := by
  replace h := Except.mapM_eq_ok.mp h
  funext row
  rw [Memory.selects, matching]
  refine congrArg (_ && ·) ?_
  have hFiltered : (f.conditions.all fun c =>
      s.isTenantField c.name || c.holds (s.columns.toFields row)) =
        (f.conditions.filter (!s.isTenantField ·.name)).all (·.holds (s.columns.toFields row)) := by
    rw [List.all_filter]
    simp only [Bool.not_not]
  rw [hFiltered]
  generalize f.conditions.filter (!s.isTenantField ·.name) = own at h
  induction h with
  | nil => rfl
  | @cons c c' _ _ hFirst _ ih =>
    obtain ⟨column, hColumn, hOk⟩ := Except.bind_eq_ok.mp hFirst
    cases Except.ok.inj hOk
    rw [List.all_cons, List.all_cons, ih, Condition.holds, Condition.holds,
      cell_toFields (ColumnMap.column_eq_ok_iff.mp hColumn)]

theorem exists_scopeConditions (hNames : ∀ c ∈ f.conditions, c.name ∈ s.descriptor.fields) :
    ∃ conditions, s.scopeConditions f = .ok conditions :=
  (s.scopeConditions_checks f).accepts
    (undeclared?_eq_none_iff.mpr (List.forall_mem_map.mpr hNames))

theorem matching_require (tenant : TenantId) (f : Filter) (test : Test) (row : Row) :
    s.matching tenant (f.require field test) row = (s.matching tenant f row &&
      (s.isTenantField field || test.normalized.holds ((s.columns.toFields row).cell field))) := by
  simp only [matching, Filter.require, List.all_append, List.all_cons, List.all_nil, Bool.and_true,
    Bool.and_assoc, Condition.holds]

/-! ## Marks -/

/-- The field marks records as deleted. It is neither the id nor the tenant, and in no key. -/
structure Marks (s : Store ρ) (field : String) : Prop where
  declared : s.descriptor.softDeleteField = some field
  ne_id : field ≠ s.descriptor.idField
  ne_tenant : field ≠ s.descriptor.tenantField
  not_mem_key : ∀ key ∈ s.descriptor.uniqueKeys, field ∉ key

/-- The row with this cell in the column of the mark. -/
def withMark (s : Store ρ) (cell : Json) (row : Row) : Row :=
  match s.table.softDeleteColumn with
  | some column => row.insert column cell
  | none => row

/-- The table with this cell in the column of the mark of all rows with the property. -/
def markWhere (s : Store ρ) (p : Row → Bool) (cell : Json) (m : Memory) : Memory :=
  m.setRows s.table.name
    ((m.rows s.table.name).map fun row => if p row then s.withMark cell row else row)

@[simp] theorem rows_markWhere (p : Row → Bool) (cell : Json) (m : Memory) :
    (s.markWhere p cell m).rows s.table.name =
      (m.rows s.table.name).map fun row => if p row then s.withMark cell row else row :=
  Memory.rows_setRows_self m _ _

/-- Marks of rows that are not there change nothing. -/
theorem markWhere_none {p q : Row → Bool} {cell cell' : Json}
    (h : ∀ row ∈ (s.markWhere p cell m).rows s.table.name, q row = false) :
    s.markWhere q cell' (s.markWhere p cell m) = s.markWhere p cell m := by
  have hRows : ((s.markWhere p cell m).rows s.table.name).map
      (fun row => if q row then s.withMark cell' row else row) =
        (s.markWhere p cell m).rows s.table.name := by
    refine List.map_congr_left (fun row hRow => ?_) |>.trans (List.map_id _)
    rw [h row hRow]
    rfl
  rw [markWhere, hRows, rows_markWhere]
  exact m.setRows_setRows _ _ _

namespace Marks

variable (hMarks : s.Marks field)
include hMarks

theorem exists_column : ∃ column, s.table.softDeleteColumn = some column ∧
    s.columns.column? field = some column :=
  softDeleteColumn_of_field (softDeleteField_declared hMarks.declared).1

theorem isTenantField_eq : s.isTenantField field = false := beq_false_of_ne hMarks.ne_tenant

/-- The mark is in no key. -/
theorem keepsKeys (cell : Json) : Memory.KeepsKeys s.table (s.withMark cell) := by
  obtain ⟨column, hTable, hColumn⟩ := hMarks.exists_column
  intro row key hKey other hOther
  have hNotKey := s.resolution.column_not_mem_key hColumn hMarks.ne_id hMarks.not_mem_key key hKey
  rw [withMark, hTable]
  exact Row.cell_insert_of_ne row cell fun hEq => hNotKey (hEq ▸ hOther)

theorem keysApart_markWhere (h : Memory.KeysApart s.table (m.rows s.table.name))
    (p : Row → Bool) (cell : Json) :
    Memory.KeysApart s.table ((s.markWhere p cell m).rows s.table.name) := by
  have hKeep : Memory.KeepsKeys s.table fun row => if p row then s.withMark cell row else row := by
    intro row key hKey column hColumn
    dsimp only
    split
    · exact hMarks.keepsKeys cell row key hKey column hColumn
    · rfl
  rw [rows_markWhere, Memory.KeysApart, List.pairwise_map]
  exact h.imp fun hApart => (hKeep.apart_iff hKeep).mpr hApart

theorem live_withMark (cell : Json) (row : Row) :
    Memory.live s.table (s.withMark cell row) = cell.isNull := by
  obtain ⟨column, hTable, -⟩ := hMarks.exists_column
  simp only [Memory.live, withMark, hTable, Option.all_some, Row.cell_insert_self]

/-- A filter that does not name the mark is for the same rows, whatever the mark is. -/
theorem matching_withMark (hFilter : ∀ c ∈ f.conditions, c.name ≠ field) (tenant : TenantId)
    (cell : Json) (row : Row) :
    s.matching tenant f (s.withMark cell row) = s.matching tenant f row := by
  obtain ⟨column, hTable, hColumn⟩ := hMarks.exists_column
  have hOwned : (row.insert column cell).cell s.table.tenantColumn =
      row.cell s.table.tenantColumn :=
    Row.cell_insert_of_ne row cell
      (ColumnMap.column?_ne s.resolution.tenantColumn hColumn hMarks.ne_tenant.symm)
  rw [matching, matching, withMark, hTable, Memory.ownedBy, Memory.ownedBy, hOwned,
    ColumnMap.toFields_insert row hColumn]
  refine congrArg (_ && ·) ?_
  rw [Bool.eq_iff_iff, List.all_eq_true, List.all_eq_true]
  refine forall₂_congr fun c hc => ?_
  rw [Condition.holds, Condition.holds, Row.cell_insert_of_ne _ _ (hFilter c hc)]

/-- What a filter is for with the condition that the row is not deleted, or that it is. -/
theorem matching_require_mark (tenant : TenantId) (f : Filter) :
    s.matching tenant (f.require field .isNull) = s.matchingLive tenant f ∧
      s.matching tenant (f.require field .isNotNull) = s.matchingDeleted tenant f := by
  obtain ⟨column, hTable, hColumn⟩ := hMarks.exists_column
  have hLive : ∀ row, Memory.live s.table row = (row.cell column).isNull := by
    simp only [Memory.live, hTable, Option.all_some, implies_true]
  have hRequire : ∀ (test : Test) (row : Row), s.matching tenant (f.require field test) row =
      (s.matching tenant f row && test.normalized.holds (row.cell column)) := by
    intro test row
    rw [matching_require, hMarks.isTenantField_eq, cell_toFields hColumn, Bool.false_or]
  refine ⟨funext fun row => ?_, funext fun row => ?_⟩
  · rw [hRequire, matchingLive, hLive]
    rfl
  · rw [hRequire, matchingDeleted, hLive]
    rfl

/-- Reads come to the condition that a record is not deleted as if the filter required it. -/
theorem visibleConditions_eq (f : Filter) :
    s.visibleConditions f = s.scopeConditions (f.require field .isNull) := by
  obtain ⟨column, hTable, hColumn⟩ := hMarks.exists_column
  have hOk : s.columns.column field = .ok column := ColumnMap.column_eq_ok_iff.mpr hColumn
  rw [visibleConditions, hTable, scopeConditions, scopeConditions, Filter.require,
    List.filter_append, List.mapM_append, List.filter_cons, hMarks.isTenantField_eq]
  simp only [Bool.not_false, if_true, List.filter_nil, List.mapM_cons, List.mapM_nil, hOk]
  rfl

/-! ## Runs -/

theorem names_require (hNames : ∀ c ∈ f.conditions, c.name ∈ s.descriptor.fields) (test : Test) :
    ∀ c ∈ (f.require field test).conditions, c.name ∈ s.descriptor.fields := by
  rw [Filter.require, List.forall_mem_append, List.forall_mem_singleton]
  exact ⟨hNames, (softDeleteField_declared hMarks.declared).2⟩

section Runs

variable (hContext : s.context.reports active = some tenant)
  (hNames : ∀ c ∈ f.conditions, c.name ∈ s.descriptor.fields)
include hContext hNames

theorem run_count (m : Memory) :
    (World.still active now).run (s.count f) m =
      (.ok ((m.rows s.table.name).countP (s.matchingLive tenant f)), m) := by
  obtain ⟨conditions, hConditions⟩ := exists_scopeConditions (hMarks.names_require hNames .isNull)
  rw [count, run_scope (w := World.still active now) hContext, hMarks.visibleConditions_eq,
    hConditions, ← (hMarks.matching_require_mark tenant f).1, ← selects_eq_matching hConditions]
  rfl

/-- An update that sets the mark changes just the rows that its filter is for. -/
theorem run_mark (hApart : Memory.KeysApart s.table (m.rows s.table.name)) (value : Value) :
    (World.still active now).run (s.update f (Patch.empty.set field value)) m =
      (.ok ((m.rows s.table.name).countP (s.matching tenant f)),
        s.markWhere (s.matching tenant f) value.toJson m) := by
  obtain ⟨column, hTable, hColumn⟩ := hMarks.exists_column
  obtain ⟨conditions, hConditions⟩ := exists_scopeConditions hNames
  have hMark : ∀ row, row.overlay (Memory.assigned [⟨column, value⟩]) =
      s.withMark value.toJson row := by
    intro row
    rw [← Memory.assign_eq_overlay, withMark, hTable]
    rfl
  have hOverlaid : Memory.overlaid s.table tenant conditions [⟨column, value⟩]
      (m.rows s.table.name) =
        (s.markWhere (s.matching tenant f) value.toJson m).rows s.table.name := by
    simp only [Memory.overlaid, rows_markWhere, hMark, selects_eq_matching hConditions]
  rw [run_update (w := World.still active now) hContext hConditions
    (s.resolvePatch_single hColumn hMarks.ne_tenant value) (List.cons_ne_nil _ _)]
  simp only [World.still, Memory.backend]
  -- Marks keep the rows apart, so none is refused.
  rcases Memory.update_outcome hApart tenant conditions [⟨column, value⟩] with
    ⟨-, hUpdate⟩ | ⟨hCollides, -⟩
  · rw [hUpdate, hOverlaid, rows_markWhere, selects_eq_matching hConditions,
      List.countP_eq_length_filter]
    exact Prod.ext (congrArg Except.ok (List.length_map _)) rfl
  · rw [hOverlaid] at hCollides
    exact absurd (hMarks.keysApart_markWhere hApart _ _) hCollides

/-- A soft deletion marks just the rows that a count finds. -/
theorem run_softDelete (hApart : Memory.KeysApart s.table (m.rows s.table.name)) :
    (World.still active now).run (s.softDelete f) m =
      (.ok ((m.rows s.table.name).countP (s.matchingLive tenant f)),
        s.markWhere (s.matchingLive tenant f) (Value.timestamp now).toJson m) := by
  rw [softDelete, run_scope (w := World.still active now) hContext,
    (softDeleteField_declared hMarks.declared).1, ← (hMarks.matching_require_mark tenant f).1]
  exact hMarks.run_mark hContext (hMarks.names_require hNames _) hApart _

/-- A restoration takes the mark off just the rows that have one. -/
theorem run_restore (hApart : Memory.KeysApart s.table (m.rows s.table.name)) :
    (World.still active now).run (s.restore f) m =
      (.ok ((m.rows s.table.name).countP (s.matchingDeleted tenant f)),
        s.markWhere (s.matchingDeleted tenant f) .null m) := by
  rw [restore, run_scope (w := World.still active now) hContext,
    (softDeleteField_declared hMarks.declared).1, ← (hMarks.matching_require_mark tenant f).2]
  exact hMarks.run_mark hContext (hMarks.names_require hNames _) hApart .null

end Runs

/-! ## Rows after a deletion and after a restoration -/

/-- Once the rows that are not deleted are marked, there are none left. -/
theorem matchingLive_after_deletion (tenant : TenantId) (f : Filter) {cell : Json}
    (hCell : cell.isNull = false) (m : Memory) :
    ∀ row ∈ (s.markWhere (s.matchingLive tenant f) cell m).rows s.table.name,
      s.matchingLive tenant f row = false := by
  intro row hRow
  rw [rows_markWhere] at hRow
  obtain ⟨old, -, rfl⟩ := List.mem_map.mp hRow
  split
  · rw [matchingLive, hMarks.live_withMark, hCell, Bool.and_false]
  · rename_i hNot
    exact Bool.eq_false_of_not_eq_true hNot

/-- Once the mark is taken off the deleted rows, none of them is deleted. -/
theorem live_after_restoration (tenant : TenantId) (f : Filter) (m : Memory) :
    ∀ row ∈ (s.markWhere (s.matchingDeleted tenant f) .null m).rows s.table.name,
      s.matching tenant f row → Memory.live s.table row := by
  intro row hRow hMatching
  rw [rows_markWhere] at hRow
  obtain ⟨old, -, rfl⟩ := List.mem_map.mp hRow
  split at hMatching
  · rename_i hDeleted
    rw [if_pos hDeleted, hMarks.live_withMark]
    rfl
  · rename_i hNot
    rw [if_neg hNot]
    simpa [matchingDeleted, hMatching] using hNot

/-- Marks do not change how many rows a filter is for that does not name them. -/
theorem countP_markWhere (hFilter : ∀ c ∈ f.conditions, c.name ≠ field) (tenant : TenantId)
    (p : Row → Bool) (cell : Json) (m : Memory) :
    ((s.markWhere p cell m).rows s.table.name).countP (s.matching tenant f) =
      (m.rows s.table.name).countP (s.matching tenant f) := by
  rw [rows_markWhere, List.countP_map]
  refine List.countP_congr fun row _ => ?_
  rw [Function.comp_apply]
  split
  · rw [hMarks.matching_withMark hFilter]
  · rfl

end Marks

end Store

/-- **Deleted records are hidden until they are restored.** Let a field mark records as deleted that
is neither the id nor the tenant and in no key, in a table without collisions, and let a filter name
declared fields. Of the rows of the tenant that the filter is for,
1. a soft deletion marks those that are not deleted with its time, changes nothing else, and answers
how many they are, as a count does before;
2. then a count finds none, and a second deletion answers zero and changes nothing;
3. if the filter does not name the mark, a restoration then takes it off all those that are deleted,
changes nothing else, and answers how many they were; all of them are visible then, and counted.
4. In any tables, a read that does not ask for deleted records, or a claim of a queue without a role
for the mark, has the outcome that it has without the deleted rows, and each of its records is that
of a row that is not deleted. -/
theorem soft_deleted_until_restored {s : Store ρ} {field : String} (hMarks : s.Marks field)
    {active : Option TenantId} {tenant : TenantId}
    (hContext : s.context.reports active = some tenant) {m : Memory}
    (hApart : Memory.KeysApart s.table (m.rows s.table.name)) {f : Filter}
    (hNames : ∀ c ∈ f.conditions, c.name ∈ s.descriptor.fields) (now : Instant) :
    let n := (m.rows s.table.name).countP (s.matchingLive tenant f)
    let deleted := s.markWhere (s.matchingLive tenant f) (Value.timestamp now).toJson m
    let restored := s.markWhere (s.matchingDeleted tenant f) .null deleted
    ((World.still active now).run (s.count f) m = (.ok n, m) ∧
      (World.still active now).run (s.softDelete f) m = (.ok n, deleted)) ∧
    (∀ later, (World.still active later).run (s.count f) deleted = (.ok 0, deleted) ∧
      (World.still active later).run (s.softDelete f) deleted = (.ok 0, deleted)) ∧
    ((∀ c ∈ f.conditions, c.name ≠ field) → ∀ later,
      (World.still active later).run (s.restore f) deleted =
          (.ok ((deleted.rows s.table.name).countP (s.matchingDeleted tenant f)), restored) ∧
        (∀ row ∈ restored.rows s.table.name, s.matching tenant f row → s.Visible row) ∧
        (World.still active later).run (s.count f) restored =
          (.ok ((m.rows s.table.name).countP (s.matching tenant f)), restored)) ∧
    ∀ {α : Type} (op : Operation ρ α), op.store = s → op.HidesDeleted → ∀ active now m,
      ((World.still active now).run op.program m).1 =
          ((World.still active now).run op.program (m.purged s.table)).1 ∧
        ∀ a, ((World.still active now).run op.program m).1 = .ok a →
          ∀ record ∈ op.records a, s.Shows record := by
  intro n deleted restored
  have hNone : ∀ row ∈ deleted.rows s.table.name, s.matchingLive tenant f row = false :=
    hMarks.matchingLive_after_deletion tenant f rfl m
  have hZero : (deleted.rows s.table.name).countP (s.matchingLive tenant f) = 0 :=
    List.countP_eq_zero.mpr fun row hRow => by simp [hNone row hRow]
  have hApartAfter : Memory.KeysApart s.table (deleted.rows s.table.name) :=
    hMarks.keysApart_markWhere hApart _ _
  have hRestored : ∀ row ∈ restored.rows s.table.name, s.matching tenant f row →
      Memory.live s.table row := hMarks.live_after_restoration tenant f deleted
  refine ⟨⟨hMarks.run_count hContext hNames m, hMarks.run_softDelete hContext hNames hApart⟩,
    fun later => ⟨?_, ?_⟩, fun hFilter later => ⟨?_, ?_, ?_⟩, ?_⟩
  · rw [hMarks.run_count hContext hNames, hZero]
  · rw [hMarks.run_softDelete hContext hNames hApartAfter, hZero]
    exact congrArg _ (Store.markWhere_none hNone)
  · exact hMarks.run_restore hContext hNames hApartAfter
  · exact fun row hRow hMatching => Store.visible_iff.mpr (hRestored row hRow hMatching)
  · rw [hMarks.run_count hContext hNames,
      ← hMarks.countP_markWhere hFilter tenant (s.matchingLive tenant f) _ m,
      ← hMarks.countP_markWhere hFilter tenant (s.matchingDeleted tenant f) .null deleted]
    refine congrArg (Except.ok ·, restored) (List.countP_congr fun row hRow => ?_)
    rw [Store.matchingLive, Bool.and_eq_true]
    exact ⟨And.left, fun hMatching => ⟨hMatching, hRestored row hRow hMatching⟩⟩
  · rintro α op rfl hOp active now m
    exact hOp.run active now (Memory.sameLive_purged _ m)

namespace Jobs

/-- Of two jobs that wait one is deleted already. The other one is deleted, and then there is none
that waits; both of them are restored. -/
theorem jobs_deleted_and_restored :
    let s := discarding.store
    let f : Filter := .ofEq "status" (.text "PENDING")
    let m : Memory :=
      ⟨[("jobs", [waiting "a", (waiting "b").insert "claimed_at" (.string "yesterday")])], 1⟩
    let world : World Memory Json := .still (some tenant) epoch
    let deleted := (world.run (s.softDelete f) m).2
    s.Marks "claimed_at" ∧ Memory.KeysApart s.table (m.rows "jobs") ∧
      (world.run (s.count f) m).1 = .ok 1 ∧ (world.run (s.softDelete f) m).1 = .ok 1 ∧
      (world.run (s.count f) deleted).1 = .ok 0 ∧
      (world.run (s.restore f) deleted).1 = .ok 2 ∧
      (world.run (s.find f) deleted).1 =
        (world.run (s.find f) (deleted.purged s.table)).1 := by
  intro s f m world deleted
  have hMarks : s.Marks "claimed_at" := ⟨rfl, by decide, by decide, by decide⟩
  have hApart : Memory.KeysApart s.table (m.rows s.table.name) := by decide +kernel
  have hNames : ∀ c ∈ f.conditions, c.name ∈ s.descriptor.fields := by decide
  have hFilter : ∀ c ∈ f.conditions, c.name ≠ "claimed_at" := by decide
  have hContext : s.context.reports (some tenant) = some tenant := rfl
  obtain ⟨⟨hCount, hDelete⟩, hAgain, hRestore, hHidden⟩ :=
    soft_deleted_until_restored hMarks hContext hApart hNames epoch
  have hDeleted : deleted = _ := congrArg Prod.snd hDelete
  refine ⟨hMarks, hApart, congrArg Prod.fst hCount, congrArg Prod.fst hDelete, ?_, ?_,
    (hHidden (.find s f) rfl trivial _ _ _).1⟩
  · rw [hDeleted, (hAgain epoch).1]
  · rw [hDeleted, (hRestore hFilter epoch).1]
    rfl

end Jobs

end Tenancy
