import Mathlib.Data.List.Forall2
import Mathlib.Data.List.Nodup
import Tenancy.Queue.Roles
import Tenancy.Schema.Table

/-!
# Fields and columns are one to one

What acceptance of a descriptor gives to everything above it: the columns that its roles have
(`Descriptor.Resolved`), that no two fields share a column (`ColumnMap.column?_inj`), and how the
cells of a record and of its row correspond (`ColumnMap.get?_toColumns`,
`ColumnMap.get?_toFields`). A record that is renamed to columns and back is the same record
(`ColumnMap.toFields_toColumns`).
-/

namespace Tenancy

/-! ## Successful computations -/

variable {ε α β : Type}

theorem Except.bind_eq_ok {x : Except ε α} {f : α → Except ε β} {b : β} :
    x >>= f = .ok b ↔ ∃ a, x = .ok a ∧ f a = .ok b := by
  cases x <;> simp [bind, Except.bind]

theorem Except.bind_eq_error {x : Except ε α} {f : α → Except ε β} {e : ε} :
    x >>= f = .error e ↔ x = .error e ∨ ∃ a, x = .ok a ∧ f a = .error e := by
  cases x <;> simp [bind, Except.bind]

/-- A list of computations succeeds if each of them does. -/
theorem Except.mapM_eq_ok {f : α → Except ε β} {xs : List α} {ys : List β} :
    xs.mapM f = .ok ys ↔ List.Forall₂ (fun x y => f x = .ok y) xs ys := by
  induction xs generalizing ys with
  | nil =>
    rw [List.mapM_nil, List.forall₂_nil_left_iff]
    exact ⟨fun h => (Except.ok.inj h).symm, fun h => h ▸ rfl⟩
  | cons x xs ih =>
    rw [List.mapM_cons, List.forall₂_cons_left_iff, Except.bind_eq_ok]
    constructor
    · rintro ⟨y, hy, h⟩
      obtain ⟨ys', hys, h⟩ := Except.bind_eq_ok.mp h
      exact ⟨y, ys', hy, ih.mp hys, (Except.ok.inj h).symm⟩
    · rintro ⟨y, ys', hy, hys, rfl⟩
      exact ⟨y, hy, Except.bind_eq_ok.mpr ⟨ys', ih.mpr hys, rfl⟩⟩

theorem Except.exists_mapM {f : α → Except ε β} {xs : List α}
    (h : ∀ x ∈ xs, ∃ y, f x = .ok y) : ∃ ys, xs.mapM f = .ok ys := by
  induction xs with
  | nil => exact ⟨[], rfl⟩
  | cons x xs ih =>
    obtain ⟨y, hy⟩ := h x List.mem_cons_self
    obtain ⟨ys, hys⟩ := ih fun z hz => h z (List.mem_cons_of_mem _ hz)
    exact ⟨y :: ys, Except.mapM_eq_ok.mpr (.cons hy (Except.mapM_eq_ok.mp hys))⟩

/-- A list of computations fails with the failure of one of them. -/
theorem Except.exists_of_mapM_error {f : α → Except ε β} {xs : List α} {e : ε}
    (h : xs.mapM f = .error e) : ∃ x ∈ xs, f x = .error e := by
  induction xs with
  | nil => cases h
  | cons x xs ih =>
    rw [List.mapM_cons] at h
    rcases Except.bind_eq_error.mp h with hFirst | ⟨y, -, h⟩
    · exact ⟨x, List.mem_cons_self, hFirst⟩
    · rcases Except.bind_eq_error.mp h with hRest | ⟨ys, -, h⟩
      · obtain ⟨z, hz, hFails⟩ := ih hRest
        exact ⟨z, List.mem_cons_of_mem _ hz, hFails⟩
      · cases h

/-- An element at the end counts if it did not occur before. -/
theorem eraseDups_concat [BEq α] [LawfulBEq α] (xs : List α) (a : α) :
    (xs ++ [a]).eraseDups = if a ∈ xs then xs.eraseDups else xs.eraseDups ++ [a] := by
  rw [List.eraseDups_append]
  by_cases h : a ∈ xs <;> simp [List.removeAll, h, List.eraseDups_cons]

theorem exists_left_of_mem {R : α → β → Prop} {xs : List α} {ys : List β}
    (h : List.Forall₂ R xs ys) {y : β} (hy : y ∈ ys) : ∃ x ∈ xs, R x y := by
  induction h with
  | nil => cases hy
  | @cons x z xs zs hz hzs ih =>
    rcases List.mem_cons.mp hy with rfl | hy
    · exact ⟨x, List.mem_cons_self, hz⟩
    · obtain ⟨x', hx', hR⟩ := ih hy
      exact ⟨x', List.mem_cons_of_mem _ hx', hR⟩

/-- The results are those of the members. -/
theorem Except.mem_mapM {f : α → Except ε β} {xs : List α} {ys : List β}
    (h : xs.mapM f = .ok ys) {y : β} : y ∈ ys ↔ ∃ x ∈ xs, f x = .ok y := by
  have hAll := Except.mapM_eq_ok.mp h
  constructor
  · exact exists_left_of_mem hAll
  · rintro ⟨x, hx, hf⟩
    obtain ⟨z, hz, hEq⟩ := exists_left_of_mem hAll.flip hx
    exact Except.ok.inj (hEq.symm.trans hf) ▸ hz

theorem Except.some_of_mapM {f : α → Except ε β} {o : Option α} {y : β}
    (h : o.mapM f = .ok (some y)) : ∃ x, o = some x ∧ f x = .ok y := by
  cases o with
  | none => cases h
  | some x =>
    obtain ⟨z, hz, h⟩ := Except.bind_eq_ok.mp h
    cases Except.ok.inj h
    exact ⟨x, rfl, hz⟩

theorem Except.mapM_some {f : α → Except ε β} {x : α} {o : Option β}
    (h : (some x).mapM f = .ok o) : ∃ y, o = some y ∧ f x = .ok y := by
  obtain ⟨y, hy, h⟩ := Except.bind_eq_ok.mp h
  cases Except.ok.inj h
  exact ⟨y, rfl, hy⟩

/-! ## Rows of entries with distinct names -/

namespace Row

theorem lookup_eq_some_iff {entries : List (String × Json)} (h : (entries.map (·.1)).Nodup)
    {name : String} {cell : Json} :
    entries.lookup name = some cell ↔ (name, cell) ∈ entries := by
  induction entries with
  | nil => simp
  | cons e rest ih =>
    obtain ⟨j, v⟩ := e
    obtain ⟨hj, hRest⟩ := List.nodup_cons.mp h
    rw [lookup_cons_entry, List.mem_cons]
    by_cases hName : name = j
    · subst hName
      have hAbsent : (name, cell) ∉ rest := fun hMem => hj (List.mem_map.mpr ⟨_, hMem, rfl⟩)
      simp [hAbsent, eq_comm]
    · simp [hName, ih hRest]

/-- A cell of a row of entries with distinct names is that of the entry. -/
theorem get?_ofEntries {entries : List (String × Json)} (h : (entries.map (·.1)).Nodup)
    (name : String) : (ofEntries entries).get? name = entries.lookup name := by
  suffices hAll : ∀ row : Row,
      (row.insertAll entries).get? name = (entries.lookup name).or (row.get? name) by
    simpa [ofEntries] using hAll empty
  induction entries with
  | nil => simp [insertAll]
  | cons e rest ih =>
    intro row
    obtain ⟨j, v⟩ := e
    obtain ⟨hj, hRest⟩ := List.nodup_cons.mp h
    have step : (row.insertAll ((j, v) :: rest)).get? name =
        (rest.lookup name).or ((row.insert j v).get? name) := ih hRest (row.insert j v)
    rw [step, get?_insert, lookup_cons_entry]
    by_cases hName : name = j
    · subst hName
      have hAbsent : rest.lookup name = none := by
        rw [List.lookup_eq_none_iff]
        intro e he
        exact bne_iff_ne.mpr fun hEq => hj (List.mem_map.mpr ⟨e, he, hEq.symm⟩)
      simp [hAbsent]
    · simp [hName]

theorem names_nodup (row : Row) : (row.entries.map (·.1)).Nodup :=
  (List.pairwise_map.mpr (row.sorted.imp fun h => String.ne_of_lt h))

theorem get?_eq_some_iff {row : Row} {name : String} {cell : Json} :
    row.get? name = some cell ↔ (name, cell) ∈ row.entries :=
  lookup_eq_some_iff row.names_nodup

theorem ext_get? {row row' : Row} (h : ∀ name, row.get? name = row'.get? name) : row = row' := by
  have hMem : ∀ e, e ∈ row.entries ↔ e ∈ row'.entries := by
    rintro ⟨name, cell⟩
    rw [← get?_eq_some_iff, h, get?_eq_some_iff]
  have hAsymm : ∀ a b : String × Json, a.1 < b.1 → b.1 < a.1 → a = b :=
    fun a b hab hba => absurd (String.lt_trans hab hba) (String.lt_irrefl _)
  have hPerm : row.entries.Perm row'.entries :=
    (List.perm_ext_iff_of_nodup (row.names_nodup.of_map _) (row'.names_nodup.of_map _)).mpr hMem
  obtain ⟨entries, hSorted⟩ := row
  obtain ⟨entries', hSorted'⟩ := row'
  have hEq : entries = entries' :=
    hPerm.eq_of_pairwise (fun a b _ _ => hAsymm a b) hSorted hSorted'
  subst hEq
  rfl

/-- A row is the row of its own entries. -/
@[simp] theorem ofEntries_entries (row : Row) : ofEntries row.entries = row :=
  ext_get? fun name => get?_ofEntries row.names_nodup name

theorem get?_insertAll_of_not_mem {entries : List (String × Json)} {name : String}
    (h : ∀ e ∈ entries, e.1 ≠ name) (row : Row) :
    (row.insertAll entries).get? name = row.get? name := by
  induction entries generalizing row with
  | nil => rfl
  | cons e rest ih =>
    have hRest := ih (fun e he => h e (List.mem_cons_of_mem _ he)) (row.insert e.1 e.2)
    exact hRest.trans (get?_insert_of_ne row e.2 (h e List.mem_cons_self).symm)

end Row

/-! ## Column maps -/

/-- With distinct keys, the first member with a key is the only one. -/
theorem find?_key_eq_some_iff [DecidableEq β] {key : α → β} {xs : List α}
    (h : (xs.map key).Nodup) {b : β} {x : α} :
    xs.find? (key · = b) = some x ↔ x ∈ xs ∧ key x = b := by
  constructor
  · intro hFound
    exact ⟨List.mem_of_find?_eq_some hFound, by simpa using List.find?_some hFound⟩
  · rintro ⟨hx, rfl⟩
    cases hFound : xs.find? (key · = key x) with
    | none => simpa using List.find?_eq_none.mp hFound x hx
    | some y =>
      have hKey : key y = key x := by simpa using List.find?_some hFound
      have hSame := List.inj_on_of_nodup_map h (List.mem_of_find?_eq_some hFound) hx hKey
      rw [hSame]

namespace ColumnMap

variable {m : ColumnMap}

theorem column_eq_ok_iff {field column : String} :
    m.column field = .ok column ↔ m.column? field = some column := by
  unfold ColumnMap.column
  cases m.column? field <;> simp

theorem column?_eq_some_iff {field column : String} :
    m.column? field = some column ↔ ⟨field, column⟩ ∈ m.pairs := by
  rw [column?, Option.map_eq_some_iff]
  constructor
  · rintro ⟨pair, hFound, rfl⟩
    obtain ⟨hPair, rfl⟩ := (find?_key_eq_some_iff m.fields_nodup).mp hFound
    exact hPair
  · intro hPair
    exact ⟨_, (find?_key_eq_some_iff m.fields_nodup).mpr ⟨hPair, rfl⟩, rfl⟩

/-- Fields and columns are looked up both ways. -/
theorem field?_eq_some_iff {field column : String} :
    m.field? column = some field ↔ m.column? field = some column := by
  rw [column?_eq_some_iff, field?, Option.map_eq_some_iff]
  constructor
  · rintro ⟨pair, hFound, rfl⟩
    obtain ⟨hPair, rfl⟩ := (find?_key_eq_some_iff m.columns_nodup).mp hFound
    exact hPair
  · intro hPair
    exact ⟨_, (find?_key_eq_some_iff m.columns_nodup).mpr ⟨hPair, rfl⟩, rfl⟩

/-- No two fields share a column. -/
theorem column?_inj {f g column : String} (hf : m.column? f = some column)
    (hg : m.column? g = some column) : f = g := by
  have hPair := List.inj_on_of_nodup_map m.columns_nodup (column?_eq_some_iff.mp hf)
    (column?_eq_some_iff.mp hg) rfl
  exact congrArg FieldColumn.field hPair

/-- Columns of different fields differ. -/
theorem column?_ne {f g c d : String} (hf : m.column? f = some c) (hg : m.column? g = some d)
    (hne : f ≠ g) : c ≠ d := by
  rintro rfl
  exact hne (column?_inj hf hg)

/-- Distinct names stay distinct when fields become columns. -/
theorem columns_nodup_of_fields {field : α → String} {column : β → String} {xs : List α}
    {ys : List β} (h : List.Forall₂ (fun x y => m.column? (field x) = some (column y)) xs ys)
    (hNames : (xs.map field).Nodup) : (ys.map column).Nodup := by
  rw [List.nodup_iff_pairwise_ne, List.pairwise_map] at hNames ⊢
  induction h with
  | nil => exact .nil
  | @cons x y rest rest' hxy hRest ih =>
    obtain ⟨hFirst, hNames⟩ := List.pairwise_cons.mp hNames
    refine List.pairwise_cons.mpr ⟨?_, ih hNames⟩
    intro z' hz'
    obtain ⟨z, hz, hColumn⟩ := exists_left_of_mem hRest hz'
    exact column?_ne hxy hColumn (hFirst z hz)

/-- What becomes of one cell of a record. -/
theorem renamed_eq_ok_iff (m : ColumnMap) (e e' : String × Json) :
    (do pure (← m.column e.1, e.2) : Except StoreError (String × Json)) = .ok e' ↔
      m.column? e.1 = some e'.1 ∧ e.2 = e'.2 := by
  rw [Except.bind_eq_ok]
  constructor
  · rintro ⟨column, hColumn, he⟩
    cases Except.ok.inj he
    exact ⟨column_eq_ok_iff.mp hColumn, rfl⟩
  · rintro ⟨hColumn, he⟩
    exact ⟨e'.1, column_eq_ok_iff.mpr hColumn, congrArg (fun cell => Except.ok (e'.1, cell)) he⟩

/-- A cell of the row of a record is the cell of the field. -/
theorem get?_toColumns {record row : Row} (h : m.toColumns record = .ok row)
    {field column : String} (hColumn : m.column? field = some column) :
    row.get? column = record.get? field := by
  obtain ⟨entries, hEntries, h⟩ := Except.bind_eq_ok.mp h
  cases Except.ok.inj h
  have hNodup : (entries.map (·.1)).Nodup :=
    columns_nodup_of_fields ((Except.mapM_eq_ok.mp hEntries).imp fun e e' he =>
      ((renamed_eq_ok_iff m e e').mp he).1) record.names_nodup
  ext cell
  rw [Row.get?_ofEntries hNodup, Row.lookup_eq_some_iff hNodup, Row.get?_eq_some_iff,
    Except.mem_mapM hEntries]
  constructor
  · rintro ⟨e, he, hCell⟩
    obtain ⟨hc, hv⟩ := (renamed_eq_ok_iff m e _).mp hCell
    have hField : e = (field, cell) := Prod.ext (column?_inj hc hColumn) hv
    exact hField ▸ he
  · intro hMem
    exact ⟨(field, cell), hMem, (renamed_eq_ok_iff m (field, cell) (column, cell)).mpr
      ⟨hColumn, rfl⟩⟩

/-- A cell of the record of a row is the cell of the column. -/
theorem get?_toFields (row : Row) {field column : String}
    (hColumn : m.column? field = some column) :
    (m.toFields row).get? field = row.get? column := by
  have hNodup : ((row.entries.filterMap fun e =>
      (m.field? e.1).map fun field => (field, e.2)).map (·.1)).Nodup := by
    rw [List.nodup_iff_pairwise_ne, List.pairwise_map]
    refine List.Pairwise.filterMap _ ?_ row.sorted
    intro e g hLt e' he' g' hg' hEq
    obtain ⟨f, hf, rfl⟩ := Option.map_eq_some_iff.mp he'
    obtain ⟨f', hf', rfl⟩ := Option.map_eq_some_iff.mp hg'
    cases hEq
    have hSame := Option.some.inj
      ((field?_eq_some_iff.mp hf).symm.trans (field?_eq_some_iff.mp hf'))
    exact String.ne_of_lt hLt hSame
  ext cell
  rw [toFields, Row.get?_ofEntries hNodup, Row.lookup_eq_some_iff hNodup, Row.get?_eq_some_iff,
    List.mem_filterMap]
  constructor
  · rintro ⟨e, he, hCell⟩
    obtain ⟨f, hf, hEq⟩ := Option.map_eq_some_iff.mp hCell
    cases hEq
    have hSame := Option.some.inj ((field?_eq_some_iff.mp hf).symm.trans hColumn)
    exact hSame ▸ he
  · intro hMem
    exact ⟨_, hMem, by simp [field?_eq_some_iff.mpr hColumn]⟩

theorem get?_toFields_of_undeclared (row : Row) {field : String} (h : m.column? field = none) :
    (m.toFields row).get? field = none := by
  refine (Row.get?_insertAll_of_not_mem ?_ .empty).trans (Row.get?_empty field)
  rintro e he rfl
  obtain ⟨stored, -, hField⟩ := List.mem_filterMap.mp he
  obtain ⟨f, hf, rfl⟩ := Option.map_eq_some_iff.mp hField
  rw [field?_eq_some_iff.mp hf] at h
  cases h

/-- Rows agree as records if they agree on the fields that are declared. -/
theorem toFields_eq_of {row record : Row} (hUndeclared : ∀ field, m.column? field = none →
      record.get? field = none)
    (h : ∀ field column, m.column? field = some column →
      record.get? field = row.get? column) : m.toFields row = record := by
  apply Row.ext_get?
  intro field
  cases hColumn : m.column? field with
  | none => rw [get?_toFields_of_undeclared row hColumn, hUndeclared field hColumn]
  | some column => rw [get?_toFields row hColumn, h field column hColumn]

/-- A record that is renamed to columns and back is the same record. -/
theorem toFields_toColumns {record row : Row} (h : m.toColumns record = .ok row) :
    m.toFields row = record := by
  refine toFields_eq_of ?_ fun field column hColumn => (get?_toColumns h hColumn).symm
  intro field hNone
  by_contra hSome
  obtain ⟨cell, hCell⟩ := Option.ne_none_iff_exists'.mp hSome
  obtain ⟨entries, hEntries, -⟩ := Except.bind_eq_ok.mp h
  obtain ⟨e, -, hRenamed⟩ := exists_left_of_mem (Except.mapM_eq_ok.mp hEntries).flip
    (Row.get?_eq_some_iff.mp hCell)
  obtain ⟨column, hColumn, -⟩ := Except.bind_eq_ok.mp hRenamed
  rw [column_eq_ok_iff, hNone] at hColumn
  cases hColumn

theorem get?_toColumns_of_undeclared {record row : Row} (h : m.toColumns record = .ok row)
    {column : String} (hNone : m.field? column = none) : row.get? column = none := by
  obtain ⟨entries, hEntries, h⟩ := Except.bind_eq_ok.mp h
  cases Except.ok.inj h
  refine (Row.get?_insertAll_of_not_mem ?_ .empty).trans (Row.get?_empty column)
  rintro e he rfl
  obtain ⟨⟨field, cell⟩, -, hRenamed⟩ := (Except.mem_mapM hEntries).mp he
  obtain ⟨column, hColumn, hEntry⟩ := Except.bind_eq_ok.mp hRenamed
  cases Except.ok.inj hEntry
  rw [field?_eq_some_iff.mpr (column_eq_ok_iff.mp hColumn)] at hNone
  cases hNone

theorem toFields_insert (row : Row) {field column : String}
    (hColumn : m.column? field = some column) (cell : Json) :
    m.toFields (row.insert column cell) = (m.toFields row).insert field cell := by
  apply toFields_eq_of
  · intro f hNone
    have hOther : f ≠ field := by
      rintro rfl
      rw [hNone] at hColumn
      cases hColumn
    rw [Row.get?_insert_of_ne _ _ hOther, get?_toFields_of_undeclared row hNone]
  · intro f c hc
    by_cases hField : f = field
    · subst hField
      cases Option.some.inj (hc.symm.trans hColumn)
      rw [Row.get?_insert_self, Row.get?_insert_self]
    · rw [Row.get?_insert_of_ne _ _ hField,
        Row.get?_insert_of_ne _ _ (column?_ne hc hColumn hField), get?_toFields row hc]

end ColumnMap

/-! ## Accepted descriptors -/

/-- What an accepted descriptor says about its column map and its table. -/
structure Descriptor.Resolved (d : Descriptor) (columns : ColumnMap) (table : Table) : Prop where
  name : table.name = d.table
  idColumn : columns.column? d.idField = some table.idColumn
  tenantColumn : columns.column? d.tenantField = some table.tenantColumn
  softDeleteColumn : d.softDeleteField.mapM columns.column = .ok table.softDeleteColumn
  uniqueKeys : d.uniqueKeys.mapM (resolveKey columns) = .ok table.uniqueKeys
  idField_ne_tenantField : d.idField ≠ d.tenantField

theorem Descriptor.resolved {d : Descriptor} {columns : ColumnMap} {table : Table}
    (h : d.resolve = .ok (columns, table)) : d.Resolved columns table := by
  obtain ⟨built, -, h⟩ := Except.bind_eq_ok.mp h
  split at h
  · cases h
  · rename_i hne
    obtain ⟨idColumn, hId, h⟩ := Except.bind_eq_ok.mp h
    obtain ⟨tenantColumn, hTenant, h⟩ := Except.bind_eq_ok.mp h
    obtain ⟨softDelete, hSoft, h⟩ := Except.bind_eq_ok.mp h
    obtain ⟨keys, hKeys, h⟩ := Except.bind_eq_ok.mp h
    cases Except.ok.inj h
    exact ⟨rfl, ColumnMap.column_eq_ok_iff.mp hId, ColumnMap.column_eq_ok_iff.mp hTenant, hSoft,
      hKeys, hne⟩

theorem Descriptor.Resolved.idColumn_ne_tenantColumn {d : Descriptor} {columns : ColumnMap}
    {table : Table} (h : d.Resolved columns table) : table.idColumn ≠ table.tenantColumn :=
  ColumnMap.column?_ne h.idColumn h.tenantColumn h.idField_ne_tenantField

/-- The columns of each unique key are those of its fields. -/
theorem Descriptor.Resolved.keyColumns {d : Descriptor} {columns : ColumnMap} {table : Table}
    (h : d.Resolved columns table) :
    List.Forall₂ (List.Forall₂ fun field column => columns.column? field = some column)
      d.uniqueKeys table.uniqueKeys := by
  refine (Except.mapM_eq_ok.mp h.uniqueKeys).imp fun fields key hResolved => ?_
  unfold resolveKey at hResolved
  split at hResolved
  · cases hResolved
  · exact (Except.mapM_eq_ok.mp hResolved).imp fun _ _ => ColumnMap.column_eq_ok_iff.mp

/-- The column of a field that is in no key is in no key of the table, the id among them. -/
theorem Descriptor.Resolved.column_not_mem_key {d : Descriptor} {columns : ColumnMap}
    {table : Table} (h : d.Resolved columns table) {field column : String}
    (hColumn : columns.column? field = some column) (hId : field ≠ d.idField)
    (hKeys : ∀ key ∈ d.uniqueKeys, field ∉ key) :
    ∀ key ∈ [table.idColumn] :: table.uniqueKeys, column ∉ key := by
  intro key hKey hMem
  rcases List.mem_cons.mp hKey with rfl | hKey
  · cases List.mem_singleton.mp hMem
    exact hId (ColumnMap.column?_inj hColumn h.idColumn)
  · obtain ⟨fields, hFields, hPairs⟩ := exists_left_of_mem h.keyColumns hKey
    obtain ⟨other, hOther, hName⟩ := exists_left_of_mem hPairs hMem
    cases ColumnMap.column?_inj hColumn hName
    exact hKeys fields hFields hOther

/-! ## Accepted roles of a queue -/

/-- What accepted roles of a queue say about its columns. -/
structure QueueRoles.Resolved (r : QueueRoles) (d : Descriptor) (columns : ColumnMap)
    (c : ClaimColumns) : Prop where
  reserved : ∀ f ∈ r.fields, f ≠ d.tenantField ∧ f ≠ d.idField
  status : columns.column? r.status = some c.status
  createdAt : columns.column? r.createdAt = some c.createdAt
  nextAttemptAt : columns.column? r.nextAttemptAt = some c.nextAttemptAt
  attempts : ∃ column, columns.column? r.attempts = some column
  schedule : r.schedule.mapM columns.column = .ok c.schedule
  claimedAt : r.claimedAt.mapM columns.column = .ok c.claimedAt
  pending : c.pending = r.pending
  inProgress : c.inProgress = r.inProgress

theorem QueueRoles.resolved {r : QueueRoles} {d : Descriptor} {columns : ColumnMap}
    {c : ClaimColumns} (h : r.resolve d columns = .ok c) : r.Resolved d columns c := by
  unfold resolve at h
  cases hFound : r.fields.find? fun f => f = d.tenantField || f = d.idField with
  | some f =>
    rw [hFound] at h
    cases h
  | none =>
    rw [hFound] at h
    dsimp only at h
    split at h
    · cases h
    · obtain ⟨attempts, hAttempts, h⟩ := Except.bind_eq_ok.mp h
      obtain ⟨status, hStatus, h⟩ := Except.bind_eq_ok.mp h
      obtain ⟨createdAt, hCreatedAt, h⟩ := Except.bind_eq_ok.mp h
      obtain ⟨nextAttemptAt, hNextAttemptAt, h⟩ := Except.bind_eq_ok.mp h
      obtain ⟨schedule, hSchedule, h⟩ := Except.bind_eq_ok.mp h
      obtain ⟨claimedAt, hClaimedAt, h⟩ := Except.bind_eq_ok.mp h
      cases Except.ok.inj h
      refine ⟨?_, ColumnMap.column_eq_ok_iff.mp hStatus, ColumnMap.column_eq_ok_iff.mp hCreatedAt,
        ColumnMap.column_eq_ok_iff.mp hNextAttemptAt,
        ⟨attempts, ColumnMap.column_eq_ok_iff.mp hAttempts⟩, hSchedule, hClaimedAt, rfl, rfl⟩
      intro f hf
      simpa using List.find?_eq_none.mp hFound f hf

/-- Neither status value is `null`, and they are not the same value. -/
theorem QueueRoles.statuses_of_resolve {r : QueueRoles} {d : Descriptor} {columns : ColumnMap}
    {c : ClaimColumns} (h : r.resolve d columns = .ok c) :
    r.pending.isNull = false ∧ r.inProgress.isNull = false ∧
      r.pending.same r.inProgress = false := by
  unfold resolve at h
  cases hFound : r.fields.find? fun f => f = d.tenantField || f = d.idField with
  | some f =>
    rw [hFound] at h
    cases h
  | none =>
    rw [hFound] at h
    dsimp only at h
    split at h
    · cases h
    · rename_i hStatuses
      simpa [and_assoc] using hStatuses

theorem QueueRoles.Resolved.column_of_mem {r : QueueRoles} {d : Descriptor} {columns : ColumnMap}
    {c : ClaimColumns} (h : r.Resolved d columns c) {field : String} (hField : field ∈ r.fields) :
    ∃ column, columns.column? field = some column := by
  have hOption : ∀ {o : Option String} {o' : Option String},
      o.mapM columns.column = .ok o' → field ∈ o.toList →
        ∃ column, columns.column? field = some column := by
    intro o o' hOk hMem
    cases Option.mem_toList.mp hMem
    obtain ⟨column, hColumn, -⟩ := Except.bind_eq_ok.mp hOk
    exact ⟨column, ColumnMap.column_eq_ok_iff.mp hColumn⟩
  simp only [fields, List.mem_append, List.mem_cons, List.not_mem_nil, or_false] at hField
  rcases hField with ((rfl | rfl | rfl | rfl) | hSchedule) | hClaimedAt
  · exact ⟨_, h.status⟩
  · exact ⟨_, h.createdAt⟩
  · exact ⟨_, h.nextAttemptAt⟩
  · exact h.attempts
  · exact hOption h.schedule hSchedule
  · exact hOption h.claimedAt hClaimedAt

/-- The column that is stamped with the time of a claim belongs to the field of that role. -/
theorem QueueRoles.Resolved.exists_claimedAt {r : QueueRoles} {d : Descriptor}
    {columns : ColumnMap} {c : ClaimColumns} (h : r.Resolved d columns c) {column : String}
    (hColumn : c.claimedAt = some column) :
    ∃ field, r.claimedAt = some field ∧ columns.column? field = some column := by
  obtain ⟨field, hField, hOk⟩ := Except.some_of_mapM (hColumn ▸ h.claimedAt)
  exact ⟨field, hField, ColumnMap.column_eq_ok_iff.mp hOk⟩

/-- A claim changes neither the column of the tenant nor that of the id. -/
theorem QueueRoles.Resolved.columns_ne {r : QueueRoles} {d : Descriptor} {columns : ColumnMap}
    {c : ClaimColumns} (h : r.Resolved d columns c) {field column : String}
    (hColumn : columns.column? field = some column)
    (hField : field = d.tenantField ∨ field = d.idField) :
    c.status ≠ column ∧ c.claimedAt ≠ some column := by
  have hRole : ∀ f ∈ r.fields, f ≠ field := by
    rintro f hf rfl
    obtain ⟨hTenant, hId⟩ := h.reserved f hf
    rcases hField with hEq | hEq
    · exact hTenant hEq
    · exact hId hEq
  refine ⟨ColumnMap.column?_ne h.status hColumn (hRole _ (by simp [fields])), ?_⟩
  intro hClaimedAt
  obtain ⟨f, hf, hName⟩ := h.exists_claimedAt hClaimedAt
  exact hRole f (by simp [fields, hf]) (ColumnMap.column?_inj hName hColumn)

end Tenancy
