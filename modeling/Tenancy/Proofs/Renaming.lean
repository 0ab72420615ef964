import Tenancy.Proofs.Schema

/-!
# Which declarations are accepted, and what renaming keeps

A declaration of fields becomes a column map exactly if it is `Acceptable`
(`ColumnMap.build_eq_ok_iff`). The map pairs the fields with their columns both ways. A record is
renamed to columns exactly if all its names are declared, and otherwise fails at the first one that
is not (`ColumnMap.toColumns_eq_error_iff`). Renaming back gives the record again, and a row that is
renamed to fields and back keeps just its declared columns (`ColumnMap.toColumns_toFields`).
-/

namespace Tenancy

/-! ## The first failure in a list -/

/-- A list of computations fails with the failure of the first one that does not succeed. -/
theorem Except.mapM_eq_error_iff {ε α β : Type} {f : α → Except ε β} {xs : List α} {e : ε} :
    xs.mapM f = .error e ↔
      ∃ before x after, xs = before ++ x :: after ∧ (∀ y ∈ before, ∃ b, f y = .ok b) ∧
        f x = .error e := by
  induction xs with
  | nil =>
    constructor
    · intro h
      cases h
    · rintro ⟨before, x, after, hSplit, -⟩
      simp at hSplit
  | cons x xs ih =>
    rw [List.mapM_cons, Except.bind_eq_error]
    constructor
    · rintro (hFirst | ⟨b, hFirst, h⟩)
      · exact ⟨[], x, xs, rfl, by simp, hFirst⟩
      · rcases Except.bind_eq_error.mp h with hRest | ⟨bs, -, h⟩
        · obtain ⟨before, y, after, rfl, hBefore, hFails⟩ := ih.mp hRest
          exact ⟨x :: before, y, after, rfl, List.forall_mem_cons.mpr ⟨⟨b, hFirst⟩, hBefore⟩,
            hFails⟩
        · cases h
    · rintro ⟨before, y, after, hSplit, hBefore, hFails⟩
      cases before with
      | nil =>
        cases hSplit
        exact .inl hFails
      | cons z before =>
        cases hSplit
        obtain ⟨⟨b, hFirst⟩, hBefore⟩ := List.forall_mem_cons.mp hBefore
        exact .inr ⟨b, hFirst,
          Except.bind_eq_error.mpr (.inl (ih.mpr ⟨before, y, after, rfl, hBefore, hFails⟩))⟩

/-! ## Parts of a row -/

namespace Row

/-- The cells of a row under the given names. -/
def restrict (row : Row) (names : List String) : Row :=
  ⟨row.entries.filter fun e => e.1 ∈ names, row.sorted.filter _⟩

theorem get?_restrict (row : Row) (names : List String) (name : String) :
    (row.restrict names).get? name = if name ∈ names then row.get? name else none := by
  ext cell
  rw [get?_eq_some_iff, restrict, List.mem_filter, ← get?_eq_some_iff]
  by_cases hName : name ∈ names <;> simp [hName]

theorem mem_names_iff {row : Row} {name : String} :
    name ∈ row.names ↔ ∃ cell, (name, cell) ∈ row.entries := by
  simp [names]

theorem get?_eq_none_iff {row : Row} {name : String} : row.get? name = none ↔ name ∉ row.names := by
  rw [Option.eq_none_iff_forall_ne_some, mem_names_iff, not_exists]
  exact forall_congr' fun cell => not_congr get?_eq_some_iff

end Row

namespace ColumnMap

variable {table : String} {fields : List String} {naming : Naming} {overrides : List FieldColumn}
  {m : ColumnMap} {record row : Row}

/-! ## Acceptance -/

/-- A declared field beside its column. -/
def pairFor (naming : Naming) (overrides : List FieldColumn) (field : String) : FieldColumn :=
  ⟨field, columnFor naming overrides field⟩

/-- What is asked of a declaration of fields. -/
structure Acceptable (table : String) (fields : List String) (naming : Naming)
    (overrides : List FieldColumn) : Prop where
  /-- The name of the table is not blank. -/
  named : ∃ c ∈ table.toList, Text.isBlank c = false
  declared : ∀ o ∈ overrides, o.field ∈ fields
  nonempty : ∀ field ∈ fields, columnFor naming overrides field ≠ ""
  distinct : (fields.map (columnFor naming overrides)).Nodup

theorem isAllBlank_eq_false_iff :
    Text.isAllBlank table = false ↔ ∃ c ∈ table.toList, Text.isBlank c = false := by
  rw [Text.isAllBlank, List.all_eq_false]
  simp only [Bool.not_eq_true]

/-- Fields are added to those already there if their columns are not empty and all columns
differ. A field that is there already would bring its column a second time. -/
theorem extend_eq_ok_iff {added : List String} {pairs : List FieldColumn}
    (hAdded : (added.map (columnFor naming overrides)).Nodup) :
    extend table naming overrides (added.map (pairFor naming overrides)) fields = .ok pairs ↔
      (∀ field ∈ fields, columnFor naming overrides field ≠ "") ∧
        ((added ++ fields).map (columnFor naming overrides)).Nodup ∧
          pairs = (added ++ fields).map (pairFor naming overrides) := by
  induction fields generalizing added with
  | nil =>
    rw [extend, Except.ok.injEq, List.append_nil]
    exact ⟨fun h => ⟨by simp, hAdded, h.symm⟩, fun h => h.2.2.symm⟩
  | cons field rest ih =>
    have hAppend : added ++ field :: rest = (added ++ [field]) ++ rest := by simp
    have hPairs : added.map (pairFor naming overrides) ++ [pairFor naming overrides field] =
        (added ++ [field]).map (pairFor naming overrides) := by simp
    have hFound : ∀ f ∈ added, columnFor naming overrides f = columnFor naming overrides field →
        ¬ ((added ++ field :: rest).map (columnFor naming overrides)).Nodup := by
      intro f hf hSame hNodup
      rw [List.map_append, List.nodup_append] at hNodup
      exact hNodup.2.2 _ (List.mem_map_of_mem hf) _ (by simp) hSame
    rw [extend]
    split
    · -- The column is empty.
      rename_i hEmpty
      have hColumn : columnFor naming overrides field = "" := by simpa using hEmpty
      simp [hColumn]
    · rename_i hColumn
      split
      · -- The column is that of a field added before.
        rename_i previous hPrevious
        obtain ⟨f, hf, hPair⟩ := List.mem_map.mp (List.mem_of_find?_eq_some hPrevious)
        have hSame : previous.column = columnFor naming overrides field := by
          simpa using List.find?_some hPrevious
        rw [← hPair] at hSame
        refine ⟨fun h => ?_, fun h => absurd h.2.1 (hFound f hf hSame)⟩
        cases h
      · rename_i hNone
        have hFresh : ∀ f ∈ added,
            columnFor naming overrides f ≠ columnFor naming overrides field := by
          intro f hf hSame
          exact List.find?_eq_none.mp hNone _ (List.mem_map_of_mem hf) (decide_eq_true hSame)
        split
        · -- The field itself was added before, and so was its column.
          rename_i hAny
          obtain ⟨pair, hPair, hField⟩ := List.any_eq_true.mp hAny
          obtain ⟨f, hf, rfl⟩ := List.mem_map.mp hPair
          have hSame : f = field := of_decide_eq_true hField
          exact absurd (congrArg _ hSame) (hFresh f hf)
        · have hNext : ((added ++ [field]).map (columnFor naming overrides)).Nodup :=
            nodup_map_append_singleton hAdded hFresh
          have hName : columnFor naming overrides field ≠ "" := by simpa using hColumn
          rw [show (⟨field, columnFor naming overrides field⟩ : FieldColumn) =
            pairFor naming overrides field from rfl, hPairs, ih hNext, ← hAppend]
          simp [hName]

/-- **Which declarations are accepted**, and as which map. -/
theorem build_eq_ok_iff :
    build table fields naming overrides = .ok m ↔ Acceptable table fields naming overrides ∧
      m.table = table ∧ m.pairs = fields.map (pairFor naming overrides) := by
  have hExtend : ∀ pairs, extend table naming overrides [] fields = .ok pairs ↔
      (∀ field ∈ fields, columnFor naming overrides field ≠ "") ∧
        (fields.map (columnFor naming overrides)).Nodup ∧
          pairs = fields.map (pairFor naming overrides) := by
    intro pairs
    have hNone : (([] : List String).map (columnFor naming overrides)).Nodup := .nil
    simpa using extend_eq_ok_iff hNone
  unfold build
  split
  · rename_i hBlank
    refine ⟨fun h => (by cases h), fun h => ?_⟩
    rw [isAllBlank_eq_false_iff.mpr h.1.named] at hBlank
    cases hBlank
  · rename_i hTable
    have hTable := isAllBlank_eq_false_iff.mp (Bool.eq_false_iff.mpr hTable)
    split
    · rename_i o hOverride
      refine ⟨fun h => (by cases h), fun h => ?_⟩
      have hDeclared := h.1.declared o (List.mem_of_find?_eq_some hOverride)
      simpa [hDeclared] using List.find?_some hOverride
    · rename_i hOverrides
      have hOverrides : ∀ o ∈ overrides, o.field ∈ fields := by
        intro o ho
        simpa using List.find?_eq_none.mp hOverrides o ho
      split
      · rename_i e hError
        refine ⟨fun h => (by cases h), fun h => ?_⟩
        rw [(hExtend _).mpr ⟨h.1.nonempty, h.1.distinct, rfl⟩] at hError
        cases hError
      · rename_i pairs hPairs
        obtain ⟨hNonempty, hDistinct, rfl⟩ := (hExtend pairs).mp hPairs
        constructor
        · intro h
          cases Except.ok.inj h
          exact ⟨⟨hTable, hOverrides, hNonempty, hDistinct⟩, rfl, rfl⟩
        · rintro ⟨-, hName, hSame⟩
          obtain ⟨name, pairs, hFields, hColumns⟩ := m
          cases hName
          cases hSame
          rfl

theorem exists_build_iff : (∃ m, build table fields naming overrides = .ok m) ↔
    Acceptable table fields naming overrides := by
  constructor
  · rintro ⟨m, h⟩
    exact (build_eq_ok_iff.mp h).1
  · intro h
    have hFields : ((fields.map (pairFor naming overrides)).map (·.field)).Nodup := by
      rw [List.map_map]
      exact (List.map_id' fields).symm ▸ h.distinct.of_map _
    have hColumns : ((fields.map (pairFor naming overrides)).map (·.column)).Nodup := by
      rw [List.map_map]
      exact h.distinct
    exact ⟨⟨table, _, hFields, hColumns⟩, build_eq_ok_iff.mpr ⟨h, rfl, rfl⟩⟩

/-- The columns of the fields of an accepted declaration. -/
theorem column?_eq_some_iff_of_build (h : build table fields naming overrides = .ok m)
    {field column : String} :
    m.column? field = some column ↔ field ∈ fields ∧ columnFor naming overrides field = column := by
  obtain ⟨-, -, hPairs⟩ := build_eq_ok_iff.mp h
  rw [column?_eq_some_iff, hPairs]
  simp [pairFor]

/-! ## Renaming -/

theorem renamed_eq_error_iff {e : String × Json} {error : StoreError} :
    (do pure (← m.column e.1, e.2) : Except StoreError (String × Json)) = .error error ↔
      m.column? e.1 = none ∧ error = .unknownField m.table e.1 := by
  unfold column
  cases m.column? e.1 <;> simp [bind, Except.bind, pure, Except.pure, eq_comm]

/-- A record is renamed exactly if all its names are declared. -/
theorem exists_toColumns_iff :
    (∃ row, m.toColumns record = .ok row) ↔
      ∀ name ∈ record.names, ∃ column, m.column? name = some column := by
  constructor
  · rintro ⟨row, h⟩ name hName
    obtain ⟨cell, hCell⟩ := Row.mem_names_iff.mp hName
    obtain ⟨entries, hEntries, -⟩ := Except.bind_eq_ok.mp h
    obtain ⟨e, -, hRenamed⟩ :=
      exists_left_of_mem (Except.mapM_eq_ok.mp hEntries).flip hCell
    obtain ⟨hColumn, -⟩ := (renamed_eq_ok_iff m (name, cell) e).mp hRenamed
    exact ⟨e.1, hColumn⟩
  · intro h
    have hRenamed : ∀ e ∈ record.entries, ∃ e' : String × Json,
        (do pure (← m.column e.1, e.2) : Except StoreError (String × Json)) = .ok e' := by
      intro e he
      obtain ⟨column, hColumn⟩ := h e.1 (Row.mem_names_iff.mpr ⟨e.2, he⟩)
      exact ⟨(column, e.2), (renamed_eq_ok_iff m _ _).mpr ⟨hColumn, rfl⟩⟩
    obtain ⟨entries, hEntries⟩ := Except.exists_mapM hRenamed
    exact ⟨_, Except.bind_eq_ok.mpr ⟨entries, hEntries, rfl⟩⟩

/-- A record fails to be renamed at the first of its names that is not declared. -/
theorem toColumns_eq_error_iff {error : StoreError} :
    m.toColumns record = .error error ↔ ∃ name, error = .unknownField m.table name ∧
      name ∈ record.names ∧ m.column? name = none ∧
        ∀ other ∈ record.names, other < name → ∃ column, m.column? other = some column := by
  have hMapM : m.toColumns record = .error error ↔
      record.entries.mapM (fun e => do pure (← m.column e.1, e.2)) = .error error := by
    rw [toColumns, Except.bind_eq_error]
    constructor
    · rintro (h | ⟨entries, -, h⟩)
      · exact h
      · cases h
    · exact .inl
  rw [hMapM, Except.mapM_eq_error_iff]
  have hSorted := record.sorted
  constructor
  · rintro ⟨before, e, after, hSplit, hBefore, hFails⟩
    obtain ⟨hNone, rfl⟩ := renamed_eq_error_iff.mp hFails
    refine ⟨e.1, rfl, Row.mem_names_iff.mpr ⟨e.2, by simp [hSplit]⟩, hNone, ?_⟩
    intro other hOther hLt
    obtain ⟨cell, hCell⟩ := Row.mem_names_iff.mp hOther
    rw [hSplit] at hCell hSorted
    rcases List.mem_append.mp hCell with hMem | hMem
    · obtain ⟨e', hRenamed⟩ := hBefore _ hMem
      exact ⟨e'.1, ((renamed_eq_ok_iff m _ _).mp hRenamed).1⟩
    · -- From this name on, the names are not smaller.
      obtain ⟨hFirst, -⟩ := List.pairwise_cons.mp (List.pairwise_append.mp hSorted).2.1
      rcases List.mem_cons.mp hMem with rfl | hMem
      · exact absurd hLt (String.lt_irrefl _)
      · exact absurd (String.lt_trans hLt (hFirst _ hMem)) (String.lt_irrefl _)
  · rintro ⟨name, rfl, hName, hNone, hBefore⟩
    obtain ⟨cell, hCell⟩ := Row.mem_names_iff.mp hName
    obtain ⟨before, after, hSplit⟩ := List.append_of_mem hCell
    refine ⟨before, (name, cell), after, hSplit, ?_, renamed_eq_error_iff.mpr ⟨hNone, rfl⟩⟩
    intro e he
    rw [hSplit, List.pairwise_append] at hSorted
    have hLt : e.1 < name := hSorted.2.2 e he (name, cell) List.mem_cons_self
    obtain ⟨column, hColumn⟩ :=
      hBefore e.1 (Row.mem_names_iff.mpr ⟨e.2, by simp [hSplit, he]⟩) hLt
    exact ⟨(column, e.2), (renamed_eq_ok_iff m _ _).mpr ⟨hColumn, rfl⟩⟩

/-- A row that is renamed to fields and back keeps its declared columns. -/
theorem toColumns_toFields (m : ColumnMap) (row : Row) :
    m.toColumns (m.toFields row) = .ok (row.restrict (m.pairs.map (·.column))) := by
  have hDeclared : ∀ column, column ∈ m.pairs.map (·.column) ↔
      ∃ field, m.field? column = some field := by
    intro column
    simp only [field?_eq_some_iff, column?_eq_some_iff, List.mem_map]
    constructor
    · rintro ⟨pair, hPair, rfl⟩
      exact ⟨pair.field, hPair⟩
    · rintro ⟨field, hPair⟩
      exact ⟨_, hPair, rfl⟩
  obtain ⟨back, hBack⟩ : ∃ back, m.toColumns (m.toFields row) = .ok back := by
    refine exists_toColumns_iff.mpr fun name hName => ?_
    by_contra hNone
    have hNone : m.column? name = none := by
      rw [Option.eq_none_iff_forall_ne_some]
      exact fun column hColumn => hNone ⟨column, hColumn⟩
    exact Row.get?_eq_none_iff.mp (get?_toFields_of_undeclared row hNone) hName
  rw [hBack]
  refine congrArg _ (Row.ext_get? fun column => ?_)
  rw [Row.get?_restrict]
  split
  · rename_i hColumn
    obtain ⟨field, hField⟩ := (hDeclared column).mp hColumn
    have hColumn := field?_eq_some_iff.mp hField
    rw [get?_toColumns hBack hColumn, get?_toFields row hColumn]
  · rename_i hColumn
    refine get?_toColumns_of_undeclared hBack ?_
    rw [Option.eq_none_iff_forall_ne_some]
    exact fun field hField => hColumn ((hDeclared column).mpr ⟨field, hField⟩)

/-- **Names are resolved one to one.** A declaration is accepted exactly if it is acceptable: the
table has a name, overrides are for declared fields, and the columns of the fields are not empty and
all different. For the column map of an accepted declaration:
1. a field has a column exactly if it is declared, which is the one of its first override or else
the one of the convention; for other fields the answer is that they are unknown,
2. a field belongs to a column exactly if that is the column of the field,
3. a record is renamed exactly if all its names are declared,
4. and otherwise the answer is that the first name that is not declared is unknown,
5. a renamed record is the same record when it is renamed back,
6. and a row that is renamed to a record and back is its part under the declared columns. -/
theorem names_resolved (table : String) (fields : List String) (naming : Naming)
    (overrides : List FieldColumn) :
    ((∃ m, build table fields naming overrides = .ok m) ↔
        Acceptable table fields naming overrides) ∧
      ∀ m, build table fields naming overrides = .ok m →
        (∀ field, m.column field =
          if field ∈ fields then .ok (columnFor naming overrides field)
          else .error (.unknownField table field)) ∧
        (∀ field column, m.field? column = some field ↔ m.column field = .ok column) ∧
        (∀ record, (∃ row, m.toColumns record = .ok row) ↔ ∀ name ∈ record.names, name ∈ fields) ∧
        (∀ record error, m.toColumns record = .error error ↔
          ∃ name, error = .unknownField table name ∧ name ∈ record.names ∧ name ∉ fields ∧
            ∀ other ∈ record.names, other < name → other ∈ fields) ∧
        (∀ record row, m.toColumns record = .ok row → m.toFields row = record) ∧
        ∀ row, m.toColumns (m.toFields row) =
          .ok (row.restrict (fields.map (columnFor naming overrides))) := by
  refine ⟨exists_build_iff, fun m hBuild => ?_⟩
  obtain ⟨-, rfl, hPairs⟩ := build_eq_ok_iff.mp hBuild
  have hColumn : ∀ field column, m.column? field = some column ↔
      field ∈ fields ∧ columnFor naming overrides field = column :=
    fun _ _ => column?_eq_some_iff_of_build hBuild
  have hDeclared : ∀ name, (∃ column, m.column? name = some column) ↔ name ∈ fields := by
    intro name
    simp [hColumn]
  have hUndeclared : ∀ name, m.column? name = none ↔ name ∉ fields := by
    intro name
    rw [← hDeclared, Option.eq_none_iff_forall_ne_some, not_exists]
  refine ⟨fun field => ?_, fun field column => ?_, fun record => ?_, fun record error => ?_,
    fun record row => toFields_toColumns, fun row => ?_⟩
  · split
    · rename_i hField
      exact column_eq_ok_iff.mpr ((hColumn field _).mpr ⟨hField, rfl⟩)
    · rename_i hField
      rw [column, (hUndeclared field).mpr hField]
  · rw [field?_eq_some_iff, column_eq_ok_iff]
  · simp only [exists_toColumns_iff, hDeclared]
  · simp only [toColumns_eq_error_iff, hDeclared, hUndeclared]
  · rw [toColumns_toFields, hPairs, List.map_map]
    rfl

/-- The id of a job has the column of its override, and its other field the one of the convention. A
row keeps these two. -/
theorem jobs_renamed : ∃ m, build "jobs" ["id", "createdAt"] .snake [⟨"id", "job_id"⟩] = .ok m ∧
    m.column "id" = .ok "job_id" ∧ m.column "createdAt" = .ok "created_at" ∧
      ∀ row, m.toColumns (m.toFields row) = .ok (row.restrict ["job_id", "created_at"]) := by
  obtain ⟨hAccepted, hMaps⟩ := names_resolved "jobs" ["id", "createdAt"] .snake [⟨"id", "job_id"⟩]
  obtain ⟨m, hBuild⟩ := hAccepted.mpr ⟨⟨'j', by decide, by decide⟩, by decide, by decide, by decide⟩
  obtain ⟨hColumn, -, -, -, -, hRow⟩ := hMaps m hBuild
  exact ⟨m, hBuild, hColumn "id", hColumn "createdAt", hRow⟩

end ColumnMap

end Tenancy
