import Tenancy.Proofs.Backend.Update
import Tenancy.Proofs.Value.Comparison

/-!
# Rows followed through commands

A row of a table keeps its place as long as it is there, but for deletions, behind which the rows
move up (`Memory.placeAfter?`). A command that does not overwrite a column of a row leaves that cell
alone (`Memory.get?_backend`), and so does any run of such commands (`Memory.Tracked.cell_eq`). So
what an update has written into a column stays there for conditions to find
(`Memory.written_values_found`).
-/

namespace Tenancy

/-- The table that a command is for. -/
def Command.target : Command → Table
  | .select t _ _ | .count t _ _ | .insert t _ | .upsert t _ | .update t _ _ _ | .delete t _ _
  | .claim t _ _ => t

namespace Memory

variable {table : Table} {tenant : TenantId} {rows : List Row} {row old : Row} {s : Staged}
  {m m' m'' : Memory} {i j k : Nat} {column name : String}

/-! ## Where rows go and what is overwritten -/

/-- Of these rows, upserted one after the other, one goes over the row at the place and has a cell
in the column. -/
def UpsertsOver (table : Table) (i : Nat) (column : String) : List Row → Staged → Prop
  | [], _ => False
  | row :: rest, s =>
    ((s.rows.findIdx? fun r => (r.cell table.idColumn).sameCell (row.cell table.idColumn)) =
        some i ∧ row.get? column ≠ none) ∨
      UpsertsOver table i column rest (upsertOne table row s).2

/-- The command succeeds and writes to the column in the row at this place of its table. -/
def Overwrites (m : Memory) (i : Nat) (column : String) (c : Command) : Prop :=
  (∃ answer, (backend c m).1 = .ok answer) ∧
    match c with
    | .update t tenant conditions assignments =>
      i ∈ placesOf (selects t tenant conditions) (m.rows t.name) ∧
        ∃ a ∈ assignments, a.name = column
    | .claim t tenant c => i ∈ claimedPlaces t tenant c (m.rows t.name) ∧ column ∈ c.stamped
    | .upsert t rows => UpsertsOver t i column rows ⟨m.rows t.name, m.nextId⟩
    | .select _ _ _ | .count _ _ _ | .insert _ _ | .delete _ _ _ => False

/-- The place behind the command of the row that was at a place of its table; none if the command
removes the row. -/
def placeAfter? (m : Memory) (i : Nat) : Command → Option Nat
  | .delete t tenant conditions =>
    if selects t tenant conditions ((m.rows t.name).getD i .empty) then none
    else some (((m.rows t.name).take i).countP (!selects t tenant conditions ·))
  | _ => some i

/-- The row at one place of the table before some commands is the one at the other place behind
them, and none of them has overwritten the column in it. -/
inductive Tracked (name column : String) (m : Memory) (i : Nat) : Memory → Nat → Prop
  | start : Tracked name column m i m i
  | next {m' : Memory} {j k : Nat} (h : Tracked name column m i m' j) (c : Command)
      (hTable : c.target.name = name) (hKept : ¬ m'.Overwrites j column c)
      (hPlace : m'.placeAfter? j c = some k) : Tracked name column m i (backend c m').2 k
  | elsewhere {m' : Memory} {j : Nat} (h : Tracked name column m i m' j) (c : Command)
      (hTable : c.target.name ≠ name) : Tracked name column m i (backend c m').2 j

/-! ## Rows behind one command -/

theorem rows_write_of_ne (one : Row → Staged → Except StoreError Row × Staged) (table : Table)
    (rows : List Row) (m : Memory) (h : name ≠ table.name) :
    (write one table rows m).2.rows name = m.rows name := by
  unfold write
  generalize stageAll one rows ⟨m.rows table.name, m.nextId⟩ = outcome
  obtain ⟨e | written, s⟩ := outcome
  · rfl
  · exact rows_setRows_of_ne m s.rows h

/-- A command changes no table but its own. -/
theorem rows_backend_of_ne (m : Memory) {c : Command} (h : name ≠ c.target.name) :
    (backend c m).2.rows name = m.rows name := by
  cases c with
  | select t owner s | count t owner conditions => rfl
  | insert t rows => exact rows_write_of_ne (insertOne t) t rows m h
  | upsert t rows => exact rows_write_of_ne (upsertOne t) t rows m h
  | update t owner conditions assignments =>
    rcases update_eq t owner conditions assignments m with ⟨e, hUpdate⟩ | hUpdate
    · rw [backend, hUpdate]
    · rw [backend, hUpdate]
      exact rows_setRows_of_ne m _ h
  | delete t owner conditions => exact rows_setRows_of_ne m _ h
  | claim t owner c => exact rows_setRows_of_ne m _ h

theorem getElem?_append_row (hRow : s.rows[i]? = some old) :
    (append table row s).2.rows[i]? = some old := by
  unfold append
  dsimp only
  split
  · exact hRow
  · exact List.getElem?_append_left (List.getElem?_eq_some_iff.mp hRow).1 ▸ hRow

theorem getElem?_insertOne (hRow : s.rows[i]? = some old) :
    (insertOne table row s).2.rows[i]? = some old := by
  unfold insertOne
  split
  · exact hRow
  · exact getElem?_append_row hRow

theorem getElem?_stageAll_insertOne (hRow : s.rows[i]? = some old) :
    (stageAll (insertOne table) rows s).2.rows[i]? = some old := by
  let keeps : List Row → Prop := fun rows => rows[i]? = some old
  have hOne : ∀ row s, keeps s.rows → True → keeps (insertOne table row s).2.rows ∧
      ∀ a, (insertOne table row s).1 = .ok a → True :=
    fun row s h _ => ⟨getElem?_insertOne h, fun _ _ => trivial⟩
  exact (stageAll_induction hOne hRow fun _ _ => trivial).1

/-- An upsert of one row changes another row at most, or the column is not among its cells. -/
theorem getElem?_upsertOne (hRow : s.rows[i]? = some old)
    (hKept : ¬ ((s.rows.findIdx? fun r =>
      (r.cell table.idColumn).sameCell (row.cell table.idColumn)) = some i ∧
        row.get? column ≠ none)) :
    ∃ new, (upsertOne table row s).2.rows[i]? = some new ∧
      new.get? column = old.get? column := by
  have hSame : ∃ new, s.rows[i]? = some new ∧ new.get? column = old.get? column :=
    ⟨old, hRow, rfl⟩
  -- Rows are changed only where the new row goes over the stored one of its id and tenant.
  unfold upsertOne
  split
  · exact hSame
  · dsimp only
    split
    · exact ⟨old, getElem?_append_row hRow, rfl⟩
    · rename_i k hFound
      split
      · split
        · exact hSame
        · by_cases hPlace : k = i
          · subst hPlace
            have hAbsent : row.get? column = none := by
              by_contra hSome
              exact hKept ⟨hFound, hSome⟩
            refine ⟨_, List.getElem?_set_self (List.getElem?_eq_some_iff.mp hRow).1, ?_⟩
            rw [getD_of_getElem? hRow, Row.get?_overlay, hAbsent, Option.none_or]
          · exact ⟨old, (List.getElem?_set_ne hPlace).trans hRow, rfl⟩
      · exact hSame

theorem getElem?_stageAll_upsertOne (hRow : s.rows[i]? = some old)
    (hKept : ¬ UpsertsOver table i column rows s) :
    ∃ new, (stageAll (upsertOne table) rows s).2.rows[i]? = some new ∧
      new.get? column = old.get? column := by
  induction rows generalizing s old with
  | nil => exact ⟨old, hRow, rfl⟩
  | cons row rest ih =>
    obtain ⟨hFirst, hRest⟩ := not_or.mp hKept
    obtain ⟨new, hNew, hCell⟩ := getElem?_upsertOne hRow hFirst
    obtain ⟨newer, hNewer, hCell'⟩ := ih hNew hRest
    unfold stageAll
    generalize upsertOne table row s = outcome at hNew hNewer
    obtain ⟨e | written, s'⟩ := outcome
    · exact ⟨new, hNew, hCell⟩
    · exact ⟨newer, hNewer, hCell'.trans hCell⟩

/-- What rows that are written all together or not at all keep, the table keeps. -/
theorem getElem?_write {one : Row → Staged → Except StoreError Row × Staged}
    (hRow : (m.rows table.name)[i]? = some old)
    (hStaged : (∃ written, (write one table rows m).1 = .ok written) →
      ∃ new, (stageAll one rows ⟨m.rows table.name, m.nextId⟩).2.rows[i]? = some new ∧
        new.get? column = old.get? column) :
    ∃ new, ((write one table rows m).2.rows table.name)[i]? = some new ∧
      new.get? column = old.get? column := by
  rcases write_cases one table rows m with ⟨e, -, hSame⟩ | ⟨written, -, hOk, hRows⟩
  · exact ⟨old, (congrArg (·[i]?) (hSame table.name)).trans hRow, rfl⟩
  · obtain ⟨new, hNew, hCell⟩ := hStaged ⟨written, hOk⟩
    exact ⟨new, (congrArg (·[i]?) hRows).trans hNew, hCell⟩

theorem getElem?_changeAt_kept {f : Row → Row} {places : List Nat} (hNodup : places.Nodup)
    (hRow : rows[i]? = some old)
    (hKept : i ∈ places → (f old).get? column = old.get? column) :
    ∃ new, (changeAt f places rows)[i]? = some new ∧ new.get? column = old.get? column := by
  rw [getElem?_changeAt f hNodup, hRow]
  split
  · rename_i hPlace
    exact ⟨f old, rfl, hKept hPlace⟩
  · exact ⟨old, rfl, rfl⟩

/-- A row that a filter lets through has as many rows before it there as the filter lets through
before it here. -/
theorem getElem?_filter_countP {p : Row → Bool} (hRow : rows[i]? = some row) (hp : p row) :
    (rows.filter p)[(rows.take i).countP p]? = some row := by
  induction rows generalizing i with
  | nil => simp at hRow
  | cons first rest ih =>
    cases i with
    | zero =>
      cases Option.some.inj hRow
      simp [hp]
    | succ i =>
      by_cases hFirst : p first
      · simp [hFirst, ih hRow]
      · simp [hFirst, ih hRow]

/-- One command leaves the cells of a row alone that it does not overwrite. -/
theorem get?_backend {c : Command} (hRow : (m.rows c.target.name)[i]? = some old)
    (hKept : ¬ m.Overwrites i column c) (hPlace : m.placeAfter? i c = some k) :
    ∃ new, ((backend c m).2.rows c.target.name)[k]? = some new ∧
      new.get? column = old.get? column := by
  cases c with
  | select t owner s | count t owner conditions =>
    cases Option.some.inj hPlace
    exact ⟨old, hRow, rfl⟩
  | insert t rows =>
    cases Option.some.inj hPlace
    exact getElem?_write hRow fun _ => ⟨old, getElem?_stageAll_insertOne hRow, rfl⟩
  | upsert t rows =>
    cases Option.some.inj hPlace
    refine getElem?_write hRow fun hOk => ?_
    exact getElem?_stageAll_upsertOne hRow fun hOver => hKept ⟨hOk, hOver⟩
  | update t owner conditions assignments =>
    cases Option.some.inj hPlace
    rcases update_eq t owner conditions assignments m with ⟨e, hUpdate⟩ | hUpdate
    · rw [backend, hUpdate]
      exact ⟨old, hRow, rfl⟩
    · rw [Overwrites, backend, hUpdate] at hKept
      rw [backend, hUpdate, Command.target, rows_setRows_self]
      refine getElem?_changeAt_kept (placesOf_nodup _ _) hRow fun hSelected => ?_
      exact get?_assign_of_ne (fun a ha hName => hKept ⟨⟨_, rfl⟩, hSelected, a, ha, hName⟩) old
  | delete t owner conditions =>
    simp only [placeAfter?, Command.target] at hPlace hRow
    rw [getD_of_getElem? hRow] at hPlace
    split at hPlace
    · cases hPlace
    · rename_i hStays
      cases Option.some.inj hPlace
      refine ⟨old, ?_, rfl⟩
      rw [backend, delete, Command.target, rows_setRows_self]
      exact getElem?_filter_countP hRow (by simpa using hStays)
  | claim t owner c =>
    cases Option.some.inj hPlace
    rw [backend, Command.target, rows_claim]
    refine getElem?_changeAt_kept (claimedPlaces_nodup _ _ _ _) hRow fun hTaken => ?_
    exact get?_markClaimed_of_not_mem (fun hMem => hKept ⟨⟨_, rfl⟩, hTaken, hMem⟩) old

/-- A row that is followed through any commands keeps the cell that none of them overwrites. -/
theorem Tracked.cell_eq (h : Tracked name column m i m' j)
    (hRow : (m.rows name)[i]? = some row) :
    ∃ new, (m'.rows name)[j]? = some new ∧ new.cell column = row.cell column := by
  induction h with
  | start => exact ⟨row, hRow, rfl⟩
  | next h c hTable hKept hPlace ih =>
    subst hTable
    obtain ⟨old, hOld, hCell⟩ := ih
    obtain ⟨new, hNew, hSame⟩ := get?_backend hOld hKept hPlace
    refine ⟨new, hNew, Eq.trans ?_ hCell⟩
    rw [Row.cell, Row.cell, hSame]
  | elsewhere h c hTable ih =>
    obtain ⟨old, hOld, hCell⟩ := ih
    exact ⟨old, (congrArg (·[_]?) (rows_backend_of_ne _ hTable.symm)).trans hOld, hCell⟩

/-! ## What an update has written -/

/-- The assignments set the column to the value; a later one for the same column would count
instead. -/
def SetsTo (assignments : List Assignment) (column : String) (v : Value) : Prop :=
  ∃ before after, assignments = before ++ ⟨column, v⟩ :: after ∧ ∀ a ∈ after, a.name ≠ column

theorem SetsTo.cell_assign {assignments : List Assignment} {v : Value}
    (h : SetsTo assignments column v) (row : Row) :
    (assign assignments row).cell column = v.toJson := by
  obtain ⟨before, after, rfl, hAfter⟩ := h
  have hSplit : assign (before ++ ⟨column, v⟩ :: after) row =
      assign after ((assign before row).insert column v.toJson) := by
    simp [assign, List.foldl_append]
  rw [Row.cell, hSplit, get?_assign_of_ne hAfter, Row.get?_insert_self, Option.getD_some]

/-- **What is written is found.**

1. The JSON form of a readable value compares with another value of its kind as the value itself;
   readable scalars are in a total order, and a JSON value is equal to just its equals.
2. Let an update that succeeds set a column to a readable value. Conditions on the column find every
   row that it answers: the cell equals the value, is in every list with it, is neither less nor
   greater, and does not differ from it.
3. So do they find every row that it was for where that stands in the table, behind any commands
   that do not remove it and do not overwrite the column in it. -/
theorem written_values_found :
    (∀ v w : Value, v.isReadable → w.isReadable → v.sameKind w →
      w.compareCell? v.toJson = v.order? w ∧
        ((∀ j, v ≠ .json j) → ∃ o, v.order? w = some o) ∧
        ∀ a b, v = .json a → w = .json b → (w.compareCell? v.toJson = some .eq ↔ b.same a)) ∧
    ∀ table tenant conditions assignments (m m' : Memory) (updated : List Row) column v,
      v.isReadable → SetsTo assignments column v →
      backend (.update table tenant conditions assignments) m = (.ok updated, m') →
      (∀ row ∈ updated, Found column v row) ∧
        ∀ i ∈ placesOf (selects table tenant conditions) (m.rows table.name),
          ∀ m'' j, Tracked table.name column m' i m'' j →
            ∃ row, (m''.rows table.name)[j]? = some row ∧ Found column v row := by
  constructor
  · intro v w hv hw hKind
    have hCompare : w.compareCell? v.toJson = v.order? w := Value.compareCell?_toJson hv hKind
    refine ⟨hCompare, Value.exists_order? hv hw hKind, ?_⟩
    rintro a b rfl rfl
    rw [hCompare]
    exact Value.order?_json_eq_iff
  · intro table tenant conditions assignments m m' updated column v hReadable hSets hUpdate
    have hAssigned : ∀ row, Found column v (assign assignments row) := fun row =>
      found_of_cell hReadable (hSets.cell_assign row)
    rcases update_eq table tenant conditions assignments m with ⟨e, hError⟩ | hOk
    · rw [backend, hError] at hUpdate
      cases hUpdate
    · rw [backend, hOk] at hUpdate
      cases hUpdate
      constructor
      · intro row hRow
        obtain ⟨i, -, rfl⟩ := List.mem_map.mp hRow
        exact hAssigned _
      · intro i hi m'' j hTracked
        obtain ⟨old, hOld, -⟩ := mem_placesOf.mp hi
        have hHere : ((m.setRows table.name (changeAt (assign assignments)
            (placesOf (selects table tenant conditions) (m.rows table.name))
            (m.rows table.name))).rows table.name)[i]? = some (assign assignments old) := by
          rw [rows_setRows_self, getElem?_changeAt _ (placesOf_nodup _ _), if_pos hi, hOld]
          rfl
        obtain ⟨row, hRow, hCell⟩ := hTracked.cell_eq hHere
        exact ⟨row, hRow, found_of_cell hReadable (hCell.trans (hSets.cell_assign old))⟩

end Memory

namespace Jobs

/-- The middle of the leap second 2016-12-31T23:59:60Z. -/
def leapSecond : Instant :=
  ⟨1483228799, 1500000000, by decide, by decide, by decide, fun _ => rfl⟩

/-- Two jobs that wait. -/
def pair : Memory := ⟨[("jobs", [waiting "a", waiting "b"])], 1⟩

/-- All jobs become due at that time. -/
def postpone : Command := .update store.table tenant [] [⟨"due_at", .timestamp leapSecond⟩]

/-- The first job is removed, and the second one moves up. -/
def removeFirst : Command := .delete store.table tenant [⟨"id", .eq (.text "a")⟩]

end Jobs

/-- Two jobs are postponed to a leap second, and the second one moves up when the first is removed.
It is found there at its time, which comes after the second before. -/
theorem jobs_found_when_due :
    let second : Value := .timestamp Jobs.leapSecond
    let before : Value := .timestamp ⟨1483228799, 0, by decide, by decide, by decide, nofun⟩
    let postponed := (Memory.backend Jobs.postpone Jobs.pair).2
    let shortened := (Memory.backend Jobs.removeFirst postponed).2
    before.compareCell? second.toJson = some .gt ∧
      ∃ row, (shortened.rows "jobs")[0]? = some row ∧ Found "due_at" second row := by
  intro second before postponed shortened
  have hReadable : second.isReadable := by decide +kernel
  obtain ⟨hCompare, hFound⟩ := Memory.written_values_found
  refine ⟨(hCompare second before hReadable (by decide +kernel) rfl).1, ?_⟩
  have hUpdate : Memory.backend Jobs.postpone Jobs.pair =
      (.ok [(Jobs.waiting "a").insert "due_at" second.toJson,
        (Jobs.waiting "b").insert "due_at" second.toJson], postponed) := rfl
  have hKept : ¬ postponed.Overwrites 1 "due_at" Jobs.removeFirst := fun h => h.2
  have hPlace : postponed.placeAfter? 1 Jobs.removeFirst = some 0 := by decide +kernel
  have hSets : Memory.SetsTo [⟨"due_at", second⟩] "due_at" second :=
    ⟨[], [], rfl, fun _ h => absurd h List.not_mem_nil⟩
  obtain ⟨-, hTable⟩ := hFound Jobs.store.table Jobs.tenant [] [⟨"due_at", second⟩] Jobs.pair
    postponed _ "due_at" second hReadable hSets hUpdate
  have hTracked : Memory.Tracked "jobs" "due_at" postponed 1 shortened 0 :=
    Memory.Tracked.next .start Jobs.removeFirst rfl hKept hPlace
  exact hTable 1 (by decide +kernel) shortened 0 hTracked

end Tenancy
