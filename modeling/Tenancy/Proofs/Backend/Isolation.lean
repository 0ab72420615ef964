import Tenancy.Proofs.Backend.Claim
import Tenancy.Proofs.Patch

/-!
# Commands of a tenant leave the rows of others alone

In a table whose rows all carry a tenant, a row belongs to exactly one (`ownedBy_of_carries`). A
change `KeepsForeign` if all rows still carry a tenant and those of the other tenants are the same
in the same order. `backend_isolated` shows this of every confined command, together with what it
answers: rows of its tenant only. The rows of an answer are the tenant's own in any tables, also
where some rows carry none (`owned_of_backend`).
-/

namespace Tenancy

variable {table : Table} {tenant owner : TenantId}

/-! ## Rows that carry a tenant -/

namespace Row.Carries

variable {row : Row}

theorem cell_eq (h : row.Carries table tenant) :
    row.cell table.tenantColumn = .string tenant.text := by
  rw [Row.cell, h]
  rfl

theorem insert (h : row.Carries table tenant) {name : String} (hName : name ≠ table.tenantColumn)
    (cell : Json) : (row.insert name cell).Carries table tenant := by
  rw [Row.Carries, Row.get?_insert_of_ne row cell hName.symm]
  exact h

/-- A row that is laid over another one keeps its tenant. -/
theorem overlay {upper : Row} (h : upper.Carries table tenant) :
    (row.overlay upper).Carries table tenant := by
  rw [Row.Carries, Row.get?_overlay, show upper.get? table.tenantColumn = _ from h]
  rfl

theorem assign {assignments : List Assignment}
    (hNames : ∀ a ∈ assignments, a.name ≠ table.tenantColumn) (h : row.Carries table tenant) :
    (Memory.assign assignments row).Carries table tenant := by
  rw [Row.Carries, Memory.get?_assign_of_ne hNames]
  exact h

theorem markClaimed {c : Claim} (hStatus : c.status ≠ table.tenantColumn)
    (hClaimedAt : c.claimedAt ≠ some table.tenantColumn) (h : row.Carries table tenant) :
    (Memory.markClaimed c row).Carries table tenant := by
  have hMarked := h.insert hStatus c.inProgress.toJson
  unfold Memory.markClaimed
  cases hCase : c.claimedAt with
  | none => exact hMarked
  | some column =>
    exact hMarked.insert (fun hEq => hClaimedAt (hCase.trans (congrArg some hEq))) _

theorem withId (h : row.Carries table tenant) (hColumns : table.idColumn ≠ table.tenantColumn)
    (nextId : Int64) : (Memory.withId table row nextId).1.Carries table tenant := by
  unfold Memory.withId
  split
  · exact h.insert hColumns _
  · exact h

end Row.Carries

namespace Memory

variable {rows rows' : List Row}

/-- A row that carries a tenant belongs to it and to no other one. -/
theorem ownedBy_of_carries {row : Row} (h : row.Carries table owner) (tenant : TenantId) :
    ownedBy table tenant row = decide (owner = tenant) := by
  rw [ownedBy, h.cell_eq, Value.ofTenant_matchesCell]

/-! ## Changes that keep the rows of others -/

/-- Every row carries a tenant. -/
def Tagged (table : Table) (rows : List Row) : Prop :=
  ∀ row ∈ rows, ∃ owner, row.Carries table owner

/-- The rows of all other tenants, in their order. -/
def foreign (table : Table) (tenant : TenantId) (rows : List Row) : List Row :=
  rows.filter (!ownedBy table tenant ·)

/-- All rows of the new table carry a tenant, and those of the others are the old ones. -/
structure KeepsForeign (table : Table) (tenant : TenantId) (rows rows' : List Row) : Prop where
  tagged : Tagged table rows'
  foreign_eq : foreign table tenant rows' = foreign table tenant rows

theorem Tagged.carries_of_ownedBy (h : Tagged table rows) {row : Row} (hRow : row ∈ rows)
    (hOwned : ownedBy table tenant row) : row.Carries table tenant := by
  obtain ⟨owner, hCarries⟩ := h row hRow
  rw [ownedBy_of_carries hCarries, decide_eq_true_iff] at hOwned
  exact hOwned ▸ hCarries

/-- The rows at the places of a tenant's rows carry that tenant. -/
theorem Tagged.carries_at (h : Tagged table rows) {q : Row → Bool}
    (hOwned : ∀ row, q row → ownedBy table tenant row) {i : Nat} (hi : i ∈ placesOf q rows) :
    ∃ row, rows[i]? = some row ∧ row.Carries table tenant := by
  obtain ⟨row, hRow, hq⟩ := mem_placesOf.mp hi
  exact ⟨row, hRow, h.carries_of_ownedBy (List.mem_of_getElem? hRow) (hOwned row hq)⟩

namespace KeepsForeign

theorem refl (h : Tagged table rows) : KeepsForeign table tenant rows rows := ⟨h, rfl⟩

theorem trans {rows'' : List Row} (h : KeepsForeign table tenant rows rows')
    (h' : KeepsForeign table tenant rows' rows'') : KeepsForeign table tenant rows rows'' :=
  ⟨h'.tagged, h'.foreign_eq.trans h.foreign_eq⟩

theorem append (h : Tagged table rows) {row : Row} (hRow : row.Carries table tenant) :
    KeepsForeign table tenant rows (rows ++ [row]) := by
  refine ⟨?_, ?_⟩
  · intro other hOther
    rcases List.mem_append.mp hOther with hOther | hOther
    · exact h other hOther
    · exact ⟨tenant, List.mem_singleton.mp hOther ▸ hRow⟩
  · simp [foreign, ownedBy_of_carries hRow]

/-- Rows of the tenant may be changed if they stay with it. -/
theorem changeAt (h : Tagged table rows) {f : Row → Row} {places : List Nat}
    (hNodup : places.Nodup)
    (hPlaces : ∀ i ∈ places, ∃ row, rows[i]? = some row ∧ row.Carries table tenant)
    (hf : ∀ row : Row, row.Carries table tenant → (f row).Carries table tenant) :
    KeepsForeign table tenant rows (changeAt f places rows) := by
  refine ⟨?_, filter_changeAt hNodup ?_⟩
  · intro row hRow
    obtain ⟨i, old, hOld, hCase⟩ := mem_changeAt hNodup hRow
    rcases hCase with ⟨-, rfl⟩ | ⟨hi, rfl⟩
    · exact h row (List.mem_of_getElem? hOld)
    · obtain ⟨old', hOld', hCarries⟩ := hPlaces i hi
      cases Option.some.inj (hOld.symm.trans hOld')
      exact ⟨tenant, hf old hCarries⟩
  · intro i hi
    obtain ⟨old, hOld, hCarries⟩ := hPlaces i hi
    refine ⟨old, hOld, ?_, ?_⟩
    · simp [ownedBy_of_carries hCarries]
    · simp [ownedBy_of_carries (hf old hCarries)]

/-- A row of the tenant may be replaced by another one of it. -/
theorem set (h : Tagged table rows) {i : Nat} {old new : Row} (hOld : rows[i]? = some old)
    (hCarries : old.Carries table tenant) (hNew : new.Carries table tenant) :
    KeepsForeign table tenant rows (rows.set i new) := by
  have hSet : rows.set i new = Memory.changeAt (fun _ => new) [i] rows :=
    set_eq_modify hOld fun _ => new
  rw [hSet]
  refine changeAt h (List.nodup_singleton i) ?_ fun _ _ => hNew
  intro j hj
  rw [List.mem_singleton.mp hj]
  exact ⟨old, hOld, hCarries⟩

/-- Rows of the tenant may be removed. -/
theorem filter (h : Tagged table rows) {gone : Row → Bool}
    (hGone : ∀ row, gone row → ownedBy table tenant row) :
    KeepsForeign table tenant rows (rows.filter (!gone ·)) := by
  refine ⟨fun row hRow => h row (List.mem_of_mem_filter hRow), ?_⟩
  rw [foreign, foreign, List.filter_filter]
  refine List.filter_congr fun row _ => ?_
  cases hCase : gone row with
  | false => simp
  | true => simp [hGone row hCase]

end KeepsForeign

/-! ## Writes -/

section Written

variable {row written : Row} {s : Staged} (hColumns : table.idColumn ≠ table.tenantColumn)
  (hRow : row.Carries table tenant)
include hColumns hRow

theorem carries_of_append (h : (append table row s).1 = .ok written) :
    written.Carries table tenant := by
  unfold append at h
  have hWithId := hRow.withId hColumns s.nextId
  generalize withId table row s.nextId = drawn at h hWithId
  obtain ⟨row', nextId⟩ := drawn
  dsimp only at h
  split at h
  · cases h
  · exact Except.ok.inj h ▸ hWithId

theorem carries_of_insertOne (h : (insertOne table row s).1 = .ok written) :
    written.Carries table tenant := by
  unfold insertOne at h
  split at h
  · cases h
  · exact carries_of_append hColumns hRow h

theorem carries_of_upsertOne (h : (upsertOne table row s).1 = .ok written) :
    written.Carries table tenant := by
  unfold upsertOne at h
  split at h
  · cases h
  · dsimp only at h
    split at h
    · exact carries_of_append hColumns hRow h
    · split at h
      · split at h
        · cases h
        · exact Except.ok.inj h ▸ hRow.overlay
      · cases h

end Written

/-- The outcome of writing a row: the table keeps the rows of others, and what was written carries
the tenant. -/
structure WritesFor (table : Table) (tenant : TenantId) (before : List Row)
    (outcome : Except StoreError Row × Staged) : Prop where
  keeps : KeepsForeign table tenant before outcome.2.rows
  carries : ∀ written, outcome.1 = .ok written → written.Carries table tenant

namespace WritesFor

variable {row : Row} {s : Staged}

theorem append (h : Tagged table s.rows) (hColumns : table.idColumn ≠ table.tenantColumn)
    (hRow : row.Carries table tenant) :
    WritesFor table tenant s.rows (append table row s) := by
  refine ⟨?_, fun _ => carries_of_append hColumns hRow⟩
  unfold Memory.append
  have hWithId := hRow.withId hColumns s.nextId
  generalize withId table row s.nextId = drawn at hWithId
  obtain ⟨row', nextId⟩ := drawn
  dsimp only
  split
  · exact .refl h
  · exact .append h hWithId

theorem insertOne (h : Tagged table s.rows) (hColumns : table.idColumn ≠ table.tenantColumn)
    (hRow : row.Carries table tenant) :
    WritesFor table tenant s.rows (insertOne table row s) := by
  refine ⟨?_, fun _ => carries_of_insertOne hColumns hRow⟩
  unfold Memory.insertOne
  split
  · exact .refl h
  · exact (append h hColumns hRow).keeps

theorem upsertOne (h : Tagged table s.rows) (hColumns : table.idColumn ≠ table.tenantColumn)
    (hRow : row.Carries table tenant) :
    WritesFor table tenant s.rows (upsertOne table row s) := by
  refine ⟨?_, fun _ => carries_of_upsertOne hColumns hRow⟩
  unfold Memory.upsertOne
  split
  · exact .refl h
  · dsimp only
    split
    · exact (append h hColumns hRow).keeps
    · rename_i i hFound
      obtain ⟨hLength, -⟩ := List.findIdx?_eq_some_iff_getElem.mp hFound
      have hStored := List.getElem?_eq_getElem hLength
      rw [getD_of_getElem? hStored]
      split
      · -- The stored row is of the same tenant: all rows carry one, and the cells are the same.
        rename_i hSame
        obtain ⟨owner, hOwner⟩ := h _ (List.getElem_mem hLength)
        rw [hOwner.cell_eq, hRow.cell_eq, Json.sameCell_tenant, decide_eq_true_iff] at hSame
        subst hSame
        split
        · exact .refl h
        · exact .set h hStored hOwner hRow.overlay
      · exact .refl h

end WritesFor

/-! ## All commands -/

/-- What a command of a tenant does: other tables stay as they are, so do the rows of other
tenants, and the rows that it answers carry the tenant. -/
structure Isolated {α : Type} (table : Table) (tenant : TenantId) (m : Memory)
    (answered : α → List Row) (outcome : Except StoreError α × Memory) : Prop where
  elsewhere : ∀ name, name ≠ table.name → outcome.2.rows name = m.rows name
  keeps : KeepsForeign table tenant (m.rows table.name) (outcome.2.rows table.name)
  carries : ∀ a, outcome.1 = .ok a → ∀ row ∈ answered a, row.Carries table tenant

variable {m : Memory}

/-- A command that puts rows in place of those of its table. -/
theorem Isolated.setRows {α : Type} {answered : α → List Row} {result : α}
    (hKeeps : KeepsForeign table tenant (m.rows table.name) rows)
    (hCarries : ∀ row ∈ answered result, row.Carries table tenant) (nextId : Int64) :
    Isolated table tenant m answered
      (.ok result, { m.setRows table.name rows with nextId := nextId }) := by
  refine ⟨fun name hName => rows_setRows_of_ne m rows hName, ?_, ?_⟩
  · exact (rows_setRows_self m table.name rows).symm ▸ hKeeps
  · intro a hOk
    cases Except.ok.inj hOk
    exact hCarries

/-- A command that changes rows of the tenant and answers them. -/
theorem Isolated.changeAt {f : Row → Row} {places : List Nat}
    (h : Tagged table (m.rows table.name)) (hNodup : places.Nodup)
    (hPlaces : ∀ i ∈ places, ∃ row, (m.rows table.name)[i]? = some row ∧ row.Carries table tenant)
    (hf : ∀ row : Row, row.Carries table tenant → (f row).Carries table tenant) :
    Isolated table tenant m id (.ok (places.map fun i => f ((m.rows table.name).getD i .empty)),
      m.setRows table.name (Memory.changeAt f places (m.rows table.name))) := by
  refine .setRows (.changeAt h hNodup hPlaces hf) ?_ m.nextId
  intro row hRow
  obtain ⟨i, hi, rfl⟩ := List.mem_map.mp hRow
  obtain ⟨old, hOld, hCarries⟩ := hPlaces i hi
  exact getD_of_getElem? hOld ▸ hf old hCarries

/-- A command that changes no rows. -/
theorem Isolated.unchanged {α : Type} {answered : α → List Row} {result : Except StoreError α}
    (h : Tagged table (m.rows table.name))
    (hCarries : ∀ a, result = .ok a → ∀ row ∈ answered a, row.Carries table tenant)
    (nextId : Int64) :
    Isolated table tenant m answered (result, { m with nextId := nextId }) :=
  ⟨fun _ _ => rfl, .refl h, hCarries⟩

theorem write_isolated {one : Row → Staged → Except StoreError Row × Staged}
    (hOne : ∀ row s, Tagged table s.rows → row.Carries table tenant →
      WritesFor table tenant s.rows (one row s))
    (h : Tagged table (m.rows table.name)) (hRows : ∀ row ∈ rows, row.Carries table tenant) :
    Isolated table tenant m id (write one table rows m) := by
  have hStep : ∀ row s, KeepsForeign table tenant (m.rows table.name) s.rows →
      row.Carries table tenant →
      KeepsForeign table tenant (m.rows table.name) (one row s).2.rows ∧
        ∀ a, (one row s).1 = .ok a → a.Carries table tenant := by
    intro row s hKeeps hRow
    have hWrites := hOne row s hKeeps.tagged hRow
    exact ⟨hKeeps.trans hWrites.keeps, hWrites.carries⟩
  have hStage := stageAll_induction hStep (s := ⟨m.rows table.name, m.nextId⟩) (.refl h) hRows
  unfold write
  generalize stageAll one rows ⟨m.rows table.name, m.nextId⟩ = outcome at hStage
  obtain ⟨e | written, s⟩ := outcome
  · exact .unchanged h (fun _ hOk => by cases hOk) _
  · exact .setRows hStage.1 (hStage.2 written rfl) _

theorem mem_select {s : Selection} {row : Row} (h : row ∈ m.select table tenant s) :
    row ∈ m.rows table.name ∧ selects table tenant s.conditions row := by
  have hOrdered : row ∈ (if s.order.isEmpty then
      (m.rows table.name).filter (selects table tenant s.conditions) else
      stableSort (SortKey.compareAll s.order)
        ((m.rows table.name).filter (selects table tenant s.conditions))) := by
    unfold select page at h
    dsimp only at h
    split at h
    · exact List.mem_of_mem_drop (List.mem_of_mem_take h)
    · exact List.mem_of_mem_drop h
  split at hOrdered
  · exact List.mem_filter.mp hOrdered
  · exact List.mem_filter.mp ((stableSort_perm _ _).mem_iff.mp hOrdered)

/-- **A confined command leaves the rows of other tenants alone** and answers rows of its tenant
only. -/
theorem backend_isolated {c : Command} (hc : c.ConfinedTo table tenant)
    (hColumns : table.idColumn ≠ table.tenantColumn) (h : Tagged table (m.rows table.name)) :
    Isolated table tenant m c.rowsIn (backend c m) := by
  cases c with
  | select t owner s =>
    obtain ⟨rfl, rfl⟩ := hc
    refine .unchanged h ?_ m.nextId
    intro found hOk row hRow
    cases Except.ok.inj hOk
    obtain ⟨hMem, hSelects⟩ := mem_select hRow
    exact h.carries_of_ownedBy hMem (selects_owned row hSelects)
  | count t owner conditions =>
    obtain ⟨rfl, rfl⟩ := hc
    exact .unchanged h (fun _ _ _ hRow => absurd hRow List.not_mem_nil) m.nextId
  | insert t rows =>
    obtain ⟨rfl, hRows⟩ := hc
    exact write_isolated (fun _ _ h hRow => .insertOne h hColumns hRow) h hRows
  | upsert t rows =>
    obtain ⟨rfl, hRows⟩ := hc
    exact write_isolated (fun _ _ h hRow => .upsertOne h hColumns hRow) h hRows
  | update t owner conditions assignments =>
    obtain ⟨rfl, rfl, hNames⟩ := hc
    rcases update_eq t owner conditions assignments m with ⟨e, hUpdate⟩ | hUpdate
    · rw [backend, hUpdate]
      exact .unchanged h (fun _ hOk => by cases hOk) m.nextId
    · rw [backend, hUpdate]
      exact .changeAt h (placesOf_nodup _ _) (fun i hi => h.carries_at selects_owned hi)
        fun _ => .assign hNames
  | delete t owner conditions =>
    obtain ⟨rfl, rfl⟩ := hc
    exact .setRows (.filter h selects_owned) (fun _ hRow => absurd hRow List.not_mem_nil) m.nextId
  | claim t owner c =>
    obtain ⟨rfl, rfl, hStatus, hClaimedAt⟩ := hc
    exact .changeAt h (claimedPlaces_nodup _ _ _ _)
      (fun i hi => h.carries_at isEligible_owned (mem_claimedPlaces hi))
      fun _ => .markClaimed hStatus hClaimedAt

/-! ## Owners of what is answered -/

/-- Rows at the places of a tenant's rows belong to it after a change that keeps the owner. -/
theorem owned_at {q : Row → Bool} (hOwned : ∀ row, q row → ownedBy table tenant row)
    {f : Row → Row} (hf : ∀ row, (f row).cell table.tenantColumn = row.cell table.tenantColumn)
    {places : List Nat} (hPlaces : ∀ i ∈ places, i ∈ placesOf q rows) :
    ∀ row ∈ places.map fun i => f (rows.getD i .empty), ownedBy table tenant row := by
  intro row hRow
  obtain ⟨i, hi, rfl⟩ := List.mem_map.mp hRow
  obtain ⟨old, hOld, hq⟩ := mem_placesOf.mp (hPlaces i hi)
  rw [getD_of_getElem? hOld, ownedBy, hf]
  exact hOwned old hq

theorem owned_of_write {one : Row → Staged → Except StoreError Row × Staged}
    (hOne : ∀ row s written, row.Carries table tenant → (one row s).1 = .ok written →
      written.Carries table tenant)
    (hRows : ∀ row ∈ rows, row.Carries table tenant) {written : List Row}
    (h : (write one table rows m).1 = .ok written) :
    ∀ row ∈ written, ownedBy table tenant row := by
  obtain ⟨-, hAll⟩ := @stageAll_induction _ one (fun _ => True) _ _
    (fun row s _ hRow => ⟨trivial, fun written => hOne row s written hRow⟩)
    ⟨m.rows table.name, m.nextId⟩ trivial hRows
  unfold write at h
  generalize stageAll one rows ⟨m.rows table.name, m.nextId⟩ = outcome at h hAll
  obtain ⟨e | _, s⟩ := outcome
  · cases h
  · cases h
    intro row hRow
    have hCarries : row.Carries table tenant := hAll written rfl row hRow
    simp [ownedBy_of_carries hCarries]

/-- In any tables a confined command answers rows that belong to its tenant. -/
theorem owned_of_backend {c : Command} (hc : c.ConfinedTo table tenant)
    (hColumns : table.idColumn ≠ table.tenantColumn) {answer : c.Result}
    (h : (backend c m).1 = .ok answer) : ∀ row ∈ c.rowsIn answer, ownedBy table tenant row := by
  cases c with
  | select t owner s =>
    obtain ⟨rfl, rfl⟩ := hc
    cases h
    exact fun row hRow => selects_owned row (mem_select hRow).2
  | count t owner conditions => exact fun _ hRow => absurd hRow List.not_mem_nil
  | delete t owner conditions => exact fun _ hRow => absurd hRow List.not_mem_nil
  | insert t rows =>
    obtain ⟨rfl, hRows⟩ := hc
    exact owned_of_write (fun _ _ _ hRow => carries_of_insertOne hColumns hRow) hRows h
  | upsert t rows =>
    obtain ⟨rfl, hRows⟩ := hc
    exact owned_of_write (fun _ _ _ hRow => carries_of_upsertOne hColumns hRow) hRows h
  | update t owner conditions assignments =>
    obtain ⟨rfl, rfl, hNames⟩ := hc
    rcases update_eq t owner conditions assignments m with ⟨e, hUpdate⟩ | hUpdate
    · rw [backend, hUpdate] at h
      cases h
    · rw [backend, hUpdate] at h
      cases h
      refine owned_at selects_owned (fun row => ?_) fun _ hi => hi
      rw [Row.cell, get?_assign_of_ne hNames, Row.cell]
  | claim t owner c =>
    obtain ⟨rfl, rfl, hStatus, hClaimedAt⟩ := hc
    cases h
    refine owned_at isEligible_owned (fun row => ?_) fun _ => mem_claimedPlaces
    rw [Row.cell, get?_markClaimed, if_neg hClaimedAt, if_neg hStatus.symm, Row.cell]

end Memory

end Tenancy
