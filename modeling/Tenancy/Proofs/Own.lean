import Tenancy.Proofs.Backend.Isolation
import Tenancy.Proofs.Queue.WriteBack

/-!
# The rows of one tenant

Among the rows of a table those of a tenant have an order of their own, and each of them has a place
in the table (`placeOf`). What a command of the tenant does at places of the table it does to the
tenant's rows alone: it finds the same rows, in the same order, and changes them in the same way
(`claimedPlaces_filter`, `filter_changeAt_placeOf`). An update checks its rows against those of all
tenants, but where the ids of the tenant's rows are not those of others, and all declared keys have
the tenant in them, only its own rows count (`updateAt_own`).

So of two tables with the same rows of a tenant, a command of the tenant that assigns no ids makes
tables with the same rows of the tenant again, and answers the same (`backend_alike`).
-/

namespace Tenancy

/-! ## Places of some rows among all rows -/

namespace Memory

variable {p q : Row → Bool} {f : Row → Row}

/-- The place in the table of the row that comes at a place among those with a property. -/
def placeOf (p : Row → Bool) : List Row → Nat → Nat
  | [], k => k
  | row :: rest, k =>
    if p row then
      match k with
      | 0 => 0
      | k + 1 => placeOf p rest k + 1
    else placeOf p rest k + 1

theorem getElem?_placeOf (p : Row → Bool) (rows : List Row) (k : Nat) :
    rows[placeOf p rows k]? = (rows.filter p)[k]? := by
  induction rows generalizing k with
  | nil => rfl
  | cons row rest ih =>
    by_cases hRow : p row
    · cases k with
      | zero => simp [placeOf, hRow]
      | succ k => simp [placeOf, hRow, ih]
    · simp [placeOf, hRow, ih]

theorem getD_placeOf (p : Row → Bool) (rows : List Row) (k : Nat) :
    rows.getD (placeOf p rows k) .empty = (rows.filter p).getD k .empty := by
  rw [List.getD_eq_getElem?_getD, List.getD_eq_getElem?_getD, getElem?_placeOf]

/-- Rows that are changed among those with the property are changed in the table. -/
theorem filter_modify_placeOf (hf : ∀ row, p row → p (f row)) (rows : List Row) (k : Nat) :
    (rows.modify (placeOf p rows k) f).filter p = (rows.filter p).modify k f := by
  induction rows generalizing k with
  | nil => simp
  | cons row rest ih =>
    by_cases hRow : p row
    · cases k with
      | zero => simp [placeOf, hRow, hf row hRow]
      | succ k => simp [placeOf, hRow, ih]
    · simp [placeOf, hRow, ih]

theorem placeOf_modify (hf : ∀ row, p row → p (f row)) (rows : List Row) (k : Nat) :
    placeOf p (rows.modify (placeOf p rows k) f) = placeOf p rows := by
  induction rows generalizing k with
  | nil => simp
  | cons row rest ih =>
    funext j
    by_cases hRow : p row
    · cases k with
      | zero => simp [placeOf, hRow, hf row hRow]
      | succ k => simp [placeOf, hRow, ih]
    · simp [placeOf, hRow, ih]

theorem filter_eraseIdx_placeOf (p : Row → Bool) (rows : List Row) (k : Nat) :
    (rows.eraseIdx (placeOf p rows k)).filter p = (rows.filter p).eraseIdx k := by
  induction rows generalizing k with
  | nil => simp
  | cons row rest ih =>
    by_cases hRow : p row
    · cases k with
      | zero => simp [placeOf, hRow]
      | succ k => simp [placeOf, hRow, ih]
    · simp [placeOf, hRow, ih]

theorem filter_changeAt_placeOf (hf : ∀ row, p row → p (f row)) (rows : List Row)
    (places : List Nat) :
    (changeAt f (places.map (placeOf p rows)) rows).filter p =
      changeAt f places (rows.filter p) := by
  induction places generalizing rows with
  | nil => rfl
  | cons k rest ih =>
    have hRest := ih (rows.modify (placeOf p rows k) f)
    rw [placeOf_modify hf, filter_modify_placeOf hf] at hRest
    exact hRest

theorem placesOf_cons (p : Row → Bool) (row : Row) (rest : List Row) :
    placesOf p (row :: rest) =
      (if p row then [0] else []) ++ (placesOf p rest).map (· + 1) := by
  simp only [placesOf, List.length_cons, List.range_succ_eq_map, List.filter_cons, List.filter_map]
  split <;> simp_all <;> rfl

/-- Where a property comes with another one, the places of its rows are found among those with the
other. -/
theorem placesOf_eq_map (hSub : ∀ row, q row → p row) (rows : List Row) :
    placesOf q rows = (placesOf q (rows.filter p)).map (placeOf p rows) := by
  induction rows with
  | nil => rfl
  | cons row rest ih =>
    by_cases hRow : p row
    · rw [List.filter_cons_of_pos hRow, placesOf_cons, placesOf_cons, ih]
      split <;> simp [placeOf, hRow]
    · have hNot : q row = false := by
        cases hCase : q row with
        | false => rfl
        | true => exact absurd (hSub row hCase) hRow
      rw [List.filter_cons_of_neg hRow, placesOf_cons, ih, hNot]
      simp [placeOf, hRow]

/-! ## Rows that are told apart from those of others -/

variable {table : Table} {tenant : TenantId} {rows rows' : List Row}

/-- The rows of the tenant, in their order. -/
def own (table : Table) (tenant : TenantId) (rows : List Row) : List Row :=
  rows.filter (ownedBy table tenant)

/-- All rows carry a tenant, and no row of the tenant has the id of a row of another one. -/
structure Separate (table : Table) (tenant : TenantId) (rows : List Row) : Prop where
  tagged : Tagged table rows
  ids : ∀ a ∈ rows, ∀ b ∈ rows, ownedBy table tenant a → ownedBy table tenant b = false →
    Json.sameCell (a.cell table.idColumn) (b.cell table.idColumn) = false

theorem KeysApart.separate (h : KeysApart table rows) (hTagged : Tagged table rows) :
    Separate table tenant rows := by
  refine ⟨hTagged, fun a ha b hb hOwned hForeign => ?_⟩
  obtain ⟨i, hi⟩ := List.mem_iff_getElem?.mp ha
  obtain ⟨j, hj⟩ := List.mem_iff_getElem?.mp hb
  refine (keysApart_iff.mp h i j a b ?_ hi hj).id
  rintro rfl
  cases Option.some.inj (hi.symm.trans hj)
  rw [hOwned] at hForeign
  cases hForeign

end Memory

namespace Queue.KeepsIdentity

variable {table : Table} {f : Row → Row}

theorem ownedBy (hf : KeepsIdentity table f) (tenant : TenantId) (row : Row) :
    Memory.ownedBy table tenant (f row) = Memory.ownedBy table tenant row := by
  rw [Memory.ownedBy, Memory.ownedBy, hf.tenant]

theorem carries (hf : KeepsIdentity table f) {row : Row} {owner : TenantId}
    (h : row.Carries table owner) : (f row).Carries table owner := by
  have hCell := (hf.tenant row).trans h.cell_eq
  unfold Row.cell at hCell
  unfold Row.Carries
  cases hSome : (f row).get? table.tenantColumn with
  | none =>
    rw [hSome] at hCell
    cases hCell
  | some cell =>
    rw [hSome] at hCell
    exact congrArg some hCell

end Queue.KeepsIdentity

namespace Memory

variable {p : Row → Bool} {f : Row → Row} {table : Table} {tenant : TenantId}
  {rows rows' : List Row}

namespace Separate

theorem subset (h : Separate table tenant rows) (hSub : ∀ row ∈ rows', row ∈ rows) :
    Separate table tenant rows' :=
  ⟨fun row hRow => h.tagged row (hSub row hRow),
    fun a ha b hb => h.ids a (hSub a ha) b (hSub b hb)⟩

theorem changeAt (h : Separate table tenant rows) {places : List Nat} (hNodup : places.Nodup)
    (hf : Queue.KeepsIdentity table f) : Separate table tenant (changeAt f places rows) := by
  -- Every row comes from an old one with the same tenant and the same id.
  have hOld : ∀ row ∈ Memory.changeAt f places rows, ∃ old ∈ rows,
      (∀ owner, old.Carries table owner → row.Carries table owner) ∧
        ownedBy table tenant row = ownedBy table tenant old ∧
        row.cell table.idColumn = old.cell table.idColumn := by
    intro row hRow
    obtain ⟨i, old, hSome, ⟨-, rfl⟩ | ⟨-, rfl⟩⟩ := mem_changeAt hNodup hRow
    · exact ⟨row, List.mem_of_getElem? hSome, fun _ hCarries => hCarries, rfl, rfl⟩
    · exact ⟨old, List.mem_of_getElem? hSome, fun _ => hf.carries, hf.ownedBy tenant old, hf.id old⟩
  refine ⟨?_, ?_⟩
  · intro row hRow
    obtain ⟨old, hMem, hCarries, -⟩ := hOld row hRow
    obtain ⟨owner, hOwner⟩ := h.tagged old hMem
    exact ⟨owner, hCarries owner hOwner⟩
  · intro a ha b hb hOwned hForeign
    obtain ⟨a', ha', -, hOwnerA, hIdA⟩ := hOld a ha
    obtain ⟨b', hb', -, hOwnerB, hIdB⟩ := hOld b hb
    rw [hIdA, hIdB]
    exact h.ids a' ha' b' hb' (hOwnerA ▸ hOwned) (hOwnerB ▸ hForeign)

/-- Where all keys have the tenant in them, a row of the tenant collides with no row of another
one, and it does not either after a change that keeps its id and its tenant. -/
theorem apart (h : Separate table tenant rows)
    (hKeys : ∀ key ∈ table.uniqueKeys, table.tenantColumn ∈ key)
    (hf : Queue.KeepsIdentity table f) {a b : Row} (ha : a ∈ rows) (hb : b ∈ rows)
    (hOwned : ownedBy table tenant a) (hForeign : ownedBy table tenant b = false) :
    Apart table (f a) b := by
  intro key hKey hAgree
  rcases List.mem_cons.mp hKey with rfl | hKey
  · have hSame := hAgree table.idColumn (List.mem_singleton.mpr rfl)
    rw [hf.id, h.ids a ha b hb hOwned hForeign] at hSame
    cases hSame
  · have hSame := hAgree table.tenantColumn (hKeys key hKey)
    obtain ⟨owner, hOwner⟩ := h.tagged b hb
    rw [hf.tenant, (h.tagged.carries_of_ownedBy ha hOwned).cell_eq, hOwner.cell_eq,
      Json.sameCell_tenant, decide_eq_true_iff] at hSame
    rw [ownedBy_of_carries hOwner, ← hSame, decide_eq_true rfl] at hForeign
    cases hForeign

end Separate

/-! ## Updates -/

/-- Rows that the new one does not collide with do not count in the check. -/
theorem checkUnique_filter {others : List Row} {row : Row}
    (h : ∀ other ∈ others, p other = false → Apart table row other) :
    checkUnique table others row = checkUnique table (others.filter p) row := by
  have hFound : others.findSome? (collision? table row) =
      (others.filter p).findSome? (collision? table row) := by
    induction others with
    | nil => rfl
    | cons other rest ih =>
      have hRest := ih fun other hOther => h other (List.mem_cons_of_mem _ hOther)
      cases hCase : p other with
      | true => rw [List.filter_cons_of_pos hCase, List.findSome?_cons, List.findSome?_cons, hRest]
      | false =>
        have hNone := collision?_eq_none_iff.mpr (h other List.mem_cons_self hCase)
        rw [List.filter_cons_of_neg (by simp [hCase]), List.findSome?_cons, hNone, hRest]
  rw [checkUnique, checkUnique, hFound]

/-- An update of rows of the tenant has the outcome that it has on the tenant's rows alone. -/
theorem updateAt_own {assignments : List Assignment}
    (hKeys : ∀ key ∈ table.uniqueKeys, table.tenantColumn ∈ key)
    (hf : Queue.KeepsIdentity table (assign assignments)) {places : List Nat}
    (hPlaces : ∀ k ∈ places, k < (own table tenant rows).length)
    (h : Separate table tenant rows) :
    (updateAt table assignments (places.map (placeOf (ownedBy table tenant) rows)) rows).map
        (fun result => (result.1, own table tenant result.2)) =
      updateAt table assignments places (own table tenant rows) := by
  have hStays : ∀ row, ownedBy table tenant row → ownedBy table tenant (assign assignments row) :=
    fun row hOwned => (hf.ownedBy tenant row).trans hOwned
  induction places generalizing rows with
  | nil => rfl
  | cons k rest ih =>
    obtain ⟨row, hOwn⟩ : ∃ row, (own table tenant rows)[k]? = some row :=
      ⟨_, List.getElem?_eq_getElem (hPlaces k List.mem_cons_self)⟩
    have hRow : rows[placeOf (ownedBy table tenant) rows k]? = some row :=
      (getElem?_placeOf _ rows k).trans hOwn
    obtain ⟨hMem, hOwned⟩ := List.mem_filter.mp (List.mem_of_getElem? hOwn)
    -- The rows of other tenants do not count in the check.
    have hCheck : checkUnique table (rows.eraseIdx (placeOf (ownedBy table tenant) rows k))
        (assign assignments row) =
          checkUnique table ((own table tenant rows).eraseIdx k) (assign assignments row) := by
      rw [own, ← filter_eraseIdx_placeOf]
      exact checkUnique_filter fun other hOther hForeign =>
        h.apart hKeys hf hMem (List.mem_of_mem_eraseIdx hOther) hOwned hForeign
    have hNext := h.changeAt (List.nodup_singleton (placeOf (ownedBy table tenant) rows k)) hf
    have hBound : ∀ j ∈ rest, j < (own table tenant (changeAt (assign assignments)
        [placeOf (ownedBy table tenant) rows k] rows)).length := by
      intro j hj
      rw [own, changeAt, List.foldl_cons, List.foldl_nil, filter_modify_placeOf hStays,
        List.length_modify]
      exact hPlaces j (List.mem_cons_of_mem _ hj)
    have hRest := ih hBound hNext
    rw [own, changeAt, List.foldl_cons, List.foldl_nil, filter_modify_placeOf hStays,
      placeOf_modify hStays] at hRest
    rw [List.map_cons, updateAt, updateAt, getD_of_getElem? hRow, getD_of_getElem? hOwn, hCheck,
      set_eq_modify hRow, set_eq_modify hOwn]
    rw [own, ← hRest]
    cases checkUnique table ((rows.filter (ownedBy table tenant)).eraseIdx k)
      (assign assignments row) with
    | error e => rfl
    | ok _ =>
      cases updateAt table assignments (rest.map (placeOf (ownedBy table tenant) rows))
        (rows.modify (placeOf (ownedBy table tenant) rows k) (assign assignments)) <;> rfl

/-- The changed rows are told apart as before. -/
theorem Separate.updateAt (h : Separate table tenant rows) {assignments : List Assignment}
    (hf : Queue.KeepsIdentity table (assign assignments)) {updated : List Row}
    (hUpdate : updateAt table assignments (placesOf p rows) rows = .ok (updated, rows')) :
    Separate table tenant rows' := by
  obtain ⟨-, rfl⟩ := updateAt_eq_ok (placesOf_nodup _ _) (fun _ => lt_of_mem_placesOf) hUpdate
  exact h.changeAt (placesOf_nodup _ _) hf

/-! ## Reads and claims -/

theorem filter_selects (table : Table) (tenant : TenantId) (conditions : List Condition)
    (rows : List Row) :
    rows.filter (selects table tenant conditions) =
      (own table tenant rows).filter (selects table tenant conditions) := by
  rw [own, List.filter_filter]
  refine List.filter_congr fun row _ => ?_
  rw [selects]
  cases ownedBy table tenant row <;> simp

/-- Where all eligible rows have a property, a claim takes its rows from those that have it. -/
theorem claimedPlaces_filter {c : Claim} (hSub : ∀ row, isEligible table tenant c row → p row)
    (rows : List Row) :
    claimedPlaces table tenant c rows =
      (claimedPlaces table tenant c (rows.filter p)).map (placeOf p rows) := by
  unfold claimedPlaces
  dsimp only
  rw [placesOf_eq_map hSub, List.map_take]
  congr 1
  refine stableSort_map (fun i j => ?_) _
  rw [getD_placeOf, getD_placeOf]

/-- If it keeps the property, a claim answers what it answers where there are no other rows, and
makes of the rows with the property what it makes of them there. -/
theorem claim_filter {c : Claim} (hSub : ∀ row, isEligible table tenant c row → p row)
    (hStays : ∀ row, p row → p (markClaimed c row)) (m : Memory) :
    (m.claim table tenant c).1 =
        (claimedPlaces table tenant c ((m.rows table.name).filter p)).map
          (fun i => markClaimed c (((m.rows table.name).filter p).getD i .empty)) ∧
      ((m.claim table tenant c).2.rows table.name).filter p =
        changeAt (markClaimed c) (claimedPlaces table tenant c ((m.rows table.name).filter p))
          ((m.rows table.name).filter p) := by
  rw [claim_eq]
  dsimp only
  rw [rows_setRows_self, claimedPlaces_filter hSub, List.map_map]
  refine ⟨List.map_congr_left fun k _ => ?_, filter_changeAt_placeOf hStays _ _⟩
  rw [Function.comp_apply, getD_placeOf]

end Memory

/-! ## Commands -/

/-- A command that assigns no ids: it inserts no rows and does not write to the column of the
id. -/
def Command.KeepsIds (table : Table) : Command → Prop
  | .select _ _ _ | .count _ _ _ | .delete _ _ _ => True
  | .update _ _ _ assignments => ∀ a ∈ assignments, a.name ≠ table.idColumn
  | .claim _ _ c => c.status ≠ table.idColumn ∧ c.claimedAt ≠ some table.idColumn
  | .insert _ _ | .upsert _ _ => False

namespace Memory

variable {table : Table} {tenant : TenantId} {m m' : Memory}

/-- Tables with the same rows of the tenant, whose ids are not those of others in either table. -/
structure Alike (table : Table) (tenant : TenantId) (m m' : Memory) : Prop where
  own_eq : own table tenant (m.rows table.name) = own table tenant (m'.rows table.name)
  left : Separate table tenant (m.rows table.name)
  right : Separate table tenant (m'.rows table.name)

theorem Alike.setRows {rows rows' : List Row}
    (hOwn : own table tenant rows = own table tenant rows')
    (hLeft : Separate table tenant rows) (hRight : Separate table tenant rows') :
    Alike table tenant (m.setRows table.name rows) (m'.setRows table.name rows') := by
  refine ⟨?_, ?_, ?_⟩
  · rw [rows_setRows_self, rows_setRows_self, hOwn]
  · rwa [rows_setRows_self]
  · rwa [rows_setRows_self]

namespace Alike

theorem select_eq (h : Alike table tenant m m') (s : Selection) :
    m.select table tenant s = m'.select table tenant s := by
  have hFound := filter_selects table tenant s.conditions (m.rows table.name)
  rw [h.own_eq, ← filter_selects] at hFound
  rw [select, select, hFound]

theorem count_eq (h : Alike table tenant m m') (conditions : List Condition) :
    m.count table tenant conditions = m'.count table tenant conditions := by
  rw [count, count, List.countP_eq_length_filter, List.countP_eq_length_filter, filter_selects,
    h.own_eq, ← filter_selects]

theorem delete (h : Alike table tenant m m') (conditions : List Condition) :
    (m.delete table tenant conditions).1 = (m'.delete table tenant conditions).1 ∧
      Alike table tenant (m.delete table tenant conditions).2
        (m'.delete table tenant conditions).2 := by
  refine ⟨h.count_eq conditions, .setRows ?_ ?_ ?_⟩
  · have hLeft : ∀ rows : List Row,
        own table tenant (rows.filter (!selects table tenant conditions ·)) =
          (own table tenant rows).filter (!selects table tenant conditions ·) := by
      intro rows
      rw [own, own, List.filter_filter, List.filter_filter]
      exact List.filter_congr fun row _ => Bool.and_comm _ _
    rw [hLeft, hLeft, h.own_eq]
  · exact h.left.subset fun row hRow => List.mem_of_mem_filter hRow
  · exact h.right.subset fun row hRow => List.mem_of_mem_filter hRow

/-- Whether an update succeeds is up to the rows of its tenant. -/
theorem update (h : Alike table tenant m m')
    (hKeys : ∀ key ∈ table.uniqueKeys, table.tenantColumn ∈ key) (conditions : List Condition)
    {assignments : List Assignment} (hf : Queue.KeepsIdentity table (assign assignments)) :
    (m.update table tenant conditions assignments).1 =
        (m'.update table tenant conditions assignments).1 ∧
      Alike table tenant (m.update table tenant conditions assignments).2
        (m'.update table tenant conditions assignments).2 := by
  have hOwn : ∀ rows, Separate table tenant rows →
      (updateAt table assignments (placesOf (selects table tenant conditions) rows) rows).map
          (fun result => (result.1, own table tenant result.2)) =
        updateAt table assignments
          (placesOf (selects table tenant conditions) (own table tenant rows))
          (own table tenant rows) := by
    intro rows hSeparate
    rw [placesOf_eq_map selects_owned]
    exact updateAt_own hKeys hf (fun _ => lt_of_mem_placesOf) hSeparate
  have hSame := hOwn _ h.left
  rw [h.own_eq, ← hOwn _ h.right] at hSame
  unfold Memory.update
  dsimp only
  cases hLeft : updateAt table assignments
      (placesOf (selects table tenant conditions) (m.rows table.name)) (m.rows table.name) with
  | error e =>
    cases hRight : updateAt table assignments
        (placesOf (selects table tenant conditions) (m'.rows table.name)) (m'.rows table.name) with
    | error e' =>
      rw [hLeft, hRight] at hSame
      cases hSame
      exact ⟨rfl, h⟩
    | ok result =>
      rw [hLeft, hRight] at hSame
      cases hSame
  | ok result =>
    cases hRight : updateAt table assignments
        (placesOf (selects table tenant conditions) (m'.rows table.name)) (m'.rows table.name) with
    | error e' =>
      rw [hLeft, hRight] at hSame
      cases hSame
    | ok result' =>
      rw [hLeft, hRight] at hSame
      obtain ⟨hUpdated, hRows⟩ := Prod.mk.inj (Except.ok.inj hSame)
      exact ⟨congrArg Except.ok hUpdated, .setRows hRows (h.left.updateAt hf hLeft)
        (h.right.updateAt hf hRight)⟩

theorem claim (h : Alike table tenant m m') {c : Claim}
    (hf : Queue.KeepsIdentity table (markClaimed c)) :
    (m.claim table tenant c).1 = (m'.claim table tenant c).1 ∧
      Alike table tenant (m.claim table tenant c).2 (m'.claim table tenant c).2 := by
  have hOwn := claim_filter (c := c) (p := ownedBy table tenant) isEligible_owned
    fun row hOwned => (hf.ownedBy tenant row).trans hOwned
  refine ⟨?_, ?_, ?_, ?_⟩
  · rw [(hOwn m).1, (hOwn m').1, ← own, ← own, h.own_eq]
  · rw [own, own, (hOwn m).2, (hOwn m').2, ← own, ← own, h.own_eq]
  · rw [rows_claim]
    exact h.left.changeAt (claimedPlaces_nodup _ _ _ _) hf
  · rw [rows_claim]
    exact h.right.changeAt (claimedPlaces_nodup _ _ _ _) hf

end Alike

/-- Where all declared keys have the tenant in them, commands of the tenant that assign no ids do
not tell tables with the same rows of the tenant apart, and they keep these rows the same. -/
theorem backend_alike (hKeys : ∀ key ∈ table.uniqueKeys, table.tenantColumn ∈ key) {c : Command}
    (hConfined : c.ConfinedTo table tenant) (hIds : c.KeepsIds table)
    (h : Alike table tenant m m') :
    (backend c m).1 = (backend c m').1 ∧
      Alike table tenant (backend c m).2 (backend c m').2 := by
  cases c with
  | select t owner s =>
    obtain ⟨rfl, rfl⟩ := hConfined
    exact ⟨congrArg Except.ok (h.select_eq s), h⟩
  | count t owner conditions =>
    obtain ⟨rfl, rfl⟩ := hConfined
    exact ⟨congrArg Except.ok (h.count_eq conditions), h⟩
  | insert t rows => exact hIds.elim
  | upsert t rows => exact hIds.elim
  | update t owner conditions assignments =>
    obtain ⟨rfl, rfl, hTenant⟩ := hConfined
    have hf : Queue.KeepsIdentity t (assign assignments) := by
      refine ⟨fun row => ?_, fun row => ?_⟩
      · rw [Row.cell, get?_assign_of_ne hIds, Row.cell]
      · rw [Row.cell, get?_assign_of_ne hTenant, Row.cell]
    exact h.update hKeys conditions hf
  | delete t owner conditions =>
    obtain ⟨rfl, rfl⟩ := hConfined
    obtain ⟨hCount, hAfter⟩ := h.delete conditions
    exact ⟨congrArg Except.ok hCount, hAfter⟩
  | claim t owner c =>
    obtain ⟨rfl, rfl, hStatus, hClaimedAt⟩ := hConfined
    have hf : Queue.KeepsIdentity t (markClaimed c) := by
      refine ⟨fun row => ?_, fun row => ?_⟩
      · rw [Row.cell, get?_markClaimed, if_neg hIds.2, if_neg (Ne.symm hIds.1), Row.cell]
      · rw [Row.cell, get?_markClaimed, if_neg hClaimedAt, if_neg (Ne.symm hStatus), Row.cell]
    obtain ⟨hAnswer, hAfter⟩ := h.claim hf
    exact ⟨congrArg Except.ok hAnswer, hAfter⟩

end Memory

end Tenancy
