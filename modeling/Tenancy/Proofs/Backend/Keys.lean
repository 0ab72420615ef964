import Mathlib.Data.List.Find
import Tenancy.Proofs.Backend.Claim

/-!
# Unique keys of a table

Two rows collide if they agree on the id or on a declared key. Every write checks its rows against
the others before it lets them in, so no sequence of writes brings two rows of a table into a
collision (`writes_keep_apart`). A claim checks nothing. It keeps the keys apart exactly if every
row that it takes would have passed the check (`claim_keeps_apart_iff`).
-/

namespace Tenancy

/-- The columns that a claim writes to. -/
def Claim.stamped (c : Claim) : List String := c.status :: c.claimedAt.toList

namespace Jobs

/-- The table of jobs where a field tells the jobs of one tenant apart. -/
def keyed (field : String) : Table := ⟨"jobs", "id", "tenant_id", none, [["tenant_id", field]]⟩

/-- The row of a job of the tenant that was taken. -/
def taken (id : String) : Row := (waiting id).insert "status" (.string "TAKEN")

end Jobs

namespace Memory

variable {table : Table} {tenant : TenantId} {rows : List Row} {row : Row} {m : Memory}

/-! ## Collisions -/

/-- The rows have the same cells under all columns of the key, and none of these is `null`. -/
def AgreeOn (key : List String) (a b : Row) : Prop :=
  ∀ column ∈ key, Json.sameCell (a.cell column) (b.cell column)

instance (key : List String) (a b : Row) : Decidable (AgreeOn key a b) :=
  inferInstanceAs (Decidable (∀ column ∈ key, Json.sameCell (a.cell column) (b.cell column)))

/-- The rows agree on no key of the table; the id is one of the keys. -/
def Apart (table : Table) (a b : Row) : Prop :=
  ∀ key ∈ [table.idColumn] :: table.uniqueKeys, ¬ AgreeOn key a b

instance (table : Table) (a b : Row) : Decidable (Apart table a b) :=
  inferInstanceAs (Decidable (∀ key ∈ [table.idColumn] :: table.uniqueKeys, ¬ AgreeOn key a b))

theorem AgreeOn.symm {key : List String} {a b : Row} (h : AgreeOn key a b) : AgreeOn key b a := by
  intro column hColumn
  rw [Json.sameCell_comm]
  exact h column hColumn

theorem Apart.symm {a b : Row} (h : Apart table a b) : Apart table b a :=
  fun key hKey hAgree => h key hKey hAgree.symm

theorem Apart.id {a b : Row} (h : Apart table a b) :
    Json.sameCell (a.cell table.idColumn) (b.cell table.idColumn) = false := by
  have hId := h [table.idColumn] List.mem_cons_self
  simpa [AgreeOn] using hId

theorem collision?_eq_none_iff {a b : Row} : collision? table a b = none ↔ Apart table a b := by
  rw [collision?, List.find?_eq_none]
  refine forall₂_congr fun key _ => ?_
  rw [List.all_eq_true]
  rfl

/-- A row is let in beside others if it collides with none of them. -/
theorem checkUnique_eq_ok_iff :
    checkUnique table rows row = .ok () ↔ ∀ other ∈ rows, Apart table row other := by
  have hNone : rows.findSome? (collision? table row) = none ↔
      ∀ other ∈ rows, Apart table row other := by
    rw [List.findSome?_eq_none_iff]
    exact forall₂_congr fun other _ => collision?_eq_none_iff
  rw [← hNone, checkUnique]
  cases rows.findSome? (collision? table row) <;> simp

/-- Whether a row is let in depends on its id and its keys only. -/
theorem checkUnique_congr {row' : Row}
    (h : ∀ key ∈ [table.idColumn] :: table.uniqueKeys, ∀ column ∈ key,
      row.cell column = row'.cell column) (others : List Row) :
    checkUnique table others row = checkUnique table others row' := by
  have hSame : collision? table row = collision? table row' := by
    funext other
    refine List.find?_congr fun key hKey => ?_
    rw [Bool.eq_iff_iff, List.all_eq_true, List.all_eq_true]
    exact forall₂_congr fun column hColumn => by rw [h key hKey column hColumn]
  rw [checkUnique, checkUnique, hSame]

/-- A row is not let in beside a row that it collides with. -/
theorem checkUnique_eq_error {other : Row} (hOther : other ∈ rows) (h : ¬ Apart table row other) :
    ∃ key, checkUnique table rows row = .error (.conflict (.duplicateKey table.name key)) := by
  cases hFound : rows.findSome? (collision? table row) with
  | none =>
    have hNone := List.findSome?_eq_none_iff.mp hFound _ hOther
    exact absurd (collision?_eq_none_iff.mp hNone) h
  | some key => exact ⟨key, by rw [checkUnique, hFound]⟩

/-- A row that is not let in collides on some key. -/
theorem checkUnique_cases (table : Table) (others : List Row) (row : Row) :
    checkUnique table others row = .ok () ∨
      ∃ key, checkUnique table others row =
        .error (.conflict (.duplicateKey table.name key)) := by
  unfold checkUnique
  cases others.findSome? (collision? table row) with
  | none => exact .inl rfl
  | some key => exact .inr ⟨key, rfl⟩

/-- An update that selects one row is let in if the new row is. -/
theorem update_singleton {conditions : List Condition} {i : Nat}
    (hPlaces : placesOf (selects table tenant conditions) (m.rows table.name) = [i])
    (hRow : (m.rows table.name)[i]? = some row) (assignments : List Assignment) :
    m.update table tenant conditions assignments =
      match checkUnique table ((m.rows table.name).eraseIdx i) (assign assignments row) with
      | .error e => (.error e, m)
      | .ok _ => (.ok [assign assignments row], m.setRows table.name
          (changeAt (assign assignments) [i] (m.rows table.name))) := by
  rw [Memory.update, hPlaces]
  simp only [updateAt, getD_of_getElem? hRow]
  cases checkUnique table ((m.rows table.name).eraseIdx i) (assign assignments row) with
  | error e => rfl
  | ok _ =>
    rw [set_eq_modify hRow]
    rfl

/-! ## Updates that keep the keys -/

/-- A change of rows that leaves the id and all keys alone. -/
def KeepsKeys (table : Table) (f : Row → Row) : Prop :=
  ∀ row, ∀ key ∈ [table.idColumn] :: table.uniqueKeys, ∀ column ∈ key,
    (f row).cell column = row.cell column

theorem KeepsKeys.apart_iff {f g : Row → Row} (hf : KeepsKeys table f) (hg : KeepsKeys table g)
    {a b : Row} : Apart table (f a) (g b) ↔ Apart table a b := by
  refine forall₂_congr fun key hKey => not_congr (forall₂_congr fun column hColumn => ?_)
  rw [hf a key hKey column hColumn, hg b key hKey column hColumn]

/-- The row at the place collides with no other one. -/
def Alone (table : Table) (rows : List Row) (i : Nat) : Prop :=
  ∀ (j : Nat) (row other : Row), i ≠ j → rows[i]? = some row → rows[j]? = some other →
    Apart table row other

theorem checkUnique_eraseIdx_iff {i : Nat} (hRow : rows[i]? = some row) :
    checkUnique table (rows.eraseIdx i) row = .ok () ↔ Alone table rows i := by
  rw [checkUnique_eq_ok_iff]
  constructor
  · intro h j row' other hPlaces hRow' hOther
    cases Option.some.inj (hRow.symm.trans hRow')
    exact h other (List.mem_eraseIdx_iff_getElem?.mpr ⟨j, Ne.symm hPlaces, hOther⟩)
  · intro h other hOther
    obtain ⟨j, hPlaces, hSome⟩ := List.mem_eraseIdx_iff_getElem?.mp hOther
    exact h j row other (Ne.symm hPlaces) hRow hSome

/-- Who collides with whom is the same after a change that keeps the keys. -/
theorem alone_modify_iff {f : Row → Row} (hf : KeepsKeys table f) {i j : Nat} :
    Alone table (rows.modify i f) j ↔ Alone table rows j := by
  have hChange : ∀ k : Nat, ∃ g : Row → Row, KeepsKeys table g ∧
      (rows.modify i f)[k]? = rows[k]?.map g := by
    intro k
    refine ⟨fun row => if i = k then f row else row, ?_, List.getElem?_modify f i rows k⟩
    intro row key hKey column hColumn
    dsimp only
    split
    · exact hf row key hKey column hColumn
    · rfl
  constructor
  · intro h k row other hPlaces hRow hOther
    obtain ⟨g, hg, hRow'⟩ := hChange j
    obtain ⟨g', hg', hOther'⟩ := hChange k
    rw [hRow] at hRow'
    rw [hOther] at hOther'
    exact (hg.apart_iff hg').mp (h k _ _ hPlaces hRow' hOther')
  · intro h k row other hPlaces hRow hOther
    obtain ⟨g, hg, hRow'⟩ := hChange j
    obtain ⟨g', hg', hOther'⟩ := hChange k
    rw [hRow'] at hRow
    rw [hOther'] at hOther
    obtain ⟨old, hOld, rfl⟩ := Option.map_eq_some_iff.mp hRow
    obtain ⟨oldOther, hOldOther, rfl⟩ := Option.map_eq_some_iff.mp hOther
    exact (hg.apart_iff hg').mpr (h k old oldOther hPlaces hOld hOldOther)

theorem alone_changeAt_iff {f : Row → Row} (hf : KeepsKeys table f) (places : List Nat) {j : Nat} :
    Alone table (changeAt f places rows) j ↔ Alone table rows j := by
  induction places generalizing rows with
  | nil => rfl
  | cons i rest ih => exact ih.trans (alone_modify_iff hf)

/-- An update that keeps the keys goes in exactly if none of its rows collides with another row. -/
theorem updateAt_cases {assignments : List Assignment} (hf : KeepsKeys table (assign assignments))
    {places : List Nat} (hPlaces : ∀ i ∈ places, i < rows.length) :
    ((∀ i ∈ places, Alone table rows i) ∧
        ∃ result, updateAt table assignments places rows = .ok result) ∨
      (∃ i ∈ places, ¬Alone table rows i) ∧ ∃ key, updateAt table assignments places rows =
        .error (.conflict (.duplicateKey table.name key)) := by
  induction places generalizing rows with
  | nil => exact .inl ⟨fun _ hi => absurd hi List.not_mem_nil, _, rfl⟩
  | cons i rest ih =>
    obtain ⟨row, hRow⟩ : ∃ row, rows[i]? = some row :=
      ⟨_, List.getElem?_eq_getElem (hPlaces i List.mem_cons_self)⟩
    have hCheck := checkUnique_congr (hf row) (rows.eraseIdx i)
    rw [updateAt, getD_of_getElem? hRow, hCheck]
    rcases checkUnique_cases table (rows.eraseIdx i) row with hOk | ⟨key, hConflict⟩
    · have hAlone := (checkUnique_eraseIdx_iff hRow).mp hOk
      rw [hOk, set_eq_modify hRow]
      have hBound : ∀ j ∈ rest, j < (rows.modify i (assign assignments)).length := by
        intro j hj
        rw [List.length_modify]
        exact hPlaces j (List.mem_cons_of_mem _ hj)
      have hRest := ih hBound
      simp only [alone_modify_iff hf] at hRest
      rcases hRest with ⟨hAll, ⟨updated, rows'⟩, hUpdate⟩ | ⟨⟨j, hj, hCollides⟩, key, hUpdate⟩
      · refine .inl ⟨List.forall_mem_cons.mpr ⟨hAlone, hAll⟩,
          (assign assignments row :: updated, rows'), ?_⟩
        simp only [hUpdate]
        rfl
      · refine .inr ⟨⟨j, List.mem_cons_of_mem _ hj, hCollides⟩, key, ?_⟩
        simp only [hUpdate]
        rfl
    · refine .inr ⟨⟨i, List.mem_cons_self, ?_⟩, key, ?_⟩
      · intro hAlone
        rw [(checkUnique_eraseIdx_iff hRow).mpr hAlone] at hConflict
        cases hConflict
      · rw [hConflict]
        rfl

theorem update_cases {tenant : TenantId} {conditions : List Condition}
    {assignments : List Assignment} (hf : KeepsKeys table (assign assignments)) (m : Memory) :
    let places := placesOf (selects table tenant conditions) (m.rows table.name)
    ((∀ i ∈ places, Alone table (m.rows table.name) i) ∧
        m.update table tenant conditions assignments =
          (.ok (places.map fun i => assign assignments ((m.rows table.name).getD i .empty)),
            m.setRows table.name (changeAt (assign assignments) places (m.rows table.name)))) ∨
      (∃ i ∈ places, ¬Alone table (m.rows table.name) i) ∧ ∃ key,
        m.update table tenant conditions assignments =
          (.error (.conflict (.duplicateKey table.name key)), m) := by
  rcases updateAt_cases hf (fun _ => lt_of_mem_placesOf) with
    ⟨hAlone, result, hOk⟩ | ⟨hCollides, key, hError⟩
  · exact .inl ⟨hAlone, update_of_updateAt hOk⟩
  · refine .inr ⟨hCollides, key, ?_⟩
    rw [update, hError]

/-! ## Tables without collisions -/

/-- No two rows of the table collide. -/
def KeysApart (table : Table) (rows : List Row) : Prop := rows.Pairwise (Apart table)

instance (table : Table) (rows : List Row) : Decidable (KeysApart table rows) :=
  inferInstanceAs (Decidable (rows.Pairwise (Apart table)))

theorem keysApart_iff : KeysApart table rows ↔
    ∀ (i j : Nat) (a b : Row), i ≠ j → rows[i]? = some a → rows[j]? = some b →
      Apart table a b := by
  rw [KeysApart, List.pairwise_iff_getElem]
  constructor
  · intro h i j a b hPlaces ha hb
    obtain ⟨hi, rfl⟩ := List.getElem?_eq_some_iff.mp ha
    obtain ⟨hj, rfl⟩ := List.getElem?_eq_some_iff.mp hb
    rcases Nat.lt_or_gt_of_ne hPlaces with hLt | hLt
    · exact h i j hi hj hLt
    · exact (h j i hj hi hLt).symm
  · intro h i j hi hj hLt
    exact h i j _ _ (Nat.ne_of_lt hLt) (List.getElem?_eq_getElem hi) (List.getElem?_eq_getElem hj)

theorem keysApart_iff_alone : KeysApart table rows ↔ ∀ i, Alone table rows i :=
  keysApart_iff.trans ⟨fun h i j a b => h i j a b, fun h i j a b => h i j a b⟩

namespace KeysApart

theorem checkUnique_eraseIdx (h : KeysApart table rows) {i : Nat} (hRow : rows[i]? = some row) :
    checkUnique table (rows.eraseIdx i) row = .ok () := by
  refine checkUnique_eq_ok_iff.mpr fun other hOther => ?_
  obtain ⟨j, hPlaces, hSome⟩ := List.mem_eraseIdx_iff_getElem?.mp hOther
  exact keysApart_iff.mp h i j row other (Ne.symm hPlaces) hRow hSome

theorem append (h : KeysApart table rows) (hNew : checkUnique table rows row = .ok ()) :
    KeysApart table (rows ++ [row]) := by
  rw [KeysApart, List.pairwise_append]
  refine ⟨h, List.pairwise_singleton _ _, ?_⟩
  intro other hOther new hRow
  cases List.mem_singleton.mp hRow
  exact (checkUnique_eq_ok_iff.mp hNew other hOther).symm

/-- A row may be replaced by one that collides with none of the others. -/
theorem set (h : KeysApart table rows) {i : Nat}
    (hNew : checkUnique table (rows.eraseIdx i) row = .ok ()) :
    KeysApart table (rows.set i row) := by
  have hNew := checkUnique_eq_ok_iff.mp hNew
  rw [keysApart_iff] at h ⊢
  -- A row at another place is one of those that the new row was checked against.
  have hOther : ∀ (j : Nat) (other : Row), j ≠ i → rows[j]? = some other →
      Apart table row other := fun j other hPlace hSome =>
    hNew other (List.mem_eraseIdx_iff_getElem?.mpr ⟨j, hPlace, hSome⟩)
  intro j k a b hPlaces ha hb
  rw [List.getElem?_set] at ha hb
  split at ha <;> split at hb <;> rename_i hj hk
  · exact absurd (hj.symm.trans hk) hPlaces
  · split at ha
    · cases ha
      exact hOther k b (Ne.symm hk) hb
    · cases ha
  · split at hb
    · cases hb
      exact (hOther j a (Ne.symm hj) ha).symm
    · cases hb
  · exact h j k a b hPlaces ha hb

theorem filter (h : KeysApart table rows) (p : Row → Bool) : KeysApart table (rows.filter p) :=
  List.Pairwise.filter p h

/-- Two rows of a table without collisions that agree on a key are one row. -/
theorem eq_of_agreeOn (h : KeysApart table rows) {key : List String}
    (hKey : key ∈ table.uniqueKeys) {a b : Row} (ha : a ∈ rows) (hb : b ∈ rows)
    (hAgree : AgreeOn key a b) : a = b := by
  obtain ⟨i, hi⟩ := List.mem_iff_getElem?.mp ha
  obtain ⟨j, hj⟩ := List.mem_iff_getElem?.mp hb
  by_cases hPlaces : i = j
  · subst hPlaces
    exact Option.some.inj (hi.symm.trans hj)
  · exact absurd hAgree (keysApart_iff.mp h i j a b hPlaces hi hj key (List.mem_cons_of_mem _ hKey))

end KeysApart

/-! ## Writes -/

theorem append_keepsApart {s : Staged} (h : KeysApart table s.rows) :
    KeysApart table (append table row s).2.rows := by
  unfold append
  dsimp only
  split
  · exact h
  · rename_i hNew
    exact h.append hNew

theorem insertOne_keepsApart {s : Staged} (h : KeysApart table s.rows) :
    KeysApart table (insertOne table row s).2.rows := by
  unfold insertOne
  split
  · exact h
  · exact append_keepsApart h

/-- A row that goes over a stored one is checked against all rows but that one. -/
theorem upsertOne_keepsApart {s : Staged} (h : KeysApart table s.rows) :
    KeysApart table (upsertOne table row s).2.rows := by
  unfold upsertOne
  split
  · exact h
  · dsimp only
    split
    · exact append_keepsApart h
    · split
      · split
        · exact h
        · rename_i hNew
          exact h.set hNew
      · exact h

theorem write_keepsApart {one : Row → Staged → Except StoreError Row × Staged}
    (hOne : ∀ row s, KeysApart table s.rows → KeysApart table (one row s).2.rows)
    (h : KeysApart table (m.rows table.name)) (rows : List Row) :
    KeysApart table ((write one table rows m).2.rows table.name) := by
  have hStep : ∀ row s, KeysApart table s.rows → True →
      KeysApart table (one row s).2.rows ∧ ∀ written, (one row s).1 = .ok written → True :=
    fun row s hRows _ => ⟨hOne row s hRows, fun _ _ => trivial⟩
  have hStaged : KeysApart table (Staged.mk (m.rows table.name) m.nextId).rows := h
  have hStage := (stageAll_induction hStep hStaged fun row (_ : row ∈ rows) => trivial).1
  rcases write_cases one table rows m with ⟨e, -, hSame⟩ | ⟨written, -, -, hRows⟩
  · rwa [hSame]
  · rw [hRows]
    exact hStage

theorem updateAt_keepsApart {assignments : List Assignment} {places : List Nat}
    {updated rows' : List Row} (h : KeysApart table rows)
    (hUpdate : updateAt table assignments places rows = .ok (updated, rows')) :
    KeysApart table rows' := by
  induction places generalizing rows updated with
  | nil =>
    cases hUpdate
    exact h
  | cons i rest ih =>
    obtain ⟨⟨⟩, hNew, hUpdate⟩ := Except.bind_eq_ok.mp hUpdate
    obtain ⟨⟨others, rows''⟩, hRest, hUpdate⟩ := Except.bind_eq_ok.mp hUpdate
    cases Except.ok.inj hUpdate
    exact ih (h.set hNew) hRest

theorem update_keepsApart (h : KeysApart table (m.rows table.name)) (tenant : TenantId)
    (conditions : List Condition) (assignments : List Assignment) :
    KeysApart table ((m.update table tenant conditions assignments).2.rows table.name) := by
  unfold update
  dsimp only
  split
  · exact h
  · rename_i updated rows hUpdate
    rw [rows_setRows_self]
    exact updateAt_keepsApart h hUpdate

theorem delete_keepsApart (h : KeysApart table (m.rows table.name)) (tenant : TenantId)
    (conditions : List Condition) :
    KeysApart table ((m.delete table tenant conditions).2.rows table.name) := by
  rw [delete, rows_setRows_self]
  exact h.filter _

/-- A call that writes to a table. -/
inductive Write where
  | insert (rows : List Row)
  | upsert (rows : List Row)
  | update (tenant : TenantId) (conditions : List Condition) (assignments : List Assignment)
  | delete (tenant : TenantId) (conditions : List Condition)

namespace Write

def command (table : Table) : Write → Command
  | .insert rows => .insert table rows
  | .upsert rows => .upsert table rows
  | .update tenant conditions assignments => .update table tenant conditions assignments
  | .delete tenant conditions => .delete table tenant conditions

/-- What the call leaves, whether it succeeds or not. -/
def apply (table : Table) (m : Memory) (w : Write) : Memory := (backend (w.command table) m).2

theorem keepsApart (w : Write) (h : KeysApart table (m.rows table.name)) :
    KeysApart table ((w.apply table m).rows table.name) := by
  cases w with
  | insert rows => exact write_keepsApart (fun _ _ => insertOne_keepsApart) h rows
  | upsert rows => exact write_keepsApart (fun _ _ => upsertOne_keepsApart) h rows
  | update tenant conditions assignments => exact update_keepsApart h tenant conditions assignments
  | delete tenant conditions => exact delete_keepsApart h tenant conditions

theorem foldl_keepsApart (writes : List Write) (h : KeysApart table (m.rows table.name)) :
    KeysApart table ((writes.foldl (apply table) m).rows table.name) := by
  induction writes generalizing m with
  | nil => exact h
  | cons w rest ih => exact ih (w.keepsApart h)

end Write

/-- **Writes never bring two rows into a collision.** Of the rows that any sequence of writes leaves
in a table that was empty, no two have the same id and no two agree on a declared key. -/
theorem writes_keep_apart (table : Table) (m : Memory) (hEmpty : m.rows table.name = [])
    (writes : List Write) (i j : Nat) (a b : Row) (hPlaces : i ≠ j)
    (ha : ((writes.foldl (Write.apply table) m).rows table.name)[i]? = some a)
    (hb : ((writes.foldl (Write.apply table) m).rows table.name)[j]? = some b) :
    Json.sameCell (a.cell table.idColumn) (b.cell table.idColumn) = false ∧
      ∀ key ∈ table.uniqueKeys, ¬ AgreeOn key a b := by
  have hStart : KeysApart table (m.rows table.name) := by
    rw [hEmpty]
    exact List.Pairwise.nil
  have hApart := keysApart_iff.mp (Write.foldl_keepsApart writes hStart) i j a b hPlaces ha hb
  exact ⟨hApart.id, fun key hKey => hApart key (List.mem_cons_of_mem _ hKey)⟩

/-- A tenant may have one job of each status: the second job has to wait until the first is
taken. -/
theorem jobs_kept_apart :
    [Write.insert [Jobs.waiting "a"], .insert [Jobs.waiting "b"],
        .update Jobs.tenant [] [⟨"status", .text "TAKEN"⟩], .insert [Jobs.waiting "b"]].foldl
      (Write.apply (Jobs.keyed "status")) .empty =
        ⟨[("jobs", [Jobs.taken "a", Jobs.waiting "b"])], 1⟩ ∧
    Json.sameCell ((Jobs.taken "a").cell "id") ((Jobs.waiting "b").cell "id") = false ∧
      ∀ key ∈ [["tenant_id", "status"]], ¬ AgreeOn key (Jobs.taken "a") (Jobs.waiting "b") := by
  have hRun : [Write.insert [Jobs.waiting "a"], .insert [Jobs.waiting "b"],
        .update Jobs.tenant [] [⟨"status", .text "TAKEN"⟩], .insert [Jobs.waiting "b"]].foldl
      (Write.apply (Jobs.keyed "status")) .empty =
        ⟨[("jobs", [Jobs.taken "a", Jobs.waiting "b"])], 1⟩ := rfl
  have hApart := writes_keep_apart (Jobs.keyed "status") .empty rfl
    [.insert [Jobs.waiting "a"], .insert [Jobs.waiting "b"],
      .update Jobs.tenant [] [⟨"status", .text "TAKEN"⟩], .insert [Jobs.waiting "b"]]
    0 1 (Jobs.taken "a") (Jobs.waiting "b") (by decide)
  rw [hRun] at hApart
  exact ⟨hRun, hApart rfl rfl⟩

/-! ## Claims -/

theorem get?_markClaimed_of_not_mem {c : Claim} {column : String} (h : column ∉ c.stamped)
    (row : Row) : (markClaimed c row).get? column = row.get? column := by
  obtain ⟨hStatus, hClaimedAt⟩ : column ≠ c.status ∧ c.claimedAt ≠ some column := by
    simpa [Claim.stamped] using h
  rw [get?_markClaimed, if_neg hClaimedAt, if_neg hStatus]

theorem cell_markClaimed_of_not_mem {c : Claim} {column : String} (h : column ∉ c.stamped)
    (row : Row) : (markClaimed c row).cell column = row.cell column := by
  rw [Row.cell, get?_markClaimed_of_not_mem h, Row.cell]

/-- Every row behind a claim is a row from before, which the claim has marked if it took it. -/
theorem getElem?_claim {c : Claim} {i : Nat}
    (h : ((m.claim table tenant c).2.rows table.name)[i]? = some row) :
    ∃ old, (m.rows table.name)[i]? = some old ∧
      row = if i ∈ claimedPlaces table tenant c (m.rows table.name) then markClaimed c old
        else old := by
  rw [rows_claim, getElem?_changeAt _ (claimedPlaces_nodup _ _ _ _)] at h
  split at h
  · rename_i hTaken
    obtain ⟨old, hOld, rfl⟩ := Option.map_eq_some_iff.mp h
    exact ⟨old, hOld, (if_pos hTaken).symm⟩
  · rename_i hLeft
    exact ⟨row, h, (if_neg hLeft).symm⟩

/-- Rows collide behind a claim only where it took one of them, and only on a key it writes to. -/
theorem agreeOn_claim {c : Claim} (h : KeysApart table (m.rows table.name)) {i j : Nat}
    {a b : Row} (hPlaces : i ≠ j)
    (ha : ((m.claim table tenant c).2.rows table.name)[i]? = some a)
    (hb : ((m.claim table tenant c).2.rows table.name)[j]? = some b) {key : List String}
    (hKey : key ∈ [table.idColumn] :: table.uniqueKeys) (hAgree : AgreeOn key a b) :
    (i ∈ claimedPlaces table tenant c (m.rows table.name) ∨
      j ∈ claimedPlaces table tenant c (m.rows table.name)) ∧
        ∃ column ∈ key, column ∈ c.stamped := by
  obtain ⟨a', ha', rfl⟩ := getElem?_claim ha
  obtain ⟨b', hb', rfl⟩ := getElem?_claim hb
  have hBefore := keysApart_iff.mp h i j a' b' hPlaces ha' hb' key hKey
  constructor
  · by_contra hLeft
    obtain ⟨hi, hj⟩ := not_or.mp hLeft
    rw [if_neg hi, if_neg hj] at hAgree
    exact hBefore hAgree
  · by_contra hNone
    refine hBefore fun column hColumn => ?_
    have hCell := hAgree column hColumn
    have hKept := cell_markClaimed_of_not_mem (c := c) fun hStamped =>
      hNone ⟨column, hColumn, hStamped⟩
    split at hCell <;> split at hCell <;> simpa [hKept] using hCell

theorem claim_keepsApart_iff (h : KeysApart table (m.rows table.name)) (tenant : TenantId)
    (c : Claim) :
    KeysApart table ((m.claim table tenant c).2.rows table.name) ↔
      ∀ i ∈ claimedPlaces table tenant c (m.rows table.name), ∀ row,
        ((m.claim table tenant c).2.rows table.name)[i]? = some row →
          checkUnique table (((m.claim table tenant c).2.rows table.name).eraseIdx i) row =
            .ok () := by
  constructor
  · intro hAfter i _ row hRow
    exact hAfter.checkUnique_eraseIdx hRow
  · intro hChecked
    -- Each of two different places may be one of those that were checked.
    have hTaken : ∀ (i j : Nat) (a b : Row), i ≠ j →
        ((m.claim table tenant c).2.rows table.name)[i]? = some a →
        ((m.claim table tenant c).2.rows table.name)[j]? = some b →
        i ∈ claimedPlaces table tenant c (m.rows table.name) → Apart table a b := by
      intro i j a b hPlaces ha hb hi
      exact checkUnique_eq_ok_iff.mp (hChecked i hi a ha) b
        (List.mem_eraseIdx_iff_getElem?.mpr ⟨j, Ne.symm hPlaces, hb⟩)
    rw [keysApart_iff]
    intro i j a b hPlaces ha hb key hKey hAgree
    rcases (agreeOn_claim h hPlaces ha hb hKey hAgree).1 with hi | hj
    · exact hTaken i j a b hPlaces ha hb hi key hKey hAgree
    · exact hTaken j i b a (Ne.symm hPlaces) hb ha hj key hKey hAgree.symm

/-- **What a claim does to unique keys.** In a table of an accepted descriptor whose rows do not
collide, a claim with accepted columns
1. never fails,
2. leaves rows that do not collide if no declared key has a column that the claim writes to,
3. and in general does so exactly if every row that it takes passes, behind the claim, the check
   that other writes make. -/
theorem claim_keeps_apart {descriptor : Descriptor} {columns : ColumnMap} {roles : QueueRoles}
    {c : Claim} (hTable : descriptor.resolve = .ok (columns, table))
    (hRoles : roles.resolve descriptor columns = .ok c.toClaimColumns) (tenant : TenantId)
    (hApart : KeysApart table (m.rows table.name)) :
    (∃ rows, (backend (.claim table tenant c) m).1 = .ok rows) ∧
      ((∀ key ∈ table.uniqueKeys, ∀ column ∈ key, column ∉ c.stamped) →
        KeysApart table ((backend (.claim table tenant c) m).2.rows table.name)) ∧
      (KeysApart table ((backend (.claim table tenant c) m).2.rows table.name) ↔
        ∀ i ∈ claimedPlaces table tenant c (m.rows table.name), ∀ row,
          ((backend (.claim table tenant c) m).2.rows table.name)[i]? = some row →
            checkUnique table
              (((backend (.claim table tenant c) m).2.rows table.name).eraseIdx i) row =
                .ok ()) := by
  refine ⟨⟨_, rfl⟩, ?_, claim_keepsApart_iff hApart tenant c⟩
  intro hKeys
  have hResolved := Descriptor.resolved hTable
  obtain ⟨hStatus, hClaimedAt⟩ :=
    (QueueRoles.resolved hRoles).columns_ne hResolved.idColumn (Or.inr rfl)
  have hId : table.idColumn ∉ c.stamped := by
    simpa [Claim.stamped, Ne.symm hStatus] using hClaimedAt
  refine keysApart_iff.mpr fun i j a b hPlaces ha hb key hKey hAgree => ?_
  obtain ⟨-, column, hColumn, hStamped⟩ := agreeOn_claim hApart hPlaces ha hb hKey hAgree
  rcases List.mem_cons.mp hKey with rfl | hKey
  · rw [List.mem_singleton.mp hColumn] at hStamped
    exact hId hStamped
  · exact hKeys key hKey column hColumn hStamped

/-- Where the time when a job is due tells the jobs apart, a claim keeps them apart. -/
theorem jobs_claimed_apart :
    KeysApart (Jobs.keyed "due_at")
      ((backend (.claim (Jobs.keyed "due_at") Jobs.tenant Jobs.claim)
        ⟨[("jobs", [Jobs.waiting "a", Jobs.waiting "b"])], 1⟩).2.rows "jobs") := by
  have hApart : KeysApart (Jobs.keyed "due_at")
      (Memory.rows ⟨[("jobs", [Jobs.waiting "a", Jobs.waiting "b"])], 1⟩ "jobs") := by
    decide +kernel
  have hTable :
      Descriptor.resolve { Jobs.descriptor with uniqueKeys := [["tenant_id", "due_at"]] } =
        .ok (Jobs.columns, Jobs.keyed "due_at") := rfl
  have hRoles : Jobs.roles.resolve { Jobs.descriptor with uniqueKeys := [["tenant_id", "due_at"]] }
      Jobs.columns = .ok Jobs.claim.toClaimColumns := rfl
  exact (claim_keeps_apart hTable hRoles Jobs.tenant hApart).2.1 (by decide)

/-- Where one job is taken and a tenant may have one job of each status, the claim of another job
succeeds and brings the two into a collision. -/
theorem jobs_claimed_together :
    KeysApart (Jobs.keyed "status") [Jobs.taken "a", Jobs.waiting "b"] ∧
      (backend (.claim (Jobs.keyed "status") Jobs.tenant Jobs.claim)
        ⟨[("jobs", [Jobs.taken "a", Jobs.waiting "b"])], 1⟩).1 =
          .ok [markClaimed Jobs.claim (Jobs.waiting "b")] ∧
      ¬ KeysApart (Jobs.keyed "status")
        ((backend (.claim (Jobs.keyed "status") Jobs.tenant Jobs.claim)
          ⟨[("jobs", [Jobs.taken "a", Jobs.waiting "b"])], 1⟩).2.rows "jobs") :=
  ⟨by decide +kernel, rfl, by decide +kernel⟩

end Memory

end Tenancy
