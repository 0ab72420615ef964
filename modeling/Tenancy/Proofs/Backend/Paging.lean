import Tenancy.Proofs.Backend.Places
import Tenancy.Proofs.Operation
import Tenancy.Proofs.Order

/-!
# Reading in order and page by page

A selection sorts the rows it finds by the first criterion that tells two of them apart. A
criterion that does so puts the lower cell first if it is ascending and last if it is descending,
and `null` is the highest of all cells (`SortKey.nulls_at_end`). Rows that no criterion tells apart
stay in the order of the table. A limit and an offset cut a piece out of this list, so pages of one
size put together are the whole list again (`Memory.flatMap_page`). `Memory.pages_complete` states
all of this.
-/

namespace Tenancy

/-! ## The order by several criteria -/

namespace SortKey

variable {key : SortKey} {order : List SortKey} {rows : List Row} {a b : Row}

/-- The criterion does not tell the rows apart. -/
def Same (key : SortKey) (a b : Row) : Prop :=
  Json.compareCells (a.cell key.name) (b.cell key.name) = .eq

/-- The criterion puts the first row before the second one. -/
def Before (key : SortKey) (a b : Row) : Prop :=
  match key.direction with
  | .ascending => Json.compareCells (a.cell key.name) (b.cell key.name) = .lt
  | .descending => Json.compareCells (b.cell key.name) (a.cell key.name) = .lt

/-- No criterion tells the rows apart. -/
def Ties (order : List SortKey) (a b : Row) : Prop := ∀ key ∈ order, key.Same a b

/-- The first criterion that tells the rows apart puts the first row before the second one. -/
def Precedes (order : List SortKey) (a b : Row) : Prop :=
  ∃ front key back, order = front ++ key :: back ∧ Ties front a b ∧ key.Before a b

theorem compareRows_eq_lt_iff : key.compareRows a b = .lt ↔ key.Before a b := by
  unfold compareRows Before
  cases key.direction with
  | ascending => rfl
  | descending => exact iff_of_eq (congrArg (· = Ordering.lt) (Json.compareCells_swap _ _))

theorem compareRows_eq_eq_iff : key.compareRows a b = .eq ↔ key.Same a b := by
  unfold compareRows Same
  cases key.direction with
  | ascending => rfl
  | descending => simp

theorem compareRows_swap (key : SortKey) (a b : Row) :
    (key.compareRows a b).swap = key.compareRows b a := by
  unfold compareRows
  cases key.direction with
  | ascending => exact Json.compareCells_swap _ _
  | descending => exact congrArg Ordering.swap (Json.compareCells_swap _ _)

theorem compareAll_swap (order : List SortKey) (a b : Row) :
    (compareAll order a b).swap = compareAll order b a := by
  induction order with
  | nil => rfl
  | cons key rest ih =>
    change ((key.compareRows a b).then (compareAll rest a b)).swap = _
    rw [Ordering.swap_then, compareRows_swap, ih]
    rfl

theorem compareAll_eq_eq_iff : compareAll order a b = .eq ↔ Ties order a b := by
  induction order with
  | nil => exact iff_of_true rfl fun _ h => absurd h List.not_mem_nil
  | cons key rest ih =>
    change (key.compareRows a b).then (compareAll rest a b) = .eq ↔ _
    rw [Ordering.then_eq_eq, compareRows_eq_eq_iff, ih, Ties, Ties, List.forall_mem_cons]

theorem precedes_cons : Precedes (key :: order) a b ↔
    key.Before a b ∨ key.Same a b ∧ Precedes order a b := by
  constructor
  · rintro ⟨front, decisive, back, hOrder, hTies, hBefore⟩
    cases front with
    | nil =>
      obtain ⟨rfl, -⟩ := List.cons.inj hOrder
      exact .inl hBefore
    | cons first front =>
      obtain ⟨rfl, rfl⟩ := List.cons.inj hOrder
      obtain ⟨hSame, hTies⟩ := List.forall_mem_cons.mp hTies
      exact .inr ⟨hSame, front, decisive, back, rfl, hTies, hBefore⟩
  · rintro (hBefore | ⟨hSame, front, decisive, back, rfl, hTies, hBefore⟩)
    · exact ⟨[], key, order, rfl, fun _ h => absurd h List.not_mem_nil, hBefore⟩
    · exact ⟨key :: front, decisive, back, rfl, List.forall_mem_cons.mpr ⟨hSame, hTies⟩, hBefore⟩

theorem compareAll_eq_lt_iff : compareAll order a b = .lt ↔ Precedes order a b := by
  induction order with
  | nil =>
    refine iff_of_false nofun ?_
    rintro ⟨front, key, back, hOrder, -⟩
    simp at hOrder
  | cons key rest ih =>
    change (key.compareRows a b).then (compareAll rest a b) = .lt ↔ _
    rw [Ordering.then_eq_lt, compareRows_eq_lt_iff, compareRows_eq_eq_iff, ih, precedes_cons]

/-- A descending criterion reverses each step, so it is transitive where the ascending one is. -/
theorem compareRows_trans (h : Json.TransOn (rows.map (·.cell key.name))) :
    TransAmong key.compareRows rows := by
  have hCells : TransAmong (fun a b => Json.compareCells (a.cell key.name) (b.cell key.name))
      rows := TransAmong.of_map h
  intro a ha b hb c hc hab hbc
  unfold compareRows at hab hbc ⊢
  cases hDirection : key.direction with
  | ascending =>
    rw [hDirection] at hab hbc
    exact hCells a ha b hb c hc hab hbc
  | descending =>
    simp only [hDirection, Json.compareCells_swap] at hab hbc ⊢
    exact hCells c hc b hb a ha hbc hab

theorem compareAll_trans (h : ∀ key ∈ order, Json.TransOn (rows.map (·.cell key.name))) :
    TransAmong (compareAll order) rows := by
  induction order with
  | nil => exact fun _ _ _ _ _ _ _ _ => rfl
  | cons key rest ih =>
    obtain ⟨hKey, hRest⟩ := List.forall_mem_cons.mp h
    exact (compareRows_trans hKey).compareThen key.compareRows_swap (ih hRest)

/-- Rows without a cell come last if the criterion is ascending and first if it is descending. -/
theorem nulls_at_end (ha : a.cell key.name = .null) (hb : b.cell key.name ≠ .null) :
    match key.direction with
    | .ascending => key.Before b a
    | .descending => key.Before a b := by
  have hLast : Json.compareCells (b.cell key.name) (a.cell key.name) = .lt := by
    rw [ha]
    cases hCell : b.cell key.name with
    | null => exact absurd hCell hb
    | _ => rfl
  unfold Before
  cases key.direction <;> exact hLast

end SortKey

namespace Memory

variable {table : Table} {tenant : TenantId} {conditions : List Condition} {order : List SortKey}
  {rows : List Row} {m : Memory}

/-! ## Rows in order -/

/-- The places of the rows that a selection finds, in its order. -/
def orderedPlaces (table : Table) (tenant : TenantId) (conditions : List Condition)
    (order : List SortKey) (rows : List Row) : List Nat :=
  let found := placesOf (selects table tenant conditions) rows
  if order.isEmpty then found
  else stableSort (fun i j => SortKey.compareAll order (rows.getD i .empty) (rows.getD j .empty))
    found

theorem select_all : m.select table tenant ⟨conditions, order, none, none⟩ =
    (orderedPlaces table tenant conditions order (m.rows table.name)).map
      ((m.rows table.name).getD · .empty) := by
  let row : Nat → Row := fun i => (m.rows table.name).getD i .empty
  let found := placesOf (selects table tenant conditions) (m.rows table.name)
  have hFound : found.map row = (m.rows table.name).filter (selects table tenant conditions) :=
    map_placesOf _ _
  have hSort : stableSort (SortKey.compareAll order) (found.map row) =
      (stableSort (fun i j => SortKey.compareAll order (row i) (row j)) found).map row :=
    stableSort_map (fun _ _ => rfl) _
  rw [hFound] at hSort
  change (if order.isEmpty then _ else _) = List.map row (if order.isEmpty then _ else _)
  split
  · exact hFound.symm
  · exact hSort

theorem orderedPlaces_perm : (orderedPlaces table tenant conditions order rows).Perm
    (placesOf (selects table tenant conditions) rows) := by
  unfold orderedPlaces
  dsimp only
  split
  · exact .refl _
  · exact stableSort_perm _ _

theorem placesOf_ascending (p : Row → Bool) (rows : List Row) :
    (placesOf p rows).Pairwise (· < ·) :=
  List.pairwise_lt_range.filter _

/-- The order of the rows at two places: the criteria decide, and then the places. -/
def InOrder (order : List SortKey) (rows : List Row) (i j : Nat) : Prop :=
  SortKey.Precedes order (rows.getD i .empty) (rows.getD j .empty) ∨
    SortKey.Ties order (rows.getD i .empty) (rows.getD j .empty) ∧ i < j

theorem orderedPlaces_sorted (hOrder : ∀ key ∈ order, Json.TransOn
      ((rows.filter (selects table tenant conditions)).map (·.cell key.name))) :
    (orderedPlaces table tenant conditions order rows).Pairwise (InOrder order rows) := by
  have hPlaces := placesOf_ascending (selects table tenant conditions) rows
  unfold orderedPlaces
  dsimp only
  split
  · rename_i hEmpty
    cases List.isEmpty_iff.mp hEmpty
    exact hPlaces.imp fun hLt => .inr ⟨fun _ h => absurd h List.not_mem_nil, hLt⟩
  · have hTrans := SortKey.compareAll_trans hOrder
    rw [← map_placesOf] at hTrans
    refine (stableSort_stable (fun i j => SortKey.compareAll_swap order _ _) hTrans.of_map
      hPlaces).imp ?_
    rintro i j (hLt | ⟨hEq, hPlace⟩)
    · exact .inl (SortKey.compareAll_eq_lt_iff.mp hLt)
    · exact .inr ⟨SortKey.compareAll_eq_eq_iff.mp hEq, hPlace⟩

/-! ## Pages -/

/-- A limit and an offset make a page of the whole list. -/
theorem select_eq_page (limit offset : Option Nat) :
    m.select table tenant ⟨conditions, order, limit, offset⟩ =
      page limit offset (m.select table tenant ⟨conditions, order, none, none⟩) := rfl

/-- The first pages put together are the first part of the list. -/
theorem flatMap_page (size n : Nat) (rows : List Row) :
    ((List.range n).flatMap fun k => page (some size) (some (k * size)) rows) =
      rows.take (n * size) := by
  induction n with
  | zero => simp
  | succ n ih =>
    rw [List.range_succ, List.flatMap_append, ih, List.flatMap_singleton, Nat.succ_mul,
      List.take_add]
    rfl

theorem length_page (size offset : Nat) (rows : List Row) :
    (page (some size) (some offset) rows).length = min size (rows.length - offset) := by
  simp [page]

/-- **Reading in order and page by page.** For any table, tenant, conditions and criteria such that
the order of cells is transitive among the found rows in every column of the criteria:

1. a selection without a limit gives the tenant's rows that satisfy all conditions, each once;
2. they stand in the order of the criteria, and where these do not tell them apart, in that of the
   table;
3. with an ascending criterion `null` is last, with a descending one first;
4. pages of any size one after the other are all of these rows, in this order, each page is full as
   long as rows are left, and behind the last row all pages are empty. -/
theorem pages_complete (table : Table) (tenant : TenantId) (conditions : List Condition)
    (order : List SortKey) (m : Memory)
    (hOrder : ∀ key ∈ order, Json.TransOn
      (((m.rows table.name).filter (selects table tenant conditions)).map (·.cell key.name))) :
    let rows := m.rows table.name
    let all := m.select table tenant ⟨conditions, order, none, none⟩
    all.Perm (rows.filter (selects table tenant conditions)) ∧
    (∃ places : List Nat, places.Perm (placesOf (selects table tenant conditions) rows) ∧
      all = places.map (rows.getD · .empty) ∧ places.Pairwise (InOrder order rows)) ∧
    (∀ (key : SortKey) (a b : Row), a.cell key.name = .null → b.cell key.name ≠ .null →
      match key.direction with
      | .ascending => key.Before b a
      | .descending => key.Before a b) ∧
    ∀ size, 0 < size →
      let page k := m.select table tenant ⟨conditions, order, some size, some (k * size)⟩
      (∀ k, (page k).length = min size (all.length - k * size)) ∧
      (∃ n, all.length ≤ n * size) ∧
      ∀ n, all.length ≤ n * size →
        (List.range n).flatMap page = all ∧ ∀ k, n ≤ k → page k = [] := by
  intro rows all
  have hAll : all = (orderedPlaces table tenant conditions order rows).map (rows.getD · .empty) :=
    select_all
  refine ⟨?_, ⟨_, orderedPlaces_perm, hAll, orderedPlaces_sorted hOrder⟩,
    fun key a b => SortKey.nulls_at_end, ?_⟩
  · rw [hAll, ← map_placesOf]
    exact orderedPlaces_perm.map _
  · intro size hSize page
    have hLength : ∀ k, (page k).length = min size (all.length - k * size) := fun k =>
      length_page size (k * size) all
    refine ⟨hLength, ⟨all.length, Nat.le_mul_of_pos_right _ hSize⟩, fun n hEnough =>
      ⟨?_, fun k hk => ?_⟩⟩
    · exact (flatMap_page size n all).trans (List.take_of_length_le hEnough)
    · have hBehind : all.length ≤ k * size :=
        Nat.le_trans hEnough (Nat.mul_le_mul_right size hk)
      rw [← List.length_eq_zero_iff, hLength, Nat.sub_eq_zero_of_le hBehind, Nat.min_zero]

end Memory

namespace Jobs

/-- A job that was tried some times. -/
def tried (id : String) (attempts : Int64) : Row :=
  (waiting id).insert "attempts" (Json.ofInt64 attempts)

/-- Two jobs with equally many attempts, one with none, and one without a number. -/
def various : Memory := ⟨[("jobs", [tried "d" 0, tried "b" 1, waiting "a", tried "c" 1])], 1⟩

end Jobs

/-- By descending attempts the job without a number comes first, and the two with equally many are
on both sides of the border between the pages. -/
theorem jobs_read_in_pages :
    let select := fun limit offset => Jobs.various.select Jobs.store.table Jobs.tenant
      ⟨[], [⟨"attempts", .descending⟩], limit, offset⟩
    select (some 2) (some 0) = [Jobs.waiting "a", Jobs.tried "b" 1] ∧
      select (some 2) (some 2) = [Jobs.tried "c" 1, Jobs.tried "d" 0] ∧
      ((List.range 2).flatMap fun k => select (some 2) (some (k * 2))) = select none none ∧
      select (some 2) (some 4) = [] := by
  intro select
  have hOrder : ∀ key ∈ [(⟨"attempts", .descending⟩ : SortKey)], Json.TransOn
      (((Jobs.various.rows "jobs").filter (Memory.selects Jobs.store.table Jobs.tenant [])).map
        (·.cell key.name)) := by decide +kernel
  obtain ⟨-, -, -, hPages⟩ := Memory.pages_complete Jobs.store.table Jobs.tenant []
    [⟨"attempts", .descending⟩] Jobs.various hOrder
  obtain ⟨hAll, hBehind⟩ := (hPages 2 (by decide)).2.2 2 (by decide +kernel)
  exact ⟨rfl, rfl, hAll, hBehind 2 (by decide)⟩

end Tenancy
