import Tenancy.Proofs.Backend.Paging
import Tenancy.Proofs.Failures
import Tenancy.Proofs.Queue.Handover

/-!
# The three ways to read a query

A query is read as a list, as its first record, or as a number. The first record and the number are
read with selections of their own: the one has the limit 1 in place of that of the query, and the
other has neither limit nor offset. So the first record is that of the list unless the limit is
zero, and the number is the length of the list without limit and offset (`Query.readers_agree`). A
query with the limit zero has a first record and an empty list (`jobs_first_of_none`).
-/

namespace Tenancy

variable {ρ ε α β : Type}

/-! ## Parts of lists -/

theorem Except.mapM_take {f : α → Except ε β} {xs : List α} {ys : List β}
    (h : xs.mapM f = .ok ys) (n : Nat) : (xs.take n).mapM f = .ok (ys.take n) :=
  Except.mapM_eq_ok.mpr (List.forall₂_take n (Except.mapM_eq_ok.mp h))

theorem Except.length_of_mapM {f : α → Except ε β} {xs : List α} {ys : List β}
    (h : xs.mapM f = .ok ys) : ys.length = xs.length :=
  (Except.mapM_eq_ok.mp h).length_eq.symm

namespace Memory

/-- A page of one row is the first row of any page that is not empty by its limit. -/
theorem page_one {limit : Option Nat} (h : limit ≠ some 0) (offset : Option Nat)
    (rows : List Row) : page (some 1) offset rows = (page limit offset rows).take 1 := by
  cases limit with
  | none => rfl
  | some n =>
    have hPositive : 1 ≤ n := Nat.one_le_iff_ne_zero.mpr fun hZero => h (congrArg some hZero)
    simp [page, List.take_take, Nat.min_eq_left hPositive]

/-- A count is the number of rows of a selection without limit and offset. -/
theorem length_select_all (table : Table) (tenant : TenantId) (conditions : List Condition)
    (order : List SortKey) (m : Memory) :
    (m.select table tenant ⟨conditions, order, none, none⟩).length =
      m.count table tenant conditions := by
  have hPlaces : (orderedPlaces table tenant conditions order (m.rows table.name)).length =
      (placesOf (selects table tenant conditions) (m.rows table.name)).length :=
    orderedPlaces_perm.length_eq
  rw [select_all, List.length_map, hPlaces, count, List.countP_eq_length_filter, ← map_placesOf,
    List.length_map]

end Memory

/-! ## Readers -/

namespace Query

variable {q : Query ρ} {active : Option TenantId} {now : Instant} {m : Memory}

/-- A query that was read has conditions and an order on columns of its table. -/
structure Resolves (q : Query ρ) (conditions : List Condition) (order : List SortKey) : Prop where
  conditions : q.conditions = .ok conditions
  order : q.store.resolveOrder q.order = .ok order

theorem selection_eq_ok_iff {limit : Option Nat} {chosen : Selection} :
    q.selection limit = .ok chosen ↔
      ∃ conditions order, q.Resolves conditions order ∧
        chosen = ⟨conditions, order, limit, q.offset⟩ := by
  rw [selection, Except.bind_eq_ok]
  constructor
  · rintro ⟨conditions, hConditions, h⟩
    obtain ⟨order, hOrder, h⟩ := Except.bind_eq_ok.mp h
    cases Except.ok.inj h
    exact ⟨conditions, order, ⟨hConditions, hOrder⟩, rfl⟩
  · rintro ⟨conditions, order, ⟨hConditions, hOrder⟩, rfl⟩
    exact ⟨conditions, hConditions, Except.bind_eq_ok.mpr ⟨order, hOrder, rfl⟩⟩

variable {conditions : List Condition} {order : List SortKey}

/-- The list decodes the rows of the query's own page. -/
theorem Resolves.run_fetchAll (h : q.Resolves conditions order) :
    (World.still active now).run q.fetchAll m =
      ((q.store.decodeRows (m.select q.store.table q.tenant
        ⟨conditions, order, q.limit, q.offset⟩)).mapError .error, m) := by
  have hSelection : q.selection q.limit = .ok ⟨conditions, order, q.limit, q.offset⟩ :=
    selection_eq_ok_iff.mpr ⟨conditions, order, h, rfl⟩
  rw [fetchAll, World.run_bind, World.run_ofExcept, hSelection]
  exact Store.run_selectRecords _ _ m

/-- The first record decodes a page of one row. -/
theorem Resolves.run_fetchOne (h : q.Resolves conditions order) :
    (World.still active now).run q.fetchOne m =
      (((q.store.decodeRows (m.select q.store.table q.tenant
        ⟨conditions, order, some 1, q.offset⟩)).map List.getLast?).mapError .error, m) := by
  have hSelection : q.selection (some 1) = .ok ⟨conditions, order, some 1, q.offset⟩ :=
    selection_eq_ok_iff.mpr ⟨conditions, order, h, rfl⟩
  rw [fetchOne, World.run_bind, World.run_ofExcept, hSelection]
  dsimp only [Except.mapError]
  rw [World.run_bind, Store.run_selectRecords]
  cases q.store.decodeRows (m.select q.store.table q.tenant
    ⟨conditions, order, some 1, q.offset⟩) <;> rfl

theorem Resolves.run_count (h : q.Resolves conditions order) :
    (World.still active now).run q.count m =
      (.ok (m.count q.store.table q.tenant conditions), m) := by
  refine (World.run_bind _ _ _ _).trans ?_
  rw [World.run_ofExcept, h.conditions]
  rfl

theorem resolves_of_fetchAll {records : List ρ} {m' : Memory}
    (h : (World.still active now).run q.fetchAll m = (.ok records, m')) :
    ∃ conditions order, q.Resolves conditions order ∧ m' = m ∧
      q.store.decodeRows (m.select q.store.table q.tenant
        ⟨conditions, order, q.limit, q.offset⟩) = .ok records := by
  obtain ⟨selection, m₁, hSelection, -⟩ := World.run_bind_eq_ok.mp h
  obtain ⟨hSelection, -⟩ := World.run_ofExcept_eq_ok.mp hSelection
  obtain ⟨conditions, order, hResolves, -⟩ := selection_eq_ok_iff.mp hSelection
  refine ⟨conditions, order, hResolves, ?_⟩
  rw [hResolves.run_fetchAll] at h
  generalize q.store.decodeRows (m.select q.store.table q.tenant
    ⟨conditions, order, q.limit, q.offset⟩) = decoded at h
  cases decoded with
  | error e => cases h
  | ok found =>
    cases h
    exact ⟨rfl, rfl⟩

/-- The query for all records that satisfy its conditions. -/
def unlimited (q : Query ρ) : Query ρ := { q with limit := none, offset := none }

/-- **The readers agree.** On every table in memory:

1. where a query can be read as a list with some limit other than zero, its own or another one, its
   first record is that of this list, and none if the list is empty;
2. where it can be read as a list without limit and offset, the number is the length of that list;
3. where it can be read as a list with its own limit and offset, the number is that of the rows it
   selects without them, and these make a list unless one of them is no record. -/
theorem readers_agree (q : Query ρ) (active : Option TenantId) (now : Instant) (m : Memory) :
    let run {α : Type} (p : Program ρ α) := (World.still active now).run p m
    (∀ limit records, limit ≠ some 0 → (run { q with limit := limit }.fetchAll).1 = .ok records →
      run q.fetchOne = (.ok records.head?, m)) ∧
    (∀ all, (run q.unlimited.fetchAll).1 = .ok all → run q.count = (.ok all.length, m)) ∧
    ∀ records, (run q.fetchAll).1 = .ok records →
      ∃ conditions order, q.Resolves conditions order ∧
        let rows := m.select q.store.table q.tenant ⟨conditions, order, none, none⟩
        run q.count = (.ok rows.length, m) ∧
          run q.unlimited.fetchAll = ((q.store.decodeRows rows).mapError .error, m) := by
  intro run
  refine ⟨?_, ?_, ?_⟩
  · intro limit records hLimit h
    obtain ⟨conditions, order, hResolves, -, hDecoded⟩ := resolves_of_fetchAll (Prod.ext h rfl)
    have hFirst : q.store.decodeRows (m.select q.store.table q.tenant
        ⟨conditions, order, some 1, q.offset⟩) = .ok (records.take 1) := by
      rw [Memory.select_eq_page, Memory.page_one hLimit, ← Memory.select_eq_page]
      exact Except.mapM_take hDecoded 1
    have hOwn : q.Resolves conditions order := ⟨hResolves.conditions, hResolves.order⟩
    refine hOwn.run_fetchOne.trans ?_
    rw [hFirst]
    cases records <;> rfl
  · intro all h
    obtain ⟨conditions, order, hResolves, -, hDecoded⟩ := resolves_of_fetchAll (Prod.ext h rfl)
    have hOwn : q.Resolves conditions order := ⟨hResolves.conditions, hResolves.order⟩
    refine hOwn.run_count.trans ?_
    rw [Except.length_of_mapM hDecoded]
    exact congrArg (fun n => (Except.ok n, m)) (Memory.length_select_all _ _ _ order m).symm
  · intro records h
    obtain ⟨conditions, order, hResolves, -⟩ := resolves_of_fetchAll (Prod.ext h rfl)
    have hAll : q.unlimited.Resolves conditions order := ⟨hResolves.conditions, hResolves.order⟩
    refine ⟨conditions, order, hResolves, ?_, hAll.run_fetchAll⟩
    rw [Memory.length_select_all]
    exact hResolves.run_count

end Query

namespace Jobs

/-- Three jobs that wait. -/
def three : Memory := ⟨[("jobs", [waiting "a", waiting "b", waiting "c"])], 1⟩

/-- A page of the waiting jobs, by descending id. -/
def waitingPage (limit offset : Nat) : Query Json :=
  ⟨store, tenant, .ofEq "status" (.text "PENDING"), [⟨"id", .descending⟩], some limit, some offset,
    true⟩

end Jobs

/-- Of three jobs the second page of one has the one in the middle, which is its first record, and
there are three in all. -/
theorem jobs_read_three_ways :
    let run {α : Type} (p : Program Json α) := (World.still none Jobs.epoch).run p Jobs.three
    run (Jobs.waitingPage 1 1).fetchAll = (.ok [(Jobs.waiting "b").toJson], Jobs.three) ∧
      run (Jobs.waitingPage 1 1).fetchOne = (.ok (some (Jobs.waiting "b").toJson), Jobs.three) ∧
      run (Jobs.waitingPage 1 1).count = (.ok 3, Jobs.three) ∧
      ∃ conditions order, (Jobs.waitingPage 1 1).Resolves conditions order := by
  intro run
  have hPage : run (Jobs.waitingPage 1 1).fetchAll =
      (.ok [(Jobs.waiting "b").toJson], Jobs.three) := rfl
  have hAll : run (Jobs.waitingPage 1 1).unlimited.fetchAll =
      (.ok [(Jobs.waiting "c").toJson, (Jobs.waiting "b").toJson, (Jobs.waiting "a").toJson],
        Jobs.three) := rfl
  obtain ⟨hOne, hCount, hRows⟩ :=
    (Jobs.waitingPage 1 1).readers_agree none Jobs.epoch Jobs.three
  obtain ⟨conditions, order, hResolves, -⟩ := hRows _ (congrArg Prod.fst hPage)
  exact ⟨hPage, hOne (some 1) _ nofun (congrArg Prod.fst hPage),
    hCount _ (congrArg Prod.fst hAll), conditions, order, hResolves⟩

/-- With the limit zero the list is empty and there is a first record all the same. Where a job is
no record, the jobs before it can be read and counted with it, and there is no list of them all. -/
theorem jobs_first_of_none :
    let run {α : Type} (p : Program Json α) (m : Memory) := (World.still none Jobs.epoch).run p m
    let m : Memory := ⟨[("jobs", [(Jobs.waiting "a").insert "created_at" (Json.ofInt64 0),
      Jobs.waiting "b"])], 1⟩
    let dated : Query Json := ⟨Jobs.datedQueue.store, Jobs.tenant, .all, [], some 1, none, true⟩
    ((run (Jobs.waitingPage 0 0).fetchAll Jobs.three).1 = .ok [] ∧
      (run (Jobs.waitingPage 0 0).fetchOne Jobs.three).1 = .ok (some (Jobs.waiting "c").toJson)) ∧
    (∃ record, (run dated.fetchAll m).1 = .ok [record]) ∧ (run dated.count m).1 = .ok 2 ∧
      (run dated.unlimited.fetchAll m).1 =
        .error (.error (.serialization (.reported "missing field created_at"))) :=
  ⟨⟨rfl, rfl⟩, ⟨_, rfl⟩, rfl, rfl⟩

end Tenancy
