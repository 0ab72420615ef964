import Tenancy.Proofs.Backend.Isolation
import Tenancy.Proofs.Exchanges
import Tenancy.Proofs.Scoping

/-!
# Tenants do not see or touch each other

`Memory.Reachable` are the tables that operations leave behind, from no rows at all, whatever
tenants they run under and whatever their arguments say, as long as the stores of one table share
its descriptor. All rows of such tables carry a tenant (`Memory.Reachable.tagged`). An operation of
one tenant then keeps all rows of the others, its records are the tenant's own, and what its filter
or patch says about the tenant field makes no difference (`tenants_isolated`).

In any tables, the records of an operation are read from rows of its tenant that the backend has
answered (`Operation.exists_source`).
-/

namespace Tenancy

variable {ρ α σ τ : Type}

/-! ## Records of a tenant -/

namespace Store

variable {s : Store ρ} {tenant : TenantId}

/-- The record is read from an object with the tenant in its tenant field. -/
def Carries (s : Store ρ) (tenant : TenantId) (record : ρ) : Prop :=
  ∃ cells : Row, cells.get? s.descriptor.tenantField = some (.string tenant.text) ∧
    s.decodeJson cells.toJson = .ok record

theorem Carries.fieldValue {record : ρ} (h : s.Carries tenant record)
    (hKeeps : s.KeepsCell s.descriptor.tenantField (.string tenant.text)) :
    s.fieldValue record s.descriptor.tenantField = .ok (some (.string tenant.text)) := by
  obtain ⟨cells, hCell, hDecode⟩ := h
  exact hKeeps cells record (by rw [Row.cell, hCell, Option.getD_some]) hDecode

/-- Records that are read from rows of the tenant carry it. -/
theorem yields_carries (s : Store ρ) (tenant : TenantId) :
    s.Yields (Row.Carries s.table tenant) (s.Carries tenant) := by
  intro row record hRow hDecode
  refine ⟨s.columns.toFields row, ?_, hDecode⟩
  rw [ColumnMap.get?_toFields row s.resolution.tenantColumn]
  exact hRow

/-- Records that are made for the tenant carry it. -/
theorem makes_carries (s : Store ρ) (tenant : TenantId) : s.Makes tenant (s.Carries tenant) :=
  fun cells _ hCell hDecode => ⟨cells, hCell, hDecode⟩

/-! ## What filters and patches say about the tenant field -/

/-- The filters have the same conditions on all fields but the tenant field. -/
def SameFilter (s : Store ρ) (f g : Filter) : Prop :=
  f.conditions.filter (!s.isTenantField ·.name) = g.conditions.filter (!s.isTenantField ·.name)

/-- The patches have the same assignments to all fields but the tenant field. -/
def SamePatch (s : Store ρ) (p q : Patch) : Prop :=
  p.assignments.filter (!s.isTenantField ·.name) = q.assignments.filter (!s.isTenantField ·.name)

variable {f g : Filter} {p q : Patch}

theorem SameFilter.scopeConditions (h : s.SameFilter f g) :
    s.scopeConditions f = s.scopeConditions g := by
  rw [Store.scopeConditions, h]
  rfl

theorem SameFilter.visibleConditions (h : s.SameFilter f g) :
    s.visibleConditions f = s.visibleConditions g := by
  rw [Store.visibleConditions, h.scopeConditions]
  rfl

theorem SameFilter.require (h : s.SameFilter f g) (field : String) (test : Test) :
    s.SameFilter (f.require field test) (g.require field test) := by
  unfold SameFilter at h ⊢
  rw [Filter.require, Filter.require, List.filter_append, List.filter_append, h]

theorem SamePatch.resolvePatch (h : s.SamePatch p q) : s.resolvePatch p = s.resolvePatch q := by
  rw [Store.resolvePatch, h]
  rfl

theorem update_congr (hFilter : s.SameFilter f g) (hPatch : s.SamePatch p q) :
    s.update f p = s.update g q := by
  rw [update, hFilter.scopeConditions, hPatch.resolvePatch]
  rfl

theorem findOne_congr (h : s.SameFilter f g) : s.findOne f = s.findOne g := by
  rw [findOne, h.visibleConditions]
  rfl

end Store

theorem Query.conditions_congr (q : Query ρ) {f g : Filter} (h : q.store.SameFilter f g) :
    Query.conditions { q with filter := f } = Query.conditions { q with filter := g } := by
  unfold Query.conditions
  dsimp only
  rw [h.scopeConditions, h.visibleConditions]

/-- Operations that differ at most in what their filter or patch says about the tenant field. -/
inductive Operation.SameOffTenant : {α : Type} → Operation ρ α → Operation ρ α → Prop
  | find {s : Store ρ} {f g : Filter} (h : s.SameFilter f g) : SameOffTenant (.find s f) (.find s g)
  | findOne {s : Store ρ} {f g : Filter} (h : s.SameFilter f g) :
      SameOffTenant (.findOne s f) (.findOne s g)
  | findOneOrFail {s : Store ρ} {f g : Filter} (h : s.SameFilter f g) :
      SameOffTenant (.findOneOrFail s f) (.findOneOrFail s g)
  | count {s : Store ρ} {f g : Filter} (h : s.SameFilter f g) :
      SameOffTenant (.count s f) (.count s g)
  | exists? {s : Store ρ} {f g : Filter} (h : s.SameFilter f g) :
      SameOffTenant (.exists? s f) (.exists? s g)
  | update {s : Store ρ} {f g : Filter} {p q : Patch} (h : s.SameFilter f g)
      (hPatch : s.SamePatch p q) : SameOffTenant (.update s f p) (.update s g q)
  | updateById {s : Store ρ} {id : Value} {p q : Patch} (hPatch : s.SamePatch p q) :
      SameOffTenant (.updateById s id p) (.updateById s id q)
  | delete {s : Store ρ} {f g : Filter} (h : s.SameFilter f g) :
      SameOffTenant (.delete s f) (.delete s g)
  | softDelete {s : Store ρ} {f g : Filter} (h : s.SameFilter f g) :
      SameOffTenant (.softDelete s f) (.softDelete s g)
  | restore {s : Store ρ} {f g : Filter} (h : s.SameFilter f g) :
      SameOffTenant (.restore s f) (.restore s g)
  | fetchAll {q : Query ρ} {f g : Filter} (h : q.store.SameFilter f g) :
      SameOffTenant (.fetchAll { q with filter := f }) (.fetchAll { q with filter := g })
  | fetchOne {q : Query ρ} {f g : Filter} (h : q.store.SameFilter f g) :
      SameOffTenant (.fetchOne { q with filter := f }) (.fetchOne { q with filter := g })
  | countAll {q : Query ρ} {f g : Filter} (h : q.store.SameFilter f g) :
      SameOffTenant (.countAll { q with filter := f }) (.countAll { q with filter := g })

/-- The same outcome, or two failures to find a record. -/
def Outcome.Alike (r r' : Except Failure α) : Prop :=
  r = r' ∨ ∃ cause cause', r = .error (.error (.notFound cause)) ∧
    r' = .error (.error (.notFound cause'))

/-- What is said about the tenant field makes no difference in any world. -/
theorem Operation.SameOffTenant.run {op op' : Operation ρ α} (h : op.SameOffTenant op')
    (w : World σ ρ) (x : σ) :
    Outcome.Alike (w.run op.program x).1 (w.run op'.program x).1 ∧
      (w.run op.program x).2 = (w.run op'.program x).2 := by
  have hSame : op.program = op'.program → Outcome.Alike (w.run op.program x).1
      (w.run op'.program x).1 ∧ (w.run op.program x).2 = (w.run op'.program x).2 := by
    intro hProgram
    rw [hProgram]
    exact ⟨.inl rfl, rfl⟩
  cases h with
  | @findOneOrFail s f g hFilter =>
    -- The programs differ only in the filter that a failure describes.
    simp only [Operation.program, Store.findOneOrFail, World.run_bind]
    rw [Store.findOne_congr hFilter]
    generalize w.run (s.findOne g) x = found
    obtain ⟨e | (_ | record), x⟩ := found
    · exact ⟨.inl rfl, rfl⟩
    · exact ⟨.inr ⟨_, _, rfl, rfl⟩, rfl⟩
    · exact ⟨.inl rfl, rfl⟩
  | find hFilter =>
    refine hSame ?_
    simp only [Operation.program, Store.find, hFilter.visibleConditions]
  | findOne hFilter => exact hSame (Store.findOne_congr hFilter)
  | count hFilter =>
    refine hSame ?_
    simp only [Operation.program, Store.count, hFilter.visibleConditions]
  | exists? hFilter =>
    refine hSame ?_
    simp only [Operation.program, Store.exists?, Store.findOne_congr hFilter]
  | update hFilter hPatch => exact hSame (Store.update_congr hFilter hPatch)
  | updateById hPatch =>
    refine hSame ?_
    simp only [Operation.program, Store.updateById, Store.update_congr rfl hPatch]
  | delete hFilter =>
    refine hSame ?_
    simp only [Operation.program, Store.delete, hFilter.scopeConditions]
  | softDelete hFilter =>
    refine hSame ?_
    simp only [Operation.program, Store.softDelete,
      fun field test patch => Store.update_congr (hFilter.require field test) (p := patch) rfl]
  | restore hFilter =>
    refine hSame ?_
    simp only [Operation.program, Store.restore,
      fun field test patch => Store.update_congr (hFilter.require field test) (p := patch) rfl]
  | fetchAll hFilter =>
    refine hSame ?_
    simp only [Operation.program, Query.fetchAll, Query.selection, Query.conditions_congr _ hFilter]
  | fetchOne hFilter =>
    refine hSame ?_
    simp only [Operation.program, Query.fetchOne, Query.selection, Query.conditions_congr _ hFilter]
  | countAll hFilter =>
    refine hSame ?_
    simp only [Operation.program, Query.count, Query.conditions_congr _ hFilter]

/-! ## Runs in memory -/

variable {schema : String → Descriptor} {m : Memory} {op : Operation ρ α}
  {active : Option TenantId} {tenant : TenantId}

/-- The store of the operation has the descriptor of its table. -/
def Operation.Conforms (schema : String → Descriptor) (op : Operation ρ α) : Prop :=
  op.store.descriptor = schema op.store.table.name

/-- Tables that runs of operations leave behind, one after the other. -/
inductive Memory.Reachable (schema : String → Descriptor) : Memory → Prop
  | empty : Reachable schema Memory.empty
  | run {ρ τ α : Type} {m : Memory} (h : Reachable schema m) (op : Operation ρ α)
      (hOp : op.Conforms schema) (active : Option TenantId) (clock : τ → Instant × τ)
      (handler : ρ → τ → Bool × τ) (t : τ) :
      Reachable schema ((World.inMemory active clock handler).run op.program (m, t)).2.1

/-- All rows of all tables carry a tenant. -/
def Memory.AllTagged (schema : String → Descriptor) (m : Memory) : Prop :=
  ∀ name columns table, (schema name).resolve = .ok (columns, table) →
    Memory.Tagged table (m.rows name)

/-- How far the tables may differ after steps of one tenant on one table. -/
structure Memory.DiffersBy (table : Table) (tenant : TenantId) (m m' : Memory) : Prop where
  elsewhere : ∀ name, name ≠ table.name → m'.rows name = m.rows name
  keeps : Memory.KeepsForeign table tenant (m.rows table.name) (m'.rows table.name)

theorem World.inMemory_respects {table : Table} (hColumns : table.idColumn ≠ table.tenantColumn)
    (active : Option TenantId) (tenant : TenantId) (clock : τ → Instant × τ)
    (handler : ρ → τ → Bool × τ) (m : Memory) :
    (World.inMemory active clock handler).Respects
      (confined ρ active table tenant (Row.Carries table tenant))
      fun x => m.DiffersBy table tenant x.1 := by
  intro q x hx hAsk
  cases q with
  | activeTenant => exact ⟨rfl, hx⟩
  | time => exact ⟨trivial, hx⟩
  | handle record => exact ⟨trivial, hx⟩
  | backend c =>
    have hStep := Memory.backend_isolated hAsk hColumns hx.keeps.tagged
    refine ⟨?_, ?_, hx.keeps.trans hStep.keeps⟩
    · cases hAnswer : ((World.inMemory active clock handler).answer (.backend c) x).1 with
      | error e => trivial
      | ok answer => exact hStep.carries answer hAnswer
    · intro name hName
      exact (hStep.elsewhere name hName).trans (hx.elsewhere name hName)

theorem Operation.Conforms.resolve (hOp : op.Conforms schema) :
    (schema op.store.table.name).resolve = .ok (op.store.columns, op.store.table) :=
  hOp ▸ op.store.resolved

/-- What a run of an operation of a tenant does to the tables, and which records it gives. -/
theorem Operation.run_isolated (hOp : op.Conforms schema) (hTagged : m.AllTagged schema)
    (hTenant : op.tenant? active = some tenant) (clock : τ → Instant × τ)
    (handler : ρ → τ → Bool × τ) (t : τ) :
    m.DiffersBy op.store.table tenant
        ((World.inMemory active clock handler).run op.program (m, t)).2.1 ∧
      Outcome.Meets (fun a => ∀ r ∈ op.records a, op.store.Carries tenant r) (fun _ => True)
        ((World.inMemory active clock handler).run op.program (m, t)).1 := by
  have hHonors := op.honors_confined hTenant (op.store.yields_carries tenant)
    fun _ => op.store.makes_carries tenant
  have hWorld := World.inMemory_respects op.store.resolution.idColumn_ne_tenantColumn active tenant
    clock handler m
  have hStart : m.DiffersBy op.store.table tenant m :=
    ⟨fun _ _ => rfl, .refl (hTagged _ _ _ hOp.resolve)⟩
  obtain ⟨hResult, hAfter, -⟩ := hHonors.run hWorld (s := (m, t)) hStart
  exact ⟨hAfter, hResult⟩

theorem Memory.AllTagged.run (hOp : op.Conforms schema) (hTagged : m.AllTagged schema)
    (active : Option TenantId) (clock : τ → Instant × τ) (handler : ρ → τ → Bool × τ) (t : τ) :
    ((World.inMemory active clock handler).run op.program (m, t)).2.1.AllTagged schema := by
  cases hTenant : op.tenant? active with
  | none =>
    rw [op.run_unscoped (w := World.inMemory active clock handler) hTenant]
    exact hTagged
  | some tenant =>
    obtain ⟨hAfter, -⟩ := Operation.run_isolated hOp hTagged hTenant clock handler t
    intro name columns table hResolve
    by_cases hName : name = op.store.table.name
    · subst hName
      cases hOp.resolve.symm.trans hResolve
      exact hAfter.keeps.tagged
    · rw [hAfter.elsewhere name hName]
      exact hTagged name columns table hResolve

theorem Memory.Reachable.tagged (h : Memory.Reachable schema m) : m.AllTagged schema := by
  induction h with
  | empty =>
    intro name columns table _ row hRow
    exact absurd hRow List.not_mem_nil
  | run h op hOp active clock handler t ih => exact ih.run hOp active clock handler t

/-! ## Where records come from -/

/-- The rows that the backend answers in an exchange. -/
def Exchange.rows : Exchange ρ → List Row
  | ⟨.backend c, .ok answer⟩ => c.rowsIn answer
  | _ => []

/-- The rows that the backend has answered in a run. -/
def World.answeredRows (w : World σ ρ) (p : Program ρ α) (x : σ) : List Row :=
  (w.exchanges p x).flatMap Exchange.rows

/-- Each record that an operation of a tenant gives is read from a row of the tenant that the
backend has answered, unless the operation makes it. -/
theorem Operation.exists_source (hTenant : op.tenant? active = some tenant)
    (hRead : ¬op.IsCreation) (clock : τ → Instant × τ) (handler : ρ → τ → Bool × τ)
    (x : Memory × τ) {a : α}
    (hRun : ((World.inMemory active clock handler).run op.program x).1 = .ok a) {record : ρ}
    (hRecord : record ∈ op.records a) :
    ∃ source ∈ (World.inMemory active clock handler).answeredRows op.program x,
      Memory.ownedBy op.store.table tenant source ∧ op.store.decodeRow source = .ok record := by
  have hYields : op.store.Yields
      (· ∈ (World.inMemory active clock handler).answeredRows op.program x)
      fun record => ∃ source ∈ (World.inMemory active clock handler).answeredRows op.program x,
        op.store.decodeRow source = .ok record :=
    fun source _ hSource hDecode => ⟨source, hSource, hDecode⟩
  have hHonors := op.honors_confined hTenant hYields fun hMakes => absurd hMakes hRead
  obtain ⟨hRecords, hAsks⟩ := hHonors.of_exchanges (w := World.inMemory active clock handler)
    (s := x) fun y hy => by
      obtain ⟨x', hAnswer⟩ := Dialogue.answer_of_mem_exchanges hy
      obtain ⟨q, answer⟩ := y
      cases q with
      | activeTenant => exact hAnswer
      | backend c =>
        cases answer with
        | error e => trivial
        | ok answer => exact fun row hRow => List.mem_flatMap.mpr ⟨_, hy, hRow⟩
      | _ => trivial
  rw [hRun] at hRecords
  obtain ⟨source, hSource, hDecode⟩ := hRecords record hRecord
  refine ⟨source, hSource, ?_, hDecode⟩
  obtain ⟨⟨q, answer⟩, hy, hRow⟩ := List.mem_flatMap.mp hSource
  obtain ⟨x', hAnswer⟩ := Dialogue.answer_of_mem_exchanges hy
  cases q with
  | backend c =>
    cases answer with
    | error e => exact absurd hRow List.not_mem_nil
    | ok answer =>
      have hAsked : .backend c ∈ (World.inMemory active clock handler).questions op.program x := by
        rw [World.questions, ← Dialogue.map_exchanges]
        exact List.mem_map_of_mem hy
      exact Memory.owned_of_backend (hAsks _ hAsked) op.store.resolution.idColumn_ne_tenantColumn
        hAnswer.symm source hRow
  | _ => exact absurd hRow List.not_mem_nil

/-- **Isolation of tenants.** In tables that any operations have left behind, an operation of a
tenant
1. leaves all other tables and the rows of all other tenants as they were, in their order,
2. gives only records of the tenant, which show it in their tenant field if records keep this cell,
3. and has the same outcome and leaves the same behind if conditions or assignments on the tenant
field are added to its filter or patch, changed there, or removed; only the text of a failure to
find a record differs. -/
theorem tenants_isolated (hReach : Memory.Reachable schema m) (hOp : op.Conforms schema)
    (hTenant : op.tenant? active = some tenant) (clock : τ → Instant × τ)
    (handler : ρ → τ → Bool × τ) (t : τ) :
    ((∀ name, name ≠ op.store.table.name →
        ((World.inMemory active clock handler).run op.program (m, t)).2.1.rows name =
          m.rows name) ∧
      Memory.foreign op.store.table tenant
          (((World.inMemory active clock handler).run op.program (m, t)).2.1.rows
            op.store.table.name) =
        Memory.foreign op.store.table tenant (m.rows op.store.table.name)) ∧
    (∀ a, ((World.inMemory active clock handler).run op.program (m, t)).1 = .ok a →
      ∀ r ∈ op.records a, op.store.Carries tenant r ∧
        (op.store.KeepsCell op.store.descriptor.tenantField (.string tenant.text) →
          op.store.fieldValue r op.store.descriptor.tenantField =
            .ok (some (.string tenant.text)))) ∧
    (∀ op' : Operation ρ α, op.SameOffTenant op' →
      Outcome.Alike ((World.inMemory active clock handler).run op.program (m, t)).1
          ((World.inMemory active clock handler).run op'.program (m, t)).1 ∧
        ((World.inMemory active clock handler).run op.program (m, t)).2 =
          ((World.inMemory active clock handler).run op'.program (m, t)).2) := by
  obtain ⟨hAfter, hRecords⟩ := Operation.run_isolated hOp hReach.tagged hTenant clock handler t
  refine ⟨⟨hAfter.elsewhere, hAfter.keeps.foreign_eq⟩, ?_, ?_⟩
  · intro a hOk r hr
    rw [hOk] at hRecords
    exact ⟨hRecords r hr, (hRecords r hr).fieldValue⟩
  · intro op' hSame
    exact hSame.run _ _

/-- A job of a stranger survives when the tenant deletes whatever it can name. -/
theorem jobs_isolated :
    ∃ m, Memory.Reachable (fun _ => Jobs.descriptor) m ∧ (m.rows "jobs").length = 1 ∧
      Memory.foreign Jobs.store.table Jobs.tenant
        (((World.inMemory (some Jobs.tenant) (fun t : Unit => (Jobs.epoch, t))
          fun _ t => (true, t)).run (Operation.delete Jobs.store .all).program
            (m, ())).2.1.rows "jobs") = m.rows "jobs" := by
  have hInsert : Operation.Conforms (fun _ => Jobs.descriptor)
      (Operation.insert Jobs.store (.object [("id", .string "a")])) := rfl
  have hDelete : Operation.Conforms (fun _ => Jobs.descriptor)
      (Operation.delete Jobs.store .all) := rfl
  have hReach := Memory.Reachable.run .empty _ hInsert (some Jobs.stranger)
    (fun t : Unit => (Jobs.epoch, t)) (fun _ t => (true, t)) ()
  have hTenant : (Operation.delete Jobs.store .all).tenant? (some Jobs.tenant) =
      some Jobs.tenant := rfl
  refine ⟨_, hReach, rfl, Eq.trans (tenants_isolated hReach hDelete hTenant _ _ ()).1.2 ?_⟩
  rfl

end Tenancy
