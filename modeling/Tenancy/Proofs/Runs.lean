import Tenancy.Backend.Memory
import Tenancy.Proofs.Operation
import Tenancy.Proofs.Schema
import Tenancy.Proofs.Terms

/-!
# Runs of operations

Worlds with tables in memory, and what the steps that operations share do in a run in any world.
`World.still` is enough for a program that asks for the time once; in `World.inMemory` the clock
and the handlers change with every question.
-/

namespace Tenancy

variable {ρ α σ τ : Type}

/-! ## Worlds with tables in memory -/

namespace World

/-- Tables in memory beside the state of a clock and of handlers. -/
def inMemory (tenant : Option TenantId) (clock : τ → Instant × τ) (handler : ρ → τ → Bool × τ) :
    World (Memory × τ) ρ where
  tenant := tenant
  time x := ((clock x.2).1, x.1, (clock x.2).2)
  backend c x := ((Memory.backend c x.1).1, (Memory.backend c x.1).2, x.2)
  handle record x := ((handler record x.2).1, x.1, (handler record x.2).2)

/-- Tables in memory at one point in time; no handler fails. -/
def still (tenant : Option TenantId) (now : Instant) : World Memory ρ where
  tenant := tenant
  time m := (now, m)
  backend := Memory.backend
  handle _ m := (true, m)

@[simp] theorem time_still (tenant : Option TenantId) (now : Instant) (m : Memory) :
    (still tenant now : World Memory ρ).time m = (now, m) := rfl

@[simp] theorem time_inMemory (tenant : Option TenantId) (clock : τ → Instant × τ)
    (handler : ρ → τ → Bool × τ) (x : Memory × τ) :
    (inMemory tenant clock handler).time x = ((clock x.2).1, x.1, (clock x.2).2) := rfl

end World

/-- What the commands of a program keep, its run keeps, whatever the clock and the handler do. -/
theorem Program.Sends.run_inMemory {P : Command → Prop} {p : Program ρ α} (h : p.Sends P)
    {invariant : Memory → Prop}
    (hStep : ∀ c m, P c → invariant m → invariant (Memory.backend c m).2)
    (active : Option TenantId) (clock : τ → Instant × τ) (handler : ρ → τ → Bool × τ) {m : Memory}
    (hm : invariant m) (t : τ) :
    invariant ((World.inMemory active clock handler).run p (m, t)).2.1 := by
  have hWorld : (World.inMemory active clock handler).Respects (sending ρ P)
      fun x => invariant x.1 := by
    intro q x hx hAsk
    refine ⟨trivial, ?_⟩
    cases q with
    | backend c => exact hStep c x.1 hAsk hx
    | _ => exact hx
  exact (Honors.run h hWorld (s := (m, t)) hm).2.1

theorem Program.Sends.run_still {P : Command → Prop} {p : Program ρ α} (h : p.Sends P)
    {invariant : Memory → Prop}
    (hStep : ∀ c m, P c → invariant m → invariant (Memory.backend c m).2)
    (active : Option TenantId) (now : Instant) {m : Memory} (hm : invariant m) :
    invariant ((World.still active now).run p m).2 := by
  have hWorld : (World.still active now).Respects (sending ρ P) invariant := by
    intro q x hx hAsk
    refine ⟨trivial, ?_⟩
    cases q with
    | backend c => exact hStep c x hAsk hx
    | _ => exact hx
  exact (Honors.run h hWorld hm).2.1

/-! ## Shared steps -/

/-- What a program does with the answer to a command. -/
theorem World.run_send_bind (w : World σ ρ) (c : Command) (f : c.Result → Program ρ α) (x : σ) :
    w.run (Program.send c >>= f) x = match w.backend c x with
      | (.ok answer, x) => w.run (f answer) x
      | (.error e, x) => (.error (.error e), x) := by
  rw [World.run_bind, World.run_send]
  generalize w.backend c x = answered
  obtain ⟨answer | answer, x⟩ := answered <;> rfl

theorem World.run_bind_eq_ok {β : Type} {w : World σ ρ} {p : Program ρ α} {f : α → Program ρ β}
    {b : β} {x z : σ} :
    w.run (p >>= f) x = (.ok b, z) ↔
      ∃ a y, w.run p x = (.ok a, y) ∧ w.run (f a) y = (.ok b, z) := by
  rw [World.run_bind]
  generalize w.run p x = result
  obtain ⟨e | a, y⟩ := result
  · refine iff_of_false nofun ?_
    rintro ⟨a, y, hRun, -⟩
    cases hRun
  · refine ⟨fun h => ⟨a, y, rfl, h⟩, ?_⟩
    rintro ⟨a, y, hRun, h⟩
    cases hRun
    exact h

theorem World.run_ofExcept_eq_ok {w : World σ ρ} {r : Except StoreError α} {a : α} {x y : σ} :
    w.run (Program.ofExcept r) x = (.ok a, y) ↔ r = .ok a ∧ y = x := by
  rw [World.run_ofExcept]
  cases r with
  | error e => simp [Except.mapError]
  | ok a => simp [Except.mapError, eq_comm]

namespace Store

variable {s : Store ρ} {w : World σ ρ} {tenant : TenantId}

theorem run_requireTenant (hContext : s.context.reports w.tenant = some tenant)
    (operation : String) (x : σ) : w.run (s.requireTenant operation) x = (.ok tenant, x) := by
  unfold requireTenant
  cases hCase : s.context with
  | pinned t =>
    rw [hCase] at hContext
    cases hContext
    rfl
  | ambient =>
    rw [hCase] at hContext
    have hTenant : w.tenant = some tenant := hContext
    simp only [TenantContext.current, World.run_bind, World.run_activeTenant, hTenant]
    rfl

/-- An operation of a tenant goes on as if it had been told the tenant. -/
theorem run_scope (hContext : s.context.reports w.tenant = some tenant) (operation : String)
    (f : TenantId → Program ρ α) (x : σ) :
    w.run (s.requireTenant operation >>= f) x = w.run (f tenant) x := by
  rw [World.run_bind, run_requireTenant hContext]

/-- An operation that finds no tenant does nothing else. -/
theorem run_unscoped (hContext : s.context.reports w.tenant = none) (operation : String)
    (f : TenantId → Program ρ α) (x : σ) :
    w.run (s.requireTenant operation >>= f) x =
      (.error (.error (.missingTenant operation)), x) := by
  unfold requireTenant
  cases hCase : s.context with
  | pinned t =>
    rw [hCase] at hContext
    cases hContext
  | ambient =>
    rw [hCase] at hContext
    have hTenant : w.tenant = none := hContext
    simp only [TenantContext.current, World.run_bind, World.run_activeTenant, hTenant]
    rfl

theorem run_query (hContext : s.context.reports w.tenant = some tenant) (x : σ) :
    w.run s.query x = (.ok ⟨s, tenant, .all, [], none, none, false⟩, x) :=
  run_scope hContext _ _ x

theorem normalized_eq_ofJson {cell : Json} (hNull : cell ≠ .null) :
    (Test.eq (.ofJson cell)).normalized = .eq (.ofJson cell) := by
  cases cell with
  | null => exact absurd rfl hNull
  | number n => cases hInt : n.asInt64? <;> simp [Value.ofJson, hInt, Test.normalized]
  | _ => rfl

/-- The filter for one field is one condition on its column. -/
theorem scopeConditions_require (s : Store ρ) {field column : String}
    (hColumn : s.columns.column? field = some column) (hField : field ≠ s.descriptor.tenantField)
    (test : Test) :
    s.scopeConditions (Filter.all.require field test) = .ok [⟨column, test.normalized⟩] := by
  have hOwn : s.isTenantField field = false := beq_false_of_ne hField
  have hColumn := ColumnMap.column_eq_ok_iff.mpr hColumn
  simp only [scopeConditions, Filter.all, Filter.require, List.nil_append, List.filter_cons, hOwn,
    List.filter_nil, List.mapM_cons, List.mapM_nil, Bool.not_false, ite_true, hColumn]
  rfl

/-- Equality of a field with a cell is one condition on its column. -/
theorem scopeConditions_ofEq (s : Store ρ) {field column : String}
    (hColumn : s.columns.column? field = some column) (hField : field ≠ s.descriptor.tenantField)
    {cell : Json} (hNull : cell ≠ .null) :
    s.scopeConditions (.ofEq field (.ofJson cell)) = .ok [⟨column, .eq (.ofJson cell)⟩] := by
  rw [Filter.ofEq, scopeConditions_require s hColumn hField, normalized_eq_ofJson hNull]

/-- An update whose filter and patch are accepted is one command. -/
theorem run_update (hContext : s.context.reports w.tenant = some tenant) {filter : Filter}
    {patch : Patch} {conditions : List Condition} {assignments : List Assignment}
    (hConditions : s.scopeConditions filter = .ok conditions)
    (hAssignments : s.resolvePatch patch = .ok assignments) (hSome : assignments ≠ []) (x : σ) :
    w.run (s.update filter patch) x =
      (((w.backend (.update s.table tenant conditions assignments) x).1.map
        List.length).mapError .error,
        (w.backend (.update s.table tenant conditions assignments) x).2) := by
  have hNonempty : assignments.isEmpty = false := by simpa using hSome
  rw [update, run_scope hContext]
  simp only [hConditions, hAssignments, hNonempty, Program.ofExcept, pure_bind,
    Bool.false_eq_true, ite_false]
  refine (w.run_send_bind (.update s.table tenant conditions assignments) _ x).trans ?_
  generalize w.backend (.update s.table tenant conditions assignments) x = answered
  obtain ⟨answer | answer, x⟩ := answered <;> rfl

theorem run_updateById (hContext : s.context.reports w.tenant = some tenant) {id : Value}
    {patch : Patch} {conditions : List Condition} {assignments : List Assignment}
    (hConditions : s.scopeConditions (s.idFilter id) = .ok conditions)
    (hAssignments : s.resolvePatch patch = .ok assignments) (hSome : assignments ≠ []) (x : σ) :
    w.run (s.updateById id patch) x =
      (((w.backend (.update s.table tenant conditions assignments) x).1.map
        fun rows : List Row => decide (0 < rows.length)).mapError .error,
        (w.backend (.update s.table tenant conditions assignments) x).2) := by
  rw [updateById, World.run_bind, run_update hContext hConditions hAssignments hSome]
  generalize w.backend (.update s.table tenant conditions assignments) x = answered
  obtain ⟨answer | answer, x⟩ := answered <;> rfl

end Store

end Tenancy
