import Tenancy.Proofs.Confinement
import Tenancy.Proofs.Runs

/-!
# No tenant, no access

`operations_scoped` is the statement about every operation in every world: whatever the backend
answers, an operation that finds no tenant fails before it asks for anything else, and an
operation of a tenant sends commands of this tenant only. A query stays with the tenant under
which it was made, wherever it is read, and a worker in the background sees no tenant but one that
its store is pinned to.
-/

namespace Tenancy

variable {ρ α σ : Type}

/-! ## Tenants of operations -/

theorem TenantContext.eq_ambient {context : TenantContext} {active : Option TenantId}
    (h : context.reports active = none) : context = .ambient ∧ active = none := by
  cases context with
  | pinned t => cases h
  | ambient => exact ⟨rfl, h⟩

theorem Operation.tenant?_none {op : Operation ρ α} {active : Option TenantId}
    (h : op.tenant? active = none) : active = none := by
  cases op with
  | fetchAll q | fetchOne q | countAll q => cases h
  | _ => exact (TenantContext.eq_ambient h).2

/-! ## Scopes -/

/-- A program that honors its terms where no tenant is active does so in the background, where it
does not ask for the tenant of the surroundings. -/
theorem Honors.detached {t t' : Terms (Question ρ) Question.Answer} {p : Program ρ α}
    {results : α → Prop} {failures : Failure → Prop} (h : Honors t p results failures)
    (hNone : t.answers .activeTenant none)
    (hTerms : ∀ q, q ≠ .activeTenant → t.asks q →
      t'.asks q ∧ ∀ a, t'.answers q a → t.answers q a) :
    Honors t' p.detached results failures := by
  have hScope : ∀ d : Dialogue (Question ρ) Question.Answer (Except Failure α),
      Dialogue.Honors t (Outcome.Meets results failures) d →
        Dialogue.Honors t' (Outcome.Meets results failures) (Program.answerTenant none d) := by
    intro d hd
    induction d with
    | done r => exact hd
    | ask q next ih =>
      cases q with
      | activeTenant => exact ih none (hd.2 none hNone)
      | _ =>
        obtain ⟨hAsk, hAnswers⟩ := hTerms _ (by simp) hd.1
        exact ⟨hAsk, fun a ha => ih a (hd.2 a (hAnswers a ha))⟩
  exact hScope _ h

/-! ## Worlds keep to the terms -/

namespace World

variable {w : World σ ρ} {s : σ}

/-- Terms that bind the answers to the tenant only are kept by every world. -/
theorem respects_confined (w : World σ ρ) (table : Table) (tenant : TenantId) :
    w.Respects (confined ρ w.tenant table tenant fun _ => True) fun _ => True := by
  intro q s _ _
  refine ⟨?_, trivial⟩
  cases q with
  | activeTenant => rfl
  | time => trivial
  | handle r => trivial
  | backend c =>
    cases h : (w.answer (.backend c) s).1 with
    | error e => trivial
    | ok answer => exact fun _ _ => trivial

theorem respects_unscoped {w : World σ ρ} (h : w.tenant = none) (s : σ) :
    w.Respects (unscoped ρ) (· = s) := by
  intro q s' hs hAsk
  cases q with
  | activeTenant => exact ⟨h, hs⟩
  | _ => exact hAsk.elim

/-- All commands of a run are confined. -/
theorem commands_confined {table : Table} {tenant : TenantId} {p : Program ρ α}
    {results : α → Prop}
    (h : Honors (confined ρ w.tenant table tenant fun _ => True) p results fun _ => True)
    {c : Command} (hc : .backend c ∈ w.questions p s) : c.ConfinedTo table tenant :=
  (h.run (w.respects_confined table tenant) (s := s) trivial).2.2 _ hc

theorem questions_unscoped (hTenant : w.tenant = none) {p : Program ρ α} {results : α → Prop}
    {failures : Failure → Prop} (h : Honors (unscoped ρ) p results failures) :
    ∀ q ∈ w.questions p s, q = .activeTenant := by
  intro q hq
  have hAsk := (h.run (w.respects_unscoped hTenant s) rfl).2.2 q hq
  cases q with
  | activeTenant => rfl
  | _ => exact hAsk.elim

end World

/-- Without a tenant an operation fails under its name and leaves everything as it was. -/
theorem Operation.run_unscoped (op : Operation ρ α) {w : World σ ρ}
    (hTenant : op.tenant? w.tenant = none) (s : σ) :
    w.run op.program s = (.error (.error (.missingTenant op.entry)), s) := by
  have hNone := Operation.tenant?_none hTenant
  have hRefuses := op.refuses_unscoped (hNone ▸ hTenant)
  obtain ⟨hResult, hState, -⟩ := hRefuses.run (w.respects_unscoped hNone s) rfl
  refine Prod.ext ?_ hState
  cases hRun : (w.run op.program s).1 with
  | ok a =>
    rw [hRun] at hResult
    exact hResult.elim
  | error e =>
    rw [hRun] at hResult
    exact congrArg Except.error hResult

/-- Nothing is asked of the rows that the backend answers. -/
theorem Store.yields_true (s : Store ρ) : s.Yields (fun _ => True) fun _ => True :=
  fun _ _ _ _ => trivial

/-- Nothing is asked of the records that are made. -/
theorem Store.makes_true (s : Store ρ) (tenant : TenantId) : s.Makes tenant fun _ => True :=
  fun _ _ _ _ => trivial

/-! ## Queries and workers -/

/-- A query sends commands of its own tenant, whatever is called on it before it is read. -/
theorem Query.build_confined (q : Query ρ) (calls : List Query.Call) {later : World σ ρ} {s : σ}
    {c : Command} (hc : .backend c ∈ later.questions (q.build calls).fetchAll s ∨
      .backend c ∈ later.questions (q.build calls).fetchOne s ∨
      .backend c ∈ later.questions (q.build calls).count s) :
    c.ConfinedTo q.store.table q.tenant := by
  obtain ⟨hTenant, hStore⟩ := q.build_pinned calls
  rw [← hTenant, ← hStore]
  have hYields := (q.build calls).store.yields_true
  rcases hc with hc | hc | hc
  · exact World.commands_confined (fetchAll_confined hYields) hc
  · exact World.commands_confined (fetchOne_confined hYields) hc
  · exact World.commands_confined count_confined hc

/-- A worker in the background whose store is not pinned asks nothing at all. -/
theorem Worker.background_unscoped {worker : Worker ρ}
    (hContext : worker.queue.store.context.reports none = none) (w : World σ ρ) (fuel : Nat)
    (s : σ) : w.questions (worker.background fuel) s = [] := by
  have hHonors : Honors { unscoped ρ with asks := fun _ => False } (worker.background fuel)
      (fun _ => True) fun _ => True := by
    refine (worker.runUntilIdle_unscoped hContext fuel .zero).detached rfl ?_
    intro q hq hAsk
    cases q with
    | activeTenant => exact absurd rfl hq
    | _ => exact hAsk.elim
  have hWorld : w.Respects { unscoped ρ with asks := fun _ => False } fun _ => True :=
    fun _ _ _ hAsk => hAsk.elim
  exact List.eq_nil_iff_forall_not_mem.mpr (hHonors.run hWorld (s := s) trivial).2.2

theorem Worker.background_confined {worker : Worker ρ} {tenant : TenantId}
    (hContext : worker.queue.store.context.reports none = some tenant) {w : World σ ρ}
    {fuel : Nat} {s : σ} {c : Command}
    (hc : .backend c ∈ w.questions (worker.background fuel) s) :
    c.ConfinedTo worker.queue.store.table tenant := by
  have hCycles : worker.queue.store.Confines none tenant (fun _ => True)
      (worker.runUntilIdle fuel .zero) fun _ => True := runUntilIdle_confined hContext fuel .zero
  have hHonors : worker.queue.store.Confines w.tenant tenant (fun _ => True)
      (worker.background fuel) fun _ => True := by
    refine hCycles.detached rfl ?_
    intro q hq hAsk
    refine ⟨hAsk, fun a ha => ?_⟩
    cases q with
    | activeTenant => exact absurd rfl hq
    | backend c => cases a <;> exact ha
    | _ => exact ha
  exact World.commands_confined hHonors hc

/-! ## The statement -/

/-- **Operations keep to their tenant in every world.**
1. Without a tenant an operation fails under its name, leaves everything as it was, sends no
command and runs no handler.
2. All commands of an operation of a tenant are confined to this tenant.
3. A query that was made under a tenant sends commands of that tenant after any further calls,
whatever the tenant is where it is read.
4. A worker in the background sends no command and runs no handler, unless its store is pinned to
a tenant; then its commands are confined to that one. -/
theorem operations_scoped (w : World σ ρ) (s : σ) :
    (∀ {α : Type} (op : Operation ρ α), op.tenant? w.tenant = none →
      w.run op.program s = (.error (.error (.missingTenant op.entry)), s) ∧
        ∀ q ∈ w.questions op.program s, q = .activeTenant) ∧
    (∀ {α : Type} (op : Operation ρ α) (tenant : TenantId), op.tenant? w.tenant = some tenant →
      ∀ c, .backend c ∈ w.questions op.program s → c.ConfinedTo op.store.table tenant) ∧
    (∀ (store : Store ρ) (tenant : TenantId), store.context.reports w.tenant = some tenant →
      ∃ q, w.run store.query s = (.ok q, s) ∧
        ∀ (calls : List Query.Call) {τ : Type} (later : World τ ρ) (s' : τ) (c : Command),
          .backend c ∈ later.questions (q.build calls).fetchAll s' ∨
            .backend c ∈ later.questions (q.build calls).fetchOne s' ∨
            .backend c ∈ later.questions (q.build calls).count s' →
          c.ConfinedTo store.table tenant) ∧
    (∀ (worker : Worker ρ) (fuel : Nat),
      (worker.queue.store.context.reports none = none →
        w.questions (worker.background fuel) s = []) ∧
      ∀ tenant, worker.queue.store.context.reports none = some tenant →
        ∀ c, .backend c ∈ w.questions (worker.background fuel) s →
          c.ConfinedTo worker.queue.store.table tenant) := by
  refine ⟨?_, ?_, ?_, ?_⟩
  · intro α op hTenant
    have hNone := Operation.tenant?_none hTenant
    exact ⟨op.run_unscoped hTenant s,
      w.questions_unscoped hNone (op.refuses_unscoped (hNone ▸ hTenant))⟩
  · intro α op tenant hTenant c hc
    exact World.commands_confined (op.honors_confined hTenant op.store.yields_true
      fun _ => op.store.makes_true tenant) hc
  · intro store tenant hContext
    refine ⟨_, Store.run_query hContext s, ?_⟩
    intro calls τ later s' c hc
    exact Query.build_confined _ calls hc
  · intro worker fuel
    exact ⟨fun hContext => Worker.background_unscoped hContext w fuel s,
      fun tenant hContext c hc => Worker.background_confined hContext hc⟩

/-- Nobody saves jobs without a tenant, not even none at all, and a claim for a tenant is sent under
that tenant. -/
theorem jobs_scoped :
    (World.still none Jobs.epoch).run (Operation.saveAll Jobs.store []).program Memory.empty =
      (.error (.error (.missingTenant "save")), Memory.empty) ∧
    ∃ c, .backend c ∈ (World.still (some Jobs.tenant) Jobs.epoch).questions
        (Operation.claimBatch Jobs.queue 1).program Memory.empty ∧
      c.ConfinedTo Jobs.store.table Jobs.tenant := by
  have hAsked : .backend (.claim Jobs.store.table Jobs.tenant Jobs.claim) ∈
        (World.still (some Jobs.tenant) Jobs.epoch).questions
          (Operation.claimBatch Jobs.queue 1).program Memory.empty :=
    List.mem_cons_of_mem _ (List.mem_cons_of_mem _ List.mem_cons_self)
  exact ⟨((operations_scoped (World.still none Jobs.epoch) Memory.empty).1 _ rfl).1, _, hAsked,
    (operations_scoped (World.still (some Jobs.tenant) Jobs.epoch) Memory.empty).2.1
      (Operation.claimBatch Jobs.queue 1) Jobs.tenant rfl _ hAsked⟩

end Tenancy
