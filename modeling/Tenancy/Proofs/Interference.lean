import Tenancy.Proofs.Commands
import Tenancy.Proofs.Own
import Tenancy.Proofs.Scoping

/-!
# Tenants do not interfere

What an operation of a tenant answers, and what it does to the tenant's rows, is up to these rows
alone: in two tables that hold the same rows of the tenant, and any rows of others, it has the same
outcome and leaves the same rows of the tenant (`tenants_do_not_interfere`). This takes keys that
have the tenant in them, and operations that assign no ids (`Operation.KeepsIds`): ids are unique
across all tenants, so who assigns one may learn that another tenant has it.
-/

namespace Tenancy

variable {ρ α τ : Type}

/-! ## Operations that assign no ids -/

/-- The operation inserts no records, and nothing that it changes is an id. -/
def Operation.KeepsIds : Operation ρ α → Prop
  | .saveAll _ _ | .save _ _ | .insertAll _ _ | .insert _ _ | .saveOnce _ _ => False
  | .update s _ patch | .updateById s _ patch => patch.get? s.descriptor.idField = none
  | .softDelete s _ | .restore s _ => s.descriptor.softDeleteField ≠ some s.descriptor.idField
  | .markFailureWith q _ fields _ _ =>
    q.store.descriptor.idField ∉ [fields.attempts, fields.nextAttemptAt, fields.status]
  | .tenant _ | .find _ _ | .findOne _ _ | .findOneOrFail _ _ | .findById _ _
  | .findByIdOrFail _ _ | .count _ _ | .exists? _ _ | .create _ _ | .delete _ _ | .query _
  | .sqlQuery _ _ | .fetchAll _ | .fetchOne _ | .countAll _ | .claimBatch _ _
  | .updateStatus _ _ _ | .markSuccess _ _ _ | .markFailure _ _ _ | .markExhausted _ _ _ _
  | .releaseStale _ _ | .runOnce _ => True

/-- A patch that does not assign to the id field does not write to its column. -/
theorem Store.admits_keepsIds {s : Store ρ} {patch : Patch}
    (h : patch.get? s.descriptor.idField = none) :
    s.Admits (Command.KeepsIds s.table) patch := by
  intro tenant conditions assignments hAssignments a ha hId
  obtain ⟨b, hb, hName, -⟩ := exists_left_of_mem (resolvePatch_pairs hAssignments) ha
  obtain ⟨value, hAssigned⟩ := Patch.get?_of_mem (List.mem_of_mem_filter hb)
  rw [hId] at hName
  rw [ColumnMap.column?_inj hName s.resolution.idColumn, h] at hAssigned
  cases hAssigned

theorem Queue.grants_keepsIds (q : Queue ρ) : q.Grants (Command.KeepsIds q.store.table) := by
  refine ⟨fun tenant limit now => ?_, fun patch hReport _ => Store.admits_keepsIds ?_⟩
  · exact q.resolution.columns_ne q.store.resolution.idColumn (.inr rfl)
  · by_contra hAssigned
    obtain ⟨value, hAssigned⟩ := Option.ne_none_iff_exists'.mp hAssigned
    exact (q.resolution.reserved _ (hReport.roles _ _ hAssigned)).2 rfl

theorem Operation.KeepsIds.sends {op : Operation ρ α} (h : op.KeepsIds) :
    op.program.Sends (Command.KeepsIds op.store.table) := by
  cases op with
  | tenant s => exact s.requireTenant_sends _
  | find s filter => exact Store.find_sends (fun _ _ => trivial) filter
  | findOne s filter => exact Store.findOne_sends (fun _ _ => trivial) filter
  | findOneOrFail s filter => exact Store.findOneOrFail_sends (fun _ _ => trivial) filter
  | findById s id => exact Store.findOne_sends (fun _ _ => trivial) _
  | findByIdOrFail s id => exact Store.findByIdOrFail_sends (fun _ _ => trivial) id
  | count s filter => exact Store.count_sends (fun _ _ => trivial) filter
  | exists? s filter =>
    exact (Store.findOne_sends (fun _ _ => trivial) filter).bind fun _ => .pure _
  | create s partialRecord => exact Store.create_sends partialRecord
  | saveAll s records => exact h.elim
  | save s record => exact h.elim
  | insertAll s records => exact h.elim
  | insert s record => exact h.elim
  | saveOnce w record => exact h.elim
  | update s filter patch => exact Store.update_sends (Store.admits_keepsIds h) filter
  | updateById s id patch => exact Store.updateById_sends (Store.admits_keepsIds h) id
  | delete s filter => exact Store.delete_sends (fun _ _ => trivial) filter
  | softDelete s filter =>
    refine Store.softDelete_sends (fun field now hField => Store.admits_keepsIds ?_) filter
    rw [Patch.get?_set, if_neg fun hId => h (hField.trans (congrArg some hId.symm)),
      Patch.get?_empty]
  | restore s filter =>
    refine Store.restore_sends (fun field hField => Store.admits_keepsIds ?_) filter
    rw [Patch.get?_set, if_neg fun hId => h (hField.trans (congrArg some hId.symm)),
      Patch.get?_empty]
  | query s => exact s.query_sends
  | sqlQuery s name => exact s.sqlQuery_sends name
  | fetchAll q => exact Query.fetchAll_sends fun _ _ => trivial
  | fetchOne q => exact Query.fetchOne_sends fun _ _ => trivial
  | countAll q => exact Query.count_sends fun _ _ => trivial
  | claimBatch q limit => exact q.grants_keepsIds.claimBatch limit
  | updateStatus q id status => exact q.grants_keepsIds.updateStatus id status
  | markSuccess q id status => exact q.grants_keepsIds.updateStatus id status
  | markFailureWith q id fields attempts backoff =>
    refine Queue.markFailureWith_sends (fun next => Store.admits_keepsIds ?_) id backoff
    have hClaimedAt : q.roles.claimedAt ≠ some q.store.descriptor.idField := by
      intro hRole
      exact (q.resolution.reserved _ (by simp [QueueRoles.fields, hRole])).2 rfl
    obtain ⟨hAttempts, hNext, hStatus⟩ : q.store.descriptor.idField ≠ fields.attempts ∧
        q.store.descriptor.idField ≠ fields.nextAttemptAt ∧
        q.store.descriptor.idField ≠ fields.status := by
      simpa [Operation.KeepsIds] using h
    rw [Queue.retryPatch, Queue.get?_clearClaim, if_neg hClaimedAt, Patch.get?_set,
      if_neg hStatus, Patch.get?_set, if_neg hNext, Patch.get?_set, if_neg hAttempts,
      Patch.get?_empty]
  | markFailure q id attempts => exact q.grants_keepsIds.markFailureWith id attempts _
  | markExhausted q id status attempts => exact q.grants_keepsIds.markExhausted id status attempts
  | releaseStale q age => exact q.grants_keepsIds.releaseStale age
  | runOnce w => exact w.runOnce_sends w.queue.grants_keepsIds

/-! ## Two runs -/

/-- Tables in memory that are alike, at one state of the clock and of the handlers. -/
def World.Alike (table : Table) (tenant : TenantId) (x x' : Memory × τ) : Prop :=
  x.2 = x'.2 ∧ Memory.Alike table tenant x.1 x'.1

/-- A question of the tenant that assigns no ids is answered alike there. -/
theorem World.answer_alike {table : Table} {tenant : TenantId} {active : Option TenantId}
    (hKeys : ∀ key ∈ table.uniqueKeys, table.tenantColumn ∈ key) (clock : τ → Instant × τ)
    (handler : ρ → τ → Bool × τ) {rows : Row → Prop} {q : Question ρ} {x x' : Memory × τ}
    (hAsk : (confined ρ active table tenant rows).asks q)
    (hIds : (sending ρ (Command.KeepsIds table)).asks q) (h : World.Alike table tenant x x') :
    ((World.inMemory active clock handler).answer q x).1 =
        ((World.inMemory active clock handler).answer q x').1 ∧
      World.Alike table tenant ((World.inMemory active clock handler).answer q x).2
        ((World.inMemory active clock handler).answer q x').2 := by
  obtain ⟨m, t⟩ := x
  obtain ⟨m', t'⟩ := x'
  obtain ⟨rfl, hTables⟩ : t = t' ∧ Memory.Alike table tenant m m' := h
  cases q with
  | backend c =>
    obtain ⟨hAnswer, hAfter⟩ := Memory.backend_alike hKeys hAsk hIds hTables
    exact ⟨hAnswer, rfl, hAfter⟩
  | _ => exact ⟨rfl, rfl, hTables⟩

/-- Operations of the tenant that assign no ids have the same outcome there, and leave the tables
alike. -/
theorem Operation.run_alike {op : Operation ρ α} (hOp : op.KeepsIds) {active : Option TenantId}
    {tenant : TenantId} (hTenant : op.tenant? active = some tenant)
    (hKeys : ∀ key ∈ op.store.table.uniqueKeys, op.store.table.tenantColumn ∈ key)
    (clock : τ → Instant × τ) (handler : ρ → τ → Bool × τ) {x x' : Memory × τ}
    (h : World.Alike op.store.table tenant x x') :
    ((World.inMemory active clock handler).run op.program x).1 =
        ((World.inMemory active clock handler).run op.program x').1 ∧
      World.Alike op.store.table tenant ((World.inMemory active clock handler).run op.program x).2
        ((World.inMemory active clock handler).run op.program x').2 := by
  have hConfined := op.honors_confined hTenant op.store.yields_true
    fun _ => op.store.makes_true tenant
  have hHonors := hConfined.and_sends hOp.sends
  refine hHonors.run_related (fun q x x' hAlike hAsk => ?_) h
  obtain ⟨hAnswer, hAfter⟩ := World.answer_alike hKeys clock handler hAsk.1 hAsk.2 hAlike
  have hTerms := ((World.inMemory active clock handler).respects_confined op.store.table tenant
    q x trivial hAsk.1).1
  exact ⟨hAnswer, hTerms, hAfter⟩

/-- **Tenants do not interfere.** In a table of a descriptor whose declared keys have the tenant
field in them, let no two rows collide and each row carry a tenant. An operation of a tenant that
assigns no ids
1. has the same outcome, and leaves the same rows of the tenant, in every such table with the same
rows of the tenant, whatever the rows of others are,
2. and so it has the outcome that it has where the tenant's rows are all that there is: no row of
another tenant brings it into a conflict. -/
theorem tenants_do_not_interfere {op : Operation ρ α} (hOp : op.KeepsIds)
    {active : Option TenantId} {tenant : TenantId} (hTenant : op.tenant? active = some tenant)
    (hKeys : ∀ key ∈ op.store.descriptor.uniqueKeys, op.store.descriptor.tenantField ∈ key)
    {m : Memory} (hApart : Memory.KeysApart op.store.table (m.rows op.store.table.name))
    (hTagged : Memory.Tagged op.store.table (m.rows op.store.table.name))
    (clock : τ → Instant × τ) (handler : ρ → τ → Bool × τ) (t : τ) :
    (∀ m' : Memory, Memory.KeysApart op.store.table (m'.rows op.store.table.name) →
      Memory.Tagged op.store.table (m'.rows op.store.table.name) →
      Memory.own op.store.table tenant (m'.rows op.store.table.name) =
        Memory.own op.store.table tenant (m.rows op.store.table.name) →
      ((World.inMemory active clock handler).run op.program (m', t)).1 =
          ((World.inMemory active clock handler).run op.program (m, t)).1 ∧
        Memory.own op.store.table tenant
            (((World.inMemory active clock handler).run op.program (m', t)).2.1.rows
              op.store.table.name) =
          Memory.own op.store.table tenant
            (((World.inMemory active clock handler).run op.program (m, t)).2.1.rows
              op.store.table.name)) ∧
    ((World.inMemory active clock handler).run op.program
        (m.setRows op.store.table.name
          (Memory.own op.store.table tenant (m.rows op.store.table.name)), t)).1 =
      ((World.inMemory active clock handler).run op.program (m, t)).1 := by
  have hColumns : ∀ key ∈ op.store.table.uniqueKeys, op.store.table.tenantColumn ∈ key := by
    intro key hKey
    obtain ⟨fields, hFields, hPairs⟩ := exists_left_of_mem op.store.resolution.keyColumns hKey
    obtain ⟨column, hMem, hColumn⟩ := exists_left_of_mem hPairs.flip (hKeys fields hFields)
    cases Option.some.inj (op.store.resolution.tenantColumn.symm.trans hColumn)
    exact hMem
  have hSeparate : Memory.Separate op.store.table tenant (m.rows op.store.table.name) :=
    hApart.separate hTagged
  refine ⟨fun m' hApart' hTagged' hOwn => ?_, ?_⟩
  · have hAlike : World.Alike op.store.table tenant (m', t) (m, t) :=
      ⟨rfl, hOwn, hApart'.separate hTagged', hSeparate⟩
    obtain ⟨hResult, -, hAfter⟩ := Operation.run_alike hOp hTenant hColumns clock handler hAlike
    exact ⟨hResult, hAfter.own_eq⟩
  · -- The tenant's rows are a table of their own, with the same rows of the tenant.
    have hAlone : World.Alike op.store.table tenant
        (m.setRows op.store.table.name
          (Memory.own op.store.table tenant (m.rows op.store.table.name)), t) (m, t) := by
      refine ⟨rfl, ?_, ?_, hSeparate⟩
      · rw [Memory.rows_setRows_self, Memory.own, Memory.own, List.filter_filter]
        simp
      · rw [Memory.rows_setRows_self]
        exact hSeparate.subset fun row hRow => List.mem_of_mem_filter hRow
    exact (Operation.run_alike hOp hTenant hColumns clock handler hAlone).1

namespace Jobs

/-- A job of the tenant in a lane of its own, beside the job of a stranger in another one. -/
def neighbours : Memory :=
  ⟨[("jobs",
    [((waiting "b").insert "tenant_id" (.string stranger.text)).insert "lane" (.string "B"),
      (waiting "a").insert "lane" (.string "A")])], 1⟩

/-- A job moves to the lane in which a stranger has a job, as it does where nobody else has one. -/
theorem jobs_do_not_interfere :
    let world : World (Memory × Unit) Json :=
      .inMemory (some tenant) (fun t => (epoch, t)) fun _ t => (true, t)
    let move := Operation.update laned.store .all (Patch.empty.set "lane" (.text "B"))
    let alone : Memory := neighbours.setRows "jobs" [(waiting "a").insert "lane" (.string "A")]
    (world.run move.program (neighbours, ())).1 = (world.run move.program (alone, ())).1 ∧
      (world.run move.program (neighbours, ())).1 = .ok 1 := by
  have hKeys : ∀ key ∈ laned.store.descriptor.uniqueKeys,
      laned.store.descriptor.tenantField ∈ key := by
    decide
  have hApart : Memory.KeysApart laned.store.table (neighbours.rows "jobs") := by
    decide +kernel
  have hTagged : Memory.Tagged laned.store.table (neighbours.rows "jobs") := by
    intro row hRow
    rcases List.mem_pair.mp hRow with rfl | rfl
    · exact ⟨stranger, rfl⟩
    · exact ⟨tenant, rfl⟩
  have hTenant : (Operation.update laned.store .all (Patch.empty.set "lane" (.text "B"))).tenant?
      (some tenant) = some tenant := rfl
  have hIds : (Operation.update laned.store .all
      (Patch.empty.set "lane" (.text "B"))).KeepsIds := rfl
  have hSame := (tenants_do_not_interfere hIds hTenant hKeys hApart hTagged
    (fun t : Unit => (epoch, t)) (fun _ t => (true, t)) ()).2.symm
  exact ⟨hSame, hSame.trans rfl⟩

end Jobs

end Tenancy
