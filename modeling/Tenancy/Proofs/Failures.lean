import Tenancy.Proofs.Queue.WriteBack

/-!
# Failed statements

What an operation that fails has done to the tables. A backend carries out a command as a whole or
not at all, but the rows that it answers are decoded afterwards. So a claim, an insertion or a save
that fails has changed nothing, or its command has taken effect and one of the answered rows is no
record (`failures_all_or_nothing`).
-/

namespace Tenancy

open Memory

variable {ρ : Type} {active : Option TenantId} {now : Instant} {m m' : Memory} {e : Failure}

/-! ## Commands that fail -/

namespace Memory

/-- The same rows under every name. -/
def SameRows (m m' : Memory) : Prop := ∀ name, m'.rows name = m.rows name

/-- Rows that could not all be written leave nothing behind but the ids that were drawn. -/
theorem sameRows_of_write_error {one : Row → Staged → Except StoreError Row × Staged}
    {table : Table} {rows : List Row} {cause : StoreError}
    (h : (write one table rows m).1 = .error cause) : SameRows m (write one table rows m).2 := by
  rcases write_cases one table rows m with ⟨-, -, hSame⟩ | ⟨written, -, hOk, -⟩
  · exact hSame
  · cases h.symm.trans hOk

end Memory

/-! ## Answers that are no records -/

namespace Store

variable {s : Store ρ}

/-- The command answered rows, one of them is no record, and that is the failure. -/
def Undecoded (s : Store ρ) (answer : Except StoreError (List Row)) (e : Failure) : Prop :=
  ∃ rows text, answer = .ok rows ∧ (∃ row ∈ rows, s.codec.decode (s.columns.toFields row).toJson =
    .error text) ∧ e = .error (.serialization (.reported text))

theorem undecoded_of_decodeRows {rows : List Row} {cause : StoreError}
    (h : s.decodeRows rows = .error cause) : s.Undecoded (.ok rows) (.error cause) := by
  obtain ⟨row, hRow, hFails⟩ := Except.exists_of_mapM_error h
  unfold decodeRow decodeJson at hFails
  split at hFails
  · cases hFails
  · rename_i text hText
    cases hFails
    exact ⟨rows, text, rfl, ⟨row, hRow, hText⟩, rfl⟩

/-! ## Insertions and saves -/

/-- Writes the rows of records with one command and decodes what it answers. -/
def writeAll (s : Store ρ) (operation : String) (write : List Row → Program ρ (List Row))
    (records : List ρ) : Program ρ (List ρ) := do
  let tenant ← s.requireTenant operation
  if records.isEmpty then return []
  let rows ← Program.ofExcept (records.mapM (s.encodeRow tenant))
  let written ← write rows
  Program.ofExcept (s.decodeRows written)

theorem insertAll_eq (s : Store ρ) :
    s.insertAll = s.writeAll "insert" fun rows => Program.send (.insert s.table rows) := rfl

theorem saveAll_eq (s : Store ρ) :
    s.saveAll = s.writeAll "save" fun rows => Program.send (.upsert s.table rows) := rfl

/-- A write that fails has not written anything or has written all of its rows. -/
theorem writeAll_fails {operation : String} {write : List Row → Program ρ (List Row)}
    {effect : List Row → Memory → Except StoreError (List Row) × Memory}
    (hWrite : ∀ rows m, (World.still active now).run (write rows) m =
      ((effect rows m).1.mapError .error, (effect rows m).2))
    (hEffect : ∀ rows cause, (effect rows m).1 = .error cause → SameRows m (effect rows m).2)
    {records : List ρ}
    (h : (World.still active now).run (s.writeAll operation write records) m = (.error e, m')) :
    SameRows m m' ∨ ∃ tenant rows, s.context.reports active = some tenant ∧
      records.mapM (s.encodeRow tenant) = .ok rows ∧ m' = (effect rows m).2 ∧
      s.Undecoded (effect rows m).1 e := by
  have hSame : ∀ {e' : Failure}, (Except.error e', m) =
      ((Except.error e, m') : Except Failure (List ρ) × Memory) → SameRows m m' := by
    intro e' hEq
    cases hEq
    exact fun _ => rfl
  cases hContext : s.context.reports active with
  | none =>
    rw [writeAll, run_unscoped (w := World.still active now) hContext] at h
    exact .inl (hSame h)
  | some tenant =>
    rw [writeAll, run_scope (w := World.still active now) hContext] at h
    split at h
    · cases h
    · rw [World.run_bind, World.run_ofExcept] at h
      cases hRows : records.mapM (s.encodeRow tenant) with
      | error cause =>
        rw [hRows] at h
        exact .inl (hSame h)
      | ok rows =>
        rw [hRows] at h
        have hRun : (World.still active now).run
            (write rows >>= fun written => Program.ofExcept (s.decodeRows written)) m =
              (.error e, m') := h
        rw [World.run_bind, hWrite] at hRun
        cases hAnswer : (effect rows m).1 with
        | error cause =>
          rw [hAnswer] at hRun
          cases hRun
          exact .inl (hEffect rows cause hAnswer)
        | ok written =>
          rw [hAnswer] at hRun
          simp only [Except.mapError, World.run_ofExcept] at hRun
          cases hDecode : s.decodeRows written with
          | ok records =>
            rw [hDecode] at hRun
            cases hRun
          | error cause =>
            rw [hDecode] at hRun
            cases hRun
            exact .inr ⟨tenant, rows, rfl, hRows, rfl, hAnswer ▸ undecoded_of_decodeRows hDecode⟩

end Store

/-! ## Claims -/

/-- A claim that fails has not taken any row or has taken all that it could. -/
theorem Queue.claimBatch_fails {q : Queue ρ} {limit : Nat}
    (h : (World.still active now).run (q.claimBatch limit) m = (.error e, m')) :
    SameRows m m' ∨ ∃ tenant, q.store.context.reports active = some tenant ∧
      m' = (m.claim q.store.table tenant { q.columns with limit, now }).2 ∧
      q.store.Undecoded (.ok (m.claim q.store.table tenant { q.columns with limit, now }).1) e := by
  cases hContext : q.store.context.reports active with
  | none =>
    rw [claimBatch, Store.run_unscoped (w := World.still active now) hContext] at h
    cases h
    exact .inl fun _ => rfl
  | some tenant =>
    rw [run_claimBatch hContext] at h
    split at h
    · cases h
    · cases hDecode : q.store.decodeRows
        (m.claim q.store.table tenant { q.columns with limit, now }).1 with
      | ok records =>
        rw [hDecode] at h
        cases h
      | error cause =>
        rw [hDecode] at h
        cases h
        exact .inr ⟨tenant, rfl, rfl, Store.undecoded_of_decodeRows hDecode⟩

/-- **All or nothing.** A claim, an insertion or a save that fails leaves the rows of all tables as
they were, or its command has taken effect and one of the rows that it answered is no record, which
is the failure. -/
theorem failures_all_or_nothing (active : Option TenantId) (now : Instant) (m m' : Memory)
    (e : Failure) :
    (∀ (q : Queue ρ) (limit : Nat),
      (World.still active now).run (q.claimBatch limit) m = (.error e, m') →
        SameRows m m' ∨ ∃ tenant, q.store.context.reports active = some tenant ∧
          m' = (m.claim q.store.table tenant { q.columns with limit, now }).2 ∧
          q.store.Undecoded
            (.ok (m.claim q.store.table tenant { q.columns with limit, now }).1) e) ∧
      (∀ (s : Store ρ) (records : List ρ),
        (World.still active now).run (s.insertAll records) m = (.error e, m') →
          SameRows m m' ∨ ∃ tenant rows, s.context.reports active = some tenant ∧
            records.mapM (s.encodeRow tenant) = .ok rows ∧ m' = (m.insert s.table rows).2 ∧
            s.Undecoded (m.insert s.table rows).1 e) ∧
      ∀ (s : Store ρ) (records : List ρ),
        (World.still active now).run (s.saveAll records) m = (.error e, m') →
          SameRows m m' ∨ ∃ tenant rows, s.context.reports active = some tenant ∧
            records.mapM (s.encodeRow tenant) = .ok rows ∧ m' = (m.upsert s.table rows).2 ∧
            s.Undecoded (m.upsert s.table rows).1 e := by
  refine ⟨fun q limit h => Queue.claimBatch_fails h, ?_, ?_⟩
  · intro s records h
    rw [Store.insertAll_eq] at h
    exact Store.writeAll_fails (fun rows m => World.run_send _ (.insert s.table rows) m)
      (fun rows cause hFails => sameRows_of_write_error hFails) h
  · intro s records h
    rw [Store.saveAll_eq] at h
    exact Store.writeAll_fails (fun rows m => World.run_send _ (.upsert s.table rows) m)
      (fun rows cause hFails => sameRows_of_write_error hFails) h

/-! ## Jobs without a time of creation -/

namespace Jobs

/-- Records that need a time of creation. -/
def dated : Codec Json where
  encode := .ok
  decode
    | .object fields =>
      if (fields.lookup "created_at").isSome then .ok (.object fields)
      else .error "missing field created_at"
    | _ => .error "not an object"

def datedQueue : Queue Json := { queue with store := { store with codec := dated } }

end Jobs

/-- The insertion of a job without a time of creation fails after the row was written. -/
theorem jobs_inserted_undecoded :
    (World.still (some Jobs.tenant) Jobs.epoch).run
        (Jobs.datedQueue.store.insertAll [(Jobs.waiting "a").toJson]) .empty =
      (.error (.error (.serialization (.reported "missing field created_at"))),
        ⟨[("jobs", [Jobs.waiting "a"])], 1⟩) ∧
    (SameRows .empty ⟨[("jobs", [Jobs.waiting "a"])], 1⟩ ∨
      ∃ tenant rows, TenantContext.ambient.reports (some Jobs.tenant) = some tenant ∧
        [(Jobs.waiting "a").toJson].mapM (Jobs.datedQueue.store.encodeRow tenant) = .ok rows ∧
        (⟨[("jobs", [Jobs.waiting "a"])], 1⟩ : Memory) =
          (Memory.empty.insert Jobs.store.table rows).2 ∧
        Jobs.datedQueue.store.Undecoded (Memory.empty.insert Jobs.store.table rows).1
          (.error (.serialization (.reported "missing field created_at")))) := by
  have hRun : (World.still (some Jobs.tenant) Jobs.epoch).run
      (Jobs.datedQueue.store.insertAll [(Jobs.waiting "a").toJson]) .empty =
        (.error (.error (.serialization (.reported "missing field created_at"))),
          ⟨[("jobs", [Jobs.waiting "a"])], 1⟩) := rfl
  exact ⟨hRun, (failures_all_or_nothing _ _ _ _ _).2.1 _ _ hRun⟩

/-- A claim of a job without a time of creation fails, and the job is taken all the same. -/
theorem jobs_claimed_undecoded :
    (World.still (some Jobs.tenant) Jobs.epoch).run (Jobs.datedQueue.claimBatch 1)
        ⟨[("jobs", [Jobs.waiting "a"])], 1⟩ =
      (.error (.error (.serialization (.reported "missing field created_at"))),
        ⟨[("jobs", [markClaimed Jobs.claim (Jobs.waiting "a")])], 1⟩) ∧
    ¬ SameRows ⟨[("jobs", [Jobs.waiting "a"])], 1⟩
      ⟨[("jobs", [markClaimed Jobs.claim (Jobs.waiting "a")])], 1⟩ := by
  refine ⟨rfl, fun hSame => ?_⟩
  have hStatus : [Json.string "TAKEN"] = [Json.string "PENDING"] :=
    congrArg (List.map fun row : Row => row.cell "status") (hSame "jobs")
  simp at hStatus

end Tenancy
