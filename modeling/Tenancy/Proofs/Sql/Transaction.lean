import Tenancy.Proofs.Schema
import Tenancy.Proofs.Sql.Groups

/-!
# A batch in one transaction

What is said between the backend and the server while a batch is written. The transcript of an
exchange (`talk`) has every message with its answer; a batch takes one of four courses (`Course`):
the transaction does not start, a statement is answered by something other than one object for each
of its rows, the transaction cannot be committed, or it is. Nothing is assumed of the server.
-/

namespace Tenancy

namespace Dialogue

variable {Q : Type} {A : Q → Type} {α β σ : Type}

/-- The questions of a run with their answers. -/
def transcript (answer : (q : Q) → σ → A q × σ) : Dialogue Q A α → σ → List ((q : Q) × A q)
  | .done _, _ => []
  | .ask q next, s =>
    ⟨q, (answer q s).1⟩ :: (next (answer q s).1).transcript answer (answer q s).2

theorem transcript_bind (answer : (q : Q) → σ → A q × σ) (d : Dialogue Q A α)
    (f : α → Dialogue Q A β) (s : σ) :
    (d >>= f).transcript answer s =
      d.transcript answer s ++ (f (d.run answer s).1).transcript answer (d.run answer s).2 := by
  induction d generalizing s with
  | done a => rfl
  | ask q next ih => exact congrArg (_ :: ·) (ih (answer q s).1 (answer q s).2)

end Dialogue

namespace Sql.Exchange

/-! ## What is said in an exchange -/

/-- A message and its answer. -/
abbrev Entry := (m : Message) × m.Reply

variable {α β σ : Type} {server : (m : Message) → σ → m.Reply × σ} {x : Exchange α} {s s' : σ}

/-- What is said in an exchange, its result, and the state of the server behind it. -/
def talk (server : (m : Message) → σ → m.Reply × σ) (x : Exchange α) (s : σ) :
    List Entry × Except StoreError α × σ :=
  (Dialogue.transcript server (ExceptT.run x) s, Dialogue.run server (ExceptT.run x) s)

theorem talk_bind_ok {f : α → Exchange β} {said : List Entry} {a : α}
    (h : talk server x s = (said, .ok a, s')) :
    talk server (x >>= f) s = (said ++ (talk server (f a) s').1, (talk server (f a) s').2) := by
  obtain ⟨rfl, hRun⟩ := Prod.mk.inj h
  refine Prod.ext ?_ ?_
  · rw [talk, ExceptT.run_bind, Dialogue.transcript_bind, hRun]
    rfl
  · rw [talk, ExceptT.run_bind, Dialogue.run_bind, hRun]
    rfl

theorem talk_bind_error {f : α → Exchange β} {said : List Entry} {e : StoreError}
    (h : talk server x s = (said, .error e, s')) :
    talk server (x >>= f) s = (said, .error e, s') := by
  obtain ⟨rfl, hRun⟩ := Prod.mk.inj h
  refine Prod.ext ?_ ?_
  · rw [talk, ExceptT.run_bind, Dialogue.transcript_bind, hRun]
    exact List.append_nil _
  · rw [talk, ExceptT.run_bind, Dialogue.run_bind, hRun]
    rfl

theorem talk_tryCatch_ok {recover : StoreError → Exchange α} {said : List Entry} {a : α}
    (h : talk server x s = (said, .ok a, s')) :
    talk server (tryCatch x recover) s = (said, .ok a, s') := by
  obtain ⟨rfl, hRun⟩ := Prod.mk.inj h
  refine Prod.ext ?_ ?_
  · rw [talk, ExceptT.run_tryCatch, Dialogue.transcript_bind, hRun]
    exact List.append_nil _
  · rw [talk, ExceptT.run_tryCatch, Dialogue.run_bind, hRun]
    rfl

theorem talk_tryCatch_error {recover : StoreError → Exchange α} {said : List Entry}
    {e : StoreError} (h : talk server x s = (said, .error e, s')) :
    talk server (tryCatch x recover) s =
      (said ++ (talk server (recover e) s').1, (talk server (recover e) s').2) := by
  obtain ⟨rfl, hRun⟩ := Prod.mk.inj h
  refine Prod.ext ?_ ?_
  · rw [talk, ExceptT.run_tryCatch, Dialogue.transcript_bind, hRun]
    rfl
  · rw [talk, ExceptT.run_tryCatch, Dialogue.run_bind, hRun]
    rfl

theorem talk_ask (m : Message) (s : σ) :
    talk server (ask m) s = ([⟨m, (server m s).1⟩], .ok (server m s).1, (server m s).2) := rfl

/-- The answer to a message as the result of an operation. -/
def reported (operation : String) : Except Fault α → Except StoreError α
  | .ok a => .ok a
  | .error f => .error (f.toStoreError operation)

/-- A statement that answers with documents. -/
theorem talk_fetch (server : (m : Message) → σ → m.Reply × σ) (operation : String)
    (statement : Statement) (s : σ) :
    ∃ (reply : Except Fault (List Json)) (s' : σ), talk server (fetch operation statement) s =
      ([⟨.fetch statement, reply⟩], reported operation reply, s') := by
  refine ⟨(server (.fetch statement) s).1, (server (.fetch statement) s).2, ?_⟩
  refine (talk_bind_ok (talk_ask (.fetch statement) s)).trans ?_
  generalize server (.fetch statement) s = answer
  obtain ⟨reply, s'⟩ := answer
  change Except Fault (List Json) at reply
  cases reply <;> rfl

/-! ## One statement for each group -/

variable {operation : String} {table : Table} {upsert : Bool}

/-- The statement for the rows of a group with its answer. -/
def inserted (table : Table) (upsert : Bool) (g : Group) (reply : Except Fault (List Json)) :
    Entry :=
  ⟨.fetch (insert table g.columns (g.members.map (·.2)) upsert), reply⟩

/-- The answer to the statement for a group has one object for each of its rows. -/
def Accepted (g : Group) (reply : Except Fault (List Json)) : Prop :=
  ∃ documents, reply = .ok documents ∧ documents.length = g.members.length ∧
    ∀ d ∈ documents, ∃ fields, d = .object fields

/-- The rows that come back for a group, with the places of its members. -/
def Stored (g : Group) (reply : Except Fault (List Json)) (part : List (Nat × Row)) : Prop :=
  ∃ documents rows, reply = .ok documents ∧ documents.length = g.members.length ∧
    documents.mapM rowOf = .ok rows ∧ part = (g.members.map (·.1)).zip rows

theorem rowOf_eq_ok {d : Json} {row : Row} :
    rowOf d = .ok row ↔ ∃ fields, d = .object fields ∧ row = Row.ofEntries fields := by
  cases d <;> simp [rowOf, eq_comm]

theorem accepted_iff {g : Group} {reply : Except Fault (List Json)} :
    Accepted g reply ↔ ∃ part, Stored g reply part := by
  constructor
  · rintro ⟨documents, hReply, hLength, hObjects⟩
    obtain ⟨rows, hRows⟩ := Except.exists_mapM (f := rowOf) fun d hd => by
      obtain ⟨fields, rfl⟩ := hObjects d hd
      exact ⟨_, rfl⟩
    exact ⟨_, documents, rows, hReply, hLength, hRows, rfl⟩
  · rintro ⟨part, documents, rows, hReply, hLength, hRows, rfl⟩
    refine ⟨documents, hReply, hLength, fun d hd => ?_⟩
    obtain ⟨row, -, hRow⟩ := exists_left_of_mem (Except.mapM_eq_ok.1 hRows).flip hd
    obtain ⟨fields, hFields, -⟩ := rowOf_eq_ok.1 hRow
    exact ⟨fields, hFields⟩

/-- What becomes of the documents that come back for a group. -/
theorem talk_writeGroup_ok {g : Group} {said : List Entry} {documents : List Json}
    (h : talk server (fetch operation (insert table g.columns (g.members.map (·.2)) upsert)) s =
      (said, .ok documents, s')) :
    talk server (writeGroup operation table upsert g) s =
      (said, if documents.length = g.members.length then
          (documents.mapM rowOf).map ((g.members.map (·.1)).zip ·)
        else .error (.conflict (.skippedRows (g.members.length - documents.length) g.members.length
          table.name)), s') := by
  rw [writeGroup, talk_bind_ok h]
  by_cases hLength : documents.length = g.members.length
  · rw [if_neg (not_not_intro hLength), if_pos hLength]
    cases hRows : documents.mapM rowOf <;>
    · simp only [rowsOf, hRows]
      exact Prod.ext (List.append_nil said) rfl
  · rw [if_pos hLength, if_neg hLength]
    exact Prod.ext (List.append_nil said) rfl

/-- One group is written with one statement, and the result depends on its answer. -/
theorem talk_writeGroup (server : (m : Message) → σ → m.Reply × σ) (operation : String)
    (table : Table) (upsert : Bool) (g : Group) (s : σ) :
    ∃ reply result s', talk server (writeGroup operation table upsert g) s =
        ([inserted table upsert g reply], result, s') ∧
      ((∃ part, Stored g reply part ∧ result = .ok part) ∨
        ¬Accepted g reply ∧ ∃ e, result = .error e) := by
  obtain ⟨reply, s', hFetch⟩ := talk_fetch server operation
    (insert table g.columns (g.members.map (·.2)) upsert) s
  cases reply with
  | error f =>
    refine ⟨.error f, _, _, talk_bind_error hFetch, Or.inr ⟨?_, _, rfl⟩⟩
    rintro ⟨documents, hOk, -⟩
    cases hOk
  | ok documents =>
    have hGroup := talk_writeGroup_ok hFetch
    refine ⟨.ok documents, _, _, hGroup, ?_⟩
    by_cases hLength : documents.length = g.members.length
    · rw [if_pos hLength]
      cases hRows : documents.mapM rowOf with
      | ok rows => exact Or.inl ⟨_, ⟨documents, rows, rfl, hLength, hRows, rfl⟩, rfl⟩
      | error e =>
        refine Or.inr ⟨?_, e, rfl⟩
        rw [accepted_iff]
        rintro ⟨part, documents, rows, hOk, -, hRows', -⟩
        cases hOk
        cases hRows.symm.trans hRows'
    · rw [if_neg hLength]
      refine Or.inr ⟨?_, _, rfl⟩
      rintro ⟨documents, hOk, hLength', -⟩
      cases hOk
      exact hLength hLength'

/-- The rows that come back for all groups, with their places. -/
inductive AllStored : List Group → List (Except Fault (List Json)) → List (Nat × Row) → Prop where
  | nil : AllStored [] [] []
  | cons {g : Group} {groups : List Group} {reply : Except Fault (List Json)}
    {replies : List (Except Fault (List Json))} {part written : List (Nat × Row)} :
    Stored g reply part → AllStored groups replies written →
      AllStored (g :: groups) (reply :: replies) (part ++ written)

theorem AllStored.accepted {groups : List Group} {replies : List (Except Fault (List Json))}
    {written : List (Nat × Row)} (h : AllStored groups replies written) :
    List.Forall₂ Accepted groups replies := by
  induction h with
  | nil => exact .nil
  | cons hStored _ ih => exact .cons (accepted_iff.2 ⟨_, hStored⟩) ih

/-- The statements for groups with their answers. -/
def insertedAll (table : Table) (upsert : Bool) (groups : List Group)
    (replies : List (Except Fault (List Json))) : List Entry :=
  List.zipWith (inserted table upsert) groups replies

/-- Groups are written one after the other up to the first answer that is not accepted. -/
theorem talk_writeGroups (server : (m : Message) → σ → m.Reply × σ) (operation : String)
    (table : Table) (upsert : Bool) (groups : List Group) (s : σ) :
    (∃ replies written s', talk server (writeGroups operation table upsert groups) s =
        (insertedAll table upsert groups replies, .ok written, s') ∧
      AllStored groups replies written) ∨
    ∃ before g after replies reply e s', groups = before ++ g :: after ∧
      talk server (writeGroups operation table upsert groups) s =
        (insertedAll table upsert before replies ++ [inserted table upsert g reply], .error e, s') ∧
      List.Forall₂ Accepted before replies ∧ ¬Accepted g reply := by
  induction groups generalizing s with
  | nil => exact Or.inl ⟨[], [], s, rfl, .nil⟩
  | cons g groups ih =>
    obtain ⟨reply, result, s₁, hGroup, hResult⟩ := talk_writeGroup server operation table upsert g s
    rcases hResult with ⟨part, hStored, rfl⟩ | ⟨hNot, e, rfl⟩
    · rw [writeGroups, talk_bind_ok hGroup]
      rcases ih s₁ with ⟨replies, written, s₂, hRest, hAll⟩ |
        ⟨before, h, after, replies, reply', e, s₂, rfl, hRest, hBefore, hNot⟩
      · rw [talk_bind_ok hRest]
        refine Or.inl ⟨reply :: replies, part ++ written, s₂, ?_, .cons hStored hAll⟩
        exact Prod.ext (congrArg (_ :: ·) (List.append_nil _)) rfl
      · rw [talk_bind_error hRest]
        exact Or.inr ⟨g :: before, h, after, reply :: replies, reply', e, s₂, rfl, rfl,
          .cons (accepted_iff.2 ⟨_, hStored⟩) hBefore, hNot⟩
    · rw [writeGroups, talk_bind_error hGroup]
      exact Or.inr ⟨[], g, groups, [], reply, e, s₁, rfl, rfl, .nil, hNot⟩

/-! ## The transaction around them -/

def begun (reply : Except Fault Unit) : Entry := ⟨.beginTransaction, reply⟩

def committed (reply : Except Fault Unit) : Entry := ⟨.commit, reply⟩

def rolledBack : Entry := ⟨.rollback, ()⟩

/-- How a transaction around an exchange goes. -/
inductive Settled (server : (m : Message) → σ → m.Reply × σ) (body : Exchange α) :
    List Entry → Except StoreError α → Prop where
  | refused (f : Fault) :
    Settled server body [begun (.error f)] (.error (f.toStoreError "begin_transaction"))
  | failed {s s' : σ} {said : List Entry} {e : StoreError} :
    talk server body s = (said, .error e, s') →
      Settled server body (begun (.ok ()) :: said ++ [rolledBack]) (.error e)
  | unsettled {s s' : σ} {said : List Entry} {a : α} (f : Fault) :
    talk server body s = (said, .ok a, s') →
      Settled server body (begun (.ok ()) :: said ++ [committed (.error f), rolledBack])
        (.error (f.toStoreError "commit"))
  | settled {s s' : σ} {said : List Entry} {a : α} :
    talk server body s = (said, .ok a, s') →
      Settled server body (begun (.ok ()) :: said ++ [committed (.ok ())]) (.ok a)

/-- The start of a transaction: a fault there is its end, too. -/
theorem talk_begin (server : (m : Message) → σ → m.Reply × σ) (rest : Exchange α) (s : σ) :
    ∃ (reply : Except Fault Unit) (s' : σ),
      talk server (do
        let reply : Except Fault Unit ← ask .beginTransaction
        orFail "begin_transaction" reply
        rest) s =
      match reply with
      | .ok () => (begun (.ok ()) :: (talk server rest s').1, (talk server rest s').2)
      | .error f => ([begun (.error f)], .error (f.toStoreError "begin_transaction"), s') := by
  refine ⟨(server .beginTransaction s).1, (server .beginTransaction s).2, ?_⟩
  refine (talk_bind_ok (talk_ask .beginTransaction s)).trans ?_
  generalize server .beginTransaction s = answer
  obtain ⟨reply, s'⟩ := answer
  change Except Fault Unit at reply
  cases reply <;> rfl

/-- The commit of a transaction whose body came through. -/
theorem talk_commit (server : (m : Message) → σ → m.Reply × σ) (a : α) (s : σ) :
    ∃ (reply : Except Fault Unit) (s' : σ),
      talk server (do
        let reply : Except Fault Unit ← ask .commit
        orFail "commit" reply
        pure a) s =
      ([committed reply], (reported "commit" reply).map fun _ => a, s') := by
  refine ⟨(server .commit s).1, (server .commit s).2, ?_⟩
  refine (talk_bind_ok (talk_ask .commit s)).trans ?_
  generalize server .commit s = answer
  obtain ⟨reply, s'⟩ := answer
  change Except Fault Unit at reply
  cases reply <;> rfl

/-- A transaction that fails is rolled back. -/
theorem talk_rollback (server : (m : Message) → σ → m.Reply × σ) (α : Type) (e : StoreError)
    (s : σ) :
    ∃ s' : σ, talk server (do
        let _ ← ask .rollback
        throw e : Exchange α) s = ([rolledBack], .error e, s') :=
  ⟨_, rfl⟩

theorem settled_transaction (server : (m : Message) → σ → m.Reply × σ) (body : Exchange α)
    (s : σ) :
    Settled server body (talk server (transaction body) s).1
      (talk server (transaction body) s).2.1 := by
  rw [transaction]
  obtain ⟨reply, s₁, hBegin⟩ := talk_begin server (tryCatch (do
    let result ← body
    let reply : Except Fault Unit ← ask .commit
    orFail "commit" reply
    pure result) fun e => do
      let _ ← ask .rollback
      throw e) s
  rw [hBegin]
  cases reply with
  | error f => exact .refused f
  | ok _ =>
    obtain ⟨said, result, s₂, hBody⟩ : ∃ said result s₂, talk server body s₁ = (said, result, s₂) :=
      ⟨_, _, _, rfl⟩
    cases result with
    | error e =>
      obtain ⟨s₃, hRollback⟩ := talk_rollback server α e s₂
      dsimp only
      rw [talk_tryCatch_error (talk_bind_error hBody), hRollback]
      exact .failed hBody
    | ok a =>
      obtain ⟨reply, s₃, hCommit⟩ := talk_commit server a s₂
      have hSettle := talk_bind_ok (f := fun result => do
        let reply : Except Fault Unit ← ask .commit
        orFail "commit" reply
        pure result) hBody
      rw [hCommit] at hSettle
      cases reply with
      | error f =>
        obtain ⟨s₄, hRollback⟩ := talk_rollback server α (f.toStoreError "commit") s₃
        dsimp only
        rw [talk_tryCatch_error hSettle, hRollback]
        simpa using Settled.unsettled f hBody
      | ok _ =>
        dsimp only
        rw [talk_tryCatch_ok hSettle]
        exact .settled hBody

/-! ## The courses of a batch -/

/-- How the writing of a batch of groups goes: what is said, and the rows that come back with their
places. -/
inductive Course (table : Table) (upsert : Bool) (groups : List Group) :
    List Entry → Except StoreError (List (Nat × Row)) → Prop where
  | refused (f : Fault) :
    Course table upsert groups [begun (.error f)] (.error (f.toStoreError "begin_transaction"))
  | stopped {before after : List Group} {g : Group} {replies : List (Except Fault (List Json))}
    {reply : Except Fault (List Json)} (e : StoreError) :
    groups = before ++ g :: after → List.Forall₂ Accepted before replies → ¬Accepted g reply →
      Course table upsert groups
        (begun (.ok ()) :: insertedAll table upsert before replies ++
          [inserted table upsert g reply, rolledBack]) (.error e)
  | unsettled {replies : List (Except Fault (List Json))} (f : Fault) :
    List.Forall₂ Accepted groups replies →
      Course table upsert groups
        (begun (.ok ()) :: insertedAll table upsert groups replies ++
          [committed (.error f), rolledBack]) (.error (f.toStoreError "commit"))
  | settled {replies : List (Except Fault (List Json))} {written : List (Nat × Row)} :
    AllStored groups replies written →
      Course table upsert groups
        (begun (.ok ()) :: insertedAll table upsert groups replies ++ [committed (.ok ())])
        (.ok written)

theorem course_writeGroups (server : (m : Message) → σ → m.Reply × σ) (operation : String)
    (table : Table) (upsert : Bool) (groups : List Group) (s : σ) :
    Course table upsert groups
      (talk server (transaction (writeGroups operation table upsert groups)) s).1
      (talk server (transaction (writeGroups operation table upsert groups)) s).2.1 := by
  have hGroups := talk_writeGroups server operation table upsert groups
  have hSettled := settled_transaction server (writeGroups operation table upsert groups) s
  generalize talk server (transaction (writeGroups operation table upsert groups)) s = outcome
    at hSettled ⊢
  obtain ⟨said, result, s'⟩ := outcome
  dsimp only at hSettled ⊢
  cases hSettled with
  | refused f => exact .refused f
  | @failed s₁ _ _ _ hBody =>
    rcases hGroups s₁ with ⟨replies, written, _, hTalk, -⟩ |
      ⟨before, g, after, replies, reply, e, _, hSplit, hTalk, hBefore, hNot⟩
    · cases hBody.symm.trans hTalk
    · cases hBody.symm.trans hTalk
      simpa using Course.stopped _ hSplit hBefore hNot
  | @unsettled s₁ _ _ _ f hBody =>
    rcases hGroups s₁ with ⟨replies, written, _, hTalk, hAll⟩ |
      ⟨before, g, after, replies, reply, e, _, -, hTalk, -⟩
    · cases hBody.symm.trans hTalk
      exact .unsettled f hAll.accepted
    · cases hBody.symm.trans hTalk
  | @settled s₁ _ _ _ hBody =>
    rcases hGroups s₁ with ⟨replies, written, _, hTalk, hAll⟩ |
      ⟨before, g, after, replies, reply, e, _, -, hTalk, -⟩
    · cases hBody.symm.trans hTalk
      exact .settled hAll
    · cases hBody.symm.trans hTalk

end Sql.Exchange

end Tenancy
