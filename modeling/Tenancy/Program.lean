import Tenancy.Backend.Command
import Tenancy.Dialogue

/-!
# Programs of the store

An operation of the store is a `Program`: a dialogue that asks for the active tenant, for the
time, for the answer of the backend to a command, and for the verdict of a handler on a record.
It ends with a result, with a `StoreError`, or by aborting. A `World` answers its questions.
-/

namespace Tenancy

/-- What a program over records of type `ρ` asks. -/
inductive Question (ρ : Type) where
  /-- The tenant that is active where the program runs. -/
  | activeTenant
  | time
  | backend (command : Command)
  /-- Whether the handler of a worker succeeds on a record. -/
  | handle (record : ρ)

/-- The answers to the questions of a program. -/
def Question.Answer {ρ : Type} : Question ρ → Type
  | .activeTenant => Option TenantId
  | .time => Instant
  | .backend command => Except StoreError command.Result
  | .handle _ => Bool

/-- Why a program ends without a result. -/
inductive Failure where
  | error (e : StoreError)
  /-- The program stops at once, and so does everyone who waits for its result. -/
  | abort

/-- An operation over records of type `ρ` with results in `α`. -/
abbrev Program (ρ : Type) (α : Type) : Type :=
  ExceptT Failure (Dialogue (Question ρ) Question.Answer) α

namespace Program

variable {ρ α σ : Type}

/-! ## Steps -/

def ask (q : Question ρ) : Program ρ q.Answer := ExceptT.lift (Dialogue.question q)

def fail (e : StoreError) : Program ρ α := throw (.error e)

def abort : Program ρ α := throw .abort

/-- The result of a computation that asks nothing. -/
def ofExcept : Except StoreError α → Program ρ α
  | .ok a => pure a
  | .error e => fail e

/-- The tenant that is active where the program runs. -/
def activeTenant : Program ρ (Option TenantId) := ask .activeTenant

def time : Program ρ Instant := ask .time

/-- The verdict of the handler on a record. -/
def handle (record : ρ) : Program ρ Bool := ask (.handle record)

/-- Sends a command to the backend; its failure is the program's failure. -/
def send (command : Command) : Program ρ command.Result := do
  ofExcept (← ask (.backend command))

/-- Runs a program and hands its error over as a result. An abort is not caught. -/
def attempt (p : Program ρ α) : Program ρ (Except StoreError α) :=
  tryCatch (do pure (.ok (← p))) fun
    | .error e => pure (.error e)
    | .abort => abort

/-- Runs a program and hands over how it ended, also if it aborted. -/
def settle (p : Program ρ α) : Program ρ (Except Failure α) := ExceptT.lift (ExceptT.run p)

/-! ## Tenant scopes -/

/-- The dialogue with a fixed answer to the question for the active tenant. -/
def answerTenant (tenant : Option TenantId) :
    Dialogue (Question ρ) Question.Answer α → Dialogue (Question ρ) Question.Answer α
  | .done a => .done a
  | .ask .activeTenant next => answerTenant tenant (next tenant)
  | .ask .time next => .ask .time fun a => answerTenant tenant (next a)
  | .ask (.backend c) next => .ask (.backend c) fun a => answerTenant tenant (next a)
  | .ask (.handle r) next => .ask (.handle r) fun a => answerTenant tenant (next a)

/-- Runs a program with a tenant installed; scopes within the program come before this one. -/
def within (tenant : TenantId) (p : Program ρ α) : Program ρ α :=
  ExceptT.mk (answerTenant (some tenant) p.run)

/-- Runs a program outside of all scopes around it. -/
def detached (p : Program ρ α) : Program ρ α := ExceptT.mk (answerTenant none p.run)

end Program

/-! ## Worlds -/

/-- The surroundings of a program, with states `σ`. -/
structure World (σ ρ : Type) where
  /-- The tenant that is active outside of all scopes. -/
  tenant : Option TenantId
  time : σ → Instant × σ
  backend : Backend σ
  handle : ρ → σ → Bool × σ

namespace World

variable {σ ρ α : Type}

def answer (w : World σ ρ) : (q : Question ρ) → σ → q.Answer × σ
  | .activeTenant, s => (w.tenant, s)
  | .time, s => w.time s
  | .backend c, s => w.backend c s
  | .handle r, s => w.handle r s

/-- Runs a program from a state. -/
def run (w : World σ ρ) (p : Program ρ α) (s : σ) : Except Failure α × σ :=
  Dialogue.run w.answer (ExceptT.run p) s

/-! ## Runs of composed programs -/

variable {β : Type} (w : World σ ρ)

@[simp] theorem run_pure (a : α) (s : σ) : w.run (pure a) s = (.ok a, s) := rfl

@[simp] theorem run_fail (e : StoreError) (s : σ) :
    w.run (Program.fail e : Program ρ α) s = (.error (.error e), s) := rfl

@[simp] theorem run_abort (s : σ) : w.run (Program.abort : Program ρ α) s = (.error .abort, s) :=
  rfl

@[simp] theorem run_activeTenant (s : σ) :
    w.run (Program.activeTenant : Program ρ _) s = (.ok w.tenant, s) := rfl

@[simp] theorem run_time (s : σ) :
    w.run (Program.time : Program ρ _) s = (.ok (w.time s).1, (w.time s).2) := rfl

@[simp] theorem run_handle (record : ρ) (s : σ) :
    w.run (Program.handle record) s = (.ok (w.handle record s).1, (w.handle record s).2) := rfl

/-- A program that fails takes the rest with it. -/
theorem run_bind (p : Program ρ α) (f : α → Program ρ β) (s : σ) :
    w.run (p >>= f) s = match w.run p s with
      | (.ok a, s) => w.run (f a) s
      | (.error e, s) => (.error e, s) := by
  have step : w.run (p >>= f) s = Dialogue.run w.answer
      (ExceptT.run p >>= ExceptT.bindCont f) s := rfl
  rw [step, Dialogue.run_bind]
  simp only [run]
  generalize Dialogue.run w.answer (ExceptT.run p) s = result
  obtain ⟨outcome, s⟩ := result
  cases outcome <;> rfl

theorem run_ofExcept (x : Except StoreError α) (s : σ) :
    w.run (Program.ofExcept x : Program ρ α) s = (x.mapError .error, s) := by
  cases x <;> rfl

theorem run_send (c : Command) (s : σ) :
    w.run (Program.send c : Program ρ _) s =
      ((w.backend c s).1.mapError .error, (w.backend c s).2) := by
  have step : w.run (Program.send c : Program ρ _) s =
      w.run (Program.ofExcept (w.backend c s).1 : Program ρ _) (w.backend c s).2 := rfl
  rw [step, run_ofExcept]

/-- The handler of failures goes on from where the program failed. -/
theorem run_tryCatch (p : Program ρ α) (recover : Failure → Program ρ α) (s : σ) :
    w.run (tryCatch p recover) s = match w.run p s with
      | (.ok a, s) => (.ok a, s)
      | (.error e, s) => w.run (recover e) s := by
  have step : ExceptT.run (tryCatch p recover) = (ExceptT.run p >>= fun
      | .ok a => pure (.ok a)
      | .error e => ExceptT.run (recover e)) :=
    congrArg (ExceptT.run p >>= ·) (funext fun r => by cases r <;> rfl)
  rw [run, step, Dialogue.run_bind]
  simp only [run]
  generalize Dialogue.run w.answer (ExceptT.run p) s = result
  obtain ⟨outcome, s⟩ := result
  cases outcome <;> rfl

/-- An attempt always succeeds, other than with a program that aborts. -/
theorem run_attempt (p : Program ρ α) (s : σ) :
    w.run (Program.attempt p) s = match w.run p s with
      | (.ok a, s) => (.ok (.ok a), s)
      | (.error (.error e), s) => (.ok (.error e), s)
      | (.error .abort, s) => (.error .abort, s) := by
  rw [Program.attempt, run_tryCatch, run_bind]
  generalize w.run p s = result
  obtain ⟨outcome, s⟩ := result
  rcases outcome with (e | _) | a <;> rfl

/-- A program that is settled always succeeds. -/
theorem run_settle (p : Program ρ α) (s : σ) :
    w.run (Program.settle p) s = (.ok (w.run p s).1, (w.run p s).2) := by
  have step : ExceptT.run (Program.settle p) = (ExceptT.run p >>= fun r => pure (.ok r)) := rfl
  rw [run, step, Dialogue.run_bind]
  rfl

/-! ## Runs in scopes -/

/-- A scope changes the world's answer to the question for the tenant and nothing else. -/
theorem run_answerTenant (tenant : Option TenantId)
    (d : Dialogue (Question ρ) Question.Answer α) (s : σ) :
    Dialogue.run w.answer (Program.answerTenant tenant d) s =
      Dialogue.run { w with tenant }.answer d s := by
  induction d generalizing s with
  | done a => rfl
  | ask q next ih =>
    cases q with
    | activeTenant => exact ih tenant s
    | time => exact ih _ _
    | backend c => exact ih _ _
    | handle r => exact ih _ _

theorem run_within (tenant : TenantId) (p : Program ρ α) (s : σ) :
    w.run (p.within tenant) s = { w with tenant := some tenant }.run p s :=
  w.run_answerTenant (some tenant) p.run s

theorem run_detached (p : Program ρ α) (s : σ) :
    w.run p.detached s = { w with tenant := none }.run p s :=
  w.run_answerTenant none p.run s

end World

end Tenancy
