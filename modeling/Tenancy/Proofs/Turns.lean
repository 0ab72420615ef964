import Tenancy.Proofs.Runs

/-!
# Programs turn by turn

Programs that share a backend take turns: in one turn a program goes on until a command has been
carried out for it, and what is left of it waits for the next turn. A program that takes all its
turns in a row runs as it would have on its own (`World.run_turn`).
-/

namespace Tenancy

variable {ρ α β σ : Type}

/-- How a program ended, if nothing is left of it to do. -/
def Program.outcome? (p : Program ρ α) : Option (Except Failure α) :=
  match p.run with
  | .done outcome => some outcome
  | .ask _ _ => none

namespace World

/-- Answers the questions of a dialogue up to its next command. -/
def pause (w : World σ ρ) : Dialogue (Question ρ) Question.Answer α → σ →
    Dialogue (Question ρ) Question.Answer α × σ
  | .done a, s => (.done a, s)
  | .ask .activeTenant next, s => pause w (next w.tenant) s
  | .ask .time next, s => pause w (next (w.time s).1) (w.time s).2
  | .ask (.backend c) next, s => (.ask (.backend c) next, s)
  | .ask (.handle r) next, s => pause w (next (w.handle r s).1) (w.handle r s).2

/-- The next command of a program. -/
def command? (w : World σ ρ) (p : Program ρ α) (s : σ) : Option Command :=
  match (w.pause p.run s).1 with
  | .ask (.backend c) _ => some c
  | _ => none

/-- One turn: the questions up to the next command and that command, if there is one. -/
def turn (w : World σ ρ) (p : Program ρ α) (s : σ) : Program ρ α × σ :=
  match w.pause p.run s with
  | (.ask (.backend c) next, s) => (ExceptT.mk (next (w.backend c s).1), (w.backend c s).2)
  | (d, s) => (ExceptT.mk d, s)

theorem run_pause (w : World σ ρ) (d : Dialogue (Question ρ) Question.Answer α) (s : σ) :
    Dialogue.run w.answer (w.pause d s).1 (w.pause d s).2 = Dialogue.run w.answer d s := by
  induction d generalizing s with
  | done a => rfl
  | ask q next ih =>
    cases q with
    | backend c => rfl
    | activeTenant => exact ih _ _
    | time => exact ih _ _
    | handle r => exact ih _ _

/-- What is left after a turn runs as the program would have run. -/
theorem run_turn (w : World σ ρ) (p : Program ρ α) (s : σ) :
    w.run (w.turn p s).1 (w.turn p s).2 = w.run p s := by
  have hPause := w.run_pause p.run s
  unfold turn
  generalize w.pause p.run s = paused at hPause
  obtain ⟨d, s'⟩ := paused
  rw [run, run, ← hPause]
  cases d with
  | done a => rfl
  | ask q next => cases q <;> rfl

/-- A program that has ended stays as it is. -/
theorem turn_over {w : World σ ρ} {p : Program ρ α} {outcome : Except Failure α}
    (h : p.outcome? = some outcome) (s : σ) : w.turn p s = (p, s) := by
  unfold Program.outcome? at h
  split at h
  · rename_i result hDone
    unfold turn
    rw [hDone]
    exact congrArg (·, s) hDone.symm
  · cases h

/-- A program that has ended runs to its outcome. -/
theorem run_over (w : World σ ρ) {p : Program ρ α} {outcome : Except Failure α}
    (h : p.outcome? = some outcome) (s : σ) :
    w.run p s = (outcome, s) := by
  unfold Program.outcome? at h
  split at h
  · rename_i result hDone
    cases h
    rw [run, show ExceptT.run p = .done _ from hDone]
    rfl
  · cases h

theorem pause_bind (w : World σ ρ) (d : Dialogue (Question ρ) Question.Answer α)
    (f : α → Dialogue (Question ρ) Question.Answer β) {q : Question ρ}
    {next : q.Answer → Dialogue (Question ρ) Question.Answer α} {s s' : σ}
    (h : w.pause d s = (.ask q next, s')) :
    w.pause (d >>= f) s = (.ask q fun answer => next answer >>= f, s') := by
  induction d generalizing s with
  | done a => cases h
  | ask q' next' ih =>
    cases q' with
    | backend c =>
      cases h
      rfl
    | activeTenant => exact ih _ h
    | time => exact ih _ h
    | handle r => exact ih _ h

/-! ## Programs that wait for a command -/

/-- The program waits for this command and goes on from its answer like that. -/
def Awaits (w : World σ ρ) (p : Program ρ α) (s : σ) (c : Command)
    (next : Except StoreError c.Result → Program ρ α) : Prop :=
  w.pause p.run s = (.ask (.backend c) fun answer => (next answer).run, s)

namespace Awaits

variable {w : World σ ρ} {p : Program ρ α} {s : σ} {c : Command}
  {next : Except StoreError c.Result → Program ρ α}

theorem command? (h : w.Awaits p s c next) : w.command? p s = some c := by
  rw [World.command?, h]

theorem turn (h : w.Awaits p s c next) :
    w.turn p s = (next (w.backend c s).1, (w.backend c s).2) := by
  rw [World.turn, h]
  rfl

/-- A program that waits has not ended. -/
theorem outcome? (h : w.Awaits p s c next) : p.outcome? = none := by
  unfold Program.outcome?
  split
  · rename_i result hDone
    rw [Awaits, hDone] at h
    cases h
  · rfl

theorem bind (h : w.Awaits p s c next) (f : α → Program ρ β) :
    w.Awaits (p >>= f) s c fun answer => next answer >>= f :=
  w.pause_bind p.run (ExceptT.bindCont f) h

theorem attempt (h : w.Awaits p s c next) :
    w.Awaits p.attempt s c fun answer => (next answer).attempt :=
  w.pause_bind _ _ (h.bind fun a => (pure (.ok a) : Program ρ (Except StoreError α)))

theorem send (c : Command) (f : c.Result → Program ρ α) :
    w.Awaits (Program.send c >>= f) s c fun answer => Program.ofExcept answer >>= f := rfl

theorem scope {store : Store ρ} {tenant : TenantId}
    (hContext : store.context.reports w.tenant = some tenant) (operation : String)
    {f : TenantId → Program ρ α} (h : w.Awaits (f tenant) s c next) :
    w.Awaits (store.requireTenant operation >>= f) s c next := by
  unfold Store.requireTenant
  cases hCase : store.context with
  | pinned t =>
    rw [hCase] at hContext
    cases hContext
    exact h
  | ambient =>
    rw [hCase] at hContext
    have hTenant : w.tenant = some tenant := hContext
    change w.pause (.ask .activeTenant _) s = _
    rw [pause, hTenant]
    exact h

end Awaits

end World

end Tenancy
