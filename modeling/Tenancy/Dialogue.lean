/-!
# Dialogues

A `Dialogue` is a computation that asks its surroundings questions and goes on with the answers.
It is data, so one definition of an operation serves every surrounding: `run` answers the
questions from a state, and statements about all surroundings are statements about the dialogue.
-/

namespace Tenancy

/-- A computation of an `α` that asks questions `q : Q` and gets answers in `A q`. -/
inductive Dialogue (Q : Type) (A : Q → Type) (α : Type) : Type where
  | done (result : α)
  | ask (question : Q) (next : A question → Dialogue Q A α)

namespace Dialogue

variable {Q : Type} {A : Q → Type} {α β γ σ : Type}

/-- Goes on with the result of a dialogue. -/
def bind (d : Dialogue Q A α) (f : α → Dialogue Q A β) : Dialogue Q A β :=
  match d with
  | .done a => f a
  | .ask q next => .ask q fun answer => (next answer).bind f

instance : Monad (Dialogue Q A) where
  pure := .done
  bind := Dialogue.bind

/-- Asks one question. -/
def question (q : Q) : Dialogue Q A (A q) := .ask q .done

@[simp] theorem done_bind (a : α) (f : α → Dialogue Q A β) : (done a : Dialogue Q A α) >>= f = f a :=
  rfl

@[simp] theorem ask_bind (q : Q) (next : A q → Dialogue Q A α) (f : α → Dialogue Q A β) :
    ask q next >>= f = ask q fun answer => next answer >>= f := rfl

theorem bind_done (d : Dialogue Q A α) : d >>= done = d := by
  induction d with
  | done a => rfl
  | ask q next ih => exact congrArg (ask q) (funext ih)

theorem bind_assoc (d : Dialogue Q A α) (f : α → Dialogue Q A β) (g : β → Dialogue Q A γ) :
    d >>= f >>= g = d >>= fun a => f a >>= g := by
  induction d with
  | done a => rfl
  | ask q next ih => exact congrArg (ask q) (funext ih)

instance : LawfulMonad (Dialogue Q A) :=
  LawfulMonad.mk' _ bind_done (fun _ _ => rfl) bind_assoc

/-! ## Running -/

/-- Answers every question from a state. -/
def run (answer : (q : Q) → σ → A q × σ) : Dialogue Q A α → σ → α × σ
  | .done a, s => (a, s)
  | .ask q next, s =>
    let (a, s) := answer q s
    (next a).run answer s

@[simp] theorem run_done (answer : (q : Q) → σ → A q × σ) (a : α) (s : σ) :
    (done a : Dialogue Q A α).run answer s = (a, s) := rfl

@[simp] theorem run_ask (answer : (q : Q) → σ → A q × σ) (q : Q) (next : A q → Dialogue Q A α)
    (s : σ) :
    (ask q next).run answer s = (next (answer q s).1).run answer (answer q s).2 := rfl

theorem run_bind (answer : (q : Q) → σ → A q × σ) (d : Dialogue Q A α)
    (f : α → Dialogue Q A β) (s : σ) :
    (d >>= f).run answer s = (f (d.run answer s).1).run answer (d.run answer s).2 := by
  induction d generalizing s with
  | done a => rfl
  | ask q next ih => exact ih (answer q s).1 (answer q s).2

end Dialogue

end Tenancy
