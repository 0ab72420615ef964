import Tenancy.Proofs.Terms

/-!
# Exchanges of a run

A run asks questions and gets answers, and its `exchanges` are both of them, in their order. Terms
have to be kept in the exchanges of a run only for the run to end as the terms say
(`Honors.of_exchanges`). So what a program does itself can be told from what it has heard: the
`refusals` of a run are the errors with which the backend has answered its commands, its `deeds` are
all exchanges other than the question for the tenant, and `handledRecords` are the records for which
the handler was called.
-/

namespace Tenancy

/-! ## Dialogues -/

namespace Dialogue

variable {Q : Type} {A : Q → Type} {α β σ : Type}

/-- The questions of a run with their answers, in the order in which they are asked. -/
def exchanges (answer : (q : Q) → σ → A q × σ) : Dialogue Q A α → σ → List ((q : Q) × A q)
  | .done _, _ => []
  | .ask q next, s =>
    ⟨q, (answer q s).1⟩ :: (next (answer q s).1).exchanges answer (answer q s).2

variable {answer : (q : Q) → σ → A q × σ}

theorem exchanges_bind (d : Dialogue Q A α) (f : α → Dialogue Q A β) (s : σ) :
    (d >>= f).exchanges answer s =
      d.exchanges answer s ++ (f (d.run answer s).1).exchanges answer (d.run answer s).2 := by
  induction d generalizing s with
  | done a => rfl
  | ask q next ih => exact congrArg (List.cons _) (ih _ _)

/-- The questions of the exchanges are those of the run. -/
theorem map_exchanges (d : Dialogue Q A α) (s : σ) :
    (d.exchanges answer s).map (·.1) = d.questions answer s := by
  induction d generalizing s with
  | done a => rfl
  | ask q next ih => exact congrArg (List.cons q) (ih _ _)

/-- If the answers in a run keep to the terms, so do its questions and its result. -/
theorem Honors.of_exchanges {t : Terms Q A} {ends : α → Prop} {d : Dialogue Q A α}
    (h : d.Honors t ends) {s : σ} (hAnswers : ∀ x ∈ d.exchanges answer s, t.answers x.1 x.2) :
    ends (d.run answer s).1 ∧ ∀ q ∈ d.questions answer s, t.asks q := by
  induction d generalizing s with
  | done a => exact ⟨h, by simp [questions]⟩
  | ask q next ih =>
    obtain ⟨hFirst, hRest⟩ := List.forall_mem_cons.mp hAnswers
    obtain ⟨hEnds, hAsks⟩ := ih _ (h.2 _ hFirst) hRest
    exact ⟨hEnds, List.forall_mem_cons.mpr ⟨h.1, hAsks⟩⟩

/-- Every answer of a run is given in some state. -/
theorem answer_of_mem_exchanges {d : Dialogue Q A α} {s : σ} {x : (q : Q) × A q}
    (h : x ∈ d.exchanges answer s) : ∃ s', x.2 = (answer x.1 s').1 := by
  induction d generalizing s with
  | done a => cases h
  | ask q next ih =>
    rcases List.mem_cons.mp h with rfl | h
    · exact ⟨s, rfl⟩
    · exact ih _ h

end Dialogue

/-! ## Programs -/

variable {ρ α β σ : Type}

/-- A question of a program with its answer. -/
abbrev Exchange (ρ : Type) : Type := (q : Question ρ) × q.Answer

/-- What an attempt makes of the outcome of its program. -/
def Outcome.handedOver : Except Failure α → Except Failure (Except StoreError α)
  | .ok a => .ok (.ok a)
  | .error (.error e) => .ok (.error e)
  | .error .abort => .error .abort

/-- An attempt asks nothing after its program. -/
theorem Program.run_attempt (p : Program ρ α) :
    ExceptT.run (Program.attempt p) =
      ExceptT.run p >>= fun outcome => pure (Outcome.handedOver outcome) := by
  refine (Dialogue.bind_assoc _ _ _).trans ?_
  refine congrArg (ExceptT.run p >>= ·) (funext fun outcome => ?_)
  rcases outcome with (e | _) | a <;> rfl

namespace Exchange

/-- The error with which the backend answers a command. -/
def refusal? : Exchange ρ → Option StoreError
  | ⟨.backend _, .error e⟩ => some e
  | _ => none

/-- It is not the question for the tenant. -/
def isDeed : Exchange ρ → Bool
  | ⟨.activeTenant, _⟩ => false
  | _ => true

/-- The record on which the handler is called. -/
def handled? : Exchange ρ → Option ρ
  | ⟨.handle record, _⟩ => some record
  | _ => none

end Exchange

namespace World

/-- The exchanges of a program in a run. -/
def exchanges (w : World σ ρ) (p : Program ρ α) (s : σ) : List (Exchange ρ) :=
  Dialogue.exchanges w.answer (ExceptT.run p) s

/-- The errors that the backend has answered. -/
def refusals (w : World σ ρ) (p : Program ρ α) (s : σ) : List StoreError :=
  (w.exchanges p s).filterMap Exchange.refusal?

/-- The commands, the calls of the handler and the questions for the time, with their answers. -/
def deeds (w : World σ ρ) (p : Program ρ α) (s : σ) : List (Exchange ρ) :=
  (w.exchanges p s).filter Exchange.isDeed

/-- The records for which the handler was called, in that order. -/
def handledRecords (w : World σ ρ) (p : Program ρ α) (s : σ) : List ρ :=
  (w.deeds p s).filterMap Exchange.handled?

variable (w : World σ ρ)

/-- After a program that fails nothing more is exchanged. -/
theorem exchanges_bind (p : Program ρ α) (f : α → Program ρ β) (s : σ) :
    w.exchanges (p >>= f) s = w.exchanges p s ++ match w.run p s with
      | (.ok a, s) => w.exchanges (f a) s
      | (.error _, _) => [] := by
  have step : w.exchanges (p >>= f) s =
      Dialogue.exchanges w.answer (ExceptT.run p >>= ExceptT.bindCont f) s := rfl
  rw [step, Dialogue.exchanges_bind]
  refine congrArg _ ?_
  simp only [run]
  generalize Dialogue.run w.answer (ExceptT.run p) s = result
  obtain ⟨outcome, s⟩ := result
  cases outcome <;> rfl

/-- An attempt exchanges what the program does. -/
theorem exchanges_attempt (p : Program ρ α) (s : σ) :
    w.exchanges (Program.attempt p) s = w.exchanges p s := by
  rw [exchanges, Program.run_attempt, Dialogue.exchanges_bind]
  exact List.append_nil _

/-! ### Deeds of steps -/

@[simp] theorem deeds_pure (a : α) (s : σ) : w.deeds (pure a : Program ρ α) s = [] := rfl

@[simp] theorem deeds_ofExcept (x : Except StoreError α) (s : σ) :
    w.deeds (Program.ofExcept x : Program ρ α) s = [] := by
  cases x <;> rfl

@[simp] theorem deeds_time (s : σ) :
    w.deeds (Program.time : Program ρ _) s = [⟨.time, (w.time s).1⟩] := rfl

@[simp] theorem deeds_handle (record : ρ) (s : σ) :
    w.deeds (Program.handle record) s = [⟨.handle record, (w.handle record s).1⟩] := rfl

@[simp] theorem deeds_send (c : Command) (s : σ) :
    w.deeds (Program.send c : Program ρ _) s = [⟨.backend c, (w.backend c s).1⟩] := by
  have step : w.deeds (Program.send c : Program ρ _) s = ⟨.backend c, (w.backend c s).1⟩ ::
      w.deeds (Program.ofExcept (w.backend c s).1 : Program ρ _) (w.backend c s).2 := rfl
  rw [step, deeds_ofExcept]

theorem deeds_bind (p : Program ρ α) (f : α → Program ρ β) (s : σ) :
    w.deeds (p >>= f) s = w.deeds p s ++ match w.run p s with
      | (.ok a, s) => w.deeds (f a) s
      | (.error _, _) => [] := by
  rw [deeds, exchanges_bind, List.filter_append, deeds]
  refine congrArg _ ?_
  generalize w.run p s = result
  obtain ⟨outcome, s⟩ := result
  cases outcome <;> rfl

/-- A result is changed without a deed. -/
theorem deeds_map (p : Program ρ α) (f : α → β) (s : σ) :
    w.deeds (p >>= fun a => pure (f a)) s = w.deeds p s := by
  rw [deeds_bind]
  generalize w.run p s = result
  obtain ⟨outcome, s⟩ := result
  cases outcome <;> simp

theorem deeds_attempt (p : Program ρ α) (s : σ) :
    w.deeds (Program.attempt p) s = w.deeds p s := by
  rw [deeds, exchanges_attempt, deeds]

end World

/-- The answers of one run decide how it ends. -/
theorem Honors.of_exchanges {t : Terms (Question ρ) Question.Answer} {results : α → Prop}
    {failures : Failure → Prop} {p : Program ρ α} (h : Honors t p results failures)
    {w : World σ ρ} {s : σ} (hAnswers : ∀ x ∈ w.exchanges p s, t.answers x.1 x.2) :
    Outcome.Meets results failures (w.run p s).1 ∧ ∀ q ∈ w.questions p s, t.asks q :=
  Dialogue.Honors.of_exchanges h hAnswers

end Tenancy
