import Tenancy.Program

/-!
# Terms between a program and its surroundings

`Terms` say which answers the surroundings of a program may give and which questions the program
may ask. A program honors them with certain results if, whatever the permitted answers are, it
asks permitted questions only and ends with such a result. As this is a statement about the
dialogue, it covers every backend, clock and handler at once; `Honors.run` turns it into a
statement about the runs in one world, with an invariant on the states of that world. Where only the
commands matter that a program sends, its answers may be any (`Program.Sends`).
-/

namespace Tenancy

/-! ## Dialogues -/

/-- Which answers may be given and which questions may be asked. -/
structure Terms (Q : Type) (A : Q → Type) where
  answers : (q : Q) → A q → Prop
  asks : Q → Prop

namespace Dialogue

variable {Q : Type} {A : Q → Type} {α β σ : Type}

/-- As long as the answers keep to the terms, so do the questions, and the result satisfies
`ends`. -/
def Honors (t : Terms Q A) (ends : α → Prop) : Dialogue Q A α → Prop
  | .done a => ends a
  | .ask q next => t.asks q ∧ ∀ a, t.answers q a → (next a).Honors t ends

theorem Honors.mono {t : Terms Q A} {ends ends' : α → Prop} (hEnds : ∀ a, ends a → ends' a)
    {d : Dialogue Q A α} (h : d.Honors t ends) : d.Honors t ends' := by
  induction d with
  | done a => exact hEnds a h
  | ask q next ih => exact ⟨h.1, fun a ha => ih a (h.2 a ha)⟩

theorem Honors.bind {t : Terms Q A} {mid : α → Prop} {ends : β → Prop} {d : Dialogue Q A α}
    {f : α → Dialogue Q A β} (h : d.Honors t mid) (hf : ∀ a, mid a → (f a).Honors t ends) :
    (d >>= f).Honors t ends := by
  induction d with
  | done a => exact hf a h
  | ask q next ih => exact ⟨h.1, fun a ha => ih a (h.2 a ha)⟩

/-- The questions of a run, in the order in which they are asked. -/
def questions (answer : (q : Q) → σ → A q × σ) : Dialogue Q A α → σ → List Q
  | .done _, _ => []
  | .ask q next, s => q :: (next (answer q s).1).questions answer (answer q s).2

/-- One step of the surroundings keeps the invariant, so a whole run does. -/
theorem Honors.run {t : Terms Q A} {ends : α → Prop} {answer : (q : Q) → σ → A q × σ}
    {invariant : σ → Prop}
    (hStep : ∀ q s, invariant s → t.asks q →
      t.answers q (answer q s).1 ∧ invariant (answer q s).2)
    {d : Dialogue Q A α} (h : d.Honors t ends) {s : σ} (hs : invariant s) :
    ends (d.run answer s).1 ∧ invariant (d.run answer s).2 ∧
      ∀ q ∈ d.questions answer s, t.asks q := by
  induction d generalizing s with
  | done a => exact ⟨h, hs, by simp [questions]⟩
  | ask q next ih =>
    obtain ⟨hAnswer, hInvariant⟩ := hStep q s hs h.1
    obtain ⟨hEnds, hLast, hRest⟩ := ih _ (h.2 _ hAnswer) hInvariant
    refine ⟨hEnds, hLast, ?_⟩
    intro q' hq
    rcases List.mem_cons.mp hq with rfl | hq
    · exact h.1
    · exact hRest q' hq

/-- Where permitted questions are answered alike in related states, two runs from related states
have the same result and end in related states. -/
theorem Honors.run_related {t : Terms Q A} {ends : α → Prop} {answer : (q : Q) → σ → A q × σ}
    {related : σ → σ → Prop}
    (hStep : ∀ q s s', related s s' → t.asks q →
      (answer q s).1 = (answer q s').1 ∧ t.answers q (answer q s).1 ∧
        related (answer q s).2 (answer q s').2)
    {d : Dialogue Q A α} (h : d.Honors t ends) {s s' : σ} (hs : related s s') :
    (d.run answer s).1 = (d.run answer s').1 ∧
      related (d.run answer s).2 (d.run answer s').2 := by
  induction d generalizing s s' with
  | done a => exact ⟨rfl, hs⟩
  | ask q next ih =>
    obtain ⟨hSame, hAnswer, hRelated⟩ := hStep q s s' hs h.1
    obtain ⟨hResult, hLast⟩ := ih _ (h.2 _ hAnswer) hRelated
    rw [run_ask, run_ask, ← hSame]
    exact ⟨hResult, hLast⟩

/-- What is asked whatever the answers are, is asked. -/
theorem Honors.and_asks {t t' : Terms Q A} {ends ends' : α → Prop} {d : Dialogue Q A α}
    (h : d.Honors t ends) (h' : d.Honors t' ends') (hAnswers : ∀ q a, t'.answers q a) :
    d.Honors { t with asks := fun q => t.asks q ∧ t'.asks q } ends := by
  induction d with
  | done a => exact h
  | ask q next ih =>
    exact ⟨⟨h.1, h'.1⟩, fun a ha => ih a (h.2 a ha) (h'.2 a (hAnswers q a))⟩

end Dialogue

/-! ## Programs -/

variable {ρ α β σ : Type}

/-- A result that satisfies `results`, or a failure that satisfies `failures`. -/
def Outcome.Meets (results : α → Prop) (failures : Failure → Prop) : Except Failure α → Prop
  | .ok a => results a
  | .error e => failures e

/-- A program that honors the terms and ends with one of these results or failures. -/
def Honors (t : Terms (Question ρ) Question.Answer) (p : Program ρ α) (results : α → Prop)
    (failures : Failure → Prop) : Prop :=
  Dialogue.Honors t (Outcome.Meets results failures) (ExceptT.run p)

namespace Honors

variable {t : Terms (Question ρ) Question.Answer} {results : α → Prop} {failures : Failure → Prop}

theorem weaken {p : Program ρ α} {results' : α → Prop} (h : Honors t p results failures)
    (hResults : ∀ a, results a → results' a) : Honors t p results' failures := by
  refine Dialogue.Honors.mono ?_ h
  intro r hr
  cases r with
  | ok a => exact hResults a hr
  | error e => exact hr

theorem pure {a : α} (h : results a) : Honors t (Pure.pure a : Program ρ α) results failures := h

theorem fail {e : StoreError} (h : failures (.error e)) :
    Honors t (Program.fail e : Program ρ α) results failures := h

theorem abort (h : failures .abort) : Honors t (Program.abort : Program ρ α) results failures := h

theorem bind {p : Program ρ α} {f : α → Program ρ β} {mid : α → Prop} {results : β → Prop}
    (h : Honors t p mid failures) (hf : ∀ a, mid a → Honors t (f a) results failures) :
    Honors t (p >>= f) results failures := by
  refine Dialogue.Honors.bind h ?_
  intro r hr
  cases r with
  | ok a => exact hf a hr
  | error e => exact hr

theorem ask {q : Question ρ} {results : q.Answer → Prop} (hAsk : t.asks q)
    (hAnswer : ∀ a, t.answers q a → results a) :
    Honors t (Program.ask q) results failures := ⟨hAsk, hAnswer⟩

theorem ofExcept {x : Except StoreError α} (hOk : ∀ a, x = .ok a → results a)
    (hError : ∀ e, x = .error e → failures (.error e)) :
    Honors t (Program.ofExcept x : Program ρ α) results failures := by
  cases x with
  | ok a => exact hOk a rfl
  | error e => exact hError e rfl

theorem send {c : Command} {results : c.Result → Prop} (hAsk : t.asks (.backend c))
    (hOk : ∀ r, t.answers (.backend c) (.ok r) → results r)
    (hError : ∀ e, t.answers (.backend c) (.error e) → failures (.error e)) :
    Honors t (Program.send c : Program ρ _) results failures := by
  have hAnswers : Honors t (Program.ask (.backend c)) (t.answers (.backend c)) failures :=
    ask hAsk fun _ h => h
  refine bind hAnswers ?_
  intro answer hAnswer
  cases answer with
  | ok r => exact hOk r hAnswer
  | error e => exact hError e hAnswer

theorem tryCatch {p : Program ρ α} {recover : Failure → Program ρ α} {mid : Failure → Prop}
    (h : Honors t p results mid) (hRecover : ∀ e, mid e → Honors t (recover e) results failures) :
    Honors t (MonadExcept.tryCatch p recover) results failures := by
  have step : ExceptT.run (MonadExcept.tryCatch p recover) = (ExceptT.run p >>= fun
      | .ok a => Pure.pure (.ok a)
      | .error e => ExceptT.run (recover e)) :=
    congrArg (ExceptT.run p >>= ·) (funext fun r => by cases r <;> rfl)
  rw [Honors, step]
  refine Dialogue.Honors.bind h ?_
  intro r hr
  cases r with
  | ok a => exact hr
  | error e => exact hRecover e hr

/-- An attempt has the failures of the program as results, other than an abort. -/
theorem attempt {p : Program ρ α} (h : Honors t p results failures) :
    Honors t (Program.attempt p)
      (fun r => Outcome.Meets results failures (r.mapError .error)) failures := by
  refine tryCatch (bind h fun a ha => pure ha) ?_
  intro e he
  cases e with
  | error e => exact pure he
  | abort => exact abort he

/-- A check that asks nothing comes before the rest. -/
theorem check {x : Except StoreError β} {f : β → Program ρ α} {results : α → Prop}
    (h : ∀ b, x = .ok b → Honors t (f b) results fun _ => True) :
    Honors t (Program.ofExcept x >>= f) results fun _ => True :=
  bind (ofExcept (fun _ hOk => hOk) fun _ _ => trivial) h

/-- A look-up that fails if it finds nothing. -/
theorem orFail {p : Program ρ (Option α)} {e : StoreError}
    (h : Honors t p (fun found => ∀ a ∈ found, results a) failures) (he : failures (.error e)) :
    Honors t (p >>= fun | some a => Pure.pure a | none => Program.fail e) results failures := by
  refine bind h fun found hFound => ?_
  cases found with
  | none => exact fail he
  | some a => exact pure (hFound a rfl)

/-- A program that is settled has its outcome as result. -/
theorem settle {p : Program ρ α} (h : Honors t p results failures) {failures' : Failure → Prop} :
    Honors t (Program.settle p) (Outcome.Meets results failures) failures' :=
  Dialogue.Honors.bind h fun _ hr => hr

end Honors

/-! ## Runs -/

namespace World

/-- The questions that a program asks in a run. -/
def questions (w : World σ ρ) (p : Program ρ α) (s : σ) : List (Question ρ) :=
  Dialogue.questions w.answer (ExceptT.run p) s

/-- In states with the invariant the world keeps to the terms and to the invariant. -/
def Respects (w : World σ ρ) (t : Terms (Question ρ) Question.Answer) (invariant : σ → Prop) :
    Prop :=
  ∀ q s, invariant s → t.asks q → t.answers q (w.answer q s).1 ∧ invariant (w.answer q s).2

end World

theorem Honors.run {t : Terms (Question ρ) Question.Answer} {results : α → Prop}
    {failures : Failure → Prop} {p : Program ρ α} (h : Honors t p results failures)
    {w : World σ ρ} {invariant : σ → Prop} (hWorld : w.Respects t invariant) {s : σ}
    (hs : invariant s) :
    Outcome.Meets results failures (w.run p s).1 ∧ invariant (w.run p s).2 ∧
      ∀ q ∈ w.questions p s, t.asks q :=
  Dialogue.Honors.run hWorld h hs

theorem Honors.run_related {t : Terms (Question ρ) Question.Answer} {results : α → Prop}
    {failures : Failure → Prop} {p : Program ρ α} (h : Honors t p results failures)
    {w : World σ ρ} {related : σ → σ → Prop}
    (hWorld : ∀ q s s', related s s' → t.asks q →
      (w.answer q s).1 = (w.answer q s').1 ∧ t.answers q (w.answer q s).1 ∧
        related (w.answer q s).2 (w.answer q s').2)
    {s s' : σ} (hs : related s s') :
    (w.run p s).1 = (w.run p s').1 ∧ related (w.run p s).2 (w.run p s').2 :=
  Dialogue.Honors.run_related hWorld h hs

/-! ## Programs by their commands -/

/-- The surroundings may answer anything, and all commands satisfy `P`. -/
def sending (ρ : Type) (P : Command → Prop) : Terms (Question ρ) Question.Answer where
  answers _ _ := True
  asks
    | .backend c => P c
    | _ => True

/-- Whatever it is answered, the program sends no commands but such that satisfy `P`. -/
abbrev Program.Sends (P : Command → Prop) (p : Program ρ α) : Prop :=
  Honors (sending ρ P) p (fun _ => True) fun _ => True

/-- A program that honors some terms honors them with the commands that it sends. -/
theorem Honors.and_sends {t : Terms (Question ρ) Question.Answer} {results : α → Prop}
    {failures : Failure → Prop} {p : Program ρ α} (h : Honors t p results failures)
    {P : Command → Prop} (hSends : p.Sends P) :
    Honors { t with asks := fun q => t.asks q ∧ (sending ρ P).asks q } p results failures :=
  Dialogue.Honors.and_asks h hSends fun _ _ => trivial

namespace Program.Sends

variable {P : Command → Prop}

/-- After a question or a check comes a program that sends such commands too. -/
theorem bind {p : Program ρ β} {f : β → Program ρ α} (h : p.Sends P) (hf : ∀ b, (f b).Sends P) :
    (p >>= f).Sends P :=
  Honors.bind h fun b _ => hf b

theorem ofExcept (x : Except StoreError α) : (Program.ofExcept x : Program ρ α).Sends P :=
  Honors.ofExcept (fun _ _ => trivial) fun _ _ => trivial

/-- After a check comes a program that knows what was checked. -/
theorem check {x : Except StoreError β} {f : β → Program ρ α}
    (hf : ∀ b, x = .ok b → (f b).Sends P) : (Program.ofExcept x >>= f).Sends P := Honors.check hf

theorem pure (a : α) : (Pure.pure a : Program ρ α).Sends P := Honors.pure trivial

theorem fail (e : StoreError) : (Program.fail e : Program ρ α).Sends P := Honors.fail trivial

theorem abort : (Program.abort : Program ρ α).Sends P := Honors.abort trivial

theorem time : (Program.time : Program ρ Instant).Sends P := Honors.ask trivial fun _ _ => trivial

theorem handle (record : ρ) : (Program.handle record).Sends P :=
  Honors.ask trivial fun _ _ => trivial

theorem send {c : Command} (h : P c) : (Program.send c : Program ρ _).Sends P :=
  Honors.send h (fun _ _ => trivial) fun _ _ => trivial

theorem attempt {p : Program ρ α} (h : p.Sends P) : (Program.attempt p).Sends P :=
  Honors.weaken (Honors.attempt h) fun _ _ => trivial

theorem settle {p : Program ρ α} (h : p.Sends P) : (Program.settle p).Sends P :=
  Honors.weaken (Honors.settle h) fun _ _ => trivial

end Program.Sends

end Tenancy
