import Tenancy.Proofs.Sql.Lexing

/-!
# The shape of a statement

A `Shape` is the tokens that a statement is meant to have, with the bound values in the places of
their placeholders. A statement spells a shape (`Spells`) if its text has these tokens, with the
placeholders numbered from left to right, and its values are bound in the same order. What two
statements spell, they spell one after the other, as long as their texts are read apart
(`Spells.append`, `Spells.text_cons`).
-/

namespace Tenancy.Sql

open Lexing

/-! ## Tokens in lists -/

namespace Token

variable {π : Type}

def placeholder? : Token π → Option π
  | .placeholder p => some p
  | _ => none

/-- What the placeholders among the tokens stand for, from left to right. -/
def placeholders (ts : List (Token π)) : List π := ts.filterMap placeholder?

@[simp] theorem placeholders_append (ts us : List (Token π)) :
    placeholders (ts ++ us) = placeholders ts ++ placeholders us := by
  simp [placeholders]

/-- Tokens in parentheses. -/
def grouped (ts : List (Token π)) : List (Token π) := .symbol "(" :: ts ++ [.symbol ")"]

/-- Parts with a token between one and the next. -/
def listed (between : Token π) : List (List (Token π)) → List (Token π)
  | [] => []
  | part :: rest => part ++ rest.flatMap (between :: ·)

/-- A name and the list of its arguments. -/
def call (function : String) (arguments : List (List (Token π))) : List (Token π) :=
  .word function :: grouped (listed (.symbol ",") arguments)

theorem listed_cons_cons (between : Token π) (part next : List (Token π))
    (rest : List (List (Token π))) :
    listed between (part :: next :: rest) = part ++ between :: listed between (next :: rest) := by
  simp [listed]

end Token

/-- The tokens of a statement with the values that stand for its placeholders. -/
abbrev Shape := List (Token Value)

namespace Shape

/-! ## Numbers for the placeholders -/

/-- The tokens with the placeholders numbered from `n` on. -/
def numbered (n : Nat) : Shape → List (Token Nat)
  | [] => []
  | .word text :: rest => .word text :: numbered n rest
  | .name text :: rest => .name text :: numbered n rest
  | .literal text :: rest => .literal text :: numbered n rest
  | .symbol text :: rest => .symbol text :: numbered n rest
  | .placeholder _ :: rest => .placeholder n :: numbered (n + 1) rest

theorem numbered_word (n : Nat) (w : String) (s : Shape) :
    numbered n (.word w :: s) = .word w :: numbered n s := rfl

/-- Shapes one after the other, with the placeholders numbered through all of them. -/
def numberedEach (n : Nat) : List Shape → List (List (Token Nat))
  | [] => []
  | s :: rest => s.numbered n :: numberedEach (n + (Token.placeholders s).length) rest

theorem numbered_append (n : Nat) (s t : Shape) :
    numbered n (s ++ t) = numbered n s ++ numbered (n + (Token.placeholders s).length) t := by
  induction s generalizing n with
  | nil => rfl
  | cons token s ih =>
    cases token with
    | placeholder v =>
      have hTail := ih (n + 1)
      rw [Nat.add_right_comm] at hTail
      exact congrArg (Token.placeholder n :: ·) hTail
    | _ => exact congrArg (List.cons _) (ih n)

theorem numbered_of_no_placeholders {s : Shape} (h : Token.placeholders s = []) (m n : Nat) :
    numbered m s = numbered n s := by
  induction s with
  | nil => rfl
  | cons token s ih =>
    cases token with
    | placeholder v => cases h
    | _ => exact congrArg (List.cons _) (ih h)

theorem numbered_append_of_no_placeholders {s : Shape} (h : Token.placeholders s = []) (n : Nat)
    (t : Shape) : numbered n (s ++ t) = numbered n s ++ numbered n t := by
  rw [numbered_append, h, List.length_nil, Nat.add_zero]

/-- The placeholders of the numbered tokens are the numbers in order. -/
theorem placeholders_numbered (n : Nat) (s : Shape) :
    Token.placeholders (numbered n s) = List.range' n (Token.placeholders s).length := by
  induction s generalizing n with
  | nil => rfl
  | cons token s ih =>
    cases token with
    | placeholder v => exact congrArg (n :: ·) (ih (n + 1))
    | _ => exact ih n

end Shape

/-! ## Statements and their shapes -/

namespace Statement

/-- The values of a statement as they are, in the order of their placeholders. -/
def values : Statement → List Value
  | [] => []
  | .text _ :: rest => values rest
  | .bound v :: rest => v :: values rest

theorem binds_eq (s : Statement) : s.binds = s.values.map sent := by
  induction s with
  | nil => rfl
  | cons piece s ih =>
    simp only [binds] at ih ⊢
    cases piece <;> simp [values, ih]

theorem values_append (s t : Statement) : (s ++ t).values = s.values ++ t.values := by
  induction s with
  | nil => rfl
  | cons piece s ih => cases piece <;> simp [values, ih]

theorem textFrom_append (n : Nat) (s t : Statement) :
    textFrom n (s ++ t) = textFrom n s ++ textFrom (n + s.values.length) t := by
  induction s generalizing n with
  | nil => simp [textFrom, values]
  | cons piece s ih =>
    cases piece with
    | text sql => simp [textFrom, ih, values, String.append_assoc]
    | bound v =>
      have hTail := ih (n + 1)
      rw [Nat.add_right_comm] at hTail
      simp only [List.cons_append, textFrom, hTail, values, String.append_assoc, List.length_cons]
      rfl

theorem joined_cons (between : String) (s : Statement) (rest : List Statement) :
    joined between (s :: rest) = s ++ rest.flatMap (.text between :: ·) := by
  induction rest generalizing s with
  | nil => simp [joined]
  | cons t rest ih => simp [joined, ih]

end Statement

/-- The text of the statement has the tokens of the shape, and the values of the shape are bound in
the order of their placeholders. -/
structure Spells (s : Statement) (shape : Shape) : Prop where
  lex_eq : ∀ n, lex (s.textFrom n) = some (shape.numbered n)
  values_eq : s.values = Token.placeholders shape

/-- A statement that can follow any other: its text starts with a character that is read apart from
what is before it. -/
structure Continues (s : Statement) (shape : Shape) : Prop extends Spells s shape where
  starts : ∀ n, StartsLoose (s.textFrom n)

/-- A text that is the same in all statements, and its tokens. -/
def IsFixed (x : String) (shape : Shape) : Prop :=
  lex x = some (shape.numbered 1) ∧ (Token.placeholders shape).isEmpty

instance (x : String) (shape : Shape) : Decidable (IsFixed x shape) :=
  inferInstanceAs (Decidable (_ ∧ _))

variable {s t : Statement} {shape shape' : Shape} {x y : String}

namespace Spells

theorem of_eq (hs : Spells s shape) (h : shape = shape') : Spells s shape' := h ▸ hs

/-! ### Single pieces -/

theorem nil : Spells [] [] := ⟨fun _ => rfl, rfl⟩

theorem of_lex (hLex : lex x = some (shape.numbered 1)) (hValues : Token.placeholders shape = []) :
    Spells [.text x] shape where
  lex_eq n := by
    rw [Shape.numbered_of_no_placeholders hValues n 1]
    simpa [Statement.textFrom] using hLex
  values_eq := by rw [hValues]; rfl

theorem fixed (x : String) (shape : Shape) (h : IsFixed x shape) : Spells [.text x] shape :=
  of_lex h.1 (List.isEmpty_iff.1 h.2)

theorem name (column : String) : Spells [.text (quoteName column)] [.name column] :=
  of_lex (lex_quoteName column) rfl

theorem literal (column : String) : Spells [.text (quoteLiteral column)] [.literal column] :=
  of_lex (lex_quoteLiteral column) rfl

theorem bound (v : Value) : Spells [.bound v] [.placeholder v] where
  lex_eq n := by simpa [Statement.textFrom, Shape.numbered] using lex_placeholder n
  values_eq := rfl

/-! ### One after the other -/

private theorem append_of_junction (hs : Spells s shape) (ht : Spells t shape')
    (h : (∀ n, EndsLoose (s.textFrom n)) ∨ (∀ n, StartsLoose (t.textFrom n))) :
    Spells (s ++ t) (shape ++ shape') where
  lex_eq n := by
    rw [Statement.textFrom_append, Shape.numbered_append, hs.values_eq]
    exact lex_append (hs.lex_eq n) (ht.lex_eq _) (h.imp (fun h => h _) (fun h => h _))
  values_eq := by
    rw [Statement.values_append, Token.placeholders_append, hs.values_eq, ht.values_eq]

theorem append (hs : Spells s shape) (ht : Continues t shape') :
    Spells (s ++ t) (shape ++ shape') :=
  append_of_junction hs ht.toSpells (Or.inr ht.starts)

theorem text_cons (hx : Spells [.text x] shape) (hEnd : EndsLoose x) (ht : Spells t shape') :
    Spells (.text x :: t) (shape ++ shape') :=
  append_of_junction hx ht (Or.inl fun n => by simpa [Statement.textFrom] using hEnd)

theorem fixed_cons (x : String) (shape : Shape) (h : IsFixed x shape ∧ EndsLoose x)
    (ht : Spells t shape') :
    Spells (.text x :: t) (shape ++ shape') :=
  text_cons (fixed x shape h.1) h.2 ht

/-- Two pieces of text may as well be one. -/
theorem merge (h : Spells (.text x :: .text y :: t) shape) :
    Spells (.text (x ++ y) :: t) shape where
  lex_eq n := by
    have hText := h.lex_eq n
    simp only [Statement.textFrom, String.append_assoc] at hText ⊢
    exact hText
  values_eq := h.values_eq

end Spells

namespace Continues

theorem nil : Continues [] [] := ⟨Spells.nil, fun _ => by simp [StartsLoose, Statement.textFrom]⟩

theorem of_eq (hs : Continues s shape) (h : shape = shape') : Continues s shape' := h ▸ hs

theorem of_text (h : Spells (.text x :: t) shape) (hStart : StartsLoose x ∧ x ≠ "") :
    Continues (.text x :: t) shape :=
  ⟨h, fun _ => hStart.1.append_of_ne hStart.2⟩

theorem fixed (x : String) (shape : Shape) (h : IsFixed x shape ∧ StartsLoose x ∧ x ≠ "") :
    Continues [.text x] shape :=
  of_text (Spells.fixed x shape h.1) h.2

theorem fixed_cons (x : String) (shape : Shape)
    (h : IsFixed x shape ∧ EndsLoose x ∧ StartsLoose x ∧ x ≠ "") (ht : Spells t shape') :
    Continues (.text x :: t) (shape ++ shape') :=
  of_text (Spells.fixed_cons x shape ⟨h.1, h.2.1⟩ ht) h.2.2

theorem merge (h : Continues (.text x :: .text y :: t) shape) :
    Continues (.text (x ++ y) :: t) shape where
  toSpells := h.toSpells.merge
  starts n := by
    have hText := h.starts n
    simp only [Statement.textFrom, String.append_assoc] at hText ⊢
    exact hText

theorem append (hs : Continues s shape) (ht : Continues t shape') :
    Continues (s ++ t) (shape ++ shape') where
  toSpells := hs.toSpells.append ht
  starts n := by
    rw [Statement.textFrom_append]
    exact (hs.starts n).append (ht.starts _)

theorem flatMap {α : Type} {f : α → Statement} {shapes : α → Shape} {xs : List α}
    (h : ∀ x ∈ xs, Continues (f x) (shapes x)) : Continues (xs.flatMap f) (xs.flatMap shapes) := by
  induction xs with
  | nil => exact nil
  | cons x xs ih =>
    rw [List.flatMap_cons, List.flatMap_cons]
    exact (h x (by simp)).append (ih fun y hy => h y (by simp [hy]))

end Continues

/-! ## Lists -/

namespace Spells

variable {α : Type} {xs : List α} {between : String} {symbol : Token Value}

/-- Statements with text between them. -/
theorem joined {f : α → Statement} {shapes : α → Shape}
    (hBetween : IsFixed between [symbol] ∧ EndsLoose between ∧ StartsLoose between ∧ between ≠ "")
    (h : ∀ x ∈ xs, Spells (f x) (shapes x)) :
    Spells (Statement.joined between (xs.map f)) (Token.listed symbol (xs.map shapes)) := by
  cases xs with
  | nil => exact nil
  | cons x xs =>
    rw [List.map_cons, List.map_cons, Statement.joined_cons, Token.listed, List.flatMap_map,
      List.flatMap_map]
    exact (h x (by simp)).append
      (Continues.flatMap fun y hy => Continues.fixed_cons _ _ hBetween (h y (by simp [hy])))

/-- Texts with a text between them. -/
theorem intercalate {f : α → String} {shapes : α → Shape}
    (hBetween : IsFixed between [symbol] ∧ EndsLoose between ∧ StartsLoose between ∧ between ≠ "")
    (h : ∀ x ∈ xs, Spells [.text (f x)] (shapes x)) :
    Spells [.text (between.intercalate (xs.map f))] (Token.listed symbol (xs.map shapes)) := by
  induction xs with
  | nil =>
    have hEmpty : Spells [.text ""] [] := fixed _ _ (by decide)
    simpa [Token.listed] using hEmpty
  | cons x xs ih =>
    have hRest := ih fun y hy => h y (by simp [hy])
    cases xs with
    | nil => simpa [Token.listed] using h x (by simp)
    | cons y ys =>
      rw [List.map_cons, List.map_cons, String.intercalate_cons_cons, List.map_cons, List.map_cons,
        Token.listed_cons_cons]
      refine merge (merge ?_)
      exact (h x (by simp)).append (Continues.fixed_cons _ _ hBetween hRest)

end Spells

end Tenancy.Sql
