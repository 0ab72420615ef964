import Tenancy.Sql.Statement

/-!
# The tokens of a statement

How a server reads the text of a statement: names between double quotes and literals between single
quotes, in both of which a quote that is meant stands twice, placeholders, words, and symbols. The
reader (`lex`) takes one character at a time; what it holds between two characters is an `Open`
token. It is strict, and refuses what it has no rule for: comments, numbers, quotes with a prefix,
and text quoted with dollar signs.

A text and the next are read apart (`lex_append`) wherever the one ends or the other starts with a
character that belongs to no other token. Text is read back from its quotes whatever it is
(`lex_quoteName`, `lex_quoteLiteral`), and a placeholder with its number (`lex_placeholder`).
-/

namespace Tenancy.Sql

/-- A token of a statement, with what stands for a bound value in `π`. -/
inductive Token (π : Type) where
  | word (text : String)
  /-- What stands between double quotes. -/
  | name (text : String)
  /-- What stands between single quotes. -/
  | literal (text : String)
  | symbol (text : String)
  | placeholder (number : π)
deriving DecidableEq

namespace Lexing

/-! ## Characters -/

def isBlank (c : Char) : Bool := c == ' '

/-- A character that is a token by itself. -/
def isMark (c : Char) : Bool := c == '(' || c == ')' || c == ',' || c == '.'

def isOperator (c : Char) : Bool := c == '<' || c == '>' || c == '=' || c == '*'

def startsWord (c : Char) : Bool :=
  ('a' ≤ c && c ≤ 'z') || ('A' ≤ c && c ≤ 'Z') || c == '_' || 128 ≤ c.toNat

def continuesWord (c : Char) : Bool := startsWord c || c.isDigit || c == '$'

/-- A character that ends the token before it, whatever that is, unless it stands in quotes. -/
def isLoose (c : Char) : Bool := isBlank c || isMark c || c == ':'

/-- The two kinds of quotes. -/
inductive Quote where
  | double
  | single
deriving DecidableEq

namespace Quote

def char : Quote → Char
  | double => '"'
  | single => '\''

def token (text : String) : Quote → Token Nat
  | double => .name text
  | single => .literal text

end Quote

/-! ## One character after the other -/

/-- The token that is being read. -/
inductive Open where
  | nothing
  | word (read : List Char)
  | operator (read : List Char)
  /-- The first half of a `::`. -/
  | colon
  | number (digits : List Char)
  | inside (quote : Quote) (read : List Char)
  /-- A quote that ends the token, unless the next character is the same quote. -/
  | closed (quote : Quote) (read : List Char)
deriving DecidableEq

namespace Open

/-- The tokens that are complete if nothing more belongs to the open one. -/
def finish? : Open → Option (List (Token Nat))
  | nothing => some []
  | word cs => some [.word (String.ofList cs)]
  | operator cs => some [.symbol (String.ofList cs)]
  | colon => none
  | number [] => none
  | number ds => some [.placeholder (Nat.ofDigitChars 10 ds 0)]
  | inside _ _ => none
  | closed q cs => some [q.token (String.ofList cs)]

/-- The open token with one more character, if that belongs to it. -/
def extend? : Open → Char → Option (List (Token Nat) × Open)
  | nothing, _ => none
  | word cs, c => if continuesWord c then some ([], word (cs ++ [c])) else none
  | operator cs, c => if isOperator c then some ([], operator (cs ++ [c])) else none
  | colon, c => if c = ':' then some ([.symbol "::"], nothing) else none
  | number ds, c => if c.isDigit then some ([], number (ds ++ [c])) else none
  | inside q cs, c => some ([], if c = q.char then closed q cs else inside q (cs ++ [c]))
  | closed q cs, c => if c = q.char then some ([], inside q (cs ++ [c])) else none

/-- A character that changes the meaning of the token before it: a literal right behind a word has
that word as a prefix, and a number does not end where a word starts. -/
def clashes : Open → Char → Bool
  | word _, c => c == '\''
  | number _, c => startsWord c
  | _, _ => false

/-- What a character starts that belongs to no token before it. -/
def begin? (c : Char) : Option (List (Token Nat) × Open) :=
  if isBlank c then some ([], nothing)
  else if isMark c then some ([.symbol (String.singleton c)], nothing)
  else if c = Quote.double.char then some ([], inside .double [])
  else if c = Quote.single.char then some ([], inside .single [])
  else if isOperator c then some ([], operator [c])
  else if c = ':' then some ([], colon)
  else if c = '$' then some ([], number [])
  else if startsWord c then some ([], word [c])
  else none

/-- Reads one character: the tokens that it completes, and what is open behind it. -/
def step? (o : Open) (c : Char) : Option (List (Token Nat) × Open) :=
  match o.extend? c with
  | some next => some next
  | none =>
    if o.clashes c then none
    else do
      let done ← o.finish?
      let (begun, next) ← begin? c
      some (done ++ begun, next)

/-- Reads characters one after the other. -/
def run : Open → List Char → Option (List (Token Nat) × Open)
  | o, [] => some ([], o)
  | o, c :: cs => do
    let (ts, next) ← o.step? c
    let (us, last) ← run next cs
    some (ts ++ us, last)

end Open

end Lexing

open Lexing

/-- The tokens of a text. -/
def lex (s : String) : Option (List (Token Nat)) := do
  let (ts, o) ← Open.nothing.run s.toList
  let us ← o.finish?
  some (ts ++ us)

namespace Lexing

variable {o p q : Open} {a b : List Char} {ts us : List (Token Nat)} {c : Char}

/-! ## Texts one after the other -/

theorem lex_eq_some {s : String} :
    lex s = some ts ↔ ∃ us o vs, Open.nothing.run s.toList = some (us, o) ∧
      o.finish? = some vs ∧ ts = us ++ vs := by
  simp only [lex, Option.bind_eq_bind, Option.bind_eq_some_iff, Prod.exists, Option.some.injEq]
  constructor
  · rintro ⟨us, o, hRun, vs, hEnd, rfl⟩
    exact ⟨us, o, vs, hRun, hEnd, rfl⟩
  · rintro ⟨us, o, vs, hRun, hEnd, rfl⟩
    exact ⟨us, o, hRun, vs, hEnd, rfl⟩

theorem Open.run_append (ha : o.run a = some (ts, p)) (hb : p.run b = some (us, q)) :
    o.run (a ++ b) = some (ts ++ us, q) := by
  induction a generalizing o ts with
  | nil =>
    obtain ⟨rfl, rfl⟩ : ts = [] ∧ p = o := by simpa [run, eq_comm] using ha
    exact hb
  | cons c cs ih =>
    simp only [run, Option.bind_eq_bind, Option.bind_eq_some_iff, Prod.exists, Option.some.injEq,
      Prod.mk.injEq] at ha
    obtain ⟨ts₁, next, hStep, ts₂, last, hRun, rfl, rfl⟩ := ha
    simp only [List.cons_append, run, hStep, Option.bind_eq_bind, Option.bind_some, ih hRun,
      List.append_assoc]

theorem Open.run_append_eq_some (h : o.run (a ++ b) = some (ts, q)) :
    ∃ us p vs, o.run a = some (us, p) ∧ p.run b = some (vs, q) ∧ ts = us ++ vs := by
  induction a generalizing o ts with
  | nil => exact ⟨[], o, ts, rfl, h, rfl⟩
  | cons c cs ih =>
    simp only [List.cons_append, run, Option.bind_eq_bind, Option.bind_eq_some_iff, Prod.exists,
      Option.some.injEq, Prod.mk.injEq] at h
    obtain ⟨ts₁, next, hStep, ts₂, last, hRun, rfl, rfl⟩ := h
    obtain ⟨us, p, vs, hHead, hTail, rfl⟩ := ih hRun
    refine ⟨ts₁ ++ us, p, vs, ?_, hTail, by simp⟩
    simp [run, hStep, hHead]

/-! ### Loose characters -/

theorem eq_of_isLoose (hc : isLoose c) :
    c = ' ' ∨ c = '(' ∨ c = ')' ∨ c = ',' ∨ c = '.' ∨ c = ':' := by
  simpa [isLoose, isBlank, isMark, or_assoc] using hc

/-- A loose character belongs to no word, operator, number or quote. -/
theorem apart_of_isLoose (hc : isLoose c) :
    continuesWord c = false ∧ isOperator c = false ∧ c.isDigit = false ∧
      startsWord c = false ∧ c ≠ '\'' ∧ ∀ q : Quote, c ≠ q.char := by
  have hAll : continuesWord c = false ∧ isOperator c = false ∧ c.isDigit = false ∧
      startsWord c = false ∧ c ≠ '\'' ∧ c ≠ '"' := by
    rcases eq_of_isLoose hc with rfl | rfl | rfl | rfl | rfl | rfl <;> decide
  obtain ⟨hWord, hOperator, hDigit, hStart, hSingle, hDouble⟩ := hAll
  refine ⟨hWord, hOperator, hDigit, hStart, hSingle, fun q => ?_⟩
  cases q with
  | double => exact hDouble
  | single => exact hSingle

/-- A loose character behind a token that may end is read as if nothing were before it. -/
theorem Open.step?_of_isLoose (hEnd : o.finish? = some us) (hc : isLoose c) :
    o.step? c = (begin? c).map fun next => (us ++ next.1, next.2) := by
  obtain ⟨hWord, hOperator, hDigit, hStart, hSingle, hQuote⟩ := apart_of_isLoose hc
  have hApart : o.extend? c = none ∧ o.clashes c = false := by
    cases o with
    | inside q cs => cases hEnd
    | colon => cases hEnd
    | _ => simp [extend?, clashes, *]
  cases hBegin : begin? c <;> simp [step?, hApart, hEnd, hBegin]

/-- What a loose character starts is complete with it, but for the first half of a `::`. -/
theorem Open.begin?_of_isLoose (hBegin : begin? c = some (ts, o)) (hEnd : o.finish? = some us)
    (hc : isLoose c) : o = nothing := by
  have hCases : (begin? c).all fun next => next.2 = nothing ∨ next.2 = colon := by
    rcases eq_of_isLoose hc with rfl | rfl | rfl | rfl | rfl | rfl <;> decide
  rw [hBegin] at hCases
  rcases of_decide_eq_true hCases with rfl | rfl
  · rfl
  · cases hEnd

/-- If a text ends with a loose character, nothing is open behind it. -/
theorem Open.eq_nothing_of_isLoose (hStep : p.step? c = some (ts, o)) (hEnd : o.finish? = some us)
    (hc : isLoose c) : o = nothing := by
  obtain ⟨hWord, hOperator, hDigit, hStart, hSingle, hQuote⟩ := apart_of_isLoose hc
  cases hExtend : p.extend? c with
  | none =>
    simp only [step?, hExtend, Option.bind_eq_bind, Option.ite_none_left_eq_some,
      Option.bind_eq_some_iff, Prod.exists, Option.some.injEq, Prod.mk.injEq] at hStep
    obtain ⟨-, done, -, begun, next, hBegin, -, rfl⟩ := hStep
    exact Open.begin?_of_isLoose hBegin hEnd hc
  | some next =>
    obtain rfl : next = (ts, o) := by simpa [step?, hExtend] using hStep
    -- only a second colon and a character in quotes belong to what is open
    cases p with
    | colon => grind [extend?]
    | inside q cs =>
      simp only [extend?, hQuote q, if_false, Option.some.injEq, Prod.mk.injEq] at hExtend
      rw [← hExtend.2] at hEnd
      cases hEnd
    | _ => simp [extend?, *] at hExtend

/-- Behind a text that ends with a loose character, the rest is read as from the start. -/
theorem Open.eq_nothing_of_getLast? (hRun : nothing.run a = some (ts, o))
    (hEnd : o.finish? = some us) (hLast : ∀ c ∈ a.getLast?, isLoose c) : o = nothing := by
  rcases List.eq_nil_or_concat a with rfl | ⟨front, c, rfl⟩
  · simp only [run, Option.some.injEq, Prod.mk.injEq] at hRun
    exact hRun.2.symm
  · rw [List.concat_eq_append] at hRun hLast
    obtain ⟨ts₁, p, ts₂, -, hRun, -⟩ := run_append_eq_some hRun
    simp only [run, Option.bind_eq_bind, Option.bind_eq_some_iff, Prod.exists, Option.some.injEq,
      Prod.mk.injEq] at hRun
    obtain ⟨_, next, hStep, _, _, ⟨-, rfl⟩, -, rfl⟩ := hRun
    exact eq_nothing_of_isLoose hStep hEnd (hLast c (by simp))

/-- A text that starts with a loose character is read behind a token that may end as from the
start. -/
theorem Open.run_of_isLoose (hEnd : o.finish? = some us) (hc : isLoose c)
    (hRun : nothing.run (c :: b) = some (ts, p)) : o.run (c :: b) = some (us ++ ts, p) := by
  simp only [run, Option.bind_eq_bind, Option.bind_eq_some_iff, Prod.exists, Option.some.injEq,
    Prod.mk.injEq, step?_of_isLoose (o := nothing) rfl hc, step?_of_isLoose hEnd hc,
    Option.map_eq_some_iff, List.nil_append] at hRun ⊢
  obtain ⟨_, next, ⟨_, _, hBegin, rfl, rfl⟩, ts₂, _, hRun, rfl, rfl⟩ := hRun
  exact ⟨_, _, ⟨_, _, hBegin, rfl, rfl⟩, ts₂, _, hRun, by simp, rfl⟩

/-- The text starts with a loose character, or is empty. -/
def StartsLoose (x : String) : Prop := ∀ c ∈ x.toList.head?, isLoose c

/-- The text ends with a loose character, or is empty. -/
def EndsLoose (x : String) : Prop := ∀ c ∈ x.toList.getLast?, isLoose c

instance (x : String) : Decidable (StartsLoose x) :=
  decidable_of_iff (x.toList.head?.all isLoose) (Option.all_eq_true _ _)

instance (x : String) : Decidable (EndsLoose x) :=
  decidable_of_iff (x.toList.getLast?.all isLoose) (Option.all_eq_true _ _)

theorem StartsLoose.append {x y : String} (hx : StartsLoose x) (hy : StartsLoose y) :
    StartsLoose (x ++ y) := by
  intro c hc
  rw [String.toList_append, List.head?_append] at hc
  cases hHead : x.toList.head? with
  | none => exact hy c (by simpa [hHead] using hc)
  | some d => exact hx c (by simpa [hHead] using hc)

theorem StartsLoose.append_of_ne {x y : String} (hx : StartsLoose x) (hNe : x ≠ "") :
    StartsLoose (x ++ y) := by
  intro c hc
  obtain ⟨d, hHead⟩ : ∃ d, x.toList.head? = some d :=
    Option.isSome_iff_exists.1 (by simpa using hNe)
  rw [String.toList_append, List.head?_append, hHead] at hc
  exact hx c (hHead.trans (by simpa using hc))

theorem EndsLoose.append_of_ne {x y : String} (hy : EndsLoose y) (hNe : y ≠ "") :
    EndsLoose (x ++ y) := by
  intro c hc
  obtain ⟨d, hLast⟩ : ∃ d, y.toList.getLast? = some d :=
    Option.isSome_iff_exists.1 (by simpa using hNe)
  rw [String.toList_append, List.getLast?_append, hLast] at hc
  exact hy c (hLast.trans (by simpa using hc))

/-- A text and what follows it are read apart if a loose character stands at the junction. -/
theorem lex_append {x y : String} (hx : lex x = some ts) (hy : lex y = some us)
    (h : EndsLoose x ∨ StartsLoose y) :
    lex (x ++ y) = some (ts ++ us) := by
  obtain ⟨ts₁, o, ts₂, hRun, hEnd, rfl⟩ := lex_eq_some.1 hx
  obtain ⟨us₁, p, us₂, hRun', hEnd', rfl⟩ := lex_eq_some.1 hy
  rw [lex_eq_some, String.toList_append]
  cases hChars : y.toList with
  | nil =>
    rw [hChars] at hRun'
    cases hRun'
    cases hEnd'
    exact ⟨ts₁, o, ts₂, by simpa using hRun, hEnd, by simp⟩
  | cons c cs =>
    rw [hChars] at hRun'
    -- the second text is read behind `o` as from the start
    have hAgain : o.run (c :: cs) = some (ts₂ ++ us₁, p) := by
      rcases h with hLast | hFirst
      · obtain rfl := Open.eq_nothing_of_getLast? hRun hEnd hLast
        cases hEnd
        exact hRun'
      · exact Open.run_of_isLoose hEnd (hFirst c (by simp [hChars])) hRun'
    exact ⟨ts₁ ++ (ts₂ ++ us₁), p, us₂, Open.run_append hRun hAgain, hEnd', by simp⟩

/-! ## Quoted text -/

theorem Open.run_doubled (q : Quote) (read cs : List Char) :
    (inside q read).run (doubled q.char cs) = some ([], inside q (read ++ cs)) := by
  induction cs generalizing read with
  | nil => simp [doubled, run]
  | cons c cs ih =>
    have hTail := ih (read ++ [c])
    rw [doubled] at hTail ⊢
    by_cases hc : c = q.char
    · subst hc
      simp [run, step?, extend?, hTail]
    · simp [hc, run, step?, extend?, hTail]

theorem Open.run_enclose (q : Quote) (cs : List Char) :
    nothing.run (enclose q.char cs) = some ([], closed q cs) := by
  have hOpen : nothing.step? q.char = some ([], inside q []) := by cases q <;> rfl
  have hInside : (inside q []).run (doubled q.char cs ++ [q.char]) = some ([], closed q cs) :=
    run_append (run_doubled q [] cs) (by simp [run, step?, extend?])
  simp [enclose, run, hOpen, hInside]

theorem lex_enclose (q : Quote) (cs : List Char) :
    lex (String.ofList (enclose q.char cs)) = some [q.token (String.ofList cs)] := by
  simp [lex, Open.run_enclose, Open.finish?]

/-- A quoted name is read back as the name, whatever characters it has. -/
theorem lex_quoteName (name : String) : lex (quoteName name) = some [.name name] := by
  rw [quoteName]
  exact (lex_enclose .double name.toList).trans (by simp [Quote.token])

/-- A quoted literal is read back as the text, whatever characters it has. -/
theorem lex_quoteLiteral (text : String) : lex (quoteLiteral text) = some [.literal text] := by
  rw [quoteLiteral]
  exact (lex_enclose .single text.toList).trans (by simp [Quote.token])

/-! ## Placeholders -/

theorem Open.run_number {ds : List Char} (hDigits : ∀ c ∈ ds, c.isDigit) (read : List Char) :
    (number read).run ds = some ([], number (read ++ ds)) := by
  induction ds generalizing read with
  | nil => simp [run]
  | cons c ds ih =>
    have hHead : c.isDigit := hDigits c (by simp)
    have hTail := ih (fun d hd => hDigits d (by simp [hd])) (read ++ [c])
    simp [run, step?, extend?, hHead, hTail]

/-- A placeholder is read back with its number. -/
theorem lex_placeholder (n : Nat) : lex ("$" ++ toString n) = some [.placeholder n] := by
  have hDigits : ∀ c ∈ Nat.toDigits 10 n, c.isDigit :=
    fun c hc => Nat.isDigit_of_mem_toDigits (by decide) (by decide) hc
  have hRun : Open.nothing.run ('$' :: Nat.toDigits 10 n) =
      some ([], .number (Nat.toDigits 10 n)) := by
    have hStart : Open.nothing.step? '$' = some ([], .number []) := by decide
    simp [Open.run, hStart, Open.run_number hDigits]
  have hEnd : (Open.number (Nat.toDigits 10 n)).finish? = some [.placeholder n] := by
    have hValue := Nat.ofDigitChars_toDigits (n := n) (by decide : 1 < 10) (by decide)
    cases hCases : Nat.toDigits 10 n with
    | nil => exact absurd hCases (Nat.toDigits_ne_nil)
    | cons d ds => simp [Open.finish?, ← hCases, hValue]
  simp [lex, hRun, hEnd]

end Lexing

end Tenancy.Sql
