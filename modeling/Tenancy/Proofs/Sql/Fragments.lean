import Mathlib.Data.List.Chain
import Tenancy.Proofs.Sql.Conditions

/-!
# SQL of callers

Callers write what `lex` has no rule for: numbers, arithmetic, line breaks. The reader here (`read`)
goes on where `lex` gives up, and agrees with it everywhere else (`read_of_lex`). It refuses
comments and the ends of statements.

A fragment (`IsFragment`) has matching parentheses, and no quotes, comments, semicolons or dollar
signs. It is read as words and symbols with the parentheses that it has (`IsFragment.reads`), and
what stands around it is read apart from it if blanks, commas or parentheses are between them
(`Reads.between`).
-/

namespace Tenancy.Sql

namespace Lexing

/-! ## Characters -/

/-- A blank other than a space. -/
def isSpace (c : Char) : Bool :=
  c == '\t' || c == '\n' || c == '\r' || c == '\x0b' || c == '\x0c'

/-- A character of operators that only callers use. -/
def isSign (c : Char) : Bool :=
  c == '+' || c == '-' || c == '/' || c == '%' || c == '!' || c == '~' || c == '@' || c == '#' ||
    c == '^' || c == '&' || c == '|' || c == '?' || c == '`'

/-- Two characters that start a comment. -/
def startsComment (a b : Char) : Bool := (a == '-' && b == '-') || (a == '/' && b == '*')

def isBracket (c : Char) : Bool := c == '(' || c == ')'

/-- A character at which texts are read apart. -/
def isSeparator (c : Char) : Bool := c == ' ' || c == '(' || c == ')' || c == ','

/-! ## One character after the other -/

/-- The token that is being read in SQL of a caller. -/
inductive Reading where
  | known (o : Open)
  | digits (read : List Char)
  /-- An operator with a character that only callers use. -/
  | sign (read : List Char)

namespace Reading

def finish? : Reading → Option (List (Token Nat))
  | known .colon => some [.symbol ":"]
  | known o => o.finish?
  | digits cs | sign cs => some [.symbol (String.ofList cs)]

/-- What follows changes the meaning of the token. A quote behind `&` may have a prefix. -/
def clashes : Reading → Char → Bool
  | known o, c => o.clashes c
  | digits _, _ => false
  | sign cs, c => cs.getLast?.any fun a =>
    startsComment a c || (a == '&' && (c == Quote.double.char || c == Quote.single.char))

/-- An operator goes on with the characters that only callers use. -/
def beyond? : Open → Char → Option Reading
  | .operator cs, c => if isSign c then some (sign (cs ++ [c])) else none
  | _, _ => none

def extend? : Reading → Char → Option (List (Token Nat) × Reading)
  | known o, c =>
    match o.extend? c with
    | some (ts, p) => some (ts, known p)
    | none => (beyond? o c).map fun r => ([], r)
  | digits cs, c => if c.isDigit then some ([], digits (cs ++ [c])) else none
  | sign cs, c =>
    if (isSign c || isOperator c) && !(sign cs).clashes c then some ([], sign (cs ++ [c])) else none

/-- What a character starts that only callers use. One that is nothing else is a token by itself. -/
def beginOther? (c : Char) : Option (List (Token Nat) × Reading) :=
  if isSpace c then some ([], known .nothing)
  else if c.isDigit then some ([], digits [c])
  else if isSign c then some ([], sign [c])
  else if c = ';' then none
  else some ([.symbol (String.singleton c)], known .nothing)

/-- What a character starts that belongs to no token before it. -/
def begin? (c : Char) : Option (List (Token Nat) × Reading) :=
  match Open.begin? c with
  | some (ts, o) => some (ts, known o)
  | none => beginOther? c

def step? (r : Reading) (c : Char) : Option (List (Token Nat) × Reading) :=
  match r.extend? c with
  | some next => some next
  | none =>
    if r.clashes c then none
    else do
      let done ← r.finish?
      let (begun, next) ← begin? c
      some (done ++ begun, next)

def run : Reading → List Char → Option (List (Token Nat) × Reading)
  | r, [] => some ([], r)
  | r, c :: cs => do
    let (ts, next) ← r.step? c
    let (us, last) ← run next cs
    some (ts ++ us, last)

end Reading

end Lexing

open Lexing

/-- The tokens of a text that may have SQL of callers in it. -/
def read (s : String) : Option (List (Token Nat)) := do
  let (ts, r) ← (Reading.known .nothing).run s.toList
  let us ← r.finish?
  some (ts ++ us)

namespace Lexing

variable {o p : Open} {q r : Reading} {a b : List Char} {ts us : List (Token Nat)} {c : Char}

theorem read_eq_some {s : String} :
    read s = some ts ↔ ∃ us r vs, (Reading.known .nothing).run s.toList = some (us, r) ∧
      r.finish? = some vs ∧ ts = us ++ vs := by
  simp only [read, Option.bind_eq_bind, Option.bind_eq_some_iff, Prod.exists, Option.some.injEq]
  constructor
  · rintro ⟨us, r, hRun, vs, hEnd, rfl⟩
    exact ⟨us, r, vs, hRun, hEnd, rfl⟩
  · rintro ⟨us, r, vs, hRun, hEnd, rfl⟩
    exact ⟨us, r, hRun, vs, hEnd, rfl⟩

namespace Reading

theorem run_cons_eq_some {cs : List Char} : r.run (c :: cs) = some (ts, q) ↔
    ∃ us next vs, r.step? c = some (us, next) ∧ next.run cs = some (vs, q) ∧ ts = us ++ vs := by
  simp only [run, Option.bind_eq_bind, Option.bind_eq_some_iff, Prod.exists, Option.some.injEq,
    Prod.mk.injEq]
  constructor
  · rintro ⟨us, next, hStep, vs, _, hRun, rfl, rfl⟩
    exact ⟨us, next, vs, hStep, hRun, rfl⟩
  · rintro ⟨us, next, vs, hStep, hRun, rfl⟩
    exact ⟨us, next, hStep, vs, _, hRun, rfl, rfl⟩

theorem run_append {r₁ r₂ r₃ : Reading} (ha : r₁.run a = some (ts, r₂))
    (hb : r₂.run b = some (us, r₃)) : r₁.run (a ++ b) = some (ts ++ us, r₃) := by
  induction a generalizing r₁ ts with
  | nil =>
    obtain ⟨rfl, rfl⟩ : ts = [] ∧ r₂ = r₁ := by simpa [run, eq_comm] using ha
    exact hb
  | cons c cs ih =>
    obtain ⟨us₁, next, us₂, hStep, hRun, rfl⟩ := run_cons_eq_some.1 ha
    exact run_cons_eq_some.2 ⟨us₁, next, _, hStep, ih hRun, List.append_assoc ..⟩

/-! ### Agreement -/

theorem begin?_of_isSign (hc : isSign c) : Open.begin? c = none := by
  have hCases : c = '+' ∨ c = '-' ∨ c = '/' ∨ c = '%' ∨ c = '!' ∨ c = '~' ∨ c = '@' ∨ c = '#' ∨
      c = '^' ∨ c = '&' ∨ c = '|' ∨ c = '?' ∨ c = '`' := by
    simpa [isSign, or_assoc] using hc
  rcases hCases with rfl | rfl | rfl | rfl | rfl | rfl | rfl | rfl | rfl | rfl | rfl | rfl | rfl <;>
    decide

theorem finish?_known (h : o.finish? = some ts) : (known o).finish? = some ts := by
  cases o with
  | colon => cases h
  | _ => exact h

theorem beyond?_eq_none (hSign : isSign c = false) : beyond? o c = none := by
  cases o with
  | operator cs => simp [beyond?, hSign]
  | _ => rfl

theorem step?_known (h : o.step? c = some (ts, p)) : (known o).step? c = some (ts, known p) := by
  cases hExtend : o.extend? c with
  | some next =>
    obtain rfl : next = (ts, p) := by simpa [Open.step?, hExtend] using h
    simp [step?, extend?, hExtend]
  | none =>
    simp only [Open.step?, hExtend, Option.bind_eq_bind, Option.ite_none_left_eq_some,
      Option.bind_eq_some_iff, Prod.exists, Option.some.injEq, Prod.mk.injEq] at h
    obtain ⟨hClash, done, hEnd, begun, next, hBegin, rfl, rfl⟩ := h
    have hSign : isSign c = false := Bool.eq_false_iff.2 fun hc => by
      rw [begin?_of_isSign hc] at hBegin
      cases hBegin
    simp [step?, extend?, hExtend, beyond?_eq_none hSign, clashes, hClash, finish?_known hEnd,
      begin?, hBegin]

theorem run_known {cs : List Char} (h : o.run cs = some (ts, p)) :
    (known o).run cs = some (ts, known p) := by
  induction cs generalizing o ts with
  | nil =>
    obtain ⟨rfl, rfl⟩ : ts = [] ∧ p = o := by simpa [Open.run, eq_comm] using h
    rfl
  | cons c cs ih =>
    simp only [Open.run, Option.bind_eq_bind, Option.bind_eq_some_iff, Prod.exists,
      Option.some.injEq, Prod.mk.injEq] at h
    obtain ⟨us, next, hStep, vs, _, hRun, rfl, rfl⟩ := h
    exact run_cons_eq_some.2 ⟨us, known next, vs, step?_known hStep, ih hRun, rfl⟩

end Reading

/-- What can be read strictly is read in the same way. -/
theorem read_of_lex {x : String} (h : lex x = some ts) : read x = some ts := by
  obtain ⟨us, o, vs, hRun, hEnd, rfl⟩ := lex_eq_some.1 h
  exact read_eq_some.2 ⟨us, .known o, vs, Reading.run_known hRun, Reading.finish?_known hEnd, rfl⟩

/-! ## Separators -/

theorem eq_of_isSeparator (hc : isSeparator c) : c = ' ' ∨ c = '(' ∨ c = ')' ∨ c = ',' := by
  simpa [isSeparator, or_assoc] using hc

/-- A separator behind a token that may end is read as if nothing were before it. -/
theorem Reading.step?_of_isSeparator (hEnd : r.finish? = some us) (hc : isSeparator c) :
    r.step? c = (Reading.begin? c).map fun next => (us ++ next.1, next.2) := by
  have hLoose : isLoose c := by
    rcases eq_of_isSeparator hc with rfl | rfl | rfl | rfl <;> decide
  have hOther : isSign c = false ∧ c ≠ ':' ∧ ∀ a, (startsComment a c ||
      (a == '&' && (c == Quote.double.char || c == Quote.single.char))) = false := by
    rcases eq_of_isSeparator hc with rfl | rfl | rfl | rfl <;>
      exact ⟨by decide, by decide, fun a => by simp [startsComment, Quote.char]⟩
  obtain ⟨hWord, hOperator, hDigit, hStart, hSingle, hQuote⟩ := apart_of_isLoose hLoose
  obtain ⟨hSign, hColon, hPair⟩ := hOther
  have hApart : r.extend? c = none ∧ r.clashes c = false := by
    cases r with
    | known o =>
      cases o with
      | inside q cs => cases hEnd
      | _ => simp [extend?, Open.extend?, beyond?, clashes, Open.clashes, *]
    | digits cs => simp [extend?, clashes, hDigit]
    | sign cs =>
      have hNoClash : (sign cs).clashes c = false := by
        cases hLast : cs.getLast? <;> simp [clashes, hLast, hPair]
      simp [extend?, hNoClash, hSign, hOperator]
  cases hBegin : begin? c <;> simp [step?, hApart, hEnd, hBegin]

end Lexing

/-- A text without values at whose end nothing is open. -/
def Completes (x : String) (shape : Shape) : Prop :=
  Open.nothing.run x.toList = some (shape.numbered 1, .nothing) ∧
    (Token.placeholders shape).isEmpty

instance (x : String) (shape : Shape) : Decidable (Completes x shape) :=
  inferInstanceAs (Decidable (_ ∧ _))

/-- Such a text that starts with a separator. -/
def Separates (x : String) (shape : Shape) : Prop :=
  x.toList.head?.any isSeparator ∧ Completes x shape

instance (x : String) (shape : Shape) : Decidable (Separates x shape) :=
  inferInstanceAs (Decidable (_ ∧ _))

theorem Separates.run {x : String} {shape : Shape} (h : Separates x shape) {r : Reading}
    {us : List (Token Nat)} (hEnd : r.finish? = some us) :
    r.run x.toList = some (us ++ shape.numbered 1, .known .nothing) := by
  obtain ⟨hStart, hRun, -⟩ := h
  obtain ⟨c, hHead, hc⟩ := (Option.any_eq_true _ _).1 hStart
  obtain ⟨cs, hChars⟩ : ∃ cs, x.toList = c :: cs := List.head?_eq_some_iff.1 hHead
  rw [hChars] at hRun ⊢
  obtain ⟨ts₁, next, ts₂, hStep, hRest, hTokens⟩ :=
    Reading.run_cons_eq_some.1 (Reading.run_known hRun)
  have hEmpty : (Reading.known .nothing).finish? = some [] := rfl
  rw [Reading.step?_of_isSeparator hEmpty hc, Option.map_eq_some_iff] at hStep
  obtain ⟨begun, hBegin, hNext⟩ := hStep
  obtain ⟨rfl, rfl⟩ := Prod.mk.inj hNext
  refine Reading.run_cons_eq_some.2 ⟨us ++ begun.1, begun.2, ts₂, ?_, hRest, ?_⟩
  · rw [Reading.step?_of_isSeparator hEnd hc, hBegin]
    rfl
  · rw [hTokens, List.nil_append, List.append_assoc]

/-! ## Statements with SQL of callers -/

/-- The text of the statement is read as the tokens of the shape, and the values of the shape are
bound in the order of their placeholders. -/
structure Reads (s : Statement) (shape : Shape) : Prop where
  read_eq : ∀ n, read (s.textFrom n) = some (shape.numbered n)
  values_eq : s.values = Token.placeholders shape

namespace Reads

variable {s t : Statement} {shape shape' : Shape} {x y : String}

theorem of_eq (h : Reads s shape) (hShape : shape = shape') : Reads s shape' := hShape ▸ h

theorem of_spells (h : Spells s shape) : Reads s shape :=
  ⟨fun n => read_of_lex (h.lex_eq n), h.values_eq⟩

/-- A text behind which nothing is open, and what follows it. -/
theorem cons (x : String) (separator : Shape) (hx : Completes x separator) (ht : Reads t shape) :
    Reads (.text x :: t) (separator ++ shape) where
  read_eq n := by
    have hNone := List.isEmpty_iff.1 hx.2
    obtain ⟨us, r, vs, hRun, hEnd, hTokens⟩ := read_eq_some.1 (ht.read_eq n)
    rw [Statement.textFrom, read_eq_some, String.toList_append]
    refine ⟨_, r, vs, Reading.run_append (Reading.run_known hx.1) hRun, hEnd, ?_⟩
    rw [Shape.numbered_append, hNone, List.length_nil, Nat.add_zero, hTokens,
      Shape.numbered_of_no_placeholders hNone n 1, List.append_assoc]
  values_eq := by
    rw [Token.placeholders_append, List.isEmpty_iff.1 hx.2, List.nil_append, ← ht.values_eq]
    rfl

/-- What a separator stands between is read apart. -/
theorem between (hs : Reads s shape) (x : String) (separator : Shape) (hx : Separates x separator)
    (ht : Reads t shape') : Reads (s ++ .text x :: t) (shape ++ separator ++ shape') where
  read_eq n := by
    have hNone := List.isEmpty_iff.1 hx.2.2
    obtain ⟨us₁, r, vs₁, hRun, hEnd, hTokens⟩ := read_eq_some.1 (hs.read_eq n)
    obtain ⟨us₂, q, vs₂, hRun', hEnd', hTokens'⟩ :=
      read_eq_some.1 (ht.read_eq (n + s.values.length))
    rw [Statement.textFrom_append, Statement.textFrom, read_eq_some, String.toList_append,
      String.toList_append]
    refine ⟨_, q, vs₂, Reading.run_append hRun (Reading.run_append (hx.run hEnd) hRun'), hEnd', ?_⟩
    rw [Shape.numbered_append, Shape.numbered_append, Token.placeholders_append, hNone,
      List.append_nil, ← hs.values_eq, hTokens, hTokens',
      Shape.numbered_of_no_placeholders hNone _ 1]
    simp
  values_eq := by
    rw [Statement.values_append, Token.placeholders_append, Token.placeholders_append,
      List.isEmpty_iff.1 hx.2.2, List.append_nil, hs.values_eq, ← ht.values_eq]
    rfl

/-- Two pieces of text may as well be one. -/
theorem merge_append (h : Reads (s ++ .text x :: .text y :: t) shape) :
    Reads (s ++ .text (x ++ y) :: t) shape where
  read_eq n := by
    have hText := h.read_eq n
    simp only [Statement.textFrom_append, Statement.textFrom, String.append_assoc] at hText ⊢
    exact hText
  values_eq := by
    have hValues := h.values_eq
    simp only [Statement.values_append, Statement.values] at hValues ⊢
    exact hValues

theorem merge (h : Reads (.text x :: .text y :: t) shape) : Reads (.text (x ++ y) :: t) shape :=
  merge_append (s := []) h

end Reads

/-! ## Matching parentheses -/

/-- Behind `d` open parentheses, each of them is closed and no other one. -/
def balanced (d : Nat) : List Char → Bool
  | [] => d == 0
  | c :: cs =>
    if c = '(' then balanced (d + 1) cs
    else if c = ')' then d != 0 && balanced (d - 1) cs
    else balanced d cs

theorem balanced_append {d : Nat} {cs ds : List Char} (hcs : balanced d cs) (hds : balanced 0 ds) :
    balanced d (cs ++ ds) := by
  induction cs generalizing d with
  | nil =>
    obtain rfl : d = 0 := by simpa [balanced] using hcs
    exact hds
  | cons c cs ih =>
    rw [balanced] at hcs
    rw [List.cons_append, balanced]
    split_ifs at hcs ⊢ with hOpen hClose
    · exact ih hcs
    · rw [Bool.and_eq_true] at hcs ⊢
      exact ⟨hcs.1, ih hcs.2⟩
    · exact ih hcs

theorem balanced_filter (d : Nat) (cs : List Char) :
    balanced d (cs.filter isBracket) = balanced d cs := by
  induction cs generalizing d with
  | nil => rfl
  | cons c cs ih =>
    by_cases hOpen : c = '('
    · subst hOpen
      simp [isBracket, balanced, ih]
    · by_cases hClose : c = ')'
      · subst hClose
        simp [isBracket, balanced, ih]
      · simp [isBracket, balanced, hOpen, hClose, ih]

namespace Token

variable {π : Type} {test : String → Bool} {ts : List (Token π)}

/-- The parenthesis that a token is. -/
def bracket? : Token π → Option Char
  | .symbol s => if s = "(" then some '(' else if s = ")" then some ')' else none
  | _ => none

def isBare : Token π → Bool
  | .word _ | .symbol _ => true
  | _ => false

/-- The parentheses among the tokens. -/
def brackets (ts : List (Token π)) : List Char := ts.filterMap bracket?

theorem brackets_append (ts us : List (Token π)) :
    brackets (ts ++ us) = brackets ts ++ brackets us := by simp [brackets]

theorem isPlain_of_bracket? {t : Token π} (h : t.bracket? = none) : t.isPlain := by
  cases t with
  | symbol s =>
    by_cases hOpen : s = "("
    · simp [bracket?, hOpen] at h
    · by_cases hClose : s = ")"
      · simp [bracket?, hClose] at h
      · simp [isPlain, hOpen, hClose]
  | _ => rfl

theorem bracket?_eq_some {t : Token π} {c : Char} (h : t.bracket? = some c) :
    t = .symbol "(" ∧ c = '(' ∨ t = .symbol ")" ∧ c = ')' := by
  cases t with
  | symbol s =>
    rw [bracket?] at h
    split at h
    · exact .inl ⟨by simp [*], (Option.some.inj h).symm⟩
    · split at h
      · exact .inr ⟨by simp [*], (Option.some.inj h).symm⟩
      · cases h
  | _ => cases h

/-- The closing parentheses that are missing before the tokens take them apart into closed parts. -/
theorem parts_of_balanced (d : Nat) (h : balanced d (brackets ts))
    (hWords : ∀ t ∈ ts, t.isWord test = false) :
    ∃ parts : List (List (Token π)), parts.length = d + 1 ∧ (∀ part ∈ parts, Closed test part) ∧
      ts = listed (.symbol ")") parts := by
  induction ts generalizing d with
  | nil =>
    obtain rfl : d = 0 := by simpa [brackets, balanced] using h
    exact ⟨[[]], rfl, List.forall_mem_singleton.2 .nil, rfl⟩
  | cons t ts ih =>
    obtain ⟨hWord, hOthers⟩ := List.forall_mem_cons.1 hWords
    cases hBracket : t.bracket? with
    | none =>
      obtain ⟨parts, hLength, hParts, rfl⟩ := ih d (by simpa [brackets, hBracket] using h) hOthers
      obtain ⟨part, rest, rfl⟩ := List.exists_cons_of_length_eq_add_one hLength
      obtain ⟨hPart, hRest⟩ := List.forall_mem_cons.1 hParts
      exact ⟨(t :: part) :: rest, hLength, List.forall_mem_cons.2
        ⟨.cons (isPlain_of_bracket? hBracket) hWord hPart, hRest⟩, rfl⟩
    | some c =>
      rcases bracket?_eq_some hBracket with ⟨rfl, rfl⟩ | ⟨rfl, rfl⟩
      · -- the first two parts behind it are one with it
        obtain ⟨parts, hLength, hParts, rfl⟩ :=
          ih (d + 1) (by simpa [brackets, bracket?, balanced] using h) hOthers
        obtain ⟨inner, rest, rfl⟩ := List.exists_cons_of_length_eq_add_one hLength
        obtain ⟨part, rest, rfl⟩ :=
          List.exists_cons_of_length_eq_add_one (l := rest) (n := d) (by simpa using hLength)
        obtain ⟨hInner, hParts⟩ := List.forall_mem_cons.1 hParts
        obtain ⟨hPart, hRest⟩ := List.forall_mem_cons.1 hParts
        refine ⟨(grouped inner ++ part) :: rest, by simpa using hLength, ?_, ?_⟩
        · exact List.forall_mem_cons.2 ⟨.group (hInner.mono (by simp)) hPart, hRest⟩
        · simp [listed, grouped]
      · obtain ⟨hOpen, hRest⟩ : d ≠ 0 ∧ balanced (d - 1) (brackets ts) := by
          simpa [brackets, bracket?, balanced] using h
        obtain ⟨parts, hLength, hParts, rfl⟩ := ih (d - 1) hRest hOthers
        obtain ⟨part, rest, rfl⟩ := List.exists_cons_of_length_eq_add_one hLength
        refine ⟨[] :: part :: rest, ?_, List.forall_mem_cons.2 ⟨.nil, hParts⟩, ?_⟩
        · simp only [List.length_cons] at hLength ⊢
          omega
        · rw [listed_cons_cons]
          rfl

theorem closed_of_balanced (h : balanced 0 (brackets ts))
    (hWords : ∀ t ∈ ts, t.isWord test = false) : Closed test ts := by
  obtain ⟨parts, hLength, hParts, rfl⟩ := parts_of_balanced 0 h hWords
  obtain ⟨part, rfl⟩ := List.length_eq_one_iff.1 hLength
  simpa [listed] using hParts

end Token

/-! ## Fragments -/

/-- SQL of a caller with matching parentheses, and without quotes, comments, ends of statements and
dollar signs. -/
structure IsFragment (sql : String) : Prop where
  plain : ∀ c ∈ sql.toList, c ∉ ['"', '\'', ';', '$']
  uncommented : sql.toList.IsChain fun a b => startsComment a b = false
  balanced : balanced 0 sql.toList

instance (sql : String) : Decidable (IsFragment sql) :=
  decidable_of_iff (sql.toList.all (fun c => ['"', '\'', ';', '$'].contains c == false) ∧
    sql.toList.IsChain (fun a b => startsComment a b = false) ∧ balanced 0 sql.toList)
    ⟨fun ⟨hPlain, hComment, hBalanced⟩ => ⟨by simpa using hPlain, hComment, hBalanced⟩,
      fun h => ⟨by simpa using h.plain, h.uncommented, h.balanced⟩⟩

namespace Lexing

/-- The tokens are words and symbols, with the parentheses that the characters have. -/
structure Outlines (ts : List (Token Nat)) (cs : List Char) : Prop where
  bare : ∀ t ∈ ts, t.isBare
  brackets_eq : Token.brackets ts = cs.filter isBracket

namespace Outlines

variable {ts us : List (Token Nat)} {cs ds : List Char} {c : Char}

theorem nil (hcs : ∀ c ∈ cs, isBracket c = false) : Outlines [] cs :=
  ⟨by simp, by rw [List.filter_eq_nil_iff.2 fun c hc => by simp [hcs c hc]]; rfl⟩

theorem append (hts : Outlines ts cs) (hus : Outlines us ds) : Outlines (ts ++ us) (cs ++ ds) where
  bare := List.forall_mem_append.2 ⟨hts.bare, hus.bare⟩
  brackets_eq := by
    rw [Token.brackets_append, List.filter_append, hts.brackets_eq, hus.brackets_eq]

theorem bracket?_symbol (cs : List Char) (hOpen : cs ≠ ['(']) (hClose : cs ≠ [')']) :
    (.symbol (String.ofList cs) : Token Nat).bracket? = none := by
  have hText : ∀ text, cs ≠ text.toList → String.ofList cs ≠ text := by
    rintro _ h rfl
    exact h String.toList_ofList.symm
  rw [Token.bracket?, if_neg (hText "(" hOpen), if_neg (hText ")" hClose)]

theorem singleton (c : Char) : Outlines [.symbol (String.singleton c)] [c] := by
  refine ⟨by simp [Token.isBare], ?_⟩
  by_cases hOpen : c = '('
  · subst hOpen
    decide
  · by_cases hClose : c = ')'
    · subst hClose
      decide
    · have hNone : (.symbol (String.singleton c) : Token Nat).bracket? = none :=
        bracket?_symbol [c] (by simpa using hOpen) (by simpa using hClose)
      simp [Token.brackets, hNone, isBracket, hOpen, hClose]

theorem symbol (hcs : ∀ c ∈ cs, isBracket c = false) :
    Outlines [.symbol (String.ofList cs)] [] := by
  have hNot : ∀ d, isBracket d → cs ≠ [d] := by
    rintro d hd rfl
    rw [hcs d (by simp)] at hd
    cases hd
  exact ⟨by simp [Token.isBare],
    by simp [Token.brackets, bracket?_symbol cs (hNot '(' rfl) (hNot ')' rfl)]⟩

end Outlines

namespace Reading

/-- What is open belongs to no quotes, and has no parentheses. -/
def Bare : Reading → Prop
  | known .nothing | known .colon | known (.word _) => True
  | known (.operator cs) | digits cs | sign cs => ∀ c ∈ cs, isBracket c = false
  | known _ => False

/-- The character before the next one, if a comment may start with both. -/
def last? : Reading → Option Char
  | sign cs => cs.getLast?
  | _ => none

variable {r : Reading} {c : Char} {cs : List Char}

/-- A character `c` of a fragment has been read. -/
structure After (c : Char) (ts : List (Token Nat)) (r : Reading) : Prop where
  bare : r.Bare
  last : ∀ a ∈ r.last?, a = c
  outlines : Outlines ts [c]

theorem Bare.finish (h : r.Bare) : ∃ us, r.finish? = some us ∧ Outlines us [] := by
  cases r with
  | known o =>
    cases o with
    | nothing => exact ⟨[], rfl, .nil (by simp)⟩
    | word cs => exact ⟨_, rfl, by simp [Token.isBare], rfl⟩
    | operator cs => exact ⟨_, rfl, .symbol h⟩
    | colon => exact ⟨_, rfl, by simp [Token.isBare], rfl⟩
    | _ => exact h.elim
  | digits cs => exact ⟨_, rfl, .symbol h⟩
  | sign cs => exact ⟨_, rfl, .symbol h⟩

theorem After.of_begin? {o : Open} {ts : List (Token Nat)} (h : Open.begin? c = some (ts, o))
    (hc : c ∉ ['"', '\'', ';', '$']) : After c ts (known o) := by
  obtain ⟨hDouble, hSingle, -, hDollar⟩ : c ≠ '"' ∧ c ≠ '\'' ∧ c ≠ ';' ∧ c ≠ '$' := by
    simpa using hc
  have hOther : ¬isMark c → ∀ d ∈ [c], isBracket d = false := by
    simp +contextual [isMark, isBracket]
  simp only [Open.begin?, Quote.char, hDouble, hSingle, hDollar, if_false] at h
  split_ifs at h with hBlank hMark hOperator hColon hWord <;>
    obtain ⟨rfl, rfl⟩ := Prod.mk.inj (Option.some.inj h)
  · obtain rfl := eq_of_beq hBlank
    exact ⟨trivial, by simp [last?], .nil (List.forall_mem_singleton.2 rfl)⟩
  · exact ⟨trivial, by simp [last?], .singleton c⟩
  · exact ⟨hOther hMark, by simp [last?], .nil (hOther hMark)⟩
  · exact ⟨trivial, by simp [last?], .nil (hOther hMark)⟩
  · exact ⟨trivial, by simp [last?], .nil (hOther hMark)⟩

theorem begin?_of_plain (hc : c ∉ ['"', '\'', ';', '$']) :
    ∃ ts r, begin? c = some (ts, r) ∧ After c ts r := by
  cases hBegin : Open.begin? c with
  | some next => exact ⟨_, _, by simp [begin?, hBegin], .of_begin? hBegin hc⟩
  | none =>
    have hEnd : c ≠ ';' := by
      rintro rfl
      simp at hc
    have hOne : ∀ d ∈ [c], isBracket d = false := by
      refine List.forall_mem_singleton.2 (Bool.eq_false_iff.2 fun hBracket => ?_)
      have hCases : c = '(' ∨ c = ')' := by simpa [isBracket] using hBracket
      rcases hCases with rfl | rfl <;> cases hBegin
    simp only [begin?, hBegin, beginOther?, hEnd, if_false]
    split_ifs
    · exact ⟨_, _, rfl, trivial, by simp [last?], .nil hOne⟩
    · exact ⟨_, _, rfl, hOne, by simp [last?], .nil hOne⟩
    · exact ⟨_, _, rfl, hOne, by simp [last?], .nil hOne⟩
    · exact ⟨_, _, rfl, trivial, by simp [last?], .singleton c⟩

theorem ne_bracket {p : Char → Bool} (hOpen : p '(' = false) (hClose : p ')' = false) (hc : p c) :
    isBracket c = false := by
  refine Bool.eq_false_iff.2 fun hBracket => ?_
  have hCases : c = '(' ∨ c = ')' := by simpa [isBracket] using hBracket
  rcases hCases with rfl | rfl
  · simp [hOpen] at hc
  · simp [hClose] at hc

/-- A character by which a token without parentheses goes on is none. -/
theorem After.of_extend? {ts : List (Token Nat)} {q : Reading} (hr : r.Bare)
    (h : r.extend? c = some (ts, q)) : After c ts q := by
  have hWord : continuesWord c → isBracket c = false := ne_bracket rfl rfl
  have hOperator : isOperator c → isBracket c = false := ne_bracket rfl rfl
  have hSign : isSign c → isBracket c = false := ne_bracket rfl rfl
  have hDigit : c.isDigit → isBracket c = false := ne_bracket rfl rfl
  have hMore : ∀ {cs : List Char}, (∀ d ∈ cs, isBracket d = false) → isBracket c = false →
      ∀ d ∈ cs ++ [c], isBracket d = false := fun hcs hc =>
    List.forall_mem_append.2 ⟨hcs, List.forall_mem_singleton.2 hc⟩
  have hNil : isBracket c = false → Outlines [] [c] := fun hc =>
    .nil (List.forall_mem_singleton.2 hc)
  cases r with
  | known o =>
    cases o with
    | nothing => cases h
    | word cs =>
      by_cases hc : continuesWord c
      · obtain ⟨rfl, rfl⟩ : [] = ts ∧ known (.word (cs ++ [c])) = q := by
          simpa [extend?, Open.extend?, hc] using h
        exact ⟨trivial, by simp [last?], hNil (hWord hc)⟩
      · simp [extend?, Open.extend?, beyond?, hc] at h
    | operator cs =>
      by_cases hc : isOperator c
      · obtain ⟨rfl, rfl⟩ : [] = ts ∧ known (.operator (cs ++ [c])) = q := by
          simpa [extend?, Open.extend?, hc] using h
        exact ⟨hMore hr (hOperator hc), by simp [last?], hNil (hOperator hc)⟩
      · obtain ⟨hc, rfl, rfl⟩ : isSign c ∧ [] = ts ∧ sign (cs ++ [c]) = q := by
          simpa [extend?, Open.extend?, beyond?, hc] using h
        exact ⟨hMore hr (hSign hc), by simp [last?], hNil (hSign hc)⟩
    | colon =>
      by_cases hc : c = ':'
      · obtain ⟨rfl, rfl⟩ : [.symbol "::"] = ts ∧ known .nothing = q := by
          simpa [extend?, Open.extend?, hc] using h
        exact ⟨trivial, by simp [last?], by simp [Token.isBare], by rw [hc]; rfl⟩
      · simp [extend?, Open.extend?, beyond?, hc] at h
    | _ => exact hr.elim
  | digits cs =>
    obtain ⟨hc, rfl, rfl⟩ : c.isDigit ∧ [] = ts ∧ digits (cs ++ [c]) = q := by
      simpa [extend?] using h
    exact ⟨hMore hr (hDigit hc), by simp [last?], hNil (hDigit hc)⟩
  | sign cs =>
    obtain ⟨⟨hc, -⟩, rfl, rfl⟩ : ((isSign c ∨ isOperator c) ∧ (sign cs).clashes c = false) ∧
        [] = ts ∧ sign (cs ++ [c]) = q := by
      simpa [extend?] using h
    have hNot := hc.elim hSign hOperator
    exact ⟨hMore hr hNot, by simp [last?], hNil hNot⟩

theorem step?_of_plain (hr : r.Bare) (hc : c ∉ ['"', '\'', ';', '$'])
    (hLast : ∀ a ∈ r.last?, startsComment a c = false) :
    ∃ ts q, r.step? c = some (ts, q) ∧ After c ts q := by
  cases hExtend : r.extend? c with
  | some next => exact ⟨_, _, by simp [step?, hExtend], .of_extend? hr hExtend⟩
  | none =>
    have hClash : r.clashes c = false := by
      obtain ⟨hDouble, hSingle, -, -⟩ : c ≠ '"' ∧ c ≠ '\'' ∧ c ≠ ';' ∧ c ≠ '$' := by
        simpa using hc
      cases r with
      | known o =>
        cases o with
        | word cs => simpa [clashes, Open.clashes] using hSingle
        | number cs => exact hr.elim
        | _ => rfl
      | digits cs => rfl
      | sign cs =>
        cases hRead : cs.getLast? with
        | none => simp [clashes, hRead]
        | some a => simp [clashes, hRead, hLast a hRead, Quote.char, hDouble, hSingle]
    obtain ⟨us, hEnd, hDone⟩ := hr.finish
    obtain ⟨ts, q, hBegin, hAfter⟩ := begin?_of_plain hc
    exact ⟨us ++ ts, q, by simp [step?, hExtend, hClash, hEnd, hBegin], hAfter.bare, hAfter.last,
      hDone.append hAfter.outlines⟩

/-- The characters of a fragment are read as words and symbols with the same parentheses. -/
theorem run_of_plain (hr : r.Bare) (hPlain : ∀ c ∈ cs, c ∉ ['"', '\'', ';', '$'])
    (hComment : cs.IsChain fun a b => startsComment a b = false)
    (hLast : ∀ a ∈ r.last?, ∀ b ∈ cs.head?, startsComment a b = false) :
    ∃ ts q, r.run cs = some (ts, q) ∧ q.Bare ∧ Outlines ts cs := by
  induction cs generalizing r with
  | nil => exact ⟨[], r, rfl, hr, .nil (by simp)⟩
  | cons c cs ih =>
    obtain ⟨hHead, hTail⟩ := List.forall_mem_cons.1 hPlain
    obtain ⟨ts, q, hStep, hAfter⟩ :=
      step?_of_plain hr hHead fun a ha => hLast a ha c rfl
    obtain ⟨us, p, hRun, hp, hOutlines⟩ := ih hAfter.bare hTail hComment.tail (by
      intro a ha b hb
      obtain rfl := hAfter.last a ha
      exact hComment.rel_head? hb)
    exact ⟨ts ++ us, p, run_cons_eq_some.2 ⟨ts, q, us, hStep, hRun, rfl⟩, hp,
      hAfter.outlines.append hOutlines⟩

end Reading

end Lexing

namespace Token

/-- The token as one of a shape, if it is not a placeholder. -/
def unnumbered? : Token Nat → Option (Token Value)
  | .word w => some (.word w)
  | .name n => some (.name n)
  | .literal l => some (.literal l)
  | .symbol s => some (.symbol s)
  | .placeholder _ => none

end Token

namespace Shape

/-- What a caller writes. -/
def ofSql (sql : String) : Shape := ((read sql).getD []).filterMap Token.unnumbered?

theorem placeholders_ofSql (sql : String) : Token.placeholders (ofSql sql) = [] := by
  rw [Token.placeholders, ofSql, List.filterMap_filterMap]
  refine List.filterMap_eq_nil_iff.2 fun t _ => ?_
  cases t <;> rfl

theorem numbered_filterMap {ts : List (Token Nat)} (h : Token.placeholders ts = []) (n : Nat) :
    numbered n (ts.filterMap Token.unnumbered?) = ts := by
  induction ts with
  | nil => rfl
  | cons t ts ih =>
    cases t with
    | placeholder k => cases h
    | _ => exact congrArg (List.cons _) (ih h)

/-- Tokens without placeholders are found again. -/
theorem filterMap_numbered {s : Shape} (h : Token.placeholders s = []) (n : Nat) :
    (numbered n s).filterMap Token.unnumbered? = s := by
  induction s with
  | nil => rfl
  | cons t s ih =>
    cases t with
    | placeholder v => cases h
    | _ => exact congrArg (List.cons _) (ih h)

end Shape

namespace Reads

variable {x : String} {shape : Shape}

theorem ofSql_eq (h : Reads [.text x] shape) : Shape.ofSql x = shape := by
  have hRead : read x = some (shape.numbered 1) := by
    simpa [Statement.textFrom] using h.read_eq 1
  rw [Shape.ofSql, hRead]
  exact Shape.filterMap_numbered h.values_eq.symm 1

theorem ofSql {ts : List (Token Nat)} (hRead : read x = some ts)
    (hTokens : Token.placeholders ts = []) : Reads [.text x] (Shape.ofSql x) where
  read_eq n := by
    rw [Shape.ofSql, hRead, Option.getD_some, Shape.numbered_filterMap hTokens]
    simpa [Statement.textFrom] using hRead
  values_eq := (Shape.placeholders_ofSql x).symm

end Reads

namespace IsFragment

variable {sql : String}

theorem exists_read (h : IsFragment sql) : ∃ ts, read sql = some ts ∧ Outlines ts sql.toList := by
  obtain ⟨ts, r, hRun, hBare, hOutlines⟩ :=
    Reading.run_of_plain (r := .known .nothing) trivial h.plain h.uncommented nofun
  obtain ⟨us, hEnd, hLast⟩ := hBare.finish
  refine ⟨ts ++ us, read_eq_some.2 ⟨ts, r, us, hRun, hEnd, rfl⟩, ?_⟩
  simpa using hOutlines.append hLast

/-- A fragment is read as words and symbols. -/
theorem reads (h : IsFragment sql) : Reads [.text sql] (Shape.ofSql sql) := by
  obtain ⟨ts, hRead, hOutlines⟩ := h.exists_read
  refine .ofSql hRead (List.filterMap_eq_nil_iff.2 fun t ht => ?_)
  have hBare := hOutlines.bare t ht
  cases t with
  | placeholder n => cases hBare
  | _ => rfl

/-- The parentheses among the tokens of a fragment match. -/
theorem balanced_brackets (h : IsFragment sql) :
    Sql.balanced 0 (Token.brackets (Shape.ofSql sql)) := by
  obtain ⟨ts, hRead, hOutlines⟩ := h.exists_read
  have hSame : Token.brackets (Shape.ofSql sql) = Token.brackets ts := by
    rw [Shape.ofSql, hRead, Option.getD_some, Token.brackets, Token.brackets,
      List.filterMap_filterMap]
    refine List.filterMap_congr fun t _ => ?_
    cases t <;> rfl
  rw [hSame, hOutlines.brackets_eq, balanced_filter]
  exact h.balanced

end IsFragment

end Tenancy.Sql
