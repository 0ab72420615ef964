import Tenancy.Proofs.Sql.Fragments
import Tenancy.Proofs.Sql.Range
import Tenancy.Sql.Scoped

/-!
# Queries of callers

A caller builds a query on the rows of its tenant by calls, one after the other, which add an
output, a join, a predicate, a group or an order, give a limit or let deleted rows in
(`ScopedSelect.Call`). Most of them bring SQL of the caller along. A call is safe if this SQL is a
fragment (`IsFragment`) and has no `FROM`, `WHERE` or `UNION` where it stands before the conditions
(`Call.IsSafe`).

A safe call leaves a query sound (`IsSound.apply`), and so do calls one after the other
(`IsSound.build`). A sound query is read as its clauses, and nothing that a caller writes ends a
clause or starts one (`IsSound.reads`, `conditionOf_query`). Keywords may be written in small
letters, and the name for the rows may be a keyword: tokens are compared after a word in front of a
dot has become a name and any other word is in capital letters (`Token.settled`).
-/

namespace Tenancy

namespace Sql

open Lexing Token

/-! ## Words and names -/

namespace Token

variable {π : Type} {ts us : List (Token π)}

/-- Keywords are the same in either case. -/
def upper (w : String) : String := String.ofList (w.toList.map Char.toUpper)

def isDot : Token π → Bool
  | .symbol s => s == "."
  | _ => false

/-- A word in front of a dot is a name, and any other one may be a keyword. -/
def settle (dotFollows : Bool) : Token π → Token π
  | .word w => if dotFollows then .name w else .word (upper w)
  | t => t

/-- The tokens with names and keywords told apart. -/
def settled : List (Token π) → List (Token π)
  | [] => []
  | t :: ts => t.settle (ts.head?.any isDot) :: settled ts

theorem settled_cons (t : Token π) (ts : List (Token π)) :
    settled (t :: ts) = t.settle (ts.head?.any isDot) :: settled ts := rfl

theorem settled_append (h : us.head?.any isDot = false) :
    settled (ts ++ us) = settled ts ++ settled us := by
  induction ts with
  | nil => rfl
  | cons t ts ih =>
    rw [List.cons_append, settled, settled, ih, List.cons_append]
    cases ts with
    | nil => simp [h]
    | cons u ts => rfl

/-- What is not about words and names is the same. -/
theorem filterMap_settled {α : Type} {f : Token π → Option α} (hWord : ∀ w, f (.word w) = none)
    (hName : ∀ w, f (.name w) = none) (ts : List (Token π)) :
    (settled ts).filterMap f = ts.filterMap f := by
  have hSame : ∀ (b : Bool) (t : Token π), f (t.settle b) = f t := by
    intro b t
    cases t with
    | word w => cases b <;> simp [settle, hWord, hName]
    | _ => rfl
  induction ts with
  | nil => rfl
  | cons t ts ih => rw [settled, List.filterMap_cons, List.filterMap_cons, hSame, ih]

theorem brackets_settled (ts : List (Token π)) : brackets (settled ts) = brackets ts :=
  filterMap_settled (fun _ => rfl) (fun _ => rfl) ts

theorem placeholders_settled (ts : List (Token π)) : placeholders (settled ts) = placeholders ts :=
  filterMap_settled (fun _ => rfl) (fun _ => rfl) ts

/-- There is no word that satisfies the test among the tokens. -/
def Lacks (test : String → Bool) (ts : List (Token π)) : Prop :=
  ∀ t ∈ settled ts, t.isWord test = false

instance (test : String → Bool) (ts : List (Token π)) : Decidable (Lacks test ts) :=
  inferInstanceAs (Decidable (∀ t ∈ settled ts, t.isWord test = false))

/-- A dot behind the tokens makes no word of them a keyword. -/
theorem Lacks.append {test : String → Bool} (hts : Lacks test ts) (hus : Lacks test us) :
    Lacks test (ts ++ us) := by
  induction ts with
  | nil => exact hus
  | cons t ts ih =>
    obtain ⟨hHead, hTail⟩ := List.forall_mem_cons.1 hts
    refine List.forall_mem_cons.2 ⟨?_, ih hTail⟩
    cases ts with
    | cons u ts => exact hHead
    | nil =>
      cases t with
      | word w =>
        change isWord test (settle (us.head?.any isDot) (.word w)) = false
        cases us.head?.any isDot with
        | true => rfl
        | false => exact hHead
      | _ => rfl

end Token

/-! ## Tokens that leave clauses alone -/

namespace Token

variable {π : Type} {ts us : List (Token π)}

/-- The words around the tables of a query. -/
def queryWords : List String := ["FROM", "WHERE", "UNION"]

/-- The parentheses match, and no word belongs to the tables of a query. -/
structure Harmless (ts : List (Token π)) : Prop where
  balanced : balanced 0 (brackets ts)
  lacks : Lacks (fun w => w ∈ queryWords) ts

namespace Harmless

theorem closed (h : Harmless ts) : Closed (fun w => w ∈ queryWords) (settled ts) :=
  closed_of_balanced (by rw [brackets_settled]; exact h.balanced) h.lacks

theorem nil : Harmless ([] : List (Token π)) := ⟨rfl, nofun⟩

theorem append (hts : Harmless ts) (hus : Harmless us) : Harmless (ts ++ us) where
  balanced := by
    rw [brackets_append]
    exact balanced_append hts.balanced hus.balanced
  lacks := hts.lacks.append hus.lacks

theorem flatMap {α : Type} {f : α → List (Token π)} {xs : List α} (h : ∀ x ∈ xs, Harmless (f x)) :
    Harmless (xs.flatMap f) := by
  induction xs with
  | nil => exact nil
  | cons x xs ih =>
    obtain ⟨hHead, hTail⟩ := List.forall_mem_cons.1 h
    exact hHead.append (ih hTail)

theorem comma : Harmless ([.symbol ","] : List (Token π)) :=
  ⟨rfl, by simp [Lacks, settled, settle, isWord]⟩

theorem commas {parts : List (List (Token π))} (h : ∀ part ∈ parts, Harmless part) :
    Harmless (listed (.symbol ",") parts) := by
  cases parts with
  | nil => exact nil
  | cons part rest =>
    obtain ⟨hHead, hTail⟩ := List.forall_mem_cons.1 h
    exact hHead.append (flatMap fun next hNext => comma.append (hTail next hNext))

end Harmless

end Token

namespace Shape

theorem numbered_settle (n : Nat) (b : Bool) (w : String) (s : Shape) :
    numbered n (settle b (.word w) :: s) = settle b (.word w) :: numbered n s := by
  cases b <;> rfl

theorem numbered_settled (n : Nat) (s : Shape) :
    numbered n (settled s) = settled (numbered n s) := by
  have hHead : ∀ (n : Nat) (s : Shape), (numbered n s).head?.any isDot = s.head?.any isDot := by
    intro n s
    cases s with
    | nil => rfl
    | cons t s => cases t <;> rfl
  induction s generalizing n with
  | nil => rfl
  | cons t s ih =>
    cases t with
    | word w =>
      rw [settled, settle, numbered, settled, hHead, settle, ← ih]
      split <;> rfl
    | placeholder v => exact congrArg (List.cons _) (ih (n + 1))
    | _ => exact congrArg (List.cons _) (ih n)

end Shape

/-! ## Statements of queries -/

/-- What the statement says can stand behind any other. -/
structure Follows (s : Statement) (shape : Shape) : Prop where
  behind : ∀ {t : Statement} {before : Shape}, Reads t before → Reads (t ++ s) (before ++ shape)

namespace Follows

variable {s t : Statement} {shape shape' : Shape} {x y : String}

theorem nil : Follows [] [] := ⟨fun h => by simpa using h⟩

theorem append (hs : Follows s shape) (ht : Follows t shape') :
    Follows (s ++ t) (shape ++ shape') where
  behind h := by
    rw [← List.append_assoc, ← List.append_assoc]
    exact ht.behind (hs.behind h)

theorem cons (x : String) (separator : Shape) (hx : Separates x separator) (ht : Reads t shape) :
    Follows (.text x :: t) (separator ++ shape) where
  behind h := by
    rw [← List.append_assoc]
    exact h.between x separator hx ht

theorem merge (h : Follows (.text x :: .text y :: t) shape) : Follows (.text (x ++ y) :: t) shape :=
  ⟨fun h' => (h.behind h').merge_append⟩

theorem flatMap {α : Type} {f : α → Statement} {shapes : α → Shape} {xs : List α}
    (h : ∀ x ∈ xs, Follows (f x) (shapes x)) : Follows (xs.flatMap f) (xs.flatMap shapes) := by
  induction xs with
  | nil => exact nil
  | cons x xs ih =>
    obtain ⟨hHead, hTail⟩ := List.forall_mem_cons.1 h
    exact hHead.append (ih hTail)

end Follows

namespace Reads

variable {t : Statement} {shape shape' : Shape} {x z : String} {texts : List String}

theorem fixed (x : String) (shape : Shape) (h : IsFixed x shape) : Reads [.text x] shape :=
  of_spells (.fixed x shape h)

/-- A text goes on behind a separator. -/
theorem more (hx : Reads [.text x] shape) (y : String) (separator : Shape)
    (hy : Separates y separator) (hz : Reads (.text z :: t) shape') :
    Reads (.text (x ++ y ++ z) :: t) (shape ++ separator ++ shape') :=
  (hx.between y separator hy hz).merge.merge

/-- Texts of callers with blanks before them. -/
theorem blanks (hx : Reads [.text x] shape)
    (h : ∀ sql ∈ texts, Reads [.text sql] (Shape.ofSql sql)) :
    Reads [.text (x ++ String.join (texts.map (" " ++ ·)))]
      (shape ++ texts.flatMap Shape.ofSql) := by
  induction texts generalizing x shape with
  | nil => simpa using hx
  | cons sql rest ih =>
    obtain ⟨hHead, hTail⟩ := List.forall_mem_cons.1 h
    have hNext := ih (hx.more " " [] (by decide) hHead) hTail
    simpa [String.join_cons, String.append_assoc] using hNext

/-- Texts of callers with commas between them. -/
theorem commas (h : ∀ sql ∈ texts, Reads [.text sql] (Shape.ofSql sql)) :
    Reads [.text (", ".intercalate texts)] (listed (.symbol ",") (texts.map Shape.ofSql)) := by
  induction texts with
  | nil => exact fixed "" [] (by decide)
  | cons sql rest ih =>
    obtain ⟨hHead, hTail⟩ := List.forall_mem_cons.1 h
    cases rest with
    | nil => simpa [listed] using hHead
    | cons next rest =>
      rw [String.intercalate_cons_cons, List.map_cons, List.map_cons, listed_cons_cons]
      have hMore := hHead.more ", " [.symbol ","] (by decide) (ih hTail)
      simpa using hMore

end Reads

/-! ### Names of rows -/

theorem Lexing.Open.run_word {cs : List Char} (h : ∀ c ∈ cs, continuesWord c) (read : List Char) :
    (word read).run cs = some ([], word (read ++ cs)) := by
  induction cs generalizing read with
  | nil => simp [run]
  | cons c cs ih =>
    obtain ⟨hHead, hTail⟩ := List.forall_mem_cons.1 h
    simp [run, step?, extend?, hHead, ih hTail]

namespace ScopedSelect

theorem startsWord_of_isLetter {c : Char} (h : isLetter c) : startsWord c := by
  simp only [isLetter, Bool.or_eq_true] at h
  simp only [startsWord, Bool.or_eq_true]
  exact .inl h

theorem begin?_of_isLetter {c : Char} (h : isLetter c) : Open.begin? c = some ([], .word [c]) := by
  have hNot : ∀ d, isLetter d = false → c ≠ d := by
    rintro d hd rfl
    rw [hd] at h
    cases h
  have hOther : isBlank c = false ∧ isMark c = false ∧ isOperator c = false := by
    simp (disch := decide) [isBlank, isMark, isOperator, hNot]
  simp (disch := decide) [Open.begin?, hOther, Quote.char, hNot, startsWord_of_isLetter h]

/-- A name that needs no quotes is one word. -/
theorem spells_name {name : String} (h : isPlainName name) : Spells [.text name] [.word name] := by
  unfold isPlainName at h
  split at h
  · cases h
  · next c cs hChars =>
    obtain ⟨hFirst, hRest⟩ : isLetter c ∧ ∀ d ∈ cs, isLetter d ∨ Text.isDigit d := by simpa using h
    have hWord : ∀ d ∈ cs, continuesWord d := fun d hd => by
      rcases hRest d hd with hLetter | hDigit
      · simp [continuesWord, startsWord_of_isLetter hLetter]
      · have hIs : d.isDigit := hDigit
        simp [continuesWord, hIs]
    have hStep : Open.nothing.step? c = some ([], .word [c]) := by
      simp [Open.step?, Open.extend?, Open.clashes, Open.finish?, begin?_of_isLetter hFirst]
    have hRun : Open.nothing.run name.toList = some ([], .word name.toList) := by
      simp [hChars, Open.run, hStep, Open.run_word hWord]
    exact .of_lex (by simp [lex, hRun, Open.finish?, Shape.numbered]) rfl

end ScopedSelect

/-! ### Clauses -/

namespace Shape

def predicate : Predicate → Shape
  | .plain sql => ofSql sql
  | .bound sql v => ofSql sql ++ value v

/-- What a query is to answer with. -/
def output (q : ScopedSelect) : Shape :=
  if q.select.isEmpty then [.word q.name, .symbol ".", .symbol "*"]
  else listed (.symbol ",") (q.select.map ofSql)

/-- The test that the row is not deleted, if rows of the table are kept. -/
def guards (q : ScopedSelect) : List Shape :=
  q.softDeleteColumn.toList.map fun column => columnOf q.name column ++ words ["IS", "NULL"]

/-- What a query asks of a row. -/
def requirements (q : ScopedSelect) : List Shape :=
  (columnOf q.name q.tenantColumn ++ [.symbol "=", .placeholder (.ofTenant q.tenant)]) ::
    (guards q ++ q.predicates.map fun p => grouped (predicate p))

/-- A clause with expressions of the caller, if there are any. -/
def clause (keywords : List String) (expressions : List String) : Shape :=
  if expressions.isEmpty then []
  else words keywords ++ listed (.symbol ",") (expressions.map ofSql)

/-- What stands behind the conditions. -/
def ending (q : ScopedSelect) : Shape :=
  clause ["GROUP", "BY"] q.groupBy ++ clause ["ORDER", "BY"] q.order ++ range "LIMIT" q.limit

def query (q : ScopedSelect) : Shape :=
  .word "SELECT" :: output q ++ .word "FROM" :: named q.table q.name ++ q.joins.flatMap ofSql ++
    conjunction (requirements q) ++ ending q

end Shape

namespace ScopedSelect

/-- What callers have written can be read, and it stays within the clause to which it belongs. -/
structure IsSound (q : ScopedSelect) : Prop where
  name : isPlainName q.name
  select : ∀ sql ∈ q.select, Reads [.text sql] (Shape.ofSql sql) ∧ Harmless (Shape.ofSql sql)
  joins : ∀ sql ∈ q.joins, Reads [.text sql] (Shape.ofSql sql) ∧ Harmless (Shape.ofSql sql)
  predicates : ∀ p ∈ q.predicates, Reads (predicateSql p) (Shape.predicate p) ∧
    balanced 0 (brackets (Shape.predicate p))
  groupBy : ∀ sql ∈ q.groupBy, Reads [.text sql] (Shape.ofSql sql)
  order : ∀ sql ∈ q.order, Reads [.text sql] (Shape.ofSql sql)

variable {q : ScopedSelect}

theorem spells_columnOf (h : isPlainName q.name) (column : String) :
    Spells [.text (columnOf q.name column)] (Shape.columnOf q.name column) := by
  have hDot := (spells_name h).append (.fixed_cons "." [.symbol "."] (by decide) (.name column))
  exact .merge (.merge hDot)

theorem follows_guard (h : isPlainName q.name) : Follows
    (match q.softDeleteColumn with
      | some column => [.text (" AND " ++ columnOf q.name column ++ " IS NULL")]
      | none => [])
    ((Shape.guards q).flatMap (.word "AND" :: ·)) := by
  rw [Shape.guards]
  cases q.softDeleteColumn with
  | none => exact .nil
  | some column =>
    have hTest : Spells [.text (columnOf q.name column), .text " IS NULL"] _ :=
      (spells_columnOf h column).append (.fixed " IS NULL" (Shape.words ["IS", "NULL"]) (by decide))
    have hAnd : Follows _ _ := .cons " AND " [.word "AND"] (by decide) (.of_spells hTest)
    simpa using hAnd.merge.merge

theorem follows_predicates (h : ∀ p ∈ q.predicates, Reads (predicateSql p) (Shape.predicate p)) :
    Follows (q.predicates.flatMap fun p => .text " AND (" :: predicateSql p ++ [.text ")"])
      ((q.predicates.map fun p => grouped (Shape.predicate p)).flatMap (.word "AND" :: ·)) := by
  rw [List.flatMap_map]
  refine .flatMap fun p hp => ?_
  have hClosed := (h p hp).between ")" [.symbol ")"] (by decide) (.of_spells .nil)
  have hAnd : Follows _ _ := .cons " AND (" [.word "AND", .symbol "("] (by decide) hClosed
  simpa [grouped] using hAnd

theorem follows_clause (x : String) (keywords : List String) {expressions : List String}
    (hx : Separates x (Shape.words keywords))
    (h : ∀ sql ∈ expressions, Reads [.text sql] (Shape.ofSql sql)) :
    Follows (if expressions.isEmpty then [] else [.text (x ++ ", ".intercalate expressions)])
      (Shape.clause keywords expressions) := by
  rw [Shape.clause]
  split
  · exact .nil
  · exact .merge (.cons x _ hx (.commas h))

theorem follows_limit (limit : Option Nat) : Follows
    (match limit with
      | some n => .text " LIMIT " :: rangeValue n
      | none => [])
    (Shape.range "LIMIT" limit) := by
  cases limit with
  | none => exact .nil
  | some n => exact .cons " LIMIT " [.word "LIMIT"] (by decide) (.of_spells (.bound _))

theorem IsSound.output (h : q.IsSound) :
    Reads [.text (if q.select.isEmpty then q.name ++ ".*" else ", ".intercalate q.select)]
      (Shape.output q) := by
  rw [Shape.output]
  split
  · exact .of_spells (.merge ((spells_name h.name).append
      (.fixed ".*" [.symbol ".", .symbol "*"] (by decide))))
  · exact .commas fun sql hSql => (h.select sql hSql).1

/-- The statement of a query is read as its clauses. -/
theorem IsSound.reads (h : q.IsSound) : Reads q.statement (Shape.query q) := by
  -- up to the tenant the statement is one text, which grows at its end
  have hSelect := (Reads.cons "SELECT " [.word "SELECT"] (by decide) h.output).merge
  have hFrom := hSelect.more " FROM " [.word "FROM"] (by decide) (.of_spells (.tableName q.table))
  have hNamed := hFrom.more " AS " [.word "AS"] (by decide) (.of_spells (spells_name h.name))
  have hJoined := hNamed.blanks fun sql hSql => (h.joins sql hSql).1
  have hTenant := hJoined.more " WHERE " [.word "WHERE"] (by decide)
    (.of_spells (spells_columnOf h.name q.tenantColumn))
  have hBound := (hTenant.between " = " [.symbol "="] (by decide)
    (.of_spells (.bound (.ofTenant q.tenant)))).merge
  -- what comes behind the tenant may be left out, piece by piece
  have hPredicates := follows_predicates fun p hp => (h.predicates p hp).1
  have hGroup := follows_clause " GROUP BY " ["GROUP", "BY"] (by decide) h.groupBy
  have hOrder := follows_clause " ORDER BY " ["ORDER", "BY"] (by decide) h.order
  have hConditions := hPredicates.behind ((follows_guard h.name).behind hBound)
  have hAll := (follows_limit q.limit).behind (hOrder.behind (hGroup.behind hConditions))
  refine hAll.of_eq ?_
  simp [Shape.query, Shape.named, Shape.words, Shape.conjunction, Shape.requirements, Shape.ending,
    listed]

end ScopedSelect

/-! ## Conditions of queries -/

namespace Token

variable {π : Type} {test : String → Bool} {ts us : List (Token π)}

/-- The tokens behind the first word outside parentheses that satisfies a test. -/
def restBehind (test : String → Bool) (ts : List (Token π)) : List (Token π) :=
  ts.drop (((partsBetween test 0 ts).headD []).length + 1)

theorem restBehind_word (hts : Closed test ts) {w : String} (hw : test w) :
    restBehind test (ts ++ .word w :: us) = us := by
  rw [restBehind, partsBetween_word hts hw, List.headD_cons, List.drop_append]
  simp

/-- The tokens before the first `UNION`. -/
def firstQuery (ts : List (Token π)) : List (Token π) :=
  (partsBetween (· == "UNION") 0 ts).headD []

/-- What stands in a query behind its first table and the name for the rows of that. -/
def behindBase (ts : List (Token π)) : List (Token π) :=
  firstQuery (restBehind (· == "AS") (restBehind (fun w => w ∈ queryWords) ts)).tail

theorem firstQuery_append (hts : Closed (· == "UNION") ts) (hus : Shape.EndsConditions us) :
    ∃ vs, Shape.EndsConditions vs ∧ firstQuery (ts ++ us) = ts ++ vs := by
  rw [firstQuery, partsBetween_closed hts fun _ _ h => h]
  rcases hus with rfl | ⟨w, rest, hw, rfl⟩
  · exact ⟨[], .inl rfl, rfl⟩
  · by_cases hUnion : w = "UNION"
    · exact ⟨[], .inl rfl, by simp [partsBetween, isWord, hUnion]⟩
    · rw [partsBetween_cons_of_not (by simp [isWord, hUnion])]
      cases hParts : partsBetween (· == "UNION") (depthBehind 0 (.word w : Token π)) rest with
      | nil => exact absurd hParts partsBetween_ne_nil
      | cons part others => exact ⟨.word w :: part, .inr ⟨w, part, hw, rfl⟩, rfl⟩

/-- The conditions of a query are found behind its base table, whatever its other clauses are. -/
theorem conditionOf_behindBase {output table joins ending : List (Token Nat)} {row : Token Nat}
    {parts : List (List (Token Nat))} (hOutput : Closed (fun w => w ∈ queryWords) output)
    (hTable : Closed (· == "AS") table) (hJoins : Closed (fun w => w ∈ queryWords) joins)
    (hNe : parts ≠ []) (hParts : ∀ part ∈ parts, Closed Shape.isStructural part)
    (hEnding : Shape.EndsConditions ending) :
    conditionOf (behindBase (output ++ .word "FROM" :: (table ++ .word "AS" :: row ::
      (joins ++ .word "WHERE" :: (listed (.word "AND") parts ++ ending))))) = [parts] := by
  have hJoin : ∀ v ∈ queryWords, Closed (· == v) joins := fun v hv => hJoins.mono fun w hw => by
    obtain rfl := eq_of_beq hw
    exact decide_eq_true hv
  have hUnion : ∀ part ∈ parts, Closed (· == "UNION") part := fun part hPart =>
    (hParts part hPart).mono fun w hw => by
      obtain rfl := eq_of_beq hw
      decide
  have hQuery : Closed (· == "UNION") (joins ++ .word "WHERE" :: listed (.word "AND") parts) :=
    (hJoin "UNION" (by decide)).append (.cons rfl (by decide) (.listed rfl (by decide) hUnion))
  obtain ⟨tail, hTail, hFirst⟩ := firstQuery_append hQuery hEnding
  rw [List.append_assoc, List.cons_append] at hFirst
  rw [behindBase, restBehind_word hOutput (by decide), restBehind_word hTable (by simp),
    List.tail_cons, hFirst, List.append_assoc, List.cons_append]
  exact Shape.conditionOf_listed (hJoin "WHERE" (by decide)) hNe hParts hTail

/-! ### Settled clauses -/

theorem settled_of_not_isWord (h : ∀ t ∈ ts, t.isWord (fun _ => true) = false) :
    settled ts = ts := by
  induction ts with
  | nil => rfl
  | cons t ts ih =>
    obtain ⟨hHead, hTail⟩ := List.forall_mem_cons.1 h
    rw [settled, ih hTail]
    cases t with
    | word w => cases hHead
    | _ => rfl

theorem settled_grouped (ts : List (Token π)) : settled (grouped ts) = grouped (settled ts) :=
  congrArg (List.cons _) (settled_append rfl)

theorem mem_listed {between t : Token π} {parts : List (List (Token π))}
    (h : t ∈ listed between parts) : t = between ∨ ∃ part ∈ parts, t ∈ part := by
  cases parts with
  | nil => cases h
  | cons part rest =>
    rcases List.mem_append.1 h with hPart | hRest
    · exact .inr ⟨part, List.mem_cons_self, hPart⟩
    · obtain ⟨next, hNext, hIn⟩ := List.mem_flatMap.1 hRest
      exact (List.mem_cons.1 hIn).imp id fun hIn => ⟨next, List.mem_cons_of_mem _ hNext, hIn⟩

/-- Another token than a dot starts the tokens. -/
def StartsApart (ts : List (Token π)) : Prop := ∃ t rest, ts = t :: rest ∧ t.isDot = false

theorem StartsApart.head (h : StartsApart ts) (us : List (Token π)) :
    (ts ++ us).head?.any isDot = false := by
  obtain ⟨t, rest, rfl, ht⟩ := h
  simpa using ht

theorem settled_word {w : String} (hw : upper w = w) (h : ts.head?.any isDot = false) :
    settled (.word w :: ts) = .word w :: settled ts := by
  simp [settled, settle, h, hw]

theorem settled_listed {parts : List (List (Token π))} (h : ∀ part ∈ parts, StartsApart part)
    (hus : us.head?.any isDot = false) :
    settled (listed (.word "AND") parts ++ us) =
      listed (.word "AND") (parts.map settled) ++ settled us := by
  induction parts with
  | nil => rfl
  | cons part rest ih =>
    obtain ⟨-, hTail⟩ := List.forall_mem_cons.1 h
    cases rest with
    | nil => simpa [listed] using settled_append hus
    | cons next rest =>
      obtain ⟨hNext, -⟩ := List.forall_mem_cons.1 hTail
      have hHead : (listed (.word "AND") (next :: rest) ++ us).head?.any isDot = false := by
        rw [listed, List.append_assoc]
        exact hNext.head _
      rw [listed_cons_cons, List.append_assoc, List.cons_append, settled_append rfl,
        settled_word (by decide) hHead, ih hTail]
      simp [listed]

end Token

namespace Shape

/-- A column of a row, with the name of the row. -/
def field (row column : String) : Shape := [.name row, .symbol ".", .name column]

theorem settled_columnOf (row column : String) (s : Shape) :
    settled (columnOf row column ++ s) = field row column ++ settled s := rfl

theorem settled_tableName (table : String) : settled (tableName table) = tableName table := by
  refine settled_of_not_isWord fun t ht => ?_
  rw [tableName] at ht
  rcases mem_listed ht with rfl | ⟨part, hPart, ht⟩
  · rfl
  · obtain ⟨name, -, rfl⟩ := List.mem_map.1 hPart
    obtain rfl := List.mem_singleton.1 ht
    rfl

theorem head_tableName (table : String) {s : Shape} (hs : s.head?.any isDot = false) :
    (tableName table ++ s).head?.any isDot = false := by
  rw [tableName]
  cases tableParts table with
  | nil => exact hs
  | cons part rest => rfl

theorem startsApart_requirements (q : ScopedSelect) :
    ∀ part ∈ requirements q, StartsApart part := by
  have hColumn : ∀ column (s : Shape), StartsApart (columnOf q.name column ++ s) :=
    fun column s => ⟨_, _, rfl, rfl⟩
  refine List.forall_mem_cons.2 ⟨hColumn _ _, List.forall_mem_append.2 ⟨?_, ?_⟩⟩
  · intro part hPart
    obtain ⟨column, -, rfl⟩ := List.mem_map.1 hPart
    exact hColumn _ _
  · intro part hPart
    obtain ⟨p, -, rfl⟩ := List.mem_map.1 hPart
    exact ⟨_, _, rfl, rfl⟩

/-- What stands behind the conditions starts with a keyword of a clause. -/
theorem ending_cases (q : ScopedSelect) : ending q = [] ∨ ∃ w rest, w ∈ clauseWords ∧
    upper w = w ∧ rest.head?.any isDot = false ∧ ending q = .word w :: rest := by
  rw [ending]
  cases q.groupBy with
  | cons sql rest => exact .inr ⟨"GROUP", _, by decide, by decide, rfl, rfl⟩
  | nil =>
    cases q.order with
    | cons sql rest => exact .inr ⟨"ORDER", _, by decide, by decide, rfl, rfl⟩
    | nil =>
      cases q.limit with
      | some n => exact .inr ⟨"LIMIT", _, by decide, by decide, rfl, rfl⟩
      | none => exact .inl rfl

theorem endsConditions_ending (q : ScopedSelect) : EndsConditions (settled (ending q)) := by
  rcases ending_cases q with hNil | ⟨w, rest, hWord, hUpper, hRest, hEnding⟩
  · exact .inl (by rw [hNil]; rfl)
  · exact .inr ⟨w, settled rest, hWord, by rw [hEnding, settled_word hUpper hRest]⟩

/-- The clauses of a query with names and keywords told apart. -/
theorem settled_query (q : ScopedSelect) : ∃ dotFollows,
    settled (query q) = settled (.word "SELECT" :: output q) ++ .word "FROM" ::
      (tableName q.table ++ .word "AS" :: settle dotFollows (.word q.name) ::
        (settled (q.joins.flatMap ofSql) ++ .word "WHERE" ::
          (listed (.word "AND") ((requirements q).map settled) ++ settled (ending q)))) := by
  have hEnding : (ending q).head?.any isDot = false := by
    rcases ending_cases q with hNil | ⟨w, rest, -, -, -, hEnding⟩
    · rw [hNil]
      rfl
    · rw [hEnding]
      rfl
  have hWhere : (listed (.word "AND") (requirements q) ++ ending q).head?.any isDot = false := rfl
  have hQuery : query q = (.word "SELECT" :: output q) ++ .word "FROM" ::
      (tableName q.table ++ .word "AS" :: .word q.name :: (q.joins.flatMap ofSql ++
        .word "WHERE" :: (listed (.word "AND") (requirements q) ++ ending q))) := by
    simp [query, named, words, conjunction]
  -- the name for the rows may have a dot behind it, with which a join starts
  refine ⟨(q.joins.flatMap ofSql ++ .word "WHERE" ::
    (listed (.word "AND") (requirements q) ++ ending q)).head?.any isDot, ?_⟩
  rw [hQuery, settled_append rfl, settled_word (w := "FROM") (by decide) (head_tableName _ rfl),
    settled_append rfl, settled_tableName, settled_word (w := "AS") (by decide) rfl,
    settled_cons (.word q.name), settled_append rfl, settled_word (w := "WHERE") (by decide) hWhere,
    settled_listed (startsApart_requirements q) hEnding]

end Shape

namespace ScopedSelect

variable {q : ScopedSelect}

/-- The test that a row of the query belongs to its tenant. -/
def tenantTest (q : ScopedSelect) : Shape :=
  Shape.field q.name q.tenantColumn ++ [.symbol "=", .placeholder (.ofTenant q.tenant)]

/-- The test that a row of the query is not deleted. -/
def guardTests (q : ScopedSelect) : List Shape :=
  q.softDeleteColumn.toList.map fun column =>
    Shape.field q.name column ++ Shape.words ["IS", "NULL"]

/-- The predicates of the query, each in parentheses. -/
def predicateTests (q : ScopedSelect) : List Shape :=
  q.predicates.map fun p => grouped (settled (Shape.predicate p))

theorem settled_requirements (q : ScopedSelect) :
    (Shape.requirements q).map settled = tenantTest q :: (guardTests q ++ predicateTests q) := by
  rw [Shape.requirements, List.map_cons, List.map_append, Shape.guards, List.map_map, List.map_map]
  refine congrArg₂ _ rfl (congrArg₂ _ ?_ ?_)
  · exact List.map_congr_left fun column _ => by
      have hWords : settled (Shape.words ["IS", "NULL"]) = Shape.words ["IS", "NULL"] :=
        (settled_word (by decide) rfl).trans (congrArg _ (settled_word (by decide) rfl))
      rw [Function.comp_apply, Shape.settled_columnOf, hWords]
  · exact List.map_congr_left fun p _ => settled_grouped _

theorem closed_requirements (h : q.IsSound) :
    ∀ part ∈ (Shape.requirements q).map settled, Closed Shape.isStructural part := by
  have hField : ∀ column, Closed Shape.isStructural (Shape.field q.name column) := fun column =>
    .cons rfl rfl (.cons rfl rfl (.cons rfl rfl .nil))
  rw [settled_requirements]
  refine List.forall_mem_cons.2 ⟨?_, List.forall_mem_append.2 ⟨?_, ?_⟩⟩
  · exact (hField _).append (.cons rfl rfl (.cons rfl rfl .nil))
  · exact List.forall_mem_map.2 fun column _ =>
      (hField column).append (Shape.closed_words (by decide))
  · refine List.forall_mem_map.2 fun p hp => .grouped (closed_of_balanced ?_ ?_)
    · rw [brackets_settled]
      exact (h.predicates p hp).2
    · intro t _
      cases t <;> rfl

theorem harmless_output (h : q.IsSound) : Harmless (.word "SELECT" :: Shape.output q) := by
  have hWord : Harmless ([.word "SELECT"] : Shape) := ⟨rfl, List.forall_mem_singleton.2 (by decide)⟩
  suffices hOutput : Harmless (Shape.output q) from hWord.append hOutput
  rw [Shape.output]
  split
  · exact ⟨rfl, by simp [Lacks, settled, settle, isDot, isWord]⟩
  · exact .commas (List.forall_mem_map.2 fun sql hSql => (h.select sql hSql).2)

/-- A query asks first for the tenant of its rows, then that they are not deleted, and then what its
predicates ask, each in parentheses. -/
theorem conditionOf_query (h : q.IsSound) :
    conditionOf (behindBase (settled ((Shape.query q).numbered 1))) =
      [Shape.numberedEach 1 (tenantTest q :: (guardTests q ++ predicateTests q))] := by
  -- nothing before the conditions has a placeholder, so the tenant has the first one
  have hOutput : placeholders (settled (.word "SELECT" :: Shape.output q)) = [] := by
    rw [placeholders_settled]
    exact h.output.values_eq.symm
  have hJoins : placeholders (settled (q.joins.flatMap Shape.ofSql)) = [] := by
    have hReads := Reads.blanks (.fixed "" [] (by decide)) fun sql hSql => (h.joins sql hSql).1
    rw [placeholders_settled]
    exact hReads.values_eq.symm
  have hTable : placeholders (Shape.tableName q.table) = [] :=
    (Spells.tableName q.table).values_eq.symm
  obtain ⟨b, hQuery⟩ := Shape.settled_query q
  have hTokens : Shape.numbered 1 (settled (Shape.query q)) = _ :=
    (congrArg (Shape.numbered 1) hQuery).trans
      (Shape.numbered_append_of_no_placeholders hOutput 1 _)
  rw [← settled_requirements, ← Shape.numbered_settled, hTokens, Shape.numbered_word,
    Shape.numbered_append_of_no_placeholders hTable, Shape.numbered_word, Shape.numbered_settle,
    Shape.numbered_append_of_no_placeholders hJoins, Shape.numbered_word, Shape.numbered_append,
    Shape.numbered_listed]
  exact conditionOf_behindBase (Shape.closed_numbered (harmless_output h).closed 1)
    (Shape.closed_numbered (Shape.closed_tableName _) 1)
    (Shape.closed_numbered (Harmless.flatMap fun sql hSql => (h.joins sql hSql).2).closed 1)
    (by simp [Shape.requirements, Shape.numberedEach])
    (Shape.closed_numberedEach (closed_requirements h) 1)
    ((Shape.endsConditions_ending q).numbered _)

end ScopedSelect

/-! ## Calls one after the other -/

/-- The value that is bound for a predicate. -/
def Predicate.bound? : Predicate → Option Value
  | .bound _ v => if v.isNull then none else some v
  | .plain _ => none

namespace ScopedSelect

/-- The parts of a query to which callers add. -/
inductive Part where
  | output
  | joins
  | predicates
  | deleted
  | groups
  | order
  | limit
deriving DecidableEq

/-- What a caller adds to a query. -/
inductive Call where
  | output (expression : String)
  | join (clause : String)
  | require (predicate : Predicate)
  | requireEq (column : String) (value : Value)
  | withDeleted
  | group (expression : String)
  | order (expression : String) (direction : Direction)
  | limit (n : Nat)

def apply (q : ScopedSelect) : Call → ScopedSelect
  | .output expression => q.selecting expression
  | .join clause => q.joining clause
  | .require predicate => q.requiring predicate
  | .requireEq column v => q.requiringEq column v
  | .withDeleted => q.withDeleted
  | .group expression => q.groupingBy expression
  | .order expression direction => q.orderingBy expression direction
  | .limit n => q.limitingTo n

/-- The query behind the calls. -/
def build (q : ScopedSelect) (calls : List Call) : ScopedSelect := calls.foldl apply q

namespace Call

def part : Call → Part
  | output _ => .output
  | join _ => .joins
  | require _ | requireEq _ _ => .predicates
  | withDeleted => .deleted
  | group _ => .groups
  | order _ _ => .order
  | limit _ => .limit

/-- What the caller writes are fragments, and those that stand before the conditions have no word
that belongs to the tables of a query. A limit has 64 bits. -/
def IsSafe : Call → Prop
  | output sql | join sql => IsFragment sql ∧ Lacks (fun w => w ∈ queryWords) (Shape.ofSql sql)
  | require (.plain sql) | require (.bound sql _) | group sql | order sql _ => IsFragment sql
  | requireEq _ _ | withDeleted => True
  | limit n => n < 2 ^ 64

instance : (c : Call) → Decidable c.IsSafe
  | output _ | join _ => inferInstanceAs (Decidable (_ ∧ _))
  | require (.plain sql) | require (.bound sql _) | group sql | order sql _ =>
    inferInstanceAs (Decidable (IsFragment sql))
  | requireEq _ _ | withDeleted => inferInstanceAs (Decidable True)
  | limit n => inferInstanceAs (Decidable (n < 2 ^ 64))

end Call

variable {q : ScopedSelect} {c : Call}

/-! ### What one call keeps -/

theorem sound_bound {sql : String} (hReads : Reads [.text sql] (Shape.ofSql sql))
    (hBalanced : balanced 0 (brackets (Shape.ofSql sql))) (v : Value) :
    Reads (predicateSql (.bound sql v)) (Shape.predicate (.bound sql v)) ∧
      balanced 0 (brackets (Shape.predicate (.bound sql v))) := by
  have hText := hReads.between " " [] (by decide) (.of_spells (.value v))
  refine ⟨.merge (hText.of_eq (by rw [List.append_nil]; rfl)), ?_⟩
  rw [Shape.predicate, brackets_append]
  refine balanced_append hBalanced ?_
  cases v <;> rfl

/-- A column and what is asked of it can be read, whatever its name is. -/
theorem sound_column (hName : isPlainName q.name) (column x : String) (shape : Shape)
    (hx : IsFixed x shape ∧ StartsLoose x ∧ x ≠ "") (hPlain : brackets shape = []) :
    Reads [.text (columnOf q.name column ++ x)] (Shape.ofSql (columnOf q.name column ++ x)) ∧
      balanced 0 (brackets (Shape.ofSql (columnOf q.name column ++ x))) := by
  have hReads : Reads [.text (columnOf q.name column ++ x)]
      (Shape.columnOf q.name column ++ shape) :=
    .of_spells (.merge ((spells_columnOf hName column).append (.fixed x shape hx)))
  rw [hReads.ofSql_eq]
  refine ⟨hReads, ?_⟩
  rw [brackets_append, hPlain]
  rfl

theorem sound_order {sql : String} (h : IsFragment sql) (direction : Direction) :
    Reads [.text (sql ++ " " ++ directionText direction)]
      (Shape.ofSql (sql ++ " " ++ directionText direction)) := by
  have hDirection : Reads [.text (directionText direction)] [.word (directionText direction)] := by
    cases direction <;> exact .fixed _ _ (by decide)
  have hReads := h.reads.more " " [] (by decide) hDirection
  rw [hReads.ofSql_eq]
  exact hReads

/-- A safe call leaves a query sound. -/
theorem IsSound.apply (h : q.IsSound) (hc : c.IsSafe) : (q.apply c).IsSound := by
  have hAdded : ∀ {α : Type} {P : α → Prop} {xs : List α} {x : α}, (∀ y ∈ xs, P y) → P x →
      ∀ y ∈ xs ++ [x], P y := fun hxs hx =>
    List.forall_mem_append.2 ⟨hxs, List.forall_mem_singleton.2 hx⟩
  cases c with
  | output sql =>
    obtain ⟨hSql, hLacks⟩ := hc
    exact { h with select := hAdded h.select ⟨hSql.reads, hSql.balanced_brackets, hLacks⟩ }
  | join sql =>
    obtain ⟨hSql, hLacks⟩ := hc
    exact { h with joins := hAdded h.joins ⟨hSql.reads, hSql.balanced_brackets, hLacks⟩ }
  | require p =>
    cases p with
    | plain sql =>
      have hSql : IsFragment sql := hc
      exact { h with predicates := hAdded h.predicates ⟨hSql.reads, hSql.balanced_brackets⟩ }
    | bound sql v =>
      have hSql : IsFragment sql := hc
      exact { h with
        predicates := hAdded h.predicates (sound_bound hSql.reads hSql.balanced_brackets v) }
  | requireEq column v =>
    have hEq := sound_column h.name column " =" [.symbol "="] (by decide) (by decide)
    have hNull := sound_column h.name column " IS NULL" (Shape.words ["IS", "NULL"]) (by decide)
      (by decide)
    cases v with
    | null => exact { h with predicates := hAdded h.predicates hNull }
    | _ => exact { h with predicates := hAdded h.predicates (sound_bound hEq.1 hEq.2 _) }
  | withDeleted => exact { h with }
  | group sql => exact { h with groupBy := hAdded h.groupBy hc.reads }
  | order sql direction => exact { h with order := hAdded h.order (sound_order hc direction) }
  | limit n => exact { h with }

/-- Safe calls leave a query sound. -/
theorem IsSound.build (h : q.IsSound) {calls : List Call} (hCalls : ∀ c ∈ calls, c.IsSafe) :
    (q.build calls).IsSound := by
  induction calls generalizing q with
  | nil => exact h
  | cons c calls ih =>
    obtain ⟨hHead, hTail⟩ := List.forall_mem_cons.1 hCalls
    exact ih (h.apply hHead) hTail

/-! ### What calls leave in a query -/

/-- Requires a column of the rows to equal a value. -/
def eqPredicate (name column : String) : Value → Predicate
  | .null => .plain (columnOf name column ++ " IS NULL")
  | v => .bound (columnOf name column ++ " =") v

theorem requiringEq_eq (q : ScopedSelect) (column : String) (v : Value) :
    q.requiringEq column v = q.requiring (eqPredicate q.name column v) := by
  cases v <;> rfl

namespace Call

def output? : Call → Option String
  | output sql => some sql
  | _ => none

def join? : Call → Option String
  | join sql => some sql
  | _ => none

/-- What the call requires of rows with this name. -/
def predicate? (name : String) : Call → Option Predicate
  | require p => some p
  | requireEq column v => some (eqPredicate name column v)
  | _ => none

def group? : Call → Option String
  | group sql => some sql
  | _ => none

def order? : Call → Option String
  | order sql direction => some (sql ++ " " ++ directionText direction)
  | _ => none

def limit? : Call → Option Nat
  | limit n => some n
  | _ => none

/-- The value that is bound for the call. -/
def bound? : Call → Option Value
  | require (.bound _ v) | requireEq _ v => if v.isNull then none else some v
  | _ => none

end Call

/-- The calls that add to one part of a query. -/
def callsFor (part : Part) (calls : List Call) : List Call := calls.filter (·.part = part)

/-- The last limit that is given. -/
def lastLimit (calls : List Call) : Option Nat := (calls.filterMap Call.limit?).getLast?

/-- Each part of a query comes from the calls for that part. -/
theorem build_eq (q : ScopedSelect) (calls : List Call) : q.build calls =
    { q with
      select := q.select ++ calls.filterMap Call.output?
      joins := q.joins ++ calls.filterMap Call.join?
      predicates := q.predicates ++ calls.filterMap (Call.predicate? q.name)
      softDeleteColumn := if (callsFor .deleted calls).isEmpty then q.softDeleteColumn else none
      groupBy := q.groupBy ++ calls.filterMap Call.group?
      order := q.order ++ calls.filterMap Call.order?
      limit := (lastLimit calls).or q.limit } := by
  induction calls using List.reverseRecOn with
  | nil => simp [build, callsFor, lastLimit]
  | append_singleton calls c ih =>
    have hStep : q.build (calls ++ [c]) = (q.build calls).apply c := List.foldl_concat ..
    rw [hStep, ih]
    cases c with
    | requireEq column v =>
      rw [apply, requiringEq_eq]
      simp [requiring, callsFor, lastLimit, Call.output?, Call.join?, Call.predicate?,
        Call.group?, Call.order?, Call.limit?, Call.part]
    | _ =>
      simp [apply, selecting, joining, requiring, withDeleted, groupingBy, orderingBy, limitingTo,
        callsFor, lastLimit, Call.output?, Call.join?, Call.predicate?, Call.group?, Call.order?,
        Call.limit?, Call.part]

/-- A call adds to its own part only. -/
theorem Call.eq_none_of_part (name : String) (c : Call) :
    (c.part ≠ .output → c.output? = none) ∧ (c.part ≠ .joins → c.join? = none) ∧
      (c.part ≠ .predicates → c.predicate? name = none) ∧ (c.part ≠ .groups → c.group? = none) ∧
      (c.part ≠ .order → c.order? = none) ∧ (c.part ≠ .limit → c.limit? = none) := by
  cases c <;> simp [part, output?, join?, predicate?, group?, order?, limit?]

theorem filterMap_callsFor {α : Type} {f : Call → Option α} {part : Part}
    (hf : ∀ c, c.part ≠ part → f c = none) (calls : List Call) :
    (callsFor part calls).filterMap f = calls.filterMap f := by
  rw [callsFor, List.filterMap_filter]
  refine List.filterMap_congr fun c _ => ?_
  by_cases hPart : c.part = part
  · simp [hPart]
  · simp [hPart, hf c hPart]

/-- Only the order of the calls for one part matters. -/
theorem build_eq_of_callsFor {calls calls' : List Call}
    (h : ∀ part, callsFor part calls = callsFor part calls') : q.build calls = q.build calls' := by
  have hSame : ∀ {α : Type} {f : Call → Option α} (part : Part),
      (∀ c, c.part ≠ part → f c = none) → calls.filterMap f = calls'.filterMap f := fun part hf => by
    rw [← filterMap_callsFor hf calls, h, filterMap_callsFor hf calls']
  have hOwn := Call.eq_none_of_part q.name
  have hOutput := hSame .output fun c => (hOwn c).1
  have hJoins := hSame .joins fun c => (hOwn c).2.1
  have hPredicates := hSame .predicates fun c => (hOwn c).2.2.1
  have hGroups := hSame .groups fun c => (hOwn c).2.2.2.1
  have hOrder := hSame .order fun c => (hOwn c).2.2.2.2.1
  have hLimit := hSame .limit fun c => (hOwn c).2.2.2.2.2
  rw [build_eq, build_eq, lastLimit, lastLimit, h .deleted, hOutput, hJoins, hPredicates, hGroups,
    hOrder, hLimit]

/-! ### Bound values -/

theorem values_predicates (predicates : List Predicate) : Statement.values
      (predicates.flatMap fun p => .text " AND (" :: predicateSql p ++ [.text ")"]) =
    predicates.filterMap Predicate.bound? := by
  induction predicates with
  | nil => rfl
  | cons p rest ih =>
    have hValues : Statement.values (.text " AND (" :: predicateSql p ++ [.text ")"]) =
        p.bound?.toList := by
      cases p with
      | plain sql => rfl
      | bound sql v => cases v <;> rfl
    rw [List.flatMap_cons, Statement.values_append, hValues, ih]
    cases hBound : p.bound? <;> simp [hBound]

/-- A query binds its tenant, the values of its predicates and its limit. -/
theorem values_statement (q : ScopedSelect) : q.statement.values =
    .ofTenant q.tenant :: (q.predicates.filterMap Predicate.bound? ++
      (q.limit.map Value.ofNat).toList) := by
  have hClause : ∀ (b : Bool) (x : String),
      Statement.values (if b then [] else [.text x]) = [] := by
    intro b x
    cases b <;> rfl
  rw [statement, Statement.values_append, Statement.values_append, Statement.values_append,
    Statement.values_append, values_predicates, hClause, hClause, List.append_nil, List.append_nil]
  cases q.softDeleteColumn <;> cases q.limit <;> rfl

theorem bound?_predicate? (name : String) (c : Call) :
    (c.predicate? name).bind Predicate.bound? = c.bound? := by
  cases c with
  | require p => cases p <;> rfl
  | requireEq column v => cases v <;> rfl
  | _ => rfl

/-! ## Confined queries -/

theorem isSound_ofTable {table : Table} {name : String} {tenant : TenantId}
    (h : ofTable table name tenant = .ok q) :
    q.IsSound ∧ q = ⟨table.name, name, table.tenantColumn, tenant, table.softDeleteColumn, [], [],
      [], [], [], none⟩ := by
  rw [ofTable] at h
  split at h
  · next hName =>
    obtain rfl := Except.ok.inj h
    exact ⟨⟨hName, by simp, by simp, by simp, by simp, by simp⟩, rfl⟩
  · cases h

theorem lastLimit_lt {calls : List Call} (hCalls : ∀ c ∈ calls, c.IsSafe) {n : Nat}
    (h : lastLimit calls = some n) : n < 2 ^ 64 := by
  obtain ⟨c, hc, hLimit⟩ := List.mem_filterMap.1 (List.mem_of_getLast? h)
  have hSafe := hCalls c hc
  cases c with
  | limit m => exact Option.some.inj hLimit ▸ hSafe
  | _ => cases hLimit

/-- Whatever callers add to a query, and in whatever order, it asks first for the tenant, then, if
rows are kept and callers do not want the deleted ones, that a row is not deleted, and then for each
predicate in its own parentheses. Its placeholders are numbered from left to right and stand for the
tenant, the values of the predicates that are not `null`, and the limit, as the signed integer with
the bits of it. Calls for different parts of a query may change places. -/
theorem tenant_comes_first {table : Table} {name : String} {tenant : TenantId}
    (hQuery : ofTable table name tenant = .ok q) {calls : List Call}
    (hCalls : ∀ c ∈ calls, c.IsSafe) :
    (∃ tokens, read (q.build calls).statement.text = some tokens ∧
      conditionOf (behindBase (settled tokens)) =
        [[.name name, .symbol ".", .name table.tenantColumn, .symbol "=", .placeholder 1] ::
          Shape.numberedEach 2
            ((if callsFor .deleted calls = [] then table.softDeleteColumn else none).toList.map
                (fun column => Shape.field name column ++ Shape.words ["IS", "NULL"]) ++
              (calls.filterMap (Call.predicate? name)).map
                fun p => grouped (settled (Shape.predicate p)))] ∧
      placeholders tokens = List.range' 1 (q.build calls).statement.binds.length) ∧
    (q.build calls).statement.binds =
      (.ofTenant tenant :: (calls.filterMap Call.bound? ++
        ((lastLimit calls).map Value.ofNat).toList)).map Statement.sent ∧
    (∀ n, lastLimit calls = some n →
      (q.build calls).statement.integerAt (q.build calls).statement.binds.length =
          some (signed n) ∧
        (signed n = n ↔ n < 2 ^ 63)) ∧
    ∀ calls', (∀ part, callsFor part calls' = callsFor part calls) →
      (q.build calls').statement = (q.build calls).statement := by
  obtain ⟨hStart, rfl⟩ := isSound_ofTable hQuery
  have hSound := hStart.build hCalls
  have hBuild := build_eq ⟨table.name, name, table.tenantColumn, tenant, table.softDeleteColumn,
    [], [], [], [], [], none⟩ calls
  refine ⟨⟨_, hSound.reads.read_eq 1, ?_, ?_⟩, ?_, ?_, ?_⟩
  · rw [conditionOf_query hSound, guardTests, predicateTests, hBuild]
    cases hDeleted : callsFor .deleted calls <;> rfl
  · rw [Shape.placeholders_numbered, ← hSound.reads.values_eq, Statement.binds_eq, List.length_map]
  · have hValues : (calls.filterMap (Call.predicate? name)).filterMap Predicate.bound? =
        calls.filterMap Call.bound? := by
      rw [List.filterMap_filterMap]
      exact congrArg (List.filterMap · calls) (funext (bound?_predicate? name))
    rw [Statement.binds_eq, values_statement, hBuild]
    simp only [List.nil_append, hValues, Option.or_none]
  · intro n hLimit
    have hSmall : n < 2 ^ 64 := lastLimit_lt hCalls hLimit
    refine ⟨(statement_of_limit (by rw [hBuild, hLimit]; rfl) hSmall).2, ?_⟩
    rw [signed]
    split <;> omega
  · intro calls' hSame
    rw [build_eq_of_callsFor hSame]

end ScopedSelect

end Sql

namespace Jobs

open Sql ScopedSelect

/-- Some of what a caller may ask of jobs. -/
def calls : List Call :=
  [.require (.plain "true or j.x"), .join "JOIN p ON p.x = j.x", .requireEq "kind" .null,
    .output "j.id", .requireEq "status" (.text "NEW"), .limit 5]

/-- A job of another tenant and a deleted one stay out, whatever else the caller asks. -/
theorem caller_confined :
    let q : ScopedSelect :=
      ⟨"jobs", "j", "tenant_id", tenant, some "gone", [], [], [], [], [], none⟩
    let asked := (q.build calls).statement
    (∃ tokens, read asked.text = some tokens ∧
      Token.conditionOf (Token.behindBase (Token.settled tokens)) =
        [[[.name "j", .symbol ".", .name "tenant_id", .symbol "=", .placeholder 1],
          [.name "j", .symbol ".", .name "gone", .word "IS", .word "NULL"],
          [.symbol "(", .word "TRUE", .word "OR", .name "j", .symbol ".", .word "X", .symbol ")"],
          [.symbol "(", .name "j", .symbol ".", .name "kind", .word "IS", .word "NULL",
            .symbol ")"],
          [.symbol "(", .name "j", .symbol ".", .name "status", .symbol "=", .placeholder 2,
            .symbol ")"]]]) ∧
      asked.binds = [.ofTenant tenant, .text "NEW", .int 5] ∧
      asked.integerAt 3 = some 5 := by
  intro q asked
  have hQuery : ofTable ⟨"jobs", "id", "tenant_id", some "gone", []⟩ "j" tenant = .ok q := rfl
  have hSafe : ∀ c ∈ calls, c.IsSafe := by decide
  obtain ⟨⟨tokens, hRead, hCondition, -⟩, hBinds, hLimit, -⟩ := tenant_comes_first hQuery hSafe
  refine ⟨⟨tokens, hRead, hCondition.trans ?_⟩, hBinds.trans ?_, ?_⟩
  · decide +kernel
  · rfl
  · exact (hLimit 5 rfl).1

/-- The largest limit is bound as `-1`. -/
theorem largest_limit_sent :
    let largest : Call := .limit (2 ^ 64 - 1)
    let asked := (inSql.build [largest]).statement
    largest.IsSafe ∧
      asked.text = "SELECT j.* FROM \"jobs\" AS j WHERE j.\"tenant_id\" = $1 LIMIT $2" ∧
      asked.binds.length = 2 ∧ asked.integerAt 2 = some (-1) := by
  intro largest asked
  have hSent := statement_of_limit (q := inSql.build [largest]) (n := 2 ^ 64 - 1) rfl (by decide)
  exact ⟨by decide, by decide +kernel, rfl, hSent.2⟩

end Jobs

end Tenancy
