import Tenancy.Proofs.Operation
import Tenancy.Proofs.Sql.Conditions

/-!
# Statements for all requests

A `Request` is what a backend asks the server for. Its statement spells the shape of the request, so
whatever characters names have, each of them is one token; what is no name is fixed, or a
placeholder. Another request with the same names and the same outline has the same text, as values
are not part of it. What is asked of the rows begins with the tenant in every request that reads or
changes stored rows.
-/

namespace Tenancy

/-! ## Outlines -/

/-- A value of the same kind as far as a statement shows: it is `null`, or text, or neither. -/
def Value.outline : Value → Value
  | .null => .null
  | .text _ => .text ""
  | _ => .bool false

def Test.outline : Test → Test
  | .eq v => .eq v.outline
  | .ne v => .ne v.outline
  | .lt v => .lt v.outline
  | .le v => .le v.outline
  | .gt v => .gt v.outline
  | .ge v => .ge v.outline
  | .oneOf vs => .oneOf (vs.map Value.outline)
  | .isNull => .isNull
  | .isNotNull => .isNotNull

def Condition.outline (c : Condition) : Condition := ⟨c.name, c.test.outline⟩

def Assignment.outline (a : Assignment) : Assignment := ⟨a.name, a.value.outline⟩

def Selection.outline (s : Selection) : Selection :=
  ⟨s.conditions.map Condition.outline, s.order, s.limit.map fun _ => 0, s.offset.map fun _ => 0⟩

/-- The same claim at another time for another number of rows. -/
def Claim.outline (c : Claim) : Claim :=
  { c with
    pending := c.pending.outline, inProgress := c.inProgress.outline, limit := 0, now := default }

namespace Sql

/-- What is asked of a server about one table. -/
inductive Request where
  | select (selection : Selection)
  | count (conditions : List Condition)
  | insert (columns : List String) (rows : List Row) (upsert : Bool)
  | update (conditions : List Condition) (assignments : List Assignment)
  | delete (conditions : List Condition)
  | claim (claim : Claim)

namespace Request

def statement (table : Table) (tenant : TenantId) : Request → Statement
  | .select s => Sql.select table tenant s
  | .count conditions => Sql.count table tenant conditions
  | .insert columns rows upsert => Sql.insert table columns rows upsert
  | .update conditions all => Sql.update table tenant conditions all
  | .delete conditions => Sql.delete table tenant conditions
  | .claim c => Sql.claim table tenant c

def shape (table : Table) (tenant : TenantId) : Request → Shape
  | .select s => Shape.select table tenant s
  | .count conditions => Shape.count table tenant conditions
  | .insert columns rows upsert => Shape.insert table columns rows upsert
  | .update conditions all => Shape.update table tenant conditions all
  | .delete conditions => Shape.delete table tenant conditions
  | .claim c => Shape.claim table tenant c

/-- The request without its values. -/
def outline : Request → Request
  | .select s => .select s.outline
  | .count conditions => .count (conditions.map Condition.outline)
  | .insert columns _ upsert => .insert columns [] upsert
  | .update conditions all =>
    .update (conditions.map Condition.outline) (all.map Assignment.outline)
  | .delete conditions => .delete (conditions.map Condition.outline)
  | .claim c => .claim c.outline

/-- The tokens of the statement that is confined to a tenant: of a claim, the query for its
candidates; there is none in an insertion. -/
def confined? (tokens : List (Token Nat)) : Request → Option (List (Token Nat))
  | .insert _ _ _ => none
  | .claim _ => some (Token.firstGroup tokens)
  | _ => some tokens

/-- What is asked of a row besides its tenant. -/
def tests (table : Table) : Request → List Shape
  | .select s => s.conditions.map (Shape.condition table)
  | .count conditions | .update conditions _ | .delete conditions =>
    conditions.map (Shape.condition table)
  | .insert _ _ _ => []
  | .claim c => Shape.claimTests table c

theorem spells (table : Table) (tenant : TenantId) (r : Request) :
    Spells (r.statement table tenant) (r.shape table tenant) := by
  cases r with
  | select s => exact .select table tenant s
  | count conditions => exact .count table tenant conditions
  | insert columns rows upsert => exact .insert table columns rows upsert
  | update conditions all => exact .update table tenant conditions all
  | delete conditions => exact .delete table tenant conditions
  | claim c => exact .claim table tenant c

end Request

/-! ## No value is part of the text -/

namespace Statement

/-- The statement with all values replaced. -/
def erased (s : Statement) : Statement :=
  s.map fun
    | .text sql => .text sql
    | .bound _ => .bound .null

theorem textFrom_erased (n : Nat) (s : Statement) : textFrom n s.erased = textFrom n s := by
  induction s generalizing n with
  | nil => rfl
  | cons piece s ih =>
    cases piece with
    | text sql => exact congrArg (sql ++ ·) (ih n)
    | bound v => exact congrArg ("$" ++ toString n ++ ·) (ih (n + 1))

@[simp] theorem erased_nil : erased [] = [] := rfl

@[simp] theorem erased_text (sql : String) (s : Statement) :
    erased (.text sql :: s) = .text sql :: s.erased := rfl

@[simp] theorem erased_bound (v : Value) (s : Statement) :
    erased (.bound v :: s) = .bound .null :: s.erased := rfl

@[simp] theorem erased_append (s t : Statement) : erased (s ++ t) = s.erased ++ t.erased := by
  simp [erased]

theorem erased_flatMap {α : Type} (f : α → Statement) (xs : List α) :
    erased (xs.flatMap f) = xs.flatMap fun x => (f x).erased := by
  simp [erased, List.map_flatMap]

theorem erased_joined (between : String) (ss : List Statement) :
    erased (joined between ss) = joined between (ss.map erased) := by
  cases ss with
  | nil => rfl
  | cons s ss =>
    rw [List.map_cons, joined_cons, joined_cons, erased_append, erased_flatMap, List.flatMap_map]
    rfl

end Statement

open Statement

theorem erased_columnValue (table : Table) (column : String) (v : Value) :
    (columnValue table column v.outline).erased = (columnValue table column v).erased := by
  cases v <;> rfl

theorem erased_condition (table : Table) (c : Condition) :
    (condition rowAlias table c.outline).erased = (condition rowAlias table c).erased := by
  obtain ⟨column, test⟩ := c
  cases test with
  | isNull => rfl
  | isNotNull => rfl
  | oneOf vs =>
    cases vs with
    | nil => rfl
    | cons v vs =>
      simp [condition, Condition.outline, Test.outline, erased_joined, erased_columnValue,
        Function.comp_def]
  | eq v | ne v | lt v | le v | gt v | ge v =>
    simp [condition, Condition.outline, Test.outline, comparison, erased_columnValue]

theorem erased_scope (table : Table) (tenant tenant' : TenantId) (conditions : List Condition) :
    (scope rowAlias table tenant' (conditions.map Condition.outline)).erased =
      (scope rowAlias table tenant conditions).erased := by
  simp [scope, erased_flatMap, List.flatMap_map, erased_condition]

theorem erased_assignments (table : Table) (all : List Assignment) :
    erased (joined ", " ((all.map Assignment.outline).map fun a =>
      .text (quoteName a.name ++ " = ") :: columnValue table a.name a.value)) =
    erased (joined ", " (all.map fun a =>
      .text (quoteName a.name ++ " = ") :: columnValue table a.name a.value)) := by
  simp [erased_joined, Function.comp_def, Assignment.outline, erased_columnValue]

theorem erased_candidates (table : Table) (tenant tenant' : TenantId) (c : Claim) :
    (candidates table tenant' c.outline).erased = (candidates table tenant c).erased := by
  have hScope := erased_scope table tenant tenant' []
  simp only [List.map_nil] at hScope
  simp [candidates, Claim.outline, hScope, erased_columnValue, erased_flatMap, due, rangeValue]

/-- The text of a statement is that of its outline, under any tenant. -/
theorem Request.text_outline (table : Table) (tenant tenant' : TenantId) (r : Request) :
    (r.outline.statement table tenant').text = (r.statement table tenant).text := by
  suffices hErased :
      (r.outline.statement table tenant').erased = (r.statement table tenant).erased by
    rw [text, text, ← textFrom_erased, hErased, textFrom_erased]
  cases r with
  | select s =>
    obtain ⟨conditions, order, limit, offset⟩ := s
    have hScope := erased_scope table tenant tenant' conditions
    cases limit <;> cases offset <;>
      simp [outline, statement, Sql.select, Selection.outline, hScope, rangeValue]
  | count conditions => simp [outline, statement, Sql.count, erased_scope table tenant tenant']
  | insert columns rows upsert => simp [outline, statement, Sql.insert]
  | update conditions all =>
    simp only [outline, statement, Sql.update, erased_append, erased_text,
      erased_scope table tenant tenant', erased_assignments, List.isEmpty_map]
  | delete conditions => simp [outline, statement, Sql.delete, erased_scope table tenant tenant']
  | claim c =>
    have hQuery := erased_candidates table tenant tenant' c
    obtain ⟨⟨status, pending, inProgress, createdAt, next, schedule, claimedAt⟩, limit, now⟩ := c
    cases claimedAt <;>
      simpa [outline, statement, Sql.claim, Claim.outline, erased_columnValue] using hQuery

/-! ## The tenant comes first -/

namespace Request

open Token

variable {table : Table} {tenant : TenantId}

/-- The query for the candidates stands in the first parentheses of a claim. -/
theorem exists_claim (table : Table) (tenant : TenantId) (c : Claim) :
    ∃ before rest : Shape, placeholders before = [] ∧
      Shape.claim table tenant c = before ++ Shape.candidates table tenant c ++ rest ∧
      firstGroup ((Shape.claim table tenant c).numbered 1) =
        (Shape.candidates table tenant c).numbered 1 := by
  let before := Shape.words ["WITH", candidatesName, "AS"]
  have hClosed := Shape.closed_numbered (Shape.closed_candidates table tenant c) 1
  obtain ⟨rest, hRest⟩ : ∃ rest, Shape.claim table tenant c =
      before ++ grouped (Shape.candidates table tenant c) ++ rest :=
    ⟨_, by simp only [Shape.claim, List.append_assoc]; rfl⟩
  refine ⟨before ++ [.symbol "("], .symbol ")" :: rest, rfl, by simp [hRest, grouped], ?_⟩
  simp only [hRest, Shape.numbered_append, Shape.numbered_grouped]
  exact firstGroup_grouped hClosed (Shape.isPlain_numbered (by decide) 1) _

/-- Each confined query of a request has its place among the tokens of the statement. -/
theorem exists_confined {r : Request} {query : List (Token Nat)}
    (h : query ∈ r.confined? ((r.shape table tenant).numbered 1)) :
    ∃ before query' after : Shape, placeholders before = [] ∧
      Shape.IsConfined table tenant (r.tests table) query' ∧
      r.shape table tenant = before ++ query' ++ after ∧ query = query'.numbered 1 := by
  cases r with
  | insert columns rows upsert => cases h
  | claim c =>
    obtain rfl := Option.mem_some.1 h
    obtain ⟨before, rest, hBefore, hShape, hGroup⟩ := exists_claim table tenant c
    exact ⟨before, _, rest, hBefore, Shape.isConfined_candidates c, hShape, hGroup⟩
  | select s =>
    obtain rfl := Option.mem_some.1 h
    exact ⟨[], _, [], rfl, Shape.isConfined_select s, by simp [shape], rfl⟩
  | count conditions =>
    obtain rfl := Option.mem_some.1 h
    exact ⟨[], _, [], rfl, Shape.isConfined_count conditions, by simp [shape], rfl⟩
  | update conditions all =>
    obtain rfl := Option.mem_some.1 h
    exact ⟨[], _, [], rfl, Shape.isConfined_update conditions all, by simp [shape], rfl⟩
  | delete conditions =>
    obtain rfl := Option.mem_some.1 h
    exact ⟨[], _, [], rfl, Shape.isConfined_delete conditions, by simp [shape], rfl⟩

theorem closed_tests (r : Request) :
    ∀ part ∈ r.tests table, Closed Shape.isStructural part := by
  have hConditions : ∀ conditions : List Condition,
      ∀ part ∈ conditions.map (Shape.condition table), Closed Shape.isStructural part :=
    fun _ => List.forall_mem_map.2 fun c _ => Shape.closed_condition table c
  cases r with
  | insert columns rows upsert => exact List.forall_mem_nil _
  | claim c => exact Shape.closed_claimTests table c
  | _ => exact hConditions _

end Request

/-! ## The parts of a table name -/

theorem pieces_ne_nil (separator : Char) (cs : List Char) : Text.pieces separator cs ≠ [] := by
  cases cs with
  | nil => simp [Text.pieces]
  | cons c rest =>
    rw [Text.pieces]
    split
    · simp
    · split <;> simp

/-- The parts of a table name are those between its dots. -/
theorem intercalate_pieces (cs : List Char) :
    ['.'].intercalate (Text.pieces '.' cs) = cs ∧ ∀ part ∈ Text.pieces '.' cs, '.' ∉ part := by
  induction cs with
  | nil => simp [Text.pieces]
  | cons c rest ih =>
    rw [Text.pieces]
    cases hPieces : Text.pieces '.' rest with
    | nil => exact absurd hPieces (pieces_ne_nil '.' rest)
    | cons piece others =>
      rw [hPieces] at ih
      obtain ⟨hJoined, hDots⟩ := ih
      by_cases hc : c = '.'
      · rw [if_pos hc, List.intercalate_cons_cons, hJoined, List.forall_mem_cons]
        exact ⟨by simp [hc], by simp, hDots⟩
      · rw [if_neg hc, List.forall_mem_cons]
        obtain ⟨hPiece, hOthers⟩ := List.forall_mem_cons.1 hDots
        refine ⟨?_, by simp [Ne.symm hc, hPiece], hOthers⟩
        rw [← hJoined]
        cases others with
        | nil => simp
        | cons next others => simp [List.intercalate_cons_cons]

theorem intercalate_tableParts (name : String) :
    ".".intercalate (tableParts name) = name ∧ ∀ part ∈ tableParts name, '.' ∉ part.toList := by
  obtain ⟨hJoined, hDots⟩ := intercalate_pieces name.toList
  refine ⟨String.toList_injective ?_, ?_⟩
  · rw [String.toList_intercalate, tableParts, List.map_map]
    simpa [Function.comp_def] using hJoined
  · intro part hPart
    obtain ⟨piece, hPiece, rfl⟩ := List.mem_map.1 hPart
    simpa using hDots piece hPiece

/-! ## The statement -/

/-- **Every statement is read as the shape of its request.** For arbitrary names and values:
1. The tokens of the text are those of the shape, in which each name is one token, a table name one
for each of the parts between its dots.
2. The placeholders are numbered from one on without a gap, as many as there are values to bind, and
the values are bound in their order.
3. The text is that of the outline of the request, under whatever tenant: it depends on no value but
for whether it is `null` or text, and on no list of values but for its length.
4. What a confined query asks of a row is a conjunction that starts with the test that the tenant
column equals the tenant of the request; all other conditions are joined to it by `AND`, and there
is no `OR` outside their parentheses. -/
theorem lex_statement (table : Table) (tenant : TenantId) (r : Request) :
    (lex (r.statement table tenant).text = some ((r.shape table tenant).numbered 1) ∧
      ".".intercalate (tableParts table.name) = table.name ∧
        ∀ part ∈ tableParts table.name, '.' ∉ part.toList) ∧
    (Token.placeholders ((r.shape table tenant).numbered 1) =
        List.range' 1 (r.statement table tenant).binds.length ∧
      (r.statement table tenant).binds =
        (Token.placeholders (r.shape table tenant)).map Statement.sent) ∧
    (∀ tenant', (r.statement table tenant).text = (r.outline.statement table tenant').text) ∧
    ∀ query ∈ r.confined? ((r.shape table tenant).numbered 1),
      ∃ k, (r.statement table tenant).binds[k]? = some (.ofTenant tenant) ∧
        Token.conditionOf query =
          [[.word rowAlias, .symbol ".", .name table.tenantColumn, .symbol "=",
              .placeholder (k + 1)] :: Shape.numberedEach (k + 2) (r.tests table)] := by
  have hSpells := r.spells table tenant
  have hBinds : (r.statement table tenant).binds =
      (Token.placeholders (r.shape table tenant)).map Statement.sent := by
    rw [Statement.binds_eq, hSpells.values_eq]
  refine ⟨⟨hSpells.lex_eq 1, intercalate_tableParts table.name⟩, ⟨?_, hBinds⟩,
    fun tenant' => (r.text_outline table tenant tenant').symm, ?_⟩
  · rw [hBinds, List.length_map, Shape.placeholders_numbered]
  · intro query hQuery
    obtain ⟨before, query', after, hBefore, hConfined, hShape, rfl⟩ :=
      Request.exists_confined hQuery
    obtain ⟨leading, following, hPlaceholders, hCondition⟩ :=
      hConfined.conditionOf_eq r.closed_tests
    refine ⟨leading.length, ?_, hCondition⟩
    rw [hBinds, hShape, Token.placeholders_append, Token.placeholders_append, hBefore,
      hPlaceholders]
    simp [Value.ofTenant, Statement.sent]

/-- A count on a table whose names have quotes and dots in them, with a condition on a text that
looks like SQL. -/
theorem lex_count_of_quotes :
    let table : Table := ⟨"app.\"jobs\"", "id", "tenant's", none, []⟩
    let r : Request := .count [⟨"a.b", .oneOf []⟩, ⟨"\" OR $1", .gt (.text "' OR TRUE --")⟩]
    let tenant : TenantId := ⟨⟨1, by decide⟩⟩
    lex (r.statement table tenant).text = some [.word "SELECT", .word "COUNT", .symbol "(",
      .symbol "*", .symbol ")", .word "FROM", .name "app", .symbol ".", .name "\"jobs\"",
      .word "AS", .word "tg_row", .word "WHERE", .word "tg_row", .symbol ".", .name "tenant's",
      .symbol "=", .placeholder 1, .word "AND", .word "FALSE", .word "AND", .word "tg_row",
      .symbol ".", .name "\" OR $1", .symbol ">", .symbol "(", .word "jsonb_populate_record",
      .symbol "(", .word "NULL", .symbol "::", .name "app", .symbol ".", .name "\"jobs\"",
      .symbol ",", .word "jsonb_build_object", .symbol "(", .literal "\" OR $1", .symbol ",",
      .placeholder 2, .symbol "::", .word "text", .symbol ")", .symbol ")", .symbol ")",
      .symbol ".", .name "\" OR $1"] ∧
    ∀ query ∈ r.confined? ((r.shape table tenant).numbered 1),
      (Token.conditionOf query).map List.length = [3] := by
  intro table r tenant
  obtain ⟨⟨hLex, -⟩, -, -, hConfined⟩ := lex_statement table tenant r
  refine ⟨hLex.trans (by decide), fun query hQuery => ?_⟩
  obtain ⟨k, -, hCondition⟩ := hConfined query hQuery
  rw [hCondition]
  rfl

end Sql

end Tenancy
