import Tenancy.Proofs.Sql.Shape

/-!
# The shapes of all statements

Each kind of statement has one shape, which is put together from the shapes of its clauses. A clause
depends on names, on which values are `null` or text, and on how many values there are; a value
itself stands in it as a placeholder only.
-/

namespace Tenancy.Sql

open Lexing Token

/-- The parts of a table name. -/
def tableParts (table : String) : List String :=
  (Text.pieces '.' table.toList).map String.ofList

namespace Shape

def words (texts : List String) : Shape := texts.map .word

/-- A table name, which is one name for each of its parts. -/
def tableName (table : String) : Shape :=
  listed (.symbol ".") ((tableParts table).map fun part => [.name part])

/-- A table with a name for its rows. -/
def named (table row : String) : Shape := tableName table ++ words ["AS", row]

def columnOf (row column : String) : Shape := [.word row, .symbol ".", .name column]

def names (columns : List String) : Shape :=
  listed (.symbol ",") (columns.map fun column => [.name column])

/-- The row as a document. -/
def document (row : String) : Shape := call "to_jsonb" [[.word row]] ++ words ["AS", documentColumn]

/-! ## Values and conditions -/

def value : Value → Shape
  | .null => [.word "NULL"]
  | v => [.placeholder v]

def columnValue (table : Table) (column : String) : Value → Shape
  | .text s =>
    grouped (call "jsonb_populate_record"
      [[.word "NULL", .symbol "::"] ++ tableName table.name,
        call "jsonb_build_object"
          [[.literal column], [.placeholder (.text s), .symbol "::", .word "text"]]]) ++
      [.symbol ".", .name column]
  | v => value v

def comparison (table : Table) (column symbol : String) (v : Value) : Shape :=
  columnOf rowAlias column ++ .symbol symbol :: columnValue table column v

def condition (table : Table) (c : Condition) : Shape :=
  match c.test with
  | .isNull => columnOf rowAlias c.name ++ words ["IS", "NULL"]
  | .isNotNull => columnOf rowAlias c.name ++ words ["IS", "NOT", "NULL"]
  | .oneOf [] => [.word "FALSE"]
  | .oneOf vs =>
    columnOf rowAlias c.name ++
      .word "IN" :: grouped (listed (.symbol ",") (vs.map (columnValue table c.name)))
  | .eq v => comparison table c.name "=" v
  | .ne v => comparison table c.name "<>" v
  | .lt v => comparison table c.name "<" v
  | .le v => comparison table c.name "<=" v
  | .gt v => comparison table c.name ">" v
  | .ge v => comparison table c.name ">=" v

/-- The test that a row belongs to the tenant. -/
def tenantTest (row : String) (table : Table) (tenant : TenantId) : Shape :=
  columnOf row table.tenantColumn ++ [.symbol "=", .placeholder (.ofTenant tenant)]

/-- The rows for which all of the conditions hold. -/
def conjunction (conditions : List Shape) : Shape :=
  .word "WHERE" :: listed (.word "AND") conditions

/-! ## Clauses -/

def sortKey (key : SortKey) : Shape :=
  columnOf rowAlias key.name ++ [.word (directionText key.direction)]

def orderBy (keys : List SortKey) : Shape :=
  if keys.isEmpty then [] else words ["ORDER", "BY"] ++ listed (.symbol ",") (keys.map sortKey)

/-- A limit or an offset. -/
def range (keyword : String) : Option Nat → Shape
  | some n => [.word keyword, .placeholder (.ofNat n)]
  | none => []

def assignment (table : Table) (a : Assignment) : Shape :=
  [.name a.name, .symbol "="] ++ columnValue table a.name a.value

/-- The assignments of an update; one without any assigns the id to itself. -/
def assignments (table : Table) (all : List Assignment) : List Shape :=
  if all.isEmpty then [[.name table.idColumn, .symbol "="] ++ columnOf rowAlias table.idColumn]
  else all.map (assignment table)

/-- A column of the row that was to be inserted. -/
def excluded (column : String) : Shape := columnOf "EXCLUDED" column

/-- The columns that an upsert writes over those of the stored row. -/
def overwritten (table : Table) (columns : List String) : List String :=
  let others := columns.filter (· != table.idColumn)
  if others.isEmpty then [table.idColumn] else others

def onConflict (table : Table) (columns : List String) : Shape :=
  words ["ON", "CONFLICT"] ++ grouped [.name table.idColumn] ++ words ["DO", "UPDATE", "SET"] ++
    listed (.symbol ",") ((overwritten table columns).map fun column =>
      [.name column, .symbol "="] ++ excluded column) ++
    conjunction [columnOf rowAlias table.tenantColumn ++ .symbol "=" :: excluded table.tenantColumn]

def returning (row : String) : Shape := .word "RETURNING" :: document row

/-! ## Statements -/

def select (table : Table) (tenant : TenantId) (s : Selection) : Shape :=
  .word "SELECT" :: document rowAlias ++ .word "FROM" :: named table.name rowAlias ++
    conjunction (tenantTest rowAlias table tenant :: s.conditions.map (condition table)) ++
    orderBy s.order ++ range "LIMIT" s.limit ++ range "OFFSET" s.offset

def count (table : Table) (tenant : TenantId) (conditions : List Condition) : Shape :=
  .word "SELECT" :: call "COUNT" [[.symbol "*"]] ++ .word "FROM" :: named table.name rowAlias ++
    conjunction (tenantTest rowAlias table tenant :: conditions.map (condition table))

def insert (table : Table) (columns : List String) (rows : List Row) (upsert : Bool) : Shape :=
  words ["INSERT", "INTO"] ++ named table.name rowAlias ++ grouped (names columns) ++
    .word "SELECT" :: names columns ++
    .word "FROM" :: call "jsonb_populate_recordset"
      [[.word "NULL", .symbol "::"] ++ tableName table.name,
        [.placeholder (.json (.array (rows.map Row.toJson))), .symbol "::", .word "jsonb"]] ++
    (if upsert then onConflict table columns else []) ++ returning rowAlias

def update (table : Table) (tenant : TenantId) (conditions : List Condition)
    (all : List Assignment) : Shape :=
  .word "UPDATE" :: named table.name rowAlias ++
    .word "SET" :: listed (.symbol ",") (assignments table all) ++
    conjunction (tenantTest rowAlias table tenant :: conditions.map (condition table)) ++
    returning rowAlias

def delete (table : Table) (tenant : TenantId) (conditions : List Condition) : Shape :=
  words ["DELETE", "FROM"] ++ named table.name rowAlias ++
    conjunction (tenantTest rowAlias table tenant :: conditions.map (condition table))

/-- A column is `null` or not after the time of the claim. -/
def due (now : Instant) (column : String) : Shape :=
  grouped (columnOf rowAlias column ++ words ["IS", "NULL", "OR"] ++ columnOf rowAlias column ++
    [.symbol "<=", .placeholder (.timestamp now)])

/-- What a claim asks of a row besides its tenant. -/
def claimTests (table : Table) (c : Claim) : List Shape :=
  comparison table c.status "=" c.pending ::
    (c.nextAttemptAt :: c.schedule.toList).map (due c.now) ++
    table.softDeleteColumn.toList.map fun column =>
      columnOf rowAlias column ++ words ["IS", "NULL"]

def candidates (table : Table) (tenant : TenantId) (c : Claim) : Shape :=
  .word "SELECT" :: columnOf rowAlias table.idColumn ++ .word "FROM" :: named table.name rowAlias ++
    conjunction (tenantTest rowAlias table tenant :: claimTests table c) ++
    words ["ORDER", "BY"] ++
    listed (.symbol ",") [columnOf rowAlias c.createdAt ++ words ["ASC"],
      columnOf rowAlias table.idColumn ++ words ["ASC"]] ++
    range "LIMIT" c.limit ++ words ["FOR", "UPDATE", "SKIP", "LOCKED"]

/-- What a claim writes into the rows that it takes. -/
def claimAssignments (table : Table) (c : Claim) : List Shape :=
  assignment table ⟨c.status, c.inProgress⟩ ::
    c.claimedAt.toList.map fun column =>
      [.name column, .symbol "=", .placeholder (.timestamp c.now)]

def claim (table : Table) (tenant : TenantId) (c : Claim) : Shape :=
  words ["WITH", candidatesName, "AS"] ++ grouped (candidates table tenant c) ++
    .word "UPDATE" :: named table.name claimedAlias ++
    .word "SET" :: listed (.symbol ",") (claimAssignments table c) ++
    words ["FROM", candidatesName] ++
    conjunction [columnOf claimedAlias table.idColumn ++
        .symbol "=" :: columnOf candidatesName table.idColumn,
      tenantTest claimedAlias table tenant] ++
    returning claimedAlias

end Shape

/-! ## Statements have their shapes -/

/-! ### What stands between names and values -/

namespace Continues

variable {s : Statement} {shape : Shape}

theorem blank (h : Spells s shape) : Continues (.text " " :: s) shape :=
  fixed_cons " " [] (by decide) h

theorem comma (h : Spells s shape) : Continues (.text ", " :: s) (.symbol "," :: shape) :=
  fixed_cons ", " [.symbol ","] (by decide) h

theorem equals (h : Spells s shape) : Continues (.text " = " :: s) (.symbol "=" :: shape) :=
  fixed_cons " = " [.symbol "="] (by decide) h

theorem also (h : Spells s shape) : Continues (.text " AND " :: s) (.word "AND" :: shape) :=
  fixed_cons " AND " [.word "AND"] (by decide) h

theorem restricted (h : Spells s shape) :
    Continues (.text " WHERE " :: s) (.word "WHERE" :: shape) :=
  fixed_cons " WHERE " [.word "WHERE"] (by decide) h

theorem setting (h : Spells s shape) : Continues (.text " SET " :: s) (.word "SET" :: shape) :=
  fixed_cons " SET " [.word "SET"] (by decide) h

end Continues

namespace Spells

variable {table : Table} {tenant : TenantId}

/-- A column of a row whose name is a word. -/
theorem columnOf (row : String)
    (hRow : IsFixed (row ++ ".") [.word row, .symbol "."] ∧ EndsLoose (row ++ "."))
    (column : String) :
    Spells [.text (columnOf row column)] (Shape.columnOf row column) :=
  merge (fixed_cons _ _ hRow (name column))

theorem rowColumn (column : String) :
    Spells [.text (Sql.columnOf rowAlias column)] (Shape.columnOf rowAlias column) :=
  columnOf rowAlias (by decide) column

theorem tableName (table : String) :
    Spells [.text (quoteTable table)] (Shape.tableName table) := by
  rw [Shape.tableName, tableParts, List.map_map]
  exact intercalate (by decide) fun part _ => of_lex (lex_enclose .double part) rfl

/-- A table with a word as the name for its rows. -/
theorem named (row : String) (hRow : IsFixed row [.word row]) (table : String) :
    Spells [.text (quoteTable table), .text " AS ", .text row] (Shape.named table row) :=
  (tableName table).append (.fixed_cons " AS " [.word "AS"] (by decide) (fixed row _ hRow))

theorem names (columns : List String) :
    Spells [.text (", ".intercalate (columns.map quoteName))] (Shape.names columns) :=
  intercalate (by decide) fun column _ => name column

/-! ### Values and conditions -/

theorem value (v : Value) : Spells (Sql.value v) (Shape.value v) := by
  cases v with
  | null => exact fixed "NULL" _ (by decide)
  | _ => exact bound _

theorem columnValue (table : Table) (column : String) (v : Value) :
    Spells (Sql.columnValue table column v) (Shape.columnValue table column v) := by
  cases v with
  | text s =>
    -- from the back: the type of the value, the arguments, and the record
    have hField := Continues.fixed_cons "::text)))." [.symbol "::", .word "text", .symbol ")",
      .symbol ")", .symbol ")", .symbol "."] (by decide) (name column)
    have hValue := (bound (.text s)).append hField.merge
    have hLiteral := (literal column).append (Continues.comma hValue)
    have hTable := (tableName table.name).append (Continues.fixed_cons ", jsonb_build_object("
      [.symbol ",", .word "jsonb_build_object", .symbol "("] (by decide) hLiteral)
    have hRecord := fixed_cons "(jsonb_populate_record(NULL::" [.symbol "(",
      .word "jsonb_populate_record", .symbol "(", .word "NULL", .symbol "::"] (by decide) hTable
    refine of_eq (.merge (.merge (.merge (.merge hRecord)))) ?_
    simp [Shape.columnValue, grouped, call, listed]
  | null => exact value .null
  | _ => exact bound _

theorem comparison (table : Table) (column : String) {symbol : String}
    (hSymbol : IsFixed symbol [.symbol symbol]) (v : Value) :
    Spells (Sql.comparison rowAlias table column symbol v)
      (Shape.comparison table column symbol v) := by
  have hValue := (fixed symbol _ hSymbol).append (Continues.blank (columnValue table column v))
  have hColumn := (rowColumn column).append (Continues.blank hValue)
  exact .merge (.merge (.merge hColumn))

theorem condition (table : Table) (c : Condition) :
    Spells (Sql.condition rowAlias table c) (Shape.condition table c) := by
  obtain ⟨column, test⟩ := c
  have hColumn := rowColumn column
  cases test with
  | isNull => exact .merge (hColumn.append (.fixed " IS NULL" _ (by decide)))
  | isNotNull => exact .merge (hColumn.append (.fixed " IS NOT NULL" _ (by decide)))
  | oneOf vs =>
    cases vs with
    | nil => exact fixed "FALSE" [.word "FALSE"] (by decide)
    | cons v vs =>
      have hValues : Spells
          (Statement.joined ", " ((v :: vs).map (Sql.columnValue table column)))
          (listed (.symbol ",") ((v :: vs).map (Shape.columnValue table column))) :=
        joined (by decide) fun v _ => columnValue table column v
      have hClosed := hValues.append (.fixed ")" [.symbol ")"] (by decide))
      have hIn := hColumn.append
        (.fixed_cons " IN (" [.word "IN", .symbol "("] (by decide) hClosed)
      refine of_eq (.merge hIn) ?_
      simp [Shape.condition, grouped]
  | eq v => exact comparison table column (by decide) v
  | ne v => exact comparison table column (by decide) v
  | lt v => exact comparison table column (by decide) v
  | le v => exact comparison table column (by decide) v
  | gt v => exact comparison table column (by decide) v
  | ge v => exact comparison table column (by decide) v

/-! ### Clauses -/

theorem scope (table : Table) (tenant : TenantId) (conditions : List Condition) :
    Continues (Sql.scope rowAlias table tenant conditions)
      (Shape.conjunction
        (Shape.tenantTest rowAlias table tenant :: conditions.map (Shape.condition table))) := by
  have hTenant := (rowColumn table.tenantColumn).append
    (Continues.equals (bound (.ofTenant tenant)))
  have hWhere := Continues.restricted hTenant
  have hRest : Continues
      (conditions.flatMap fun c => .text " AND " :: Sql.condition rowAlias table c)
      (conditions.flatMap fun c => .word "AND" :: Shape.condition table c) :=
    .flatMap fun c _ => .also (condition table c)
  refine (hWhere.merge.merge.append hRest).of_eq ?_
  simp [Shape.conjunction, Shape.tenantTest, listed, List.flatMap_map]

theorem orderBy (keys : List SortKey) :
    Continues
      (if keys.isEmpty then [] else [.text (" ORDER BY " ++ ", ".intercalate (keys.map fun key =>
        Sql.columnOf rowAlias key.name ++ " " ++ directionText key.direction))])
      (Shape.orderBy keys) := by
  rw [Shape.orderBy]
  split
  · exact .nil
  · have hKey : ∀ key : SortKey, Spells
        [.text (Sql.columnOf rowAlias key.name ++ " " ++ directionText key.direction)]
        (Shape.sortKey key) := by
      intro key
      have hDirection : Spells [.text (directionText key.direction)]
          [.word (directionText key.direction)] := by
        cases key.direction <;> exact fixed _ _ (by decide)
      exact .merge (.merge ((rowColumn key.name).append (.blank hDirection)))
    exact .merge (.fixed_cons " ORDER BY " [.word "ORDER", .word "BY"] (by decide)
      (intercalate (by decide) fun key _ => hKey key))

theorem range (x keyword : String)
    (hText : IsFixed x [.word keyword] ∧ EndsLoose x ∧ StartsLoose x ∧ x ≠ "") (n : Option Nat) :
    Continues (match n with
      | some n => .text x :: rangeValue n
      | none => []) (Shape.range keyword n) := by
  cases n with
  | none => exact .nil
  | some n => exact .fixed_cons _ _ hText (bound (.ofNat n))

theorem assignment (table : Table) (a : Assignment) :
    Spells (.text (quoteName a.name ++ " = ") :: Sql.columnValue table a.name a.value)
      (Shape.assignment table a) :=
  .merge ((name a.name).append (.equals (columnValue table a.name a.value)))

theorem assignments (table : Table) (all : List Assignment) :
    Spells
      ((if all.isEmpty then
          [.text (quoteName table.idColumn ++ " = " ++ Sql.columnOf rowAlias table.idColumn)]
        else []) ++
        Statement.joined ", " (all.map fun a =>
          .text (quoteName a.name ++ " = ") :: Sql.columnValue table a.name a.value))
      (listed (.symbol ",") (Shape.assignments table all)) := by
  cases all with
  | nil =>
    have hSame : Spells [.text (quoteName table.idColumn ++ " = " ++
        Sql.columnOf rowAlias table.idColumn)] _ :=
      .merge (.merge ((name table.idColumn).append (.equals (rowColumn table.idColumn))))
    exact hSame.of_eq (by simp [Shape.assignments, listed])
  | cons a rest => exact joined (by decide) fun a _ => assignment table a

theorem onConflict (table : Table) (columns : List String) :
    Continues (Sql.onConflict table columns) (Shape.onConflict table columns) := by
  have hExcluded : ∀ column, Continues [.text " = EXCLUDED.", .text (quoteName column)] _ :=
    fun column => .fixed_cons " = EXCLUDED." [.symbol "=", .word "EXCLUDED", .symbol "."]
      (by decide) (name column)
  have hOverwrite : ∀ column, Spells
      [.text (quoteName column ++ " = EXCLUDED." ++ quoteName column)]
      ([.name column, .symbol "="] ++ Shape.excluded column) :=
    fun column => .merge (.merge ((name column).append (hExcluded column)))
  have hTenant := Continues.restricted
    ((rowColumn table.tenantColumn).append (hExcluded table.tenantColumn))
  have hSet : Spells
      [.text (", ".intercalate ((Shape.overwritten table columns).map fun column =>
        quoteName column ++ " = EXCLUDED." ++ quoteName column))]
      (listed (.symbol ",") ((Shape.overwritten table columns).map fun column =>
        [.name column, .symbol "="] ++ Shape.excluded column)) :=
    intercalate (by decide) fun column _ => hOverwrite column
  have hId := (name table.idColumn).append (.fixed_cons ") DO UPDATE SET "
    [.symbol ")", .word "DO", .word "UPDATE", .word "SET"] (by decide) (hSet.append hTenant))
  have hAll := Continues.fixed_cons " ON CONFLICT (" [.word "ON", .word "CONFLICT", .symbol "("]
    (by decide) hId
  refine .of_eq (.merge (.merge (.merge (.merge (.merge (.merge (.merge hAll))))))) ?_
  simp [Shape.onConflict, Shape.conjunction, Shape.words, Shape.excluded, Shape.columnOf, grouped,
    listed]

theorem due (now : Instant) (column : String) :
    Continues (Sql.due now column) (.word "AND" :: Shape.due now column) := by
  have hTime := (bound (.timestamp now)).append (.fixed ")" [.symbol ")"] (by decide))
  have hLate := (rowColumn column).append
    (.fixed_cons " <= " [.symbol "<="] (by decide) hTime)
  have hNull := (rowColumn column).append
    (.fixed_cons " IS NULL OR " [.word "IS", .word "NULL", .word "OR"] (by decide) hLate)
  have hDue := Continues.fixed_cons " AND (" [.word "AND", .symbol "("] (by decide) hNull
  refine .of_eq (.merge (.merge (.merge (.merge hDue)))) ?_
  simp [Shape.due, Shape.words, grouped]

/-- The rows that are not deleted, if deleted rows are kept. -/
theorem kept (column? : Option String) :
    Continues
      (match column? with
        | some column => [.text (" AND " ++ Sql.columnOf rowAlias column ++ " IS NULL")]
        | none => [])
      (column?.toList.flatMap fun column =>
        .word "AND" :: Shape.columnOf rowAlias column ++ Shape.words ["IS", "NULL"]) := by
  cases column? with
  | none => exact .nil
  | some column =>
    have hNull := (rowColumn column).append
      (.fixed " IS NULL" (Shape.words ["IS", "NULL"]) (by decide))
    refine .of_eq (.merge (.merge (.also hNull))) ?_
    simp

/-- The time of a claim, if rows have a column for it. -/
theorem stamp (now : Instant) (column? : Option String) :
    Continues
      (match column? with
        | some column => [.text (", " ++ quoteName column ++ " = "), .bound (.timestamp now)]
        | none => [])
      (column?.toList.flatMap fun column =>
        [.symbol ",", .name column, .symbol "=", .placeholder (.timestamp now)]) := by
  cases column? with
  | none => exact .nil
  | some column =>
    have hTime := (name column).append (.equals (bound (.timestamp now)))
    exact .merge (.merge (.comma hTime))

theorem returning (row : String)
    (hRow : IsFixed (" RETURNING to_jsonb(" ++ row ++ ") AS " ++ documentColumn)
        (Shape.returning row) ∧
      StartsLoose (" RETURNING to_jsonb(" ++ row ++ ") AS " ++ documentColumn) ∧
      " RETURNING to_jsonb(" ++ row ++ ") AS " ++ documentColumn ≠ "") :
    Continues [Sql.returning row] (Shape.returning row) :=
  .fixed _ _ hRow

/-! ### Statements -/

theorem select (table : Table) (tenant : TenantId) (s : Selection) :
    Spells (Sql.select table tenant s) (Shape.select table tenant s) := by
  have hHead := fixed_cons ("SELECT to_jsonb(" ++ rowAlias ++ ") AS " ++ documentColumn ++ " FROM ")
    (.word "SELECT" :: Shape.document rowAlias ++ [.word "FROM"]) (by decide)
    (named rowAlias (by decide) table.name)
  have hRows := hHead.merge.merge.merge.append (scope table tenant s.conditions)
  have hOrdered := hRows.append (orderBy s.order)
  have hLimited := hOrdered.append (range " LIMIT " "LIMIT" (by decide) s.limit)
  have hOffset := hLimited.append (range " OFFSET " "OFFSET" (by decide) s.offset)
  refine of_eq hOffset ?_
  simp [Shape.select]

theorem count (table : Table) (tenant : TenantId) (conditions : List Condition) :
    Spells (Sql.count table tenant conditions) (Shape.count table tenant conditions) := by
  have hHead := fixed_cons "SELECT COUNT(*) FROM "
    (.word "SELECT" :: call "COUNT" [[.symbol "*"]] ++ [.word "FROM"]) (by decide)
    (named rowAlias (by decide) table.name)
  refine of_eq (hHead.merge.merge.merge.append (scope table tenant conditions)) ?_
  simp [Shape.count]

theorem delete (table : Table) (tenant : TenantId) (conditions : List Condition) :
    Spells (Sql.delete table tenant conditions) (Shape.delete table tenant conditions) := by
  have hHead := fixed_cons "DELETE FROM " [.word "DELETE", .word "FROM"] (by decide)
    (named rowAlias (by decide) table.name)
  exact hHead.merge.merge.merge.append (scope table tenant conditions)

theorem update (table : Table) (tenant : TenantId) (conditions : List Condition)
    (all : List Assignment) :
    Spells (Sql.update table tenant conditions all) (Shape.update table tenant conditions all) := by
  have hSet := (named rowAlias (by decide) table.name).append
    (Continues.setting (assignments table all))
  have hHead := fixed_cons "UPDATE " [.word "UPDATE"] (by decide) hSet
  have hRows := hHead.merge.merge.merge.merge.append (scope table tenant conditions)
  refine of_eq (hRows.append (returning rowAlias (by decide))) ?_
  simp [Shape.update]

theorem candidates (table : Table) (tenant : TenantId) (c : Claim) :
    Spells (Sql.candidates table tenant c) (Shape.candidates table tenant c) := by
  -- the columns and the table
  have hHead := (rowColumn table.idColumn).append (.fixed_cons " FROM " [.word "FROM"] (by decide)
    (named rowAlias (by decide) table.name))
  have hSelect := fixed_cons "SELECT " [.word "SELECT"] (by decide) hHead
  -- the conditions
  have hPending : Continues
      (.text (" AND " ++ Sql.columnOf rowAlias c.status ++ " = ") ::
        Sql.columnValue table c.status c.pending)
      (.word "AND" :: Shape.comparison table c.status "=" c.pending) :=
    .merge (.merge (.also
      ((rowColumn c.status).append (.equals (columnValue table c.status c.pending)))))
  have hDue : Continues ((c.nextAttemptAt :: c.schedule.toList).flatMap (Sql.due c.now)) _ :=
    .flatMap fun column _ => due c.now column
  -- the order and the number of rows
  have hLimit := (rowColumn table.idColumn).append
    (.fixed_cons " ASC LIMIT " [.word "ASC", .word "LIMIT"] (by decide) (bound (.ofNat c.limit)))
  have hOrder := (rowColumn c.createdAt).append
    (.fixed_cons " ASC, " [.word "ASC", .symbol ","] (by decide) hLimit)
  have hOldest := Continues.fixed_cons " ORDER BY " [.word "ORDER", .word "BY"] (by decide) hOrder
  have hRows := ((((hSelect.merge.merge.merge.merge.merge.append (scope table tenant [])).append
    hPending).append hDue).append (kept table.softDeleteColumn)).append
    hOldest.merge.merge.merge.merge
  have hLocked := hRows.append
    (.fixed " FOR UPDATE SKIP LOCKED" (Shape.words ["FOR", "UPDATE", "SKIP", "LOCKED"]) (by decide))
  refine of_eq hLocked ?_
  simp [Shape.candidates, Shape.claimTests, Shape.conjunction, Shape.range, Shape.words, listed,
    List.flatMap_map]

theorem claim (table : Table) (tenant : TenantId) (c : Claim) :
    Spells (Sql.claim table tenant c) (Shape.claim table tenant c) := by
  have hCandidates := fixed_cons ("WITH " ++ candidatesName ++ " AS (")
    (Shape.words ["WITH", candidatesName, "AS"] ++ [.symbol "("]) (by decide)
    (candidates table tenant c)
  -- what is written into the rows
  have hStatus := (name c.status).append (.equals (columnValue table c.status c.inProgress))
  have hSet := (named claimedAlias (by decide) table.name).append
    (Continues.setting hStatus)
  have hUpdate := Continues.fixed_cons ") UPDATE " [.symbol ")", .word "UPDATE"] (by decide) hSet
  -- the rows into which it is written
  have hTenant := (columnOf claimedAlias (by decide) table.tenantColumn).append
    (.equals ((bound (.ofTenant tenant)).append (returning claimedAlias (by decide))))
  have hSame := (name table.idColumn).append (.also hTenant)
  have hCandidate := (fixed candidatesName [.word candidatesName] (by decide)).append
    (.fixed_cons "." [.symbol "."] (by decide) hSame)
  have hId := (name table.idColumn).append (.equals hCandidate)
  have hFrom := Continues.fixed_cons
    (" FROM " ++ candidatesName ++ " WHERE " ++ claimedAlias ++ ".")
    [.word "FROM", .word candidatesName, .word "WHERE", .word claimedAlias, .symbol "."]
    (by decide) hId
  have hRows := hFrom.merge.merge.merge.merge.merge.merge.merge.merge
  have hAll := ((hCandidates.append hUpdate.merge.merge.merge.merge.merge.merge).append
    (stamp c.now c.claimedAt)).append hRows
  refine of_eq hAll ?_
  simp [Shape.claim, Shape.claimAssignments, Shape.assignment, Shape.conjunction,
    Shape.tenantTest, Shape.columnOf, Shape.words, grouped, listed, List.flatMap_map]

theorem insert (table : Table) (columns : List String) (rows : List Row) (upsert : Bool) :
    Spells (Sql.insert table columns rows upsert) (Shape.insert table columns rows upsert) := by
  have hPayload := (bound (.json (.array (rows.map Row.toJson)))).append
    (.fixed "::jsonb)" [.symbol "::", .word "jsonb", .symbol ")"] (by decide))
  have hType := (tableName table.name).append (.comma hPayload)
  have hFrom := (names columns).append
    (.fixed_cons " FROM jsonb_populate_recordset(NULL::" [.word "FROM",
      .word "jsonb_populate_recordset", .symbol "(", .word "NULL", .symbol "::"] (by decide) hType)
  have hSelect := (names columns).append
    (.fixed_cons ") SELECT " [.symbol ")", .word "SELECT"] (by decide) hFrom)
  have hColumns := (named rowAlias (by decide) table.name).append
    (.fixed_cons " (" [.symbol "("] (by decide) hSelect)
  have hHead := fixed_cons "INSERT INTO " [.word "INSERT", .word "INTO"] (by decide) hColumns
  have hConflict : Continues (if upsert then Sql.onConflict table columns else [])
      (if upsert then Shape.onConflict table columns else []) := by
    cases upsert with
    | false => exact .nil
    | true => exact onConflict table columns
  have hText := hHead.merge.merge.merge.merge.merge.merge.merge.merge.merge.merge
  refine of_eq ((hText.append hConflict).append (returning rowAlias (by decide))) ?_
  simp [Shape.insert, Shape.words, call, grouped, listed]

end Spells

end Tenancy.Sql
