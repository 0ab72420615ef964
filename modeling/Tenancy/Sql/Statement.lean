import Tenancy.Backend.Command
import Tenancy.Sql.Quoting

/-!
# SQL statements

The statements for the commands of a backend. A `Statement` is a sequence of literal text and
bound values; the values become numbered placeholders, so no value is ever part of the text other
than `NULL`. Every statement that is confined to a tenant begins its conditions with the tenant.
-/

namespace Tenancy.Sql

/-- A part of a statement. -/
inductive Piece where
  | text (sql : String)
  /-- A value that is sent beside the text. -/
  | bound (value : Value)

/-- Text with bound values. -/
abbrev Statement := List Piece

namespace Statement

/-- The text with placeholders numbered from `n` on. -/
def textFrom (n : Nat) : Statement → String
  | [] => ""
  | .text sql :: rest => sql ++ textFrom n rest
  | .bound _ :: rest => "$" ++ toString n ++ textFrom (n + 1) rest

/-- The text with placeholders `$1`, `$2` and so on. -/
def text (s : Statement) : String := s.textFrom 1

/-- A value as the server takes it: instants are cut to microseconds. -/
def sent : Value → Value
  | .timestamp t => .timestamp ((Instant.of? t.second (t.nano / 1000 * 1000)).getD t)
  | v => v

/-- The bound values in the order of their placeholders. -/
def binds (s : Statement) : List Value :=
  s.filterMap fun
    | .bound v => some (sent v)
    | .text _ => none

/-- The statements one after the other with text between them. -/
def joined (between : String) : List Statement → Statement
  | [] => []
  | [s] => s
  | s :: rest => s ++ .text between :: joined between rest

end Statement

/-- The name of the row in a statement. -/
def rowAlias : String := "tg_row"

/-- The name of the output column that holds the row as a JSON object. -/
def documentColumn : String := "doc"

/-- The name of the claimed row. -/
def claimedAlias : String := "tg_claimed"

/-- The name of the rows that a claim may take. -/
def candidatesName : String := "tg_candidates"

def columnOf (row column : String) : String := row ++ "." ++ quoteName column

/-! ## Values -/

/-- A value; `null` needs no placeholder. -/
def value : Value → Statement
  | .null => [.text "NULL"]
  | v => [.bound v]

/-- A limit or an offset, as a signed 64-bit integer. -/
def rangeValue (n : Nat) : Statement := [.bound (.ofNat n)]

/-- A value for a column. Text goes through the row type of the table, so that the column decides
how it is read. -/
def columnValue (table : Table) (column : String) : Value → Statement
  | .text s =>
    [.text ("(jsonb_populate_record(NULL::" ++ quoteTable table.name ++ ", jsonb_build_object(" ++
        quoteLiteral column ++ ", "),
      .bound (.text s), .text ("::text)))." ++ quoteName column)]
  | v => value v

/-! ## Conditions -/

/-- A comparison of a column with a value. -/
def comparison (row : String) (table : Table) (column symbol : String) (v : Value) : Statement :=
  .text (columnOf row column ++ " " ++ symbol ++ " ") :: columnValue table column v

def condition (row : String) (table : Table) (c : Condition) : Statement :=
  let compare := comparison row table c.name
  match c.test with
  | .isNull => [.text (columnOf row c.name ++ " IS NULL")]
  | .isNotNull => [.text (columnOf row c.name ++ " IS NOT NULL")]
  | .oneOf [] => [.text "FALSE"]
  | .oneOf vs =>
    .text (columnOf row c.name ++ " IN (") ::
      Statement.joined ", " (vs.map (columnValue table c.name)) ++ [.text ")"]
  | .eq v => compare "=" v
  | .ne v => compare "<>" v
  | .lt v => compare "<" v
  | .le v => compare "<=" v
  | .gt v => compare ">" v
  | .ge v => compare ">=" v

/-- The conditions of a statement that is confined to a tenant. -/
def scope (row : String) (table : Table) (tenant : TenantId) (conditions : List Condition) :
    Statement :=
  [.text (" WHERE " ++ columnOf row table.tenantColumn ++ " = "), .bound (.ofTenant tenant)] ++
    conditions.flatMap fun c => .text " AND " :: condition row table c

/-! ## Statements -/

def directionText : Direction → String
  | .ascending => "ASC"
  | .descending => "DESC"

/-- The clause that answers with the row as a document. -/
def returning (row : String) : Piece :=
  .text (" RETURNING to_jsonb(" ++ row ++ ") AS " ++ documentColumn)

def select (table : Table) (tenant : TenantId) (s : Selection) : Statement :=
  let order := ", ".intercalate
    (s.order.map fun key => columnOf rowAlias key.name ++ " " ++ directionText key.direction)
  .text ("SELECT to_jsonb(" ++ rowAlias ++ ") AS " ++ documentColumn ++ " FROM " ++
      quoteTable table.name ++ " AS " ++ rowAlias) ::
    scope rowAlias table tenant s.conditions ++
    (if s.order.isEmpty then [] else [.text (" ORDER BY " ++ order)]) ++
    (match s.limit with
      | some n => .text " LIMIT " :: rangeValue n
      | none => []) ++
    (match s.offset with
      | some n => .text " OFFSET " :: rangeValue n
      | none => [])

def count (table : Table) (tenant : TenantId) (conditions : List Condition) : Statement :=
  .text ("SELECT COUNT(*) FROM " ++ quoteTable table.name ++ " AS " ++ rowAlias) ::
    scope rowAlias table tenant conditions

/-- What an upsert does with a row whose id is taken: it goes over the stored row if that belongs
to the same tenant. -/
def onConflict (table : Table) (columns : List String) : Statement :=
  let id := quoteName table.idColumn
  let overwrite := fun column => quoteName column ++ " = EXCLUDED." ++ quoteName column
  let others := columns.filter (· != table.idColumn)
  let set := if others.isEmpty then [table.idColumn] else others
  [.text (" ON CONFLICT (" ++ id ++ ") DO UPDATE SET " ++ ", ".intercalate (set.map overwrite) ++
    " WHERE " ++ columnOf rowAlias table.tenantColumn ++ " = EXCLUDED." ++
    quoteName table.tenantColumn)]

/-- Writes rows with the same columns. They travel as one JSON array, which the row type of the
table takes apart. -/
def insert (table : Table) (columns : List String) (rows : List Row) (upsert : Bool) :
    Statement :=
  let name := quoteTable table.name
  let list := ", ".intercalate (columns.map quoteName)
  [.text ("INSERT INTO " ++ name ++ " AS " ++ rowAlias ++ " (" ++ list ++ ") SELECT " ++ list ++
      " FROM jsonb_populate_recordset(NULL::" ++ name ++ ", "),
    .bound (.json (.array (rows.map Row.toJson))), .text "::jsonb)"] ++
    (if upsert then onConflict table columns else []) ++ [returning rowAlias]

def update (table : Table) (tenant : TenantId) (conditions : List Condition)
    (assignments : List Assignment) : Statement :=
  let id := table.idColumn
  .text ("UPDATE " ++ quoteTable table.name ++ " AS " ++ rowAlias ++ " SET ") ::
    (if assignments.isEmpty then [.text (quoteName id ++ " = " ++ columnOf rowAlias id)] else []) ++
    Statement.joined ", " (assignments.map fun a =>
      .text (quoteName a.name ++ " = ") :: columnValue table a.name a.value) ++
    scope rowAlias table tenant conditions ++ [returning rowAlias]

def delete (table : Table) (tenant : TenantId) (conditions : List Condition) : Statement :=
  .text ("DELETE FROM " ++ quoteTable table.name ++ " AS " ++ rowAlias) ::
    scope rowAlias table tenant conditions

/-- A column that is `null` or not after the time of the claim. -/
def due (now : Instant) (column : String) : Statement :=
  let target := columnOf rowAlias column
  [.text (" AND (" ++ target ++ " IS NULL OR " ++ target ++ " <= "), .bound (.timestamp now),
    .text ")"]

/-- The ids of the rows that a claim takes; rows that another claim holds are passed over. -/
def candidates (table : Table) (tenant : TenantId) (c : Claim) : Statement :=
  .text ("SELECT " ++ columnOf rowAlias table.idColumn ++ " FROM " ++ quoteTable table.name ++
      " AS " ++ rowAlias) ::
    scope rowAlias table tenant [] ++
    .text (" AND " ++ columnOf rowAlias c.status ++ " = ") :: columnValue table c.status c.pending ++
    (c.nextAttemptAt :: c.schedule.toList).flatMap (due c.now) ++
    (match table.softDeleteColumn with
      | some column => [.text (" AND " ++ columnOf rowAlias column ++ " IS NULL")]
      | none => []) ++
    .text (" ORDER BY " ++ columnOf rowAlias c.createdAt ++ " ASC, " ++
        columnOf rowAlias table.idColumn ++ " ASC LIMIT ") ::
    rangeValue c.limit ++ [.text " FOR UPDATE SKIP LOCKED"]

/-- Finds the candidates and changes their status in one statement. -/
def claim (table : Table) (tenant : TenantId) (c : Claim) : Statement :=
  let id := quoteName table.idColumn
  .text ("WITH " ++ candidatesName ++ " AS (") :: candidates table tenant c ++
    .text (") UPDATE " ++ quoteTable table.name ++ " AS " ++ claimedAlias ++ " SET " ++
        quoteName c.status ++ " = ") ::
    columnValue table c.status c.inProgress ++
    (match c.claimedAt with
      | some column => [.text (", " ++ quoteName column ++ " = "), .bound (.timestamp c.now)]
      | none => []) ++
    [.text (" FROM " ++ candidatesName ++ " WHERE " ++ claimedAlias ++ "." ++ id ++ " = " ++
        candidatesName ++ "." ++ id ++ " AND " ++ columnOf claimedAlias table.tenantColumn ++
        " = "),
      .bound (.ofTenant tenant), returning claimedAlias]

end Tenancy.Sql
