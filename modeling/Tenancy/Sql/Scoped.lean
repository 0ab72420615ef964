import Tenancy.Sql.Statement

/-!
# Queries in SQL

A `ScopedSelect` is a query whose parts the caller writes in SQL. Whatever the parts are, its
conditions begin with the tenant of the base table, and rows of the base table that count as
deleted stay out unless they are asked for.
-/

namespace Tenancy.Sql

/-- A condition of the caller. -/
inductive Predicate where
  | plain (sql : String)
  /-- SQL that ends where a bound value follows. -/
  | bound (sql : String) (value : Value)

/-- A query on a base table under one tenant. -/
structure ScopedSelect where
  table : String
  name : String
  tenantColumn : String
  tenant : TenantId
  softDeleteColumn : Option String
  select : List String
  joins : List String
  predicates : List Predicate
  groupBy : List String
  order : List String
  limit : Option Nat

namespace ScopedSelect

def isLetter (c : Char) : Bool := ('a' ≤ c && c ≤ 'z') || ('A' ≤ c && c ≤ 'Z') || c == '_'

/-- A name that needs no quotes: a letter or underscore, then letters, underscores and digits. -/
def isPlainName (s : String) : Bool :=
  match s.toList with
  | [] => false
  | c :: rest => isLetter c && rest.all fun c => isLetter c || Text.isDigit c

/-- The query on all rows of the tenant, with a name for the row that needs no quotes. -/
def ofTable (table : Table) (name : String) (tenant : TenantId) :
    Except StoreError ScopedSelect :=
  if isPlainName name then
    .ok ⟨table.name, name, table.tenantColumn, tenant, table.softDeleteColumn, [], [], [], [], [],
      none⟩
  else .error (.configuration (.badAlias name))

/-! ## Parts -/

/-- Adds an output expression; without any there are all columns of the base table. -/
def selecting (q : ScopedSelect) (expression : String) : ScopedSelect :=
  { q with select := q.select ++ [expression] }

def joining (q : ScopedSelect) (clause : String) : ScopedSelect :=
  { q with joins := q.joins ++ [clause] }

def requiring (q : ScopedSelect) (predicate : Predicate) : ScopedSelect :=
  { q with predicates := q.predicates ++ [predicate] }

/-- Requires a column of the base table to equal a value, or to be `null` for the `null` value. -/
def requiringEq (q : ScopedSelect) (column : String) : Value → ScopedSelect
  | .null => q.requiring (.plain (columnOf q.name column ++ " IS NULL"))
  | v => q.requiring (.bound (columnOf q.name column ++ " =") v)

/-- Lets rows in that count as deleted. -/
def withDeleted (q : ScopedSelect) : ScopedSelect := { q with softDeleteColumn := none }

def groupingBy (q : ScopedSelect) (expression : String) : ScopedSelect :=
  { q with groupBy := q.groupBy ++ [expression] }

def orderingBy (q : ScopedSelect) (expression : String) (direction : Direction) : ScopedSelect :=
  { q with order := q.order ++ [expression ++ " " ++ directionText direction] }

def limitingTo (q : ScopedSelect) (limit : Nat) : ScopedSelect := { q with limit := some limit }

/-! ## The statement -/

def predicateSql : Predicate → Statement
  | .plain sql => [.text sql]
  | .bound sql v => .text (sql ++ " ") :: value v

def statement (q : ScopedSelect) : Statement :=
  let output := if q.select.isEmpty then q.name ++ ".*" else ", ".intercalate q.select
  .text ("SELECT " ++ output ++ " FROM " ++ quoteTable q.table ++ " AS " ++ q.name ++
      String.join (q.joins.map (" " ++ ·)) ++ " WHERE " ++ columnOf q.name q.tenantColumn ++ " = ") ::
    .bound (.ofTenant q.tenant) ::
    (match q.softDeleteColumn with
      | some column => [.text (" AND " ++ columnOf q.name column ++ " IS NULL")]
      | none => []) ++
    q.predicates.flatMap (fun p => .text " AND (" :: predicateSql p ++ [.text ")"]) ++
    (if q.groupBy.isEmpty then [] else [.text (" GROUP BY " ++ ", ".intercalate q.groupBy)]) ++
    (if q.order.isEmpty then [] else [.text (" ORDER BY " ++ ", ".intercalate q.order)]) ++
    (match q.limit with
      | some n => .text " LIMIT " :: rangeValue n
      | none => [])

end ScopedSelect

end Tenancy.Sql
