import Tenancy.Backend.Memory
import Tenancy.Dialogue
import Tenancy.Sql.Fault
import Tenancy.Sql.Scoped

/-!
# Exchanges with a server

How a backend carries out its commands on a database server. An exchange is a dialogue of
statements and transaction bounds; the server answers with documents and numbers. Rows are
written in one transaction, with one statement for each set of columns, and come back in the
order in which they were given.
-/

namespace Tenancy.Sql

/-- What is sent to the server. -/
inductive Message where
  | beginTransaction
  | commit
  | rollback
  /-- A statement that answers with documents. -/
  | fetch (statement : Statement)
  /-- A statement that answers with one number. -/
  | fetchNumber (statement : Statement)
  /-- A statement of which only the number of rows that it changed is of interest. -/
  | execute (statement : Statement)

/-- What the server answers. -/
def Message.Reply : Message → Type
  | .beginTransaction | .commit => Except Fault Unit
  | .rollback => Unit
  | .fetch _ => Except Fault (List Json)
  | .fetchNumber _ => Except Fault Int
  | .execute _ => Except Fault Nat

/-- A conversation with the server about results in `α`. -/
abbrev Exchange (α : Type) : Type := ExceptT StoreError (Dialogue Message Message.Reply) α

namespace Exchange

variable {α : Type}

/-- Sends a message. -/
def ask (m : Message) : Exchange m.Reply := ExceptT.lift (Dialogue.question m)

/-- Turns a fault into the failure of the operation that met it. -/
def orFail (operation : String) : Except Fault α → Exchange α
  | .ok a => pure a
  | .error f => throw (f.toStoreError operation)

/-- The documents that a statement answers with. -/
def fetch (operation : String) (s : Statement) : Exchange (List Json) := do
  let reply : Except Fault (List Json) ← ask (.fetch s)
  orFail operation reply

def fetchNumber (operation : String) (s : Statement) : Exchange Int := do
  let reply : Except Fault Int ← ask (.fetchNumber s)
  orFail operation reply

def execute (operation : String) (s : Statement) : Exchange Nat := do
  let reply : Except Fault Nat ← ask (.execute s)
  orFail operation reply

/-- Runs an exchange in a transaction, which is rolled back if the exchange or the commit
fails. -/
def transaction (body : Exchange α) : Exchange α := do
  let reply : Except Fault Unit ← ask .beginTransaction
  orFail "begin_transaction" reply
  let settle : Exchange α := do
    let result ← body
    let reply : Except Fault Unit ← ask .commit
    orFail "commit" reply
    pure result
  tryCatch settle fun e => do
    let _ ← ask .rollback
    throw e

/-! ## Documents -/

/-- The row of a document, which must be an object. -/
def rowOf : Json → Except StoreError Row
  | .object fields => .ok (Row.ofEntries fields)
  | other => .error (.serialization (.rowNoObject other))

def rowsOf (documents : List Json) : Exchange (List Row) :=
  match documents.mapM rowOf with
  | .ok rows => pure rows
  | .error e => throw e

/-! ## Writing -/

/-- Rows with the same columns and their places in the batch. -/
structure Group where
  columns : List String
  members : List (Nat × Row)

/-- Puts a row to the rows with its columns, or into a new group at the end. -/
def addToGroups (place : Nat) (row : Row) : List Group → List Group
  | [] => [⟨row.names, [(place, row)]⟩]
  | g :: rest =>
    if g.columns = row.names then ⟨g.columns, g.members ++ [(place, row)]⟩ :: rest
    else g :: addToGroups place row rest

/-- The rows of a batch by their columns, in the order in which the sets of columns appear. -/
def groupsOf (rows : List Row) : List Group :=
  rows.zipIdx.foldl (fun groups (row, place) => addToGroups place row groups) []

/-- Writes the rows of one group and pairs what comes back with their places. Fewer documents
than rows mean that some ids belong to another tenant. -/
def writeGroup (operation : String) (table : Table) (upsert : Bool) (g : Group) :
    Exchange (List (Nat × Row)) := do
  let documents ← fetch operation (insert table g.columns (g.members.map (·.2)) upsert)
  if documents.length ≠ g.members.length then
    throw (.conflict (.skippedRows (g.members.length - documents.length) g.members.length
      table.name))
  let rows ← rowsOf documents
  pure ((g.members.map (·.1)).zip rows)

/-- Writes groups one after the other. -/
def writeGroups (operation : String) (table : Table) (upsert : Bool) :
    List Group → Exchange (List (Nat × Row))
  | [] => pure []
  | g :: rest => do
    let written ← writeGroup operation table upsert g
    pure (written ++ (← writeGroups operation table upsert rest))

/-- Writes a batch of rows; the result is in the order of the batch. -/
def write (operation : String) (table : Table) (upsert : Bool) (rows : List Row) :
    Exchange (List Row) := do
  if rows.isEmpty then return []
  let written ← transaction (writeGroups operation table upsert (groupsOf rows))
  pure ((List.range rows.length).filterMap fun place => List.lookup place written)

/-! ## Commands -/

/-- Claims rows in a transaction and puts them into the order of the claim. -/
def claimRows (table : Table) (tenant : TenantId) (c : Claim) : Exchange (List Row) := do
  let documents ← transaction (fetch "claim" (claim table tenant c))
  let rows ← rowsOf documents
  pure (stableSort (Memory.compareAge c.createdAt table.idColumn) rows)

/-- The exchange that carries out a command. -/
def ofCommand : (c : Command) → Exchange c.Result
  | .select table tenant selection => do
    rowsOf (← fetch "select" (select table tenant selection))
  | .count table tenant conditions => do
    pure (← fetchNumber "count" (count table tenant conditions)).toNat
  | .insert table rows => write "insert" table false rows
  | .upsert table rows => write "upsert" table true rows
  | .update table tenant conditions assignments => do
    rowsOf (← fetch "update" (update table tenant conditions assignments))
  | .delete table tenant conditions => execute "delete" (delete table tenant conditions)
  | .claim table tenant c => claimRows table tenant c

/-- The documents of a query of the caller. -/
def ofScopedSelect (q : ScopedSelect) : Exchange (List Json) := fetch "scoped_sql" q.statement

end Exchange

/-- The backend that reaches a server with states `σ`. -/
def backend {σ : Type} (server : (m : Message) → σ → m.Reply × σ) : Backend σ :=
  fun c s => Dialogue.run server (ExceptT.run (Exchange.ofCommand c)) s

end Tenancy.Sql
