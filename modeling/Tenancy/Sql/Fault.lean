import Tenancy.Error

/-!
# Faults of the database

What can go wrong between the store and a database server, and the failure of the store that it
becomes. The five characters of a server's error code decide about errors of the server.
-/

namespace Tenancy.Sql

/-- A failure of the server or of the way to it. -/
inductive Fault where
  /-- An error that the server reports. -/
  | server (code : Option String) (message : String)
  | poolTimedOut
  | poolClosed
  | rowNotFound
  | io (message : String)
  | protocol (message : String)
  | columnNotFound (name : String)
deriving DecidableEq, Repr

namespace Fault

def text : Fault → String
  | .server _ message => "error returned from database: " ++ message
  | .poolTimedOut => "pool timed out while waiting for an open connection"
  | .poolClosed => "attempted to acquire a connection on a closed pool"
  | .rowNotFound => "no rows returned by a query that expected to return at least one row"
  | .io message => "error communicating with database: " ++ message
  | .protocol message => "encountered unexpected or invalid data: " ++ message
  | .columnNotFound name => "no column found for name: " ++ name

/-- The server refused a row because of a unique key. -/
def isUniqueViolation : Fault → Bool
  | .server (some code) _ => code == "23505"
  | _ => false

/-- A table or column is missing. -/
def isUndefinedName (code : String) : Bool := code == "42P01" || code == "42703"

/-- The statement may succeed when it is repeated: it met a concurrent one, was cancelled, or lost
its connection. -/
def isPassing (code : String) : Bool :=
  code == "40001" || code == "40P01" || code == "57014" || code.toList.take 2 == ['0', '8']

/-- The failure of an operation that met the fault. -/
def toStoreError (operation : String) : Fault → StoreError
  | .server code message =>
    let text := s!"database error in {operation}: {message}"
    let fault := Fault.server code message
    if fault.isUniqueViolation then .conflict (.reported (operation ++ ": " ++ fault.text))
    else if code.any isUndefinedName then .configuration (.reported text)
    else if code.any isPassing then .transient text
    else .database (.reported text)
  | .poolTimedOut => .transient (operation ++ ": " ++ poolTimedOut.text)
  | .poolClosed => .transient (operation ++ ": " ++ poolClosed.text)
  | .io message => .transient (operation ++ ": " ++ (io message).text)
  | other => .database (.reported ("sqlx error in " ++ operation ++ ": " ++ other.text))

end Fault

end Tenancy.Sql
