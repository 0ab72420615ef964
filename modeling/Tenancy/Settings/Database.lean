import Tenancy.Settings.Number
import Tenancy.Time.Duration

/-!
# Settings of the database

Where the database is and how it is used. Only the URL has to be set.
-/

namespace Tenancy

/-- How the database is reached. -/
structure DatabaseSettings where
  url : String
  maxConnections : Nat
  acquireTimeout : Duration
  /-- The server gives up a statement after this time. -/
  statementTimeout : Option Duration
deriving DecidableEq

namespace DatabaseSettings

/-- Ten connections, five seconds to wait for one of them, and no limit for statements. -/
def ofUrl (url : String) : DatabaseSettings := ⟨url, 10, Duration.ofSeconds 5, none⟩

/-- The URL setting; one of blanks only counts as absent. -/
def url? (lookup : Lookup) : Option String :=
  (lookup "DATABASE_URL").filter (!Text.isAllBlank ·)

/-- The settings with their names in the order in which they are checked. -/
def ofLookup (lookup : Lookup) : Except SettingError DatabaseSettings := do
  match url? lookup with
  | none => throw (.missing "DATABASE_URL")
  | some url =>
    let standard := ofUrl url
    let connections ← Setting.number Setting.limit32 lookup "DATABASE_MAX_CONNECTIONS"
    let acquire ← Setting.number Setting.limit64 lookup "DATABASE_ACQUIRE_TIMEOUT_MS"
    let statement ← Setting.number Setting.limit64 lookup "DATABASE_STATEMENT_TIMEOUT_MS"
    pure ⟨url, connections.getD standard.maxConnections,
      (acquire.map Duration.ofMillis).getD standard.acquireTimeout,
      statement.map Duration.ofMillis⟩

end DatabaseSettings

end Tenancy
