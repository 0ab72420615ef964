import Tenancy.Filter

/-!
# Failures of the store

Every failure of a store operation is a `StoreError`: its class says what a caller can do about
it, and its cause says what went wrong. `StoreError.message` is the text of a failure. Failures
that another party reports in its own words carry those words.
-/

namespace Tenancy

/-- What is wrong with a declaration or with the parameters of an operation. -/
inductive Misconfiguration where
  /-- The table name has no visible character. -/
  | blankTable
  | emptyColumn (field table : String)
  /-- Two fields share a column. -/
  | sharedColumn (first second table column : String)
  | repeatedField (field table : String)
  | idIsTenant (field : String)
  | emptyUniqueKey
  | rowWithoutTenant (table column : String)
  | noSoftDelete (table : String)
  | tenantAsKey
  /-- A queue role falls on the id or the tenant field. -/
  | reservedRole (field table : String)
  | indistinctStatuses
  | delayOutOfRange (delay : Duration)
  | noClaimedAt (table : String)
  | ageOutOfRange
  | sweepWithoutClaimedAt (worker : String)
  | successIsQueueStatus (worker : String)
  | badAlias (name : String)
  | badUrl (reason : String)
  | reported (text : String)

namespace Misconfiguration

def message : Misconfiguration → String
  | .blankTable => "table name cannot be empty"
  | .emptyColumn field table => s!"field '{field}' on '{table}' resolves to an empty column name"
  | .sharedColumn first second table column =>
    s!"fields '{first}' and '{second}' on '{table}' both map to column '{column}'"
  | .repeatedField field table => s!"field '{field}' declared twice on '{table}'"
  | .idIsTenant field => s!"'{field}' cannot be both id and tenant field"
  | .emptyUniqueKey => "unique key with no fields"
  | .rowWithoutTenant table column => s!"row for {table} is missing {column}"
  | .noSoftDelete table => s!"{table} has no soft-delete field"
  | .tenantAsKey => "the tenant field cannot be an idempotency key"
  | .reservedRole field table =>
    s!"claim field '{field}' on '{table}' cannot be the id or tenant field"
  | .indistinctStatuses => "pending and in-progress status values must be distinct and non-null"
  | .delayOutOfRange delay => "backoff delay " ++ delay.text ++ " out of range"
  | .noClaimedAt table => s!"{table} has no claimed-at field; stale claims cannot be detected"
  | .ageOutOfRange => "stale-claim age out of range"
  | .sweepWithoutClaimedAt worker =>
    s!"worker '{worker}' releases stale claims but its claim config has no claimed-at field"
  | .successIsQueueStatus worker =>
    s!"worker '{worker}' success status must differ from the queue statuses"
  | .badAlias name => s!"'{name}' is not a valid table alias"
  | .badUrl reason => s!"invalid DATABASE_URL: {reason}"
  | .reported text => text

end Misconfiguration

/-- Why a write collides with stored rows. -/
inductive Collision where
  | duplicateKey (table : String) (columns : List String)
  | foreignId (id : Json) (table : String)
  /-- Some of the rows of a batch were not written. -/
  | skippedRows (missing total : Nat) (table : String)
  | reported (text : String)

namespace Collision

def message : Collision → String
  | .duplicateKey table columns => s!"duplicate key on {table}(" ++ ", ".intercalate columns ++ ")"
  | .foreignId id table => "id " ++ id.text ++ s!" on {table} belongs to another tenant"
  | .skippedRows missing total table =>
    s!"{missing} of {total} rows on {table} collide with an id owned by another tenant"
  | .reported text => text

end Collision

/-- What a lookup did not find. -/
inductive Absence where
  | matching (table : String) (conditions : List Condition)
  | withId (table : String) (id : Value)
  | reported (text : String)

namespace Absence

def message : Absence → String
  | .matching table conditions => s!"{table} matching " ++ Condition.describeAll conditions
  | .withId table id => s!"{table} with id " ++ id.display
  | .reported text => text

end Absence

/-- Why a record or a row has the wrong shape. -/
inductive Malformation where
  | recordNoObject (got : Json)
  | partialNoObject (got : Json)
  | rowNoObject (got : Json)
  | reported (text : String)

namespace Malformation

def message : Malformation → String
  | .recordNoObject got => "records must serialize to a JSON object, got " ++ got.text
  | .partialNoObject got => "create expects a JSON object, got " ++ got.text
  | .rowNoObject got => "expected a JSON object row, got " ++ got.text
  | .reported text => text

end Malformation

/-- What else went wrong behind the store. -/
inductive Breakdown where
  | savedNothing (table : String)
  | insertedNothing (table : String)
  | reported (text : String)

namespace Breakdown

def message : Breakdown → String
  | .savedNothing table => s!"save on {table} returned no row"
  | .insertedNothing table => s!"insert on {table} returned no row"
  | .reported text => text

end Breakdown

/-- The failure of a store operation. -/
inductive StoreError where
  /-- The operation needs a tenant and none is active. -/
  | missingTenant (operation : String)
  | unknownField (table field : String)
  | configuration (cause : Misconfiguration)
  | conflict (cause : Collision)
  | notFound (what : Absence)
  | transient (text : String)
  | serialization (cause : Malformation)
  | database (cause : Breakdown)

namespace StoreError

def message : StoreError → String
  | .missingTenant operation => s!"no tenant in context: {operation} refuses to run unscoped"
  | .unknownField table field => s!"unknown field '{field}' on table '{table}'"
  | .configuration cause => "invalid configuration: " ++ cause.message
  | .conflict cause => "unique constraint violation: " ++ cause.message
  | .notFound what => "record not found: " ++ what.message
  | .transient text => "transient store failure: " ++ text
  | .serialization cause => "record serialization failed: " ++ cause.message
  | .database cause => "database error: " ++ cause.message

/-- A mistake of the caller or of a declaration; repeating the operation cannot help. -/
def isConfiguration : StoreError → Bool
  | .missingTenant _ | .unknownField _ _ | .configuration _ => true
  | _ => false

/-- The write collides with stored rows. -/
def isConflict : StoreError → Bool
  | .conflict _ => true
  | _ => false

/-- The operation may succeed if it is repeated. -/
def isTransient : StoreError → Bool
  | .transient _ => true
  | _ => false

end StoreError

end Tenancy
