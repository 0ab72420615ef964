import Tenancy.Backend.Command
import Tenancy.Sorting

/-!
# Tables in memory

A backend that keeps its tables as lists of rows in the order of insertion. A command either
succeeds as a whole or leaves all rows as they were; only the ids that a failed write has drawn
are used up. Ids are drawn from one counter for all tables.
-/

namespace Tenancy

/-- Tables by name, and the next id to be drawn. -/
structure Memory where
  tables : List (String × List Row)
  nextId : Int64

namespace Memory

/-- No rows, and the ids begin at one. -/
def empty : Memory := ⟨[], 1⟩

/-- The rows of a table; a table that was never written has none. -/
def rows (m : Memory) (table : String) : List Row := (m.tables.lookup table).getD []

/-- Puts rows in place of those of a table. -/
def setRowsIn (table : String) (rows : List Row) :
    List (String × List Row) → List (String × List Row)
  | [] => [(table, rows)]
  | (name, old) :: rest =>
    if name = table then (name, rows) :: rest else (name, old) :: setRowsIn table rows rest

def setRows (m : Memory) (table : String) (rows : List Row) : Memory :=
  { m with tables := setRowsIn table rows m.tables }

@[simp] theorem rows_empty (table : String) : empty.rows table = [] := rfl

theorem lookup_setRowsIn (table name : String) (rows : List Row)
    (tables : List (String × List Row)) :
    (setRowsIn table rows tables).lookup name =
      if name = table then some rows else tables.lookup name := by
  induction tables with
  | nil =>
    by_cases h : name = table
    · simp [setRowsIn, h]
    · simp [setRowsIn, List.lookup_cons, beq_false_of_ne h, h]
  | cons entry rest ih =>
    obtain ⟨other, old⟩ := entry
    unfold setRowsIn
    by_cases ho : other = table
    · subst ho
      by_cases h : name = other
      · simp [h]
      · simp [List.lookup_cons, beq_false_of_ne h, h]
    · rw [if_neg ho, List.lookup_cons, List.lookup_cons, ih]
      by_cases h : name = other
      · subst h
        simp [ho]
      · simp [beq_false_of_ne h]

theorem rows_setRows (m : Memory) (table name : String) (rows : List Row) :
    (m.setRows table rows).rows name = if name = table then rows else m.rows name := by
  simp only [Memory.rows, setRows, lookup_setRowsIn]
  split <;> rfl

@[simp] theorem rows_setRows_self (m : Memory) (table : String) (rows : List Row) :
    (m.setRows table rows).rows table = rows := by
  simp [rows_setRows]

theorem rows_setRows_of_ne (m : Memory) {table name : String} (rows : List Row)
    (h : name ≠ table) : (m.setRows table rows).rows name = m.rows name := by
  simp [rows_setRows, h]

/-! ## Which rows a command concerns -/

/-- The row belongs to the tenant. -/
def ownedBy (table : Table) (tenant : TenantId) (row : Row) : Bool :=
  (Value.ofTenant tenant).matchesCell (row.cell table.tenantColumn)

/-- The row belongs to the tenant and satisfies all conditions. -/
def selects (table : Table) (tenant : TenantId) (conditions : List Condition) (row : Row) : Bool :=
  ownedBy table tenant row && conditions.all (·.holds row)

/-! ## Unique keys -/

/-- The key of the table on which two rows collide, if there is one: the id first, then the
declared keys. -/
def collision? (table : Table) (candidate other : Row) : Option (List String) :=
  ([table.idColumn] :: table.uniqueKeys).find? fun key =>
    key.all fun column => (candidate.cell column).sameCell (other.cell column)

/-- Refuses a row that collides with one of the others. -/
def checkUnique (table : Table) (others : List Row) (candidate : Row) : Except StoreError Unit :=
  match others.findSome? (collision? table candidate) with
  | some key => .error (.conflict (.duplicateKey table.name key))
  | none => .ok ()

/-! ## Writing rows -/

/-- Rows on their way into a table: what the table will hold and the next id. -/
structure Staged where
  rows : List Row
  nextId : Int64

/-- Draws an id for a row that has none. -/
def withId (table : Table) (row : Row) (nextId : Int64) : Row × Int64 :=
  if (row.cell table.idColumn).isNull then
    (row.insert table.idColumn (Json.ofInt64 nextId), nextId + 1)
  else (row, nextId)

/-- Appends a new row. The staged state comes back also on failure, as the id stays drawn. -/
def append (table : Table) (row : Row) (s : Staged) : Except StoreError Row × Staged :=
  let (row, nextId) := withId table row s.nextId
  match checkUnique table s.rows row with
  | .error e => (.error e, { s with nextId := nextId })
  | .ok _ => (.ok row, ⟨s.rows ++ [row], nextId⟩)

def insertOne (table : Table) (row : Row) (s : Staged) : Except StoreError Row × Staged :=
  if (row.cell table.tenantColumn).isNull then
    (.error (.configuration (.rowWithoutTenant table.name table.tenantColumn)), s)
  else append table row s

/-- Writes a row over the stored one of its id if it belongs to the same tenant; the stored row
keeps the columns that the new one leaves out. -/
def upsertOne (table : Table) (row : Row) (s : Staged) : Except StoreError Row × Staged :=
  if (row.cell table.tenantColumn).isNull then
    (.error (.configuration (.rowWithoutTenant table.name table.tenantColumn)), s)
  else
    let id := row.cell table.idColumn
    match s.rows.findIdx? fun r => (r.cell table.idColumn).sameCell id with
    | none => append table row s
    | some i =>
      let stored := s.rows.getD i .empty
      if (stored.cell table.tenantColumn).sameCell (row.cell table.tenantColumn) then
        let merged := stored.overlay row
        match checkUnique table (s.rows.eraseIdx i) merged with
        | .error e => (.error e, s)
        | .ok _ => (.ok merged, { s with rows := s.rows.set i merged })
      else (.error (.conflict (.foreignId id table.name)), s)

/-- Writes rows one after the other up to the first that fails. -/
def stageAll (one : Row → Staged → Except StoreError Row × Staged) :
    List Row → Staged → Except StoreError (List Row) × Staged
  | [], s => (.ok [], s)
  | row :: rest, s =>
    match one row s with
    | (.error e, s) => (.error e, s)
    | (.ok written, s) =>
      let (result, s) := stageAll one rest s
      (result.map (written :: ·), s)

/-- Writes all rows into a table or none of them. -/
def write (one : Row → Staged → Except StoreError Row × Staged) (table : Table)
    (rows : List Row) (m : Memory) : Except StoreError (List Row) × Memory :=
  match stageAll one rows ⟨m.rows table.name, m.nextId⟩ with
  | (.error e, s) => (.error e, { m with nextId := s.nextId })
  | (.ok written, s) => (.ok written, { m.setRows table.name s.rows with nextId := s.nextId })

def insert (table : Table) (rows : List Row) (m : Memory) :
    Except StoreError (List Row) × Memory :=
  write (insertOne table) table rows m

def upsert (table : Table) (rows : List Row) (m : Memory) :
    Except StoreError (List Row) × Memory :=
  write (upsertOne table) table rows m

/-! ## Reading rows -/

/-- The rows of a list from an offset on, at most as many as the limit. -/
def page (limit offset : Option Nat) (rows : List Row) : List Row :=
  let rest := rows.drop (offset.getD 0)
  match limit with
  | some n => rest.take n
  | none => rest

def select (table : Table) (tenant : TenantId) (s : Selection) (m : Memory) : List Row :=
  let found := (m.rows table.name).filter (selects table tenant s.conditions)
  let ordered :=
    if s.order.isEmpty then found else stableSort (SortKey.compareAll s.order) found
  page s.limit s.offset ordered

def count (table : Table) (tenant : TenantId) (conditions : List Condition) (m : Memory) : Nat :=
  (m.rows table.name).countP (selects table tenant conditions)

/-! ## Changing rows -/

/-- The row with the assigned columns set. -/
def assign (assignments : List Assignment) (row : Row) : Row :=
  assignments.foldl (fun row a => row.insert a.name a.value.toJson) row

/-- Changes the rows at these places one after the other; each must not collide with the others
as they stand then. -/
def updateAt (table : Table) (assignments : List Assignment) :
    List Nat → List Row → Except StoreError (List Row × List Row)
  | [], rows => .ok ([], rows)
  | i :: rest, rows => do
    let row := assign assignments (rows.getD i .empty)
    checkUnique table (rows.eraseIdx i) row
    let (updated, rows) ← updateAt table assignments rest (rows.set i row)
    pure (row :: updated, rows)

/-- The places of the rows that satisfy a predicate, in ascending order. -/
def placesOf (p : Row → Bool) (rows : List Row) : List Nat :=
  (List.range rows.length).filter fun i => p (rows.getD i .empty)

/-- Changes the rows of the tenant that satisfy the conditions at the start, all or none. -/
def update (table : Table) (tenant : TenantId) (conditions : List Condition)
    (assignments : List Assignment) (m : Memory) : Except StoreError (List Row) × Memory :=
  let rows := m.rows table.name
  match updateAt table assignments (placesOf (selects table tenant conditions) rows) rows with
  | .error e => (.error e, m)
  | .ok (updated, rows) => (.ok updated, m.setRows table.name rows)

/-- Removes the rows of the tenant that satisfy the conditions, and counts them. -/
def delete (table : Table) (tenant : TenantId) (conditions : List Condition) (m : Memory) :
    Nat × Memory :=
  let rows := m.rows table.name
  let gone := selects table tenant conditions
  (rows.countP gone, m.setRows table.name (rows.filter (!gone ·)))

/-! ## Claims -/

/-- The cell is `null` or a time that is not after `now`. -/
def isDue (now : Instant) (cell : Json) : Bool := cell.isNull || (Test.le (.timestamp now)).holds cell

/-- The row waits in the queue of the tenant, is due, and does not count as deleted. -/
def isEligible (table : Table) (tenant : TenantId) (claim : Claim) (row : Row) : Bool :=
  ownedBy table tenant row && claim.pending.matchesCell (row.cell claim.status) &&
    isDue claim.now (row.cell claim.nextAttemptAt) &&
    claim.schedule.all (fun column => isDue claim.now (row.cell column)) &&
    table.softDeleteColumn.all (fun column => (row.cell column).isNull)

/-- Rows are claimed in the order of their creation time, and of their ids where that is equal. -/
def compareAge (createdAt id : String) (a b : Row) : Ordering :=
  (Json.compareCells (a.cell createdAt) (b.cell createdAt)).then
    (Json.compareCells (a.cell id) (b.cell id))

/-- The row as a claim leaves it. -/
def markClaimed (claim : Claim) (row : Row) : Row :=
  let row := row.insert claim.status claim.inProgress.toJson
  match claim.claimedAt with
  | some column => row.insert column (Value.timestamp claim.now).toJson
  | none => row

/-- The places of the rows that a claim takes, oldest first. -/
def claimedPlaces (table : Table) (tenant : TenantId) (claim : Claim) (rows : List Row) :
    List Nat :=
  let eligible := placesOf (isEligible table tenant claim) rows
  (stableSort (fun i j => compareAge claim.createdAt table.idColumn (rows.getD i .empty)
    (rows.getD j .empty)) eligible).take claim.limit

/-- Takes the oldest eligible rows, at most as many as the limit. -/
def claim (table : Table) (tenant : TenantId) (claim : Claim) (m : Memory) : List Row × Memory :=
  let rows := m.rows table.name
  let places := claimedPlaces table tenant claim rows
  (places.map fun i => markClaimed claim (rows.getD i .empty),
    m.setRows table.name (places.foldl (fun rows i => rows.modify i (markClaimed claim)) rows))

/-! ## The backend -/

/-- Carries out one command. -/
def backend : Backend Memory
  | .select table tenant selection, m => (.ok (m.select table tenant selection), m)
  | .count table tenant conditions, m => (.ok (m.count table tenant conditions), m)
  | .insert table rows, m => m.insert table rows
  | .upsert table rows, m => m.upsert table rows
  | .update table tenant conditions assignments, m =>
    m.update table tenant conditions assignments
  | .delete table tenant conditions, m =>
    let (n, m) := m.delete table tenant conditions
    (.ok n, m)
  | .claim table tenant c, m =>
    let (rows, m) := m.claim table tenant c
    (.ok rows, m)

end Memory

end Tenancy
