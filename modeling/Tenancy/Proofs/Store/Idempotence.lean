import Mathlib.Logic.Function.Basic
import Tenancy.Proofs.Backend.Keys
import Tenancy.Proofs.Store.Writer

/-!
# Saves under one key

Several clients of one tenant save records under the same key (`SharedKey`), each command of one
falling anywhere between those of the others, while rows with other keys are inserted and rows are
marked as deleted. The invariant `Consistent` follows the one row that comes to hold the key: who
inserted it, and who found it. `saves_idempotent` draws the consequences.
-/

namespace Tenancy

open Memory

/-- Clients of one tenant that save records with the same key in a field that makes up a unique key
together with the tenant. Records, codecs and contexts may differ. -/
structure SharedKey (ε : Type) (ρ : ε → Type) where
  tenant : TenantId
  descriptor : Descriptor
  columns : ColumnMap
  table : Table
  resolved : descriptor.resolve = .ok (columns, table)
  keyField : String
  keyField_ne : keyField ≠ descriptor.tenantField
  declared : ∃ fields ∈ descriptor.uniqueKeys,
    ∀ field, field ∈ fields ↔ field = descriptor.tenantField ∨ field = keyField
  key : Json
  codec : (e : ε) → Codec (ρ e)
  context : ε → TenantContext
  active : ε → Option TenantId
  reports : ∀ e, (context e).reports (active e) = some tenant
  record : (e : ε) → ρ e
  keyed : ∀ e, Store.fieldValue ⟨codec e, context e, descriptor, columns, table, resolved⟩
    (record e) keyField = .ok (some key)
  encoded : ε → Row
  encodes : ∀ e, Store.encodeRow ⟨codec e, context e, descriptor, columns, table, resolved⟩ tenant
    (record e) = .ok (encoded e)

namespace SharedKey

variable {ε : Type} {ρ : ε → Type}

def writer (c : SharedKey ε ρ) (e : ε) : IdempotentWriter (ρ e) where
  store := ⟨c.codec e, c.context e, c.descriptor, c.columns, c.table, c.resolved⟩
  keyField := c.keyField

/-- A store on the table for soft deletions. -/
def store (c : SharedKey ε ρ) : Store Json :=
  ⟨.json, .ambient, c.descriptor, c.columns, c.table, c.resolved⟩

def keyColumn (c : SharedKey ε ρ) : String := (c.columns.column? c.keyField).getD ""

/-- The row belongs to the tenant, and its key is the key in question: the check of unique keys
takes it for the same, or the look-up finds it. -/
def hasKey (c : SharedKey ε ρ) (row : Row) : Bool :=
  ownedBy c.table c.tenant row &&
    (Json.sameCell c.key (row.cell c.keyColumn) ||
      (Value.ofJson c.key).matchesCell (row.cell c.keyColumn))

/-- The unique key of the tenant and the key field, in any order. -/
def IsKey (c : SharedKey ε ρ) (key : List String) : Prop :=
  ∀ column, column ∈ key ↔ column = c.table.tenantColumn ∨ column = c.keyColumn

/-! ## Steps -/

/-- The tables, what is left of the save of each client, and how many turns each has taken. -/
structure State (ρ : ε → Type) where
  memory : Memory
  program : (e : ε) → Program (ρ e) (Insertion (ρ e))
  turns : ε → Nat

inductive Event (ε : Type) where
  /-- One command of a client. -/
  | turn (e : ε) (now : Instant)
  | insert (rows : List Row)
  | softDelete (owner : TenantId) (filter : Filter) (now : Instant)

def start (c : SharedKey ε ρ) (m : Memory) : State ρ :=
  ⟨m, fun e => (c.writer e).save (c.record e), fun _ => 0⟩

/-- How the save of a client ended, if it did. -/
def State.outcome (s : State ρ) (e : ε) : Option (Except Failure (Insertion (ρ e))) :=
  (s.program e).outcome?

/-- The mark of deletion is neither the id nor part of a unique key. -/
def MarkApart (c : SharedKey ε ρ) : Prop :=
  ∀ column, c.table.softDeleteColumn = some column →
    ∀ key ∈ [c.table.idColumn] :: c.table.uniqueKeys, column ∉ key

/-- Other rows that are inserted have other keys, and a soft deletion changes no unique key. -/
def Permits (c : SharedKey ε ρ) (s : State ρ) : Event ε → Prop
  | .turn _ _ => True
  | .insert rows => ∀ written, (s.memory.insert c.table rows).1 = .ok written →
      ∀ row ∈ written, c.hasKey row = false
  | .softDelete _ _ _ => c.MarkApart

/-- Besides, a row that a client inserts collides with others on no key but the one in question. -/
def Undisturbed (c : SharedKey ε ρ) (s : State ρ) (event : Event ε) : Prop :=
  c.Permits s event ∧ ∀ e now rows, event = .turn e now →
    (World.still (c.active e) now).command? (s.program e) s.memory = some (.insert c.table rows) →
      ∀ row ∈ rows, ∀ other ∈ s.memory.rows c.table.name,
        ∀ key ∈ [c.table.idColumn] :: c.table.uniqueKeys,
          AgreeOn key (s.memory.drawn c.table row) other → c.IsKey key

section Steps

variable [DecidableEq ε]

def next (c : SharedKey ε ρ) (s : State ρ) : Event ε → State ρ
  | .turn e now =>
    let (program, memory) := (World.still (c.active e) now).turn (s.program e) s.memory
    ⟨memory, Function.update s.program e program, Function.update s.turns e (s.turns e + 1)⟩
  | .insert rows => { s with memory := (s.memory.insert c.table rows).2 }
  | .softDelete owner filter now =>
    { s with memory := ((World.still (some owner) now).run (c.store.softDelete filter) s.memory).2 }

/-- States after any events that are admitted, from a table where no row has the key. -/
inductive Reachable (c : SharedKey ε ρ) (admits : State ρ → Event ε → Prop) : State ρ → Prop
  | start (m : Memory) (h : ∀ row ∈ m.rows c.table.name, c.hasKey row = false) :
      Reachable c admits (c.start m)
  | next {s : State ρ} (h : Reachable c admits s) (event : Event ε) (hAdmits : admits s event) :
      Reachable c admits (c.next s event)

end Steps

/-! ## The rows of the clients -/

/-- The row of the record of a client as it may stand in the table: its id was drawn if it had none,
and it may be marked as deleted. -/
inductive Version (c : SharedKey ε ρ) (e : ε) : Row → Prop
  | drawn (m : Memory) : Version c e (m.drawn c.table (c.encoded e))
  | deleted {row : Row} {column : String} (h : Version c e row)
      (hColumn : c.table.softDeleteColumn = some column) (hApart : c.MarkApart) (now : Instant) :
      Version c e (row.insert column (.string (Rfc3339.text now)))

variable {c : SharedKey ε ρ} {e : ε} {row other : Row} {m : Memory}

theorem resolution (c : SharedKey ε ρ) : c.descriptor.Resolved c.columns c.table :=
  Descriptor.resolved c.resolved

/-- The unique key that the descriptor declares for the key field. -/
theorem exists_key (c : SharedKey ε ρ) : c.columns.column? c.keyField = some c.keyColumn ∧
    ∃ key ∈ c.table.uniqueKeys, c.IsKey key := by
  obtain ⟨fields, hFields, hMem⟩ := c.declared
  obtain ⟨key, hKey, hPairs⟩ := exists_left_of_mem c.resolution.keyColumns.flip hFields
  have hColumn : c.columns.column? c.keyField = some c.keyColumn := by
    obtain ⟨column, -, hColumn⟩ := exists_left_of_mem hPairs.flip ((hMem _).mpr (.inr rfl))
    rw [keyColumn, hColumn]
    rfl
  refine ⟨hColumn, key, hKey, fun column => ?_⟩
  constructor
  · intro hIn
    obtain ⟨field, hField, hOk⟩ := exists_left_of_mem hPairs hIn
    rcases (hMem field).mp hField with rfl | rfl
    · exact .inl (Option.some.inj (hOk.symm.trans c.resolution.tenantColumn))
    · exact .inr (Option.some.inj (hOk.symm.trans hColumn))
  · have hTo : ∀ {field column}, field ∈ fields → c.columns.column? field = some column →
        column ∈ key := by
      intro field column hField hOk
      obtain ⟨column', hIn, hOk'⟩ := exists_left_of_mem hPairs.flip hField
      cases Option.some.inj (hOk.symm.trans hOk')
      exact hIn
    rintro (rfl | rfl)
    · exact hTo ((hMem _).mpr (.inl rfl)) c.resolution.tenantColumn
    · exact hTo ((hMem _).mpr (.inr rfl)) hColumn

/-- Where the mark of deletion stands apart, it is in none of the columns that matter here. -/
theorem MarkApart.ne (h : c.MarkApart) {column : String}
    (hColumn : c.table.softDeleteColumn = some column) :
    c.table.idColumn ≠ column ∧ c.table.tenantColumn ≠ column ∧ c.keyColumn ≠ column := by
  obtain ⟨-, key, hKey, hIsKey⟩ := c.exists_key
  have hId := h column hColumn [c.table.idColumn] List.mem_cons_self
  have hOut := h column hColumn key (List.mem_cons_of_mem _ hKey)
  refine ⟨?_, ?_, ?_⟩
  · rintro rfl
    exact hId List.mem_cons_self
  · rintro rfl
    exact hOut ((hIsKey _).mpr (.inl rfl))
  · rintro rfl
    exact hOut ((hIsKey _).mpr (.inr rfl))

theorem encoded_spec (c : SharedKey ε ρ) (e : ε) :
    (c.encoded e).cell c.table.tenantColumn = .string c.tenant.text ∧
      (c.encoded e).cell c.keyColumn = c.key ∧ c.key ≠ .null := by
  refine ⟨?_, Store.cell_encodeRow (c.encodes e) c.exists_key.1 c.keyField_ne (c.keyed e)⟩
  rw [Row.cell, Store.encodeRow_carries (c.encodes e)]
  rfl

namespace Version

/-- Every version of the row belongs to the tenant and holds the key. -/
theorem cells (h : c.Version e row) : row.cell c.table.tenantColumn = .string c.tenant.text ∧
    row.cell c.keyColumn = c.key := by
  induction h with
  | drawn m =>
    obtain ⟨hTenant, hKey, hNull⟩ := c.encoded_spec e
    unfold Memory.drawn withId
    split
    · rename_i hId
      -- An id is drawn only where there is none, so the key is not the id.
      have hOther : c.keyColumn ≠ c.table.idColumn := by
        intro hEq
        rw [← hEq, hKey, isNull_iff] at hId
        exact hNull hId
      rw [Row.cell_insert_of_ne _ _ c.resolution.idColumn_ne_tenantColumn.symm,
        Row.cell_insert_of_ne _ _ hOther]
      exact ⟨hTenant, hKey⟩
    · exact ⟨hTenant, hKey⟩
  | deleted h hColumn hApart now ih =>
    obtain ⟨-, hTenant, hKey⟩ := hApart.ne hColumn
    rw [Row.cell_insert_of_ne _ _ hTenant, Row.cell_insert_of_ne _ _ hKey]
    exact ih

theorem key_ne_null (_ : c.Version e row) : c.key ≠ .null := (c.encoded_spec e).2.2

theorem ownedBy (h : c.Version e row) : Memory.ownedBy c.table c.tenant row := by
  rw [Memory.ownedBy, h.cells.1, Value.ofTenant_matchesCell]
  exact decide_eq_true rfl

/-- The look-up finds every version of the row. -/
theorem selects (h : c.Version e row) :
    Memory.selects c.table c.tenant (IdempotentWriter.keyConditions c.keyColumn c.key) row := by
  have hMatches := Value.matchesCell_self h.key_ne_null
  rw [Memory.selects, h.ownedBy, Bool.true_and]
  simpa [IdempotentWriter.keyConditions, Condition.holds, Test.holds, h.cells.2] using hMatches

/-- A row that collides with it on the key in question has that key. -/
theorem hasKey_of_agreeOn (h : c.Version e row) {key : List String} (hKey : c.IsKey key)
    (hAgree : AgreeOn key row other) : c.hasKey other := by
  have hTenant := hAgree _ ((hKey _).mpr (.inl rfl))
  have hSame := hAgree _ ((hKey _).mpr (.inr rfl))
  rw [h.cells.1] at hTenant
  rw [h.cells.2] at hSame
  rw [hasKey, Memory.ownedBy, Json.eq_of_sameCell_tenant hTenant, Value.ofTenant_matchesCell, hSame]
  simp

/-- Two versions of rows collide. -/
theorem not_apart {e' : ε} (h : c.Version e row) (h' : c.Version e' other) :
    ¬ Apart c.table row other := by
  obtain ⟨-, key, hKey, hIsKey⟩ := c.exists_key
  intro hApart
  refine hApart key (List.mem_cons_of_mem _ hKey) fun column hColumn => ?_
  rcases (hIsKey column).mp hColumn with rfl | rfl
  · rw [h.cells.1, h'.cells.1]
    exact Json.sameCell_self nofun
  · rw [h.cells.2, h'.cells.2]
    exact Json.sameCell_self h.key_ne_null

theorem hasKey (h : c.Version e row) : c.hasKey row := by
  rw [SharedKey.hasKey, h.ownedBy, h.cells.2, Json.sameCell_self h.key_ne_null]
  rfl

end Version

theorem hasKey_of_selects
    (h : selects c.table c.tenant (IdempotentWriter.keyConditions c.keyColumn c.key) row) :
    c.hasKey row := by
  rw [selects, Bool.and_eq_true] at h
  have hMatches : (Value.ofJson c.key).matchesCell (row.cell c.keyColumn) := by
    simpa [IdempotentWriter.keyConditions, Condition.holds, Test.holds] using h.2
  rw [hasKey, h.1, hMatches]
  simp

theorem countP_hasKey {rows : List Row} (h : ∀ row ∈ rows, c.hasKey row = false) :
    rows.countP c.hasKey = 0 :=
  List.countP_eq_zero.mpr fun row hRow => by simp [h row hRow]

/-- For a plain key, what has the key is what the check of unique keys takes for the same. -/
theorem hasKey_iff_of_plain (hPlain : c.key.Plain) (row : Row) : c.hasKey row ↔
    ownedBy c.table c.tenant row ∧ Json.sameCell c.key (row.cell c.keyColumn) := by
  rw [hasKey, Bool.and_eq_true, Bool.or_eq_true]
  constructor
  · rintro ⟨hOwned, hSame | hMatches⟩
    · exact ⟨hOwned, hSame⟩
    · exact ⟨hOwned, Value.sameCell_of_plain hPlain hMatches⟩
  · rintro ⟨hOwned, hSame⟩
    exact ⟨hOwned, .inl hSame⟩

/-! ## Turns of a client -/

/-- How far the save of a client has come after some turns. -/
inductive Phase (c : SharedKey ε ρ) (e : ε) : Program (ρ e) (Insertion (ρ e)) → Nat → Prop
  | fresh : Phase c e ((c.writer e).save (c.record e)) 0
  | refused : Phase c e ((c.writer e).lookUp (c.record e) c.key) 1
  | retrying : Phase c e ((c.writer e).retry (c.record e)) 2
  | ended {p : Program (ρ e) (Insertion (ρ e))} {outcome : Except Failure (Insertion (ρ e))}
      {n : Nat} (h : p.outcome? = some outcome) : Phase c e p (n + 1)

/-- What a turn does: it inserts a row with the key where there is none, finds one and ends, or
passes without either. -/
inductive Effect (c : SharedKey ε ρ) (e : ε) (p : Program (ρ e) (Insertion (ρ e))) (m : Memory) :
    Program (ρ e) (Insertion (ρ e)) → Memory → Prop
  | inserts {p' m'} {row : Row} (hVersion : c.Version e row)
      (hFree : ∀ other ∈ m.rows c.table.name, c.hasKey other = false)
      (hRows : m'.rows c.table.name = m.rows c.table.name ++ [row])
      (hOutcome : p'.outcome? = some ((c.writer e).answered .inserted row)) : Effect c e p m p' m'
  | finds {p' m'} {row : Row} (hRow : row ∈ m.rows c.table.name) (hKey : c.hasKey row)
      (hRows : m'.rows c.table.name = m.rows c.table.name)
      (hOutcome : p'.outcome? = some ((c.writer e).answered .existing row)) : Effect c e p m p' m'
  | passes {p' m'} (hRows : m'.rows c.table.name = m.rows c.table.name)
      (hOutcome : ∀ insertion, p'.outcome? = some (.ok insertion) →
        p.outcome? = some (.ok insertion)) : Effect c e p m p' m'

section Turns

variable {now : Instant} {p : Program (ρ e) (Insertion (ρ e))} {n : Nat}

theorem awaits_save (c : SharedKey ε ρ) (e : ε) (now : Instant) (m : Memory) :
    ∃ next, (World.still (c.active e) now).Awaits ((c.writer e).save (c.record e)) m
      (.insert c.table [c.encoded e]) next :=
  ⟨_, IdempotentWriter.awaits_save (w := c.writer e) (c.reports e) (c.encodes e) (c.keyed e) m⟩

theorem awaits_lookUp (c : SharedKey ε ρ) (e : ε) (now : Instant) (m : Memory) :
    ∃ next, (World.still (c.active e) now).Awaits ((c.writer e).lookUp (c.record e) c.key) m
      (.select c.table c.tenant
        ⟨IdempotentWriter.keyConditions c.keyColumn c.key, [], some 1, none⟩) next :=
  ⟨_, IdempotentWriter.awaits_lookUp (w := c.writer e) (c.reports e) c.exists_key.1 c.keyField_ne
    (c.encoded_spec e).2.2 (c.record e) m⟩

theorem awaits_retry (c : SharedKey ε ρ) (e : ε) (now : Instant) (m : Memory) :
    ∃ next, (World.still (c.active e) now).Awaits ((c.writer e).retry (c.record e)) m
      (.insert c.table [c.encoded e]) next :=
  ⟨_, IdempotentWriter.awaits_retry (w := c.writer e) (c.reports e) (c.encodes e) m⟩

theorem outcome?_save (c : SharedKey ε ρ) (e : ε) :
    ((c.writer e).save (c.record e)).outcome? = none := by
  obtain ⟨_, hAwaits⟩ := c.awaits_save e default .empty
  exact hAwaits.outcome?

theorem outcome?_lookUp (c : SharedKey ε ρ) (e : ε) :
    ((c.writer e).lookUp (c.record e) c.key).outcome? = none := by
  obtain ⟨_, hAwaits⟩ := c.awaits_lookUp e default .empty
  exact hAwaits.outcome?

/-- Where a row of a client is let in, there is no row with the key. -/
theorem Version.free {rows : List Row} (h : c.Version e row)
    (hVersions : ∀ row ∈ rows, c.hasKey row → ∃ e, c.Version e row)
    (hUnique : checkUnique c.table rows row = .ok ()) : ∀ other ∈ rows, c.hasKey other = false := by
  intro other hOther
  by_contra hKey
  obtain ⟨e', hVersion⟩ := hVersions other hOther (by simpa using hKey)
  exact h.not_apart hVersion (checkUnique_eq_ok_iff.mp hUnique other hOther)

/-- Every turn of a client takes its save one step further, in one of the three ways. -/
theorem Phase.turn (hVersions : ∀ row ∈ m.rows c.table.name, c.hasKey row → ∃ e, c.Version e row)
    (now : Instant) (h : c.Phase e p n) :
    c.Phase e ((World.still (c.active e) now).turn p m).1 (n + 1) ∧
      c.Effect e p m ((World.still (c.active e) now).turn p m).1
        ((World.still (c.active e) now).turn p m).2 := by
  have hFree := (Version.drawn (c := c) (e := e) m).free hVersions
  cases h with
  | fresh =>
    rcases IdempotentWriter.turn_save (w := c.writer e) (c.reports e) (c.encodes e) (c.keyed e) m
      with ⟨hUnique, hRows, hOutcome⟩ | ⟨cause, -, hSame, hLookUp⟩
    · exact ⟨.ended hOutcome, .inserts (.drawn m) (hFree hUnique) hRows hOutcome⟩
    · rw [hLookUp]
      refine ⟨.refused, .passes (hSame _) ?_⟩
      intro insertion hOutcome
      cases (c.outcome?_lookUp e).symm.trans hOutcome
  | refused =>
    obtain ⟨hSame, hFound⟩ := IdempotentWriter.turn_lookUp (w := c.writer e) (c.reports e)
      c.exists_key.1 c.keyField_ne (c.encoded_spec e).2.2 (c.record e) m
    have hRows := congrArg (Memory.rows · c.table.name) hSame
    split at hFound
    · rename_i row hRow
      exact ⟨.ended hFound, .finds (List.mem_of_find?_eq_some hRow)
        (hasKey_of_selects (List.find?_some hRow)) hRows hFound⟩
    · obtain ⟨_, hAwaits⟩ := c.awaits_retry e now m
      rw [hFound]
      refine ⟨.retrying, .passes hRows ?_⟩
      intro insertion hOutcome
      cases hAwaits.outcome?.symm.trans hOutcome
  | retrying =>
    rcases IdempotentWriter.turn_retry (w := c.writer e) (c.reports e) (c.encodes e) m with
      ⟨hUnique, hRows, hOutcome⟩ | ⟨cause, -, hSame, hFails⟩
    · exact ⟨.ended hOutcome, .inserts (.drawn m) (hFree hUnique) hRows hOutcome⟩
    · refine ⟨.ended hFails, .passes (hSame _) ?_⟩
      intro insertion hOutcome
      cases hFails.symm.trans hOutcome
  | ended hOver =>
    rw [World.turn_over hOver]
    exact ⟨.ended hOver, .passes rfl fun _ hOutcome => hOutcome⟩

end Turns

/-! ## The invariant -/

/-- The record was decoded from a row with the id of this one. -/
def Returns (c : SharedKey ε ρ) (e : ε) (record : ρ e) (row : Row) : Prop :=
  ∃ answered, (c.writer e).store.decodeRow answered = .ok record ∧
    answered.cell c.table.idColumn = row.cell c.table.idColumn

/-- At most one row has the key, and it comes from a client; whoever has a result has that of this
row, and at most one of them inserted it. -/
structure Consistent (c : SharedKey ε ρ) (s : State ρ) : Prop where
  versions : ∀ row ∈ s.memory.rows c.table.name, c.hasKey row → ∃ e, c.Version e row
  single : (s.memory.rows c.table.name).countP c.hasKey ≤ 1
  phase : ∀ e, c.Phase e (s.program e) (s.turns e)
  returns : ∀ e insertion, s.outcome e = some (.ok insertion) →
    ∃ row ∈ s.memory.rows c.table.name, c.hasKey row ∧ c.Returns e insertion.record row
  first : ∀ e e' record record', s.outcome e = some (.ok (.inserted record)) →
    s.outcome e' = some (.ok (.inserted record')) → e = e'

/-- What the others do to the table: rows with the key stay what they are, and none is added. -/
structure Spares (c : SharedKey ε ρ) (rows rows' : List Row) : Prop where
  count : rows'.countP c.hasKey = rows.countP c.hasKey
  kept : ∀ row ∈ rows, c.hasKey row → ∃ row' ∈ rows', c.hasKey row' ∧
    row'.cell c.table.idColumn = row.cell c.table.idColumn
  versions : (∀ row ∈ rows, c.hasKey row → ∃ e, c.Version e row) →
    ∀ row ∈ rows', c.hasKey row → ∃ e, c.Version e row

namespace Spares

variable {rows rows' : List Row}

theorem refl (c : SharedKey ε ρ) (rows : List Row) : c.Spares rows rows :=
  ⟨rfl, fun row hRow hKey => ⟨row, hRow, hKey, rfl⟩, fun h => h⟩

theorem append (c : SharedKey ε ρ) (rows : List Row) {written : List Row}
    (hOther : ∀ row ∈ written, c.hasKey row = false) : c.Spares rows (rows ++ written) := by
  refine ⟨?_, ?_, ?_⟩
  · rw [List.countP_append, countP_hasKey hOther, Nat.add_zero]
  · exact fun row hRow hKey => ⟨row, List.mem_append_left _ hRow, hKey, rfl⟩
  · intro hVersions row hRow hKey
    rcases List.mem_append.mp hRow with hOld | hNew
    · exact hVersions row hOld hKey
    · rw [hOther row hNew] at hKey
      cases hKey

theorem mark (hApart : c.MarkApart) {column : String}
    (hColumn : c.table.softDeleteColumn = some column) {places : List Nat} (hPlaces : places.Nodup)
    (now : Instant) (rows : List Row) : c.Spares rows
      (changeAt (fun row => row.insert column (.string (Rfc3339.text now))) places rows) := by
  obtain ⟨hId, hTenant, hKeyColumn⟩ := hApart.ne hColumn
  have hSame : ∀ row : Row, c.hasKey (row.insert column (.string (Rfc3339.text now))) =
      c.hasKey row := by
    intro row
    rw [hasKey, hasKey, ownedBy, ownedBy, Row.cell_insert_of_ne _ _ hTenant,
      Row.cell_insert_of_ne _ _ hKeyColumn]
  refine ⟨?_, ?_, ?_⟩
  · have hMap : (changeAt _ places rows).map c.hasKey = rows.map c.hasKey := map_changeAt hSame
    have hCount := congrArg (List.countP id) hMap
    rwa [List.countP_map, List.countP_map] at hCount
  · intro row hRow hKey
    obtain ⟨i, hSome⟩ := List.mem_iff_getElem?.mp hRow
    have hAfter := getElem?_changeAt
      (fun row => row.insert column (.string (Rfc3339.text now))) hPlaces rows i
    rw [hSome] at hAfter
    split at hAfter
    · exact ⟨_, List.mem_of_getElem? hAfter, (hSame row).trans hKey,
        Row.cell_insert_of_ne _ _ hId⟩
    · exact ⟨row, List.mem_of_getElem? hAfter, hKey, rfl⟩
  · intro hVersions row hRow hKey
    obtain ⟨i, old, hOld, ⟨-, rfl⟩ | ⟨-, rfl⟩⟩ := mem_changeAt hPlaces hRow
    · exact hVersions row (List.mem_of_getElem? hOld) hKey
    · obtain ⟨e, hVersion⟩ :=
        hVersions old (List.mem_of_getElem? hOld) ((hSame old).symm.trans hKey)
      exact ⟨e, hVersion.deleted hColumn hApart now⟩

end Spares

namespace Consistent

variable {s : State ρ}

theorem initial (h : ∀ row ∈ m.rows c.table.name, c.hasKey row = false) :
    c.Consistent (c.start m) := by
  have hNone : ∀ e insertion, (c.start m).outcome e ≠ some (.ok insertion) := by
    intro e insertion hOutcome
    cases (c.outcome?_save e).symm.trans hOutcome
  refine ⟨?_, ?_, fun e => .fresh, ?_, ?_⟩
  · intro row hRow hKey
    rw [h row hRow] at hKey
    cases hKey
  · exact (countP_hasKey h).trans_le (Nat.zero_le 1)
  · intro e insertion hOutcome
    exact absurd hOutcome (hNone e insertion)
  · intro e e' record record' hOutcome
    exact absurd hOutcome (hNone e _)

/-- Whatever spares the row with the key may happen to the table. -/
theorem spare (h : c.Consistent s) {m : Memory}
    (hSpares : c.Spares (s.memory.rows c.table.name) (m.rows c.table.name)) :
    c.Consistent { s with memory := m } := by
  refine ⟨hSpares.versions h.versions, hSpares.count.trans_le h.single, h.phase, ?_, h.first⟩
  intro e insertion hOutcome
  obtain ⟨row, hRow, hKey, answered, hDecode, hId⟩ := h.returns e insertion hOutcome
  obtain ⟨row', hRow', hKey', hId'⟩ := hSpares.kept row hRow hKey
  exact ⟨row', hRow', hKey', answered, hDecode, hId.trans hId'.symm⟩

end Consistent

namespace Effect

variable {p p' : Program (ρ e) (Insertion (ρ e))} {m' : Memory}

theorem kept (h : c.Effect e p m p' m') :
    ∀ row ∈ m.rows c.table.name, row ∈ m'.rows c.table.name := by
  intro row hRow
  cases h with
  | inserts _ _ hRows _ => exact hRows ▸ List.mem_append_left _ hRow
  | finds _ _ hRows _ => exact hRows ▸ hRow
  | passes hRows _ => exact hRows ▸ hRow

theorem versions (h : c.Effect e p m p' m')
    (hVersions : ∀ row ∈ m.rows c.table.name, c.hasKey row → ∃ e, c.Version e row) :
    ∀ row ∈ m'.rows c.table.name, c.hasKey row → ∃ e, c.Version e row := by
  cases h with
  | inserts hVersion _ hRows _ =>
    intro row hRow hKey
    rw [hRows, List.mem_append, List.mem_singleton] at hRow
    rcases hRow with hOld | rfl
    · exact hVersions row hOld hKey
    · exact ⟨e, hVersion⟩
  | finds _ _ hRows _ => exact hRows ▸ hVersions
  | passes hRows _ => exact hRows ▸ hVersions

theorem single (h : c.Effect e p m p' m')
    (hSingle : (m.rows c.table.name).countP c.hasKey ≤ 1) :
    (m'.rows c.table.name).countP c.hasKey ≤ 1 := by
  cases h with
  | inserts _ hFree hRows _ =>
    rw [hRows, List.countP_append, countP_hasKey hFree, Nat.zero_add]
    exact List.countP_le_length
  | finds _ _ hRows _ => exact hRows ▸ hSingle
  | passes hRows _ => exact hRows ▸ hSingle

/-- A client that ends with a result has that of a row with the key. If it inserted the row then no
other row had the key before. -/
theorem ok (h : c.Effect e p m p' m') {insertion : Insertion (ρ e)}
    (hOutcome : p'.outcome? = some (.ok insertion)) :
    p.outcome? = some (.ok insertion) ∨
      (∃ row ∈ m'.rows c.table.name, c.hasKey row ∧ c.Returns e insertion.record row) ∧
        ∀ record, insertion = .inserted record →
          ∀ row ∈ m.rows c.table.name, c.hasKey row = false := by
  cases h with
  | @inserts row hVersion hFree hRows hInserted =>
    obtain ⟨record, hDecode, rfl⟩ := IdempotentWriter.answered_eq_ok.mp
      (Option.some.inj (hInserted.symm.trans hOutcome))
    refine .inr ⟨⟨row, ?_, hVersion.hasKey, row, hDecode, rfl⟩, fun _ _ => hFree⟩
    exact hRows ▸ List.mem_append_right _ List.mem_cons_self
  | @finds row hRow hKey hRows hExisting =>
    obtain ⟨record, hDecode, rfl⟩ := IdempotentWriter.answered_eq_ok.mp
      (Option.some.inj (hExisting.symm.trans hOutcome))
    refine .inr ⟨⟨row, hRows ▸ hRow, hKey, row, hDecode, rfl⟩, ?_⟩
    intro record' hInserted
    cases hInserted
  | passes hRows hPasses => exact .inl (hPasses insertion hOutcome)

end Effect

section Steps

variable [DecidableEq ε] {s : State ρ}

theorem outcome_next (c : SharedKey ε ρ) (s : State ρ) (e : ε) (now : Instant) :
    (c.next s (.turn e now)).outcome e =
      ((World.still (c.active e) now).turn (s.program e) s.memory).1.outcome? :=
  congrArg Program.outcome? (Function.update_self e _ s.program)

theorem outcome_next_of_ne (c : SharedKey ε ρ) (s : State ρ) {e e' : ε} (hOther : e' ≠ e)
    (now : Instant) : (c.next s (.turn e now)).outcome e' = s.outcome e' :=
  congrArg Program.outcome? (Function.update_of_ne hOther _ s.program)

theorem Consistent.turn (h : c.Consistent s) (e : ε) (now : Instant) :
    c.Consistent (c.next s (.turn e now)) := by
  obtain ⟨hPhase, hEffect⟩ := (h.phase e).turn h.versions now
  -- Whoever has a result had it before, or it is the client whose turn it was.
  have hOk : ∀ e' insertion, (c.next s (.turn e now)).outcome e' = some (.ok insertion) →
      s.outcome e' = some (.ok insertion) ∨ e' = e ∧
        (∃ row ∈ (c.next s (.turn e now)).memory.rows c.table.name,
          c.hasKey row ∧ c.Returns e' insertion.record row) ∧
        ∀ record, insertion = .inserted record →
          ∀ row ∈ s.memory.rows c.table.name, c.hasKey row = false := by
    intro e' insertion hOutcome
    by_cases hOther : e' = e
    · subst hOther
      rw [outcome_next] at hOutcome
      exact (hEffect.ok hOutcome).imp_right fun hNew => ⟨rfl, hNew⟩
    · rw [outcome_next_of_ne c s hOther] at hOutcome
      exact .inl hOutcome
  have hFirst : ∀ e' record, (c.next s (.turn e now)).outcome e' = some (.ok (.inserted record)) →
      s.outcome e' = some (.ok (.inserted record)) ∨ e' = e ∧
        ∀ e'' insertion, s.outcome e'' ≠ some (.ok insertion) := by
    intro e' record hOutcome
    refine (hOk e' _ hOutcome).imp_right ?_
    rintro ⟨hSelf, -, hFree⟩
    refine ⟨hSelf, fun e'' insertion hBefore => ?_⟩
    obtain ⟨row, hRow, hKey, -⟩ := h.returns e'' insertion hBefore
    rw [hFree record rfl row hRow] at hKey
    cases hKey
  refine ⟨hEffect.versions h.versions, hEffect.single h.single, ?_, ?_, ?_⟩
  · intro e'
    by_cases hOther : e' = e
    · subst hOther
      simp only [next, Function.update_self]
      exact hPhase
    · simp only [next, Function.update_of_ne hOther]
      exact h.phase e'
  · intro e' insertion hOutcome
    rcases hOk e' insertion hOutcome with hBefore | ⟨-, hReturns, -⟩
    · obtain ⟨row, hRow, hReturns⟩ := h.returns e' insertion hBefore
      exact ⟨row, hEffect.kept row hRow, hReturns⟩
    · exact hReturns
  · intro e' e'' record record' hOutcome hOutcome'
    rcases hFirst e' record hOutcome with hBefore | ⟨rfl, hNone⟩
    · rcases hFirst e'' record' hOutcome' with hBefore' | ⟨-, hNone⟩
      · exact h.first e' e'' record record' hBefore hBefore'
      · exact absurd hBefore (hNone e' _)
    · rcases hFirst e'' record' hOutcome' with hBefore' | ⟨rfl, -⟩
      · exact absurd hBefore' (hNone e'' _)
      · rfl

/-- A step is the turn of a client, or it spares the row with the key. -/
theorem next_cases {event : Event ε} (hPermits : c.Permits s event) :
    (∃ e now, event = .turn e now) ∨
      c.next s event = { s with memory := (c.next s event).memory } ∧
        c.Spares (s.memory.rows c.table.name) ((c.next s event).memory.rows c.table.name) := by
  cases event with
  | turn e now => exact .inl ⟨e, now, rfl⟩
  | insert rows =>
    refine .inr ⟨rfl, ?_⟩
    rcases rows_insert s.memory c.table rows with ⟨cause, -, hSame⟩ | ⟨written, hOk, hRows⟩
    · have hRows : (c.next s (.insert rows)).memory.rows c.table.name =
          s.memory.rows c.table.name := hSame c.table.name
      rw [hRows]
      exact .refl c _
    · have hRows : (c.next s (.insert rows)).memory.rows c.table.name =
          s.memory.rows c.table.name ++ written := hRows
      rw [hRows]
      exact .append c _ (hPermits written hOk)
  | softDelete owner filter now =>
    refine .inr ⟨rfl, ?_⟩
    have hContext : c.store.context.reports (some owner) = some owner := rfl
    rcases Store.rows_softDelete hContext filter s.memory with
      hSame | ⟨column, places, hColumn, hPlaces, hRows⟩
    · have hRows : (c.next s (.softDelete owner filter now)).memory = s.memory := hSame
      rw [hRows]
      exact .refl c _
    · have hRows : (c.next s (.softDelete owner filter now)).memory.rows c.table.name =
          changeAt (fun row => row.insert column (.string (Rfc3339.text now))) places
            (s.memory.rows c.table.name) :=
        (congrArg (Memory.rows · c.table.name) hRows).trans (rows_setRows_self _ _ _)
      rw [hRows]
      exact .mark hPermits hColumn hPlaces now _

theorem Reachable.permitted (h : c.Reachable c.Undisturbed s) : c.Reachable c.Permits s := by
  induction h with
  | start m hNone => exact .start m hNone
  | next h event hCalm ih => exact ih.next event hCalm.1

theorem Reachable.consistent (h : c.Reachable c.Permits s) : c.Consistent s := by
  induction h with
  | start m hNone => exact .initial hNone
  | next h event hPermits ih =>
    rcases next_cases hPermits with ⟨e, now, rfl⟩ | ⟨hState, hSpares⟩
    · exact ih.turn e now
    · rw [hState]
      exact ih.spare hSpares

end Steps

/-! ## Undisturbed saves -/

/-- Every client can read the row of every client, whatever id was drawn for it and whether or not
it is marked as deleted. -/
def Decodable (c : SharedKey ε ρ) : Prop :=
  ∀ e e' row, c.Version e row → ∃ record, (c.writer e').store.decodeRow row = .ok record

/-- Where nothing but the key in question is collided on, the row with the key is there as soon as
anybody has taken a turn, somebody has the result that it inserted the row, and nobody fails. -/
structure Settled (c : SharedKey ε ρ) (s : State ρ) : Prop extends c.Consistent s where
  author : 0 < (s.memory.rows c.table.name).countP c.hasKey →
    ∃ e record, s.outcome e = some (.ok (.inserted record))
  seen : ∀ e, s.turns e ≠ 0 → 0 < (s.memory.rows c.table.name).countP c.hasKey
  ended : ∀ e, (s.turns e = 0 ∧ s.program e = (c.writer e).save (c.record e)) ∨
    (s.turns e = 1 ∧ s.program e = (c.writer e).lookUp (c.record e) c.key) ∨
      ∃ insertion, s.outcome e = some (.ok insertion)

variable {s : State ρ} {now : Instant}

/-- A client whose row is refused on no key but the one in question meets a row with that key. -/
theorem hasKey_of_refused (hCalm : c.Undisturbed s (.turn e now))
    (hCommand : (World.still (c.active e) now).command? (s.program e) s.memory =
      some (.insert c.table [c.encoded e])) {cause : Collision}
    (hRefused : checkUnique c.table (s.memory.rows c.table.name)
      (s.memory.drawn c.table (c.encoded e)) = .error (.conflict cause)) :
    0 < (s.memory.rows c.table.name).countP c.hasKey := by
  have hCollides : ¬ ∀ other ∈ s.memory.rows c.table.name,
      Apart c.table (s.memory.drawn c.table (c.encoded e)) other := by
    rw [← checkUnique_eq_ok_iff, hRefused]
    exact nofun
  simp only [Apart, not_forall, not_not] at hCollides
  obtain ⟨other, hOther, key, hKey, hAgree⟩ := hCollides
  have hIsKey := hCalm.2 e now _ rfl hCommand _ List.mem_cons_self other hOther key hKey hAgree
  exact List.countP_pos_iff.mpr
    ⟨other, hOther, (Version.drawn s.memory).hasKey_of_agreeOn hIsKey hAgree⟩

namespace Settled

/-- A turn of a client that is not disturbed: it inserts its row, or there is a row with the key and
the client looks for it or has a result. -/
theorem turn_cases (h : c.Settled s) (hDecodable : c.Decodable)
    (hCalm : c.Undisturbed s (.turn e now)) :
    (∃ record, ((World.still (c.active e) now).turn (s.program e) s.memory).1.outcome? =
        some (.ok (.inserted record))) ∨
      0 < (s.memory.rows c.table.name).countP c.hasKey ∧
        ((World.still (c.active e) now).turn (s.program e) s.memory).2.rows c.table.name =
          s.memory.rows c.table.name ∧
        (s.turns e = 0 ∧ ((World.still (c.active e) now).turn (s.program e) s.memory).1 =
            (c.writer e).lookUp (c.record e) c.key ∨
          ∃ insertion, ((World.still (c.active e) now).turn (s.program e) s.memory).1.outcome? =
            some (.ok insertion)) := by
  rcases h.ended e with ⟨hTurns, hProgram⟩ | ⟨hTurns, hProgram⟩ | ⟨insertion, hOver⟩
  · obtain ⟨_, hAwaits⟩ := c.awaits_save e now s.memory
    have hCommand := hAwaits.command?
    rw [← hProgram] at hCommand
    rw [hProgram]
    rcases IdempotentWriter.turn_save (w := c.writer e) (c.reports e) (c.encodes e) (c.keyed e)
      s.memory with ⟨-, -, hOutcome⟩ | ⟨cause, hRefused, hSame, hLookUp⟩
    · obtain ⟨record, hDecode⟩ := hDecodable e e _ (.drawn s.memory)
      refine .inl ⟨record, hOutcome.trans (congrArg some ?_)⟩
      exact IdempotentWriter.answered_eq_ok.mpr ⟨record, hDecode, rfl⟩
    · exact .inr ⟨hasKey_of_refused hCalm hCommand hRefused, hSame _, .inl ⟨hTurns, hLookUp⟩⟩
  · have hSeen := h.seen e (by omega)
    obtain ⟨hSame, hFound⟩ := IdempotentWriter.turn_lookUp (w := c.writer e)
      (c.reports e) c.exists_key.1 c.keyField_ne (c.encoded_spec e).2.2 (c.record e) s.memory
    rw [hProgram]
    refine .inr ⟨hSeen, congrArg (Memory.rows · c.table.name) hSame, .inr ?_⟩
    split at hFound
    · rename_i row hRow
      obtain ⟨e', hVersion⟩ := h.versions row (List.mem_of_find?_eq_some hRow)
        (hasKey_of_selects (List.find?_some hRow))
      obtain ⟨record, hDecode⟩ := hDecodable e' e row hVersion
      refine ⟨.existing record, hFound.trans (congrArg some ?_)⟩
      exact IdempotentWriter.answered_eq_ok.mpr ⟨record, hDecode, rfl⟩
    · rename_i hNone
      obtain ⟨row, hRow, hKey⟩ := List.countP_pos_iff.mp hSeen
      obtain ⟨e', hVersion⟩ := h.versions row hRow hKey
      exact absurd hVersion.selects (List.find?_eq_none.mp hNone row hRow)
  · refine .inr ⟨?_, ?_, .inr ⟨insertion, ?_⟩⟩
    · obtain ⟨row, hRow, hKey, -⟩ := h.returns e insertion hOver
      exact List.countP_pos_iff.mpr ⟨row, hRow, hKey⟩
    · rw [World.turn_over hOver]
    · rw [World.turn_over hOver]
      exact hOver

theorem initial (h : ∀ row ∈ m.rows c.table.name, c.hasKey row = false) :
    c.Settled (c.start m) := by
  refine ⟨.initial h, ?_, fun e hTurns => absurd rfl hTurns, fun e => .inl ⟨rfl, rfl⟩⟩
  intro hCount
  have hNone : ((c.start m).memory.rows c.table.name).countP c.hasKey = 0 := countP_hasKey h
  omega

theorem spare (h : c.Settled s) {m : Memory}
    (hSpares : c.Spares (s.memory.rows c.table.name) (m.rows c.table.name)) :
    c.Settled { s with memory := m } :=
  ⟨h.toConsistent.spare hSpares, fun hCount => h.author (hSpares.count ▸ hCount),
    fun e hTurns => hSpares.count.symm ▸ h.seen e hTurns, h.ended⟩

variable [DecidableEq ε]

theorem turn (h : c.Settled s) (hDecodable : c.Decodable)
    (hCalm : c.Undisturbed s (.turn e now)) : c.Settled (c.next s (.turn e now)) := by
  have hConsistent := h.toConsistent.turn e now
  have hSelf := outcome_next c s e now
  -- Whatever ended stays as it is.
  have hKept : ∀ e' outcome, s.outcome e' = some outcome →
      (c.next s (.turn e now)).outcome e' = some outcome := by
    intro e' outcome hOutcome
    by_cases hOther : e' = e
    · subst hOther
      rw [hSelf, World.turn_over hOutcome]
      exact hOutcome
    · rw [outcome_next_of_ne c s hOther]
      exact hOutcome
  have hCases := h.turn_cases hDecodable hCalm
  refine ⟨hConsistent, ?_, ?_, ?_⟩
  · intro _
    rcases hCases with ⟨record, hInserted⟩ | ⟨hSeen, -, -⟩
    · exact ⟨e, record, hSelf.trans hInserted⟩
    · obtain ⟨e', record, hInserted⟩ := h.author hSeen
      exact ⟨e', record, hKept e' _ hInserted⟩
  · intro e' _
    rcases hCases with ⟨record, hInserted⟩ | ⟨hSeen, hRows, -⟩
    · obtain ⟨row, hRow, hKey, -⟩ := hConsistent.returns e _ (hSelf.trans hInserted)
      exact List.countP_pos_iff.mpr ⟨row, hRow, hKey⟩
    · have hSame : (c.next s (.turn e now)).memory.rows c.table.name =
          s.memory.rows c.table.name := hRows
      rw [hSame]
      exact hSeen
  · intro e'
    by_cases hOther : e' = e
    · subst hOther
      rcases hCases with ⟨record, hInserted⟩ | ⟨-, -, ⟨hTurns, hLookUp⟩ | ⟨insertion, hOk⟩⟩
      · exact .inr (.inr ⟨_, hSelf.trans hInserted⟩)
      · refine .inr (.inl ⟨?_, ?_⟩)
        · simp [next, hTurns]
        · simpa only [next, Function.update_self] using hLookUp
      · exact .inr (.inr ⟨insertion, hSelf.trans hOk⟩)
    · rw [outcome_next_of_ne c s hOther]
      simp only [next, Function.update_of_ne hOther]
      exact h.ended e'

end Settled

section Steps

variable [DecidableEq ε]

theorem Reachable.settled (hDecodable : c.Decodable) (h : c.Reachable c.Undisturbed s) :
    c.Settled s := by
  induction h with
  | start m hNone => exact .initial hNone
  | next h event hCalm ih =>
    rcases next_cases hCalm.1 with ⟨e, now, rfl⟩ | ⟨hState, hSpares⟩
    · exact ih.turn hDecodable hCalm
    · rw [hState]
      exact ih.spare hSpares

/-- **Saves under one key are idempotent.** For a plain key, the rows that have it are those that
the check of unique keys takes for the same. After any permitted events
1. at most one row has the key,
2. at most one client has the result that it inserted a row,
3. whoever has a result has that of the row with the key, deleted or not,
4. and nobody takes more than three turns.

If besides no insertion of a client collides with anything but the key, and every client can read
the rows of all, then
5. whoever has ended has a result, and nobody takes more than two turns,
6. and as soon as anybody has taken a turn exactly one client has inserted a row. -/
theorem saves_idempotent (c : SharedKey ε ρ) (h : c.Reachable c.Permits s) :
    (c.key.Plain → ∀ row, c.hasKey row ↔
      ownedBy c.table c.tenant row ∧ Json.sameCell c.key (row.cell c.keyColumn)) ∧
    (s.memory.rows c.table.name).countP c.hasKey ≤ 1 ∧
    (∀ e e' record record', s.outcome e = some (.ok (.inserted record)) →
      s.outcome e' = some (.ok (.inserted record')) → e = e') ∧
    (∀ e insertion, s.outcome e = some (.ok insertion) →
      ∃ row ∈ s.memory.rows c.table.name, c.hasKey row ∧ c.Returns e insertion.record row ∧
        ((c.writer e).store.KeepsCell c.descriptor.idField (row.cell c.table.idColumn) →
          (c.writer e).store.recordId insertion.record =
            .ok (.ofJson (row.cell c.table.idColumn)))) ∧
    (∀ e, 3 ≤ s.turns e → ∃ outcome, s.outcome e = some outcome) ∧
    (c.Decodable → c.Reachable c.Undisturbed s →
      (∀ e outcome, s.outcome e = some outcome → ∃ insertion, outcome = .ok insertion) ∧
      (∀ e, 2 ≤ s.turns e → ∃ insertion, s.outcome e = some (.ok insertion)) ∧
      ((∃ e, s.turns e ≠ 0) → ∃! e, ∃ record, s.outcome e = some (.ok (.inserted record)))) := by
  have hConsistent := h.consistent
  refine ⟨hasKey_iff_of_plain, hConsistent.single, hConsistent.first, ?_, ?_, ?_⟩
  · intro e insertion hOutcome
    obtain ⟨row, hRow, hKey, answered, hDecode, hId⟩ := hConsistent.returns e insertion hOutcome
    refine ⟨row, hRow, hKey, ⟨answered, hDecode, hId⟩, fun hKeeps => ?_⟩
    rw [← hId] at hKeeps ⊢
    exact hKeeps.recordId hDecode
  · intro e hTurns
    have hPhase := hConsistent.phase e
    unfold State.outcome
    generalize s.program e = p at hPhase
    generalize s.turns e = n at hPhase hTurns
    cases hPhase with
    | ended hOver => exact ⟨_, hOver⟩
    | _ => omega
  · intro hDecodable hUndisturbed
    have hSettled := hUndisturbed.settled hDecodable
    refine ⟨?_, ?_, ?_⟩
    · intro e outcome hOutcome
      rcases hSettled.ended e with ⟨-, hProgram⟩ | ⟨-, hProgram⟩ | ⟨insertion, hOk⟩
      · rw [State.outcome, hProgram, outcome?_save] at hOutcome
        cases hOutcome
      · rw [State.outcome, hProgram, outcome?_lookUp] at hOutcome
        cases hOutcome
      · exact ⟨insertion, Option.some.inj (hOutcome.symm.trans hOk)⟩
    · intro e hTurns
      rcases hSettled.ended e with ⟨hFew, -⟩ | ⟨hFew, -⟩ | hOk
      · omega
      · omega
      · exact hOk
    · rintro ⟨e, hTurns⟩
      obtain ⟨author, record, hInserted⟩ := hSettled.author (hSettled.seen e hTurns)
      refine ⟨author, ⟨record, hInserted⟩, ?_⟩
      rintro e' ⟨record', hInserted'⟩
      exact hConsistent.first e' author record' record hInserted' hInserted

end Steps

/-! ## Requests that are repeated -/

/-- A request under a key. -/
def requestRow (id : String) (key : Json) : Row :=
  .ofEntries [("id", .string id), ("tenant_id", .string Jobs.tenant.text), ("key", key)]

/-- Two clients that send one request each, under the same text. One of them stays with its tenant,
and the other one asks for the active one. -/
def requests : SharedKey Bool fun _ => Json where
  tenant := Jobs.tenant
  descriptor := { Descriptor.ofFields "requests" ["id", "tenant_id", "key"] with
    uniqueKeys := [["tenant_id", "key"]] }
  columns :=
    { table := "requests"
      pairs := ["id", "tenant_id", "key"].map fun field => ⟨field, field⟩
      fields_nodup := by decide
      columns_nodup := by decide }
  table := ⟨"requests", "id", "tenant_id", none, [["tenant_id", "key"]]⟩
  resolved := rfl
  keyField := "key"
  keyField_ne := by decide
  declared :=
    ⟨_, List.mem_cons_self, fun _ => List.mem_cons.trans (or_congr_right List.mem_singleton)⟩
  key := .string "k"
  codec _ := .json
  context e := if e then .ambient else .pinned Jobs.tenant
  active e := if e then some Jobs.tenant else none
  reports e := by cases e <;> rfl
  record e := (requestRow (if e then "a" else "b") (.string "k")).toJson
  keyed e := by cases e <;> rfl
  encoded e := requestRow (if e then "a" else "b") (.string "k")
  encodes e := by cases e <;> rfl

/-- One of the two requests is stored, and the other client is answered with it. -/
theorem requests_saved_once : ∃ s, requests.Reachable requests.Permits s ∧
    s.outcome true = some (.ok (.inserted (requestRow "a" (.string "k")).toJson)) ∧
    s.outcome false = some (.ok (.existing (requestRow "a" (.string "k")).toJson)) ∧
    (s.memory.rows "requests").countP requests.hasKey ≤ 1 ∧
    ∃! e, ∃ record, s.outcome e = some (.ok (.inserted record)) := by
  have hDecodable : requests.Decodable :=
    fun _ _ row _ => ⟨(requests.columns.toFields row).toJson, rfl⟩
  have hStart : requests.Reachable requests.Undisturbed _ := .start .empty nofun
  have hInserted := hStart.next (.turn true Jobs.epoch) <| by
    refine ⟨trivial, ?_⟩
    rintro _ _ rows ⟨⟩ - row - other hOther
    cases hOther
  have hRefused := hInserted.next (.turn false Jobs.epoch) <| by
    refine ⟨trivial, ?_⟩
    rintro _ _ rows ⟨⟩ hInsert row hRow other hOther key hKey hAgree
    cases hInsert
    cases List.mem_singleton.mp hRow
    cases List.mem_singleton.mp hOther
    rcases List.mem_cons.mp hKey with rfl | hKey
    · exact absurd hAgree (by decide +kernel)
    · cases List.mem_singleton.mp hKey
      exact fun _ => List.mem_cons.trans (or_congr_right List.mem_singleton)
  have hFound := hRefused.next (.turn false Jobs.epoch) <| by
    refine ⟨trivial, ?_⟩
    rintro _ _ rows ⟨⟩ hInsert
    cases hInsert
  have hSaved := saves_idempotent _ hFound.permitted
  exact ⟨_, hFound.permitted, rfl, rfl, hSaved.2.1,
    (hSaved.2.2.2.2.2 hDecodable hFound).2.2 ⟨true, by decide⟩⟩

/-- An array of the float zero with either sign. -/
def signedZero (negative : Bool) : Json := .array [.ofDouble { Double.zero with negative }]

/-- The check of unique keys compares arrays by their texts, which show the sign of a zero, and the
look-up compares them by value. So a client whose request collides with that of another one may be
answered with a third one, which stood under the other zero from the start. -/
theorem requests_answered_apart :
    let w : World Memory Json := .still (some Jobs.tenant) Jobs.epoch
    let m : Memory := ⟨[("requests", [requestRow "z" (signedZero true)])], 1⟩
    let first := w.run ((requests.writer true).save (requestRow "a" (signedZero false)).toJson) m
    let second :=
      w.run ((requests.writer false).save (requestRow "b" (signedZero false)).toJson) first.2
    (∀ row ∈ m.rows "requests", Json.sameCell (signedZero false) (row.cell "key") = false) ∧
      first.1 = .ok (.inserted (requestRow "a" (signedZero false)).toJson) ∧
      second.1 = .ok (.existing (requestRow "z" (signedZero true)).toJson) :=
  ⟨by decide +kernel, rfl, rfl⟩

end SharedKey

end Tenancy
