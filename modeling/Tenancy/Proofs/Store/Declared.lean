import Tenancy.Proofs.Exchanges
import Tenancy.Proofs.Renaming
import Tenancy.Proofs.Scoping
import Tenancy.Proofs.Store.Writer

/-!
# Unknown fields

An operation names fields in its filter, its patch, its order and its records (`Operation.named`).
If one of them is not declared, the operation fails with the first such field before it sends any
command; if all of them are declared, an unknown field in its result is one that the backend has
answered (`unknown_fields_first`).

The names are checked in parts. A computation that resolves some names `Checks` them: it succeeds if
they are declared, and fails with the first one that is not. A program `Vets` names if it does so
without a command. Both go along with sequencing, so a statement about an operation is put together
in the order in which the operation resolves its parts.
-/

namespace Tenancy

variable {ρ α β σ : Type}

/-! ## Declared fields -/

/-- The column map of an accepted descriptor is that of its fields. -/
theorem Descriptor.built {d : Descriptor} {columns : ColumnMap} {table : Table}
    (h : d.resolve = .ok (columns, table)) :
    ColumnMap.build table.name d.fields d.naming d.overrides = .ok columns := by
  obtain ⟨built, hBuild, h⟩ := Except.bind_eq_ok.mp h
  split at h
  · cases h
  · simp only [Except.bind_eq_ok] at h
    obtain ⟨id, -, tenant, -, deleted, -, keys, -, h⟩ := h
    cases Except.ok.inj h
    exact hBuild

namespace Store

/-- The first of these names that is no field of the table. -/
def undeclared? (s : Store ρ) (names : List String) : Option String :=
  names.find? (· ∉ s.descriptor.fields)

variable {s : Store ρ}

theorem undeclared?_append (names rest : List String) :
    s.undeclared? (names ++ rest) = (s.undeclared? names).or (s.undeclared? rest) :=
  List.find?_append

theorem undeclared?_eq_none_iff {names : List String} :
    s.undeclared? names = none ↔ ∀ name ∈ names, name ∈ s.descriptor.fields := by
  simp [undeclared?]

theorem undeclared?_singleton {field : String} (h : field ∈ s.descriptor.fields) :
    s.undeclared? [field] = none := by
  simpa [undeclared?] using h

/-- In ascending order, the first undeclared name is the least one. -/
theorem undeclared?_eq_some_iff {names : List String} (h : names.Pairwise (· < ·))
    {name : String} :
    s.undeclared? names = some name ↔ name ∈ names ∧ name ∉ s.descriptor.fields ∧
      ∀ other ∈ names, other < name → other ∈ s.descriptor.fields := by
  rw [undeclared?, List.find?_eq_some_iff_append]
  simp only [decide_eq_true_eq, Bool.not_eq_true', decide_eq_false_iff_not, not_not]
  constructor
  · rintro ⟨hName, before, after, rfl, hBefore⟩
    refine ⟨by simp, hName, ?_⟩
    intro other hOther hLt
    rcases List.mem_append.mp hOther with hMem | hMem
    · exact hBefore other hMem
    · obtain ⟨hFirst, -⟩ := List.pairwise_cons.mp (List.pairwise_append.mp h).2.1
      rcases List.mem_cons.mp hMem with rfl | hMem
      · exact absurd hLt (String.lt_irrefl _)
      · exact absurd (String.lt_trans hLt (hFirst _ hMem)) (String.lt_irrefl _)
  · rintro ⟨hMem, hName, hBefore⟩
    obtain ⟨before, after, rfl⟩ := List.append_of_mem hMem
    refine ⟨hName, before, after, rfl, fun other hOther => ?_⟩
    exact hBefore other (by simp [hOther])
      ((List.pairwise_append.mp h).2.2 other hOther name List.mem_cons_self)

theorem columns_table (s : Store ρ) : s.columns.table = s.table.name :=
  (ColumnMap.build_eq_ok_iff.mp (Descriptor.built s.resolved)).2.1

/-- A field has a column exactly if it is declared. -/
theorem exists_column?_iff {field : String} :
    (∃ column, s.columns.column? field = some column) ↔ field ∈ s.descriptor.fields := by
  simp [ColumnMap.column?_eq_some_iff_of_build (Descriptor.built s.resolved)]

theorem column?_eq_none_iff {field : String} :
    s.columns.column? field = none ↔ field ∉ s.descriptor.fields := by
  rw [← exists_column?_iff, Option.eq_none_iff_forall_ne_some, not_exists]

theorem mem_fields_of_column? {field column : String} (h : s.columns.column? field = some column) :
    field ∈ s.descriptor.fields := exists_column?_iff.mp ⟨column, h⟩

/-! ## Computations that check names -/

/-- Fails with the first of these names that is not declared, and succeeds if there is none. -/
structure Checks (s : Store ρ) (names : List String) (x : Except StoreError α) : Prop where
  refuses : ∀ field, s.undeclared? names = some field →
    x = .error (.unknownField s.table.name field)
  accepts : s.undeclared? names = none → ∃ a, x = .ok a

namespace Checks

/-- Only the first undeclared name counts. -/
theorem of_eq {names names' : List String} {x : Except StoreError α} (h : s.Checks names x)
    (hSame : s.undeclared? names' = s.undeclared? names) : s.Checks names' x :=
  ⟨fun field hField => h.refuses field (hSame ▸ hField), fun hNone => h.accepts (hSame ▸ hNone)⟩

theorem ok (a : α) : s.Checks [] (.ok a) := ⟨fun _ h => (by cases h), fun _ => ⟨a, rfl⟩⟩

theorem column (s : Store ρ) (field : String) : s.Checks [field] (s.columns.column field) := by
  by_cases hField : field ∈ s.descriptor.fields
  · obtain ⟨column, hColumn⟩ := exists_column?_iff.mpr hField
    refine ⟨fun other hOther => ?_, fun _ => ⟨column, ColumnMap.column_eq_ok_iff.mpr hColumn⟩⟩
    rw [undeclared?_singleton hField] at hOther
    cases hOther
  · have hFirst : s.undeclared? [field] = some field := by simp [undeclared?, hField]
    refine ⟨fun other hOther => ?_, fun hNone => ?_⟩
    · cases hFirst.symm.trans hOther
      rw [ColumnMap.column, column?_eq_none_iff.mpr hField, columns_table]
    · cases hFirst.symm.trans hNone

theorem bind {names rest : List String} {x : Except StoreError α} {f : α → Except StoreError β}
    (h : s.Checks names x) (hf : ∀ a, x = .ok a → s.Checks rest (f a)) :
    s.Checks (names ++ rest) (x >>= f) := by
  refine ⟨fun field hField => ?_, fun hNone => ?_⟩
  · rw [undeclared?_append, Option.or_eq_some_iff] at hField
    rcases hField with hFirst | ⟨hNone, hRest⟩
    · rw [h.refuses field hFirst]
      rfl
    · obtain ⟨a, ha⟩ := h.accepts hNone
      rw [ha]
      exact (hf a ha).refuses field hRest
  · rw [undeclared?_append, Option.or_eq_none_iff] at hNone
    obtain ⟨a, ha⟩ := h.accepts hNone.1
    obtain ⟨b, hb⟩ := (hf a ha).accepts hNone.2
    exact ⟨b, Except.bind_eq_ok.mpr ⟨a, ha, hb⟩⟩

/-- What is done with the result of a check does not fail. -/
theorem map {names : List String} {x : Except StoreError α} (h : s.Checks names x) (f : α → β) :
    s.Checks names (do pure (f (← x))) := by
  have hBind := h.bind fun a _ => ok (f a)
  rwa [List.append_nil] at hBind

theorem mapM {names : α → List String} {f : α → Except StoreError β} {xs : List α}
    (h : ∀ x ∈ xs, s.Checks (names x) (f x)) : s.Checks (xs.flatMap names) (xs.mapM f) := by
  induction xs with
  | nil => exact ok []
  | cons x xs ih =>
    obtain ⟨hFirst, hRest⟩ := List.forall_mem_cons.mp h
    rw [List.mapM_cons, List.flatMap_cons]
    exact hFirst.bind fun y _ => (ih hRest).map (y :: ·)

end Checks

/-! ## Filters, patches and orders -/

/-- The tenant field is declared, so it does not matter if it is left out. -/
theorem undeclared?_filter_tenant (name : α → String) (xs : List α) :
    s.undeclared? (xs.map name) =
      s.undeclared? ((xs.filter fun x => !s.isTenantField (name x)).map name) := by
  have hTenant := mem_fields_of_column? s.resolution.tenantColumn
  rw [undeclared?, undeclared?, List.find?_map, List.find?_map, List.find?_filter]
  refine congrArg _ (congrArg (List.find? · xs) (funext fun x => ?_))
  by_cases hName : name x = s.descriptor.tenantField <;> simp [isTenantField, hName, hTenant]

theorem scopeConditions_checks (s : Store ρ) (filter : Filter) :
    s.Checks (filter.conditions.map (·.name)) (s.scopeConditions filter) := by
  refine .of_eq (.mapM fun c _ => (Checks.column s c.name).map _) ?_
  rw [undeclared?_filter_tenant, List.map_eq_flatMap]

theorem visibleConditions_checks (s : Store ρ) (filter : Filter) :
    s.Checks (filter.conditions.map (·.name)) (s.visibleConditions filter) := by
  have hScope := s.scopeConditions_checks filter
  unfold visibleConditions
  cases s.table.softDeleteColumn with
  | none => exact hScope.map id
  | some column => exact hScope.map (· ++ [⟨column, .isNull⟩])

theorem resolvePatch_checks (s : Store ρ) (patch : Patch) :
    s.Checks (patch.assignments.map (·.name)) (s.resolvePatch patch) := by
  refine .of_eq (.mapM fun a _ => (Checks.column s a.name).map _) ?_
  rw [undeclared?_filter_tenant, List.map_eq_flatMap]

theorem resolveOrder_checks (s : Store ρ) (order : List SortKey) :
    s.Checks (order.map (·.name)) (s.resolveOrder order) := by
  refine .of_eq (.mapM fun key _ => (Checks.column s key.name).map _) ?_
  rw [List.map_eq_flatMap]

/-! ## Records -/

/-- The names in the object of a record, in ascending order. -/
def recordNames (s : Store ρ) (record : ρ) : List String :=
  match s.codec.encode record with
  | .ok (.object fields) => (Row.ofEntries fields).names
  | _ => []

/-- The record is encoded as an object. -/
def EncodesObject (s : Store ρ) (record : ρ) : Prop :=
  ∃ fields, s.codec.encode record = .ok (.object fields)

theorem EncodesObject.recordCells {record : ρ} (h : s.EncodesObject record) :
    ∃ cells, s.recordCells record = .ok cells ∧ s.recordNames record = cells.names := by
  obtain ⟨fields, hFields⟩ := h
  exact ⟨Row.ofEntries fields, by rw [Store.recordCells, hFields], by rw [recordNames, hFields]⟩

theorem names_sorted (row : Row) : row.names.Pairwise (· < ·) := List.pairwise_map.mpr row.sorted

/-- The renaming of cells checks the names of any cells that differ in declared ones only. -/
theorem toColumns_checks {cells written : Row}
    (hSame : ∀ name, name ∉ s.descriptor.fields → (name ∈ written.names ↔ name ∈ cells.names)) :
    s.Checks cells.names (s.columns.toColumns written) := by
  refine ⟨fun field hField => ?_, fun hNone => ?_⟩
  · obtain ⟨hName, hUndeclared, hBefore⟩ := (undeclared?_eq_some_iff (names_sorted cells)).mp hField
    refine ColumnMap.toColumns_eq_error_iff.mpr ⟨field, by rw [columns_table],
      (hSame field hUndeclared).mpr hName, column?_eq_none_iff.mpr hUndeclared, ?_⟩
    intro other hOther hLt
    refine exists_column?_iff.mpr ?_
    by_contra hNot
    exact hNot (hBefore other ((hSame other hNot).mp hOther) hLt)
  · refine ColumnMap.exists_toColumns_iff.mpr fun name hName => exists_column?_iff.mpr ?_
    by_contra hNot
    exact hNot (undeclared?_eq_none_iff.mp hNone name ((hSame name hNot).mp hName))

theorem encodeRow_checks {record : ρ} (h : s.EncodesObject record) (tenant : TenantId) :
    s.Checks (s.recordNames record) (s.encodeRow tenant record) := by
  obtain ⟨cells, hCells, hNames⟩ := h.recordCells
  have hTenant := mem_fields_of_column? s.resolution.tenantColumn
  have hId := mem_fields_of_column? s.resolution.idColumn
  rw [encodeRow, hCells, hNames]
  refine toColumns_checks fun name hName => ?_
  -- The tenant that is added and the id that may be left out are declared.
  have hNe : name ≠ s.descriptor.tenantField ∧ name ≠ s.descriptor.idField :=
    ⟨fun hEq => hName (hEq ▸ hTenant), fun hEq => hName (hEq ▸ hId)⟩
  rw [← not_iff_not, ← Row.get?_eq_none_iff, ← Row.get?_eq_none_iff]
  split
  · rw [Row.get?_erase, if_neg hNe.2, Row.get?_insert_of_ne _ _ hNe.1]
  · rw [Row.get?_insert_of_ne _ _ hNe.1]

theorem encodeRows_checks {records : List ρ} (h : ∀ record ∈ records, s.EncodesObject record)
    (tenant : TenantId) :
    s.Checks (records.flatMap s.recordNames) (records.mapM (s.encodeRow tenant)) :=
  .mapM fun record hRecord => encodeRow_checks (h record hRecord) tenant

end Store

/-! ## Programs that vet names -/

/-- The active tenant stays the same, and nothing is asked for but the tenant and the time. -/
def silent (ρ : Type) (active : Option TenantId) : Terms (Question ρ) Question.Answer where
  answers
    | .activeTenant, answer => answer = active
    | _, _ => True
  asks
    | .activeTenant | .time => True
    | .backend _ | .handle _ => False

/-- The active tenant stays the same, and the errors of the backend are such. -/
def hearing (ρ : Type) (active : Option TenantId) (heard : StoreError → Prop) :
    Terms (Question ρ) Question.Answer where
  answers
    | .activeTenant, answer => answer = active
    | .backend _, .error e => heard e
    | _, _ => True
  asks _ := True

/-- If the failure is an unknown field, it was heard. -/
def Failure.OnlyHeard (heard : StoreError → Prop) (e : Failure) : Prop :=
  ∀ table field, e = .error (.unknownField table field) → heard (.unknownField table field)

namespace Store

variable {s : Store ρ} {active : Option TenantId} {tenant : TenantId} {names rest : List String}

/-- Fails with the first of these names that is not declared before it sends a command; if there is
none, the program fails with an unknown field only if the backend does. -/
structure Vets (s : Store ρ) (active : Option TenantId) (names : List String) (p : Program ρ α) :
    Prop where
  refuses : ∀ field, s.undeclared? names = some field →
    Honors (silent ρ active) p (fun _ => False) (· = .error (.unknownField s.table.name field))
  accepts : s.undeclared? names = none → ∀ heard,
    Honors (hearing ρ active heard) p (fun _ => True) (·.OnlyHeard heard)

namespace Vets

theorem of_eq {p : Program ρ α} (h : s.Vets active names p) {names' : List String}
    (hSame : s.undeclared? names' = s.undeclared? names) : s.Vets active names' p :=
  ⟨fun field hField => h.refuses field (hSame ▸ hField), fun hNone => h.accepts (hSame ▸ hNone)⟩

/-! ### Without names -/

theorem free {p : Program ρ α}
    (h : ∀ heard, Honors (hearing ρ active heard) p (fun _ => True) (·.OnlyHeard heard)) :
    s.Vets active [] p :=
  ⟨fun _ hField => (by cases hField), fun _ => h⟩

theorem pure (a : α) : s.Vets active [] (Pure.pure a : Program ρ α) := free fun _ => .pure trivial

theorem fail {e : StoreError} (h : ∀ table field, e ≠ .unknownField table field) :
    s.Vets active [] (Program.fail e : Program ρ α) :=
  free fun _ => .fail fun table field hEq => absurd (Failure.error.inj hEq) (h table field)

theorem send (c : Command) : s.Vets active [] (Program.send c : Program ρ _) :=
  free fun _ => .send trivial (fun _ _ => trivial) fun _ hHeard _ _ hEq =>
    Failure.error.inj hEq ▸ hHeard

theorem decodeJson (json : Json) :
    s.Vets active [] (Program.ofExcept (s.decodeJson json) : Program ρ ρ) := by
  unfold Store.decodeJson
  split
  · exact pure _
  · exact fail nofun

theorem decodeRows (rows : List Row) :
    s.Vets active [] (Program.ofExcept (s.decodeRows rows) : Program ρ (List ρ)) := by
  cases hRows : s.decodeRows rows with
  | ok records => exact pure _
  | error e =>
    obtain ⟨row, -, hFails⟩ := Except.exists_of_mapM_error hRows
    have hFails : s.decodeJson (s.columns.toFields row).toJson = .error e := hFails
    have hVets : s.Vets active [] (Program.ofExcept (s.decodeJson _) : Program ρ ρ) :=
      decodeJson (s.columns.toFields row).toJson
    rw [hFails] at hVets
    exact ⟨fun _ hField => (by cases hField), fun hNone heard => hVets.accepts hNone heard⟩

/-! ### Sequencing -/

/-- What comes after the vetting resolves no names. -/
theorem bind {p : Program ρ α} {f : α → Program ρ β} (h : s.Vets active names p)
    (hf : ∀ a, s.Vets active [] (f a)) : s.Vets active names (p >>= f) :=
  ⟨fun field hField => (h.refuses field hField).bind fun _ hFalse => hFalse.elim,
    fun hNone heard => (h.accepts hNone heard).bind fun a _ => (hf a).accepts rfl heard⟩

/-- A check comes before the rest. -/
theorem check {x : Except StoreError α} {f : α → Program ρ β} (h : s.Checks names x)
    (hf : ∀ a, x = .ok a → s.Vets active rest (f a)) :
    s.Vets active (names ++ rest) (Program.ofExcept x >>= f) := by
  refine ⟨fun field hField => ?_, fun hNone heard => ?_⟩
  · rw [undeclared?_append, Option.or_eq_some_iff] at hField
    rcases hField with hFirst | ⟨hNone, hRest⟩
    · rw [h.refuses field hFirst]
      exact Honors.bind (.fail rfl) fun _ hFalse => hFalse
    · obtain ⟨a, rfl⟩ := h.accepts hNone
      exact (hf a rfl).refuses field hRest
  · rw [undeclared?_append, Option.or_eq_none_iff] at hNone
    obtain ⟨a, rfl⟩ := h.accepts hNone.1
    exact (hf a rfl).accepts hNone.2 heard

/-- The last check of an operation. -/
theorem check_last {x : Except StoreError α} {f : α → Program ρ β} (h : s.Checks names x)
    (hf : ∀ a, s.Vets active [] (f a)) : s.Vets active names (Program.ofExcept x >>= f) :=
  (check h fun a _ => hf a).of_eq (by rw [List.append_nil])

theorem time {f : Instant → Program ρ α} (h : ∀ now, s.Vets active names (f now)) :
    s.Vets active names (Program.time >>= f) :=
  ⟨fun field hField => (Honors.ask trivial fun _ _ => trivial).bind fun now _ =>
      (h now).refuses field hField,
    fun hNone heard => (Honors.ask trivial fun _ _ => trivial).bind fun now _ =>
      (h now).accepts hNone heard⟩

end Vets

theorem selectRecords_vets (s : Store ρ) (tenant : TenantId) (selection : Selection) :
    s.Vets active [] (s.selectRecords tenant selection) :=
  (Vets.send _).bind fun _ => .decodeRows _

/-- A lookup that fails if it finds nothing. -/
theorem orFail_vets {p : Program ρ (Option ρ)} {e : StoreError} (h : s.Vets active names p)
    (he : ∀ table field, e ≠ .unknownField table field) :
    s.Vets active names (p >>= fun | some record => pure record | none => Program.fail e) := by
  refine h.bind fun found => ?_
  cases found with
  | none => exact .fail he
  | some record => exact .pure _

/-- A write of one record fails if it gives back nothing. -/
theorem single_vets {record : ρ} {p : Program ρ (List ρ)} {e : StoreError}
    (h : s.Vets active ([record].flatMap s.recordNames) p)
    (he : ∀ table field, e ≠ .unknownField table field) :
    s.Vets active (s.recordNames record) (p >>= fun records => match records.getLast? with
      | some record => pure record
      | none => Program.fail e) := by
  rw [List.flatMap_singleton] at h
  refine h.bind fun records => ?_
  split
  · exact .pure _
  · exact .fail he

theorem softDeleteField_declared {field : String} (h : s.descriptor.softDeleteField = some field) :
    s.softDeleteField = .ok field ∧ field ∈ s.descriptor.fields := by
  have hOk : s.softDeleteField = .ok field := by rw [softDeleteField, h]
  obtain ⟨column, -, hColumn⟩ := softDeleteColumn_of_field hOk
  exact ⟨hOk, mem_fields_of_column? hColumn⟩

/-- The search for the tenant finds the one that the context reports. -/
theorem requireTenant_honors (hContext : s.context.reports active = some tenant)
    {t : Terms (Question ρ) Question.Answer} (hAsk : t.asks .activeTenant)
    (hAnswer : ∀ answer, t.answers .activeTenant answer → answer = active) (operation : String)
    {failures : Failure → Prop} :
    Honors t (s.requireTenant operation) (· = tenant) failures := by
  have hCurrent : Honors t s.context.current (· = some tenant) failures := by
    cases hCase : s.context with
    | pinned t =>
      rw [hCase] at hContext
      exact .pure hContext
    | ambient =>
      rw [hCase] at hContext
      exact .ask hAsk fun answer h => (hAnswer answer h).trans hContext
  refine Honors.bind hCurrent ?_
  rintro _ rfl
  exact .pure rfl

section Operations

variable (hContext : s.context.reports active = some tenant)
include hContext

theorem scope_vets {f : TenantId → Program ρ α} (operation : String)
    (h : s.Vets active names (f tenant)) :
    s.Vets active names (s.requireTenant operation >>= f) := by
  refine ⟨fun field hField => ?_, fun hNone heard => ?_⟩
  · refine Honors.bind (requireTenant_honors hContext trivial (fun _ h => h) operation) ?_
    rintro _ rfl
    exact h.refuses field hField
  · refine Honors.bind (requireTenant_honors hContext trivial (fun _ h => h) operation) ?_
    rintro _ rfl
    exact h.accepts hNone heard

/-! ## Operations of a store -/

theorem find_vets (filter : Filter) :
    s.Vets active (filter.conditions.map (·.name)) (s.find filter) :=
  scope_vets hContext _ (.check_last (s.visibleConditions_checks filter) fun _ =>
    s.selectRecords_vets _ _)

theorem findOne_vets (filter : Filter) :
    s.Vets active (filter.conditions.map (·.name)) (s.findOne filter) :=
  scope_vets hContext _ (.check_last (s.visibleConditions_checks filter) fun _ =>
    (s.selectRecords_vets _ _).bind fun _ => .pure _)

theorem findOneOrFail_vets (filter : Filter) :
    s.Vets active (filter.conditions.map (·.name)) (s.findOneOrFail filter) :=
  orFail_vets (findOne_vets hContext filter) nofun

theorem findById_vets (id : Value) : s.Vets active [] (s.findById id) :=
  (findOne_vets hContext (s.idFilter id)).of_eq
    (undeclared?_singleton (mem_fields_of_column? s.resolution.idColumn)).symm

theorem findByIdOrFail_vets (id : Value) : s.Vets active [] (s.findByIdOrFail id) :=
  orFail_vets (findById_vets hContext id) nofun

theorem count_vets (filter : Filter) :
    s.Vets active (filter.conditions.map (·.name)) (s.count filter) :=
  scope_vets hContext _ (.check_last (s.visibleConditions_checks filter) fun _ => .send _)

theorem exists?_vets (filter : Filter) :
    s.Vets active (filter.conditions.map (·.name)) (s.exists? filter) :=
  (findOne_vets hContext filter).bind fun _ => .pure _

theorem create_vets (partialRecord : Json) : s.Vets active [] (s.create partialRecord) := by
  refine scope_vets hContext _ ?_
  cases partialRecord with
  | object fields => exact (Vets.pure _).bind fun _ => .decodeJson _
  | null => exact (Vets.pure _).bind fun _ => .decodeJson _
  | _ =>
    refine Vets.bind (.fail ?_) fun _ => .decodeJson _
    nofun

/-- A write of records sends its command after all of them were encoded. -/
theorem writeAll_vets {records : List ρ} (h : ∀ record ∈ records, s.EncodesObject record)
    (operation : String) {write : List Row → Program ρ (List Row)}
    (hWrite : ∀ rows, s.Vets active [] (write rows)) :
    s.Vets active (records.flatMap s.recordNames) (s.writeAll operation write records) := by
  refine scope_vets hContext _ ?_
  split
  · rename_i hEmpty
    rw [List.isEmpty_iff.mp hEmpty]
    exact .pure _
  · exact .check_last (encodeRows_checks h tenant) fun rows =>
      (hWrite rows).bind fun _ => .decodeRows _

theorem saveAll_vets {records : List ρ} (h : ∀ record ∈ records, s.EncodesObject record) :
    s.Vets active (records.flatMap s.recordNames) (s.saveAll records) := by
  rw [saveAll_eq]
  exact writeAll_vets hContext h _ fun _ => .send _

theorem insertAll_vets {records : List ρ} (h : ∀ record ∈ records, s.EncodesObject record) :
    s.Vets active (records.flatMap s.recordNames) (s.insertAll records) := by
  rw [insertAll_eq]
  exact writeAll_vets hContext h _ fun _ => .send _

theorem save_vets {record : ρ} (h : s.EncodesObject record) :
    s.Vets active (s.recordNames record) (s.save record) :=
  single_vets (saveAll_vets hContext (by simpa using h)) nofun

theorem insert_vets {record : ρ} (h : s.EncodesObject record) :
    s.Vets active (s.recordNames record) (s.insert record) :=
  single_vets (insertAll_vets hContext (by simpa using h)) nofun

theorem update_vets (filter : Filter) (patch : Patch) :
    s.Vets active (filter.conditions.map (·.name) ++ patch.assignments.map (·.name))
      (s.update filter patch) := by
  refine scope_vets hContext _ (.check (s.scopeConditions_checks filter) fun conditions _ =>
    .check_last (s.resolvePatch_checks patch) fun assignments => ?_)
  split
  · exact .pure _
  · exact (Vets.send _).bind fun _ => .pure _

theorem updateById_vets (id : Value) (patch : Patch) :
    s.Vets active (patch.assignments.map (·.name)) (s.updateById id patch) := by
  refine Vets.of_eq ((update_vets hContext (s.idFilter id) patch).bind fun _ => .pure _) ?_
  have hId : s.undeclared? ((s.idFilter id).conditions.map (·.name)) = none :=
    undeclared?_singleton (mem_fields_of_column? s.resolution.idColumn)
  rw [undeclared?_append, hId, Option.none_or]

theorem delete_vets (filter : Filter) :
    s.Vets active (filter.conditions.map (·.name)) (s.delete filter) :=
  scope_vets hContext _ (.check_last (s.scopeConditions_checks filter) fun _ => .send _)

/-- An update that tests and sets one declared field besides. -/
theorem updateField_vets {field : String} (hField : field ∈ s.descriptor.fields) (filter : Filter)
    (test : Test) (value : Value) :
    s.Vets active (filter.conditions.map (·.name))
      (s.update (filter.require field test) (Patch.empty.set field value)) := by
  refine (update_vets hContext _ _).of_eq ?_
  have hNames : (filter.require field test).conditions.map (·.name) ++
      (Patch.empty.set field value).assignments.map (·.name) =
        filter.conditions.map (·.name) ++ [field] ++ [field] := by
    simp [Filter.require, Patch.set, Patch.setIn, Patch.empty]
  rw [hNames, undeclared?_append, undeclared?_append, undeclared?_singleton hField,
    Option.or_none, Option.or_none]

theorem softDelete_vets (h : s.descriptor.softDeleteField.isSome) (filter : Filter) :
    s.Vets active (filter.conditions.map (·.name)) (s.softDelete filter) := by
  obtain ⟨field, hField⟩ := Option.isSome_iff_exists.mp h
  obtain ⟨hOk, hDeclared⟩ := softDeleteField_declared hField
  refine scope_vets hContext _ ?_
  rw [hOk]
  exact .time fun now => updateField_vets hContext hDeclared filter _ _

theorem restore_vets (h : s.descriptor.softDeleteField.isSome) (filter : Filter) :
    s.Vets active (filter.conditions.map (·.name)) (s.restore filter) := by
  obtain ⟨field, hField⟩ := Option.isSome_iff_exists.mp h
  obtain ⟨hOk, hDeclared⟩ := softDeleteField_declared hField
  refine scope_vets hContext _ ?_
  rw [hOk]
  exact updateField_vets hContext hDeclared filter _ _

end Operations

end Store

/-! ## Queries -/

namespace Query

variable {q : Query ρ} {active : Option TenantId}

theorem conditions_checks (q : Query ρ) :
    q.store.Checks (q.filter.conditions.map (·.name)) q.conditions := by
  unfold conditions
  split
  · exact q.store.scopeConditions_checks q.filter
  · exact q.store.visibleConditions_checks q.filter

theorem selection_checks (q : Query ρ) (limit : Option Nat) :
    q.store.Checks (q.filter.conditions.map (·.name) ++ q.order.map (·.name))
      (q.selection limit) :=
  q.conditions_checks.bind fun _ _ => (q.store.resolveOrder_checks q.order).map _

theorem fetchAll_vets :
    q.store.Vets active (q.filter.conditions.map (·.name) ++ q.order.map (·.name)) q.fetchAll :=
  .check_last (q.selection_checks _) fun _ => q.store.selectRecords_vets _ _

theorem fetchOne_vets :
    q.store.Vets active (q.filter.conditions.map (·.name) ++ q.order.map (·.name)) q.fetchOne :=
  .check_last (q.selection_checks _) fun _ => (q.store.selectRecords_vets _ _).bind fun _ => .pure _

theorem count_vets : q.store.Vets active (q.filter.conditions.map (·.name)) q.count :=
  .check_last q.conditions_checks fun _ => .send _

end Query

/-! ## Idempotent inserts -/

/-- An unknown field that is the outcome of an attempt stays the failure. -/
theorem Store.Vets.attempt {s : Store ρ} {active : Option TenantId} {names : List String}
    {p : Program ρ α} {f : Except StoreError α → Program ρ β} (h : s.Vets active names p)
    (hUnknown : ∀ table field, f (.error (.unknownField table field)) =
      Program.fail (.unknownField table field))
    (hf : s.undeclared? names = none →
      ∀ r, (∀ table field, r ≠ .error (.unknownField table field)) → s.Vets active [] (f r)) :
    s.Vets active names (Program.attempt p >>= f) := by
  refine ⟨fun field hField => ?_, fun hNone heard => ?_⟩
  · refine (h.refuses field hField).attempt.bind fun r hr => ?_
    cases r with
    | ok a => exact hr.elim
    | error e =>
      cases Failure.error.inj hr
      rw [hUnknown]
      exact .fail rfl
  · refine (h.accepts hNone heard).attempt.bind fun r hr => ?_
    by_cases hCase : ∃ table field, r = .error (.unknownField table field)
    · obtain ⟨table, field, rfl⟩ := hCase
      rw [hUnknown]
      exact .fail hr
    · simp only [not_exists] at hCase
      exact (hf hNone r hCase).accepts rfl heard

namespace IdempotentWriter

variable {w : IdempotentWriter ρ} {active : Option TenantId} {tenant : TenantId}

theorem findByKey_vets (hContext : w.store.context.reports active = some tenant)
    (hKey : w.keyField ∈ w.store.descriptor.fields) (key : Value) :
    w.store.Vets active [] (w.findByKey key) := by
  rw [findByKey, Store.query, bind_assoc]
  refine Store.scope_vets hContext _ ?_
  rw [pure_bind]
  have hFetch := @Query.fetchOne_vets _
    ⟨w.store, tenant, Filter.all.and (.ofEq w.keyField key), [], none, none, true⟩ active
  exact hFetch.of_eq (Store.undeclared?_singleton hKey).symm

theorem fieldValue_checks {s : Store ρ} {record : ρ} (h : s.EncodesObject record)
    (field : String) : s.Checks [field] (s.fieldValue record field) := by
  obtain ⟨cells, hCells, -⟩ := h.recordCells
  rw [Store.fieldValue, hCells]
  exact (Store.Checks.column s field).map fun _ => (cells.get? field).filter (!·.isNull)

theorem save_vets (hContext : w.store.context.reports active = some tenant) {record : ρ}
    (h : w.store.EncodesObject record) :
    w.store.Vets active (w.keyField :: w.store.recordNames record) (w.save record) := by
  refine Store.scope_vets hContext _ (.check (fieldValue_checks h _) fun key hKey => ?_)
  cases key with
  | none => exact (Store.save_vets hContext h).bind fun _ => .pure _
  | some key =>
    obtain ⟨column, hColumn, -⟩ := Except.bind_eq_ok.mp hKey
    have hDeclared := Store.mem_fields_of_column? (ColumnMap.column_eq_ok_iff.mp hColumn)
    refine (Store.insert_vets hContext h).attempt (fun _ _ => rfl) fun hNone r hr => ?_
    have hAgain : w.store.Vets active [] (w.store.insert record) :=
      (Store.insert_vets hContext h).of_eq hNone.symm
    rcases r with e | inserted
    · cases e with
      | conflict cause =>
        refine (findByKey_vets hContext hDeclared _).bind fun found => ?_
        cases found with
        | some existing => exact .pure _
        | none => exact hAgain.bind fun _ => .pure _
      | unknownField table field => exact absurd rfl (hr table field)
      | _ => exact .fail nofun
    · exact .pure _

end IdempotentWriter

/-! ## All operations -/

namespace Operation

/-- The fields that an operation names, in the order in which it looks them up: those of the filter,
and after them those of the patch or of the order; those of each record are in ascending order. -/
def named : Operation ρ α → List String
  | .find _ filter | .findOne _ filter | .findOneOrFail _ filter | .count _ filter
  | .exists? _ filter | .delete _ filter | .softDelete _ filter | .restore _ filter =>
    filter.conditions.map (·.name)
  | .update _ filter patch => filter.conditions.map (·.name) ++ patch.assignments.map (·.name)
  | .updateById _ _ patch => patch.assignments.map (·.name)
  | .fetchAll q | .fetchOne q => q.filter.conditions.map (·.name) ++ q.order.map (·.name)
  | .countAll q => q.filter.conditions.map (·.name)
  | .saveAll s records | .insertAll s records => records.flatMap s.recordNames
  | .save s record | .insert s record => s.recordNames record
  | .saveOnce w record => w.keyField :: w.store.recordNames record
  | _ => []

/-- An operation of a store, a query or an idempotent writer. The records that it writes are encoded
as objects, and it marks records as deleted only where there is a field for that. -/
def OnStore : Operation ρ α → Prop
  | .saveAll s records | .insertAll s records => ∀ record ∈ records, s.EncodesObject record
  | .save s record | .insert s record => s.EncodesObject record
  | .saveOnce w record => w.store.EncodesObject record
  | .softDelete s _ | .restore s _ => s.descriptor.softDeleteField.isSome
  | .claimBatch _ _ | .updateStatus _ _ _ | .markSuccess _ _ _ | .markFailureWith _ _ _ _ _
  | .markFailure _ _ _ | .markExhausted _ _ _ _ | .releaseStale _ _ | .runOnce _ => False
  | _ => True

/-- Every operation vets the fields that it names. -/
theorem vets (op : Operation ρ α) (hOp : op.OnStore) {active : Option TenantId}
    {tenant : TenantId} (hTenant : op.tenant? active = some tenant) :
    op.store.Vets active op.named op.program := by
  cases op with
  | tenant s =>
    exact .free fun _ => (Store.requireTenant_honors hTenant trivial (fun _ h => h) _).weaken
      fun _ _ => trivial
  | find s filter => exact Store.find_vets hTenant filter
  | findOne s filter => exact Store.findOne_vets hTenant filter
  | findOneOrFail s filter => exact Store.findOneOrFail_vets hTenant filter
  | findById s id => exact Store.findById_vets hTenant id
  | findByIdOrFail s id => exact Store.findByIdOrFail_vets hTenant id
  | count s filter => exact Store.count_vets hTenant filter
  | exists? s filter => exact Store.exists?_vets hTenant filter
  | create s partialRecord => exact Store.create_vets hTenant partialRecord
  | saveAll s records => exact Store.saveAll_vets hTenant hOp
  | save s record => exact Store.save_vets hTenant hOp
  | insertAll s records => exact Store.insertAll_vets hTenant hOp
  | insert s record => exact Store.insert_vets hTenant hOp
  | update s filter patch => exact Store.update_vets hTenant filter patch
  | updateById s id patch => exact Store.updateById_vets hTenant id patch
  | delete s filter => exact Store.delete_vets hTenant filter
  | softDelete s filter => exact Store.softDelete_vets hTenant hOp filter
  | restore s filter => exact Store.restore_vets hTenant hOp filter
  | query s => exact Store.scope_vets hTenant _ (.pure _)
  | sqlQuery s name =>
    refine Store.scope_vets hTenant _ ?_
    unfold Sql.ScopedSelect.ofTable
    split
    · exact .pure _
    · exact .fail nofun
  | fetchAll q => exact Query.fetchAll_vets
  | fetchOne q => exact Query.fetchOne_vets
  | countAll q => exact Query.count_vets
  | saveOnce w record => exact IdempotentWriter.save_vets hTenant hOp
  | claimBatch | updateStatus | markSuccess | markFailureWith | markFailure | markExhausted
  | releaseStale | runOnce => exact hOp.elim

end Operation

/-- A world keeps to the silent terms. -/
theorem World.respects_silent (w : World σ ρ) : w.Respects (silent ρ w.tenant) fun _ => True := by
  intro q s _ _
  refine ⟨?_, trivial⟩
  cases q with
  | activeTenant => rfl
  | _ => trivial

/-- In a run, the backend is heard to answer its refusals. -/
theorem World.hears_refusals (w : World σ ρ) (p : Program ρ α) (s : σ) :
    ∀ x ∈ w.exchanges p s, (hearing ρ w.tenant (· ∈ w.refusals p s)).answers x.1 x.2 := by
  rintro ⟨q, answer⟩ hx
  cases q with
  | activeTenant =>
    obtain ⟨s', hAnswer⟩ := Dialogue.answer_of_mem_exchanges hx
    exact hAnswer
  | backend c =>
    cases answer with
    | error e => exact List.mem_filterMap.mpr ⟨_, hx, rfl⟩
    | ok r => trivial
  | _ => trivial

/-- **Unknown fields come first.** In every world, for an operation under a tenant:
1. if one of the fields that it names is not declared, it fails with the first such field and sends
no command,
2. if all of them are declared, it fails with an unknown field only if the backend has answered that
error to one of its commands.

The tenant field is always declared, so conditions on it and assignments to it do not matter. -/
theorem unknown_fields_first (op : Operation ρ α) (hOp : op.OnStore) (w : World σ ρ)
    {tenant : TenantId} (hTenant : op.tenant? w.tenant = some tenant) (s : σ) :
    (∀ field, op.named.find? (· ∉ op.store.descriptor.fields) = some field →
      (w.run op.program s).1 = .error (.error (.unknownField op.store.table.name field)) ∧
        ∀ c, .backend c ∉ w.questions op.program s) ∧
    ((∀ name ∈ op.named, name ∈ op.store.descriptor.fields) → ∀ table field,
      (w.run op.program s).1 = .error (.error (.unknownField table field)) →
        .unknownField table field ∈ w.refusals op.program s) := by
  have hVets := op.vets hOp hTenant
  refine ⟨fun field hField => ?_, fun hDeclared table field hRun => ?_⟩
  · obtain ⟨hResult, -, hAsks⟩ :=
      (hVets.refuses field hField).run w.respects_silent (s := s) trivial
    refine ⟨?_, fun c hc => hAsks _ hc⟩
    cases hRun : (w.run op.program s).1 with
    | ok a =>
      rw [hRun] at hResult
      exact hResult.elim
    | error e =>
      rw [hRun] at hResult
      exact congrArg Except.error hResult
  · have hHonors := hVets.accepts (Store.undeclared?_eq_none_iff.mpr hDeclared)
      (· ∈ w.refusals op.program s)
    have hResult := (hHonors.of_exchanges (w.hears_refusals op.program s)).1
    rw [hRun] at hResult
    exact hResult table field rfl

/-- A job has no note, so nobody sets one; an unknown field of which the backend complains is handed
on. -/
theorem jobs_have_no_note :
    ((World.still (some Jobs.tenant) Jobs.epoch).run
        (Operation.update Jobs.store (.ofEq "status" .null)
          (Patch.empty.set "note" .null)).program Memory.empty).1 =
      .error (.error (.unknownField "jobs" "note")) ∧
    .unknownField "jobs" "note" ∈
      { World.still (some Jobs.tenant) Jobs.epoch with
        backend := fun _ m => (.error (.unknownField "jobs" "note"), m) }.refusals
          (Operation.count Jobs.store .all).program Memory.empty :=
  ⟨((unknown_fields_first (Operation.update Jobs.store (.ofEq "status" .null)
      (Patch.empty.set "note" .null)) trivial _ rfl _).1 "note" (by decide)).1,
    (unknown_fields_first (Operation.count Jobs.store .all) trivial _ rfl _).2
      (by simp [Operation.named, Filter.all]) "jobs" "note" rfl⟩

end Tenancy
