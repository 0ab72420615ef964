import Tenancy.Proofs.Backend.Update
import Tenancy.Proofs.Patch
import Tenancy.Proofs.Sql.Requests
import Tenancy.Proofs.Store.Declared

/-!
# A patch as a function on columns

However often fields are set in a patch, it assigns each field once, in the order in which the fields
were first set, with the value that was set last (`Patch.names_setAll`, `Patch.get?_setAll`). Different
fields have different columns and the tenant field is left out, so the resolved patch assigns each
column at most once, and never the tenant column (`patch_assigns_columns`). That is what an update
says in SQL, whose assigned columns are read off its tokens (`Token.assignedColumns`), and what an
update in memory leaves in its rows.
-/

namespace Tenancy

/-! ## Fields that are set one after the other -/

namespace Patch

/-- The patch in which the fields are set one after the other. -/
def setAll (calls : List Assignment) : Patch :=
  calls.foldl (fun p a => p.set a.name a.value) empty

/-- The value that is set last for a field. -/
def lastSet? (field : String) (calls : List Assignment) : Option Value :=
  (calls.reverse.find? (·.name = field)).map (·.value)

theorem setAll_concat (calls : List Assignment) (a : Assignment) :
    setAll (calls ++ [a]) = (setAll calls).set a.name a.value := by
  rw [setAll, List.foldl_append]
  rfl

theorem lastSet?_concat (field : String) (calls : List Assignment) (a : Assignment) :
    lastSet? field (calls ++ [a]) =
      if field = a.name then some a.value else lastSet? field calls := by
  rw [lastSet?, List.reverse_concat]
  by_cases h : a.name = field
  · simp [h]
  · rw [List.find?_cons_of_neg (by simpa using h), if_neg (Ne.symm h), lastSet?]

/-- Each field stands where it was set first. -/
theorem names_setAll (calls : List Assignment) :
    (setAll calls).assignments.map (·.name) = (calls.map (·.name)).eraseDups := by
  induction calls using List.reverseRecOn with
  | nil => rfl
  | append_singleton calls a ih =>
    rw [setAll_concat, set, names_setIn, ih, List.map_append, List.map_singleton, eraseDups_concat]
    simp only [List.mem_eraseDups]

theorem get?_setAll (calls : List Assignment) (field : String) :
    (setAll calls).get? field = lastSet? field calls := by
  induction calls using List.reverseRecOn with
  | nil => rfl
  | append_singleton calls a ih => rw [setAll_concat, get?_set, ih, lastSet?_concat]

theorem get?_eq_some_of_mem {p : Patch} {a : Assignment} (h : a ∈ p.assignments) :
    p.get? a.name = some a.value := by
  obtain ⟨value, hValue⟩ := get?_of_mem h
  have hSame : a = ⟨a.name, value⟩ :=
    List.inj_on_of_nodup_map p.nodup h (mem_of_get? hValue) rfl
  rw [hValue, hSame]

end Patch

/-! ## Columns that are assigned in SQL -/

namespace Sql

namespace Token

variable {π : Type}

/-- The tokens outside parentheses. -/
def outside (d : Nat) : List (Token π) → List (Token π)
  | [] => []
  | t :: ts => if d = 0 ∧ t.isPlain then t :: outside 0 ts else outside (t.depthBehind d) ts

/-- The names that an equals sign follows. -/
def targets : List (Token π) → List String
  | [] => []
  | t :: ts =>
    match t, ts.head? with
    | .name column, some (.symbol s) => if s = "=" then column :: targets ts else targets ts
    | _, _ => targets ts

/-- The columns that the statement assigns, between `SET` and `WHERE`. -/
def assignedColumns (ts : List (Token π)) : List String :=
  targets (outside 0 ((partsBetween (fun w => w == "SET" || w == "WHERE") 0 ts).getD 1 []))

variable {test : String → Bool} {ts : List (Token π)}

theorem targets_name {ts : List (Token π)} (h : ts.head? ≠ some (.symbol "=")) (column : String) :
    targets (.name column :: ts) = targets ts := by
  cases hHead : ts.head? with
  | none => simp [targets, hHead]
  | some t => cases t with
    | symbol s =>
      have hs : s ≠ "=" := fun hs => h (hs ▸ hHead)
      simp [targets, hHead, hs]
    | _ => simp [targets, hHead]

/-- Of closed tokens in parentheses, none is outside. -/
theorem outside_closed (hts : Closed test ts) (d : Nat) (us : List (Token π)) :
    outside (d + 1) (ts ++ us) = outside (d + 1) us := by
  induction hts generalizing d us with
  | nil => rfl
  | cons hPlain _ _ ih =>
    rw [List.cons_append, outside, if_neg (by simp), depthBehind_of_isPlain hPlain, ih]
  | @group _ inner ts _ _ ihInner ih =>
    have hInner := ihInner (d + 1) (.symbol ")" :: (ts ++ us))
    have hClose : outside (d + 2) (.symbol ")" :: (ts ++ us)) = outside (d + 1) (ts ++ us) := by
      rw [outside, if_neg (by simp)]
      rfl
    simp only [grouped, List.cons_append, List.append_assoc, List.nil_append]
    rw [outside, if_neg (by simp)]
    exact hInner.trans (hClose.trans (ih d us))

theorem outside_grouped (hts : Closed test ts) (us : List (Token π)) :
    outside 0 (grouped ts ++ us) = outside 0 us := by
  have hInner := outside_closed hts 0 (.symbol ")" :: us)
  simp only [grouped, List.cons_append, List.append_assoc, List.nil_append]
  rw [outside, if_neg (by simp [isPlain])]
  refine hInner.trans ?_
  rw [outside, if_neg (by simp)]
  rfl

end Token

namespace Shape

open Token

/-- An assignment has one target, which is its column. The record in the value of a text stands in
parentheses. -/
theorem targets_assignment (table : Table) (a : Assignment) (n : Nat) (us : List (Token Nat))
    (hus : (outside 0 us).head? ≠ some (.symbol "=")) :
    targets (outside 0 (numbered n (assignment table a) ++ us)) =
      a.name :: targets (outside 0 us) := by
  obtain ⟨column, v⟩ := a
  have hColumn : ∀ ts : List (Token Nat),
      targets (outside 0 (.name column :: .symbol "=" :: ts)) = column :: targets (outside 0 ts) := by
    intro ts
    simp [outside, targets, isPlain]
  have hValue : targets (outside 0 (numbered n (columnValue table column v) ++ us)) =
      targets (outside 0 us) := by
    cases v with
    | text s =>
      have hField : targets (outside 0 (.symbol "." :: .name column :: us)) =
          targets (outside 0 us) := by
        have hSteps : outside 0 (.symbol "." :: .name column :: us) =
            .symbol "." :: .name column :: outside 0 us := by simp [outside, isPlain]
        rw [hSteps]
        exact targets_name hus column
      rw [columnValue, numbered_append, numbered_grouped, List.append_assoc,
        outside_grouped (closed_numbered (closed_record table column s) n)]
      exact hField
    | _ => simp [columnValue, value, numbered, outside, targets, isPlain]
  rw [assignment, List.cons_append, List.cons_append, List.nil_append]
  exact (hColumn _).trans (congrArg _ hValue)

theorem targets_assignments (table : Table) (all : List Assignment) (n : Nat) :
    targets (outside 0 (numbered n (listed (.symbol ",") (all.map (assignment table))))) =
      all.map (·.name) := by
  induction all generalizing n with
  | nil => rfl
  | cons a rest ih =>
    cases rest with
    | nil =>
      have hLast := targets_assignment table a n [] (by simp [outside])
      simpa [listed, outside, targets] using hLast
    | cons b rest =>
      rw [List.map_cons, List.map_cons, listed_cons_cons, numbered_append]
      refine (targets_assignment table a n _ ?_).trans (congrArg _ ?_)
      · simp [numbered, outside, isPlain]
      · refine Eq.trans ?_ (ih (n + (placeholders (assignment table a)).length))
        simp [numbered, outside, isPlain, targets]

/-- The columns that an update assigns; one without any assigns the id. -/
def updatedColumns (table : Table) (all : List Assignment) : List String :=
  if all.isEmpty then [table.idColumn] else all.map (·.name)

theorem assignedColumns_update (table : Table) (tenant : TenantId) (conditions : List Condition)
    (all : List Assignment) :
    assignedColumns (numbered 1 (update table tenant conditions all)) =
      updatedColumns table all := by
  have hNamed : Closed (fun w => w == "SET" || w == "WHERE")
      (.word "UPDATE" :: named table.name rowAlias : Shape) :=
    .cons rfl (by decide) (closed_named (by decide) (by decide) table.name)
  have hAssigned : Closed (fun w => w == "SET" || w == "WHERE")
      (listed (.symbol ",") (assignments table all)) := by
    refine .listed rfl rfl fun part hPart => ?_
    rw [assignments] at hPart
    split at hPart
    · obtain rfl := List.mem_singleton.1 hPart
      exact .cons rfl rfl (.cons rfl rfl (closed_columnOf (by decide) table.idColumn))
    · obtain ⟨a, -, rfl⟩ := List.mem_map.1 hPart
      exact .cons rfl rfl (.cons rfl rfl (closed_columnValue (by decide) table a.name a.value))
  obtain ⟨rest, hShape⟩ : ∃ rest, update table tenant conditions all =
      (.word "UPDATE" :: named table.name rowAlias) ++
        .word "SET" :: (listed (.symbol ",") (assignments table all) ++ .word "WHERE" :: rest) :=
    ⟨_, by simp only [update, conjunction, List.cons_append, List.append_assoc]; rfl⟩
  rw [assignedColumns, hShape, numbered_append, numbered_word _ "SET", numbered_append, numbered_word _ "WHERE",
    partsBetween_word (closed_numbered hNamed 1) (by decide),
    partsBetween_word (closed_numbered hAssigned _) (by decide), List.getD_cons_succ,
    List.getD_cons_zero, updatedColumns, assignments]
  split
  · simp [listed, columnOf, numbered, outside, targets, isPlain]
  · exact targets_assignments table all _

end Shape

end Sql

/-! ## Rows that are assigned in memory -/

theorem Memory.update_eq_map {table : Table} {tenant : TenantId} {conditions : List Condition}
    {assignments : List Assignment} {m m' : Memory} {updated : List Row}
    (h : m.update table tenant conditions assignments = (.ok updated, m')) :
    updated = ((m.rows table.name).filter (selects table tenant conditions)).map
        (assign assignments) ∧
      m'.rows table.name = (m.rows table.name).map fun row =>
        if selects table tenant conditions row then assign assignments row else row := by
  rcases update_eq table tenant conditions assignments m with ⟨e, hError⟩ | hOk
  · rw [h] at hError
    cases hError
  · rw [h] at hOk
    obtain ⟨hUpdated, rfl⟩ := Prod.mk.inj hOk
    rw [Except.ok.inj hUpdated, rows_setRows_self, changeAt_placesOf, ← map_placesOf, List.map_map]
    exact ⟨rfl, rfl⟩

/-! ## Resolved patches -/

/-- What is set for a job, its status twice. -/
def Jobs.settings : List Assignment :=
  [⟨"status", .text "TAKEN"⟩, ⟨"tenant_id", .null⟩, ⟨"attempts", .int 1⟩, ⟨"status", .text "DONE"⟩]

namespace Store

variable {ρ : Type} {s : Store ρ} {calls assignments : List Assignment}

/-- The fields that a sequence of settings sets, in the order in which they are first set, without
the tenant field. -/
def fieldsSet (s : Store ρ) (calls : List Assignment) : List String :=
  (calls.map (·.name)).eraseDups.filter (· ≠ s.descriptor.tenantField)

theorem resolvePatch_setAll (h : s.resolvePatch (.setAll calls) = .ok assignments) :
    List.Forall₂ (fun field a => s.columns.column field = .ok a.name ∧
      Patch.lastSet? field calls = some a.value) (s.fieldsSet calls) assignments := by
  have hFields : s.fieldsSet calls =
      ((Patch.setAll calls).assignments.filter (!s.isTenantField ·.name)).map (·.name) := by
    rw [fieldsSet, ← Patch.names_setAll, List.filter_map]
    congr 1
    refine List.filter_congr fun a _ => ?_
    simp [isTenantField, Bool.beq_eq_decide_eq]
  rw [hFields, List.forall₂_map_left_iff]
  have hPairs := resolvePatch_pairs h
  have hSet : ∀ a ∈ (Patch.setAll calls).assignments.filter (!s.isTenantField ·.name),
      Patch.lastSet? a.name calls = some a.value := by
    intro a ha
    rw [← Patch.get?_setAll, Patch.get?_eq_some_of_mem (List.mem_of_mem_filter ha)]
  refine (List.forall₂_and_left _ _ |>.mpr ⟨hSet, hPairs⟩).imp ?_
  rintro a b ⟨hValue, hColumn, hEq⟩
  exact ⟨ColumnMap.column_eq_ok_iff.mpr hColumn, hEq ▸ hValue⟩

/-- Of fields that are set one after the other, a resolved patch assigns each column once, with the
value that was set last, and the tenant column not at all. So does its update in SQL, and in memory
the changed rows have those values. -/
theorem patch_assigns_columns (s : Store ρ) (calls : List Assignment)
    (h : ∀ a ∈ calls, a.name ∈ s.descriptor.fields) :
    ∃ assignments, s.resolvePatch (.setAll calls) = .ok assignments ∧
      List.Forall₂ (fun field a => s.columns.column field = .ok a.name ∧
        Patch.lastSet? field calls = some a.value) (s.fieldsSet calls) assignments ∧
      (assignments.map (·.name)).Nodup ∧
      s.table.tenantColumn ∉ assignments.map (·.name) ∧
      (∀ tenant conditions, ∃ tokens,
        Sql.lex (Sql.update s.table tenant conditions assignments).text = some tokens ∧
        Sql.Token.assignedColumns tokens = Sql.Shape.updatedColumns s.table assignments ∧
        (Sql.Token.assignedColumns tokens).Nodup) ∧
      ∀ tenant conditions (m m' : Memory) updated,
        m.update s.table tenant conditions assignments = (.ok updated, m') →
          updated = ((m.rows s.table.name).filter (Memory.selects s.table tenant conditions)).map
            (Memory.assign assignments) ∧
          m'.rows s.table.name = (m.rows s.table.name).map (fun row =>
            if Memory.selects s.table tenant conditions row then Memory.assign assignments row
            else row) ∧
          ∀ row ∈ updated, ∀ a ∈ assignments, row.get? a.name = some a.value.toJson := by
  have hDeclared : ∀ name ∈ (Patch.setAll calls).assignments.map (·.name),
      name ∈ s.descriptor.fields := by
    intro name hName
    rw [Patch.names_setAll, List.mem_eraseDups] at hName
    obtain ⟨a, ha, rfl⟩ := List.mem_map.mp hName
    exact h a ha
  obtain ⟨assignments, hOk⟩ :=
    (s.resolvePatch_checks (.setAll calls)).accepts (undeclared?_eq_none_iff.mpr hDeclared)
  have hPairs := resolvePatch_setAll hOk
  have hNodup := resolvePatch_nodup hOk
  refine ⟨assignments, hOk, hPairs, hNodup, ?_, fun tenant conditions => ?_, ?_⟩
  · intro hTenant
    obtain ⟨a, ha, hName⟩ := List.mem_map.mp hTenant
    exact resolvePatch_names hOk a ha hName
  · have hAssigned := Sql.Shape.assignedColumns_update s.table tenant conditions assignments
    refine ⟨_, (Sql.Spells.update s.table tenant conditions assignments).lex_eq 1, hAssigned, ?_⟩
    rw [hAssigned, Sql.Shape.updatedColumns]
    split
    · exact List.nodup_singleton _
    · exact hNodup
  · intro tenant conditions m m' updated hUpdate
    obtain ⟨hUpdated, hRows⟩ := Memory.update_eq_map hUpdate
    refine ⟨hUpdated, hRows, fun row hRow a ha => ?_⟩
    rw [hUpdated] at hRow
    obtain ⟨before, -, rfl⟩ := List.mem_map.mp hRow
    exact Memory.get?_assign_of_mem hNodup ha before

/-- A job whose status is set twice, with its tenant and its attempts in between, has two columns to
assign, and the status that was set last. -/
theorem job_status_assigned_once :
    let assigned : List Assignment := [⟨"status", .text "DONE"⟩, ⟨"attempts", .int 1⟩]
    let jobs : Memory := ⟨[("jobs", [Jobs.waiting "a"])], 1⟩
    (∀ a ∈ Jobs.settings, a.name ∈ Jobs.store.descriptor.fields) ∧
      Jobs.store.resolvePatch (.setAll Jobs.settings) = .ok assigned ∧
      (∃ tokens, Sql.lex (Sql.update Jobs.store.table Jobs.tenant [] assigned).text = some tokens ∧
        Sql.Token.assignedColumns tokens = ["status", "attempts"]) ∧
      ∃ row m, jobs.update Jobs.store.table Jobs.tenant [] assigned = (.ok [row], m) ∧
        row.get? "status" = some (.string "DONE") := by
  intro assigned jobs
  have hDeclared : ∀ a ∈ Jobs.settings, a.name ∈ Jobs.store.descriptor.fields := by decide
  have hResolved : Jobs.store.resolvePatch (.setAll Jobs.settings) = .ok assigned := rfl
  obtain ⟨assignments, hOk, -, -, -, hSql, hMemory⟩ :=
    patch_assigns_columns Jobs.store _ hDeclared
  obtain rfl := Except.ok.inj (hResolved.symm.trans hOk)
  obtain ⟨tokens, hLex, hAssigned, -⟩ := hSql Jobs.tenant []
  obtain ⟨row, m, hUpdate⟩ :
      ∃ row m, jobs.update Jobs.store.table Jobs.tenant [] assigned = (.ok [row], m) :=
    ⟨_, _, rfl⟩
  obtain ⟨-, -, hCells⟩ := hMemory Jobs.tenant [] jobs m [row] hUpdate
  exact ⟨hDeclared, hResolved, ⟨tokens, hLex, hAssigned⟩, row, m, hUpdate,
    hCells row List.mem_cons_self ⟨"status", .text "DONE"⟩ List.mem_cons_self⟩

end Store

end Tenancy
