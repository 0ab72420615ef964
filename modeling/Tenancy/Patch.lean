import Tenancy.Value.Basic

/-!
# Patches

A `Patch` assigns values to named fields, each field once, in the order in which the fields were
first set.
-/

namespace Tenancy

/-- A value for a field of records, or for a column of rows. -/
structure Assignment where
  name : String
  value : Value

/-- Assignments to distinct fields. -/
structure Patch where
  assignments : List Assignment
  nodup : (assignments.map (·.name)).Nodup

namespace Patch

def empty : Patch := ⟨[], by simp⟩

/-- Gives the assignment to the field a new value, or adds one at the end. -/
def setIn (field : String) (value : Value) : List Assignment → List Assignment
  | [] => [⟨field, value⟩]
  | a :: rest => if a.name = field then ⟨field, value⟩ :: rest else a :: setIn field value rest

theorem names_setIn (field : String) (value : Value) (as : List Assignment) :
    (setIn field value as).map (·.name) =
      if field ∈ as.map (·.name) then as.map (·.name) else as.map (·.name) ++ [field] := by
  induction as with
  | nil => simp [setIn]
  | cons a rest ih =>
    unfold setIn
    by_cases h : a.name = field
    · simp [h]
    · rw [if_neg h, List.map_cons, ih]
      by_cases hrest : field ∈ rest.map (·.name)
      · rw [if_pos hrest, List.map_cons, if_pos (List.mem_cons_of_mem _ hrest)]
      · have absent : field ∉ (a :: rest).map (·.name) := by
          rw [List.map_cons, List.mem_cons]
          exact not_or.mpr ⟨Ne.symm h, hrest⟩
        rw [if_neg hrest, if_neg absent, List.map_cons, List.cons_append]

theorem setIn_nodup (field : String) (value : Value) {as : List Assignment}
    (h : (as.map (·.name)).Nodup) : ((setIn field value as).map (·.name)).Nodup := by
  rw [names_setIn]
  split
  · exact h
  · rename_i absent
    rw [List.nodup_append]
    refine ⟨h, by simp, ?_⟩
    intro a ha b hb he
    exact absent (List.mem_singleton.mp hb ▸ he ▸ ha)

/-- Sets a field; the last value set for it counts. -/
def set (p : Patch) (field : String) (value : Value) : Patch :=
  ⟨setIn field value p.assignments, setIn_nodup field value p.nodup⟩

def isEmpty (p : Patch) : Bool := p.assignments.isEmpty

/-- The value that is assigned to a field. -/
def get? (p : Patch) (field : String) : Option Value :=
  (p.assignments.find? (·.name = field)).map (·.value)

/-! ## Values after an assignment -/

@[simp] theorem get?_empty (field : String) : empty.get? field = none := rfl

theorem find?_setIn (field k : String) (value : Value) (as : List Assignment) :
    ((setIn field value as).find? (·.name = k)).map (·.value) =
      if k = field then some value else (as.find? (·.name = k)).map (·.value) := by
  induction as with
  | nil =>
    by_cases h : field = k
    · simp [setIn, h]
    · simp [setIn, h, Ne.symm h]
  | cons a rest ih =>
    unfold setIn
    by_cases ha : a.name = field
    · subst ha
      by_cases hk : a.name = k
      · subst hk
        simp
      · simp [hk, Ne.symm hk]
    · rw [if_neg ha]
      by_cases hk : a.name = k
      · subst hk
        simp [ha]
      · rw [List.find?_cons_of_neg (by simpa using hk), ih,
          List.find?_cons_of_neg (by simpa using hk)]

theorem get?_set (p : Patch) (field k : String) (value : Value) :
    (p.set field value).get? k = if k = field then some value else p.get? k :=
  find?_setIn field k value p.assignments

end Patch

end Tenancy
