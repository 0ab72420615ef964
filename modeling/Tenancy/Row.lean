import Tenancy.Json.Basic

/-!
# Rows

A `Row` maps names to JSON values. Its entries stand in strictly ascending order of their names,
so a row has one way to be written down.
-/

namespace Tenancy

/-- Named JSON cells in ascending order of the names. -/
structure Row where
  entries : List (String × Json)
  sorted : entries.Pairwise fun a b => a.1 < b.1

namespace Row

/-- The row without cells. -/
def empty : Row := ⟨[], .nil⟩

/-! ## Insertion -/

/-- Puts an entry at its place, over an entry of the same name. -/
def insertEntry (name : String) (cell : Json) : List (String × Json) → List (String × Json)
  | [] => [(name, cell)]
  | (k, v) :: rest =>
    if name < k then (name, cell) :: (k, v) :: rest
    else if name = k then (name, cell) :: rest
    else (k, v) :: insertEntry name cell rest

theorem lt_of_mem_insertEntry {name k : String} {cell : Json} (hk : k < name) :
    ∀ {entries : List (String × Json)}, (∀ e ∈ entries, k < e.1) →
      ∀ e ∈ insertEntry name cell entries, k < e.1
  | [], _, e, he => by
    simp only [insertEntry, List.mem_singleton] at he
    exact he ▸ hk
  | (j, v) :: rest, h, e, he => by
    unfold insertEntry at he
    split at he
    · rcases List.mem_cons.mp he with rfl | he
      · exact hk
      · exact h e he
    · split at he
      · rcases List.mem_cons.mp he with rfl | he
        · exact hk
        · exact h e (List.mem_cons_of_mem _ he)
      · rcases List.mem_cons.mp he with rfl | he
        · exact h _ List.mem_cons_self
        · exact lt_of_mem_insertEntry hk (fun e he => h e (List.mem_cons_of_mem _ he)) e he

theorem insertEntry_sorted (name : String) (cell : Json) :
    ∀ {entries : List (String × Json)}, (entries.Pairwise fun a b => a.1 < b.1) →
      (insertEntry name cell entries).Pairwise fun a b => a.1 < b.1
  | [], _ => List.pairwise_singleton _ _
  | (k, v) :: rest, h => by
    obtain ⟨hk, hrest⟩ := List.pairwise_cons.mp h
    unfold insertEntry
    split
    · rename_i hlt
      refine List.pairwise_cons.mpr ⟨fun e he => ?_, h⟩
      rcases List.mem_cons.mp he with rfl | he
      · exact hlt
      · exact String.lt_trans hlt (hk e he)
    · rename_i hnot
      split
      · rename_i heq
        subst heq
        exact List.pairwise_cons.mpr ⟨hk, hrest⟩
      · rename_i hne
        have hlt : k < name := by
          rcases String.le_total k name with hle | hle
          · exact String.not_le.mp fun hge => hne (String.le_antisymm hge hle)
          · exact absurd (String.not_le.mp fun hge => hne (String.le_antisymm hle hge)) hnot
        exact List.pairwise_cons.mpr
          ⟨lt_of_mem_insertEntry hlt hk, insertEntry_sorted name cell hrest⟩

/-- The row with one cell set. -/
def insert (row : Row) (name : String) (cell : Json) : Row :=
  ⟨insertEntry name cell row.entries, insertEntry_sorted name cell row.sorted⟩

/-- Sets all entries, one after the other. -/
def insertAll (row : Row) (entries : List (String × Json)) : Row :=
  entries.foldl (fun row e => row.insert e.1 e.2) row

/-- The row of these entries; of two entries of one name the later one counts. -/
def ofEntries (entries : List (String × Json)) : Row := empty.insertAll entries

/-! ## Reading -/

def get? (row : Row) (name : String) : Option Json := row.entries.lookup name

/-- The cell of that name, `null` if there is none. -/
def cell (row : Row) (name : String) : Json := (row.get? name).getD .null

def names (row : Row) : List String := row.entries.map (·.1)

/-- The row without the cell of that name. -/
def erase (row : Row) (name : String) : Row :=
  ⟨row.entries.filter fun e => e.1 != name, row.sorted.filter _⟩

/-- The row with all cells of another one on top of its own. -/
def overlay (row upper : Row) : Row := row.insertAll upper.entries

def toJson (row : Row) : Json := .object row.entries

/-! ## Cells after a change -/

theorem lookup_cons_entry (j k : String) (v : Json) (rest : List (String × Json)) :
    ((j, v) :: rest).lookup k = if k = j then some v else rest.lookup k := by
  by_cases h : k = j
  · subst h
    simp
  · simp [List.lookup_cons, beq_false_of_ne h, h]

theorem lookup_insertEntry (name k : String) (cell : Json) (entries : List (String × Json)) :
    (insertEntry name cell entries).lookup k = if k = name then some cell else entries.lookup k := by
  induction entries with
  | nil => exact lookup_cons_entry name k cell []
  | cons e rest ih =>
    obtain ⟨j, v⟩ := e
    unfold insertEntry
    split
    · exact lookup_cons_entry name k cell _
    · split
      · rename_i hj
        subst hj
        rw [lookup_cons_entry, lookup_cons_entry]
        split <;> rfl
      · rename_i hne
        rw [lookup_cons_entry, lookup_cons_entry, ih]
        by_cases hk : k = j
        · subst hk
          simp [Ne.symm hne]
        · simp [hk]

theorem get?_insert (row : Row) (name k : String) (cell : Json) :
    (row.insert name cell).get? k = if k = name then some cell else row.get? k :=
  lookup_insertEntry name k cell row.entries

@[simp] theorem get?_insert_self (row : Row) (name : String) (cell : Json) :
    (row.insert name cell).get? name = some cell := by
  simp [get?_insert]

theorem get?_insert_of_ne (row : Row) {name k : String} (cell : Json) (h : k ≠ name) :
    (row.insert name cell).get? k = row.get? k := by
  simp [get?_insert, h]

@[simp] theorem cell_insert_self (row : Row) (name : String) (cell : Json) :
    (row.insert name cell).cell name = cell := by
  simp [Row.cell]

theorem cell_insert_of_ne (row : Row) {name k : String} (cell : Json) (h : k ≠ name) :
    (row.insert name cell).cell k = row.cell k := by
  simp [Row.cell, get?_insert_of_ne row cell h]

@[simp] theorem get?_empty (k : String) : empty.get? k = none := rfl

theorem lookup_filter_ne (name k : String) (entries : List (String × Json)) :
    (entries.filter fun e => e.1 != name).lookup k =
      if k = name then none else entries.lookup k := by
  induction entries with
  | nil => simp
  | cons e rest ih =>
    obtain ⟨j, v⟩ := e
    rw [List.filter_cons, lookup_cons_entry]
    by_cases hj : j = name
    · subst hj
      rw [if_neg (by simp), ih]
      split <;> rfl
    · rw [if_pos (by simp [hj]), lookup_cons_entry, ih]
      by_cases hk : k = j
      · subst hk
        simp [hj]
      · simp [hk]

theorem get?_erase (row : Row) (name k : String) :
    (row.erase name).get? k = if k = name then none else row.get? k :=
  lookup_filter_ne name k row.entries

/-- A cell comes from the inserted entries where they have one. -/
theorem get?_insertAll {entries : List (String × Json)}
    (h : entries.Pairwise fun a b => a.1 < b.1) (row : Row) (k : String) :
    (row.insertAll entries).get? k = (entries.lookup k).or (row.get? k) := by
  induction entries generalizing row with
  | nil => simp [insertAll]
  | cons e rest ih =>
    obtain ⟨j, v⟩ := e
    obtain ⟨hj, hrest⟩ := List.pairwise_cons.mp h
    have step : (row.insertAll ((j, v) :: rest)).get? k =
        (rest.lookup k).or ((row.insert j v).get? k) := ih hrest (row.insert j v)
    rw [step, get?_insert, lookup_cons_entry]
    by_cases hk : k = j
    · subst hk
      have absent : rest.lookup k = none := by
        rw [List.lookup_eq_none_iff]
        intro e he
        exact bne_iff_ne.mpr (String.ne_of_lt (hj e he))
      simp [absent]
    · simp [hk]

/-- A cell of the overlaid row comes from the upper row where that has one. -/
theorem get?_overlay (row upper : Row) (k : String) :
    (row.overlay upper).get? k = (upper.get? k).or (row.get? k) :=
  get?_insertAll upper.sorted row k

end Row

end Tenancy
