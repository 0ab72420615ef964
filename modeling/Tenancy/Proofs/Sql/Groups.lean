import Mathlib.Data.List.Induction
import Tenancy.Proofs.Schema
import Tenancy.Sql.Exchange

/-!
# The groups of a batch

The rows of a batch are written with one statement for each set of columns. The groups are the sets
of columns in the order of their first rows, and each has all rows with its columns, in the order of
the batch (`groupsOf_eq`). So every place of the batch is in one group, at one position
(`exists_member`).
-/

namespace Tenancy.Sql.Exchange

/-- The group of all rows with these columns among rows with places. -/
def Group.among (entries : List (Row × Nat)) (columns : List String) : Group :=
  ⟨columns, (entries.filter fun e => e.1.names = columns).map fun e => (e.2, e.1)⟩

/-- The groups of rows with places. -/
def grouped (entries : List (Row × Nat)) : List Group :=
  (entries.map fun e => e.1.names).eraseDups.map (Group.among entries)

theorem among_concat (entries : List (Row × Nat)) (row : Row) (place : Nat)
    (columns : List String) :
    Group.among (entries ++ [(row, place)]) columns =
      if row.names = columns then
        ⟨columns, (Group.among entries columns).members ++ [(place, row)]⟩
      else Group.among entries columns := by
  by_cases h : row.names = columns <;> simp [Group.among, h]

theorem nodup_eraseDups (sets : List (List String)) : sets.eraseDups.Nodup := by
  induction sets using List.reverseRecOn with
  | nil => simp
  | append_singleton sets columns ih =>
    rw [eraseDups_concat]
    split
    · exact ih
    · rename_i hNew
      exact List.nodup_append.2 ⟨ih, by simp, by
        rintro a ha b hb rfl
        exact hNew (List.mem_eraseDups.1 (List.mem_singleton.1 hb ▸ ha))⟩

/-- A row goes to the group with its columns. -/
theorem addToGroups_map {place : Nat} {row : Row} {entries : List (Row × Nat)}
    {sets : List (List String)} (hNodup : sets.Nodup) (hMem : row.names ∈ sets) :
    addToGroups place row (sets.map (Group.among entries)) =
      sets.map (Group.among (entries ++ [(row, place)])) := by
  induction sets with
  | nil => cases hMem
  | cons columns sets ih =>
    obtain ⟨hNot, hNodup⟩ := List.nodup_cons.1 hNodup
    rw [List.map_cons, addToGroups, List.map_cons, among_concat]
    by_cases hSame : row.names = columns
    · subst hSame
      have hOthers : sets.map (Group.among (entries ++ [(row, place)])) =
          sets.map (Group.among entries) := by
        refine List.map_congr_left fun other hOther => ?_
        rw [among_concat, if_neg]
        rintro rfl
        exact hNot hOther
      rw [hOthers, if_pos rfl]
      exact if_pos rfl
    · have hRest : row.names ∈ sets := (List.mem_cons.1 hMem).resolve_left hSame
      rw [if_neg hSame, if_neg fun h => hSame h.symm, ih hNodup hRest]

/-- A row with new columns starts a group. -/
theorem addToGroups_map_of_not_mem {place : Nat} {row : Row} {entries : List (Row × Nat)}
    {sets : List (List String)} (hNew : row.names ∉ sets) :
    addToGroups place row (sets.map (Group.among entries)) =
      sets.map (Group.among entries) ++ [⟨row.names, [(place, row)]⟩] := by
  induction sets with
  | nil => rfl
  | cons columns sets ih =>
    obtain ⟨hNot, hRest⟩ := not_or.1 (mt List.mem_cons.2 hNew)
    rw [List.map_cons, addToGroups, if_neg fun h => hNot h.symm, ih hRest]
    rfl

theorem addToGroups_grouped (entries : List (Row × Nat)) (row : Row) (place : Nat) :
    addToGroups place row (grouped entries) = grouped (entries ++ [(row, place)]) := by
  rw [grouped, grouped, List.map_append, List.map_singleton, eraseDups_concat]
  by_cases hMem : row.names ∈ entries.map fun e => e.1.names
  · rw [if_pos hMem, addToGroups_map (nodup_eraseDups _) (List.mem_eraseDups.2 hMem)]
  · rw [if_neg hMem, addToGroups_map_of_not_mem (mt List.mem_eraseDups.1 hMem), List.map_append,
      List.map_singleton, among_concat, if_pos rfl]
    -- none of the rows before has these columns, and the new one has no others
    have hNone : entries.filter (fun e => e.1.names = row.names) = [] := by
      rw [List.filter_eq_nil_iff]
      intro e he hSame
      exact hMem (List.mem_map.2 ⟨e, he, of_decide_eq_true hSame⟩)
    have hOthers : (entries.map fun e => e.1.names).eraseDups.map
          (Group.among (entries ++ [(row, place)])) =
        (entries.map fun e => e.1.names).eraseDups.map (Group.among entries) := by
      refine List.map_congr_left fun columns hColumns => ?_
      rw [among_concat, if_neg]
      rintro rfl
      exact hMem (List.mem_eraseDups.1 hColumns)
    rw [hOthers, Group.among, hNone]
    rfl

/-- The groups of a batch are the sets of columns of its rows, each with all rows that have them. -/
theorem groupsOf_eq (rows : List Row) : groupsOf rows = grouped rows.zipIdx := by
  suffices h : ∀ before entries : List (Row × Nat),
      entries.foldl (fun groups e => addToGroups e.2 e.1 groups) (grouped before) =
        grouped (before ++ entries) from h [] rows.zipIdx
  intro before entries
  induction entries generalizing before with
  | nil => simp
  | cons e entries ih =>
    obtain ⟨row, place⟩ := e
    have hStep := addToGroups_grouped before row place
    simp only [List.foldl_cons, hStep, ih, List.append_assoc, List.cons_append, List.nil_append]

theorem columns_groupsOf (rows : List Row) :
    (groupsOf rows).map Group.columns = (rows.map Row.names).eraseDups := by
  rw [groupsOf_eq, grouped, List.map_map]
  have hNames : (rows.zipIdx.map fun e => e.1.names) = rows.map Row.names := by
    have hFirst := congrArg (List.map Row.names) (List.zipIdx_map_fst 0 rows)
    rwa [List.map_map] at hFirst
  rw [hNames]
  exact List.map_id' _

theorem members_eq {rows : List Row} {g : Group} (hg : g ∈ groupsOf rows) :
    g.members = (rows.zipIdx.filter fun e => e.1.names = g.columns).map fun e => (e.2, e.1) := by
  rw [groupsOf_eq] at hg
  obtain ⟨columns, -, rfl⟩ := List.mem_map.1 hg
  rfl

theorem mem_members {rows : List Row} {g : Group} (hg : g ∈ groupsOf rows) {place : Nat}
    {row : Row} : (place, row) ∈ g.members ↔ rows[place]? = some row ∧ row.names = g.columns := by
  rw [members_eq hg]
  simp only [List.mem_map, List.mem_filter, decide_eq_true_eq, Prod.mk.injEq, Prod.exists,
    List.mem_zipIdx_iff_getElem?]
  constructor
  · rintro ⟨r, k, ⟨hRow, hNames⟩, rfl, rfl⟩
    exact ⟨hRow, hNames⟩
  · rintro ⟨hRow, hNames⟩
    exact ⟨row, place, ⟨hRow, hNames⟩, rfl, rfl⟩

/-- Every row of the batch is a member of a group. -/
theorem exists_member {rows : List Row} {place : Nat} {row : Row} (hRow : rows[place]? = some row) :
    ∃ g ∈ groupsOf rows, (place, row) ∈ g.members := by
  have hColumns : row.names ∈ (groupsOf rows).map Group.columns := by
    rw [columns_groupsOf, List.mem_eraseDups]
    exact List.mem_map.2 ⟨row, List.mem_of_getElem? hRow, rfl⟩
  obtain ⟨g, hg, hSame⟩ := List.mem_map.1 hColumns
  exact ⟨g, hg, (mem_members hg).2 ⟨hRow, hSame.symm⟩⟩

/-- No place of the batch is in two groups, or twice in one. -/
theorem nodup_places (rows : List Row) :
    ((groupsOf rows).flatMap fun g => g.members.map (·.1)).Nodup := by
  rw [List.nodup_flatMap]
  constructor
  · intro g hg
    rw [members_eq hg, List.map_map]
    have hPlaces : (rows.zipIdx.map (·.2)).Nodup := by
      rw [List.zipIdx_map_snd]
      exact List.nodup_range'
    exact hPlaces.sublist (List.filter_sublist.map _)
  · have hDistinct : (groupsOf rows).Pairwise fun g h => g.columns ≠ h.columns := by
      have hNodup := nodup_eraseDups (rows.map Row.names)
      rw [← columns_groupsOf] at hNodup
      exact List.pairwise_map.1 hNodup
    refine hDistinct.imp_of_mem fun {g h} hg hh hColumns place hPlace hPlace' => ?_
    obtain ⟨⟨_, row⟩, hMember, rfl⟩ := List.mem_map.1 hPlace
    obtain ⟨⟨_, row'⟩, hMember', hSame⟩ := List.mem_map.1 hPlace'
    obtain ⟨hRow, hNames⟩ := (mem_members hg).1 hMember
    obtain ⟨hRow', hNames'⟩ := (mem_members hh).1 hMember'
    dsimp only at hSame
    rw [hSame, hRow] at hRow'
    obtain rfl := Option.some.inj hRow'
    exact hColumns (hNames.symm.trans hNames')

end Tenancy.Sql.Exchange
