/-!
# Stable insertion sort

`stableSort cmp xs` orders a list by a three-way comparison. Elements are taken from the left
and inserted from the end of what is sorted so far, so equal elements keep their order. The
definition asks nothing of `cmp`; when `cmp` is no total preorder the result is still the one
that this insertion yields.
-/

namespace Tenancy

variable {α : Type}

/-- Inserts `x` into a list that stands in descending order: `x` passes every element that it
precedes and stops at the first one that it does not precede. -/
def insertDescending (cmp : α → α → Ordering) (x : α) : List α → List α
  | [] => [x]
  | y :: ys => if cmp x y = .lt then y :: insertDescending cmp x ys else x :: y :: ys

/-- The list in ascending order of `cmp`, equal elements in their old order. -/
def stableSort (cmp : α → α → Ordering) (xs : List α) : List α :=
  (xs.foldl (fun sorted x => insertDescending cmp x sorted) []).reverse

/-! ## The sorted list holds the same elements -/

theorem insertDescending_perm (cmp : α → α → Ordering) (x : α) (ys : List α) :
    (insertDescending cmp x ys).Perm (x :: ys) := by
  induction ys with
  | nil => exact .refl _
  | cons y ys ih =>
    unfold insertDescending
    split
    · exact (ih.cons y).trans (.swap x y ys)
    · exact .refl _

theorem stableSort_perm (cmp : α → α → Ordering) (xs : List α) :
    (stableSort cmp xs).Perm xs := by
  suffices h : ∀ sorted : List α,
      (xs.foldl (fun sorted x => insertDescending cmp x sorted) sorted).Perm (sorted ++ xs) by
    exact (List.reverse_perm _).trans (by simpa using h [])
  induction xs with
  | nil => intro sorted; simp
  | cons x xs ih =>
    intro sorted
    rw [List.foldl_cons]
    refine (ih _).trans ?_
    exact ((insertDescending_perm cmp x sorted).append_right xs).trans List.perm_middle.symm

end Tenancy
