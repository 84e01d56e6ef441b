import Mathlib.Data.List.Sort

/-!
# Sorting a list in two parts

A stable sort of two lists, the first of which lies before the second, sorts them one by one.
-/

namespace DesignHarness.Library

universe u

variable {α : Type u} {r : α → α → Prop} [DecidableRel r]

/-- An element that goes before all of the second list is inserted into the first. -/
theorem orderedInsert_append {a : α} {xs ys : List α} (before : ∀ y ∈ ys, r a y) :
    (xs ++ ys).orderedInsert r a = xs.orderedInsert r a ++ ys := by
  induction xs with
  | nil =>
      cases ys with
      | nil => rfl
      | cons y ys =>
          rw [List.nil_append, List.orderedInsert_cons_of_le r ys (before y List.mem_cons_self)]
          rfl
  | cons x xs ih =>
      rw [List.cons_append, List.orderedInsert_cons, List.orderedInsert_cons, ih]
      split <;> rfl

theorem insertionSort_append {xs ys : List α} (before : ∀ x ∈ xs, ∀ y ∈ ys, r x y) :
    (xs ++ ys).insertionSort r = xs.insertionSort r ++ ys.insertionSort r := by
  induction xs with
  | nil => rfl
  | cons x xs ih =>
      rw [List.cons_append, List.insertionSort_cons, List.insertionSort_cons,
        ih fun a member => before a (List.mem_cons_of_mem x member)]
      refine orderedInsert_append fun y member => before x List.mem_cons_self y ?_
      exact (List.perm_insertionSort r ys).subset member

end DesignHarness.Library
