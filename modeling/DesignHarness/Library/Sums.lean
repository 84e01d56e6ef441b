import Mathlib.Algebra.Order.BigOperators.Group.List
import Mathlib.Algebra.GroupWithZero.Nat
import Mathlib.Data.List.Basic

/-!
# Totals over a list of records

`total selects amount items` adds up an amount over the selected items.  A list of records is
changed by appending one or by changing the first one with a key in place (`replaceFirst`); a
total then moves by the share of that record alone.
-/

namespace DesignHarness.Library

variable {α κ : Type*} [DecidableEq κ]

/-- What an item adds to a total. -/
def share (selects : α → Bool) (amount : α → Nat) (item : α) : Nat :=
  if selects item then amount item else 0

def total (selects : α → Bool) (amount : α → Nat) (items : List α) : Nat :=
  ((items.filter selects).map amount).sum

/-- The list with the first item under the key of `updated` replaced. -/
def replaceFirst (key : α → κ) (updated : α) : List α → List α
  | [] => []
  | item :: rest => if key item = key updated then updated :: rest
      else item :: replaceFirst key updated rest

section

variable {selects other : α → Bool} {amount amount' : α → Nat} {key : α → κ}
  {item updated : α} {items rest : List α}

@[simp] theorem total_nil : total selects amount [] = 0 := rfl

@[simp] theorem total_cons :
    total selects amount (item :: items) = share selects amount item + total selects amount items := by
  unfold total share
  by_cases selected : selects item <;> simp [selected]

@[simp] theorem total_append :
    total selects amount (items ++ rest) = total selects amount items + total selects amount rest := by
  simp [total]

theorem total_add_le {first second : α → Bool} {amount₁ amount₂ : α → Nat}
    (larger : ∀ item ∈ items, share selects amount item ≤
      share first amount₁ item + share second amount₂ item) :
    total selects amount items ≤ total first amount₁ items + total second amount₂ items := by
  induction items with
  | nil => exact le_rfl
  | cons item rest ih =>
      have here := larger item List.mem_cons_self
      have later := ih fun other later => larger other (List.mem_cons_of_mem _ later)
      rw [total_cons, total_cons, total_cons]
      omega

theorem total_eq_zero (none : ∀ item ∈ items, selects item = false) :
    total selects amount items = 0 := by
  have empty : items.filter selects = [] := by
    rw [List.filter_eq_nil_iff]
    intro item member
    rw [none item member]
    exact Bool.false_ne_true
  rw [total, empty]
  rfl

theorem share_le_total (member : item ∈ items) :
    share selects amount item ≤ total selects amount items := by
  induction items with
  | nil => cases member
  | cons first rest ih =>
      rw [total_cons]
      rcases List.mem_cons.mp member with rfl | later
      · exact Nat.le_add_right _ _
      · exact Nat.le_trans (ih later) (Nat.le_add_left _ _)

/-- A total of ones counts the selected items. -/
theorem countP_eq_total : items.countP selects = total selects (fun _ => 1) items := by
  simp [total, List.countP_eq_length_filter]

/-! ### Changing one record in place -/

theorem find?_replaceFirst (found : (items.find? fun other => key other = key updated).isSome) :
    ((replaceFirst key updated items).find? fun other => key other = key updated) =
      some updated := by
  induction items with
  | nil => cases found
  | cons first rest ih =>
      rw [replaceFirst]
      by_cases same : key first = key updated
      · simp [same]
      · rw [if_neg same, List.find?_cons_of_neg (by simpa using same)]
        exact ih (by simpa [same] using found)

/-- Records with another key are found as before. -/
theorem find?_replaceFirst_of_ne {other : κ} (different : other ≠ key updated) :
    ((replaceFirst key updated items).find? fun item => key item = other) =
      items.find? fun item => key item = other := by
  induction items with
  | nil => rfl
  | cons first rest ih =>
      rw [replaceFirst]
      split
      · rename_i same
        rw [List.find?_cons_of_neg (by simpa using different.symm),
          List.find?_cons_of_neg (by simpa [same] using different.symm)]
      · rw [List.find?_cons, List.find?_cons, ih]

theorem mem_replaceFirst (member : item ∈ replaceFirst key updated items) :
    item = updated ∨ item ∈ items := by
  induction items with
  | nil => cases member
  | cons first rest ih =>
      rw [replaceFirst] at member
      split at member
      · rcases List.mem_cons.mp member with rfl | later
        · exact .inl rfl
        · exact .inr (List.mem_cons_of_mem _ later)
      · rcases List.mem_cons.mp member with rfl | later
        · exact .inr List.mem_cons_self
        · rcases ih later with same | before
          · exact .inl same
          · exact .inr (List.mem_cons_of_mem _ before)

/-- A total moves by the share of the record that is changed. -/
theorem total_replaceFirst
    (found : (items.find? fun other => key other = key updated) = some item) :
    total selects amount (replaceFirst key updated items) + share selects amount item =
      total selects amount items + share selects amount updated := by
  induction items with
  | nil => cases found
  | cons first rest ih =>
      rw [replaceFirst]
      by_cases same : key first = key updated
      · rw [List.find?_cons_of_pos (by simpa using same)] at found
        obtain rfl := Option.some.inj found
        rw [if_pos same, total_cons, total_cons]
        omega
      · rw [List.find?_cons_of_neg (by simpa using same)] at found
        rw [if_neg same, total_cons, total_cons]
        have later := ih found
        omega

/-- Replacing an item by one that looks the same changes nothing about how the items look. -/
theorem map_replaceFirst_of_same {f : α → β}
    (found : (items.find? fun other => key other = key updated) = some item)
    (same : f updated = f item) : (replaceFirst key updated items).map f = items.map f := by
  induction items with
  | nil => rfl
  | cons first rest ih =>
      rw [replaceFirst]
      by_cases here : key first = key updated
      · obtain rfl : first = item := by simpa [here] using found
        rw [if_pos here, List.map_cons, List.map_cons, same]
      · rw [if_neg here, List.map_cons, List.map_cons, ih]
        simpa [here] using found

end

/-- An item belongs to one of the groups. -/
theorem sum_share_groups {group : α → κ} {amount : α → Nat} {item : α} {keys : List κ}
    (distinct : keys.Nodup) (covered : group item ∈ keys) :
    (keys.map fun k => share (fun other => group other = k) amount item).sum = amount item := by
  have absent : ∀ rest : List κ, group item ∉ rest →
      (rest.map fun k => share (fun other => group other = k) amount item).sum = 0 := by
    intro rest outside
    refine List.sum_eq_zero ?_
    intro n member
    obtain ⟨k, among, rfl⟩ := List.mem_map.mp member
    have different : group item ≠ k := fun same => outside (same ▸ among)
    simp [share, different]
  induction keys with
  | nil => cases covered
  | cons k keys ih =>
      obtain ⟨new, rest⟩ := List.nodup_cons.mp distinct
      rw [List.map_cons, List.sum_cons]
      by_cases same : group item = k
      · rw [absent keys (same ▸ new)]
        simp [share, same]
      · rw [ih rest ((List.mem_cons.mp covered).resolve_left same)]
        simp [share, same]

/-- The totals of the groups add up to the total. -/
theorem sum_total_groups {group : α → κ} {amount : α → Nat} {items : List α} {keys : List κ}
    (distinct : keys.Nodup) (covered : ∀ item ∈ items, group item ∈ keys) :
    (keys.map fun k => total (fun item => group item = k) amount items).sum =
      (items.map amount).sum := by
  induction items with
  | nil => simp
  | cons item items ih =>
      have rest := ih fun other later => covered other (List.mem_cons_of_mem _ later)
      simp only [total_cons, List.sum_map_add, rest, List.map_cons, List.sum_cons]
      rw [sum_share_groups distinct (covered item List.mem_cons_self)]

end DesignHarness.Library
