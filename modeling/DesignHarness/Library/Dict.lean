import Mathlib.Data.List.Nodup

/-!
# Dictionaries built from a list

`{key(item): item for item in items}` keeps, for a repeated key, the item that comes last.
`dictGet key items k` is the lookup in that dictionary.  Over a list whose keys are distinct it
finds the one item that carries the key (`dictGet_eq_some_iff`).
-/

namespace DesignHarness.Library

variable {α κ : Type*} [DecidableEq κ]

/-- Lookup in `{key(item): item for item in items}`: the last item with the key wins. -/
def dictGet (key : α → κ) : List α → κ → Option α
  | [], _ => none
  | item :: rest, k =>
      match dictGet key rest k with
      | some found => some found
      | none => if key item = k then some item else none

variable {key : α → κ} {items : List α} {k : κ} {a : α}

theorem mem_of_dictGet (h : dictGet key items k = some a) : a ∈ items ∧ key a = k := by
  induction items with
  | nil => simp [dictGet] at h
  | cons item rest ih =>
      simp only [dictGet] at h
      cases found : dictGet key rest k with
      | some b =>
          simp only [found, Option.some.injEq] at h
          subst h
          obtain ⟨member, same⟩ := ih found
          exact ⟨List.mem_cons_of_mem _ member, same⟩
      | none =>
          simp only [found, Option.ite_none_right_eq_some, Option.some.injEq] at h
          obtain ⟨same, rfl⟩ := h
          exact ⟨List.mem_cons_self, same⟩

theorem dictGet_eq_none_iff : dictGet key items k = none ↔ k ∉ items.map key := by
  induction items with
  | nil => simp [dictGet]
  | cons item rest ih =>
      simp only [dictGet, List.map_cons, List.mem_cons, not_or]
      cases found : dictGet key rest k with
      | some b =>
          have member := mem_of_dictGet found
          simp only [reduceCtorEq, false_iff, not_and, not_not]
          exact fun _ => List.mem_map.mpr ⟨b, member.1, member.2⟩
      | none =>
          have absent := ih.mp found
          simp [absent, eq_comm]

theorem dictGet_isSome_iff : (dictGet key items k).isSome ↔ k ∈ items.map key := by
  rw [← not_iff_not, Bool.not_eq_true, Option.isSome_eq_false_iff, Option.isNone_iff_eq_none,
    dictGet_eq_none_iff]

/-- Over distinct keys the dictionary finds every item under its own key. -/
theorem dictGet_eq_some_iff (distinct : (items.map key).Nodup) :
    dictGet key items k = some a ↔ a ∈ items ∧ key a = k := by
  constructor
  · exact mem_of_dictGet
  · rintro ⟨member, same⟩
    have present : (dictGet key items k).isSome :=
      dictGet_isSome_iff.mpr (List.mem_map.mpr ⟨a, member, same⟩)
    obtain ⟨b, found⟩ := Option.isSome_iff_exists.mp present
    obtain ⟨member', same'⟩ := mem_of_dictGet found
    rw [found, List.inj_on_of_nodup_map distinct member' member (same'.trans same.symm)]

/-- Replacing the items by a map that keeps the keys replaces what the dictionary finds. -/
theorem dictGet_map {f : α → α} (keeps : ∀ item ∈ items, key (f item) = key item) :
    dictGet key (items.map f) k = (dictGet key items k).map f := by
  induction items with
  | nil => rfl
  | cons item rest ih =>
      have tail := ih fun b member => keeps b (List.mem_cons_of_mem _ member)
      simp only [List.map_cons, dictGet, tail, keeps item List.mem_cons_self]
      cases dictGet key rest k with
      | some found => rfl
      | none => by_cases same : key item = k <;> simp [same]

end DesignHarness.Library
