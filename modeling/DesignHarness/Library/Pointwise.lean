import Mathlib.Data.List.Forall2

/-!
# Lists related element by element

Composition of pointwise relations, and the partner of an element.
-/

namespace DesignHarness.Library

universe u v w

variable {α : Type u} {β : Type v} {γ : Type w}

/-- A relation from the first list to the second and one from there to the third compose. -/
theorem forall₂_trans {R : α → β → Prop} {S : β → γ → Prop} {T : α → γ → Prop}
    (compose : ∀ a b c, R a b → S b c → T a c) {xs : List α} {ys : List β} {zs : List γ}
    (first : List.Forall₂ R xs ys) (second : List.Forall₂ S ys zs) : List.Forall₂ T xs zs := by
  induction first generalizing zs with
  | nil =>
      cases second
      exact .nil
  | cons related _ ih =>
      cases second with
      | cons next later => exact .cons (compose _ _ _ related next) (ih later)

/-- A map relates every element to its image. -/
theorem forall₂_map {R : β → γ → Prop} {f : α → β} {g : α → γ} {xs : List α}
    (related : ∀ x ∈ xs, R (f x) (g x)) : List.Forall₂ R (xs.map f) (xs.map g) := by
  rw [List.forall₂_map_left_iff, List.forall₂_map_right_iff]
  exact List.forall₂_same.mpr related

/-- Reading the images of a map element by element. -/
theorem mapM_map_some {f : β → Option γ} {g : α → β} {h : α → γ} {xs : List α}
    (each : ∀ x ∈ xs, f (g x) = some (h x)) : (xs.map g).mapM f = some (xs.map h) := by
  induction xs with
  | nil => rfl
  | cons x xs ih =>
      obtain ⟨head, others⟩ := List.forall_mem_cons.mp each
      simp only [List.map_cons, List.mapM_cons, head, ih others, Option.bind_eq_bind,
        Option.bind_some, Option.pure_def]

theorem exists_left_of_forall₂ {R : α → β → Prop} {xs : List α} {ys : List β}
    (related : List.Forall₂ R xs ys) {y : β} (member : y ∈ ys) : ∃ x ∈ xs, R x y := by
  induction related with
  | nil => cases member
  | @cons a b xs ys first _ ih =>
      rcases List.mem_cons.mp member with rfl | later
      · exact ⟨a, List.mem_cons_self, first⟩
      · obtain ⟨x, xMember, holds⟩ := ih later
        exact ⟨x, List.mem_cons_of_mem a xMember, holds⟩

theorem exists_right_of_forall₂ {R : α → β → Prop} {xs : List α} {ys : List β}
    (related : List.Forall₂ R xs ys) {x : α} (member : x ∈ xs) : ∃ y ∈ ys, R x y :=
  exists_left_of_forall₂ (List.Forall₂.flip related) member

end DesignHarness.Library
