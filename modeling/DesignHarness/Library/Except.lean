import Mathlib.Data.List.Forall2

/-!
# Computations that may raise

Inversion rules for `Except`, and `ensure`, the guard a handler raises through.  A handler
written with `do` is taken apart by `bind_eq_ok` one statement at a time, so a proof about a
successful call never unfolds the statements it does not need.
-/

namespace DesignHarness.Library

universe u v

variable {ε : Type u} {α β : Type v}

/-- Raise `error` unless `condition` holds. -/
def ensure (condition : Prop) [Decidable condition] (error : ε) : Except ε Unit :=
  if condition then .ok () else .error error

theorem bind_eq_ok {x : Except ε α} {f : α → Except ε β} {b : β} :
    (x >>= f) = .ok b ↔ ∃ a, x = .ok a ∧ f a = .ok b := by
  cases x <;> simp [bind, Except.bind]

theorem bind_eq_error {x : Except ε α} {f : α → Except ε β} {e : ε} :
    (x >>= f) = .error e ↔ x = .error e ∨ ∃ a, x = .ok a ∧ f a = .error e := by
  cases x <;> simp [bind, Except.bind]

/-- What a conditional check that did not raise leaves. -/
theorem ok_of_guarded {condition : Prop} [Decidable condition] {check : Except ε α}
    {rest : Except ε β} {b : β}
    (h : (if condition then check >>= fun _ => rest else rest) = .ok b) : rest = .ok b := by
  split at h
  · obtain ⟨-, -, h⟩ := bind_eq_ok.mp h
    exact h
  · exact h

/-- A conditional check that did not raise. -/
theorem guarded_eq_ok {condition : Prop} [Decidable condition] {check : Except ε PUnit}
    {rest : Except ε β} {b : β} :
    (if condition then check >>= fun _ => rest else rest) = .ok b ↔
      (condition → check = .ok ⟨⟩) ∧ rest = .ok b := by
  by_cases holds : condition
  · rw [if_pos holds, bind_eq_ok]
    exact ⟨fun ⟨⟨⟩, checked, result⟩ => ⟨fun _ => checked, result⟩,
      fun ⟨checked, result⟩ => ⟨⟨⟩, checked holds, result⟩⟩
  · rw [if_neg holds]
    exact ⟨fun result => ⟨fun holds' => absurd holds' holds, result⟩, And.right⟩

@[simp] theorem ok_bind (a : α) (f : α → Except ε β) : (Except.ok a >>= f) = f a := rfl

@[simp] theorem error_bind (e : ε) (f : α → Except ε β) :
    ((Except.error e : Except ε α) >>= f) = .error e := rfl

@[simp] theorem pure_eq_ok (a : α) : (pure a : Except ε α) = .ok a := rfl

section

variable {condition : Prop} [Decidable condition] {error : ε}

@[simp] theorem ensure_eq_ok {u : Unit} : ensure condition error = .ok u ↔ condition := by
  unfold ensure
  split <;> simp_all

@[simp] theorem ensure_eq_error {e : ε} :
    ensure condition error = .error e ↔ ¬ condition ∧ e = error := by
  unfold ensure
  split <;> simp_all [eq_comm]

theorem ensure_of (h : condition) : ensure condition error = .ok () := if_pos h

theorem ensure_of_not (h : ¬ condition) : ensure condition error = .error error := if_neg h

end

/-- `for item in items: check(item)`. -/
def checkEach (check : α → Except ε Unit) : List α → Except ε Unit
  | [] => .ok ()
  | item :: rest => do
      check item
      checkEach check rest

theorem checkEach_eq_ok {check : α → Except ε Unit} {items : List α} {u : Unit} :
    checkEach check items = .ok u ↔ ∀ item ∈ items, check item = .ok () := by
  induction items with
  | nil => simp [checkEach]
  | cons item rest ih =>
      simp only [checkEach, bind_eq_ok, ih, List.forall_mem_cons]
      exact ⟨fun ⟨(), first, others⟩ => ⟨first, others⟩, fun ⟨first, others⟩ => ⟨(), first, others⟩⟩

/-- The error of a loop is the error of the check of one of its items. -/
theorem checkEach_eq_error {check : α → Except ε Unit} {items : List α} {e : ε}
    (h : checkEach check items = .error e) : ∃ item ∈ items, check item = .error e := by
  induction items with
  | nil => cases h
  | cons item rest ih =>
      rcases bind_eq_error.mp h with first | ⟨-, -, later⟩
      · exact ⟨item, List.mem_cons_self, first⟩
      · obtain ⟨other, member, failed⟩ := ih later
        exact ⟨other, List.mem_cons_of_mem _ member, failed⟩

theorem toOption_eq_some {outcome : Except ε α} {value : α} :
    outcome.toOption = some value ↔ outcome = .ok value := by
  cases outcome <;> simp [Except.toOption]

/-- `[f(item) for item in items]`. -/
theorem mapM_eq_ok {f : α → Except ε β} {items : List α} {results : List β} :
    items.mapM f = .ok results ↔ List.Forall₂ (fun item result => f item = .ok result) items
      results := by
  induction items generalizing results with
  | nil =>
      rw [List.mapM_nil, List.forall₂_nil_left_iff, pure_eq_ok, Except.ok.injEq, eq_comm]
  | cons item items ih =>
      rw [List.mapM_cons, bind_eq_ok]
      constructor
      · rintro ⟨first, ran, rest⟩
        obtain ⟨others, later, rest⟩ := bind_eq_ok.mp rest
        obtain rfl := Except.ok.inj rest
        exact .cons ran (ih.mp later)
      · rintro (_ | ⟨ran, later⟩)
        exact ⟨_, ran, bind_eq_ok.mpr ⟨_, ih.mpr later, rfl⟩⟩

/-! ## How a computation may end -/

/-- The computation returns a value as described, or raises an error as described. -/
def Ends (outcome : Except ε α) (returns : α → Prop) (raises : ε → Prop) : Prop :=
  match outcome with
  | .ok value => returns value
  | .error error => raises error

instance {outcome : Except ε α} {returns : α → Prop} {raises : ε → Prop}
    [∀ value, Decidable (returns value)] [∀ error, Decidable (raises error)] :
    Decidable (Ends outcome returns raises) :=
  match outcome with
  | .ok value => inferInstanceAs (Decidable (returns value))
  | .error error => inferInstanceAs (Decidable (raises error))

namespace Ends

variable {outcome : Except ε α} {returns : α → Prop} {raises : ε → Prop}

theorem bind {next : α → Except ε β} {results : β → Prop}
    (first : Ends outcome (fun value => Ends (next value) results raises) raises) :
    Ends (outcome >>= next) results raises := by
  cases outcome with
  | error error => exact first
  | ok value => exact first

theorem mono {other : α → Prop} (ends : Ends outcome returns raises)
    (weaker : ∀ value, returns value → other value) : Ends outcome other raises := by
  cases outcome with
  | error error => exact ends
  | ok value => exact weaker value ends

theorem map {f : α → β} {results : β → Prop}
    (ends : Ends outcome (fun value => results (f value)) raises) :
    Ends (f <$> outcome) results raises := by
  cases outcome with
  | error error => exact ends
  | ok value => exact ends

theorem ensure {condition : Prop} [Decidable condition] {error : ε} {returns : Unit → Prop}
    (passes : condition → returns ()) (fails : ¬ condition → raises error) :
    Ends (Library.ensure condition error) returns raises := by
  by_cases holds : condition
  · rw [ensure_of holds]
    exact passes holds
  · rw [ensure_of_not holds]
    exact fails holds

/-- A loop, by what holds of the state when a suffix of the items is left. -/
theorem foldlM {step : β → α → Except ε β} {motive : List α → β → Prop}
    (each : ∀ item rest state, motive (item :: rest) state →
      Ends (step state item) (motive rest) raises) (items : List α) {state : β}
    (start : motive items state) : Ends (items.foldlM step state) (motive []) raises := by
  induction items generalizing state with
  | nil => exact start
  | cons item rest ih =>
      rw [List.foldlM_cons]
      exact bind ((each item rest state start).mono fun _ => ih)

end Ends

end DesignHarness.Library
