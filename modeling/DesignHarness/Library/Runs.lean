import Mathlib.Data.List.Induction

/-!
# Runs of a state machine whose steps may raise

A step that raises leaves the state as it was, so a list of calls has one run from every state
(`runFrom`).  `runFrom_invariant` is the rule for a property that every successful step keeps;
`runFrom_induction` also hands the calls made so far to the property.
-/

namespace DesignHarness.Library

universe u v w

variable {σ : Type u} {α : Type w} {ε : Type v} (step : σ → α → Except ε σ)

/-- The state after a call, successful or not. -/
def settle (state : σ) (call : α) : σ :=
  match step state call with
  | .ok next => next
  | .error _ => state

/-- The state after a list of calls. -/
def runFrom (state : σ) (calls : List α) : σ := calls.foldl (settle step) state

variable {step}

@[simp] theorem runFrom_nil (state : σ) : runFrom step state [] = state := rfl

theorem settle_of_ok {state next : σ} {call : α} (h : step state call = .ok next) :
    settle step state call = next := by
  simp only [settle, h]

theorem settle_of_error {state : σ} {call : α} {error : ε} (h : step state call = .error error) :
    settle step state call = state := by
  simp only [settle, h]

@[simp] theorem runFrom_cons (state : σ) (call : α) (calls : List α) :
    runFrom step state (call :: calls) = runFrom step (settle step state call) calls := rfl

theorem runFrom_append (state : σ) (before after : List α) :
    runFrom step state (before ++ after) = runFrom step (runFrom step state before) after := by
  rw [runFrom, List.foldl_append]
  rfl

theorem runFrom_snoc (state : σ) (calls : List α) (call : α) :
    runFrom step state (calls ++ [call]) = settle step (runFrom step state calls) call := by
  rw [runFrom_append]
  rfl

/-- What every successful step keeps, a call keeps. -/
theorem settle_invariant {inv : σ → Prop} {state : σ} {call : α}
    (preserved : ∀ next, step state call = .ok next → inv next) (holds : inv state) :
    inv (settle step state call) := by
  unfold settle
  cases h : step state call with
  | ok next => exact preserved next h
  | error error => exact holds

/-- A property of the calls made so far and the state they lead to. -/
theorem runFrom_induction {initial : σ} {motive : List α → σ → Prop} (start : motive [] initial)
    (extend : ∀ calls call, motive calls (runFrom step initial calls) →
      motive (calls ++ [call]) (settle step (runFrom step initial calls) call))
    (calls : List α) : motive calls (runFrom step initial calls) := by
  induction calls using List.reverseRecOn with
  | nil => exact start
  | append_singleton calls call ih =>
      rw [runFrom_snoc]
      exact extend calls call ih

/-- A property that holds at the start and that every successful step keeps holds throughout. -/
theorem runFrom_invariant {initial : σ} {inv : σ → Prop} (start : inv initial)
    (preserved : ∀ state call next, inv state → step state call = .ok next → inv next)
    (calls : List α) : inv (runFrom step initial calls) :=
  runFrom_induction (motive := fun _ state => inv state) start
    (fun _ call holds => settle_invariant (preserved _ call · holds) holds) calls

/-- A machine that only records more about its steps goes through the same states. -/
theorem runFrom_forget {τ : Type*} {ghost : τ → α → Except ε τ} {forget : τ → σ}
    (same : ∀ state call, (ghost state call).map forget = step (forget state) call)
    (start : τ) (calls : List α) :
    forget (runFrom ghost start calls) = runFrom step (forget start) calls := by
  induction calls generalizing start with
  | nil => rfl
  | cons call calls ih =>
      rw [runFrom_cons, runFrom_cons, ih]
      have settled : forget (settle ghost start call) = settle step (forget start) call := by
        unfold settle
        rw [← same]
        cases ghost start call <;> rfl
      rw [settled]

/-! ## Runs under a condition on every call -/

variable (step) in
/-- Every call of the run meets the condition in the state in which it is made. -/
def Along (condition : σ → α → Prop) : σ → List α → Prop
  | _, [] => True
  | state, call :: calls => condition state call ∧ Along condition (settle step state call) calls

instance (condition : σ → α → Prop) [∀ state call, Decidable (condition state call)] :
    ∀ (state : σ) (calls : List α), Decidable (Along step condition state calls)
  | _, [] => isTrue trivial
  | state, call :: calls =>
      have := instDecidableAlong condition (settle step state call) calls
      inferInstanceAs (Decidable (condition state call ∧ _))

theorem along_append {condition : σ → α → Prop} {state : σ} {before after : List α} :
    Along step condition state (before ++ after) ↔
      Along step condition state before ∧
        Along step condition (runFrom step state before) after := by
  induction before generalizing state with
  | nil => simp [Along]
  | cons call before ih => simp [Along, ih, and_assoc]

theorem along_snoc {condition : σ → α → Prop} {state : σ} {calls : List α} {call : α} :
    Along step condition state (calls ++ [call]) ↔
      Along step condition state calls ∧ condition (runFrom step state calls) call := by
  rw [along_append]
  simp [Along]

/-- A run whose calls do not all meet a second condition has a call that fails it. -/
theorem exists_of_not_along {condition other : σ → α → Prop} {start : σ} {calls : List α}
    (along : Along step condition start calls)
    (fails : ¬ Along step (fun state call => condition state call ∧ other state call) start
      calls) :
    ∃ before call rest, calls = before ++ call :: rest ∧
      ¬ other (runFrom step start before) call := by
  induction calls generalizing start with
  | nil => exact absurd trivial fails
  | cons call calls ih =>
      obtain ⟨first, later⟩ := along
      by_cases holds : other start call
      · obtain ⟨before, next, rest, rfl, failing⟩ := ih later fun tail =>
          fails ⟨⟨first, holds⟩, tail⟩
        exact ⟨call :: before, next, rest, rfl, failing⟩
      · exact ⟨[], call, calls, rfl, holds⟩

/-- The rule for runs whose calls all meet a condition. -/
theorem along_induction {condition : σ → α → Prop} {initial : σ} {motive : List α → σ → Prop}
    (start : motive [] initial)
    (extend : ∀ calls call, Along step condition initial calls →
      condition (runFrom step initial calls) call → motive calls (runFrom step initial calls) →
      motive (calls ++ [call]) (settle step (runFrom step initial calls) call))
    {calls : List α} (along : Along step condition initial calls) :
    motive calls (runFrom step initial calls) := by
  induction calls using List.reverseRecOn with
  | nil => exact start
  | append_singleton calls call ih =>
      obtain ⟨before, last⟩ := along_snoc.mp along
      rw [runFrom_snoc]
      exact extend calls call before last (ih before)

end DesignHarness.Library
