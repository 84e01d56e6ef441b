import DesignHarness.Domain.Invariant

/-!
# Runs with the archive snapshot

The application stores the status of a task when it archives it (`pre_archive_status`) and passes
it to `restore_archived` when it resumes the task.  `Observed` adds that status to the store, and
a run is faithful when it restores archived tasks with it only.
-/

namespace DesignHarness

open Library

/-- The status of the stored task. -/
def TaskState.status (state : TaskState) : Option TaskStatus := state.task.map MainTask.status

/-- The store and the `pre_archive_status` of the last archive snapshot. -/
structure Observed where
  state : TaskState
  preArchive : Option TaskStatus
  deriving DecidableEq, Repr

def Observed.initial : Observed := ⟨.empty, none⟩

/-- The snapshot is taken by the call that archives the task. -/
def Observed.snapshot (before : Observed) (next : TaskState) : Option TaskStatus :=
  if next.status = some .archived ∧ before.state.status ≠ some .archived then before.state.status
  else before.preArchive

def Observed.perform (observed : Observed) (call : Call) : Outcome Observed := do
  let next ← observed.state.perform call
  return ⟨next, observed.snapshot next⟩

/-- The store after a run, with the archive snapshot. -/
def observe (calls : List Call) : Observed := runFrom Observed.perform .initial calls

/-- An archived task is restored with the status of its snapshot. -/
def Call.isFaithful (observed : Observed) : Call → Prop
  | .command (.restoreArchived _ target) _ _ =>
      observed.state.status = some .archived → observed.preArchive = some target
  | _ => True

instance (observed : Observed) (call : Call) : Decidable (call.isFaithful observed) := by
  unfold Call.isFaithful
  split <;> infer_instance

/-- A run that restores archived tasks with their `pre_archive_status` only. -/
abbrev FaithfulRun (calls : List Call) : Prop :=
  Along Observed.perform (fun observed call => call.isFaithful observed) .initial calls

theorem Observed.perform_eq_ok {observed next : Observed} {call : Call} :
    observed.perform call = .ok next ↔
      observed.state.perform call = .ok next.state ∧
        next.preArchive = observed.snapshot next.state := by
  simp only [Observed.perform, bind_eq_ok, pure_eq_ok, Except.ok.injEq]
  constructor
  · rintro ⟨state, performed, rfl⟩
    exact ⟨performed, rfl⟩
  · rintro ⟨performed, snapshot⟩
    exact ⟨next.state, performed, by rw [← snapshot]⟩

/-- The snapshot is only recorded: the store goes through the same run. -/
theorem observe_state (calls : List Call) : (observe calls).state = runOf calls := by
  refine runFrom_forget (fun observed call => ?_) Observed.initial calls
  unfold Observed.perform
  cases observed.state.perform call <;> rfl

theorem observe_invariant (calls : List Call) : StateInvariant (observe calls).state := by
  rw [observe_state]
  exact runOf_invariant calls

/-- The rule for runs with the archive snapshot whose calls all meet a condition. -/
theorem observe_induction {condition : Observed → Call → Prop}
    {motive : List Call → Observed → Prop} (start : motive [] .initial)
    (raised : ∀ calls call error, (observe calls).perform call = .error error →
      motive calls (observe calls) → motive (calls ++ [call]) (observe calls))
    (performed : ∀ calls call next, condition (observe calls) call →
      (observe calls).perform call = .ok next → observe (calls ++ [call]) = next →
      motive calls (observe calls) → motive (calls ++ [call]) next)
    {calls : List Call} (along : Along Observed.perform condition .initial calls) :
    motive calls (observe calls) := by
  refine along_induction start (fun calls call _ holds inv => ?_) along
  change motive (calls ++ [call]) (settle Observed.perform (observe calls) call)
  cases result : (observe calls).perform call with
  | error error =>
      rw [settle_of_error result]
      exact raised calls call error result inv
  | ok next =>
      rw [settle_of_ok result]
      exact performed calls call next holds result ((runFrom_snoc ..).trans (settle_of_ok result)) inv

/-- The commands of the examples, issued by a human at the current revision. -/
def sampleCall (revision : Nat) (command : Command) : Call :=
  .command command ⟨"key", .human, "owner", revision⟩ ⟨"t1", "u1"⟩

/-- The example task, created with a start policy and planned with a payload. -/
def samplePlanned (startPolicy : StartPolicy) (payload : PlanPayload) : List Call :=
  [sampleCall 0 (.createTask ⟨"task", "Cover", "A cover", "owner", startPolicy, "inputs.json"⟩),
    sampleCall 1 (.savePlan .replace payload none)]

/-- Two required instances in one stage. -/
def pairPayload : PlanPayload where
  stages := [sampleStage "s1" .general 1 ["a", "b"]]
  instances := [sampleInstance "a" "s1" .general, sampleInstance "b" "s1" .general]
  taskCards := [sampleCard "a" "s1" .general, sampleCard "b" "s1" .general]

/-- The transitions of instances, one after another, from a revision on. -/
def sampleTransitions (revision : Nat) : List (Identifier × InstanceStatus) → List Call
  | [] => []
  | (instanceId, target) :: rest =>
      sampleCall revision (.transitionInstance instanceId target) ::
        sampleTransitions (revision + 1) rest

end DesignHarness
