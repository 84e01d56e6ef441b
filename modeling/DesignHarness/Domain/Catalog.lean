import DesignHarness.Contracts.Records

/-!
# The status catalog

The transition tables of `contracts/v1/catalogs/status-codes.json` for the three object kinds of
the task aggregate, and `StateMachine.transition` (`state_machine.py:41-48`), which checks one
move against them.
-/

namespace DesignHarness

open Library

/-- `catalog["main_task"]["transitions"]`. -/
def TaskStatus.transitions : TaskStatus → List TaskStatus
  | .draft => [.planned, .cancelled, .archived]
  | .planned => [.awaitingStartConfirmation, .running, .blockedUnavailable, .cancelled, .archived]
  | .awaitingStartConfirmation => [.running, .blockedUnavailable, .cancelled, .archived]
  | .running =>
      [.waitingApproval, .blockedUnavailable, .failed, .succeeded, .partiallySucceeded, .cancelled,
        .archived]
  | .waitingApproval =>
      [.running, .blockedUnavailable, .failed, .succeeded, .partiallySucceeded, .cancelled,
        .archived]
  | .blockedUnavailable => [.planned, .running, .partiallySucceeded, .cancelled, .archived]
  | .failed => [.planned, .running, .partiallySucceeded, .cancelled, .archived]
  | .succeeded => [.archived]
  | .partiallySucceeded => [.archived]
  | .cancelled => [.archived]
  | .archived =>
      [.draft, .planned, .awaitingStartConfirmation, .running, .waitingApproval,
        .blockedUnavailable, .failed, .succeeded, .partiallySucceeded, .cancelled]

/-- `catalog["stage"]["transitions"]`. -/
def StageStatus.transitions : StageStatus → List StageStatus
  | .pending => [.ready, .unavailable, .skipped, .cancelled]
  | .ready => [.running, .failed, .unavailable, .skipped, .cancelled]
  | .running => [.waitingApproval, .succeeded, .failed, .cancelled]
  | .waitingApproval => [.running, .succeeded, .failed, .cancelled]
  | .failed => [.ready, .running]
  | .unavailable => [.ready, .skipped]
  | .succeeded => []
  | .skipped => []
  | .cancelled => []

/-- `catalog["agent_instance"]["transitions"]`. -/
def InstanceStatus.transitions : InstanceStatus → List InstanceStatus
  | .created => [.ready, .unavailable]
  | .unavailable => [.ready, .cancelled, .archived]
  | .ready => [.starting, .failedToStart, .cancelled]
  | .starting => [.running, .failedToStart, .crashed, .cancelled, .stopped]
  | .running =>
      [.waitingApproval, .failedToStart, .succeeded, .failed, .crashed, .cancelled, .stopped]
  | .waitingApproval => [.running, .succeeded, .failed, .cancelled, .stopped]
  | .failedToStart => [.ready, .starting, .superseded, .cancelled, .archived]
  | .failed => [.ready, .starting, .superseded, .cancelled, .stopped, .archived]
  | .crashed => [.ready, .starting, .superseded, .cancelled, .archived]
  | .succeeded => [.stopped, .archived]
  | .cancelled => [.archived]
  | .superseded => [.archived]
  | .stopped =>
      [.starting, .running, .waitingApproval, .failed, .succeeded, .cancelled, .archived]
  | .archived => []

/-- The `HarnessError` of `StateMachine.transition`. -/
def transitionError (kind current target : String) : Raised :=
  .harness ⟨.invalidStateTransition, "The requested state transition is not allowed.",
    [("object_type", .text kind), ("current", .text current), ("target", .text target)]⟩

/-- `machine.transition("main_task", current, target)`. -/
def transitionTask (current target : TaskStatus) : Outcome Unit :=
  ensure (target ∈ current.transitions) (transitionError "main_task" current.name target.name)

/-- `machine.transition("stage", current, target)`. -/
def transitionStage (current target : StageStatus) : Outcome Unit :=
  ensure (target ∈ current.transitions) (transitionError "stage" current.name target.name)

/-- `machine.transition("agent_instance", current, target)`. -/
def transitionInstanceStatus (current target : InstanceStatus) : Outcome Unit :=
  ensure (target ∈ current.transitions) (transitionError "agent_instance" current.name target.name)

@[simp] theorem transitionTask_eq_ok {current target : TaskStatus} {u : Unit} :
    transitionTask current target = .ok u ↔ target ∈ current.transitions := ensure_eq_ok

@[simp] theorem transitionStage_eq_ok {current target : StageStatus} {u : Unit} :
    transitionStage current target = .ok u ↔ target ∈ current.transitions := ensure_eq_ok

@[simp] theorem transitionInstanceStatus_eq_ok {current target : InstanceStatus} {u : Unit} :
    transitionInstanceStatus current target = .ok u ↔ target ∈ current.transitions := ensure_eq_ok

end DesignHarness
