import DesignHarness.Domain.Catalog
import DesignHarness.Library.Dict

/-!
# Aggregate status of a stage and of a task

`stage_dependencies_authorized`, `StateMachine.aggregate_stage` and
`StateMachine.aggregate_task` (`state_machine.py:18-133`).  The dictionaries `stage_by_id` and
`instance_by_id` are the lists they are built from, read through `dictGet`; a missing id raises
`KeyError` as the subscript does.
-/

namespace DesignHarness

open Library

namespace InstanceStatus

/-- `EXECUTING`. -/
def isExecuting : InstanceStatus → Bool
  | starting | running => true
  | _ => false

/-- `ACTIVE`. -/
def isActive : InstanceStatus → Bool
  | ready | starting | running => true
  | _ => false

/-- `FAILED`. -/
def isFailed : InstanceStatus → Bool
  | failedToStart | failed | crashed => true
  | _ => false

/-- `{"SUCCEEDED", "ARCHIVED"}`, the statuses that complete an instance for its stage. -/
def isComplete : InstanceStatus → Bool
  | succeeded | archived => true
  | _ => false

/-- `"READY" in statuses or "CREATED" in statuses`. -/
def isQueued : InstanceStatus → Bool
  | ready | created => true
  | _ => false

end InstanceStatus

/-- `TASK_TERMINAL`. -/
def TaskStatus.isTerminal : TaskStatus → Bool
  | succeeded | partiallySucceeded | cancelled => true
  | _ => false

/-- `stage_by_id[key]`. -/
def stageById (stages : List Stage) (key : Identifier) : Outcome Stage :=
  match dictGet Stage.stageId stages key with
  | some stage => .ok stage
  | none => .error (.keyError key)

/-- `instance_by_id[key]`. -/
def instanceById (instances : List AgentInstance) (key : Identifier) : Outcome AgentInstance :=
  match dictGet AgentInstance.instanceId instances key with
  | some found => .ok found
  | none => .error (.keyError key)

/-- `all(stage_by_id[item]["status"] == "SUCCEEDED" for item in depends_on)`, which stops at the
    first dependency that has not succeeded. -/
def dependenciesSucceeded (stages : List Stage) : List Identifier → Outcome Bool
  | [] => .ok true
  | key :: rest => do
      let dependency ← stageById stages key
      if dependency.status = .succeeded then dependenciesSucceeded stages rest else .ok false

/-- The PPT human gate: there are Image instances and all of them are marked finished. -/
def imageInstancesFinished (instances : List AgentInstance) : Bool :=
  let imageInstances := instances.filter (·.agentType = .image)
  !imageInstances.isEmpty && imageInstances.all (·.manualFinished)

/-- `stage_dependencies_authorized` (`state_machine.py:18-36`). -/
def stageDependenciesAuthorized (stage : Stage) (stages : List Stage)
    (instances : List AgentInstance) : Outcome Bool := do
  if ← dependenciesSucceeded stages stage.dependsOn then
    return true
  if stage.type ≠ .ppt ∨ stage.dependsOn = [] then
    return false
  return imageInstancesFinished instances

/-- The part of `aggregate_stage` that reads the member instances
    (`state_machine.py:66-91`). -/
def aggregateMembers (stage : Stage) (members : List AgentInstance) : StageStatus :=
  let required := members.filter (·.required)
  if members.any (·.status.isExecuting) then
    .running
  else if members.any (·.status.isQueued) then
    -- The catalog has no RUNNING -> READY regression: queued work beside activated work keeps
    -- the stage RUNNING.
    if stage.status = .running ∨ stage.status = .waitingApproval then .running else .ready
  else if required.any (·.status = .waitingApproval) then
    .waitingApproval
  else if required.any (·.status.isFailed) then
    .failed
  else if required.any (·.status = .unavailable) then
    .unavailable
  else if required ≠ [] ∧ required.all (·.status.isComplete) then
    .succeeded
  else if required = [] ∧ stage.required = false then
    if members.any (·.status.isComplete) then .succeeded else .skipped
  else
    stage.status

/-- `StateMachine.aggregate_stage` (`state_machine.py:50-91`). -/
def aggregateStage (stage : Stage) (stages : List Stage) (instances : List AgentInstance) :
    Outcome StageStatus :=
  if stage.status = .skipped ∨ stage.status = .cancelled then
    .ok stage.status
  else do
    let dependenciesAuthorized ← stageDependenciesAuthorized stage stages instances
    let alreadyActivated := stage.requirementLifecycle.firstActivatedAt.isSome
    if !dependenciesAuthorized && !alreadyActivated then
      return .pending
    let members ← stage.instanceIds.mapM (instanceById instances)
    return aggregateMembers stage members

/-- `_is_activated_downgrade` (`state_machine.py:126-133`). -/
def isActivatedDowngrade (required : Bool) (lifecycle : RequirementLifecycle) : Bool :=
  lifecycle.originalRequired && !required && lifecycle.firstActivatedAt.isSome &&
    lifecycle.authorizedDowngrade.isSome

/-- Whether any stage or instance of the plan was downgraded after its activation. -/
def anyDowngraded (stages : List Stage) (instances : List AgentInstance) : Bool :=
  stages.any (fun stage => isActivatedDowngrade stage.required stage.requirementLifecycle) ||
    instances.any (fun item => isActivatedDowngrade item.required item.requirementLifecycle)

/-- `StateMachine.aggregate_task` (`state_machine.py:93-123`). -/
def aggregateTask (task : MainTask) (stages : List Stage) (instances : List AgentInstance)
    (preserveStartConfirmation : Bool := true) : TaskStatus :=
  if task.status.isTerminal then
    task.status
  else if task.status = .archived then
    task.status
  else if preserveStartConfirmation ∧ task.status = .awaitingStartConfirmation then
    task.status
  else if instances.any (fun item => item.required && item.status = .waitingApproval) then
    .waitingApproval
  else if instances.any (·.status.isActive) then
    .running
  else if instances.any (fun item => item.required && item.status.isFailed) then
    .failed
  else if stages.any (fun stage => stage.required && stage.status = .unavailable) then
    .blockedUnavailable
  else if !(stages.filter (·.required)).all (·.status = .succeeded) then
    .running
  else if anyDowngraded stages instances then
    .partiallySucceeded
  else
    .succeeded

end DesignHarness
