import DesignHarness.Domain.Plan
import Mathlib.Data.List.Sort

/-!
# Re-aggregation of a plan

`_refresh_stages`, `_activate_current_stages` and the two validators of a re-aggregation
(`service.py:1234-1303`).  Both loops run over the stages in the order of their positions and
write the stage they are at, so a later stage sees the new status of an earlier one: `done` holds
the stages already written, in order, and the dictionaries are read from `done ++ stage :: rest`.
The plan keeps its stages in that order (`sortedByPosition_eq`).
-/

namespace DesignHarness

open Library

/-- `_activate_lifecycle`. -/
def RequirementLifecycle.activate (now : Timestamp) (lifecycle : RequirementLifecycle) :
    RequirementLifecycle :=
  match lifecycle.firstActivatedAt with
  | none => { lifecycle with firstActivatedAt := some now }
  | some _ => lifecycle

def Stage.activate (now : Timestamp) (stage : Stage) : Stage :=
  { stage with requirementLifecycle := stage.requirementLifecycle.activate now }

def AgentInstance.activate (now : Timestamp) (item : AgentInstance) : AgentInstance :=
  { item with requirementLifecycle := item.requirementLifecycle.activate now }

/-- `for instance_id in instance_ids: _activate_lifecycle(instance_by_id[instance_id], now)`. -/
def activateInstances (keys : List Identifier) (now : Timestamp)
    (instances : List AgentInstance) : Outcome (List AgentInstance) := do
  let _ ← keys.mapM (instanceById instances)
  return instances.map fun item => if item.instanceId ∈ keys then item.activate now else item

/-- `sorted(plan["stages"], key=lambda item: item["position"])`. -/
def sortedByPosition (stages : List Stage) : List Stage :=
  stages.insertionSort (fun a b => a.position ≤ b.position)

/-- `_validate_stage_reaggregation` (`service.py:1251-1266`). -/
def validateStageReaggregation (current target : StageStatus) : Outcome Unit :=
  match current, target with
  | .pending, .running => do
      transitionStage .pending .ready
      transitionStage .ready .running
  | .failed, .succeeded => do
      transitionStage .failed .running
      transitionStage .running .succeeded
  | .failed, .skipped => do
      transitionStage .failed .ready
      transitionStage .ready .skipped
  | current, target => transitionStage current target

/-- `_validate_task_reaggregation` (`service.py:1296-1303`). -/
def validateTaskReaggregation (current target : TaskStatus) : Outcome Unit :=
  if (current = .planned ∨ current = .awaitingStartConfirmation) ∧ target = .succeeded then do
    transitionTask current .running
    transitionTask .running .succeeded
  else
    transitionTask current target

/-- A stage keeps its status for good once it is skipped or cancelled. -/
def StageStatus.isSettled : StageStatus → Bool
  | skipped | cancelled => true
  | _ => false

/-- `for stage in sorted(plan["stages"], ..)`: each round leaves its stage and the instances. -/
def stageLoop
    (round : List Stage → List Stage → List AgentInstance → Stage →
      Outcome (Stage × List AgentInstance)) :
    List Stage → List Stage → List AgentInstance → Outcome (List Stage × List AgentInstance)
  | done, [], instances => .ok (done, instances)
  | done, stage :: rest, instances => do
      let (stage, instances) ← round done rest instances stage
      stageLoop round (done ++ [stage]) rest instances

/-- The members of a stage after a round, which activates them or leaves them alone. -/
def activateMembersIf (activates : Bool) (now : Timestamp) (instances : List AgentInstance)
    (stage : Stage) : Outcome (List AgentInstance) :=
  if activates then activateInstances stage.instanceIds now instances else .ok instances

/-- One round of `_refresh_stages`. -/
def refreshStage (now : Timestamp) (activateNew : Bool) (done rest : List Stage)
    (instances : List AgentInstance) (stage : Stage) : Outcome (Stage × List AgentInstance) := do
  let stages := done ++ stage :: rest
  let target ← aggregateStage stage stages instances
  let dependenciesReady ← stageDependenciesAuthorized stage stages instances
  let activates := activateNew && dependenciesReady && stage.type = .ppt
  let instances ← activateMembersIf activates now instances stage
  let activated := if activates then stage.activate now else stage
  if target ≠ stage.status ∧ !stage.status.isSettled then
    validateStageReaggregation stage.status target
  return ({ activated with status := target }, instances)

/-- `_refresh_stages` (`service.py:1234-1249`). -/
def refreshStages (plan : Plan) (now : Timestamp) (activateNew : Bool := true) :
    Outcome Plan := do
  let (stages, instances) ←
    stageLoop (refreshStage now activateNew) [] (sortedByPosition plan.stages) plan.instances
  return { plan with stages := stages, instances := instances }

/-- One round of `_activate_current_stages`. -/
def activateStage (now : Timestamp) (done rest : List Stage) (instances : List AgentInstance)
    (stage : Stage) : Outcome (Stage × List AgentInstance) := do
  if !(← stageDependenciesAuthorized stage (done ++ stage :: rest) instances) then
    return (stage, instances)
  let stage := stage.activate now
  let instances ← activateInstances stage.instanceIds now instances
  let target ← aggregateStage stage (done ++ stage :: rest) instances
  if target ≠ stage.status then
    transitionStage stage.status target
  return ({ stage with status := target }, instances)

/-- `_activate_current_stages` (`service.py:1268-1281`). -/
def activateCurrentStages (plan : Plan) (now : Timestamp) : Outcome Plan := do
  let (stages, instances) ←
    stageLoop (activateStage now) [] (sortedByPosition plan.stages) plan.instances
  return { plan with stages := stages, instances := instances }

end DesignHarness
