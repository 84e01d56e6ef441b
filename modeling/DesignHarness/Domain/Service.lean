import DesignHarness.Domain.Aggregation
import DesignHarness.Domain.Commands

/-!
# Command handlers

The handlers of `TaskCommandService` (`service.py:35-1232`).  A handler reads the task and the
plan of the store (`TaskState`) and decides what is to be committed (`Commit`); how a commit is
written is the business of the store.  `TaskState.apply` is the effect of a commit on what the
handlers read, and `execute` is a whole command.
-/

namespace DesignHarness

open Library

/-- The task and plan objects of the store, each with its revision; 0 stands for no object. -/
structure TaskState where
  task : Option MainTask
  taskRevision : Nat
  plan : Option Plan
  planRevision : Nat
  deriving DecidableEq, Repr

/-- The store before the first command of the task. -/
def TaskState.empty : TaskState := ⟨none, 0, none, 0⟩

/-- What a handler hands to the store. -/
inductive Commit where
  /-- A `task.put` of its own, for a task that has no plan. -/
  | task (payload : MainTask) (expectedRevision : Nat)
  /-- `_persist_aggregate`, with its `skip_unchanged_projections`. -/
  | aggregate (plan : Plan) (skipUnchanged : Bool)
  deriving DecidableEq, Repr

/-- The result that a command returns and that its event carries. -/
inductive CommandResult where
  | task (task : MainTask) (revision : Nat)
  | aggregate (plan : Plan) (taskRevision storePlanRevision : Nat)
  deriving DecidableEq, Repr

/-- `HarnessError("VALIDATION_ERROR", message, details)`. -/
def validationError (message : String) (details : List (String × Detail) := []) : Raised :=
  .harness ⟨.validationError, message, details⟩

/-- `HarnessError("INVALID_STATE_TRANSITION", message, {"current": current})`. -/
def stateError (message : String) (current : TaskStatus) : Raised :=
  .harness ⟨.invalidStateTransition, message, [("current", .text current.name)]⟩

/-- The `REVISION_CONFLICT` of `_raise_revision` and of `SnapshotRepository.put`. -/
def revisionConflict (expected actual : Nat) (kind objectId : String) : Raised :=
  .harness ⟨.revisionConflict, "The object revision changed before this command committed.",
    [("object_type", .text kind), ("object_id", .text objectId),
      ("expected_revision", .number expected), ("actual_revision", .number actual)]⟩

def instanceNotFound : Raised :=
  .harness ⟨.instanceNotFound, "The requested instance does not exist.", []⟩

def planNotFound : Raised :=
  .harness ⟨.taskNotFound, "The task does not have a saved plan.", []⟩

/-- `_task`. -/
def TaskState.requireTask (state : TaskState) : Outcome MainTask :=
  match state.task with
  | some task => .ok task
  | none => .error (.harness ⟨.taskNotFound, "The requested task does not exist.", []⟩)

/-- `_plan`. -/
def TaskState.requirePlan (state : TaskState) : Outcome Plan :=
  match state.plan with
  | some plan => .ok plan
  | none => .error planNotFound

/-- `if envelope.expected_revision != actual: _raise_revision(..)`. -/
def TaskState.requireRevision (state : TaskState) (envelope : CommandEnvelope)
    (taskId : Identifier) : Outcome Unit :=
  ensure (envelope.expectedRevision = state.taskRevision)
    (revisionConflict envelope.expectedRevision state.taskRevision "task" taskId)

/-- `if expected_plan_revision is not None and ..: _raise_revision(..)`. -/
def MainTask.requirePlanRevision (task : MainTask) : Option Nat → Outcome Unit
  | none => .ok ()
  | some expected =>
      ensure (expected = task.planRevision)
        (revisionConflict expected task.planRevision "plan" task.taskId)

/-- `_require_plan_mutable`. -/
def Plan.requireMutable (plan : Plan) : Outcome Unit :=
  ensure (plan.task.status ≠ .archived) (.harness ⟨.taskArchived,
    "The task is archived and read-only; resume it before issuing changes.",
    [("task_id", .text plan.task.taskId)]⟩)

/-- `next((item for item in plan["instances"] if ..), None)` and the check for `None`. -/
def Plan.requireInstance (plan : Plan) (instanceId : Identifier) : Outcome AgentInstance :=
  match plan.instances.find? (·.instanceId = instanceId) with
  | some item => .ok item
  | none => .error instanceNotFound

/-- An update in place of the instance with the id. -/
def Plan.modifyInstance (plan : Plan) (instanceId : Identifier)
    (change : AgentInstance → AgentInstance) : Plan :=
  { plan with
    instances := plan.instances.map fun item =>
      if item.instanceId = instanceId then change item else item }

/-- `plan["task"]["updated_at"] = utc_now()`. -/
def Plan.touch (now : Timestamp) (plan : Plan) : Plan :=
  { plan with task := { plan.task with updatedAt := now } }

/-- `plan["task"]["status"] = status`. -/
def Plan.withStatus (status : TaskStatus) (plan : Plan) : Plan :=
  { plan with task := { plan.task with status := status } }

/-- `instance.pop("manual_business_status", None)`, which for an Image instance also reopens the
    completion gate. -/
def AgentInstance.clearManualStatus (item : AgentInstance) : AgentInstance :=
  { item with
    manualBusinessStatus := none
    manualFinished :=
      if item.manualBusinessStatus.isSome && item.agentType = .image then false
      else item.manualFinished }

/-- `_aggregate_task(plan, preserve_start_confirmation=False)`. -/
def Plan.aggregateTask (plan : Plan) : TaskStatus :=
  DesignHarness.aggregateTask plan.task plan.stages plan.instances false

/-- Re-aggregate the stages and the task, move the task along the catalog, stamp it: the common
    end of the handlers that change instances. -/
def Plan.reaggregate (plan : Plan) (now : Timestamp) : Outcome Plan := do
  let plan ← refreshStages plan now
  let target := plan.aggregateTask
  if target ≠ plan.task.status then
    transitionTask plan.task.status target
  return (plan.withStatus target).touch now

/-! ## Normalization of a `save_plan` payload -/

/-- `raw["position"]` order of the payload's stages. -/
def sortedPayload (stages : List StagePayload) : List StagePayload :=
  stages.insertionSort (fun a b => a.position ≤ b.position)

/-- `_normalize_plan` (`service.py:940-1008`). -/
def normalizePlan (task : MainTask) (planRevision : Nat) (payload : PlanPayload)
    (now : Timestamp) : Outcome Plan := do
  let plan : Plan :=
    { task := { task with status := .planned, planRevision := planRevision, updatedAt := now }
      stages := (sortedPayload payload.stages).map (StagePayload.normalize task.taskId)
      instances := payload.instances.map (InstancePayload.normalize task.taskId now)
      taskCards := payload.taskCards.map (CardPayload.normalize task.taskId now) }
  let plan ← refreshStages plan now false
  validatePlan plan
  return plan

/-- `_normalize_append` (`service.py:1010-1115`). -/
def normalizeAppend (task : MainTask) (existing : Plan) (planRevision : Nat)
    (payload : PlanPayload) (now : Timestamp) : Outcome Plan := do
  checkEach (fun raw => ensure (raw.stageId ∉ existing.stages.map Stage.stageId)
    (validationError "A plan append cannot reference or modify a landed stage."
      [("stage_id", .text raw.stageId)])) payload.stages
  checkEach (fun raw => ensure
      (raw.instanceId ∉ existing.instances.map AgentInstance.instanceId)
    (validationError "A plan append cannot reference or modify a landed instance."
      [("instance_id", .text raw.instanceId)])) payload.instances
  checkEach (fun raw => ensure (raw.cardId ∉ existing.taskCards.map TaskCard.cardId)
    (validationError "A plan append cannot reference or modify a landed task card."
      [("card_id", .text raw.cardId)])) payload.taskCards
  let ordered := sortedPayload payload.stages
  ensure (ordered.map StagePayload.position = List.range' 1 ordered.length)
    (validationError
      "Appended stage positions must be contiguous from one within the new batch.")
  let offset := existing.stages.length
  let appended := ordered.map fun raw =>
    ({ raw with position := offset + raw.position } : StagePayload).normalize task.taskId
  let plan : Plan :=
    { task := { task with planRevision := planRevision, updatedAt := now }
      stages := existing.stages ++ appended
      instances :=
        existing.instances ++ payload.instances.map (InstancePayload.normalize task.taskId now)
      taskCards :=
        existing.taskCards ++ payload.taskCards.map (CardPayload.normalize task.taskId now) }
  let plan ← refreshStages plan now false
  validatePlan plan
  return plan

/-- `set(a) != set(b)` raises. -/
def ensureSameKeys (incoming landed : List Identifier) (message : String) : Outcome Unit :=
  ensure ((∀ key ∈ incoming, key ∈ landed) ∧ ∀ key ∈ landed, key ∈ incoming)
    (validationError message)

/-- `mapping[key]`. -/
def subscript {α : Type} (found : Option α) (key : Identifier) : Outcome α :=
  match found with
  | some value => .ok value
  | none => .error (.keyError key)

/-- The card that a merge keeps or takes for a landed card (`service.py:1176-1213`). -/
def mergeCard (task : MainTask) (existing : Plan) (payload : PlanPayload) (now : Timestamp)
    (landed : TaskCard) : Outcome TaskCard := do
  let raw ← subscript (dictGet CardPayload.cardId payload.taskCards landed.cardId) landed.cardId
  ensure (raw.instanceId = landed.instanceId)
    (validationError "A plan merge cannot move a task card to another instance."
      [("card_id", .text landed.cardId)])
  let item ← instanceById existing.instances landed.instanceId
  if item.status = .ready ∨ item.status = .unavailable then
    ensure (landed.revision ≤ raw.revision)
      (.harness ⟨.revisionConflict, "A plan merge cannot restore an older TaskCard revision.",
        [("card_id", .text landed.cardId), ("expected_revision", .number landed.revision),
          ("actual_revision", .number raw.revision)]⟩)
    if raw.revision = landed.revision then
      return landed
    return raw.normalize task.taskId (raw.createdAt.getD now)
  return landed

/-- `_normalize_merge` (`service.py:1117-1232`). -/
def normalizeMerge (task : MainTask) (existing : Plan) (planRevision : Nat)
    (payload : PlanPayload) (now : Timestamp) : Outcome Plan := do
  ensureSameKeys (payload.stages.map StagePayload.stageId) (existing.stages.map Stage.stageId)
    "A plan merge cannot add or remove stages while instances are started."
  ensureSameKeys (payload.instances.map InstancePayload.instanceId)
    (existing.instances.map AgentInstance.instanceId)
    "A plan merge cannot add or remove instances while instances are started."
  checkEach (fun key => do
      let raw ← subscript (dictGet InstancePayload.instanceId payload.instances key) key
      let landed ← instanceById existing.instances key
      ensure (raw.stageId = landed.stageId ∧ raw.agentType = landed.agentType)
        (validationError "A plan merge cannot rewire a landed instance."
          [("instance_id", .text key)]))
    (payload.instances.map InstancePayload.instanceId)
  checkEach (fun key => do
      let raw ← subscript (dictGet StagePayload.stageId payload.stages key) key
      let landed ← stageById existing.stages key
      ensure (raw.type = landed.type ∧ (∀ listed ∈ raw.instanceIds, listed ∈ landed.instanceIds) ∧
          ∀ listed ∈ landed.instanceIds, listed ∈ raw.instanceIds)
        (validationError "A plan merge cannot rewire a landed stage."
          [("stage_id", .text key)]))
    (payload.stages.map StagePayload.stageId)
  ensureSameKeys (payload.taskCards.map CardPayload.cardId)
    (existing.taskCards.map TaskCard.cardId)
    "A plan merge cannot add or remove task cards while instances are started."
  let cards ← existing.taskCards.mapM (mergeCard task existing payload now)
  let plan : Plan :=
    { task := { task with planRevision := planRevision, updatedAt := now }
      stages := existing.stages
      instances := existing.instances
      taskCards := cards }
  validatePlan plan
  return plan

namespace TaskCommandService

variable (state : TaskState) (envelope : CommandEnvelope) (ambient : Ambient)

/-- `_create_task` (`service.py:65-97`). -/
def createTask (request : TaskRequest) : Outcome Commit := do
  ensure (envelope.expectedRevision = 0)
    (.harness ⟨.revisionConflict, "Task creation requires expected revision zero.",
      [("expected_revision", .number envelope.expectedRevision), ("actual_revision", .number 0)]⟩)
  return .task
    { taskId := request.taskId
      title := request.title
      goal := request.goal
      masterOwner := request.masterOwner
      startPolicy := request.startPolicy
      status := .draft
      createdAt := ambient.now
      updatedAt := ambient.now
      inputManifest := request.inputManifest
      planRevision := 1 } 0

/-- `_update_task_input` (`service.py:166-183`).  It writes the task and never looks at the
    plan. -/
def registerInputManifest (inputManifest : String) : Outcome Commit := do
  let task ← state.requireTask
  return .task { task with inputManifest := inputManifest, updatedAt := ambient.now }
    envelope.expectedRevision

/-- `_rename_task` (`service.py:132-164`). -/
def renameTask (title : String) : Outcome Commit := do
  let task ← state.requireTask
  state.requireRevision envelope task.taskId
  let task := { task with title := title, updatedAt := ambient.now }
  match state.plan with
  | some plan => return .aggregate { plan with task := task } false
  | none => return .task task state.taskRevision

/-- `_archive_task` (`service.py:690-718`). -/
def archiveTask : Outcome Commit := do
  let task ← state.requireTask
  state.requireRevision envelope task.taskId
  transitionTask task.status .archived
  match state.plan with
  | none =>
      return .task { task with status := .archived, updatedAt := ambient.now } state.taskRevision
  | some plan => return .aggregate ((plan.withStatus .archived).touch ambient.now) false

/-- The cancellation of one instance: only where the catalog allows it. -/
def cancelInstance (item : AgentInstance) : AgentInstance :=
  if .cancelled ∈ item.status.transitions then
    { item with
      status := .cancelled
      manualFinished := if item.manualBusinessStatus.isSome then false else item.manualFinished
      manualBusinessStatus := none }
  else
    item

def cancelStage (stage : Stage) : Stage :=
  if .cancelled ∈ stage.status.transitions then { stage with status := .cancelled } else stage

/-- `_cancel_task` (`service.py:818-858`). -/
def cancelTask : Outcome Commit := do
  let task ← state.requireTask
  state.requireRevision envelope task.taskId
  transitionTask task.status .cancelled
  match state.plan with
  | none =>
      return .task { task with status := .cancelled, updatedAt := ambient.now } state.taskRevision
  | some plan =>
      let plan :=
        { plan with
          instances := plan.instances.map cancelInstance
          stages := plan.stages.map cancelStage }
      return .aggregate ((plan.withStatus .cancelled).touch ambient.now) false

/-! ## Saving and starting a plan -/

/-- `_guard_plan_save_state` (`service.py:258-287`). -/
def guardPlanSaveState (status : TaskStatus) : PlanSaveMode → Outcome Unit
  | .append => ensure (status ∈ [.running, .waitingApproval])
      (stateError "A plan can only be appended while this task is running or awaiting approval."
        status)
  | .merge => ensure (status ∈ [.running, .waitingApproval, .blockedUnavailable])
      (stateError "A plan can only be merged while this task has active instances." status)
  | .replace => ensure (status ∈ [.draft, .planned, .blockedUnavailable, .failed])
      (stateError "A plan cannot be replaced while this task state is active or terminal." status)

/-- The end of `_save_plan` for `mode == "append"`. -/
def appendPlan (task : MainTask) (existing : Plan) (planRevision : Nat) (payload : PlanPayload) :
    Outcome Commit := do
  let plan ← normalizeAppend task existing planRevision payload ambient.now
  let plan ← activateCurrentStages plan ambient.now
  let target := plan.aggregateTask
  if target ≠ plan.task.status then
    transitionTask plan.task.status target
  return .aggregate ((plan.withStatus target).touch ambient.now) false

/-- The end of `_save_plan` for `mode == "merge"`. -/
def mergePlan (task : MainTask) (existing : Plan) (planRevision : Nat) (payload : PlanPayload) :
    Outcome Commit := do
  let plan ← normalizeMerge task existing planRevision payload ambient.now
  return .aggregate (plan.touch ambient.now) true

/-- The end of `_save_plan` for `mode == "replace"`. -/
def replacePlan (task : MainTask) (planRevision : Nat) (payload : PlanPayload) :
    Outcome Commit := do
  let plan ← normalizePlan task planRevision payload ambient.now
  if task.status ≠ .planned then
    transitionTask task.status .planned
  if task.startPolicy = .manual then
    transitionTask .planned .awaitingStartConfirmation
    return .aggregate ((plan.withStatus .awaitingStartConfirmation).touch ambient.now) false
  else
    let plan ← activateCurrentStages (plan.withStatus .planned) ambient.now
    let target := plan.aggregateTask
    validateTaskReaggregation .planned target
    return .aggregate ((plan.withStatus target).touch ambient.now) false

/-- `_save_plan` (`service.py:298-370`). -/
def savePlan (mode : PlanSaveMode) (payload : PlanPayload)
    (expectedPlanRevision : Option Nat) : Outcome Commit := do
  let task ← state.requireTask
  guardPlanSaveState task.status mode
  state.requireRevision envelope task.taskId
  task.requirePlanRevision expectedPlanRevision
  let businessRevision :=
    if state.plan.isSome then task.planRevision + 1 else task.planRevision
  match mode with
  | .append => do
      let existing ← state.requirePlan
      appendPlan ambient task existing businessRevision payload
  | .merge => do
      let existing ← state.requirePlan
      mergePlan ambient task existing businessRevision payload
  | .replace => replacePlan ambient task businessRevision payload

/-- `_confirm_start` (`service.py:382-402`). -/
def confirmStart : Outcome Commit := do
  let plan ← state.requirePlan
  state.requireRevision envelope plan.task.taskId
  ensure (plan.task.status = .awaitingStartConfirmation)
    (stateError "Only a task awaiting manual start can be confirmed." plan.task.status)
  let current := plan.task.status
  let plan ← activateCurrentStages plan ambient.now
  let target := plan.aggregateTask
  validateTaskReaggregation current target
  return .aggregate ((plan.withStatus target).touch ambient.now) false

/-! ## Commands on one instance -/

/-- `_set_manual_finished` (`service.py:413-453`). -/
def setManualFinished (instanceId : Identifier) (manualFinished : Bool) : Outcome Commit := do
  ensure (envelope.actorType = .human)
    (validationError "Only a human may change the manual completion gate.")
  let plan ← state.requirePlan
  plan.requireMutable
  state.requireRevision envelope plan.task.taskId
  let item ← plan.requireInstance instanceId
  ensure (item.agentType = .image)
    (validationError "The manual completion gate only applies to Image instances."
      [("instance_id", .text instanceId)])
  let plan := plan.modifyInstance instanceId fun item =>
    { item with
      manualFinished := manualFinished
      manualBusinessStatus := if manualFinished then some .completed else none }
  return .aggregate (plan.touch ambient.now) false

/-- `_set_manual_business_status` (`service.py:478-512`). -/
def setManualBusinessStatus (instanceId : Identifier) (businessStatus : BusinessStatus) :
    Outcome Commit := do
  ensure (envelope.actorType = .human ∨ envelope.actorType = .master)
    (validationError "Only a human or Master may change the WorkItem business status.")
  let plan ← state.requirePlan
  plan.requireMutable
  state.requireRevision envelope plan.task.taskId
  let _ ← plan.requireInstance instanceId
  let plan := plan.modifyInstance instanceId fun item =>
    { item with
      manualBusinessStatus := some businessStatus
      manualFinished :=
        if item.agentType = .image then businessStatus = .completed else item.manualFinished }
  return .aggregate (plan.touch ambient.now) false

/-- `_set_approval_mode` (`service.py:568-590`). -/
def setApprovalMode (instanceId : Identifier) (approvalMode : ApprovalMode) :
    Outcome Commit := do
  ensure (envelope.actorType = .human ∨ envelope.actorType = .master)
    (validationError "Only a human or Master may change approval routing.")
  let plan ← state.requirePlan
  plan.requireMutable
  state.requireRevision envelope plan.task.taskId
  let _ ← plan.requireInstance instanceId
  let plan := plan.modifyInstance instanceId fun item => { item with approvalMode := approvalMode }
  return .aggregate (plan.touch ambient.now) false

/-- The statuses that end a delivery attempt, so its rejection is dropped. -/
def dropsRejection : InstanceStatus → Bool
  | .succeeded | .failedToStart | .failed | .crashed | .cancelled | .superseded | .archived => true
  | _ => false

/-- What `_transition_instance` writes to the instance (`service.py:609-624`). -/
def recordTransition (now : Timestamp) (target : InstanceStatus) (item : AgentInstance) :
    AgentInstance :=
  let item := { item with status := target }
  -- Suspension preserves the operator completion gates, so an archived Image branch still
  -- satisfies the PPT start gate after a resume.
  let item := if target = .stopped then item else item.clearManualStatus
  let item := if dropsRejection target then { item with deliveryRejection := none } else item
  if target.isExecuting then item.activate now else item

/-- `_transition_instance` (`service.py:592-633`). -/
def transitionInstance (instanceId : Identifier) (target : InstanceStatus) : Outcome Commit := do
  let plan ← state.requirePlan
  state.requireRevision envelope plan.task.taskId
  let item ← plan.requireInstance instanceId
  transitionInstanceStatus item.status target
  let plan ← (plan.modifyInstance instanceId (recordTransition ambient.now target)).reaggregate
    ambient.now
  return .aggregate plan false

/-- What `_reject_instance_delivery` writes to the instance. -/
def recordRejection (now : Timestamp) (rejection : RejectionRequest) (item : AgentInstance) :
    AgentInstance :=
  { { item with status := .failed }.clearManualStatus with
    deliveryRejection := some
      ⟨rejection.code, rejection.message, rejection.details, now, true⟩ }

/-- `_reject_instance_delivery` (`service.py:635-678`). -/
def rejectInstanceDelivery (instanceId : Identifier) (rejection : RejectionRequest) :
    Outcome Commit := do
  let plan ← state.requirePlan
  state.requireRevision envelope plan.task.taskId
  let item ← plan.requireInstance instanceId
  ensure (envelope.actorType = .adapter ∧ envelope.actorId = item.agentType.adapterId)
    (validationError "Only the owning Agent adapter may reject a collected delivery.")
  transitionInstanceStatus item.status .failed
  let plan ← (plan.modifyInstance instanceId (recordRejection ambient.now rejection)).reaggregate
    ambient.now
  return .aggregate plan false

/-- What a restore writes to a parked instance. -/
def restoredInstance (now : Timestamp) (target : InstanceStatus) (item : AgentInstance) :
    AgentInstance :=
  let item := { item with status := target }
  if target.isExecuting then item.activate now else item

/-- One entry of `instance_restores` (`service.py:779-791`): a parked instance moves to its
    target, any other one is left alone. -/
def restoreInstance (now : Timestamp) (instances : List AgentInstance)
    (restore : InstanceRestore) : Outcome (List AgentInstance) := do
  match dictGet AgentInstance.instanceId instances restore.instanceId with
  | none => .error instanceNotFound
  | some item =>
      if item.status ≠ .stopped then
        return instances
      transitionInstanceStatus .stopped restore.targetStatus
      return instances.map fun item =>
        if item.instanceId = restore.instanceId then restoredInstance now restore.targetStatus item
        else item

/-- `_restore_archived` (`service.py:741-805`). -/
def restoreArchived (restores : List InstanceRestore) (target : TaskStatus) :
    Outcome Commit := do
  let task ← state.requireTask
  state.requireRevision envelope task.taskId
  ensure (task.status = .archived ∨ task.status = target)
    (.harness ⟨.invalidStateTransition,
      "The task is no longer archived and cannot be restored.",
      [("current", .text task.status.name), ("target", .text target.name)]⟩)
  match state.plan with
  | none => do
      if task.status = .archived then
        transitionTask .archived target
      ensure (restores = []) instanceNotFound
      return .task { task with status := target, updatedAt := ambient.now } state.taskRevision
  | some plan => do
      let instances ← restores.foldlM (restoreInstance ambient.now) plan.instances
      let plan ← refreshStages { plan with instances := instances } ambient.now
      let restored := (plan.withStatus target).aggregateTask
      if task.status = .archived then
        transitionTask .archived restored
      else if restored ≠ target then
        transitionTask target restored
      return .aggregate ((plan.withStatus restored).touch ambient.now) false

/-- The downgraded instance. -/
def downgradedInstance (authorization : AuthorizedDowngrade) (item : AgentInstance) :
    AgentInstance :=
  { item with
    required := false
    requirementLifecycle :=
      { item.requirementLifecycle with authorizedDowngrade := some authorization } }

/-- A stage that lost its last required instance. -/
def downgradedStage (activatedAt : Timestamp) (authorization : AuthorizedDowngrade)
    (stage : Stage) : Stage :=
  let stage := stage.activate activatedAt
  { stage with
    required := false
    requirementLifecycle :=
      { stage.requirementLifecycle with authorizedDowngrade := some authorization } }

/-- The plan with the downgrade recorded, before it is re-aggregated (`service.py:900-925`).
    The stage and its remaining instances are found through `stage_id`. -/
def recordDowngrade (plan : Plan) (item : AgentInstance) (activatedAt : Timestamp)
    (authorization : AuthorizedDowngrade) : Outcome Plan := do
  let plan := plan.modifyInstance item.instanceId (downgradedInstance authorization)
  match plan.stages.find? (·.stageId = item.stageId) with
  | none => .error .stopIteration
  | some stage =>
      let remainingRequired :=
        plan.instances.filter fun other => other.stageId = stage.stageId && other.required
      let stages :=
        if remainingRequired = [] then
          plan.stages.map fun other =>
            if other.stageId = stage.stageId then downgradedStage activatedAt authorization other
            else other
        else
          plan.stages
      return {
        plan with
        stages := stages
        task := { plan.task with planRevision := authorization.planRevision } }

/-- `_downgrade_instance` (`service.py:872-938`). -/
def downgradeInstance (instanceId : Identifier) (reason : String) : Outcome Commit := do
  ensure (envelope.actorType = .human ∨ envelope.actorType = .master)
    (validationError "Only a human or Master may authorize a downgrade.")
  let plan ← state.requirePlan
  plan.requireMutable
  state.requireRevision envelope plan.task.taskId
  let item ← plan.requireInstance instanceId
  let lifecycle := item.requirementLifecycle
  ensure (item.required ∧ lifecycle.originalRequired ∧ lifecycle.firstActivatedAt.isSome)
    (.harness ⟨.invalidStateTransition,
      "Only an activated, originally required instance can be downgraded.", []⟩)
  let plan ← recordDowngrade plan item (lifecycle.firstActivatedAt.getD ambient.now)
    { authorizationId := "auth_" ++ ambient.uuid
      authorizedAt := ambient.now
      authorizedByType := envelope.actorType
      authorizedById := envelope.actorId
      planRevision := max 2 (plan.task.planRevision + 1)
      reason := reason }
  let plan ← plan.reaggregate ambient.now
  return .aggregate plan false

/-- `str.isspace` of one character, as `str.strip` reads it. -/
def isSpace (c : Char) : Bool :=
  c.toNat ∈ [0x20, 0x85, 0xA0, 0x1680, 0x2028, 0x2029, 0x202F, 0x205F, 0x3000] ||
    (decide (0x09 ≤ c.toNat) && decide (c.toNat ≤ 0x0D)) ||
    (decide (0x1C ≤ c.toNat) && decide (c.toNat ≤ 0x1F)) ||
    (decide (0x2000 ≤ c.toNat) && decide (c.toNat ≤ 0x200A))

/-- `title.strip()`. -/
def strip (title : String) : String :=
  String.ofList (((title.toList.dropWhile isSpace).reverse.dropWhile isSpace).reverse)

/-- The request that a public method builds: `rename_task` checks and normalizes its title, the
    other methods pass their arguments on. -/
def buildRequest : Command → Outcome Command
  | .renameTask title => do
      let normalized := strip title
      ensure (normalized ≠ "" ∧ normalized.length ≤ 256)
        (validationError "The task title is invalid.")
      ensure (envelope.actorType = .human ∨ envelope.actorType = .master)
        (validationError "Only a human or Master may rename a task.")
      return .renameTask normalized
  | command => .ok command

/-- The handler of a command. -/
def handle : Command → Outcome Commit
  | .createTask request => createTask envelope ambient request
  | .registerInputManifest inputManifest =>
      registerInputManifest state envelope ambient inputManifest
  | .renameTask title => renameTask state envelope ambient title
  | .savePlan mode payload expectedPlanRevision =>
      savePlan state envelope ambient mode payload expectedPlanRevision
  | .confirmStart => confirmStart state envelope ambient
  | .setManualFinished instanceId manualFinished =>
      setManualFinished state envelope ambient instanceId manualFinished
  | .setManualBusinessStatus instanceId businessStatus =>
      setManualBusinessStatus state envelope ambient instanceId businessStatus
  | .transitionInstance instanceId target =>
      transitionInstance state envelope ambient instanceId target
  | .rejectInstanceDelivery instanceId rejection =>
      rejectInstanceDelivery state envelope ambient instanceId rejection
  | .setApprovalMode instanceId approvalMode =>
      setApprovalMode state envelope ambient instanceId approvalMode
  | .archiveTask => archiveTask state envelope ambient
  | .restoreArchived restores target => restoreArchived state envelope ambient restores target
  | .cancelTask => cancelTask state envelope ambient
  | .downgradeInstance instanceId reason =>
      downgradeInstance state envelope ambient instanceId reason

end TaskCommandService

/-- The result a handler builds for its commit. -/
def Commit.result (state : TaskState) : Commit → CommandResult
  | .task payload expectedRevision => .task payload (expectedRevision + 1)
  | .aggregate plan _ => .aggregate plan (state.taskRevision + 1) (state.planRevision + 1)

/-- The task and plan objects after a commit: the validation and the revision check that come
    before the first event, then the new snapshots. -/
def TaskState.apply (state : TaskState) : Commit → Outcome TaskState
  | .task payload expectedRevision => do
      validateContract "main-task" payload.accepted
      ensure (expectedRevision = state.taskRevision)
        (revisionConflict expectedRevision state.taskRevision "task" payload.taskId)
      return { state with task := some payload, taskRevision := state.taskRevision + 1 }
  | .aggregate plan _ => do
      validatePlan plan
      return {
        task := some plan.task
        taskRevision := state.taskRevision + 1
        plan := some plan
        planRevision := state.planRevision + 1 }

/-- A command that is executed for the first time. -/
def TaskState.execute (state : TaskState) (envelope : CommandEnvelope) (ambient : Ambient)
    (command : Command) : Outcome TaskState := do
  let request ← TaskCommandService.buildRequest envelope command
  let commit ← TaskCommandService.handle state envelope ambient request
  state.apply commit

/-- `instance.update(changes)`. -/
def InstanceChanges.apply (changes : InstanceChanges) (item : AgentInstance) : AgentInstance :=
  { item with
    configRevision := changes.configRevision.getD item.configRevision
    process := changes.process.getD item.process
    restartRequired := changes.restartRequired <|> item.restartRequired
    startFailure := changes.startFailure.getD item.startFailure
    uiUrl := changes.uiUrl.getD item.uiUrl }

/-- `update_instance_fields` (`store.py:361-437`) on the task and the plan: the plan is written
    and then the task is brought into line with it.  An instance that no plan holds has no
    record here. -/
def TaskState.updateInstanceFields (state : TaskState) (instanceId : Identifier)
    (changes : InstanceChanges) : Outcome TaskState := do
  ensure (changes ≠ {}) (.valueError "unsupported mutable instance fields")
  match state.plan with
  | none => .error instanceNotFound
  | some plan => do
      let item ← plan.requireInstance instanceId
      if changes.apply item = item then
        return state
      let plan := plan.modifyInstance instanceId changes.apply
      validateContract "task-plan" plan.accepted
      let state := { state with plan := some plan, planRevision := state.planRevision + 1 }
      if state.task = some plan.task then
        return state
      return { state with task := some plan.task, taskRevision := state.taskRevision + 1 }

end DesignHarness
