import DesignHarness.Contracts.Records

/-!
# Command requests

The envelope every mutating command carries (`commands.py`), the request each command of
`TaskCommandService` builds from its arguments, and the records that `save_plan` makes from the
items of its payload.  A request is what `request_digest` hashes, so two calls have the same
digest when they have the same request.
-/

namespace DesignHarness

open Library

/-- `CommandEnvelope` (`commands.py`). -/
structure CommandEnvelope where
  idempotencyKey : String
  actorType : ActorType
  actorId : Identifier
  expectedRevision : Nat
  deriving DecidableEq, Repr

/-- The bounds of the fields of `CommandEnvelope`. -/
def CommandEnvelope.accepted (envelope : CommandEnvelope) : Bool :=
  1 ≤ envelope.idempotencyKey.length && envelope.idempotencyKey.length ≤ 128 &&
    isIdentifier envelope.actorId

/-- `CommandEnvelope(..)` where a service builds one. -/
def CommandEnvelope.validate (envelope : CommandEnvelope) : Outcome CommandEnvelope := do
  ensure (envelope.accepted = true) (.validationError "CommandEnvelope")
  return envelope

theorem CommandEnvelope.eq_of_validate {envelope built : CommandEnvelope}
    (valid : envelope.validate = .ok built) : envelope = built := by
  obtain ⟨_, -, returned⟩ := bind_eq_ok.mp valid
  exact Except.ok.inj returned

theorem CommandEnvelope.validate_of_accepted {envelope : CommandEnvelope}
    (accepted : envelope.accepted = true) : envelope.validate = .ok envelope := by
  rw [CommandEnvelope.validate, ensure_of accepted]
  rfl

theorem CommandEnvelope.validate_of_rejected {envelope : CommandEnvelope}
    (rejected : envelope.accepted = false) :
    envelope.validate = .error (.validationError "CommandEnvelope") := by
  have refused : ¬envelope.accepted = true := by simp [rejected]
  rw [CommandEnvelope.validate, ensure_of_not refused]
  rfl

/-- `idempotency_key or derived`. -/
def keyOr (idempotencyKey : Option String) (derived : String) : String :=
  (idempotencyKey.filter (· ≠ "")).getD derived

/-- The clock and the `uuid4` value that a call observes. -/
structure Ambient where
  now : Timestamp
  uuid : String
  deriving DecidableEq, Repr

/-! ## The payload of `save_plan` -/

/-- A stage of a `save_plan` payload: the fields that the service does not overwrite. -/
structure StagePayload where
  stageId : Identifier
  type : AgentType
  position : Nat
  dependsOn : List Identifier
  required : Bool
  instanceIds : List Identifier
  deriving DecidableEq, Repr

/-- An instance of a `save_plan` payload.  The optional fields are kept when they are sent. -/
structure InstancePayload where
  instanceId : Identifier
  stageId : Identifier
  agentType : AgentType
  required : Bool
  approvalMode : ApprovalMode
  configRevision : Nat
  workspaceRelpath : String
  taskCardRelpath : String
  manualBusinessStatus : Option BusinessStatus := none
  restartRequired : Option Bool := none
  deliveryRejection : Option DeliveryRejection := none
  startFailure : Option StartFailure := none
  deriving DecidableEq, Repr

/-- A task card of a `save_plan` payload. -/
structure CardPayload where
  cardId : Identifier
  revision : Nat
  stageId : Identifier
  instanceId : Identifier
  agentType : AgentType
  objective : String
  content : String
  createdAt : Option Timestamp := none
  deriving DecidableEq, Repr

/-- The three lists of a `save_plan` request. -/
structure PlanPayload where
  stages : List StagePayload
  instances : List InstancePayload
  taskCards : List CardPayload
  deriving DecidableEq, Repr

/-- A new stage: activated and downgraded by nobody, `PENDING` until the plan is aggregated. -/
def StagePayload.normalize (taskId : Identifier) (raw : StagePayload) : Stage where
  stageId := raw.stageId
  taskId := taskId
  type := raw.type
  position := raw.position
  dependsOn := raw.dependsOn
  required := raw.required
  requirementLifecycle := .fresh raw.required
  status := .pending
  instanceIds := raw.instanceIds

/-- A new instance.  Every agent type of the contract has an adapter, so it is `READY`. -/
def InstancePayload.normalize (taskId : Identifier) (now : Timestamp) (raw : InstancePayload) :
    AgentInstance where
  instanceId := raw.instanceId
  taskId := taskId
  stageId := raw.stageId
  agentType := raw.agentType
  required := raw.required
  requirementLifecycle := .fresh raw.required
  status := .ready
  approvalMode := raw.approvalMode
  manualFinished := false
  manualBusinessStatus := raw.manualBusinessStatus
  configRevision := raw.configRevision
  workspaceRelpath := raw.workspaceRelpath
  taskCardRelpath := raw.taskCardRelpath
  uiUrl := none
  process := none
  restartRequired := raw.restartRequired
  deliveryRejection := raw.deliveryRejection
  startFailure := raw.startFailure
  createdAt := now

/-- A task card of the plan, with the time that a new plan or a merge gives it. -/
def CardPayload.normalize (taskId : Identifier) (createdAt : Timestamp) (raw : CardPayload) :
    TaskCard where
  cardId := raw.cardId
  revision := raw.revision
  taskId := taskId
  stageId := raw.stageId
  instanceId := raw.instanceId
  agentType := raw.agentType
  objective := raw.objective
  content := raw.content
  createdAt := createdAt

/-- `mode` of a `save_plan` request. -/
inductive PlanSaveMode where
  | replace
  | append
  | merge
  deriving DecidableEq, Repr

/-- The request of `create_task`. -/
structure TaskRequest where
  taskId : Identifier
  title : String
  goal : String
  masterOwner : Identifier
  startPolicy : StartPolicy
  inputManifest : String
  deriving DecidableEq, Repr

/-- The `rejection` of `reject_instance_delivery`; the service adds the time and `retryable`. -/
structure RejectionRequest where
  code : String
  message : String
  details : List (String × Detail)
  deriving DecidableEq, Repr

/-- One entry of the `instance_restores` of `restore_archived`. -/
structure InstanceRestore where
  instanceId : Identifier
  targetStatus : InstanceStatus
  deriving DecidableEq, Repr

/-- The command name and the request of each mutating command of `TaskCommandService`. -/
inductive Command where
  | createTask (request : TaskRequest)
  | registerInputManifest (inputManifest : String)
  | renameTask (title : String)
  | savePlan (mode : PlanSaveMode) (payload : PlanPayload) (expectedPlanRevision : Option Nat)
  | confirmStart
  | setManualFinished (instanceId : Identifier) (manualFinished : Bool)
  | setManualBusinessStatus (instanceId : Identifier) (businessStatus : BusinessStatus)
  | transitionInstance (instanceId : Identifier) (targetStatus : InstanceStatus)
  | rejectInstanceDelivery (instanceId : Identifier) (rejection : RejectionRequest)
  | setApprovalMode (instanceId : Identifier) (approvalMode : ApprovalMode)
  | archiveTask
  | restoreArchived (instanceRestores : List InstanceRestore) (targetStatus : TaskStatus)
  | cancelTask
  | downgradeInstance (instanceId : Identifier) (reason : String)
  deriving DecidableEq, Repr

/-- The name of a command in its events, in the idempotency records and in its digest. -/
def Command.name : Command → String
  | .createTask .. => "create_task"
  | .registerInputManifest .. => "register_input_manifest"
  | .renameTask .. => "rename_task"
  | .savePlan .. => "save_plan"
  | .confirmStart => "confirm_start"
  | .setManualFinished .. => "set_manual_finished"
  | .setManualBusinessStatus .. => "set_manual_business_status"
  | .transitionInstance .. => "transition_instance"
  | .rejectInstanceDelivery .. => "reject_instance_delivery"
  | .setApprovalMode .. => "set_approval_mode"
  | .archiveTask => "archive_task"
  | .restoreArchived .. => "restore_archived"
  | .cancelTask => "cancel_task"
  | .downgradeInstance .. => "downgrade_instance"

/-- The `changes` of `update_instance_fields`: a field is present when it is to be written. -/
structure InstanceChanges where
  configRevision : Option Nat := none
  process : Option (Option ProcessRecord) := none
  restartRequired : Option Bool := none
  startFailure : Option (Option StartFailure) := none
  uiUrl : Option (Option String) := none
  deriving DecidableEq, Repr

def sampleTask : MainTask where
  taskId := "task"
  title := "Cover and slides"
  goal := "A cover image and a deck"
  masterOwner := "owner"
  startPolicy := .manual
  status := .draft
  createdAt := "t0"
  updatedAt := "t0"
  inputManifest := "inputs.json"
  planRevision := 1

def sampleStage (stageId : Identifier) (type : AgentType) (position : Nat)
    (instanceIds : List Identifier) (required : Bool := true) (dependsOn : List Identifier := []) :
    StagePayload where
  stageId := stageId
  type := type
  position := position
  dependsOn := dependsOn
  required := required
  instanceIds := instanceIds

def sampleInstance (instanceId stageId : Identifier) (agentType : AgentType)
    (required : Bool := true) : InstancePayload where
  instanceId := instanceId
  stageId := stageId
  agentType := agentType
  required := required
  approvalMode := .human
  configRevision := 1
  workspaceRelpath := "instances/" ++ instanceId
  taskCardRelpath := "cards/" ++ instanceId

def sampleCard (instanceId stageId : Identifier) (agentType : AgentType) : CardPayload where
  cardId := "card_" ++ instanceId
  revision := 1
  stageId := stageId
  instanceId := instanceId
  agentType := agentType
  objective := "Draw"
  content := ""

end DesignHarness
