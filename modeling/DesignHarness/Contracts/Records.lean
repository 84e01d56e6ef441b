import DesignHarness.Core.Errors

/-!
# Records of the task aggregate

The objects of `contracts/v1/schemas` that the domain commands read and write: MainTask, Stage,
AgentInstance, TaskCard and TaskPlan, with the enumerations their schemas fix.  Strings that the
schemas constrain only by a pattern (identifiers, timestamps, relative paths, free text) are
plain strings; `schema_version` is a constant of every record and is left out.
-/

namespace DesignHarness

abbrev Identifier := String
abbrev Timestamp := String

/-- `IDENTIFIER.fullmatch` (`layout.py`). -/
def isIdentifier (value : String) : Bool :=
  match value.toList with
  | [] => false
  | first :: rest => first.isAlpha && rest.length ≤ 127 &&
      rest.all fun c => c.isAlphanum || c == '_' || c == '-'

/-- `validate_identifier` (`layout.py:15-22`). -/
def validateIdentifier (label : String) (value : String) : Outcome Unit :=
  Library.ensure (isIdentifier value = true)
    (.harness ⟨.validationError, "Invalid " ++ label ++ ".", [("field", .text label)]⟩)

/-- A pattern that ends in `$`, which matches before a last newline as well. -/
def matchesLine (accepts : List Char → Bool) (value : String) : Bool :=
  accepts value.toList ||
    (value.toList.getLast? == some '\n' && accepts value.toList.dropLast)

/-- `timestamp` (`common.schema.json`) is
    `^\d{4}-\d{2}-\d{2}T\d{2}:\d{2}:\d{2}(?:\.\d+)?Z$`; its `date-time` format is not checked. -/
def isTimestamp : Timestamp → Bool :=
  matchesLine fun text =>
    (text.take 19).map (fun c => if c.isDigit then '0' else c) == "0000-00-00T00:00:00".toList &&
      match text.drop 19 with
      | '.' :: fraction => fraction.getLast? == some 'Z' && !fraction.dropLast.isEmpty &&
          fraction.dropLast.all Char.isDigit
      | rest => rest == ['Z']

/-- What `utc_now` returns. -/
abbrev UtcTime : Type := { now : Timestamp // isTimestamp now = true }

/-- `agentType` (`common.schema.json`). -/
inductive AgentType where
  | general
  | image
  | ppt
  deriving DecidableEq, Repr

/-- `actorType` (`common.schema.json`), also the `actor_type` of an envelope. -/
inductive ActorType where
  | human
  | master
  | system
  | adapter
  deriving DecidableEq, Repr

/-- `start_policy` (`main-task.schema.json`). -/
inductive StartPolicy where
  | manual
  | auto
  deriving DecidableEq, Repr

/-- `status` of a MainTask. -/
inductive TaskStatus where
  | draft
  | planned
  | awaitingStartConfirmation
  | running
  | waitingApproval
  | blockedUnavailable
  | failed
  | succeeded
  | partiallySucceeded
  | cancelled
  | archived
  deriving DecidableEq, Repr

/-- `status` of a Stage. -/
inductive StageStatus where
  | pending
  | ready
  | running
  | waitingApproval
  | succeeded
  | failed
  | unavailable
  | skipped
  | cancelled
  deriving DecidableEq, Repr

/-- `status` of an AgentInstance. -/
inductive InstanceStatus where
  | created
  | ready
  | unavailable
  | starting
  | running
  | waitingApproval
  | failedToStart
  | succeeded
  | failed
  | crashed
  | cancelled
  | superseded
  | stopped
  | archived
  deriving DecidableEq, Repr

/-- `approval_mode` of an AgentInstance. -/
inductive ApprovalMode where
  | human
  | master
  deriving DecidableEq, Repr

/-- `manual_business_status` of an AgentInstance. -/
inductive BusinessStatus where
  | todo
  | running
  | waitingApproval
  | completed
  deriving DecidableEq, Repr

/-- The name of a status in the catalog, as the error details carry it. -/
def TaskStatus.name : TaskStatus → String
  | draft => "DRAFT"
  | planned => "PLANNED"
  | awaitingStartConfirmation => "AWAITING_START_CONFIRMATION"
  | running => "RUNNING"
  | waitingApproval => "WAITING_APPROVAL"
  | blockedUnavailable => "BLOCKED_UNAVAILABLE"
  | failed => "FAILED"
  | succeeded => "SUCCEEDED"
  | partiallySucceeded => "PARTIAL"
  | cancelled => "CANCELLED"
  | archived => "ARCHIVED"

def StageStatus.name : StageStatus → String
  | pending => "PENDING"
  | ready => "READY"
  | running => "RUNNING"
  | waitingApproval => "WAITING_APPROVAL"
  | succeeded => "SUCCEEDED"
  | failed => "FAILED"
  | unavailable => "UNAVAILABLE"
  | skipped => "SKIPPED"
  | cancelled => "CANCELLED"

def InstanceStatus.name : InstanceStatus → String
  | created => "CREATED"
  | ready => "READY"
  | unavailable => "UNAVAILABLE"
  | starting => "STARTING"
  | running => "RUNNING"
  | waitingApproval => "WAITING_APPROVAL"
  | failedToStart => "FAILED_TO_START"
  | succeeded => "SUCCEEDED"
  | failed => "FAILED"
  | crashed => "CRASHED"
  | cancelled => "CANCELLED"
  | superseded => "SUPERSEDED"
  | stopped => "STOPPED"
  | archived => "ARCHIVED"

/-- The adapter that owns the instances of an agent type: `f"{agent_type}_adapter"`. -/
def AgentType.adapterId : AgentType → String
  | general => "general_adapter"
  | image => "image_adapter"
  | ppt => "ppt_adapter"

/-- `authorizedDowngrade` (`common.schema.json`). -/
structure AuthorizedDowngrade where
  authorizationId : Identifier
  authorizedAt : Timestamp
  authorizedByType : ActorType
  authorizedById : Identifier
  planRevision : Nat
  reason : String
  deriving DecidableEq, Repr

/-- `requirementLifecycle` (`common.schema.json`). -/
structure RequirementLifecycle where
  originalRequired : Bool
  firstActivatedAt : Option Timestamp
  authorizedDowngrade : Option AuthorizedDowngrade
  deriving DecidableEq, Repr

/-- The lifecycle of an item of a new plan: not activated, not downgraded. -/
def RequirementLifecycle.fresh (required : Bool) : RequirementLifecycle := ⟨required, none, none⟩

/-- `MainTask` (`main-task.schema.json`). -/
structure MainTask where
  taskId : Identifier
  title : String
  goal : String
  masterOwner : Identifier
  startPolicy : StartPolicy
  status : TaskStatus
  createdAt : Timestamp
  updatedAt : Timestamp
  inputManifest : String
  planRevision : Nat
  deriving DecidableEq, Repr

/-- `Stage` (`stage.schema.json`). -/
structure Stage where
  stageId : Identifier
  taskId : Identifier
  type : AgentType
  position : Nat
  dependsOn : List Identifier
  required : Bool
  requirementLifecycle : RequirementLifecycle
  status : StageStatus
  instanceIds : List Identifier
  deriving DecidableEq, Repr

/-- `state` of a process record. -/
inductive ProcessState where
  | starting
  | running
  | exited
  deriving DecidableEq, Repr

/-- `process` of an AgentInstance. -/
structure ProcessRecord where
  pid : Nat
  port : Nat
  launchId : Identifier
  state : ProcessState
  startedAt : Timestamp
  deriving DecidableEq, Repr

/-- `delivery_rejection` of an AgentInstance. -/
structure DeliveryRejection where
  code : String
  message : String
  details : List (String × Detail)
  rejectedAt : Timestamp
  retryable : Bool
  deriving DecidableEq, Repr

/-- `start_failure` of an AgentInstance. -/
structure StartFailure where
  code : String
  message : String
  details : List (String × Detail)
  phase : String
  operationId : Identifier
  attempt : Nat
  retryable : Bool
  failedAt : Timestamp
  deriving DecidableEq, Repr

/-- `AgentInstance` (`agent-instance.schema.json`).  `manual_finished` is written by every plan
    save and has the default `false`, so it is never absent. -/
structure AgentInstance where
  instanceId : Identifier
  taskId : Identifier
  stageId : Identifier
  agentType : AgentType
  required : Bool
  requirementLifecycle : RequirementLifecycle
  status : InstanceStatus
  approvalMode : ApprovalMode
  manualFinished : Bool
  manualBusinessStatus : Option BusinessStatus
  configRevision : Nat
  workspaceRelpath : String
  taskCardRelpath : String
  uiUrl : Option String
  process : Option ProcessRecord
  restartRequired : Option Bool
  deliveryRejection : Option DeliveryRejection
  startFailure : Option StartFailure
  createdAt : Timestamp
  deriving DecidableEq, Repr

/-- `kind` of a delivery. -/
inductive DeliveryKind where
  | image
  | presentation
  | document
  | archive
  | other
  deriving DecidableEq, Repr

/-- One of the `expected_deliveries` of a task card. -/
structure ExpectedDelivery where
  kind : DeliveryKind
  role : String
  required : Bool
  acceptedMimeTypes : List String
  deriving DecidableEq, Repr

/-- `TaskCard` (`task-card.schema.json`).  The text an agent works from (instructions, inputs,
    expected deliveries, parameters) is one opaque `content`: the domain only copies it. -/
structure TaskCard where
  cardId : Identifier
  revision : Nat
  taskId : Identifier
  stageId : Identifier
  instanceId : Identifier
  agentType : AgentType
  objective : String
  content : String
  createdAt : Timestamp
  deriving DecidableEq, Repr

/-- `TaskPlan` (`task-plan.schema.json`). -/
structure Plan where
  task : MainTask
  stages : List Stage
  instances : List AgentInstance
  taskCards : List TaskCard
  deriving DecidableEq, Repr

end DesignHarness
