import DesignHarness.Services.RuntimeOverrides
import DesignHarness.Services.TaskConfig
import Mathlib.Data.List.MinMax
import Mathlib.Data.String.Basic

/-!
# Runtime settings of Image instances

`InstanceRuntimeSettingsService` (`instance_runtime_settings.py`): a settings proposal is drafted
(`propose`), confirmed into a saga (`confirm`), and applied, before the start of an instance to its
revision pointer alone, later to a safe point of its Agent as well (`apply_pending_if_safe`).
`recover` goes on with every saga that is unfinished.

The Image Agent and the adapter's requests to it are a parameter (`AgentPort`).  A hash stands for
what is hashed.  The metrics, the event log and the projections of `get` are left out; the calls
that `_fan_out_to_peers` makes are calls of `propose` and `confirm` like any other.
-/

namespace DesignHarness

open Library

/-- An instance of a task. -/
structure InstanceRef where
  taskId : Identifier
  instanceId : Identifier
  deriving DecidableEq, Repr

/-- `_proposal_id` (`instance_runtime_settings.py:1899-1901`). -/
structure ProposalId where
  owner : InstanceRef
  key : String
  deriving DecidableEq, Repr

/-- What `config_hash` hashes (`instance_config_revisions.py:414-421`). -/
structure ConfigHash where
  runtime : EffectiveRuntime
  modelConfig : ModelDocument
  deriving DecidableEq, Repr

def InstanceBundle.configHash (bundle : InstanceBundle) : ConfigHash :=
  ⟨bundle.runtime, bundle.modelConfig⟩

/-- `_identity_from_current` (`instance_runtime_settings.py:1506-1512`). -/
structure ConfigIdentity where
  stateRevision : Nat
  revision : Nat
  configHash : ConfigHash
  deriving DecidableEq, Repr

def CurrentInstanceConfig.identity (current : CurrentInstanceConfig) : ConfigIdentity :=
  ⟨current.state.revision, current.bundle.manifest.sequence, current.bundle.configHash⟩

/-- A workflow boundary, with the configuration that the Agent runs. -/
structure Boundary where
  state : String
  checkpointId : Option Identifier
  safeNow : Bool
  reason : Option String
  runtimeConfigRevision : Option Nat := none
  runtimeConfigHash : Option ConfigHash := none
  branchId : Option Identifier := none
  deriving DecidableEq, Repr

/-- `AdapterObservation`, as far as the settings service reads it; a boundary of wrong types counts
    as none. -/
structure Observation where
  status : InstanceStatus
  stepId : Option String
  workflowBoundary : Option Boundary
  deriving DecidableEq, Repr

/-- The arguments of `apply_runtime_revision`. -/
structure ApplyRequest where
  revision : Nat
  fromCheckpoint : Option Identifier
  expectedConfigHash : ConfigHash
  expectedProjectRevision : Option Nat
  expectedProjectHash : Option ConfigHash
  effectiveFromState : Option String
  idempotencyKey : ProposalId × Nat
  deriving DecidableEq, Repr

/-- What the Agent answers. -/
structure ApplyResponse where
  revision : Nat
  fromCheckpoint : Option Identifier
  effectiveFromState : Option String
  configHash : ConfigHash
  branchId : Identifier
  checkpointId : Identifier
  deriving DecidableEq, Repr

/-- The Agent of an instance, and the adapter's requests to it. -/
structure AgentPort (Agent : Type) where
  getStatus : Agent → Outcome Observation
  applyRevision : ApplyRequest → Agent → Agent × Outcome ApplyResponse

/-! ## Records -/

/-- The receipt of an application on a branch, with `applied_at`. -/
structure ApplicationReceipt where
  revision : Nat
  branchId : Identifier
  checkpointId : Identifier
  fromCheckpoint : Option Identifier
  effectiveFromState : Option String
  configHash : ConfigHash
  appliedAt : Timestamp
  deriving DecidableEq, Repr

/-- The `request` of a proposal (`instance_runtime_settings.py:167-175`). -/
structure ProposalRequest where
  baseRevision : Nat
  patch : RuntimePatch
  syncUnstarted : Bool
  expectedSync : List Identifier
  envelope : CommandEnvelope
  deriving DecidableEq, Repr

inductive ProposalStatus where
  | draft
  | confirmed
  | waitingSafePoint
  | applied
  | failed
  deriving DecidableEq, Repr

/-- What a confirmation keeps: its key and its request. -/
structure Confirmation where
  envelope : CommandEnvelope
  confirmedAt : Timestamp
  deriving DecidableEq, Repr

/-- A settings proposal (`instance_runtime_settings.py:255-287`). -/
structure Proposal where
  request : ProposalRequest
  baseRevisionId : Nat
  baseConfigHash : ConfigHash
  taskConfigRevision : Nat
  overrides : RuntimeOverrides
  applyMode : ApplyMode
  workflowBoundary : Boundary
  syncBases : List (Identifier × ConfigIdentity)
  status : ProposalStatus
  confirmation : Option Confirmation
  deriving DecidableEq, Repr

/-- `sync_instance_ids`. -/
def Proposal.syncInstanceIds (proposal : Proposal) : List Identifier :=
  proposal.syncBases.map Prod.fst

inductive SagaState where
  | intentPersisted
  | confirmed
  | waitingSafePoint
  | materialized
  | childBranchCreated
  | instancePointerCommitted
  | applied
  | failed
  deriving DecidableEq, Repr

/-- `_TERMINAL_SAGA_STATES`. -/
def SagaState.terminal : SagaState → Bool
  | applied | failed => true
  | _ => false

inductive TargetState where
  | pending
  | bundleReady
  | applied
  deriving DecidableEq, Repr

/-- `source`, and an entry of `sync_targets`. -/
structure SagaTarget where
  instanceId : Identifier
  base : ConfigIdentity
  revision : Nat
  overrides : RuntimeOverrides
  bundle : Option InstanceBundle
  state : TargetState
  deriving DecidableEq, Repr

/-- `project_config_base`. -/
structure ProjectBase where
  revision : Option Nat
  configHash : Option ConfigHash
  branchId : Option Identifier
  deriving DecidableEq, Repr

/-- A settings saga (`instance_runtime_settings.py:436-489`). -/
structure Saga where
  proposalId : ProposalId
  mode : ApplyMode
  state : SagaState
  envelope : CommandEnvelope
  confirmedAt : Timestamp
  updatedAt : Timestamp
  projectBase : ProjectBase
  source : SagaTarget
  syncTargets : List SagaTarget
  fromCheckpoint : Option Identifier
  effectiveFromState : Option String
  receipt : Option ApplicationReceipt
  lastError : Option (ErrorCode × String)
  deriving DecidableEq, Repr

/-- `status` of `_saga_response`. -/
inductive SagaStatus where
  | appliedBeforeStart
  | appliedOnBranch
  | failed
  | waitingSafePoint
  deriving DecidableEq, Repr

namespace Saga

variable (saga : Saga)

/-- `_saga_response` (`instance_runtime_settings.py:1759-1787`): the rest are fields of the saga. -/
def status : SagaStatus :=
  match saga.state with
  | .applied =>
      match saga.mode with
      | .beforeStart => .appliedBeforeStart
      | .safeCheckpointBranch => .appliedOnBranch
  | .failed => .failed
  | _ => .waitingSafePoint

def actor : Actor := saga.envelope.actor

def taskId : Identifier := saga.proposalId.owner.taskId

/-- The source and the synchronization targets. -/
def targets : List SagaTarget := saga.source :: saga.syncTargets

def refOf (target : SagaTarget) : InstanceRef := ⟨saga.taskId, target.instanceId⟩

/-- `owns` of `_sagas_for_instance`. -/
def owns (ref : InstanceRef) : Bool := saga.proposalId.owner == ref

/-- `syncs` of `_sagas_for_instance`. -/
def syncs (ref : InstanceRef) : Bool :=
  saga.taskId == ref.taskId && saga.syncTargets.any (·.instanceId == ref.instanceId)

end Saga

/-! ## The disk -/

/-- What the settings service reads of an instance: its record and the evidence of a launch. -/
structure InstanceFacts where
  status : InstanceStatus
  agentType : AgentType
  hasProcess : Bool
  hasLaunch : Bool
  hasStartIntent : Bool
  configRevision : Nat
  deriving DecidableEq, Repr

namespace InstanceFacts

variable (facts : InstanceFacts)

/-- `instance_has_process_evidence` (`runtime_config_state.py:69-89`). -/
def hasProcessEvidence : Bool := facts.hasProcess || facts.hasLaunch

/-- `is_unstarted_image_instance` (`runtime_config_state.py:105-120`). -/
def isUnstarted : Bool :=
  facts.agentType == .image &&
    !(facts.hasProcess || facts.status.isStarted || facts.hasLaunch || facts.hasStartIntent)

end InstanceFacts

/-- `_LOCKED_INSTANCE_STATES`. -/
def InstanceStatus.isLocked : InstanceStatus → Bool
  | succeeded | failed | cancelled | superseded | archived | crashed => true
  | _ => false

/-- `_ACTIVE_INSTANCE_STATES` (`instance_runtime_settings.py:37`). -/
def InstanceStatus.isLive : InstanceStatus → Bool
  | starting | running | waitingApproval => true
  | _ => false

/-- What the service reads and writes; `taskConfigs` is what `task_config.get_current` answers, and
    `sagas` the directory of the sagas. -/
structure SettingsDisk (Agent : Type) where
  taskRevisions : Identifier → Nat
  taskConfigs : Identifier → Outcome TaskConfigRevision
  process : Option ConfigSnapshot
  plans : Identifier → Option (List Identifier)
  instances : InstanceRef → Option InstanceFacts
  agents : InstanceRef → Agent
  files : InstanceRef → InstanceConfigFiles
  receipts : InstanceRef → Nat → Option ApplicationReceipt
  proposals : ProposalId → Option Proposal
  sagas : List Saga

/-- `atomic_write_json` of a saga: it replaces the one of its proposal. -/
def putSaga (saga : Saga) : List Saga → List Saga
  | [] => [saga]
  | other :: rest =>
      if other.proposalId = saga.proposalId then saga :: rest else other :: putSaga saga rest

inductive SettingsWrite (Agent : Type) where
  | proposal (proposalId : ProposalId) (proposal : Proposal)
  | saga (saga : Saga)
  | revision (ref : InstanceRef) (bundle : InstanceBundle)
  | point (ref : InstanceRef) (state : InstanceConfigState)
  | receipt (ref : InstanceRef) (receipt : ApplicationReceipt)
  | configRevision (ref : InstanceRef) (sequence : Nat)
  | agent (ref : InstanceRef) (agent : Agent)

/-- Every write is atomic; `update_instance_fields` is one write of the field. -/
instance {Agent : Type} : Disk (SettingsDisk Agent) (SettingsWrite Agent) where
  apply disk
    | .proposal proposalId proposal =>
        { disk with proposals := Function.update disk.proposals proposalId (some proposal) }
    | .saga saga => { disk with sagas := putSaga saga disk.sagas }
    | .revision ref bundle =>
        { disk with
          files := Function.update disk.files ref
            ((disk.files ref).publish bundle.manifest.sequence bundle) }
    | .point ref state =>
        { disk with files := Function.update disk.files ref ((disk.files ref).point state) }
    | .receipt ref receipt =>
        { disk with
          receipts := Function.update disk.receipts ref
            (Function.update (disk.receipts ref) receipt.revision (some receipt)) }
    | .configRevision ref sequence =>
        { disk with
          instances := Function.update disk.instances ref
            ((disk.instances ref).map fun facts => { facts with configRevision := sequence }) }
    | .agent ref agent => { disk with agents := Function.update disk.agents ref agent }
  tear disk _ := disk

abbrev SettingsScript (Agent α : Type) :=
  Script (SettingsDisk Agent) (SettingsWrite Agent) Raised α

def syncScopeChanged (message : String) (details : List (String × Detail)) : Raised :=
  .harness ⟨.syncScopeChanged, message, details⟩

def instanceConfigLocked (message : String) : HarnessError := ⟨.instanceConfigLocked, message, []⟩

namespace RuntimeSettingsService

/-! ## Revisions of an instance -/

section

variable {Agent : Type}

/-- `_validate_application_receipt` (`instance_config_revisions.py:668-697`). -/
def validateReceipt (bundle : InstanceBundle) (receipt : ApplicationReceipt) : Outcome Unit := do
  ensure (receipt.branchId ≠ "" ∧ receipt.checkpointId ≠ "" ∧
      (receipt.fromCheckpoint.getD "" ≠ "" ∧ receipt.effectiveFromState.getD "" ≠ "") ∧
      receipt.appliedAt ≠ "")
    (configIntegrity "The runtime configuration application receipt is incomplete.")
  ensure (receipt.revision = bundle.manifest.sequence ∧ receipt.configHash = bundle.configHash ∧
      receipt.effectiveFromState = bundle.manifest.effectiveFromState)
    (.harness ⟨.configIntegrityFailed,
      "The runtime configuration application receipt does not match its revision.",
      [("revision_id", .text (instanceRevisionId bundle.manifest.sequence))]⟩)

/-- The current revision is applied, by its status or by its receipt. -/
def checkApplied (bundle : InstanceBundle) (receipt : Option ApplicationReceipt) : Outcome Unit :=
  if bundle.manifest.applyStatus = .applied then
    .ok ()
  else
    match receipt with
    | none => .error
        (configIntegrity "The active instance configuration revision is not applied.")
    | some receipt => validateReceipt bundle receipt

/-- `read_current` (`instance_config_revisions.py:335-359`). -/
def readCurrent (ref : InstanceRef) (disk : SettingsDisk Agent) :
    Outcome (Option CurrentInstanceConfig) :=
  match (disk.files ref).state with
  | none => .ok ((disk.files ref).legacy.map fun legacy => ⟨legacy.1, legacy.2, true⟩)
  | some state => do
      let bundle ← readInstanceRevision state.currentRevision (disk.files ref)
      checkApplied bundle (disk.receipts ref state.currentRevision)
      match state.pendingRevision with
      | none => return some ⟨state, bundle, false⟩
      | some pending => do
          ensure (pending ≠ state.currentRevision)
            (configIntegrity "The pending instance revision is already current.")
          let _ ← readInstanceRevision pending (disk.files ref)
          return some ⟨state, bundle, false⟩

/-- `next_revision_id` (`instance_config_revisions.py:103-120`). -/
def nextRevision (ref : InstanceRef) (disk : SettingsDisk Agent) : Outcome Nat := do
  let current ← readCurrent ref disk
  let published := (disk.files ref).slots.keys
  let sequences := published ++ (current.map (·.bundle.manifest.sequence)).toList
  return sequences.foldr max 0 + 1

/-- `write_revision` (`instance_config_revisions.py:52-101`). -/
def publishRevision (ref : InstanceRef) (bundle : InstanceBundle) : SettingsScript Agent Unit := do
  Script.lift (validateManifest bundle.manifest)
  Script.lift (ensure (bundle.manifest.parent ≠ some bundle.manifest.sequence)
    (.harness ⟨.validationError,
      "A runtime configuration revision cannot be its own parent.", []⟩))
  match ← Script.read fun disk : SettingsDisk Agent =>
      (disk.files ref).slots.lookup bundle.manifest.sequence with
  | some stored =>
      Script.lift (ensure (stored = bundle) (instanceRevisionReused bundle.manifest.sequence))
  | none => Script.write (.revision ref bundle)

def stateChanged (expected actual : Nat) : Raised :=
  settingsConflict "The instance configuration state changed after it was read."
    [("expected_revision", .number expected), ("actual_revision", .number actual)]

/-- `record_application` (`instance_config_revisions.py:280-319`). -/
def recordApplication (ref : InstanceRef) (receipt : ApplicationReceipt) :
    SettingsScript Agent Unit := do
  match ← Script.read fun disk : SettingsDisk Agent => disk.receipts ref receipt.revision with
  | some stored => Script.lift (ensure (stored = receipt) (.harness ⟨.configIntegrityFailed,
      "The runtime configuration application receipt changed after publication.",
      [("revision_id", .text (instanceRevisionId receipt.revision))]⟩))
  | none => Script.write (.receipt ref receipt)

/-- The state that a pointer moves to. -/
def movedState (sequence expected : Nat) (updatedAt : Timestamp)
    (current : Option CurrentInstanceConfig) : InstanceConfigState where
  currentRevision := sequence
  pendingRevision := none
  revision := expected + 1
  createdAt := current.elim updatedAt fun current => current.state.createdAt
  updatedAt := updatedAt

/-- `set_current` (`instance_config_revisions.py:122-188`). -/
def setCurrent (ref : InstanceRef) (sequence expected : Nat) (updatedAt : Timestamp)
    (receipt : Option ApplicationReceipt) : SettingsScript Agent InstanceConfigState := do
  let current ← Script.read (readCurrent ref)
  let current ← Script.lift current
  let currentNumber := current.elim 0 fun current => current.state.revision
  Script.lift (ensure (currentNumber = expected) (stateChanged expected currentNumber))
  let target ← Script.read fun disk : SettingsDisk Agent =>
    readInstanceRevision sequence (disk.files ref)
  let target ← Script.lift target
  Script.lift (ensure (target.manifest.applyStatus = .applied ∨ receipt ≠ none) (.harness
    ⟨.invalidStateTransition, "Only an applied configuration revision may become current.",
      [("revision_id", .text (instanceRevisionId sequence))]⟩))
  match receipt with
  | none => Script.lift (.ok ())
  | some receipt => do
      Script.lift (validateReceipt target receipt)
      recordApplication ref receipt
  let expectedParent := current.map fun current => current.bundle.manifest.sequence
  Script.lift (ensure (target.manifest.parent = expectedParent) (settingsConflict
    "The instance configuration revision parent is stale."
    [("expected_parent_revision_id", optionalText (expectedParent.map instanceRevisionId))]))
  let state := movedState sequence expected updatedAt current
  Script.write (.point ref state)
  return state

def noBaseline : Raised := configIntegrity "A pending revision requires an active instance baseline."

def anotherPending (pending : Nat) : Raised :=
  settingsConflict "Another runtime configuration revision is already pending."
    [("pending_revision_id", .text (instanceRevisionId pending))]

/-- `set_pending` (`instance_config_revisions.py:190-239`). -/
def setPending (ref : InstanceRef) (sequence expected : Nat) (updatedAt : Timestamp) :
    SettingsScript Agent Unit := do
  let current ← Script.read (readCurrent ref)
  match ← Script.lift current with
  | none => Script.raise noBaseline
  | some current => do
      Script.lift (ensure (current.state.revision = expected)
        (stateChanged expected current.state.revision))
      match current.state.pendingRevision with
      | some pending => Script.lift (ensure (pending = sequence) (anotherPending pending))
      | none => do
          let target ← Script.read fun disk : SettingsDisk Agent =>
            readInstanceRevision sequence (disk.files ref)
          let _ ← Script.lift target
          Script.write (.point ref { current.state with
            pendingRevision := some sequence
            revision := expected + 1
            updatedAt := updatedAt })

/-- `clear_pending` (`instance_config_revisions.py:241-278`). -/
def clearPending (ref : InstanceRef) (sequence expected : Nat) (updatedAt : Timestamp) :
    SettingsScript Agent Unit := do
  let current ← Script.read (readCurrent ref)
  match ← Script.lift current with
  | none => Script.raise noBaseline
  | some current => do
      Script.lift (ensure (current.state.revision = expected)
        (stateChanged expected current.state.revision))
      match current.state.pendingRevision with
      | none => return ()
      | some pending => do
          Script.lift (ensure (pending = sequence) (anotherPending pending))
          Script.write (.point ref { current.state with
            pendingRevision := none
            revision := expected + 1
            updatedAt := updatedAt })

/-- What `build_revision` is told besides the overrides. -/
structure RevisionOrder where
  sequence : Nat
  createdBy : Actor
  applyMode : ApplyMode
  applyStatus : ApplyStatus
  confirmedAt : Timestamp
  effectiveFromState : String

/-- The bundle of `build_revision` (`agent_config_materialization.py:169-230`). -/
def orderedBundle (process : Option ConfigSnapshot) (revision : TaskConfigRevision)
    (overrides : RuntimeOverrides) (order : RevisionOrder) (parent : Option Nat)
    (now : Timestamp) : Outcome InstanceBundle := do
  validateOverrides process revision overrides true
  let runtime := effectiveRuntime revision overrides
  let bindings ← modelConfiguration process revision overrides true
  let manifest : InstanceManifest :=
    { sequence := order.sequence
      parent := parent
      taskConfigRevision := revision.sequence
      overrides := overrides
      effectiveRuntime := runtime
      modelBindings := bindings.map fun binding => (binding.state, binding.model)
      createdBy := order.createdBy
      createdAt := now
      confirmedAt := some order.confirmedAt
      applyMode := order.applyMode
      applyStatus := order.applyStatus
      branchId := none
      checkpointId := none
      effectiveFromState := some order.effectiveFromState }
  validateManifest manifest
  return ⟨manifest, runtime, ⟨"materialized-" ++ instanceRevisionId order.sequence, bindings⟩⟩

variable (now : Timestamp)

/-- `build_revision`, with `require_current_approval`. -/
def buildRevision (ref : InstanceRef) (overrides : RuntimeOverrides) (order : RevisionOrder) :
    SettingsScript Agent InstanceBundle := do
  let current ← Script.read (readCurrent ref)
  let current ← Script.lift current
  let parent := current.map fun current => current.bundle.manifest.sequence
  let revision ← Script.read fun disk : SettingsDisk Agent => disk.taskConfigs ref.taskId
  let revision ← Script.lift revision
  let bundle ← Script.read fun disk : SettingsDisk Agent =>
    orderedBundle disk.process revision overrides order parent now
  Script.lift bundle

/-- `read_current`, after `materialize` (`agent_config_materialization.py:87-166`) where an
    instance has no revision yet. -/
def readOrMaterialize (ref : InstanceRef) : SettingsScript Agent CurrentInstanceConfig := do
  let current ← Script.read (readCurrent ref)
  match ← Script.lift current with
  | some current => return current
  | none => do
      let revision ← Script.read fun disk : SettingsDisk Agent => disk.taskConfigs ref.taskId
      let revision ← Script.lift revision
      let bundle ← Script.read fun disk : SettingsDisk Agent =>
        buildBundle disk.process revision {} false
          ⟨⟨.system, "image_config_materializer"⟩, now, none⟩
      let bundle ← Script.lift bundle
      publishRevision ref bundle
      let _ ← setCurrent ref bundle.manifest.sequence 0 now none
      let current ← Script.read (readCurrent ref)
      match ← Script.lift current with
      | some current => return current
      | none => Script.raise .assertionError

/-- `_image_instance` (`instance_runtime_settings.py:1479-1491`). -/
def imageInstance (ref : InstanceRef) (disk : SettingsDisk Agent) : Outcome InstanceFacts :=
  match disk.instances ref with
  | none => raiseHarness .instanceNotFound "The requested instance does not exist."
  | some facts => do
      ensure (facts.agentType = .image) (.harness ⟨.fieldNotEditable,
        "Runtime settings are only available for Image instances.", []⟩)
      return facts

/-- `_sync_candidates` (`instance_runtime_settings.py:1060-1078`), in the order of their ids. -/
def syncCandidates (ref : InstanceRef) (disk : SettingsDisk Agent) : List Identifier :=
  (((disk.plans ref.taskId).getD []).filter fun instanceId =>
    instanceId != ref.instanceId &&
      (disk.instances ⟨ref.taskId, instanceId⟩).any InstanceFacts.isUnstarted).insertionSort
        (· ≤ ·)

def unavailableBoundary (state reason : String) : Boundary where
  state := state
  checkpointId := none
  safeNow := false
  reason := some reason

/-- The boundary before a start. -/
def initialBoundary : Boundary where
  state := "initial"
  checkpointId := none
  safeNow := true
  reason := none

/-- What `_workflow_boundary` makes of an observation (`instance_runtime_settings.py:1361-1434`). -/
def observedBoundary (facts : InstanceFacts) (observation : Observation) : Boundary :=
  let step := observation.stepId.getD ""
  let running := unavailableBoundary (if step = "" then "running" else step)
    "SAFE_CHECKPOINT_UNAVAILABLE"
  if observation.status.isLive = false then
    unavailableBoundary (if step = "" then facts.status.name else step)
      "SAFE_CHECKPOINT_UNAVAILABLE"
  else
    match observation.workflowBoundary with
    | none => running
    | some boundary =>
        if boundary.state ≠ "" ∧ (boundary.safeNow = true →
            boundary.checkpointId.getD "" ≠ "" ∧ boundary.reason = none) then
          let unsafeReason := if boundary.safeNow then none else some "SAFE_CHECKPOINT_UNAVAILABLE"
          { boundary with
            reason := if boundary.reason.getD "" = "" then unsafeReason else boundary.reason }
        else
          running

/-- `_workflow_boundary` (`instance_runtime_settings.py:1338-1434`). -/
def workflowBoundary (port : AgentPort Agent) (facts : InstanceFacts) (agent : Agent) :
    Outcome Boundary :=
  if facts.isUnstarted then
    .ok initialBoundary
  else if facts.status.isLocked then
    .ok (unavailableBoundary facts.status.name "INSTANCE_CONFIG_LOCKED")
  else if facts.status.isLive then do
    let observation ← port.getStatus agent
    return observedBoundary facts observation
  else
    .ok (unavailableBoundary facts.status.name "SAFE_CHECKPOINT_UNAVAILABLE")

/-- `_apply_mode` (`instance_runtime_settings.py:1436-1444`). -/
def applyMode (facts : InstanceFacts) : Outcome ApplyMode :=
  if facts.isUnstarted then
    .ok .beforeStart
  else if facts.status.isLocked then
    .error (.harness (instanceConfigLocked
      "The instance has no future execution boundary for runtime settings."))
  else
    .ok .safeCheckpointBranch

/-- `_proposal_boundary` (`instance_runtime_settings.py:1446-1466`). -/
def proposalBoundary (mode : ApplyMode) (observed : Boundary) (facts : InstanceFacts) : Boundary :=
  match mode with
  | .beforeStart => initialBoundary
  | .safeCheckpointBranch =>
      if observed.state ≠ "initial" then observed
      else unavailableBoundary facts.status.name "SAFE_CHECKPOINT_UNAVAILABLE"

/-- `_sagas_for_instance` (`instance_runtime_settings.py:1845-1862`). -/
def sagasFor (ref : InstanceRef) (includeSync : Bool) (disk : SettingsDisk Agent) : List Saga :=
  disk.sagas.filter fun saga => saga.owns ref || (includeSync && saga.syncs ref)

def unfinished (ref : InstanceRef) (includeSync : Bool) (disk : SettingsDisk Agent) : List Saga :=
  (sagasFor ref includeSync disk).filter fun saga => !saga.state.terminal

def multipleSagas : Raised :=
  configIntegrity "The instance has multiple unfinished settings sagas."

/-- `_pending_saga` (`instance_runtime_settings.py:1812-1828`). -/
def pendingSaga (ref : InstanceRef) (includeSync : Bool) (disk : SettingsDisk Agent) :
    Outcome (Option Saga) :=
  match unfinished ref includeSync disk with
  | [] => .ok none
  | [saga] => .ok (some saga)
  | _ => .error multipleSagas

/-- `_terminal_saga(state="FAILED")` (`instance_runtime_settings.py:1830-1843`). -/
def failedSaga (ref : InstanceRef) (disk : SettingsDisk Agent) : Option Saga :=
  let latest := ((sagasFor ref false disk).filter fun saga => saga.state.terminal).argmax
    Saga.updatedAt
  latest.filter fun saga => saga.state == .failed

/-- The saga of a proposal. -/
def sagaOf (proposalId : ProposalId) (disk : SettingsDisk Agent) : Option Saga :=
  disk.sagas.find? fun saga => saga.proposalId = proposalId

/-- `_raise_saga_failure` (`instance_runtime_settings.py:1024-1031`). -/
def sagaFailure (saga : Saga) : Raised :=
  match saga.lastError with
  | some (code, message) => .harness ⟨code, message,
      [("proposal_id", .text saga.proposalId.key)]⟩
  | none => .harness ⟨.configIntegrityFailed, "Runtime configuration application failed.",
      [("proposal_id", .text saga.proposalId.key)]⟩

/-- `_require_settings_actor` (`instance_runtime_settings.py:1708-1714`). -/
def requireSettingsActor (envelope : CommandEnvelope) : Outcome Unit :=
  ensure (envelope.actorType = .human ∨ envelope.actorType = .master) (.harness
    ⟨.validationError, "Only a human or Master may change instance runtime settings.", []⟩)

/-- `_validate_task_revision` (`instance_runtime_settings.py:1716-1723`). -/
def validateTaskRevision (taskId : Identifier) (expected : Nat) (disk : SettingsDisk Agent) :
    Outcome Unit :=
  ensure (disk.taskRevisions taskId = expected) (.harness ⟨.revisionConflict,
    "The task revision changed before the settings command committed.",
    [("expected_revision", .number expected),
      ("actual_revision", .number (disk.taskRevisions taskId))]⟩)

/-- `_validate_identity` (`instance_runtime_settings.py:1514-1525`). -/
def validateIdentity (expected : ConfigIdentity) (current : CurrentInstanceConfig) :
    Outcome Unit :=
  ensure (expected = current.identity) (settingsConflict
    "An instance runtime configuration changed after preview."
    [("expected_revision", .number expected.stateRevision),
      ("actual_revision", .number current.state.revision)])

/-- `_validate_base` (`instance_runtime_settings.py:1527-1541`). -/
def validateBase (proposal : Proposal) (current : CurrentInstanceConfig) : Outcome Unit :=
  ensure (current.identity =
      ⟨proposal.request.baseRevision, proposal.baseRevisionId, proposal.baseConfigHash⟩)
    (settingsConflict "The instance runtime configuration changed after preview."
      [("expected_revision", .number proposal.request.baseRevision),
        ("actual_revision", .number current.state.revision)])

/-- The identities of the synchronization targets, which get their first revision if they have
    none. -/
def configIdentities (taskId : Identifier) :
    List Identifier → SettingsScript Agent (List (Identifier × ConfigIdentity))
  | [] => return []
  | instanceId :: rest => do
      let current ← readOrMaterialize now ⟨taskId, instanceId⟩
      let identities ← configIdentities taskId rest
      return (instanceId, current.identity) :: identities

def scopeDetails (expected actual : List Identifier) : List (String × Detail) :=
  [("expected_instance_ids", .texts expected), ("actual_instance_ids", .texts actual)]

/-- The checks of the synchronization scope in `propose` (`instance_runtime_settings.py:225-243`). -/
def checkSyncScope (request : ProposalRequest) (candidates : List Identifier) :
    Outcome (List Identifier) := do
  let expected := request.expectedSync.insertionSort (· ≤ ·)
  ensure expected.Nodup (.harness
    ⟨.validationError, "Synchronization targets must be unique.", []⟩)
  if request.syncUnstarted then
    ensure (expected = candidates) (syncScopeChanged
      "The unstarted Image synchronization scope changed before preview."
      (scopeDetails expected candidates))
    return candidates
  else
    ensure (expected = []) (.harness
      ⟨.validationError, "Synchronization targets require the synchronization option.", []⟩)
    return []

/-- The loop of `_validate_sync_scope`. -/
def validateSyncBases (taskId : Identifier) (bases : List (Identifier × ConfigIdentity)) :
    List Identifier → SettingsScript Agent Unit
  | [] => return ()
  | instanceId :: rest => do
      let current ← readOrMaterialize now ⟨taskId, instanceId⟩
      match bases.lookup instanceId with
      | none => Script.raise (.keyError instanceId)
      | some base => Script.lift (validateIdentity base current)
      validateSyncBases taskId bases rest

/-- `_validate_sync_scope` (`instance_runtime_settings.py:1033-1058`). -/
def validateSyncScope (ref : InstanceRef) (proposal : Proposal) : SettingsScript Agent Unit := do
  if proposal.request.syncUnstarted then
    let actual ← Script.read (syncCandidates ref)
    let expected := proposal.syncInstanceIds.insertionSort (· ≤ ·)
    Script.lift (ensure (actual = expected) (syncScopeChanged
      "The unstarted Image synchronization scope changed before confirmation."
      (scopeDetails expected actual)))
    validateSyncBases now ref.taskId proposal.syncBases expected

end

end RuntimeSettingsService

end DesignHarness
