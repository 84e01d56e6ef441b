import DesignHarness.Services.RuntimeSettings

/-!
# Settings sagas

The calls of `InstanceRuntimeSettingsService`: `propose`, `confirm`, `apply_pending_if_safe`,
`ensure_before_start` and `recover`.  Every call runs under the lock of its task or of its instance
and reads the clock once.
-/

namespace DesignHarness

open Library

/-- A target within a saga. -/
inductive TargetPosition where
  | source
  | sync (index : Nat)
  deriving DecidableEq, Repr

namespace Saga

def target? (saga : Saga) : TargetPosition → Option SagaTarget
  | .source => some saga.source
  | .sync index => saga.syncTargets[index]?

def setTarget (saga : Saga) (target : SagaTarget) : TargetPosition → Saga
  | .source => { saga with source := target }
  | .sync index => { saga with syncTargets := saga.syncTargets.set index target }

def syncPositions (saga : Saga) : List TargetPosition :=
  (List.range saga.syncTargets.length).map .sync

end Saga

namespace RuntimeSettingsService

section

variable {Agent : Type} (now : Timestamp) (port : AgentPort Agent)

def reusedProposalKey : Raised :=
  .harness ⟨.idempotencyConflict,
    "The settings proposal idempotency key was reused for another request.", []⟩

def unfinishedOperation : Raised :=
  settingsConflict "The instance already has an unfinished runtime settings operation." []

/-- The draft of a proposal (`instance_runtime_settings.py:195-287`). -/
def draftProposal (ref : InstanceRef) (request : ProposalRequest) (observed : Boundary) :
    SettingsScript Agent Proposal := do
  let fenced ← Script.read (validateTaskRevision ref.taskId request.envelope.expectedRevision)
  Script.lift fenced
  let pending ← Script.read (pendingSaga ref true)
  let pending ← Script.lift pending
  Script.lift (ensure (pending = none) unfinishedOperation)
  let facts ← Script.read (imageInstance ref)
  let facts ← Script.lift facts
  let current ← readOrMaterialize now ref
  Script.lift (ensure (current.legacy = false) (.harness (instanceConfigLocked
    "Legacy Image instances remain read-only until explicitly migrated.")))
  Script.lift (ensure (current.state.revision = request.baseRevision)
    (settingsConflict "The runtime settings base revision changed before preview."
      [("expected_revision", .number request.baseRevision),
        ("actual_revision", .number current.state.revision)]))
  let overrides := mergeOverrides current.bundle.manifest.overrides request.patch
  let revision ← Script.read fun disk : SettingsDisk Agent => disk.taskConfigs ref.taskId
  let revision ← Script.lift revision
  Script.lift (ensure (current.bundle.manifest.taskConfigRevision = revision.sequence)
    (settingsConflict "The instance baseline is awaiting the task configuration rebase." []))
  let valid ← Script.read fun disk : SettingsDisk Agent =>
    validateOverrides disk.process revision overrides true
  Script.lift valid
  let candidates ← Script.read (syncCandidates ref)
  let syncIds ← Script.lift (checkSyncScope request candidates)
  let syncBases ← configIdentities now ref.taskId syncIds
  let mode ← Script.lift (applyMode facts)
  return {
    request := request
    baseRevisionId := current.bundle.manifest.sequence
    baseConfigHash := current.bundle.configHash
    taskConfigRevision := revision.sequence
    overrides := overrides
    applyMode := mode
    workflowBoundary := proposalBoundary mode observed facts
    syncBases := syncBases
    status := .draft
    confirmation := none }

/-- `propose` (`instance_runtime_settings.py:153-315`). -/
def propose (ref : InstanceRef) (request : ProposalRequest) : SettingsScript Agent Proposal := do
  Script.lift (requireSettingsActor request.envelope)
  let proposalId : ProposalId := ⟨ref, request.envelope.idempotencyKey⟩
  let facts ← Script.read (imageInstance ref)
  let facts ← Script.lift facts
  match ← Script.read fun disk : SettingsDisk Agent => disk.proposals proposalId with
  | some existing => do
      Script.lift (ensure (existing.request = request) reusedProposalKey)
      return existing
  | none => do
      let observed ← Script.read fun disk : SettingsDisk Agent =>
        workflowBoundary port facts (disk.agents ref)
      let observed ← Script.lift observed
      let proposal ← draftProposal now ref request observed
      Script.write (.proposal proposalId proposal)
      return proposal

/-- `_update_proposal_status` (`instance_runtime_settings.py:1873-1880`). -/
def updateProposalStatus (saga : Saga) (status : ProposalStatus) : SettingsScript Agent Unit := do
  match ← Script.read fun disk : SettingsDisk Agent => disk.proposals saga.proposalId with
  | none => Script.raise (.osError saga.proposalId.key)
  | some proposal => Script.write (.proposal saga.proposalId { proposal with status := status })

/-- `_update_instance_config_revision` (`instance_runtime_settings.py:1882-1897`). -/
def updateConfigRevision (ref : InstanceRef) (sequence : Nat) : SettingsScript Agent Unit := do
  match ← Script.read fun disk : SettingsDisk Agent => disk.instances ref with
  | none =>
      Script.raise (.harness
        ⟨.instanceNotFound, "The requested instance does not exist.", []⟩)
  | some facts =>
      if facts.configRevision = sequence then
        return ()
      else
        Script.write (.configRevision ref sequence)

/-- `_clear_failed_pending_revisions` (`instance_runtime_settings.py:1003-1022`). -/
def clearFailedPending (saga : Saga) : SettingsScript Agent Unit :=
  Script.forEach (fun target => do
    let ref := saga.refOf target
    let current ← Script.read (readCurrent ref)
    match ← Script.lift current with
    | none => return ()
    | some current =>
        if current.state.pendingRevision = some target.revision then
          clearPending ref target.revision current.state.revision now
        else
          return ()) saga.targets

/-- `_fail_saga` (`instance_runtime_settings.py:978-1001`). -/
def failSaga {α : Type} (saga : Saga) (error : HarnessError) : SettingsScript Agent α := do
  clearFailedPending now saga
  let failed : Saga :=
    { saga with state := .failed, updatedAt := now, lastError := some (error.code, error.message) }
  Script.write (.saga failed)
  updateProposalStatus failed .failed
  Script.raise (.harness error)

/-- `_wait_at_safe_point` (`instance_runtime_settings.py:942-976`). -/
def waitAtSafePoint (saga : Saga) (error : Option HarnessError) : SettingsScript Agent Saga := do
  let waiting : Saga :=
    { saga with
      state := .waitingSafePoint
      updatedAt := now
      lastError := error.map fun error => (error.code, error.message) }
  Script.write (.saga waiting)
  updateProposalStatus waiting .waitingSafePoint
  return waiting

/-- The bundle of a local target, which the saga keeps. -/
def localBundle (saga : Saga) (position : TargetPosition) (target : SagaTarget) :
    SettingsScript Agent (Saga × SagaTarget × InstanceBundle) := do
  match target.bundle with
  | some bundle => return (saga, target, bundle)
  | none => do
      let bundle ← buildRevision now (saga.refOf target) target.overrides
        ⟨target.revision, saga.actor, .beforeStart, .applied, saga.confirmedAt, "initial"⟩
      let ready : SagaTarget := { target with bundle := some bundle, state := .bundleReady }
      let later : Saga := { saga.setTarget ready position with updatedAt := now }
      Script.write (.saga later)
      return (later, ready, bundle)

/-- A local target that is not applied yet. -/
def applyLocalTarget (saga : Saga) (position : TargetPosition) (target : SagaTarget) :
    SettingsScript Agent Saga := do
  let ref := saga.refOf target
  let facts ← Script.read (imageInstance ref)
  let facts ← Script.lift facts
  let current ← readOrMaterialize now ref
  if current.state.currentRevision = target.revision then do
    updateConfigRevision ref target.revision
    return saga.setTarget { target with state := .applied } position
  else do
    Script.lift (ensure (facts.hasProcessEvidence = false) (syncScopeChanged
      "A frozen settings target started before its local revision committed."
      [("instance_id", .text target.instanceId)]))
    Script.lift (validateIdentity target.base current)
    let (saga, ready, bundle) ← localBundle now saga position target
    publishRevision ref bundle
    let _ ← setCurrent ref target.revision current.state.revision now none
    updateConfigRevision ref target.revision
    let later : Saga :=
      { saga.setTarget { ready with state := .applied } position with updatedAt := now }
    Script.write (.saga later)
    return later

/-- `_resume_local_target` (`instance_runtime_settings.py:839-914`). -/
def resumeLocalTarget (saga : Saga) (position : TargetPosition) : SettingsScript Agent Saga := do
  match saga.target? position with
  | none => return saga
  | some target =>
      if target.state = .applied then
        return saga
      else
        applyLocalTarget now saga position target

def resumeTargets : List TargetPosition → Saga → SettingsScript Agent Saga
  | [], saga => return saga
  | position :: rest, saga => do
      let later ← resumeLocalTarget now saga position
      resumeTargets rest later

/-- `_resume_sync_targets_locked` (`instance_runtime_settings.py:825-831`). -/
def resumeSyncTargets (saga : Saga) : SettingsScript Agent Saga := do
  let later ← resumeTargets now saga.syncPositions saga
  Script.write (.saga later)
  return later

/-- `_resume_local_source_locked` (`instance_runtime_settings.py:833-837`). -/
def resumeLocalSource (saga : Saga) : SettingsScript Agent Saga := do
  let later ← resumeLocalTarget now saga .source
  Script.write (.saga later)
  return later

/-- `_complete_local_saga` (`instance_runtime_settings.py:916-940`). -/
def completeLocalSaga (saga : Saga) : SettingsScript Agent Saga := do
  if saga.targets.all fun target => target.state == .applied then do
    let applied : Saga := { saga with state := .applied, updatedAt := now, lastError := none }
    Script.write (.saga applied)
    updateProposalStatus applied .applied
    Script.lift (ensure applied.source.bundle.isSome .assertionError)
    return applied
  else
    return saga

/-- The source and the targets of a saga before the start. -/
def applyBeforeStart (saga : Saga) : SettingsScript Agent Saga := do
  let saga ← resumeSyncTargets now saga
  let saga ← resumeLocalSource now saga
  completeLocalSaga now saga

/-! ## Safe points -/

/-- `expected_project_revision` and `expected_project_hash`
    (`instance_runtime_settings.py:608-613`). -/
def expectedProject (saga : Saga) : Option Nat × Option ConfigHash :=
  match saga.projectBase.revision, saga.projectBase.configHash with
  | some revision, some configHash => (some revision, some configHash)
  | _, _ => (some saga.source.base.revision, some saga.source.base.configHash)

/-- The Agent runs the configuration that the saga expects, or says nothing of it
    (`instance_runtime_settings.py:614-623`). -/
def projectUnchanged (saga : Saga) (boundary : Boundary) : Prop :=
  (boundary.runtimeConfigRevision = none ∨
      boundary.runtimeConfigRevision = (expectedProject saga).1) ∧
    (boundary.runtimeConfigHash = none ∨
      boundary.runtimeConfigHash = (expectedProject saga).2)

instance (saga : Saga) (boundary : Boundary) : Decidable (projectUnchanged saga boundary) :=
  inferInstanceAs (Decidable (_ ∧ _))

def completedBeforeApply : HarnessError :=
  instanceConfigLocked "The instance completed before its pending configuration could apply."

def projectChanged : HarnessError :=
  ⟨.settingsRevisionConflict, "The active project configuration changed after preview.", []⟩

/-- The bundle of a safe-point saga, which the saga keeps with its checkpoint
    (`instance_runtime_settings.py:632-651`). -/
def safeBundle (saga : Saga) (boundary : Boundary) :
    SettingsScript Agent (Saga × InstanceBundle) := do
  match saga.source.bundle with
  | some bundle => return (saga, bundle)
  | none => do
      let bundle ← buildRevision now saga.proposalId.owner saga.source.overrides
        ⟨saga.source.revision, saga.actor, .safeCheckpointBranch, .confirmed, saga.confirmedAt,
          boundary.state⟩
      let later : Saga :=
        { saga with
          source := { saga.source with bundle := some bundle }
          fromCheckpoint := boundary.checkpointId
          effectiveFromState := some boundary.state
          updatedAt := now }
      Script.write (.saga later)
      return (later, bundle)

/-- The revision is published and pending (`instance_runtime_settings.py:652-667`). -/
def materializeSafe (saga : Saga) (bundle : InstanceBundle) : SettingsScript Agent Saga := do
  let ref := saga.proposalId.owner
  publishRevision ref bundle
  let current ← Script.read (readCurrent ref)
  match ← Script.lift current with
  | none => Script.raise .assertionError
  | some current => do
      if current.state.currentRevision ≠ bundle.manifest.sequence then
        setPending ref bundle.manifest.sequence current.state.revision now
      if saga.state = .confirmed ∨ saga.state = .waitingSafePoint then do
        let later : Saga := { saga with state := .materialized, updatedAt := now }
        Script.write (.saga later)
        return later
      else
        return saga

/-- The request of a saga (`instance_runtime_settings.py:681-690`). -/
def applyRequest (saga : Saga) (bundle : InstanceBundle) : ApplyRequest where
  revision := bundle.manifest.sequence
  fromCheckpoint := saga.fromCheckpoint
  expectedConfigHash := bundle.configHash
  expectedProjectRevision := (expectedProject saga).1
  expectedProjectHash := (expectedProject saga).2
  effectiveFromState := saga.effectiveFromState
  idempotencyKey := (saga.proposalId, saga.source.revision)

/-- The receipt that the adapter makes of a response (`image.py:745-784`). -/
def adapterReceipt (request : ApplyRequest) (response : ApplyResponse) :
    Except HarnessError ApplyResponse := do
  ensure (response.revision = request.revision ∧
      response.fromCheckpoint = request.fromCheckpoint ∧
      response.effectiveFromState = request.effectiveFromState ∧
      response.configHash = request.expectedConfigHash)
    ⟨.configIntegrityFailed,
      "Image Agent returned a configuration receipt for another command.", []⟩
  ensure (response.branchId ≠ "" ∧ response.checkpointId ≠ "") ⟨.configIntegrityFailed,
    "Image Agent returned an invalid configuration branch receipt.", []⟩
  return response

/-- How a request to the Agent ends. -/
inductive Remote where
  | applied (response : ApplyResponse)
  | refused (error : HarnessError)
  | broken (error : Raised)

/-- `apply_runtime_revision` (`image.py:665-784`), with the check of its checkpoint. -/
def remoteResult (saga : Saga) (request : ApplyRequest) : Outcome ApplyResponse → Remote
  | .ok response =>
      match adapterReceipt request response with
      | .error error => .refused error
      | .ok receipt =>
          if receipt.fromCheckpoint = saga.fromCheckpoint then
            .applied receipt
          else
            .refused ⟨.configIntegrityFailed,
              "The Image Agent applied the revision from another checkpoint.", []⟩
  | .error (.harness error) => .refused error
  | .error error => .broken error

/-- `_CHECKPOINT` and `CONTROL_PLANE_NOT_READY` apart, the codes that make a saga wait. -/
def waitsFor (code : ErrorCode) : Bool :=
  code == .safeCheckpointUnavailable || code == .processStartFailed

/-- The receipt that a saga keeps. -/
def sagaReceipt (response : ApplyResponse) : ApplicationReceipt where
  revision := response.revision
  branchId := response.branchId
  checkpointId := response.checkpointId
  fromCheckpoint := response.fromCheckpoint
  effectiveFromState := response.effectiveFromState
  configHash := response.configHash
  appliedAt := now

/-- The remote application: the receipt, or a saga that waits
    (`instance_runtime_settings.py:668-719`). -/
def applyRemote (saga : Saga) (bundle : InstanceBundle) :
    SettingsScript Agent (Saga × Option ApplicationReceipt) := do
  match saga.receipt with
  | some receipt => return (saga, some receipt)
  | none => do
      let ref := saga.proposalId.owner
      let request := applyRequest saga bundle
      let answer ← Script.read fun disk : SettingsDisk Agent =>
        port.applyRevision request (disk.agents ref)
      Script.write (.agent ref answer.1)
      match remoteResult saga request answer.2 with
      | .broken error => Script.raise error
      | .refused error =>
          if waitsFor error.code then do
            let waiting ← waitAtSafePoint now saga (some error)
            return (waiting, none)
          else
            failSaga now saga error
      | .applied response => do
          let receipt := sagaReceipt now response
          let later : Saga :=
            { saga with
              receipt := some receipt
              state := .childBranchCreated
              updatedAt := now }
          Script.write (.saga later)
          return (later, some receipt)

/-- The pointer moves to the revision that the Agent runs (`instance_runtime_settings.py:720-761`). -/
def commitPointer (saga : Saga) (bundle : InstanceBundle) (receipt : ApplicationReceipt) :
    SettingsScript Agent Saga := do
  let ref := saga.proposalId.owner
  let target := bundle.manifest.sequence
  let current ← Script.read (readCurrent ref)
  match ← Script.lift current with
  | none => Script.raise .assertionError
  | some current => do
      if current.state.currentRevision ≠ target then do
        let _ ← setCurrent ref target current.state.revision receipt.appliedAt (some receipt)
      let committed : Saga := { saga with state := .instancePointerCommitted, updatedAt := now }
      Script.write (.saga committed)
      updateConfigRevision ref target
      let applied : Saga := { committed with state := .applied, lastError := none }
      Script.write (.saga applied)
      updateProposalStatus applied .applied
      return applied

/-- A pending safe-point saga at its boundary. -/
def applyAtBoundary (saga : Saga) (boundary : Boundary) : SettingsScript Agent Saga := do
  if boundary.reason = some "INSTANCE_CONFIG_LOCKED" then
    failSaga now saga completedBeforeApply
  else if boundary.safeNow = false then
    waitAtSafePoint now saga none
  else if ¬ projectUnchanged saga boundary then
    failSaga now saga projectChanged
  else do
    let (saga, bundle) ← safeBundle now saga boundary
    let saga ← materializeSafe now saga bundle
    let (saga, receipt) ← applyRemote now port saga bundle
    match receipt with
    | none => return saga
    | some receipt => commitPointer now saga bundle receipt

/-- A pending safe-point saga. -/
def applySafePoint (ref : InstanceRef) (saga : Saga) : SettingsScript Agent Saga := do
  let facts ← Script.read (imageInstance ref)
  let facts ← Script.lift facts
  let boundary ← Script.read fun disk : SettingsDisk Agent =>
    workflowBoundary port facts (disk.agents ref)
  let boundary ← Script.lift boundary
  applyAtBoundary now port saga boundary

/-- `apply_pending_if_safe` (`instance_runtime_settings.py:548-761`). -/
def applyPendingIfSafe (ref : InstanceRef) : SettingsScript Agent (Option Saga) := do
  let pending ← Script.read (pendingSaga ref false)
  match ← Script.lift pending with
  | none => do
      match ← Script.read (failedSaga ref) with
      | some failed => Script.raise (sagaFailure failed)
      | none => return none
  | some saga =>
      if saga.state = .intentPersisted then
        return some saga
      else
        match saga.mode with
        | .beforeStart => do
            let later ← applyBeforeStart now saga
            return some later
        | .safeCheckpointBranch => do
            let later ← applySafePoint now port ref saga
            return some later

/-! ## Confirmations -/

/-- A saga that is confirmed goes on with its local targets
    (`instance_runtime_settings.py:531-536`). -/
def beginSaga (saga : Saga) : SettingsScript Agent Saga := do
  let confirmed : Saga := { saga with state := .confirmed, updatedAt := now }
  Script.write (.saga confirmed)
  let saga ← resumeSyncTargets now confirmed
  match saga.mode with
  | .beforeStart => do
      let saga ← resumeLocalSource now saga
      completeLocalSaga now saga
  | .safeCheckpointBranch => return saga

/-- `_validate_confirmation_saga` (`instance_runtime_settings.py:1725-1745`). -/
def validateConfirmationSaga (saga : Saga) (envelope : CommandEnvelope) : Outcome Unit :=
  ensure (saga.envelope = envelope)
    (configIntegrity "The persisted settings confirmation intent is inconsistent.")

def reusedConfirmationKey : Raised :=
  .harness ⟨.idempotencyConflict,
    "The settings confirmation idempotency key was reused for another request.", []⟩

/-- A confirmation that was made before (`instance_runtime_settings.py:354-382`). -/
def replayConfirmation (proposalId : ProposalId) (confirmation : Confirmation)
    (envelope : CommandEnvelope) : SettingsScript Agent Saga := do
  Script.lift (ensure (confirmation.envelope = envelope) reusedConfirmationKey)
  match ← Script.read (sagaOf proposalId) with
  | none =>
      Script.raise (configIntegrity "The confirmed settings proposal lost its application saga.")
  | some saga => do
      Script.lift (validateConfirmationSaga saga envelope)
      if saga.state = .intentPersisted then do
        let confirmed : Saga := { saga with state := .confirmed, updatedAt := now }
        Script.write (.saga confirmed)
        return confirmed
      else
        return saga

/-- The proposal is marked as confirmed. -/
def confirmProposal (proposalId : ProposalId) (proposal : Proposal) (saga : Saga) :
    SettingsScript Agent Unit :=
  Script.write (.proposal proposalId
    { proposal with
      status := .confirmed
      confirmation := some ⟨saga.envelope, saga.confirmedAt⟩ })

/-- The reservation of a synchronization target. -/
def syncTarget (taskId : Identifier) (overrides : RuntimeOverrides)
    (item : Identifier × ConfigIdentity) : SettingsScript Agent SagaTarget := do
  let next ← Script.read (nextRevision ⟨taskId, item.1⟩)
  let next ← Script.lift next
  return ⟨item.1, item.2, next, overrides, none, .pending⟩

def reserveTargets (taskId : Identifier) (overrides : RuntimeOverrides) :
    List (Identifier × ConfigIdentity) → SettingsScript Agent (List SagaTarget)
  | [] => return []
  | item :: rest => do
      let target ← syncTarget taskId overrides item
      let targets ← reserveTargets taskId overrides rest
      return target :: targets

/-- The checks of a first confirmation, and its saga (`instance_runtime_settings.py:407-489`). -/
def newSaga (ref : InstanceRef) (proposalId : ProposalId) (proposal : Proposal)
    (envelope : CommandEnvelope) : SettingsScript Agent Saga := do
  let fenced ← Script.read (validateTaskRevision ref.taskId envelope.expectedRevision)
  Script.lift fenced
  let facts ← Script.read (imageInstance ref)
  let facts ← Script.lift facts
  let locked : Raised :=
    .harness (instanceConfigLocked "The instance runtime configuration is not editable.")
  let current ← Script.read (readCurrent ref)
  match ← Script.lift current with
  | none => Script.raise locked
  | some current => do
      Script.lift (ensure (current.legacy = false) locked)
      Script.lift (validateBase proposal current)
      validateSyncScope now ref proposal
      let revision ← Script.read fun disk : SettingsDisk Agent => disk.taskConfigs ref.taskId
      let revision ← Script.lift revision
      Script.lift (ensure (proposal.taskConfigRevision = revision.sequence)
        (settingsConflict "The task configuration baseline changed after preview." []))
      let valid ← Script.read fun disk : SettingsDisk Agent =>
        validateOverrides disk.process revision proposal.overrides true
      Script.lift valid
      let mode ← Script.lift (applyMode facts)
      Script.lift (ensure (mode = proposal.applyMode)
        (settingsConflict "The instance start boundary changed after preview." []))
      let next ← Script.read (nextRevision ref)
      let next ← Script.lift next
      let syncTargets ← reserveTargets ref.taskId proposal.overrides proposal.syncBases
      return {
        proposalId := proposalId
        mode := mode
        state := .intentPersisted
        envelope := envelope
        confirmedAt := now
        updatedAt := now
        projectBase := ⟨proposal.workflowBoundary.runtimeConfigRevision,
          proposal.workflowBoundary.runtimeConfigHash, proposal.workflowBoundary.branchId⟩
        source := ⟨ref.instanceId, current.identity, next, proposal.overrides, none, .pending⟩
        syncTargets := syncTargets
        fromCheckpoint := none
        effectiveFromState := none
        receipt := none
        lastError := none }

/-- The locked part of `confirm` (`instance_runtime_settings.py:343-536`). -/
def confirmLocked (proposalId : ProposalId) (envelope : CommandEnvelope) :
    SettingsScript Agent Saga := do
  match ← Script.read fun disk : SettingsDisk Agent => disk.proposals proposalId with
  | none =>
      Script.raise (.harness
        ⟨.instanceNotFound, "The settings proposal does not exist.", []⟩)
  | some proposal =>
      match proposal.confirmation with
      | some confirmation => replayConfirmation now proposalId confirmation envelope
      | none => do
          match ← Script.read (sagaOf proposalId) with
          | some saga => do
              Script.lift (validateConfirmationSaga saga envelope)
              confirmProposal proposalId proposal saga
              beginSaga now saga
          | none => do
              let saga ← newSaga now proposalId.owner proposalId proposal envelope
              Script.write (.saga saga)
              confirmProposal proposalId proposal saga
              beginSaga now saga

/-- `confirm` (`instance_runtime_settings.py:316-546`), without its calls for the peers. -/
def confirm (proposalId : ProposalId) (envelope : CommandEnvelope) :
    SettingsScript Agent Saga := do
  Script.lift (requireSettingsActor envelope)
  let saga ← confirmLocked now proposalId envelope
  match saga.status with
  | .failed => Script.raise (sagaFailure saga)
  | .appliedBeforeStart | .appliedOnBranch => return saga
  | .waitingSafePoint => do
      match ← applyPendingIfSafe now port proposalId.owner with
      | some later => return later
      | none => return saga

def unrecoveredConfirmation (saga : Saga) : Raised :=
  .harness ⟨.safeCheckpointUnavailable,
    "Recover the persisted settings confirmation before starting the instance.",
    [("proposal_id", .text saga.proposalId.key)]⟩

/-- The body of the loop of `ensure_before_start_locked`. -/
def ensureSaga (ref : InstanceRef) (saga : Saga) : SettingsScript Agent Unit := do
  if saga.state.terminal then
    return ()
  else if saga.state = .intentPersisted then
    Script.raise (unrecoveredConfirmation saga)
  else do
    let later ← resumeSyncTargets now saga
    if saga.owns ref = true ∧ saga.mode = .beforeStart then do
      let later ← resumeLocalSource now later
      let _ ← completeLocalSaga now later

/-- `ensure_before_start_locked` (`instance_runtime_settings.py:772-787`). -/
def ensureBeforeStart (ref : InstanceRef) : SettingsScript Agent Unit := do
  let sagas ← Script.read (sagasFor ref true)
  Script.forEach (ensureSaga now ref) sagas

/-- `except HarnessError` of `recover`. -/
def reported (script : SettingsScript Agent Unit) : SettingsScript Agent Unit :=
  script.rescue fun error =>
    match error with
    | .harness _ => return ()
    | other => Script.raise other

/-- The turn of a saga in `recover`. -/
def recoverSaga (proposalId : ProposalId) : SettingsScript Agent Unit := do
  match ← Script.read (sagaOf proposalId) with
  | none => return ()
  | some saga =>
      if saga.state.terminal then
        return ()
      else if saga.state = .intentPersisted then
        reported do
          let _ ← confirm now port saga.proposalId saga.envelope
      else
        reported do
          let _ ← applyPendingIfSafe now port saga.proposalId.owner

/-- `recover` (`instance_runtime_settings.py:789-810`) over the sagas that it lists. -/
def recover (listing : List ProposalId) : SettingsScript Agent Unit :=
  Script.forEach (recoverSaga now port) listing

end

end RuntimeSettingsService

end DesignHarness
