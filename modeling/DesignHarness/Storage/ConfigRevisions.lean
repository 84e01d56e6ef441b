import DesignHarness.Core.ConfigKernel
import DesignHarness.Domain.Plan
import DesignHarness.Library.Revisions
import DesignHarness.Storage.Objects
import Mathlib.Data.List.Sort

/-!
# Configuration revisions

`TaskConfigRevisionStore` (`task_config_revisions.py`) and `InstanceConfigRevisionStore`
(`instance_config_revisions.py`): immutable numbered revisions of the configuration of a task and
of an instance, each behind a state file that points to the current one.  A hash stands for what
it is the hash of, so the hash fields of a revision are left out with the checks that they match.
-/

namespace DesignHarness

open Library

/-! ## Records -/

/-- `TaskConfigRevision` (`task-config-revision-v2.0.schema.json`); `task-config-r000003` is
    number 3. -/
structure TaskConfigRevision where
  sequence : Nat
  parent : Option Nat
  sourceSystemRevision : Identifier
  providerIds : List Identifier
  modelList : ModelListConfig
  runtime : RuntimeConfig
  createdBy : Actor
  createdAt : Timestamp
  deriving DecidableEq, Repr

/-- `TaskConfigState` (`task-config-state-v2.0.schema.json`). -/
structure TaskConfigState where
  currentRevision : Nat
  sourceSystemRevision : Identifier
  lockedAt : Option Timestamp
  lockedReason : Option String
  revision : Nat
  createdAt : Timestamp
  updatedAt : Timestamp
  deriving DecidableEq, Repr

/-- `self_check` of the overrides. -/
structure SelfCheckOverride where
  termination : Option Termination := none
  fixedRounds : Option Nat := none
  maxRounds : Option Nat := none
  stopEarlyOnPass : Option Bool := none
  deriving DecidableEq, Repr

/-- `runtimeOverrides` (`runtime-config-common-v2.0.schema.json`). -/
structure RuntimeOverrides where
  questionPreference : Option QuestionPreference := none
  maxAutoQuestions : Option Nat := none
  clarificationTotalBudget : Option Nat := none
  categoryConstraint : Option LibraryRelease := none
  styleDirection : Option LibraryRelease := none
  candidateConcurrency : Option Nat := none
  defaultOutputSize : Option String := none
  responseFormat : Option ResponseFormat := none
  watermark : Option Bool := none
  selfCheck : SelfCheckOverride := {}
  advancedModelOverrides : AdvancedModelOverrides := {}
  deriving DecidableEq, Repr

/-- `effectiveRuntime` (`runtime-config-common-v2.0.schema.json`). -/
structure EffectiveRuntime where
  questionPreference : QuestionPreference
  maxAutoQuestions : Nat
  clarificationTotalBudget : Nat
  categoryConstraint : LibraryRelease
  styleDirection : LibraryRelease
  candidateConcurrency : Nat
  defaultOutputSize : String
  responseFormat : ResponseFormat
  watermark : Bool
  selfCheck : SelfCheckConfig
  deriving DecidableEq, Repr

inductive ApplyMode where
  | beforeStart
  | safeCheckpointBranch
  deriving DecidableEq, Repr

inductive ApplyStatus where
  | draft
  | confirmed
  | waitingSafePoint
  | applying
  | applied
  | failed
  deriving DecidableEq, Repr

/-- `InstanceRuntimeConfigManifest` (`instance-runtime-config-manifest-v2.0.schema.json`);
    `cfg-inst-r000003` is number 3. -/
structure InstanceManifest where
  sequence : Nat
  parent : Option Nat
  taskConfigRevision : Nat
  overrides : RuntimeOverrides
  effectiveRuntime : EffectiveRuntime
  modelBindings : List (WorkflowState × String)
  createdBy : Actor
  createdAt : Timestamp
  confirmedAt : Option Timestamp
  applyMode : ApplyMode
  applyStatus : ApplyStatus
  branchId : Option Identifier
  checkpointId : Option Identifier
  effectiveFromState : Option String
  deriving DecidableEq, Repr

/-- An entry of `state_bindings`; `fallback_model` is always null. -/
structure StateBinding where
  state : WorkflowState
  modelRole : String
  provider : Identifier
  model : String
  parameters : List (String × String)
  deriving DecidableEq, Repr

/-- `model_config.yaml`. -/
structure ModelDocument where
  modelConfigId : String
  stateBindings : List StateBinding
  deriving DecidableEq, Repr

/-- The files of an instance revision: `manifest.json`, `runtime.yaml`, `model_config.yaml`. -/
structure InstanceBundle where
  manifest : InstanceManifest
  runtime : EffectiveRuntime
  modelConfig : ModelDocument
  deriving DecidableEq, Repr

/-- `InstanceRuntimeConfigState` (`instance-runtime-config-state-v2.0.schema.json`). -/
structure InstanceConfigState where
  currentRevision : Nat
  pendingRevision : Option Nat
  revision : Nat
  createdAt : Timestamp
  updatedAt : Timestamp
  deriving DecidableEq, Repr

instance : Revised TaskConfigRevision TaskConfigState where
  number := TaskConfigRevision.sequence
  parent := TaskConfigRevision.parent
  pointer := TaskConfigState.currentRevision

instance : Revised InstanceBundle InstanceConfigState where
  number bundle := bundle.manifest.sequence
  parent bundle := bundle.manifest.parent
  pointer := InstanceConfigState.currentRevision

/-- The configuration directory of a task, with its snapshot of the 1.0 format if it has one. -/
abbrev TaskConfigFiles := Revisions TaskConfigRevision TaskConfigState

/-- The runtime configuration directory of an instance. -/
abbrev InstanceConfigFiles := Revisions InstanceBundle InstanceConfigState

/-- `f"{sequence:06d}"`. -/
def sixDigits (sequence : Nat) : String :=
  let digits := (toString sequence).toList
  String.ofList (List.replicate (6 - digits.length) '0' ++ digits)

def taskRevisionId (sequence : Nat) : String := "task-config-r" ++ sixDigits sequence

def instanceRevisionId (sequence : Nat) : String := "cfg-inst-r" ++ sixDigits sequence

/-- `^task-config-r[0-9]{6}$` and `^cfg-inst-r[0-9]{6}$`. -/
def revisionIdAccepted (sequence : Nat) : Bool := decide (sequence ≤ 999999)

/-- `_integrity(message)`. -/
def configIntegrity (message : String) : Raised :=
  .harness ⟨.configIntegrityFailed, message, []⟩

/-- `read_regular_bytes` of a file that does not exist (`config_revision_io.py:174-188`). -/
def missingConfigFile (file : String) : Raised :=
  .harness ⟨.configIntegrityFailed, "A configuration revision file is missing or unsafe.",
    [("file", .text file)]⟩

def settingsConflict (message : String) (details : List (String × Detail)) : Raised :=
  .harness ⟨.settingsRevisionConflict, message, details⟩

def optionalText (value : Option String) : Detail := value.elim .null .text

/-! ## The revisions of a task -/

/-- What `read_current` of the task store returns; `legacy` is a snapshot of the 1.0 format. -/
structure CurrentTaskConfig where
  state : TaskConfigState
  revision : TaskConfigRevision
  legacy : Bool
  deriving DecidableEq, Repr

/-- `TaskConfigRevisionStore.read_revision` (`task_config_revisions.py:107-121`). -/
def readTaskRevision (sequence : Nat) (files : TaskConfigFiles) : Outcome TaskConfigRevision :=
  match files.slots.lookup sequence with
  | some document => do
      ensure (document.sequence = sequence)
        (configIntegrity "The task configuration revision identity is inconsistent.")
      ensure (document.parent ≠ some sequence)
        (configIntegrity "A task configuration revision cannot be its own parent.")
      return document
  | none =>
      match if sequence = 1 then files.legacy else none with
      | some legacy => .ok legacy.2
      | none => .error (missingConfigFile (taskRevisionId sequence ++ ".json"))

/-- `TaskConfigRevisionStore.read_current` (`task_config_revisions.py:91-105`). -/
def currentTaskConfig (files : TaskConfigFiles) : Outcome (Option CurrentTaskConfig) :=
  match files.state with
  | none => .ok (files.legacy.map fun legacy => ⟨legacy.1, legacy.2, true⟩)
  | some state => do
      let revision ← readTaskRevision state.currentRevision files
      ensure (state.sourceSystemRevision = revision.sourceSystemRevision)
        (configIntegrity "The task configuration state source revision is inconsistent.")
      return some ⟨state, revision, false⟩

/-- `_validate_pair` (`task_config_revisions.py:283-302`). -/
def validatePair (revision : TaskConfigRevision) (state : TaskConfigState) : Outcome Unit := do
  ensure (state.currentRevision = revision.sequence) (.harness ⟨.validationError,
    "The task configuration state points to another revision.", []⟩)
  ensure (state.sourceSystemRevision = revision.sourceSystemRevision) (.harness
    ⟨.validationError, "The task configuration source revision is inconsistent.", []⟩)
  ensure (revision.parent ≠ some revision.sequence) (.harness ⟨.validationError,
    "A task configuration revision cannot be its own parent.", []⟩)

def validateTaskConfigState (state : TaskConfigState) : Outcome Unit :=
  validateContract "task-config-state" (revisionIdAccepted state.currentRevision &&
    decide (1 ≤ state.revision) && state.lockedAt.isSome == state.lockedReason.isSome)

abbrev TaskConfigScript (α : Type) :=
  Script TaskConfigFiles (RevisionWrite TaskConfigRevision TaskConfigState) Raised α

/-- The checks of `commit` against the current pair (`task_config_revisions.py:63-88`). -/
def checkCommit (revision : TaskConfigRevision) (state : TaskConfigState) (expected : Nat)
    (current : Option CurrentTaskConfig) : Outcome Unit := do
  let currentNumber := current.elim 0 fun current => current.state.revision
  ensure (currentNumber = expected) (settingsConflict
    "The task configuration state changed after it was read."
    [("expected_revision", .number expected), ("actual_revision", .number currentNumber)])
  ensure (state.revision = expected + 1) (settingsConflict
    "The next task configuration state revision is not consecutive."
    [("expected_revision", .number (expected + 1))])
  let expectedParent := current.map fun current => current.revision.sequence
  ensure (revision.parent = expectedParent) (settingsConflict
    "The task configuration revision parent is stale."
    [("expected_parent_revision_id", optionalText (expectedParent.map taskRevisionId))])
  let nextSequence := expectedParent.elim 1 fun parent => parent + 1
  ensure (revision.sequence = nextSequence) (settingsConflict
    "The next task configuration revision ID is not consecutive."
    [("expected_revision_id", .text (taskRevisionId nextSequence))])

/-- The conflict of `_write_immutable_revision` (`task_config_revisions.py:225-242`). -/
def taskRevisionReused (sequence : Nat) : Raised :=
  settingsConflict "An immutable task configuration revision ID was reused."
    [("revision_id", .text (taskRevisionId sequence))]

/-- `TaskConfigRevisionStore.commit` (`task_config_revisions.py:49-89`). -/
def commitTaskRevision (revision : TaskConfigRevision) (state : TaskConfigState)
    (expected : Nat) : TaskConfigScript CurrentTaskConfig := do
  Script.lift (validateContract "task-config-revision" (revisionIdAccepted revision.sequence))
  Script.lift (validateTaskConfigState state)
  Script.lift (validatePair revision state)
  let current ← Script.read currentTaskConfig
  let current ← Script.lift current
  Script.lift (checkCommit revision state expected current)
  publishOnce (taskRevisionReused revision.sequence) revision.sequence revision
  Script.write (.point state)
  return ⟨state, revision, false⟩

/-- `lock_current` (`task_config_revisions.py:123-159`). -/
def lockCurrent (lockedAt : Timestamp) (lockedReason : String) :
    TaskConfigScript TaskConfigState := do
  let current ← Script.read currentTaskConfig
  match ← Script.lift current with
  | none =>
      Script.raise
        (configIntegrity "The task configuration cannot be locked before it is pinned.")
  | some current =>
      if current.state.lockedAt.isSome then
        return current.state
      else do
        let updated : TaskConfigState :=
          { current.state with
            lockedAt := some lockedAt
            lockedReason := some lockedReason
            revision := current.state.revision + 1
            updatedAt := lockedAt }
        Script.lift (validateTaskConfigState updated)
        Script.write (.point updated)
        return updated

/-- The walk over the parents in `recover`.  A revision that is met again raises; the bound is
    past the number of files, so a walk that reaches it has met one. -/
def referencedRevisions (files : TaskConfigFiles) :
    Nat → List Nat → Option TaskConfigRevision → Outcome (List Nat)
  | _, referenced, none => .ok referenced
  | 0, _, some _ =>
      .error (configIntegrity "The task configuration revision ancestry contains a cycle.")
  | bound + 1, referenced, some cursor =>
      if cursor.sequence ∈ referenced then
        .error (configIntegrity "The task configuration revision ancestry contains a cycle.")
      else do
        let parent ← match cursor.parent with
          | none => pure none
          | some parent => do
              let revision ← readTaskRevision parent files
              pure (some revision)
        referencedRevisions files bound (cursor.sequence :: referenced) parent

/-- What `TaskConfigRevisionStore.recover` reports (`task_config_revisions.py:161-195`).  It
    removes the temporary files of interrupted replacements, which nothing else reads, and leaves
    the revisions alone. -/
structure ConfigRecovery where
  currentRevision : Option Nat
  unreferenced : List Nat
  deriving DecidableEq, Repr

def recoverTaskConfig (files : TaskConfigFiles) : Outcome ConfigRecovery := do
  let current ← currentTaskConfig files
  let present := files.slots.keys.insertionSort (· ≤ ·)
  let referenced ← referencedRevisions files (present.length + 2) []
    (current.map CurrentTaskConfig.revision)
  return ⟨current.map fun current => current.revision.sequence,
    present.filter fun sequence => decide (sequence ∉ referenced)⟩

/-- What `read_current` of the instance store returns. -/
structure CurrentInstanceConfig where
  state : InstanceConfigState
  bundle : InstanceBundle
  legacy : Bool
  deriving DecidableEq, Repr

/-- `InstanceConfigRevisionStore.read_revision` (`instance_config_revisions.py:361-391`). -/
def readInstanceRevision (sequence : Nat) (files : InstanceConfigFiles) :
    Outcome InstanceBundle :=
  match files.slots.lookup sequence with
  | some document => do
      ensure (document.manifest.sequence = sequence)
        (configIntegrity "The instance configuration revision identity is inconsistent.")
      ensure (document.manifest.parent ≠ some sequence)
        (configIntegrity "An instance configuration revision cannot be its own parent.")
      return document
  | none =>
      match if sequence = 1 then files.legacy else none with
      | some legacy => .ok legacy.2
      | none => .error (missingConfigFile "manifest.json")

/-- `InstanceConfigRevisionStore.read_current` (`instance_config_revisions.py:335-359`).  The
    receipts of remote applications are left out: no modelled writer makes a revision current
    that needs one. -/
def currentInstanceConfig (files : InstanceConfigFiles) :
    Outcome (Option CurrentInstanceConfig) :=
  match files.state with
  | none => .ok (files.legacy.map fun legacy => ⟨legacy.1, legacy.2, true⟩)
  | some state => do
      let bundle ← readInstanceRevision state.currentRevision files
      ensure (bundle.manifest.applyStatus = .applied)
        (configIntegrity "The active instance configuration revision is not applied.")
      match state.pendingRevision with
      | none => return some ⟨state, bundle, false⟩
      | some pending => do
          ensure (pending ≠ state.currentRevision)
            (configIntegrity "The pending instance revision is already current.")
          let _ ← readInstanceRevision pending files
          return some ⟨state, bundle, false⟩

abbrev InstanceConfigScript (α : Type) :=
  Script InstanceConfigFiles (RevisionWrite InstanceBundle InstanceConfigState) Raised α

/-- The conflict of `_verify_existing_directory` (`config_revision_io.py:271-291`). -/
def instanceRevisionReused (sequence : Nat) : Raised :=
  settingsConflict "An immutable configuration revision ID was reused with different content."
    [("revision_id", .text (instanceRevisionId sequence))]

/-- `manifest` passes its contract. -/
def validateManifest (manifest : InstanceManifest) : Outcome Unit :=
  validateContract "instance-runtime-config-manifest" (revisionIdAccepted manifest.sequence &&
    (manifest.applyStatus == .draft) == manifest.confirmedAt.isNone)

/-- `InstanceConfigRevisionStore.write_revision` (`instance_config_revisions.py:52-101`). -/
def writeInstanceRevision (bundle : InstanceBundle) : InstanceConfigScript InstanceBundle := do
  Script.lift (validateManifest bundle.manifest)
  Script.lift (ensure (bundle.manifest.parent ≠ some bundle.manifest.sequence)
    (.harness ⟨.validationError,
      "A runtime configuration revision cannot be its own parent.", []⟩))
  publishOnce (instanceRevisionReused bundle.manifest.sequence) bundle.manifest.sequence bundle
  return bundle

/-- `InstanceConfigRevisionStore.set_current` without a receipt
    (`instance_config_revisions.py:122-188`). -/
def setCurrent (sequence expected : Nat) (updatedAt : Timestamp) :
    InstanceConfigScript InstanceConfigState := do
  let current ← Script.read currentInstanceConfig
  let current ← Script.lift current
  let currentNumber := current.elim 0 fun current => current.state.revision
  Script.lift (ensure (currentNumber = expected) (settingsConflict
    "The instance configuration state changed after it was read."
    [("expected_revision", .number expected), ("actual_revision", .number currentNumber)]))
  let target ← Script.read (readInstanceRevision sequence)
  let target ← Script.lift target
  Script.lift (ensure (target.manifest.applyStatus = .applied) (.harness
    ⟨.invalidStateTransition, "Only an applied configuration revision may become current.",
      [("revision_id", .text (instanceRevisionId sequence))]⟩))
  let expectedParent := current.map fun current => current.bundle.manifest.sequence
  Script.lift (ensure (target.manifest.parent = expectedParent) (settingsConflict
    "The instance configuration revision parent is stale."
    [("expected_parent_revision_id", optionalText (expectedParent.map instanceRevisionId))]))
  let state : InstanceConfigState :=
    { currentRevision := sequence
      pendingRevision := none
      revision := expected + 1
      createdAt := current.elim updatedAt fun current => current.state.createdAt
      updatedAt := updatedAt }
  Script.write (.point state)
  return state

end DesignHarness
