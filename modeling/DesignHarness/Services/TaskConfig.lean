import DesignHarness.Library.Parts
import DesignHarness.Services.AgentConfig

/-!
# Pinning, rebasing and materializing configurations

`TaskConfigService` (`task_config.py`), `ImageAgentConfigMaterializer.materialize`
(`agent_config_materialization.py`) and `TaskConfigRebaseService` (`task_config_rebase.py`) over
the configuration directories of tasks and instances and the records they consult.  Every call
runs under the lock of its task and reads the clock once.  The metrics and the event log of the
rebase service are left out.
-/

namespace DesignHarness

open Library

/-! ## The disk -/

/-- An intent of the start coordinator, as `instance_has_launch_evidence` reads it. -/
inductive StartIntent where
  | readyInstances (targets : List Identifier)
  | single (instanceId : Identifier)
  deriving DecidableEq, Repr

/-- An entry of `conflicts`. -/
structure ConfigConflict where
  instanceId : Identifier
  code : ErrorCode
  field : String
  deriving DecidableEq, Repr

/-- `review-required.json`. -/
structure ConfigReview where
  currentRevision : Nat
  targetSystemRevision : Identifier
  conflicts : List ConfigConflict
  actor : Actor
  updatedAt : Timestamp
  deriving DecidableEq, Repr

/-- What the configuration services read and write of the other records of a task. -/
structure TaskRecord where
  created : Bool := false
  plan : Option (List AgentInstance) := none
  instances : List AgentInstance := []
  launches : List Identifier := []
  intents : List StartIntent := []
  review : Option ConfigReview := none

inductive TaskRecordWrite where
  | configRevision (instanceId : Identifier) (sequence : Nat)
  | review (review : Option ConfigReview)

/-- `config_revision` of one instance. -/
def setConfigRevision (instanceId : Identifier) (sequence : Nat) (item : AgentInstance) :
    AgentInstance :=
  if item.instanceId = instanceId then { item with configRevision := sequence } else item

/-- `update_instance_fields` sets the field in the plan and in the snapshot of the instance; its
    own commits are in `updateInstanceFields`. -/
instance : Disk TaskRecord TaskRecordWrite where
  apply record
    | .configRevision instanceId sequence =>
        { record with
          plan := record.plan.map (List.map (setConfigRevision instanceId sequence))
          instances := record.instances.map (setConfigRevision instanceId sequence) }
    | .review review => { record with review := review }
  tear record _ := record

/-- The directories: the configuration of a task, that of an instance, the other records. -/
inductive ConfigPart where
  | task (taskId : Identifier)
  | agentInstance (taskId instanceId : Identifier)
  | record (taskId : Identifier)
  deriving DecidableEq

abbrev ConfigFiles : ConfigPart → Type
  | .task _ => TaskConfigFiles
  | .agentInstance _ _ => InstanceConfigFiles
  | .record _ => TaskRecord

abbrev ConfigWrites : ConfigPart → Type
  | .task _ => RevisionWrite TaskConfigRevision TaskConfigState
  | .agentInstance _ _ => RevisionWrite InstanceBundle InstanceConfigState
  | .record _ => TaskRecordWrite

instance (part : ConfigPart) : Disk (ConfigFiles part) (ConfigWrites part) :=
  match part with
  | .task _ => inferInstanceAs (Disk TaskConfigFiles _)
  | .agentInstance _ _ => inferInstanceAs (Disk InstanceConfigFiles _)
  | .record _ => inferInstanceAs (Disk TaskRecord _)

abbrev ConfigDisk := (part : ConfigPart) → ConfigFiles part

namespace ConfigDisk

variable (disk : ConfigDisk) (taskId instanceId : Identifier)

def task : TaskConfigFiles := disk (.task taskId)

def agentInstance : InstanceConfigFiles := disk (.agentInstance taskId instanceId)

def record : TaskRecord := disk (.record taskId)

def withTask (files : TaskConfigFiles) : ConfigDisk := Function.update disk (.task taskId) files

def withInstance (files : InstanceConfigFiles) : ConfigDisk :=
  Function.update disk (.agentInstance taskId instanceId) files

def withRecord (record : TaskRecord) : ConfigDisk :=
  Function.update disk (.record taskId) record

variable {disk taskId instanceId} {otherTask otherInstance : Identifier}
  {taskFiles : TaskConfigFiles} {files : InstanceConfigFiles} {newRecord : TaskRecord}

@[simp] theorem task_withTask : (disk.withTask taskId taskFiles).task taskId = taskFiles :=
  Function.update_self ..

theorem task_withTask_ne (different : otherTask ≠ taskId) :
    (disk.withTask taskId taskFiles).task otherTask = disk.task otherTask := by
  have apart : ConfigPart.task otherTask ≠ .task taskId := by simpa using different
  exact Function.update_of_ne apart taskFiles disk

@[simp] theorem agentInstance_withTask :
    (disk.withTask taskId taskFiles).agentInstance otherTask otherInstance =
      disk.agentInstance otherTask otherInstance := by
  have apart : ConfigPart.agentInstance otherTask otherInstance ≠ .task taskId := by simp
  exact Function.update_of_ne apart taskFiles disk

@[simp] theorem record_withTask :
    (disk.withTask taskId taskFiles).record otherTask = disk.record otherTask := by
  have apart : ConfigPart.record otherTask ≠ .task taskId := by simp
  exact Function.update_of_ne apart taskFiles disk

@[simp] theorem task_withInstance :
    (disk.withInstance taskId instanceId files).task otherTask = disk.task otherTask := by
  have apart : ConfigPart.task otherTask ≠ .agentInstance taskId instanceId := by simp
  exact Function.update_of_ne apart files disk

@[simp] theorem agentInstance_withInstance :
    (disk.withInstance taskId instanceId files).agentInstance taskId instanceId = files :=
  Function.update_self ..

theorem agentInstance_withInstance_ne
    (different : ¬ (otherTask = taskId ∧ otherInstance = instanceId)) :
    (disk.withInstance taskId instanceId files).agentInstance otherTask otherInstance =
      disk.agentInstance otherTask otherInstance := by
  have apart : ConfigPart.agentInstance otherTask otherInstance ≠ .agentInstance taskId instanceId := by
    simpa using different
  exact Function.update_of_ne apart files disk

@[simp] theorem record_withInstance :
    (disk.withInstance taskId instanceId files).record otherTask = disk.record otherTask := by
  have apart : ConfigPart.record otherTask ≠ .agentInstance taskId instanceId := by simp
  exact Function.update_of_ne apart files disk

@[simp] theorem task_withRecord :
    (disk.withRecord taskId newRecord).task otherTask = disk.task otherTask := by
  have apart : ConfigPart.task otherTask ≠ .record taskId := by simp
  exact Function.update_of_ne apart newRecord disk

@[simp] theorem agentInstance_withRecord :
    (disk.withRecord taskId newRecord).agentInstance otherTask otherInstance =
      disk.agentInstance otherTask otherInstance := by
  have apart : ConfigPart.agentInstance otherTask otherInstance ≠ .record taskId := by simp
  exact Function.update_of_ne apart newRecord disk

@[simp] theorem record_withRecord : (disk.withRecord taskId newRecord).record taskId = newRecord :=
  Function.update_self ..

theorem record_withRecord_ne (different : otherTask ≠ taskId) :
    (disk.withRecord taskId newRecord).record otherTask = disk.record otherTask := by
  have apart : ConfigPart.record otherTask ≠ .record taskId := by simpa using different
  exact Function.update_of_ne apart newRecord disk

@[simp] theorem withTask_self : disk.withTask taskId (disk.task taskId) = disk :=
  Function.update_eq_self ..

@[simp] theorem withTask_withTask {newer : TaskConfigFiles} :
    (disk.withTask taskId taskFiles).withTask taskId newer = disk.withTask taskId newer :=
  Function.update_idem ..

@[simp] theorem withInstance_self :
    disk.withInstance taskId instanceId (disk.agentInstance taskId instanceId) = disk :=
  Function.update_eq_self ..

@[simp] theorem withInstance_withInstance {newer : InstanceConfigFiles} :
    (disk.withInstance taskId instanceId files).withInstance taskId instanceId newer =
      disk.withInstance taskId instanceId newer :=
  Function.update_idem ..

end ConfigDisk

abbrev ConfigScript (α : Type) := Script ConfigDisk (PartWrite ConfigWrites) Raised α

/-- `_STARTED_STATUSES` (`runtime_config_state.py:13-26`). -/
def InstanceStatus.isStarted : InstanceStatus → Bool
  | starting | running | waitingApproval | failedToStart | succeeded | failed | crashed
  | cancelled | superseded | archived => true
  | created | ready | unavailable | stopped => false

/-- `instance_has_launch_evidence` (`runtime_config_state.py:34-66`). -/
def TaskRecord.hasLaunchEvidence (record : TaskRecord) (item : AgentInstance) : Bool :=
  item.process.isSome || item.status.isStarted || record.launches.contains item.instanceId ||
    record.intents.any fun
      | .readyInstances targets => targets.contains item.instanceId
      | .single instanceId => instanceId == item.instanceId

/-- `task_has_launch_evidence` (`runtime_config_state.py:92-102`). -/
def TaskRecord.isLaunched (record : TaskRecord) : Bool :=
  (record.plan.getD record.instances).any record.hasLaunchEvidence

/-- `is_unstarted_image_instance` (`runtime_config_state.py:105-120`). -/
def TaskRecord.isUnstarted (record : TaskRecord) (taskId : Identifier)
    (item : AgentInstance) : Bool :=
  item.taskId == taskId && item.agentType == .image && !record.hasLaunchEvidence item

/-- `targets` of `_rebase_one`. -/
def TaskRecord.targets (record : TaskRecord) (taskId : Identifier) : List AgentInstance :=
  (record.plan.getD []).filter (record.isUnstarted taskId)

section

variable (process : Option ConfigSnapshot) (now : Timestamp)

/-- The revision that a process configuration makes. -/
def buildTaskRevision (config : ConfigSnapshot) (sequence : Nat) (parent : Option Nat)
    (createdBy : Actor) : TaskConfigRevision where
  sequence := sequence
  parent := parent
  sourceSystemRevision := config.revision
  providerIds := config.providers.insertionSort (· ≤ ·)
  modelList := config.modelList
  runtime := config.runtime
  createdBy := createdBy
  createdAt := now

/-- The revision that `_pin` commits (`task_config.py:57-67`). -/
def pinRevision (config : ConfigSnapshot) : TaskConfigRevision :=
  buildTaskRevision now config 1 none ⟨.system, "task_config_service"⟩

/-- The state that `_pin` commits (`task_config.py:68-78`). -/
def pinState (config : ConfigSnapshot) : TaskConfigState where
  currentRevision := 1
  sourceSystemRevision := config.revision
  lockedAt := none
  lockedReason := none
  revision := 1
  createdAt := now
  updatedAt := now

/-- The revision that `rebase` commits (`task_config.py:122-134`). -/
def rebaseRevision (config : ConfigSnapshot) (current : TaskConfigRevision)
    (createdBy : Actor) : TaskConfigRevision :=
  buildTaskRevision now config (current.sequence + 1) (some current.sequence) createdBy

/-- The state that `rebase` commits (`task_config.py:135-141`). -/
def rebaseState (config : ConfigSnapshot) (current : CurrentTaskConfig) : TaskConfigState :=
  { current.state with
    currentRevision := current.revision.sequence + 1
    sourceSystemRevision := config.revision
    revision := current.state.revision + 1
    updatedAt := now }

/-- `TaskConfigRevisionStore.read_current`. -/
def readTaskConfig (taskId : Identifier) : ConfigScript (Option CurrentTaskConfig) := do
  let current ← Script.read fun disk : ConfigDisk => currentTaskConfig (disk.task taskId)
  Script.lift current

/-- `{"REVISION_CONFLICT", "SETTINGS_REVISION_CONFLICT"}`. -/
def Raised.isRevisionConflict : Raised → Bool
  | .harness error => error.code = .revisionConflict || error.code = .settingsRevisionConflict
  | _ => false

/-- `_pin` (`task_config.py:48-92`). -/
def pin (requireTask : Bool) (taskId : Identifier) : ConfigScript CurrentTaskConfig := do
  let created ← Script.read fun disk : ConfigDisk => (disk.record taskId).created
  Script.lift (ensure (requireTask = true → created = true)
    (.harness ⟨.taskNotFound, "The requested task does not exist.", []⟩))
  match ← readTaskConfig taskId with
  | some current => return current
  | none => do
      let config ← Script.lift (requireProcessSnapshot process)
      Script.rescue
        ((commitTaskRevision (pinRevision now config) (pinState now config) 0).on (.task taskId))
        fun error =>
          if error.isRevisionConflict then do
            match ← readTaskConfig taskId with
            | some committed => return committed
            | none => Script.raise error
          else
            Script.raise error

/-- `get_current` (`task_config.py:205-211`). -/
def getCurrent (taskId : Identifier) : ConfigScript CurrentTaskConfig := do
  match ← readTaskConfig taskId with
  | some current => return current
  | none => do
      let _ ← pin process now true taskId
      match ← readTaskConfig taskId with
      | some current => return current
      | none => Script.raise .assertionError

/-- `TaskConfigService.rebase` (`task_config.py:94-148`). -/
def rebase (taskId : Identifier) (createdBy : Actor) : ConfigScript CurrentTaskConfig := do
  let current ← getCurrent process now taskId
  Script.lift (ensure (current.state.lockedAt = none) (.harness ⟨.instanceConfigLocked,
    "The task configuration baseline was locked by an accepted start.",
    [("task_id", .text taskId)]⟩))
  let config ← Script.lift (requireProcessSnapshot process)
  if current.revision.sourceSystemRevision = config.revision then
    return current
  else
    (commitTaskRevision (rebaseRevision now config current.revision createdBy)
      (rebaseState now config current) current.state.revision).on (.task taskId)

/-- `lock_for_start` (`task_config.py:150-163`). -/
def lockForStart (taskId : Identifier) (reason : String) : ConfigScript TaskConfigState := do
  let _ ← pin process now true taskId
  (lockCurrent now reason).on (.task taskId)

/-- `InstanceConfigRevisionStore.read_current`. -/
def readInstanceConfig (taskId instanceId : Identifier) :
    ConfigScript (Option CurrentInstanceConfig) := do
  let current ← Script.read fun disk : ConfigDisk =>
    currentInstanceConfig (disk.agentInstance taskId instanceId)
  Script.lift current

/-- `build_revision` (`agent_config_materialization.py:169-230`). -/
def buildRevision (taskId instanceId : Identifier) (overrides : RuntimeOverrides)
    (createdBy : Actor) (requireCurrentApproval : Bool) : ConfigScript InstanceBundle := do
  let current ← readInstanceConfig taskId instanceId
  let parent := current.map fun current => current.bundle.manifest.sequence
  let task ← getCurrent process now taskId
  Script.lift
    (buildBundle process task.revision overrides requireCurrentApproval ⟨createdBy, now, parent⟩)

/-- Publish a bundle and make it current. -/
def publishBundle (taskId instanceId : Identifier) (bundle : InstanceBundle) (expected : Nat) :
    ConfigScript InstanceConfigState := do
  let _ ← (writeInstanceRevision bundle).on (.agentInstance taskId instanceId)
  (setCurrent bundle.manifest.sequence expected bundle.manifest.createdAt).on
    (.agentInstance taskId instanceId)

/-- The end of `materialize`: the revision of the task that the bundle was built from is read. -/
def launchConfig (taskId : Identifier) (current : CurrentInstanceConfig) :
    ConfigScript CurrentInstanceConfig := do
  let revision ← Script.read fun disk : ConfigDisk =>
    readTaskRevision current.bundle.manifest.taskConfigRevision (disk.task taskId)
  let _ ← Script.lift revision
  return current

/-- `materialize` (`agent_config_materialization.py:87-166`). -/
def materialize (taskId instanceId : Identifier) : ConfigScript CurrentInstanceConfig := do
  match ← readInstanceConfig taskId instanceId with
  | some current => launchConfig taskId current
  | none => do
      let bundle ← buildRevision process now taskId instanceId {}
        ⟨.system, "image_config_materializer"⟩ false
      let _ ← publishBundle taskId instanceId bundle 0
      match ← readInstanceConfig taskId instanceId with
      | some current => launchConfig taskId current
      | none => Script.raise .assertionError

/-! ## Rebasing the tasks that have not started -/

/-- `_candidate_task_revision` (`task_config_rebase.py:140-163`). -/
def candidateTaskRevision (config : ConfigSnapshot) (current : TaskConfigRevision) :
    TaskConfigRevision :=
  let origin : Actor := ⟨.system, "task_config_rebase_preview"⟩
  if current.sourceSystemRevision = config.revision then
    buildTaskRevision now config current.sequence current.parent origin
  else
    buildTaskRevision now config (current.sequence + 1) (some current.sequence) origin

/-- The conflict that `_preflight_overrides` makes of an error, if it is about a model. -/
def modelConflict (instanceId : Identifier) : Raised → Option ConfigConflict
  | .harness error =>
      if error.code = .modelNotApproved ∨ error.code = .modelProviderNotAuthorized then
        let state := match error.details.lookup "state" with
          | some (.text state) => state
          | _ => "advanced_model_overrides"
        some ⟨instanceId, error.code, "advanced_model_overrides." ++ state⟩
      else
        none
  | _ => none

/-- The body of the loop of `_preflight_overrides`. -/
def preflightInstance (taskId : Identifier) (candidate : TaskConfigRevision)
    (instanceId : Identifier) : ConfigScript (List ConfigConflict) := do
  let current ← readInstanceConfig taskId instanceId
  let overrides := current.elim {} fun current => current.bundle.manifest.overrides
  match validateOverrides process candidate overrides true with
  | .ok () => return []
  | .error error =>
      match modelConflict instanceId error with
      | some conflict => return [conflict]
      | none => Script.raise error

/-- `_preflight_overrides` (`task_config_rebase.py:165-194`). -/
def preflightOverrides (taskId : Identifier) (candidate : TaskConfigRevision) :
    List AgentInstance → ConfigScript (List ConfigConflict)
  | [] => return []
  | item :: rest => do
      let conflict ← preflightInstance process taskId candidate item.instanceId
      let conflicts ← preflightOverrides taskId candidate rest
      return conflict ++ conflicts

/-- `_reconcile_instance_projection` (`task_config_rebase.py:249-277`). -/
def reconcileInstanceProjection (taskId instanceId : Identifier) (sequence : Nat) :
    ConfigScript Bool := do
  let record ← Script.read fun disk : ConfigDisk => disk.record taskId
  match record.instances.find? fun item => item.instanceId = instanceId with
  | none =>
      Script.raise (.harness ⟨.instanceNotFound,
        "The rebased runtime configuration lost its instance projection.",
        [("instance_id", .text instanceId)]⟩)
  | some item =>
      if item.configRevision = sequence then
        return false
      else do
        Script.write ⟨.record taskId, .configRevision instanceId sequence⟩
        return true

/-- The body of the loop of `_rebase_instances` for an instance that has a revision. -/
def renewInstance (taskId : Identifier) (target : Nat) (actor : Actor)
    (updated : List Identifier) (instanceId : Identifier) (current : CurrentInstanceConfig) :
    ConfigScript (List Identifier) := do
  let manifest := current.bundle.manifest
  if manifest.taskConfigRevision = target then do
    let changed ← reconcileInstanceProjection taskId instanceId manifest.sequence
    return if changed = true ∧ instanceId ∉ updated then updated ++ [instanceId] else updated
  else do
    Script.lift (ensure (current.state.pendingRevision = none) (settingsConflict
      "An unstarted instance has a pending runtime configuration revision."
      [("instance_id", .text instanceId)]))
    let bundle ← buildRevision process now taskId instanceId manifest.overrides actor true
    let _ ← publishBundle taskId instanceId bundle current.state.revision
    let _ ← reconcileInstanceProjection taskId instanceId bundle.manifest.sequence
    return updated ++ [instanceId]

/-- The body of the loop of `_rebase_instances`. -/
def rebaseInstance (taskId : Identifier) (target : Nat) (actor : Actor)
    (updated : List Identifier) (instanceId : Identifier) : ConfigScript (List Identifier) := do
  match ← readInstanceConfig taskId instanceId with
  | some current => renewInstance process now taskId target actor updated instanceId current
  | none => do
      let _ ← materialize process now taskId instanceId
      match ← readInstanceConfig taskId instanceId with
      | some current =>
          renewInstance process now taskId target actor (updated ++ [instanceId]) instanceId current
      | none => Script.raise .assertionError

/-- The loop of `_rebase_instances` (`task_config_rebase.py:196-247`). -/
def rebaseInstances (taskId : Identifier) (target : Nat) (actor : Actor) :
    List AgentInstance → List Identifier → ConfigScript (List Identifier)
  | [], updated => return updated
  | item :: rest, updated => do
      let updated ← rebaseInstance process now taskId target actor updated item.instanceId
      rebaseInstances taskId target actor rest updated

/-- What `_rebase_one` reports. -/
inductive RebaseItem where
  | skippedStarted (taskId : Identifier)
  | reviewRequired (taskId : Identifier) (conflicts : List ConfigConflict)
  | unchanged (taskId : Identifier)
  | updated (taskId : Identifier) (revision : Nat) (instanceIds : List Identifier)
  deriving DecidableEq, Repr

/-- `_rebase_one` (`task_config_rebase.py:70-138`). -/
def rebaseOne (actor : Actor) (taskId : Identifier) : ConfigScript RebaseItem := do
  let current ← getCurrent process now taskId
  let record ← Script.read fun disk : ConfigDisk => disk.record taskId
  if current.state.lockedAt.isSome || record.isLaunched then
    return .skippedStarted taskId
  else do
    let targets := record.targets taskId
    let config ← Script.lift (requireProcessSnapshot process)
    let candidate := candidateTaskRevision now config current.revision
    let conflicts ← preflightOverrides process taskId candidate targets
    if conflicts ≠ [] then do
      Script.write ⟨.record taskId, .review
        (some ⟨current.revision.sequence, config.revision, conflicts, actor, now⟩)⟩
      return .reviewRequired taskId conflicts
    else do
      let rebased ← rebase process now taskId actor
      let target ← getCurrent process now taskId
      let updates ← rebaseInstances process now taskId target.revision.sequence actor targets []
      Script.write ⟨.record taskId, .review none⟩
      if current.revision.sourceSystemRevision = config.revision ∧ updates = [] then
        return .unchanged taskId
      else
        return .updated taskId rebased.revision.sequence updates

/-- The loop of `rebase_all`. -/
def rebaseEach (actor : Actor) : List Identifier → ConfigScript (List RebaseItem)
  | [] => return []
  | taskId :: rest => do
      let item ← rebaseOne process now actor taskId
      let items ← rebaseEach actor rest
      return item :: items

/-- `rebase_all` (`task_config_rebase.py:38-68`) over the task directories in their order. -/
def rebaseAll (actor : Actor) (taskIds : List Identifier) :
    ConfigScript (Identifier × List RebaseItem) := do
  Script.lift (ensure (actor.actorType = .human ∨ actor.actorType = .system) (.harness
    ⟨.validationError,
      "Only a human or the system may publish task configuration defaults.", []⟩))
  let items ← rebaseEach process now actor taskIds
  let config ← Script.lift (requireProcessSnapshot process)
  return (config.revision, items)

end

end DesignHarness
