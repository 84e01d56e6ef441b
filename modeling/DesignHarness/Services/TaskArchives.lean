import DesignHarness.Services.StatusRecordings
import DesignHarness.Library.Script
import Mathlib.Data.List.MinMax
import Mathlib.Data.String.Basic

/-!
# Archiving and resuming a task

`archive_task` and `resume_task` (`application.py:790-1011` and `1083-1368`) are operations with a
durable intent each: an archive records the status of every live instance, suspends the instances
one by one and then archives the task; a resume wakes the instances of the last archive and restores
the recorded statuses in one command.  Either may stop between any two writes and be run again, by
the same call or at startup.
-/

namespace DesignHarness

open Library

/-- What an archive recorded of an instance: `target_instances`, and with it the snapshot's
    `stopped_instance_ids` and `instance_statuses`. -/
structure ArchiveTarget where
  instanceId : Identifier
  initialStatus : InstanceStatus
  deriving DecidableEq, Repr

/-- `snapshot` of an intent. -/
structure ArchiveSnapshot where
  preArchiveStatus : TaskStatus
  targets : List ArchiveTarget
  deriving DecidableEq, Repr

/-- The `request` of an archive. -/
structure ArchiveRequest where
  envelope : CommandEnvelope
  drainTimeoutSeconds : Nat
  force : Bool
  deriving DecidableEq, Repr

/-- `instance_progress` of an archive. -/
inductive ArchiveProgress where
  | pending
  | stopping
  | stopped
  deriving DecidableEq, Repr

/-- What an archive returns; a replayed command comes without a snapshot. -/
structure ArchiveResult where
  result : CommandResult
  snapshot : Option ArchiveSnapshot
  deriving DecidableEq, Repr

/-- `state` of an archive, with what goes with it. -/
inductive ArchiveState where
  | prepared
  | aborted (error : HarnessError)
  | committed (committedAt : Timestamp) (result : ArchiveResult)
  deriving DecidableEq, Repr

/-- An intent of kind `ARCHIVE_TASK`. -/
structure ArchiveIntent where
  operationId : Identifier
  request : ArchiveRequest
  snapshot : ArchiveSnapshot
  progress : Identifier → ArchiveProgress
  state : ArchiveState

/-- `progress.update({"state": ..})`. -/
def ArchiveIntent.mark (intent : ArchiveIntent) (instanceId : Identifier)
    (progress : ArchiveProgress) : ArchiveIntent :=
  { intent with
    progress := fun other => if other = instanceId then progress else intent.progress other }

/-- `committed_at` of a `COMMITTED` intent. -/
def ArchiveIntent.committedAt (intent : ArchiveIntent) : Option Timestamp :=
  match intent.state with
  | .committed committedAt _ => some committedAt
  | _ => none

/-- `instance_progress` of a resume. -/
inductive ResumeProgress where
  | pending
  | waking
  | processRunning
  | restored
  | skipped
  | compensating (error : HarnessError)
  | failed (error : HarnessError)
  deriving DecidableEq, Repr

/-- The result of a resume, without the task it copies. -/
structure ResumeResult where
  restoredStatus : TaskStatus
  restoredInstanceIds : List Identifier
  failedInstances : List HarnessError
  deriving DecidableEq, Repr

/-- An intent of kind `RESUME_TASK`; it is `COMMITTED` when it has a result. -/
structure ResumeIntent where
  operationId : Identifier
  envelope : CommandEnvelope
  snapshot : ArchiveSnapshot
  progress : Identifier → ResumeProgress
  aggregateRestored : Bool
  result : Option ResumeResult

def ResumeIntent.mark (intent : ResumeIntent) (instanceId : Identifier)
    (progress : ResumeProgress) : ResumeIntent :=
  { intent with
    progress := fun other => if other = instanceId then progress else intent.progress other }

/-- An instance that an archive suspended, and the status that it had before the archive suspended
    anything. -/
structure Parked where
  instanceId : Identifier
  operationId : Identifier
  status : InstanceStatus
  deriving DecidableEq, Repr

/-- The store of the task and the intents.  `before`, `parked` and `undoes` are ghost state that no
    script reads: the statuses before the first suspension of an archive, the instances that an
    archive suspended and that have been `STOPPED` ever since, and the archive that a resume
    undoes. -/
structure ArchiveDisk where
  commands : CommandStore
  archives : List ArchiveIntent
  resumes : List ResumeIntent
  before : Identifier → Option (Identifier → Option InstanceStatus)
  parked : List Parked
  undoes : Identifier → Option Identifier

namespace ArchiveDisk

def archive? (disk : ArchiveDisk) (operationId : Identifier) : Option ArchiveIntent :=
  disk.archives.find? (·.operationId = operationId)

def resume? (disk : ArchiveDisk) (operationId : Identifier) : Option ResumeIntent :=
  disk.resumes.find? (·.operationId = operationId)

/-- The intent that `_latest_archive_snapshot` selects (`application.py:1430-1454`). -/
def latestArchive (disk : ArchiveDisk) : Option ArchiveIntent :=
  (disk.archives.filter (·.committedAt.isSome)).argmax fun intent => intent.committedAt.getD ""

/-- The instances that are parked still. -/
def stillParked (disk : ArchiveDisk) (next : CommandStore) : List Parked :=
  disk.parked.filter fun parked => next.status parked.instanceId = some .stopped

/-- The status of an instance before the first suspension of the archive: the present one as long
    as there has been none. -/
def statusBefore (disk : ArchiveDisk) (operationId instanceId : Identifier) :
    Option InstanceStatus :=
  match disk.before operationId with
  | some statuses => statuses instanceId
  | none => disk.commands.status instanceId

/-- The suspension stops the instance. -/
def Stops (disk : ArchiveDisk) (instanceId : Identifier) (next : CommandStore) : Prop :=
  disk.commands.status instanceId ≠ some .stopped ∧ next.status instanceId = some .stopped

instance (disk : ArchiveDisk) (instanceId : Identifier) (next : CommandStore) :
    Decidable (disk.Stops instanceId next) :=
  inferInstanceAs (Decidable (¬ _ = _ ∧ _ = _))

/-- The statuses before the first suspension of each archive, after a suspension. -/
def beforeSuspended (disk : ArchiveDisk) (operationId instanceId : Identifier)
    (next : CommandStore) : Identifier → Option (Identifier → Option InstanceStatus) :=
  if disk.Stops instanceId next then
    fun other => if other = operationId then some (disk.statusBefore operationId)
      else disk.before other
  else disk.before

/-- The instance that a suspension parks, unless it was `STOPPED` before.  One that came after the
    first suspension counts with the status that it has. -/
def newlyParked (disk : ArchiveDisk) (operationId instanceId : Identifier) (next : CommandStore) :
    List Parked :=
  if disk.Stops instanceId next then
    (disk.statusBefore operationId instanceId <|> disk.commands.status instanceId).toList.map
      (Parked.mk instanceId operationId)
  else []

end ArchiveDisk

/-- A write to the disk.  Commands and intents are written atomically. -/
inductive ArchiveWrite where
  | archive (intent : ArchiveIntent)
  | resume (intent : ResumeIntent)
  /-- The suspension of a target. -/
  | suspended (operationId instanceId : Identifier) (next : CommandStore)
  | commands (next : CommandStore)

instance : Disk ArchiveDisk ArchiveWrite where
  apply disk
    | .archive intent =>
        { disk with
          archives := intent :: disk.archives.filter (·.operationId ≠ intent.operationId) }
    | .resume intent =>
        { disk with
          resumes := intent :: disk.resumes.filter (·.operationId ≠ intent.operationId)
          undoes := fun operationId =>
            if operationId = intent.operationId ∧ (disk.resume? operationId).isNone then
              disk.latestArchive.map ArchiveIntent.operationId
            else disk.undoes operationId }
    | .suspended operationId instanceId next =>
        { disk with
          commands := next
          before := disk.beforeSuspended operationId instanceId next
          parked := disk.newlyParked operationId instanceId next ++ disk.stillParked next }
    | .commands next => { disk with commands := next, parked := disk.stillParked next }
  tear disk _ := disk

abbrev ArchiveScript (α : Type) := Script ArchiveDisk ArchiveWrite Raised α

/-- What quiescing and probing a running agent establishes. -/
inductive WorkState where
  | idle
  | active
  | unknown
  deriving DecidableEq, Repr

/-- How waking an instance ends. -/
inductive WakeOutcome where
  /-- The process is ready and admits work again. -/
  | woken
  /-- The process did not start; the supervisor may have recorded the instance as `FAILED`. -/
  | failed (error : HarnessError) (recorded : Bool)
  /-- The process started and did not reopen admission, so it is to be stopped again. -/
  | closed (error : HarnessError)

/-- What a call observes of the world: the answers of the agents to a drain, how waking an instance
    ends, and whether the process of a failed wake comes to a safe stop. -/
structure ArchiveWorld where
  workState : Identifier → WorkState := fun _ => .idle
  wake : Identifier → WakeOutcome := fun _ => .woken
  compensation : Identifier → Outcome Unit := fun _ => .ok ()
  ambient : Ambient

/-! ## Archiving -/

/-- `_ARCHIVE_TARGET_STATUSES`. -/
def archiveTargetStatuses : List InstanceStatus :=
  [.starting, .running, .waitingApproval, .succeeded, .failed]

/-- The status that an archive or a resume reads: the plan's, or the task's when there is none. -/
def TaskState.taskStatus (state : TaskState) : Outcome TaskStatus :=
  match state.plan with
  | some plan => .ok plan.task.status
  | none => do
      let task ← state.requireTask
      return task.status

/-- The targets of a new archive. -/
def CommandStore.archiveTargets (store : CommandStore) : List ArchiveTarget :=
  ((store.state.plan.elim [] Plan.instances).filter (·.status ∈ archiveTargetStatuses)).map
    fun item => ⟨item.instanceId, item.status⟩

/-- `validate_task_revision` (`service.py:279-286`). -/
def TaskState.validateTaskRevision (state : TaskState) (expected : Nat) : Outcome Unit := do
  let task ← state.requireTask
  ensure (expected = state.taskRevision)
    (revisionConflict expected state.taskRevision "task" task.taskId)

/-- `HarnessError("IDEMPOTENCY_CONFLICT", .., {"operation_id": operation_id})`. -/
def operationReused (operationId : Identifier) : Raised :=
  .harness ⟨.idempotencyConflict, "The application operation id was reused for another request.",
    [("operation_id", .text operationId)]⟩

section

variable (taskId : Identifier) (world : ArchiveWorld)

/-- The targets whose agents run and answer as described: a list of the drain's report
    (`application.py:1013-1065`). -/
def drained (answer : WorkState) (items : List AgentInstance) : List Identifier :=
  (items.filter fun item => (item.process.any fun process => process.state = .running) &&
    world.workState item.instanceId = answer).map AgentInstance.instanceId

/-- The error of an archive whose drain does not end (`application.py:914-953`). -/
def drainError (operationId : Identifier) (busy unknown : List Identifier) : HarnessError :=
  if busy = [] then
    ⟨.archiveDrainUnknown, "The in-flight state of an Agent could not be established; " ++
        "retry the probe or archive with force.",
      [("unknown_instance_ids", .texts unknown), ("operation_id", .text operationId)]⟩
  else
    ⟨.archiveDrainTimeout, "Agents are still finishing in-flight work; " ++
        "retry to keep waiting or archive with force.",
      [("busy_instance_ids", .texts busy), ("unknown_instance_ids", .texts unknown),
        ("operation_id", .text operationId)]⟩

/-- One turn of the loop over the targets (`application.py:956-990`).  The text of the loop keeps
    the intent in memory; it is what the last write of it left on the disk. -/
def suspendTarget (intent : ArchiveIntent) (target : ArchiveTarget) :
    ArchiveScript ArchiveIntent := do
  if intent.progress target.instanceId = .stopped then
    return intent
  let intent := intent.mark target.instanceId .stopping
  Script.write (.archive intent)
  let store ← Script.read ArchiveDisk.commands
  let item ← Script.lift (store.requireRecord target.instanceId)
  if item.status ≠ .stopped then
    let next ← Script.lift (store.suspendInstance taskId target.instanceId
      (some ("archive-" ++ intent.operationId ++ "-" ++ target.instanceId)) world.ambient)
    Script.write (.suspended intent.operationId target.instanceId next)
  let intent := intent.mark target.instanceId .stopped
  Script.write (.archive intent)
  return intent

def suspendTargets : List ArchiveTarget → ArchiveIntent → ArchiveScript ArchiveIntent
  | [], intent => pure intent
  | target :: rest, intent => do
      let intent ← suspendTarget taskId world intent target
      suspendTargets rest intent

/-- `_resume_archive_task` behind the drain (`application.py:955-1011`). -/
def suspendAndArchive (intent : ArchiveIntent) : ArchiveScript ArchiveResult := do
  let intent ← suspendTargets taskId world intent.snapshot.targets intent
  let store ← Script.read ArchiveDisk.commands
  let envelope := intent.request.envelope
  let (result, next) ← Script.lift (store.issue taskId .archiveTask
    ⟨envelope.idempotencyKey, envelope.actorType, envelope.actorId, store.state.taskRevision⟩
    world.ambient)
  Script.write (.commands next)
  let result := ⟨result, some intent.snapshot⟩
  Script.write (.archive { intent with state := .committed world.ambient.now result })
  return result

/-- `_resume_archive_task` (`application.py:899-1011`). -/
def resumeArchiveTask (intent : ArchiveIntent) : ArchiveScript ArchiveResult := do
  if intent.request.force = false then
    let store ← Script.read ArchiveDisk.commands
    let items ← Script.lift (intent.snapshot.targets.mapM fun target =>
      store.requireRecord target.instanceId)
    let busy := drained world .active items
    let unknown := drained world .unknown items
    if busy ≠ [] ∨ unknown ≠ [] then
      let error := drainError intent.operationId busy unknown
      Script.write (.archive { intent with state := .aborted error })
      Script.raise (.harness error)
  suspendAndArchive taskId world intent

/-- The result that the registry holds for the archive command under a key. -/
def replayedArchive (store : CommandStore) (key : String) : Outcome (Option CommandResult) :=
  match store.used key with
  | none => .ok none
  | some (.command request result) => do
      ensure (request = .archiveTask) (idempotencyConflict taskId "archive_task")
      return some result
  | some .service => .error (idempotencyConflict taskId "archive_task")

/-- What `archive_task` finds out before it writes: the result to return, or the intent to run
    (`application.py:805-892`). -/
def openArchive (disk : ArchiveDisk) (operationId : Identifier) (request : ArchiveRequest) :
    Outcome (ArchiveResult ⊕ ArchiveIntent) := do
  ensure (request.envelope.actorType = .human ∨ request.envelope.actorType = .master)
    (validationError "Only a human or Master may archive a task.")
  ensure (request.drainTimeoutSeconds ≤ 3600)
    (validationError "The archive drain timeout is invalid.")
  ensure ((disk.resume? operationId).isNone) (operationReused operationId)
  match disk.archive? operationId with
  | some intent => do
      ensure (intent.request = request) (operationReused operationId)
      match intent.state with
      | .committed _ result => return .inl result
      | .aborted error => .error (.harness error)
      | .prepared => return .inr intent
  | none => do
      match ← replayedArchive taskId disk.commands request.envelope.idempotencyKey with
      | some result => return .inl ⟨result, none⟩
      | none => do
          disk.commands.state.validateTaskRevision request.envelope.expectedRevision
          let taskStatus ← disk.commands.state.taskStatus
          ensure (taskStatus ≠ .archived) (.harness ⟨.invalidStateTransition,
            "The task is already archived.", [("task_id", .text taskId)]⟩)
          return .inr
            { operationId := operationId
              request := request
              snapshot := ⟨taskStatus, disk.commands.archiveTargets⟩
              progress := fun _ => .pending
              state := .prepared }

/-- `archive_task` (`application.py:790-897`). -/
def archiveTask (operationId : Identifier) (request : ArchiveRequest) :
    ArchiveScript ArchiveResult := do
  let disk ← Script.read id
  match ← Script.lift (openArchive taskId disk operationId request) with
  | .inl result => return result
  | .inr intent => do
      if (disk.archive? operationId).isNone then
        Script.write (.archive intent)
      resumeArchiveTask taskId world intent

/-- The recovery of an archive (`application.py:212-265`). -/
def recoverArchive (operationId : Identifier) : ArchiveScript Unit := do
  match ← Script.read (·.archive? operationId) with
  | none => return ()
  | some intent => do
      if intent.state = .prepared then
        let _ ← resumeArchiveTask taskId world intent
      return ()

/-! ## Resuming -/

/-- `_latest_archive_snapshot`, or what a resume makes up without one
    (`application.py:1135-1147`). -/
def resumeSnapshot (disk : ArchiveDisk) : ArchiveSnapshot :=
  match disk.latestArchive with
  | some intent => intent.snapshot
  | none =>
      { preArchiveStatus := if disk.commands.state.plan.isSome then .running else .draft
        targets := ((disk.commands.state.plan.elim [] Plan.instances).filter
          (·.status = .stopped)).map fun item => ⟨item.instanceId, .running⟩ }

/-- The error of a compensation that could not suspend the instance. -/
def compensationError (instanceId : Identifier) : Raised :=
  .harness ⟨.processStartFailed, "The failed resume could not stop its newly started process.",
    [("instance_id", .text instanceId)]⟩

/-- `_compensate_failed_resume` (`application.py:1370-1428`). -/
def compensateFailedResume (operationId instanceId : Identifier) : ArchiveScript Unit := do
  let store ← Script.read ArchiveDisk.commands
  match store.suspendInstance taskId instanceId
      (some ("resume-compensation-" ++ operationId ++ "-" ++ instanceId)) world.ambient with
  | .error _ => Script.raise (compensationError instanceId)
  | .ok next => do
      Script.write (.commands next)
      Script.lift (world.compensation instanceId)

/-- The attempt to wake an instance that is `STOPPED` (`application.py:1225-1307`). -/
def wakeInstance (intent : ResumeIntent) (instanceId : Identifier) :
    ArchiveScript ResumeIntent := do
  match world.wake instanceId with
  | .woken => do
      let intent := intent.mark instanceId .processRunning
      Script.write (.resume intent)
      return intent
  | .failed error recorded => do
      if recorded then
        let store ← Script.read ArchiveDisk.commands
        let (_, next) ← Script.lift (store.transition taskId instanceId .failed
          ("launch-" ++ intent.operationId ++ "-" ++ instanceId ++ "-failed") world.ambient)
        Script.write (.commands next)
      let intent := intent.mark instanceId (.failed error)
      Script.write (.resume intent)
      return intent
  | .closed error => do
      let intent := intent.mark instanceId (.compensating error)
      Script.write (.resume intent)
      compensateFailedResume taskId world intent.operationId instanceId
      let intent := intent.mark instanceId (.failed error)
      Script.write (.resume intent)
      return intent

/-- One turn of the loop over the stopped instances (`application.py:1189-1307`). -/
def wakeTarget (intent : ResumeIntent) (target : ArchiveTarget) : ArchiveScript ResumeIntent := do
  match intent.progress target.instanceId with
  | .processRunning | .restored | .skipped | .failed _ => return intent
  | .compensating error => do
      compensateFailedResume taskId world intent.operationId target.instanceId
      let intent := intent.mark target.instanceId (.failed error)
      Script.write (.resume intent)
      return intent
  | .pending | .waking => do
      let intent := intent.mark target.instanceId .waking
      Script.write (.resume intent)
      let store ← Script.read ArchiveDisk.commands
      let item ← Script.lift (store.requireRecord target.instanceId)
      if item.status ≠ .stopped then
        let intent := intent.mark target.instanceId .skipped
        Script.write (.resume intent)
        return intent
      wakeInstance taskId world intent target.instanceId

def wakeTargets : List ArchiveTarget → ResumeIntent → ArchiveScript ResumeIntent
  | [], intent => pure intent
  | target :: rest, intent => do
      let intent ← wakeTarget taskId world intent target
      wakeTargets rest intent

/-- The status that a restore gives an instance: the wake waits for readiness, so one that was
    archived in the middle of its start is running. -/
def restoredStatus (status : InstanceStatus) : InstanceStatus :=
  if status = .starting then .running else status

/-- `restores` (`application.py:1312-1327`). -/
def ResumeIntent.restores (intent : ResumeIntent) : List InstanceRestore :=
  intent.snapshot.targets.filterMap fun target =>
    match intent.progress target.instanceId with
    | .processRunning | .restored =>
        some ⟨target.instanceId, restoredStatus target.initialStatus⟩
    | .failed _ => some ⟨target.instanceId, .failed⟩
    | _ => none

/-- The progress after the restore. -/
def ResumeIntent.afterRestore (intent : ResumeIntent) : ResumeIntent :=
  { intent with
    aggregateRestored := true
    progress := fun instanceId =>
      if instanceId ∈ intent.restores.map InstanceRestore.instanceId then
        match intent.progress instanceId with
        | .failed error => .failed error
        | _ => .restored
      else intent.progress instanceId }

/-- The result of a resume. -/
def ResumeIntent.outcome (intent : ResumeIntent) : ResumeResult where
  restoredStatus := intent.snapshot.preArchiveStatus
  restoredInstanceIds := (intent.snapshot.targets.map ArchiveTarget.instanceId).filter
    fun instanceId => intent.progress instanceId = .restored
  failedInstances := intent.snapshot.targets.filterMap fun target =>
    match intent.progress target.instanceId with
    | .failed error => some error
    | _ => none

/-- The key of the command that restores the aggregate. -/
def restoreKey (operationId : Identifier) : String := "resume-restore-" ++ operationId

/-- The restore of the snapshot in one command (`application.py:1309-1347`). -/
def restoreAggregate (intent : ResumeIntent) : ArchiveScript ResumeIntent := do
  if intent.aggregateRestored then
    return intent
  let store ← Script.read ArchiveDisk.commands
  let (_, next) ← Script.lift (store.issue taskId
    (.restoreArchived intent.restores intent.snapshot.preArchiveStatus)
    ⟨restoreKey intent.operationId, intent.envelope.actorType, intent.envelope.actorId,
      store.state.taskRevision⟩ world.ambient)
  Script.write (.commands next)
  let intent := intent.afterRestore
  Script.write (.resume intent)
  return intent

/-- `_resume_resume_task` (`application.py:1170-1368`). -/
def resumeResumeTask (intent : ResumeIntent) : ArchiveScript ResumeResult := do
  let intent ← wakeTargets taskId world intent.snapshot.targets intent
  let intent ← restoreAggregate taskId world intent
  let result := intent.outcome
  Script.write (.resume { intent with result := some result })
  return result

/-- What `resume_task` finds out before it writes: the result to return, or the intent to run
    (`application.py:1093-1163`). -/
def openResume (disk : ArchiveDisk) (operationId : Identifier) (envelope : CommandEnvelope) :
    Outcome (ResumeResult ⊕ ResumeIntent) := do
  ensure (envelope.actorType = .human ∨ envelope.actorType = .master)
    (validationError "Only a human or Master may resume a task.")
  ensure ((disk.archive? operationId).isNone) (operationReused operationId)
  match disk.resume? operationId with
  | some intent => do
      ensure (intent.envelope = envelope) (operationReused operationId)
      match intent.result with
      | some result => return .inl result
      | none => return .inr intent
  | none => do
      disk.commands.state.validateTaskRevision envelope.expectedRevision
      let taskStatus ← disk.commands.state.taskStatus
      ensure (taskStatus = .archived) (.harness ⟨.invalidStateTransition,
        "Only an archived task may be resumed.",
        [("task_id", .text taskId), ("current", .text taskStatus.name)]⟩)
      return .inr
        { operationId := operationId
          envelope := envelope
          snapshot := resumeSnapshot disk
          progress := fun _ => .pending
          aggregateRestored := false
          result := none }

/-- `resume_task` (`application.py:1083-1168`). -/
def resumeTask (operationId : Identifier) (envelope : CommandEnvelope) :
    ArchiveScript ResumeResult := do
  let disk ← Script.read id
  match ← Script.lift (openResume taskId disk operationId envelope) with
  | .inl result => return result
  | .inr intent => do
      if (disk.resume? operationId).isNone then
        Script.write (.resume intent)
      resumeResumeTask taskId world intent

/-- The recovery of a resume (`application.py:212-265`). -/
def recoverResume (operationId : Identifier) : ArchiveScript Unit := do
  match ← Script.read (·.resume? operationId) with
  | none => return ()
  | some intent => do
      if intent.result.isNone then
        let _ ← resumeResumeTask taskId world intent
      return ()

end

end DesignHarness
