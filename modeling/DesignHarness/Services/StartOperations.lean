import DesignHarness.Services.ProcessSupervisor
import DesignHarness.Services.StatusRecordings

/-!
# Start operations

A request to start or to restart instances is written as an intent file, and one background runner
carries the intents out: it launches the process of each target, asks the Agent to start and writes
after each of these what it has done (`application.py:277-592` and
`application_planning.py:84-969`).  A request holds the lock of its operation while it changes the
intent; the runner writes without the lock.  Every read and every write of a file is a step.

The derived ids and the digest of a request are the texts they are made from.
-/

namespace DesignHarness

open Library

/-! ## Records -/

/-- `state` of a start operation. -/
inductive StartState where
  | queued
  | running
  | committed
  | retryableFailed
  | aborted
  | superseded
  deriving DecidableEq, Repr

def StartState.name : StartState → String
  | queued => "QUEUED"
  | running => "RUNNING"
  | committed => "COMMITTED"
  | retryableFailed => "RETRYABLE_FAILED"
  | aborted => "ABORTED"
  | superseded => "SUPERSEDED"

/-- `QUEUED` or `RUNNING`: the runner carries it out. -/
def StartState.isActive : StartState → Bool
  | queued | running => true
  | committed | retryableFailed | aborted | superseded => false

/-- `_TERMINAL_START_STATES` (`application_planning.py:26-28`). -/
def StartState.isTerminal (state : StartState) : Bool := !state.isActive

/-- The operations that `_supersede_stale_instance_operations` compares. -/
def StartState.isOpen : StartState → Bool
  | queued | running | retryableFailed => true
  | committed | aborted | superseded => false

/-- `side_effect_stage` of a target. -/
inductive SideEffectStage where
  | none
  | processPersisted
  | agentRequested
  | agentAccepted
  deriving DecidableEq, Repr

/-- `_launch_summary` (`application.py:1804-1817`). -/
structure LaunchSummary where
  launchId : Identifier
  attemptId : Identifier
  state : LaunchState
  port : Nat
  pid : Option Nat
  startedAt : Option Timestamp
  codeIdentity : Option String
  deriving DecidableEq, Repr

/-- `mode` in the answer of the adapter. -/
inductive StartMode where
  | recovered
  | started
  deriving DecidableEq, Repr

/-- `result` of a target. -/
structure TargetResult where
  instanceId : Identifier
  launch : LaunchSummary
  agentOperationId : Identifier
  mode : StartMode
  deriving DecidableEq, Repr

/-- An entry of `instance_progress`. -/
structure TargetProgress where
  instanceId : Identifier
  state : StartProgressState
  attempt : Nat
  launchId : Option Identifier
  stage : SideEffectStage
  lastError : Option StartFailure
  updatedAt : Timestamp
  result : Option TargetResult
  deriving DecidableEq, Repr

/-- The entry of a target of a new operation. -/
def TargetProgress.fresh (now : Timestamp) (instanceId : Identifier) : TargetProgress :=
  ⟨instanceId, .pending, 0, none, .none, none, now, none⟩

/-- A target that failed is to be started again. -/
def TargetProgress.retried (time : Timestamp) (entry : TargetProgress) : TargetProgress :=
  if entry.state = .retryableFailed then
    { entry with
      state := .pending, attempt := entry.attempt + 1, lastError := none, updatedAt := time }
  else entry

/-- A target that a gate of the prior release refused. -/
def TargetProgress.reopened (entry : TargetProgress) : TargetProgress :=
  if entry.state = .aborted then
    { entry with
      state := .retryableFailed
      lastError := entry.lastError.map fun failure => { failure with retryable := true } }
  else entry

/-- `request` of a start operation; `instanceId` is the target of an operation on one instance. -/
structure StartOperationRequest where
  taskId : Identifier
  envelope : CommandEnvelope
  instanceId : Option Identifier
  onlyInstanceIds : Option (List Identifier)
  deriving DecidableEq, Repr

/-- `result` of a start operation. -/
structure StartResult where
  operationId : Identifier
  taskId : Identifier
  launches : List TargetResult
  unavailable : List Identifier
  deriving DecidableEq, Repr

/-- The intent file of a start operation. -/
structure StartOperation where
  kind : StartKind
  operationId : Identifier
  request : StartOperationRequest
  targets : List Identifier
  unavailable : List Identifier
  progress : List TargetProgress
  state : StartState
  lastError : Option StartFailure
  /-- `last_retry_idempotency_key` and the request under it. -/
  lastRetry : Option CommandEnvelope
  confirmedAt : Option Timestamp
  createdAt : Timestamp
  updatedAt : Timestamp
  completedAt : Option Timestamp
  maxAttempts : Nat
  /-- What `error` is raised as again. -/
  error : Option HarnessError
  result : Option StartResult
  deriving DecidableEq, Repr

/-- `_MAX_INSTANCE_START_ATTEMPTS` (`application_planning.py:29`). -/
def maxInstanceStartAttempts : Nat := 3

namespace StartOperation

/-- `kind in _INSTANCE_START_KINDS`. -/
def isInstance (intent : StartOperation) : Bool :=
  intent.kind = .startInstance || intent.kind = .restartInstance

/-- `intent["instance_progress"][instance_id]`. -/
def progressOf (intent : StartOperation) (instanceId : Identifier) : Option TargetProgress :=
  intent.progress.find? (·.instanceId = instanceId)

/-- `progress.update(..)`: the entry is a part of the intent. -/
def updateProgress (intent : StartOperation) (instanceId : Identifier)
    (update : TargetProgress → TargetProgress) : StartOperation :=
  { intent with progress := intent.progress.map fun entry =>
      if entry.instanceId = instanceId then update entry else entry }

/-- `attempts_exhausted` (`application_planning.py:832-837`). -/
def attemptsExhausted (intent : StartOperation) : Bool :=
  intent.maxAttempts ≠ 0 && !intent.progress.isEmpty &&
    intent.progress.all fun entry => decide (intent.maxAttempts ≤ entry.attempt)

/-- `retry_allowed` of the summary. -/
def retryAllowed (intent : StartOperation) : Bool :=
  intent.state = .retryableFailed && !intent.attemptsExhausted

/-- What `_record_start_failure` reads of the intent and of the progress of a target. -/
def targetOf (intent : StartOperation) (entry : TargetProgress) : StartTarget :=
  ⟨intent.operationId, intent.kind, intent.maxAttempts, entry.instanceId, entry.attempt,
    entry.state⟩

/-- The operation was updated before the other one (`application_planning.py:525-536`). -/
def precedes (first second : StartOperation) : Bool :=
  decide (first.updatedAt < second.updatedAt) ||
    (first.updatedAt = second.updatedAt && decide (first.operationId < second.operationId))

end StartOperation

/-- An entry of `launches` in a summary. -/
inductive LaunchEntry where
  | done (result : TargetResult)
  | pending (instanceId : Identifier) (launchId : Option Identifier) (state : StartProgressState)
  deriving DecidableEq, Repr

/-- `_start_operation_summary` (`application_planning.py:818-853`). -/
structure StartSummary where
  operationId : Identifier
  taskId : Identifier
  state : StartState
  progress : List TargetProgress
  lastError : Option StartFailure
  retryAllowed : Bool
  unavailable : List Identifier
  launches : List LaunchEntry
  createdAt : Timestamp
  updatedAt : Timestamp
  completedAt : Option Timestamp
  deriving DecidableEq, Repr

def TargetProgress.launchEntry (entry : TargetProgress) : LaunchEntry :=
  match entry.result with
  | some result => .done result
  | none => .pending entry.instanceId entry.launchId entry.state

def StartOperation.summary (intent : StartOperation) : StartSummary :=
  ⟨intent.operationId, intent.request.taskId, intent.state, intent.progress, intent.lastError,
    intent.retryAllowed, intent.unavailable, intent.progress.map TargetProgress.launchEntry,
    intent.createdAt, intent.updatedAt, intent.completedAt⟩

/-- A start that an Agent was asked for, with the intent that was stored then. -/
structure AgentRequest where
  operationId : Identifier
  instanceId : Identifier
  attempt : Nat
  stored : Option StartOperation
  deriving DecidableEq, Repr

/-- The intents, the stored instances, and what the Agents have been asked for.  Whether the runner
    lives and has superseded the stale operations is not on disk. -/
structure StartDesk where
  intents : AList fun _ : Identifier => StartOperation
  instances : List AgentInstance
  /-- `start_operation_runner.alive`. -/
  runnerAlive : Bool
  /-- `_instance_start_reconciled`. -/
  reconciled : Bool
  requested : List AgentRequest

namespace StartDesk

def empty : StartDesk := ⟨∅, [], false, false, []⟩

/-- `self.store.instance.get(task_id, instance_id)`. -/
def instance? (desk : StartDesk) (key : InstanceKey) : Option AgentInstance :=
  desk.instances.find? fun item => item.taskId = key.taskId ∧ item.instanceId = key.instanceId

def updateInstance (desk : StartDesk) (key : InstanceKey)
    (update : AgentInstance → AgentInstance) : StartDesk :=
  { desk with instances := desk.instances.map fun item =>
      if item.taskId = key.taskId ∧ item.instanceId = key.instanceId then update item else item }

/-- `atomic_write_json(intent_path, intent)`. -/
def write (desk : StartDesk) (intent : StartOperation) : StartDesk :=
  { desk with intents := desk.intents.insert intent.operationId intent }

/-- The operations in the order of their file names. -/
def operationIds (desk : StartDesk) : List Identifier :=
  desk.intents.keys.mergeSort fun first second => decide (first ++ ".json" ≤ second ++ ".json")

/-- `_latest_active_instance_operation` (`application_planning.py:472-502`). -/
def latestActive (desk : StartDesk) (key : InstanceKey) (excluded : Identifier) :
    Option StartOperation :=
  ((desk.intents.entries.map Sigma.snd).filter fun intent =>
    intent.isInstance && intent.operationId ≠ excluded && intent.request.taskId = key.taskId &&
      intent.request.instanceId = some key.instanceId && intent.state.isActive).maxOn?
    StartOperation.updatedAt

end StartDesk

/-- What a step is answered by the machine and by other components. -/
structure StartSurroundings where
  now : Timestamp
  taskArchived : Bool
  plan : Option Plan
  /-- `commands.validate_task_revision`. -/
  revisionChecked : Outcome Unit
  /-- `task_config.lock_for_start`. -/
  configLocked : Outcome Unit
  /-- `commands.confirm_start`. -/
  startConfirmed : Outcome Unit
  /-- A command on the task store; `false` when its key was used before. -/
  commanded : Outcome Bool
  /-- `update_instance_fields`. -/
  recorded : Outcome Unit
  /-- `adapters.get(agent_type).available`. -/
  adapterAvailable : Outcome Bool
  /-- `validate_task_card`: the errors it reports. -/
  cardErrors : Outcome (List String)
  /-- `ensure_before_start_locked` of an Image instance, and `adapter.prepare`. -/
  prepared : Outcome Unit
  /-- `supervisor.start_instance` or `restart_instance`. -/
  launched : Outcome LaunchSummary
  /-- `adapter.recover`: the operation that goes on, if one does. -/
  recovered : Outcome Bool
  /-- `adapter.start`: the operation it began, when it was accepted. -/
  agentStarted : Outcome (Option Identifier)

abbrev Starting := Thread StartSurroundings StartDesk Fault

namespace StartOperations

open Supervisor (raising)

def storedIntent (operationId : Identifier) (desk : StartDesk) : Except Fault StartOperation :=
  match desk.intents.lookup operationId with
  | some intent => .ok intent
  | none => .error (.raised (.osError operationId))

/-- `read_json(intent_path)`. -/
def readIntent (operationId : Identifier) : Starting StartOperation :=
  Thread.read fun _ desk => storedIntent operationId desk

/-- `sorted(self.intent_root.glob("*.json"))`. -/
def readOperationIds : Starting (List Identifier) :=
  Thread.read fun _ desk => .ok desk.operationIds

def writeIntent (intent : StartOperation) : Starting Unit :=
  Thread.change fun _ desk => desk.write intent

/-- What another component answers. -/
def ask {α : Type} (answered : StartSurroundings → Outcome α) : Starting α :=
  Thread.read fun answer _ => raising (answered answer)

/-- `utc_now()`. -/
def now : Starting Timestamp := Thread.read fun answer _ => .ok answer.now

/-- `_instance` (`application.py:1783-1787`). -/
def requireInstance (key : InstanceKey) : Starting AgentInstance :=
  Thread.read fun _ desk =>
    match desk.instance? key with
    | some item => .ok item
    | none => .error (.harness .instanceNotFound "The requested instance does not exist.")

/-- `_plan` (`application.py:1777-1781`). -/
def requirePlan : Starting Plan :=
  Thread.read fun answer _ =>
    match answer.plan with
    | some plan => .ok plan
    | none => .error (.harness .taskNotFound "The task does not have a saved plan.")

/-- `commands.transition_instance` of the runner. -/
def transitionInstance (key : InstanceKey) (target : InstanceStatus) : Starting Unit :=
  Thread.atomically fun answer desk =>
    match answer.commanded, desk.instance? key with
    | .error error, _ => (.error (.raised error), desk)
    | .ok false, _ => (.ok (), desk)
    | .ok true, none =>
        (.error (.harness .instanceNotFound "The requested instance does not exist."), desk)
    | .ok true, some item =>
        match transitionInstanceStatus item.status target with
        | .error error => (.error (.raised error), desk)
        | .ok _ => (.ok (), desk.updateInstance key fun item => { item with status := target })

/-- `update_instance_fields` with a `start_failure`. -/
def recordFailureField (key : InstanceKey) (failure : Option StartFailure) : Starting Unit :=
  Thread.atomically fun answer desk =>
    match answer.recorded with
    | .error error => (.error (.raised error), desk)
    | .ok () =>
        (.ok (), desk.updateInstance key fun item => { item with startFailure := failure })

/-- `adapter.start`; that the Agent was asked is noted. -/
def startAgent (operationId instanceId : Identifier) (attempt : Nat) :
    Starting (Option Identifier) :=
  Thread.atomically fun answer desk =>
    (raising answer.agentStarted, { desk with
      requested := desk.requested ++
        [⟨operationId, instanceId, attempt, desk.intents.lookup operationId⟩] })

/-! ## The start of one target -/

/-- What became of a target, and the intent as it is in memory then. -/
abbrev TargetOutcome := Except (StartOperation × Fault) (StartOperation × TargetResult)

/-- A part of `_resume_start_instance`; what it raises is raised with the intent as given. -/
def orFailed {α : Type} (intent : StartOperation) (part : Starting α)
    (next : α → Starting TargetOutcome) : Starting TargetOutcome := do
  let outcome ← part.attempt
  match outcome with
  | .ok value => next value
  | .error fault => return .error (intent, fault)

/-- `_restore_startable_instance` (`application_planning.py:953-969`). -/
def restoreStartableInstance (key : InstanceKey) : Starting Unit := do
  let item ← requireInstance key
  if item.status = .failedToStart then transitionInstance key .ready else return ()

/-- The instance is made startable, unless its process is to be replaced. -/
def startableInstance (key : InstanceKey) (restart : Bool) : Starting AgentInstance := do
  if restart then requireInstance key
  else do
    restoreStartableInstance key
    requireInstance key

/-- The checks before the process, and what it needs (`application_planning.py:184-203`). -/
def prepareTarget (item : AgentInstance) (stage : SideEffectStage) : Starting Unit := do
  let available ← ask (·.adapterAvailable)
  if available then do
    let errors ← ask (·.cardErrors)
    if errors = [] then do
      Thread.read fun answer _ =>
        if item.agentType = .ppt ∧ stage = .none then
          raising (requirePptStartGate answer.plan item.instanceId)
        else .ok ()
      ask (·.prepared)
    else Thread.raise (.harness .validationError "The Agent adapter rejected its task card."
      [("errors", .texts errors)])
  else Thread.raise (.harness .adapterUnavailable
    "A prepared start intent references an unavailable adapter."
    [("instance_id", .text item.instanceId)])

/-- The launch of a process that runs already. -/
def reusedLaunch (process : ProcessRecord) (attemptId : Identifier) : LaunchSummary :=
  ⟨process.launchId, attemptId, .running, process.port, some process.pid, some process.startedAt,
    none⟩

/-- The process of the instance that is used again (`application_planning.py:218-224`). -/
def reusedProcess (item : AgentInstance) (restart : Bool) (previous : SideEffectStage) :
    Option ProcessRecord :=
  item.process.filter fun process =>
    process.state = .running && (!restart || previous ≠ .none)

/-- `launch_id` and `attempt_id` of an attempt. -/
def derivedAttemptId (name : String) (operationId instanceId : Identifier) (attempt : Nat) :
    Identifier :=
  name ++ "_" ++ operationId ++ ":" ++ instanceId ++ "-" ++ toString attempt

/-- `launch` (`application_planning.py:217-276`), and whether a process is used again. -/
def launchTarget (key : InstanceKey) (restart : Bool) (previous : SideEffectStage)
    (attemptId : Identifier) : Starting (LaunchSummary × Bool) := do
  let current ← requireInstance key
  match reusedProcess current restart previous with
  | some process =>
      if current.status = .ready then do
        transitionInstance key .starting
        return (reusedLaunch process attemptId, true)
      else return (reusedLaunch process attemptId, true)
  | none => do
      let launch ← ask (·.launched)
      if launch.state = .running then return (launch, false)
      else Thread.raise (.harness .processStartFailed
        "A prepared start intent cannot reuse a non-running launch."
        [("instance_id", .text key.instanceId), ("launch_state", .text launch.state.name)])

/-- `adapter.recover`, when the Agent may have begun before. -/
def recoverAgent (key : InstanceKey) (previous : SideEffectStage) : Starting Bool :=
  if previous = .agentRequested ∨ previous = .agentAccepted then do
    let _ ← requireInstance key
    ask (·.recovered)
  else return false

/-- `adapter.start` must be accepted. -/
def startAccepted (operationId instanceId : Identifier) (attempt : Nat) :
    Starting Identifier := do
  let started ← startAgent operationId instanceId attempt
  match started with
  | some agentOperationId => return agentOperationId
  | none => Thread.raise (.harness .processStartFailed
      "The Agent adapter rejected the prepared start operation."
      [("instance_id", .text instanceId)])

/-- The instance of a process that was used again runs now. -/
def settleReused (key : InstanceKey) (reused : Bool) : Starting Unit := do
  let current ← requireInstance key
  if reused = true ∧ current.status = .starting then transitionInstance key .running
  else return ()

/-- The end of `_resume_start_instance` (`application_planning.py:316-357`). -/
def acceptTarget (intent : StartOperation) (key : InstanceKey) (launch : LaunchSummary)
    (reused : Bool) (agentOperationId : Identifier) (mode : StartMode) : Starting TargetOutcome :=
  orFailed intent (settleReused key reused) fun _ =>
  orFailed intent now fun time =>
  let result : TargetResult := ⟨key.instanceId, launch, agentOperationId, mode⟩
  let accepted := intent.updateProgress key.instanceId fun entry =>
    { entry with
      state := .running, stage := .agentAccepted, lastError := none, updatedAt := time
      result := some result }
  orFailed accepted (writeIntent accepted) fun _ =>
  orFailed accepted (recordFailureField key none) fun _ => return .ok (accepted, result)

/-- The Agent is asked to start, unless it goes on by itself. -/
def engageAgent (intent : StartOperation) (key : InstanceKey) (attempt : Nat)
    (previous : SideEffectStage) (launch : LaunchSummary) (reused : Bool) (attemptId : Identifier) :
    Starting TargetOutcome :=
  orFailed intent (recoverAgent key previous) fun recovered =>
  if recovered then acceptTarget intent key launch reused attemptId .recovered
  else
    orFailed intent now fun time =>
    let requesting := intent.updateProgress key.instanceId fun entry =>
      { entry with stage := .agentRequested, updatedAt := time }
    orFailed requesting (writeIntent requesting) fun _ =>
    orFailed requesting (startAccepted intent.operationId key.instanceId attempt)
      fun agentOperationId => acceptTarget requesting key launch reused agentOperationId .started

/-- The process of the target is launched. -/
def launchPrepared (intent : StartOperation) (key : InstanceKey) (attempt : Nat) (restart : Bool)
    (previous : SideEffectStage) : Starting TargetOutcome :=
  let launchId := derivedAttemptId "launch" intent.operationId key.instanceId attempt
  let attemptId := derivedAttemptId "attempt" intent.operationId key.instanceId attempt
  orFailed intent now fun time =>
  let starting := intent.updateProgress key.instanceId fun entry =>
    { entry with state := .processStarting, launchId := some launchId, updatedAt := time }
  orFailed starting (writeIntent starting) fun _ =>
  orFailed starting (launchTarget key restart previous attemptId) fun launched =>
  orFailed starting now fun time =>
  let persisted := starting.updateProgress key.instanceId fun entry =>
    { entry with
      state := .agentStarting, stage := .processPersisted
      launchId := some launched.1.launchId, updatedAt := time }
  orFailed persisted (writeIntent persisted) fun _ =>
  engageAgent persisted key attempt previous launched.1 launched.2 attemptId

/-- `_resume_start_instance` (`application_planning.py:160-357`); `entry` is the progress of the
    target. -/
def resumeStartInstance (intent : StartOperation) (entry : TargetProgress) :
    Starting TargetOutcome :=
  let key : InstanceKey := ⟨intent.request.taskId, entry.instanceId⟩
  let restart := decide (intent.kind = .restartInstance)
  let attempt := max 1 entry.attempt
  let begun := intent.updateProgress entry.instanceId fun entry => { entry with attempt }
  orFailed begun (startableInstance key restart) fun item =>
  orFailed begun now fun time =>
  let preparing := begun.updateProgress entry.instanceId fun entry =>
    { entry with state := .preparing, updatedAt := time }
  orFailed preparing (writeIntent preparing) fun _ =>
  orFailed preparing (prepareTarget item entry.stage) fun _ =>
  launchPrepared preparing key attempt restart entry.stage

/-- `state` after a failure. -/
def failedState (failure : StartFailure) : StartProgressState :=
  if failure.retryable then .retryableFailed else .aborted

/-- `progress.update(..)` with a failure. -/
def failedEntry (failure : StartFailure) (time : Timestamp) (entry : TargetProgress) :
    TargetProgress :=
  { entry with state := failedState failure, lastError := some failure, updatedAt := time }

/-- The intent with a failure of the target. -/
def failedIntent (intent : StartOperation) (entry : TargetProgress) (error : HarnessError)
    (time : Timestamp) : StartOperation :=
  let failure := (intent.targetOf entry).failure error time
  { intent.updateProgress entry.instanceId (failedEntry failure time) with
    state := if failure.retryable then .retryableFailed else .aborted
    lastError := some failure, updatedAt := time
    -- `if not retryable: intent["completed_at"] = ..; intent["error"] = ..`
    completedAt := if failure.retryable then intent.completedAt else some time
    error := if failure.retryable then intent.error
      else some ⟨error.code, error.message, publicDetails error.details⟩ }

/-- The instance is recorded as failed to start, unless a restart left it running. -/
def recordFailedInstance (intent : StartOperation) (entry : TargetProgress) (error : HarnessError)
    (time : Timestamp) : Starting Unit := do
  let key : InstanceKey := ⟨intent.request.taskId, entry.instanceId⟩
  let target := intent.targetOf entry
  let current ← requireInstance key
  if CommandStore.recordsFailure target current then do
    transitionInstance key .failedToStart
    recordFailureField key (some (target.failure error time))
  else recordFailureField key (some (target.failure error time))

/-- `_record_start_failure` (`application_planning.py:855-951`). -/
def recordStartFailure (intent : StartOperation) (entry : TargetProgress) (error : HarnessError) :
    Starting StartOperation := do
  let time ← now
  let failed := failedIntent intent entry error time
  writeIntent failed
  recordFailedInstance intent entry error time
  return failed

/-- The error that is recorded for what an operation on an instance raised. -/
def recordedError (instanceId : Identifier) : Fault → HarnessError
  | .raised (.harness error) => error
  | fault => ⟨.processStartFailed, "The instance start operation failed unexpectedly.",
      [("failure_type", .text fault.typeName), ("instance_id", .text instanceId)]⟩

/-- The intent when all of its targets have been started. -/
def committedIntent (intent : StartOperation) (launches : List TargetResult)
    (unavailable : List Identifier) (time : Timestamp) : StartOperation :=
  { intent with
    state := .committed, completedAt := some time, updatedAt := time, lastError := none
    result := some ⟨intent.operationId, intent.request.taskId, launches, unavailable⟩ }

/-- The last part of `_resume_instance_operation`: what is stored is committed. -/
def commitLocked (intent : StartOperation) (result : TargetResult) (answer : StartSurroundings)
    (desk : StartDesk) : Except Fault StartSummary × StartDesk :=
  match desk.intents.lookup intent.operationId with
  | none => (.error (.raised (.osError intent.operationId)), desk)
  | some latest =>
      if latest.state = .superseded then (.ok latest.summary, desk)
      else
        let committed := committedIntent latest [result] [] answer.now
        (.ok committed.summary, desk.write committed)

/-- The intent while it is carried out. -/
def runningIntent (intent : StartOperation) (time : Timestamp) : StartOperation :=
  { intent with state := .running, updatedAt := time }

/-- The checks of the `try` block before the target is started. -/
def claimedIntent (intent : StartOperation) (instanceId : Identifier) :
    Starting TargetOutcome :=
  orFailed intent
    (if intent.kind = .startInstance then ask (·.configLocked) else pure ()) fun _ =>
  orFailed intent now fun time =>
  let running := runningIntent intent time
  orFailed running (writeIntent running) fun _ =>
  orFailed running requirePlan fun plan =>
  orFailed running (requireInstance ⟨intent.request.taskId, instanceId⟩) fun _ =>
  match plan.taskCards.find? (·.instanceId = instanceId), running.progressOf instanceId with
  | some _, some entry => resumeStartInstance running entry
  | _, _ => return .error (running, .raised (.keyError instanceId))

/-- `_resume_instance_operation` (`application_planning.py:564-664`). -/
def resumeInstanceOperation (operationId : Identifier) : Starting StartSummary := do
  let intent ← readIntent operationId
  if intent.state.isTerminal then return intent.summary
  else
    match intent.request.instanceId with
    | none => Thread.raise (.raised (.keyError "instance_id"))
    | some instanceId => do
        let outcome ← claimedIntent intent instanceId
        match outcome with
        | .ok (done, result) => Thread.atomically (commitLocked done result)
        | .error (failing, fault) =>
            match failing.progressOf instanceId with
            | none => Thread.raise (.raised (.keyError instanceId))
            | some entry => do
                let failed ← recordStartFailure failing entry (recordedError instanceId fault)
                return failed.summary

/-! ## Operations on all ready instances -/

/-- The task of a prepared start is confirmed, or active. -/
def confirmTask (plan : Plan) : Starting Unit :=
  if plan.task.status = .awaitingStartConfirmation then ask (·.startConfirmed)
  else if plan.task.status ∈ [.running, .blockedUnavailable, .failed] then pure ()
  else Thread.raise (.harness .invalidStateTransition
    "A prepared start intent no longer belongs to an active task."
    [("current", .text plan.task.status.name)])

/-- The intent with its confirmation. -/
def confirmedIntent (intent : StartOperation) (time : Timestamp) : StartOperation :=
  { intent with confirmedAt := some time, updatedAt := time }

/-- `_confirm_start_intent` (`application_planning.py:666-685`). -/
def confirmStartIntent (operationId : Identifier) : Starting Unit := do
  let intent ← readIntent operationId
  if intent.confirmedAt.isSome then return ()
  else do
    let plan ← requirePlan
    confirmTask plan
    let time ← now
    writeIntent (confirmedIntent intent time)

/-- The intent is committed (`application_planning.py:138-158`). -/
def commitIntent (intent : StartOperation) (launches : List TargetResult) :
    Starting StartSummary := do
  let time ← now
  let committed := committedIntent intent launches intent.unavailable time
  writeIntent committed
  return committed.summary

/-- A target of a prepared start must still be startable. -/
def requireStartable (key : InstanceKey) : Starting Unit := do
  let item ← requireInstance key
  if item.status ∈ [.cancelled, .superseded, .archived] then
    Thread.raise (.harness .invalidStateTransition
      "A prepared start intent no longer owns a startable instance."
      [("instance_id", .text key.instanceId)])
  else return ()

/-- What becomes of an operation on all ready instances when the start of a target has ended. -/
def targetEnded (instanceId : Identifier) (outcome : TargetOutcome)
    (rest : StartOperation → TargetResult → Starting StartSummary) : Starting StartSummary :=
  match outcome with
  | .ok (intent, result) => rest intent result
  | .error (failing, .raised (.harness error)) =>
      match failing.progressOf instanceId with
      | none => Thread.raise (.raised (.keyError instanceId))
      | some entry => do
          let failed ← recordStartFailure failing entry error
          return failed.summary
  | .error (_, fault) => Thread.raise fault

/-- The loop of `_resume_start` over the targets (`application_planning.py:111-137`). -/
def resumeTargets (plan : Plan) : List Identifier → StartOperation → List TargetResult →
    Starting StartSummary
  | [], intent, launches => commitIntent intent launches
  | instanceId :: rest, intent, launches =>
      match intent.progressOf instanceId with
      | none => Thread.raise (.raised (.keyError instanceId))
      | some entry =>
          match entry.state, entry.result with
          | .running, some result => resumeTargets plan rest intent (launches ++ [result])
          | .running, none => Thread.raise (.raised (.keyError "result"))
          | _, _ => do
              requireStartable ⟨intent.request.taskId, instanceId⟩
              match plan.taskCards.find? (·.instanceId = instanceId) with
              | none => Thread.raise (.raised (.keyError instanceId))
              | some _ => do
                  let outcome ← resumeStartInstance intent entry
                  targetEnded instanceId outcome fun intent result =>
                    resumeTargets plan rest intent (launches ++ [result])

/-- The part of `_resume_start` after the confirmation (`application_planning.py:97-158`). -/
def resumeConfirmed (operationId : Identifier) : Starting StartSummary := do
  let intent ← readIntent operationId
  let plan ← requirePlan
  if plan.task.status ∈ [.running, .blockedUnavailable, .failed] then do
    let time ← now
    let running := runningIntent intent time
    writeIntent running
    resumeTargets plan running.targets running []
  else Thread.raise (.harness .invalidStateTransition
    "A prepared start intent no longer belongs to an active task."
    [("current", .text plan.task.status.name)])

/-- `_resume_start` (`application_planning.py:84-158`). -/
def resumeStart (operationId : Identifier) : Starting StartSummary := do
  let intent ← readIntent operationId
  if intent.state ∈ [.committed, .aborted, .retryableFailed] then return intent.summary
  else do
    ask (·.configLocked)
    confirmStartIntent operationId
    resumeConfirmed operationId

/-- The open operations on instances, as they are read one after the other. -/
def openOperations : List Identifier → List StartOperation → Starting (List StartOperation)
  | [], found => return found
  | operationId :: rest, found => do
      let intent ← readIntent operationId
      if intent.isInstance = true ∧ intent.state.isOpen = true then
        openOperations rest (found ++ [intent])
      else openOperations rest found

/-- The operations of a group without the one that was updated last. -/
def staleOperations (group : List StartOperation) : List StartOperation :=
  group.filter fun intent => group.any fun other => intent.precedes other

/-- The groups of `_supersede_stale_instance_operations`, one after the other. -/
def staleGroups (found : List StartOperation) : List StartOperation :=
  (found.map fun intent => (intent.request.taskId, intent.request.instanceId)).eraseDups.flatMap
    fun target => staleOperations (found.filter fun intent =>
      (intent.request.taskId, intent.request.instanceId) = target)

/-- The intent as a newer operation on the instance leaves it. -/
def supersededIntent (intent : StartOperation) (time : Timestamp) : StartOperation :=
  { intent with
    progress := intent.progress.map fun entry =>
      { entry with state := .superseded, updatedAt := time }
    state := .superseded, updatedAt := time, completedAt := some time }

/-- A stale operation is superseded, if it is still open. -/
def supersedeLocked (candidate : StartOperation) (answer : StartSurroundings) (desk : StartDesk) :
    Except Fault Unit × StartDesk :=
  match desk.intents.lookup candidate.operationId with
  | none => (.error (.raised (.osError candidate.operationId)), desk)
  | some latest =>
      if latest.state.isOpen then (.ok (), desk.write (supersededIntent latest answer.now))
      else (.ok (), desk)

/-- `_supersede_stale_instance_operations` (`application_planning.py:504-562`). -/
def supersedeStaleOperations : Starting Unit := do
  let operationIds ← readOperationIds
  let found ← openOperations operationIds []
  Thread.forEach (fun candidate => Thread.atomically (supersedeLocked candidate))
    (staleGroups found)

/-- An operation is claimed: it is still to be carried out. -/
def claimLocked (operationId : Identifier) (answer : StartSurroundings) (desk : StartDesk) :
    Except Fault Bool × StartDesk :=
  match desk.intents.lookup operationId with
  | none => (.error (.raised (.osError operationId)), desk)
  | some latest =>
      if latest.state = .queued then (.ok true, desk.write (runningIntent latest answer.now))
      else (.ok (decide (latest.state = .running)), desk)

/-- An intent that was read is claimed and carried out. -/
def runFoundStart (operationId : Identifier) (intent : StartOperation) : Starting Unit := do
  if intent.state.isActive then do
    let claimed ← Thread.atomically (claimLocked operationId)
    if claimed then
      if intent.isInstance then do
        let _ ← resumeInstanceOperation operationId
      else do
        let _ ← resumeStart operationId
    else return ()
  else return ()

/-- The turn of an intent in `_run_pending_starts` (`application.py:542-592`). -/
def runPendingStart (operationId : Identifier) : Starting Unit := do
  let intent ← readIntent operationId
  runFoundStart operationId intent

def markReconciled : Starting Unit :=
  Thread.change fun _ desk => { desk with reconciled := true }

/-- The first scan of a control plane supersedes the stale operations. -/
def reconcileOnce : Starting Unit := do
  let reconciled ← Thread.read fun _ desk => .ok desk.reconciled
  if reconciled then return ()
  else do
    supersedeStaleOperations
    markReconciled

/-- `_run_pending_starts` (`application.py:538-592`). -/
def runPendingStarts : Starting Unit := do
  reconcileOnce
  let operationIds ← readOperationIds
  Thread.forEach runPendingStart operationIds

/-- `start_monitoring` of a new control plane. -/
def startMonitoring : Starting Unit :=
  Thread.change fun _ desk => { desk with runnerAlive := true, reconciled := false }

/-! ## Requests -/

def requireTaskNotArchived (taskId : Identifier) : Starting Unit :=
  Thread.read fun answer _ =>
    if answer.taskArchived then
      .error (.harness .taskArchived
        "The task is archived and read-only; resume it before issuing changes."
        [("task_id", .text taskId)])
    else .ok ()

/-- The operation id was used for something else. -/
def reusedId (operationId : Identifier) : Fault :=
  .harness .idempotencyConflict "The application operation id was reused for another request."
    [("operation_id", .text operationId)]

/-- `_raise_terminal_intent`. -/
def terminalFault (intent : StartOperation) : Fault :=
  match intent.error with
  | some error => .raised (.harness error)
  | none => .raised (.keyError "error")

/-- The checks of a restart before its intent is queued. -/
def acceptRestartInstance (plan : Option Plan) (item : Option AgentInstance) : Outcome Unit :=
  match plan, item with
  | none, _ => raiseHarness .taskNotFound "The task does not have a saved plan."
  | some _, none => raiseHarness .instanceNotFound "The requested instance does not exist."
  | some _, some item =>
      ensure (item.status ∈ [.running, .waitingApproval, .failedToStart, .failed, .crashed,
          .stopped]) (.harness ⟨.invalidStateTransition,
        "This instance state cannot execute the requested operation.",
        [("current", .text item.status.name), ("operation", .text "RESTART_INSTANCE")]⟩)

/-- The intent of an operation on one instance. -/
def instanceIntent (restart : Bool) (operationId : Identifier) (key : InstanceKey)
    (envelope : CommandEnvelope) (time : Timestamp) : StartOperation where
  kind := if restart then .restartInstance else .startInstance
  operationId := operationId
  request := ⟨key.taskId, envelope, some key.instanceId, none⟩
  targets := [key.instanceId]
  unavailable := []
  progress := [.fresh time key.instanceId]
  state := .queued
  lastError := none
  lastRetry := none
  confirmedAt := none
  createdAt := time
  updatedAt := time
  completedAt := none
  maxAttempts := maxInstanceStartAttempts
  error := none
  result := none

/-- What `_prepare_instance_operation` does under the locks of the task and of the operation
    (`application_planning.py:381-467`); `true` when an intent was written. -/
def prepareLocked (restart : Bool) (operationId : Identifier) (key : InstanceKey)
    (envelope : CommandEnvelope) (answer : StartSurroundings) (desk : StartDesk) :
    Except Fault (StartSummary × Bool) × StartDesk :=
  let queued := instanceIntent restart operationId key envelope answer.now
  match desk.intents.lookup operationId with
  | some intent =>
      if intent.kind ≠ queued.kind ∨ intent.request ≠ queued.request then
        (.error (reusedId operationId), desk)
      else if intent.state = .aborted then (.error (terminalFault intent), desk)
      else (.ok (intent.summary, false), desk)
  | none =>
      match desk.latestActive key operationId with
      | some active => (.ok (active.summary, false), desk)
      | none =>
          match (if restart then do
              answer.revisionChecked
              acceptRestartInstance answer.plan (desk.instance? key)
            else acceptStartInstance answer.plan (desk.instance? key) key.instanceId) with
          | .error error => (.error (.raised error), desk)
          | .ok _ => (.ok (queued.summary, true), desk.write queued)

/-- `_prepare_instance_operation` (`application_planning.py:359-470`). -/
def prepareInstanceOperation (restart : Bool) (operationId : Identifier) (key : InstanceKey)
    (envelope : CommandEnvelope) : Starting StartSummary :=
  if envelope.actorType = .human ∨ envelope.actorType = .master then do
    requireTaskNotArchived key.taskId
    let prepared ← Thread.atomically (prepareLocked restart operationId key envelope)
    if prepared.2 = true ∧ restart = false then do
      ask (·.configLocked)
      return prepared.1
    else return prepared.1
  else Thread.raise (.harness .validationError "Only a human or Master may control an instance.")

/-- The targets of an operation on all ready instances. -/
def readyTargets (plan : Plan) : List Identifier :=
  (plan.instances.filter fun item => item.status = .ready &&
    plan.stages.any fun stage => stage.stageId = item.stageId &&
      (stage.status = .ready || stage.status = .running)).map (·.instanceId)

/-- The selected targets (`application.py:338-352`). -/
def selectTargets (targets : List Identifier) : Option (List Identifier) →
    Outcome (List Identifier)
  | none => .ok targets
  | some only => do
      ensure (only.filter (· ∉ targets) = []) (.harness ⟨.invalidStateTransition,
        "Only ready instances of this task may be started.",
        [("instance_ids", .texts (only.filter (· ∉ targets)))]⟩)
      ensure (targets.filter (· ∈ only) ≠ []) (.harness ⟨.validationError,
        "At least one ready instance must be selected to start.", []⟩)
      return targets.filter (· ∈ only)

/-- The intent of an operation on all ready instances, or on the selected ones. -/
def readyIntent (operationId : Identifier) (request : StartOperationRequest) (plan : Plan)
    (targets : List Identifier) (time : Timestamp) : StartOperation where
  kind := .startReadyInstances
  operationId := operationId
  request := request
  targets := targets
  unavailable := (plan.instances.filter (·.status = .unavailable)).map (·.instanceId)
  progress := targets.eraseDups.map (.fresh time)
  state := .queued
  lastError := none
  lastRetry := none
  confirmedAt := none
  createdAt := time
  updatedAt := time
  completedAt := none
  maxAttempts := 0
  error := none
  result := none

/-- The answer to a request on all ready instances that was made before, or its new intent
    (`application.py:299-384`); without a summary the intent is to be carried out. -/
def confirmLocked (operationId : Identifier) (request : StartOperationRequest)
    (answer : StartSurroundings) (desk : StartDesk) :
    Except Fault (Option StartSummary) × StartDesk :=
  match desk.intents.lookup operationId with
  | some intent =>
      if intent.kind ≠ .startReadyInstances ∨ intent.request ≠ request then
        (.error (reusedId operationId), desk)
      else if intent.state = .committed then (.ok (some intent.summary), desk)
      else if intent.state = .aborted then (.error (terminalFault intent), desk)
      else (.ok none, desk)
  | none =>
      match answer.plan with
      | none => (.error (.harness .taskNotFound "The task does not have a saved plan."), desk)
      | some plan =>
          if plan.task.status ∈ [.awaitingStartConfirmation, .running, .blockedUnavailable] then
            match selectTargets (readyTargets plan) request.onlyInstanceIds with
            | .error error => (.error (.raised error), desk)
            | .ok targets =>
                (.ok none, desk.write (readyIntent operationId request plan targets answer.now))
          else (.error (.harness .invalidStateTransition
            "Only a planned task may start ready Agent instances."
            [("current", .text plan.task.status.name)]), desk)

/-- Whether the thread that carries out intents runs. -/
def runnerAlive : Starting Bool := Thread.read fun _ desk => .ok desk.runnerAlive

/-- The intent is carried out by the runner, or here when there is none. -/
def handOver (operationId : Identifier) : Starting StartSummary := do
  let alive ← runnerAlive
  if alive then do
    let intent ← readIntent operationId
    return intent.summary
  else resumeStart operationId

/-- The request on all ready instances, or on the selected ones. -/
def readyRequest (taskId : Identifier) (envelope : CommandEnvelope)
    (onlyInstanceIds : Option (List Identifier)) : StartOperationRequest :=
  ⟨taskId, envelope, none, onlyInstanceIds.map fun only =>
    only.eraseDups.mergeSort fun first second => decide (first ≤ second)⟩

/-- `confirm_and_start_ready_instances` (`application.py:277-392`). -/
def confirmAndStartReadyInstances (operationId taskId : Identifier) (envelope : CommandEnvelope)
    (onlyInstanceIds : Option (List Identifier)) : Starting StartSummary := do
  requireTaskNotArchived taskId
  let replayed ← Thread.atomically
    (confirmLocked operationId (readyRequest taskId envelope onlyInstanceIds))
  match replayed with
  | some summary => return summary
  | none => do
      ask (·.configLocked)
      confirmStartIntent operationId
      handOver operationId

/-- The failure is the one of the gate of the prior release. -/
def isGateFailure (failure : StartFailure) : Bool :=
  failure.code = ErrorCode.invalidStateTransition.name &&
    failure.message = "The instance stage and task are not authorized to start."

/-- `_is_recoverable_ppt_gate_failure` (`application.py:1745-1775`). -/
def isRecoverablePptGateFailure (intent : StartOperation) (answer : StartSurroundings)
    (desk : StartDesk) : Bool :=
  intent.kind = .startInstance && intent.state = .aborted &&
    intent.lastError.any isGateFailure &&
    intent.request.instanceId.any fun instanceId =>
      (intent.progressOf instanceId).any (·.stage = .none) &&
        (desk.instance? ⟨intent.request.taskId, instanceId⟩).any fun item =>
          item.agentType = .ppt && (item.status = .ready || item.status = .failedToStart) &&
            (requirePptStartGate answer.plan instanceId).isOk

/-- The intent of an operation that is to be carried out again. -/
def retriedIntent (intent : StartOperation) (reopens : Bool) (envelope : CommandEnvelope)
    (time : Timestamp) : StartOperation :=
  let reopened := if reopens then intent.progress.map TargetProgress.reopened else intent.progress
  { intent with
    progress := reopened.map (TargetProgress.retried time)
    completedAt := if reopens then none else intent.completedAt
    error := if reopens then none else intent.error
    state := .queued, lastError := none, lastRetry := some envelope, updatedAt := time }

/-- What `retry_start_operation` does under the lock of the operation
    (`application.py:450-528`). -/
def retryLocked (operationId : Identifier) (envelope : CommandEnvelope)
    (answer : StartSurroundings) (desk : StartDesk) :
    Except Fault (StartOperation × Bool) × StartDesk :=
  match desk.intents.lookup operationId with
  | none =>
      (.error (.harness .taskNotFound "The requested start operation does not exist."), desk)
  | some intent =>
      let recoverable := isRecoverablePptGateFailure intent answer desk
      if envelope.actorType ≠ .human ∧ envelope.actorType ≠ .master then
        (.error (.harness .validationError "Only a human or Master may recover a start."), desk)
      else if intent.lastRetry.map (·.idempotencyKey) = some envelope.idempotencyKey then
        if intent.lastRetry = some envelope then (.ok (intent, false), desk)
        else (.error (.harness .idempotencyConflict
          "The start recovery idempotency key was reused for another request."), desk)
      else if intent.state ≠ .retryableFailed ∧ recoverable = false then
        (.error (.harness .invalidStateTransition
          "Only a retryable failed start operation may be recovered."
          [("current", .text intent.state.name)]), desk)
      else if recoverable = false ∧ intent.retryAllowed = false ∨
          recoverable = true ∧ intent.attemptsExhausted = true then
        (.error (.harness .invalidStateTransition
          "The start operation exhausted its retry attempts."
          [("operation_id", .text operationId)]), desk)
      else
        match answer.revisionChecked with
        | .error error => (.error (.raised error), desk)
        | .ok _ =>
            let retried := retriedIntent intent recoverable envelope answer.now
            (.ok (retried, true), desk.write retried)

/-- `retry_start_operation` (`application.py:445-536`). -/
def retryStartOperation (operationId : Identifier) (envelope : CommandEnvelope) :
    Starting StartSummary := do
  let retried ← Thread.atomically (retryLocked operationId envelope)
  if retried.2 = true ∧ retried.1.isInstance = false then do
    let alive ← runnerAlive
    if alive then return retried.1.summary else resumeStart operationId
  else return retried.1.summary

end StartOperations

end DesignHarness
