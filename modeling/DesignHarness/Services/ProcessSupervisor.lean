import Mathlib.Data.List.AList
import DesignHarness.Library.Threads
import DesignHarness.Services.PptStart
import DesignHarness.Storage.Store

/-!
# The process supervisor

The supervisor starts one wrapper process for each launch of an instance, gives it a port of its
own and records it (`supervisor.py`, `supervisor_lifecycle.py` and `PortAllocator` of
`process_runtime.py`).  Operations on one instance hold the lock of the instance; operations on
different instances run beside each other, and every read and every write of a file is a step.

A process is named by its place in the list of all processes that were started: a pid together with
its start identity names one process and is never used again.
-/

namespace DesignHarness

open Library

/-! ## Records -/

/-- An instance of a task; its lock is held under this key. -/
structure InstanceKey where
  taskId : Identifier
  instanceId : Identifier
  deriving DecidableEq, Repr

/-- `state` of a launch record. -/
inductive LaunchState where
  | prepared
  | starting
  | running
  | exited
  | failedToStart
  deriving DecidableEq, Repr

def LaunchState.name : LaunchState → String
  | prepared => "PREPARED"
  | starting => "STARTING"
  | running => "RUNNING"
  | exited => "EXITED"
  | failedToStart => "FAILED_TO_START"

/-- `ACTIVE_LAUNCH_STATES` (`process_runtime.py:23`). -/
def LaunchState.isActive : LaunchState → Bool
  | prepared | starting | running => true
  | exited | failedToStart => false

/-- A record of `processes/launches`. -/
structure LaunchRecord where
  key : InstanceKey
  launchId : Identifier
  attemptId : Identifier
  state : LaunchState
  port : Nat
  specSha256 : String
  codeIdentity : String
  healthPath : String
  readinessPath : String
  uiPath : String
  preparedAt : Timestamp
  /-- `pid` and `start_identity`. -/
  process : Option Nat
  /-- `child_pid` and `child_start_identity`: the Agent below that wrapper. -/
  child : Option Nat
  startedAt : Option Timestamp
  healthFailures : Nat
  healthFailureThreshold : Nat
  exitReason : Option String
  deriving DecidableEq, Repr

/-- A claim of `processes/ports.json`. -/
structure PortClaim where
  key : InstanceKey
  launchId : Identifier
  deriving DecidableEq, Repr

/-- A wrapper process that was started for a launch, and the Agent below it. -/
structure AgentProcess where
  launchId : Identifier
  port : Nat
  alive : Bool
  childAlive : Bool
  /-- The wrapper has written `{launch_id}.child.json`. -/
  handshake : Bool
  deriving DecidableEq, Repr

/-- `status` of a model call. -/
inductive ModelCallStatus where
  | inProgress
  | completed
  | interrupted
  deriving DecidableEq, Repr

/-- A record of `attempts`. -/
structure ModelCall where
  key : InstanceKey
  attemptId : Identifier
  requestId : String
  launchId : Identifier
  status : ModelCallStatus
  reason : Option String
  deriving DecidableEq, Repr

/-- A command of a task that was done under an idempotency key, as far as the supervisor makes it
    as well. -/
inductive KeptCommand where
  | transitionInstance (instanceId : Identifier) (target : InstanceStatus)
  | other
  deriving DecidableEq, Repr

/-- What the operations of the supervisor share: its files, the stored instances, the commands that
    were done and the processes of the machine. -/
structure Supervised where
  launches : AList fun _ : Identifier => LaunchRecord
  claims : Nat → Option PortClaim
  instances : List AgentInstance
  /-- By the task and the idempotency key. -/
  commands : Identifier → String → Option KeptCommand
  modelCalls : List ModelCall
  processes : List AgentProcess

namespace Supervised

def empty : Supervised := ⟨∅, fun _ => none, [], fun _ _ => none, [], []⟩

/-- `self.store.instance.get(task_id, instance_id)`. -/
def instance? (state : Supervised) (key : InstanceKey) : Option AgentInstance :=
  state.instances.find? fun item => item.taskId = key.taskId ∧ item.instanceId = key.instanceId

/-- The instance with other fields. -/
def updateInstance (state : Supervised) (key : InstanceKey)
    (update : AgentInstance → AgentInstance) : Supervised :=
  { state with instances := state.instances.map fun item =>
      if item.taskId = key.taskId ∧ item.instanceId = key.instanceId then update item else item }

def setStatus (state : Supervised) (key : InstanceKey) (status : InstanceStatus) : Supervised :=
  state.updateInstance key fun item => { item with status }

/-- The command is kept under its key. -/
def keepCommand (state : Supervised) (taskId : Identifier) (idempotencyKey : String)
    (command : KeptCommand) : Supervised :=
  { state with
    commands := Function.update state.commands taskId
      (Function.update (state.commands taskId) idempotencyKey (some command)) }

/-- `atomic_write_json(self._launch_path(record["launch_id"]), record)`. -/
def writeLaunch (state : Supervised) (record : LaunchRecord) : Supervised :=
  { state with launches := state.launches.insert record.launchId record }

/-- The records in the order of their file names. -/
def launchRecords (state : Supervised) : List LaunchRecord :=
  (state.launches.entries.map Sigma.snd).mergeSort fun first second =>
    decide (first.launchId ++ ".json" ≤ second.launchId ++ ".json")

/-- `_launches_for_instance` (`supervisor.py:733-739`). -/
def launchesForInstance (state : Supervised) (key : InstanceKey) : List LaunchRecord :=
  state.launchRecords.filter (·.key = key)

/-- `_active_launch_for_instance` (`supervisor.py:723-731`). -/
def activeLaunchForInstance (state : Supervised) (key : InstanceKey) : Option LaunchRecord :=
  (state.launchesForInstance key).reverse.find? (·.state.isActive)

/-- `process_start_identity(pid) == start_identity`. -/
def isAlive (state : Supervised) (process : Nat) : Bool :=
  state.processes[process]?.any (·.alive)

/-- `process_group_contains`, for the wrapper and the Agent that the record names. -/
def childIsAlive (state : Supervised) (process : Nat) : Bool :=
  state.processes[process]?.any fun found => found.alive && found.childAlive

/-- `_record_is_alive` (`supervisor.py:593-597`). -/
def recordIsAlive (state : Supervised) (record : LaunchRecord) : Bool :=
  record.process.any state.isAlive

/-- `_record_child_is_alive` (`supervisor.py:649-657`). -/
def recordChildIsAlive (state : Supervised) (record : LaunchRecord) : Bool :=
  record.child.any state.childIsAlive

/-- `terminate_process_tree`. -/
def terminate (state : Supervised) (process : Nat) : Supervised :=
  { state with processes := state.processes.modify process fun found =>
      { found with alive := false, childAlive := false } }

/-- The handshake of a launch: the wrapper that wrote it. -/
def handshakeOf (state : Supervised) (launchId : Identifier) : Option Nat :=
  state.processes.findIdx? fun found => found.launchId = launchId && found.handshake

end Supervised

/-- The `supervisor` section of a resolved launch configuration. -/
structure SupervisorSettings where
  portRangeStart : Nat
  portRangeEnd : Nat
  healthFailureThreshold : Nat
  deriving DecidableEq, Repr

/-- What a step of the supervisor is answered by the machine and by other components. -/
structure Surroundings where
  now : Timestamp
  /-- `port_is_available`. -/
  bindable : Nat → Bool
  /-- `_probe`: the process at the port answers 200 at the path. -/
  probe : Nat → String → Bool
  /-- The digest of the runtime artifact that was pinned. -/
  pinned : Outcome String
  /-- The stored plan of the task. -/
  plan : Option Plan
  /-- `self.store.task.revision(task_id, task_id)`. -/
  revision : Nat
  /-- `resolve_launch` or `resolve_ppt_launch`. -/
  launchConfig : Outcome SupervisorSettings
  /-- What is done between the record and the process: the command, the environment, the launch
      specification, `Popen`. -/
  spawning : Outcome Unit
  /-- A command on the task store. -/
  commanded : Outcome Unit
  /-- `update_instance_fields`. -/
  projected : Outcome Unit

/-- What an operation of the supervisor can raise. -/
inductive Fault where
  | raised (error : Raised)
  | timeout (message : String)
  deriving DecidableEq, Repr

/-- `type(exc).__name__`. -/
def Fault.typeName : Fault → String
  | .raised (.harness _) => "HarnessError"
  | .raised (.keyError _) => "KeyError"
  | .raised .stopIteration => "StopIteration"
  | .raised (.valueError _) => "ValueError"
  | .raised (.validationError _) => "ValidationError"
  | .raised .typeError => "TypeError"
  | .raised (.runtimeError _) => "RuntimeError"
  | .raised .assertionError => "AssertionError"
  | .raised (.osError _) => "OSError"
  | .timeout _ => "TimeoutError"

def Fault.harness (code : ErrorCode) (message : String) (details : List (String × Detail) := []) :
    Fault :=
  .raised (.harness ⟨code, message, details⟩)

/-- An operation of the supervisor. -/
abbrev Supervising := Thread Surroundings Supervised Fault

namespace Supervisor

/-! ## Steps -/

def raising {α : Type} (outcome : Outcome α) : Except Fault α :=
  match outcome with
  | .ok value => .ok value
  | .error error => .error (.raised error)

/-- `_instance` (`supervisor.py:749-753`). -/
def requireInstance (key : InstanceKey) : Supervising AgentInstance :=
  Thread.read fun _ state =>
    match state.instance? key with
    | some item => .ok item
    | none => .error (.harness .instanceNotFound "The requested instance does not exist.")

def writeLaunch (record : LaunchRecord) : Supervising Unit :=
  Thread.change fun _ state => state.writeLaunch record

/-- The instance is one of the plan. -/
def isPlanned (plan : Option Plan) (key : InstanceKey) : Bool :=
  plan.any fun plan => plan.instances.any (·.instanceId = key.instanceId)

/-- `transition_instance` under an idempotency key: a command that was done before under the key is
    answered with its result, or with a conflict if it was another one. -/
def commandTransition (answer : Surroundings) (state : Supervised) (key : InstanceKey)
    (current target : InstanceStatus) (idempotencyKey : String) : Outcome Supervised := do
  let envelope ← CommandEnvelope.validate
    ⟨idempotencyKey, .system, "process_supervisor", answer.revision⟩
  match state.commands key.taskId envelope.idempotencyKey with
  | some kept => do
      ensure (kept = .transitionInstance key.instanceId target)
        (idempotencyConflict key.taskId "transition_instance")
      return state
  | none => do
      answer.commanded
      transitionInstanceStatus current target
      return (state.setStatus key target).keepCommand key.taskId envelope.idempotencyKey
        (.transitionInstance key.instanceId target)

/-- An instance without a plan is written as it is. -/
def putTransition (answer : Surroundings) (state : Supervised) (key : InstanceKey)
    (current target : InstanceStatus) : Outcome Supervised := do
  transitionInstanceStatus current target
  answer.commanded
  return state.setStatus key target

/-- `_transition` (`supervisor_lifecycle.py:366-421`): the command is made again until it is done,
    or refused for good. -/
def transition (key : InstanceKey) (target : InstanceStatus) (idempotencyKey : String) :
    Supervising Unit :=
  Thread.atomically fun answer state =>
    match state.instance? key with
    | none => (.error (.harness .instanceNotFound "The requested instance does not exist."), state)
    | some item =>
        if item.status = target then (.ok (), state)
        else
          match if isPlanned answer.plan key
            then commandTransition answer state key item.status target idempotencyKey
            else putTransition answer state key item.status target with
          | .error error => (.error (.raised error), state)
          | .ok later => (.ok (), later)

/-- The values of `_write_process_projection` (`supervisor.py:470-491`). -/
def processProjection (record : LaunchRecord) (process : ProcessState) (item : AgentInstance) :
    AgentInstance :=
  { item with
    process := record.process.map fun pid =>
      ⟨pid, record.port, record.launchId, process, record.startedAt.getD record.preparedAt⟩
    uiUrl := if process = .running then
        some ("http://127.0.0.1:" ++ toString record.port ++ record.uiPath)
      else none }

/-- `_write_process_projection` (`supervisor.py:470-499`). -/
def writeProcessProjection (record : LaunchRecord) (process : ProcessState) : Supervising Unit :=
  Thread.atomically fun answer state =>
    match answer.projected with
    | .error error => (.error (.raised error), state)
    | .ok () => (.ok (), state.updateInstance record.key (processProjection record process))

/-- The process is terminated, when the condition holds of it. -/
def terminateIf (condition : Supervised → Bool) (process : Option Nat) : Supervising Unit :=
  Thread.change fun _ state =>
    match process with
    | some process => if condition state then state.terminate process else state
    | none => state

/-- `PortAllocator.allocate` (`process_runtime.py:729-755`). -/
def allocate (key : InstanceKey) (launchId : Identifier) (start stop : Nat) : Supervising Nat :=
  Thread.atomically fun answer state =>
    match (List.range' start (stop + 1 - start)).find? fun port =>
        (state.claims port).isNone && answer.bindable port with
    | some port =>
        (.ok port, { state with
          claims := Function.update state.claims port (some ⟨key, launchId⟩) })
    | none =>
        (.error (.harness .processStartFailed "No free port is available in the configured range."
          [("port_range_start", .number start), ("port_range_end", .number stop)]), state)

/-- `PortAllocator.restore` (`process_runtime.py:757-776`). -/
def restore (key : InstanceKey) (launchId : Identifier) (port : Nat) : Supervising Unit :=
  Thread.atomically fun _ state =>
    match state.claims port with
    | some claim =>
        if claim = ⟨key, launchId⟩ then (.ok (), state)
        else (.error (.harness .processStartFailed
          "A live launch conflicts with the persisted port claim." [("port", .number port)]), state)
    | none =>
        (.ok (), { state with claims := Function.update state.claims port (some ⟨key, launchId⟩) })

/-- `PortAllocator.release` (`process_runtime.py:778-784`). -/
def release (launchId : Identifier) (port : Nat) : Supervising Unit :=
  Thread.change fun _ state =>
    if (state.claims port).any (·.launchId = launchId) then
      { state with claims := Function.update state.claims port none }
    else state

/-- What `PortAllocator.reconcile` retains (`process_runtime.py:786-800`), for the launches that
    were active when they were read. -/
def retained (active : List LaunchRecord) (claims : Nat → Option PortClaim) :
    Nat → Option PortClaim :=
  fun port => (claims port).filter fun claim =>
    active.any fun record => decide (record.launchId = claim.launchId ∧ record.port = port)

/-- `PortAllocator.reconcile` (`process_runtime.py:786-800`). -/
def reconcilePorts (active : List LaunchRecord) : Supervising Unit :=
  Thread.change fun _ state => { state with claims := retained active state.claims }

/-- The turn of one record in `_interrupt_model_calls`. -/
def interruptModelCall (key : InstanceKey) (reason : String) (call : ModelCall) :
    Supervising Unit :=
  Thread.change fun _ state => { state with modelCalls := state.modelCalls.map fun other =>
    if other.key.taskId = call.key.taskId ∧ other.attemptId = call.attemptId ∧
        other.key = key ∧ other.status = .inProgress then
      { other with status := .interrupted, reason := some reason }
    else other }

/-- `_interrupt_model_calls` (`supervisor.py:755-792`). -/
def interruptModelCalls (key : InstanceKey) (reason : String) : Supervising Unit := do
  let calls ← Thread.read fun _ state =>
    .ok (state.modelCalls.filter fun call => call.key.taskId = key.taskId)
  Thread.forEach (interruptModelCall key reason) calls

/-- `begin_model_call` (`supervisor_lifecycle.py:187-221`). -/
def beginModelCall (key : InstanceKey) (attemptId : Identifier) (requestId : String) :
    Supervising ModelCall := do
  if requestId = "" ∨ 512 < requestId.length ∨ requestId.toList.contains (Char.ofNat 0) then
    Thread.raise (.harness .validationError "The Provider request id is invalid.")
  else
    let active ← Thread.read fun _ state => .ok (state.activeLaunchForInstance key)
    match active.filter fun record => record.state = .running with
    | none =>
        Thread.raise (.harness .processStartFailed "The instance has no ready process.")
    | some active =>
        Thread.atomically fun _ state =>
          match state.modelCalls.find? fun call =>
              call.key.taskId = key.taskId ∧ call.attemptId = attemptId with
          | some existing =>
              if existing.requestId ≠ requestId ∨ existing.key ≠ key then
                (.error (.harness .idempotencyConflict
                  "The attempt id was reused for another model call."), state)
              else (.ok existing, state)
          | none =>
              let record : ModelCall :=
                ⟨key, attemptId, requestId, active.launchId, .inProgress, none⟩
              (.ok record, { state with modelCalls := state.modelCalls ++ [record] })

/-- `complete_model_call` (`supervisor_lifecycle.py:223-232`). -/
def completeModelCall (taskId attemptId : Identifier) : Supervising Unit :=
  Thread.atomically fun _ state =>
    match state.modelCalls.find? fun call =>
        call.key.taskId = taskId ∧ call.attemptId = attemptId with
    | none =>
        (.error (.harness .validationError "The model-call attempt does not exist."), state)
    | some _ =>
        (.ok (), { state with modelCalls := state.modelCalls.map fun call =>
          if call.key.taskId = taskId ∧ call.attemptId = attemptId ∧
              call.status = .inProgress then
            { call with status := .completed }
          else call })

/-- What `_stop_launch` and `_handle_unexpected_exit` do first (`supervisor_lifecycle.py:289-333`):
    the process is terminated, then the record and the port are given up. -/
def exitLaunch (record : LaunchRecord) (reason : String) : Supervising LaunchRecord := do
  terminateIf (fun state => state.recordIsAlive record || state.recordChildIsAlive record)
    record.process
  let exited : LaunchRecord := { record with state := .exited, exitReason := some reason }
  writeLaunch exited
  release record.launchId record.port
  writeProcessProjection exited .exited
  return exited

/-- `_stop_launch` (`supervisor_lifecycle.py:289-313`). -/
def stopLaunch (record : LaunchRecord) (reason : String) : Supervising LaunchRecord :=
  exitLaunch record reason

/-- The status of an instance whose process ended by itself, and how the idempotency key ends. -/
def statusAfterExit : InstanceStatus → Option (InstanceStatus × String)
  | .starting => some (.failedToStart, "-failed-during-start")
  | .running => some (.crashed, "-crashed")
  | .waitingApproval => some (.failed, "-crashed-waiting")
  | _ => none

/-- What becomes of an instance whose process ended by itself. -/
def recordExit (key : InstanceKey) (launchId : Identifier) (reason : String) :
    Supervising Unit := do
  interruptModelCalls key reason
  let item ← requireInstance key
  match statusAfterExit item.status with
  | some (target, suffix) => transition key target (launchId ++ suffix)
  | none => return ()

/-- `_handle_unexpected_exit` (`supervisor_lifecycle.py:315-364`). -/
def handleUnexpectedExit (record : LaunchRecord) (reason : String) : Supervising Unit := do
  let _ ← exitLaunch record reason
  recordExit record.key record.launchId reason

/-! ## Starting a process -/

/-- The arguments of `start_instance`. -/
structure StartRequest where
  key : InstanceKey
  launchId : Identifier
  attemptId : Identifier
  specSha256 : String
  healthPath : String
  readinessPath : String
  uiPath : String
  deriving DecidableEq, Repr

/-- `validate_launch_identity` (`process_runtime.py:641-667`). -/
def validateLaunchIdentity (record : LaunchRecord) (request : StartRequest)
    (codeIdentity : String) : Except Fault Unit :=
  if record.key ≠ request.key ∨ record.attemptId ≠ request.attemptId ∨
      record.codeIdentity ≠ codeIdentity ∨ record.specSha256 ≠ request.specSha256 then
    .error (.harness .idempotencyConflict
      "The launch id was reused for a different process request.")
  else .ok ()

/-- `_hydrate_launch_identity` (`supervisor.py:599-647`): a wrapper that started before its record
    gained a pid is adopted. -/
def hydrateLaunchIdentity (record : LaunchRecord) : Supervising LaunchRecord :=
  if record.process.isSome ∨ record.state ≠ .prepared then
    return record
  else do
    let adoptable ← Thread.read fun _ state =>
      .ok ((state.handshakeOf record.launchId).filter state.childIsAlive)
    match adoptable with
    | none => return record
    | some process => do
        let adopted : LaunchRecord := { record with
          state := .starting, process := some process, child := some process
          startedAt := some record.preparedAt }
        writeLaunch adopted
        return adopted

/-- The answer to a launch id that has a record. -/
def reuseLaunch (record : LaunchRecord) (request : StartRequest) (codeIdentity : String) :
    Supervising LaunchRecord := do
  Thread.lift (validateLaunchIdentity record request codeIdentity)
  hydrateLaunchIdentity record

/-- `_enforce_code_identity` (`supervisor.py:526-537`). -/
def enforceCodeIdentity (key : InstanceKey) (codeIdentity : String) : Supervising Unit :=
  Thread.read fun _ state =>
    if (((state.launchesForInstance key).map (·.codeIdentity)).filter (· ≠ "")).all
        (· = codeIdentity) then .ok ()
    else .error (.harness .processStartFailed
      "The Agent code identity is fixed for the instance lifecycle."
      [("instance_id", .text key.instanceId)])

/-- The checks of `_start` on the instance (`supervisor.py:257-266`). -/
def authorizeStart (item : AgentInstance) (preserveBusinessState : Bool) : Supervising Unit :=
  Thread.read fun answer _ =>
    if item.status = .archived then
      .error (.harness .invalidStateTransition "An archived instance is read-only.")
    else if preserveBusinessState then .ok ()
    else raising (validateStartEligibility answer.plan item)

/-- `Popen`, after what is prepared for it (`supervisor.py:342-398`). -/
def spawn (prepared : LaunchRecord) : Supervising Nat :=
  Thread.atomically fun answer state =>
    match answer.spawning with
    | .error error => (.error (.raised error), state)
    | .ok () => (.ok state.processes.length, { state with
        processes := state.processes ++ [⟨prepared.launchId, prepared.port, true, true, false⟩] })

/-- `process_start_identity(process.pid)` must be readable; the launch starts now. -/
def identify (process : Nat) : Supervising Timestamp :=
  Thread.read fun answer state =>
    if state.isAlive process then .ok answer.now
    else .error (.raised (.runtimeError "the process start identity could not be read"))

/-- The last round of the loop that waits for the process (`supervisor.py:430-443`). -/
def awaitReady (record : LaunchRecord) (process : Nat) : Supervising Unit :=
  Thread.read fun answer state =>
    if state.isAlive process = false then
      .error (.raised (.runtimeError "process exited before readiness"))
    else if answer.probe record.port record.healthPath &&
        answer.probe record.port record.readinessPath then .ok ()
    else .error (.timeout "process readiness timed out")

/-- What the `except` block raises in the end. -/
def startFault (launchId : Identifier) : Fault → Fault
  | .raised (.harness error) => .raised (.harness error)
  | fault => .harness .processStartFailed "The instance process did not become ready."
      [("failure_type", .text fault.typeName), ("launch_id", .text launchId)]

/-- The `except` block of `_start` (`supervisor.py:448-468`); `record` is `prepared` as it is
    then. -/
def startFailed (record : LaunchRecord) (process : Option Nat) (preserveBusinessState : Bool)
    (fault : Fault) : Supervising LaunchRecord := do
  terminateIf (fun state => process.any state.isAlive) process
  release record.launchId record.port
  let failed : LaunchRecord := { record with state := .failedToStart }
  writeLaunch failed
  writeProcessProjection failed .exited
  transition record.key (if preserveBusinessState then .failed else .failedToStart)
    (record.launchId ++ "-failed")
  Thread.raise (startFault record.launchId fault)

/-- A part of the `try` block; the `except` block finds the record and the process as given. -/
def guarded {α : Type} (record : LaunchRecord) (process : Option Nat)
    (preserveBusinessState : Bool) (part : Supervising α)
    (next : α → Supervising LaunchRecord) : Supervising LaunchRecord := do
  let outcome ← part.attempt
  match outcome with
  | .ok value => next value
  | .error fault => startFailed record process preserveBusinessState fault

/-- The wrapper is recorded; it may have written its handshake by the end. -/
def recordIdentity (started : LaunchRecord) : Supervising (Option Nat) := do
  writeLaunch started
  writeProcessProjection started .starting
  Thread.read fun _ state => .ok (state.handshakeOf started.launchId)

/-- The record with the handshake is written, and the process becomes ready. -/
def becomeReady (known : LaunchRecord) (process : Nat) : Supervising Unit := do
  writeLaunch known
  awaitReady known process

/-- The launch is recorded as running. -/
def recordRunning (running : LaunchRecord) (preserveBusinessState : Bool) :
    Supervising LaunchRecord := do
  writeLaunch running
  writeProcessProjection running .running
  if preserveBusinessState then return running
  else do
    transition running.key .running (running.launchId ++ "-running")
    return running

/-- The `try` block of `_start` (`supervisor.py:340-447`). -/
def launchProcess (prepared : LaunchRecord) (preserveBusinessState : Bool) :
    Supervising LaunchRecord :=
  guarded prepared none preserveBusinessState (spawn prepared) fun process =>
  guarded prepared (some process) preserveBusinessState (identify process) fun startedAt =>
  let started : LaunchRecord := { prepared with
    state := .starting, process := some process, startedAt := some startedAt }
  guarded started (some process) preserveBusinessState (recordIdentity started) fun child =>
  let known : LaunchRecord := { started with child }
  guarded known (some process) preserveBusinessState (becomeReady known process) fun _ =>
  let running : LaunchRecord := { known with state := .running }
  guarded running (some process) preserveBusinessState
    (recordRunning running preserveBusinessState) fun record => return record

/-- The record of a launch before its process. -/
def preparedRecord (request : StartRequest) (codeIdentity : String)
    (settings : SupervisorSettings) (port : Nat) (now : Timestamp) : LaunchRecord :=
  { key := request.key
    launchId := request.launchId
    attemptId := request.attemptId
    state := .prepared
    port
    specSha256 := request.specSha256
    codeIdentity
    healthPath := request.healthPath
    readinessPath := request.readinessPath
    uiPath := request.uiPath
    preparedAt := now
    process := none
    child := none
    startedAt := none
    healthFailures := 0
    healthFailureThreshold := settings.healthFailureThreshold
    exitReason := none }

/-- `_start` for a launch id without a record (`supervisor.py:249-468`). -/
def startNew (request : StartRequest) (codeIdentity : String) (preserveBusinessState : Bool) :
    Supervising LaunchRecord := do
  let active ← Thread.read fun _ state => .ok (state.activeLaunchForInstance request.key)
  match active with
  | some active => Thread.raise (.harness .processStartFailed
      "The instance already has an active launch." [("launch_id", .text active.launchId)])
  | none => do
      let item ← requireInstance request.key
      authorizeStart item preserveBusinessState
      let settings ← Thread.read fun answer _ => raising answer.launchConfig
      enforceCodeIdentity request.key codeIdentity
      let port ← allocate request.key request.launchId settings.portRangeStart
        settings.portRangeEnd
      let now ← Thread.read fun answer _ => .ok answer.now
      let prepared := preparedRecord request codeIdentity settings port now
      writeLaunch prepared
      if preserveBusinessState then
        launchProcess prepared preserveBusinessState
      else do
        transition request.key .starting (request.launchId ++ "-starting")
        launchProcess prepared preserveBusinessState

/-- `_start` (`supervisor.py:203-468`). -/
def start (request : StartRequest) (codeIdentity : String) (preserveBusinessState : Bool) :
    Supervising LaunchRecord := do
  let existing ← Thread.read fun _ state => .ok (state.launches.lookup request.launchId)
  match existing with
  | some existing => reuseLaunch existing request codeIdentity
  | none => startNew request codeIdentity preserveBusinessState

/-- `pin_runtime_artifact(spec)`. -/
def pinRuntimeArtifact : Supervising String := Thread.read fun answer _ => raising answer.pinned

/-- `start_instance` (`supervisor.py:93-112`). -/
def startInstance (request : StartRequest) : Supervising LaunchRecord := do
  let codeIdentity ← pinRuntimeArtifact
  start request codeIdentity false

/-- The active launch of the instance is stopped, and another one started. -/
def replaceActive (request : StartRequest) (codeIdentity reason : String)
    (preserveBusinessState : Bool) : Supervising LaunchRecord := do
  let current ← Thread.read fun _ state => .ok (state.activeLaunchForInstance request.key)
  match current with
  | some current => do
      interruptModelCalls request.key reason
      let _ ← stopLaunch current "RESTARTED"
      start request codeIdentity preserveBusinessState
  | none => start request codeIdentity preserveBusinessState

/-- The common end of `restart_instance` and `resume_instance`. -/
def replaceLaunch (request : StartRequest) (reason : String) (preserveBusinessState : Bool) :
    Supervising LaunchRecord := do
  let codeIdentity ← pinRuntimeArtifact
  enforceCodeIdentity request.key codeIdentity
  let existing ← Thread.read fun _ state => .ok (state.launches.lookup request.launchId)
  match existing with
  | some existing => reuseLaunch existing request codeIdentity
  | none => replaceActive request codeIdentity reason preserveBusinessState

/-- `restart_instance` (`supervisor.py:114-155`). -/
def restartInstance (request : StartRequest) : Supervising LaunchRecord := do
  let item ← requireInstance request.key
  replaceLaunch request "controlled_restart"
    (decide (item.status = .running ∨ item.status = .waitingApproval))

/-- `resume_instance` (`supervisor.py:157-210`). -/
def resumeInstance (request : StartRequest) : Supervising LaunchRecord := do
  let item ← requireInstance request.key
  if item.status = .stopped then replaceLaunch request "resume_restart" true
  else Thread.raise (.harness .invalidStateTransition "Only a stopped instance may be resumed."
    [("current", .text item.status.name)])

/-- `_promote_ready` (`supervisor.py:693-713`). -/
def promoteReady (record : LaunchRecord) : Supervising Unit := do
  let running : LaunchRecord := { record with state := .running, healthFailures := 0 }
  writeLaunch running
  writeProcessProjection running .running
  let item ← requireInstance record.key
  if item.status = .starting then
    transition record.key .running (record.launchId ++ "-running-recovered")
  else return ()

/-- Both probes of a record. -/
def isReady (record : LaunchRecord) : Supervising Bool :=
  Thread.read fun answer _ => .ok (answer.probe record.port record.healthPath &&
    answer.probe record.port record.readinessPath)

/-- `record["state"] == "STARTING" and self._probe(..) and self._probe(..)`. -/
def becameReady (record : LaunchRecord) : Supervising Bool :=
  if record.state = .starting then isReady record else pure false

/-- A running process that lives is probed; too many failures in a row end it. -/
def checkHealth (record : LaunchRecord) : Supervising Unit := do
  let healthy ← Thread.read fun answer _ => .ok (answer.probe record.port record.healthPath)
  if healthy then
    if record.healthFailures = 0 then return ()
    else writeLaunch { record with healthFailures := 0 }
  else do
    let failing : LaunchRecord := { record with healthFailures := record.healthFailures + 1 }
    writeLaunch failing
    if failing.healthFailures < failing.healthFailureThreshold then return ()
    else handleUnexpectedExit failing "health_or_process_exit"

/-- The turn of a record in `monitor_once` (`supervisor_lifecycle.py:38-72`).  A process that lives
    and is not ready is left alone, also after its startup timeout: the branch after the check of
    the timeout is `elif alive: continue`. -/
def monitorRecord (record : LaunchRecord) : Supervising Unit := do
  let alive ← Thread.read fun _ state => .ok (state.recordIsAlive record)
  if alive then
    if record.state = .starting then do
      let ready ← isReady record
      if ready then promoteReady record else return ()
    else checkHealth record
  else handleUnexpectedExit record "health_or_process_exit"

/-- The part of `monitor_once` under the lock of one instance. -/
def monitorLaunch (launchId : Identifier) : Supervising Unit := do
  let found ← Thread.read fun _ state => .ok (state.launches.lookup launchId)
  match found.filter fun record => record.state = .starting ∨ record.state = .running with
  | none => return ()
  | some record => monitorRecord record

/-- `process_state` of a recovered launch. -/
def projectedState (state : LaunchState) : ProcessState :=
  if state = .running then .running else .starting

/-- The turn of a record in `reconcile` (`supervisor_lifecycle.py:86-110`). -/
def reconcileLaunch (record : LaunchRecord) : Supervising Unit := do
  let hydrated ← hydrateLaunchIdentity record
  let alive ← Thread.read fun _ state => .ok (state.recordIsAlive hydrated)
  if alive then do
    restore hydrated.key hydrated.launchId hydrated.port
    let ready ← becameReady hydrated
    if ready then promoteReady hydrated
    else writeProcessProjection hydrated (projectedState hydrated.state)
  else handleUnexpectedExit hydrated "startup_reconcile"

/-- The idempotency key of `reconcile` for an instance. -/
def reconcileKey (instanceId : Identifier) : String := "reconcile-" ++ instanceId

/-- The turn of an instance in `reconcile` (`supervisor_lifecycle.py:111-122`). -/
def reconcileInstance (active : List InstanceKey) (item : AgentInstance) : Supervising Unit :=
  if (item.status = .starting ∨ item.status = .running) ∧
      ⟨item.taskId, item.instanceId⟩ ∉ active then do
    interruptModelCalls ⟨item.taskId, item.instanceId⟩ "missing_launch_on_recovery"
    transition ⟨item.taskId, item.instanceId⟩ .crashed (reconcileKey item.instanceId)
  else return ()

/-- `reconcile` (`supervisor_lifecycle.py:75-123`). -/
def reconcile : Supervising Unit := do
  let records ← Thread.read fun _ state => .ok state.launchRecords
  let active := records.filter (·.state.isActive)
  reconcilePorts active
  Thread.forEach reconcileLaunch active
  let instances ← Thread.read fun _ state => .ok state.instances
  Thread.forEach (reconcileInstance (active.map (·.key))) instances

/-- The model calls of the instance are interrupted, where there is a reason to. -/
def interruptFor (key : InstanceKey) : Option String → Supervising Unit
  | some reason => interruptModelCalls key reason
  | none => pure ()

/-- The active launch of the instance is stopped. -/
def stopActive (key : InstanceKey) (interrupting : Option String) (reason : String) :
    Supervising Unit := do
  let active ← Thread.read fun _ state => .ok (state.activeLaunchForInstance key)
  match active with
  | none => return ()
  | some active => do
      interruptFor key interrupting
      let _ ← stopLaunch active reason

/-- `cancel_instance` (`supervisor_lifecycle.py:125-140`). -/
def cancelInstance (key : InstanceKey) (idempotencyKey : Option String) : Supervising Unit := do
  let _ ← requireInstance key
  stopActive key (some "cancelled") "CANCELLED"
  transition key .cancelled (keyOr idempotencyKey ("cancel-" ++ key.instanceId))

/-- `suspend_instance` (`supervisor_lifecycle.py:142-164`). -/
def suspendInstance (key : InstanceKey) (idempotencyKey : Option String) : Supervising Unit := do
  let item ← requireInstance key
  stopActive key (some "suspended") "SUSPENDED"
  if item.status = .stopped then return ()
  else transition key .stopped (keyOr idempotencyKey ("suspend-" ++ key.instanceId))

/-- `archive_instance` (`supervisor_lifecycle.py:166-185`). -/
def archiveInstance (key : InstanceKey) (idempotencyKey : Option String) : Supervising Unit := do
  stopActive key none "ARCHIVED"
  transition key .archived (keyOr idempotencyKey ("archive-" ++ key.instanceId))

end Supervisor

end DesignHarness
