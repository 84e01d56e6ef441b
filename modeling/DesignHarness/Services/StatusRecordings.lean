import DesignHarness.Services.TaskCommands

/-!
# Recording the status of an instance

The supervisor and the runner of start operations record what happened to an instance with
`transition_instance`, under keys that they derive themselves
(`supervisor_lifecycle.py:111-185`, `366-421` and `application_planning.py:855-969`).  A run
interleaves these recordings with everything else that uses keys of the task.  A recording settles
when its keys have not been used before; the keys of `reconcile`, of `suspend_instance` and of a
failed start are used again, and then they replay a past status or are refused.
-/

namespace DesignHarness

open Library

namespace CommandStore

variable (taskId : Identifier)

/-- `_transition` (`supervisor_lifecycle.py:366-421`).  No other writer comes between, so the
    revision it reads is the current one and the loop runs once. -/
def transition (store : CommandStore) (instanceId : Identifier) (target : InstanceStatus)
    (key : String) (ambient : Ambient) : Outcome (AgentInstance × CommandStore) := do
  let item ← store.requireRecord instanceId
  if item.status = target then
    return (item, store)
  if (store.planned instanceId).isSome then
    match store.transitionInstance taskId instanceId target "process_supervisor" key ambient with
    | .ok (result, next) => do
        let moved ← movedInstance instanceId result
        return (moved, next)
    | .error error => do
        let current ← store.requireRecord instanceId
        if current.status = target then
          return (current, store)
        .error error
  else do
    transitionInstanceStatus item.status target
    let updated := { item with status := target }
    validateContract "agent-instance" updated.accepted
    return (updated, { store with
      unplanned := store.unplanned.map fun other =>
        if other.instanceId = instanceId then updated else other })

/-- The turn of an instance in the second loop of `reconcile`: it should have a process and no
    launch of it is active. -/
def reconcileInstance (active : Identifier → Bool) (ambient : Ambient) (store : CommandStore)
    (item : AgentInstance) : Outcome CommandStore := do
  if (item.status = .starting ∨ item.status = .running) ∧ active item.instanceId = false then
    let (_, next) ← store.transition taskId item.instanceId .crashed
      ("reconcile-" ++ item.instanceId) ambient
    return next
  return store

/-- The second loop of `reconcile` (`supervisor_lifecycle.py:111-122`), over the records of the
    task as they are when it begins. -/
def reconcile (store : CommandStore) (active : Identifier → Bool) (ambient : Ambient) :
    Outcome CommandStore :=
  store.records.foldlM (reconcileInstance taskId active ambient) store

/-- `suspend_instance` (`supervisor_lifecycle.py:142-164`), after the launch has been stopped. -/
def suspendInstance (store : CommandStore) (instanceId : Identifier)
    (idempotencyKey : Option String) (ambient : Ambient) : Outcome CommandStore := do
  let item ← store.requireRecord instanceId
  if item.status ≠ .stopped then
    let (_, next) ← store.transition taskId instanceId .stopped
      (keyOr idempotencyKey ("suspend-" ++ instanceId)) ambient
    return next
  return store

/-- `cancel_instance` (`supervisor_lifecycle.py:125-140`), after the launch has been stopped. -/
def cancelInstance (store : CommandStore) (instanceId : Identifier)
    (idempotencyKey : Option String) (ambient : Ambient) : Outcome CommandStore := do
  let (_, next) ← store.transition taskId instanceId .cancelled
    (keyOr idempotencyKey ("cancel-" ++ instanceId)) ambient
  return next

/-- `archive_instance` (`supervisor_lifecycle.py:166-185`), after the launch has been stopped. -/
def archiveInstance (store : CommandStore) (instanceId : Identifier)
    (idempotencyKey : Option String) (ambient : Ambient) : Outcome CommandStore := do
  let (_, next) ← store.transition taskId instanceId .archived
    (keyOr idempotencyKey ("archive-" ++ instanceId)) ambient
  return next

end CommandStore

/-! ## The runner of start operations -/

/-- `kind` of a start operation. -/
inductive StartKind where
  | startReadyInstances
  | startInstance
  | restartInstance
  deriving DecidableEq, Repr

/-- `state` of a target in `instance_progress`. -/
inductive StartProgressState where
  | pending
  | preparing
  | processStarting
  | agentStarting
  | running
  | retryableFailed
  | aborted
  | superseded
  deriving DecidableEq, Repr

def StartProgressState.name : StartProgressState → String
  | pending => "PENDING"
  | preparing => "PREPARING"
  | processStarting => "PROCESS_STARTING"
  | agentStarting => "AGENT_STARTING"
  | running => "RUNNING"
  | retryableFailed => "RETRYABLE_FAILED"
  | aborted => "ABORTED"
  | superseded => "SUPERSEDED"

/-- What `_record_start_failure` reads of an operation and of the progress of one target. -/
structure StartTarget where
  operationId : Identifier
  kind : StartKind
  maxAttempts : Nat
  instanceId : Identifier
  attempt : Nat
  state : StartProgressState
  deriving DecidableEq, Repr

/-- The details of an error that a start failure shows. -/
def publicDetails (details : List (String × Detail)) : List (String × Detail) :=
  details.filter fun detail => detail.1 ∈ ["actual_sha256", "expected_sha256", "failure_type",
    "instance_id", "launch_id", "launch_state", "http_status", "route", "mismatches", "errors"]

/-- The `failure` that `_record_start_failure` builds. -/
def StartTarget.failure (target : StartTarget) (error : HarnessError) (now : Timestamp) :
    StartFailure where
  code := error.code.name
  message := error.message
  details := publicDetails error.details
  phase := target.state.name
  operationId := target.operationId
  attempt := target.attempt
  retryable := (error.code = .processStartFailed || error.code = .controlPlaneNotReady) &&
    (target.maxAttempts = 0 || decide (target.attempt < target.maxAttempts))
  failedAt := now

namespace CommandStore

variable (taskId : Identifier)

/-- A failed restart leaves a process that still runs alone. -/
def restartKeptRunning (target : StartTarget) (current : AgentInstance) : Bool :=
  target.kind = .restartInstance &&
    (current.status = .running || current.status = .waitingApproval) &&
    current.process.any fun process => process.state = .running

/-- The instance is to be recorded as failed to start. -/
def recordsFailure (target : StartTarget) (current : AgentInstance) : Bool :=
  !restartKeptRunning target current &&
    (current.status = .ready || current.status = .starting || current.status = .running)

/-- `start-failed-<operation>-<attempt>`. -/
def failedKey (target : StartTarget) : String :=
  "start-failed-" ++ target.operationId ++ "-" ++ toString target.attempt

/-- `_record_start_failure` on the instance (`application_planning.py:915-951`). -/
def recordStartFailure (store : CommandStore) (target : StartTarget) (error : HarnessError)
    (ambient : Ambient) : Outcome CommandStore := do
  let current ← store.requireRecord target.instanceId
  let store ← if recordsFailure target current then
      Prod.snd <$> store.transitionInstance taskId target.instanceId .failedToStart
        "start_operation_runner" (failedKey target) ambient
    else pure store
  store.updateInstanceFields target.instanceId
    { startFailure := some (some (target.failure error ambient.now)) }

/-- `start-retry-ready-<operation>-<attempt>`. -/
def retryKey (target : StartTarget) : String :=
  "start-retry-ready-" ++ target.operationId ++ "-" ++ toString target.attempt

/-- `start-reused-process-<phase>-<operation>-<instance>-<attempt>`. -/
def reusedKey (target : StartTarget) (accepted : Bool) : String :=
  "start-reused-process-" ++ (if accepted then "running-" else "starting-") ++
    target.operationId ++ "-" ++ target.instanceId ++ "-" ++ toString target.attempt

/-- A transition that the runner makes only out of the expected status. -/
def transitionFrom (store : CommandStore) (instanceId : Identifier)
    (expected target : InstanceStatus) (key : String) (ambient : Ambient) :
    Outcome CommandStore := do
  let item ← store.requireRecord instanceId
  if item.status ≠ expected then
    return store
  Prod.snd <$> store.transitionInstance taskId instanceId target "start_operation_runner" key
    ambient

/-- `_restore_startable_instance` (`application_planning.py:953-969`). -/
def restoreStartableInstance (store : CommandStore) (target : StartTarget) (ambient : Ambient) :
    Outcome CommandStore :=
  store.transitionFrom taskId target.instanceId .failedToStart .ready
    (retryKey target) ambient

/-- The transitions of `_resume_start_instance` for a process that runs already
    (`application_planning.py:239-255` and `319-333`). -/
def startReusedProcess (store : CommandStore) (target : StartTarget) (accepted : Bool)
    (ambient : Ambient) : Outcome CommandStore :=
  if accepted then
    store.transitionFrom taskId target.instanceId .starting .running (reusedKey target true) ambient
  else
    store.transitionFrom taskId target.instanceId .ready .starting (reusedKey target false) ambient

end CommandStore

/-- A recording of the supervisor or of the runner. -/
inductive StatusRecording where
  | transition (instanceId : Identifier) (target : InstanceStatus) (key : String)
  | reconcile (active : Identifier → Bool)
  | suspend (instanceId : Identifier) (idempotencyKey : Option String)
  | cancel (instanceId : Identifier) (idempotencyKey : Option String)
  | archive (instanceId : Identifier) (idempotencyKey : Option String)
  | startFailure (target : StartTarget) (error : HarnessError)
  | restoreStartable (target : StartTarget)
  | startReused (target : StartTarget) (accepted : Bool)

/-- What changes the statuses and uses keys of a task. -/
inductive StatusStep where
  | command (command : Command) (envelope : CommandEnvelope) (ambient : Ambient)
  | updateInstanceFields (instanceId : Identifier) (changes : InstanceChanges)
  /-- Another service commits under the key. -/
  | useKey (key : String)
  /-- The records that no plan holds are written or removed. -/
  | setRecords (unplanned : List AgentInstance)
  | recording (recording : StatusRecording) (ambient : Ambient)

namespace StatusRecording

variable (taskId : Identifier)

def perform (store : CommandStore) (ambient : Ambient) : StatusRecording → Outcome CommandStore
  | .transition instanceId target key =>
      Prod.snd <$> store.transition taskId instanceId target key ambient
  | .reconcile active => store.reconcile taskId active ambient
  | .suspend instanceId idempotencyKey =>
      store.suspendInstance taskId instanceId idempotencyKey ambient
  | .cancel instanceId idempotencyKey =>
      store.cancelInstance taskId instanceId idempotencyKey ambient
  | .archive instanceId idempotencyKey =>
      store.archiveInstance taskId instanceId idempotencyKey ambient
  | .startFailure target error => store.recordStartFailure taskId target error ambient
  | .restoreStartable target => store.restoreStartableInstance taskId target ambient
  | .startReused target accepted => store.startReusedProcess taskId target accepted ambient

end StatusRecording

def taskStep (taskId : Identifier) (store : CommandStore) : StatusStep → Outcome CommandStore
  | .command command envelope ambient =>
      Prod.snd <$> store.command taskId command envelope ambient
  | .updateInstanceFields instanceId changes => store.updateInstanceFields instanceId changes
  | .useKey key =>
      match store.used key with
      | none => .ok (store.use key .service)
      | some _ => .error (idempotencyConflict taskId "service")
  | .setRecords unplanned => .ok { store with unplanned := unplanned }
  | .recording asked ambient => asked.perform taskId store ambient

/-! ## What a recording asks for -/

/-- The status that a recording is to give an instance. -/
structure StatusGoal where
  instanceId : Identifier
  target : InstanceStatus
  deriving DecidableEq, Repr

namespace CommandStore

/-- The key of the command that `_transition` issues, if it issues one. -/
def transitionKeys (store : CommandStore) (instanceId : Identifier) (target : InstanceStatus)
    (key : String) : List String :=
  if (store.planned instanceId).isSome ∧ store.status instanceId ≠ some target then [key] else []

/-- The instances that `reconcile` finds without the process they should have. -/
def lost (store : CommandStore) (active : Identifier → Bool) : List AgentInstance :=
  store.records.filter fun item =>
    (item.status = .starting || item.status = .running) && !active item.instanceId

end CommandStore

namespace StatusRecording

/-- The statuses that instances have when the recording has returned. -/
def goals (store : CommandStore) : StatusRecording → List StatusGoal
  | .transition instanceId target _ => [⟨instanceId, target⟩]
  | .reconcile active => (store.lost active).map fun item => ⟨item.instanceId, .crashed⟩
  | .suspend instanceId _ => [⟨instanceId, .stopped⟩]
  | .cancel instanceId _ => [⟨instanceId, .cancelled⟩]
  | .archive instanceId _ => [⟨instanceId, .archived⟩]
  | .startFailure target _ =>
      if (store.record target.instanceId).any (CommandStore.recordsFailure target) then
        [⟨target.instanceId, .failedToStart⟩]
      else []
  | .restoreStartable target =>
      if store.status target.instanceId = some .failedToStart then [⟨target.instanceId, .ready⟩]
      else []
  | .startReused target accepted =>
      if store.status target.instanceId = some (if accepted then .starting else .ready) then
        [⟨target.instanceId, if accepted then .running else .starting⟩]
      else []

/-- The keys of the commands that the recording issues. -/
def keys (store : CommandStore) : StatusRecording → List String
  | .transition instanceId target key => store.transitionKeys instanceId target key
  | .reconcile active => (store.lost active).flatMap fun item =>
      store.transitionKeys item.instanceId .crashed ("reconcile-" ++ item.instanceId)
  | .suspend instanceId idempotencyKey =>
      store.transitionKeys instanceId .stopped (keyOr idempotencyKey ("suspend-" ++ instanceId))
  | .cancel instanceId idempotencyKey =>
      store.transitionKeys instanceId .cancelled (keyOr idempotencyKey ("cancel-" ++ instanceId))
  | .archive instanceId idempotencyKey =>
      store.transitionKeys instanceId .archived (keyOr idempotencyKey ("archive-" ++ instanceId))
  | .startFailure target _ =>
      if (store.record target.instanceId).any (CommandStore.recordsFailure target) then
        [CommandStore.failedKey target]
      else []
  | .restoreStartable target =>
      if store.status target.instanceId = some .failedToStart then
        [CommandStore.retryKey target]
      else []
  | .startReused target accepted =>
      if store.status target.instanceId = some (if accepted then .starting else .ready) then
        [CommandStore.reusedKey target accepted]
      else []

end StatusRecording

/-- `HarnessError("IDEMPOTENCY_CONFLICT", ..)`. -/
def Raised.isConflict : Raised → Bool
  | .harness error => error.code = .idempotencyConflict
  | _ => false

/-- No command that the step issues to record a status has a key that was used before. -/
def StatusStep.Fresh (store : CommandStore) : StatusStep → Prop
  | .recording asked _ => ∀ key ∈ asked.keys store, store.used key = none
  | _ => True

/-- A recording that returns has given every instance the status it was to have, and a recording
    never raises `IDEMPOTENCY_CONFLICT`. -/
def StatusStep.Settles (taskId : Identifier) (store : CommandStore) : StatusStep → Prop
  | .recording asked ambient =>
      Ends (asked.perform taskId store ambient)
        (fun next => ∀ goal ∈ asked.goals store, next.status goal.instanceId = some goal.target)
        fun error => error.isConflict = false
  | _ => True

/-! ## Recordings under unused keys -/

namespace CommandStore

section

variable {taskId : Identifier} {store : CommandStore} {instanceId actorId : Identifier}
  {target : InstanceStatus} {key : String} {ambient : Ambient} {item : AgentInstance}

theorem not_conflict {error : Raised} (invalid : error.isInvalidTransition = true) :
    error.isConflict = false := by
  cases error with
  | harness error =>
      have code : error.code = .invalidStateTransition := of_decide_eq_true invalid
      simp [Raised.isConflict, code]
  | _ => rfl

theorem record_eq_some (found : store.record instanceId = some item) :
    item.instanceId = instanceId := by
  unfold record at found
  cases known : store.planned instanceId with
  | some planned =>
      rw [known] at found
      obtain rfl := Option.some.inj found
      obtain ⟨-, -, -, same⟩ := planned_eq_some known
      exact same
  | none =>
      rw [known] at found
      simpa using List.find?_some found

/-- `_instance` returns the record or raises `INSTANCE_NOT_FOUND`. -/
theorem requireRecord_ends {returns : AgentInstance → Prop}
    (returned : ∀ item, store.record instanceId = some item → returns item) :
    Ends (store.requireRecord instanceId) returns fun error => error.isConflict = false := by
  unfold requireRecord
  cases found : store.record instanceId with
  | none => rfl
  | some item => exact returned item found

/-- An event for an instance that no plan holds raises. -/
theorem transitionInstance_unplanned (missing : store.planned instanceId = none)
    (accepted : (CommandEnvelope.mk key .system actorId store.state.taskRevision).accepted = true)
    (unused : store.used key = none) :
    ∃ error, store.transitionInstance taskId instanceId target actorId key ambient =
      .error error ∧ error.isConflict = false := by
  unfold transitionInstance
  rw [issue_of_accepted accepted, command_unused rfl unused]
  cases stored : store.state.plan with
  | none =>
      have raised : TaskCommandService.handle store.state
          ⟨key, .system, actorId, store.state.taskRevision⟩ ambient
            (.transitionInstance instanceId target) = .error planNotFound := by
        simp only [TaskCommandService.handle, TaskCommandService.transitionInstance,
          TaskState.requirePlan, stored, error_bind]
      exact ⟨planNotFound, by rw [raised, error_bind], rfl⟩
  | some plan =>
      have absent : plan.instances.find? (·.instanceId = instanceId) = none := by
        simpa [planned, stored] using missing
      have raised : TaskCommandService.handle store.state
          ⟨key, .system, actorId, store.state.taskRevision⟩ ambient
            (.transitionInstance instanceId target) = .error instanceNotFound := by
        have revision : store.state.requireRevision
            ⟨key, .system, actorId, store.state.taskRevision⟩ plan.task.taskId = .ok () :=
          TaskState.requireRevision_eq_ok.mpr rfl
        have refused : plan.requireInstance instanceId = .error instanceNotFound := by
          simp only [Plan.requireInstance, absent]
        simp only [TaskCommandService.handle, TaskCommandService.transitionInstance,
          TaskState.requirePlan_eq_ok.mpr stored, revision, refused, ok_bind, error_bind]
      exact ⟨instanceNotFound, by rw [raised, error_bind], rfl⟩

/-- A command of the runner under an unused key. -/
theorem transitionInstance_ends (inv : StateInvariant store.state)
    (unused : store.used key = none) :
    Ends (store.transitionInstance taskId instanceId target actorId key ambient)
      (fun result => store.Recorded result.2 instanceId target key ∧
        ∃ moved, movedInstance instanceId result.1 = .ok moved ∧ moved.status = target)
      fun error => error.isConflict = false := by
  cases accepted :
      (CommandEnvelope.mk key .system actorId store.state.taskRevision).accepted with
  | false =>
      rw [transitionInstance, issue_of_rejected accepted]
      rfl
  | true =>
      cases found : store.planned instanceId with
      | none =>
          obtain ⟨error, raised, fine⟩ :
              ∃ error, store.transitionInstance taskId instanceId target actorId key ambient =
                .error error ∧ error.isConflict = false :=
            transitionInstance_unplanned found accepted unused
          rw [raised]
          exact fine
      | some item =>
          rcases transitionInstance_unused inv found accepted unused with
            ⟨result, next, moved, returned, known, status, recorded⟩ | ⟨error, raised, invalid⟩
          · rw [returned]
            exact ⟨recorded, moved, known, status⟩
          · rw [raised]
            exact not_conflict invalid

end

end CommandStore

namespace CommandStore

section

variable {taskId : Identifier} {store : CommandStore} {instanceId : Identifier}
  {target : InstanceStatus} {key : String} {ambient : Ambient} {item : AgentInstance}

theorem status_of_record (found : store.record instanceId = some item) :
    store.status instanceId = some item.status := by
  rw [status, found]
  rfl

/-- Nothing is recorded for an instance that has the status. -/
theorem Recorded.refl (inv : StateInvariant store.state)
    (status : store.status instanceId = some target) :
    store.Recorded store instanceId target key := by
  refine ⟨inv, fun other => ?_, fun _ => rfl, fun _ => .inl rfl⟩
  split
  · rename_i same
    rw [same, status]
  · rfl

/-- A record that no plan holds is written over. -/
theorem Recorded.unplanned (inv : StateInvariant store.state)
    (missing : store.planned instanceId = none) (found : store.record instanceId = some item) :
    store.Recorded { store with
      unplanned := store.unplanned.map fun other =>
        if other.instanceId = instanceId then { item with status := target } else other }
      instanceId target key := by
  refine ⟨inv, fun other => ?_, fun _ => rfl, fun _ => .inl rfl⟩
  have sameId := record_eq_some found
  have keeps : ∀ other : AgentInstance,
      (if other.instanceId = instanceId then { item with status := target } else other).instanceId =
        other.instanceId := by
    intro other
    split
    · rename_i same
      rw [same]
      exact sameId
    · rfl
  unfold status record CommandStore.planned
  rw [find?_map_of_instanceId keeps]
  by_cases same : other = instanceId
  · have listed : store.unplanned.find? (·.instanceId = instanceId) = some item := by
      unfold record at found
      rw [missing] at found
      exact found
    have absent : (store.state.plan.bind fun plan =>
        plan.instances.find? (·.instanceId = instanceId)) = none := missing
    rw [if_pos same, same, absent, listed]
    simp [sameId]
  · rw [if_neg same]
    cases (store.state.plan.bind fun plan => plan.instances.find? (·.instanceId = other)) with
    | some planned => rfl
    | none =>
        cases known : store.unplanned.find? (·.instanceId = other) with
        | none => rfl
        | some listed =>
            have listedId : listed.instanceId = other := by simpa using List.find?_some known
            simp [listedId, same]

/-- `_transition` gives the instance the status, when the key it uses is unused. -/
theorem transition_ends (inv : StateInvariant store.state)
    (unused : ∀ other ∈ store.transitionKeys instanceId target key, store.used other = none) :
    Ends (store.transition taskId instanceId target key ambient)
      (fun result => store.Recorded result.2 instanceId target key)
      fun error => error.isConflict = false := by
  unfold transition
  refine Ends.bind (requireRecord_ends fun item found => ?_)
  have status := status_of_record found
  by_cases reached : item.status = target
  · rw [if_pos reached]
    exact Recorded.refl inv (reached ▸ status)
  · rw [if_neg reached]
    have unreached : store.status instanceId ≠ some target := by
      rw [status]
      exact fun same => reached (Option.some.inj same)
    by_cases known : (store.planned instanceId).isSome
    · have free : store.used key = none := by
        refine unused key ?_
        rw [transitionKeys, if_pos ⟨known, unreached⟩]
        exact List.mem_singleton_self key
      have ends : Ends (store.transitionInstance taskId instanceId target "process_supervisor" key
          ambient) (fun result => store.Recorded result.2 instanceId target key ∧
            ∃ moved, movedInstance instanceId result.1 = .ok moved ∧ moved.status = target)
          fun error => error.isConflict = false := transitionInstance_ends inv free
      rw [if_pos known]
      cases asked : store.transitionInstance taskId instanceId target "process_supervisor" key
          ambient with
      | ok result =>
          rw [asked] at ends
          obtain ⟨recorded, moved, returned, -⟩ := ends
          simp only [returned, ok_bind]
          exact recorded
      | error error =>
          rw [asked] at ends
          simp only [requireRecord, found, ok_bind, if_neg reached]
          exact ends
    · rw [if_neg known]
      have missing : store.planned instanceId = none := by simpa using known
      refine Ends.bind ?_
      by_cases legal : target ∈ item.status.transitions
      · rw [show transitionInstanceStatus item.status target = .ok () from ensure_of legal]
        refine Ends.bind ?_
        by_cases accepted : AgentInstance.accepted { item with status := target } = true
        · rw [validateContract, ensure_of accepted]
          exact Recorded.unplanned inv missing found
        · rw [validateContract, ensure_of_not accepted]
          rfl
      · rw [show transitionInstanceStatus item.status target = .error _ from ensure_of_not legal]
        rfl

/-- Under a used key `_transition` records nothing. -/
theorem transition_used {use : KeyUse} (known : (store.planned instanceId).isSome)
    (unreached : store.status instanceId ≠ some target) (used : store.used key = some use) :
    Ends (store.transition taskId instanceId target key ambient)
      (fun result => result.2 = store) fun _ => True := by
  unfold transition
  cases found : store.record instanceId with
  | none =>
      rw [requireRecord, found]
      trivial
  | some item =>
      have status := status_of_record found
      have other : item.status ≠ target := fun same => unreached (same ▸ status)
      rw [requireRecord, found, ok_bind, if_neg other, if_pos known]
      have replayed : (∃ result, store.transitionInstance taskId instanceId target
            "process_supervisor" key ambient = .ok (result, store)) ∨
          ∃ error, store.transitionInstance taskId instanceId target "process_supervisor" key
            ambient = .error error := transitionInstance_used used
      obtain ⟨result, returned⟩ | ⟨error, raised⟩ := replayed
      · rw [returned]
        refine Ends.bind ?_
        cases movedInstance instanceId result with
        | ok moved => rfl
        | error error => trivial
      · rw [raised]
        dsimp only
        rw [ok_bind, if_neg other]
        trivial

/-- What `reconcile` has done of its loop: the lost instances of the items done are recorded as
    crashed, and the keys of those to come are unused. -/
structure Reconciling (before : CommandStore) (active : Identifier → Bool)
    (rest : List AgentInstance) (store : CommandStore) : Prop where
  listed : ∀ item ∈ rest, item ∈ before.records
  sound : StateInvariant store.state
  done : ∀ item ∈ before.lost active, item ∈ rest ∨
    store.status item.instanceId = some .crashed
  unused : ∀ item ∈ rest, item ∈ before.lost active →
    ∀ other ∈ store.transitionKeys item.instanceId .crashed ("reconcile-" ++ item.instanceId),
      store.used other = none

theorem mem_lost {active : Identifier → Bool} : item ∈ store.lost active ↔ item ∈ store.records ∧
    (item.status = .starting ∨ item.status = .running) ∧ active item.instanceId = false := by
  simp [lost]

/-- The keys of an instance whose turn is still to come, after the turn of another one. -/
theorem Recorded.transitionKeys {next : CommandStore} {other : Identifier} {otherKey : String}
    (recorded : store.Recorded next instanceId target key) (different : other ≠ instanceId) :
    next.transitionKeys other target otherKey = store.transitionKeys other target otherKey := by
  unfold CommandStore.transitionKeys
  rw [recorded.planned, recorded.moved, if_neg different]

theorem Recorded.transitionKeys_self {next : CommandStore} {otherKey : String}
    (recorded : store.Recorded next instanceId target key) :
    next.transitionKeys instanceId target otherKey = [] := by
  unfold CommandStore.transitionKeys
  rw [recorded.moved, if_pos rfl]
  exact if_neg fun both => both.2 rfl

theorem Reconciling.turn {before : CommandStore} {active : Identifier → Bool}
    {rest : List AgentInstance} (reconciling : Reconciling before active (item :: rest) store) :
    Ends (store.reconcileInstance taskId active ambient item) (Reconciling before active rest)
      fun error => error.isConflict = false := by
  have listed : ∀ other ∈ rest, other ∈ before.records :=
    fun other later => reconciling.listed other (List.mem_cons_of_mem _ later)
  unfold reconcileInstance
  by_cases wanted :
      (item.status = .starting ∨ item.status = .running) ∧ active item.instanceId = false
  · have lost : item ∈ before.lost active :=
      mem_lost.mpr ⟨reconciling.listed item List.mem_cons_self, wanted⟩
    rw [if_pos wanted]
    refine Ends.bind ((transition_ends reconciling.sound
      (reconciling.unused item List.mem_cons_self lost)).mono fun result recorded => ?_)
    refine ⟨listed, recorded.sound, fun other member => ?_, fun other later member => ?_⟩
    · have crashed : other ∈ item :: rest ∨ store.status other.instanceId = some .crashed :=
        reconciling.done other member
      rw [recorded.moved]
      by_cases same : other.instanceId = item.instanceId
      · exact .inr (if_pos same)
      · rw [if_neg same]
        refine crashed.imp_left fun present => ?_
        exact (List.mem_cons.mp present).resolve_left fun equal => same (equal ▸ rfl)
    · by_cases same : other.instanceId = item.instanceId
      · rw [same, recorded.transitionKeys_self]
        exact fun _ none => absurd none List.not_mem_nil
      · rw [recorded.transitionKeys same]
        intro used member'
        have key : used = "reconcile-" ++ other.instanceId := by
          unfold CommandStore.transitionKeys at member'
          split at member'
          · exact List.mem_singleton.mp member'
          · exact absurd member' List.not_mem_nil
        rw [recorded.used_of_ne (by
          rw [key]
          exact fun equal => same ((String.append_right_inj _).mp equal))]
        exact reconciling.unused other (List.mem_cons_of_mem _ later) member used member'
  · rw [if_neg wanted]
    refine ⟨listed, reconciling.sound, fun other member => ?_,
      fun other later => reconciling.unused other (List.mem_cons_of_mem _ later)⟩
    refine (reconciling.done other member).imp_left fun present => ?_
    refine (List.mem_cons.mp present).resolve_left fun equal => wanted ?_
    exact (mem_lost.mp (equal ▸ member)).2

/-- `reconcile` records every lost instance, when the keys it uses are unused. -/
theorem reconcile_ends {active : Identifier → Bool} (inv : StateInvariant store.state)
    (unused : ∀ other ∈ (StatusRecording.reconcile active).keys store, store.used other = none) :
    Ends (store.reconcile taskId active ambient)
      (fun next => StateInvariant next.state ∧
        ∀ item ∈ store.lost active, next.status item.instanceId = some .crashed)
      fun error => error.isConflict = false := by
  have start : Reconciling store active store.records store := by
    refine ⟨fun _ => id, inv, fun item member => .inl (mem_lost.mp member).1,
      fun item _ member other key => unused other ?_⟩
    exact List.mem_flatMap.mpr ⟨item, member, key⟩
  refine (Ends.foldlM (fun item rest state reconciling => reconciling.turn) store.records
    start).mono fun next reconciled => ⟨reconciled.sound, fun item member => ?_⟩
  exact (reconciled.done item member).resolve_left List.not_mem_nil

end

end CommandStore

namespace CommandStore

section

variable {taskId : Identifier} {store : CommandStore} {instanceId : Identifier}
  {ambient : Ambient}

/-- `update_instance_fields` raises nothing but what its checks raise. -/
theorem updateInstanceFields_raises {state : TaskState} {changes : InstanceChanges} :
    Ends (state.updateInstanceFields instanceId changes) (fun _ => True)
      fun error => error.isConflict = false := by
  unfold TaskState.updateInstanceFields
  refine Ends.bind (Ends.ensure (fun _ => ?_) fun _ => rfl)
  cases state.plan with
  | none => rfl
  | some plan =>
      refine Ends.bind ?_
      cases found : plan.requireInstance instanceId with
      | error error =>
          unfold Plan.requireInstance at found
          split at found
          · cases found
          · cases found
            rfl
      | ok item =>
          change Ends (if changes.apply item = item then pure state else _) _ _
          split
          · trivial
          · refine Ends.bind (Ends.ensure (fun _ => ?_) fun _ => rfl)
            dsimp only
            split <;> trivial

/-- The facts of an instance that `update_instance_fields` writes do not change a status. -/
theorem updateInstanceFields_ends {changes : InstanceChanges} (inv : StateInvariant store.state) :
    Ends (store.updateInstanceFields instanceId changes)
      (fun next => StateInvariant next.state ∧ ∀ other, next.status other = store.status other)
      fun error => error.isConflict = false := by
  have status : ∀ item : AgentInstance, (changes.apply item).status = item.status := fun _ => rfl
  have sameId : ∀ item : AgentInstance, (changes.apply item).instanceId = item.instanceId :=
    fun _ => rfl
  have keeps : ∀ item : AgentInstance,
      (if item.instanceId = instanceId then changes.apply item else item).instanceId =
        item.instanceId := by
    intro item
    split <;> rfl
  have kept : ∀ (instances : List AgentInstance) (other : Identifier),
      ((instances.map fun item => if item.instanceId = instanceId then changes.apply item
        else item).find? (·.instanceId = other)).map AgentInstance.status =
        (instances.find? (·.instanceId = other)).map AgentInstance.status := by
    intro instances other
    rw [find?_map_of_instanceId keeps, Option.map_map]
    refine congrArg (Option.map · _) (funext fun item => ?_)
    simp only [Function.comp_apply]
    split <;> rfl
  unfold updateInstanceFields
  cases found : store.planned instanceId with
  | some item =>
      refine Ends.bind ?_
      cases updated : store.state.updateInstanceFields instanceId changes with
      | ok next =>
          refine ⟨inv.updateInstanceFields updated, fun other => ?_⟩
          obtain ⟨plan, stored, rfl | ⟨-, nextPlan, -, -⟩⟩ := updateInstanceFields_eq_ok updated
          · rfl
          · rw [status_eq stored, status_eq nextPlan]
            exact congrArg (· <|> _) (kept plan.instances other)
      | error error =>
          have raises : Ends (store.state.updateInstanceFields instanceId changes) (fun _ => True)
              fun error => error.isConflict = false := updateInstanceFields_raises
          rw [updated] at raises
          exact raises
  | none =>
      refine Ends.bind (Ends.ensure (fun _ => ?_) fun _ => rfl)
      refine Ends.bind (requireRecord_ends fun item record => ?_)
      split
      · exact ⟨inv, fun _ => rfl⟩
      · refine Ends.bind (Ends.ensure (fun _ => ⟨inv, fun other => ?_⟩) fun _ => rfl)
        have unplanned := kept store.unplanned other
        unfold CommandStore.status CommandStore.record CommandStore.planned
        cases store.state.plan.bind fun plan =>
            plan.instances.find? (·.instanceId = other) with
        | some item => rfl
        | none => exact unplanned

/-- The runner records a transition out of the expected status. -/
theorem transitionFrom_ends {expected target : InstanceStatus} {key : String}
    (inv : StateInvariant store.state)
    (unused : store.status instanceId = some expected → store.used key = none) :
    Ends (store.transitionFrom taskId instanceId expected target key ambient)
      (fun next => StateInvariant next.state ∧
        (store.status instanceId = some expected → next.status instanceId = some target))
      fun error => error.isConflict = false := by
  unfold transitionFrom
  refine Ends.bind (requireRecord_ends fun item found => ?_)
  have status := status_of_record found
  by_cases reached : item.status = expected
  · rw [if_neg (not_not_intro reached)]
    refine Ends.map ((transitionInstance_ends inv (unused (reached ▸ status))).mono
      fun result ends => ⟨ends.1.sound, fun _ => ?_⟩)
    rw [ends.1.moved, if_pos rfl]
  · rw [if_pos reached]
    refine ⟨inv, fun same => absurd ?_ reached⟩
    exact Option.some.inj (status.symm.trans same)

theorem recordStartFailure_ends {target : StartTarget} {error : HarnessError}
    (inv : StateInvariant store.state)
    (unused : (store.record target.instanceId).any (recordsFailure target) = true →
      store.used (failedKey target) = none) :
    Ends (store.recordStartFailure taskId target error ambient)
      (fun next => StateInvariant next.state ∧
        ((store.record target.instanceId).any (recordsFailure target) = true →
          next.status target.instanceId = some .failedToStart))
      fun error => error.isConflict = false := by
  unfold recordStartFailure
  refine Ends.bind (requireRecord_ends fun current found => ?_)
  rw [found, Option.any_some] at unused ⊢
  by_cases records : recordsFailure target current = true
  · rw [if_pos records]
    refine Ends.bind (Ends.map ((transitionInstance_ends inv (unused records)).mono
      fun result ends => ?_))
    refine (updateInstanceFields_ends ends.1.sound).mono fun next kept => ⟨kept.1, fun _ => ?_⟩
    rw [kept.2, ends.1.moved, if_pos rfl]
  · rw [if_neg records]
    refine Ends.bind ?_
    exact (updateInstanceFields_ends inv).mono fun next kept =>
      ⟨kept.1, fun other => absurd other records⟩

theorem suspendInstance_ends {idempotencyKey : Option String} (inv : StateInvariant store.state)
    (unused : ∀ other ∈ store.transitionKeys instanceId .stopped
      (keyOr idempotencyKey ("suspend-" ++ instanceId)), store.used other = none) :
    Ends (store.suspendInstance taskId instanceId idempotencyKey ambient)
      (fun next => StateInvariant next.state ∧ next.status instanceId = some .stopped)
      fun error => error.isConflict = false := by
  unfold suspendInstance
  refine Ends.bind (requireRecord_ends fun item found => ?_)
  by_cases parked : item.status = .stopped
  · rw [if_neg (not_not_intro parked)]
    exact ⟨inv, parked ▸ status_of_record found⟩
  · rw [if_pos parked]
    refine Ends.bind ((transition_ends inv unused).mono fun result recorded => ?_)
    refine ⟨recorded.sound, ?_⟩
    rw [recorded.moved, if_pos rfl]

end

end CommandStore

/-! ## Recordings settle -/

section

variable {taskId : Identifier} {store : CommandStore}

/-- The only goal of a recording. -/
theorem reaches_one {next : CommandStore} {goal : StatusGoal}
    (reached : next.status goal.instanceId = some goal.target) :
    ∀ other ∈ [goal], next.status other.instanceId = some other.target := by
  intro other member
  rw [List.mem_singleton.mp member]
  exact reached

theorem transitionFrom_settles {instanceId : Identifier} {expected status : InstanceStatus}
    {key : String} {ambient : Ambient} (inv : StateInvariant store.state)
    (fresh : ∀ other ∈ (if store.status instanceId = some expected then [key] else []),
      store.used other = none) :
    Ends (store.transitionFrom taskId instanceId expected status key ambient)
      (fun next => StateInvariant next.state ∧
        ∀ goal ∈ (if store.status instanceId = some expected then
          [StatusGoal.mk instanceId status] else []),
        next.status goal.instanceId = some goal.target)
      fun error => error.isConflict = false := by
  refine (CommandStore.transitionFrom_ends inv fun failed => ?_).mono fun next ends => ?_
  · rw [if_pos failed] at fresh
    exact fresh _ (List.mem_singleton_self _)
  · refine ⟨ends.1, ?_⟩
    split
    · rename_i failed
      exact reaches_one (ends.2 failed)
    · exact fun _ none => absurd none List.not_mem_nil

/-- A recording whose keys are unused settles, and the store stays sound. -/
theorem StatusRecording.settles {recording : StatusRecording} {ambient : Ambient}
    (inv : StateInvariant store.state)
    (fresh : ∀ key ∈ recording.keys store, store.used key = none) :
    Ends (recording.perform taskId store ambient)
      (fun next => StateInvariant next.state ∧
        ∀ goal ∈ recording.goals store, next.status goal.instanceId = some goal.target)
      fun error => error.isConflict = false := by
  have moved : ∀ {next : CommandStore} {instanceId : Identifier} {target : InstanceStatus}
      {key : String}, store.Recorded next instanceId target key →
      next.status instanceId = some target := by
    intro next instanceId target key recorded
    rw [recorded.moved, if_pos rfl]
  cases recording with
  | transition instanceId target key =>
      refine Ends.map ((CommandStore.transition_ends inv fresh).mono fun result recorded => ?_)
      exact ⟨recorded.sound, reaches_one (moved recorded)⟩
  | reconcile active =>
      refine (CommandStore.reconcile_ends inv fresh).mono fun next ends => ⟨ends.1, ?_⟩
      intro goal member
      obtain ⟨item, lost, rfl⟩ := List.mem_map.mp member
      exact ends.2 item lost
  | suspend instanceId idempotencyKey =>
      exact (CommandStore.suspendInstance_ends inv fresh).mono fun next ends =>
        ⟨ends.1, reaches_one ends.2⟩
  | cancel instanceId idempotencyKey =>
      refine Ends.bind ((CommandStore.transition_ends inv fresh).mono fun result recorded => ?_)
      exact ⟨recorded.sound, reaches_one (moved recorded)⟩
  | archive instanceId idempotencyKey =>
      refine Ends.bind ((CommandStore.transition_ends inv fresh).mono fun result recorded => ?_)
      exact ⟨recorded.sound, reaches_one (moved recorded)⟩
  | startFailure target error =>
      simp only [keys] at fresh
      simp only [goals]
      refine (CommandStore.recordStartFailure_ends inv fun records => ?_).mono fun next ends => ?_
      · rw [if_pos records] at fresh
        exact fresh _ (List.mem_singleton_self _)
      · refine ⟨ends.1, ?_⟩
        split
        · rename_i records
          exact reaches_one (ends.2 records)
        · exact fun _ none => absurd none List.not_mem_nil
  | restoreStartable target => exact transitionFrom_settles inv fresh
  | startReused target accepted =>
      cases accepted with
      | true => exact transitionFrom_settles inv fresh
      | false => exact transitionFrom_settles inv fresh

theorem StatusStep.settles {step : StatusStep} (inv : StateInvariant store.state)
    (fresh : step.Fresh store) : step.Settles taskId store := by
  cases step with
  | recording recording ambient =>
      exact (StatusRecording.settles inv fresh).mono fun next ends => ends.2
  | _ => trivial

/-- Every step leaves the store sound. -/
theorem taskStep_sound {step : StatusStep} {next : CommandStore}
    (inv : StateInvariant store.state) (fresh : step.Fresh store)
    (stepped : taskStep taskId store step = .ok next) : StateInvariant next.state := by
  cases step with
  | command command envelope ambient =>
      simp only [taskStep] at stepped
      cases returned : store.command taskId command envelope ambient with
      | error error =>
          rw [returned] at stepped
          cases stepped
      | ok result =>
          rw [returned] at stepped
          obtain rfl := Except.ok.inj stepped
          exact CommandStore.command_sound inv returned
  | updateInstanceFields instanceId changes =>
      have ends : Ends (store.updateInstanceFields instanceId changes)
          (fun next => StateInvariant next.state ∧ ∀ other, next.status other = store.status other)
          fun error => error.isConflict = false := CommandStore.updateInstanceFields_ends inv
      simp only [taskStep] at stepped
      rw [stepped] at ends
      exact ends.1
  | useKey key =>
      simp only [taskStep] at stepped
      split at stepped
      · obtain rfl := Except.ok.inj stepped
        exact inv
      · cases stepped
  | setRecords unplanned =>
      obtain rfl := Except.ok.inj stepped
      exact inv
  | recording recording ambient =>
      have ends : Ends (recording.perform taskId store ambient)
          (fun next => StateInvariant next.state ∧
            ∀ goal ∈ recording.goals store, next.status goal.instanceId = some goal.target)
          fun error => error.isConflict = false := StatusRecording.settles inv fresh
      simp only [taskStep] at stepped
      rw [stepped] at ends
      exact ends.1

/-- In every run whose recordings use unused keys, every recording settles. -/
theorem recordings_settle (taskId : Identifier) (steps : List StatusStep)
    (fresh : Along (taskStep taskId) StatusStep.Fresh .empty steps) :
    Along (taskStep taskId) (StatusStep.Settles taskId) .empty steps := by
  suffices rule : ∀ (steps : List StatusStep) (store : CommandStore), StateInvariant store.state →
      Along (taskStep taskId) StatusStep.Fresh store steps →
      Along (taskStep taskId) (StatusStep.Settles taskId) store steps from
    rule steps .empty .empty fresh
  intro steps
  induction steps with
  | nil => exact fun _ _ _ => trivial
  | cons step rest ih =>
      intro store inv fresh
      refine ⟨StatusStep.settles inv fresh.1, ih _ ?_ fresh.2⟩
      cases stepped : taskStep taskId store step with
      | error error =>
          rw [settle_of_error stepped]
          exact inv
      | ok next =>
          rw [settle_of_ok stepped]
          exact taskStep_sound inv fresh.1 stepped

end

instance (store : CommandStore) : ∀ step : StatusStep, Decidable (step.Fresh store)
  | .recording recording _ =>
      inferInstanceAs (Decidable (∀ key ∈ recording.keys store, store.used key = none))
  | .command .. | .updateInstanceFields .. | .useKey _ | .setRecords _ => isTrue trivial

instance (taskId : Identifier) (store : CommandStore) :
    ∀ step : StatusStep, Decidable (step.Settles taskId store)
  | .recording .. => inferInstanceAs (Decidable (Ends _ _ _))
  | .command .. | .updateInstanceFields .. | .useKey _ | .setRecords _ => isTrue trivial

/-- A task with two planned instances. -/
def pairSteps : List StatusStep :=
  [.command (.createTask ⟨"task", "Cover", "A cover", "owner", .auto, "inputs.json"⟩)
      ⟨"create", .human, "owner", 0⟩ ⟨"t1", "u1"⟩,
    .command (.savePlan .replace pairPayload none) ⟨"save", .human, "owner", 1⟩ ⟨"t1", "u1"⟩]

/-- A launch of an instance that becomes ready. -/
def launchSteps (launchId instanceId : Identifier) : List StatusStep :=
  [.recording (.transition instanceId .starting (launchId ++ "-starting")) ⟨"t2", "u2"⟩,
    .recording (.transition instanceId .running (launchId ++ "-running")) ⟨"t2", "u2"⟩]

/-- An instance is found without its process, started again, and found so a second time. -/
def lostTwice : List StatusStep :=
  pairSteps ++ launchSteps "l1" "a" ++ [.recording (.reconcile fun _ => false) ⟨"t3", "u3"⟩] ++
    launchSteps "l2" "a" ++ [.recording (.reconcile fun _ => false) ⟨"t4", "u4"⟩]

/-- An instance is suspended, started again, and suspended a second time. -/
def suspendedTwice : List StatusStep :=
  pairSteps ++ launchSteps "l1" "a" ++ [.recording (.suspend "a" none) ⟨"t3", "u3"⟩] ++
    launchSteps "l2" "a" ++ [.recording (.suspend "a" none) ⟨"t4", "u4"⟩]

/-- Two targets of one operation fail, each in its first attempt. -/
def failedTwice : List StatusStep :=
  pairSteps ++ (["a", "b"].map fun instanceId => .recording (.startFailure
    ⟨"op", .startReadyInstances, 0, instanceId, 1, .preparing⟩
    ⟨.processStartFailed, "The instance process did not become ready.", []⟩) ⟨"t3", "u3"⟩)

/-- The second recording of each run replays the first one or is refused. -/
theorem recordings_repeat :
    ¬ Along (taskStep "task") (StatusStep.Settles "task") .empty lostTwice ∧
      ¬ Along (taskStep "task") (StatusStep.Settles "task") .empty suspendedTwice ∧
      ¬ Along (taskStep "task") (StatusStep.Settles "task") .empty failedTwice := by
  decide +kernel

theorem recordings_settle_once :
    Along (taskStep "task") (StatusStep.Settles "task") .empty
      (pairSteps ++ launchSteps "l1" "a" ++
        [.recording (.reconcile fun _ => false) ⟨"t3", "u3"⟩] ++ launchSteps "l2" "a" ++
        [.recording (.suspend "a" none) ⟨"t4", "u4"⟩]) :=
  recordings_settle "task" _ (by decide +kernel)

end DesignHarness
