import DesignHarness.Domain.Reaggregation
import DesignHarness.Storage.Store

/-!
# Commands under idempotency keys

`TaskCommandService._idempotent` (`service.py:1382-1427`) returns what the task has recorded under
a key before it runs a command.  `CommandStore` is what it reads: the task and plan objects, and for
every key the command that the registry or the journal holds under it.  Instance records that no
plan holds are kept beside.
-/

namespace DesignHarness

open Library

/-- What a task has recorded under an idempotency key. -/
inductive KeyUse where
  | command (request : Command) (result : CommandResult)
  /-- A command of another service. -/
  | service
  deriving DecidableEq, Repr

/-- The task as the command service sees it. -/
structure CommandStore where
  state : TaskState
  used : String → Option KeyUse
  unplanned : List AgentInstance

namespace CommandStore

/-- The store of a new task. -/
def empty : CommandStore := ⟨.empty, fun _ => none, []⟩

/-- The instance of the plan with the id. -/
def planned (store : CommandStore) (instanceId : Identifier) : Option AgentInstance :=
  store.state.plan.bind fun plan => plan.instances.find? (·.instanceId = instanceId)

/-- The instance record, which for a planned instance is the copy of the plan's. -/
def record (store : CommandStore) (instanceId : Identifier) : Option AgentInstance :=
  store.planned instanceId <|> store.unplanned.find? (·.instanceId = instanceId)

/-- `_instance`. -/
def requireRecord (store : CommandStore) (instanceId : Identifier) : Outcome AgentInstance :=
  match store.record instanceId with
  | some item => .ok item
  | none => .error instanceNotFound

def status (store : CommandStore) (instanceId : Identifier) : Option InstanceStatus :=
  (store.record instanceId).map AgentInstance.status

/-- `store.instance.list`, in the order of the file names. -/
def records (store : CommandStore) : List AgentInstance :=
  (store.state.plan.elim [] Plan.instances ++
      store.unplanned.filter fun item => (store.planned item.instanceId).isNone).insertionSort
    fun a b => a.instanceId ++ ".json" ≤ b.instanceId ++ ".json"

/-- The registry entry and the journal event that a command leaves under its key. -/
def use (store : CommandStore) (key : String) (use : KeyUse) : CommandStore :=
  { store with used := fun other => if other = key then some use else store.used other }

end CommandStore

namespace CommandStore

variable (taskId : Identifier)

/-- A command under its key: `_idempotent` around the handler. -/
def command (store : CommandStore) (command : Command) (envelope : CommandEnvelope)
    (ambient : Ambient) : Outcome (CommandResult × CommandStore) := do
  let request ← TaskCommandService.buildRequest envelope command
  match store.used envelope.idempotencyKey with
  | some (.command earlier result) => do
      ensure (earlier = request) (idempotencyConflict taskId request.name)
      return (result, store)
  | some .service => .error (idempotencyConflict taskId request.name)
  | none => do
      let commit ← TaskCommandService.handle store.state envelope ambient request
      let next ← store.state.apply commit
      let result := commit.result store.state
      return (result, { store with state := next }.use envelope.idempotencyKey
        (.command request result))

/-- `update_instance_fields`: the plan is written for an instance that it holds, the record
    otherwise. -/
def updateInstanceFields (store : CommandStore) (instanceId : Identifier)
    (changes : InstanceChanges) : Outcome CommandStore :=
  match store.planned instanceId with
  | some _ => do
      let next ← store.state.updateInstanceFields instanceId changes
      return { store with state := next }
  | none => do
      ensure (changes ≠ {}) (.valueError "unsupported mutable instance fields")
      let item ← store.requireRecord instanceId
      if changes.apply item = item then
        return store
      validateContract "agent-instance" (changes.apply item).accepted
      return { store with
        unplanned := store.unplanned.map fun other =>
          if other.instanceId = instanceId then changes.apply other else other }

/-- `next(item for item in result["plan"]["instances"] if ..)`. -/
def movedInstance (instanceId : Identifier) : CommandResult → Outcome AgentInstance
  | .aggregate plan _ _ =>
      match plan.instances.find? (·.instanceId = instanceId) with
      | some item => .ok item
      | none => .error .stopIteration
  | .task _ _ => .error (.keyError "plan")

/-- A command whose envelope the service builds itself. -/
def issue (store : CommandStore) (command : Command) (envelope : CommandEnvelope)
    (ambient : Ambient) : Outcome (CommandResult × CommandStore) := do
  let envelope ← envelope.validate
  store.command taskId command envelope ambient

/-- `commands.transition_instance` by a service of the control plane, at the current revision. -/
def transitionInstance (store : CommandStore) (instanceId : Identifier) (target : InstanceStatus)
    (actorId : Identifier) (key : String) (ambient : Ambient) :
    Outcome (CommandResult × CommandStore) :=
  store.issue taskId (.transitionInstance instanceId target)
    ⟨key, .system, actorId, store.state.taskRevision⟩ ambient

end CommandStore

/-- The status of an instance of the plan. -/
def Plan.statusOf (plan : Plan) (instanceId : Identifier) : Option InstanceStatus :=
  (plan.instances.find? (·.instanceId = instanceId)).map AgentInstance.status

section

variable {plan : Plan} {now : Timestamp} {instanceId other : Identifier} {target : InstanceStatus}

theorem find?_map_of_instanceId {f : AgentInstance → AgentInstance}
    (keeps : ∀ item, (f item).instanceId = item.instanceId) (instances : List AgentInstance) :
    (instances.map f).find? (·.instanceId = other) =
      (instances.find? (·.instanceId = other)).map f := by
  have same : ((fun item : AgentInstance => decide (item.instanceId = other)) ∘ f) =
      fun item => decide (item.instanceId = other) :=
    funext fun item => by simp [keeps]
  rw [List.find?_map, same]

theorem find?_activateAll (keys : List Identifier) (instances : List AgentInstance) :
    ((activateAll now keys instances).find? (·.instanceId = other)).map AgentInstance.status =
      (instances.find? (·.instanceId = other)).map AgentInstance.status := by
  have keeps : ∀ item : AgentInstance,
      (if item.instanceId ∈ keys then item.activate now else item).instanceId = item.instanceId := by
    intro item
    split <;> rfl
  rw [activateAll, find?_map_of_instanceId keeps, Option.map_map]
  refine congrArg (Option.map · _) (funext fun item => ?_)
  simp only [Function.comp_apply]
  split <;> rfl

/-- An event moves its instance and no other one. -/
theorem Plan.statusOf_afterEvent :
    (plan.afterEvent now instanceId target).statusOf other =
      if other = instanceId then (plan.statusOf other).map fun _ => target
      else plan.statusOf other := by
  have keeps : ∀ item : AgentInstance,
      (if item.instanceId = instanceId then TaskCommandService.recordTransition now target item
        else item).instanceId = item.instanceId := by
    intro item
    split
    · exact recordTransition_instanceId now target item
    · rfl
  unfold Plan.statusOf Plan.afterEvent Plan.modifyInstance
  rw [find?_map_of_instanceId keeps, Option.map_map]
  cases found : plan.instances.find? (·.instanceId = other) with
  | none => simp
  | some item =>
      have same : item.instanceId = other := by simpa using List.find?_some found
      by_cases moved : other = instanceId
      · simp [same, moved, recordTransition_status]
      · simp [same, moved]

theorem Plan.statusOf_reaggregated :
    (plan.reaggregated now).statusOf other = plan.statusOf other :=
  find?_activateAll _ plan.instances

end

/-! ## What a command does -/

namespace CommandStore

/-- One instance has moved to the target. -/
def Moved (store next : CommandStore) (instanceId : Identifier) (target : InstanceStatus) : Prop :=
  ∀ other, next.status other = if other = instanceId then some target else store.status other

/-- An event has been recorded under a key. -/
structure Recorded (store next : CommandStore) (instanceId : Identifier) (target : InstanceStatus)
    (key : String) : Prop where
  sound : StateInvariant next.state
  moved : store.Moved next instanceId target
  planned : ∀ other, (next.planned other).isSome = (store.planned other).isSome
  used : ∀ other, next.used other = store.used other ∨ (other = key ∧
    ∃ result, next.used other = some (.command (.transitionInstance instanceId target) result))

section

variable {taskId : Identifier} {store : CommandStore} {instanceId actorId : Identifier}
  {target : InstanceStatus} {key : String} {ambient : Ambient} {item : AgentInstance}

theorem status_of_planned (found : store.planned instanceId = some item) :
    store.status instanceId = some item.status := by
  simp [status, record, found]

/-- What a planned instance is. -/
theorem planned_eq_some (found : store.planned instanceId = some item) :
    ∃ plan, store.state.plan = some plan ∧ item ∈ plan.instances ∧
      item.instanceId = instanceId := by
  obtain ⟨plan, stored, listed⟩ := Option.bind_eq_some_iff.mp found
  exact ⟨plan, stored, List.mem_of_find?_eq_some listed, by simpa using List.find?_some listed⟩

/-- A status is the plan's or, for what the plan does not hold, the record's. -/
theorem status_eq {plan : Plan} (stored : store.state.plan = some plan) (other : Identifier) :
    store.status other = (plan.statusOf other <|>
      (store.unplanned.find? (·.instanceId = other)).map AgentInstance.status) := by
  unfold status record planned Plan.statusOf
  rw [stored, Option.bind_some]
  cases plan.instances.find? (·.instanceId = other) <;> rfl

theorem isSome_planned {plan : Plan} (stored : store.state.plan = some plan)
    {other : Identifier} : (store.planned other).isSome = (plan.statusOf other).isSome := by
  unfold planned Plan.statusOf
  rw [stored, Option.bind_some, Option.isSome_map]

/-- An event that the store has recorded moves its instance alone. -/
theorem Moved.of_plan {next : CommandStore} {plan later : Plan}
    (found : store.planned instanceId = some item) (stored : store.state.plan = some plan)
    (written : next.state.plan = some later) (unplanned : next.unplanned = store.unplanned)
    (statuses : ∀ other, later.statusOf other =
      if other = instanceId then (plan.statusOf other).map fun _ => target
      else plan.statusOf other) : Moved store next instanceId target := by
  intro other
  rw [status_eq stored, status_eq written, statuses, unplanned]
  by_cases same : other = instanceId
  · have listed : plan.statusOf instanceId = some item.status := by
      have known : plan.instances.find? (·.instanceId = instanceId) = some item := by
        simpa [planned, stored] using found
      rw [Plan.statusOf, known]
      rfl
    rw [if_pos same, if_pos same, same, listed]
    rfl
  · rw [if_neg same, if_neg same]

theorem movedInstance_of_statusOf {plan : Plan} {status : InstanceStatus} {taskRevision
    planRevision : Nat} (known : plan.statusOf instanceId = some status) :
    ∃ moved, movedInstance instanceId (.aggregate plan taskRevision planRevision) = .ok moved ∧
      moved.status = status := by
  unfold Plan.statusOf at known
  obtain ⟨moved, found, same⟩ := Option.map_eq_some_iff.mp known
  refine ⟨moved, ?_, same⟩
  simp only [movedInstance, found]

/-- What an unused key leaves of a command. -/
theorem command_unused {request : Command} {envelope : CommandEnvelope}
    (built : TaskCommandService.buildRequest envelope request = .ok request)
    (unused : store.used envelope.idempotencyKey = none) :
    store.command taskId request envelope ambient = (do
      let commit ← TaskCommandService.handle store.state envelope ambient request
      let next ← store.state.apply commit
      return (commit.result store.state, { store with state := next }.use
        envelope.idempotencyKey (.command request (commit.result store.state)))) := by
  rw [command, built, ok_bind, unused]

theorem issue_of_accepted {request : Command} {envelope : CommandEnvelope}
    (accepted : envelope.accepted = true) :
    store.issue taskId request envelope ambient =
      store.command taskId request envelope ambient := by
  rw [issue, CommandEnvelope.validate_of_accepted accepted, ok_bind]

theorem issue_of_rejected {request : Command} {envelope : CommandEnvelope}
    (rejected : envelope.accepted = false) :
    store.issue taskId request envelope ambient = .error (.validationError "CommandEnvelope") := by
  rw [issue, CommandEnvelope.validate_of_rejected rejected, error_bind]

/-- What a service has issued is a command. -/
theorem command_of_issue {request : Command} {envelope : CommandEnvelope}
    {returned : CommandResult × CommandStore}
    (issued : store.issue taskId request envelope ambient = .ok returned) :
    store.command taskId request envelope ambient = .ok returned := by
  obtain ⟨built, valid, commanded⟩ := bind_eq_ok.mp issued
  obtain rfl := CommandEnvelope.eq_of_validate valid
  exact commanded

/-- A key that is not the event's is used as before. -/
theorem Recorded.used_of_ne {next : CommandStore} (recorded : store.Recorded next instanceId target
    key) {other : String} (different : other ≠ key) : next.used other = store.used other :=
  (recorded.used other).resolve_right fun own => different own.1

/-- Under an unused key an event moves its instance, or raises `INVALID_STATE_TRANSITION`. -/
theorem transitionInstance_unused (inv : StateInvariant store.state)
    (found : store.planned instanceId = some item)
    (accepted : (CommandEnvelope.mk key .system actorId store.state.taskRevision).accepted = true)
    (unused : store.used key = none) :
    (∃ result next moved,
        store.transitionInstance taskId instanceId target actorId key ambient =
          .ok (result, next) ∧
        movedInstance instanceId result = .ok moved ∧ moved.status = target ∧
        store.Recorded next instanceId target key) ∨
      ∃ error, store.transitionInstance taskId instanceId target actorId key ambient =
        .error error ∧ error.isInvalidTransition = true := by
  obtain ⟨plan, stored, member, rfl⟩ := planned_eq_some found
  have requires := Plan.requireInstance_of_mem (inv.plan plan stored).valid.instanceIdsDistinct
    member
  have listed : plan.statusOf item.instanceId = some item.status := by
    rw [Plan.statusOf, Plan.requireInstance_eq_ok.mp requires]
    rfl
  unfold transitionInstance
  rw [issue_of_accepted accepted, command_unused rfl unused]
  by_cases legal : target ∈ item.status.transitions
  · have current : (CommandEnvelope.mk key .system actorId
        store.state.taskRevision).expectedRevision = store.state.taskRevision := rfl
    obtain ⟨records, raises⟩ := inv.legalEvent stored member legal current
    cases blocked : (plan.afterEvent ambient.now item.instanceId target).blocks ambient.now with
    | false =>
        obtain ⟨handled, applied⟩ := records blocked
        have statuses : ∀ other, ((plan.afterEvent ambient.now item.instanceId
            target).reaggregated ambient.now).statusOf other =
            if other = item.instanceId then (plan.statusOf other).map fun _ => target
            else plan.statusOf other := by
          intro other
          rw [Plan.statusOf_reaggregated, Plan.statusOf_afterEvent]
        have known := statuses item.instanceId
        rw [if_pos rfl, listed, Option.map_some] at known
        obtain ⟨moved, returned, same⟩ := movedInstance_of_statusOf known
        have executed : store.state.execute ⟨key, .system, actorId, store.state.taskRevision⟩
            ambient (.transitionInstance item.instanceId target) = .ok (store.state.afterEvent _) :=
          TaskState.execute_eq_ok.mpr ⟨_, _, rfl, handled, applied⟩
        left
        rw [handled, ok_bind, applied, ok_bind]
        refine ⟨_, _, moved, rfl, returned, same, inv.execute executed,
          Moved.of_plan found stored rfl rfl statuses, fun other => ?_, fun other => ?_⟩
        · rw [isSome_planned stored, isSome_planned rfl, statuses]
          split <;> simp
        · by_cases same : other = key
          · exact .inr ⟨same, _, if_pos same⟩
          · exact .inl (if_neg same)
    | true =>
        obtain ⟨error, raised, invalid⟩ := raises blocked
        right
        exact ⟨error, by rw [raised, error_bind], invalid⟩
  · right
    have raised : TaskCommandService.handle store.state
        ⟨key, .system, actorId, store.state.taskRevision⟩ ambient
          (.transitionInstance item.instanceId target) =
        .error (transitionError "agent_instance" item.status.name target.name) := by
      have revision : store.state.requireRevision
          ⟨key, .system, actorId, store.state.taskRevision⟩ plan.task.taskId = .ok () :=
        TaskState.requireRevision_eq_ok.mpr rfl
      have refused : transitionInstanceStatus item.status target =
          .error (transitionError "agent_instance" item.status.name target.name) :=
        ensure_of_not legal
      simp only [TaskCommandService.handle, TaskCommandService.transitionInstance,
        TaskState.requirePlan_eq_ok.mpr stored, revision, requires, refused, ok_bind, error_bind]
    exact ⟨_, by rw [raised, error_bind], rfl⟩

/-- Under a used key a command returns what was recorded, or raises `IDEMPOTENCY_CONFLICT`, and
    changes nothing. -/
theorem command_used {request : Command} {envelope : CommandEnvelope} {use : KeyUse}
    (built : TaskCommandService.buildRequest envelope request = .ok request)
    (used : store.used envelope.idempotencyKey = some use) :
    (∃ result, store.command taskId request envelope ambient = .ok (result, store)) ∨
      store.command taskId request envelope ambient =
        .error (idempotencyConflict taskId request.name) := by
  rw [command, built, ok_bind, used]
  cases use with
  | service => exact .inr rfl
  | command earlier result =>
      by_cases same : earlier = request
      · left
        refine ⟨result, ?_⟩
        simp only [ensure_of same, ok_bind, pure_eq_ok]
      · right
        simp only [ensure_of_not same, error_bind]

/-- Under a used key an event is replayed or raises, and changes nothing. -/
theorem transitionInstance_used {use : KeyUse} (used : store.used key = some use) :
    (∃ result, store.transitionInstance taskId instanceId target actorId key ambient =
      .ok (result, store)) ∨
      ∃ error, store.transitionInstance taskId instanceId target actorId key ambient =
        .error error := by
  unfold transitionInstance
  cases accepted :
      (CommandEnvelope.mk key .system actorId store.state.taskRevision).accepted with
  | false => exact .inr ⟨_, issue_of_rejected accepted⟩
  | true =>
      rw [issue_of_accepted accepted]
      exact (command_used rfl used).imp_right fun raised => ⟨_, raised⟩

theorem command_sound {request : Command} {envelope : CommandEnvelope} {result : CommandResult}
    {next : CommandStore} (inv : StateInvariant store.state)
    (returned : store.command taskId request envelope ambient = .ok (result, next)) :
    StateInvariant next.state := by
  obtain ⟨built, builds, returned⟩ := bind_eq_ok.mp returned
  cases known : store.used envelope.idempotencyKey with
  | none =>
      rw [known] at returned
      obtain ⟨commit, handled, returned⟩ := bind_eq_ok.mp returned
      obtain ⟨state, applied, returned⟩ := bind_eq_ok.mp returned
      cases returned
      exact inv.execute (TaskState.execute_eq_ok.mpr ⟨built, commit, builds, handled, applied⟩)
  | some use =>
      rw [known] at returned
      cases use with
      | service => cases returned
      | command earlier recorded =>
          obtain ⟨⟨⟩, -, returned⟩ := bind_eq_ok.mp returned
          cases returned
          exact inv

end

end CommandStore

end DesignHarness
