import DesignHarness.Storage.CommandCalls
import DesignHarness.Storage.History

/-!
# What a command of the store commits

The event of the plan carries the result of a command and comes first; the projections follow
without results.  `persistAggregate_meets` says what the store is at every write in between
(`Committing`) and at the end (`Persisted`), and `idempotent_meets` what the lookup under the key
adds: a command is executed once, and returns its result again afterwards.
-/

namespace DesignHarness

open Library

section

variable {start store : TaskStore} {key : ObjectKey} {payload : Payload key} {info : EventInfo}
  {now : Timestamp}

theorem Growth.interrupted (growth : Growth start store) (running : Running start) :
    Interrupted store where
  readable := growth.readable
  behind := growth.behind running.behind
  sequenced := growth.sequenced running.committed running.sequenced
  recorded := growth.recorded running.recorded
  accepted := by
    obtain ⟨more, events, silent⟩ := growth.events
    intro wrapper found
    rw [events, latest_append_of_silent fun event member => (silent event member).2] at found
    exact running.accepted wrapper found
  copied := by
    obtain ⟨more, events, -⟩ := growth.events
    exact running.copied.of_append events growth.side

theorem Growth.running (growth : Growth start store) (running : Running start)
    (clean : store.Clean) (committed : store.Committed) : Running store where
  toInterrupted := growth.interrupted running
  clean := clean
  committed := committed

/-- The task and the plan are there as they were committed last. -/
structure TaskStore.Current (store : TaskStore) : Prop where
  task : store.lookup .task = latest .task store.events
  plan : store.lookup .plan = latest .plan store.events

theorem nextRevision_of_current (committed : start.Committed)
    (current : start.lookup key = latest key start.events) :
    start.nextRevision key = start.revision key + 1 := by
  rw [committed.nextRevision_eq, ← current]
  rfl

/-- The event is in the journal, and after it only events of projections. -/
structure Committing (start : TaskStore) (event : TaskEvent) (store : TaskStore) : Prop where
  interrupted : Interrupted store
  events : ∃ more, store.events = start.events ++ event :: more ∧
    ∀ other ∈ more, other.info.result = none ∧ other.key ≠ .plan
  registry : ∀ name record, store.side.registry.lookup name = some record →
    start.side.registry.lookup name = some record ∨ recordOf name event = some record

theorem Running.committing_append (running : Running start)
    (valid : validatePayload key payload = .ok ()) :
    Committing start (start.commitEvent key payload info now)
      (start.append (start.commitEvent key payload info now)) where
  interrupted := running.append info now valid
  events := ⟨[], Store.events_append running.clean, fun _ member => by cases member⟩
  registry _ _ := .inl

theorem Growth.committing (growth : Growth (start.commit key payload info now) store)
    (running : Running start) (valid : validatePayload key payload = .ok ()) :
    Committing start (start.commitEvent key payload info now) store where
  interrupted := growth.interrupted (running.commit info now valid)
  events := by
    obtain ⟨more, events, silent⟩ := growth.events
    refine ⟨more, ?_, silent⟩
    rw [events, Store.events_commit running.clean, List.append_assoc]
    rfl
  registry _ _ found := by
    rw [growth.side] at found
    exact .inl found

end

/-- The event of a command, which carries its result. -/
def eventOf (envelope : CommandEnvelope) (ambient : Ambient) (request : Command)
    (start : TaskStore) (commit : Commit) : TaskEvent :=
  let info := eventInfo envelope request (some (.command (commit.result start.taskState)))
  match commit with
  | .task payload _ => start.commitEvent .task payload info ambient.now
  | .aggregate plan _ => start.commitEvent .plan plan info ambient.now

/-! ## Aggregates -/

/-- What an aggregate command has reached: its event, and the projections of its plan. -/
structure Persisted (start : TaskStore) (event : TaskEvent) (plan : Plan) (store : TaskStore) :
    Prop where
  committing : Committing start event store
  side : store.side = start.side
  running : Running store
  current : store.Current
  agrees : AgreesWith store plan
  state : store.taskState =
    ⟨some plan.task, start.revision .task + 1, some plan, start.revision .plan + 1⟩

section

variable {taskId : Identifier} {envelope : CommandEnvelope} {ambient : Ambient}
  {request : Command} {start : TaskStore} {plan : Plan} {skipUnchanged : Bool}

theorem Plan.projections_eq : plan.projections = ⟨.task, plan.task⟩ ::
    (plan.stages.map Stage.projection ++ plan.instances.map AgentInstance.projection) := rfl

/-- The stages and instances are not the task. -/
theorem Plan.members_ne_task {projection : Projection}
    (member : projection ∈ plan.stages.map Stage.projection ++
      plan.instances.map AgentInstance.projection) : projection.1 ≠ .task := by
  rcases List.mem_append.mp member with listed | listed
  · obtain ⟨stage, -, rfl⟩ := List.mem_map.mp listed
    simp [Stage.projection]
  · obtain ⟨item, -, rfl⟩ := List.mem_map.mp listed
    simp [AgentInstance.projection]

/-- What is retired between the plan and the task leaves the task alone. -/
theorem retired_nextRevision {info : EventInfo} {now : Timestamp} {retired : TaskStore}
    (running : Running start) (current : start.Current)
    (trimmed : Trimmed (start.commit .plan plan info now) retired)
    (lookup : ∀ key, retired.lookup key =
      if plan.holds key then (start.commit .plan plan info now).lookup key else none)
    (committed : retired.Committed) :
    retired.revision .task = start.revision .task ∧
      retired.nextRevision .task = start.revision .task + 1 := by
  have held : plan.holds .task := trivial
  have found : retired.lookup .task = start.lookup .task := by
    rw [lookup, if_pos held, Store.lookup_commit_of_ne (by simp)]
  have revision : retired.revision .task = start.revision .task := by
    rw [Store.revision, found, Store.revision]
  have latest : retired.lookup .task = latest .task retired.events := by
    have events : retired.events = (start.commit .plan plan info now).events := by
      rw [Store.events, trimmed.journal, Store.events]
    rw [found, current.task, events, Store.events_commit running.clean,
      Store.latest_commitEvent_of_ne (by simp)]
  exact ⟨revision, by rw [nextRevision_of_current committed latest, revision]⟩

/-- The projections that follow the task. -/
theorem persisted_of_written {info taskInfo : EventInfo} {now : Timestamp}
    {retired store : TaskStore} (running : Running start) (current : start.Current)
    (valid : PlanValid plan)
    (trimmed : Trimmed (start.commit .plan plan info now) retired)
    (lookup : ∀ key, retired.lookup key =
      if plan.holds key then (start.commit .plan plan info now).lookup key else none)
    (written : Written skipUnchanged (retired.commit .task plan.task taskInfo now)
      (plan.stages.map Stage.projection ++ plan.instances.map AgentInstance.projection) store)
    (growth : Growth (start.commit .plan plan info now)
      (retired.commit .task plan.task taskInfo now))
    (committed : retired.Committed)
    (clean : retired.Clean) :
    Persisted start (start.commitEvent .plan plan info now) plan store := by
  have accepted : validatePayload ObjectKey.plan plan = .ok () :=
    validateContract_eq_ok.mpr valid.accepted
  have after : (retired.commit .task plan.task taskInfo now).Committed := committed.commit clean
  have whole : Growth (start.commit .plan plan info now) store :=
    growth.trans written.growth fun _ => after
  -- The loop leaves the task, the plan and what is retired alone.
  have untouched : ∀ key, (key = .task ∨ key = .plan ∨ ¬ plan.holds key) →
      store.lookup key = (retired.commit .task plan.task taskInfo now).lookup key := by
    intro key other
    refine (written.kept key ?_).1
    rintro ⟨payload, member, -⟩
    have listed : ⟨key, payload⟩ ∈ plan.projections := by
      rw [Plan.projections_eq]
      exact List.mem_cons_of_mem _ member
    rcases other with rfl | rfl | absent
    · exact Plan.members_ne_task member rfl
    · exact Plan.projections_ne_plan listed rfl
    · exact absent (Plan.holds_of_mem listed)
  have task : store.lookup .task = some (retired.nextSnapshot .task plan.task now) := by
    rw [untouched .task (.inl rfl), Store.lookup_commit_self]
  have planned : store.lookup .plan = some (start.nextSnapshot .plan plan now) := by
    have held : plan.holds .plan := trivial
    rw [untouched .plan (.inr (.inl rfl)), Store.lookup_commit_of_ne (by simp),
      lookup, if_pos held, Store.lookup_commit_self]
  have ended : Running store :=
    whole.running (running.commit info now accepted) written.clean (written.committed after)
  have taskRevision : (retired.nextSnapshot .task plan.task now).revision =
      start.revision .task + 1 :=
    (retired_nextRevision running current trimmed lookup committed).2
  have planRevision : (start.nextSnapshot .plan plan now).revision = start.revision .plan + 1 :=
    nextRevision_of_current running.committed current.plan
  refine ⟨whole.committing running accepted, whole.side, ended, ⟨?_, ?_⟩,
    ⟨fun key payload member => ?_, fun key absent => ?_⟩, ?_⟩
  · rw [task, ended.committed .task _ task]
  · rw [planned, ended.committed .plan _ planned]
  · rw [Plan.projections_eq] at member
    rcases List.mem_cons.mp member with same | listed
    · cases same
      rw [Store.payload, task]
      rfl
    · refine written.finished key payload listed fun other found => ?_
      exact valid.distinct.unique member (List.mem_cons_of_mem _ found)
  · have different : key ≠ .task := by
      rintro rfl
      exact absent trivial
    rw [untouched key (.inr (.inr absent)), Store.lookup_commit_of_ne different, lookup,
      if_neg absent]
  · rw [TaskStore.taskState, Store.payload, Store.revision, Store.payload, Store.revision, task,
      planned]
    simp only [Option.map_some, Option.elim_some, taskRevision, planRevision]
    rfl

/-- The writes of an aggregate command. -/
theorem persistAggregate_meets (running : Running start) (current : start.Current) :
    Meets (persistAggregate taskId envelope ambient request plan (start.revision .task)
        skipUnchanged) start
      (fun store => store = start ∨ store = start.torn ∨ PlanValid plan ∧
        Committing start (eventOf envelope ambient request start (.aggregate plan skipUnchanged))
          store)
      (fun result store =>
        result = .command (Commit.result start.taskState (.aggregate plan skipUnchanged)) ∧
        PlanValid plan ∧ Persisted start
          (eventOf envelope ambient request start (.aggregate plan skipUnchanged)) plan store)
      fun _ store => store = start ∧ ¬PlanValid plan := by
  unfold persistAggregate
  refine Meets.guarded (.inl rfl) (fun _ valid => ?_) fun error refused => ⟨rfl, fun valid => ?_⟩
  swap
  · rw [(validatePlan_eq_ok (u := ())).mpr valid] at refused
    cases refused
  replace valid := validatePlan_eq_ok.mp valid
  have accepted : validatePayload ObjectKey.plan plan = .ok () :=
    validateContract_eq_ok.mpr valid.accepted
  refine Meets.looked rfl ?_
  refine Meets.bind (put_meets running.clean (.inl rfl) (fun error rejected => ?_)
    (fun stale => absurd rfl stale) fun _ _ => ?_)
  · rw [accepted] at rejected
    cases rejected
  -- The event of the plan decides; whatever follows only adds to it.
  have within : ∀ {store : TaskStore}, Growth (start.commit .plan plan (eventInfo envelope request
      (some (.command (Commit.result start.taskState (.aggregate plan skipUnchanged)))))
      ambient.now) store →
      store = start ∨ store = start.torn ∨ PlanValid plan ∧
        Committing start (eventOf envelope ambient request start (.aggregate plan skipUnchanged))
          store :=
    fun growth => .inr (.inr ⟨valid, growth.committing running accepted⟩)
  have first := running.commit (eventInfo envelope request
    (some (.command (Commit.result start.taskState (.aggregate plan skipUnchanged)))))
    ambient.now accepted
  refine ⟨.inr (.inl rfl), .inr (.inr ⟨valid, running.committing_append accepted⟩),
    within (.refl first.clean), ?_⟩
  refine Meets.bind (retirePlanProjections_meets.mono (fun next trimmed => ?_)
    (fun _ retired trimmed => ?_) fun _ _ => id)
  · exact within (trimmed.growth first.readable)
  obtain ⟨trimmed, lookup⟩ := trimmed
  have retiredGrowth : Growth (start.commit .plan plan (eventInfo envelope request
      (some (.command (Commit.result start.taskState (.aggregate plan skipUnchanged)))))
      ambient.now) retired := trimmed.growth first.readable
  have retiredCommitted := trimmed.committed first.committed
  have retiredClean : retired.Clean := by
    rw [Store.Clean, trimmed.journal]
    exact first.clean
  -- The task is committed at the revision that it had before.
  obtain ⟨revision, nextRevision⟩ :=
    retired_nextRevision running current trimmed lookup retiredCommitted
  have task : validatePayload ObjectKey.task plan.task = .ok () :=
    @Plan.projections_valid plan valid.accepted ⟨.task, plan.task⟩ List.mem_cons_self
  refine Meets.bind (put_meets retiredClean (within retiredGrowth) (fun error rejected => ?_)
    (fun stale => absurd revision.symm stale) fun _ _ => ?_)
  · rw [task] at rejected
    cases rejected
  have different : ObjectKey.task ≠ .plan := by simp
  have growth : Growth (start.commit .plan plan (eventInfo envelope request
      (some (.command (Commit.result start.taskState (.aggregate plan skipUnchanged)))))
      ambient.now)
      (retired.commit .task plan.task (eventInfo envelope request none) ambient.now) :=
    retiredGrowth.commit plan.task ambient.now retiredClean (fun _ => retiredCommitted) rfl
      different
  refine ⟨within (retiredGrowth.torn retiredClean),
    within (retiredGrowth.append plan.task ambient.now retiredClean (fun _ => retiredCommitted)
      rfl different), within growth, ?_⟩
  refine Meets.bind ((writeProjections_meets skipUnchanged retiredClean.commit
    (fun projection => ⟨_, rfl, rfl⟩) (fun projection member => ?_)
    fun projection member => ?_).mono (fun next more => ?_) (fun _ store written => ?_)
    fun _ _ => id)
  · exact Plan.projections_valid valid.accepted (List.mem_cons_of_mem _ member)
  · exact Plan.projections_ne_plan (List.mem_cons_of_mem _ member)
  · exact within (growth.trans more fun _ => retiredCommitted.commit retiredClean)
  have persisted := persisted_of_written running current valid trimmed lookup written growth
    retiredCommitted retiredClean
  refine Meets.guarded (.inr (.inr ⟨valid, persisted.committing⟩)) (fun _ _ => ?_)
    fun error fails => ?_
  · exact Meets.pure (.inr (.inr ⟨valid, persisted.committing⟩)) ⟨rfl, valid, persisted⟩
  · rw [ensure_of (show (retired.nextSnapshot .task plan.task ambient.now).revision =
      start.revision .task + 1 from nextRevision)] at fails
    cases fails

end

/-! ## Commands under their keys -/

/-- No event carries a result under the key. -/
def Unused (events : List TaskEvent) (key : String) : Prop :=
  ∀ event ∈ events, ∀ result, ¬Carries event key result

section

variable {taskId : Identifier} {envelope : CommandEnvelope} {ambient : Ambient}
  {request : Command} {start store : TaskStore} {commit : Commit} {name : String}
  {record : IdempotencyRecord} {event : TaskEvent}

/-- The objects beside the task and the plan after a commit. -/
def Effect (start : TaskStore) : Commit → TaskStore → Prop
  | .task _ _, store => ∀ key, key ≠ .task → store.lookup key = start.lookup key
  | .aggregate plan _, store => AgreesWith store plan

/-- A command that has been executed. -/
structure Executed (envelope : CommandEnvelope) (ambient : Ambient) (request : Command)
    (start : TaskStore) (commit : Commit) (store : TaskStore) : Prop where
  unused : Unused start.events envelope.idempotencyKey
  handled : TaskCommandService.handle start.taskState envelope ambient request = .ok commit
  applied : start.taskState.apply commit = .ok store.taskState
  committing : Committing start (eventOf envelope ambient request start commit) store
  running : Running store
  current : store.Current
  effect : Effect start commit store

theorem eventOf_info : (eventOf envelope ambient request start commit).info =
    eventInfo envelope request (some (.command (commit.result start.taskState))) := by
  cases commit <;> rfl

theorem carries_eventOf : Carries (eventOf envelope ambient request start commit)
    envelope.idempotencyKey ⟨.command request, .command (commit.result start.taskState)⟩ := by
  rw [Carries, eventOf_info]
  exact ⟨rfl, rfl⟩

/-- The record that the event of a command leaves in the registry. -/
theorem recordOf_eventOf : recordOf envelope.idempotencyKey
    (eventOf envelope ambient request start commit) =
      some ⟨request.name, .command request, .command (commit.result start.taskState)⟩ :=
  recordOf_eq_some.mpr ⟨_, carries_eventOf, by rw [eventOf_info]; rfl⟩

/-- The registry may copy the result of an event. -/
theorem Interrupted.remember (interrupted : Interrupted store) (member : event ∈ store.events)
    (recorded : recordOf name event = some record) :
    Interrupted (withRegistry store (store.side.registry.insert name record)) where
  readable := interrupted.readable
  behind := interrupted.behind
  sequenced := interrupted.sequenced
  recorded := interrupted.recorded
  accepted := interrupted.accepted
  copied := by
    intro other found lookup
    change AList.lookup other (AList.insert name record store.side.registry) = some found at lookup
    by_cases same : other = name
    · subst same
      rw [AList.lookup_insert] at lookup
      obtain rfl := Option.some.inj lookup
      obtain ⟨result, carries, rfl⟩ := recordOf_eq_some.mp recorded
      exact ⟨event, member, result, carries, rfl⟩
    · rw [AList.lookup_insert_ne same] at lookup
      exact interrupted.copied other found lookup

theorem Running.remember (running : Running store) (member : event ∈ store.events)
    (recorded : recordOf name event = some record) :
    Running (withRegistry store (store.side.registry.insert name record)) where
  toInterrupted := running.toInterrupted.remember member recorded
  clean := running.clean
  committed := running.committed

theorem Committing.mem (committing : Committing start event store) : event ∈ store.events := by
  obtain ⟨more, events, -⟩ := committing.events
  simp [events]

theorem Committing.remember (committing : Committing start event store)
    (recorded : recordOf name event = some record) :
    Committing start event (withRegistry store (store.side.registry.insert name record)) where
  interrupted := committing.interrupted.remember committing.mem recorded
  events := committing.events
  registry := by
    intro other found lookup
    change AList.lookup other (AList.insert name record store.side.registry) = some found at lookup
    by_cases same : other = name
    · subst same
      rw [AList.lookup_insert] at lookup
      exact .inr (recorded.trans lookup)
    · rw [AList.lookup_insert_ne same] at lookup
      exact committing.registry other found lookup

theorem Executed.remember (executed : Executed envelope ambient request start commit store)
    (recorded : recordOf name (eventOf envelope ambient request start commit) = some record) :
    Executed envelope ambient request start commit
      (withRegistry store (store.side.registry.insert name record)) where
  unused := executed.unused
  handled := executed.handled
  applied := executed.applied
  committing := executed.committing.remember recorded
  running := executed.running.remember executed.committing.mem recorded
  current := ⟨executed.current.task, executed.current.plan⟩
  effect := by
    have effect := executed.effect
    cases commit with
    | task payload expected => exact effect
    | aggregate plan skipUnchanged => exact ⟨effect.projected, effect.retired⟩

/-- The states in the course of a command. -/
def InCommand (envelope : CommandEnvelope) (ambient : Ambient) (request : Command)
    (start store : TaskStore) : Prop :=
  SameObjectsAs start store ∧ Interrupted store ∧ store.side = start.side ∨
    Unused start.events envelope.idempotencyKey ∧ ∃ commit next,
      TaskCommandService.handle start.taskState envelope ambient request = .ok commit ∧
      start.taskState.apply commit = .ok next ∧
      Committing start (eventOf envelope ambient request start commit) store

theorem InCommand.here (running : Running start) :
    InCommand envelope ambient request start start := .inl ⟨.refl, running.toInterrupted, rfl⟩

theorem InCommand.torn (running : Running start) :
    InCommand envelope ambient request start start.torn :=
  .inl ⟨⟨Store.events_torn, rfl⟩, running.toInterrupted.torn running.clean, rfl⟩

/-- The task and the plan after a commit of the task alone. -/
theorem Running.commit_task {payload : MainTask} (info : EventInfo) (now : Timestamp)
    (running : Running start) (current : start.Current)
    (valid : validatePayload ObjectKey.task payload = .ok ()) :
    TaskStore.taskState (start.commit .task payload info now) =
        { start.taskState with
          task := some payload, taskRevision := start.taskState.taskRevision + 1 } ∧
      TaskStore.Current (start.commit .task payload info now) := by
  have task : Store.lookup .task (start.commit .task payload info now) =
      some (start.nextSnapshot .task payload now) := Store.lookup_commit_self
  have plan : Store.lookup .plan (start.commit .task payload info now) = start.lookup .plan :=
    Store.lookup_commit_of_ne (by simp)
  have revision : (start.nextSnapshot .task payload now).revision =
      start.revision .task + 1 := nextRevision_of_current running.committed current.task
  refine ⟨?_, ⟨?_, ?_⟩⟩
  · simp only [TaskStore.taskState, Store.payload, Store.revision, task, plan, Option.map_some,
      Option.elim_some, TaskState.mk.injEq]
    exact ⟨rfl, revision, trivial, trivial⟩
  · rw [task, (running.commit info now valid).committed .task _ task]
  · rw [plan, current.plan, Store.events_commit running.clean,
      Store.latest_commitEvent_of_ne (by simp)]

/-- What a handler decided is written. -/
theorem persist_meets (running : Running start) (current : start.Current)
    (unused : Unused start.events envelope.idempotencyKey)
    (handled : TaskCommandService.handle start.taskState envelope ambient request = .ok commit) :
    Meets (persist taskId envelope ambient request start.taskState commit) start
      (InCommand envelope ambient request start)
      (fun result store => result = .command (commit.result start.taskState) ∧
        store.side = start.side ∧ Executed envelope ambient request start commit store)
      fun _ store => store = start ∧ ∀ next, start.taskState.apply commit ≠ .ok next := by
  cases commit with
  | aggregate plan skipUnchanged =>
      have applies : ∀ (_ : PlanValid plan), ∃ next,
          start.taskState.apply (.aggregate plan skipUnchanged) = .ok next :=
        fun valid => ⟨_, TaskState.apply_aggregate_eq_ok.mpr ⟨valid, rfl⟩⟩
      refine (persistAggregate_meets running current).mono ?_ ?_ ?_
      · rintro store (rfl | rfl | ⟨valid, committing⟩)
        · exact .here running
        · exact .torn running
        · obtain ⟨next, applied⟩ := applies valid
          exact .inr ⟨unused, _, next, handled, applied, committing⟩
      · rintro result store ⟨same, valid, persisted⟩
        exact ⟨same, persisted.side, unused, handled,
          TaskState.apply_aggregate_eq_ok.mpr ⟨valid, persisted.state⟩, persisted.committing,
          persisted.running, persisted.current, persisted.agrees⟩
      · rintro error store ⟨same, invalid⟩
        refine ⟨same, fun next applied => invalid ?_⟩
        exact (TaskState.apply_aggregate_eq_ok.mp applied).1
  | task payload expected =>
      refine Meets.bind (put_meets running.clean (.here running) (fun error rejected => ?_)
        (fun stale => ?_) fun valid same => ?_)
      · refine ⟨rfl, fun next applied => ?_⟩
        obtain ⟨accepted, -, -⟩ := TaskState.apply_task_eq_ok.mp applied
        rw [show validatePayload ObjectKey.task payload = .ok () from
          validateContract_eq_ok.mpr accepted] at rejected
        cases rejected
      · refine ⟨rfl, fun next applied => ?_⟩
        obtain ⟨-, same, -⟩ := TaskState.apply_task_eq_ok.mp applied
        exact stale same
      have appended : Committing start (eventOf envelope ambient request start
          (.task payload expected)) (start.append _) := running.committing_append valid
      have next := running.commit (eventInfo envelope request
        (some (.command (Commit.result start.taskState (.task payload expected))))) ambient.now valid
      have committing : Committing start (eventOf envelope ambient request start
          (.task payload expected)) (start.commit _ _ _ _) :=
        ⟨next.toInterrupted, appended.events, fun _ _ => .inl⟩
      obtain ⟨state, current'⟩ := running.commit_task (eventInfo envelope request
        (some (.command (Commit.result start.taskState (.task payload expected))))) ambient.now
        current valid
      have applied := TaskState.apply_task_eq_ok.mpr
        ⟨validateContract_eq_ok.mp valid, same, state⟩
      have within : ∀ {store : TaskStore}, Committing start (eventOf envelope ambient request start
          (.task payload expected)) store → InCommand envelope ambient request start store :=
        fun committing => .inr ⟨unused, _, _, handled, applied, committing⟩
      refine ⟨.torn running, within appended, within committing, ?_⟩
      exact Meets.pure (within committing) ⟨rfl, rfl, unused, handled, applied, committing, next,
        current', fun key other => Store.lookup_commit_of_ne other⟩

/-- A command that returns what is in the registry under its key. -/
structure Replayed (envelope : CommandEnvelope) (request : Command) (start : TaskStore)
    (result : ServiceResult) (store : TaskStore) : Prop where
  same : store = start
  carried : ∃ event ∈ start.events,
    Carries event envelope.idempotencyKey ⟨.command request, result⟩

/-- Why a command is refused: its key belongs to another request, or it cannot be executed. -/
def CommandRefused (envelope : CommandEnvelope) (ambient : Ambient) (request : Command)
    (start : TaskStore) : Prop :=
  (∃ event ∈ start.events, ∃ result, Carries event envelope.idempotencyKey result ∧
    result.digest ≠ .command request) ∨
  Unused start.events envelope.idempotencyKey ∧ ∀ commit next,
    TaskCommandService.handle start.taskState envelope ambient request = .ok commit →
      start.taskState.apply commit ≠ .ok next

theorem runHandler_meets (running : Running start) (current : start.Current)
    (unused : Unused start.events envelope.idempotencyKey) :
    Meets (runHandler taskId envelope ambient request) start
      (InCommand envelope ambient request start)
      (fun result store => ∃ commit, result = .command (commit.result start.taskState) ∧
        store.side = start.side ∧ Executed envelope ambient request start commit store)
      fun _ store => store = start ∧ CommandRefused envelope ambient request start := by
  unfold runHandler
  refine Meets.looked rfl ?_
  refine Meets.guarded (.here running) (fun commit handled => ?_) fun error failed => ?_
  · refine (persist_meets running current unused handled).mono (fun _ => id) ?_ ?_
    · exact fun result store persisted => ⟨commit, persisted⟩
    · rintro error store ⟨same, refused⟩
      refine ⟨same, .inr ⟨unused, fun other next handled' => ?_⟩⟩
      obtain rfl := Except.ok.inj (handled.symm.trans handled')
      exact refused next
  · refine ⟨rfl, .inr ⟨unused, fun commit next handled => ?_⟩⟩
    rw [handled] at failed
    cases failed

/-- The journal lookup finds the result of the command that was just executed. -/
theorem Executed.committedResult (taskId : Identifier)
    (executed : Executed envelope ambient request start commit store) :
    DesignHarness.committedResult taskId envelope.idempotencyKey request.name (.command request)
      store.events none = .ok (some (.command (commit.result start.taskState))) := by
  obtain ⟨more, events, silent⟩ := executed.committing.events
  have split : start.events ++ eventOf envelope ambient request start commit :: more =
      (start.events ++ [eventOf envelope ambient request start commit]) ++ more := by simp
  have named : (eventOf envelope ambient request start commit).info.command = request.name := by
    rw [eventOf_info]
    rfl
  rw [events, split, committedResult_append,
    committedResult_append_carried executed.unused carries_eventOf named rfl, ok_bind]
  refine committedResult_of_silent fun event member result carries => ?_
  rw [Carries, (silent event member).1] at carries
  cases carries.2

/-- The registry has every result of the journal. -/
def Registered (store : TaskStore) : Prop :=
  ∀ event ∈ store.events, ∀ key record, recordOf key event = some record →
    store.side.registry.lookup key = some record

theorem Registered.unused (registered : Registered store) {key : String}
    (absent : store.side.registry.lookup key = none) : Unused store.events key := by
  intro event member result carries
  have found := registered event member key _ (recordOf_eq_some.mpr ⟨result, carries, rfl⟩)
  rw [absent] at found
  cases found

/-- The result of an executed command is remembered. -/
theorem Executed.registered (executed : Executed envelope ambient request start commit store)
    (registered : Registered start) (side : store.side = start.side)
    (recorded : recordOf envelope.idempotencyKey (eventOf envelope ambient request start commit) =
      some record) :
    Registered (withRegistry store (store.side.registry.insert envelope.idempotencyKey record)) := by
  intro event member key found carried
  change AList.lookup key (AList.insert envelope.idempotencyKey record store.side.registry) = _
  obtain ⟨more, events, silent⟩ := executed.committing.events
  change event ∈ store.events at member
  rw [events] at member
  obtain ⟨result, carries, -⟩ := recordOf_eq_some.mp carried
  rcases List.mem_append.mp member with before | later
  · have different : key ≠ envelope.idempotencyKey := by
      rintro rfl
      exact executed.unused event before result carries
    rw [AList.lookup_insert_ne different, side]
    exact registered event before key found carried
  rcases List.mem_cons.mp later with rfl | silent'
  · have same : key = envelope.idempotencyKey := by
      rw [← carries.1, eventOf_info]
      rfl
    rw [same] at carried ⊢
    rw [AList.lookup_insert, ← recorded, carried]
  · rw [Carries, (silent event silent').1] at carries
    cases carries.2

/-- Under its key a command is executed once. -/
theorem idempotent_meets (running : Running start) (current : start.Current)
    (registered : Registered start) :
    Meets (idempotent taskId envelope request (runHandler taskId envelope ambient request)) start
      (InCommand envelope ambient request start)
      (fun result store => Replayed envelope request start result store ∨
        ∃ commit, result = .command (commit.result start.taskState) ∧ Registered store ∧
          Executed envelope ambient request start commit store)
      fun _ store => store = start ∧ CommandRefused envelope ambient request start := by
  unfold idempotent
  refine Meets.looked rfl ?_
  refine Meets.guarded (.here running) (fun existing found => ?_) fun error failed => ?_
  · unfold lookupRegistry at found
    cases known : start.side.registry.lookup envelope.idempotencyKey with
    | some record =>
        rw [known] at found
        obtain ⟨_, equal, returned⟩ := bind_eq_ok.mp found
        obtain rfl := Except.ok.inj returned
        obtain ⟨event, member, result, carries, rfl⟩ := running.copied _ _ known
        have same : result.digest = .command request := ensure_eq_ok.mp equal
        refine Meets.pure (.here running) (.inl ⟨rfl, event, member, ?_⟩)
        rw [← same]
        exact carries
    | none =>
        rw [known] at found
        obtain rfl := Except.ok.inj found
        have unused := registered.unused known
        have truncated : start.truncate = start := Store.truncate_of_clean running.clean
        -- The journal has no result under the key either.
        refine Meets.bind (lookupCommitted_meets running.readable (.here running)
          (by rw [truncated]; exact .here running) (fun committed looked => ?_)
          fun error failed => ?_)
        · rw [committedResult_of_silent unused] at looked
          obtain rfl := Except.ok.inj looked
          rw [truncated]
          refine Meets.bind ((runHandler_meets running current unused).mono (fun _ => id) ?_
            fun _ _ => id)
          rintro result store ⟨commit, rfl, side, executed⟩
          have within : InCommand envelope ambient request start store :=
            .inr ⟨unused, commit, _, executed.handled, executed.applied, executed.committing⟩
          have whole : store.truncate = store := Store.truncate_of_clean executed.running.clean
          have finds := executed.committedResult taskId
          refine Meets.bind (lookupCommitted_meets executed.running.readable within
            (by rw [whole]; exact within) (fun committed looked => ?_) fun error fails => ?_)
          · rw [whole]
            have same : some (.command (commit.result start.taskState)) = committed :=
              Except.ok.inj (finds.symm.trans looked)
            refine Meets.guarded within (fun _ _ => ?_) fun error fails => ?_
            · have last := executed.remember recordOf_eventOf
              have later : InCommand envelope ambient request start (withRegistry store
                  (store.side.registry.insert envelope.idempotencyKey ⟨request.name,
                    .command request, .command (commit.result start.taskState)⟩)) :=
                .inr ⟨unused, commit, _, executed.handled, executed.applied, last.committing⟩
              have remembered := executed.registered registered side recordOf_eventOf
              rw [← side] at known
              refine Meets.looked rfl ?_
              rw [known]
              refine Meets.bind (Meets.write within within later ?_)
              exact Meets.pure later (.inr ⟨commit, rfl, remembered, last⟩)
            · rw [ensure_of same.symm] at fails
              cases fails
          · rw [finds] at fails
            cases fails
        · rw [committedResult_of_silent unused] at failed
          cases failed
  · unfold lookupRegistry at failed
    cases known : start.side.registry.lookup envelope.idempotencyKey with
    | none =>
        rw [known] at failed
        cases failed
    | some record =>
        rw [known] at failed
        obtain ⟨event, member, result, carries, rfl⟩ := running.copied _ _ known
        refine ⟨rfl, .inl ⟨event, member, result, carries, fun same => ?_⟩⟩
        simp only [same, ensure_of, ok_bind] at failed
        cases failed

/-- A public method from a running store. -/
theorem runCommand_meets {command : Command} (running : Running start) (current : start.Current)
    (registered : Registered start) :
    Meets (runCommand taskId envelope ambient command) start
      (fun store => store = start ∨ ∃ request,
        TaskCommandService.buildRequest envelope command = .ok request ∧
          InCommand envelope ambient request start store)
      (fun result store => ∃ request,
        TaskCommandService.buildRequest envelope command = .ok request ∧
        (Replayed envelope request start result store ∨
          ∃ commit, result = .command (commit.result start.taskState) ∧ Registered store ∧
            Executed envelope ambient request start commit store))
      fun _ store => store = start ∧ ∀ request,
        TaskCommandService.buildRequest envelope command = .ok request →
          CommandRefused envelope ambient request start := by
  unfold runCommand
  refine Meets.guarded (.inl rfl) (fun request built => ?_) fun error failed => ?_
  · refine (idempotent_meets running current registered).mono ?_ ?_ ?_
    · exact fun store within => .inr ⟨request, built, within⟩
    · exact fun result store outcome => ⟨request, built, outcome⟩
    · rintro error store ⟨same, refused⟩
      refine ⟨same, fun other built' => ?_⟩
      obtain rfl := Except.ok.inj (built.symm.trans built')
      exact refused
  · refine ⟨rfl, fun request built => ?_⟩
    rw [built] at failed
    cases failed

end

end DesignHarness
