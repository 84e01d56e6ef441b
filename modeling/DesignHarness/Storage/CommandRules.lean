import DesignHarness.Library.EventStoreCounts
import DesignHarness.Storage.CommandCommits

/-!
# Stores that serve commands

`Serving` holds whenever the process runs and `Restartable` wherever it was stopped in the middle
of a write.  A command, an update of instance facts and a commit of another service lead from one to
the other, and from a restartable store every startup returns (`recover_returns`).
-/

namespace DesignHarness

open Library

/-! ## What holds of a store -/

/-- No two events carry different results under one key. -/
def UniqueResults (events : List TaskEvent) : Prop :=
  ∀ first ∈ events, ∀ second ∈ events, ∀ key record other, recordOf key first = some record →
    recordOf key second = some other → record = other

/-- What holds wherever the process was stopped. -/
structure Restartable (store : TaskStore) : Prop extends Interrupted store where
  counted : store.Counted
  unique : UniqueResults store.events
  planned : ∀ wrapper, latest .plan store.events = some wrapper → PlanInvariant wrapper.payload

/-- The stages and the instances are those of the plan, and the task up to the input manifest,
    which `_update_task_input` writes past the plan. -/
structure Projected (store : TaskStore) (plan : Plan) : Prop where
  task : ∃ task, store.payload .task = some task ∧
    task = { plan.task with inputManifest := task.inputManifest, updatedAt := task.updatedAt }
  members : ∀ key payload, key ≠ .task → ⟨key, payload⟩ ∈ plan.projections →
    store.payload key = some payload
  retired : ∀ key, ¬plan.holds key → store.lookup key = none

/-- What holds while the process runs. -/
structure Serving (store : TaskStore) : Prop extends Running store where
  counted : store.Counted
  current : store.Current
  registered : Registered store
  sound : StateInvariant store.taskState
  projected : ∀ plan, store.payload .plan = some plan → Projected store plan

/-- The object is the task, the plan or a stage or instance of it. -/
def ObjectKey.isPlanned : ObjectKey → Bool
  | .task | .plan | .stage _ | .agentInstance _ => true
  | _ => false

/-- The call writes an object that no plan has, without a result. -/
def RepositoryCall.IsBeside : RepositoryCall → Prop
  | .put key _ _ info _ | .delete key _ info => info.result = none ∧ key.isPlanned = false

section

variable {taskId : Identifier} {envelope : CommandEnvelope} {ambient : Ambient}
  {request : Command} {start store : TaskStore} {commit : Commit} {event : TaskEvent}

theorem AgreesWith.isProjected {plan : Plan} (agrees : AgreesWith store plan) :
    Projected store plan where
  task := ⟨plan.task, agrees.projected .task plan.task List.mem_cons_self, rfl⟩
  members key payload _ member := agrees.projected key payload member
  retired := agrees.retired

theorem Registered.unique (registered : Registered store) : UniqueResults store.events := by
  intro first member second member' key record other recorded recorded'
  have found := registered first member key record recorded
  have found' := registered second member' key other recorded'
  rw [found] at found'
  exact Option.some.inj found'

theorem UniqueResults.agree {events : List TaskEvent} (unique : UniqueResults events) :
    ResultsAgree events := by
  intro first member second member' key result other carries carries'
  have same := unique first member second member' key _ _
    (recordOf_eq_some.mpr ⟨result, carries, rfl⟩) (recordOf_eq_some.mpr ⟨other, carries', rfl⟩)
  exact congrArg IdempotencyRecord.digest same

theorem UniqueResults.append_silent {events more : List TaskEvent} (unique : UniqueResults events)
    (silent : ∀ event ∈ more, event.info.result = none) : UniqueResults (events ++ more) := by
  intro first member second member' key record other recorded recorded'
  obtain ⟨result, carries, -⟩ := recordOf_eq_some.mp recorded
  obtain ⟨result', carries', -⟩ := recordOf_eq_some.mp recorded'
  exact unique first (carries_of_mem_append silent member carries) second
    (carries_of_mem_append silent member' carries') key record other recorded recorded'

/-- A result under a key that no event carries contradicts nothing. -/
theorem UniqueResults.append {events : List TaskEvent} (unique : UniqueResults events)
    (fresh : event.info.result ≠ none → Unused events event.info.idempotencyKey) :
    UniqueResults (events ++ [event]) := by
  intro first member second member' key record other recorded recorded'
  obtain ⟨result, carries, same⟩ := recordOf_eq_some.mp recorded
  obtain ⟨result', carries', same'⟩ := recordOf_eq_some.mp recorded'
  have present : ∀ {found : CommittedResult}, Carries event key found →
      Unused events key := by
    rintro found ⟨rfl, carried⟩
    exact fresh (by simp [carried])
  rcases List.mem_append.mp member with before | last
  · rcases List.mem_append.mp member' with before' | last'
    · exact unique first before second before' key record other recorded recorded'
    · obtain rfl := List.mem_singleton.mp last'
      exact absurd carries (present carries' first before result)
  · obtain rfl := List.mem_singleton.mp last
    rcases List.mem_append.mp member' with before' | last'
    · exact absurd carries' (present carries second before' result')
    · obtain rfl := List.mem_singleton.mp last'
      rw [recorded] at recorded'
      exact Option.some.inj recorded'

/-- The stored plan is the one of the journal. -/
theorem Serving.latest_plan (serving : Serving start) {wrapper : Wrapper Plan}
    (found : latest .plan start.events = some wrapper) :
    start.payload .plan = some wrapper.payload := by
  rw [Store.payload, serving.current.plan, found]
  rfl

theorem Serving.restartable (serving : Serving start) : Restartable start where
  toInterrupted := serving.toInterrupted
  counted := serving.counted
  unique := serving.registered.unique
  planned wrapper found := serving.sound.plan wrapper.payload (serving.latest_plan found)

/-- A store with the events of a serving one. -/
theorem Serving.restartable_of_events (serving : Serving start) (interrupted : Interrupted store)
    (counted : store.Counted) (events : store.events = start.events) : Restartable store where
  toInterrupted := interrupted
  counted := counted
  unique := by
    rw [events]
    exact serving.registered.unique
  planned wrapper found := by
    rw [events] at found
    exact serving.restartable.planned wrapper found

/-- Once the event is in the journal, only it can have changed the plan. -/
theorem Committing.restartable (serving : Serving start) (committing : Committing start event store)
    (counted : store.Counted)
    (fresh : event.info.result ≠ none → Unused start.events event.info.idempotencyKey)
    (planned : ∀ wrapper, latest .plan (start.events ++ [event]) = some wrapper →
      PlanInvariant wrapper.payload) : Restartable store := by
  obtain ⟨more, events, silent⟩ := committing.events
  have split : store.events = (start.events ++ [event]) ++ more := by simp [events]
  refine ⟨committing.interrupted, counted, ?_, fun wrapper found => ?_⟩
  · rw [split]
    exact (serving.registered.unique.append fresh).append_silent fun event member =>
      (silent event member).1
  · rw [split, latest_append_of_silent fun event member => (silent event member).2] at found
    exact planned wrapper found

/-- Wherever a command is stopped, the store can be started again. -/
theorem InCommand.restartable (serving : Serving start)
    (within : InCommand envelope ambient request start store) (counted : store.Counted) :
    Restartable store := by
  rcases within with ⟨same, interrupted, -⟩ | ⟨unused, commit, _, handled, applied, committing⟩
  · exact serving.restartable_of_events interrupted counted same.events
  have decision := TaskCommandService.handle_decision serving.sound.synced handled
  refine committing.restartable serving counted (fun _ => ?_) fun wrapper found => ?_
  · rw [eventOf_info]
    exact unused
  cases commit with
  | task payload expected =>
      rw [eventOf, Store.latest_commitEvent_of_ne (by simp)] at found
      exact serving.restartable.planned wrapper found
  | aggregate plan skipUnchanged =>
      obtain ⟨valid, -⟩ := TaskState.apply_aggregate_eq_ok.mp applied
      rw [eventOf, Store.latest_commitEvent_self serving.committed] at found
      obtain rfl := Option.some.inj found
      exact decision.planInvariant serving.sound valid

/-- A task that is written past its plan keeps all but the input manifest. -/
theorem Decision.task_of_planned {state : TaskState} {payload : MainTask} {plan : Plan}
    {expected : Nat} (inv : StateInvariant state) (planned : state.plan = some plan)
    (stored : ∃ task, state.task = some task ∧
      task = { plan.task with inputManifest := task.inputManifest, updatedAt := task.updatedAt })
    (current : expected = state.taskRevision)
    (decision : Decision state envelope ambient request (.task payload expected)) :
    payload = { plan.task with
      inputManifest := payload.inputManifest, updatedAt := payload.updatedAt } := by
  obtain ⟨task, found, same⟩ := stored
  cases decision with
  | created request payload draft =>
      have positive := (inv.stored plan planned).1
      omega
  | registered inputManifest before known =>
      obtain rfl := Option.some.inj (known.symm.trans found)
      rw [same]
  | planless command before payload known noPlan =>
      rw [planned] at noPlan
      cases noPlan

/-- An executed command leaves a store that serves the next one. -/
theorem Executed.serving {command : Command} (serving : Serving start)
    (built : TaskCommandService.buildRequest envelope command = .ok request)
    (executed : Executed envelope ambient request start commit store)
    (registered : Registered store) (counted : store.Counted) : Serving store where
  toRunning := executed.running
  counted := counted
  current := executed.current
  registered := registered
  sound := serving.sound.execute (TaskState.execute_eq_ok.mpr
    ⟨request, commit, built, executed.handled, executed.applied⟩)
  projected := by
    intro plan stored
    have decision := TaskCommandService.handle_decision serving.sound.synced executed.handled
    have effect := executed.effect
    have applied := executed.applied
    cases commit with
    | aggregate new skipUnchanged =>
        obtain ⟨-, state⟩ := TaskState.apply_aggregate_eq_ok.mp applied
        have same : store.payload .plan = some new := congrArg TaskState.plan state
        obtain rfl := Option.some.inj (same.symm.trans stored)
        exact AgreesWith.isProjected effect
    | task payload expected =>
        obtain ⟨-, current, state⟩ := TaskState.apply_task_eq_ok.mp applied
        have planned : start.payload .plan = some plan := by
          rw [← stored]
          exact (congrArg TaskState.plan state).symm
        have task : store.payload .task = some payload := congrArg TaskState.task state
        have before := serving.projected plan planned
        refine ⟨⟨payload, task, ?_⟩, fun key found other member => ?_, fun key absent => ?_⟩
        · exact Decision.task_of_planned serving.sound planned before.task current decision
        · rw [Store.payload, effect key other]
          exact before.members key found other member
        · rw [effect key fun same => absent (same ▸ trivial)]
          exact before.retired key absent

theorem Recovering.restartable (restartable : Restartable start)
    (recovering : Recovering start store) (counted : store.Counted) : Restartable store where
  toInterrupted := recovering.interrupted restartable.toInterrupted
  counted := counted
  unique := by
    obtain ⟨more, events, silent⟩ := recovering.events
    rw [events]
    exact restartable.unique.append_silent fun event member => (silent event member).1
  planned wrapper found := by
    rw [recovering.latest_plan] at found
    exact restartable.planned wrapper found

/-- The startup makes the stages, the instances and the task those of the plan. -/
theorem Recovered.agrees (restartable : Restartable start) (recovered : Recovered start store) :
    store.Agrees := by
  intro plan stored
  obtain ⟨middle, -, -, -, reconciled⟩ := recovered.rebuilt
  rw [Store.payload, recovered.plan] at stored
  obtain ⟨wrapper, found, rfl⟩ := Option.map_eq_some_iff.mp stored
  rw [found] at reconciled
  exact reconciled.agrees (restartable.planned wrapper found).valid.distinct

theorem Recovered.registered (restartable : Restartable start)
    (recovered : Recovered start store) : Registered store := by
  obtain ⟨more, events, silent⟩ := recovered.recovering.events
  intro event member key record recorded
  obtain ⟨result, carries, -⟩ := recordOf_eq_some.mp recorded
  rw [events] at member
  have before := carries_of_mem_append (fun event member => (silent event member).1) member carries
  -- Whatever the registry has under the key is the record of an event.
  have same : ∀ other ∈ start.events, ∀ found, recordOf key other = some found → found = record :=
    fun other member' found recorded' =>
      restartable.unique other member' event before key found record recorded' recorded
  rw [recovered.registry]
  cases known : start.side.registry.lookup key with
  | some found =>
      obtain ⟨other, member', result', carries', rfl⟩ := restartable.copied key found known
      rw [Option.some_or, same other member' _ (recordOf_eq_some.mpr ⟨result', carries', rfl⟩)]
  | none =>
      rw [Option.none_or]
      cases first : firstRecord key start.events with
      | none => exact absurd carries (firstRecord_eq_none.mp first event before result)
      | some found =>
          obtain ⟨other, member', result', carries', rfl⟩ := carries_of_firstRecord first
          rw [same other member' _ (recordOf_eq_some.mpr ⟨result', carries', rfl⟩)]

theorem Recovered.current (restartable : Restartable start) (recovered : Recovered start store) :
    store.Current where
  plan := by rw [recovered.plan, recovered.recovering.latest_plan]
  task := by
    cases found : store.lookup .task with
    | some snapshot => rw [recovered.committed .task snapshot found]
    | none =>
        cases planned : latest .plan start.events with
        | some wrapper =>
            have stored : store.payload .plan = some wrapper.payload := by
              rw [Store.payload, recovered.plan, planned]
              rfl
            have task := (recovered.agrees restartable wrapper.payload stored).projected .task _
              List.mem_cons_self
            rw [Store.payload, found] at task
            cases task
        | none =>
            obtain ⟨middle, -, events, rebuilt, same⟩ := recovered.rebuilt
            rw [planned] at same
            dsimp only at same
            subst same
            rw [← found, rebuilt, events]

/-- After a startup the process runs. -/
theorem Recovered.serving (restartable : Restartable start) (recovered : Recovered start store)
    (counted : store.Counted) : Serving store where
  toRunning := recovered.running restartable.toInterrupted
  counted := counted
  current := recovered.current restartable
  registered := recovered.registered restartable
  projected plan stored := (recovered.agrees restartable plan stored).isProjected
  sound := by
    have task : ∀ plan, store.payload .plan = some plan → store.payload .task = some plan.task :=
      fun plan stored => (recovered.agrees restartable plan stored).projected .task plan.task
        List.mem_cons_self
    refine ⟨fun plan stored => ?_, fun found plan known stored => ?_, fun plan stored => ?_⟩
    · change store.payload .plan = some plan at stored
      rw [Store.payload, recovered.plan] at stored
      obtain ⟨wrapper, planned, rfl⟩ := Option.map_eq_some_iff.mp stored
      exact restartable.planned wrapper planned
    · obtain rfl := Option.some.inj ((task plan stored).symm.trans known)
      rfl
    · refine ⟨?_, Option.isSome_iff_exists.mpr ⟨plan.task, task plan stored⟩⟩
      obtain ⟨snapshot, found, -⟩ := Option.map_eq_some_iff.mp (task plan stored)
      show 0 < store.revision .task
      rw [Store.revision, found]
      exact counted.snapshots .task snapshot found

theorem rememberDigest_counted {key command : String} {digest : Request} {result : ServiceResult} :
    Counts (rememberDigest taskId key command digest result) := by
  refine Maintains.andThen Maintains.look fun side => ?_
  cases side.registry.lookup key with
  | some record => exact Maintains.andThen Maintains.check fun _ => Maintains.done
  | none => exact Maintains.andThen (Maintains.write side_counted) fun _ => Maintains.done

theorem writeProjection_counted {skipUnchanged : Bool} {info : EventInfo} {now : Timestamp}
    {projection : Projection} :
    Counts (writeProjection taskId skipUnchanged info now projection) := by
  refine Maintains.andThen Maintains.look fun current => ?_
  split
  · exact Maintains.done
  · exact Maintains.andThen put_counted fun _ => Maintains.done

theorem retirePlanProjections_counted {plan : Plan} : Counts (retirePlanProjections plan) := by
  have retire : ∀ toKey (active listed : List Identifier), Counts (retireFrom toKey active listed) :=
    by
      intro toKey active listed
      refine Maintains.forEach fun objectId _ => ?_
      split
      · exact Maintains.done
      · exact Maintains.write unlink_counted
  refine Maintains.andThen Maintains.look fun stages => Maintains.andThen (retire _ _ _) fun _ => ?_
  exact Maintains.andThen Maintains.look fun instances => retire _ _ _

theorem reconcilePlanProjections_counted {now : Timestamp} :
    Counts (reconcilePlanProjections taskId now) := by
  refine Maintains.andThen Maintains.look fun current => ?_
  cases current with
  | none => exact Maintains.done
  | some wrapper =>
      refine Maintains.andThen (Maintains.forEach fun projection _ => writeProjection_counted) ?_
      exact fun _ => retirePlanProjections_counted

theorem recover_counted {now : Timestamp} : Counts (recover taskId now) := by
  refine Maintains.bind recoverRecords_counted fun events positive => ?_
  refine Maintains.andThen (Maintains.forEach fun event _ => ?_) fun _ => ?_
  · cases event.info.result with
    | none => exact Maintains.done
    | some result => exact Maintains.andThen rememberDigest_counted fun _ => Maintains.done
  · exact Maintains.andThen (recoverObjects_counted positive) fun _ =>
      reconcilePlanProjections_counted

theorem lookupCommitted_counted {key command : String} {digest : Request} :
    Counts (lookupCommitted taskId key command digest) :=
  Maintains.andThen (recoverRecords_counted.mono fun _ _ => trivial) fun _ => Maintains.check

theorem persist_counted {state : TaskState} :
    Counts (persist taskId envelope ambient request state commit) := by
  cases commit with
  | task payload expected => exact Maintains.andThen put_counted fun _ => Maintains.done
  | aggregate plan skipUnchanged =>
      refine Maintains.andThen Maintains.check fun _ => Maintains.andThen Maintains.look fun _ => ?_
      refine Maintains.andThen put_counted fun _ => ?_
      refine Maintains.andThen retirePlanProjections_counted fun _ => ?_
      refine Maintains.andThen put_counted fun _ => ?_
      refine Maintains.andThen (Maintains.forEach fun _ _ => writeProjection_counted) fun _ => ?_
      exact Maintains.andThen Maintains.check fun _ => Maintains.done

theorem runCommand_counted {command : Command} :
    Counts (runCommand taskId envelope ambient command) := by
  refine Maintains.andThen Maintains.check fun request => ?_
  refine Maintains.andThen Maintains.look fun side => Maintains.andThen Maintains.check fun existing => ?_
  cases existing with
  | some result => exact Maintains.done
  | none =>
      refine Maintains.andThen lookupCommitted_counted fun committed => ?_
      cases committed with
      | some result => exact rememberDigest_counted
      | none =>
          refine Maintains.andThen ?_ fun result => ?_
          · exact Maintains.andThen Maintains.look fun _ =>
              Maintains.andThen Maintains.check fun _ => persist_counted
          · exact Maintains.andThen lookupCommitted_counted fun _ =>
              Maintains.andThen Maintains.check fun _ => rememberDigest_counted

/-- A startup stopped anywhere can be started again. -/
theorem recover_stopped (taskId : Identifier) (restartable : Restartable start) (now : Timestamp)
    (position : Nat) (torn : Bool) :
    Restartable ((recover taskId now).stopped start position torn) := by
  have recovering := (recover_meets taskId now restartable.readable restartable.behind
    restartable.accepted).stopped position torn
  exact recovering.restartable restartable
    (counted_stopped recover_counted restartable.counted position torn)

/-- A startup returns, and the process runs. -/
theorem recover_returns (taskId : Identifier) (restartable : Restartable start) (now : Timestamp) :
    (recover taskId now start).outcome = .ok () ∧
      Recovered start ((recover taskId now).after start) ∧
      Serving ((recover taskId now).after start) := by
  have meets := recover_meets taskId now restartable.readable restartable.behind
    restartable.accepted
  have agree := restartable.unique.agree
  cases ended : (recover taskId now start).outcome with
  | ok value =>
      have recovered := meets.of_ok ended
      exact ⟨rfl, recovered, recovered.serving restartable
        (recover_counted.after restartable.counted)⟩
  | error error =>
      exact absurd ⟨agree, restartable.copied.agrees agree⟩ (meets.of_error ended)

/-! ## Updates of instance facts -/

/-- The states in the course of an update. -/
def InUpdate (start store : TaskStore) : Prop :=
  Growth start store ∨ ∃ plan info now, info.result = none ∧ PlanInvariant plan ∧
    Committing start (start.commitEvent .plan plan info now) store

theorem InUpdate.restartable (serving : Serving start) (within : InUpdate start store)
    (counted : store.Counted) : Restartable store := by
  rcases within with growth | ⟨plan, info, now, silent, sound, committing⟩
  · obtain ⟨more, events, silent⟩ := growth.events
    refine ⟨growth.interrupted serving.toRunning, counted, ?_, fun wrapper found => ?_⟩
    · rw [events]
      exact serving.registered.unique.append_silent fun event member => (silent event member).1
    · rw [events, latest_append_of_silent fun event member => (silent event member).2] at found
      exact serving.restartable.planned wrapper found
  · refine committing.restartable serving counted (fun carried => ?_) fun wrapper found => ?_
    · exact absurd silent carried
    · rw [Store.latest_commitEvent_self serving.committed] at found
      obtain rfl := Option.some.inj found
      exact sound

/-- A registry that has every result still does after events without one. -/
theorem Registered.of_growth {more : List TaskEvent} (registered : Registered start)
    (events : store.events = start.events ++ more) (side : store.side = start.side)
    (silent : ∀ event ∈ more, event.info.result = none) : Registered store := by
  intro event member key record recorded
  obtain ⟨result, carries, -⟩ := recordOf_eq_some.mp recorded
  rw [events] at member
  rw [side]
  exact registered event (carries_of_mem_append silent member carries) key record recorded

/-- The plan was committed without a result, and its projections were reconciled. -/
theorem Reconciled.serving {plan : Plan} {info : EventInfo} {now : Timestamp}
    (serving : Serving start) (silent : info.result = none) (sound : PlanInvariant plan)
    (reconciled : Reconciled (start.commit .plan plan info now) plan store)
    (counted : store.Counted) : Serving store := by
  have accepted : validatePayload ObjectKey.plan plan = .ok () :=
    validateContract_eq_ok.mpr sound.valid.accepted
  have first := serving.toRunning.commit info now accepted
  have committed := reconciled.committed first.committed
  have agrees := reconciled.agrees sound.valid.distinct
  have planned : store.lookup .plan = some (start.nextSnapshot .plan plan now) := by
    rw [reconciled.sourced, Store.lookup_commit_self]
  have task : store.payload .task = some plan.task :=
    agrees.projected .task plan.task List.mem_cons_self
  obtain ⟨snapshot, found, -⟩ := Option.map_eq_some_iff.mp task
  have only : ∀ other, store.payload .plan = some other → other = plan := by
    intro other stored
    rw [Store.payload, planned] at stored
    exact (Option.some.inj stored).symm
  obtain ⟨more, events, quiet⟩ := reconciled.growth.events
  refine ⟨reconciled.growth.running first reconciled.clean committed, counted, ⟨?_, ?_⟩, ?_,
    ⟨fun other stored => ?_, fun other before known stored => ?_, fun other stored => ⟨?_, ?_⟩⟩,
    fun other stored => ?_⟩
  · rw [found, committed .task snapshot found]
  · rw [planned, committed .plan _ planned]
  · have all : store.events = start.events ++ start.commitEvent .plan plan info now :: more := by
      rw [events, Store.events_commit serving.clean, List.append_assoc]
      rfl
    refine serving.registered.of_growth all reconciled.growth.side ?_
    · intro event member
      rcases List.mem_cons.mp member with rfl | later
      · exact silent
      · exact (quiet event later).1
  · rw [only other stored]
    exact sound
  · rw [only before stored]
    exact congrArg MainTask.status (Option.some.inj (known.symm.trans task))
  · show 0 < store.revision .task
    rw [Store.revision, found]
    exact counted.snapshots .task snapshot found
  · exact Option.isSome_iff_exists.mpr ⟨plan.task, task⟩
  · rw [only other stored]
    exact agrees.isProjected

/-- An instance record that no plan holds was committed. -/
theorem Serving.commit_record {instanceId : Identifier}
    {payload : Payload (.agentInstance instanceId)} {info : EventInfo} {now : Timestamp}
    (serving : Serving start) (silent : info.result = none)
    (valid : validatePayload (.agentInstance instanceId) payload = .ok ())
    (planless : start.payload .plan = none)
    (counted : (start.commit (.agentInstance instanceId) payload info now).Counted) :
    Serving (start.commit (.agentInstance instanceId) payload info now) := by
  have kept : ∀ key, key ≠ .agentInstance instanceId →
      (start.commit (.agentInstance instanceId) payload info now).lookup key = start.lookup key :=
    fun key other => Store.lookup_commit_of_ne other
  have state : TaskStore.taskState (start.commit (.agentInstance instanceId) payload info now) =
      start.taskState := by
    simp only [TaskStore.taskState, Store.payload, Store.revision]
    rw [kept .task (by simp), kept .plan (by simp)]
  refine ⟨serving.toRunning.commit info now valid, counted, ⟨?_, ?_⟩, ?_, ?_, fun plan stored => ?_⟩
  · rw [kept .task (by simp), serving.current.task, Store.events_commit serving.clean,
      Store.latest_commitEvent_of_ne (by simp)]
  · rw [kept .plan (by simp), serving.current.plan, Store.events_commit serving.clean,
      Store.latest_commitEvent_of_ne (by simp)]
  · exact serving.registered.of_growth (Store.events_commit serving.clean) rfl fun event member => by
      obtain rfl := List.mem_singleton.mp member
      exact silent
  · rw [state]
    exact serving.sound
  · have same : start.payload .plan = some plan := (congrArg TaskState.plan state).symm.trans stored
    rw [planless] at same
    cases same

/-- One projection is written at most. -/
theorem writeProjection_lookup {skipUnchanged : Bool} {info : EventInfo} {now : Timestamp}
    {projection : Projection} (clean : start.Clean) :
    Meets (writeProjection taskId skipUnchanged info now projection) start (fun _ => True)
      (fun _ store => store.Clean ∧
        (∀ key, key ≠ projection.1 → store.lookup key = start.lookup key) ∧
        store.lookup projection.1 =
          if skipUnchanged = true ∧ start.payload projection.1 = some projection.2 then
            start.lookup projection.1
          else some (start.nextSnapshot projection.1 projection.2 now)) fun _ _ => True := by
  refine Meets.bind (Meets.read trivial ?_)
  by_cases same : skipUnchanged = true ∧ start.payload projection.1 = some projection.2
  · rw [if_pos (by exact same)]
    exact Meets.pure trivial ⟨clean, fun _ _ => rfl, by rw [if_pos same]⟩
  · rw [if_neg (by exact same)]
    refine Meets.bind (put_meets clean trivial (fun _ _ => trivial) (fun _ => trivial)
      fun _ _ => ⟨trivial, trivial, trivial, Meets.pure trivial ⟨clean.commit, ?_, ?_⟩⟩)
    · exact fun key other => Store.lookup_commit_of_ne other
    · rw [if_neg same, Store.lookup_commit_self]

/-- Reconciling commits the task only where it is not the plan's. -/
theorem reconcilePlanProjections_task {wrapper : Wrapper Plan} {now : Timestamp}
    (clean : start.Clean) (stored : start.lookup .plan = some wrapper) :
    Meets (reconcilePlanProjections taskId now) start (fun _ => True)
      (fun _ store => store.lookup .task =
        if start.payload .task = some wrapper.payload.task then start.lookup .task
        else some (start.nextSnapshot .task wrapper.payload.task now)) fun _ _ => True := by
  refine Meets.bind (Meets.read trivial ?_)
  rw [stored]
  have loop : Meets (Script.forEach (reconcileProjection taskId wrapper.revision now)
      (Plan.projections wrapper.payload)) start (fun _ => True) (fun _ store => store.lookup .task =
        if start.payload .task = some wrapper.payload.task then start.lookup .task
        else some (start.nextSnapshot .task wrapper.payload.task now)) fun _ _ => True := by
    -- The task is the first projection, and none of the others is the task.
    rw [Plan.projections_eq]
    refine Meets.bind ((writeProjection_lookup clean).mono (fun _ => id) ?_ fun _ _ => id)
    rintro _ first ⟨clean, -, task⟩
    simp only [true_and] at task
    refine Meets.forEach (motive := fun _ store => store.Clean ∧
      store.lookup .task = first.lookup .task) ?_ (fun _ _ _ => trivial) ⟨clean, rfl⟩ ?_
    · rintro done projection rest store split ⟨clean, same⟩
      have member : projection ∈ wrapper.payload.stages.map Stage.projection ++
          wrapper.payload.instances.map AgentInstance.projection := by simp [split]
      refine (writeProjection_lookup clean).mono (fun _ => id) ?_ fun _ _ => id
      rintro _ next ⟨clean, others, -⟩
      exact ⟨clean, (others .task (Plan.members_ne_task member).symm).trans same⟩
    · rintro store ⟨-, same⟩
      rw [same]
      exact task
  refine Meets.bind (loop.mono (fun _ => id) (fun _ middle task => ?_) fun _ _ => id)
  refine retirePlanProjections_meets.mono (fun _ _ => trivial) ?_ fun _ _ => id
  rintro _ store ⟨-, lookup⟩
  rw [lookup, if_pos (show Plan.holds wrapper.payload .task from trivial)]
  exact task

section

variable {instanceId : Identifier} {changes : InstanceChanges} {plan : Plan} {item : AgentInstance}

/-- What `update_instance_fields` makes of a planned instance. -/
theorem TaskState.updateInstanceFields_planned {state : TaskState} (some_ : changes ≠ {})
    (planned : state.plan = some plan)
    (found : plan.instances.find? (·.instanceId = instanceId) = some item)
    (changed : changes.apply item ≠ item)
    (accepted : (plan.modifyInstance instanceId changes.apply).accepted = true) :
    state.updateInstanceFields instanceId changes = .ok (if state.task = some plan.task then
        { state with
          plan := some (plan.modifyInstance instanceId changes.apply)
          planRevision := state.planRevision + 1 }
      else
        { task := some plan.task
          taskRevision := state.taskRevision + 1
          plan := some (plan.modifyInstance instanceId changes.apply)
          planRevision := state.planRevision + 1 }) := by
  have requires : plan.requireInstance instanceId = .ok item := Plan.requireInstance_eq_ok.mpr found
  have contract : validateContract "task-plan"
      (plan.modifyInstance instanceId changes.apply).accepted = .ok () :=
    validateContract_eq_ok.mpr accepted
  unfold TaskState.updateInstanceFields
  rw [ensure_of some_, ok_bind, planned]
  simp only [requires, ok_bind, if_neg changed, contract]
  have same : (plan.modifyInstance instanceId changes.apply).task = plan.task := rfl
  rw [same]
  split <;> rfl

/-- A commit of the changed plan and the reconciliation after it. -/
theorem commitUpdate_meets {wrapper : Wrapper Plan} {info : EventInfo} {now : Timestamp}
    (serving : Serving start) (silent : info.result = none)
    (stored : start.lookup .plan = some wrapper) (sound : PlanInvariant plan)
    (value : AgentInstance) :
    Meets (do
        let _ ← putObject taskId .plan plan wrapper.revision info now
        reconcilePlanProjections taskId now
        return value) start (InUpdate start)
      (fun _ store => (store.Counted → Serving store) ∧ store.side = start.side ∧
        store.taskState = if start.payload .task = some plan.task then
            { start.taskState with
              plan := some plan, planRevision := start.revision .plan + 1 }
          else
            { task := some plan.task, taskRevision := start.revision .task + 1, plan := some plan,
              planRevision := start.revision .plan + 1 }) fun _ _ => False := by
  have accepted : validatePayload ObjectKey.plan plan = .ok () :=
    validateContract_eq_ok.mpr sound.valid.accepted
  have revision : wrapper.revision = start.revision .plan := by
    rw [Store.revision, stored]
    rfl
  refine Meets.bind (put_meets serving.clean (.inl (.refl serving.clean)) (fun error rejected => ?_)
    (fun stale => absurd revision stale) fun _ _ => ?_)
  · rw [accepted] at rejected
    cases rejected
  have within : ∀ {store : TaskStore}, Growth (start.commit .plan plan info now) store →
      InUpdate start store := fun growth =>
    .inr ⟨plan, info, now, silent, sound, growth.committing serving.toRunning accepted⟩
  have first := serving.toRunning.commit info now accepted
  refine ⟨.inl ((Growth.refl serving.clean).torn serving.clean), .inr ⟨plan, info, now, silent, sound,
    serving.toRunning.committing_append accepted⟩, within (.refl first.clean), ?_⟩
  have written : (start.commit .plan plan info now).lookup .plan =
      some (start.nextSnapshot .plan plan now) := Store.lookup_commit_self
  refine Meets.bind (((reconcilePlanProjections_meets first.clean written sound.valid.accepted).and
    (reconcilePlanProjections_task first.clean written)).mono (fun _ h => within h.1) ?_
    fun _ _ h => h.1)
  rintro _ store ⟨reconciled, task⟩
  refine Meets.pure (within reconciled.growth) ⟨fun counted => reconciled.serving serving silent sound counted, reconciled.growth.side, ?_⟩
  have planned : store.lookup .plan = some (start.nextSnapshot .plan plan now) := by
    rw [reconciled.sourced, written]
  have nextPlan : (start.nextSnapshot .plan plan now).revision = start.revision .plan + 1 :=
    nextRevision_of_current serving.committed serving.current.plan
  have kept : (start.commit .plan plan info now).lookup .task = start.lookup .task :=
    Store.lookup_commit_of_ne (by simp)
  have keptPayload : (start.commit .plan plan info now).payload .task = start.payload .task := by
    rw [Store.payload, kept, Store.payload]
  have nextTask : (start.commit .plan plan info now).nextRevision .task =
      start.revision .task + 1 := by
    have current : (start.commit .plan plan info now).lookup .task =
        latest .task (start.commit .plan plan info now).events := by
      rw [kept, serving.current.task, Store.events_commit serving.clean,
        Store.latest_commitEvent_of_ne (by simp)]
    rw [nextRevision_of_current first.committed current, Store.revision, kept, Store.revision]
  rw [keptPayload, kept] at task
  by_cases agree : start.payload .task = some plan.task
  · rw [if_pos (by exact agree)] at task
    rw [if_pos agree]
    simp only [TaskStore.taskState, Store.payload, Store.revision, task, planned, Option.map_some,
      Option.elim_some] at nextPlan ⊢
    rw [nextPlan]
    rfl
  · rw [if_neg (by exact agree)] at task
    rw [if_neg agree]
    simp only [TaskStore.taskState, Store.payload, Store.revision, task, planned, Option.map_some,
      Option.elim_some] at nextPlan ⊢
    rw [nextPlan]
    refine congrArg₂ (fun revision plan => TaskState.mk _ revision plan _) nextTask rfl

/-- An update changes the plan and what is copied from it, or nothing. -/
theorem updateInstanceFields_meets {info : EventInfo} {now : Timestamp} (serving : Serving start)
    (silent : info.result = none) :
    Meets (updateInstanceFields taskId instanceId changes info now) start (InUpdate start)
      (fun _ store => (store.Counted → Serving store) ∧ store.side = start.side ∧
        (start.payload .plan = none ∧ (start.lookup (.agentInstance instanceId)).isSome ∨
          start.taskState.updateInstanceFields instanceId changes = .ok store.taskState))
      fun _ store => store = start ∧ ∀ next,
        start.taskState.updateInstanceFields instanceId changes ≠ .ok next := by
  have here : InUpdate start start := .inl (.refl serving.clean)
  have refused : ∀ {error}, start.taskState.updateInstanceFields instanceId changes =
      .error error → ∀ next, start.taskState.updateInstanceFields instanceId changes ≠ .ok next := by
    intro error raised next returned
    rw [raised] at returned
    cases returned
  refine Meets.guarded here (fun _ given => ?_) fun error failed => ⟨rfl, ?_⟩
  swap
  · have raised : start.taskState.updateInstanceFields instanceId changes = .error error := by
      unfold TaskState.updateInstanceFields
      rw [failed]
      rfl
    exact refused raised
  have given := ensure_eq_ok.mp given
  cases stored : start.lookup .plan with
  | none =>
      have planless : start.payload .plan = none := by
        rw [Store.payload, stored]
        rfl
      have raised : start.taskState.updateInstanceFields instanceId changes =
          .error instanceNotFound := by
        unfold TaskState.updateInstanceFields
        rw [ensure_of given, ok_bind]
        simp only [TaskStore.taskState, planless]
      refine Meets.looked stored ?_
      refine Meets.bind (Meets.read here ?_)
      cases recorded : start.lookup (.agentInstance instanceId) with
      | none => exact Meets.raise here ⟨rfl, refused raised⟩
      | some current =>
          dsimp only
          split
          · exact Meets.pure here ⟨fun _ => serving, rfl, .inl ⟨planless, rfl⟩⟩
          · refine Meets.bind (put_meets serving.clean here (fun _ _ => ⟨rfl, refused raised⟩)
              (fun _ => ⟨rfl, refused raised⟩) fun valid _ => ?_)
            have first : Growth start start := .refl serving.clean
            have written : Growth start (start.commit (.agentInstance instanceId)
                ⟨changes.apply current.payload.val, current.payload.property⟩ info now) :=
              first.commit _ now serving.clean id silent (by simp)
            have appended : Growth start (start.append (start.commitEvent
                (.agentInstance instanceId)
                ⟨changes.apply current.payload.val, current.payload.property⟩ info now)) :=
              first.append _ now serving.clean id silent (by simp)
            refine ⟨.inl (first.torn serving.clean), .inl appended, .inl written,
              Meets.pure (.inl written) ⟨fun counted => ?_, rfl, .inl ⟨planless, rfl⟩⟩⟩
            exact serving.commit_record silent valid planless counted
  | some wrapper =>
      have planned : start.taskState.plan = some wrapper.payload := by
        simp only [TaskStore.taskState, Store.payload, stored, Option.map_some]
      refine Meets.looked stored ?_
      dsimp only
      cases found : (wrapper.payload : Plan).instances.find? (·.instanceId = instanceId) with
      | none =>
          -- What the plan does not hold has no record.
          have absent : start.lookup (.agentInstance instanceId) = none := by
            refine (serving.projected wrapper.payload planned).retired _ fun listed => ?_
            obtain ⟨item, member, same⟩ := List.mem_map.mp listed
            have missing := List.find?_eq_none.mp found item member
            simp [same] at missing
          have raised : start.taskState.updateInstanceFields instanceId changes =
              .error instanceNotFound := by
            unfold TaskState.updateInstanceFields Plan.requireInstance
            rw [ensure_of given, ok_bind, planned]
            simp only [found]
            rfl
          refine Meets.looked absent ?_
          exact Meets.raise here ⟨rfl, refused raised⟩
      | some item =>
          have requires : Plan.requireInstance wrapper.payload instanceId = .ok item :=
            Plan.requireInstance_eq_ok.mpr found
          dsimp only
          split
          · rename_i unchanged
            refine Meets.pure here ⟨fun _ => serving, rfl, .inr ?_⟩
            unfold TaskState.updateInstanceFields
            rw [ensure_of given, ok_bind, planned]
            simp only [requires, ok_bind, if_pos unchanged]
            rfl
          · rename_i changed
            refine Meets.guarded here (fun _ contract => ?_) fun error contract => ⟨rfl, ?_⟩
            · have accepted := validateContract_eq_ok.mp contract
              have returned := TaskState.updateInstanceFields_planned given planned found changed
                accepted
              have sound : PlanInvariant
                  (Plan.modifyInstance wrapper.payload instanceId changes.apply) := by
                have inv := serving.sound.updateInstanceFields returned
                refine inv.plan _ ?_
                split <;> rfl
              refine (commitUpdate_meets serving silent stored sound (changes.apply item)).mono
                (fun _ => id) ?_ fun _ _ => False.elim
              rintro _ store ⟨serves, side, state⟩
              refine ⟨serves, side, .inr ?_⟩
              rw [returned, state]
              rfl
            · have raised : start.taskState.updateInstanceFields instanceId changes =
                  .error error := by
                unfold TaskState.updateInstanceFields
                rw [ensure_of given, ok_bind, planned]
                simp only [requires, ok_bind, if_neg changed, contract]
                rfl
              exact refused raised

end

/-! ## Commits of other services -/

/-- A store in which another service has written an object that no plan has. -/
structure Beside (start store : TaskStore) : Prop where
  events : store.events = start.events ∨ ∃ event, store.events = start.events ++ [event] ∧
    event.info.result = none ∧ event.key.isPlanned = false
  side : store.side = start.side
  lookup : ∀ key, key.isPlanned = true → store.lookup key = start.lookup key

theorem Beside.refl : Beside start start := ⟨.inl rfl, rfl, fun _ _ => rfl⟩

theorem Beside.latest (beside : Beside start store) {key : ObjectKey} (planned : key.isPlanned = true) :
    latest key store.events = latest key start.events := by
  rcases beside.events with same | ⟨event, same, -, other⟩
  · rw [same]
  · rw [same, latest_append_of_none (Event.snapshot_of_ne fun equal => ?_)]
    rw [equal, planned] at other
    cases other

theorem Beside.restartable (serving : Serving start) (beside : Beside start store)
    (interrupted : Interrupted store) (counted : store.Counted) : Restartable store where
  toInterrupted := interrupted
  counted := counted
  unique := by
    rcases beside.events with same | ⟨event, same, silent, -⟩
    · rw [same]
      exact serving.registered.unique
    · rw [same]
      exact serving.registered.unique.append_silent fun other member => by
        obtain rfl := List.mem_singleton.mp member
        exact silent
  planned wrapper found := by
    rw [beside.latest rfl] at found
    exact serving.restartable.planned wrapper found

theorem Beside.serving (serving : Serving start) (beside : Beside start store)
    (running : Running store) (counted : store.Counted) : Serving store := by
  have state : store.taskState = start.taskState := by
    simp only [TaskStore.taskState, Store.payload, Store.revision]
    rw [beside.lookup .task rfl, beside.lookup .plan rfl]
  have registered : Registered store := by
    rcases beside.events with same | ⟨event, same, silent, -⟩
    · exact serving.registered.of_growth (same.trans (List.append_nil _).symm) beside.side (by simp)
    · exact serving.registered.of_growth same beside.side fun other member => by
        obtain rfl := List.mem_singleton.mp member
        exact silent
  refine ⟨running, counted, ⟨?_, ?_⟩, registered, ?_, fun plan stored => ?_⟩
  · rw [beside.lookup .task rfl, beside.latest rfl, serving.current.task]
  · rw [beside.lookup .plan rfl, beside.latest rfl, serving.current.plan]
  · rw [state]
    exact serving.sound
  · have before := serving.projected plan ((congrArg TaskState.plan state).symm.trans stored)
    refine ⟨?_, fun key payload other member => ?_, fun key absent => ?_⟩
    · rw [Store.payload, beside.lookup .task rfl]
      exact before.task
    · have planned : key.isPlanned = true := by
        rcases Plan.mem_projections.mp member with h | ⟨stage, -, h⟩ | ⟨item, -, h⟩ <;> cases h <;> rfl
      rw [Store.payload, beside.lookup key planned]
      exact before.members key payload other member
    · have planned : key.isPlanned = true := by
        cases key <;> first | rfl | exact absurd trivial absent
      rw [beside.lookup key planned]
      exact before.retired key absent

/-- A commit or a removal of an object that no plan has. -/
theorem RepositoryCall.beside_meets {call : RepositoryCall} (serving : Serving start)
    (allowed : call.IsBeside) :
    Meets (call.script taskId) start (fun store => Interrupted store ∧ Beside start store)
      (fun _ store => Running store ∧ Beside start store)
      fun _ store => Running store ∧ Beside start store := by
  have running := serving.toRunning
  have here : Interrupted start ∧ Beside start start := ⟨running.toInterrupted, .refl⟩
  have torn : Interrupted start.torn ∧ Beside start start.torn :=
    ⟨running.toInterrupted.torn running.clean, .inl Store.events_torn, rfl, fun _ _ => rfl⟩
  have others : ∀ {key : ObjectKey}, key.isPlanned = false → ∀ other, other.isPlanned = true →
      other ≠ key := by
    rintro key beside other planned rfl
    rw [planned] at beside
    cases beside
  cases call with
  | put key payload expected info now =>
      obtain ⟨silent, beside⟩ := allowed
      refine Meets.bind (put_meets running.clean here (fun _ _ => ⟨running, .refl⟩)
        (fun _ => ⟨running, .refl⟩) fun valid _ => ?_)
      have next := running.commit info now valid
      have written : Beside start (start.commit key payload info now) :=
        ⟨.inr ⟨_, Store.events_commit running.clean, silent, beside⟩, rfl,
          fun other planned => Store.lookup_commit_of_ne (others beside other planned)⟩
      exact ⟨torn, ⟨running.append info now valid,
        .inr ⟨_, Store.events_append running.clean, silent, beside⟩, rfl, fun _ _ => rfl⟩,
        ⟨next.toInterrupted, written⟩, Meets.pure ⟨next.toInterrupted, written⟩ ⟨next, written⟩⟩
  | delete key expected info =>
      obtain ⟨silent, beside⟩ := allowed
      refine Meets.bind (delete_meets here (fun _ => Meets.pure here ⟨running, .refl⟩)
        (fun _ => ⟨running, .refl⟩) fun current found _ => ?_)
      have next := running.remove info found
      have events : (start.append ⟨key, .removed current.revision, info⟩).events =
          start.events ++ [⟨key, .removed current.revision, info⟩] :=
        Store.events_append running.clean
      have written : Beside start
          ((start.append ⟨key, .removed current.revision, info⟩).unlink key) :=
        ⟨.inr ⟨_, events, silent, beside⟩, rfl,
          fun other planned => Store.lookup_unlink_of_ne (others beside other planned)⟩
      exact ⟨torn, ⟨running.append_removed info found, .inr ⟨_, events, silent, beside⟩, rfl,
        fun _ _ => rfl⟩, ⟨next.toInterrupted, written⟩,
        Meets.pure ⟨next.toInterrupted, written⟩ ⟨next, written⟩⟩

end

end DesignHarness
