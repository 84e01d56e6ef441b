import DesignHarness.Library.Simulation
import DesignHarness.Services.TaskCommands
import DesignHarness.Storage.CommandHistory

/-!
# The file store refines the command machine

`CommandStore` says what the commands of a task are for: a state, and for every key the command that
used it.  Without faults the store of files answers every run of calls as it does
(`store_refines_commands`), whatever the journal, the snapshots and the registry go through.
-/

namespace DesignHarness

open Library

/-- What a caller sees of a call. -/
inductive Reply where
  | returned (result : ServiceResult)
  | done
  | refused
  deriving DecidableEq, Repr

def Reply.ofResult : Outcome ServiceResult → Reply
  | .ok result => .returned result
  | .error _ => .refused

def Reply.ofUpdate : Outcome AgentInstance → Reply
  | .ok _ => .done
  | .error _ => .refused

/-- The answer of the store; what other services are told is not followed. -/
def StoreCall.reply (taskId : Identifier) (store : TaskStore) : StoreCall → Reply
  | .command request envelope ambient =>
      .ofResult (runCommand taskId envelope ambient request store).outcome
  | .updateInstanceFields instanceId changes actor name idempotencyKey now =>
      .ofUpdate (DesignHarness.updateInstanceFields taskId instanceId changes
        ⟨actor, name, idempotencyKey, none⟩ now store).outcome
  | .service _ => .done

/-- A call on the store of files. -/
def storeStep (taskId : Identifier) (store : TaskStore) (call : StoreCall) : TaskStore × Reply :=
  ((call.script taskId).after store, call.reply taskId store)

/-- The state and the answer after a command, which changes nothing when it raises. -/
def CommandStore.answer (store : CommandStore) :
    Outcome (CommandResult × CommandStore) → CommandStore × Reply
  | .ok (result, next) => (next, .returned (.command result))
  | .error _ => (store, .refused)

/-- The state and the answer after an update. -/
def CommandStore.answerUpdate (store : CommandStore) : Outcome CommandStore → CommandStore × Reply
  | .ok next => (next, .done)
  | .error _ => (store, .refused)

/-- A call on the command machine; objects of other services are none of its business. -/
def CommandStore.perform (taskId : Identifier) (store : CommandStore) :
    StoreCall → CommandStore × Reply
  | .command request envelope ambient =>
      store.answer (store.command taskId request envelope ambient)
  | .updateInstanceFields instanceId changes _ _ _ _ =>
      store.answerUpdate (store.updateInstanceFields instanceId changes)
  | .service _ => (store, .done)

/-- The store of files stands for a state of the command machine. -/
structure Refines (store : TaskStore) (commands : CommandStore) : Prop where
  serving : Serving store
  state : commands.state = store.taskState
  unplanned : commands.unplanned = []
  records : store.payload .plan = none → ∀ instanceId,
    store.lookup (.agentInstance instanceId) = none
  unused : ∀ key, store.side.registry.lookup key = none → commands.used key = none
  used : ∀ key record, store.side.registry.lookup key = some record → ∃ request result,
    record = ⟨request.name, .command request, .command result⟩ ∧
      commands.used key = some (.command request result)

section

variable {taskId : Identifier} {envelope : CommandEnvelope} {ambient : Ambient}
  {command request : Command} {commit : Commit} {start store : TaskStore} {commands : CommandStore}

/-! ## Commands -/

theorem CommandStore.used_use {key other : String} {use : KeyUse} :
    (commands.use key use).used other = if other = key then some use else commands.used other := rfl

/-- A key without an event is not in the registry either. -/
theorem Serving.lookup_unused {key : String} (serving : Serving start)
    (unused : Unused start.events key) : start.side.registry.lookup key = none := by
  cases known : start.side.registry.lookup key with
  | none => rfl
  | some record =>
      obtain ⟨event, member, result, carries, -⟩ := serving.copied key record known
      exact absurd carries (unused event member result)

/-- The registry after a command that was executed. -/
theorem Executed.lookup_registry (serving : Serving start)
    (executed : Executed envelope ambient request start commit store)
    (registered : Registered store) (key : String) :
    store.side.registry.lookup key = if key = envelope.idempotencyKey then
        some ⟨request.name, .command request, .command (commit.result start.taskState)⟩
      else start.side.registry.lookup key := by
  split
  · rename_i same
    subst same
    exact registered _ executed.committing.mem envelope.idempotencyKey _ recordOf_eventOf
  · rename_i different
    cases known : start.side.registry.lookup key with
    | some record =>
        obtain ⟨more, events, -⟩ := executed.committing.events
        obtain ⟨event, member, result, carries, rfl⟩ := serving.copied key record known
        refine registered event ?_ key _ (recordOf_eq_some.mpr ⟨result, carries, rfl⟩)
        rw [events]
        exact List.mem_append_left _ member
    | none =>
        cases later : store.side.registry.lookup key with
        | none => rfl
        | some record =>
            rcases executed.committing.registry key record later with before | added
            · rw [known] at before
              cases before
            · obtain ⟨result, carries, -⟩ := recordOf_eq_some.mp added
              have own : envelope.idempotencyKey = key := by
                rw [← carries.1, eventOf_info]
                rfl
              exact absurd own.symm different

/-- An executed command is one of the command machine. -/
theorem Refines.executed (refines : Refines start commands)
    (built : TaskCommandService.buildRequest envelope command = .ok request)
    (executed : Executed envelope ambient request start commit store)
    (registered : Registered store) (counted : store.Counted) :
    ∃ next, commands.command taskId command envelope ambient =
        .ok (commit.result start.taskState, next) ∧ Refines store next := by
  have serving := refines.serving
  have unused := refines.unused _ (serving.lookup_unused executed.unused)
  have registry := executed.lookup_registry serving registered
  refine ⟨{ commands with state := store.taskState }.use envelope.idempotencyKey
    (.command request (commit.result start.taskState)), ?_, ?_⟩
  · unfold CommandStore.command
    rw [built, ok_bind, unused]
    simp only [refines.state, executed.handled, ok_bind, executed.applied]
    rfl
  refine ⟨executed.serving serving built registered counted, rfl, refines.unplanned,
    fun planless instanceId => ?_, fun key known => ?_, fun key record known => ?_⟩
  · have effect := executed.effect
    have applied := executed.applied
    cases commit with
    | task payload expected =>
        obtain ⟨-, -, state⟩ := TaskState.apply_task_eq_ok.mp applied
        have before : start.payload .plan = none := (congrArg TaskState.plan state).symm.trans planless
        rw [effect _ (by simp)]
        exact refines.records before instanceId
    | aggregate plan skipUnchanged =>
        obtain ⟨-, state⟩ := TaskState.apply_aggregate_eq_ok.mp applied
        have stored : store.payload .plan = some plan := congrArg TaskState.plan state
        rw [planless] at stored
        cases stored
  · rw [registry] at known
    split at known
    · cases known
    · rename_i different
      rw [CommandStore.used_use, if_neg different]
      exact refines.unused key known
  · rw [registry] at known
    split at known
    · rename_i same
      obtain rfl := Option.some.inj known
      exact ⟨request, commit.result start.taskState, rfl, by
        rw [CommandStore.used_use, if_pos same]⟩
    · rename_i different
      rw [CommandStore.used_use, if_neg different]
      exact refines.used key record known

/-- A result that is returned again is the one that the command machine kept. -/
theorem Refines.replayed {result : ServiceResult} (refines : Refines start commands)
    (built : TaskCommandService.buildRequest envelope command = .ok request)
    (replayed : Replayed envelope request start result store) :
    ∃ value, result = .command value ∧
      commands.command taskId command envelope ambient = .ok (value, commands) := by
  obtain ⟨event, member, carries⟩ := replayed.carried
  have known := refines.serving.registered event member _ _
    (recordOf_eq_some.mpr ⟨_, carries, rfl⟩)
  obtain ⟨earlier, value, same, used⟩ := refines.used _ _ known
  simp only [IdempotencyRecord.mk.injEq, Request.command.injEq] at same
  obtain ⟨-, rfl, rfl⟩ := same
  refine ⟨value, rfl, ?_⟩
  unfold CommandStore.command
  rw [built, ok_bind, used]
  simp only [ensure_of]
  rfl

/-- What the store refuses, the command machine refuses. -/
theorem Refines.refused (refines : Refines start commands)
    (refused : ∀ request, TaskCommandService.buildRequest envelope command = .ok request →
      CommandRefused envelope ambient request start) :
    ∃ error, commands.command taskId command envelope ambient = .error error := by
  unfold CommandStore.command
  cases built : TaskCommandService.buildRequest envelope command with
  | error error => exact ⟨error, rfl⟩
  | ok request =>
      rw [ok_bind]
      rcases refused request built with ⟨event, member, result, carries, different⟩ | ⟨unused, fails⟩
      · have known := refines.serving.registered event member _ _
          (recordOf_eq_some.mpr ⟨_, carries, rfl⟩)
        obtain ⟨earlier, value, same, used⟩ := refines.used _ _ known
        simp only [IdempotencyRecord.mk.injEq] at same
        rw [used]
        have other : earlier ≠ request := by
          rintro rfl
          exact different same.2.1
        simp only [ensure_of_not other, error_bind]
        exact ⟨_, rfl⟩
      · rw [refines.unused _ (refines.serving.lookup_unused unused)]
        dsimp only
        rw [refines.state]
        cases handled : TaskCommandService.handle start.taskState envelope ambient request with
        | error error => exact ⟨error, rfl⟩
        | ok commit =>
            rw [ok_bind]
            cases applied : start.taskState.apply commit with
            | error error => exact ⟨error, rfl⟩
            | ok next => exact absurd applied (fails commit next handled)

/-! ## Updates and other services -/

/-- Without records beside the plan an update is that of the plan. -/
theorem CommandStore.updateInstanceFields_eq (unplanned : commands.unplanned = [])
    (instanceId : Identifier) (changes : InstanceChanges) :
    match commands.state.updateInstanceFields instanceId changes with
    | .ok next => commands.updateInstanceFields instanceId changes = .ok { commands with state := next }
    | .error _ => ∃ error, commands.updateInstanceFields instanceId changes = .error error := by
  unfold CommandStore.updateInstanceFields
  cases found : commands.planned instanceId with
  | some item =>
      cases commands.state.updateInstanceFields instanceId changes with
      | ok next => rfl
      | error error => exact ⟨error, rfl⟩
  | none =>
      have missing : commands.requireRecord instanceId = .error instanceNotFound := by
        simp [CommandStore.requireRecord, CommandStore.record, found, unplanned]
      have raises : ∃ error, commands.state.updateInstanceFields instanceId changes =
          .error error := by
        unfold TaskState.updateInstanceFields
        by_cases given : changes ≠ {}
        · rw [ensure_of given, ok_bind]
          cases planned : commands.state.plan with
          | none => exact ⟨_, rfl⟩
          | some plan =>
              have absent : plan.instances.find? (·.instanceId = instanceId) = none := by
                simpa [CommandStore.planned, planned] using found
              simp only [Plan.requireInstance, absent]
              exact ⟨_, rfl⟩
        · rw [ensure_of_not given, error_bind]
          exact ⟨_, rfl⟩
      obtain ⟨error, raised⟩ := raises
      rw [raised]
      dsimp only
      by_cases given : changes ≠ {}
      · rw [ensure_of given, ok_bind, missing, error_bind]
        exact ⟨_, rfl⟩
      · rw [ensure_of_not given, error_bind]
        exact ⟨_, rfl⟩

/-- A store whose plan or its copies have changed, with what the command machine holds. -/
theorem Refines.updated {state : TaskState} (refines : Refines start commands)
    (serving : Serving store) (side : store.side = start.side) (same : state = store.taskState)
    (records : store.payload .plan = none → ∀ instanceId,
      store.lookup (.agentInstance instanceId) = none) :
    Refines store { commands with state := state } where
  serving := serving
  state := same
  unplanned := refines.unplanned
  records := records
  unused key known := refines.unused key (side ▸ known)
  used key record known := refines.used key record (side ▸ known)

/-- A command is answered by both machines alike. -/
theorem Refines.command_step (refines : Refines start commands) :
    Reply.ofResult (runCommand taskId envelope ambient command start).outcome =
        (commands.answer (commands.command taskId command envelope ambient)).2 ∧
      Refines ((runCommand taskId envelope ambient command).after start)
        (commands.answer (commands.command taskId command envelope ambient)).1 := by
  have serving := refines.serving
  have counted : ((runCommand taskId envelope ambient command).after start).Counted :=
    runCommand_counted.after serving.counted
  have meets := @runCommand_meets taskId envelope ambient start command serving.toRunning
    serving.current serving.registered
  cases ended : (runCommand taskId envelope ambient command start).outcome with
  | ok result =>
      obtain ⟨request, built, replayed | ⟨commit, rfl, registered, executed⟩⟩ := meets.of_ok ended
      · obtain ⟨value, rfl, returned⟩ := @Refines.replayed taskId _ ambient _ _ _ _ _ _ refines
          built replayed
        rw [returned, replayed.same]
        exact ⟨rfl, refines⟩
      · obtain ⟨next, returned, related⟩ := @Refines.executed taskId _ _ _ _ _ _ _ _ refines
          built executed registered counted
        rw [returned]
        exact ⟨rfl, related⟩
  | error error =>
      obtain ⟨unchanged, refused⟩ := meets.of_error ended
      obtain ⟨raised, returned⟩ := @Refines.refused taskId _ _ _ _ _ refines refused
      rw [returned, unchanged]
      exact ⟨rfl, refines⟩

/-- An update is answered by both machines alike. -/
theorem Refines.update_step {instanceId : Identifier} {changes : InstanceChanges} {info : EventInfo}
    {now : Timestamp} (refines : Refines start commands) (silent : info.result = none)
    (counted : ((updateInstanceFields taskId instanceId changes info now).after start).Counted) :
    Reply.ofUpdate (updateInstanceFields taskId instanceId changes info now start).outcome =
        (commands.answerUpdate (commands.updateInstanceFields instanceId changes)).2 ∧
      Refines ((updateInstanceFields taskId instanceId changes info now).after start)
        (commands.answerUpdate (commands.updateInstanceFields instanceId changes)).1 := by
  have serving := refines.serving
  have meets := @updateInstanceFields_meets taskId start instanceId changes info now serving silent
  have abstract := CommandStore.updateInstanceFields_eq refines.unplanned instanceId changes
  rw [refines.state] at abstract
  cases ended : (updateInstanceFields taskId instanceId changes info now start).outcome with
  | ok item =>
      obtain ⟨serves, side, ⟨planless, recorded⟩ | returned⟩ := meets.of_ok ended
      · rw [refines.records planless instanceId] at recorded
        cases recorded
      · rw [returned] at abstract
        dsimp only at abstract
        rw [abstract]
        refine ⟨rfl, refines.updated (serves counted) side rfl fun planless other => ?_⟩
        -- Only a planned instance was updated, so the plan is still there.
        obtain ⟨plan, planned, unchanged | ⟨-, written, -⟩⟩ := updateInstanceFields_eq_ok returned
        · rw [← unchanged] at planned
          cases planless.symm.trans planned
        · cases planless.symm.trans written
  | error error =>
      obtain ⟨unchanged, raises⟩ := meets.of_error ended
      cases returned : start.taskState.updateInstanceFields instanceId changes with
      | ok next => exact absurd returned (raises next)
      | error raised =>
          rw [returned] at abstract
          obtain ⟨raised, abstract⟩ := abstract
          rw [abstract, unchanged]
          exact ⟨rfl, refines⟩

/-- The command machine does not see what other services write. -/
theorem Refines.service_step {call : RepositoryCall} (refines : Refines start commands)
    (allowed : call.IsBeside) (counted : ((call.script taskId).after start).Counted) :
    Refines ((call.script taskId).after start) commands := by
  have meets := @RepositoryCall.beside_meets taskId start call refines.serving allowed
  obtain ⟨running, beside⟩ := meets.after
  have same : TaskStore.taskState ((call.script taskId).after start) = start.taskState := by
    simp only [TaskStore.taskState, Store.payload, Store.revision]
    rw [beside.lookup .task rfl, beside.lookup .plan rfl]
  refine refines.updated (beside.serving refines.serving running counted)
    beside.side (refines.state.trans same.symm) fun planless instanceId => ?_
  rw [beside.lookup _ rfl]
  exact refines.records ((congrArg TaskState.plan same).symm.trans planless) instanceId

/-- Every call is answered by both machines alike. -/
theorem Refines.step (taskId : Identifier) (refines : Refines start commands) (call : StoreCall)
    (allowed : call.Allowed) :
    (storeStep taskId start call).2 = (commands.perform taskId call).2 ∧
      Refines (storeStep taskId start call).1 (commands.perform taskId call).1 := by
  have counted : ((call.script taskId).after start).Counted :=
    (StoreCall.script_counted taskId).after refines.serving.counted
  cases call with
  | command request envelope ambient =>
      have same : (StoreCall.script taskId (.command request envelope ambient)).after start =
          (runCommand taskId envelope ambient request).after start := Script.after_bind_pure
      obtain ⟨replied, next⟩ := @Refines.command_step taskId envelope ambient request _ _ refines
      refine ⟨replied, ?_⟩
      rw [storeStep, same]
      exact next
  | updateInstanceFields instanceId changes actor name idempotencyKey now =>
      have same : (StoreCall.script taskId
          (.updateInstanceFields instanceId changes actor name idempotencyKey now)).after start =
          (updateInstanceFields taskId instanceId changes ⟨actor, name, idempotencyKey, none⟩
            now).after start := Script.after_bind_pure
      rw [same] at counted
      obtain ⟨replied, next⟩ := refines.update_step rfl counted
      refine ⟨replied, ?_⟩
      rw [storeStep, same]
      exact next
  | service call => exact ⟨rfl, refines.service_step allowed counted⟩

theorem Refines.empty : Refines .empty .empty where
  serving := .empty
  state := rfl
  unplanned := rfl
  records _ _ := rfl
  unused _ _ := rfl
  used _ _ known := by cases known

end

end DesignHarness
