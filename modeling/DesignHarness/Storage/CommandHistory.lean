import DesignHarness.Storage.CommandRules

/-!
# Histories of commands

A history of a task is any sequence of commands, of updates of instance facts and of commits by
other services, in which the process may be stopped in the middle of any write and started again
(`CommandHistory`).  `startup_sound` says what every startup leaves, and
`interrupted_command_once` what it makes of a command that was interrupted.
-/

namespace DesignHarness

open Library

/-! ## Histories -/

/-- A call on the store of a task. -/
inductive StoreCall where
  | command (command : Command) (envelope : CommandEnvelope) (ambient : Ambient)
  | updateInstanceFields (instanceId : Identifier) (changes : InstanceChanges) (actor : Actor)
      (name idempotencyKey : String) (now : Timestamp)
  | service (call : RepositoryCall)

def StoreCall.script (taskId : Identifier) : StoreCall → TaskScript Unit
  | .command request envelope ambient => do
      let _ ← runCommand taskId envelope ambient request
  | .updateInstanceFields instanceId changes actor name idempotencyKey now => do
      let _ ← DesignHarness.updateInstanceFields taskId instanceId changes
        ⟨actor, name, idempotencyKey, none⟩ now
  | .service call => call.script taskId

/-- Another service writes objects of its own, in commits that carry no result. -/
def StoreCall.Allowed : StoreCall → Prop
  | .service call => call.IsBeside
  | _ => True

/-- The stores that calls, interruptions and startups lead to from the store of a running
    process. -/
inductive Continues (taskId : Identifier) (start : TaskStore) : Phase → TaskStore → Prop where
  | refl : Continues taskId start .running start
  | call {store : TaskStore} (before : Continues taskId start .running store) (call : StoreCall)
      (allowed : call.Allowed) :
      Continues taskId start .running ((call.script taskId).after store)
  | interrupted {store : TaskStore} (before : Continues taskId start .running store)
      (call : StoreCall) (allowed : call.Allowed) (position : Nat) (torn : Bool) :
      Continues taskId start .stopped ((call.script taskId).stopped store position torn)
  | restarted {phase : Phase} {store : TaskStore} (before : Continues taskId start phase store)
      (now : Timestamp) (returned : (recover taskId now store).outcome = .ok ()) :
      Continues taskId start .running ((recover taskId now).after store)
  | restartInterrupted {phase : Phase} {store : TaskStore}
      (before : Continues taskId start phase store) (now : Timestamp) (position : Nat)
      (torn : Bool) :
      Continues taskId start .stopped ((recover taskId now).stopped store position torn)

/-- The stores of a task, from the empty directory on. -/
abbrev CommandHistory (taskId : Identifier) : Phase → TaskStore → Prop := Continues taskId .empty

section

variable {taskId : Identifier} {start store : TaskStore} {call : StoreCall}

theorem Serving.empty : Serving .empty where
  toRunning := .empty
  counted := by
    refine ⟨fun event member => ?_, fun key snapshot found => ?_⟩
    · cases member
    · cases found
  current := ⟨rfl, rfl⟩
  registered _ member := by cases member
  sound := .empty
  projected _ stored := by cases stored

theorem StoreCall.script_counted (taskId : Identifier) : Counts (call.script taskId) := by
  cases call with
  | command request envelope ambient =>
      exact Maintains.andThen runCommand_counted fun _ => Maintains.done
  | updateInstanceFields instanceId changes actor name idempotencyKey now =>
      refine Maintains.andThen ?_ fun _ => Maintains.done
      have record : ∀ (info : EventInfo),
          Counts (updateInstanceRecord taskId instanceId changes info now) := by
        intro info
        refine Maintains.andThen Maintains.look fun current => ?_
        cases current with
        | none => exact Maintains.raise
        | some current =>
            dsimp only
            split
            · exact Maintains.done
            · exact Maintains.andThen put_counted fun _ => Maintains.done
      refine Maintains.andThen Maintains.check fun _ => Maintains.andThen Maintains.look fun stored => ?_
      cases stored with
      | none => exact record _
      | some wrapper =>
          dsimp only
          split
          · exact record _
          · split
            · exact Maintains.done
            · refine Maintains.andThen Maintains.check fun _ => ?_
              refine Maintains.andThen put_counted fun _ => ?_
              exact Maintains.andThen reconcilePlanProjections_counted fun _ => Maintains.done
  | service call =>
      cases call with
      | put key payload expected info now =>
          exact Maintains.andThen put_counted fun _ => Maintains.done
      | delete key expected info => exact Maintains.andThen delete_counted fun _ => Maintains.done

/-- A call leaves a store that serves, wherever it is stopped one that can be started again. -/
theorem StoreCall.script_meets (taskId : Identifier) (serving : Serving start)
    (allowed : call.Allowed) :
    Meets (call.script taskId) start (fun store => store.Counted → Restartable store)
      (fun _ store => store.Counted → Serving store)
      fun _ store => store.Counted → Serving store := by
  cases call with
  | command request envelope ambient =>
      refine Meets.bind ((runCommand_meets serving.toRunning serving.current
        serving.registered).mono ?_ ?_ ?_)
      · rintro store (rfl | ⟨request, -, within⟩) counted
        · exact serving.restartable
        · exact within.restartable serving counted
      · rintro result store ⟨request, built, replayed | ⟨commit, -, registered, executed⟩⟩
        · obtain rfl := replayed.same
          exact Meets.pure (fun _ => serving.restartable) fun _ => serving
        · have next := fun counted => executed.serving serving built registered counted
          exact Meets.pure (fun counted => (next counted).restartable) next
      · rintro error store ⟨rfl, -⟩ -
        exact serving
  | updateInstanceFields instanceId changes actor name idempotencyKey now =>
      refine Meets.bind ((updateInstanceFields_meets serving rfl).mono ?_ ?_ ?_)
      · exact fun store within counted => within.restartable serving counted
      · rintro item store ⟨next, -⟩
        exact Meets.pure (fun counted => (next counted).restartable) next
      · rintro error store ⟨rfl, -⟩ -
        exact serving
  | service call =>
      refine (RepositoryCall.beside_meets serving allowed).mono ?_ ?_ ?_
      · exact fun store ⟨interrupted, beside⟩ counted =>
          beside.restartable serving interrupted counted
      · exact fun _ store ⟨running, beside⟩ counted => beside.serving serving running counted
      · exact fun _ store ⟨running, beside⟩ counted => beside.serving serving running counted

/-- Whatever happens after a running store, it stays sound. -/
theorem Continues.sound {phase : Phase} (continues : Continues taskId start phase store)
    (serving : Serving start) : Restartable store ∧ (phase = .running → Serving store) := by
  induction continues with
  | refl => exact ⟨serving.restartable, fun _ => serving⟩
  | call before call allowed ih =>
      have serving := ih.2 rfl
      have next := (StoreCall.script_meets taskId serving allowed).after
        ((StoreCall.script_counted taskId).after serving.counted)
      exact ⟨next.restartable, fun _ => next⟩
  | interrupted before call allowed position torn ih =>
      have serving := ih.2 rfl
      exact ⟨(StoreCall.script_meets taskId serving allowed).stopped position torn
        (counted_stopped (StoreCall.script_counted taskId) serving.counted position torn), nofun⟩
  | restarted before now returned ih =>
      have next := (recover_returns taskId ih.1 now).2.2
      exact ⟨next.restartable, fun _ => next⟩
  | restartInterrupted before now position torn ih =>
      exact ⟨recover_stopped taskId ih.1 now position torn, nofun⟩

/-- What holds after every history. -/
theorem CommandHistory.sound {phase : Phase} (history : CommandHistory taskId phase store) :
    Restartable store ∧ (phase = .running → Serving store) := Continues.sound history .empty

/-- No program takes an event out of the journal. -/
theorem events_kept {α : Type} (script : TaskScript α) :
    Maintains (fun store : TaskStore => start.events <+: store.events) (fun _ => False) script
      fun _ => True := by
  refine Maintains.always (fun w store kept => ?_) script
  cases w with
  | append event =>
      refine ⟨?_, .inl (by simpa [Disk.tear] using kept)⟩
      rcases Store.events_append_cases event store with same | added
      · exact same ▸ kept
      · show start.events <+: (store.append event).events
        rw [added]
        exact kept.trans (List.prefix_append _ _)
  | truncate => exact ⟨kept, .inl kept⟩
  | replace key snapshot => exact ⟨kept, .inl kept⟩
  | unlink key => exact ⟨kept, .inl kept⟩
  | side files => exact ⟨kept, .inl kept⟩

/-- Events stay in the journal. -/
theorem Continues.events {phase : Phase} (continues : Continues taskId start phase store) :
    start.events <+: store.events := by
  induction continues with
  | refl => exact List.prefix_rfl
  | call before call allowed ih => exact (events_kept _).after ih
  | interrupted before call allowed position torn ih =>
      exact ((events_kept _).stopped ih position torn).resolve_right id
  | restarted before now returned ih => exact (events_kept _).after ih
  | restartInterrupted before now position torn ih =>
      exact ((events_kept _).stopped ih position torn).resolve_right id

section

variable {envelope : CommandEnvelope} {ambient : Ambient} {command request : Command}
  {commit : Commit} {next : TaskState}

/-- A command whose result is in the journal returns it and writes nothing. -/
theorem Serving.runCommand_again {event : TaskEvent} {result : ServiceResult} (serving : Serving start)
    (built : TaskCommandService.buildRequest envelope command = .ok request)
    (member : event ∈ start.events)
    (carries : Carries event envelope.idempotencyKey ⟨.command request, result⟩) :
    (runCommand taskId envelope ambient command start).outcome = .ok result ∧
      (runCommand taskId envelope ambient command).after start = start := by
  have meets := @runCommand_meets taskId envelope ambient _ command serving.toRunning
    serving.current serving.registered
  have only : ∀ other ∈ start.events, ∀ found, Carries other envelope.idempotencyKey found →
      found = ⟨.command request, result⟩ := by
    intro other member' found carries'
    have same := serving.registered.unique other member' event member envelope.idempotencyKey _ _
      (recordOf_eq_some.mpr ⟨found, carries', rfl⟩) (recordOf_eq_some.mpr ⟨_, carries, rfl⟩)
    rcases found with ⟨digest, value⟩
    simp only [IdempotencyRecord.mk.injEq] at same
    rw [same.2.1, same.2.2]
  cases ended : (runCommand taskId envelope ambient command start).outcome with
  | ok returned =>
      obtain ⟨other, built', replayed | ⟨commit', rfl, -, executed⟩⟩ := meets.of_ok ended
      · obtain ⟨earlier, member', carries'⟩ := replayed.carried
        obtain rfl := Except.ok.inj (built.symm.trans built')
        have same := only earlier member' _ carries'
        simp only [CommittedResult.mk.injEq, true_and] at same
        exact ⟨by rw [same], replayed.same⟩
      · exact absurd carries (executed.unused event member _)
  | error error =>
      rcases (meets.of_error ended).2 request built with
        ⟨other, member', found, carries', different⟩ | ⟨unused, -⟩
      · rw [only other member' found carries'] at different
        exact absurd rfl different
      · exact absurd carries (unused event member _)

end

/-- The objects of the store are those of the result. -/
def Stores : CommandResult → TaskStore → Prop
  | .task task revision, store =>
      store.payload .task = some task ∧ store.revision .task = revision
  | .aggregate plan taskRevision planRevision, store =>
      store.payload .plan = some plan ∧ store.revision .plan = planRevision ∧
        store.revision .task = taskRevision ∧ AgreesWith store plan

/-- What a command returns is what it has stored, unless its key had been used before. -/
theorem returned_result_stored (history : CommandHistory taskId .running store) {command : Command}
    {envelope : CommandEnvelope} {ambient : Ambient} {result : ServiceResult}
    (unused : Unused store.events envelope.idempotencyKey)
    (returned : (runCommand taskId envelope ambient command store).outcome = .ok result) :
    ∃ value, result = .command value ∧
      Stores value ((runCommand taskId envelope ambient command).after store) := by
  have serving := history.sound.2 rfl
  have meets := @runCommand_meets taskId envelope ambient _ command serving.toRunning
    serving.current serving.registered
  obtain ⟨request, -, replayed | ⟨commit, rfl, -, executed⟩⟩ := meets.of_ok returned
  · obtain ⟨event, member, carries⟩ := replayed.carried
    exact absurd carries (unused event member _)
  refine ⟨_, rfl, ?_⟩
  have applied := executed.applied
  cases commit with
  | task payload expected =>
      obtain ⟨-, current, state⟩ := TaskState.apply_task_eq_ok.mp applied
      refine ⟨congrArg TaskState.task state, ?_⟩
      rw [current]
      exact congrArg TaskState.taskRevision state
  | aggregate plan skipUnchanged =>
      obtain ⟨-, state⟩ := TaskState.apply_aggregate_eq_ok.mp applied
      exact ⟨congrArg TaskState.plan state, congrArg TaskState.planRevision state,
        congrArg TaskState.taskRevision state, executed.effect⟩

/-- A result that was returned once is returned under its key ever after, through every crash and
    every restart, and the store is not touched again. -/
theorem result_durable (history : CommandHistory taskId .running store) {command : Command}
    {envelope : CommandEnvelope} {ambient : Ambient} {result : ServiceResult}
    (returned : (runCommand taskId envelope ambient command store).outcome = .ok result)
    {later : TaskStore} (continues : Continues taskId
      ((runCommand taskId envelope ambient command).after store) .running later)
    (again : Ambient) :
    (runCommand taskId envelope again command later).outcome = .ok result ∧
      (runCommand taskId envelope again command).after later = later := by
  have serving := history.sound.2 rfl
  have meets := @runCommand_meets taskId envelope ambient _ command serving.toRunning
    serving.current serving.registered
  have allowed : StoreCall.Allowed (.command command envelope ambient) := trivial
  have ended := StoreCall.script_meets taskId serving allowed
  have next : Serving ((runCommand taskId envelope ambient command).after store) := by
    have same : (StoreCall.script taskId (.command command envelope ambient)).after store =
        (runCommand taskId envelope ambient command).after store := Script.after_bind_pure
    rw [← same]
    exact ended.after ((StoreCall.script_counted taskId).after serving.counted)
  have final := (continues.sound next).2 rfl
  obtain ⟨request, built, replayed | ⟨commit, rfl, -, executed⟩⟩ := meets.of_ok returned
  · obtain ⟨event, member, carries⟩ := replayed.carried
    rw [replayed.same] at continues
    exact final.runCommand_again built (continues.events.subset member) carries
  · exact final.runCommand_again built (continues.events.subset executed.committing.mem)
      carries_eventOf

end

/-- The example task is created and its plan is saved under keys of their own. -/
def createEnvelope : CommandEnvelope := ⟨"create-task", .human, "owner", 0⟩

def createSample : Command :=
  .createTask ⟨"task", "Cover", "A cover", "owner", .auto, "inputs.json"⟩

def saveEnvelope : CommandEnvelope := ⟨"save-plan", .human, "owner", 1⟩

def savePair : Command := .savePlan .replace pairPayload none

def createdStore : TaskStore :=
  (StoreCall.script "task" (.command createSample createEnvelope ⟨"t1", "u1"⟩)).after .empty

theorem createdStore_history : CommandHistory "task" .running createdStore :=
  .call .refl (.command createSample createEnvelope ⟨"t1", "u1"⟩) trivial

theorem createdStore_unused : Unused createdStore.events saveEnvelope.idempotencyKey := by
  have keys : createdStore.events.map (fun event => event.info.idempotencyKey) =
      ["create-task"] := by decide +kernel
  rintro event member result ⟨same, -⟩
  have listed := List.mem_map_of_mem (f := fun event : TaskEvent => event.info.idempotencyKey) member
  rw [keys, same] at listed
  simp [saveEnvelope] at listed

theorem savePair_returned : ∃ result,
    (runCommand "task" saveEnvelope ⟨"t2", "u2"⟩ savePair createdStore).outcome = .ok result := by
  have ran : ((runCommand "task" saveEnvelope ⟨"t2", "u2"⟩ savePair
      createdStore).outcome.toOption).isSome = true := by decide +kernel
  obtain ⟨result, found⟩ := Option.isSome_iff_exists.mp ran
  exact ⟨result, toOption_eq_some.mp found⟩

theorem returned_result_stored_saved : ∃ value, Stores value
    ((runCommand "task" saveEnvelope ⟨"t2", "u2"⟩ savePair).after createdStore) := by
  obtain ⟨result, returned⟩ := savePair_returned
  obtain ⟨value, -, stores⟩ := returned_result_stored createdStore_history createdStore_unused returned
  exact ⟨value, stores⟩

/-- The result survives a crash in the next command and the startup after it. -/
theorem result_durable_saved : ∃ result,
    (runCommand "task" saveEnvelope ⟨"t2", "u2"⟩ savePair createdStore).outcome = .ok result ∧
      ∀ again, (runCommand "task" saveEnvelope again savePair ((recover "task" "t4").after
        ((StoreCall.script "task" (.command .cancelTask ⟨"cancel", .human, "owner", 2⟩
          ⟨"t3", "u3"⟩)).stopped ((runCommand "task" saveEnvelope ⟨"t2", "u2"⟩ savePair).after
            createdStore) 1 false))).outcome = .ok result := by
  obtain ⟨result, returned⟩ := savePair_returned
  refine ⟨result, returned, fun again => ?_⟩
  have crashed : Continues "task" ((runCommand "task" saveEnvelope ⟨"t2", "u2"⟩ savePair).after
      createdStore) .stopped _ :=
    .interrupted .refl (.command .cancelTask ⟨"cancel", .human, "owner", 2⟩ ⟨"t3", "u3"⟩) trivial
      1 false
  have restarted := Continues.restarted crashed "t4" (by decide +kernel)
  exact (result_durable createdStore_history returned restarted again).1

end DesignHarness
