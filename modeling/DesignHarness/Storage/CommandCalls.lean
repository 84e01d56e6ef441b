import DesignHarness.Domain.PlanMerges
import DesignHarness.Domain.History
import DesignHarness.Storage.Recovery

/-!
# The commands over the store

A command of `TaskCommandService` runs under its idempotency key (`_idempotent`,
`service.py:1382-1427`): a result that was committed is returned again, otherwise the handler
decides what is to be committed and `_persist_aggregate` (`service.py:1305-1380`) or a single
`put` writes it.
-/

namespace DesignHarness

open Library

section

variable (taskId : Identifier) (envelope : CommandEnvelope) (ambient : Ambient)

/-- What the events of a command record; the first one carries the result. -/
def eventInfo (request : Command) (result : Option ServiceResult) : EventInfo where
  actor := envelope.actor
  command := request.name
  idempotencyKey := envelope.idempotencyKey
  result := result.map fun value => ⟨.command request, value⟩

/-- `_persist_aggregate` (`service.py:1305-1380`). -/
def persistAggregate (request : Command) (plan : Plan) (expectedTaskRevision : Nat)
    (skipUnchanged : Bool) : TaskScript ServiceResult := do
  Script.lift (validatePlan plan)
  let planRevision ← Script.read (Store.revision ObjectKey.plan)
  let result := ServiceResult.command
    (.aggregate plan (expectedTaskRevision + 1) (planRevision + 1))
  let _ ← putObject taskId .plan plan planRevision (eventInfo envelope request (some result))
    ambient.now
  retirePlanProjections plan
  let task ← putObject taskId .task plan.task expectedTaskRevision
    (eventInfo envelope request none) ambient.now
  Script.forEach
    (writeProjection taskId skipUnchanged (eventInfo envelope request none) ambient.now)
    (plan.stages.map Stage.projection ++ plan.instances.map AgentInstance.projection)
  Script.lift (ensure (task.revision = expectedTaskRevision + 1)
    (.runtimeError "task projection revision diverged from the aggregate commit"))
  return result

/-- What a handler decided, written to the store. -/
def persist (request : Command) (state : TaskState) : Commit → TaskScript ServiceResult
  | .task payload expectedRevision => do
      let result := ServiceResult.command (.task payload (expectedRevision + 1))
      let _ ← putObject taskId .task payload expectedRevision
        (eventInfo envelope request (some result)) ambient.now
      return result
  | .aggregate plan skipUnchanged =>
      persistAggregate taskId envelope ambient request plan state.taskRevision skipUnchanged

/-- The `operation` of `_idempotent`: the handler over what the store holds. -/
def runHandler (request : Command) : TaskScript ServiceResult := do
  let state ← Script.read TaskStore.taskState
  let commit ← Script.lift (TaskCommandService.handle state envelope ambient request)
  persist taskId envelope ambient request state commit

/-- `_idempotent` (`service.py:1382-1427`). -/
def idempotent (request : Command) (operation : TaskScript ServiceResult) :
    TaskScript ServiceResult := do
  let side ← Script.read Store.side
  match ← Script.lift (lookupRegistry taskId envelope.idempotencyKey request.name
      (.command request) side) with
  | some existing => return existing
  | none => do
      match ← lookupCommitted taskId envelope.idempotencyKey request.name (.command request) with
      | some committed =>
          rememberDigest taskId envelope.idempotencyKey request.name (.command request) committed
      | none => do
          let result ← operation
          let committed ← lookupCommitted taskId envelope.idempotencyKey request.name
            (.command request)
          Script.lift (ensure (committed = some result)
            (.runtimeError "command returned without an authoritative result commit"))
          rememberDigest taskId envelope.idempotencyKey request.name (.command request) result

/-- A public method of `TaskCommandService`. -/
def runCommand (command : Command) : TaskScript ServiceResult := do
  let request ← Script.lift (TaskCommandService.buildRequest envelope command)
  idempotent taskId envelope request (runHandler taskId envelope ambient request)

end

/-! ## A command that is refused -/

/-- No object and no event of the store has changed. -/
structure SameObjectsAs (start store : TaskStore) : Prop where
  events : store.events = start.events
  snapshots : store.snapshots = start.snapshots

section

variable {taskId : Identifier} {envelope : CommandEnvelope} {ambient : Ambient} {request : Command}
  {store : TaskStore} {operation : TaskScript ServiceResult}

theorem SameObjectsAs.refl : SameObjectsAs store store := ⟨rfl, rfl⟩

theorem SameObjectsAs.truncate : SameObjectsAs store store.truncate := ⟨rfl, rfl⟩

theorem rememberDigest_meets {key command : String} {digest : Request} {result : ServiceResult}
    {start : TaskStore} (same : SameObjectsAs start store) (raises : Raised → TaskStore → Prop)
    (conflict : ∀ error, raises error store) :
    Meets (rememberDigest taskId key command digest result) store (SameObjectsAs start)
      (fun _ _ => True) raises := by
  refine Meets.bind (Meets.read same ?_)
  cases store.side.registry.lookup key with
  | some record =>
      refine Meets.bind (Meets.lift same (fun _ _ => Meets.pure same trivial) ?_)
      exact fun error _ => conflict error
  | none =>
      exact Meets.bind (Meets.write same same ⟨same.events, same.snapshots⟩
        (Meets.pure ⟨same.events, same.snapshots⟩ trivial))

/-- What a refused operation leaves behind, however often the command is sent. -/
theorem idempotent_refused
    (refused : ∀ store', SameObjectsAs store store' → store'.side = store.side →
      Meets operation store' (SameObjectsAs store) (fun _ _ => False)
        fun _ left => left.side = store.side) :
    Meets (idempotent taskId envelope request operation) store (SameObjectsAs store)
      (fun _ _ => True) fun _ left => left.side = store.side := by
  refine Meets.bind (Meets.read .refl (Meets.bind (Meets.lift .refl ?_ fun _ _ => rfl)))
  intro existing _
  cases existing with
  | some result => exact Meets.pure .refl trivial
  | none =>
      by_cases readable : store.Readable
      · refine Meets.bind (lookupCommitted_meets readable .refl .truncate ?_ fun _ _ => rfl)
        intro committed _
        cases committed with
        | some result => exact rememberDigest_meets .truncate _ fun _ => rfl
        | none =>
            refine Meets.bind ((refused store.truncate .truncate rfl).mono (fun _ => id) ?_
              fun _ _ => id)
            exact fun _ _ => False.elim
      · have corrupt : store.journal.tail = .corrupt := not_ne_iff.mp readable
        refine Meets.bind (Meets.bind (Meets.bind (Meets.read .refl ?_)))
        rw [corrupt]
        exact Meets.raise .refl rfl

/-- A command whose handler raises stores nothing. -/
theorem runCommand_refused {command : Command}
    (refused : ∀ request commit, TaskCommandService.buildRequest envelope command = .ok request →
      TaskCommandService.handle store.taskState envelope ambient request ≠ .ok commit) :
    Meets (runCommand taskId envelope ambient command) store (SameObjectsAs store)
      (fun _ _ => True) fun _ left => left.side = store.side := by
  refine Meets.bind (Meets.lift .refl ?_ fun _ _ => rfl)
  intro request built
  refine idempotent_refused fun store' same side => ?_
  have state : store'.taskState = store.taskState := by
    unfold TaskStore.taskState Store.payload Store.revision Store.lookup
    rw [same.snapshots]
  refine Meets.bind (Meets.read same (Meets.bind (Meets.lift same ?_ fun _ _ => side)))
  intro commit handled
  rw [state] at handled
  exact absurd handled (refused request commit built)

/-- The merge of a payload into the stored plan raises. -/
def TaskStore.RefusesMerge (store : TaskStore) (payload : PlanPayload) (now : Timestamp) : Prop :=
  ∀ task existing, store.taskState.task = some task → store.taskState.plan = some existing →
    ∃ error, normalizeMerge task existing (task.planRevision + 1) payload now = .error error

/-- A merge keeps the stages and the instances, and of the cards all but those that wait for a
    start and are sent in a newer revision; a merge that raises stores nothing. -/
theorem merge_keeps_started (store : TaskStore) (payload : PlanPayload) :
    (∀ task existing planRevision now merged,
      normalizeMerge task existing planRevision payload now = .ok merged →
        Merged existing merged) ∧
    ∀ taskId envelope ambient expected, store.RefusesMerge payload ambient.now →
      Meets (runCommand taskId envelope ambient (.savePlan .merge payload expected)) store
        (SameObjectsAs store) (fun _ _ => True) fun _ left => left.side = store.side := by
  refine ⟨fun task existing planRevision now merged => normalizeMerge_merged, ?_⟩
  intro taskId envelope ambient expected refuses
  refine runCommand_refused fun request commit built handled => ?_
  obtain rfl := Except.ok.inj built
  simp only [TaskCommandService.handle, TaskCommandService.savePlan, bind_eq_ok,
    TaskState.requireTask_eq_ok, TaskState.requirePlan_eq_ok, TaskCommandService.mergePlan] at handled
  obtain ⟨task, stored, -, -, -, -, -, -, existing, planned, merged, normalized, -⟩ := handled
  obtain ⟨error, raised⟩ := refuses task existing stored planned
  rw [planned, Option.isSome_some, if_pos rfl, raised] at normalized
  cases normalized

end

/-- A payload with a newer card for the second of two instances. -/
def revisedPayload : PlanPayload :=
  { pairPayload with
    taskCards := [sampleCard "a" "s1" .general,
      { sampleCard "b" "s1" .general with revision := 2, objective := "Draw again" }] }

theorem merge_keeps_started_revised : ∃ existing merged,
    (runOf (samplePlanned .auto pairPayload)).plan = some existing ∧
      normalizeMerge sampleTask existing 2 revisedPayload "t2" = .ok merged ∧
      merged ≠ existing ∧ Merged existing merged := by
  obtain ⟨existing, stored⟩ := Option.isSome_iff_exists.mp
    (show (runOf (samplePlanned .auto pairPayload)).plan.isSome = true by decide +kernel)
  have ran : ((runOf (samplePlanned .auto pairPayload)).plan.bind fun existing =>
      (normalizeMerge sampleTask existing 2 revisedPayload "t2").toOption.filter
        (· ≠ existing)).isSome = true := by decide +kernel
  rw [stored] at ran
  obtain ⟨merged, found⟩ := Option.isSome_iff_exists.mp ran
  obtain ⟨found, changed⟩ := Option.filter_eq_some_iff.mp found
  have normalized := toOption_eq_some.mp found
  exact ⟨existing, merged, stored, normalized, by simpa using changed,
    (merge_keeps_started .empty revisedPayload).1 sampleTask existing 2 "t2" merged normalized⟩

end DesignHarness
