import DesignHarness.Storage.Objects
import Mathlib.Data.List.Sort

/-!
# The file state store

The programs of `FileStateStore` (`store.py`) and `SnapshotRepository` (`repository.py`) over the
objects of one task: commits and removals, the idempotency registry, the projections of the plan,
and the recovery at startup.
-/

namespace DesignHarness

open Library

section

variable (taskId : Identifier)

/-- `SnapshotRepository.put` (`repository.py:88-173`). -/
def putObject (key : ObjectKey) (payload : Payload key) (expected : Nat) (info : EventInfo)
    (now : Timestamp) : TaskScript (Wrapper (Payload key)) :=
  put (storeErrors taskId) (validatePayload key payload) key payload expected info now

/-- `SnapshotRepository.delete` (`repository.py:175-229`). -/
def deleteObject (key : ObjectKey) (expected : Nat) (info : EventInfo) : TaskScript Bool :=
  delete (storeErrors taskId) key expected info

/-- The ids of the snapshots in a directory, in the order of `sorted(directory.glob("*.json"))`. -/
def listIds (select : ObjectKey → Option Identifier) (store : TaskStore) : List Identifier :=
  (store.snapshots.keys.filterMap select).insertionSort fun a b => a ++ ".json" ≤ b ++ ".json"

/-! ## Command results -/

/-- The `IDEMPOTENCY_CONFLICT` of the registry and of the journal lookup. -/
def idempotencyConflict (command : String) : Raised :=
  .harness ⟨.idempotencyConflict, "The idempotency key was already used for a different request.",
    [("scope", .text taskId), ("command", .text command)]⟩

/-- The loop of `lookup_committed_command_result` (`store.py:282-291`). -/
def committedResult (key command : String) (digest : Request) :
    List TaskEvent → Option ServiceResult → Outcome (Option ServiceResult)
  | [], committed => .ok committed
  | event :: rest, committed =>
      match event.info.result with
      | none => committedResult key command digest rest committed
      | some result =>
          if event.info.idempotencyKey ≠ key then
            committedResult key command digest rest committed
          else if event.info.command ≠ command ∨ result.digest ≠ digest then
            .error (idempotencyConflict taskId command)
          else
            committedResult key command digest rest (some result.value)

/-- `lookup_committed_command_result` (`store.py:270-291`). -/
def lookupCommitted (key command : String) (digest : Request) :
    TaskScript (Option ServiceResult) := do
  let events ← recoverRecords (storeErrors taskId)
  Script.lift (committedResult taskId key command digest events none)

/-- `IdempotencyRepository.lookup` (`idempotency.py:28-46`). -/
def lookupRegistry (key command : String) (digest : Request) (side : SideFiles) :
    Outcome (Option ServiceResult) :=
  match side.registry.lookup key with
  | none => .ok none
  | some record => do
      ensure (record.digest = digest) (idempotencyConflict taskId command)
      return some record.result

/-- `IdempotencyRepository.remember_digest` (`idempotency.py:63-95`). -/
def rememberDigest (key command : String) (digest : Request) (result : ServiceResult) :
    TaskScript ServiceResult := do
  let side ← Script.read Store.side
  match side.registry.lookup key with
  | some record => do
      Script.lift (ensure (record.digest = digest) (idempotencyConflict taskId command))
      return record.result
  | none => do
      Script.write (.side
        { side with registry := side.registry.insert key ⟨command, digest, result⟩ })
      return result

/-- `_recover_idempotency_results` (`store.py:293-307`). -/
def recoverIdempotencyResults (events : List TaskEvent) : TaskScript Unit :=
  Script.forEach (fun event =>
    match event.info.result with
    | none => pure ()
    | some result => do
        let _ ← rememberDigest taskId event.info.idempotencyKey event.info.command result.digest
          result.value) events

/-- A snapshot that is copied from the plan. -/
abbrev Projection := Σ key : ObjectKey, Payload key

def Stage.projection (stage : Stage) : Projection := ⟨.stage stage.stageId, ⟨stage, rfl⟩⟩

def AgentInstance.projection (item : AgentInstance) : Projection :=
  ⟨.agentInstance item.instanceId, ⟨item, rfl⟩⟩

/-- The projections of a plan: the task, the stages and the instances. -/
def Plan.projections (plan : Plan) : List Projection :=
  ⟨.task, plan.task⟩ ::
    (plan.stages.map Stage.projection ++ plan.instances.map AgentInstance.projection)

/-- Commit a projection at the revision of its snapshot, which may be skipped when the snapshot is
    the same. -/
def writeProjection (skipUnchanged : Bool) (info : EventInfo) (now : Timestamp)
    (projection : Projection) : TaskScript Unit := do
  let current ← Script.read (Store.lookup projection.1)
  if skipUnchanged = true ∧ current.map Wrapper.payload = some projection.2 then
    return
  else do
    let _ ← putObject taskId projection.1 projection.2 (current.elim 0 Wrapper.revision) info now

/-- The loop of `_reconcile_plan_projections` over the projections. -/
def reconcileProjection (planRevision : Nat) (now : Timestamp) (projection : Projection) :
    TaskScript Unit :=
  writeProjection taskId true
    { actor := ⟨.system, "startup_recovery"⟩
      command := "reconcile_plan_projection"
      idempotencyKey := s!"recover-{planRevision}-{projection.1.objectType}-" ++
        projection.1.objectId taskId } now projection

/-- Remove the listed snapshots that the plan does not hold. -/
def retireFrom (toKey : Identifier → ObjectKey) (active listed : List Identifier) :
    TaskScript Unit :=
  Script.forEach (fun objectId =>
    if objectId ∈ active then pure () else Script.write (.unlink (toKey objectId))) listed

/-- `retire_plan_projections` (`store.py:341-359`): the snapshots go without an event. -/
def retirePlanProjections (plan : Plan) : TaskScript Unit := do
  let stages ← Script.read (listIds ObjectKey.stageId?)
  retireFrom .stage (plan.stages.map Stage.stageId) stages
  let instances ← Script.read (listIds ObjectKey.instanceId?)
  retireFrom .agentInstance (plan.instances.map AgentInstance.instanceId) instances

/-- `_reconcile_plan_projections` (`store.py:309-339`). -/
def reconcilePlanProjections (now : Timestamp) : TaskScript Unit := do
  match ← Script.read (Store.lookup ObjectKey.plan) with
  | none => pure ()
  | some wrapper => do
      Script.forEach (reconcileProjection taskId wrapper.revision now) (Plan.projections
        wrapper.payload)
      retirePlanProjections wrapper.payload

/-- `FileStateStore.recover` (`store.py:193-268`). -/
def recover (now : Timestamp) : TaskScript Unit := do
  let events ← recoverRecords (storeErrors taskId)
  recoverIdempotencyResults taskId events
  recoverObjects (storeErrors taskId) events
  reconcilePlanProjections taskId now

/-- The end of `update_instance_fields` for an instance that no plan holds. -/
def updateInstanceRecord (instanceId : Identifier) (changes : InstanceChanges)
    (info : EventInfo) (now : Timestamp) : TaskScript AgentInstance := do
  match ← Script.read (Store.lookup (ObjectKey.agentInstance instanceId)) with
  | none => Script.raise instanceNotFound
  | some current =>
      if changes.apply current.payload.val = current.payload.val then
        return current.payload.val
      else do
        let _ ← putObject taskId (.agentInstance instanceId)
          ⟨changes.apply current.payload.val, current.payload.property⟩ current.revision info now
        return changes.apply current.payload.val

/-- `update_instance_fields` (`store.py:361-437`). -/
def updateInstanceFields (instanceId : Identifier) (changes : InstanceChanges)
    (info : EventInfo) (now : Timestamp) : TaskScript AgentInstance := do
  Script.lift (ensure (changes ≠ {}) (.valueError "unsupported mutable instance fields"))
  match ← Script.read (Store.lookup ObjectKey.plan) with
  | none => updateInstanceRecord taskId instanceId changes info now
  | some wrapper =>
      let plan : Plan := wrapper.payload
      match plan.instances.find? (·.instanceId = instanceId) with
      | none => updateInstanceRecord taskId instanceId changes info now
      | some item =>
          if changes.apply item = item then
            return item
          else do
            let updated := plan.modifyInstance instanceId changes.apply
            Script.lift (validateContract "task-plan" updated.accepted)
            let _ ← putObject taskId .plan updated wrapper.revision info now
            reconcilePlanProjections taskId now
            return changes.apply item

end

end DesignHarness
