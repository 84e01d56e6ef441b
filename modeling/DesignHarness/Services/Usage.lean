import DesignHarness.Contracts.Records
import DesignHarness.Domain.Plan
import DesignHarness.Library.Dict
import DesignHarness.Library.Script
import Mathlib.Algebra.Order.BigOperators.Group.List
import Mathlib.Algebra.GroupWithZero.Nat
import Mathlib.Data.List.Dedup
import Mathlib.Data.List.Sort
import Mathlib.Data.String.Basic

/-!
# Token usage

`UsageService` (`usage.py`): batches of usage events are validated and appended to the usage log of
a task (`ingest`, `ingest_master`), an event id once; a second document counts the events of each
instance, and `recover` repairs it from the log.  `summary` adds up the log.

The records of tasks, instances and plans that a call reads are its world.  The id of the Master
stands for the digest that the source makes of the task id.
-/

namespace DesignHarness

open Library

/-- `agent_type` of an event: the one of an instance, or the Master's. -/
inductive UsageAgentType where
  | agent (agentType : AgentType)
  | master
  deriving DecidableEq, Repr

inductive ModelCallType where
  | reasoningLlm
  | visionLanguageModel
  | textToImageModel
  deriving DecidableEq, Repr

inductive UsageBasis where
  | tokens
  | imageUnits
  | mixed
  deriving DecidableEq, Repr

/-- An entry of `billing_units`; `attributes` is its canonical text. -/
structure BillingUnit where
  unit : String
  quantity : Nat
  attributes : String
  deriving DecidableEq, Repr

/-- What an event of version 1.1 has in addition; `rawUsage` is its canonical text. -/
structure UsageDetails where
  providerRequestId : Option String
  provider : String
  callType : ModelCallType
  usageBasis : UsageBasis
  billingUnits : List BillingUnit
  rawUsage : String
  deriving DecidableEq, Repr

/-- `TokenUsageEvent` (`token-usage-event.schema.json`, `token-usage-event-v1.1.schema.json`).  A
    reference that is null is told from one that is missing. -/
structure UsageEvent where
  eventId : Identifier
  taskId : Identifier
  instanceId : Identifier
  agentType : UsageAgentType
  requestId : String
  model : String
  credentialPairRef : Option (Option Identifier) := none
  inputTokens : Nat
  outputTokens : Nat
  cachedInputTokens : Nat
  reasoningTokens : Nat
  totalTokens : Nat
  costMicros : Option Nat := none
  priceCatalogRevision : Option Identifier := none
  occurredAt : Timestamp
  details : Option UsageDetails := none
  deriving DecidableEq, Repr

/-- `_TOKEN_FIELDS`. -/
inductive TokenField where
  | inputTokens
  | outputTokens
  | cachedInputTokens
  | reasoningTokens
  | totalTokens
  deriving DecidableEq, Repr

namespace UsageEvent

variable (event : UsageEvent)

def tokens : TokenField → Nat
  | .inputTokens => event.inputTokens
  | .outputTokens => event.outputTokens
  | .cachedInputTokens => event.cachedInputTokens
  | .reasoningTokens => event.reasoningTokens
  | .totalTokens => event.totalTokens

/-- The conditions of the contract on several fields. -/
def meetsContract : Bool :=
  (event.costMicros.isNone || event.priceCatalogRevision.isSome) &&
    match event.details with
    | none => true
    | some details =>
        details.billingUnits.all (fun unit => decide (1 ≤ unit.quantity)) &&
          decide (details.billingUnits.length ≤ 64) &&
          match details.usageBasis with
          | .tokens => details.billingUnits.isEmpty
          | .imageUnits => details.callType == .textToImageModel &&
              event.inputTokens == 0 && event.outputTokens == 0 &&
              event.cachedInputTokens == 0 && event.reasoningTokens == 0 &&
              event.totalTokens == 0 && details.billingUnits.any (·.unit == "image")
          | .mixed => !details.billingUnits.isEmpty

/-- `event["occurred_at"][:13] + ":00:00Z"`. -/
def hour : String := String.ofList (event.occurredAt.toList.take 13) ++ ":00:00Z"

end UsageEvent

inductive Completeness where
  | notReported
  | partly
  | complete
  deriving DecidableEq, Repr

inductive UsageSource where
  | adapter
  | internal
  | recovery
  deriving DecidableEq, Repr

/-- An entry of `instances` in `usage-state.json`. -/
structure CollectionEntry where
  agentType : UsageAgentType
  status : Completeness
  eventCount : Nat
  cursor : Option String
  lastCheckedAt : Timestamp
  source : UsageSource
  deriving DecidableEq, Repr

/-- `usage-state.json`. -/
structure UsageState where
  instances : Identifier → Option CollectionEntry
  updatedAt : Timestamp

/-- The usage logs and the collection states of the tasks. -/
structure UsageDisk where
  logs : Identifier → List UsageEvent
  states : Identifier → Option UsageState

inductive UsageWrite where
  | append (taskId : Identifier) (event : UsageEvent)
  | state (taskId : Identifier) (state : UsageState)

/-- Lines of the log are appended one by one, and the state is replaced. -/
instance : Disk UsageDisk UsageWrite where
  apply disk
    | .append taskId event =>
        { disk with logs := Function.update disk.logs taskId (disk.logs taskId ++ [event]) }
    | .state taskId state =>
        { disk with states := Function.update disk.states taskId (some state) }
  tear disk _ := disk

abbrev UsageScript (α : Type) := Script UsageDisk UsageWrite Raised α

/-- What the service reads of an AgentInstance. -/
structure UsageInstance where
  taskId : Identifier
  instanceId : Identifier
  agentType : UsageAgentType
  status : InstanceStatus
  deriving DecidableEq, Repr

/-- The records that a call reads, the directories of tasks, and the time. -/
structure UsageWorld where
  now : Timestamp
  hasTask : Identifier → Bool
  findInstance : Identifier → Identifier → Option UsageInstance
  plan : Identifier → Option (List UsageInstance)
  taskDirectories : List Identifier

/-- `_TERMINAL_INSTANCE_STATUSES`. -/
def InstanceStatus.endsUsage : InstanceStatus → Bool
  | .succeeded | .failed | .failedToStart | .crashed | .cancelled | .superseded | .archived
  | .unavailable => true
  | _ => false

namespace UsageService

/-- `master_instance_id` (`usage.py:455-458`). -/
def masterInstanceId (taskId : Identifier) : Identifier := "master_" ++ taskId

def usageInvalid (message : String) : Raised := .harness ⟨.validationError, message, []⟩

def taskMissing : Raised := .harness ⟨.taskNotFound, "The requested task does not exist.", []⟩

/-- `_instance` (`usage.py:440-453`). -/
def findInstance (world : UsageWorld) (taskId instanceId : Identifier) : Outcome UsageInstance :=
  if instanceId = masterInstanceId taskId ∧ world.hasTask taskId then
    .ok ⟨taskId, instanceId, .master, .running⟩
  else
    match world.findInstance taskId instanceId with
    | none => .error (.harness ⟨.instanceNotFound, "The requested instance does not exist.", []⟩)
    | some found => do
        ensure (found.taskId = taskId)
          (.harness ⟨.instanceNotFound, "The requested instance does not exist.", []⟩)
        return found

/-- The end of `_validate_event` and of `_validate_master_event`. -/
def validateTokens (event : UsageEvent) : Outcome Unit := do
  ensure (event.totalTokens = event.inputTokens + event.outputTokens)
    (usageInvalid "Usage total_tokens must equal input plus output.")
  ensure (event.cachedInputTokens ≤ event.inputTokens)
    (usageInvalid "Cached input usage exceeds total input usage.")
  ensure (event.reasoningTokens ≤ event.outputTokens)
    (usageInvalid "Reasoning usage exceeds total output usage.")

/-- `_validate_event` (`usage.py:392-414`). -/
def validateEvent (taskId : Identifier) (target : UsageInstance) (event : UsageEvent) :
    Outcome Unit := do
  validateContract "token-usage-event" event.meetsContract
  ensure (event.taskId = taskId ∧ event.instanceId = target.instanceId)
    (usageInvalid "The usage event belongs to another task or instance.")
  ensure (event.agentType = target.agentType)
    (usageInvalid "The usage event Agent type does not match its instance.")
  validateTokens event

/-- `_validate_master_event` (`usage.py:416-438`). -/
def validateMasterEvent (taskId : Identifier) (event : UsageEvent) : Outcome Unit := do
  validateContract "token-usage-event" event.meetsContract
  ensure (event.taskId = taskId ∧ event.instanceId = masterInstanceId taskId ∧
      event.agentType = .master)
    (usageInvalid "The Master usage owner is invalid.")
  match event.details with
  | none => .error (.keyError "call_type")
  | some details => do
      ensure (details.callType = .reasoningLlm ∨ details.callType = .visionLanguageModel)
        (usageInvalid "The Master usage call type is invalid.")
      validateTokens event

/-! ## Ingestion -/

/-- An event id that stands for other data (`usage.py:72-78`). -/
def reusedEvent (eventId : Identifier) : Raised :=
  .harness ⟨.idempotencyConflict, "A usage event id was reused with different accounting data.",
    [("event_id", .text eventId)]⟩

/-- The loop over a batch (`usage.py:66-81`): the events that are staged, and how many are known. -/
def stage (validate : UsageEvent → Outcome Unit) (existing : List UsageEvent) :
    List UsageEvent → Nat → List UsageEvent → Outcome (List UsageEvent × Nat)
  | staged, duplicates, [] => .ok (staged, duplicates)
  | staged, duplicates, event :: rest => do
      validate event
      match dictGet UsageEvent.eventId staged event.eventId <|>
          dictGet UsageEvent.eventId existing event.eventId with
      | some previous => do
          ensure (previous = event) (reusedEvent event.eventId)
          stage validate existing staged (duplicates + 1) rest
      | none => stage validate existing (staged ++ [event]) duplicates rest

/-- `UsageRepository.append` (`repository.py:291-303`), which returns whether the event is new. -/
def append (taskId : Identifier) (event : UsageEvent) : UsageScript Bool := do
  Script.lift (validateContract "token-usage-event" event.meetsContract)
  let existing ← Script.read fun disk : UsageDisk => disk.logs taskId
  if existing.any (·.eventId == event.eventId) then
    return false
  else do
    Script.write (.append taskId event)
    return true

/-- `for event in staged.values(): append(event)`. -/
def appendStaged (taskId : Identifier) (vanished : String) (staged : List UsageEvent) :
    UsageScript Unit :=
  Script.forEach (fun event => do
    let new ← append taskId event
    Script.lift (ensure (new = true) (.runtimeError vanished))) staged

/-- `_read_state` (`usage.py:463-479`); the service writes only states of the task. -/
def readState (now : Timestamp) (taskId : Identifier) (disk : UsageDisk) : UsageState :=
  (disk.states taskId).getD ⟨fun _ => none, now⟩

/-- The arguments of `ingest`. -/
structure IngestCall where
  taskId : Identifier
  instanceId : Identifier
  events : List UsageEvent
  source : UsageSource
  cursor : Option String
  collectionComplete : Option Bool
  deriving DecidableEq, Repr

/-- What `ingest` and `ingest_master` return. -/
structure IngestResult where
  taskId : Identifier
  instanceId : Identifier
  accepted : Nat
  duplicates : Nat
  completeness : Completeness
  cursor : Option String
  deriving DecidableEq, Repr

/-- The entry that `ingest` makes (`usage.py:89-111`). -/
def ingestEntry (world : UsageWorld) (call : IngestCall) (target : UsageInstance)
    (log : List UsageEvent) (prior : Option CollectionEntry) : CollectionEntry where
  agentType := target.agentType
  status :=
    if log.countP (·.instanceId == call.instanceId) = 0 then .notReported
    else if call.collectionComplete.getD target.status.endsUsage then .complete
    else .partly
  eventCount := log.countP (·.instanceId == call.instanceId)
  cursor := (call.cursor <|> call.events.getLast?.map UsageEvent.eventId) <|>
    prior.bind CollectionEntry.cursor
  lastCheckedAt := world.now
  source := call.source

/-- `ingest` (`usage.py:46-122`). -/
def ingest (world : UsageWorld) (call : IngestCall) : UsageScript IngestResult := do
  Script.lift (ensure (call.source ≠ .recovery) (usageInvalid "The usage source is invalid."))
  Script.lift (ensure (call.events.length ≤ 10000) (usageInvalid "A usage batch is too large."))
  let target ← Script.lift (findInstance world call.taskId call.instanceId)
  let existing ← Script.read fun disk : UsageDisk => disk.logs call.taskId
  let (staged, duplicates) ←
    Script.lift (stage (validateEvent call.taskId target) existing [] 0 call.events)
  appendStaged call.taskId "usage event disappeared during the ingestion lock" staged
  let state ← Script.read (readState world.now call.taskId)
  let entry := ingestEntry world call target (existing ++ staged)
    (state.instances call.instanceId)
  Script.write (.state call.taskId
    ⟨Function.update state.instances call.instanceId (some entry), world.now⟩)
  return ⟨call.taskId, call.instanceId, staged.length, duplicates, entry.status, entry.cursor⟩

/-- The entry that `ingest_master` makes (`usage.py:196-208`). -/
def masterEntry (world : UsageWorld) (taskId : Identifier) (log : List UsageEvent) :
    CollectionEntry where
  agentType := .master
  status := .partly
  eventCount := log.countP (·.instanceId == masterInstanceId taskId)
  cursor := (log.filter (·.instanceId == masterInstanceId taskId)).getLast?.map UsageEvent.eventId
  lastCheckedAt := world.now
  source := .internal

/-- `ingest_master` (`usage.py:166-219`). -/
def ingestMaster (world : UsageWorld) (taskId : Identifier) (events : List UsageEvent) :
    UsageScript IngestResult := do
  Script.lift (ensure (world.hasTask taskId = true) taskMissing)
  let existing ← Script.read fun disk : UsageDisk => disk.logs taskId
  let (staged, duplicates) ←
    Script.lift (stage (validateMasterEvent taskId) existing [] 0 events)
  appendStaged taskId "Master usage disappeared during the ingestion lock" staged
  let state ← Script.read (readState world.now taskId)
  let entry := masterEntry world taskId (existing ++ staged)
  Script.write (.state taskId
    ⟨Function.update state.instances (masterInstanceId taskId) (some entry), world.now⟩)
  return ⟨taskId, masterInstanceId taskId, staged.length, duplicates, .partly, entry.cursor⟩

/-- The entry of an instance is missing, or counts other events than the log holds. -/
def needsRepair (entry : Option CollectionEntry) (count : Nat) : Bool :=
  match entry with
  | none => true
  | some entry => entry.eventCount != count || entry.cursor.isNone

/-- What `recover` does for an instance that the log names (`usage.py:353-384`). -/
def repairEntry (world : UsageWorld) (taskId : Identifier) (log : List UsageEvent)
    (repaired : (Identifier → Option CollectionEntry) × Bool) (instanceId : Identifier) :
    Outcome ((Identifier → Option CollectionEntry) × Bool) := do
  let entry := repaired.1 instanceId
  let events := log.filter (·.instanceId == instanceId)
  if needsRepair entry events.length then do
    let agentType ←
      match world.findInstance taskId instanceId with
      | some found => Except.ok found.agentType
      | none =>
          if instanceId = masterInstanceId taskId then
            .ok .master
          else
            .error (.harness ⟨.validationError,
              "Usage recovery found an event for an unknown instance.",
              [("instance_id", .text instanceId)]⟩)
    return (Function.update repaired.1 instanceId (some
      { agentType := agentType
        status := .partly
        eventCount := events.length
        cursor := entry.bind CollectionEntry.cursor <|>
          events.getLast?.map UsageEvent.eventId
        lastCheckedAt := world.now
        source := .recovery }), true)
  else
    return repaired

/-- What `recover` does for a task. -/
def recoverTask (world : UsageWorld) (taskId : Identifier) : UsageScript Unit := do
  let log ← Script.read fun disk : UsageDisk => disk.logs taskId
  let stored ← Script.read fun disk : UsageDisk => (disk.states taskId).isSome
  if log.isEmpty && !stored then
    return ()
  else do
    let state ← Script.read (readState world.now taskId)
    let (instances, changed) ← Script.lift ((log.map UsageEvent.instanceId).eraseDups.foldlM
      (repairEntry world taskId log) (state.instances, false))
    if changed then
      Script.write (.state taskId ⟨instances, world.now⟩)
    else
      return ()

/-- `recover` (`usage.py:336-390`). -/
def recover (world : UsageWorld) : UsageScript Unit :=
  Script.forEach (recoverTask world) world.taskDirectories

/-! ## Summary -/

/-- `_token_totals` (`usage.py:481-483`). -/
def tokenTotals (events : List UsageEvent) (field : TokenField) : Nat :=
  (events.map fun event => event.tokens field).sum

inductive CostCompleteness where
  | unknown
  | partly
  | complete
  deriving DecidableEq, Repr

structure CostSummary where
  completeness : CostCompleteness
  knownMicros : Nat
  pricedEventCount : Nat
  unpricedEventCount : Nat
  priceCatalogRevisions : List Identifier
  deriving DecidableEq, Repr

/-- `_cost_summary` (`usage.py:485-501`). -/
def costSummary (events : List UsageEvent) : CostSummary :=
  let reported := events.filter (·.costMicros.isSome)
  { completeness :=
      if events.isEmpty || reported.isEmpty then .unknown
      else if reported.length = events.length then .complete
      else .partly
    knownMicros := (reported.map fun event => event.costMicros.getD 0).sum
    pricedEventCount := reported.length
    unpricedEventCount := events.length - reported.length
    priceCatalogRevisions :=
      (reported.filterMap UsageEvent.priceCatalogRevision).dedup.insertionSort (· ≤ ·) }

/-- `by_model` and `by_hour`, sorted by their keys. -/
def groupedBy (key : UsageEvent → String) (events : List UsageEvent) :
    List (String × List UsageEvent) :=
  ((events.map key).dedup.insertionSort (· ≤ ·)).map fun k =>
    (k, events.filter fun event => key event = k)

structure InstanceUsage where
  instanceId : Identifier
  agentType : UsageAgentType
  completeness : Completeness
  eventCount : Nat
  tokens : TokenField → Nat
  cost : CostSummary
  lastCheckedAt : Option Timestamp

structure ModelUsage where
  model : String
  eventCount : Nat
  tokens : TokenField → Nat
  cost : CostSummary

structure HourUsage where
  hour : String
  eventCount : Nat
  tokens : TokenField → Nat

/-- What `summary` returns. -/
structure UsageSummary where
  taskId : Identifier
  instanceId : Option Identifier
  completeness : Completeness
  eventCount : Nat
  tokens : TokenField → Nat
  cost : CostSummary
  instances : List InstanceUsage
  models : List ModelUsage
  timeBuckets : List HourUsage
  events : List UsageEvent

/-- A row of `instances` (`usage.py:272-294`). -/
def instanceUsage (state : UsageState) (events : List UsageEvent) (target : UsageInstance) :
    InstanceUsage :=
  let rows := events.filter (·.instanceId == target.instanceId)
  let collection := state.instances target.instanceId
  { instanceId := target.instanceId
    agentType := target.agentType
    completeness :=
      match collection with
      | some entry => entry.status
      | none => if rows.isEmpty then .notReported else .partly
    eventCount := rows.length
    tokens := tokenTotals rows
    cost := costSummary rows
    lastCheckedAt := collection.map CollectionEntry.lastCheckedAt }

/-- The instances of the plan, with the Master once it has an entry. -/
def plannedInstances (world : UsageWorld) (taskId : Identifier) (state : UsageState)
    (instanceId : Option Identifier) : List UsageInstance :=
  let planned := (world.plan taskId).getD []
  let planned :=
    if (state.instances (masterInstanceId taskId)).isSome then
      planned ++ [⟨taskId, masterInstanceId taskId, .master, .running⟩]
    else planned
  match instanceId with
  | none => planned
  | some instanceId => planned.filter (·.instanceId == instanceId)

/-- `completeness` of a summary (`usage.py:295-301`). -/
def overallCompleteness (rows : List InstanceUsage) (events : List UsageEvent) : Completeness :=
  if !rows.isEmpty && rows.all (·.completeness == .complete) then .complete
  else if !events.isEmpty || rows.any (·.completeness != .notReported) then .partly
  else .notReported

/-- The instance that a summary is limited to exists. -/
def checkInstance (world : UsageWorld) (taskId : Identifier) :
    Option Identifier → Outcome Unit
  | none => .ok ()
  | some instanceId => do
      let _ ← findInstance world taskId instanceId
      return ()

/-- `summary` (`usage.py:243-334`). -/
def summary (world : UsageWorld) (taskId : Identifier) (instanceId : Option Identifier)
    (disk : UsageDisk) : Outcome UsageSummary := do
  ensure (world.hasTask taskId = true) taskMissing
  checkInstance world taskId instanceId
  let events := (disk.logs taskId).filter fun event =>
    instanceId.all fun instanceId => event.instanceId == instanceId
  let state := readState world.now taskId disk
  let rows := (plannedInstances world taskId state instanceId).map (instanceUsage state events)
  return {
    taskId := taskId
    instanceId := instanceId
    completeness := overallCompleteness rows events
    eventCount := events.length
    tokens := tokenTotals events
    cost := costSummary events
    instances := rows
    models := (groupedBy UsageEvent.model events).map fun group =>
      ⟨group.1, group.2.length, tokenTotals group.2, costSummary group.2⟩
    timeBuckets := (groupedBy UsageEvent.hour events).map fun group =>
      ⟨group.1, group.2.length, tokenTotals group.2⟩
    events := events }

end UsageService

end DesignHarness
