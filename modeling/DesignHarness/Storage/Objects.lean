import DesignHarness.Services.Records
import DesignHarness.Domain.Service
import DesignHarness.Library.EventStore

/-!
# The objects of the state store

`FileStateStore` (`store.py`) keeps the objects of a task as an event store: `ObjectKey` names an
object by its type and id, `Payload` is the contract type of its snapshots, and `EventInfo` is what
an event records beside the snapshot.  The model is about one task, so its id is left out of every
key, and the objects that exist once for a task (task, plan, retry budget) have no id.
-/

namespace DesignHarness

open Library

/-- `object_type` and `object_id`. -/
inductive ObjectKey where
  | task
  | plan
  | stage (stageId : Identifier)
  | agentInstance (instanceId : Identifier)
  | approval (approvalId : Identifier)
  | inbox (inboxId : Identifier)
  | retryBudget
  | taskIntake
  | taskNavigation
  | masterThread
  | masterMessage (messageId : Identifier)
  | planProposal (proposalId : Identifier)
  deriving DecidableEq, Repr

namespace ObjectKey

/-- `repository.object_type`. -/
def objectType : ObjectKey → String
  | task => "task"
  | plan => "plan"
  | stage _ => "stage"
  | agentInstance _ => "instance"
  | approval _ => "approval"
  | inbox _ => "inbox"
  | retryBudget => "retry_budget"
  | taskIntake => "task_intake"
  | taskNavigation => "task_navigation"
  | masterThread => "master_thread"
  | masterMessage _ => "master_message"
  | planProposal _ => "plan_proposal"

/-- `object_id`; the single objects of a task carry the task id. -/
def objectId (taskId : Identifier) : ObjectKey → Identifier
  | stage objectId | agentInstance objectId | approval objectId | inbox objectId
  | masterMessage objectId | planProposal objectId => objectId
  | _ => taskId

/-- `path.name`. -/
def fileName : ObjectKey → String
  | task => "task.json"
  | plan => "plan.json"
  | retryBudget => "retry-budget.json"
  | taskIntake => "task-intake.json"
  | taskNavigation => "task-navigation.json"
  | masterThread => "thread.json"
  | stage objectId | agentInstance objectId | approval objectId | inbox objectId
  | masterMessage objectId | planProposal objectId => objectId ++ ".json"

def stageId? : ObjectKey → Option Identifier
  | stage stageId => some stageId
  | _ => none

def instanceId? : ObjectKey → Option Identifier
  | agentInstance instanceId => some instanceId
  | _ => none

def inboxId? : ObjectKey → Option Identifier
  | inbox inboxId => some inboxId
  | _ => none

end ObjectKey

/-- The contract type of the snapshots of an object; an object with an id is stored under the id
    in its payload.  The services modelled here never look into a task intake, the navigation
    metadata or the records of the Master, so these are texts. -/
abbrev Payload : ObjectKey → Type
  | .task => MainTask
  | .plan => Plan
  | .stage stageId => { stage : Stage // stage.stageId = stageId }
  | .agentInstance instanceId => { item : AgentInstance // item.instanceId = instanceId }
  | .approval approvalId => { approval : Approval // approval.approvalId = approvalId }
  | .inbox inboxId => { item : InboxItem // item.inboxId = inboxId }
  | .retryBudget => RetryBudget
  | .taskIntake | .taskNavigation | .masterThread | .masterMessage _ | .planProposal _ => String

instance : ∀ key, DecidableEq (Payload key)
  | .task => inferInstanceAs (DecidableEq MainTask)
  | .plan => inferInstanceAs (DecidableEq Plan)
  | .stage stageId => inferInstanceAs (DecidableEq { stage : Stage // stage.stageId = stageId })
  | .agentInstance instanceId =>
      inferInstanceAs (DecidableEq { item : AgentInstance // item.instanceId = instanceId })
  | .approval approvalId =>
      inferInstanceAs (DecidableEq { approval : Approval // approval.approvalId = approvalId })
  | .inbox inboxId => inferInstanceAs (DecidableEq { item : InboxItem // item.inboxId = inboxId })
  | .retryBudget => inferInstanceAs (DecidableEq RetryBudget)
  | .taskIntake | .taskNavigation | .masterThread | .masterMessage _ | .planProposal _ =>
      inferInstanceAs (DecidableEq String)

/-- The contract that a repository checks its payloads against, when the model knows it. -/
def validatePayload : ∀ key, Payload key → Outcome Unit
  | .task, task => validateContract "main-task" (MainTask.accepted task)
  | .plan, plan => validateContract "task-plan" (Plan.accepted plan)
  | .stage _, stage => validateContract "stage" stage.val.accepted
  | .agentInstance _, item => validateContract "agent-instance" item.val.accepted
  | _, _ => .ok ()

/-- The request behind a `request_sha256`: two requests have the same digest when they are
    equal. -/
inductive Request where
  | command (request : Command)
  | configureRetryBudget (policy : RetryPolicy) (expectedRevision : Nat)
  | reserveRetry (request : RetryRequest)
  | resolveBudgetApproval (resolution : BudgetResolution)
  | consumeBudgetOverride (attemptId : Identifier)
  | settleRetry (request : SettleRequest)
  | resolveApproval (approvalId : Identifier) (decision : Verdict)
  | updateInboxStatus (inboxId : Identifier) (target : InboxStatus)
  deriving DecidableEq, Repr

/-- A `command_result`. -/
inductive ServiceResult where
  | command (result : CommandResult)
  | budget (budget : RetryBudget)
  | retryDecision (decision : RetryDecision)
  | preparedResolution (approvalId attemptId : Identifier) (budgetRevision : Nat)
  | budgetResolution (approval : Approval) (approvalRevision : Nat) (attempt : RetryAttempt)
      (budgetRevision : Nat)
  | attempt (attempt : RetryAttempt)
  | settlement (attempt : RetryAttempt) (ledger : RetryLedger) (budgetRevision : Option Nat)
  | approval (approval : Approval) (approvalRevision : Nat)
  | inbox (item : InboxItem) (inboxRevision : Nat)
  deriving DecidableEq, Repr

/-- `Actor` (`repository.py:27-33`). -/
structure Actor where
  actorType : ActorType
  actorId : Identifier
  deriving DecidableEq, Repr

/-- `_actor(envelope)`. -/
def CommandEnvelope.actor (envelope : CommandEnvelope) : Actor :=
  ⟨envelope.actorType, envelope.actorId⟩

/-- `command_result` and `request_sha256`, which are committed together. -/
structure CommittedResult where
  digest : Request
  value : ServiceResult
  deriving DecidableEq, Repr

/-- What an event records beside its object and snapshot. -/
structure EventInfo where
  actor : Actor
  command : String
  idempotencyKey : String
  result : Option CommittedResult := none
  deriving DecidableEq, Repr

/-! ## The store -/

/-- A file of the idempotency registry (`idempotency.py:87-94`). -/
structure IdempotencyRecord where
  command : String
  digest : Request
  result : ServiceResult
  deriving DecidableEq, Repr

/-- The `request.json` of an approval: what the services read of it. -/
structure ApprovalContext where
  attemptId : Option Identifier
  deniedGates : List Gate
  deriving DecidableEq, Repr

/-- The files beside the journal and the snapshots: the idempotency registry, the requests of
    the approvals, the registered model-call attempts with their instances, and the activity
    sequence. -/
structure SideFiles where
  registry : AList fun _ : String => IdempotencyRecord
  approvalRequests : AList fun _ : Identifier => ApprovalContext
  modelCalls : AList fun _ : Identifier => Identifier
  sequence : Nat

abbrev TaskEvent := Event ObjectKey Payload EventInfo

abbrev TaskStore := Store ObjectKey Payload EventInfo SideFiles

abbrev TaskWrite := Write ObjectKey Payload EventInfo SideFiles

abbrev TaskScript (α : Type) := Script TaskStore TaskWrite Raised α

/-- The errors of `SnapshotRepository`, `recover_records` and `FileStateStore.recover`. -/
def storeErrors (taskId : Identifier) : StoreErrors ObjectKey Raised where
  conflict key expected actual :=
    revisionConflict expected actual key.objectType (key.objectId taskId)
  corrupted := .runtimeError "interior NDJSON corruption"
  uncommitted key := .runtimeError
    s!"uncommitted {key.objectType} snapshot revision for {key.objectId taskId}"
  ghost key := .runtimeError s!"snapshot without a commit event: {key.fileName}"

namespace TaskStore

/-- The store of a new task directory. -/
def empty : TaskStore := ⟨⟨[], .clean⟩, ∅, ⟨∅, ∅, ∅, 0⟩⟩

/-- What the handlers of `TaskCommandService` read. -/
def taskState (store : TaskStore) : TaskState where
  task := store.payload .task
  taskRevision := store.revision .task
  plan := store.payload .plan
  planRevision := store.revision .plan

end TaskStore

end DesignHarness
