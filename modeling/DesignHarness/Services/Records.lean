import DesignHarness.Domain.Commands

/-!
# Records of approvals, notifications and retry budgets

ApprovalRequest and InboxItem (`contracts/v1/schemas`) and the snapshot that
`RetryBudgetService` keeps for a task (`retry_budget.py`).  Fields that are dictionaries in the
source are structures or, where a service only copies them, one opaque text.
-/

namespace DesignHarness

/-- `kind` of an ApprovalRequest. -/
inductive ApprovalKind where
  | workflow
  | budgetOverride
  | assetDeletion
  | deliveryReview
  deriving DecidableEq, Repr

/-- `status` of an ApprovalRequest. -/
inductive ApprovalStatus where
  | pending
  | approved
  | rejected
  | cancelled
  deriving DecidableEq, Repr

/-- `resolved_at`, `resolved_by_type` and `resolved_by_id`, which come and go together. -/
structure ApprovalResolution where
  resolvedAt : Timestamp
  resolvedByType : ActorType
  resolvedById : Identifier
  deriving DecidableEq, Repr

/-- `ApprovalRequest` (`approval-request.schema.json`). -/
structure Approval where
  approvalId : Identifier
  taskId : Identifier
  instanceId : Identifier
  stepId : Identifier
  kind : ApprovalKind
  owner : ApprovalMode
  status : ApprovalStatus
  payloadRef : String
  createdAt : Timestamp
  sequence : Nat
  revision : Nat
  resolution : Option ApprovalResolution
  deriving DecidableEq, Repr

/-- `status` of an InboxItem. -/
inductive InboxStatus where
  | unread
  | read
  | handled
  deriving DecidableEq, Repr

/-- Who read or handled a notification, and when. -/
structure InboxMark where
  markedAt : Timestamp
  actorType : ActorType
  actorId : Identifier
  deriving DecidableEq, Repr

/-- `InboxItem` (`inbox-item.schema.json`). -/
structure InboxItem where
  inboxId : Identifier
  taskId : Identifier
  instanceId : Option Identifier
  approvalId : Option Identifier
  kind : String
  owner : ApprovalMode
  status : InboxStatus
  title : String
  message : String
  deepLink : String
  createdAt : Timestamp
  sequence : Nat
  revision : Nat
  dedupeKey : String
  readMark : Option InboxMark
  handledMark : Option InboxMark
  deriving DecidableEq, Repr

/-! ## Retry budgets -/

/-- `retry_token_reservation_by_agent`. -/
structure TokenReservations where
  general : Option Nat := none
  image : Option Nat := none
  ppt : Option Nat := none
  master : Option Nat := none
  deriving DecidableEq, Repr

def TokenReservations.get (reservations : TokenReservations) : AgentType → Option Nat
  | .general => reservations.general
  | .image => reservations.image
  | .ppt => reservations.ppt

/-- `RetryPolicy` (`retry_budget.py:21-42`). -/
structure RetryPolicy where
  maxAutoRetriesPerRetryGroup : Nat := 0
  maxAutoRetryTokensTask : Nat := 0
  retryTokenReservationByAgent : TokenReservations := {}
  maxAutoRetryCostMicros : Option Nat := none
  priceCatalogRevision : Option String := none
  deriving DecidableEq, Repr

/-- The bounds of the model: at most 100 retries of a group, positive reservations. -/
def RetryPolicy.accepted (policy : RetryPolicy) : Bool :=
  decide (policy.maxAutoRetriesPerRetryGroup ≤ 100) &&
    [policy.retryTokenReservationByAgent.general, policy.retryTokenReservationByAgent.image,
      policy.retryTokenReservationByAgent.ppt,
      policy.retryTokenReservationByAgent.master].all (·.all fun tokens => decide (0 < tokens))

/-- `retry_budget_ledger`. -/
structure RetryLedger where
  retryTokensReserved : Nat := 0
  retryTokensSettled : Nat := 0
  retryCostMicrosReserved : Nat := 0
  retryCostMicrosSettled : Option Nat := some 0
  unknownCostSettlements : Nat := 0
  frozen : Bool := false
  frozenReason : Option String := none
  deriving DecidableEq, Repr

/-- `status` of a retry attempt. -/
inductive AttemptStatus where
  | pendingApproval
  | reserved
  | authorized
  | cancelled
  | settled
  | exceeded
  deriving DecidableEq, Repr

/-- The decision of a human on an approval. -/
inductive Verdict where
  | approved
  | rejected
  deriving DecidableEq, Repr

/-- The one-shot limits of a budget override: `payload` of `resolve_approval`.  A limit that is
    present may be null. -/
structure OverrideLimits where
  tokenLimit : Option (Option Nat) := none
  costLimitMicros : Option (Option Nat) := none
  deriving DecidableEq, Repr

/-- The arguments of `RetryBudgetService.resolve_approval`, which `_resolution_digest` hashes. -/
structure BudgetResolution where
  approvalId : Identifier
  decision : Verdict
  action : Option String
  payload : OverrideLimits
  deriving DecidableEq, Repr

/-- `pending_resolution` of an attempt: the digest it stores is that of `request`. -/
structure PendingResolution where
  request : BudgetResolution
  envelope : CommandEnvelope
  preparedAt : Timestamp
  deriving DecidableEq, Repr

/-- `resolved_at`, `resolved_by` and `resolution` of an attempt. -/
structure AttemptResolution where
  resolvedAt : Timestamp
  envelope : CommandEnvelope
  deriving DecidableEq, Repr

/-- An entry of `attempts`. -/
structure RetryAttempt where
  attemptId : Identifier
  retryGroupId : Identifier
  retryOfAttemptId : Identifier
  rootAttemptId : Identifier
  rootInstanceId : Identifier
  instanceId : Identifier
  agentType : AgentType
  status : AttemptStatus
  reservedTokens : Option Nat
  reservedCostMicros : Option Nat
  priceCatalogRevision : Option String
  approvalId : Option Identifier
  deniedGates : List Gate
  overrideConsumedAt : Option Timestamp := none
  actualTokens : Option Nat := none
  actualCostMicros : Option Nat := none
  createdAt : Timestamp
  settledAt : Option Timestamp := none
  pendingResolution : Option PendingResolution := none
  resolution : Option AttemptResolution := none
  deriving DecidableEq, Repr

/-- The snapshot of the `retry_budget` object (`_initial_snapshot`). -/
structure RetryBudget where
  taskId : Identifier
  revision : Nat
  retryPolicy : RetryPolicy
  ledger : RetryLedger
  attempts : List RetryAttempt
  createdAt : Timestamp
  updatedAt : Timestamp
  deriving DecidableEq, Repr

/-- The arguments of `request_retry`. -/
structure RetryRequest where
  instanceId : Identifier
  attemptId : Identifier
  retryOfAttemptId : Identifier
  reservationTokens : Option Nat := none
  estimatedCostMicros : Option Nat := none
  priceCatalogRevision : Option String := none
  deriving DecidableEq, Repr

/-- The result of `request_retry`. -/
structure RetryDecision where
  allowed : Bool
  instanceId : Identifier
  attempt : RetryAttempt
  deniedGates : List Gate
  approvalId : Option Identifier
  budgetRevision : Nat
  ledger : RetryLedger
  deriving DecidableEq, Repr

/-- The arguments of `settle`. -/
structure SettleRequest where
  attemptId : Identifier
  actualTokens : Nat
  actualCostMicros : Option Nat
  deriving DecidableEq, Repr

end DesignHarness
