import DesignHarness.Library.Sums
import DesignHarness.Services.Approvals

/-!
# The retry budget service

`RetryBudgetService` (`retry_budget.py`): every operation runs under the lock of its task, reads
the budget snapshot, decides and commits the next snapshot with its result.  What an operation
decides is a pure function of the snapshot; the scripts around it read and commit.
-/

namespace DesignHarness

open Library

/-- `_initial_snapshot` (`retry_budget.py:844-864`). -/
def RetryBudget.initial (taskId : Identifier) (now : Timestamp) : RetryBudget where
  taskId := taskId
  revision := 0
  retryPolicy := {}
  ledger := {}
  attempts := []
  createdAt := now
  updatedAt := now

namespace RetryBudget

/-- `_attempt` (`retry_budget.py:866-874`). -/
def attempt (budget : RetryBudget) (attemptId : Identifier) : Outcome RetryAttempt :=
  match budget.attempts.find? (·.attemptId = attemptId) with
  | none => raiseHarness .validationError "The retry attempt does not exist."
  | some found => .ok found

/-- The next snapshot, with an attempt changed in place. -/
def withAttempt (budget : RetryBudget) (updated : RetryAttempt) (ledger : RetryLedger)
    (now : Timestamp) : RetryBudget :=
  { budget with
    revision := budget.revision + 1
    attempts := replaceFirst RetryAttempt.attemptId updated budget.attempts
    ledger := ledger
    updatedAt := now }

/-- The next snapshot, with an attempt appended. -/
def addAttempt (budget : RetryBudget) (added : RetryAttempt) (ledger : RetryLedger)
    (now : Timestamp) : RetryBudget :=
  { budget with
    revision := budget.revision + 1
    attempts := budget.attempts ++ [added]
    ledger := ledger
    updatedAt := now }

end RetryBudget

/-- `{"RESERVED", "SETTLED", "EXCEEDED"}`. -/
def AttemptStatus.isCounted : AttemptStatus → Bool
  | reserved | settled | exceeded => true
  | _ => false

/-- `{"SETTLED", "EXCEEDED"}`. -/
def AttemptStatus.isSettled : AttemptStatus → Bool
  | settled | exceeded => true
  | _ => false

/-- The cost gate under a cost limit. -/
def costGate (ledger : RetryLedger) (policy : RetryPolicy) (limit : Nat)
    (estimatedCostMicros : Option Nat) (priceCatalogRevision : Option String) : List Gate :=
  match estimatedCostMicros with
  | none => [.costUnknown ledger.retryCostMicrosSettled ledger.retryCostMicrosReserved none limit
      policy.priceCatalogRevision]
  | some estimated =>
      if priceCatalogRevision = none ∨ priceCatalogRevision ≠ policy.priceCatalogRevision then
        [.costUnknown ledger.retryCostMicrosSettled ledger.retryCostMicrosReserved
          (some estimated) limit policy.priceCatalogRevision]
      else
        match ledger.retryCostMicrosSettled with
        | none => [.costUnknown none ledger.retryCostMicrosReserved (some estimated) limit
            policy.priceCatalogRevision]
        | some settled =>
            if settled + ledger.retryCostMicrosReserved + estimated > limit then
              [.costLimit settled ledger.retryCostMicrosReserved estimated limit
                policy.priceCatalogRevision]
            else []

/-- The token gate. -/
def tokenGate (ledger : RetryLedger) (policy : RetryPolicy) (requestedTokens : Option Nat) :
    List Gate :=
  match requestedTokens with
  | none => [.tokenBoundUnknown ledger.retryTokensSettled ledger.retryTokensReserved
      policy.maxAutoRetryTokensTask]
  | some requested =>
      if ledger.retryTokensSettled + ledger.retryTokensReserved + requested >
          policy.maxAutoRetryTokensTask then
        [.tokenLimit ledger.retryTokensSettled ledger.retryTokensReserved requested
          policy.maxAutoRetryTokensTask]
      else []

namespace RetryBudget

/-- The counted attempts of a retry group. -/
def groupCount (budget : RetryBudget) (retryGroupId : Identifier) : Nat :=
  budget.attempts.countP fun item =>
    item.retryGroupId = retryGroupId && item.status.isCounted

/-- `_gates` (`retry_budget.py:715-815`). -/
def gates (budget : RetryBudget) (retryGroupId : Identifier) (requestedTokens : Option Nat)
    (estimatedCostMicros : Option Nat) (priceCatalogRevision : Option String) : List Gate :=
  let policy := budget.retryPolicy
  let groupCount := budget.groupCount retryGroupId
  (if groupCount + 1 > policy.maxAutoRetriesPerRetryGroup then
    [Gate.retryCount groupCount 1 policy.maxAutoRetriesPerRetryGroup] else []) ++
  tokenGate budget.ledger policy requestedTokens ++
  policy.maxAutoRetryCostMicros.elim [] (fun limit =>
    costGate budget.ledger policy limit estimatedCostMicros priceCatalogRevision) ++
  (if budget.ledger.frozen then [Gate.ledgerFrozen budget.ledger.frozenReason] else [])

end RetryBudget

/-- `RetryLineage` (`retry_lineage.py:13-17`). -/
structure RetryLineage where
  rootAttemptId : Identifier
  rootInstanceId : Identifier
  retryGroupId : Identifier
  deriving DecidableEq, Repr

/-- `_registered_root_attempt` (`retry_lineage.py:96-117`). -/
def requireRegisteredRoot (modelCalls : AList fun _ : Identifier => Identifier)
    (instanceId attemptId : Identifier) : Outcome Unit :=
  match modelCalls.lookup attemptId with
  | none => raiseHarness .validationError
      "The retry root is not a registered model-call attempt."
  | some owner => ensure (owner = instanceId) (.harness ⟨.validationError,
      "The retry root does not belong to the requested task and instance.", []⟩)

/-- `_derived_retry_group_id` (`retry_lineage.py:128-133`). -/
def retryGroupId (rootAttemptId : Identifier) : Identifier := "retry_group_" ++ rootAttemptId

/-- `RetryLineageAuthority.resolve` (`retry_lineage.py:26-50`); every attempt of the snapshot
    records its root. -/
def resolveLineage (budget : RetryBudget) (modelCalls : AList fun _ : Identifier => Identifier)
    (instanceId retryOfAttemptId : Identifier) : Outcome RetryLineage := do
  match dictGet RetryAttempt.attemptId budget.attempts retryOfAttemptId with
  | none => do
      requireRegisteredRoot modelCalls instanceId retryOfAttemptId
      return ⟨retryOfAttemptId, instanceId, retryGroupId retryOfAttemptId⟩
  | some parent => do
      requireRegisteredRoot modelCalls parent.rootInstanceId parent.rootAttemptId
      ensure (parent.retryGroupId = retryGroupId parent.rootAttemptId) (.harness
        ⟨.validationError, "The registered retry lineage has an invalid retry group.", []⟩)
      return ⟨parent.rootAttemptId, parent.rootInstanceId, retryGroupId parent.rootAttemptId⟩

/-! ## Decisions -/

/-- A command that the lock protects: what it makes of the snapshot, and its result. -/
abbrev BudgetDecision := Outcome (RetryBudget × ServiceResult)

/-- What `configure` commits (`retry_budget.py:86-112`). -/
def configureBudget (budget : RetryBudget) (policy : RetryPolicy) (expectedRevision : Nat)
    (now : Timestamp) : BudgetDecision := do
  ensure (budget.revision = expectedRevision) (.harness ⟨.revisionConflict,
    "The retry budget revision changed before the command committed.",
    [("expected_revision", .number expectedRevision), ("actual_revision", .number budget.revision)]⟩)
  let updated : RetryBudget :=
    { budget with revision := budget.revision + 1, retryPolicy := policy, updatedAt := now }
  return (updated, .budget updated)

/-- `requested_tokens`: the configured reservation, else the one asked for. -/
def requestedTokens (budget : RetryBudget) (agentType : AgentType)
    (reservationTokens : Option Nat) : Outcome (Option Nat) := do
  let configured := budget.retryPolicy.retryTokenReservationByAgent.get agentType
  ensure (configured = none ∨ reservationTokens = none ∨ reservationTokens = configured) (.harness
    ⟨.validationError, "A retry cannot override the configured Agent Token reservation.", []⟩)
  return configured.or reservationTokens

/-- The attempt that `request_retry` records. -/
def RetryRequest.attempt (request : RetryRequest) (lineage : RetryLineage) (agentType : AgentType)
    (tokens : Option Nat) (gates : List Gate) (now : Timestamp) : RetryAttempt where
  attemptId := request.attemptId
  retryGroupId := lineage.retryGroupId
  retryOfAttemptId := request.retryOfAttemptId
  rootAttemptId := lineage.rootAttemptId
  rootInstanceId := lineage.rootInstanceId
  instanceId := request.instanceId
  agentType := agentType
  status := if gates = [] then .reserved else .pendingApproval
  reservedTokens := some (tokens.getD 0)
  reservedCostMicros := request.estimatedCostMicros
  priceCatalogRevision := request.priceCatalogRevision
  approvalId := if gates = [] then none
    else some (budgetApprovalId request.instanceId request.attemptId)
  deniedGates := gates
  createdAt := now

/-- The ledger after a grant or the consumption of an override; an unknown cost adds nothing. -/
def RetryLedger.reserve (ledger : RetryLedger) (tokens : Nat) (costMicros : Option Nat) :
    RetryLedger :=
  { ledger with
    retryTokensReserved := ledger.retryTokensReserved + tokens
    retryCostMicrosReserved := ledger.retryCostMicrosReserved + costMicros.getD 0 }

/-- What `request_retry` commits once the retry is new and its lineage known
    (`retry_budget.py:189-259`).  A retry without a token amount has a gate. -/
def decideRetry (budget : RetryBudget) (request : RetryRequest) (agentType : AgentType)
    (lineage : RetryLineage) (now : Timestamp) : Outcome (RetryBudget × RetryDecision) := do
  let tokens ← requestedTokens budget agentType request.reservationTokens
  let gates := budget.gates lineage.retryGroupId tokens request.estimatedCostMicros
    request.priceCatalogRevision
  let attempt := request.attempt lineage agentType tokens gates now
  let ledger := if gates = [] then
      budget.ledger.reserve (tokens.getD 0) request.estimatedCostMicros else budget.ledger
  let updated := budget.addAttempt attempt ledger now
  return (updated,
    { allowed := gates = []
      instanceId := request.instanceId
      attempt := attempt
      deniedGates := gates
      approvalId := attempt.approvalId
      budgetRevision := updated.revision
      ledger := ledger })

/-- The checks of `request_retry` before it reads the lineage, and the lineage
    (`retry_budget.py:177-188`). -/
def checkRetry (budget : RetryBudget) (modelCalls : AList fun _ : Identifier => Identifier)
    (request : RetryRequest) : Outcome RetryLineage := do
  ensure (∀ item ∈ budget.attempts, item.attemptId ≠ request.attemptId) (.harness
    ⟨.idempotencyConflict, "The retry attempt id already belongs to another request.", []⟩)
  ensure ((modelCalls.lookup request.attemptId).isNone) (.harness ⟨.idempotencyConflict,
    "The retry attempt id already belongs to a registered model call.", []⟩)
  resolveLineage budget modelCalls request.instanceId request.retryOfAttemptId

/-- An attempt with a decision that is being committed. -/
def RetryAttempt.prepared (attempt : RetryAttempt) (pending : PendingResolution) : RetryAttempt :=
  { attempt with pendingResolution := some pending }

/-- What `resolve_approval` prepares (`retry_budget.py:376-390`). -/
def prepareResolution (budget : RetryBudget) (attempt : RetryAttempt)
    (resolution : BudgetResolution) (envelope : CommandEnvelope) (now : Timestamp) : RetryBudget :=
  budget.withAttempt (attempt.prepared ⟨resolution, envelope, now⟩) budget.ledger now

/-- The attempt after its decision (`retry_budget.py:647-664`). -/
def RetryAttempt.resolved (attempt : RetryAttempt) (pending : PendingResolution)
    (now : Timestamp) : RetryAttempt :=
  match pending.request.decision with
  | .approved =>
      { attempt with
        status := .authorized
        reservedTokens := pending.request.payload.tokenLimit.getD attempt.reservedTokens
        reservedCostMicros := pending.request.payload.costLimitMicros.getD attempt.reservedCostMicros
        pendingResolution := none
        resolution := some ⟨now, pending.envelope⟩ }
  | .rejected =>
      { attempt with
        status := .cancelled
        pendingResolution := none
        resolution := some ⟨now, pending.envelope⟩ }

/-- An attempt whose override is consumed. -/
def RetryAttempt.consumed (attempt : RetryAttempt) (now : Timestamp) : RetryAttempt :=
  { attempt with status := .reserved, overrideConsumedAt := some now }

/-- What `consume_override` commits (`retry_budget.py:427-447`); `int(None)` is a `TypeError`. -/
def consumeBudget (budget : RetryBudget) (attempt : RetryAttempt) (now : Timestamp) :
    BudgetDecision := do
  ensure (attempt.status = .authorized) (.harness
    ⟨.invalidStateTransition, "The one-shot retry override is not available.", []⟩)
  match attempt.reservedTokens with
  | none => .error .typeError
  | some tokens =>
      let ledger := budget.ledger.reserve tokens attempt.reservedCostMicros
      return (budget.withAttempt (attempt.consumed now) ledger now,
        .attempt (attempt.consumed now))

/-- The settlement went over a bound that was reserved. -/
def exceedsReservation (reservedTokens : Nat) (reservedCostMicros : Option Nat)
    (request : SettleRequest) : Bool :=
  request.actualTokens > reservedTokens ||
    (match reservedCostMicros, request.actualCostMicros with
      | some reserved, some actual => actual > reserved
      | _, _ => false)

/-- The ledger after a settlement (`retry_budget.py:530-557`); `max(0, a - b)` is the truncated
    difference. -/
def RetryLedger.settle (ledger : RetryLedger) (reservedTokens : Nat)
    (reservedCostMicros : Option Nat) (request : SettleRequest) : RetryLedger where
  retryTokensReserved := ledger.retryTokensReserved - reservedTokens
  retryTokensSettled := ledger.retryTokensSettled + request.actualTokens
  retryCostMicrosReserved := match reservedCostMicros with
    | none => ledger.retryCostMicrosReserved
    | some reserved => ledger.retryCostMicrosReserved - reserved
  retryCostMicrosSettled := match request.actualCostMicros with
    | none => none
    | some actual =>
        if ledger.unknownCostSettlements = 0 then
          some (ledger.retryCostMicrosSettled.getD 0 + actual)
        else ledger.retryCostMicrosSettled
  unknownCostSettlements := match request.actualCostMicros with
    | none => ledger.unknownCostSettlements + 1
    | some _ => ledger.unknownCostSettlements
  frozen := ledger.frozen || exceedsReservation reservedTokens reservedCostMicros request
  frozenReason := if exceedsReservation reservedTokens reservedCostMicros request then
    some "ACTUAL_USAGE_EXCEEDED_RESERVATION" else ledger.frozenReason

/-- An attempt with the usage that was settled. -/
def RetryAttempt.settled (attempt : RetryAttempt) (reservedTokens : Nat)
    (request : SettleRequest) (now : Timestamp) : RetryAttempt :=
  { attempt with
    status := if exceedsReservation reservedTokens attempt.reservedCostMicros request then .exceeded
      else .settled
    actualTokens := some request.actualTokens
    actualCostMicros := request.actualCostMicros
    settledAt := some now }

/-- What `settle` commits (`retry_budget.py:526-580`). -/
def settleBudget (budget : RetryBudget) (attempt : RetryAttempt) (request : SettleRequest)
    (now : Timestamp) : BudgetDecision := do
  ensure (attempt.status = .reserved) (.harness
    ⟨.invalidStateTransition, "Only a reserved retry may be settled.", []⟩)
  match attempt.reservedTokens with
  | none => .error .typeError
  | some tokens =>
      let ledger := budget.ledger.settle tokens attempt.reservedCostMicros request
      let settled := attempt.settled tokens request now
      return (budget.withAttempt settled ledger now,
        .settlement settled ledger (some (budget.revision + 1)))

/-! ## Operations -/

section

variable (taskId : Identifier)

/-- `get` (`retry_budget.py:55-59`). -/
def getBudget (now : Timestamp) : TaskScript RetryBudget := do
  let task ← Script.read (Store.payload ObjectKey.task)
  Script.lift (ensure task.isSome (.harness
    ⟨.taskNotFound, "The requested task does not exist.", []⟩))
  let current ← Script.read (Store.payload ObjectKey.retryBudget)
  return current.getD (.initial taskId now)

/-- `_instance` (`retry_budget.py:882-887`). -/
def requireInstance (instanceId : Identifier) : TaskScript AgentInstance := do
  let task ← Script.read (Store.payload ObjectKey.task)
  Script.lift (ensure task.isSome (.harness
    ⟨.taskNotFound, "The requested task does not exist.", []⟩))
  match ← Script.read (Store.payload (ObjectKey.agentInstance instanceId)) with
  | none => Script.raise instanceNotFound
  | some found => do
      Script.lift (ensure (found.val.taskId = taskId) instanceNotFound)
      return found.val

/-- Commit a snapshot with the result of its command. -/
def putBudget (updated : RetryBudget) (actor : Actor) (command key : String)
    (digest : Request) (result : ServiceResult) (now : Timestamp) : TaskScript Unit := do
  let revision ← Script.read (Store.revision ObjectKey.retryBudget)
  let _ ← putObject taskId .retryBudget updated revision
    ⟨actor, command, key, some ⟨digest, result⟩⟩ now

/-- `configure` (`retry_budget.py:61-112`). -/
def configure (policy : RetryPolicy) (expectedRevision : Nat) (key : String) (actor : Actor)
    (now : Timestamp) : TaskScript ServiceResult := do
  Script.lift (ensure (actor.actorType = .human) (.harness
    ⟨.validationError, "Only a human may revise an automatic retry budget.", []⟩))
  Script.lift (ensure (policy.accepted = true) (.harness
    ⟨.validationError, "The automatic retry policy is invalid.", []⟩))
  match ← lookupCommitted taskId key "configure_retry_budget"
      (.configureRetryBudget policy expectedRevision) with
  | some committed => return committed
  | none => do
      let budget ← getBudget taskId now
      let (updated, result) ← Script.lift (configureBudget budget policy expectedRevision now)
      putBudget taskId updated actor "configure_retry_budget" key
        (.configureRetryBudget policy expectedRevision) result now
      return result

/-- `_ensure_denial_approval` (`retry_budget.py:817-832`). -/
def ensureDenialApproval (attempt : RetryAttempt) (now : Timestamp) : TaskScript Unit :=
  ensureBudgetApproval taskId attempt.instanceId attempt.attemptId attempt.deniedGates now

/-- `_raise_denied` (`retry_budget.py:834-842`). -/
def denied (decision : RetryDecision) : Raised :=
  .harness ⟨.budgetGateDenied, "The automatic retry requires a one-shot human budget approval.",
    [("attempt_id", .text decision.attempt.attemptId),
      ("approval_id", decision.approvalId.elim .null .text),
      ("budget_revision", .number decision.budgetRevision), ("gates", .gates decision.deniedGates)]⟩

/-- The end of `request_retry`: a denied retry gets its approval and is refused. -/
def concludeRetry (decision : RetryDecision) (now : Timestamp) : TaskScript RetryDecision := do
  if decision.allowed then
    return decision
  else do
    ensureDenialApproval taskId decision.attempt now
    Script.raise (denied decision)

/-- The checks of `request_retry` before its lock (`retry_budget.py:127-159`). -/
def checkRetryRequest (request : RetryRequest) (actor : Actor) : Outcome Unit := do
  ensure (actor.actorType = .master ∨ actor.actorType = .system) (.harness ⟨.validationError,
    "Automatic retries may only be requested by Master or system.", []⟩)
  ensure (request.attemptId ≠ request.retryOfAttemptId) (.harness
    ⟨.validationError, "A retry attempt cannot point to itself.", []⟩)

/-- `request_retry` (`retry_budget.py:114-265`). -/
def requestRetry (request : RetryRequest) (key : String) (actor : Actor) (now : Timestamp) :
    TaskScript RetryDecision := do
  Script.lift (checkRetryRequest request actor)
  let item ← requireInstance taskId request.instanceId
  Script.lift (ensure (request.reservationTokens ≠ some 0) (.harness
    ⟨.validationError, "Retry Token reservation is invalid.", []⟩))
  match ← lookupCommitted taskId key "reserve_retry" (.reserveRetry request) with
  | some (.retryDecision committed) => concludeRetry taskId committed now
  -- A committed `reserve_retry` always carries a decision.
  | some _ => Script.raise (.keyError "allowed")
  | none => do
      let budget ← getBudget taskId now
      let side ← Script.read Store.side
      let lineage ← Script.lift (checkRetry budget side.modelCalls request)
      let (updated, decision) ← Script.lift (decideRetry budget request item.agentType lineage now)
      putBudget taskId updated actor "reserve_retry" key (.reserveRetry request)
        (.retryDecision decision) now
      concludeRetry taskId decision now

/-- `_handle_resolution_notification` (`retry_budget.py:684-694`). -/
def handleResolutionNotification (approvalId : Identifier) (envelope : CommandEnvelope)
    (now : Timestamp) : TaskScript Unit :=
  handleApprovalNotification taskId approvalId envelope.actor
    ("handle-budget-" ++ envelope.idempotencyKey) now

/-- `{**committed, "attempt": .., "budget_revision": ..}`. -/
def resolutionResult (committed : ServiceResult) (attempt : RetryAttempt)
    (budgetRevision : Nat) : Outcome ServiceResult :=
  match committed with
  | .approval approval approvalRevision =>
      .ok (.budgetResolution approval approvalRevision attempt budgetRevision)
  -- A committed `resolve_approval` always carries the approval.
  | _ => .error (.keyError "approval")

/-- `_finish_pending_resolution` (`retry_budget.py:633-682`). -/
def finishPendingResolution (budget : RetryBudget) (attempt : RetryAttempt) (now : Timestamp) :
    TaskScript ServiceResult := do
  match attempt.pendingResolution with
  | none => Script.raise (.runtimeError "retry budget resolution is not prepared")
  | some pending => do
      let committed ← commitResolution taskId pending.request.approvalId pending.request.decision
        pending.envelope now
      let resolved := attempt.resolved pending now
      let updated := budget.withAttempt resolved budget.ledger now
      let result ← Script.lift (resolutionResult committed resolved updated.revision)
      putBudget taskId updated pending.envelope.actor "resolve_budget_approval"
        ("budget-" ++ pending.envelope.idempotencyKey) (.resolveBudgetApproval pending.request)
        result now
      handleResolutionNotification taskId pending.request.approvalId pending.envelope now
      return result

/-- The checks of the arguments of `resolve_approval` (`retry_budget.py:275-305`). -/
def checkOverride (approval : Approval) (resolution : BudgetResolution) : Outcome Unit := do
  ensure (approval.kind = .budgetOverride) (.harness
    ⟨.validationError, "The approval is not a budget override.", []⟩)
  match resolution.decision with
  | .approved => do
      ensure (resolution.action = some "approve_once") (.harness ⟨.validationError,
        "A budget override only accepts explicit one-shot limits.", []⟩)
      ensure (resolution.payload.tokenLimit ≠ some (some 0)) (.harness
        ⟨.validationError, "A one-shot budget limit is invalid.", []⟩)
  | .rejected =>
      ensure (resolution.action = none ∧ resolution.payload = {}) (.harness ⟨.validationError,
        "A rejected budget override has no action payload.", []⟩)

/-- A gate of the kind was denied. -/
def Gate.isTokenBoundUnknown : Gate → Bool
  | tokenBoundUnknown .. => true
  | _ => false

def Gate.isCostUnknown : Gate → Bool
  | costUnknown .. => true
  | _ => false

/-- The checks of `resolve_approval` before it prepares (`retry_budget.py:340-375`). -/
def checkPreparation {approvalId : Identifier} (details : ApprovalDetails approvalId)
    (attempt : RetryAttempt) (resolution : BudgetResolution) (envelope : CommandEnvelope) :
    Outcome Unit := do
  ensure (details.approval.val.status = .pending ∧ attempt.status = .pendingApproval) (.harness
    ⟨.invalidStateTransition, "The budget approval was already resolved.", []⟩)
  ensure (envelope.actorType = details.approval.val.owner.actorType) (.harness
    ⟨.validationError, "The approval must be resolved by its frozen owner.", []⟩)
  ensure (envelope.expectedRevision = details.approvalRevision) (.harness
    ⟨.revisionConflict, "The approval revision changed before the decision committed.",
      [("expected_revision", .number envelope.expectedRevision),
        ("actual_revision", .number details.approvalRevision)]⟩)
  ensure (¬(resolution.decision = .approved ∧ attempt.deniedGates.any Gate.isTokenBoundUnknown ∧
      resolution.payload.tokenLimit = none)) (.harness ⟨.validationError,
    "This override requires an explicit one-shot Token limit.", []⟩)
  ensure (¬(resolution.decision = .approved ∧ attempt.deniedGates.any Gate.isCostUnknown ∧
      resolution.payload.costLimitMicros = none)) (.harness ⟨.validationError,
    "This override requires an explicit one-shot cost limit.", []⟩)

/-- The part of `resolve_approval` after the lookup (`retry_budget.py:322-402`). -/
def decideResolution (attemptId : Identifier) (resolution : BudgetResolution)
    (envelope : CommandEnvelope) (now : Timestamp) : TaskScript ServiceResult := do
  let budget ← getBudget taskId now
  let attempt ← Script.lift (budget.attempt attemptId)
  Script.lift (ensure (attempt.approvalId = some resolution.approvalId) (.harness
    ⟨.idempotencyConflict, "The approval is not bound to this retry attempt.", []⟩))
  match attempt.pendingResolution with
  | some pending => do
      Script.lift (ensure (pending.request = resolution ∧
          pending.envelope.idempotencyKey = envelope.idempotencyKey) (.harness
        ⟨.idempotencyConflict, "Another human budget decision is already being committed.", []⟩))
      finishPendingResolution taskId budget attempt now
  | none => do
      let details ← getApproval resolution.approvalId
      Script.lift (checkPreparation details attempt resolution envelope)
      let prepared := prepareResolution budget attempt resolution envelope now
      putBudget taskId prepared envelope.actor "prepare_budget_resolution"
        ("budget-prepare-" ++ envelope.idempotencyKey) (.resolveBudgetApproval resolution)
        (.preparedResolution resolution.approvalId attemptId prepared.revision) now
      finishPendingResolution taskId prepared (attempt.prepared ⟨resolution, envelope, now⟩) now

/-- `resolve_approval` (`retry_budget.py:267-402`). -/
def resolveApproval (resolution : BudgetResolution) (envelope : CommandEnvelope)
    (now : Timestamp) : TaskScript ServiceResult := do
  let details ← getApproval resolution.approvalId
  Script.lift (checkOverride details.approval.val resolution)
  match details.payload.attemptId with
  -- `validate_identifier(None, ..)`.
  | none => Script.raise .typeError
  | some attemptId => do
      match ← lookupCommitted taskId ("budget-" ++ envelope.idempotencyKey)
          "resolve_budget_approval" (.resolveBudgetApproval resolution) with
      | some committed => do
          handleResolutionNotification taskId resolution.approvalId envelope now
          return committed
      | none => decideResolution taskId attemptId resolution envelope now

/-- `consume_override` (`retry_budget.py:404-462`). -/
def consumeOverride (attemptId : Identifier) (key : String) (actor : Actor) (now : Timestamp) :
    TaskScript ServiceResult := do
  Script.lift (ensure (actor.actorType = .system) (.harness ⟨.validationError,
    "Only the retry executor may consume a one-shot budget override.", []⟩))
  match ← lookupCommitted taskId key "consume_budget_override" (.consumeBudgetOverride attemptId)
      with
  | some committed => return committed
  | none => do
      let budget ← getBudget taskId now
      let attempt ← Script.lift (budget.attempt attemptId)
      if attempt.status = .reserved ∧ attempt.overrideConsumedAt.isSome then
        return .attempt attempt
      else do
        let (updated, result) ← Script.lift (consumeBudget budget attempt now)
        putBudget taskId updated actor "consume_budget_override" key
          (.consumeBudgetOverride attemptId) result now
        return result

/-- `settle` (`retry_budget.py:464-581`). -/
def settle (request : SettleRequest) (key : String) (actor : Actor) (now : Timestamp) :
    TaskScript ServiceResult := do
  let budget ← getBudget taskId now
  let attempt ← Script.lift (budget.attempt request.attemptId)
  Script.lift (ensure (actor.actorType = .system ∨
      actor.actorType = .adapter ∧ actor.actorId = attempt.agentType.adapterId) (.harness
    ⟨.validationError, "Only the owning Adapter or retry executor may settle retry usage.", []⟩))
  match ← lookupCommitted taskId key "settle_retry" (.settleRetry request) with
  | some committed => return committed
  | none =>
      if attempt.status.isSettled then do
        Script.lift (ensure (attempt.actualTokens = some request.actualTokens ∧
            attempt.actualCostMicros = request.actualCostMicros) (.harness
          ⟨.idempotencyConflict, "The retry attempt was settled with different usage.", []⟩))
        return .settlement attempt budget.ledger none
      else do
        let (updated, result) ← Script.lift (settleBudget budget attempt request now)
        putBudget taskId updated actor "settle_retry" key (.settleRetry request) result now
        return result

/-- The loop of `recover` over the attempts of a task (`retry_budget.py:591-630`). -/
def recoverAttempts (now : Timestamp) : List RetryAttempt → RetryBudget → TaskScript Unit
  | [], _ => return
  | candidate :: rest, budget => do
      let attempt ← Script.lift (budget.attempt candidate.attemptId)
      if attempt.pendingResolution.isSome then do
        let _ ← finishPendingResolution taskId budget attempt now
        let budget ← getBudget taskId now
        recoverAttempts now rest budget
      else if attempt.status = .pendingApproval then do
        ensureDenialApproval taskId attempt now
        recoverAttempts now rest budget
      else
        match attempt.resolution, attempt.approvalId with
        | some resolution, some approvalId => do
            handleResolutionNotification taskId approvalId resolution.envelope now
            recoverAttempts now rest budget
        | _, _ => recoverAttempts now rest budget

/-- `recover` (`retry_budget.py:583-631`) for the task. -/
def recoverBudget (now : Timestamp) : TaskScript Unit := do
  match ← Script.read (Store.payload ObjectKey.retryBudget) with
  | none => return
  | some budget => recoverAttempts taskId now budget.attempts budget

end

end DesignHarness
