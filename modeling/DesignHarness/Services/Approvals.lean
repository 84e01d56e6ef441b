import DesignHarness.Storage.Store

/-!
# Approvals and inbox notifications

The part of `ApprovalInboxService` (`approvals.py`) that the retry budgets use: the deterministic
approval of a denied retry, its resolution, and the notifications beside it.  The ids that the
source cuts from a digest are the texts that the digest is taken of.
-/

namespace DesignHarness

open Library

section

variable (taskId : Identifier)

/-- `_next_sequence` (`approvals.py:887-892`). -/
def nextSequence : TaskScript Nat := do
  let side ← Script.read Store.side
  Script.write (.side { side with sequence := side.sequence + 1 })
  return side.sequence + 1

/-! ## Notifications -/

/-- The arguments of `ensure_notification`. -/
structure NotificationRequest where
  kind : String
  owner : ApprovalMode
  title : String
  message : String
  deepLink : String
  dedupeKey : String
  instanceId : Option Identifier
  approvalId : Option Identifier

/-- `f"in_{digest[:24]}"`. -/
def NotificationRequest.inboxId (request : NotificationRequest) : Identifier :=
  "in_" ++ request.dedupeKey

/-- The item of a new notification. -/
def NotificationRequest.item (request : NotificationRequest) (sequence : Nat)
    (now : Timestamp) : InboxItem where
  inboxId := request.inboxId
  taskId := taskId
  instanceId := request.instanceId
  approvalId := request.approvalId
  kind := request.kind
  owner := request.owner
  status := .unread
  title := request.title
  message := request.message
  deepLink := request.deepLink
  createdAt := now
  sequence := sequence
  revision := 1
  dedupeKey := request.dedupeKey
  readMark := none
  handledMark := none

/-- `ensure_notification` (`approvals.py:372-427`). -/
def ensureNotification (request : NotificationRequest) (now : Timestamp) :
    TaskScript InboxItem := do
  match ← Script.read (Store.payload (ObjectKey.inbox request.inboxId)) with
  | some existing => do
      Script.lift (ensure (existing.val.dedupeKey = request.dedupeKey) (.harness
        ⟨.idempotencyConflict, "The inbox identity belongs to a different notification.", []⟩))
      return existing.val
  | none => do
      let sequence ← nextSequence
      let _ ← putObject taskId (.inbox request.inboxId) ⟨request.item taskId sequence now, rfl⟩ 0
        ⟨⟨.system, "notification_reducer"⟩, "ensure_notification", "ensure-" ++ request.inboxId,
          none⟩ now
      return request.item taskId sequence now

/-- The owner that an actor type names, for the inbox. -/
def ActorType.inboxOwner : ActorType → Option ApprovalMode
  | human => some .human
  | master => some .master
  | _ => none

/-- The actor type of the owner of an approval or a notification. -/
def ApprovalMode.actorType : ApprovalMode → ActorType
  | human => .human
  | master => .master

/-- `(item["created_at"], item["sequence"], item["inbox_id"])`, compared as tuples. -/
def InboxItem.notAfter (first second : InboxItem) : Bool :=
  if first.createdAt ≠ second.createdAt then first.createdAt ≤ second.createdAt
  else if first.sequence ≠ second.sequence then first.sequence ≤ second.sequence
  else first.inboxId ≤ second.inboxId

/-- `list_inbox` (`approvals.py:484-517`) without a status filter, for a valid owner and limit:
    the items with the revisions of their snapshots. -/
def listInbox (owner : ApprovalMode) (limit : Nat) (store : TaskStore) : List (InboxItem × Nat) :=
  let found := (listIds ObjectKey.inboxId? store).filterMap fun inboxId =>
    (store.lookup (.inbox inboxId)).map fun wrapper => (wrapper.payload.val, wrapper.revision)
  ((found.filter fun entry => entry.1.owner = owner).mergeSort fun first second =>
    first.1.notAfter second.1).take limit

/-- A notification after its transition to a status. -/
def InboxItem.marked (item : InboxItem) (target : InboxStatus) (envelope : CommandEnvelope)
    (now : Timestamp) : InboxItem :=
  let mark : InboxMark := ⟨now, envelope.actorType, envelope.actorId⟩
  { item with
    status := target
    revision := item.revision + 1
    readMark := some (item.readMark.getD mark)
    handledMark := if target = .handled then some mark else item.handledMark }

/-- `_task_for_object`: the object has a snapshot in one task. -/
def requireObject (key : ObjectKey) : TaskScript (Wrapper (Payload key)) := do
  match ← Script.read (Store.lookup key) with
  | none => Script.raise (.harness
      ⟨.validationError, "The requested control object is not unique.", []⟩)
  | some wrapper => return wrapper

/-- The checks of `update_inbox_status` before it commits. -/
def checkInboxTransition {inboxId : Identifier} (current : Wrapper (Payload (.inbox inboxId))) (target : InboxStatus)
    (envelope : CommandEnvelope) : Outcome Unit := do
  ensure (target ≠ .unread ∧ current.payload.val.status ≠ .handled) (.harness
    ⟨.invalidStateTransition, "The inbox transition is invalid.", []⟩)
  ensure (envelope.actorType = current.payload.val.owner.actorType) (.harness
    ⟨.validationError, "The inbox item belongs to another owner.", []⟩)
  ensure (envelope.expectedRevision = current.revision) (.harness
    ⟨.revisionConflict, "The inbox revision changed before the command committed.",
      [("expected_revision", .number envelope.expectedRevision),
        ("actual_revision", .number current.revision)]⟩)

/-- `update_inbox_status` (`approvals.py:735-800`) with `enforce_owner`. -/
def updateInboxStatus (inboxId : Identifier) (target : InboxStatus) (envelope : CommandEnvelope)
    (now : Timestamp) : TaskScript ServiceResult := do
  let current ← requireObject (.inbox inboxId)
  match ← lookupCommitted taskId envelope.idempotencyKey "update_inbox_status"
      (.updateInboxStatus inboxId target) with
  | some committed => return committed
  | none => do
      Script.lift (checkInboxTransition current target envelope)
      let updated := current.payload.val.marked target envelope now
      let result : ServiceResult := .inbox updated (current.revision + 1)
      let _ ← putObject taskId (.inbox inboxId) ⟨updated, current.payload.property⟩
        current.revision ⟨envelope.actor, "update_inbox_status", envelope.idempotencyKey,
          some ⟨.updateInboxStatus inboxId target, result⟩⟩ now
      return result

/-- `handle_approval_notification` (`approvals.py:802-826`). -/
def handleApprovalNotification (approvalId : Identifier) (actor : Actor)
    (idempotencyKey : String) (now : Timestamp) : TaskScript Unit := do
  match actor.actorType.inboxOwner with
  | none => Script.raise (.harness ⟨.validationError, "The inbox filter is invalid.", []⟩)
  | some owner => do
      let listed ← Script.read (listInbox owner 200)
      match listed.find? (·.1.approvalId = some approvalId) with
      | none => return
      | some (item, storeRevision) =>
          if item.status = .handled then
            return
          else do
            let envelope ← Script.lift (CommandEnvelope.validate
              ⟨idempotencyKey, actor.actorType, actor.actorId, storeRevision⟩)
            let _ ← updateInboxStatus taskId item.inboxId .handled envelope now

/-- The identity that `budget_approval_identity` (`approvals.py:359-370`) takes the digest of. -/
def budgetIdentity (instanceId attemptId : Identifier) : String :=
  instanceId ++ "/" ++ attemptId

/-- The approval id of `budget_approval_identity`. -/
def budgetApprovalId (instanceId attemptId : Identifier) : Identifier :=
  "ap_" ++ budgetIdentity instanceId attemptId

/-- The approval of a denied retry as it is first stored. -/
def budgetApproval (instanceId attemptId : Identifier) (sequence : Nat) (now : Timestamp) :
    Approval where
  approvalId := budgetApprovalId instanceId attemptId
  taskId := taskId
  instanceId := instanceId
  stepId := "budget_" ++ budgetIdentity instanceId attemptId
  kind := .budgetOverride
  owner := .human
  status := .pending
  payloadRef := "approvals/" ++ budgetApprovalId instanceId attemptId ++ "/request.json"
  createdAt := now
  sequence := sequence
  revision := 1
  resolution := none

/-- The notification that goes with the approval. -/
def budgetNotification (instanceId attemptId : Identifier) : NotificationRequest where
  kind := "BUDGET_APPROVAL_REQUIRED"
  owner := .human
  title := "自动重试需要预算确认"
  message := s!"实例 {instanceId} 的重试 {attemptId} 被预算闸门阻断。"
  deepLink := "inbox?approval_id=" ++ budgetApprovalId instanceId attemptId
  dedupeKey := "budget-approval:" ++ budgetApprovalId instanceId attemptId
  instanceId := some instanceId
  approvalId := some (budgetApprovalId instanceId attemptId)

/-- Create the approval of a denied retry unless it exists (`approvals.py:283-343`). -/
def ensureBudgetRecord (instanceId attemptId : Identifier) (deniedGates : List Gate)
    (now : Timestamp) : TaskScript Unit := do
  let approvalId := budgetApprovalId instanceId attemptId
  match ← Script.read (Store.payload (ObjectKey.approval approvalId)) with
  | some existing =>
      Script.lift (ensure (existing.val.kind = .budgetOverride) (.harness
        ⟨.idempotencyConflict,
          "The deterministic budget approval id belongs to another request.", []⟩))
  | none => do
      let side ← Script.read Store.side
      let requests := side.approvalRequests.insert approvalId ⟨some attemptId, deniedGates⟩
      Script.write (.side { side with approvalRequests := requests })
      let sequence ← nextSequence
      let _ ← putObject taskId (.approval approvalId)
        ⟨budgetApproval taskId instanceId attemptId sequence now, rfl⟩ 0
        ⟨⟨.system, "retry_budget_gate"⟩, "ensure_budget_approval", "ensure-" ++ approvalId, none⟩
        now

/-- `ensure_budget_approval` (`approvals.py:265-357`); its result is never read. -/
def ensureBudgetApproval (instanceId attemptId : Identifier) (deniedGates : List Gate)
    (now : Timestamp) : TaskScript Unit := do
  let stored ← Script.read (Store.payload (ObjectKey.agentInstance instanceId))
  Script.lift (ensure (stored.any (·.val.taskId = taskId)) instanceNotFound)
  ensureBudgetRecord taskId instanceId attemptId deniedGates now
  let _ ← ensureNotification taskId (budgetNotification instanceId attemptId) now

/-- What `get_approval` (`approvals.py:429-445`) returns: the approval, the revision of its
    snapshot and its request. -/
structure ApprovalDetails (approvalId : Identifier) where
  approval : Payload (.approval approvalId)
  approvalRevision : Nat
  payload : ApprovalContext

def getApproval (approvalId : Identifier) : TaskScript (ApprovalDetails approvalId) := do
  let wrapper ← requireObject (.approval approvalId)
  let side ← Script.read Store.side
  match side.approvalRequests.lookup approvalId with
  | none => Script.raise (.osError wrapper.payload.val.payloadRef)
  | some payload => return ⟨wrapper.payload, wrapper.revision, payload⟩

/-- The status that a decision gives an approval. -/
def Verdict.status : Verdict → ApprovalStatus
  | approved => .approved
  | rejected => .rejected

def Approval.resolved (approval : Approval) (decision : Verdict) (envelope : CommandEnvelope)
    (now : Timestamp) : Approval :=
  { approval with
    status := decision.status
    revision := approval.revision + 1
    resolution := some ⟨now, envelope.actorType, envelope.actorId⟩ }

/-- The checks of `commit_resolution` before it commits. -/
def checkResolution {approvalId : Identifier} (details : ApprovalDetails approvalId)
    (envelope : CommandEnvelope) : Outcome Unit := do
  ensure (details.approval.val.status = .pending) (.harness
    ⟨.invalidStateTransition, "Only a pending approval may be resolved.", []⟩)
  ensure (envelope.actorType = details.approval.val.owner.actorType) (.harness
    ⟨.validationError, "The approval must be resolved by its frozen owner.", []⟩)
  ensure (envelope.expectedRevision = details.approvalRevision) (.harness
    ⟨.revisionConflict, "The approval revision changed before the decision committed.",
      [("expected_revision", .number envelope.expectedRevision),
        ("actual_revision", .number details.approvalRevision)]⟩)

/-- `commit_resolution` (`approvals.py:671-733`). -/
def commitResolution (approvalId : Identifier) (decision : Verdict) (envelope : CommandEnvelope)
    (now : Timestamp) : TaskScript ServiceResult := do
  let details ← getApproval approvalId
  match ← lookupCommitted taskId envelope.idempotencyKey "resolve_approval"
      (.resolveApproval approvalId decision) with
  | some committed => return committed
  | none => do
      Script.lift (checkResolution details envelope)
      let updated := details.approval.val.resolved decision envelope now
      let result : ServiceResult := .approval updated (details.approvalRevision + 1)
      let _ ← putObject taskId (.approval approvalId) ⟨updated, details.approval.property⟩
        details.approvalRevision ⟨envelope.actor, "resolve_approval", envelope.idempotencyKey,
          some ⟨.resolveApproval approvalId decision, result⟩⟩ now
      return result

end

end DesignHarness
