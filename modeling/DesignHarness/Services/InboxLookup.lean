import DesignHarness.Services.Approvals
import DesignHarness.Library.EventStoreRules
import DesignHarness.Library.Parts
import Mathlib.Data.String.Basic

/-!
# Finding the notification of an approval

`handle_approval_notification` (`approvals.py:802-826`) looks for the notification of an approval
in the inbox of its owner, which spans the stores of all tasks, and lists at most 200 items, the
oldest first.  `Approvals` has the call over the store of one task; here it runs over all of them.
-/

namespace DesignHarness

open Library

/-- The stores of the tasks, each in its directory. -/
abbrev TaskStores : Type := Identifier → TaskStore

abbrev TaskStoresScript (α : Type) : Type :=
  Script TaskStores (PartWrite fun _ : Identifier => TaskWrite) Raised α

/-- An item of the inbox with the revision of its snapshot, and the directory it is read from. -/
structure InboxEntry where
  taskId : Identifier
  item : InboxItem
  storeRevision : Nat
  deriving DecidableEq, Repr

/-- `store.inbox.list` of a task. -/
def inboxEntries (taskId : Identifier) (store : TaskStore) : List InboxEntry :=
  (listIds ObjectKey.inboxId? store).filterMap fun inboxId =>
    (store.lookup (.inbox inboxId)).map fun wrapper => ⟨taskId, wrapper.payload.val,
      wrapper.revision⟩

section

variable (tasks : List Identifier)

/-- The items of an owner in the order of the inbox. -/
def ownedEntries (owner : ApprovalMode) (stores : TaskStores) : List InboxEntry :=
  ((tasks.flatMap fun taskId => inboxEntries taskId (stores taskId)).filter fun entry =>
    entry.item.owner = owner).mergeSort fun first second => first.item.notAfter second.item

/-- `list_inbox` (`approvals.py:484-517`) without a status filter, for a valid owner and limit. -/
def listTasksInbox (owner : ApprovalMode) (limit : Nat) (stores : TaskStores) : List InboxEntry :=
  (ownedEntries tasks owner stores).take limit

/-- The tasks with a snapshot of the object. -/
def tasksWith (key : ObjectKey) (stores : TaskStores) : List Identifier :=
  tasks.filter fun taskId => ((stores taskId).lookup key).isSome

/-- `_task_for_object` (`approvals.py:894-905`). -/
def taskForObject (key : ObjectKey) (stores : TaskStores) : Outcome Identifier :=
  match tasksWith tasks key stores with
  | [taskId] => .ok taskId
  | _ => .error (.harness
      ⟨.validationError, "The requested control object is not unique.", []⟩)

/-- `handle_approval_notification` (`approvals.py:802-826`). -/
def handleTasksNotification (approvalId : Identifier) (actor : Actor) (idempotencyKey : String)
    (now : Timestamp) : TaskStoresScript Unit := do
  match actor.actorType.inboxOwner with
  | none => Script.raise (.harness ⟨.validationError, "The inbox filter is invalid.", []⟩)
  | some owner => do
      let listed ← Script.read (listTasksInbox tasks owner 200)
      match listed.find? (·.item.approvalId = some approvalId) with
      | none => return
      | some entry =>
          if entry.item.status = .handled then
            return
          else do
            let envelope ← Script.lift (CommandEnvelope.validate
              ⟨idempotencyKey, actor.actorType, actor.actorId, entry.storeRevision⟩)
            let stores ← Script.read id
            let taskId ← Script.lift (taskForObject tasks (.inbox entry.item.inboxId) stores)
            let _ ← (updateInboxStatus taskId entry.item.inboxId .handled envelope now).on taskId

end

/-- No result has been committed under the key, and the journal can be read. -/
def TaskStore.KeyUnused (store : TaskStore) (key : String) : Prop :=
  store.journal.tail ≠ .corrupt ∧
    ∀ event ∈ store.journal.events, event.info.result.isSome → event.info.idempotencyKey ≠ key

instance (store : TaskStore) (key : String) : Decidable (store.KeyUnused key) := by
  unfold TaskStore.KeyUnused
  infer_instance

section

variable {taskId : Identifier} {store : TaskStore} {key command : String} {digest : Request}

/-- The journal holds no result exactly when no event of the key has one. -/
theorem committedResult_eq_none {events : List TaskEvent} {committed : Option ServiceResult} :
    committedResult taskId key command digest events committed = .ok none ↔
      committed = none ∧
        ∀ event ∈ events, event.info.result.isSome → event.info.idempotencyKey ≠ key := by
  induction events generalizing committed with
  | nil => simp [committedResult]
  | cons event rest ih =>
      unfold committedResult
      cases result : event.info.result with
      | none => simp [ih, result]
      | some result' =>
          dsimp only
          by_cases other : event.info.idempotencyKey ≠ key
          · simp [ih, result, other]
          · rw [if_neg other]
            have own : event.info.idempotencyKey = key := not_ne_iff.mp other
            split
            · simp [result, own]
            · simp [ih, own, result]

variable {inboxId : Identifier} {stored : Wrapper (Payload (.inbox inboxId))}
  {envelope : CommandEnvelope} {now : Timestamp}

/-- Where the journal cannot be read or holds the key, an update leaves the item alone. -/
theorem updateInboxStatus_refused (found : store.lookup (.inbox inboxId) = some stored)
    (refused : ¬ store.KeyUnused envelope.idempotencyKey) :
    ((updateInboxStatus taskId inboxId .handled envelope now).after store).lookup
      (.inbox inboxId) = some stored := by
  suffices meets : Meets (updateInboxStatus taskId inboxId .handled envelope now) store
      (fun _ => True) (fun _ store => store.lookup (.inbox inboxId) = some stored)
      (fun _ store => store.lookup (.inbox inboxId) = some stored) from meets.after
  unfold updateInboxStatus requireObject
  refine Meets.bind (Meets.bind (Meets.read trivial ?_))
  rw [found]
  refine Meets.pure trivial (Meets.bind (Meets.bind ?_))
  by_cases readable : store.Readable
  · refine recoverRecords_meets readable trivial trivial (Meets.lift trivial ?_ fun _ _ => found)
    intro committed looked
    cases committed with
    | some result => exact Meets.pure trivial found
    | none => exact absurd ⟨readable, (committedResult_eq_none.mp looked).2⟩ refused
  · have corrupt : store.journal.tail = .corrupt := not_ne_iff.mp readable
    refine Meets.bind (Meets.read trivial ?_)
    rw [corrupt]
    exact Meets.raise trivial found

/-- Under an unused key the owner's update at the current revision returns and marks an item that
    is not handled yet. -/
theorem updateInboxStatus_meets (found : store.lookup (.inbox inboxId) = some stored)
    (pending : stored.payload.val.status ≠ .handled)
    (owned : envelope.actorType = stored.payload.val.owner.actorType)
    (current : envelope.expectedRevision = stored.revision)
    (unused : store.KeyUnused envelope.idempotencyKey) :
    Meets (updateInboxStatus taskId inboxId .handled envelope now) store (fun _ => True)
      (fun _ later => ∃ marked, later.lookup (.inbox inboxId) = some marked ∧
        marked.payload.val.status = .handled) fun _ _ => False := by
  have legal : checkInboxTransition stored .handled envelope = .ok () := by
    simp [checkInboxTransition, pending, owned, current, ensure]
  unfold updateInboxStatus requireObject
  refine Meets.bind (Meets.bind (Meets.read trivial ?_))
  rw [found]
  refine Meets.pure trivial (Meets.bind (Meets.bind ?_))
  refine recoverRecords_meets unused.1 trivial trivial ?_
  have nothing : committedResult taskId envelope.idempotencyKey "update_inbox_status"
      (.updateInboxStatus inboxId .handled) store.events none = .ok none :=
    committedResult_eq_none.mpr ⟨rfl, unused.2⟩
  rw [nothing]
  refine Meets.lift trivial ?_ ?_
  · rintro committed ⟨⟩
    refine Meets.checked legal (Meets.bind ?_)
    have revision : stored.revision = store.truncate.revision (.inbox inboxId) := by
      rw [Store.revision, Store.lookup_truncate, found]
      rfl
    refine put_meets Store.clean_truncate trivial ?_ ?_ ?_
    · rintro error ⟨⟩
    · exact fun stale => absurd revision stale
    · intro _ _
      refine ⟨trivial, trivial, trivial, Meets.pure trivial ⟨_, Store.lookup_commit_self, rfl⟩⟩
  · rintro error ⟨⟩

/-- An owner acts as the type that it is of. -/
theorem ActorType.eq_of_inboxOwner {actorType : ActorType} {owner : ApprovalMode}
    (named : actorType.inboxOwner = some owner) : actorType = owner.actorType := by
  cases actorType <;> cases named <;> rfl

/-- An item of the list is what the store holds. -/
theorem lookup_of_listed {owner : ApprovalMode} {limit : Nat} {entry : InboxItem × Nat}
    (listed : entry ∈ listInbox owner limit store) : entry.1.owner = owner ∧
    ∃ stored : Wrapper (Payload (.inbox entry.1.inboxId)),
      store.lookup (.inbox entry.1.inboxId) = some stored ∧
      stored.payload.val = entry.1 ∧ stored.revision = entry.2 := by
  have member := List.mem_of_mem_take listed
  rw [List.mem_mergeSort, List.mem_filter] at member
  obtain ⟨member, owned⟩ := member
  obtain ⟨inboxId, -, found⟩ := List.mem_filterMap.mp member
  obtain ⟨stored, looked, rfl⟩ := Option.map_eq_some_iff.mp found
  refine ⟨by simpa using owned, ?_⟩
  obtain ⟨revision, ⟨item, same⟩, committedAt⟩ := stored
  subst same
  exact ⟨⟨revision, ⟨item, rfl⟩, committedAt⟩, looked, rfl, rfl⟩

/-- The call returns when its actor has an inbox, its envelope is accepted at any revision and its
    key is unused. -/
theorem handleApprovalNotification_returns {approvalId : Identifier} {actor : Actor}
    {owner : ApprovalMode} (named : actor.actorType.inboxOwner = some owner)
    (accepted : ∀ revision,
      (CommandEnvelope.mk key actor.actorType actor.actorId revision).accepted = true)
    (unused : store.KeyUnused key) :
    Meets (handleApprovalNotification taskId approvalId actor key now) store (fun _ => True)
      (fun _ _ => True) fun _ _ => False := by
  unfold handleApprovalNotification
  rw [named]
  refine Meets.bind (Meets.read trivial ?_)
  cases found : (listInbox owner 200 store).find? (·.1.approvalId = some approvalId) with
  | none => exact Meets.pure trivial trivial
  | some entry =>
      obtain ⟨owned, stored, looked, same, revision⟩ :=
        lookup_of_listed (List.mem_of_find?_eq_some found)
      dsimp only
      split
      · exact Meets.pure trivial trivial
      · rename_i pending
        refine Meets.checked (CommandEnvelope.validate_of_accepted (accepted entry.2)) ?_
        have marks := @updateInboxStatus_meets taskId store entry.1.inboxId stored
          ⟨key, actor.actorType, actor.actorId, entry.2⟩ now looked (by rwa [same])
          (by rw [same, owned]; exact ActorType.eq_of_inboxOwner named) revision.symm unused
        exact Meets.bind (marks.mono (fun _ => id) (fun _ _ _ => Meets.pure trivial trivial)
          fun _ _ => id)

end

/-! ## When the notification is handled -/

section

variable (tasks : List Identifier)

/-- The notification of an approval: the first item of its owner that is about the approval. -/
def approvalNotification (approvalId : Identifier) (owner : ApprovalMode) (stores : TaskStores) :
    Option InboxEntry :=
  (ownedEntries tasks owner stores).find? (·.item.approvalId = some approvalId)

/-- How many items of the owner come before the notification. -/
def olderEntries (approvalId : Identifier) (owner : ApprovalMode) (stores : TaskStores) : Nat :=
  (ownedEntries tasks owner stores).findIdx (·.item.approvalId = some approvalId)

/-- The call leaves the notification of the approval handled, when the actor's inbox has one. -/
def HandlesNotification (approvalId : Identifier) (actor : Actor) (idempotencyKey : String)
    (now : Timestamp) (stores : TaskStores) : Prop :=
  ∀ owner entry, actor.actorType.inboxOwner = some owner →
    approvalNotification tasks approvalId owner stores = some entry →
    ∃ stored, ((handleTasksNotification tasks approvalId actor idempotencyKey now).after stores
      entry.taskId).lookup (.inbox entry.item.inboxId) = some stored ∧
      stored.payload.val.status = .handled

/-- The envelope of the update of an item. -/
def InboxEntry.envelope (entry : InboxEntry) (actor : Actor) (idempotencyKey : String) :
    CommandEnvelope :=
  ⟨idempotencyKey, actor.actorType, actor.actorId, entry.storeRevision⟩

/-- The notification is handled already, or it is among the 200 oldest items of its owner, no other
    task has an item with its id, and the key of the call makes an envelope with its actor and is
    unused in the task. -/
def NotificationInReach (approvalId : Identifier) (actor : Actor) (idempotencyKey : String)
    (stores : TaskStores) : Prop :=
  ∀ owner entry, actor.actorType.inboxOwner = some owner →
    approvalNotification tasks approvalId owner stores = some entry →
    entry.item.status = .handled ∨
      (olderEntries tasks approvalId owner stores < 200 ∧
        tasksWith tasks (.inbox entry.item.inboxId) stores = [entry.taskId] ∧
        (entry.envelope actor idempotencyKey).accepted = true ∧
        (stores entry.taskId).KeyUnused idempotencyKey)

end

section

variable {tasks : List Identifier} {stores : TaskStores} {approvalId : Identifier}
  {owner : ApprovalMode} {entry : InboxEntry}

/-- An entry is what its task stores. -/
theorem lookup_of_entry (listed : entry ∈ ownedEntries tasks owner stores) :
    entry.item.owner = owner ∧ entry.taskId ∈ tasks ∧
    ∃ stored : Wrapper (Payload (.inbox entry.item.inboxId)),
      (stores entry.taskId).lookup (.inbox entry.item.inboxId) = some stored ∧
      stored.payload.val = entry.item ∧ stored.revision = entry.storeRevision := by
  unfold ownedEntries at listed
  rw [List.mem_mergeSort, List.mem_filter] at listed
  obtain ⟨member, owned⟩ := listed
  obtain ⟨taskId, task, member⟩ := List.mem_flatMap.mp member
  obtain ⟨inboxId, -, found⟩ := List.mem_filterMap.mp member
  obtain ⟨stored, looked, rfl⟩ := Option.map_eq_some_iff.mp found
  refine ⟨by simpa using owned, task, ?_⟩
  obtain ⟨revision, ⟨item, same⟩, committedAt⟩ := stored
  subst same
  exact ⟨⟨revision, ⟨item, rfl⟩, committedAt⟩, looked, rfl, rfl⟩

theorem taskForObject_eq_ok {key : ObjectKey} {taskId : Identifier} :
    taskForObject tasks key stores = .ok taskId ↔ tasksWith tasks key stores = [taskId] := by
  unfold taskForObject
  split <;> simp_all

/-- A list cut off after some items finds what comes before the cut. -/
theorem find?_take {α : Type} {p : α → Bool} {items : List α} {limit : Nat} :
    (items.take limit).find? p = if items.findIdx p < limit then items.find? p else none := by
  rw [List.find?_eq_getElem?_findIdx, List.find?_eq_getElem?_findIdx, List.findIdx_take,
    List.getElem?_take]
  by_cases within : items.findIdx p < limit
  · rw [if_pos within, min_eq_right within.le, if_pos within]
  · rw [if_neg within, min_eq_left (not_lt.mp within), if_neg (lt_irrefl limit)]

/-- A call that finds nothing in its list, or an item that is handled, changes nothing. -/
theorem handleTasksNotification_idle {actor : Actor} {idempotencyKey : String} {now : Timestamp}
    (named : actor.actorType.inboxOwner = some owner)
    (idle : ∀ found, (listTasksInbox tasks owner 200 stores).find?
      (·.item.approvalId = some approvalId) = some found → found.item.status = .handled) :
    (handleTasksNotification tasks approvalId actor idempotencyKey now).after stores = stores := by
  unfold handleTasksNotification Script.after
  rw [named]
  dsimp only
  rw [Script.run_read]
  cases found : (listTasksInbox tasks owner 200 stores).find?
      (·.item.approvalId = some approvalId) with
  | none => rfl
  | some entry =>
      dsimp only
      rw [if_pos (idle entry found)]
      rfl

/-- A call whose envelope is not accepted changes nothing. -/
theorem handleTasksNotification_rejected {actor : Actor} {idempotencyKey : String}
    {now : Timestamp} (named : actor.actorType.inboxOwner = some owner)
    (found : (listTasksInbox tasks owner 200 stores).find?
      (·.item.approvalId = some approvalId) = some entry)
    (rejected : (entry.envelope actor idempotencyKey).accepted = false) :
    (handleTasksNotification tasks approvalId actor idempotencyKey now).after stores = stores := by
  by_cases handled : entry.item.status = .handled
  · refine handleTasksNotification_idle named fun other listed => ?_
    rw [found] at listed
    exact Option.some.inj listed ▸ handled
  have invalid : CommandEnvelope.validate ⟨idempotencyKey, actor.actorType, actor.actorId,
      entry.storeRevision⟩ = .error (.validationError "CommandEnvelope") :=
    CommandEnvelope.validate_of_rejected rejected
  unfold handleTasksNotification Script.after
  rw [named]
  dsimp only
  rw [Script.run_read, found]
  dsimp only
  rw [if_neg handled, invalid]
  rfl

/-- A call that finds an item that is not handled asks for the task of the item and updates it. -/
theorem handleTasksNotification_found {actor : Actor} {idempotencyKey : String} {now : Timestamp}
    (named : actor.actorType.inboxOwner = some owner)
    (found : (listTasksInbox tasks owner 200 stores).find?
      (·.item.approvalId = some approvalId) = some entry) (pending : entry.item.status ≠ .handled)
    (accepted : (entry.envelope actor idempotencyKey).accepted = true) :
    (handleTasksNotification tasks approvalId actor idempotencyKey now).after stores =
      match taskForObject tasks (.inbox entry.item.inboxId) stores with
      | .error _ => stores
      | .ok taskId => Function.update stores taskId ((updateInboxStatus taskId entry.item.inboxId
          .handled (entry.envelope actor idempotencyKey) now).after (stores taskId)) := by
  have valid : CommandEnvelope.validate ⟨idempotencyKey, actor.actorType, actor.actorId,
      entry.storeRevision⟩ = .ok (entry.envelope actor idempotencyKey) :=
    CommandEnvelope.validate_of_accepted accepted
  unfold handleTasksNotification Script.after
  rw [named]
  dsimp only
  rw [Script.run_read, found]
  dsimp only
  rw [if_neg pending, valid, Script.run_lift, Script.run_read]
  simp only [id]
  cases located : taskForObject tasks (.inbox entry.item.inboxId) stores with
  | error error => rfl
  | ok taskId =>
      rw [Script.run_lift]
      exact Script.after_bind_pure.trans Script.on_after

/-- A pending item is as it was in stores that did not change. -/
theorem not_handled_of_pending (listed : entry ∈ ownedEntries tasks owner stores)
    (pending : entry.item.status ≠ .handled) :
    ¬ ∃ stored, (stores entry.taskId).lookup (.inbox entry.item.inboxId) = some stored ∧
      stored.payload.val.status = .handled := by
  obtain ⟨-, -, stored, looked, same, -⟩ := lookup_of_entry listed
  rintro ⟨left, found, handled⟩
  obtain rfl := Option.some.inj (looked.symm.trans found)
  exact pending (same ▸ handled)

/-- A pending item that the call finds is marked when its id names its task and the key is
    unused. -/
theorem handleTasksNotification_marks_iff {actor : Actor} {idempotencyKey : String}
    {now : Timestamp} (named : actor.actorType.inboxOwner = some owner)
    (listed : entry ∈ ownedEntries tasks owner stores)
    (found : (listTasksInbox tasks owner 200 stores).find?
      (·.item.approvalId = some approvalId) = some entry) (pending : entry.item.status ≠ .handled)
    (accepted : (entry.envelope actor idempotencyKey).accepted = true) :
    (∃ stored, ((handleTasksNotification tasks approvalId actor idempotencyKey now).after stores
        entry.taskId).lookup (.inbox entry.item.inboxId) = some stored ∧
        stored.payload.val.status = .handled) ↔
      tasksWith tasks (.inbox entry.item.inboxId) stores = [entry.taskId] ∧
        (stores entry.taskId).KeyUnused idempotencyKey := by
  obtain ⟨owned, task, stored, looked, same, revision⟩ := lookup_of_entry listed
  rw [handleTasksNotification_found named found pending accepted]
  have among : entry.taskId ∈ tasksWith tasks (.inbox entry.item.inboxId) stores :=
    List.mem_filter.mpr ⟨task, by rw [looked]; rfl⟩
  by_cases alone : tasksWith tasks (.inbox entry.item.inboxId) stores = [entry.taskId]
  · rw [taskForObject_eq_ok.mpr alone]
    dsimp only
    rw [Function.update_self]
    by_cases unused : (stores entry.taskId).KeyUnused idempotencyKey
    · refine iff_of_true ?_ ⟨alone, unused⟩
      have actorType : actor.actorType = stored.payload.val.owner.actorType := by
        rw [same, owned]
        exact ActorType.eq_of_inboxOwner named
      have pendingStill : stored.payload.val.status ≠ .handled := by rwa [same]
      have marks := @updateInboxStatus_meets entry.taskId (stores entry.taskId)
        entry.item.inboxId stored (entry.envelope actor idempotencyKey) now looked pendingStill
        actorType revision.symm unused
      exact (marks.mono (fun _ => id) (fun _ _ => id) fun _ _ => False.elim).after
    · refine iff_of_false ?_ fun both => unused both.2
      rw [show ((updateInboxStatus entry.taskId entry.item.inboxId .handled
        (entry.envelope actor idempotencyKey) now).after (stores entry.taskId)).lookup
          (.inbox entry.item.inboxId) = some stored from updateInboxStatus_refused looked unused,
        ← looked]
      exact not_handled_of_pending listed pending
  · refine iff_of_false ?_ fun both => alone both.1
    cases located : taskForObject tasks (.inbox entry.item.inboxId) stores with
    | error error => exact not_handled_of_pending listed pending
    | ok taskId =>
        have only := taskForObject_eq_ok.mp located
        rw [only] at among alone
        exact absurd (congrArg (fun other => [other]) (List.mem_singleton.mp among).symm) alone

/-- The notification of an approval ends up handled exactly when it is in reach. -/
theorem handleTasksNotification_iff (tasks : List Identifier) (stores : TaskStores)
    (approvalId : Identifier) (actor : Actor) (idempotencyKey : String) (now : Timestamp) :
    HandlesNotification tasks approvalId actor idempotencyKey now stores ↔
      NotificationInReach tasks approvalId actor idempotencyKey stores := by
  unfold HandlesNotification NotificationInReach
  refine forall₂_congr fun owner entry => forall₂_congr fun named notified => ?_
  have listed : entry ∈ ownedEntries tasks owner stores := List.mem_of_find?_eq_some notified
  have reach : (listTasksInbox tasks owner 200 stores).find?
      (·.item.approvalId = some approvalId) =
        if olderEntries tasks approvalId owner stores < 200 then some entry else none := by
    rw [listTasksInbox, find?_take]
    exact congrArg (if olderEntries tasks approvalId owner stores < 200 then · else none) notified
  by_cases pending : entry.item.status = .handled
  · -- Nothing is left to be done, whether the call finds the item or not.
    refine iff_of_true ?_ (.inl pending)
    rw [handleTasksNotification_idle named]
    · obtain ⟨-, -, stored, looked, same, -⟩ := lookup_of_entry listed
      exact ⟨stored, looked, by rw [same, pending]⟩
    · intro found listed
      rw [reach] at listed
      split at listed
      · rwa [← Option.some.inj listed]
      · cases listed
  rw [or_iff_right pending]
  by_cases older : olderEntries tasks approvalId owner stores < 200
  · rw [if_pos older] at reach
    cases accepted : (entry.envelope actor idempotencyKey).accepted with
    | true =>
        rw [handleTasksNotification_marks_iff named listed reach pending accepted]
        exact ⟨fun marked => ⟨older, marked.1, rfl, marked.2⟩,
          fun within => ⟨within.2.1, within.2.2.2⟩⟩
    | false =>
        rw [handleTasksNotification_rejected named reach accepted]
        refine iff_of_false (not_handled_of_pending listed pending) fun within => ?_
        cases within.2.2.1
  · rw [if_neg older] at reach
    rw [handleTasksNotification_idle named]
    · exact iff_of_false (not_handled_of_pending listed pending) fun within => older within.1
    · intro found listed
      rw [reach] at listed
      cases listed

end

/-! ## The newest item of a long inbox -/

theorem InboxItem.notAfter_iff (first second : InboxItem) : first.notAfter second = true ↔
    first.createdAt < second.createdAt ∨ (first.createdAt = second.createdAt ∧
      (first.sequence < second.sequence ∨
        (first.sequence = second.sequence ∧ first.inboxId ≤ second.inboxId))) := by
  unfold InboxItem.notAfter
  by_cases created : first.createdAt = second.createdAt
  · by_cases sequence : first.sequence = second.sequence
    · simp only [created, sequence, ne_eq, not_true, if_false, decide_eq_true_eq, lt_irrefl,
        true_and, false_or]
    · simp only [created, sequence, ne_eq, not_true, not_false_eq_true, if_false, if_true,
        decide_eq_true_eq, lt_irrefl, true_and, false_and, false_or, or_false]
      exact ⟨fun le => lt_of_le_of_ne le sequence, le_of_lt⟩
  · simp only [created, ne_eq, not_false_eq_true, if_true, decide_eq_true_eq, false_and, or_false]
    exact ⟨fun le => lt_of_le_of_ne le created, le_of_lt⟩

theorem InboxItem.notAfter_total (first second : InboxItem) :
    (first.notAfter second || second.notAfter first) = true := by
  rw [Bool.or_eq_true, InboxItem.notAfter_iff, InboxItem.notAfter_iff]
  rcases lt_trichotomy first.createdAt second.createdAt with earlier | same | later
  · exact .inl (.inl earlier)
  · rcases lt_trichotomy first.sequence second.sequence with before | equal | after
    · exact .inl (.inr ⟨same, .inl before⟩)
    · rcases le_total first.inboxId second.inboxId with le | ge
      · exact .inl (.inr ⟨same, .inr ⟨equal, le⟩⟩)
      · exact .inr (.inr ⟨same.symm, .inr ⟨equal.symm, ge⟩⟩)
    · exact .inr (.inr ⟨same.symm, .inl after⟩)
  · exact .inr (.inl later)

theorem InboxItem.notAfter_trans {first second third : InboxItem}
    (before : first.notAfter second = true) (after : second.notAfter third = true) :
    first.notAfter third = true := by
  rw [InboxItem.notAfter_iff] at before after ⊢
  rcases before with before | ⟨created, before⟩
  · rcases after with after | ⟨created, -⟩
    · exact .inl (lt_trans before after)
    · exact .inl (lt_of_lt_of_eq before created)
  · rw [created]
    refine after.imp_right (And.imp_right fun after => ?_)
    rcases before with before | ⟨sequence, before⟩
    · rcases after with after | ⟨sequence, -⟩
      · exact .inl (lt_trans before after)
      · exact .inl (lt_of_lt_of_eq before sequence)
    · rw [sequence]
      exact after.imp_right (And.imp_right fun after => le_trans before after)

section

variable {tasks : List Identifier} {stores : TaskStores} {approvalId : Identifier}
  {owner : ApprovalMode} {entry : InboxEntry} {others : List InboxEntry}

/-- A notification that is newer than every other item of its owner has all of them before it. -/
theorem olderEntries_newest (split : (ownedEntries tasks owner stores).Perm (entry :: others))
    (about : entry.item.approvalId = some approvalId)
    (older : ∀ other ∈ others, other.item.approvalId ≠ some approvalId ∧
      entry.item.notAfter other.item = false) :
    approvalNotification tasks approvalId owner stores = some entry ∧
      olderEntries tasks approvalId owner stores = others.length := by
  unfold approvalNotification olderEntries
  have sorted : (ownedEntries tasks owner stores).Pairwise
      fun first second : InboxEntry => first.item.notAfter second.item = true := by
    unfold ownedEntries
    have trans : ∀ first second third : InboxEntry, first.item.notAfter second.item = true →
        second.item.notAfter third.item = true → first.item.notAfter third.item = true :=
      fun _ _ _ => InboxItem.notAfter_trans
    have total : ∀ first second : InboxEntry,
        (first.item.notAfter second.item || second.item.notAfter first.item) = true :=
      fun first second => InboxItem.notAfter_total first.item second.item
    exact List.pairwise_mergeSort trans total _
  obtain ⟨before, after, parts⟩ := List.append_of_mem (split.symm.subset List.mem_cons_self)
  rw [parts] at split sorted ⊢
  have rest : (before ++ after).Perm others :=
    ((List.perm_middle.symm.trans split).cons_inv)
  -- What comes after the notification is not older than it.
  have last : after = [] := by
    refine List.eq_nil_iff_forall_not_mem.mpr fun other member => ?_
    have later := (List.pairwise_append.mp sorted).2.1
    have notOlder := (List.pairwise_cons.mp later).1 other member
    rw [(older other (rest.subset (List.mem_append_right _ member))).2] at notOlder
    cases notOlder
  rw [last, List.append_nil] at rest
  have unrelated : ∀ other ∈ before, ¬ other.item.approvalId = some approvalId :=
    fun other member => (older other (rest.subset member)).1
  constructor
  · rw [List.find?_append, List.find?_eq_none.mpr (by simpa using unrelated)]
    simp [about]
  · rw [List.findIdx_append, List.findIdx_eq_length_of_false (by simpa using unrelated),
      if_neg (lt_irrefl _), rest.length_eq, List.findIdx_cons]
    simp [about]

end

/-- A task whose only notification tells of an instance that succeeded. -/
def succeededNotice (taskId : Identifier) : InboxItem where
  inboxId := "in_" ++ taskId
  taskId := taskId
  instanceId := some "instance"
  approvalId := none
  kind := "INSTANCE_SUCCEEDED"
  owner := .human
  status := .unread
  title := "Succeeded"
  message := "The instance has delivered."
  deepLink := "inbox"
  createdAt := "2026-08-25T01:00:00.000000Z"
  sequence := 1
  revision := 1
  dedupeKey := "succeeded:" ++ taskId
  readMark := none
  handledMark := none

/-- The notification of an approval, an hour later. -/
def approvalNotice (taskId : Identifier) : InboxItem :=
  { succeededNotice taskId with
    approvalId := some "approval"
    kind := "APPROVAL_REQUIRED"
    createdAt := "2026-08-25T02:00:00.000000Z" }

/-- A store with one item. -/
def noticeStore (item : InboxItem) : TaskStore where
  journal := ⟨[], .clean⟩
  snapshots := AList.insert (.inbox item.inboxId) ⟨1, ⟨item, rfl⟩, item.createdAt⟩ ∅
  side := ⟨∅, ∅, ∅, 1⟩

/-- Every task has one item, and one of them awaits an approval. -/
def noticeStores : TaskStores := fun taskId =>
  noticeStore (if taskId = "task" then approvalNotice taskId else succeededNotice taskId)

/-- Two hundred tasks that have succeeded, beside the one that awaits its approval. -/
def otherTasks : List Identifier :=
  (List.range 200).map fun number => "task_" ++ toString (1000 + number)

theorem inboxEntries_noticeStore (taskId : Identifier) (item : InboxItem) :
    inboxEntries taskId (noticeStore item) = [⟨taskId, item, 1⟩] := by
  have found : (noticeStore item).lookup (.inbox item.inboxId) =
      some ⟨1, ⟨item, rfl⟩, item.createdAt⟩ := AList.lookup_insert _
  have ids : listIds ObjectKey.inboxId? (noticeStore item) = [item.inboxId] := rfl
  rw [inboxEntries, ids]
  simp [found]

/-- The inbox of the owner: the notification of the approval and what is older. -/
theorem ownedEntries_noticeStores {others : List Identifier}
    (apart : ∀ taskId ∈ others, taskId ≠ "task") :
    (ownedEntries ("task" :: others) .human noticeStores).Perm
      (⟨"task", approvalNotice "task", 1⟩ ::
        others.map fun taskId => ⟨taskId, succeededNotice taskId, 1⟩) := by
  have first : inboxEntries "task" (noticeStores "task") =
      [⟨"task", approvalNotice "task", 1⟩] := inboxEntries_noticeStore _ _
  have later : (others.flatMap fun taskId => inboxEntries taskId (noticeStores taskId)) =
      others.map fun taskId => ⟨taskId, succeededNotice taskId, 1⟩ := by
    rw [List.map_eq_flatMap]
    refine List.flatMap_congr fun taskId member => ?_
    rw [noticeStores, if_neg (apart taskId member), inboxEntries_noticeStore]
  unfold ownedEntries
  refine (List.mergeSort_perm _ _).trans (List.Perm.of_eq ?_)
  rw [List.flatMap_cons, first, later, List.singleton_append, List.filter_eq_self]
  intro entry member
  rcases List.mem_cons.mp member with rfl | member
  · rfl
  · obtain ⟨taskId, -, rfl⟩ := List.mem_map.mp member
    rfl

theorem otherTasks_apart : ∀ taskId ∈ otherTasks, taskId ≠ "task" := by
  intro taskId member same
  obtain ⟨number, -, rfl⟩ := List.mem_map.mp member
  have lengths := congrArg String.length same
  rw [String.length_append] at lengths
  have five : "task_".length = 5 := by decide
  have four : "task".length = 4 := by decide
  omega

/-- With 200 older items in the inbox, the notification of an approval stays unread. -/
theorem handleTasksNotification_misses :
    ¬ HandlesNotification ("task" :: otherTasks) "approval" ⟨.human, "owner"⟩ "handled"
      "2026-08-25T03:00:00.000000Z" noticeStores := by
  have older : approvalNotification ("task" :: otherTasks) "approval" .human noticeStores =
      some ⟨"task", approvalNotice "task", 1⟩ ∧
      olderEntries ("task" :: otherTasks) "approval" .human noticeStores =
        (otherTasks.map fun taskId => InboxEntry.mk taskId (succeededNotice taskId) 1).length := by
    refine olderEntries_newest (ownedEntries_noticeStores otherTasks_apart) rfl ?_
    intro other member
    obtain ⟨taskId, -, rfl⟩ := List.mem_map.mp member
    have later : ¬ (approvalNotice "task").createdAt ≤ (succeededNotice taskId).createdAt := by
      change ¬ "2026-08-25T02:00:00.000000Z" ≤ "2026-08-25T01:00:00.000000Z"
      decide
    have apart : (approvalNotice "task").createdAt ≠ (succeededNotice taskId).createdAt := by
      change "2026-08-25T02:00:00.000000Z" ≠ "2026-08-25T01:00:00.000000Z"
      decide
    have unrelated : (succeededNotice taskId).approvalId ≠ some "approval" := by
      intro about
      cases about
    refine ⟨unrelated, ?_⟩
    simp only [InboxItem.notAfter, apart, later, ne_eq, not_false_eq_true, if_true, decide_false]
  rw [List.length_map] at older
  have unlisted : (listTasksInbox ("task" :: otherTasks) .human 200 noticeStores).find?
      (·.item.approvalId = some "approval") = none := by
    have count : olderEntries ("task" :: otherTasks) "approval" .human noticeStores = 200 := by
      rw [older.2, otherTasks, List.length_map, List.length_range]
    rw [listTasksInbox, find?_take]
    exact if_neg (by rw [← olderEntries, count]; exact lt_irrefl 200)
  intro handles
  obtain ⟨stored, found, handled⟩ := handles .human _ rfl older.1
  rw [handleTasksNotification_idle rfl fun other listed => by rw [unlisted] at listed; cases listed]
    at found
  have looked : (noticeStores "task").lookup (.inbox (approvalNotice "task").inboxId) =
      some ⟨1, ⟨approvalNotice "task", rfl⟩, (approvalNotice "task").createdAt⟩ :=
    AList.lookup_insert _
  obtain rfl := Option.some.inj (looked.symm.trans found)
  cases handled

end DesignHarness
