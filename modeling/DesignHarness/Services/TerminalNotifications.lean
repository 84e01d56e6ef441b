import DesignHarness.Services.BudgetOperations
import DesignHarness.Storage.History

/-!
# Notifications about ended instances

`reconcile_terminal_notifications` (`approvals.py:828-886`) runs at the end of a startup and posts
what is missing: one notification for each instance of the plan that ended.  Its owner reads it,
handles it or clears it.  A cleared notification has no snapshot, but the startup rebuilds the
snapshots from the journal first, so the reconciliation finds whatever was ever posted: no
notification is posted twice and none comes back unread (`notifications_reconciled`).
-/

namespace DesignHarness

open Library

section

variable (item : AgentInstance)

/-- A notification about the instance for the human owner. -/
def AgentInstance.notice (kind title message dedupeKey : String) : NotificationRequest where
  kind := kind
  owner := .human
  title := title
  message := message
  deepLink := "instances/" ++ item.instanceId
  dedupeKey := dedupeKey
  instanceId := some item.instanceId
  approvalId := none

/-- `rejection_identity` (`approvals.py:858-860`), of which the key holds a digest. -/
def DeliveryRejection.identity (rejection : DeliveryRejection) : String :=
  reprStr (rejection.code, rejection.message, rejection.details)

def AgentInstance.succeededNotice : NotificationRequest :=
  item.notice "INSTANCE_SUCCEEDED" "Agent 交付已发布"
    s!"实例 {item.instanceId} 的必需交付已校验并发布。" ("instance-succeeded:" ++ item.instanceId)

def AgentInstance.rejectedNotice (rejection : DeliveryRejection) : NotificationRequest :=
  item.notice "INSTANCE_DELIVERY_REJECTED" "Agent 交付未通过发布校验"
    s!"实例 {item.instanceId} 的交付已隔离。修复后重新校验不会重跑模型步骤。"
    ("instance-delivery-rejected:" ++ item.instanceId ++ ":" ++ rejection.identity)

def AgentInstance.failedNotice : NotificationRequest :=
  item.notice "INSTANCE_FAILED" "Agent 执行失败" s!"实例 {item.instanceId} 已进入失败状态。"
    ("instance-failed:" ++ item.instanceId)

def AgentInstance.crashedNotice : NotificationRequest :=
  item.notice "INSTANCE_CRASHED" "Agent 进程异常退出" s!"实例 {item.instanceId} 的受监管进程已崩溃。"
    ("instance-crashed:" ++ item.instanceId)

/-- The notification that is due for the status of an instance (`approvals.py:839-876`). -/
def AgentInstance.terminalNotice : Option NotificationRequest :=
  if item.agentType = .general then
    none
  else
    match item.status, item.deliveryRejection with
    | .succeeded, _ => some item.succeededNotice
    | .failed, some rejection => some (item.rejectedNotice rejection)
    | .failed, none => some item.failedNotice
    | .failedToStart, _ => some item.failedNotice
    | .crashed, _ => some item.crashedNotice
    | _, _ => none

end

/-- `list_inbox` (`approvals.py:484-517`) without a limit. -/
def listInboxWith (owner : ApprovalMode) (status : InboxStatus) (store : TaskStore) :
    List (InboxItem × Nat) :=
  let found := (listIds ObjectKey.inboxId? store).filterMap fun inboxId =>
    (store.lookup (.inbox inboxId)).map fun wrapper => (wrapper.payload.val, wrapper.revision)
  (found.filter fun entry => entry.1.owner = owner ∧ entry.1.status = status).mergeSort
    fun first second => first.1.notAfter second.1

/-- `f"{owner}_operator"`. -/
def ApprovalMode.operator : ApprovalMode → Identifier
  | human => "human_operator"
  | master => "master_operator"

/-- `except HarnessError as exc: if exc.code != "REVISION_CONFLICT": raise`, and nothing else for
    the item. -/
def unlessConflict {α : Type} (script : TaskScript α) : TaskScript (Option α) :=
  Script.rescue (do let value ← script; return some value) fun error =>
    match error with
    | .harness raised => if raised.code = .revisionConflict then pure none else Script.raise error
    | _ => Script.raise error

section

variable (taskId : Identifier) (now : Timestamp)

/-- The loop of `mark_instance_notifications_read`, which returns the items it has marked. -/
def markEachRead (owner : ApprovalMode) : List (InboxItem × Nat) → TaskScript (List ServiceResult)
  | [] => return []
  | (item, storeRevision) :: rest => do
      let result ← unlessConflict (updateInboxStatus taskId item.inboxId .read
        ⟨s!"view-{item.inboxId}-{storeRevision}", owner.actorType, owner.operator, storeRevision⟩
        now)
      let updated ← markEachRead owner rest
      return result.toList ++ updated

/-- `mark_instance_notifications_read` (`approvals.py:524-555`). -/
def markInstanceNotificationsRead (instanceId : Identifier) (owner : ApprovalMode) :
    TaskScript (List ServiceResult) := do
  let listed ← Script.read (listInboxWith owner .unread)
  markEachRead taskId now owner (listed.filter (·.1.instanceId = some instanceId))

/-- The loop of `clear_read_notifications`, which returns the ids it has removed. -/
def clearEach (owner : ApprovalMode) : List (InboxItem × Nat) → TaskScript (List Identifier)
  | [] => return []
  | (item, storeRevision) :: rest => do
      let deleted ← unlessConflict (deleteObject taskId (.inbox item.inboxId) storeRevision
        ⟨⟨owner.actorType, owner.operator⟩, "clear_read_inbox",
          s!"clear-read-{item.inboxId}-{storeRevision}", none⟩)
      let removed ← clearEach owner rest
      return if deleted = some true then item.inboxId :: removed else removed

/-- `clear_read_notifications` (`approvals.py:557-581`). -/
def clearReadNotifications (owner : ApprovalMode) : TaskScript (List Identifier) := do
  let listed ← Script.read (listInboxWith owner .read)
  clearEach taskId owner listed

/-- `reconcile_terminal_notifications` (`approvals.py:828-886`), for one task. -/
def reconcileTerminalNotifications : TaskScript Unit := do
  match ← Script.read (Store.payload ObjectKey.plan) with
  | none => pure ()
  | some plan =>
      Script.forEach (fun item : AgentInstance =>
        match item.terminalNotice with
        | none => pure ()
        | some request => do
            let _ ← ensureNotification taskId request now) (Plan.instances plan)

end

/-- Only a notification that was read is removed. -/
def ClearedRead (events : List TaskEvent) : Prop :=
  ∀ before event after inboxId, events = before ++ event :: after →
    event.outcome (.inbox inboxId) = some none →
      ∃ wrapper, latest (.inbox inboxId) before = some wrapper ∧ wrapper.payload.val.status = .read

/-- A notification was committed at some time. -/
def TaskStore.Posted (store : TaskStore) (inboxId : Identifier) : Prop :=
  (latest (.inbox inboxId) store.events).isSome = true

/-- The owner has read or handled the notification since it was posted last, or has cleared it. -/
def TaskStore.Attended (store : TaskStore) (inboxId : Identifier) : Prop :=
  (∃ wrapper, latest (.inbox inboxId) store.events = some wrapper ∧
    wrapper.payload.val.status ≠ .unread) ∨ RemovedLast store.events (.inbox inboxId)

section

variable {events : List TaskEvent} {event : TaskEvent}

theorem ClearedRead.append (cleared : ClearedRead events)
    (last : ∀ inboxId, event.outcome (.inbox inboxId) = some none →
      ∃ wrapper, latest (.inbox inboxId) events = some wrapper ∧
        wrapper.payload.val.status = .read) : ClearedRead (events ++ [event]) := by
  intro before removal after inboxId split removed
  rcases List.eq_nil_or_concat after with none | ⟨rest, final, some⟩
  · subst none
    obtain ⟨same, equal⟩ := List.append_inj' split rfl
    obtain rfl := List.singleton_inj.mp equal
    rw [← same]
    exact last inboxId removed
  · subst some
    rw [List.concat_eq_append, ← List.cons_append, ← List.append_assoc] at split
    obtain ⟨same, -⟩ := List.append_inj' split rfl
    exact cleared before removal rest inboxId same removed

theorem ClearedRead.append_other (cleared : ClearedRead events)
    (other : ∀ inboxId, event.outcome (.inbox inboxId) ≠ some none) :
    ClearedRead (events ++ [event]) :=
  cleared.append fun inboxId removed => absurd removed (other inboxId)

/-- A notification that was removed last had been read. -/
theorem ClearedRead.read (cleared : ClearedRead events) {inboxId : Identifier}
    (removed : RemovedLast events (.inbox inboxId)) :
    ∃ wrapper, latest (.inbox inboxId) events = some wrapper ∧
      wrapper.payload.val.status = .read := by
  induction events using List.reverseRecOn with
  | nil =>
      obtain ⟨-, event, member, -⟩ := removed
      cases member
  | append_singleton events event ih =>
      have before : ClearedRead events := by
        intro first removal rest inboxId split
        refine cleared first removal (rest ++ [event]) inboxId ?_
        rw [split, List.append_assoc, List.cons_append]
      obtain ⟨gone, named, member, key⟩ := removed
      rw [lastSnapshot_append] at gone
      cases outcome : event.outcome (.inbox inboxId) with
      | none =>
          have silent : event.snapshot (.inbox inboxId) = none := by
            rw [Event.snapshot, outcome]
            rfl
          rw [outcome] at gone
          rw [latest_append_of_none silent]
          refine ih before ⟨gone, named, ?_, key⟩
          obtain old | new := List.mem_append.mp member
          · exact old
          · obtain rfl := List.mem_singleton.mp new
            rw [Event.outcome, dif_pos key] at outcome
            split at outcome
            · cases outcome
            · cases outcome
      | some result =>
          rw [outcome] at gone
          obtain rfl : result = none := gone
          have silent : event.snapshot (.inbox inboxId) = none := by
            rw [Event.snapshot, outcome]
            rfl
          rw [latest_append_of_none silent]
          exact cleared events event [] inboxId rfl outcome

end

/-! ## What every operation keeps -/

/-- Whether the process runs, has been stopped in the middle of something, or has rebuilt its
    snapshots and not reconciled its notifications yet. -/
inductive ServicePhase where
  | running
  | stopped
  | starting

structure Halted (store : TaskStore) : Prop where
  interrupted : Interrupted store
  cleared : ClearedRead store.events

/-- The store of a process that runs.  While it starts, every notification that was ever posted
    has a snapshot. -/
structure Tended (phase : ServicePhase) (store : TaskStore) : Prop where
  running : Running store
  cleared : ClearedRead store.events
  present : phase = .starting → ∀ inboxId, store.Posted inboxId →
    (store.lookup (.inbox inboxId)).isSome = true

section

variable {taskId : Identifier} {now : Timestamp} {phase : ServicePhase} {store : TaskStore}
  {key : ObjectKey}

theorem Tended.halted (tended : Tended phase store) : Halted store :=
  ⟨tended.running.toInterrupted, tended.cleared⟩

theorem Tended.torn (tended : Tended phase store) : Halted store.torn := by
  refine ⟨tended.running.toInterrupted.torn tended.running.clean, ?_⟩
  rw [Store.events_torn]
  exact tended.cleared

/-- A commit is no removal. -/
theorem Tended.commit_cleared (tended : Tended phase store) {payload : Payload key}
    {info : EventInfo} :
    ClearedRead (store.append (store.commitEvent key payload info now)).events := by
  rw [Store.events_append tended.running.clean]
  refine tended.cleared.append_other fun inboxId removed => ?_
  by_cases same : key = .inbox inboxId
  · subst same
    rw [Store.commitEvent, Event.outcome_committed] at removed
    cases removed
  · rw [Event.outcome_of_ne same] at removed
    cases removed

theorem Tended.append (tended : Tended phase store) {payload : Payload key} (info : EventInfo)
    (valid : validatePayload key payload = .ok ()) :
    Halted (store.append (store.commitEvent key payload info now)) :=
  ⟨tended.running.append info now valid, tended.commit_cleared⟩

variable (now) in
theorem Tended.commit (tended : Tended phase store) {payload : Payload key} (info : EventInfo)
    (valid : validatePayload key payload = .ok ()) :
    Tended phase (store.commit key payload info now) where
  running := tended.running.commit info now valid
  cleared := tended.commit_cleared
  present := by
    intro starting inboxId posted
    by_cases same : key = .inbox inboxId
    · subst same
      rw [Store.lookup_commit_self]
      rfl
    · rw [Store.lookup_commit_of_ne (Ne.symm same)]
      refine tended.present starting inboxId ?_
      rw [TaskStore.Posted, Store.events_commit tended.running.clean,
        Store.latest_commitEvent_of_ne (Ne.symm same)] at posted
      exact posted

/-- Every commit of a repository. -/
theorem put_tended {payload : Payload key} {expected : Nat} {info : EventInfo} :
    Maintains (Tended phase) Halted (putObject taskId key payload expected info now)
      fun _ => True := by
  intro store tended
  refine put_meets tended.running.clean (.inl tended) (fun _ _ => tended) (fun _ => tended) ?_
  intro valid _
  exact ⟨.inr tended.torn, .inr (tended.append info valid), .inl (tended.commit _ info valid),
    tended.commit _ info valid, trivial⟩

/-- The removal of a snapshot: of a notification only while the process runs, and when it was
    read. -/
theorem delete_tended {expected : Nat} {info : EventInfo}
    (allowed : ∀ inboxId, key = .inbox inboxId → phase ≠ .starting ∧
      ∀ wrapper, store.lookup (.inbox inboxId) = some wrapper → wrapper.revision = expected →
        wrapper.payload.val.status = .read) (tended : Tended phase store) :
    Meets (deleteObject taskId key expected info) store
      (fun store => Tended phase store ∨ Halted store)
      (fun _ later => Tended phase later ∧ later.lookup key = none ∧
        ∀ other, other ≠ key → later.lookup other = store.lookup other)
      fun _ later => later = store := by
  refine delete_meets (.inl tended) ?_ (fun _ => rfl) ?_
  · exact fun absent => ⟨tended, absent, fun _ _ => rfl⟩
  intro current found same
  have cleared : ClearedRead (store.append ⟨key, .removed current.revision, info⟩).events := by
    rw [Store.events_append tended.running.clean]
    refine tended.cleared.append fun inboxId removed => ?_
    by_cases notification : key = .inbox inboxId
    · subst notification
      have committed := tended.running.committed _ current found
      exact ⟨current, committed, (allowed inboxId rfl).2 current found same.symm⟩
    · rw [Event.outcome_of_ne notification] at removed
      cases removed
  have appended : Halted (store.append ⟨key, .removed current.revision, info⟩) :=
    ⟨tended.running.append_removed info found, cleared⟩
  have removed : Tended phase
      ((store.append ⟨key, .removed current.revision, info⟩).unlink key) := by
    refine ⟨tended.running.remove info found, cleared, ?_⟩
    intro starting inboxId posted
    by_cases notification : key = .inbox inboxId
    · exact absurd starting (allowed inboxId notification).1
    · rw [Store.lookup_unlink_of_ne (Ne.symm notification), Store.lookup_append]
      refine tended.present starting inboxId ?_
      rw [TaskStore.Posted, Store.events_unlink, Store.events_append tended.running.clean,
        latest_append_of_none Event.snapshot_removed] at posted
      exact posted
  refine ⟨.inr tended.torn, .inr appended, .inl removed, removed, ?_, ?_⟩
  · exact Store.lookup_unlink_self
  · intro other different
    rw [Store.lookup_unlink_of_ne different, Store.lookup_append]

theorem side_tended {side : SideFiles} (tended : Tended phase store)
    (registry : side.registry = store.side.registry) : Tended phase (store.withSide side) where
  running :=
    { readable := tended.running.readable
      behind := tended.running.behind
      sequenced := tended.running.sequenced
      recorded := tended.running.recorded
      accepted := tended.running.accepted
      copied := by
        intro key record found
        refine tended.running.copied key record ?_
        rw [← registry]
        exact found
      clean := tended.running.clean
      committed := tended.running.committed }
  cleared := tended.cleared
  present := tended.present

/-- The sequence number of an activity. -/
theorem nextSequence_tended :
    Maintains (Tended phase) Halted nextSequence fun _ => True := by
  intro store tended
  have counted : Tended phase (store.withSide
      { store.side with sequence := store.side.sequence + 1 }) := side_tended tended rfl
  refine Meets.looked rfl (Meets.bind (Meets.write (.inl tended) (.inl tended) (.inl counted) ?_))
  exact Meets.pure (.inl counted) ⟨counted, trivial⟩

theorem tended_undisturbed : Undisturbed taskId (Tended phase) Halted where
  truncated := by
    intro store tended
    have same : Disk.apply store (.truncate : TaskWrite) = store :=
      Store.truncate_of_clean tended.running.clean
    rw [same]
    exact ⟨tended, .inl tended⟩
  sequence := nextSequence_tended
  inboxes _ _ _ _ _ _ := put_tended
  records := by
    intro instanceId attemptId gates now
    refine Maintains.andThen Maintains.look fun existing => ?_
    cases existing with
    | some approval => exact Maintains.check
    | none =>
        intro store tended
        refine Meets.looked rfl ?_
        have asked : Tended phase (store.withSide { store.side with
            approvalRequests := store.side.approvalRequests.insert
              (budgetApprovalId instanceId attemptId) ⟨some attemptId, gates⟩ }) :=
          side_tended tended rfl
        refine Meets.bind (Meets.write (.inl tended) (.inl tended) (.inl asked) ?_)
        refine (Maintains.andThen nextSequence_tended fun _ => ?_) _ asked
        exact Maintains.andThen put_tended fun _ => Maintains.done

end

/-! ## The operations -/

section

variable {taskId : Identifier} {now : Timestamp} {phase : ServicePhase} {store : TaskStore}
  {condition : TaskStore → Prop}

/-- What holds however a script ends, holds when its conflicts are left out. -/
theorem unlessConflict_meets {α : Type} {script : TaskScript α} {final : TaskStore → Prop}
    (meets : Meets script store condition (fun _ => final) fun _ => final) :
    Meets (unlessConflict script) store condition (fun _ => final) fun _ => final := by
  unfold unlessConflict
  refine Meets.rescue (Meets.bind (meets.kept.mono (fun _ => id) ?_ ?_))
  · rintro value later ⟨ended, held⟩
    exact Meets.pure held ended
  · rintro error later ⟨ended, held⟩
    cases error with
    | harness raised =>
        dsimp only
        split
        · exact Meets.pure held ended
        · exact Meets.raise held ended
    | _ => exact Meets.raise held ended

theorem unlessConflict_maintains {α : Type} {between : TaskStore → Prop} {script : TaskScript α}
    (maintains : Maintains condition between script fun _ => True) :
    Maintains condition between (unlessConflict script) fun _ => True := by
  intro store holds
  refine (unlessConflict_meets ((maintains store holds).mono (fun _ => id)
    (fun _ _ ended => ended.1) fun _ _ => id)).mono (fun _ => id) ?_ fun _ _ => id
  exact fun _ _ ended => ⟨ended, trivial⟩

/-- The listed notifications that have a snapshot are read. -/
def ReadStill (listed : List (InboxItem × Nat)) (store : TaskStore) : Prop :=
  ∀ entry ∈ listed, ∀ wrapper, store.lookup (.inbox entry.1.inboxId) = some wrapper →
    wrapper.payload.val.status = .read

theorem clearEach_tended (running : phase = .running) {owner : ApprovalMode}
    (listed : List (InboxItem × Nat)) (tended : Tended phase store)
    (read : ReadStill listed store) :
    Meets (clearEach taskId owner listed) store (fun store => Tended phase store ∨ Halted store)
      (fun _ => Tended phase) fun _ => Tended phase := by
  induction listed generalizing store with
  | nil => exact Meets.pure (.inl tended) tended
  | cons entry rest ih =>
      obtain ⟨item, storeRevision⟩ := entry
      unfold clearEach
      have awake : phase ≠ .starting := by
        rw [running]
        simp
      have allowed : ∀ inboxId, ObjectKey.inbox item.inboxId = .inbox inboxId →
          phase ≠ .starting ∧ ∀ wrapper, store.lookup (.inbox inboxId) = some wrapper →
            wrapper.revision = storeRevision → wrapper.payload.val.status = .read := by
        intro inboxId same
        obtain rfl := ObjectKey.inbox.inj same
        exact ⟨awake, fun wrapper found _ =>
          read (item, storeRevision) List.mem_cons_self wrapper found⟩
      have removes : Meets (deleteObject taskId (.inbox item.inboxId) storeRevision
          ⟨⟨owner.actorType, owner.operator⟩, "clear_read_inbox",
            s!"clear-read-{item.inboxId}-{storeRevision}", none⟩) store
          (fun store => Tended phase store ∨ Halted store)
          (fun _ later => Tended phase later ∧ ReadStill rest later)
          fun _ later => Tended phase later ∧ ReadStill rest later := by
        refine (delete_tended allowed tended).mono (fun _ => id) ?_ ?_
        · rintro value later ⟨tended, gone, others⟩
          refine ⟨tended, ?_⟩
          intro entry member wrapper found
          by_cases same : entry.1.inboxId = item.inboxId
          · have absent : later.lookup (.inbox entry.1.inboxId) = none := by
              rw [same]
              exact gone
            cases absent.symm.trans found
          · rw [others (.inbox entry.1.inboxId) (by simpa using same)] at found
            exact read entry (List.mem_cons_of_mem _ member) wrapper found
        · rintro error later rfl
          exact ⟨tended, fun entry member => read entry (List.mem_cons_of_mem _ member)⟩
      refine Meets.bind ((unlessConflict_meets removes).mono (fun _ => id) ?_
        fun _ _ ended => ended.1)
      rintro deleted later ⟨tended, read⟩
      refine Meets.bind ((ih tended read).mono (fun _ => id) ?_ fun _ _ => id)
      intro removed last tended
      exact Meets.pure (.inl tended) tended

/-- The snapshot of what is listed has the status. -/
theorem status_of_listed {owner : ApprovalMode} {status : InboxStatus} {entry : InboxItem × Nat}
    (listed : entry ∈ listInboxWith owner status store)
    {wrapper : Wrapper (Payload (.inbox entry.1.inboxId))}
    (found : store.lookup (.inbox entry.1.inboxId) = some wrapper) :
    wrapper.payload.val.status = status := by
  unfold listInboxWith at listed
  obtain ⟨stored, matching⟩ := List.mem_filter.mp (List.mem_mergeSort.mp listed)
  obtain ⟨inboxId, -, read⟩ := List.mem_filterMap.mp stored
  obtain ⟨other, lookup, same⟩ := Option.map_eq_some_iff.mp read
  have status := (of_decide_eq_true matching).2
  have item : other.payload.val = entry.1 := congrArg Prod.fst same
  have named : inboxId = entry.1.inboxId := by
    rw [← item]
    exact other.payload.property.symm
  subst named
  obtain rfl := Option.some.inj (lookup.symm.trans found)
  rw [item, status]

theorem clearReadNotifications_tended (running : phase = .running) (owner : ApprovalMode)
    (tended : Tended phase store) :
    Meets (clearReadNotifications taskId owner) store
      (fun store => Tended phase store ∨ Halted store)
      (fun _ => Tended phase) fun _ => Tended phase := by
  unfold clearReadNotifications
  refine Meets.looked rfl (clearEach_tended running _ tended ?_)
  exact fun entry listed wrapper found => status_of_listed listed found

theorem markEachRead_tended {owner : ApprovalMode} (listed : List (InboxItem × Nat)) :
    Maintains (Tended phase) Halted (markEachRead taskId now owner listed) fun _ => True := by
  induction listed with
  | nil => exact Maintains.done
  | cons entry rest ih =>
      unfold markEachRead
      refine Maintains.andThen (unlessConflict_maintains tended_undisturbed.inboxStatus) fun _ => ?_
      exact Maintains.andThen ih fun _ => Maintains.done

theorem markInstanceNotificationsRead_tended {instanceId : Identifier} {owner : ApprovalMode} :
    Maintains (Tended phase) Halted (markInstanceNotificationsRead taskId now instanceId owner)
      fun _ => True :=
  Maintains.andThen Maintains.look fun _ => markEachRead_tended _

end

/-! ## The startup -/

/-- A write that records no event of a notification. -/
def AsideWrite : TaskWrite → Prop
  | .append event => event.key.inboxId? = none
  | _ => True

/-- Events that are not about notifications have been added. -/
def AsideOf (start store : TaskStore) : Prop :=
  ∃ more, store.events = start.events ++ more ∧ ∀ event ∈ more, event.key.inboxId? = none

section

variable {taskId : Identifier} {now : Timestamp} {start store : TaskStore} {inboxId : Identifier}

theorem AsideWrite.keeps {w : TaskWrite} (aside : AsideWrite w) :
    Keeps (AsideOf start) (fun _ => False) w := by
  intro store held
  obtain ⟨more, events, other⟩ := held
  have same (later : TaskStore) (kept : later.events = store.events) : AsideOf start later :=
    ⟨more, kept.trans events, other⟩
  cases w with
  | append event =>
      refine ⟨?_, .inl (same _ Store.events_torn)⟩
      rcases Store.events_append_cases event store with kept | added
      · exact same _ kept
      · refine ⟨more ++ [event], ?_, ?_⟩
        · refine added.trans ?_
          rw [events, List.append_assoc]
        · intro some member
          rcases List.mem_append.mp member with old | new
          · exact other some old
          · obtain rfl := List.mem_singleton.mp new
            exact aside
  | truncate => exact ⟨same _ rfl, .inl (same _ rfl)⟩
  | replace key snapshot => exact ⟨same _ rfl, .inl (same _ rfl)⟩
  | unlink key => exact ⟨same _ rfl, .inl (same _ rfl)⟩
  | side value => exact ⟨same _ rfl, .inl (same _ rfl)⟩

theorem inboxId?_eq_none {key : ObjectKey} (aside : key.inboxId? = none) :
    key ≠ .inbox inboxId := by
  rintro rfl
  cases aside

theorem AsideOf.latest (aside : AsideOf start store) (inboxId : Identifier) :
    latest (.inbox inboxId) store.events = latest (.inbox inboxId) start.events := by
  obtain ⟨more, events, other⟩ := aside
  rw [events]
  exact latest_append_of_silent fun event member => inboxId?_eq_none (other event member)

theorem AsideOf.cleared (aside : AsideOf start store) (cleared : ClearedRead start.events) :
    ClearedRead store.events := by
  obtain ⟨more, events, other⟩ := aside
  rw [events]
  clear events
  induction more using List.reverseRecOn with
  | nil =>
      rw [List.append_nil]
      exact cleared
  | append_singleton more event ih =>
      rw [← List.append_assoc]
      refine ClearedRead.append_other (ih ?_) fun inboxId removed => ?_
      · exact fun some member => other some (List.mem_append_left _ member)
      · rw [Event.outcome_of_ne (inboxId?_eq_none (other event (by simp)))] at removed
        cases removed

theorem recoverRecords_aside :
    (recoverRecords (storeErrors taskId) : TaskScript _).WritesOnly AsideWrite := by
  unfold recoverRecords
  refine Script.WritesOnly.look fun journal => ?_
  cases journal.tail with
  | clean => exact Script.WritesOnly.pure
  | torn | garbled =>
      exact Script.WritesOnly.bind (Script.WritesOnly.write trivial) fun _ => Script.WritesOnly.pure
  | corrupt => exact Script.WritesOnly.raise

theorem putObject_aside {key : ObjectKey} {payload : Payload key} {expected : Nat}
    {info : EventInfo} (aside : key.inboxId? = none) :
    (putObject taskId key payload expected info now).WritesOnly AsideWrite := by
  unfold putObject put
  refine Script.WritesOnly.check fun _ => ?_
  refine Script.WritesOnly.look fun current => ?_
  refine Script.WritesOnly.check fun _ => ?_
  have finish (base : Nat) : Script.WritesOnly AsideWrite (do
      Script.write (.append ⟨key, .committed ⟨base + 1, payload, now⟩, info⟩)
      Script.write (.replace key ⟨base + 1, payload, now⟩)
      Pure.pure ⟨base + 1, payload, now⟩ : TaskScript (Wrapper (Payload key))) := by
    refine Script.WritesOnly.bind (Script.WritesOnly.write aside) fun _ => ?_
    exact Script.WritesOnly.bind (Script.WritesOnly.write trivial) fun _ => Script.WritesOnly.pure
  cases current with
  | some wrapper => exact Script.WritesOnly.bind Script.WritesOnly.pure finish
  | none =>
      refine Script.WritesOnly.bind recoverRecords_aside fun events => ?_
      exact Script.WritesOnly.bind Script.WritesOnly.pure finish

theorem recoverIdempotencyResults_aside {events : List TaskEvent} :
    (recoverIdempotencyResults taskId events).WritesOnly AsideWrite := by
  unfold recoverIdempotencyResults
  refine Script.WritesOnly.forEach fun event _ => ?_
  cases event.info.result with
  | none => exact Script.WritesOnly.pure
  | some result =>
      refine Script.WritesOnly.bind ?_ fun _ => Script.WritesOnly.pure
      unfold rememberDigest
      refine Script.WritesOnly.look fun side => ?_
      cases side.registry.lookup event.info.idempotencyKey with
      | some record => exact Script.WritesOnly.check fun _ => Script.WritesOnly.pure
      | none =>
          exact Script.WritesOnly.bind (Script.WritesOnly.write trivial) fun _ =>
            Script.WritesOnly.pure

theorem recoverObjects_aside {events : List TaskEvent} :
    (recoverObjects (storeErrors taskId) events : TaskScript Unit).WritesOnly AsideWrite := by
  unfold recoverObjects
  refine Script.WritesOnly.bind (Script.WritesOnly.forEach fun key _ => ?_) fun _ => ?_
  · cases latest key events with
    | none => exact Script.WritesOnly.pure
    | some committed =>
        unfold recoverObject
        refine Script.WritesOnly.look fun current => ?_
        cases current with
        | none => exact Script.WritesOnly.write trivial
        | some current =>
            dsimp only
            split
            · exact Script.WritesOnly.write trivial
            · split
              · exact Script.WritesOnly.raise
              · split
                · exact Script.WritesOnly.write trivial
                · exact Script.WritesOnly.pure
  · exact Script.WritesOnly.look fun _ =>
      Script.WritesOnly.forEach fun _ _ => Script.WritesOnly.lift

theorem retireFrom_aside {toKey : Identifier → ObjectKey} {active listed : List Identifier} :
    (retireFrom toKey active listed).WritesOnly AsideWrite := by
  unfold retireFrom
  refine Script.WritesOnly.forEach fun objectId _ => ?_
  split
  · exact Script.WritesOnly.pure
  · exact Script.WritesOnly.write trivial

theorem Plan.projections_aside {plan : Plan} {projection : Projection}
    (member : projection ∈ plan.projections) : projection.1.inboxId? = none := by
  rcases Plan.mem_projections.mp member with rfl | ⟨stage, -, rfl⟩ | ⟨item, -, rfl⟩
  · rfl
  · rfl
  · rfl

theorem reconcilePlanProjections_aside :
    (reconcilePlanProjections taskId now).WritesOnly AsideWrite := by
  unfold reconcilePlanProjections
  refine Script.WritesOnly.look fun stored => ?_
  cases stored with
  | none => exact Script.WritesOnly.pure
  | some wrapper =>
      refine Script.WritesOnly.bind (Script.WritesOnly.forEach fun projection member => ?_)
        fun _ => ?_
      · unfold reconcileProjection writeProjection
        refine Script.WritesOnly.look fun current => ?_
        split
        · exact Script.WritesOnly.pure
        · exact Script.WritesOnly.bind (putObject_aside (Plan.projections_aside member)) fun _ =>
            Script.WritesOnly.pure
      · unfold retirePlanProjections
        refine Script.WritesOnly.look fun stages => ?_
        refine Script.WritesOnly.bind retireFrom_aside fun _ => ?_
        exact Script.WritesOnly.look fun instances => retireFrom_aside

/-- The recovery of the store adds no event of a notification. -/
theorem recover_aside (start : TaskStore) :
    Meets (recover taskId now) start (AsideOf start) (fun _ => AsideOf start)
      fun _ => AsideOf start := by
  have writes : (recover taskId now).WritesOnly AsideWrite := by
    unfold recover
    refine Script.WritesOnly.bind recoverRecords_aside fun events => ?_
    refine Script.WritesOnly.bind recoverIdempotencyResults_aside fun _ => ?_
    refine Script.WritesOnly.bind recoverObjects_aside fun _ => ?_
    exact reconcilePlanProjections_aside
  have here : AsideOf start start := ⟨[], (List.append_nil _).symm, by simp⟩
  refine (writes.maintains (fun _ aside => aside.keeps) start here).mono ?_ ?_ fun _ _ => id
  · exact fun _ held => held.resolve_right id
  · exact fun _ _ held => held.1

theorem Halted.recover_stopped (halted : Halted start) (position : Nat) (torn : Bool) :
    Halted ((recover taskId now).stopped start position torn) := by
  have interrupted := halted.interrupted
  have recovering := (recover_meets taskId now interrupted.readable interrupted.behind
    interrupted.accepted).stopped position torn
  exact ⟨recovering.interrupted interrupted,
    ((recover_aside start).stopped position torn).cleared halted.cleared⟩

/-- The recovered store has a snapshot of every notification that was ever posted. -/
theorem Halted.recover_tended (halted : Halted start)
    (returned : (recover taskId now start).outcome = .ok ()) :
    Tended .starting ((recover taskId now).after start) := by
  have interrupted := halted.interrupted
  have recovered := (recover_meets taskId now interrupted.readable interrupted.behind
    interrupted.accepted).of_ok returned
  have aside : AsideOf start ((recover taskId now).after start) := (recover_aside start).after
  refine ⟨recovered.running interrupted, aside.cleared halted.cleared, ?_⟩
  intro _ inboxId posted
  rw [TaskStore.Posted, aside.latest] at posted
  obtain ⟨middle, -, events, lookup, rest⟩ := recovered.rebuilt
  rw [← lookup] at posted
  cases planned : latest .plan start.events with
  | none =>
      rw [planned] at rest
      rw [rest]
      exact posted
  | some wrapper =>
      rw [planned] at rest
      have untouched : ¬Touches true middle (Plan.projections wrapper.payload) (.inbox inboxId) := by
        rintro ⟨payload, member, -⟩
        cases Plan.projections_aside member
      rw [(rest.kept (.inbox inboxId) trivial untouched).1]
      exact posted

end

/-! ## The reconciliation -/

/-- The notification is due for an instance of the plan. -/
def TaskStore.Due (store : TaskStore) (inboxId : Identifier) : Prop :=
  ∃ plan, store.payload .plan = some plan ∧ ∃ item ∈ Plan.instances plan, ∃ request,
    item.terminalNotice = some request ∧ request.inboxId = inboxId

/-- The notifications among the events that follow those of the first store. -/
def newlyPosted (start store : TaskStore) : List Identifier :=
  (store.events.drop start.events.length).filterMap fun event => event.key.inboxId?

/-- What a reconciliation has reached: it has posted due notifications, each of them for the first
    time, and left those that were ever posted alone. -/
structure PostedSince (start store : TaskStore) : Prop where
  journal : ∃ more, store.events = start.events ++ more
  distinct : (newlyPosted start store).Nodup
  fresh : ∀ inboxId ∈ newlyPosted start store, ¬ start.Posted inboxId
  due : ∀ inboxId ∈ newlyPosted start store, start.Due inboxId
  kept : ∀ inboxId, start.Posted inboxId →
    store.lookup (.inbox inboxId) = start.lookup (.inbox inboxId)

section

variable {taskId : Identifier} {now : Timestamp} {start store later : TaskStore}
  {inboxId : Identifier} {request : NotificationRequest}

theorem newlyPosted_self : newlyPosted store store = [] := by
  unfold newlyPosted
  rw [List.drop_length]
  rfl

theorem PostedSince.refl (store : TaskStore) : PostedSince store store where
  journal := ⟨[], (List.append_nil _).symm⟩
  distinct := by
    rw [newlyPosted_self]
    exact List.nodup_nil
  fresh := by
    intro inboxId member
    rw [newlyPosted_self] at member
    cases member
  due := by
    intro inboxId member
    rw [newlyPosted_self] at member
    cases member
  kept _ _ := rfl

/-- Neither the journal nor a snapshot changes. -/
theorem PostedSince.of_same (since : PostedSince start store)
    (events : later.events = store.events)
    (lookup : ∀ inboxId, later.lookup (.inbox inboxId) = store.lookup (.inbox inboxId)) :
    PostedSince start later := by
  have same : newlyPosted start later = newlyPosted start store := by
    unfold newlyPosted
    rw [events]
  obtain ⟨more, journal⟩ := since.journal
  refine ⟨⟨more, events.trans journal⟩, ?_, ?_, ?_, ?_⟩
  · rw [same]
    exact since.distinct
  · rw [same]
    exact since.fresh
  · rw [same]
    exact since.due
  · intro inboxId posted
    rw [lookup]
    exact since.kept inboxId posted

theorem key_of_inboxId? {key : ObjectKey} (found : key.inboxId? = some inboxId) :
    key = .inbox inboxId := by
  cases key with
  | inbox other =>
      obtain rfl := Option.some.inj found
      rfl
  | _ => cases found

/-- A journal that goes on loses no notification. -/
theorem posted_of_longer (grown : start.events <+: later.events) (posted : start.Posted inboxId) :
    later.Posted inboxId := by
  obtain ⟨event, member, committed⟩ := latest_isSome_iff.mp posted
  exact latest_isSome_iff.mpr ⟨event, grown.subset member, committed⟩

theorem PostedSince.grown (since : PostedSince start store) : start.events <+: store.events := by
  obtain ⟨more, events⟩ := since.journal
  exact ⟨more, events.symm⟩

theorem posted_of_new (recorded : store.Recorded) (member : inboxId ∈ newlyPosted start store) :
    store.Posted inboxId := by
  obtain ⟨event, dropped, named⟩ := List.mem_filterMap.mp member
  have known := recorded event (List.mem_of_mem_drop dropped)
  rwa [key_of_inboxId? named] at known

/-- A due notification that was never posted is posted. -/
theorem PostedSince.post {event : TaskEvent} (since : PostedSince start store)
    (recorded : store.Recorded) (fresh : ¬ store.Posted inboxId) (due : start.Due inboxId)
    (key : event.key = .inbox inboxId) (events : later.events = store.events ++ [event])
    (lookup : ∀ other, other ≠ inboxId →
      later.lookup (.inbox other) = store.lookup (.inbox other)) : PostedSince start later := by
  obtain ⟨more, journal⟩ := since.journal
  have added : newlyPosted start later = newlyPosted start store ++ [inboxId] := by
    unfold newlyPosted
    rw [events, journal, List.append_assoc, List.drop_append_length, List.drop_append_length,
      List.filterMap_append, List.filterMap_cons_some (by rw [key]; rfl), List.filterMap_nil]
  have unposted : ¬ start.Posted inboxId := fun posted => fresh (posted_of_longer since.grown posted)
  have last {other : Identifier} (member : other ∈ newlyPosted start store ++ [inboxId]) :
      other ∈ newlyPosted start store ∨ other = inboxId := by
    simpa using member
  refine ⟨⟨more ++ [event], ?_⟩, ?_, ?_, ?_, ?_⟩
  · rw [events, journal, List.append_assoc]
  · rw [added]
    refine List.nodup_append.mpr ⟨since.distinct, List.nodup_singleton _, ?_⟩
    intro other member final new same
    obtain rfl := List.mem_singleton.mp new
    exact fresh (same ▸ posted_of_new recorded member)
  · intro other member
    rw [added] at member
    rcases last member with old | rfl
    · exact since.fresh other old
    · exact unposted
  · intro other member
    rw [added] at member
    rcases last member with old | rfl
    · exact since.due other old
    · exact due
  · intro other posted
    have different : other ≠ inboxId := by
      rintro rfl
      exact unposted posted
    rw [lookup other different]
    exact since.kept other posted

/-- The notification of an instance is found, or posted for the first time. -/
theorem ensureNotification_reconciles (tended : Tended .starting store)
    (since : PostedSince start store) (due : start.Due request.inboxId) :
    Meets (ensureNotification taskId request now) store
      (fun later => Halted later ∧ PostedSince start later)
      (fun _ later => Tended .starting later ∧ PostedSince start later)
      fun _ later => Tended .starting later ∧ PostedSince start later := by
  have here : Halted store ∧ PostedSince start store := ⟨tended.halted, since⟩
  unfold ensureNotification
  refine Meets.looked rfl ?_
  cases found : store.payload (ObjectKey.inbox request.inboxId) with
  | some existing =>
      refine Meets.guarded here ?_ fun _ _ => ⟨tended, since⟩
      exact fun _ _ => Meets.pure here ⟨tended, since⟩
  | none =>
      have absent : store.lookup (ObjectKey.inbox request.inboxId) = none :=
        Option.map_eq_none_iff.mp found
      have fresh : ¬ store.Posted request.inboxId := by
        intro posted
        have shown := tended.present rfl _ posted
        rw [absent] at shown
        cases shown
      dsimp only
      unfold nextSequence
      refine Meets.bind (Meets.looked rfl ?_)
      let numbered := store.withSide { store.side with sequence := store.side.sequence + 1 }
      have counted : Tended .starting numbered := side_tended tended rfl
      have still : PostedSince start numbered := since.of_same rfl fun _ => rfl
      have there : Halted numbered ∧ PostedSince start numbered := ⟨counted.halted, still⟩
      refine Meets.bind (Meets.write here here there (Meets.pure there ?_))
      refine Meets.bind (put_meets counted.running.clean there (fun _ _ => ⟨counted, still⟩)
        (fun _ => ⟨counted, still⟩) fun valid _ => ?_)
      have post {posted : TaskStore} {event : TaskEvent} (key : event.key = .inbox request.inboxId)
          (events : posted.events = numbered.events ++ [event])
          (lookup : ∀ other, other ≠ request.inboxId →
            posted.lookup (.inbox other) = numbered.lookup (.inbox other)) :
          PostedSince start posted :=
        still.post counted.running.recorded fresh due key events lookup
      have torn : PostedSince start numbered.torn :=
        still.of_same Store.events_torn fun _ => Store.lookup_torn
      refine ⟨⟨counted.torn, torn⟩, ⟨counted.append _ valid, ?_⟩, ?_⟩
      · exact post rfl (Store.events_append counted.running.clean) fun _ _ => rfl
      · let item : Payload (.inbox request.inboxId) :=
          ⟨request.item taskId (store.side.sequence + 1) now, rfl⟩
        let info : EventInfo := ⟨⟨.system, "notification_reducer"⟩, "ensure_notification",
          "ensure-" ++ request.inboxId, none⟩
        have committed : Tended .starting (numbered.commit _ item info now) :=
          counted.commit now info valid
        have since : PostedSince start (numbered.commit _ item info now) :=
          post rfl (Store.events_commit counted.running.clean) fun other different =>
            Store.lookup_commit_of_ne (by simpa using different)
        exact ⟨⟨committed.halted, since⟩, Meets.pure ⟨committed.halted, since⟩ ⟨committed, since⟩⟩

variable (taskId now) in
theorem reconcileTerminalNotifications_meets (tended : Tended .starting start) :
    Meets (reconcileTerminalNotifications taskId now) start
      (fun later => Halted later ∧ PostedSince start later)
      (fun _ later => Tended .starting later ∧ PostedSince start later)
      fun _ later => Tended .starting later ∧ PostedSince start later := by
  have here : Halted start ∧ PostedSince start start := ⟨tended.halted, PostedSince.refl start⟩
  unfold reconcileTerminalNotifications
  refine Meets.looked rfl ?_
  cases planned : start.payload (ObjectKey.plan : ObjectKey) with
  | none => exact Meets.pure here ⟨tended, here.2⟩
  | some plan =>
      refine Meets.forEachRest (motive := fun rest later =>
        (∀ item ∈ rest, item ∈ Plan.instances plan) ∧ Tended .starting later ∧
          PostedSince start later) ?_ ?_ ⟨fun _ => id, tended, here.2⟩ fun _ => And.right
      · rintro item rest store ⟨listed, tended, since⟩
        have more : ∀ other ∈ rest, other ∈ Plan.instances plan :=
          fun other member => listed other (List.mem_cons_of_mem _ member)
        cases notice : item.terminalNotice with
        | none => exact Meets.pure ⟨tended.halted, since⟩ ⟨more, tended, since⟩
        | some request =>
            have due : start.Due request.inboxId :=
              ⟨plan, planned, item, listed item List.mem_cons_self, request, notice, rfl⟩
            refine Meets.bind ((ensureNotification_reconciles tended since due).kept.mono
              (fun _ => id) ?_ fun _ _ ended => ended.1)
            rintro value later ⟨ended, held⟩
            exact Meets.pure held ⟨more, ended⟩
      · exact fun _ _ held => ⟨held.2.1.halted, held.2.2⟩

end

/-! ## Histories of notifications -/

/-- What the services do while the process runs: other objects and notifications are committed,
    other objects are removed, and notifications are posted, marked and cleared. -/
inductive InboxOperation where
  | put (key : ObjectKey) (payload : Payload key) (expected : Nat) (info : EventInfo)
  | remove (key : ObjectKey) (expected : Nat) (info : EventInfo)
  | ensure (request : NotificationRequest)
  | updateStatus (inboxId : Identifier) (target : InboxStatus) (envelope : CommandEnvelope)
  | markRead (instanceId : Identifier) (owner : ApprovalMode)
  | clearRead (owner : ApprovalMode)
  | handleApproval (approvalId : Identifier) (actor : Actor) (idempotencyKey : String)

namespace InboxOperation

def script (taskId : Identifier) (now : Timestamp) : InboxOperation → TaskScript Unit
  | .put key payload expected info => do
      let _ ← putObject taskId key payload expected info now
  | .remove key expected info => do
      let _ ← deleteObject taskId key expected info
  | .ensure request => do
      let _ ← ensureNotification taskId request now
  | .updateStatus inboxId target envelope => do
      let _ ← updateInboxStatus taskId inboxId target envelope now
  | .markRead instanceId owner => do
      let _ ← markInstanceNotificationsRead taskId now instanceId owner
  | .clearRead owner => do
      let _ ← clearReadNotifications taskId owner
  | .handleApproval approvalId actor idempotencyKey =>
      handleApprovalNotification taskId approvalId actor idempotencyKey now

/-- A notification is removed by `clear_read_notifications` only, and its endpoint answers when the
    startup is over (`app.py:418-432`). -/
def Offered (phase : ServicePhase) : InboxOperation → Prop
  | .remove key _ _ => key.inboxId? = none
  | .clearRead _ => phase = .running
  | _ => True

end InboxOperation

/-- The stores that operations, interruptions and startups lead to, with the notifications that
    reconciliations have posted.  A startup recovers the store, lets the other services recover,
    and reconciles the notifications. -/
inductive NotificationRun (taskId : Identifier) :
    ServicePhase → TaskStore → List Identifier → Prop where
  | empty : NotificationRun taskId .running .empty []
  | operation {phase : ServicePhase} {store : TaskStore} {posted : List Identifier}
      (before : NotificationRun taskId phase store posted) (awake : phase ≠ .stopped)
      (operation : InboxOperation) (offered : operation.Offered phase) (now : Timestamp) :
      NotificationRun taskId phase ((operation.script taskId now).after store) posted
  | interrupted {phase : ServicePhase} {store : TaskStore} {posted : List Identifier}
      (before : NotificationRun taskId phase store posted) (awake : phase ≠ .stopped)
      (operation : InboxOperation) (offered : operation.Offered phase) (now : Timestamp)
      (position : Nat) (torn : Bool) :
      NotificationRun taskId .stopped
        ((operation.script taskId now).stopped store position torn) posted
  | recovered {phase : ServicePhase} {store : TaskStore} {posted : List Identifier}
      (before : NotificationRun taskId phase store posted) (now : Timestamp)
      (returned : (recover taskId now store).outcome = .ok ()) :
      NotificationRun taskId .starting ((recover taskId now).after store) posted
  | recoveryInterrupted {phase : ServicePhase} {store : TaskStore} {posted : List Identifier}
      (before : NotificationRun taskId phase store posted) (now : Timestamp) (position : Nat)
      (torn : Bool) :
      NotificationRun taskId .stopped ((recover taskId now).stopped store position torn) posted
  | reconciled {store : TaskStore} {posted : List Identifier}
      (before : NotificationRun taskId .starting store posted) (now : Timestamp) :
      NotificationRun taskId .running ((reconcileTerminalNotifications taskId now).after store)
        (posted ++ newlyPosted store ((reconcileTerminalNotifications taskId now).after store))
  | reconciliationInterrupted {store : TaskStore} {posted : List Identifier}
      (before : NotificationRun taskId .starting store posted) (now : Timestamp) (position : Nat)
      (torn : Bool) :
      NotificationRun taskId .stopped
        ((reconcileTerminalNotifications taskId now).stopped store position torn)
        (posted ++ newlyPosted store
          ((reconcileTerminalNotifications taskId now).stopped store position torn))

section

variable {taskId : Identifier} {phase : ServicePhase} {store : TaskStore}
  {posted : List Identifier}

variable (taskId) in
theorem InboxOperation.script_tended (operation : InboxOperation)
    (offered : operation.Offered phase) (now : Timestamp) (tended : Tended phase store) :
    Meets (operation.script taskId now) store (fun store => Tended phase store ∨ Halted store)
      (fun _ => Tended phase) fun _ => Tended phase := by
  -- A script that keeps the condition, whatever it returns.
  have discard {α : Type} {script : TaskScript α}
      (keeps : Maintains (Tended phase) Halted script fun _ => True) :
      Meets (do let _ ← script; pure ()) store (fun store => Tended phase store ∨ Halted store)
        (fun _ => Tended phase) fun _ => Tended phase := by
    refine (Maintains.andThen keeps (fun _ => Maintains.done) store tended).mono (fun _ => id) ?_
      fun _ _ => id
    exact fun _ _ ended => ended.1
  cases operation with
  | put key payload expected info => exact discard put_tended
  | remove key expected info =>
      have allowed : ∀ inboxId, key = .inbox inboxId → phase ≠ .starting ∧
          ∀ wrapper, store.lookup (.inbox inboxId) = some wrapper → wrapper.revision = expected →
            wrapper.payload.val.status = .read :=
        fun inboxId same => absurd same (inboxId?_eq_none offered)
      refine Meets.bind ((delete_tended allowed tended).mono (fun _ => id) ?_ ?_)
      · rintro value later ⟨kept, -⟩
        exact Meets.pure (.inl kept) kept
      · rintro error later rfl
        exact tended
  | ensure request => exact discard tended_undisturbed.notification
  | updateStatus inboxId target envelope => exact discard tended_undisturbed.inboxStatus
  | markRead instanceId owner => exact discard markInstanceNotificationsRead_tended
  | clearRead owner =>
      refine Meets.bind ((clearReadNotifications_tended offered owner tended).mono (fun _ => id) ?_
        fun _ _ => id)
      exact fun _ _ kept => Meets.pure (.inl kept) kept
  | handleApproval approvalId actor idempotencyKey =>
      have keeps : Maintains (Tended phase) Halted
          (handleApprovalNotification taskId approvalId actor idempotencyKey now) fun _ => True :=
        tended_undisturbed.handled
      exact (keeps store tended).mono (fun _ => id) (fun _ _ ended => ended.1) fun _ _ => id

/-- No script takes an event off the journal. -/
theorem events_grow {α : Type} (script : TaskScript α) (store : TaskStore) :
    Meets script store (fun later => store.events <+: later.events)
      (fun _ later => store.events <+: later.events)
      fun _ later => store.events <+: later.events := by
  have keeps (w : TaskWrite) :
      Keeps (fun later : TaskStore => store.events <+: later.events) (fun _ => False) w := by
    intro later grown
    cases w with
    | append event =>
        refine ⟨?_, .inl ?_⟩
        · rcases Store.events_append_cases event later with same | added
          · exact same ▸ grown
          · exact grown.trans ⟨[event], added.symm⟩
        · change store.events <+: later.torn.events
          rw [Store.events_torn]
          exact grown
    | truncate => exact ⟨grown, .inl grown⟩
    | replace key snapshot => exact ⟨grown, .inl grown⟩
    | unlink key => exact ⟨grown, .inl grown⟩
    | side value => exact ⟨grown, .inl grown⟩
  refine (Maintains.always keeps script store (List.prefix_refl _)).mono ?_ ?_ fun _ _ => id
  · exact fun _ held => held.resolve_right id
  · exact fun _ _ held => held.1

/-- The invariant of the runs. -/
structure RunKept (phase : ServicePhase) (store : TaskStore) (posted : List Identifier) : Prop where
  halted : Halted store
  tended : phase ≠ .stopped → Tended phase store
  distinct : posted.Nodup
  recorded : ∀ inboxId ∈ posted, store.Posted inboxId

theorem RunKept.reconciled {later : TaskStore} (kept : RunKept .starting store posted)
    (halted : Halted later) (since : PostedSince store later) (next : ServicePhase)
    (tended : next ≠ .stopped → Tended next later) :
    RunKept next later (posted ++ newlyPosted store later) where
  halted := halted
  tended := tended
  distinct := by
    refine List.nodup_append.mpr ⟨kept.distinct, since.distinct, ?_⟩
    intro inboxId old other new same
    exact since.fresh other new (same ▸ kept.recorded inboxId old)
  recorded := by
    intro inboxId member
    rcases List.mem_append.mp member with old | new
    · exact posted_of_longer since.grown (kept.recorded inboxId old)
    · exact posted_of_new halted.interrupted.recorded new

theorem NotificationRun.kept (run : NotificationRun taskId phase store posted) :
    RunKept phase store posted := by
  induction run with
  | empty =>
      have tended : Tended .running TaskStore.empty := by
        refine ⟨Running.empty, ?_, fun starting => ?_⟩
        · intro before event after inboxId split
          cases before <;> cases split
        · cases starting
      exact ⟨tended.halted, fun _ => tended, List.nodup_nil, fun _ member => by cases member⟩
  | operation before awake operation offered now ih =>
      have tended := (operation.script_tended taskId offered now (ih.tended awake)).after
      refine ⟨tended.halted, fun _ => tended, ih.distinct, ?_⟩
      exact fun inboxId member => posted_of_longer (events_grow _ _).after (ih.recorded inboxId member)
  | interrupted before awake operation offered now position torn ih =>
      have held := (operation.script_tended taskId offered now (ih.tended awake)).stopped position torn
      refine ⟨held.elim Tended.halted id, fun running => absurd rfl running, ih.distinct, ?_⟩
      exact fun inboxId member =>
        posted_of_longer ((events_grow _ _).stopped position torn) (ih.recorded inboxId member)
  | recovered before now returned ih =>
      have tended := ih.halted.recover_tended returned
      refine ⟨tended.halted, fun _ => tended, ih.distinct, ?_⟩
      exact fun inboxId member => posted_of_longer (events_grow _ _).after (ih.recorded inboxId member)
  | recoveryInterrupted before now position torn ih =>
      refine ⟨ih.halted.recover_stopped position torn, fun running => absurd rfl running,
        ih.distinct, ?_⟩
      exact fun inboxId member =>
        posted_of_longer ((events_grow _ _).stopped position torn) (ih.recorded inboxId member)
  | reconciled before now ih =>
      have starting : ServicePhase.starting ≠ .stopped := by simp
      obtain ⟨tended, since⟩ := (reconcileTerminalNotifications_meets taskId now
        (ih.tended starting)).after
      refine ih.reconciled tended.halted since .running fun _ => ?_
      exact ⟨tended.running, tended.cleared, fun phase => by cases phase⟩
  | reconciliationInterrupted before now position torn ih =>
      have starting : ServicePhase.starting ≠ .stopped := by simp
      obtain ⟨halted, since⟩ := (reconcileTerminalNotifications_meets taskId now
        (ih.tended starting)).stopped position torn
      exact ih.reconciled halted since .stopped fun running => absurd rfl running

/-- In every run the reconciliations post no notification twice, hence at most one for each end of
    an instance.  A reconciliation posts due notifications only, leaves those that were ever posted
    as they are, and none that its owner has attended to is unread afterwards. -/
theorem notifications_reconciled (run : NotificationRun taskId phase store posted) :
    posted.Nodup ∧
      (∀ (item : AgentInstance) (request : NotificationRequest),
        item.terminalNotice = some request → posted.count request.inboxId ≤ 1) ∧
      (phase = .starting → ∀ now stop,
        (∀ inboxId ∈ newlyPosted store
            ((reconcileTerminalNotifications taskId now).upTo stop store), store.Due inboxId) ∧
        ∀ inboxId,
          (store.Posted inboxId →
            ((reconcileTerminalNotifications taskId now).upTo stop store).lookup (.inbox inboxId) =
              store.lookup (.inbox inboxId)) ∧
          (store.Attended inboxId → ∀ wrapper,
            ((reconcileTerminalNotifications taskId now).upTo stop store).lookup
              (.inbox inboxId) = some wrapper → wrapper.payload.val.status ≠ .unread)) := by
  have kept := run.kept
  refine ⟨kept.distinct, fun _ request _ => List.nodup_iff_count_le_one.mp kept.distinct _, ?_⟩
  rintro rfl now stop
  have tended := kept.tended (by simp)
  obtain ⟨-, since⟩ := (reconcileTerminalNotifications_meets taskId now tended).upTo stop
  refine ⟨since.due, fun inboxId => ⟨since.kept inboxId, ?_⟩⟩
  intro attended wrapper found
  -- What was attended to was posted, and its latest state is not unread.
  have settled : ∃ last, latest (.inbox inboxId) store.events = some last ∧
      last.payload.val.status ≠ .unread := by
    rcases attended with current | removed
    · exact current
    · obtain ⟨last, committed, read⟩ := tended.cleared.read removed
      exact ⟨last, committed, by simp [read]⟩
  obtain ⟨last, committed, status⟩ := settled
  have known : store.Posted inboxId := by
    rw [TaskStore.Posted, committed]
    rfl
  rw [since.kept inboxId known] at found
  have same := tended.running.committed _ wrapper found
  obtain rfl := Option.some.inj (committed.symm.trans same)
  exact status

end

/-- A task whose only instance has failed. -/
def failedPlan : Plan where
  task := { sampleTask with status := .failed }
  stages :=
    [{ stageId := "drafts"
       taskId := "task"
       type := .image
       position := 1
       dependsOn := []
       required := true
       requirementLifecycle := .fresh true
       status := .failed
       instanceIds := ["a"] }]
  instances :=
    [{ instanceId := "a"
       taskId := "task"
       stageId := "drafts"
       agentType := .image
       required := true
       requirementLifecycle := .fresh true
       status := .failed
       approvalMode := .human
       manualFinished := false
       manualBusinessStatus := none
       configRevision := 1
       workspaceRelpath := "instances/a"
       taskCardRelpath := "cards/a"
       uiUrl := none
       process := none
       restartRequired := none
       deliveryRejection := none
       startFailure := none
       createdAt := "t0" }]
  taskCards :=
    [{ cardId := "card_a"
       revision := 1
       taskId := "task"
       stageId := "drafts"
       instanceId := "a"
       agentType := .image
       objective := "Draw"
       content := ""
       createdAt := "t0" }]

def failedStore : TaskStore :=
  ((InboxOperation.put .plan failedPlan 0
    ⟨⟨.adapter, "image_adapter"⟩, "transition_instance", "observe", none⟩).script "task" "t1").after
    .empty

def notifiedStore : TaskStore :=
  (reconcileTerminalNotifications "task" "t2").after ((recover "task" "t2").after failedStore)

/-- The owner opens the instance and clears what was read. -/
def tidiedStore : TaskStore :=
  ((InboxOperation.clearRead .human).script "task" "t4").after
    (((InboxOperation.markRead "a" .human).script "task" "t3").after notifiedStore)

theorem tidied_run : NotificationRun "task" .starting ((recover "task" "t5").after tidiedStore)
    ([] ++ newlyPosted ((recover "task" "t2").after failedStore) notifiedStore) := by
  have failed : NotificationRun "task" .running failedStore [] :=
    .operation .empty (by simp) (.put .plan failedPlan 0
      ⟨⟨.adapter, "image_adapter"⟩, "transition_instance", "observe", none⟩) trivial "t1"
  have notified := (failed.recovered "t2" (by decide +kernel)).reconciled "t2"
  have viewed := notified.operation (by simp) (.markRead "a" .human) trivial "t3"
  have tidied := viewed.operation (by simp) (.clearRead .human) rfl "t4"
  exact tidied.recovered "t5" (by decide +kernel)

/-- The notification that was read and cleared is there again after the next startup, as read. -/
theorem notifications_reconciled_tidied :
    newlyPosted ((recover "task" "t2").after failedStore) notifiedStore =
        ["in_instance-failed:a"] ∧
      (tidiedStore.lookup (.inbox "in_instance-failed:a")).isNone = true ∧
      ∀ wrapper, ((reconcileTerminalNotifications "task" "t5").upTo none
        ((recover "task" "t5").after tidiedStore)).lookup (.inbox "in_instance-failed:a") =
          some wrapper → wrapper.payload.val.status ≠ .unread := by
  have cleared : ((recover "task" "t5").after tidiedStore).Attended "in_instance-failed:a" := by
    refine .inl ?_
    have status : (latest (.inbox "in_instance-failed:a")
        ((recover "task" "t5").after tidiedStore).events).map (·.payload.val.status) =
          some .read := by decide +kernel
    obtain ⟨wrapper, found, read⟩ := Option.map_eq_some_iff.mp status
    exact ⟨wrapper, found, by simp [read]⟩
  refine ⟨by decide +kernel, by decide +kernel, ?_⟩
  have reconciled := (notifications_reconciled tidied_run).2.2 rfl "t5" none
  exact (reconciled.2 "in_instance-failed:a").2 cleared

end DesignHarness
