import DesignHarness.Services.InboxLookup
import DesignHarness.Services.PendingDecisions
import DesignHarness.Storage.History

/-!
# Resolving a budget approval

Every operation of the service keeps a process ready for the decisions in flight, and
`resolve_approval` adds one.  A decision whose key no other command has taken is always completed
by calling `resolve_approval` again.
-/

namespace DesignHarness

open Library

section

variable {taskId : Identifier} {now : Timestamp} {decisions other : Decisions}
  {store : TaskStore} {attemptId approvalId : Identifier} {pending : PendingResolution}
  {budget updated : RetryBudget} {attempt changed : RetryAttempt} {ledger : RetryLedger}
  {current : Option RetryBudget} {allowed : RetryBudget → RetryPolicy → Prop}

/-- The decisions that a changed attempt has in flight. -/
theorem Covers.withAttempt (covers : Covers decisions (some budget))
    (found : budget.attempt changed.attemptId = .ok attempt)
    (kept : ∀ pending, changed.pendingResolution = some pending →
      decisions changed.attemptId = some pending ∧
        changed.approvalId = some pending.request.approvalId) :
    Covers decisions (some (budget.withAttempt changed ledger now)) := by
  rintro _ ⟨⟩ item pending foundItem prepared
  by_cases same : item.attemptId = changed.attemptId
  · rw [same, RetryBudget.attempt_withAttempt found] at foundItem
    obtain rfl := Except.ok.inj foundItem
    exact kept pending prepared
  · rw [RetryBudget.attempt_withAttempt_of_ne same] at foundItem
    exact covers budget rfl item pending foundItem prepared

theorem Covers.addAttempt (covers : Covers decisions (some budget))
    (fresh : changed.pendingResolution = none) :
    Covers decisions (some (budget.addAttempt changed ledger now)) := by
  rintro _ ⟨⟩ item pending foundItem prepared
  rcases RetryBudget.attempt_addAttempt foundItem with earlier | rfl
  · exact covers budget rfl item pending earlier prepared
  · rw [fresh] at prepared
    cases prepared

/-- No move but the preparation of a decision adds one. -/
theorem BudgetMove.covers {old new : RetryBudget} (move : BudgetMove allowed False resolves old new)
    (covers : Covers decisions (some old)) : Covers decisions (some new) := by
  cases move with
  | configured policy now permitted =>
      rintro _ ⟨⟩ item pending found prepared
      exact covers old rfl item pending found prepared
  | requested request agentType lineage tokens now unused resolved denied => exact covers.addAttempt rfl
  | granted request agentType lineage tokens now unused resolved passed => exact covers.addAttempt rfl
  | prepared attempt resolution envelope now found pending permitted => exact permitted.elim
  | resolved attempt pending now found prepared =>
      have same : (attempt.resolved pending now).attemptId = attempt.attemptId := by
        unfold RetryAttempt.resolved
        split <;> rfl
      have settled : (attempt.resolved pending now).pendingResolution = none := by
        unfold RetryAttempt.resolved
        split <;> rfl
      refine covers.withAttempt (same ▸ found) fun other prepared => ?_
      rw [settled] at prepared
      cases prepared
  | consumed attempt tokens now found authorized bounded =>
      have same : (attempt.consumed now).attemptId = attempt.attemptId := rfl
      exact covers.withAttempt (same ▸ found) fun pending prepared =>
        covers old rfl attempt pending found prepared
  | settled attempt tokens request now found reserved bounded =>
      have same : (attempt.settled tokens request now).attemptId = attempt.attemptId := rfl
      exact covers.withAttempt (same ▸ found) fun pending prepared =>
        covers old rfl attempt pending found prepared

theorem Covers.initial : Covers decisions (some (.initial taskId now)) := by
  rintro _ ⟨⟩ attempt pending found prepared
  cases found

theorem Covers.getD (covers : Covers decisions current) :
    Covers decisions (some (current.getD (.initial taskId now))) := by
  cases current with
  | none => exact Covers.initial
  | some budget => exact covers

theorem Ready.covers_stored (ready : Ready decisions store) : Covers decisions store.budget := by
  have covers := ready.covers
  rw [← ready.budget] at covers
  exact covers

theorem Ready.putBudget {actor : Actor} {command name : String} {digest : Request}
    {result : ServiceResult} (ready : Ready decisions store)
    (covers : Covers other (some updated))
    (different : ∀ approvalId decision, digest ≠ .resolveApproval approvalId decision)
    (committable : ∀ attemptId pending, other attemptId = some pending →
      Committable store.events store.side.approvalRequests attemptId pending) :
    Meets (DesignHarness.putBudget taskId updated actor command name digest result now) store
      Stoppable (fun _ later => Steady other (some updated) later ∧ ∃ event : TaskEvent,
        later.events = store.events ++ [event] ∧ event.info.idempotencyKey = name)
      fun _ _ => False := by
  have commits := @Ready.commit_budget now decisions other store
    ⟨actor, command, name, some ⟨digest, result⟩⟩ updated ready covers
    (Fitting.of_digest rfl different) committable
  refine Meets.bind (Meets.read ready.stoppable ?_)
  refine Meets.bind (ready.put_meets (fun _ rejected => by cases rejected)
    (fun stale => stale rfl) commits fun _ => ?_)
  refine Meets.pure commits.stoppable ⟨⟨commits, ?_⟩, _, Store.events_commit ready.clean, rfl⟩
  rw [TaskStore.budget, Store.payload, Store.lookup_commit_self]
  rfl

theorem Ready.guard :
    BudgetGuard taskId (fun _ _ => True) False (fun _ _ _ => True) (Covers decisions) (Ready decisions) Stoppable where
  truncated store ready := by
    obtain ⟨kept, -⟩ := Steady.truncated store ⟨ready, rfl⟩
    exact ⟨kept.toReady, .inl ready⟩
  sequence := Steady.maintains fun _ => Steady.sequence
  inboxes inboxId payload expected info now digests :=
    Steady.maintains fun _ => Steady.undisturbed.inboxes inboxId payload expected info now digests
  records instanceId attemptId gates now :=
    Steady.maintains fun _ => Steady.undisturbed.records instanceId attemptId gates now
  stored _ ready := ready.covers_stored
  lineages _ _ _ _ _ _ := trivial
  closed current new now covers move := move.covers covers.getD
  commits updated actor command name digest result now covers different := by
    intro store ready
    refine (ready.putBudget covers different ready.committable).mono (fun _ => Or.inr) ?_ ?_
    · exact fun _ _ ended => ⟨ended.1.toReady, trivial⟩
    · exact fun _ _ impossible => impossible.elim
  resolutions budget attempt pending now read found prepared := by
    intro store ready
    have inFlight : decisions attempt.attemptId = some pending := by
      obtain ⟨current, covers, rfl⟩ := read
      exact (covers.getD _ rfl attempt pending found prepared).1
    have steady : Steady decisions store.budget store := ⟨ready, rfl⟩
    refine (steady.commitResolution inFlight).mono (fun _ => Or.inr) ?_ ?_
    · exact fun _ _ ended => ⟨ended.1.toReady, trivial⟩
    · rintro _ later ⟨rfl, -⟩
      exact ready

/-! ## Completing a decision -/

/-- The budget after its decision. -/
def RetryBudget.decided (budget : RetryBudget) (attempt : RetryAttempt)
    (pending : PendingResolution) (now : Timestamp) : RetryBudget :=
  budget.withAttempt (attempt.resolved pending now) budget.ledger now

/-- The envelope under which the notification of a decision is handled, but for its revision. -/
def CommandEnvelope.handling (envelope : CommandEnvelope) : CommandEnvelope :=
  { envelope with idempotencyKey := "handle-budget-" ++ envelope.idempotencyKey }

/-- The notification of a decision can be handled: that envelope is accepted, and its key is
    unused. -/
def Notifiable (envelope : CommandEnvelope) (store : TaskStore) : Prop :=
  envelope.handling.accepted = true ∧ store.KeyUnused envelope.handling.idempotencyKey

theorem TaskStore.KeyUnused.append {later : TaskStore} {more : List TaskEvent} {name : String}
    (unused : store.KeyUnused name) (readable : later.Readable)
    (events : later.events = store.events ++ more)
    (others : ∀ event ∈ more, event.info.idempotencyKey ≠ name) : later.KeyUnused name := by
  refine ⟨readable, fun event member carries => ?_⟩
  change event ∈ later.events at member
  rw [events] at member
  rcases List.mem_append.mp member with before | new
  · exact unused.2 event before carries
  · exact others event new

theorem prepareKey_ne {name : String} : "budget-prepare-" ++ name ≠ name := by
  intro same
  have length := congrArg String.length same
  rw [String.length_append] at length
  have positive : "budget-prepare-".length = 15 := rfl
  omega

/-- The keys of a decision differ from that of its notification. -/
theorem handlingKey_ne {envelope : CommandEnvelope} {name : String}
    (other : name = envelope.idempotencyKey ∨ name = "budget-" ++ envelope.idempotencyKey ∨
      name = "budget-prepare-" ++ envelope.idempotencyKey) :
    name ≠ envelope.handling.idempotencyKey := by
  intro same
  have length := congrArg String.length same
  rw [CommandEnvelope.handling, String.length_append] at length
  have handling : "handle-budget-".length = 14 := rfl
  have committing : "budget-".length = 7 := rfl
  have preparing : "budget-prepare-".length = 15 := rfl
  rcases other with rfl | rfl | rfl
  · omega
  · rw [String.length_append] at length
    omega
  · rw [String.length_append] at length
    omega

/-- A decision in flight is completed, unless its key is taken; what may be raised after that is
    about a notification that cannot be handled. -/
theorem Steady.finish (steady : Steady decisions (some budget) store)
    (found : budget.attempt attempt.attemptId = .ok attempt)
    (prepared : attempt.pendingResolution = some pending) :
    Meets (finishPendingResolution taskId budget attempt now) store Stoppable
      (fun _ => Steady decisions (some (budget.decided attempt pending now)))
      fun _ later => later = store ∧ Refused taskId pending store ∨
        Steady decisions (some (budget.decided attempt pending now)) later ∧
          ¬Notifiable pending.envelope store := by
  have inFlight := (steady.decision steady.stored found prepared).1
  unfold finishPendingResolution
  rw [prepared]
  refine Meets.bind ((steady.commitResolution inFlight).mono (fun _ => id) ?_ fun _ _ => .inl)
  rintro _ later ⟨kept, ⟨approval, revision, rfl⟩, more, resolved, named⟩
  refine Meets.bind (Meets.lift kept.stoppable (fun result returned => ?_) fun error raised => ?_)
  · have move : BudgetMove (fun _ _ => True) False (fun _ _ _ => True) budget (budget.decided attempt pending now) :=
      .resolved attempt pending now found prepared
    have covers : Covers decisions (some (budget.decided attempt pending now)) :=
      move.covers (steady.stored ▸ steady.covers_stored)
    refine Meets.bind ((kept.putBudget covers (by simp) kept.committable).mono
      (fun _ => id) ?_ fun _ _ => False.elim)
    intro _ final ⟨decided, event, appended, name⟩
    have handled : Maintains (Steady decisions (some (budget.decided attempt pending now)))
        Stoppable (do
          handleResolutionNotification taskId pending.request.approvalId pending.envelope now
          pure result) fun _ => True :=
      Maintains.andThen Steady.undisturbed.handled fun _ => Maintains.done
    have stops : ∀ store, Steady decisions (some (budget.decided attempt pending now)) store ∨
        Stoppable store → Stoppable store := fun _ => Or.rec (fun steady => steady.stoppable) id
    by_cases notifiable : Notifiable pending.envelope store
    · obtain ⟨accepted, unused⟩ := notifiable
      obtain ⟨owner, inbox⟩ :=
        Option.isSome_iff_exists.mp (steady.committable _ _ inFlight).inbox
      have events : final.events = store.events ++ (more ++ [event]) := by
        rw [appended, resolved, List.append_assoc]
      have free : final.KeyUnused pending.envelope.handling.idempotencyKey := by
        refine unused.append decided.clean.readable events fun other member => ?_
        rcases List.mem_append.mp member with earlier | last
        · exact handlingKey_ne (.inl (named other earlier))
        · rw [List.mem_singleton.mp last]
          exact handlingKey_ne (.inr (.inl name))
      have returns := @handleApprovalNotification_returns taskId final _ now
        pending.request.approvalId pending.envelope.actor owner inbox (fun _ => accepted) free
      have whole := Meets.bind (returns.mono (fun _ => id)
        (fun _ _ _ => (Meets.pure trivial trivial : Meets (Pure.pure result : TaskScript
          ServiceResult) _ _ (fun _ _ => True) fun _ _ => False)) fun _ _ => id)
      refine ((handled final decided).and whole).mono (fun _ held => stops _ held.1) ?_ ?_
      · exact fun _ _ ended => ended.1.1
      · exact fun _ _ raised => raised.2.elim
    · refine (handled final decided).mono stops (fun _ _ ended => ended.1) ?_
      exact fun _ _ raised => .inr ⟨raised, notifiable⟩
  · cases raised

theorem RetryBudget.attempt_decided (found : budget.attempt attempt.attemptId = .ok attempt) :
    (budget.decided attempt pending now).attempt attempt.attemptId =
      .ok (attempt.resolved pending now) := by
  have same : (attempt.resolved pending now).attemptId = attempt.attemptId := by
    unfold RetryAttempt.resolved
    split <;> rfl
  have kept := @RetryBudget.attempt_withAttempt budget attempt now (attempt.resolved pending now)
    budget.ledger (same ▸ found)
  rw [same] at kept
  exact kept

/-- The decision about the attempt is committed in the stored budget. -/
def Decided (attemptId : Identifier) (store : TaskStore) : Prop :=
  ∃ budget attempt, store.budget = some budget ∧ budget.attempt attemptId = .ok attempt ∧
    attempt.pendingResolution = none ∧ attempt.resolution.isSome = true

theorem Steady.decided (steady : Steady decisions (some (budget.decided attempt pending now)) store)
    (found : budget.attempt attempt.attemptId = .ok attempt) :
    Decided attempt.attemptId store := by
  refine ⟨_, _, steady.stored, RetryBudget.attempt_decided found, ?_, ?_⟩
  · unfold RetryAttempt.resolved
    split <;> rfl
  · unfold RetryAttempt.resolved
    split <;> rfl

/-! ## Preparing a decision -/

/-- The decisions with one more in flight. -/
def Decisions.with (decisions : Decisions) (attemptId : Identifier)
    (pending : PendingResolution) : Decisions :=
  fun other => if other = attemptId then some pending else decisions other

theorem getBudget_meets {condition : TaskStore → Prop} (holds : condition store) :
    Meets (getBudget taskId now) store condition
      (fun budget later => later = store ∧ (store.payload ObjectKey.task).isSome = true ∧
        budget = store.budget.getD (.initial taskId now))
      fun _ later => later = store ∧ (store.payload ObjectKey.task).isSome = false := by
  refine Meets.bind (Meets.read holds (Meets.bind (Meets.lift holds (fun _ checked => ?_)
    fun error raised => ?_)))
  · exact Meets.bind (Meets.read holds (Meets.pure holds ⟨rfl, ensure_eq_ok.mp checked, rfl⟩))
  · exact ⟨rfl, Bool.not_eq_true _ ▸ (ensure_eq_error.mp raised).1⟩

/-- The attempt of a prepared decision. -/
theorem attempt_prepareResolution {resolution : BudgetResolution} {envelope : CommandEnvelope}
    (found : budget.attempt attempt.attemptId = .ok attempt) :
    (prepareResolution budget attempt resolution envelope now).attempt attempt.attemptId =
      .ok (attempt.prepared ⟨resolution, envelope, now⟩) :=
  @RetryBudget.attempt_withAttempt budget attempt now
    (attempt.prepared ⟨resolution, envelope, now⟩) budget.ledger found

/-- The prepared budget has one decision more. -/
theorem Covers.prepared (covers : Covers decisions (some budget)) {resolution : BudgetResolution}
    {envelope : CommandEnvelope} (found : budget.attempt attempt.attemptId = .ok attempt)
    (bound : attempt.approvalId = some resolution.approvalId) :
    Covers (decisions.with attempt.attemptId ⟨resolution, envelope, now⟩)
      (some (prepareResolution budget attempt resolution envelope now)) := by
  rintro _ ⟨⟩ item pending foundItem prepared
  unfold Decisions.with
  by_cases same : item.attemptId = attempt.attemptId
  · rw [if_pos same]
    rw [same, attempt_prepareResolution found] at foundItem
    obtain rfl := Except.ok.inj foundItem
    obtain rfl := Option.some.inj prepared
    exact ⟨rfl, bound⟩
  · rw [if_neg same]
    have kept := @RetryBudget.attempt_withAttempt_of_ne budget item.attemptId now
      (attempt.prepared ⟨resolution, envelope, now⟩) budget.ledger same
    exact covers budget rfl item pending (kept.symm.trans foundItem) prepared

/-- A decision that passes the checks can be committed. -/
theorem Ready.committable_prepared (ready : Ready decisions store)
    {resolution : BudgetResolution} {envelope : CommandEnvelope}
    {details : ApprovalDetails resolution.approvalId} {committedAt : String}
    (task : (store.payload ObjectKey.task).isSome = true)
    (stored : store.lookup (.approval resolution.approvalId) =
      some ⟨details.approvalRevision, details.approval, committedAt⟩)
    (asked : store.side.approvalRequests.lookup resolution.approvalId = some details.payload)
    (owner : details.payload.attemptId = some attempt.attemptId)
    (override : checkOverride details.approval.val resolution = .ok ())
    (checked : checkPreparation details attempt resolution envelope = .ok ()) :
    ∀ attemptId pending,
      decisions.with attempt.attemptId ⟨resolution, envelope, now⟩ attemptId = some pending →
      Committable store.events store.side.approvalRequests attemptId pending := by
  intro attemptId pending found
  unfold Decisions.with at found
  split at found
  · rename_i same
    obtain rfl := Option.some.inj found
    have recorded : (latest ObjectKey.task store.events).isSome = true := by
      rwa [Store.payload, Option.isSome_map, ready.task] at task
    simp only [checkPreparation, bind_eq_ok, ensure_eq_ok] at checked
    obtain ⟨-, ⟨pending, -⟩, -, actor, -, revision, -⟩ := checked
    have inbox : envelope.actorType.inboxOwner.isSome = true := by
      rw [actor]
      cases details.approval.val.owner <;> rfl
    refine ⟨recorded, inbox, _, (ready.approvals _) ▸ stored, override, _, asked, same ▸ owner,
      .inl ?_⟩
    simp only [checkResolution, bind_eq_ok, ensure_eq_ok]
    exact ⟨(), pending, (), actor, revision⟩
  · exact ready.committable attemptId pending found

/-- The caller's key is taken by another command. -/
def KeyTaken (taskId : Identifier) (resolution : BudgetResolution) (envelope : CommandEnvelope)
    (store : TaskStore) : Prop :=
  ∃ error, committedResult taskId envelope.idempotencyKey "resolve_approval"
    (.resolveApproval resolution.approvalId resolution.decision) store.events none = .error error

/-- A lookup does not see the events under other keys. -/
theorem committedResult_append_other {name command : String} {digest : Request}
    {events : List TaskEvent} {event : TaskEvent} (different : event.info.idempotencyKey ≠ name) :
    committedResult taskId name command digest (events ++ [event]) none =
      committedResult taskId name command digest events none := by
  rw [committedResult_append]
  cases committedResult taskId name command digest events none with
  | error error => rfl
  | ok found =>
      change committedResult taskId name command digest [event] found = .ok found
      simp only [committedResult]
      split
      · rfl
      · rw [if_pos different]

/-- What `resolve_approval` leaves when it raises: the store as it was, a decision that is in
    flight under a taken key, or a committed decision. -/
inductive ResolutionFailed (taskId : Identifier) (resolution : BudgetResolution)
    (envelope : CommandEnvelope) (attemptId : Identifier) (store later : TaskStore) : Prop
  | unchanged (same : later = store)
  | taken (taken : KeyTaken taskId resolution envelope store) (ready : ∃ other, Ready other later)
  | decided (decided : Decided attemptId later) (other : Decisions) (ready : Ready other later)
      (pending : PendingResolution) (found : other attemptId = some pending)
      (same : pending.request.approvalId = resolution.approvalId)

theorem Ready.decideResolution (ready : Ready decisions store) {resolution : BudgetResolution}
    {envelope : CommandEnvelope} {context : ApprovalContext}
    (asked : store.side.approvalRequests.lookup resolution.approvalId = some context)
    (owner : context.attemptId = some attemptId)
    (override : ∀ wrapper : Wrapper (Payload (.approval resolution.approvalId)),
      store.lookup (.approval resolution.approvalId) = some wrapper →
        checkOverride wrapper.payload.val resolution = .ok ()) :
    Meets (DesignHarness.decideResolution taskId attemptId resolution envelope now) store Stoppable
      (fun _ later => Decided attemptId later ∧ ∃ other, Ready other later)
      fun _ later => ResolutionFailed taskId resolution envelope attemptId store later := by
  have holds := ready.stoppable
  refine Meets.bind ((getBudget_meets holds).mono (fun _ => id) ?_ ?_)
  · rintro budget store ⟨rfl, task, read⟩
    refine Meets.bind (Meets.lift holds (fun attempt found => ?_) fun _ _ => .unchanged rfl)
    obtain rfl := RetryBudget.attemptId_of_attempt found
    refine Meets.bind (Meets.lift holds (fun _ bound => ?_) fun _ _ => .unchanged rfl)
    have stored : store.budget = some budget := by
      cases current : store.budget with
      | none =>
          rw [read, current] at found
          cases found
      | some other =>
          rw [read, current]
          rfl
    cases prepared : attempt.pendingResolution with
    | some pending =>
        refine Meets.bind (Meets.lift holds (fun _ same => ?_) fun _ _ => .unchanged rfl)
        obtain ⟨sameRequest, sameKey⟩ := ensure_eq_ok.mp same
        have steady : Steady decisions (some budget) store := ⟨ready, stored⟩
        refine (steady.finish found prepared).mono (fun _ => id) ?_ ?_
        · exact fun _ later ended => ⟨ended.decided found, _, ended.toReady⟩
        · rintro _ later (⟨rfl, refused⟩ | ⟨ended, -⟩)
          · exact .unchanged rfl
          · exact .decided (ended.decided found) decisions ended.toReady pending
              (ready.decision stored found prepared).1 (sameRequest ▸ rfl)
    | none =>
        refine Meets.bind ((getApproval_meets holds).mono (fun _ => id) ?_ ?_)
        · rintro details store ⟨rfl, ⟨committedAt, approval⟩, request⟩
          rw [asked] at request
          obtain rfl := Option.some.inj request
          refine Meets.bind (Meets.lift holds (fun _ checked => ?_) fun _ _ => .unchanged rfl)
          have committable := @Ready.committable_prepared now decisions _ attempt ready resolution
            envelope details committedAt task approval asked owner (override _ approval) checked
          have covers : Covers decisions (some budget) := stored ▸ ready.covers_stored
          have prepares := @Covers.prepared now decisions budget attempt covers resolution envelope
            found (ensure_eq_ok.mp bound)
          refine Meets.bind ((ready.putBudget prepares (by simp) committable).mono
            (fun _ => id) ?_ fun _ _ => False.elim)
          intro _ later ⟨steady, event, appended, name⟩
          have kept := @attempt_prepareResolution now budget attempt resolution envelope found
          refine (steady.finish kept rfl).mono (fun _ => id) ?_ ?_
          · exact fun _ final ended => ⟨ended.decided kept, _, ended.toReady⟩
          · rintro _ final (⟨rfl, error, refused⟩ | ⟨ended, -⟩)
            · rw [appended, committedResult_append_other (name ▸ prepareKey_ne)] at refused
              exact .taken ⟨error, refused⟩ ⟨_, steady.toReady⟩
            · exact .decided (ended.decided kept) _ ended.toReady ⟨resolution, envelope, now⟩
                (if_pos rfl) rfl
        · rintro _ _ ⟨rfl, -⟩
          exact .unchanged rfl
  · rintro _ _ ⟨rfl, -⟩
    exact .unchanged rfl

/-- `resolve_approval` keeps a process ready, for one decision more at most. -/
theorem Ready.resolveApproval (ready : Ready decisions store) {resolution : BudgetResolution}
    {envelope : CommandEnvelope} :
    Meets (DesignHarness.resolveApproval taskId resolution envelope now) store Stoppable
      (fun _ later => ∃ other, Ready other later)
      fun _ later => (later.budget = store.budget ∧ Ready decisions later) ∨
        ∃ attemptId, ResolutionFailed taskId resolution envelope attemptId store later := by
  have holds := ready.stoppable
  refine Meets.bind ((getApproval_meets holds).mono (fun _ => id) ?_ ?_)
  · rintro details store ⟨rfl, ⟨committedAt, approval⟩, request⟩
    refine Meets.bind (Meets.lift holds (fun _ override => ?_) fun _ _ => .inl ⟨rfl, ready⟩)
    cases owner : details.payload.attemptId with
    | none => exact Meets.raise holds (.inl ⟨rfl, ready⟩)
    | some attemptId =>
        refine Meets.bind ((lookupCommitted_clean ready.clean holds).mono (fun _ => id) ?_ ?_)
        · rintro found store ⟨rfl, -⟩
          cases found with
          | some committed =>
              have handled : Maintains (Steady decisions store.budget) Stoppable (do
                  handleResolutionNotification taskId resolution.approvalId envelope now
                  pure committed) fun _ => True :=
                Maintains.andThen Steady.undisturbed.handled fun _ => Maintains.done
              refine (handled store ⟨ready, rfl⟩).mono ?_ ?_ ?_
              · exact fun _ => Or.rec (fun steady => steady.stoppable) id
              · exact fun _ _ ended => ⟨_, ended.1.toReady⟩
              · exact fun _ _ ended => .inl ⟨ended.stored, ended.toReady⟩
          | none =>
              refine (ready.decideResolution request owner ?_).mono (fun _ => id) ?_ ?_
              · intro wrapper stored
                rw [approval] at stored
                obtain rfl := Option.some.inj stored
                exact override
              · exact fun _ _ ended => ended.2
              · exact fun _ _ failed => .inr ⟨attemptId, failed⟩
        · rintro error store ⟨rfl, -⟩
          exact .inl ⟨rfl, ready⟩
  · rintro error store ⟨rfl, -⟩
    exact .inl ⟨rfl, ready⟩

/-- Calling `resolve_approval` again returns and commits the decision. -/
def Completes (taskId : Identifier) (attemptId : Identifier) (pending : PendingResolution)
    (store : TaskStore) : Prop :=
  ∀ now, (∃ result, (resolveApproval taskId pending.request pending.envelope now store).outcome =
      .ok result) ∧
    Decided attemptId ((resolveApproval taskId pending.request pending.envelope now).after store)

/-- No command but the decision itself has committed a result under the keys that are left to it,
    and its notification can be handled. -/
structure KeysFree (taskId : Identifier) (resolution : BudgetResolution)
    (envelope : CommandEnvelope) (store : TaskStore) : Prop where
  untaken : ¬KeyTaken taskId resolution envelope store
  uncommitted : committedResult taskId ("budget-" ++ envelope.idempotencyKey)
    "resolve_budget_approval" (.resolveBudgetApproval resolution) store.events none = .ok none
  notifiable : Notifiable envelope store

/-- A decision in flight is completed when its keys are free. -/
theorem Ready.completes (ready : Ready decisions store) (stored : store.budget = some budget)
    (found : budget.attempt attempt.attemptId = .ok attempt)
    (prepared : attempt.pendingResolution = some pending)
    (free : KeysFree taskId pending.request pending.envelope store) :
    Completes taskId attempt.attemptId pending store := by
  intro now
  have holds := ready.stoppable
  obtain ⟨inFlight, bound⟩ := ready.decision stored found prepared
  obtain ⟨task, -, wrapper, approval, override, context, request, owner, -⟩ :=
    ready.committable attempt.attemptId pending inFlight
  rw [← ready.approvals] at approval
  rw [← ready.task] at task
  have present : (store.payload ObjectKey.task).isSome = true := by
    rwa [Store.payload, Option.isSome_map]
  suffices meets : Meets (DesignHarness.resolveApproval taskId pending.request pending.envelope now)
      store Stoppable (fun _ => Decided attempt.attemptId) fun _ _ => False by
    cases ended : (DesignHarness.resolveApproval taskId pending.request pending.envelope now
        store).outcome with
    | ok result => exact ⟨⟨result, rfl⟩, meets.of_ok ended⟩
    | error error => exact (meets.of_error ended).elim
  refine Meets.bind ((getApproval_meets holds).mono (fun _ => id) ?_ ?_)
  · rintro ⟨stillApproval, revision, payload⟩ store ⟨rfl, ⟨committedAt, again⟩, asked⟩
    rw [approval] at again
    obtain rfl := Option.some.inj again
    rw [request] at asked
    obtain rfl := Option.some.inj asked
    refine Meets.bind (Meets.lift holds (fun _ _ => ?_) fun error raised => ?_)
    · dsimp only
      rw [owner]
      refine Meets.bind ((lookupCommitted_clean ready.clean holds).mono (fun _ => id) ?_ ?_)
      · rintro committed store ⟨rfl, returned⟩
        rw [free.uncommitted] at returned
        obtain rfl := Except.ok.inj returned
        refine Meets.bind ((getBudget_meets holds).mono (fun _ => id) ?_ ?_)
        · rintro _ store ⟨rfl, -, rfl⟩
          rw [stored]
          refine Meets.bind (Meets.lift holds (fun again refound => ?_) fun error raised => ?_)
          · rw [Option.getD_some, found] at refound
            obtain rfl := Except.ok.inj refound
            refine Meets.bind (Meets.lift holds (fun _ _ => ?_) fun error raised => ?_)
            · rw [prepared]
              refine Meets.bind (Meets.lift holds (fun _ _ => ?_) fun error raised => ?_)
              · have steady : Steady decisions (some budget) store := ⟨ready, stored⟩
                refine (steady.finish found prepared).mono (fun _ => id) ?_ ?_
                · exact fun _ later ended => ended.decided found
                · rintro _ later (⟨rfl, refused⟩ | ⟨-, unhandled⟩)
                  · exact free.untaken refused
                  · exact unhandled free.notifiable
              · exact absurd ⟨rfl, rfl⟩ (ensure_eq_error.mp raised).1
            · exact absurd bound (ensure_eq_error.mp raised).1
          · rw [Option.getD_some, found] at raised
            cases raised
        · rintro _ store ⟨rfl, absent⟩
          rw [present] at absent
          cases absent
      · rintro error store ⟨rfl, raised⟩
        rw [free.uncommitted] at raised
        cases raised
    · rw [override] at raised
      cases raised
  · rintro error store ⟨rfl, absent | absent⟩
    · rw [approval] at absent
      cases absent
    · rw [request] at absent
      cases absent

end

end DesignHarness
