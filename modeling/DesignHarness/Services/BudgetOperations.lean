import DesignHarness.Library.EventStoreRules
import DesignHarness.Services.BudgetMoves

/-!
# What the operations on a budget keep

The operations of `RetryBudgetService` write the budget snapshot, approvals and notifications.
`BudgetGuard` says what a condition on stores needs so that every operation keeps it: writes about
anything else keep it, and so does the commit of a budget that a `BudgetMove` makes of the stored
one.
-/

namespace DesignHarness

open Library

/-- The budget snapshot of the store. -/
def TaskStore.budget (store : TaskStore) : Option RetryBudget := store.payload .retryBudget

/-- The condition is not about the notifications. -/
structure Undisturbed (taskId : Identifier) (condition between : TaskStore → Prop) : Prop where
  truncated : Keeps condition between (.truncate : TaskWrite)
  sequence : Maintains condition between nextSequence fun _ => True
  inboxes : ∀ inboxId payload expected info now, (∀ result, info.result = some result →
      ∃ target, result.digest = .updateInboxStatus inboxId target) →
    Maintains condition between (putObject taskId (.inbox inboxId) payload expected info now)
      fun _ => True
  records : ∀ instanceId attemptId gates now, Maintains condition between
    (ensureBudgetRecord taskId instanceId attemptId gates now) fun _ => True

/-- A budget that is read is the stored one, or the initial one. -/
def ReadBudget (taskId : Identifier) (fits : Option RetryBudget → Prop) (now : Timestamp)
    (budget : RetryBudget) : Prop :=
  ∃ current, fits current ∧ budget = current.getD (.initial taskId now)

/-- The condition is kept by everything that the operations do; `fits` is what it says about the
    stored budget. -/
structure BudgetGuard (taskId : Identifier) (allowed : RetryBudget → RetryPolicy → Prop)
    (decides : Prop) (resolves : RetryBudget → RetryRequest → RetryLineage → Prop)
    (fits : Option RetryBudget → Prop) (condition between : TaskStore → Prop) : Prop extends Undisturbed taskId condition between where
  stored : ∀ store, condition store → fits store.budget
  lineages : ∀ store budget request lineage, condition store →
    checkRetry budget store.side.modelCalls request = .ok lineage → resolves budget request lineage
  closed : ∀ current new now, fits current →
    BudgetMove allowed decides resolves (current.getD (.initial taskId now)) new → fits (some new)
  commits : ∀ updated actor command name digest result now, fits (some updated) →
    (∀ approvalId decision, digest ≠ .resolveApproval approvalId decision) →
    Maintains condition between
      (putBudget taskId updated actor command name digest result now) fun _ => True
  resolutions : ∀ budget attempt pending now, ReadBudget taskId fits now budget →
    budget.attempt attempt.attemptId = .ok attempt → attempt.pendingResolution = some pending →
    Maintains condition between (commitResolution taskId pending.request.approvalId
      pending.request.decision pending.envelope now) fun _ => True

/-- The condition is about the budget alone. -/
structure AboutBudget (taskId : Identifier) (condition between : TaskStore → Prop) : Prop where
  truncated : Keeps condition between (.truncate : TaskWrite)
  sides : ∀ side, Keeps condition between (.side side : TaskWrite)
  puts : ∀ key (payload : Payload key) expected info now, key ≠ .retryBudget →
    Maintains condition between (putObject taskId key payload expected info now) fun _ => True

/-- A call of `configure` commits its policy: it is a human's, it is new, and it is about the
    current revision. -/
structure Reconfigures (taskId : Identifier) (policy : RetryPolicy) (expectedRevision : Nat)
    (name : String) (actor : Actor) (store : TaskStore) : Prop where
  human : actor.actorType = .human
  accepted : policy.accepted = true
  task : (store.payload .task).isSome = true
  fresh : committedResult taskId name "configure_retry_budget"
    (.configureRetryBudget policy expectedRevision) store.events none = .ok none
  current : store.budget.elim 0 RetryBudget.revision = expectedRevision

section

variable {taskId : Identifier} {now : Timestamp} {condition between : TaskStore → Prop}
  {allowed : RetryBudget → RetryPolicy → Prop} {decides : Prop}
  {resolves : RetryBudget → RetryRequest → RetryLineage → Prop} {fits : Option RetryBudget → Prop}

/-! ## Approvals and notifications -/

/-- A lookup cuts off a torn line at most, and reads the committed result of the journal. -/
theorem lookupCommitted_reads {store : TaskStore} {name command : String} {digest : Request}
    (truncated : Keeps condition between (.truncate : TaskWrite)) (holds : condition store) :
    Meets (lookupCommitted taskId name command digest) store
      (fun store => condition store ∨ between store)
      (fun found later => condition later ∧ later.snapshots = store.snapshots ∧
        committedResult taskId name command digest store.events none = .ok found)
      fun _ => condition := by
  have read : Meets (recoverRecords (storeErrors taskId)) store
      (fun store => condition store ∨ between store)
      (fun events later => condition later ∧ later.snapshots = store.snapshots ∧
        events = store.events) fun _ => condition := by
    refine Meets.bind (Meets.read (.inl holds) ?_)
    cases store.journal.tail with
    | clean => exact Meets.pure (.inl holds) ⟨holds, rfl, rfl⟩
    | torn | garbled =>
        obtain ⟨cut, interrupted⟩ := truncated store holds
        exact Meets.bind (Meets.write (.inl holds) interrupted (.inl cut)
          (Meets.pure (.inl cut) ⟨cut, rfl, rfl⟩))
    | corrupt => exact Meets.raise (.inl holds) holds
  refine Meets.bind (read.mono (fun _ => id) ?_ fun _ _ => id)
  rintro _ later ⟨holds, same, rfl⟩
  exact Meets.lift (.inl holds) (fun _ found => ⟨holds, same, found⟩) fun _ _ => holds

namespace Undisturbed

theorem lookup (quiet : Undisturbed taskId condition between) {name command : String}
    {digest : Request} :
    Maintains condition between (lookupCommitted taskId name command digest) fun _ => True :=
  Maintains.andThen (recoverRecords_maintains quiet.truncated) fun _ => Maintains.check

theorem notification (quiet : Undisturbed taskId condition between)
    {request : NotificationRequest} :
    Maintains condition between (ensureNotification taskId request now) fun _ => True := by
  refine Maintains.andThen Maintains.look fun existing => ?_
  cases existing with
  | some item => exact Maintains.andThen Maintains.check fun _ => Maintains.done
  | none =>
      refine Maintains.andThen quiet.sequence fun sequence => ?_
      refine Maintains.andThen (quiet.inboxes _ _ _ _ _ ?_) fun _ => Maintains.done
      rintro result ⟨⟩

theorem required {key : ObjectKey} :
    Maintains condition between (requireObject key) fun _ => True := by
  refine Maintains.andThen Maintains.look fun found => ?_
  cases found with
  | none => exact Maintains.raise
  | some wrapper => exact Maintains.done

theorem inboxStatus (quiet : Undisturbed taskId condition between) {inboxId : Identifier}
    {target : InboxStatus} {envelope : CommandEnvelope} :
    Maintains condition between (updateInboxStatus taskId inboxId target envelope now)
      fun _ => True := by
  refine Maintains.andThen required fun wrapper => ?_
  refine Maintains.andThen quiet.lookup fun found => ?_
  cases found with
  | some result => exact Maintains.done
  | none =>
      refine Maintains.andThen Maintains.check fun _ => ?_
      refine Maintains.andThen (quiet.inboxes _ _ _ _ _ ?_) fun _ => Maintains.done
      rintro result ⟨⟩
      exact ⟨target, rfl⟩

theorem handled (quiet : Undisturbed taskId condition between) {approvalId : Identifier}
    {actor : Actor} {name : String} :
    Maintains condition between (handleApprovalNotification taskId approvalId actor name now)
      fun _ => True := by
  unfold handleApprovalNotification
  cases actor.actorType.inboxOwner with
  | none => exact Maintains.raise
  | some owner =>
      refine Maintains.andThen Maintains.look fun listed => ?_
      cases listed.find? (·.1.approvalId = some approvalId) with
      | none => exact Maintains.done
      | some entry =>
          dsimp only
          split
          · exact Maintains.done
          · refine Maintains.andThen Maintains.check fun _ => ?_
            exact Maintains.andThen quiet.inboxStatus fun _ => Maintains.done

theorem budgetApproval (quiet : Undisturbed taskId condition between)
    {instanceId attemptId : Identifier} {gates : List Gate} :
    Maintains condition between (ensureBudgetApproval taskId instanceId attemptId gates now)
      fun _ => True := by
  refine Maintains.andThen Maintains.look fun stored => ?_
  refine Maintains.andThen Maintains.check fun _ => ?_
  refine Maintains.andThen (quiet.records _ _ _ _) fun _ => ?_
  exact Maintains.andThen quiet.notification fun _ => Maintains.done

theorem approval {approvalId : Identifier} :
    Maintains condition between (getApproval approvalId) fun _ => True := by
  refine Maintains.andThen required fun wrapper => ?_
  refine Maintains.andThen Maintains.look fun side => ?_
  cases side.approvalRequests.lookup approvalId with
  | none => exact Maintains.raise
  | some payload => exact Maintains.done

theorem instanceRequired {instanceId : Identifier} :
    Maintains condition between (requireInstance taskId instanceId) fun _ => True := by
  refine Maintains.andThen Maintains.look fun task => ?_
  refine Maintains.andThen Maintains.check fun _ => ?_
  refine Maintains.andThen Maintains.look fun found => ?_
  cases found with
  | none => exact Maintains.raise
  | some item => exact Maintains.andThen Maintains.check fun _ => Maintains.done

theorem concluded (quiet : Undisturbed taskId condition between) {decision : RetryDecision} :
    Maintains condition between (concludeRetry taskId decision now) fun _ => True := by
  unfold concludeRetry
  split
  · exact Maintains.done
  · exact Maintains.andThen quiet.budgetApproval fun _ => Maintains.raise

end Undisturbed

namespace AboutBudget

theorem undisturbed (about : AboutBudget taskId condition between) :
    Undisturbed taskId condition between := by
  have sequence : Maintains condition between nextSequence fun _ => True :=
    Maintains.andThen Maintains.look fun _ =>
      Maintains.andThen (Maintains.write (about.sides _)) fun _ => Maintains.done
  refine ⟨about.truncated, sequence, fun _ _ _ _ _ _ => about.puts _ _ _ _ _ (by simp), ?_⟩
  intro instanceId attemptId gates now
  refine Maintains.andThen Maintains.look fun existing => ?_
  cases existing with
  | some approval => exact Maintains.check
  | none =>
      refine Maintains.andThen Maintains.look fun side => ?_
      refine Maintains.andThen (Maintains.write (about.sides _)) fun _ => ?_
      refine Maintains.andThen sequence fun sequence => ?_
      exact Maintains.andThen (about.puts _ _ _ _ _ (by simp)) fun _ => Maintains.done

theorem resolution (about : AboutBudget taskId condition between) {approvalId : Identifier}
    {decision : Verdict} {envelope : CommandEnvelope} :
    Maintains condition between (commitResolution taskId approvalId decision envelope now)
      fun _ => True := by
  refine Maintains.andThen Undisturbed.approval fun details => ?_
  refine Maintains.andThen about.undisturbed.lookup fun found => ?_
  cases found with
  | some result => exact Maintains.done
  | none =>
      refine Maintains.andThen Maintains.check fun _ => ?_
      exact Maintains.andThen (about.puts _ _ _ _ _ (by simp)) fun _ => Maintains.done

end AboutBudget

/-! ## Operations -/

namespace BudgetGuard

theorem get (guard : BudgetGuard taskId allowed decides resolves fits condition between) :
    Maintains condition between (getBudget taskId now) (ReadBudget taskId fits now) := by
  refine Maintains.andThen Maintains.look fun task => ?_
  refine Maintains.andThen Maintains.check fun _ => ?_
  refine Maintains.bind (Maintains.read guard.stored) fun current fit => ?_
  exact Maintains.pure ⟨current, fit, rfl⟩

theorem moved (guard : BudgetGuard taskId allowed decides resolves fits condition between)
    {budget new : RetryBudget} (read : ReadBudget taskId fits now budget)
    (move : BudgetMove allowed decides resolves budget new) : fits (some new) := by
  obtain ⟨current, fit, rfl⟩ := read
  exact guard.closed current new now fit move

theorem requestRetry (guard : BudgetGuard taskId allowed decides resolves fits condition between)
    {request : RetryRequest} {name : String} {actor : Actor} :
    Maintains condition between (DesignHarness.requestRetry taskId request name actor now)
      fun _ => True := by
  have quiet := guard.toUndisturbed
  refine Maintains.andThen Maintains.check fun _ => ?_
  refine Maintains.andThen Undisturbed.instanceRequired fun item => ?_
  refine Maintains.andThen Maintains.check fun _ => ?_
  refine Maintains.andThen quiet.lookup fun found => ?_
  cases found with
  | some result =>
      cases result with
      | retryDecision committed => exact quiet.concluded
      | _ => exact Maintains.raise
  | none =>
      refine Maintains.bind guard.get fun budget read => ?_
      have sides : Maintains condition between (Script.read Store.side : TaskScript SideFiles)
          fun side => ∀ budget request lineage,
            checkRetry budget side.modelCalls request = .ok lineage →
              resolves budget request lineage :=
        Maintains.read fun store holds budget request lineage =>
          guard.lineages store budget request lineage holds
      refine Maintains.bind sides fun side resolved => ?_
      refine Maintains.bind (Maintains.lift fun _ checked => checked) fun lineage checked => ?_
      refine Maintains.bind (Maintains.lift fun _ decided => decided) ?_
      rintro ⟨updated, decision⟩ decided
      have move : BudgetMove allowed decides resolves budget updated :=
        decideRetry_move (checkRetry_unused checked) (resolved _ _ _ checked) decided
      refine Maintains.andThen (guard.commits _ _ _ _ _ _ _ (guard.moved read move) (by simp)) fun _ => ?_
      exact quiet.concluded

theorem finished (guard : BudgetGuard taskId allowed decides resolves fits condition between)
    {budget : RetryBudget} {attempt : RetryAttempt} (read : ReadBudget taskId fits now budget)
    (found : budget.attempt attempt.attemptId = .ok attempt) :
    Maintains condition between (finishPendingResolution taskId budget attempt now)
      fun _ => True := by
  have quiet := guard.toUndisturbed
  unfold finishPendingResolution
  cases prepared : attempt.pendingResolution with
  | none => exact Maintains.raise
  | some pending =>
      have move : BudgetMove allowed decides resolves budget _ := .resolved attempt pending now found prepared
      refine Maintains.andThen (guard.resolutions _ _ _ _ read found prepared) fun committed => ?_
      refine Maintains.andThen Maintains.check fun result => ?_
      refine Maintains.andThen (guard.commits _ _ _ _ _ _ _ (guard.moved read move) (by simp)) fun _ => ?_
      exact Maintains.andThen quiet.handled fun _ => Maintains.done

theorem decideResolution (guard : BudgetGuard taskId allowed decides resolves fits condition between)
    (permitted : decides) {attemptId : Identifier} {resolution : BudgetResolution}
    {envelope : CommandEnvelope} :
    Maintains condition between
      (DesignHarness.decideResolution taskId attemptId resolution envelope now) fun _ => True := by
  refine Maintains.bind guard.get fun budget read => ?_
  refine Maintains.bind (Maintains.lift fun _ found => found) fun attempt found => ?_
  refine Maintains.andThen Maintains.check fun _ => ?_
  cases prepared : attempt.pendingResolution with
  | some pending =>
      refine Maintains.andThen Maintains.check fun _ => ?_
      exact guard.finished read (RetryBudget.attempt_self found)
  | none =>
      refine Maintains.andThen Undisturbed.approval fun details => ?_
      refine Maintains.bind (Maintains.lift fun _ checked => checked) fun _ checked => ?_
      have move : BudgetMove allowed decides resolves budget _ :=
        .prepared attempt resolution envelope now (RetryBudget.attempt_self found)
          (pending_of_checkPreparation checked) permitted
      have fit := guard.moved read move
      refine Maintains.andThen (guard.commits _ _ _ _ _ _ _ fit (by simp)) fun _ => ?_
      have same := RetryBudget.attempt_self found
      exact guard.finished ⟨some _, fit, rfl⟩ (@RetryBudget.attempt_withAttempt budget attempt now
        (attempt.prepared ⟨resolution, envelope, now⟩) budget.ledger same)

theorem resolveApproval (guard : BudgetGuard taskId allowed decides resolves fits condition between)
    (permitted : decides) {resolution : BudgetResolution} {envelope : CommandEnvelope} :
    Maintains condition between (DesignHarness.resolveApproval taskId resolution envelope now)
      fun _ => True := by
  have quiet := guard.toUndisturbed
  refine Maintains.andThen Undisturbed.approval fun details => ?_
  refine Maintains.andThen Maintains.check fun _ => ?_
  cases details.payload.attemptId with
  | none => exact Maintains.raise
  | some attemptId =>
      refine Maintains.andThen quiet.lookup fun found => ?_
      cases found with
      | some committed => exact Maintains.andThen quiet.handled fun _ => Maintains.done
      | none => exact guard.decideResolution permitted

theorem consumeOverride (guard : BudgetGuard taskId allowed decides resolves fits condition between)
    {attemptId : Identifier} {name : String} {actor : Actor} :
    Maintains condition between (DesignHarness.consumeOverride taskId attemptId name actor now)
      fun _ => True := by
  refine Maintains.andThen Maintains.check fun _ => ?_
  refine Maintains.andThen guard.toUndisturbed.lookup fun committed => ?_
  cases committed with
  | some result => exact Maintains.done
  | none =>
      refine Maintains.bind guard.get fun budget read => ?_
      refine Maintains.bind (Maintains.lift fun _ found => found) fun attempt found => ?_
      dsimp only
      split
      · exact Maintains.done
      · refine Maintains.bind (Maintains.lift fun _ decided => decided) ?_
        rintro ⟨updated, result⟩ decided
        have move : BudgetMove allowed decides resolves budget updated :=
          consumeBudget_move (RetryBudget.attempt_self found) decided
        exact Maintains.andThen (guard.commits _ _ _ _ _ _ _ (guard.moved read move) (by simp)) fun _ =>
          Maintains.done

theorem settle (guard : BudgetGuard taskId allowed decides resolves fits condition between)
    {request : SettleRequest} {name : String} {actor : Actor} :
    Maintains condition between (DesignHarness.settle taskId request name actor now)
      fun _ => True := by
  refine Maintains.bind guard.get fun budget read => ?_
  refine Maintains.bind (Maintains.lift fun _ found => found) fun attempt found => ?_
  refine Maintains.andThen Maintains.check fun _ => ?_
  refine Maintains.andThen guard.toUndisturbed.lookup fun committed => ?_
  cases committed with
  | some result => exact Maintains.done
  | none =>
      dsimp only
      split
      · exact Maintains.andThen Maintains.check fun _ => Maintains.done
      · refine Maintains.bind (Maintains.lift fun _ decided => decided) ?_
        rintro ⟨updated, result⟩ decided
        have move : BudgetMove allowed decides resolves budget updated :=
          settleBudget_move (RetryBudget.attempt_self found) decided
        exact Maintains.andThen (guard.commits _ _ _ _ _ _ _ (guard.moved read move) (by simp)) fun _ =>
          Maintains.done

theorem recoverAttempts (guard : BudgetGuard taskId allowed decides resolves fits condition between)
    {candidates : List RetryAttempt} {budget : RetryBudget} (read : ReadBudget taskId fits now budget) :
    Maintains condition between (DesignHarness.recoverAttempts taskId now candidates budget)
      fun _ => True := by
  have quiet := guard.toUndisturbed
  induction candidates generalizing budget with
  | nil => exact Maintains.done
  | cons candidate rest ih =>
      refine Maintains.bind (Maintains.lift fun _ found => found) fun attempt found => ?_
      split
      · refine Maintains.andThen (guard.finished read (RetryBudget.attempt_self found)) fun _ => ?_
        exact Maintains.bind guard.get fun budget read => ih read
      · split
        · exact Maintains.andThen quiet.budgetApproval fun _ => ih read
        · split
          · exact Maintains.andThen quiet.handled fun _ => ih read
          · exact ih read

theorem recover (guard : BudgetGuard taskId allowed decides resolves fits condition between) :
    Maintains condition between (recoverBudget taskId now) fun _ => True := by
  refine Maintains.bind (Maintains.read guard.stored) fun current fit => ?_
  cases current with
  | none => exact Maintains.done
  | some budget => exact guard.recoverAttempts ⟨some budget, fit, rfl⟩

/-- `configure` keeps the condition when the policy that it commits is allowed. -/
theorem configure (guard : BudgetGuard taskId allowed decides resolves fits condition between)
    {policy : RetryPolicy} {expectedRevision : Nat} {name : String} {actor : Actor}
    {store : TaskStore} (holds : condition store)
    (permitted : Reconfigures taskId policy expectedRevision name actor store →
      allowed (store.budget.getD (.initial taskId now)) policy) :
    Meets (DesignHarness.configure taskId policy expectedRevision name actor now) store
      (fun store => condition store ∨ between store) (fun _ => condition) fun _ => condition := by
  refine Meets.bind (Meets.lift (.inl holds) (fun _ human => ?_) fun _ _ => holds)
  refine Meets.bind (Meets.lift (.inl holds) (fun _ accepted => ?_) fun _ _ => holds)
  refine Meets.bind ((lookupCommitted_reads guard.truncated holds).mono (fun _ => id) ?_
    fun _ _ => id)
  intro committed later ⟨holds, same, fresh⟩
  cases committed with
  | some result => exact Meets.pure (.inl holds) holds
  | none =>
      have sameTask : later.payload ObjectKey.task = store.payload ObjectKey.task := by
        rw [Store.payload, Store.lookup, same]
        rfl
      have sameBudget : later.budget = store.budget := by
        rw [TaskStore.budget, Store.payload, Store.lookup, same]
        rfl
      refine Meets.bind (Meets.bind (Meets.read (.inl holds) ?_))
      refine Meets.bind (Meets.lift (.inl holds) (fun _ task => ?_) fun _ _ => holds)
      refine Meets.bind (Meets.read (.inl holds) (Meets.pure (.inl holds) ?_))
      refine Meets.bind (Meets.lift (.inl holds) ?_ fun _ _ => holds)
      rintro ⟨updated, result⟩ decided
      change configureBudget (later.budget.getD _) _ _ _ = _ at decided
      rw [sameBudget] at decided
      have current : (store.budget.getD (.initial taskId now)).revision = expectedRevision := by
        simp only [configureBudget, bind_eq_ok, ensure_eq_ok] at decided
        exact decided.choose_spec.1
      have commits : Reconfigures taskId policy expectedRevision name actor store :=
        ⟨ensure_eq_ok.mp human, ensure_eq_ok.mp accepted, sameTask ▸ ensure_eq_ok.mp task, fresh,
          by cases stored : store.budget <;> rw [stored] at current <;> exact current⟩
      have move : BudgetMove allowed decides resolves _ updated :=
        configureBudget_move (permitted commits) decided
      have fit := guard.closed store.budget updated now (sameBudget ▸ guard.stored later holds) move
      have kept : Maintains condition between (do
          putBudget taskId updated actor "configure_retry_budget" name
            (.configureRetryBudget policy expectedRevision) result now
          pure result) fun _ => True :=
        Maintains.andThen (guard.commits _ _ _ _ _ _ _ fit (by simp)) fun _ => Maintains.done
      exact (kept later holds).mono (fun _ => id) (fun _ _ kept => kept.1) fun _ _ => id

end BudgetGuard

end

end DesignHarness
