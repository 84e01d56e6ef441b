import DesignHarness.Services.RetryBudget

/-!
# What an operation makes of a budget snapshot

`BudgetMove` lists the ways in which an operation of `RetryBudgetService` makes the next snapshot
from the one it read.  A property of snapshots that every move keeps holds of every snapshot that
is ever written, whatever the order of the operations and wherever they stop.
-/

namespace DesignHarness

open Library

/-- The next snapshot that an operation commits; `allowed` restricts the policies that are
    configured, `decides` says whether new decisions are prepared, and `resolves` which lineages
    a request can have. -/
inductive BudgetMove (allowed : RetryBudget → RetryPolicy → Prop) (decides : Prop)
    (resolves : RetryBudget → RetryRequest → RetryLineage → Prop) (old : RetryBudget) :
    RetryBudget → Prop
  | configured (policy : RetryPolicy) (now : Timestamp) (permitted : allowed old policy) :
      BudgetMove allowed decides resolves old
        { old with revision := old.revision + 1, retryPolicy := policy, updatedAt := now }
  | requested (request : RetryRequest) (agentType : AgentType) (lineage : RetryLineage)
      (tokens : Option Nat) (now : Timestamp)
      (unused : ∀ item ∈ old.attempts, item.attemptId ≠ request.attemptId)
      (resolved : resolves old request lineage)
      (denied : old.gates lineage.retryGroupId tokens request.estimatedCostMicros
        request.priceCatalogRevision ≠ []) :
      BudgetMove allowed decides resolves old (old.addAttempt (request.attempt lineage agentType tokens
        (old.gates lineage.retryGroupId tokens request.estimatedCostMicros
          request.priceCatalogRevision) now) old.ledger now)
  | granted (request : RetryRequest) (agentType : AgentType) (lineage : RetryLineage)
      (tokens : Nat) (now : Timestamp)
      (unused : ∀ item ∈ old.attempts, item.attemptId ≠ request.attemptId)
      (resolved : resolves old request lineage)
      (passed : old.gates lineage.retryGroupId (some tokens) request.estimatedCostMicros
        request.priceCatalogRevision = []) :
      BudgetMove allowed decides resolves old (old.addAttempt
        (request.attempt lineage agentType (some tokens) [] now)
        (old.ledger.reserve tokens request.estimatedCostMicros) now)
  | prepared (attempt : RetryAttempt) (resolution : BudgetResolution) (envelope : CommandEnvelope)
      (now : Timestamp) (found : old.attempt attempt.attemptId = .ok attempt)
      (pending : attempt.status = .pendingApproval) (permitted : decides) :
      BudgetMove allowed decides resolves old (prepareResolution old attempt resolution envelope now)
  | resolved (attempt : RetryAttempt) (pending : PendingResolution) (now : Timestamp)
      (found : old.attempt attempt.attemptId = .ok attempt)
      (prepared : attempt.pendingResolution = some pending) :
      BudgetMove allowed decides resolves old (old.withAttempt (attempt.resolved pending now) old.ledger now)
  | consumed (attempt : RetryAttempt) (tokens : Nat) (now : Timestamp)
      (found : old.attempt attempt.attemptId = .ok attempt) (authorized : attempt.status = .authorized)
      (bounded : attempt.reservedTokens = some tokens) :
      BudgetMove allowed decides resolves old (old.withAttempt (attempt.consumed now)
        (old.ledger.reserve tokens attempt.reservedCostMicros) now)
  | settled (attempt : RetryAttempt) (tokens : Nat) (request : SettleRequest) (now : Timestamp)
      (found : old.attempt attempt.attemptId = .ok attempt) (reserved : attempt.status = .reserved)
      (bounded : attempt.reservedTokens = some tokens) :
      BudgetMove allowed decides resolves old (old.withAttempt (attempt.settled tokens request now)
        (old.ledger.settle tokens attempt.reservedCostMicros request) now)

section

variable {allowed : RetryBudget → RetryPolicy → Prop} {decides : Prop}
  {resolves : RetryBudget → RetryRequest → RetryLineage → Prop} {old new budget : RetryBudget}
  {attempt : RetryAttempt} {attemptId : Identifier} {now : Timestamp}

/-! ## The decisions are moves -/

namespace RetryBudget

theorem attempt_eq_ok : budget.attempt attemptId = .ok attempt ↔
    (budget.attempts.find? fun item => item.attemptId = attemptId) = some attempt := by
  unfold RetryBudget.attempt
  cases budget.attempts.find? fun item => item.attemptId = attemptId with
  | none => simp [raiseHarness]
  | some found => simp

theorem attemptId_of_attempt (found : budget.attempt attemptId = .ok attempt) :
    attempt.attemptId = attemptId := by
  simpa using List.find?_some (attempt_eq_ok.mp found)

/-- An attempt is found under its own id. -/
theorem attempt_self (found : budget.attempt attemptId = .ok attempt) :
    budget.attempt attempt.attemptId = .ok attempt := by
  rw [attemptId_of_attempt found]
  exact found

theorem mem_of_attempt (found : budget.attempt attemptId = .ok attempt) :
    attempt ∈ budget.attempts :=
  List.mem_of_find?_eq_some (attempt_eq_ok.mp found)

/-- An attempt that was changed in place is found again. -/
theorem attempt_withAttempt {updated : RetryAttempt} {ledger : RetryLedger}
    (found : budget.attempt updated.attemptId = .ok attempt) :
    (budget.withAttempt updated ledger now).attempt updated.attemptId = .ok updated := by
  rw [attempt_eq_ok] at found ⊢
  exact find?_replaceFirst (by rw [found]; rfl)

/-- The other attempts are found as before. -/
theorem attempt_withAttempt_of_ne {updated : RetryAttempt} {ledger : RetryLedger}
    (different : attemptId ≠ updated.attemptId) :
    (budget.withAttempt updated ledger now).attempt attemptId = budget.attempt attemptId := by
  unfold attempt withAttempt
  rw [find?_replaceFirst_of_ne different]

/-- An attempt is found after another one was appended, or is the new one. -/
theorem attempt_addAttempt {added : RetryAttempt} {ledger : RetryLedger}
    (found : (budget.addAttempt added ledger now).attempt attemptId = .ok attempt) :
    budget.attempt attemptId = .ok attempt ∨ attempt = added := by
  rw [attempt_eq_ok] at found ⊢
  change (budget.attempts ++ [added]).find? _ = _ at found
  rw [List.find?_append] at found
  cases earlier : budget.attempts.find? fun item => item.attemptId = attemptId with
  | some other =>
      rw [earlier] at found
      exact .inl found
  | none =>
      rw [earlier] at found
      have member := List.mem_of_find?_eq_some found
      exact .inr (List.mem_singleton.mp member)

/-- Every gate denies a retry without a token amount. -/
theorem gates_of_unbounded {group : Identifier} {cost : Option Nat} {catalog : Option String} :
    budget.gates group none cost catalog ≠ [] := by
  simp [gates, tokenGate]

end RetryBudget

theorem configureBudget_move {policy : RetryPolicy} {expected : Nat} {result : ServiceResult}
    (permitted : allowed old policy)
    (decided : configureBudget old policy expected now = .ok (new, result)) :
    BudgetMove allowed decides resolves old new := by
  simp only [configureBudget, bind_eq_ok, ensure_eq_ok, pure_eq_ok, Except.ok.injEq,
    Prod.mk.injEq] at decided
  obtain ⟨-, -, rfl, -⟩ := decided
  exact .configured policy now permitted

theorem checkRetry_unused {modelCalls : AList fun _ : Identifier => Identifier}
    {request : RetryRequest} {lineage : RetryLineage}
    (checked : checkRetry old modelCalls request = .ok lineage) :
    ∀ item ∈ old.attempts, item.attemptId ≠ request.attemptId := by
  simp only [checkRetry, bind_eq_ok, ensure_eq_ok] at checked
  exact checked.choose_spec.1

theorem decideRetry_move {request : RetryRequest} {agentType : AgentType} {lineage : RetryLineage}
    {decision : RetryDecision} (unused : ∀ item ∈ old.attempts, item.attemptId ≠ request.attemptId)
    (resolved : resolves old request lineage)
    (decided : decideRetry old request agentType lineage now = .ok (new, decision)) :
    BudgetMove allowed decides resolves old new := by
  simp only [decideRetry, bind_eq_ok, pure_eq_ok, Except.ok.injEq, Prod.mk.injEq] at decided
  obtain ⟨tokens, -, rfl, -⟩ := decided
  by_cases passed : old.gates lineage.retryGroupId tokens request.estimatedCostMicros
      request.priceCatalogRevision = []
  · cases tokens with
    | none => exact absurd passed RetryBudget.gates_of_unbounded
    | some tokens =>
        rw [passed, if_pos rfl]
        exact .granted request agentType lineage tokens now unused resolved passed
  · rw [if_neg passed]
    exact .requested request agentType lineage tokens now unused resolved passed

theorem pending_of_checkPreparation {approvalId : Identifier} {details : ApprovalDetails approvalId}
    {resolution : BudgetResolution} {envelope : CommandEnvelope}
    (checked : checkPreparation details attempt resolution envelope = .ok ()) :
    attempt.status = .pendingApproval := by
  simp only [checkPreparation, bind_eq_ok, ensure_eq_ok] at checked
  exact checked.choose_spec.1.2

theorem consumeBudget_move {result : ServiceResult}
    (found : old.attempt attempt.attemptId = .ok attempt)
    (decided : consumeBudget old attempt now = .ok (new, result)) : BudgetMove allowed decides resolves old new := by
  simp only [consumeBudget, bind_eq_ok, ensure_eq_ok] at decided
  obtain ⟨-, authorized, decided⟩ := decided
  cases bounded : attempt.reservedTokens with
  | none =>
      rw [bounded] at decided
      cases decided
  | some tokens =>
      rw [bounded] at decided
      obtain ⟨rfl, -⟩ := Prod.mk.inj (Except.ok.inj decided)
      exact .consumed attempt tokens now found authorized bounded

theorem settleBudget_move {request : SettleRequest} {result : ServiceResult}
    (found : old.attempt attempt.attemptId = .ok attempt)
    (decided : settleBudget old attempt request now = .ok (new, result)) :
    BudgetMove allowed decides resolves old new := by
  simp only [settleBudget, bind_eq_ok, ensure_eq_ok] at decided
  obtain ⟨-, reserved, decided⟩ := decided
  cases bounded : attempt.reservedTokens with
  | none =>
      rw [bounded] at decided
      cases decided
  | some tokens =>
      rw [bounded] at decided
      obtain ⟨rfl, -⟩ := Prod.mk.inj (Except.ok.inj decided)
      exact .settled attempt tokens request now found reserved bounded

end

end DesignHarness
