import DesignHarness.Services.BudgetMoves

/-!
# The ledger of a budget

`RetryBudget.Balanced` ties the counters of the ledger to the attempts, `RetryBudget.Sound` adds
what the operations need to keep it.  `RetryBudget.WithinPolicy` bounds the retries that were
granted without a human by the policy, as long as the ledger is not frozen.
-/

namespace DesignHarness

open Library

def RetryAttempt.isReserved (attempt : RetryAttempt) : Bool := attempt.status = .reserved

def RetryAttempt.isSettled (attempt : RetryAttempt) : Bool := attempt.status.isSettled

/-- A settled attempt whose cost is unknown. -/
def RetryAttempt.isUnpriced (attempt : RetryAttempt) : Bool :=
  attempt.isSettled && attempt.actualCostMicros.isNone

/-- The counters of the ledger are the totals over the attempts. -/
structure RetryBudget.Balanced (budget : RetryBudget) : Prop where
  tokensReserved : budget.ledger.retryTokensReserved =
    total RetryAttempt.isReserved (·.reservedTokens.getD 0) budget.attempts
  tokensSettled : budget.ledger.retryTokensSettled =
    total RetryAttempt.isSettled (·.actualTokens.getD 0) budget.attempts
  costReserved : budget.ledger.retryCostMicrosReserved =
    total RetryAttempt.isReserved (·.reservedCostMicros.getD 0) budget.attempts
  costSettled : budget.ledger.retryCostMicrosSettled =
    if budget.attempts.any RetryAttempt.isUnpriced then none
    else some (total RetryAttempt.isSettled (·.actualCostMicros.getD 0) budget.attempts)

/-- The ledger over a list of attempts, with the number of unpriced settlements. -/
structure RetryLedger.Counts (ledger : RetryLedger) (attempts : List RetryAttempt) : Prop where
  tokensReserved : ledger.retryTokensReserved =
    total RetryAttempt.isReserved (·.reservedTokens.getD 0) attempts
  tokensSettled : ledger.retryTokensSettled =
    total RetryAttempt.isSettled (·.actualTokens.getD 0) attempts
  costReserved : ledger.retryCostMicrosReserved =
    total RetryAttempt.isReserved (·.reservedCostMicros.getD 0) attempts
  unknown : ledger.unknownCostSettlements = total RetryAttempt.isUnpriced (fun _ => 1) attempts
  costSettled : ledger.retryCostMicrosSettled =
    if ledger.unknownCostSettlements = 0 then
      some (total RetryAttempt.isSettled (·.actualCostMicros.getD 0) attempts)
    else none

/-- An attempt carries the amounts that its status calls for, and only a pending one is being
    decided. -/
structure RetryAttempt.Sound (attempt : RetryAttempt) : Prop where
  reserved : attempt.isReserved = true → attempt.reservedTokens.isSome = true
  settled : attempt.isSettled = true → attempt.actualTokens.isSome = true
  prepared : attempt.pendingResolution.isSome = true → attempt.status = .pendingApproval

/-- What every operation keeps. -/
structure RetryBudget.Sound (budget : RetryBudget) : Prop where
  counts : budget.ledger.Counts budget.attempts
  attempts : ∀ attempt ∈ budget.attempts, attempt.Sound

section

variable {allowed : RetryBudget → RetryPolicy → Prop} {decides : Prop}
  {resolves : RetryBudget → RetryRequest → RetryLineage → Prop} {old new budget : RetryBudget}
  {attempt updated : RetryAttempt} {ledger next : RetryLedger} {attemptId : Identifier}
  {attempts later : List RetryAttempt} {taskId : Identifier} {now : Timestamp}

theorem RetryLedger.Counts.unpriced_iff (counts : ledger.Counts attempts) :
    attempts.any RetryAttempt.isUnpriced = true ↔ ledger.unknownCostSettlements ≠ 0 := by
  rw [counts.unknown, ← countP_eq_total, List.any_eq_true, ← Nat.pos_iff_ne_zero,
    List.countP_pos_iff]

theorem RetryBudget.Sound.balanced (sound : budget.Sound) : budget.Balanced := by
  obtain ⟨counts, -⟩ := sound
  refine ⟨counts.tokensReserved, counts.tokensSettled, counts.costReserved, ?_⟩
  rw [counts.costSettled]
  by_cases known : budget.ledger.unknownCostSettlements = 0
  · rw [if_pos known, if_neg fun found => counts.unpriced_iff.mp found known]
  · rw [if_neg known, if_pos (counts.unpriced_iff.mpr known)]

/-- The truncated differences of a settlement are exact. -/
theorem RetryBudget.Balanced.covers (balanced : budget.Balanced) (member : attempt ∈ budget.attempts)
    (reserved : attempt.status = .reserved) :
    attempt.reservedTokens.getD 0 ≤ budget.ledger.retryTokensReserved ∧
      attempt.reservedCostMicros.getD 0 ≤ budget.ledger.retryCostMicrosReserved := by
  have selected : attempt.isReserved = true := by simp [RetryAttempt.isReserved, reserved]
  rw [balanced.tokensReserved, balanced.costReserved]
  constructor
  · have bound := @share_le_total _ RetryAttempt.isReserved (·.reservedTokens.getD 0) attempt _ member
    rwa [share, if_pos selected] at bound
  · have bound :=
      @share_le_total _ RetryAttempt.isReserved (·.reservedCostMicros.getD 0) attempt _ member
    rwa [share, if_pos selected] at bound

/-! ## One attempt moves -/

/-- The attempts are the earlier ones but for one attempt, and `before` is what was there. -/
structure Swapped (attempts later : List RetryAttempt) (before : Option RetryAttempt)
    (updated : RetryAttempt) : Prop where
  totals : ∀ selects amount, total selects amount later + before.elim 0 (share selects amount) =
    total selects amount attempts + share selects amount updated
  members : ∀ item ∈ later, item = updated ∨ item ∈ attempts
  earlier : ∀ item, before = some item → item ∈ attempts

theorem RetryBudget.swapped_withAttempt (found : budget.attempt updated.attemptId = .ok attempt) :
    Swapped budget.attempts (budget.withAttempt updated ledger now).attempts (some attempt)
      updated where
  totals _ _ := total_replaceFirst (RetryBudget.attempt_eq_ok.mp found)
  members _ := mem_replaceFirst
  earlier := by
    rintro item ⟨⟩
    exact RetryBudget.mem_of_attempt found

theorem RetryBudget.swapped_addAttempt :
    Swapped budget.attempts (budget.addAttempt updated ledger now).attempts none updated where
  totals selects amount := by simp [RetryBudget.addAttempt]
  members item member := by
    rcases List.mem_append.mp member with before | last
    · exact .inr before
    · exact .inl (List.mem_singleton.mp last)
  earlier := by
    rintro item ⟨⟩

/-- How the counters have to move with an attempt that was not settled before. -/
structure Moves (ledger next : RetryLedger) (before : Option RetryAttempt)
    (updated : RetryAttempt) : Prop where
  unsettled : ∀ item, before = some item → item.isSettled = false
  tokensReserved : next.retryTokensReserved +
      before.elim 0 (share RetryAttempt.isReserved (·.reservedTokens.getD 0)) =
    ledger.retryTokensReserved + share RetryAttempt.isReserved (·.reservedTokens.getD 0) updated
  tokensSettled : next.retryTokensSettled =
    ledger.retryTokensSettled + share RetryAttempt.isSettled (·.actualTokens.getD 0) updated
  costReserved : next.retryCostMicrosReserved +
      before.elim 0 (share RetryAttempt.isReserved (·.reservedCostMicros.getD 0)) =
    ledger.retryCostMicrosReserved +
      share RetryAttempt.isReserved (·.reservedCostMicros.getD 0) updated
  unknown : next.unknownCostSettlements =
    ledger.unknownCostSettlements + share RetryAttempt.isUnpriced (fun _ => 1) updated
  costSettled : ∀ known, ledger.retryCostMicrosSettled =
      (if ledger.unknownCostSettlements = 0 then some known else none) →
    next.retryCostMicrosSettled = if next.unknownCostSettlements = 0 then
      some (known + share RetryAttempt.isSettled (·.actualCostMicros.getD 0) updated) else none

/-- A ledger that moves with the attempt still counts the attempts. -/
theorem Swapped.counts {before : Option RetryAttempt}
    (swapped : Swapped attempts later before updated) (counts : ledger.Counts attempts)
    (moves : Moves ledger next before updated) : next.Counts later := by
  have unsettled : ∀ amount, before.elim 0 (share RetryAttempt.isSettled amount) = 0 := by
    intro amount
    cases before with
    | none => rfl
    | some item => simp [share, moves.unsettled item rfl]
  have priced : before.elim 0 (share RetryAttempt.isUnpriced fun _ => 1) = 0 := by
    cases before with
    | none => rfl
    | some item => simp [share, RetryAttempt.isUnpriced, moves.unsettled item rfl]
  have known := swapped.totals RetryAttempt.isSettled (·.actualCostMicros.getD 0)
  rw [unsettled] at known
  refine ⟨?_, ?_, ?_, ?_, ?_⟩
  · have total := swapped.totals RetryAttempt.isReserved (·.reservedTokens.getD 0)
    have moved := moves.tokensReserved
    rw [counts.tokensReserved] at moved
    omega
  · have total := swapped.totals RetryAttempt.isSettled (·.actualTokens.getD 0)
    rw [unsettled] at total
    rw [moves.tokensSettled, counts.tokensSettled]
    omega
  · have total := swapped.totals RetryAttempt.isReserved (·.reservedCostMicros.getD 0)
    have moved := moves.costReserved
    rw [counts.costReserved] at moved
    omega
  · have total := swapped.totals RetryAttempt.isUnpriced fun _ => 1
    rw [priced] at total
    rw [moves.unknown, counts.unknown]
    omega
  · rw [moves.costSettled _ counts.costSettled]
    rw [Nat.add_zero] at known
    rw [known]

theorem Swapped.sound {before : Option RetryAttempt}
    (swapped : Swapped attempts later before updated)
    (attemptsSound : ∀ attempt ∈ attempts, attempt.Sound) (own : updated.Sound) :
    ∀ attempt ∈ later, attempt.Sound := by
  intro item member
  rcases swapped.members item member with rfl | earlier
  · exact own
  · exact attemptsSound item earlier

/-- An attempt that holds nothing before and after leaves the ledger as it is. -/
theorem Moves.idle {before : Option RetryAttempt}
    (idle : ∀ item, before = some item → item.isReserved = false ∧ item.isSettled = false)
    (after : updated.isReserved = false ∧ updated.isSettled = false) :
    Moves ledger ledger before updated := by
  have unheld : ∀ amount, before.elim 0 (share RetryAttempt.isReserved amount) = 0 := by
    intro amount
    cases before with
    | none => rfl
    | some item => simp [share, (idle item rfl).1]
  refine ⟨fun item same => (idle item same).2, ?_, ?_, ?_, ?_, ?_⟩
  · rw [unheld]
    simp [share, after.1]
  · simp [share, after.2]
  · rw [unheld]
    simp [share, after.1]
  · simp [share, RetryAttempt.isUnpriced, after.2]
  · intro known same
    rw [same]
    simp [share, after.2]

/-- An attempt that becomes reserved adds its amounts to the ledger. -/
theorem Moves.reserve {before : Option RetryAttempt} {tokens : Nat} {cost : Option Nat}
    (idle : ∀ item, before = some item → item.isReserved = false ∧ item.isSettled = false)
    (reserved : updated.status = .reserved) (bounded : updated.reservedTokens = some tokens)
    (priced : updated.reservedCostMicros = cost) :
    Moves ledger (ledger.reserve tokens cost) before updated := by
  subst priced
  have unheld : ∀ amount, before.elim 0 (share RetryAttempt.isReserved amount) = 0 := by
    intro amount
    cases before with
    | none => rfl
    | some item => simp [share, (idle item rfl).1]
  have unsettled : updated.isSettled = false := by
    simp [RetryAttempt.isSettled, AttemptStatus.isSettled, reserved]
  refine ⟨fun item same => (idle item same).2, ?_, ?_, ?_, ?_, ?_⟩
  · rw [unheld]
    simp [share, RetryLedger.reserve, RetryAttempt.isReserved, reserved, bounded]
  · simp [share, RetryLedger.reserve, unsettled]
  · rw [unheld]
    simp [share, RetryLedger.reserve, RetryAttempt.isReserved, reserved]
  · simp [share, RetryLedger.reserve, RetryAttempt.isUnpriced, unsettled]
  · intro known same
    simp only [RetryLedger.reserve]
    rw [same]
    simp [share, unsettled]

theorem RetryAttempt.isSettled_settled {tokens : Nat} {request : SettleRequest} :
    (attempt.settled tokens request now).isSettled = true := by
  unfold RetryAttempt.isSettled RetryAttempt.settled
  dsimp only
  split <;> rfl

theorem RetryAttempt.isReserved_settled {tokens : Nat} {request : SettleRequest} :
    (attempt.settled tokens request now).isReserved = false := by
  unfold RetryAttempt.isReserved RetryAttempt.settled
  dsimp only
  split <;> rfl

/-- A settlement moves the amounts of a reserved attempt to the settled counters. -/
theorem Moves.settle {tokens : Nat} {request : SettleRequest} (reserved : attempt.status = .reserved)
    (bounded : attempt.reservedTokens = some tokens)
    (covered : tokens ≤ ledger.retryTokensReserved)
    (coveredCost : attempt.reservedCostMicros.getD 0 ≤ ledger.retryCostMicrosReserved) :
    Moves ledger (ledger.settle tokens attempt.reservedCostMicros request) (some attempt)
      (attempt.settled tokens request now) := by
  have held : attempt.isReserved = true := by simp [RetryAttempt.isReserved, reserved]
  have done : (attempt.settled tokens request now).isSettled = true := RetryAttempt.isSettled_settled
  have released : (attempt.settled tokens request now).isReserved = false :=
    RetryAttempt.isReserved_settled
  refine ⟨?_, ?_, ?_, ?_, ?_, ?_⟩
  · rintro item ⟨⟩
    simp [RetryAttempt.isSettled, AttemptStatus.isSettled, reserved]
  · simp only [Option.elim, share, held, released, if_true, bounded, Option.getD_some,
      RetryLedger.settle, Bool.false_eq_true, if_false]
    omega
  · simp only [share, done, if_true]
    rfl
  · simp only [Option.elim, share, held, released, if_true, RetryLedger.settle,
      Bool.false_eq_true, if_false]
    cases cost : attempt.reservedCostMicros with
    | none => simp
    | some micros =>
        rw [cost] at coveredCost
        simp only [Option.getD_some] at coveredCost ⊢
        omega
  · have price : (attempt.settled tokens request now).actualCostMicros = request.actualCostMicros :=
      rfl
    cases cost : request.actualCostMicros <;>
      simp [share, RetryAttempt.isUnpriced, done, price, cost, RetryLedger.settle]
  · intro known same
    cases cost : request.actualCostMicros with
    | none => simp [RetryLedger.settle, cost]
    | some micros =>
        simp only [RetryLedger.settle, cost, share, done, if_true]
        by_cases priced : ledger.unknownCostSettlements = 0
        · rw [if_pos priced, if_pos priced, same, if_pos priced]
          simp [RetryAttempt.settled, cost]
        · rw [if_neg priced, if_neg priced, same, if_neg priced]

theorem RetryBudget.Sound.initial : (RetryBudget.initial taskId now).Sound where
  counts := ⟨rfl, rfl, rfl, rfl, rfl⟩
  attempts := by
    intro attempt member
    cases member

theorem RetryAttempt.idle_of_status (unreserved : attempt.status ≠ .reserved)
    (unsettled : attempt.status.isSettled = false) :
    ∀ item, some attempt = some item → item.isReserved = false ∧ item.isSettled = false := by
  rintro item ⟨⟩
  exact ⟨by simp [RetryAttempt.isReserved, unreserved], unsettled⟩

theorem BudgetMove.sound (move : BudgetMove allowed decides resolves old new) (sound : old.Sound) : new.Sound := by
  cases move with
  | configured policy now permitted => exact ⟨sound.counts, sound.attempts⟩
  | requested request agentType lineage tokens now unused resolved denied =>
      have pending : (request.attempt lineage agentType tokens (old.gates lineage.retryGroupId tokens
          request.estimatedCostMicros request.priceCatalogRevision) now).status =
          .pendingApproval := if_neg denied
      refine ⟨RetryBudget.swapped_addAttempt.counts sound.counts (Moves.idle ?_ ?_),
        RetryBudget.swapped_addAttempt.sound sound.attempts ?_⟩
      · rintro item ⟨⟩
      · simp [RetryAttempt.isReserved, RetryAttempt.isSettled, AttemptStatus.isSettled, pending]
      · refine ⟨fun _ => rfl, fun settled => ?_, fun prepared => ?_⟩
        · simp [RetryAttempt.isSettled, AttemptStatus.isSettled, pending] at settled
        · cases prepared
  | granted request agentType lineage tokens now unused resolved passed =>
      have moves : Moves old.ledger (old.ledger.reserve tokens request.estimatedCostMicros) none
          (request.attempt lineage agentType (some tokens) [] now) := by
        refine Moves.reserve ?_ rfl rfl rfl
        rintro item ⟨⟩
      refine ⟨RetryBudget.swapped_addAttempt.counts sound.counts moves,
        RetryBudget.swapped_addAttempt.sound sound.attempts ?_⟩
      · refine ⟨fun _ => rfl, fun settled => ?_, fun prepared => ?_⟩
        · cases settled
        · cases prepared
  | prepared attempt resolution envelope now found pending permitted =>
      have swapped := @RetryBudget.swapped_withAttempt old attempt
        (attempt.prepared ⟨resolution, envelope, now⟩) old.ledger now found
      have before := sound.attempts attempt (RetryBudget.mem_of_attempt found)
      have idle := @RetryAttempt.idle_of_status attempt (by simp [pending])
        (by simp [pending, AttemptStatus.isSettled])
      refine ⟨swapped.counts sound.counts (Moves.idle idle (idle attempt rfl)),
        swapped.sound sound.attempts ⟨before.reserved, before.settled, fun _ => pending⟩⟩
  | resolved attempt pending now found prepared =>
      have before := sound.attempts attempt (RetryBudget.mem_of_attempt found)
      have status := before.prepared (by rw [prepared]; rfl)
      have same : (attempt.resolved pending now).attemptId = attempt.attemptId := by
        unfold RetryAttempt.resolved
        split <;> rfl
      have after : (attempt.resolved pending now).isReserved = false ∧
          (attempt.resolved pending now).isSettled = false := by
        unfold RetryAttempt.resolved
        split <;> exact ⟨rfl, rfl⟩
      have swapped := @RetryBudget.swapped_withAttempt old attempt (attempt.resolved pending now)
        old.ledger now (same ▸ found)
      have idle := @RetryAttempt.idle_of_status attempt (by simp [status])
        (by simp [status, AttemptStatus.isSettled])
      refine ⟨swapped.counts sound.counts (Moves.idle idle after),
        swapped.sound sound.attempts ⟨fun held => ?_, fun settled => ?_, fun still => ?_⟩⟩
      · rw [after.1] at held
        cases held
      · rw [after.2] at settled
        cases settled
      · unfold RetryAttempt.resolved at still
        split at still <;> cases still
  | consumed attempt tokens now found authorized bounded =>
      have before := sound.attempts attempt (RetryBudget.mem_of_attempt found)
      have swapped := @RetryBudget.swapped_withAttempt old attempt (attempt.consumed now)
        (old.ledger.reserve tokens attempt.reservedCostMicros) now found
      have idle := @RetryAttempt.idle_of_status attempt (by simp [authorized])
        (by simp [authorized, AttemptStatus.isSettled])
      refine ⟨swapped.counts sound.counts (Moves.reserve idle rfl bounded rfl),
        swapped.sound sound.attempts ⟨fun _ => ?_, fun settled => ?_, fun still => ?_⟩⟩
      · change attempt.reservedTokens.isSome = true
        rw [bounded]
        rfl
      · cases settled
      · have status := before.prepared still
        rw [authorized] at status
        cases status
  | settled attempt tokens request now found reserved bounded =>
      have before := sound.attempts attempt (RetryBudget.mem_of_attempt found)
      have swapped := @RetryBudget.swapped_withAttempt old attempt
        (attempt.settled tokens request now)
        (old.ledger.settle tokens attempt.reservedCostMicros request) now found
      obtain ⟨covered, coveredCost⟩ :=
        sound.balanced.covers (RetryBudget.mem_of_attempt found) reserved
      rw [bounded] at covered
      refine ⟨swapped.counts sound.counts (Moves.settle reserved bounded covered coveredCost),
        swapped.sound sound.attempts ⟨fun held => ?_, fun _ => rfl, fun still => ?_⟩⟩
      · rw [RetryAttempt.isReserved_settled] at held
        cases held
      · have status := before.prepared still
        rw [reserved] at status
        cases status

end

end DesignHarness
