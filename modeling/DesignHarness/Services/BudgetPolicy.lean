import DesignHarness.Services.BudgetLedger

/-!
# Automatic retries within the policy

A retry is automatic when the gates granted it and no override was consumed for it.  As long as
the ledger is not frozen the automatic retries stay within the policy (`RetryBudget.WithinPolicy`),
whatever the overrides beside them use; a frozen ledger stays frozen and grants nothing more.
-/

namespace DesignHarness

open Library

/-- Granted by the gates, without a consumed override. -/
def RetryAttempt.isAutomatic (attempt : RetryAttempt) : Bool :=
  attempt.status.isCounted && attempt.overrideConsumedAt.isNone

/-- The tokens an attempt uses up: the actual ones once it is settled, the reserved ones before. -/
def RetryAttempt.heldTokens (attempt : RetryAttempt) : Nat :=
  if attempt.isSettled then attempt.actualTokens.getD 0 else attempt.reservedTokens.getD 0

/-- The known cost of an attempt. -/
def RetryAttempt.heldCostMicros (attempt : RetryAttempt) : Nat :=
  if attempt.isSettled then attempt.actualCostMicros.getD 0 else attempt.reservedCostMicros.getD 0

/-- The automatic retries of a group. -/
def RetryBudget.automaticCount (budget : RetryBudget) (retryGroupId : Identifier) : Nat :=
  budget.attempts.countP fun item => item.retryGroupId = retryGroupId && item.isAutomatic

/-- The automatic retries are within every limit of the policy. -/
structure RetryBudget.WithinPolicy (budget : RetryBudget) : Prop where
  tokens : total RetryAttempt.isAutomatic RetryAttempt.heldTokens budget.attempts ≤
    budget.retryPolicy.maxAutoRetryTokensTask
  retries : ∀ retryGroupId, budget.automaticCount retryGroupId ≤
    budget.retryPolicy.maxAutoRetriesPerRetryGroup
  cost : ∀ limit, budget.retryPolicy.maxAutoRetryCostMicros = some limit →
    total RetryAttempt.isAutomatic RetryAttempt.heldCostMicros budget.attempts ≤ limit

/-- No limit of the policy is below the one before; no cost limit is the highest one. -/
structure RetryPolicy.AtLeast (policy before : RetryPolicy) : Prop where
  retries : before.maxAutoRetriesPerRetryGroup ≤ policy.maxAutoRetriesPerRetryGroup
  tokens : before.maxAutoRetryTokensTask ≤ policy.maxAutoRetryTokensTask
  cost : ∀ limit, policy.maxAutoRetryCostMicros = some limit →
    ∃ earlier, before.maxAutoRetryCostMicros = some earlier ∧ earlier ≤ limit

/-- The policy is not lowered once a retry was granted automatically. -/
def KeepsLimits (budget : RetryBudget) (policy : RetryPolicy) : Prop :=
  budget.attempts.any RetryAttempt.isAutomatic = true → policy.AtLeast budget.retryPolicy

/-- The ids of the automatic retries. -/
def RetryBudget.automaticIds (budget : RetryBudget) : List Identifier :=
  (budget.attempts.filter RetryAttempt.isAutomatic).map RetryAttempt.attemptId

/-- What the operations keep: the counters, and the limits while the ledger is not frozen.  Under a
    cost limit every automatic reservation has a known cost. -/
structure RetryBudget.Bounded (budget : RetryBudget) : Prop where
  sound : budget.Sound
  within : budget.ledger.frozen = false → budget.WithinPolicy
  priced : budget.ledger.frozen = false → budget.retryPolicy.maxAutoRetryCostMicros ≠ none →
    ∀ attempt ∈ budget.attempts, attempt.isAutomatic = true → attempt.isReserved = true →
      attempt.reservedCostMicros.isSome = true

section

variable {allowed : RetryBudget → RetryPolicy → Prop} {decides : Prop}
  {resolves : RetryBudget → RetryRequest → RetryLineage → Prop} {old new budget : RetryBudget}
  {attempt updated : RetryAttempt} {ledger : RetryLedger} {taskId : Identifier} {now : Timestamp}

/-- A retry that no gate denies fits every limit beside what the ledger counts. -/
theorem RetryBudget.fits_of_gates {group : Identifier} {tokens : Nat} {cost : Option Nat}
    {catalog : Option String} (passed : budget.gates group (some tokens) cost catalog = []) :
    budget.groupCount group + 1 ≤ budget.retryPolicy.maxAutoRetriesPerRetryGroup ∧
      budget.ledger.retryTokensSettled + budget.ledger.retryTokensReserved + tokens ≤
        budget.retryPolicy.maxAutoRetryTokensTask ∧
      (∀ limit, budget.retryPolicy.maxAutoRetryCostMicros = some limit →
        ∃ estimated settled, cost = some estimated ∧
          budget.ledger.retryCostMicrosSettled = some settled ∧
          settled + budget.ledger.retryCostMicrosReserved + estimated ≤ limit) ∧
      budget.ledger.frozen = false := by
  simp only [RetryBudget.gates, List.append_eq_nil_iff] at passed
  obtain ⟨⟨⟨counted, bounded⟩, priced⟩, thawed⟩ := passed
  refine ⟨?_, ?_, ?_, ?_⟩
  · by_contra exceeds
    rw [if_pos (by omega)] at counted
    cases counted
  · by_contra exceeds
    rw [tokenGate, if_pos (by omega)] at bounded
    cases bounded
  · intro limit limited
    rw [limited, Option.elim_some] at priced
    unfold costGate at priced
    cases cost with
    | none => cases priced
    | some estimated =>
        dsimp only at priced
        split at priced
        · cases priced
        · cases settled : budget.ledger.retryCostMicrosSettled with
          | none =>
              rw [settled] at priced
              cases priced
          | some micros =>
              rw [settled] at priced
              refine ⟨estimated, micros, rfl, rfl, ?_⟩
              by_contra exceeds
              dsimp only at priced
              rw [if_pos (by omega)] at priced
              cases priced
  · cases frozen : budget.ledger.frozen with
    | false => rfl
    | true =>
        rw [frozen, if_pos rfl] at thawed
        cases thawed

theorem RetryAttempt.isAutomatic_of_uncounted (uncounted : attempt.status.isCounted = false) :
    attempt.isAutomatic = false := by
  simp [RetryAttempt.isAutomatic, uncounted]

/-- What an automatic attempt holds is part of what the ledger counts. -/
theorem RetryAttempt.share_heldTokens_le :
    share RetryAttempt.isAutomatic RetryAttempt.heldTokens attempt ≤
      share RetryAttempt.isSettled (·.actualTokens.getD 0) attempt +
        share RetryAttempt.isReserved (·.reservedTokens.getD 0) attempt := by
  unfold share RetryAttempt.isAutomatic RetryAttempt.heldTokens RetryAttempt.isSettled
    RetryAttempt.isReserved
  cases attempt.status <;> simp [AttemptStatus.isCounted, AttemptStatus.isSettled] <;>
    split <;> simp

theorem RetryAttempt.share_heldCost_le :
    share RetryAttempt.isAutomatic RetryAttempt.heldCostMicros attempt ≤
      share RetryAttempt.isSettled (·.actualCostMicros.getD 0) attempt +
        share RetryAttempt.isReserved (·.reservedCostMicros.getD 0) attempt := by
  unfold share RetryAttempt.isAutomatic RetryAttempt.heldCostMicros RetryAttempt.isSettled
    RetryAttempt.isReserved
  cases attempt.status <;> simp [AttemptStatus.isCounted, AttemptStatus.isSettled] <;>
    split <;> simp

theorem RetryBudget.Sound.automatic_tokens_le (sound : budget.Sound) :
    total RetryAttempt.isAutomatic RetryAttempt.heldTokens budget.attempts ≤
      budget.ledger.retryTokensSettled + budget.ledger.retryTokensReserved := by
  rw [sound.counts.tokensSettled, sound.counts.tokensReserved]
  exact total_add_le fun _ _ => RetryAttempt.share_heldTokens_le

theorem RetryBudget.Sound.automatic_cost_le {settled : Nat} (sound : budget.Sound)
    (known : budget.ledger.retryCostMicrosSettled = some settled) :
    total RetryAttempt.isAutomatic RetryAttempt.heldCostMicros budget.attempts ≤
      settled + budget.ledger.retryCostMicrosReserved := by
  have counted := sound.counts.costSettled
  rw [known] at counted
  split at counted
  · rw [Option.some.inj counted, sound.counts.costReserved]
    exact total_add_le fun _ _ => RetryAttempt.share_heldCost_le
  · cases counted

theorem RetryBudget.automaticCount_le (group : Identifier) :
    budget.automaticCount group ≤ budget.groupCount group := by
  refine List.countP_mono_left ?_
  intro item _ selected
  simp only [RetryAttempt.isAutomatic, Bool.and_eq_true] at selected ⊢
  exact ⟨selected.1, selected.2.1⟩

/-! ## Every move keeps the limits -/

/-- An attempt that becomes or stays a non-automatic one changes nothing for the limits. -/
theorem Swapped.bounded {before : Option RetryAttempt} {later : List RetryAttempt}
    (swapped : Swapped budget.attempts later before updated) (bounded : budget.Bounded)
    (notBefore : ∀ item, before = some item → item.isAutomatic = false)
    (notAfter : updated.isAutomatic = false) (sound : new.Sound)
    (attempts : new.attempts = later) (policy : new.retryPolicy = budget.retryPolicy)
    (frozen : new.ledger.frozen = budget.ledger.frozen) : new.Bounded := by
  have same : ∀ amount, total RetryAttempt.isAutomatic amount new.attempts =
      total RetryAttempt.isAutomatic amount budget.attempts := by
    intro amount
    have moved := swapped.totals RetryAttempt.isAutomatic amount
    have absent : before.elim 0 (share RetryAttempt.isAutomatic amount) = 0 := by
      cases before with
      | none => rfl
      | some item => simp [share, notBefore item rfl]
    have none : share RetryAttempt.isAutomatic amount updated = 0 := by simp [share, notAfter]
    rw [attempts]
    omega
  refine ⟨sound, fun thawed => ?_, fun thawed limited item member automatic => ?_⟩
  · rw [frozen] at thawed
    have within := bounded.within thawed
    refine ⟨?_, fun group => ?_, ?_⟩
    · rw [same, policy]
      exact within.tokens
    · have moved := swapped.totals (fun item => item.retryGroupId = group && item.isAutomatic)
        fun _ => 1
      have absent : before.elim 0 (share (fun item : RetryAttempt =>
          item.retryGroupId = group && item.isAutomatic) fun _ => 1) = 0 := by
        cases before with
        | none => rfl
        | some item => simp [share, notBefore item rfl]
      have none : share (fun item : RetryAttempt => item.retryGroupId = group && item.isAutomatic)
          (fun _ => 1) updated = 0 := by simp [share, notAfter]
      have limit := within.retries group
      rw [RetryBudget.automaticCount, countP_eq_total] at limit ⊢
      rw [attempts, policy]
      omega
    · rw [same, policy]
      exact within.cost
  · rw [frozen] at thawed
    rw [policy] at limited
    rw [attempts] at member
    rcases swapped.members item member with rfl | earlier
    · rw [notAfter] at automatic
      cases automatic
    · exact bounded.priced thawed limited item earlier automatic

/-- A policy that is not lowered still covers the automatic retries. -/
theorem RetryBudget.Bounded.configured {policy : RetryPolicy} {revision : Nat}
    (bounded : budget.Bounded) (keeps : KeepsLimits budget policy) :
    RetryBudget.Bounded
      { budget with revision := revision, retryPolicy := policy, updatedAt := now } := by
  refine ⟨⟨bounded.sound.counts, bounded.sound.attempts⟩, fun thawed => ?_,
    fun thawed limited item member automatic reserved => ?_⟩
  · have within := bounded.within thawed
    by_cases granted : budget.attempts.any RetryAttempt.isAutomatic = true
    · have atLeast := keeps granted
      refine ⟨Nat.le_trans within.tokens atLeast.tokens,
        fun group => Nat.le_trans (within.retries group) atLeast.retries, fun limit limited => ?_⟩
      obtain ⟨earlier, before, order⟩ := atLeast.cost limit limited
      exact Nat.le_trans (within.cost earlier before) order
    · have none : ∀ item ∈ budget.attempts, item.isAutomatic = false := by
        intro item member
        by_contra automatic
        exact granted (List.any_eq_true.mpr ⟨item, member, by simpa using automatic⟩)
      refine ⟨?_, fun group => ?_, fun limit _ => ?_⟩
      · rw [total_eq_zero none]
        exact Nat.zero_le _
      · rw [RetryBudget.automaticCount, countP_eq_total,
          total_eq_zero fun item member => by simp [none item member]]
        exact Nat.zero_le _
      · rw [total_eq_zero none]
        exact Nat.zero_le _
  · have atLeast := keeps (List.any_eq_true.mpr ⟨item, member, automatic⟩)
    obtain ⟨limit, found⟩ := Option.ne_none_iff_exists'.mp limited
    obtain ⟨earlier, before, -⟩ := atLeast.cost limit found
    exact bounded.priced thawed (by rw [before]; simp) item member automatic reserved

/-- What the gates granted is within the limits beside the earlier automatic retries. -/
theorem RetryBudget.Bounded.granted {request : RetryRequest} {agentType : AgentType}
    {lineage : RetryLineage} {tokens : Nat} (bounded : budget.Bounded)
    (passed : budget.gates lineage.retryGroupId (some tokens) request.estimatedCostMicros
      request.priceCatalogRevision = [])
    (sound : (budget.addAttempt (request.attempt lineage agentType (some tokens) [] now)
      (budget.ledger.reserve tokens request.estimatedCostMicros) now).Sound) :
    (budget.addAttempt (request.attempt lineage agentType (some tokens) [] now)
      (budget.ledger.reserve tokens request.estimatedCostMicros) now).Bounded := by
  obtain ⟨counted, fits, priced, thawed⟩ := RetryBudget.fits_of_gates passed
  have within := bounded.within thawed
  refine ⟨sound, fun _ => ⟨?_, fun group => ?_, fun limit limited => ?_⟩,
    fun _ limited item member automatic reserved => ?_⟩
  · have own : share RetryAttempt.isAutomatic RetryAttempt.heldTokens
        (request.attempt lineage agentType (some tokens) [] now) = tokens := rfl
    have held := bounded.sound.automatic_tokens_le
    have added : total RetryAttempt.isAutomatic RetryAttempt.heldTokens
        (budget.attempts ++ [request.attempt lineage agentType (some tokens) [] now]) =
        total RetryAttempt.isAutomatic RetryAttempt.heldTokens budget.attempts + tokens := by
      rw [total_append, total_cons, own]
      rfl
    change total RetryAttempt.isAutomatic RetryAttempt.heldTokens
        (budget.attempts ++ [request.attempt lineage agentType (some tokens) [] now]) ≤
      budget.retryPolicy.maxAutoRetryTokensTask
    omega
  · have before := within.retries group
    change List.countP _ (budget.attempts ++ [_]) ≤ budget.retryPolicy.maxAutoRetriesPerRetryGroup
    rw [List.countP_append, List.countP_singleton]
    change budget.automaticCount group + _ ≤ _
    by_cases same : lineage.retryGroupId = group
    · subst same
      have bound := @RetryBudget.automaticCount_le budget lineage.retryGroupId
      split <;> omega
    · rw [if_neg (by simp [RetryRequest.attempt, same])]
      exact before
  · obtain ⟨estimated, settled, known, counted, order⟩ := priced limit limited
    have held := bounded.sound.automatic_cost_le counted
    have own : share RetryAttempt.isAutomatic RetryAttempt.heldCostMicros
        (request.attempt lineage agentType (some tokens) [] now) = estimated := by
      have amount : (request.attempt lineage agentType (some tokens) [] now).heldCostMicros =
          request.estimatedCostMicros.getD 0 := rfl
      have automatic :
          (request.attempt lineage agentType (some tokens) [] now).isAutomatic = true := rfl
      rw [share, if_pos automatic, amount, known]
      rfl
    change total RetryAttempt.isAutomatic RetryAttempt.heldCostMicros
        (budget.attempts ++ [request.attempt lineage agentType (some tokens) [] now]) ≤ limit
    rw [total_append, total_cons, own, total_nil]
    omega
  · obtain ⟨limit, found⟩ := Option.ne_none_iff_exists'.mp limited
    rcases List.mem_append.mp member with before | last
    · exact bounded.priced thawed limited item before automatic reserved
    · obtain rfl := List.mem_singleton.mp last
      obtain ⟨estimated, -, known, -⟩ := priced limit found
      change request.estimatedCostMicros.isSome = true
      rw [known]
      rfl

/-- A settlement that does not freeze the ledger uses no more than was reserved. -/
theorem RetryBudget.Bounded.settled {tokens : Nat} {request : SettleRequest}
    (bounded : budget.Bounded) (found : budget.attempt attempt.attemptId = .ok attempt)
    (reserved : attempt.status = .reserved) (amount : attempt.reservedTokens = some tokens)
    (sound : (budget.withAttempt (attempt.settled tokens request now)
      (budget.ledger.settle tokens attempt.reservedCostMicros request) now).Sound) :
    (budget.withAttempt (attempt.settled tokens request now)
      (budget.ledger.settle tokens attempt.reservedCostMicros request) now).Bounded := by
  have swapped := @RetryBudget.swapped_withAttempt budget attempt
    (attempt.settled tokens request now)
    (budget.ledger.settle tokens attempt.reservedCostMicros request) now found
  have member := RetryBudget.mem_of_attempt found
  have held : attempt.isReserved = true := by simp [RetryAttempt.isReserved, reserved]
  have unsettled : attempt.isSettled = false := by
    simp [RetryAttempt.isSettled, AttemptStatus.isSettled, reserved]
  have settled : (attempt.settled tokens request now).isSettled = true :=
    RetryAttempt.isSettled_settled
  have automatic_eq : (attempt.settled tokens request now).isAutomatic = attempt.isAutomatic := by
    unfold RetryAttempt.isAutomatic RetryAttempt.settled
    dsimp only
    rw [reserved]
    split <;> rfl
  have thaws : (budget.ledger.settle tokens attempt.reservedCostMicros request).frozen = false →
      budget.ledger.frozen = false ∧
        exceedsReservation tokens attempt.reservedCostMicros request = false := by
    intro thawed
    simpa [RetryLedger.settle] using thawed
  refine ⟨sound, fun thawed => ⟨?_, fun group => ?_, fun limit limited => ?_⟩,
    fun thawed limited item itemMember automatic itemReserved => ?_⟩
  · obtain ⟨before, covered⟩ := thaws thawed
    have within := (bounded.within before).tokens
    have moved := swapped.totals RetryAttempt.isAutomatic RetryAttempt.heldTokens
    have order : share RetryAttempt.isAutomatic RetryAttempt.heldTokens
        (attempt.settled tokens request now) ≤
        share RetryAttempt.isAutomatic RetryAttempt.heldTokens attempt := by
      unfold share RetryAttempt.heldTokens
      rw [automatic_eq, settled, unsettled, amount]
      have used : request.actualTokens ≤ tokens := by
        simp only [exceedsReservation, Bool.or_eq_false_iff, decide_eq_false_iff_not] at covered
        omega
      split
      · exact used
      · exact le_rfl
    change total _ _ _ ≤ budget.retryPolicy.maxAutoRetryTokensTask
    simp only [Option.elim_some] at moved
    omega
  · obtain ⟨before, -⟩ := thaws thawed
    have within := (bounded.within before).retries group
    have moved := swapped.totals (fun item => item.retryGroupId = group && item.isAutomatic)
      fun _ => 1
    have same : share (fun item : RetryAttempt => item.retryGroupId = group && item.isAutomatic)
        (fun _ => 1) (attempt.settled tokens request now) =
        share (fun item : RetryAttempt => item.retryGroupId = group && item.isAutomatic)
          (fun _ => 1) attempt := by
      have sameGroup : (attempt.settled tokens request now).retryGroupId = attempt.retryGroupId :=
        rfl
      simp only [share, automatic_eq, sameGroup]
    rw [RetryBudget.automaticCount, countP_eq_total] at within ⊢
    change _ ≤ budget.retryPolicy.maxAutoRetriesPerRetryGroup
    simp only [Option.elim_some] at moved
    omega
  · obtain ⟨before, covered⟩ := thaws thawed
    have within := (bounded.within before).cost limit limited
    have moved := swapped.totals RetryAttempt.isAutomatic RetryAttempt.heldCostMicros
    have order : share RetryAttempt.isAutomatic RetryAttempt.heldCostMicros
        (attempt.settled tokens request now) ≤
        share RetryAttempt.isAutomatic RetryAttempt.heldCostMicros attempt := by
      unfold share RetryAttempt.heldCostMicros
      rw [automatic_eq, settled, unsettled]
      split
      · rename_i automatic
        have known := bounded.priced before
          (fun unlimited => by
            change budget.retryPolicy.maxAutoRetryCostMicros = some limit at limited
            rw [unlimited] at limited
            cases limited) attempt member automatic held
        obtain ⟨micros, priced⟩ := Option.isSome_iff_exists.mp known
        change request.actualCostMicros.getD 0 ≤ attempt.reservedCostMicros.getD 0
        cases actual : request.actualCostMicros with
        | none => exact Nat.zero_le _
        | some used =>
            simp only [exceedsReservation, priced, actual, Bool.or_eq_false_iff,
              decide_eq_false_iff_not] at covered
            rw [priced]
            simp only [Option.getD_some]
            omega
      · exact le_rfl
    simp only [Option.elim_some] at moved
    omega
  · obtain ⟨before, -⟩ := thaws thawed
    rcases swapped.members item itemMember with rfl | earlier
    · rw [RetryAttempt.isReserved_settled] at itemReserved
      cases itemReserved
    · exact bounded.priced before limited item earlier automatic itemReserved

theorem RetryAttempt.isAutomatic_resolved {pending : PendingResolution} :
    (attempt.resolved pending now).isAutomatic = false := by
  unfold RetryAttempt.resolved
  split <;> rfl

theorem RetryBudget.Bounded.initial : (RetryBudget.initial taskId now).Bounded := by
  refine ⟨RetryBudget.Sound.initial, fun _ => ⟨le_rfl, fun _ => le_rfl, ?_⟩, ?_⟩
  · rintro limit ⟨⟩
  · intro _ limited
    exact absurd rfl limited

theorem BudgetMove.bounded (move : BudgetMove KeepsLimits decides resolves old new) (bounded : old.Bounded) :
    new.Bounded := by
  have sound := move.sound bounded.sound
  cases move with
  | configured policy now permitted => exact bounded.configured permitted
  | requested request agentType lineage tokens now unused resolved denied =>
      refine RetryBudget.swapped_addAttempt.bounded bounded ?_ ?_ sound rfl rfl rfl
      · rintro item ⟨⟩
      · refine RetryAttempt.isAutomatic_of_uncounted ?_
        have pending : (request.attempt lineage agentType tokens (old.gates lineage.retryGroupId
            tokens request.estimatedCostMicros request.priceCatalogRevision) now).status =
            .pendingApproval := if_neg denied
        rw [pending]
        rfl
  | granted request agentType lineage tokens now unused resolved passed => exact bounded.granted passed sound
  | prepared attempt resolution envelope now found pending permitted =>
      have idle : attempt.isAutomatic = false :=
        RetryAttempt.isAutomatic_of_uncounted (by rw [pending]; rfl)
      have swapped := @RetryBudget.swapped_withAttempt old attempt
        (attempt.prepared ⟨resolution, envelope, now⟩) old.ledger now found
      refine swapped.bounded bounded ?_ idle sound rfl rfl rfl
      rintro item ⟨⟩
      exact idle
  | resolved attempt pending now found prepared =>
      have status := (bounded.sound.attempts attempt (RetryBudget.mem_of_attempt found)).prepared
        (by rw [prepared]; rfl)
      have same : (attempt.resolved pending now).attemptId = attempt.attemptId := by
        unfold RetryAttempt.resolved
        split <;> rfl
      have swapped := @RetryBudget.swapped_withAttempt old attempt (attempt.resolved pending now)
        old.ledger now (same ▸ found)
      refine swapped.bounded bounded ?_ RetryAttempt.isAutomatic_resolved sound rfl rfl rfl
      rintro item ⟨⟩
      exact RetryAttempt.isAutomatic_of_uncounted (by rw [status]; rfl)
  | consumed attempt tokens now found authorized amount =>
      have swapped := @RetryBudget.swapped_withAttempt old attempt (attempt.consumed now)
        (old.ledger.reserve tokens attempt.reservedCostMicros) now found
      refine swapped.bounded bounded ?_ rfl sound rfl rfl rfl
      rintro item ⟨⟩
      exact RetryAttempt.isAutomatic_of_uncounted (by rw [authorized]; rfl)
  | settled attempt tokens request now found reserved amount =>
      exact bounded.settled found reserved amount sound

/-! ## A frozen ledger -/

theorem RetryBudget.mem_automaticIds {attemptId : Identifier} :
    attemptId ∈ budget.automaticIds ↔
      ∃ item ∈ budget.attempts, item.isAutomatic = true ∧ item.attemptId = attemptId := by
  simp [RetryBudget.automaticIds, and_assoc]

/-- The automatic retries after one attempt moved that was as automatic before. -/
theorem Swapped.automaticIds_subset {before : Option RetryAttempt}
    (swapped : Swapped old.attempts new.attempts before updated)
    (moved : updated.isAutomatic = true → ∃ item, before = some item ∧
      item.isAutomatic = true ∧ item.attemptId = updated.attemptId) :
    ∀ attemptId ∈ new.automaticIds, attemptId ∈ old.automaticIds := by
  intro attemptId member
  obtain ⟨item, itemMember, automatic, rfl⟩ := RetryBudget.mem_automaticIds.mp member
  rw [RetryBudget.mem_automaticIds]
  rcases swapped.members item itemMember with rfl | earlier
  · obtain ⟨earlier, same, wasAutomatic, sameId⟩ := moved automatic
    exact ⟨earlier, swapped.earlier earlier same, wasAutomatic, sameId⟩
  · exact ⟨item, earlier, automatic, rfl⟩

/-- A frozen ledger stays frozen, and no retry becomes an automatic one. -/
theorem BudgetMove.frozen (move : BudgetMove allowed decides resolves old new) (frozen : old.ledger.frozen = true) :
    new.ledger.frozen = true ∧ ∀ attemptId ∈ new.automaticIds, attemptId ∈ old.automaticIds := by
  cases move with
  | configured policy now permitted => exact ⟨frozen, fun _ => id⟩
  | requested request agentType lineage tokens now unused resolved denied =>
      have pending : (request.attempt lineage agentType tokens (old.gates lineage.retryGroupId
          tokens request.estimatedCostMicros request.priceCatalogRevision) now).status =
          .pendingApproval := if_neg denied
      have uncounted := RetryAttempt.isAutomatic_of_uncounted (by rw [pending]; rfl)
      refine ⟨frozen, RetryBudget.swapped_addAttempt.automaticIds_subset fun automatic => ?_⟩
      rw [uncounted] at automatic
      cases automatic
  | granted request agentType lineage tokens now unused resolved passed =>
      obtain ⟨-, -, -, thawed⟩ := RetryBudget.fits_of_gates passed
      rw [frozen] at thawed
      cases thawed
  | prepared attempt resolution envelope now found pending permitted =>
      have swapped := @RetryBudget.swapped_withAttempt old attempt
        (attempt.prepared ⟨resolution, envelope, now⟩) old.ledger now found
      exact ⟨frozen, swapped.automaticIds_subset fun automatic =>
        ⟨attempt, rfl, automatic, rfl⟩⟩
  | resolved attempt pending now found prepared =>
      have same : (attempt.resolved pending now).attemptId = attempt.attemptId := by
        unfold RetryAttempt.resolved
        split <;> rfl
      have swapped := @RetryBudget.swapped_withAttempt old attempt (attempt.resolved pending now)
        old.ledger now (same ▸ found)
      refine ⟨frozen, swapped.automaticIds_subset fun automatic => ?_⟩
      rw [RetryAttempt.isAutomatic_resolved] at automatic
      cases automatic
  | consumed attempt tokens now found authorized amount =>
      have swapped := @RetryBudget.swapped_withAttempt old attempt (attempt.consumed now)
        (old.ledger.reserve tokens attempt.reservedCostMicros) now found
      exact ⟨frozen, swapped.automaticIds_subset fun automatic => by cases automatic⟩
  | settled attempt tokens request now found reserved amount =>
      have swapped := @RetryBudget.swapped_withAttempt old attempt
        (attempt.settled tokens request now)
        (old.ledger.settle tokens attempt.reservedCostMicros request) now found
      refine ⟨?_, swapped.automaticIds_subset fun automatic => ⟨attempt, rfl, ?_, rfl⟩⟩
      · change (old.ledger.frozen || _) = true
        rw [frozen]
        rfl
      · simp only [RetryAttempt.isAutomatic, Bool.and_eq_true] at automatic ⊢
        exact ⟨by rw [reserved]; rfl, automatic.2⟩

end

end DesignHarness
