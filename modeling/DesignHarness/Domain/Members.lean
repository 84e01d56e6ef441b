import DesignHarness.Domain.StateMachine

/-!
# What a stage reads off its members

`aggregate_stage` asks seven yes-or-no questions about the members of a stage.  `MemberFacts`
holds the answers and `MemberFacts.status` is the rule, so a proof about a stage status is a
proof about seven Booleans and the stored status.
-/

namespace DesignHarness

/-- The answers, for the members of one stage. -/
structure MemberFacts where
  /-- A member executes. -/
  working : Bool
  /-- A member waits to be started. -/
  queued : Bool
  /-- A required member waits for an approval. -/
  awaiting : Bool
  /-- A required member has failed. -/
  broken : Bool
  /-- A required member is unavailable. -/
  unavailable : Bool
  /-- What the stage is for is complete. -/
  delivered : Bool
  /-- Nothing is required of the stage any more and nothing was completed. -/
  vacated : Bool
  deriving DecidableEq, Repr

/-- The facts of a stage with the given requirement. -/
def memberFacts (required : Bool) (members : List AgentInstance) : MemberFacts where
  working := members.any (·.status.isExecuting)
  queued := members.any (·.status.isQueued)
  awaiting := members.any fun item => item.required && item.status = .waitingApproval
  broken := members.any fun item => item.required && item.status.isFailed
  unavailable := members.any fun item => item.required && item.status = .unavailable
  delivered :=
    if members.any (·.required) then members.all fun item => !item.required || item.status.isComplete
    else !required && members.any (·.status.isComplete)
  vacated := !members.any (·.required) && !required && !members.any (·.status.isComplete)

/-- The status of a stage with these facts. -/
def MemberFacts.status (facts : MemberFacts) (current : StageStatus) : StageStatus :=
  if facts.working then .running
  else if facts.queued then
    if current = .running ∨ current = .waitingApproval then .running else .ready
  else if facts.awaiting then .waitingApproval
  else if facts.broken then .failed
  else if facts.unavailable then .unavailable
  else if facts.delivered then .succeeded
  else if facts.vacated then .skipped
  else current

theorem any_filter_required (members : List AgentInstance) (p : AgentInstance → Bool) :
    (members.filter (·.required)).any p = members.any fun item => item.required && p item := by
  rw [List.any_filter]

theorem all_filter_required (members : List AgentInstance) (p : AgentInstance → Bool) :
    (members.filter (·.required)).all p = members.all fun item => !item.required || p item := by
  rw [List.all_filter]

theorem filter_required_eq_nil (members : List AgentInstance) :
    members.filter (·.required) = [] ↔ members.any (·.required) = false := by
  simp [List.filter_eq_nil_iff, List.any_eq_false]

/-- `aggregate_stage` is the rule applied to the facts of the members. -/
theorem aggregateMembers_eq (stage : Stage) (members : List AgentInstance) :
    aggregateMembers stage members = (memberFacts stage.required members).status stage.status := by
  unfold aggregateMembers MemberFacts.status memberFacts
  dsimp only
  rw [any_filter_required, any_filter_required, any_filter_required, all_filter_required]
  simp only [ne_eq, filter_required_eq_nil]
  cases members.any (·.required) <;> cases stage.required <;>
    cases members.any (·.status.isComplete) <;> simp

/-- The facts are read off the statuses and requirements of the members. -/
theorem memberFacts_map {f : AgentInstance → AgentInstance} (required : Bool)
    (members : List AgentInstance) (sameStatus : ∀ item, (f item).status = item.status)
    (sameRequired : ∀ item, (f item).required = item.required) :
    memberFacts required (members.map f) = memberFacts required members := by
  simp only [memberFacts, List.any_map, List.all_map, Function.comp_def, sameStatus, sameRequired]

namespace MemberFacts

variable {facts : MemberFacts} {current : StageStatus}

/-- Applying the rule to its own result changes nothing more. -/
theorem status_status : facts.status (facts.status current) = facts.status current := by
  obtain ⟨working, queued, awaiting, broken, unavailable, delivered, vacated⟩ := facts
  unfold status
  cases working
  · cases queued
    · cases awaiting <;> cases broken <;> cases unavailable <;> cases delivered <;>
        cases vacated <;> simp
    · by_cases kept : current = .running ∨ current = .waitingApproval <;> simp [kept]
  · simp

/-- A stage succeeds on delivery or had succeeded before. -/
theorem status_succeeded (h : facts.status current = .succeeded) :
    facts.delivered = true ∨ current = .succeeded := by
  unfold status at h
  repeat' split at h
  all_goals simp_all

theorem status_unavailable (h : facts.status current = .unavailable) :
    facts.unavailable = true ∨ current = .unavailable := by
  unfold status at h
  repeat' split at h
  all_goals simp_all

end MemberFacts

theorem memberFacts_delivered {required : Bool} {members : List AgentInstance}
    (h : (memberFacts required members).delivered = true) :
    (∃ item ∈ members, item.status.isComplete = true) ∧
      (required = true → ∀ item ∈ members, item.required = true →
        item.status.isComplete = true) := by
  simp only [memberFacts] at h
  split at h
  · rename_i present
    obtain ⟨item, member, itemRequired⟩ := List.any_eq_true.mp present
    have complete : ∀ item ∈ members, item.required = true → item.status.isComplete = true := by
      intro other otherMember otherRequired
      simpa [otherRequired] using List.all_eq_true.mp h other otherMember
    exact ⟨⟨item, member, complete item member itemRequired⟩, fun _ => complete⟩
  · rw [Bool.and_eq_true] at h
    obtain ⟨optional, complete⟩ := h
    exact ⟨List.any_eq_true.mp complete, fun needed => by simp [needed] at optional⟩

theorem memberFacts_unavailable {required : Bool} {members : List AgentInstance}
    (h : (memberFacts required members).unavailable = true) :
    ∃ item ∈ members, item.status = .unavailable := by
  obtain ⟨item, member, status⟩ := List.any_eq_true.mp h
  rw [Bool.and_eq_true, decide_eq_true_eq] at status
  exact ⟨item, member, status.2⟩

end DesignHarness
