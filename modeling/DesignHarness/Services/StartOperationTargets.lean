import DesignHarness.Services.StartOperationSteps

/-!
# The start of one target

`Custody` says what the runner knows of the intent it carries out; under it every part of
`_resume_start_instance` is specified once, for operations on one instance and on all of them.
-/

namespace DesignHarness

open Library

namespace StartOperations

/-- The Agent is about to be asked. -/
structure Engages (intent : StartOperation) (instanceId : Identifier) (attempt : Nat) : Prop where
  attempted : 1 ≤ attempt
  target : ∃ entry ∈ intent.progress, entry.instanceId = instanceId
  entry : Has intent instanceId fun entry => entry.state = .agentStarting ∧
    entry.launchId.isSome = true ∧ entry.attempt = attempt

/-- What the note of a request to the Agent is. -/
def asked (intent : StartOperation) (instanceId : Identifier) (attempt : Nat) (desk : StartDesk) :
    StartDesk :=
  { desk with requested := desk.requested ++
      [⟨intent.operationId, instanceId, attempt, desk.intents.lookup intent.operationId⟩] }

/-- The runner's hold on the intent it carries out; `settled` holds once it has let go of it. -/
structure Custody (own : StartOperation → StartDesk → Prop) (settled : StartDesk → Prop) :
    Prop where
  stable : ∀ {intent}, InHand intent → running.Stable (own intent)
  aside : ∀ {intent desk later}, SameIntents desk later → own intent desk → own intent later
  writes : ∀ {old new desk}, InHand old → InHand new → SameOperation old new → own old desk →
    running.guarantee desk (desk.write new) ∧ own new (desk.write new)
  asks : ∀ {intent instanceId attempt desk}, InHand intent → Engages intent instanceId attempt →
    (Has intent instanceId fun entry => entry.stage = .agentRequested) → own intent desk →
    running.guarantee desk (asked intent instanceId attempt desk) ∧
      own intent (asked intent instanceId attempt desk)
  closes : ∀ {old new desk}, InHand old → new.WellFormed → new.state.isActive = false →
    SameOperation old new → own old desk →
    running.guarantee desk (desk.write new) ∧ settled (desk.write new)
  settledStable : running.Stable settled
  settledAside : ∀ {desk later}, SameIntents desk later → settled desk → settled later

/-- What the start of a target leaves; `first` is the intent it began with. -/
def TargetEnds (own : StartOperation → StartDesk → Prop) (first : StartOperation)
    (instanceId : Identifier) : TargetOutcome → StartDesk → Prop
  | .ok (done, result), desk => own done desk ∧ InHand done ∧ SameOperation first done ∧
      (Has done instanceId fun entry => entry.state = .running ∧ entry.result = some result) ∧
      ∀ other, other ≠ instanceId → done.progressOf other = first.progressOf other
  | .error (failing, _), desk => ∃ kept, own kept desk ∧ InHand kept ∧ InHand failing ∧
      SameOperation first kept ∧ SameOperation kept failing

section

variable {own : StartOperation → StartDesk → Prop} {settled : StartDesk → Prop}
  {first kept intent : StartOperation} {instanceId : Identifier} {key : InstanceKey}
  {attempt : Nat} {time : Timestamp} {α : Type} {launch : LaunchSummary} {reused : Bool}
  {agentOperationId : Identifier} {mode : StartMode} {previous : SideEffectStage}
  {raises : Fault → StartDesk → Prop}

/-- The intent in memory is a version of the stored one, which is a version of the first. -/
structure Versions (first kept intent : StartOperation) (instanceId : Identifier) : Prop where
  keptHand : InHand kept
  hand : InHand intent
  since : SameOperation first kept
  same : SameOperation kept intent
  others : ∀ other, other ≠ instanceId → intent.progressOf other = first.progressOf other

theorem Versions.stored (versions : Versions first kept intent instanceId) :
    Versions first intent intent instanceId :=
  ⟨versions.hand, versions.hand, versions.since.trans versions.same, .refl intent,
    versions.others⟩

/-- The progress of the target is updated in memory. -/
theorem Versions.update {change : TargetProgress → TargetProgress}
    (versions : Versions first kept intent instanceId)
    (same : ∀ entry, (change entry).instanceId = entry.instanceId)
    (more : Has intent instanceId fun entry => entry.attempt ≤ (change entry).attempt)
    (wellFormed : Has intent instanceId fun entry =>
      (change entry).WellFormed intent.operationId intent.maxAttempts)
    (live : Has intent instanceId fun entry => (change entry).state.isLive = true) :
    Versions first kept (intent.updateProgress instanceId change) instanceId where
  keptHand := versions.keptHand
  hand := versions.hand.update same more wellFormed live
  since := versions.since
  same := versions.same.trans (.update more)
  others other differs := (updated_progressOf differs same).trans (versions.others other differs)

theorem Custody.quiet (custody : Custody own settled) (hand : InHand intent)
    {operation : Starting α} (quiet : Quiet operation) :
    running.Meets (own intent) operation (fun _ => own intent) fun _ => own intent :=
  quiet SameIntents.running (custody.stable hand) custody.aside

/-- A part that leaves the intents alone, and what follows it. -/
theorem Custody.orFailed (custody : Custody own settled) {part : Starting α}
    {next : α → Starting TargetOutcome} (versions : Versions first kept intent instanceId)
    (quiet : Quiet part)
    (continues : ∀ value, running.Meets (own kept) (next value)
      (TargetEnds own first instanceId) raises) :
    running.Meets (own kept) (orFailed intent part next) (TargetEnds own first instanceId)
      raises := by
  refine Conduct.Meets.bind (custody.quiet versions.keptHand quiet).attempt fun outcome => ?_
  cases outcome with
  | ok value => exact continues value
  | error fault =>
      refine Conduct.Meets.pure (custody.stable versions.keptHand) fun desk holds => ?_
      exact ⟨kept, holds, versions.keptHand, versions.hand, versions.since, versions.same⟩

/-- The intent in memory is written. -/
theorem Custody.written (custody : Custody own settled) {next : Unit → Starting TargetOutcome}
    (versions : Versions first kept intent instanceId)
    (continues : running.Meets (own intent) (next ()) (TargetEnds own first instanceId) raises) :
    running.Meets (own kept) (StartOperations.orFailed intent (writeIntent intent) next)
      (TargetEnds own first instanceId) raises := by
  have writes : running.Meets (own kept) (writeIntent intent) (fun _ => own intent)
      fun _ _ => False :=
    Conduct.Meets.change (custody.stable versions.keptHand)
      (fun _ desk holds =>
        (custody.writes versions.keptHand versions.hand versions.same holds).1)
      (fun _ desk holds =>
        (custody.writes versions.keptHand versions.hand versions.same holds).2)
      (custody.stable versions.hand)
  refine Conduct.Meets.bind writes.attempt fun outcome => ?_
  cases outcome with
  | ok value => exact continues
  | error fault => exact fun desk never => never.elim

/-- The entries of an intent in hand are well-formed and live. -/
theorem InHand.entries (hand : InHand intent) : Has intent instanceId fun entry =>
    entry.WellFormed intent.operationId intent.maxAttempts ∧ entry.state.isLive = true :=
  fun entry member _ => ⟨hand.wellFormed.entries entry member, hand.shape.2.2.2 entry member⟩

theorem not_failed {state : StartProgressState} (live : state.isLive = true) :
    state.isFailed = false := by
  cases state <;> first | rfl | cases live

/-- A target that does not run yet. -/
theorem wellFormed_starting {operationId : Identifier} {maxAttempts : Nat} {entry : TargetProgress}
    (bounded : maxAttempts ≠ 0 → entry.attempt ≤ maxAttempts) (live : entry.state.isLive = true)
    (waits : entry.state ≠ .running) (clear : entry.lastError = none)
    (engaged : entry.stage.engaged = true → entry.launchId.isSome = true ∧ 1 ≤ entry.attempt) :
    entry.WellFormed operationId maxAttempts where
  bounded := bounded
  accepted runs := absurd runs waits
  clear _ := clear
  failed failed := by
    rw [not_failed live] at failed
    cases failed
  engaged := engaged

/-! ## The Agent -/

theorem acceptTarget_meets (custody : Custody own settled)
    (versions : Versions first intent intent key.instanceId)
    (engages : Engages intent key.instanceId attempt) :
    running.Meets (own intent) (acceptTarget intent key launch reused agentOperationId mode)
      (TargetEnds own first key.instanceId) raises := by
  refine custody.orFailed versions Quiet.settleReused fun _ => ?_
  refine custody.orFailed versions Quiet.read fun time => ?_
  have accepted : Versions first intent (intent.updateProgress key.instanceId fun entry =>
      { entry with
        state := .running, stage := .agentAccepted, lastError := none, updatedAt := time
        result := some ⟨key.instanceId, launch, agentOperationId, mode⟩ }) key.instanceId := by
    refine versions.update (fun _ => rfl) (fun _ _ _ => le_rfl) ?_ fun _ _ _ => rfl
    intro entry member same
    obtain ⟨before, -⟩ := versions.hand.entries entry member same
    obtain ⟨-, launched, attempted⟩ := engages.entry entry member same
    exact ⟨before.bounded, fun _ => ⟨rfl, rfl⟩, fun _ => rfl, by rintro ⟨⟩,
      fun _ => ⟨launched, attempted ▸ engages.attempted⟩⟩
  refine custody.written accepted ?_
  refine custody.orFailed accepted.stored Quiet.recordFailureField fun _ => ?_
  refine Conduct.Meets.pure (custody.stable accepted.hand) fun desk holds => ?_
  exact ⟨holds, accepted.hand, accepted.stored.since, Has.update fun _ _ _ => ⟨rfl, rfl⟩,
    accepted.others⟩

/-- The request to the Agent is made while the stored intent says so. -/
theorem startAccepted_meets (custody : Custody own settled) (hand : InHand intent)
    (engages : Engages intent instanceId attempt)
    (requested : Has intent instanceId fun entry => entry.stage = .agentRequested) :
    running.Meets (own intent) (startAccepted intent.operationId instanceId attempt)
      (fun _ => own intent) fun _ => own intent := by
  have asks : running.Meets (own intent) (startAgent intent.operationId instanceId attempt)
      (fun _ => own intent) fun _ => own intent :=
    Conduct.Meets.atomically (custody.stable hand)
      (fun _ _ holds => (custody.asks hand engages requested holds).1)
      (fun _ _ _ holds _ => (custody.asks hand engages requested holds).2)
      (fun _ _ _ holds _ => (custody.asks hand engages requested holds).2)
      (fun _ => custody.stable hand) fun _ => custody.stable hand
  refine Conduct.Meets.bind asks fun started => ?_
  cases started with
  | some agentOperationId => exact custody.quiet hand Quiet.pure
  | none => exact custody.quiet hand Quiet.raise

theorem engageAgent_meets (custody : Custody own settled) {attemptId : Identifier}
    (versions : Versions first intent intent key.instanceId)
    (engages : Engages intent key.instanceId attempt) :
    running.Meets (own intent)
      (engageAgent intent key attempt previous launch reused attemptId)
      (TargetEnds own first key.instanceId) raises := by
  refine custody.orFailed versions Quiet.recoverAgent fun recovered => ?_
  split
  · exact acceptTarget_meets custody versions engages
  · refine custody.orFailed versions Quiet.read fun time => ?_
    have requesting : Versions first intent (intent.updateProgress key.instanceId fun entry =>
        { entry with stage := .agentRequested, updatedAt := time }) key.instanceId := by
      refine versions.update (fun _ => rfl) (fun _ _ _ => le_rfl) ?_ fun entry member same => ?_
      · intro entry member same
        obtain ⟨before, live⟩ := versions.hand.entries entry member same
        obtain ⟨state, launched, attempted⟩ := engages.entry entry member same
        exact wellFormed_starting before.bounded live (by rw [state]; rintro ⟨⟩)
          (before.clear live) fun _ => ⟨launched, attempted ▸ engages.attempted⟩
      · exact (versions.hand.entries entry member same).2
    refine custody.written requesting ?_
    have still : Engages (intent.updateProgress key.instanceId fun entry =>
        { entry with stage := .agentRequested, updatedAt := time }) key.instanceId attempt := by
      obtain ⟨entry, member, same⟩ := engages.target
      exact ⟨engages.attempted, ⟨_, List.mem_map.mpr ⟨entry, member, if_pos same⟩, same⟩,
        Has.update fun entry member same => engages.entry entry member same⟩
    have accepts := startAccepted_meets custody requesting.hand still
      (Has.update fun _ _ _ => rfl)
    refine Conduct.Meets.bind accepts.attempt fun outcome => ?_
    cases outcome with
    | ok agentOperationId => exact acceptTarget_meets custody requesting.stored still
    | error fault =>
        refine Conduct.Meets.pure (custody.stable requesting.hand) fun desk holds => ?_
        exact ⟨_, holds, requesting.hand, requesting.hand, requesting.stored.since, .refl _⟩

theorem launchPrepared_meets (custody : Custody own settled) {restart : Bool}
    (versions : Versions first intent intent key.instanceId) (attempted : 1 ≤ attempt)
    (target : ∃ entry ∈ intent.progress, entry.instanceId = key.instanceId)
    (entries : Has intent key.instanceId fun entry => entry.attempt = attempt) :
    running.Meets (own intent) (launchPrepared intent key attempt restart previous)
      (TargetEnds own first key.instanceId) raises := by
  refine custody.orFailed versions Quiet.read fun time => ?_
  let launchId := derivedAttemptId "launch" intent.operationId key.instanceId attempt
  have starting : Versions first intent (intent.updateProgress key.instanceId fun entry =>
      { entry with state := .processStarting, launchId := some launchId, updatedAt := time })
      key.instanceId := by
    refine versions.update (fun _ => rfl) (fun _ _ _ => le_rfl) ?_ fun _ _ _ => rfl
    intro entry member same
    obtain ⟨before, live⟩ := versions.hand.entries entry member same
    exact wellFormed_starting before.bounded rfl (by rintro ⟨⟩) (before.clear live)
      fun engaged => ⟨rfl, (before.engaged engaged).2⟩
  refine custody.written starting ?_
  refine custody.orFailed starting.stored Quiet.launchTarget fun launched => ?_
  refine custody.orFailed starting.stored Quiet.read fun time' => ?_
  let middle := intent.updateProgress key.instanceId fun entry =>
    { entry with state := .processStarting, launchId := some launchId, updatedAt := time }
  have persisted : Versions first middle (middle.updateProgress key.instanceId fun entry =>
      { entry with
        state := .agentStarting, stage := .processPersisted
        launchId := some launched.1.launchId, updatedAt := time' }) key.instanceId := by
    refine starting.stored.update (fun _ => rfl) (fun _ _ _ => le_rfl) ?_ fun _ _ _ => rfl
    intro entry member same
    obtain ⟨before, live⟩ := starting.hand.entries entry member same
    exact wellFormed_starting before.bounded rfl (by rintro ⟨⟩) (before.clear live) (by rintro ⟨⟩)
  refine custody.written persisted (engageAgent_meets custody persisted.stored ?_)
  obtain ⟨entry, member, same⟩ := target
  refine ⟨attempted, ?_, ?_⟩
  · exact ⟨_, List.mem_map.mpr ⟨_, List.mem_map.mpr ⟨entry, member, if_pos same⟩, if_pos same⟩, same⟩
  · have attempts : Has middle key.instanceId fun entry => entry.attempt = attempt :=
      Has.update entries
    exact Has.update fun entry member same => ⟨rfl, rfl, attempts entry member same⟩

theorem attempt_le_limit {entry : TargetProgress} (hand : InHand intent)
    (listed : entry ∈ intent.progress) (limited : intent.maxAttempts ≠ 0) :
    max 1 entry.attempt ≤ intent.maxAttempts :=
  max_le (Nat.one_le_iff_ne_zero.mpr limited)
    ((hand.wellFormed.entries entry listed).bounded limited)

/-- The start of a target, also of one that runs: the runner may have stopped after it. -/
theorem resumeStartInstance_meets (custody : Custody own settled) (hand : InHand intent)
    {entry : TargetProgress} (found : intent.progressOf entry.instanceId = some entry) :
    running.Meets (own intent) (resumeStartInstance intent entry)
      (TargetEnds own intent entry.instanceId) raises := by
  have listed := (progressOf_some found).1
  have only : Has intent entry.instanceId fun other => other = entry :=
    has_of_progressOf hand.wellFormed.distinct found rfl
  have initial : Versions intent intent intent entry.instanceId :=
    ⟨hand, hand, .refl intent, .refl intent, fun _ _ => rfl⟩
  let begun := intent.updateProgress entry.instanceId fun other =>
    { other with attempt := max 1 entry.attempt }
  have begins : Versions intent intent begun entry.instanceId := by
    refine initial.update (fun _ => rfl) ?_ ?_ fun other member same => ?_
    · intro other member same
      rw [only other member same]
      exact le_max_right 1 entry.attempt
    · intro other member same
      obtain ⟨before, live⟩ := hand.entries other member same
      obtain rfl := only other member same
      exact ⟨attempt_le_limit hand listed, before.accepted, before.clear,
        fun failed => absurd ((not_failed live).symm.trans failed) (by decide),
        fun engaged => ⟨(before.engaged engaged).1, le_max_left 1 _⟩⟩
    · exact (hand.entries other member same).2
  refine custody.orFailed begins Quiet.startableInstance fun item => ?_
  refine custody.orFailed begins Quiet.read fun time => ?_
  let prepared := begun.updateProgress entry.instanceId fun other =>
    { other with state := .preparing, updatedAt := time }
  have preparing : Versions intent intent prepared entry.instanceId := by
    refine begins.update (fun _ => rfl) (fun _ _ _ => le_rfl) ?_ fun _ _ _ => rfl
    intro other member same
    obtain ⟨before, live⟩ := begins.hand.entries other member same
    exact wellFormed_starting before.bounded rfl (by rintro ⟨⟩) (before.clear live) before.engaged
  refine custody.written preparing ?_
  refine custody.orFailed preparing.stored Quiet.prepareTarget fun _ => ?_
  have attempts : Has begun entry.instanceId fun other => other.attempt = max 1 entry.attempt :=
    Has.update fun _ _ _ => rfl
  refine launchPrepared_meets custody preparing.stored (le_max_left 1 _) ?_ ?_
  · exact ⟨_, List.mem_map.mpr ⟨_, List.mem_map.mpr ⟨entry, listed, if_pos rfl⟩, if_pos rfl⟩, rfl⟩
  · exact Has.update attempts

/-- A failure is recorded, and the runner lets go of the intent. -/
theorem recordStartFailure_meets (custody : Custody own settled) {entry : TargetProgress}
    {error : HarnessError} (kept : StartOperation) (keptHand : InHand kept) (hand : InHand intent)
    (same : SameOperation kept intent)
    (found : intent.progressOf entry.instanceId = some entry) :
    running.Meets (own kept) (recordStartFailure intent entry error) (fun _ => settled)
      fun _ => settled := by
  have times : running.Meets (own kept) now (fun _ => own kept) fun _ => settled := by
    refine (Conduct.Meets.atomically (custody.stable keptHand)
      (fun _ _ _ => SameIntents.running ⟨rfl, rfl, rfl⟩) (fun _ _ _ holds _ => holds)
      (fun _ _ _ _ impossible => by cases impossible) (fun _ => custody.stable keptHand)
      fun _ => custody.settledStable)
  refine Conduct.Meets.bind times fun time => ?_
  have closes : ∀ {desk}, own kept desk → running.guarantee desk
      (desk.write (failedIntent intent entry error time)) ∧
        settled (desk.write (failedIntent intent entry error time)) := fun holds =>
    custody.closes keptHand (failedIntent_wellFormed hand found) failedIntent_ended
      (same.trans failedIntent_same) holds
  have writes : running.Meets (own kept) (writeIntent (failedIntent intent entry error time))
      (fun _ => settled) fun _ => settled :=
    Conduct.Meets.change (custody.stable keptHand) (fun _ _ holds => (closes holds).1)
      (fun _ _ holds => (closes holds).2) custody.settledStable
  refine Conduct.Meets.bind writes fun _ => ?_
  refine Conduct.Meets.bind (Quiet.recordFailedInstance SameIntents.running custody.settledStable
    custody.settledAside) fun _ => ?_
  exact Conduct.Meets.pure custody.settledStable fun _ holds => holds

end

end StartOperations

end DesignHarness
