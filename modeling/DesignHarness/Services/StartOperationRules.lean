import DesignHarness.Services.StartOperations
import Mathlib.Algebra.Order.BigOperators.Group.List
import Mathlib.Algebra.Order.Ring.Nat

/-!
# What holds of every start operation

`StartOperation.WellFormed` says how the fields of an intent belong together in each of its states.
The requests and the runner write well-formed intents only; what each of them leaves alone of the
other's is said by `StartDesk.Beside` and `StartDesk.Onward`.
-/

namespace DesignHarness

open Library

def StartProgressState.isFailed : StartProgressState → Bool
  | retryableFailed | aborted => true
  | _ => false

/-- The target is still to be started, is being started, or runs. -/
def StartProgressState.isLive : StartProgressState → Bool
  | pending | preparing | processStarting | agentStarting | running => true
  | _ => false

/-- The Agent may have been asked. -/
def SideEffectStage.engaged : SideEffectStage → Bool
  | agentRequested | agentAccepted => true
  | _ => false

/-- The failure is one of the attempt of the target. -/
structure StartFailure.Describes (failure : StartFailure) (operationId : Identifier)
    (entry : TargetProgress) : Prop where
  operation : failure.operationId = operationId
  attempt : failure.attempt = entry.attempt
  retryable : failure.retryable = decide (entry.state = .retryableFailed)

structure TargetProgress.WellFormed (operationId : Identifier) (maxAttempts : Nat)
    (entry : TargetProgress) : Prop where
  bounded : maxAttempts ≠ 0 → entry.attempt ≤ maxAttempts
  accepted : entry.state = .running → entry.result.isSome = true ∧ entry.stage = .agentAccepted
  clear : entry.state.isLive = true → entry.lastError = none
  failed : entry.state.isFailed = true →
    ∃ failure, entry.lastError = some failure ∧ failure.Describes operationId entry
  engaged : entry.stage.engaged = true → entry.launchId.isSome = true ∧ 1 ≤ entry.attempt

/-- `result` in the progress of a target. -/
def StartOperation.resultOf (intent : StartOperation) (instanceId : Identifier) :
    Option TargetResult :=
  (intent.progressOf instanceId).bind (·.result)

/-- What the state of an operation says of its other fields. -/
def StartOperation.Shaped (intent : StartOperation) : Prop :=
  match intent.state with
  | .queued | .running => intent.lastError = none ∧ intent.completedAt = none ∧
      intent.result = none ∧ ∀ entry ∈ intent.progress, entry.state.isLive = true
  | .committed => intent.lastError = none ∧ intent.completedAt.isSome = true ∧
      (∀ entry ∈ intent.progress, entry.state = .running) ∧
      ∃ result, intent.result = some result ∧ result.operationId = intent.operationId ∧
        result.launches.map some = intent.targets.map intent.resultOf
  | .retryableFailed => intent.completedAt = none ∧ intent.result = none ∧
      (∀ entry ∈ intent.progress, entry.state.isLive = true ∨ entry.state = .retryableFailed) ∧
      ∃ entry ∈ intent.progress, entry.state = .retryableFailed ∧
        intent.lastError = entry.lastError ∧
        (intent.maxAttempts ≠ 0 → entry.attempt < intent.maxAttempts)
  | .aborted => intent.completedAt.isSome = true ∧ intent.result = none ∧
      intent.error.isSome = true ∧
      ∃ entry ∈ intent.progress, entry.state = .aborted ∧ intent.lastError = entry.lastError
  | .superseded => intent.completedAt.isSome = true ∧ intent.result = none ∧
      intent.isInstance = true ∧ ∀ entry ∈ intent.progress, entry.state = .superseded

/-- The attempts of all targets together. -/
def StartOperations.attemptsOf (intent : StartOperation) : Nat :=
  (intent.progress.map (·.attempt)).sum

structure StartOperation.WellFormed (intent : StartOperation) : Prop where
  distinct : (intent.progress.map (·.instanceId)).Nodup
  covers : ∀ instanceId, instanceId ∈ intent.progress.map (·.instanceId) ↔
    instanceId ∈ intent.targets
  single : intent.isInstance = true →
    ∃ instanceId, intent.request.instanceId = some instanceId ∧ intent.targets = [instanceId]
  limit : intent.maxAttempts = if intent.isInstance then maxInstanceStartAttempts else 0
  entries : ∀ entry ∈ intent.progress,
    entry.WellFormed intent.operationId intent.maxAttempts
  sent : intent.lastRetry.isSome = true → 1 ≤ StartOperations.attemptsOf intent
  confirmed : intent.isInstance = false → intent.state.isActive = false →
    intent.confirmedAt.isSome = true
  shaped : intent.Shaped

namespace StartOperations

section

variable {intent intent' : StartOperation} {entry : TargetProgress}
  {instanceId operationId : Identifier} {time : Timestamp} {change : TargetProgress → TargetProgress}

/-- Both are versions of one intent, and the second has no fewer attempts. -/
structure SameOperation (intent intent' : StartOperation) : Prop where
  operationId : intent'.operationId = intent.operationId
  kind : intent'.kind = intent.kind
  request : intent'.request = intent.request
  targets : intent'.targets = intent.targets
  limit : intent'.maxAttempts = intent.maxAttempts
  confirmedAt : intent'.confirmedAt = intent.confirmedAt
  attempts : attemptsOf intent ≤ attemptsOf intent'

theorem SameOperation.refl (intent : StartOperation) : SameOperation intent intent :=
  ⟨rfl, rfl, rfl, rfl, rfl, rfl, le_rfl⟩

theorem SameOperation.trans {third : StartOperation} (first : SameOperation intent intent')
    (second : SameOperation intent' third) : SameOperation intent third where
  operationId := second.operationId.trans first.operationId
  kind := second.kind.trans first.kind
  request := second.request.trans first.request
  targets := second.targets.trans first.targets
  limit := second.limit.trans first.limit
  confirmedAt := second.confirmedAt.trans first.confirmedAt
  attempts := first.attempts.trans second.attempts

theorem SameOperation.isInstance (same : SameOperation intent intent') :
    intent'.isInstance = intent.isInstance := by
  rw [StartOperation.isInstance, StartOperation.isInstance, same.kind]

/-! ## Updates of one target -/

/-- The entries of the target are as described. -/
def Has (intent : StartOperation) (instanceId : Identifier) (is : TargetProgress → Prop) : Prop :=
  ∀ entry ∈ intent.progress, entry.instanceId = instanceId → is entry

section

variable {is is' : TargetProgress → Prop}

theorem progressOf_some (found : intent.progressOf instanceId = some entry) :
    entry ∈ intent.progress ∧ entry.instanceId = instanceId :=
  ⟨List.mem_of_find?_eq_some found, by simpa using List.find?_some found⟩

theorem Has.update (each : Has intent instanceId fun entry => is (change entry)) :
    Has (intent.updateProgress instanceId change) instanceId is := by
  intro entry member same
  obtain ⟨before, found, rfl⟩ := List.mem_map.mp member
  by_cases target : before.instanceId = instanceId
  · rw [if_pos target]
    exact each before found target
  · rw [if_neg target] at same
    exact absurd same target

theorem Has.found (has : Has intent instanceId is)
    (found : intent.progressOf instanceId = some entry) : is entry :=
  has entry (progressOf_some found).1 (progressOf_some found).2

/-- Each target has one entry. -/
theorem has_of_progressOf (distinct : (intent.progress.map (·.instanceId)).Nodup)
    (found : intent.progressOf instanceId = some entry) (holds : is entry) :
    Has intent instanceId is := by
  intro other member same
  obtain ⟨listed, named⟩ := progressOf_some found
  have equal : other = entry :=
    List.inj_on_of_nodup_map distinct member listed (same.trans named.symm)
  rwa [equal]

end

/-- An update of one target that does not lower its attempt. -/
theorem attemptsOf_update
    (more : Has intent instanceId fun entry => entry.attempt ≤ (change entry).attempt) :
    attemptsOf intent ≤ attemptsOf (intent.updateProgress instanceId change) := by
  simp only [attemptsOf, StartOperation.updateProgress, List.map_map]
  refine List.sum_le_sum fun entry member => ?_
  simp only [Function.comp_apply]
  split
  · exact more entry member ‹_›
  · exact le_rfl

theorem SameOperation.update
    (more : Has intent instanceId fun entry => entry.attempt ≤ (change entry).attempt) :
    SameOperation intent (intent.updateProgress instanceId change) :=
  ⟨rfl, rfl, rfl, rfl, rfl, rfl, attemptsOf_update more⟩

theorem updated_instanceIds (same : ∀ entry, (change entry).instanceId = entry.instanceId) :
    (intent.updateProgress instanceId change).progress.map (·.instanceId) =
      intent.progress.map (·.instanceId) := by
  simp only [StartOperation.updateProgress, List.map_map]
  refine List.map_congr_left fun entry _ => ?_
  simp only [Function.comp_apply]
  split
  · exact same entry
  · rfl

/-- The progress of another target is what it was. -/
theorem updated_progressOf {other : Identifier} (differs : other ≠ instanceId)
    (same : ∀ entry, (change entry).instanceId = entry.instanceId) :
    (intent.updateProgress instanceId change).progressOf other = intent.progressOf other := by
  simp only [StartOperation.progressOf, StartOperation.updateProgress]
  induction intent.progress with
  | nil => rfl
  | cons entry rest ih =>
      simp only [List.map_cons, List.find?_cons, ih]
      by_cases target : entry.instanceId = instanceId
      · have untouched : (change entry).instanceId ≠ other := by
          rw [same, target]; exact differs.symm
        rw [if_pos target, decide_eq_false untouched, decide_eq_false (by rwa [same] at untouched)]
      · rw [if_neg target]

/-- Each entry of an updated intent is an updated one or one of another target. -/
theorem forall_updated {is : TargetProgress → Prop}
    (updated : Has intent instanceId fun entry => is (change entry))
    (others : ∀ entry ∈ intent.progress, is entry) :
    ∀ entry ∈ (intent.updateProgress instanceId change).progress, is entry := by
  intro entry member
  obtain ⟨before, found, rfl⟩ := List.mem_map.mp member
  split
  · exact updated before found ‹_›
  · exact others before found

/-- An intent that is being carried out. -/
structure InHand (intent : StartOperation) : Prop where
  wellFormed : intent.WellFormed
  running : intent.state = .running
  confirmed : intent.isInstance = false → intent.confirmedAt.isSome = true

theorem InHand.shape (hand : InHand intent) : intent.lastError = none ∧
    intent.completedAt = none ∧ intent.result = none ∧
      ∀ entry ∈ intent.progress, entry.state.isLive = true := by
  have shaped := hand.wellFormed.shaped
  rw [StartOperation.Shaped, hand.running] at shaped
  exact shaped

theorem InHand.update (hand : InHand intent)
    (same : ∀ entry, (change entry).instanceId = entry.instanceId)
    (more : Has intent instanceId fun entry => entry.attempt ≤ (change entry).attempt)
    (wellFormed : Has intent instanceId fun entry =>
      (change entry).WellFormed intent.operationId intent.maxAttempts)
    (live : Has intent instanceId fun entry => (change entry).state.isLive = true) :
    InHand (intent.updateProgress instanceId change) := by
  obtain ⟨lastError, completedAt, result, lives⟩ := hand.shape
  have names := @updated_instanceIds intent instanceId change same
  refine ⟨⟨?_, fun id => ?_, hand.wellFormed.single, hand.wellFormed.limit, ?_, fun sent => ?_,
    fun batch _ => hand.confirmed batch, ?_⟩, hand.running, hand.confirmed⟩
  · rw [names]; exact hand.wellFormed.distinct
  · rw [names]; exact hand.wellFormed.covers id
  · exact forall_updated wellFormed hand.wellFormed.entries
  · exact (hand.wellFormed.sent sent).trans (attemptsOf_update more)
  · rw [StartOperation.Shaped, show (intent.updateProgress instanceId change).state = .running from
      hand.running]
    exact ⟨lastError, completedAt, result, forall_updated live lives⟩

theorem nodup_eraseDups {α : Type} [DecidableEq α] (items : List α) : items.eraseDups.Nodup := by
  induction length : items.length using Nat.strong_induction_on generalizing items with
  | _ size ih =>
      cases items with
      | nil => exact List.nodup_nil
      | cons item rest =>
          rw [List.eraseDups_cons, List.nodup_cons, List.mem_eraseDups]
          have shorter : (rest.filter fun other => !other == item).length < size :=
            lt_of_le_of_lt (List.length_filter_le _ _) (by simp [← length])
          refine ⟨fun member => ?_, ih _ shorter _ rfl⟩
          simpa using (List.mem_filter.mp member).2

theorem wellFormed_fresh {maxAttempts : Nat} :
    (TargetProgress.fresh time instanceId).WellFormed operationId maxAttempts where
  bounded _ := Nat.zero_le _
  accepted impossible := by cases impossible
  clear _ := rfl
  failed impossible := by cases impossible
  engaged impossible := by cases impossible

theorem instanceIntent_wellFormed {restart : Bool} {key : InstanceKey}
    {envelope : CommandEnvelope} :
    (instanceIntent restart operationId key envelope time).WellFormed where
  distinct := List.nodup_singleton _
  covers _ := Iff.rfl
  single _ := ⟨key.instanceId, rfl, rfl⟩
  limit := by cases restart <;> rfl
  entries entry member := by
    obtain rfl := List.mem_singleton.mp member
    exact wellFormed_fresh
  sent impossible := by cases impossible
  confirmed _ impossible := by cases impossible
  shaped := by
    refine ⟨rfl, rfl, rfl, fun entry member => ?_⟩
    obtain rfl := List.mem_singleton.mp member
    rfl

theorem readyIntent_wellFormed {request : StartOperationRequest} {plan : Plan}
    {targets : List Identifier} :
    (readyIntent operationId request plan targets time).WellFormed := by
  have names : (readyIntent operationId request plan targets time).progress.map (·.instanceId) =
      targets.eraseDups := by
    simp only [readyIntent, List.map_map]
    exact List.map_id'' (fun _ => rfl) _
  refine ⟨?_, fun id => ?_, (by rintro ⟨⟩), rfl, ?_, (by rintro ⟨⟩), (by rintro - ⟨⟩), ?_⟩
  · rw [names]; exact nodup_eraseDups targets
  · rw [names]; exact List.mem_eraseDups
  · rintro entry member
    obtain ⟨target, -, rfl⟩ := List.mem_map.mp member
    exact wellFormed_fresh
  · refine ⟨rfl, rfl, rfl, fun entry member => ?_⟩
    obtain ⟨target, -, rfl⟩ := List.mem_map.mp member
    rfl

theorem retryable_lt {target : StartTarget} {error : HarnessError}
    (retryable : (target.failure error time).retryable = true) (limited : target.maxAttempts ≠ 0) :
    target.attempt < target.maxAttempts := by
  simp only [StartTarget.failure, Bool.and_eq_true, Bool.or_eq_true, decide_eq_true_eq] at retryable
  exact retryable.2.resolve_left limited

theorem failedState_retryable (failure : StartFailure) :
    failure.retryable = decide (failedState failure = .retryableFailed) := by
  unfold failedState
  split <;> simp_all

theorem failedIntent_entries {error : HarnessError} (hand : InHand intent)
    (found : intent.progressOf entry.instanceId = some entry) :
    ∀ failed ∈ (failedIntent intent entry error time).progress,
      failed.WellFormed intent.operationId intent.maxAttempts := by
  refine forall_updated ?_ hand.wellFormed.entries
  refine has_of_progressOf hand.wellFormed.distinct found ?_
  have before := hand.wellFormed.entries entry (progressOf_some found).1
  refine ⟨before.bounded, fun running => ?_, fun live => ?_, fun _ => ⟨_, rfl, rfl, rfl, ?_⟩,
    before.engaged⟩
  · simp only [failedEntry, failedState] at running
    split at running <;> cases running
  · simp only [failedEntry, failedState] at live
    split at live <;> cases live
  · exact failedState_retryable _

theorem failedIntent_shaped {error : HarnessError} (hand : InHand intent)
    (found : intent.progressOf entry.instanceId = some entry) :
    (failedIntent intent entry error time).Shaped := by
  obtain ⟨-, completedAt, result, lives⟩ := hand.shape
  obtain ⟨listed, -⟩ := progressOf_some found
  let failure := (intent.targetOf entry).failure error time
  have member : failedEntry failure time entry ∈
      (failedIntent intent entry error time).progress :=
    List.mem_map.mpr ⟨entry, listed, if_pos rfl⟩
  cases retryable : failure.retryable with
  | true =>
      have state : (failedIntent intent entry error time).state = .retryableFailed :=
        if_pos retryable
      have failed : failedState failure = .retryableFailed := if_pos retryable
      rw [StartOperation.Shaped, state]
      refine ⟨(if_pos retryable).trans completedAt, result, ?_, _, member, failed, rfl,
        fun limited => retryable_lt retryable limited⟩
      refine forall_updated (fun other _ _ => .inr failed) fun other among => .inl ?_
      exact lives other among
  | false =>
      have missing : ¬failure.retryable = true := by simp [retryable]
      have state : (failedIntent intent entry error time).state = .aborted := if_neg missing
      have failed : failedState failure = .aborted := if_neg missing
      have completes : (failedIntent intent entry error time).completedAt = some time :=
        if_neg missing
      have raises : (failedIntent intent entry error time).error =
          some ⟨error.code, error.message, publicDetails error.details⟩ := if_neg missing
      rw [StartOperation.Shaped, state]
      exact ⟨by rw [completes]; rfl, result, by rw [raises]; rfl, _, member, failed, rfl⟩

theorem failedIntent_same {error : HarnessError} :
    SameOperation intent (failedIntent intent entry error time) := by
  refine ⟨rfl, rfl, rfl, rfl, rfl, rfl, attemptsOf_update fun _ _ _ => le_rfl⟩

theorem failedIntent_wellFormed {error : HarnessError} (hand : InHand intent)
    (found : intent.progressOf entry.instanceId = some entry) :
    (failedIntent intent entry error time).WellFormed := by
  have names : (failedIntent intent entry error time).progress.map (·.instanceId) =
      intent.progress.map (·.instanceId) :=
    @updated_instanceIds intent entry.instanceId (failedEntry _ time) fun _ => rfl
  refine ⟨?_, fun id => ?_, hand.wellFormed.single, hand.wellFormed.limit,
    failedIntent_entries hand found,
    fun sent => (hand.wellFormed.sent sent).trans failedIntent_same.attempts,
    fun batch _ => hand.confirmed batch, failedIntent_shaped hand found⟩
  · rw [names]; exact hand.wellFormed.distinct
  · rw [names]; exact hand.wellFormed.covers id

theorem failedIntent_ended {error : HarnessError} :
    (failedIntent intent entry error time).state.isActive = false := by
  change (if _ then StartState.retryableFailed else .aborted).isActive = false
  split <;> rfl

/-- The intent is committed when every target runs. -/
theorem committedIntent_wellFormed {launches : List TargetResult} {unavailable : List Identifier}
    (hand : InHand intent) (running : ∀ entry ∈ intent.progress, entry.state = .running)
    (results : launches.map some = intent.targets.map intent.resultOf) :
    (committedIntent intent launches unavailable time).WellFormed where
  distinct := hand.wellFormed.distinct
  covers := hand.wellFormed.covers
  single := hand.wellFormed.single
  limit := hand.wellFormed.limit
  entries := hand.wellFormed.entries
  sent := hand.wellFormed.sent
  confirmed batch _ := hand.confirmed batch
  shaped := ⟨rfl, rfl, running, _, rfl, rfl, results⟩

theorem committedIntent_same {launches : List TargetResult} {unavailable : List Identifier} :
    SameOperation intent (committedIntent intent launches unavailable time) :=
  ⟨rfl, rfl, rfl, rfl, rfl, rfl, le_rfl⟩

theorem supersededIntent_attempts :
    attemptsOf (supersededIntent intent time) = attemptsOf intent := by
  simp only [attemptsOf, supersededIntent, List.map_map]
  rfl

theorem supersededIntent_wellFormed (wellFormed : intent.WellFormed)
    (single : intent.isInstance = true) (isOpen : intent.state.isOpen = true) :
    (supersededIntent intent time).WellFormed := by
  have result : intent.result = none := by
    have shaped := wellFormed.shaped
    rw [StartOperation.Shaped] at shaped
    cases state : intent.state <;> rw [state] at shaped isOpen
    · exact shaped.2.2.1
    · exact shaped.2.2.1
    · cases isOpen
    · exact shaped.2.1
    · cases isOpen
    · cases isOpen
  have names : (supersededIntent intent time).progress.map (·.instanceId) =
      intent.progress.map (·.instanceId) := by
    simp only [supersededIntent, List.map_map]
    rfl
  refine ⟨?_, fun id => ?_, wellFormed.single, wellFormed.limit, ?_, fun sent => ?_,
    fun batch _ => absurd (single.symm.trans batch) (by decide), ?_⟩
  · rw [names]; exact wellFormed.distinct
  · rw [names]; exact wellFormed.covers id
  · rintro entry member
    obtain ⟨before, listed, rfl⟩ := List.mem_map.mp member
    have sound := wellFormed.entries before listed
    exact ⟨sound.bounded, by rintro ⟨⟩, by rintro ⟨⟩, by rintro ⟨⟩, sound.engaged⟩
  · rw [supersededIntent_attempts]
    exact wellFormed.sent sent
  · refine ⟨rfl, result, single, fun entry member => ?_⟩
    obtain ⟨before, -, rfl⟩ := List.mem_map.mp member
    rfl

/-! ## Operations that are carried out again -/

/-- An operation on one instance has one entry. -/
theorem single_progress (wellFormed : intent.WellFormed) (single : intent.isInstance = true) :
    ∃ entry, intent.progress = [entry] ∧ intent.targets = [entry.instanceId] ∧
      intent.request.instanceId = some entry.instanceId := by
  obtain ⟨target, request, targets⟩ := wellFormed.single single
  have same : (intent.progress.map (·.instanceId)).Perm [target] := by
    refine (List.perm_ext_iff_of_nodup wellFormed.distinct (List.nodup_singleton _)).mpr ?_
    intro id
    rw [wellFormed.covers id, targets]
  have names := List.perm_singleton.mp same
  obtain ⟨entry, progress, rfl⟩ : ∃ entry, intent.progress = [entry] ∧
      entry.instanceId = target := by
    cases progress : intent.progress with
    | nil => rw [progress] at names; cases names
    | cons entry rest =>
        rw [progress, List.map_cons, List.cons_eq_cons, List.map_eq_nil_iff] at names
        exact ⟨entry, by rw [names.2], names.1⟩
  exact ⟨entry, progress, targets, request⟩

/-- The operation may still be carried out again. -/
def mayRetry (intent : StartOperation) : Bool :=
  intent.state = .retryableFailed ||
    (intent.state = .aborted && intent.lastError.any isGateFailure)

/-- No request and no scan changes the operation any more. -/
def isFinal (intent : StartOperation) : Bool := !intent.state.isActive && !mayRetry intent

/-- A target of an operation that is carried out again. -/
def again (reopens : Bool) (time : Timestamp) (entry : TargetProgress) : TargetProgress :=
  (if reopens then entry.reopened else entry).retried time

theorem again_live {reopens : Bool} (live : entry.state.isLive = true) :
    again reopens time entry = entry := by
  have retryable : entry.state ≠ .retryableFailed := by
    intro state
    rw [state] at live
    cases live
  have aborted : entry.state ≠ .aborted := by
    intro state
    rw [state] at live
    cases live
  unfold again TargetProgress.reopened TargetProgress.retried
  cases reopens <;> simp [retryable, aborted]

/-- A target that failed is pending again, with one attempt more. -/
theorem again_failed {reopens : Bool}
    (failed : entry.state = .retryableFailed ∨ reopens = true ∧ entry.state = .aborted) :
    (again reopens time entry).state = .pending ∧
      (again reopens time entry).attempt = entry.attempt + 1 ∧
      (again reopens time entry).lastError = none ∧
      (again reopens time entry).stage = entry.stage ∧
      (again reopens time entry).launchId = entry.launchId := by
  unfold again TargetProgress.reopened TargetProgress.retried
  obtain retryable | ⟨rfl, aborted⟩ := failed
  · cases reopens <;> simp [retryable]
  · simp [aborted]

theorem again_instanceId {reopens : Bool} :
    (again reopens time entry).instanceId = entry.instanceId := by
  unfold again TargetProgress.reopened TargetProgress.retried
  split_ifs <;> rfl

theorem again_wellFormed {reopens : Bool} {maxAttempts : Nat}
    (wellFormed : entry.WellFormed operationId maxAttempts)
    (failed : entry.state.isLive = true ∨ (entry.state = .retryableFailed ∨
      reopens = true ∧ entry.state = .aborted) ∧ (maxAttempts ≠ 0 → entry.attempt < maxAttempts)) :
    (again reopens time entry).WellFormed operationId maxAttempts ∧
      (again reopens time entry).state.isLive = true := by
  obtain live | ⟨failed, less⟩ := failed
  · rw [again_live live]
    exact ⟨wellFormed, live⟩
  · obtain ⟨state, attempt, lastError, stage, launchId⟩ := @again_failed entry time reopens failed
    refine ⟨⟨fun limited => ?_, fun running => ?_, fun _ => lastError, fun impossible => ?_,
      fun engaged => ?_⟩, by rw [state]; rfl⟩
    · rw [attempt]; exact less limited
    · rw [state] at running; cases running
    · rw [state] at impossible; cases impossible
    · rw [stage] at engaged
      rw [launchId, attempt]
      exact ⟨(wellFormed.engaged engaged).1, Nat.le_add_left _ _⟩

theorem retriedIntent_progress {reopens : Bool} {envelope : CommandEnvelope} :
    (retriedIntent intent reopens envelope time).progress =
      intent.progress.map (again reopens time) := by
  cases reopens with
  | true => simp [retriedIntent, again, List.map_map, Function.comp_def]
  | false => simp [retriedIntent, again]

/-- What `retry_start_operation` has checked. -/
structure Retries (intent : StartOperation) (reopens : Bool) : Prop where
  failed : intent.state = .retryableFailed ∨ intent.state = .aborted
  opened : intent.state = .aborted → reopens = true
  single : reopens = true → intent.isInstance = true ∧ mayRetry intent = true
  open' : intent.attemptsExhausted = false

theorem Retries.entries {reopens : Bool} (retries : Retries intent reopens)
    (wellFormed : intent.WellFormed) : ∀ entry ∈ intent.progress,
      entry.state.isLive = true ∨ (entry.state = .retryableFailed ∨
        reopens = true ∧ entry.state = .aborted) ∧
          (intent.maxAttempts ≠ 0 → entry.attempt < intent.maxAttempts) := by
  have less : intent.maxAttempts ≠ 0 → ∀ entry ∈ intent.progress,
      entry.attempt < intent.maxAttempts := by
    intro limited
    have single : intent.isInstance = true := by
      by_contra batch
      exact limited (wellFormed.limit.trans (if_neg batch))
    obtain ⟨entry, progress, -⟩ := single_progress wellFormed single
    have remains := retries.open'
    simp only [StartOperation.attemptsExhausted, progress] at remains
    simpa [progress, limited] using remains
  have shaped := wellFormed.shaped
  rw [StartOperation.Shaped] at shaped
  intro entry member
  obtain retryable | aborted := retries.failed
  · rw [retryable] at shaped
    obtain live | failed := shaped.2.2.1 entry member
    · exact .inl live
    · exact .inr ⟨.inl failed, fun limited => less limited entry member⟩
  · rw [aborted] at shaped
    obtain ⟨-, -, -, refused, listed, state, -⟩ := shaped
    have reopens := retries.opened aborted
    obtain ⟨only, progress, -⟩ := single_progress wellFormed (retries.single reopens).1
    rw [progress, List.mem_singleton] at member listed
    subst member
    subst listed
    refine .inr ⟨.inr ⟨reopens, state⟩, fun limited => less limited _ ?_⟩
    rw [progress]
    exact List.mem_singleton_self _

/-- An operation that is carried out again has a target that failed. -/
theorem Retries.target {reopens : Bool} (retries : Retries intent reopens)
    (wellFormed : intent.WellFormed) : ∃ entry ∈ intent.progress,
      entry.state = .retryableFailed ∨ reopens = true ∧ entry.state = .aborted := by
  have shaped := wellFormed.shaped
  rw [StartOperation.Shaped] at shaped
  obtain state | state := retries.failed
  · rw [state] at shaped
    obtain ⟨-, -, -, failed, listed, retryable, -⟩ := shaped
    exact ⟨failed, listed, .inl retryable⟩
  · rw [state] at shaped
    obtain ⟨-, -, -, failed, listed, aborted, -⟩ := shaped
    exact ⟨failed, listed, .inr ⟨retries.opened state, aborted⟩⟩

/-- A retry counts an attempt of the target that failed. -/
theorem retriedIntent_sent {reopens : Bool} {envelope : CommandEnvelope}
    (wellFormed : intent.WellFormed) (retries : Retries intent reopens) :
    1 ≤ attemptsOf (retriedIntent intent reopens envelope time) := by
  obtain ⟨entry, listed, failed⟩ := retries.target wellFormed
  have attempt := (@again_failed entry time reopens failed).2.1
  have counted : (again reopens time entry).attempt ∈
      (retriedIntent intent reopens envelope time).progress.map (·.attempt) := by
    rw [retriedIntent_progress]
    exact List.mem_map_of_mem (List.mem_map_of_mem listed)
  have within := List.le_sum_of_mem counted
  unfold attemptsOf
  omega

theorem retriedIntent_wellFormed {reopens : Bool} {envelope : CommandEnvelope}
    (wellFormed : intent.WellFormed) (retries : Retries intent reopens) :
    (retriedIntent intent reopens envelope time).WellFormed := by
  have entries := @retriedIntent_progress intent time reopens envelope
  have names : (retriedIntent intent reopens envelope time).progress.map (·.instanceId) =
      intent.progress.map (·.instanceId) := by
    rw [entries, List.map_map]
    exact List.map_congr_left fun _ _ => again_instanceId
  have checked : ∀ entry ∈ (retriedIntent intent reopens envelope time).progress,
      entry.WellFormed intent.operationId intent.maxAttempts ∧ entry.state.isLive = true := by
    rw [entries]
    intro entry member
    obtain ⟨before, listed, rfl⟩ := List.mem_map.mp member
    exact again_wellFormed (wellFormed.entries before listed)
      (retries.entries wellFormed before listed)
  refine ⟨?_, fun id => ?_, wellFormed.single, wellFormed.limit,
    fun entry member => (checked entry member).1, fun _ => retriedIntent_sent wellFormed retries,
    by rintro - ⟨⟩, rfl, ?_, ?_, fun entry member => (checked entry member).2⟩
  · rw [names]; exact wellFormed.distinct
  · rw [names]; exact wellFormed.covers id
  · have shaped := wellFormed.shaped
    rw [StartOperation.Shaped] at shaped
    cases reopens with
    | true => rfl
    | false =>
        obtain retryable | aborted := retries.failed
        · rw [retryable] at shaped
          exact shaped.1
        · cases retries.opened aborted
  · have shaped := wellFormed.shaped
    rw [StartOperation.Shaped] at shaped
    obtain state | state := retries.failed
    · rw [state] at shaped
      exact shaped.2.1
    · rw [state] at shaped
      exact shaped.2.1

/-- A retry of an operation on one instance is an attempt more. -/
theorem retriedIntent_attempts {reopens : Bool} {envelope : CommandEnvelope}
    (wellFormed : intent.WellFormed) (retries : Retries intent reopens)
    (single : intent.isInstance = true) :
    attemptsOf intent < attemptsOf (retriedIntent intent reopens envelope time) := by
  obtain ⟨entry, progress, -⟩ := single_progress wellFormed single
  obtain ⟨target, listed, failed⟩ := retries.target wellFormed
  rw [progress, List.mem_singleton] at listed
  subst listed
  have attempt := (@again_failed target time reopens failed).2.1
  simp only [attemptsOf, retriedIntent_progress, progress, List.map_cons, List.map_nil,
    List.sum_cons, List.sum_nil, attempt]
  omega

end

end StartOperations

end DesignHarness
