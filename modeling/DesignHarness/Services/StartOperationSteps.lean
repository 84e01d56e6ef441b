import DesignHarness.Services.StartOperationRules

/-!
# Steps of start operations

The runner owns the intents of operations on instances that are queued or running; the requests own
the others.  `StartDesk.Sound` holds in every state, `Beside` is what the requests do to the
runner's intents and `Onward` what the runner does to those of the requests.
-/

namespace DesignHarness

open Library

namespace StartOperations

/-- The intent that was stored when an Agent was asked to start says so. -/
structure Recorded (request : AgentRequest) (intent : StartOperation) : Prop where
  operationId : intent.operationId = request.operationId
  running : intent.state = .running
  target : intent.targets = [request.instanceId]
  entry : ∃ entry, intent.progressOf request.instanceId = some entry ∧
    entry.stage = .agentRequested ∧ entry.attempt = request.attempt ∧
      entry.launchId.isSome = true
  attempts : 1 ≤ request.attempt ∧ request.attempt ≤ maxInstanceStartAttempts

structure Sound (desk : StartDesk) : Prop where
  filed : ∀ {id intent}, desk.intents.lookup id = some intent →
    intent.operationId = id ∧ intent.WellFormed
  recorded : ∀ request ∈ desk.requested, ∃ intent, request.stored = some intent ∧
    (intent.isInstance = true → Recorded request intent)

/-- A retry has been recorded, with an attempt more. -/
def SentAgain (intent next : StartOperation) : Prop :=
  next.lastRetry.isSome = true ∧ attemptsOf intent < attemptsOf next

theorem SentAgain.trans {intent middle next : StartOperation} (first : SentAgain intent middle)
    (second : SentAgain middle next) : SentAgain intent next :=
  ⟨second.1, first.2.trans second.2⟩

/-- What requests do: an operation on one instance is changed only to be carried out again, and an
    operation on all ready instances is active after it. -/
structure Beside (desk later : StartDesk) : Prop where
  alive : desk.runnerAlive = true → later.runnerAlive = true
  intents : ∀ {id intent}, desk.intents.lookup id = some intent →
    ∃ next, later.intents.lookup id = some next ∧ next.kind = intent.kind ∧
      (next = intent ∨ next.state.isActive = true ∧
        (intent.isInstance = true → mayRetry intent = true ∧ SentAgain intent next) ∧
        (intent.isInstance = false → next.confirmedAt.isSome = true))

/-- What every step does: intents stay, and the final ones of operations on instances do not
    change. -/
structure Onward (desk later : StartDesk) : Prop where
  alive : desk.runnerAlive = true → later.runnerAlive = true
  intents : ∀ {id intent}, desk.intents.lookup id = some intent →
    ∃ next, later.intents.lookup id = some next ∧ next.kind = intent.kind ∧
      (intent.isInstance = true → isFinal intent = true → next = intent)

section

variable {desk later third : StartDesk} {intent next : StartOperation}
  {id operationId instanceId : Identifier}

theorem isInstance_of_kind (same : next.kind = intent.kind) :
    next.isInstance = intent.isInstance := by
  rw [StartOperation.isInstance, StartOperation.isInstance, same]

theorem Beside.refl (desk : StartDesk) : Beside desk desk :=
  ⟨fun alive => alive, fun found => ⟨_, found, rfl, .inl rfl⟩⟩

theorem Beside.trans (first : Beside desk later) (second : Beside later third) :
    Beside desk third := by
  refine ⟨fun alive => second.alive (first.alive alive), fun {id intent} found => ?_⟩
  obtain ⟨middle, foundMiddle, kind, changed⟩ := first.intents found
  obtain ⟨next, foundNext, kind', changed'⟩ := second.intents foundMiddle
  refine ⟨next, foundNext, kind'.trans kind, ?_⟩
  have single := isInstance_of_kind kind
  obtain rfl | ⟨active, again, confirmed⟩ := changed
  · exact changed'
  · obtain rfl | ⟨active', again', confirmed'⟩ := changed'
    · exact .inr ⟨active, again, confirmed⟩
    · refine .inr ⟨active', fun one => ⟨(again one).1, ?_⟩, fun all => confirmed' (by rwa [single])⟩
      exact (again one).2.trans (again' (by rwa [single])).2

theorem not_mayRetry (final : isFinal intent = true) : mayRetry intent = false := by
  rw [isFinal, Bool.and_eq_true, Bool.not_eq_true'] at final
  simpa using final.2

theorem Beside.onward (beside : Beside desk later) : Onward desk later := by
  refine ⟨beside.alive, fun {id intent} found => ?_⟩
  obtain ⟨next, foundNext, kind, changed⟩ := beside.intents found
  refine ⟨next, foundNext, kind, fun single final => ?_⟩
  obtain same | ⟨-, again, -⟩ := changed
  · exact same
  · cases (again single).1.symm.trans (not_mayRetry final)

theorem Onward.refl (desk : StartDesk) : Onward desk desk := (Beside.refl desk).onward

theorem Onward.trans (first : Onward desk later) (second : Onward later third) :
    Onward desk third := by
  refine ⟨fun alive => second.alive (first.alive alive), fun {id intent} found => ?_⟩
  obtain ⟨middle, foundMiddle, kind, kept⟩ := first.intents found
  obtain ⟨next, foundNext, kind', kept'⟩ := second.intents foundMiddle
  refine ⟨next, foundNext, kind'.trans kind, fun single final => ?_⟩
  obtain rfl := kept single final
  exact kept' single final

@[simp] theorem lookup_write : (desk.write intent).intents.lookup id =
    if id = intent.operationId then some intent else desk.intents.lookup id := by
  unfold StartDesk.write
  split
  · subst id
    exact AList.lookup_insert desk.intents
  · exact AList.lookup_insert_ne ‹_›

theorem Sound.write (sound : Sound desk) (wellFormed : intent.WellFormed) :
    Sound (desk.write intent) := by
  refine ⟨fun {id stored} found => ?_, sound.recorded⟩
  rw [lookup_write] at found
  split at found
  · obtain rfl := Option.some.inj found
    exact ⟨Eq.symm ‹_›, wellFormed⟩
  · exact sound.filed found

/-- A write to an operation that is not final, and keeps its kind. -/
theorem Onward.write
    (stored : desk.intents.lookup intent.operationId = some next) (kind : intent.kind = next.kind)
    (free : next.isInstance = true → isFinal next = false) : Onward desk (desk.write intent) := by
  refine ⟨fun alive => alive, fun {id before} found => ?_⟩
  rw [lookup_write]
  split
  · subst id
    obtain rfl := Option.some.inj (stored.symm.trans found)
    exact ⟨intent, rfl, kind, fun single final => by cases final.symm.trans (free single)⟩
  · exact ⟨before, found, rfl, fun _ _ => rfl⟩

/-- A write to a new operation. -/
theorem Beside.write_new (absent : desk.intents.lookup intent.operationId = none) :
    Beside desk (desk.write intent) := by
  refine ⟨fun alive => alive, fun {id before} found => ?_⟩
  rw [lookup_write]
  split
  · subst id
    cases absent.symm.trans found
  · exact ⟨before, found, rfl, .inl rfl⟩

/-- An operation that is carried out again. -/
theorem Beside.write
    (stored : desk.intents.lookup intent.operationId = some next) (kind : intent.kind = next.kind)
    (active : intent.state.isActive = true)
    (again : next.isInstance = true → mayRetry next = true ∧ SentAgain next intent)
    (confirmed : next.isInstance = false → intent.confirmedAt.isSome = true) :
    Beside desk (desk.write intent) := by
  refine ⟨fun alive => alive, fun {id before} found => ?_⟩
  rw [lookup_write]
  split
  · subst id
    obtain rfl := Option.some.inj (stored.symm.trans found)
    exact ⟨intent, rfl, kind, .inr ⟨active, again, confirmed⟩⟩
  · exact ⟨before, found, rfl, .inl rfl⟩

/-- A step that changes neither the intents nor what the Agents were asked. -/
structure SameIntents (desk later : StartDesk) : Prop where
  intents : later.intents = desk.intents
  requested : later.requested = desk.requested
  alive : later.runnerAlive = desk.runnerAlive

theorem SameIntents.sound (same : SameIntents desk later) (sound : Sound desk) : Sound later := by
  refine ⟨fun found => ?_, ?_⟩
  · rw [same.intents] at found
    exact sound.filed found
  · rw [same.requested]
    exact sound.recorded

theorem SameIntents.beside (same : SameIntents desk later) : Beside desk later :=
  ⟨fun alive => same.alive.trans alive,
    fun found => ⟨_, by rw [same.intents]; exact found, rfl, .inl rfl⟩⟩

/-- The runner expects requests beside it. -/
def running : Conduct StartDesk where
  rely desk later := (Sound desk → Sound later) ∧ Beside desk later
  guarantee desk later := (Sound desk → Sound later) ∧ Onward desk later
  refl desk := ⟨fun sound => sound, .refl desk⟩
  trans first second := ⟨fun sound => second.1 (first.1 sound), first.2.trans second.2⟩

/-- A request expects the runner and other requests beside it. -/
def requesting : Conduct StartDesk where
  rely desk later := (Sound desk → Sound later) ∧ Onward desk later
  guarantee desk later := (Sound desk → Sound later) ∧ Beside desk later
  refl desk := ⟨fun sound => sound, .refl desk⟩
  trans first second := ⟨fun sound => second.1 (first.1 sound), first.2.trans second.2⟩

theorem SameIntents.running (same : SameIntents desk later) : running.guarantee desk later :=
  ⟨same.sound, same.beside.onward⟩

theorem SameIntents.requesting (same : SameIntents desk later) :
    requesting.guarantee desk later :=
  ⟨same.sound, same.beside⟩

end

/-! ## Steps that leave the intents alone -/

/-- The operation leaves the intents alone. -/
def Quiet {α : Type} (operation : Starting α) : Prop :=
  ∀ {conduct : Conduct StartDesk} {condition : StartDesk → Prop},
    (∀ {desk later}, SameIntents desk later → conduct.guarantee desk later) →
    conduct.Stable condition →
    (∀ {desk later}, SameIntents desk later → condition desk → condition later) →
    conduct.Meets condition operation (fun _ => condition) fun _ => condition

namespace Quiet

variable {α β : Type} {key : InstanceKey}

theorem atomically {body : StartSurroundings → StartDesk → Except Fault α × StartDesk}
    (same : ∀ answer desk, SameIntents desk (body answer desk).2) :
    Quiet (Thread.atomically body) := by
  intro conduct condition still stable blind
  exact Conduct.Meets.atomically stable (fun answer desk _ => still (same answer desk))
    (fun answer desk _ holds _ => blind (same answer desk) holds)
    (fun answer desk _ holds _ => blind (same answer desk) holds) (fun _ => stable) fun _ => stable

theorem read {body : StartSurroundings → StartDesk → Except Fault α} : Quiet (Thread.read body) :=
  atomically fun _ _ => ⟨rfl, rfl, rfl⟩

theorem raise {fault : Fault} : Quiet (Thread.raise fault : Starting α) :=
  fun _ stable _ => Conduct.Meets.raise stable fun _ holds => holds

theorem pure {value : α} : Quiet (Pure.pure value : Starting α) :=
  fun _ stable _ => Conduct.Meets.pure stable fun _ holds => holds

theorem bind {operation : Starting α} {next : α → Starting β} (first : Quiet operation)
    (rest : ∀ value, Quiet (next value)) : Quiet (operation >>= next) :=
  fun still stable blind => Conduct.Meets.bind (first still stable blind) fun value =>
    rest value still stable blind

theorem ask {answered : StartSurroundings → Outcome α} : Quiet (StartOperations.ask answered) :=
  read

theorem now : Quiet StartOperations.now := read

theorem updateInstance {desk : StartDesk} {update : AgentInstance → AgentInstance} :
    SameIntents desk (desk.updateInstance key update) := ⟨rfl, rfl, rfl⟩

theorem transitionInstance {target : InstanceStatus} :
    Quiet (StartOperations.transitionInstance key target) := by
  refine atomically fun answer desk => ?_
  split
  · exact ⟨rfl, rfl, rfl⟩
  · exact ⟨rfl, rfl, rfl⟩
  · exact ⟨rfl, rfl, rfl⟩
  · split
    · exact ⟨rfl, rfl, rfl⟩
    · exact updateInstance

theorem recordFailureField {failure : Option StartFailure} :
    Quiet (StartOperations.recordFailureField key failure) := by
  refine atomically fun answer desk => ?_
  split
  · exact ⟨rfl, rfl, rfl⟩
  · exact updateInstance

theorem startableInstance {restart : Bool} :
    Quiet (StartOperations.startableInstance key restart) := by
  unfold StartOperations.startableInstance
  split
  · exact read
  · refine bind (bind read fun item => ?_) fun _ => read
    split
    · exact transitionInstance
    · exact pure

theorem prepareTarget {item : AgentInstance} {stage : SideEffectStage} :
    Quiet (StartOperations.prepareTarget item stage) := by
  refine bind ask fun available => ?_
  split
  · refine bind ask fun errors => ?_
    split
    · exact bind read fun _ => ask
    · exact raise
  · exact raise

theorem launchTarget {restart : Bool} {previous : SideEffectStage} {attemptId : Identifier} :
    Quiet (StartOperations.launchTarget key restart previous attemptId) := by
  refine bind read fun current => ?_
  split
  · split
    · exact bind transitionInstance fun _ => pure
    · exact pure
  · refine bind ask fun launch => ?_
    split
    · exact pure
    · exact raise

theorem recoverAgent {previous : SideEffectStage} :
    Quiet (StartOperations.recoverAgent key previous) := by
  unfold StartOperations.recoverAgent
  split
  · exact bind read fun _ => ask
  · exact pure

theorem settleReused {reused : Bool} : Quiet (StartOperations.settleReused key reused) := by
  refine bind read fun current => ?_
  split
  · exact transitionInstance
  · exact pure

theorem recordFailedInstance {intent : StartOperation} {entry : TargetProgress}
    {error : HarnessError} {time : Timestamp} :
    Quiet (StartOperations.recordFailedInstance intent entry error time) := by
  refine bind read fun current => ?_
  split
  · exact bind transitionInstance fun _ => recordFailureField
  · exact recordFailureField

theorem confirmTask {plan : Plan} : Quiet (StartOperations.confirmTask plan) := by
  unfold StartOperations.confirmTask
  split
  · exact ask
  · split
    · exact pure
    · exact raise

theorem requireStartable : Quiet (StartOperations.requireStartable key) := by
  refine bind read fun item => ?_
  split
  · exact raise
  · exact pure

end Quiet

end StartOperations

end DesignHarness
