import DesignHarness.Services.StartOperationTargets

/-!
# Operations of the runner

What `_resume_instance_operation` and `_resume_start` leave of the operation they carry out, and of
an operation on another instance.
-/

namespace DesignHarness

open Library

namespace StartOperations

section

variable {α : Type} {conduct : Conduct StartDesk} {condition : StartDesk → Prop}
  {learned : α → StartDesk → Prop} {intent next : StartOperation} {operationId id : Identifier}
  {desk later : StartDesk} {least : Nat} {frame settled : StartDesk → Prop}
  {own : StartOperation → StartDesk → Prop} {instanceId : Identifier} {is : StartOperation → Prop}

/-- Nothing is said of a thread that raises. -/
abbrev Anyhow : Fault → StartDesk → Prop := fun _ _ => True

theorem read_meets {body : StartSurroundings → StartDesk → Except Fault α}
    (still : ∀ {desk later}, SameIntents desk later → conduct.guarantee desk later)
    (stable : conduct.Stable condition)
    (learns : ∀ answer desk value, condition desk → body answer desk = .ok value →
      learned value desk)
    (lasting : ∀ value, conduct.Stable (learned value)) :
    conduct.Meets condition (Thread.read body) learned Anyhow :=
  Conduct.Meets.atomically stable (fun _ _ _ => still ⟨rfl, rfl, rfl⟩)
    (fun answer desk value holds found => learns answer desk value holds found)
    (fun _ _ _ _ _ => trivial) lasting fun _ => Conduct.Stable.always

/-- What a quiet operation leaves, when nothing is said of what it raises. -/
theorem Quiet.anyhow {operation : Starting α} (quiet : Quiet operation)
    (still : ∀ {desk later}, SameIntents desk later → conduct.guarantee desk later)
    (stable : conduct.Stable condition)
    (blind : ∀ {desk later}, SameIntents desk later → condition desk → condition later) :
    conduct.Meets condition operation (fun _ => condition) Anyhow :=
  (quiet still stable blind).mono (fun _ holds => holds) (fun _ _ holds => holds)
    fun _ _ _ => trivial

theorem storedIntent_eq_ok (stored : storedIntent operationId desk = .ok intent) :
    desk.intents.lookup operationId = some intent := by
  unfold storedIntent at stored
  cases lookup : desk.intents.lookup operationId with
  | none => rw [lookup] at stored; cases stored
  | some found => rw [lookup] at stored; cases stored; rfl

/-- What the operations of the runner on `operationId` keep of others. -/
structure Frames (frame : StartDesk → Prop) (operationId : Identifier) (single : Bool) :
    Prop where
  stable : running.Stable frame
  blind : ∀ {desk later}, later.intents = desk.intents → frame desk → frame later
  away : ∀ {desk new stored}, desk.intents.lookup operationId = some stored →
    stored.isInstance = single → new.operationId = operationId → frame desk →
    frame (desk.write new)

/-- What holds of an operation on one instance as long as no request has it carried out again. -/
def Lasting (is : StartOperation → Prop) : Prop :=
  ∀ {intent next}, is intent → mayRetry intent = true → SentAgain intent next → is next

/-- The operation on one instance is stored and is as described. -/
def At (id : Identifier) (is : StartOperation → Prop) (desk : StartDesk) : Prop :=
  ∃ intent, desk.intents.lookup id = some intent ∧ intent.isInstance = true ∧ is intent

theorem at_stable (lasting : Lasting is) : running.Stable (At id is) := by
  rintro desk later ⟨-, beside⟩ ⟨intent, found, single, holds⟩
  obtain ⟨next, foundNext, kind, changed⟩ := beside.intents found
  have one : next.isInstance = true := (isInstance_of_kind kind).trans single
  obtain rfl | ⟨-, again, -⟩ := changed
  · exact ⟨_, foundNext, one, holds⟩
  · exact ⟨next, foundNext, one, lasting holds (again single).1 (again single).2⟩

theorem at_blind (same : later.intents = desk.intents) (holds : At id is desk) :
    At id is later := by
  obtain ⟨intent, found, rest⟩ := holds
  exact ⟨intent, by rw [same]; exact found, rest⟩

theorem at_frames_other {single : Bool} (lasting : Lasting is) (differs : id ≠ operationId) :
    Frames (At id is) operationId single := by
  refine ⟨at_stable lasting, at_blind, ?_⟩
  rintro desk new _ - - named ⟨intent, found, rest⟩
  refine ⟨intent, ?_, rest⟩
  rw [lookup_write, if_neg (by rwa [named])]
  exact found

theorem frames_true {single : Bool} : Frames (fun _ => True) operationId single :=
  ⟨Conduct.Stable.always, fun _ _ => trivial, fun _ _ _ _ => trivial⟩

def Kept (least : Nat) (intent : StartOperation) : Prop := least ≤ attemptsOf intent

/-- The operation has ended, or it has been sent again. -/
def Settled (least : Nat) (intent : StartOperation) : Prop :=
  least ≤ attemptsOf intent ∧ (intent.state.isActive = false ∨
    intent.lastRetry.isSome = true ∧ least < attemptsOf intent)

theorem kept_lasting : Lasting (Kept least) := fun holds _ more => le_trans holds more.2.le

theorem settled_lasting : Lasting (Settled least) := fun holds _ more =>
  ⟨le_trans holds.1 more.2.le, .inr ⟨more.1, lt_of_le_of_lt holds.1 more.2⟩⟩

/-! ## Custody -/

theorem kind_of_all (all : intent.isInstance = false) : intent.kind = .startReadyInstances := by
  unfold StartOperation.isInstance at all
  cases kind : intent.kind <;> rw [kind] at all <;> first | rfl | cases all

/-- The stored intent of an operation on one instance is the one in hand. -/
def OwnsOne (frame : StartDesk → Prop) (operationId : Identifier) (least : Nat)
    (intent : StartOperation) (desk : StartDesk) : Prop :=
  (Sound desk ∧ frame desk) ∧ intent.operationId = operationId ∧
    desk.intents.lookup operationId = some intent ∧ intent.isInstance = true ∧
      least ≤ attemptsOf intent

/-- An operation on all ready instances is in hand. -/
def OwnsAll (frame : StartDesk → Prop) (operationId : Identifier) (intent : StartOperation)
    (desk : StartDesk) : Prop :=
  (Sound desk ∧ frame desk) ∧ intent.operationId = operationId ∧ intent.isInstance = false ∧
    ∃ stored, desk.intents.lookup operationId = some stored ∧ stored.isInstance = false

theorem not_retried (active : intent.state.isActive = true) : mayRetry intent = false := by
  unfold mayRetry
  cases state : intent.state <;> rw [state] at active <;> first | rfl | cases active

theorem not_final (active : intent.state.isActive = true) : isFinal intent = false := by
  rw [isFinal, active]
  rfl

theorem InHand.active (hand : InHand intent) : intent.state.isActive = true := by
  rw [hand.running]
  rfl

theorem stable_sound {frame : StartDesk → Prop} (stable : running.Stable frame) :
    running.Stable fun desk => Sound desk ∧ frame desk :=
  fun between holds => ⟨between.1 holds.1, stable between holds.2⟩

theorem SameIntents.both {frame : StartDesk → Prop} {single : Bool}
    (frames : Frames frame operationId single) (same : SameIntents desk later)
    (holds : Sound desk ∧ frame desk) : Sound later ∧ frame later :=
  ⟨same.sound holds.1, frames.blind same.intents holds.2⟩

theorem asked_intents {attempt : Nat} :
    (asked intent instanceId attempt desk).intents = desk.intents := rfl

/-- The request to the Agent is noted with the intent in hand. -/
theorem recorded_of_owned {attempt : Nat} (hand : InHand intent) (single : intent.isInstance = true)
    (engages : Engages intent instanceId attempt)
    (requested : Has intent instanceId fun entry => entry.stage = .agentRequested) :
    Recorded ⟨intent.operationId, instanceId, attempt, desk.intents.lookup intent.operationId⟩
      intent := by
  obtain ⟨only, progress, targets, -⟩ := single_progress hand.wellFormed single
  obtain ⟨entry, member, same⟩ := engages.target
  obtain ⟨state, launched, attempted⟩ := engages.entry entry member same
  have stage := requested entry member same
  have bounded := (hand.wellFormed.entries entry member).bounded
  rw [progress, List.mem_singleton] at member
  subst member
  rw [hand.wellFormed.limit, if_pos single] at bounded
  refine ⟨rfl, hand.running, by rw [targets, same], ⟨entry, ?_, stage, attempted, launched⟩,
    engages.attempted, attempted ▸ bounded (by decide)⟩
  simp only [StartOperation.progressOf, progress, List.find?_cons, same, decide_true]

theorem Sound.asked {attempt : Nat} (sound : Sound desk)
    (recorded : ∃ stored, desk.intents.lookup intent.operationId = some stored ∧
      (stored.isInstance = true →
        Recorded ⟨intent.operationId, instanceId, attempt,
          desk.intents.lookup intent.operationId⟩ stored)) :
    Sound (asked intent instanceId attempt desk) := by
  refine ⟨sound.filed, fun request member => ?_⟩
  obtain ⟨stored, found, records⟩ := recorded
  obtain before | now := List.mem_append.mp member
  · exact sound.recorded request before
  · obtain rfl := List.mem_singleton.mp now
    exact ⟨stored, found, records⟩

theorem Onward.asked {attempt : Nat} : Onward desk (asked intent instanceId attempt desk) :=
  ⟨fun alive => alive, fun found => ⟨_, found, rfl, fun _ _ => rfl⟩⟩

theorem custody_one (frames : Frames frame operationId true) :
    Custody (OwnsOne frame operationId least) fun desk =>
      (Sound desk ∧ frame desk) ∧ At operationId (Settled least) desk where
  stable {intent} hand := by
    rintro desk later between ⟨holds, named, found, rest⟩
    refine ⟨stable_sound frames.stable between holds, named, ?_, rest⟩
    obtain ⟨next, foundNext, -, changed⟩ := between.2.intents found
    obtain rfl | ⟨-, again, -⟩ := changed
    · exact foundNext
    · cases (again rest.1).1.symm.trans (not_retried hand.active)
  aside same owned := by
    obtain ⟨holds, named, found, rest⟩ := owned
    exact ⟨same.both frames holds, named, by rw [same.intents]; exact found, rest⟩
  writes {old new desk} oldHand newHand same owned := by
    obtain ⟨⟨sound, framed⟩, named, found, single, most⟩ := owned
    have named' : new.operationId = operationId := same.operationId.trans named
    have stored : desk.intents.lookup new.operationId = some old := by rwa [named']
    refine ⟨⟨fun sound => sound.write newHand.wellFormed,
      .write stored same.kind fun _ => not_final oldHand.active⟩,
      ⟨sound.write newHand.wellFormed, frames.away found single named' framed⟩, named', ?_,
      same.isInstance.trans single, most.trans same.attempts⟩
    rw [lookup_write, if_pos named'.symm]
  asks {intent instanceId attempt desk} hand engages requested owned := by
    obtain ⟨⟨sound, framed⟩, rfl, found, rest⟩ := owned
    have sounds := fun sound : Sound desk =>
      sound.asked ⟨intent, found, fun _ => recorded_of_owned hand rest.1 engages requested⟩
    exact ⟨⟨sounds, .asked⟩, ⟨sounds sound, frames.blind asked_intents framed⟩, rfl, found, rest⟩
  closes {old new desk} hand wellFormed ended same owned := by
    obtain ⟨⟨sound, framed⟩, named, found, single, most⟩ := owned
    have named' : new.operationId = operationId := same.operationId.trans named
    have stored : desk.intents.lookup new.operationId = some old := by rwa [named']
    refine ⟨⟨fun sound => sound.write wellFormed,
      .write stored same.kind fun _ => not_final hand.active⟩,
      ⟨sound.write wellFormed, frames.away found single named' framed⟩, new, ?_,
      same.isInstance.trans single, most.trans same.attempts, .inl ended⟩
    rw [lookup_write, if_pos named'.symm]
  settledStable := Conduct.Stable.and (stable_sound frames.stable) (at_stable settled_lasting)
  settledAside same holds := ⟨same.both frames holds.1, at_blind same.intents holds.2⟩

/-- An operation on all ready instances is written. -/
theorem writes_all (frames : Frames frame operationId false) (holds : Sound desk ∧ frame desk)
    (stored : ∃ stored, desk.intents.lookup operationId = some stored ∧ stored.isInstance = false)
    (named : next.operationId = operationId) (all : next.isInstance = false)
    (wellFormed : next.WellFormed) :
    running.guarantee desk (desk.write next) ∧
      OwnsAll frame operationId next (desk.write next) := by
  obtain ⟨sound, framed⟩ := holds
  obtain ⟨stored, found, known⟩ := stored
  have lookup : desk.intents.lookup next.operationId = some stored := by rwa [named]
  have kind : next.kind = stored.kind := (kind_of_all all).trans (kind_of_all known).symm
  refine ⟨⟨fun sound => sound.write wellFormed, .write lookup kind fun single => ?_⟩,
    ⟨sound.write wellFormed, frames.away found known named framed⟩, named, all, next, ?_, all⟩
  · cases single.symm.trans known
  · rw [lookup_write, if_pos named.symm]

theorem owned_stable (frames : Frames frame operationId false) :
    running.Stable (OwnsAll frame operationId intent) := by
  rintro desk later between ⟨holds, named, all, stored, found, known⟩
  refine ⟨stable_sound frames.stable between holds, named, all, ?_⟩
  obtain ⟨next, foundNext, kind, -⟩ := between.2.intents found
  exact ⟨next, foundNext, (isInstance_of_kind kind).trans known⟩

theorem custody_all (frames : Frames frame operationId false) :
    Custody (OwnsAll frame operationId) fun desk => Sound desk ∧ frame desk where
  stable _ := owned_stable frames
  aside same owned := by
    obtain ⟨holds, named, all, stored, found, known⟩ := owned
    exact ⟨same.both frames holds, named, all, stored, by rw [same.intents]; exact found, known⟩
  writes {old new desk} oldHand newHand same owned := by
    obtain ⟨holds, named, all, stored⟩ := owned
    exact writes_all frames holds stored (same.operationId.trans named)
      (same.isInstance.trans all) newHand.wellFormed
  asks {intent instanceId attempt desk} hand engages requested owned := by
    obtain ⟨⟨sound, framed⟩, rfl, all, stored, found, known⟩ := owned
    have sounds : Sound desk → Sound (asked intent instanceId attempt desk) := fun sound =>
      sound.asked ⟨stored, found, fun single => absurd (single.symm.trans known) (by decide)⟩
    exact ⟨⟨sounds, .asked⟩, ⟨sounds sound, frames.blind asked_intents framed⟩, rfl, all, stored, found,
      known⟩
  closes {old new desk} hand wellFormed ended same owned := by
    obtain ⟨holds, named, all, stored⟩ := owned
    have wrote := writes_all frames holds stored (same.operationId.trans named)
      (same.isInstance.trans all) wellFormed
    exact ⟨wrote.1, wrote.2.1⟩
  settledStable := stable_sound frames.stable
  settledAside same holds := same.both frames holds

theorem Custody.anyhow (custody : Custody own settled) (hand : InHand intent)
    {operation : Starting α} (quiet : Quiet operation) :
    running.Meets (own intent) operation (fun _ => own intent) Anyhow :=
  quiet.anyhow SameIntents.running (custody.stable hand) custody.aside

/-! ## Operations on one instance -/

theorem meets_pure {fact : Prop} {thread : Starting α} {returns : α → StartDesk → Prop}
    {raises : Fault → StartDesk → Prop}
    (meets : fact → conduct.Meets condition thread returns raises) :
    conduct.Meets (fun desk => fact ∧ condition desk) thread returns raises :=
  fun desk holds => meets holds.1 desk holds.2

theorem InHand.resumed {time : Timestamp} (hand : InHand intent) :
    InHand (runningIntent intent time) := by
  have wellFormed := hand.wellFormed
  exact ⟨⟨wellFormed.distinct, wellFormed.covers, wellFormed.single, wellFormed.limit,
    wellFormed.entries, wellFormed.sent, fun batch _ => hand.confirmed batch, hand.shape⟩, rfl, hand.confirmed⟩

/-- The checks of an operation on one instance, and its start. -/
theorem claimedIntent_meets (custody : Custody own settled) (hand : InHand intent) :
    running.Meets (own intent) (claimedIntent intent instanceId)
      (TargetEnds own intent instanceId) Anyhow := by
  have initial : Versions intent intent intent instanceId :=
    ⟨hand, hand, .refl intent, .refl intent, fun _ _ => rfl⟩
  refine custody.orFailed initial ?_ fun _ => ?_
  · split
    · exact Quiet.ask
    · exact Quiet.pure
  refine custody.orFailed initial Quiet.read fun time => ?_
  have resumed : Versions intent intent (runningIntent intent time) instanceId :=
    ⟨hand, hand.resumed, .refl intent, ⟨rfl, rfl, rfl, rfl, rfl, rfl, le_rfl⟩, fun _ _ => rfl⟩
  refine custody.written resumed ?_
  refine custody.orFailed resumed.stored Quiet.read fun plan => ?_
  refine custody.orFailed resumed.stored Quiet.read fun item => ?_
  have failing : running.Meets (own (runningIntent intent time))
      (Pure.pure (.error (runningIntent intent time, .raised (.keyError instanceId))) :
        Starting TargetOutcome)
      (TargetEnds own intent instanceId) Anyhow := by
    refine Conduct.Meets.pure (custody.stable hand.resumed) fun desk holds => ?_
    exact ⟨_, holds, hand.resumed, hand.resumed, resumed.stored.since, .refl _⟩
  split
  · rename_i entry found
    obtain ⟨-, rfl⟩ := progressOf_some found
    have starts : running.Meets _ _ _ Anyhow :=
      resumeStartInstance_meets custody hand.resumed found
    refine starts.mono (fun _ holds => holds) ?_ fun _ _ _ => trivial
    rintro (⟨failing, fault⟩ | ⟨done, result⟩) desk ends
    · obtain ⟨kept, owned, keptHand, hand', since, same⟩ := ends
      exact ⟨kept, owned, keptHand, hand', resumed.stored.since.trans since, same⟩
    · obtain ⟨owned, done, since, runs, others⟩ := ends
      exact ⟨owned, done, resumed.stored.since.trans since, runs, others⟩
  · exact failing

/-- The last step of an operation on one instance in hand. -/
theorem commitLocked_eq {result : TargetResult} {answer : StartSurroundings} (hand : InHand intent)
    (found : desk.intents.lookup intent.operationId = some intent) :
    commitLocked intent result answer desk =
      (.ok (committedIntent intent [result] [] answer.now).summary,
        desk.write (committedIntent intent [result] [] answer.now)) := by
  have live : intent.state ≠ .superseded := by
    rw [hand.running]
    rintro ⟨⟩
  simp only [commitLocked, found, if_neg live]

theorem committedIntent_single {result : TargetResult} {time : Timestamp} (hand : InHand intent)
    (single : intent.isInstance = true) (target : intent.request.instanceId = some instanceId)
    (runs : Has intent instanceId fun entry => entry.state = .running ∧
      entry.result = some result) :
    (committedIntent intent [result] [] time).WellFormed := by
  obtain ⟨entry, progress, targets, request⟩ := single_progress hand.wellFormed single
  obtain rfl := Option.some.inj (request.symm.trans target)
  have member : entry ∈ intent.progress := by
    rw [progress]
    exact List.mem_singleton_self _
  obtain ⟨state, results⟩ := runs entry member rfl
  refine committedIntent_wellFormed hand (fun other among => ?_) ?_
  · rw [progress, List.mem_singleton] at among
    exact among ▸ state
  · simp [targets, StartOperation.resultOf, StartOperation.progressOf, progress, results]

theorem commitLocked_meets {result : TargetResult} (frames : Frames frame operationId true)
    (hand : InHand intent) (target : intent.request.instanceId = some instanceId)
    (runs : Has intent instanceId fun entry => entry.state = .running ∧
      entry.result = some result) :
    running.Meets (OwnsOne frame operationId least intent)
      (Thread.atomically (commitLocked intent result))
      (fun _ desk => (Sound desk ∧ frame desk) ∧ At operationId (Settled least) desk) Anyhow := by
  have custody := @custody_one operationId least frame frames
  have closes : ∀ answer desk, OwnsOne frame operationId least intent desk →
      running.guarantee desk (commitLocked intent result answer desk).2 ∧
        (Sound (commitLocked intent result answer desk).2 ∧
          frame (commitLocked intent result answer desk).2) ∧
          At operationId (Settled least) (commitLocked intent result answer desk).2 := by
    intro answer desk owned
    have named := owned.2.1
    have found := owned.2.2.1
    rw [← named] at found
    rw [commitLocked_eq hand found]
    exact custody.closes hand (committedIntent_single hand owned.2.2.2.1 target runs) rfl
      committedIntent_same owned
  exact Conduct.Meets.atomically (custody.stable hand)
    (fun answer desk owned => (closes answer desk owned).1)
    (fun answer desk _ owned _ => (closes answer desk owned).2) (fun _ _ _ _ _ => trivial)
    (fun _ => custody.settledStable) fun _ => Conduct.Stable.always

/-- An operation ends with a failure. -/
theorem recordStartFailure_ends (custody : Custody own settled) {kept : StartOperation}
    {entry : TargetProgress} (error : HarnessError) (keptHand : InHand kept)
    (hand : InHand intent) (same : SameOperation kept intent)
    (found : intent.progressOf entry.instanceId = some entry) :
    running.Meets (own kept)
      (recordStartFailure intent entry error >>= fun failed => pure failed.summary)
      (fun _ => settled) Anyhow := by
  have records := @recordStartFailure_meets own settled intent custody entry error kept keptHand
    hand same found
  refine Conduct.Meets.bind (records.mono (fun _ holds => holds) (fun _ _ holds => holds)
    fun _ _ _ => trivial) fun failed => ?_
  exact Conduct.Meets.pure custody.settledStable fun _ holds => holds

/-- An operation on one instance that the runner has claimed. -/
def Claimed (least : Nat) (intent : StartOperation) : Prop :=
  intent.state = .running ∧ least ≤ attemptsOf intent

theorem claimed_lasting : Lasting (Claimed least) := by
  rintro intent next ⟨state, -⟩ again
  have active : intent.state.isActive = true := by rw [state]; rfl
  cases again.symm.trans (not_retried active)

theorem inHand_of_running (sound : Sound desk) (found : desk.intents.lookup id = some intent)
    (single : intent.isInstance = true) (state : intent.state = .running) : InHand intent :=
  ⟨(sound.filed found).2, state, fun all => absurd (single.symm.trans all) (by decide)⟩

/-- A claimed operation is carried out: it ends. -/
theorem resumeInstanceOperation_meets (frames : Frames frame operationId true) :
    running.Meets (fun desk => (Sound desk ∧ frame desk) ∧ At operationId (Claimed least) desk)
      (resumeInstanceOperation operationId)
      (fun _ desk => (Sound desk ∧ frame desk) ∧ At operationId (Settled least) desk) Anyhow := by
  have custody := @custody_one operationId least frame frames
  have stable : running.Stable fun desk =>
      (Sound desk ∧ frame desk) ∧ At operationId (Claimed least) desk :=
    Conduct.Stable.and (stable_sound frames.stable) (at_stable claimed_lasting)
  have reads : running.Meets
      (fun desk => (Sound desk ∧ frame desk) ∧ At operationId (Claimed least) desk)
      (readIntent operationId)
      (fun intent desk => InHand intent ∧ OwnsOne frame operationId least intent desk) Anyhow := by
    refine read_meets SameIntents.running stable ?_ fun intent => ?_
    · rintro answer desk intent ⟨holds, stored, found, single, state, most⟩ ok
      obtain rfl := Option.some.inj (found.symm.trans (storedIntent_eq_ok ok))
      have hand := inHand_of_running holds.1 found single state
      exact ⟨hand, holds, (holds.1.filed found).1, found, single, most⟩
    · exact fun between holds => ⟨holds.1, custody.stable holds.1 between holds.2⟩
  refine Conduct.Meets.bind reads fun intent => meets_pure fun hand => ?_
  have live : intent.state.isTerminal = false := by
    rw [hand.running]
    rfl
  simp only [live, Bool.false_eq_true, if_false]
  split
  · exact fun _ _ _ _ => trivial
  · rename_i target request
    refine Conduct.Meets.bind (claimedIntent_meets custody hand) fun outcome => ?_
    obtain ⟨failing, fault⟩ | ⟨done, result⟩ := outcome
    · dsimp only
      split
      · exact fun _ _ _ _ => trivial
      · rename_i entry found
        obtain ⟨-, rfl⟩ := progressOf_some found
        rintro desk ⟨kept, owned, keptHand, failed, -, same⟩
        exact recordStartFailure_ends custody _ keptHand failed same found desk owned
    · rintro desk ⟨owned, doneHand, since, runs, -⟩
      have target : done.request.instanceId = some target := by rw [since.request, request]
      exact commitLocked_meets frames doneHand target runs desk owned

/-! ## Operations on all ready instances -/

/-- An operation on all ready instances is stored and is as described. -/
def AllAt (id : Identifier) (is : StartOperation → Prop) (desk : StartDesk) : Prop :=
  ∃ intent, desk.intents.lookup id = some intent ∧ intent.isInstance = false ∧ is intent

def Active (intent : StartOperation) : Prop := intent.state.isActive = true

def Confirmed (intent : StartOperation) : Prop :=
  intent.state.isActive = true ∧ intent.confirmedAt.isSome = true

/-- What requests make of an active operation is active and confirmed. -/
theorem allAt_stable (admits : ∀ intent, Confirmed intent → is intent) :
    running.Stable (AllAt id is) := by
  rintro desk later ⟨-, beside⟩ ⟨intent, found, all, holds⟩
  obtain ⟨next, foundNext, kind, changed⟩ := beside.intents found
  have all' : next.isInstance = false := (isInstance_of_kind kind).trans all
  obtain rfl | ⟨active, -, confirmed⟩ := changed
  · exact ⟨_, foundNext, all', holds⟩
  · exact ⟨next, foundNext, all', admits next ⟨active, confirmed all⟩⟩

theorem allAt_blind (same : later.intents = desk.intents) (holds : AllAt id is desk) :
    AllAt id is later := by
  obtain ⟨intent, found, rest⟩ := holds
  exact ⟨intent, by rw [same]; exact found, rest⟩

theorem confirmedIntent_wellFormed {time : Timestamp} (wellFormed : intent.WellFormed) :
    (confirmedIntent intent time).WellFormed :=
  ⟨wellFormed.distinct, wellFormed.covers, wellFormed.single, wellFormed.limit,
    wellFormed.entries, wellFormed.sent, fun _ _ => rfl, wellFormed.shaped⟩

/-- The runner confirms the operation that it carries out. -/
theorem confirmStartIntent_meets (frames : Frames frame operationId false) :
    running.Meets (fun desk => (Sound desk ∧ frame desk) ∧ AllAt operationId Active desk)
      (confirmStartIntent operationId)
      (fun _ desk => (Sound desk ∧ frame desk) ∧ AllAt operationId Confirmed desk) Anyhow := by
  have active : running.Stable fun desk => (Sound desk ∧ frame desk) ∧ AllAt operationId Active desk :=
    Conduct.Stable.and (stable_sound frames.stable) (allAt_stable fun _ confirmed => confirmed.1)
  have confirmed : running.Stable fun desk => (Sound desk ∧ frame desk) ∧
      AllAt operationId Confirmed desk :=
    Conduct.Stable.and (stable_sound frames.stable) (allAt_stable fun _ confirmed => confirmed)
  -- Requests may confirm it between the read and the write.
  let Read (intent : StartOperation) : Prop := intent.WellFormed ∧
    intent.operationId = operationId ∧ intent.isInstance = false ∧ intent.state.isActive = true
  have reads : running.Meets (fun desk => (Sound desk ∧ frame desk) ∧ AllAt operationId Active desk)
      (readIntent operationId) (fun intent desk => Read intent ∧
        ((Sound desk ∧ frame desk) ∧ AllAt operationId Active desk) ∧
        (intent.confirmedAt.isSome = true → AllAt operationId Confirmed desk)) Anyhow := by
    refine read_meets SameIntents.running active ?_ fun intent => ?_
    · rintro answer desk intent ⟨holds, stored, found, all, live⟩ ok
      obtain rfl := Option.some.inj (found.symm.trans (storedIntent_eq_ok ok))
      obtain ⟨named, wellFormed⟩ := holds.1.filed found
      exact ⟨⟨wellFormed, named, all, live⟩, ⟨holds, stored, found, all, live⟩,
        fun done => ⟨stored, found, all, live, done⟩⟩
    · rintro desk later between ⟨read, holds, done⟩
      exact ⟨read, active between holds, fun known =>
        allAt_stable (fun _ confirmed => confirmed) between (done known)⟩
  refine Conduct.Meets.bind reads fun intent => meets_pure fun read => ?_
  split
  · rename_i known
    exact Conduct.Meets.pure (fun between holds => ⟨active between holds.1, fun known =>
      allAt_stable (fun _ confirmed => confirmed) between (holds.2 known)⟩)
      fun desk holds => ⟨holds.1.1, holds.2 known⟩
  · have waits : running.Stable fun desk => ((Sound desk ∧ frame desk) ∧ AllAt operationId Active desk) ∧
        (intent.confirmedAt.isSome = true → AllAt operationId Confirmed desk) :=
      fun between holds => ⟨active between holds.1, fun known =>
        allAt_stable (fun _ confirmed => confirmed) between (holds.2 known)⟩
    have blind : ∀ {desk later}, SameIntents desk later →
        (((Sound desk ∧ frame desk) ∧ AllAt operationId Active desk) ∧
          (intent.confirmedAt.isSome = true → AllAt operationId Confirmed desk)) →
        (((Sound later ∧ frame later) ∧ AllAt operationId Active later) ∧
          (intent.confirmedAt.isSome = true → AllAt operationId Confirmed later)) :=
      fun same holds => ⟨⟨same.both frames holds.1.1, allAt_blind same.intents holds.1.2⟩,
        fun known => allAt_blind same.intents (holds.2 known)⟩
    refine Conduct.Meets.bind (Quiet.read.anyhow SameIntents.running waits blind) fun plan => ?_
    refine Conduct.Meets.bind (Quiet.confirmTask.anyhow SameIntents.running waits blind)
      fun _ => ?_
    refine Conduct.Meets.bind (Quiet.read.anyhow SameIntents.running waits blind) fun time => ?_
    obtain ⟨wellFormed, named, all, live⟩ := read
    have writes : ∀ {desk}, (Sound desk ∧ frame desk) ∧ AllAt operationId Active desk →
        running.guarantee desk (desk.write (confirmedIntent intent time)) ∧
          (Sound (desk.write (confirmedIntent intent time)) ∧
            frame (desk.write (confirmedIntent intent time))) ∧
          AllAt operationId Confirmed (desk.write (confirmedIntent intent time)) := by
      rintro desk ⟨⟨sound, framed⟩, stored, found, known, -⟩
      obtain ⟨wrote, holds, -⟩ := writes_all frames ⟨sound, framed⟩ ⟨stored, found, known⟩
        (show (confirmedIntent intent time).operationId = _ from named) all
        (confirmedIntent_wellFormed wellFormed)
      refine ⟨wrote, holds, confirmedIntent intent time, ?_, all, live, rfl⟩
      rw [lookup_write]
      exact if_pos named.symm
    exact Conduct.Meets.change waits (fun _ _ holds => (writes holds.1).1)
      (fun _ _ holds => (writes holds.1).2) confirmed

/-- The targets that were gone through run, with the results so far. -/
structure Gone (intent : StartOperation) (gone : List Identifier) (launches : List TargetResult) :
    Prop where
  runs : ∀ id ∈ gone, ∃ entry, intent.progressOf id = some entry ∧ entry.state = .running
  results : launches.map some = gone.map intent.resultOf

theorem Gone.append {gone : List Identifier} {launches : List TargetResult} {entry : TargetProgress}
    {result : TargetResult} (before : Gone intent gone launches)
    (found : intent.progressOf id = some entry) (state : entry.state = .running)
    (known : entry.result = some result) : Gone intent (gone ++ [id]) (launches ++ [result]) := by
  refine ⟨fun other member => ?_, ?_⟩
  · obtain earlier | now := List.mem_append.mp member
    · exact before.runs other earlier
    · obtain rfl := List.mem_singleton.mp now
      exact ⟨entry, found, state⟩
  · simp [before.results, StartOperation.resultOf, found, known]

theorem exists_progressOf (target : id ∈ intent.progress.map (·.instanceId)) :
    ∃ entry, intent.progressOf id = some entry := by
  obtain ⟨entry, member, rfl⟩ := List.mem_map.mp target
  exact Option.isSome_iff_exists.mp (List.find?_isSome.mpr ⟨entry, member, by simp⟩)

/-- The start of another target leaves the results alone. -/
theorem Gone.kept {gone : List Identifier} {launches : List TargetResult}
    (before : Gone intent gone launches) (outside : id ∉ gone)
    (others : ∀ other, other ≠ id → next.progressOf other = intent.progressOf other) :
    Gone next gone launches := by
  have same : ∀ other ∈ gone, next.progressOf other = intent.progressOf other :=
    fun other member => others other (by rintro rfl; exact outside member)
  refine ⟨fun other member => ?_, ?_⟩
  · rw [same other member]
    exact before.runs other member
  · rw [before.results]
    exact List.map_congr_left fun other member => by
      simp only [StartOperation.resultOf, same other member]

theorem commitIntent_meets (frames : Frames frame operationId false) (hand : InHand intent)
    {launches : List TargetResult} (gone : Gone intent intent.targets launches) :
    running.Meets (OwnsAll frame operationId intent) (commitIntent intent launches)
      (fun _ desk => Sound desk ∧ frame desk) Anyhow := by
  have custody := custody_all frames
  have all : ∀ entry ∈ intent.progress, entry.state = .running := by
    intro entry member
    have target : entry.instanceId ∈ intent.targets :=
      (hand.wellFormed.covers _).mp (List.mem_map.mpr ⟨entry, member, rfl⟩)
    obtain ⟨other, found, state⟩ := gone.runs _ target
    have same : Has intent entry.instanceId fun entry => entry = other :=
      has_of_progressOf hand.wellFormed.distinct found rfl
    rwa [same entry member rfl]
  refine Conduct.Meets.bind (custody.anyhow hand Quiet.now) fun time => ?_
  have closes := fun {desk} holds => @Custody.closes _ _ custody intent
    (committedIntent intent launches intent.unavailable time) desk hand
    (committedIntent_wellFormed hand all gone.results) rfl committedIntent_same holds
  have writes : running.Meets (OwnsAll frame operationId intent)
      (writeIntent (committedIntent intent launches intent.unavailable time))
      (fun _ desk => Sound desk ∧ frame desk) Anyhow :=
    Conduct.Meets.change (custody.stable hand) (fun _ _ holds => (closes holds).1)
      (fun _ _ holds => (closes holds).2) custody.settledStable
  refine Conduct.Meets.bind writes fun _ => ?_
  exact Conduct.Meets.pure custody.settledStable fun _ holds => holds

/-- The start of a target has failed. -/
theorem targetFailed_meets (custody : Custody own settled) {failing : StartOperation}
    {fault : Fault} {rest : StartOperation → TargetResult → Starting StartSummary} :
    running.Meets (TargetEnds own intent instanceId (.error (failing, fault)))
      (targetEnded instanceId (.error (failing, fault)) rest) (fun _ => settled) Anyhow := by
  cases fault with
  | timeout message => exact fun _ _ _ _ => trivial
  | raised error =>
      cases error with
      | harness error =>
          dsimp only [targetEnded]
          split
          · exact fun _ _ _ _ => trivial
          · rename_i entry found
            obtain ⟨-, rfl⟩ := progressOf_some found
            rintro desk ⟨kept, owned, keptHand, failed, -, same⟩
            exact recordStartFailure_ends custody error keptHand failed same found desk owned
      | _ => exact fun _ _ _ _ => trivial

/-- The loop over the targets; `gone` are those that were gone through. -/
theorem resumeTargets_meets {plan : Plan} (frames : Frames frame operationId false)
    {rest gone : List Identifier} {launches : List TargetResult} (hand : InHand intent)
    (targets : intent.targets = gone ++ rest) (before : Gone intent gone launches) :
    running.Meets (OwnsAll frame operationId intent) (resumeTargets plan rest intent launches)
      (fun _ desk => Sound desk ∧ frame desk) Anyhow := by
  have custody := custody_all frames
  induction rest generalizing intent gone launches with
  | nil =>
      rw [List.append_nil] at targets
      exact commitIntent_meets frames hand (targets ▸ before)
  | cons target rest ih =>
      have order : intent.targets = gone ++ [target] ++ rest := by
        rw [targets, List.append_assoc]
        rfl
      unfold resumeTargets
      split
      · exact fun _ _ _ _ => trivial
      · rename_i entry found
        split
        · rename_i result state known
          exact ih hand order (before.append found state known)
        · exact fun _ _ _ _ => trivial
        · rename_i unfinished missing
          have waits : target ∉ gone := by
            intro member
            obtain ⟨other, found', state⟩ := before.runs target member
            obtain rfl := Option.some.inj (found.symm.trans found')
            cases result : entry.result with
            | none => exact missing state result
            | some result' => exact unfinished result' state result
          refine Conduct.Meets.bind (custody.anyhow hand Quiet.requireStartable) fun _ => ?_
          split
          · exact fun _ _ _ _ => trivial
          · obtain ⟨-, rfl⟩ := progressOf_some found
            refine Conduct.Meets.bind (resumeStartInstance_meets custody hand found)
              fun outcome => ?_
            obtain ⟨failing, fault⟩ | ⟨done, result⟩ := outcome
            · exact targetFailed_meets custody
            · rintro desk ⟨owned, doneHand, since, runs, others⟩
              have target : entry.instanceId ∈ done.progress.map (·.instanceId) := by
                rw [doneHand.wellFormed.covers, since.targets, targets]
                exact List.mem_append_right _ List.mem_cons_self
              obtain ⟨other, found'⟩ := exists_progressOf target
              obtain ⟨state, result'⟩ := runs.found found'
              exact ih doneHand (since.targets.trans order)
                ((before.kept waits others).append found' state result') desk owned

theorem inHand_resumed {time : Timestamp} (wellFormed : intent.WellFormed)
    (active : Active intent) (confirmed : intent.confirmedAt.isSome = true) :
    InHand (runningIntent intent time) := by
  have shaped := wellFormed.shaped
  rw [StartOperation.Shaped] at shaped
  have shape : intent.lastError = none ∧ intent.completedAt = none ∧ intent.result = none ∧
      ∀ entry ∈ intent.progress, entry.state.isLive = true := by
    unfold Active at active
    cases state : intent.state <;> rw [state] at shaped active
    · exact shaped
    · exact shaped
    all_goals cases active
  exact ⟨⟨wellFormed.distinct, wellFormed.covers, wellFormed.single, wellFormed.limit,
    wellFormed.entries, wellFormed.sent, fun _ _ => confirmed, shape⟩, rfl, fun _ => confirmed⟩

/-- A confirmed operation on all ready instances is carried out. -/
theorem resumeConfirmed_meets (frames : Frames frame operationId false) :
    running.Meets (fun desk => (Sound desk ∧ frame desk) ∧ AllAt operationId Confirmed desk)
      (resumeConfirmed operationId) (fun _ desk => Sound desk ∧ frame desk) Anyhow := by
  have custody := custody_all frames
  have stable : running.Stable fun desk => (Sound desk ∧ frame desk) ∧
      AllAt operationId Confirmed desk :=
    Conduct.Stable.and (stable_sound frames.stable) (allAt_stable fun _ confirmed => confirmed)
  have reads : running.Meets
      (fun desk => (Sound desk ∧ frame desk) ∧ AllAt operationId Confirmed desk)
      (readIntent operationId) (fun intent desk => (intent.WellFormed ∧ Confirmed intent) ∧
        OwnsAll frame operationId intent desk) Anyhow := by
    refine read_meets SameIntents.running stable ?_ fun intent => ?_
    · rintro answer desk intent ⟨holds, stored, found, all, confirmed⟩ ok
      obtain rfl := Option.some.inj (found.symm.trans (storedIntent_eq_ok ok))
      obtain ⟨named, wellFormed⟩ := holds.1.filed found
      exact ⟨⟨wellFormed, confirmed⟩, holds, named, all, stored, found, all⟩
    · exact fun between holds => ⟨holds.1, owned_stable frames between holds.2⟩
  refine Conduct.Meets.bind reads fun intent => meets_pure fun ⟨wellFormed, confirmed⟩ => ?_
  have quiet {β : Type} {operation : Starting β} (quiet : Quiet operation) :
      running.Meets (OwnsAll frame operationId intent) operation
        (fun _ => OwnsAll frame operationId intent) Anyhow :=
    quiet.anyhow SameIntents.running (owned_stable frames) custody.aside
  refine Conduct.Meets.bind (quiet Quiet.read) fun plan => ?_
  split
  · refine Conduct.Meets.bind (quiet Quiet.now) fun time => ?_
    have hand : InHand (runningIntent intent time) :=
      inHand_resumed wellFormed confirmed.1 confirmed.2
    have wrote : ∀ {desk}, OwnsAll frame operationId intent desk →
        running.guarantee desk (desk.write (runningIntent intent time)) ∧
          OwnsAll frame operationId (runningIntent intent time)
            (desk.write (runningIntent intent time)) :=
      fun owned => writes_all frames owned.1 owned.2.2.2 owned.2.1 owned.2.2.1 hand.wellFormed
    have writes : running.Meets (OwnsAll frame operationId intent)
        (writeIntent (runningIntent intent time))
        (fun _ => OwnsAll frame operationId (runningIntent intent time)) Anyhow :=
      Conduct.Meets.change (owned_stable frames) (fun _ _ owned => (wrote owned).1)
        (fun _ _ owned => (wrote owned).2) (owned_stable frames)
    refine Conduct.Meets.bind writes fun _ => ?_
    have nothing : Gone (runningIntent intent time) [] [] := ⟨by simp, rfl⟩
    exact resumeTargets_meets frames hand (List.nil_append _).symm nothing
  · exact fun _ _ _ _ => trivial

/-- An active operation on all ready instances is carried out. -/
theorem resumeStart_meets (frames : Frames frame operationId false) :
    running.Meets (fun desk => (Sound desk ∧ frame desk) ∧ AllAt operationId Active desk)
      (resumeStart operationId) (fun _ desk => Sound desk ∧ frame desk) Anyhow := by
  have stable : running.Stable fun desk => (Sound desk ∧ frame desk) ∧
      AllAt operationId Active desk :=
    Conduct.Stable.and (stable_sound frames.stable) (allAt_stable fun _ confirmed => confirmed.1)
  have blind : ∀ {desk later}, SameIntents desk later →
      ((Sound desk ∧ frame desk) ∧ AllAt operationId Active desk) →
      ((Sound later ∧ frame later) ∧ AllAt operationId Active later) := fun same holds =>
    ⟨same.both frames holds.1, allAt_blind same.intents holds.2⟩
  have quiet {β : Type} {operation : Starting β} (quiet : Quiet operation) :
      running.Meets (fun desk => (Sound desk ∧ frame desk) ∧ AllAt operationId Active desk)
        operation (fun _ desk => (Sound desk ∧ frame desk) ∧ AllAt operationId Active desk)
        Anyhow :=
    quiet.anyhow SameIntents.running stable blind
  refine Conduct.Meets.bind (quiet Quiet.read) fun intent => ?_
  split
  · exact Conduct.Meets.pure stable fun _ holds => holds.1
  · refine Conduct.Meets.bind (quiet Quiet.ask) fun _ => ?_
    exact Conduct.Meets.bind (confirmStartIntent_meets frames) fun _ =>
      resumeConfirmed_meets frames

end

end StartOperations

end DesignHarness
