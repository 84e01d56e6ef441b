import DesignHarness.Services.StartOperationRuns

/-!
# Scans

One scan of the runner goes once through all intents.  An operation on an instance that it finds
ends in it, or has been sent again by a request since.
-/

namespace DesignHarness

open Library

namespace StartOperations

section

variable {frame : StartDesk → Prop} {intent next : StartOperation} {operationId id : Identifier}
  {desk later : StartDesk} {least : Nat} {is : StartOperation → Prop}

/-! ## Claims -/

theorem runningIntent_wellFormed {time : Timestamp} (wellFormed : intent.WellFormed)
    (state : intent.state = .queued) : (runningIntent intent time).WellFormed := by
  have shaped := wellFormed.shaped
  rw [StartOperation.Shaped, state] at shaped
  exact ⟨wellFormed.distinct, wellFormed.covers, wellFormed.single, wellFormed.limit,
    wellFormed.entries, wellFormed.sent, by rintro - ⟨⟩, shaped⟩

/-- What `claimLocked` does to the stored operation. -/
theorem claimLocked_cases {answer : StartSurroundings}
    (found : desk.intents.lookup operationId = some intent) :
    (intent.state = .queued ∧ claimLocked operationId answer desk =
      (.ok true, desk.write (runningIntent intent answer.now))) ∨
    (intent.state = .running ∧ claimLocked operationId answer desk = (.ok true, desk)) ∨
    (intent.state.isActive = false ∧ claimLocked operationId answer desk = (.ok false, desk)) := by
  unfold claimLocked
  rw [found]
  cases state : intent.state <;> simp [state, StartState.isActive]

/-- A claim of an operation on one instance. -/
theorem claimLocked_single (frames : Frames frame operationId true) :
    running.Meets (fun desk => (Sound desk ∧ frame desk) ∧ At operationId (Kept least) desk)
      (Thread.atomically (claimLocked operationId))
      (fun claimed desk => (Sound desk ∧ frame desk) ∧
        At operationId (if claimed then Claimed least else Settled least) desk) Anyhow := by
  have step : ∀ answer desk, (Sound desk ∧ frame desk) ∧ At operationId (Kept least) desk →
      ∃ claimed, (claimLocked operationId answer desk).1 = .ok claimed ∧
        running.guarantee desk (claimLocked operationId answer desk).2 ∧
        (Sound (claimLocked operationId answer desk).2 ∧
          frame (claimLocked operationId answer desk).2) ∧
        At operationId (if claimed then Claimed least else Settled least)
          (claimLocked operationId answer desk).2 := by
    rintro answer desk ⟨⟨sound, framed⟩, intent, found, single, most⟩
    obtain ⟨named, wellFormed⟩ := sound.filed found
    obtain ⟨state, claims⟩ | ⟨state, claims⟩ | ⟨ended, claims⟩ := claimLocked_cases found
    · have wellFormed' := @runningIntent_wellFormed intent answer.now wellFormed state
      have stored : desk.intents.lookup (runningIntent intent answer.now).operationId =
          some intent := by rwa [show (runningIntent intent answer.now).operationId = _ from named]
      rw [claims]
      refine ⟨true, rfl, ⟨fun sound => sound.write wellFormed', .write stored rfl fun _ =>
        not_final (by rw [state]; rfl)⟩, ⟨sound.write wellFormed',
          frames.away found single named framed⟩, runningIntent intent answer.now, ?_, single, rfl,
        most⟩
      rw [lookup_write]
      exact if_pos named.symm
    · rw [claims]
      exact ⟨true, rfl, (SameIntents.mk rfl rfl rfl).running, ⟨sound, framed⟩, intent, found, single, state, most⟩
    · rw [claims]
      exact ⟨false, rfl, (SameIntents.mk rfl rfl rfl).running, ⟨sound, framed⟩, intent, found, single, most, .inl ended⟩
  refine Conduct.Meets.atomically
    (Conduct.Stable.and (stable_sound frames.stable) (at_stable kept_lasting))
    (fun answer desk holds => ?_) (fun answer desk value holds ok => ?_)
    (fun _ _ _ _ _ => trivial) (fun claimed => ?_) fun _ => Conduct.Stable.always
  · obtain ⟨claimed, -, promised, -⟩ := step answer desk holds
    exact promised
  · obtain ⟨claimed, returned, -, after⟩ := step answer desk holds
    obtain rfl := Except.ok.inj (ok.symm.trans returned)
    exact after
  · cases claimed with
    | true => exact Conduct.Stable.and (stable_sound frames.stable) (at_stable claimed_lasting)
    | false => exact Conduct.Stable.and (stable_sound frames.stable) (at_stable settled_lasting)

/-- Any operation on all ready instances. -/
def Anyone (_ : StartOperation) : Prop := True

/-- A claim of an operation on all ready instances. -/
theorem claimLocked_all (frames : Frames frame operationId false) :
    running.Meets (fun desk => (Sound desk ∧ frame desk) ∧ AllAt operationId Anyone desk)
      (Thread.atomically (claimLocked operationId))
      (fun claimed desk => (Sound desk ∧ frame desk) ∧
        AllAt operationId (if claimed then Active else Anyone) desk) Anyhow := by
  have step : ∀ answer desk, (Sound desk ∧ frame desk) ∧ AllAt operationId Anyone desk →
      ∃ claimed, (claimLocked operationId answer desk).1 = .ok claimed ∧
        running.guarantee desk (claimLocked operationId answer desk).2 ∧
        (Sound (claimLocked operationId answer desk).2 ∧
          frame (claimLocked operationId answer desk).2) ∧
        AllAt operationId (if claimed then Active else Anyone)
          (claimLocked operationId answer desk).2 := by
    rintro answer desk ⟨holds, intent, found, all, -⟩
    obtain ⟨named, wellFormed⟩ := holds.1.filed found
    obtain ⟨state, claims⟩ | ⟨state, claims⟩ | ⟨ended, claims⟩ := claimLocked_cases found
    · have wellFormed' := @runningIntent_wellFormed intent answer.now wellFormed state
      obtain ⟨wrote, after, -⟩ := writes_all frames holds ⟨intent, found, all⟩
        (show (runningIntent intent answer.now).operationId = _ from named) all wellFormed'
      rw [claims]
      refine ⟨true, rfl, wrote, after, runningIntent intent answer.now, ?_, all, rfl⟩
      rw [lookup_write]
      exact if_pos named.symm
    · rw [claims]
      have active : intent.state.isActive = true := by rw [state]; rfl
      exact ⟨true, rfl, (SameIntents.mk rfl rfl rfl).running, holds, intent, found, all, active⟩
    · rw [claims]
      exact ⟨false, rfl, (SameIntents.mk rfl rfl rfl).running, holds, intent, found, all, trivial⟩
  refine Conduct.Meets.atomically
    (Conduct.Stable.and (stable_sound frames.stable) (allAt_stable fun _ _ => trivial))
    (fun answer desk holds => ?_) (fun answer desk value holds ok => ?_)
    (fun _ _ _ _ _ => trivial) (fun claimed => ?_) fun _ => Conduct.Stable.always
  · obtain ⟨claimed, -, promised, -⟩ := step answer desk holds
    exact promised
  · obtain ⟨claimed, returned, -, after⟩ := step answer desk holds
    obtain rfl := Except.ok.inj (ok.symm.trans returned)
    exact after
  · refine Conduct.Stable.and (stable_sound frames.stable) (allAt_stable fun _ confirmed => ?_)
    cases claimed with
    | true => exact confirmed.1
    | false => trivial

/-- An operation on one instance that was found is carried out, if it is active. -/
theorem runFoundStart_single (frames : Frames frame operationId true)
    (single : intent.isInstance = true) :
    running.Meets (fun desk => ((Sound desk ∧ frame desk) ∧ At operationId (Kept least) desk) ∧
        (intent.state.isActive = false → At operationId (Settled least) desk))
      (runFoundStart operationId intent)
      (fun _ desk => (Sound desk ∧ frame desk) ∧ At operationId (Settled least) desk) Anyhow := by
  have kept : running.Stable fun desk => (Sound desk ∧ frame desk) ∧
      At operationId (Kept least) desk :=
    Conduct.Stable.and (stable_sound frames.stable) (at_stable kept_lasting)
  have settled : running.Stable fun desk => (Sound desk ∧ frame desk) ∧
      At operationId (Settled least) desk :=
    Conduct.Stable.and (stable_sound frames.stable) (at_stable settled_lasting)
  unfold runFoundStart
  split
  · refine Conduct.Meets.bind ((claimLocked_single frames).strengthen fun _ holds => holds.1)
      fun claimed => ?_
    cases claimed with
    | false => exact Conduct.Meets.pure settled fun _ holds => holds
    | true =>
        simp only [if_true]
        refine Conduct.Meets.bind (resumeInstanceOperation_meets frames) fun _ => ?_
        exact Conduct.Meets.pure settled fun _ holds => holds
  · rename_i ended
    rintro desk ⟨⟨holds, -⟩, rest⟩
    have after := rest (by simpa using ended)
    exact fun later between => settled between ⟨holds, after⟩

/-- An operation on all ready instances that was found is carried out, if it is active. -/
theorem runFoundStart_all (frames : Frames frame operationId false)
    (all : intent.isInstance = false) :
    running.Meets (fun desk => (Sound desk ∧ frame desk) ∧ AllAt operationId Anyone desk)
      (runFoundStart operationId intent) (fun _ desk => Sound desk ∧ frame desk) Anyhow := by
  have stable : running.Stable fun desk => (Sound desk ∧ frame desk) ∧
      AllAt operationId Anyone desk :=
    Conduct.Stable.and (stable_sound frames.stable) (allAt_stable fun _ _ => trivial)
  unfold runFoundStart
  split
  · refine Conduct.Meets.bind (claimLocked_all frames) fun claimed => ?_
    cases claimed with
    | false => exact Conduct.Meets.pure stable fun _ holds => holds.1
    | true =>
        simp only [all, if_true, Bool.false_eq_true, if_false]
        refine Conduct.Meets.bind (resumeStart_meets frames) fun _ => ?_
        exact Conduct.Meets.pure (stable_sound frames.stable) fun _ holds => holds
  · exact Conduct.Meets.pure stable fun _ holds => holds.1

/-- The turn of an operation on one instance: it ends, or has been sent again since. -/
theorem runPendingStart_settles (frames : Frames frame operationId true) :
    running.Meets (fun desk => (Sound desk ∧ frame desk) ∧ At operationId (Kept least) desk)
      (runPendingStart operationId)
      (fun _ desk => (Sound desk ∧ frame desk) ∧ At operationId (Settled least) desk) Anyhow := by
  have kept : running.Stable fun desk => (Sound desk ∧ frame desk) ∧
      At operationId (Kept least) desk :=
    Conduct.Stable.and (stable_sound frames.stable) (at_stable kept_lasting)
  have reads : running.Meets
      (fun desk => (Sound desk ∧ frame desk) ∧ At operationId (Kept least) desk)
      (readIntent operationId) (fun intent desk => intent.isInstance = true ∧
        ((Sound desk ∧ frame desk) ∧ At operationId (Kept least) desk) ∧
        (intent.state.isActive = false → At operationId (Settled least) desk)) Anyhow := by
    refine read_meets SameIntents.running kept ?_ fun intent => ?_
    · rintro answer desk intent ⟨holds, stored, found, single, most⟩ ok
      obtain rfl := Option.some.inj (found.symm.trans (storedIntent_eq_ok ok))
      exact ⟨single, ⟨holds, stored, found, single, most⟩,
        fun ended => ⟨stored, found, single, most, .inl ended⟩⟩
    · rintro desk later between ⟨single, holds, rest⟩
      exact ⟨single, kept between holds, fun ended =>
        at_stable settled_lasting between (rest ended)⟩
  exact Conduct.Meets.bind reads fun intent => meets_pure fun single =>
    runFoundStart_single frames single

/-- The turn of any operation leaves what is known of others. -/
theorem runPendingStart_meets (frames : ∀ single, Frames frame operationId single) :
    running.Meets (fun desk => Sound desk ∧ frame desk) (runPendingStart operationId)
      (fun _ desk => Sound desk ∧ frame desk) Anyhow := by
  have stable : running.Stable fun desk => Sound desk ∧ frame desk :=
    stable_sound (frames true).stable
  have reads : running.Meets (fun desk => Sound desk ∧ frame desk) (readIntent operationId)
      (fun intent desk => (Sound desk ∧ frame desk) ∧
        (intent.isInstance = true → At operationId (Kept 0) desk ∧
          (intent.state.isActive = false → At operationId (Settled 0) desk)) ∧
        (intent.isInstance = false → AllAt operationId Anyone desk)) Anyhow := by
    refine read_meets SameIntents.running stable ?_ fun intent => ?_
    · intro answer desk intent holds ok
      have found := storedIntent_eq_ok ok
      exact ⟨holds, fun single => ⟨⟨intent, found, single, Nat.zero_le _⟩,
        fun ended => ⟨intent, found, single, Nat.zero_le _, .inl ended⟩⟩,
        fun all => ⟨intent, found, all, trivial⟩⟩
    · rintro desk later between ⟨holds, ones, alls⟩
      exact ⟨stable between holds, fun single => ⟨at_stable kept_lasting between (ones single).1,
        fun ended => at_stable settled_lasting between ((ones single).2 ended)⟩,
        fun all => allAt_stable (fun _ _ => trivial) between (alls all)⟩
  refine Conduct.Meets.bind reads fun intent => ?_
  cases kind : intent.isInstance with
  | true =>
      have carried := @runFoundStart_single frame intent operationId 0 (frames true) kind
      refine carried.mono ?_ (fun _ _ holds => holds.1) fun _ _ _ => trivial
      exact fun _ holds => ⟨⟨holds.1, (holds.2.1 rfl).1⟩, (holds.2.1 rfl).2⟩
  | false =>
      exact (runFoundStart_all (frames false) kind).strengthen fun _ holds =>
        ⟨holds.1, holds.2.2 rfl⟩

/-! ## Stale operations -/

/-- What is known of others outlasts that an operation on one instance is superseded. -/
structure Outlasts (frame : StartDesk → Prop) : Prop where
  stable : running.Stable frame
  blind : ∀ {desk later}, later.intents = desk.intents → frame desk → frame later
  supersedes : ∀ {desk latest time}, desk.intents.lookup latest.operationId = some latest →
    latest.isInstance = true → frame desk → frame (desk.write (supersededIntent latest time))

theorem at_outlasts (lasting : Lasting is)
    (superseded : ∀ intent time, is intent → is (supersededIntent intent time)) :
    Outlasts (At id is) := by
  refine ⟨at_stable lasting, at_blind, ?_⟩
  rintro desk latest time found single ⟨intent, foundIntent, single', holds⟩
  by_cases same : id = latest.operationId
  · subst same
    obtain rfl := Option.some.inj (found.symm.trans foundIntent)
    refine ⟨supersededIntent latest time, ?_, single, superseded latest time holds⟩
    rw [lookup_write]
    exact if_pos rfl
  · refine ⟨intent, ?_, single', holds⟩
    rw [lookup_write, if_neg (show ¬id = (supersededIntent latest time).operationId from same)]
    exact foundIntent

theorem outlasts_true : Outlasts fun _ => True :=
  ⟨Conduct.Stable.always, fun _ _ => trivial, fun _ _ _ => trivial⟩

theorem kept_superseded (intent : StartOperation) (time : Timestamp) (kept : Kept least intent) :
    Kept least (supersededIntent intent time) := by
  rw [Kept, supersededIntent_attempts]
  exact kept

/-- All of them are operations on one instance. -/
def Ones (candidates : List StartOperation) (desk : StartDesk) : Prop :=
  ∀ candidate ∈ candidates, At candidate.operationId Anyone desk

theorem anyone_lasting : Lasting Anyone := fun _ _ _ => trivial

theorem ones_stable {candidates : List StartOperation} : running.Stable (Ones candidates) :=
  fun between ones candidate member => at_stable anyone_lasting between (ones candidate member)

theorem ones_superseded {candidates : List StartOperation} {latest : StartOperation}
    {time : Timestamp} (found : desk.intents.lookup latest.operationId = some latest)
    (single : latest.isInstance = true) (ones : Ones candidates desk) :
    Ones candidates (desk.write (supersededIntent latest time)) :=
  fun candidate member => (at_outlasts anyone_lasting fun _ _ _ => trivial).supersedes found single
    (ones candidate member)

/-- A stale operation is superseded. -/
theorem supersedeLocked_meets (outlasts : Outlasts frame) {candidate : StartOperation}
    {rest : List StartOperation} :
    running.Meets (fun desk => (Sound desk ∧ frame desk) ∧ Ones (candidate :: rest) desk)
      (Thread.atomically (supersedeLocked candidate))
      (fun _ desk => (Sound desk ∧ frame desk) ∧ Ones rest desk) Anyhow := by
  have step : ∀ answer desk, (Sound desk ∧ frame desk) ∧ Ones (candidate :: rest) desk →
      running.guarantee desk (supersedeLocked candidate answer desk).2 ∧
        (Sound (supersedeLocked candidate answer desk).2 ∧
          frame (supersedeLocked candidate answer desk).2) ∧
        Ones rest (supersedeLocked candidate answer desk).2 := by
    rintro answer desk ⟨⟨sound, framed⟩, ones⟩
    have others : Ones rest desk := fun other member => ones other (List.mem_cons_of_mem _ member)
    obtain ⟨latest, found, single, -⟩ := ones candidate List.mem_cons_self
    obtain ⟨named, wellFormed⟩ := sound.filed found
    unfold supersedeLocked
    rw [found]
    dsimp only
    split
    · rename_i isOpen
      have wellFormed' := @supersededIntent_wellFormed latest answer.now wellFormed single isOpen
      rw [← named] at found
      have free : isFinal latest = false := by
        rw [isFinal, mayRetry]
        cases state : latest.state <;> rw [state] at isOpen <;> first | rfl | cases isOpen
      exact ⟨⟨fun sound => sound.write wellFormed', .write found rfl fun _ => free⟩,
        ⟨sound.write wellFormed', outlasts.supersedes found single framed⟩,
        ones_superseded found single others⟩
    · exact ⟨(SameIntents.mk rfl rfl rfl).running, ⟨sound, framed⟩, others⟩
  exact Conduct.Meets.atomically
    (Conduct.Stable.and (stable_sound outlasts.stable) ones_stable)
    (fun answer desk holds => (step answer desk holds).1)
    (fun answer desk _ holds _ => (step answer desk holds).2) (fun _ _ _ _ _ => trivial)
    (fun _ => Conduct.Stable.and (stable_sound outlasts.stable) ones_stable)
    fun _ => Conduct.Stable.always

/-- The open operations that are read are operations on one instance. -/
theorem openOperations_meets (outlasts : Outlasts frame) {operationIds : List Identifier}
    {found : List StartOperation} :
    running.Meets (fun desk => (Sound desk ∧ frame desk) ∧ Ones found desk)
      (openOperations operationIds found)
      (fun found desk => (Sound desk ∧ frame desk) ∧ Ones found desk) Anyhow := by
  have stable : ∀ found, running.Stable fun desk => (Sound desk ∧ frame desk) ∧ Ones found desk :=
    fun found => Conduct.Stable.and (stable_sound outlasts.stable) ones_stable
  induction operationIds generalizing found with
  | nil => exact Conduct.Meets.pure (stable found) fun _ holds => holds
  | cons operationId rest ih =>
      have reads : running.Meets (fun desk => (Sound desk ∧ frame desk) ∧ Ones found desk)
          (readIntent operationId) (fun intent desk =>
            ((Sound desk ∧ frame desk) ∧ Ones found desk) ∧
              (intent.isInstance = true → At intent.operationId Anyone desk)) Anyhow := by
        refine read_meets SameIntents.running (stable found) ?_ fun intent => ?_
        · intro answer desk intent holds ok
          have stored := storedIntent_eq_ok ok
          have named := (holds.1.1.filed stored).1
          exact ⟨holds, fun single => ⟨intent, named ▸ stored, single, trivial⟩⟩
        · exact fun between holds => ⟨stable found between holds.1, fun single =>
            at_stable anyone_lasting between (holds.2 single)⟩
      refine Conduct.Meets.bind reads fun intent => ?_
      split
      · rename_i one
        refine ih.strengthen fun desk holds => ⟨holds.1.1, fun candidate member => ?_⟩
        obtain before | now := List.mem_append.mp member
        · exact holds.1.2 candidate before
        · obtain rfl := List.mem_singleton.mp now
          exact holds.2 one.1
      · exact ih.strengthen fun desk holds => holds.1

theorem staleGroups_subset {found : List StartOperation} : staleGroups found ⊆ found := by
  intro candidate member
  obtain ⟨target, -, among⟩ := List.mem_flatMap.mp member
  exact (List.mem_filter.mp (List.mem_filter.mp among).1).1

theorem supersedeStaleOperations_meets (outlasts : Outlasts frame) :
    running.Meets (fun desk => Sound desk ∧ frame desk) supersedeStaleOperations
      (fun _ desk => Sound desk ∧ frame desk) Anyhow := by
  have stable : running.Stable fun desk => Sound desk ∧ frame desk := stable_sound outlasts.stable
  have blind : ∀ {desk later}, SameIntents desk later → Sound desk ∧ frame desk →
      Sound later ∧ frame later := fun same holds =>
    ⟨same.sound holds.1, outlasts.blind same.intents holds.2⟩
  refine Conduct.Meets.bind (Quiet.read.anyhow SameIntents.running stable blind)
    fun operationIds => ?_
  refine Conduct.Meets.bind ((openOperations_meets outlasts).strengthen fun _ holds =>
    ⟨holds, by rintro _ ⟨⟩⟩) fun found => ?_
  have loop : running.Meets
      (fun desk => (Sound desk ∧ frame desk) ∧ Ones (staleGroups found) desk)
      (Thread.forEach (fun candidate => Thread.atomically (supersedeLocked candidate))
        (staleGroups found))
      (fun _ desk => (Sound desk ∧ frame desk) ∧ Ones [] desk) Anyhow :=
    Conduct.Meets.forEach (fun rest desk => (Sound desk ∧ frame desk) ∧ Ones rest desk)
      (fun _ => Conduct.Stable.and stable ones_stable)
      fun candidate rest => supersedeLocked_meets outlasts
  refine loop.mono (fun desk holds => ⟨holds.1, fun candidate member => ?_⟩)
    (fun _ _ holds => holds.1) fun _ _ _ => trivial
  exact holds.2 candidate (staleGroups_subset member)

theorem reconcileOnce_meets (outlasts : Outlasts frame) :
    running.Meets (fun desk => Sound desk ∧ frame desk) reconcileOnce
      (fun _ desk => Sound desk ∧ frame desk) Anyhow := by
  have stable : running.Stable fun desk => Sound desk ∧ frame desk := stable_sound outlasts.stable
  have blind : ∀ {desk later}, SameIntents desk later → Sound desk ∧ frame desk →
      Sound later ∧ frame later := fun same holds =>
    ⟨same.sound holds.1, outlasts.blind same.intents holds.2⟩
  refine Conduct.Meets.bind (Quiet.read.anyhow SameIntents.running stable blind)
    fun reconciled => ?_
  split
  · exact Conduct.Meets.pure stable fun _ holds => holds
  · refine Conduct.Meets.bind (supersedeStaleOperations_meets outlasts) fun _ => ?_
    have marks : Quiet markReconciled := Quiet.atomically fun _ _ => ⟨rfl, rfl, rfl⟩
    exact marks.anyhow SameIntents.running stable blind

/-- What is known of an operation while a scan goes through the intents. -/
def Scanned (id : Identifier) (least : Nat) (remaining : List Identifier) (desk : StartDesk) :
    Prop :=
  (Sound desk ∧ At id (Kept least) desk) ∧ (id ∈ remaining ∨ At id (Settled least) desk)

theorem scanned_stable {remaining : List Identifier} :
    running.Stable (Scanned id least remaining) := by
  rintro desk later between ⟨holds, settled⟩
  exact ⟨stable_sound (at_stable kept_lasting) between holds,
    settled.imp_right (at_stable settled_lasting between)⟩

theorem settled_kept (settled : At id (Settled least) desk) : At id (Kept least) desk := by
  obtain ⟨intent, found, single, most, -⟩ := settled
  exact ⟨intent, found, single, most⟩

/-- The turn of one intent of a scan. -/
theorem scanned_turn {remaining : List Identifier} :
    running.Meets (Scanned id least (operationId :: remaining)) (runPendingStart operationId)
      (fun _ => Scanned id least remaining) Anyhow := by
  by_cases same : id = operationId
  · subst same
    have turn := @runPendingStart_settles (fun _ => True) id least frames_true
    refine turn.mono ?_ ?_ fun _ _ _ => trivial
    · exact fun _ holds => ⟨⟨holds.1.1, trivial⟩, holds.1.2⟩
    · exact fun _ _ holds => ⟨⟨holds.1.1, settled_kept holds.2⟩, .inr holds.2⟩
  · have kept := @runPendingStart_meets (At id (Kept least)) operationId
      fun _ => at_frames_other kept_lasting same
    have settled := @runPendingStart_meets (At id (Settled least)) operationId
      fun _ => at_frames_other settled_lasting same
    rintro desk ⟨holds, member | ended⟩
    · have later := (List.mem_cons.mp member).resolve_left same
      refine (kept desk holds).mono fun outcome after ends => ?_
      cases outcome with
      | ok value => exact ⟨ends, .inl later⟩
      | error fault => trivial
    · refine (settled desk ⟨holds.1, ended⟩).mono fun outcome after ends => ?_
      cases outcome with
      | ok value => exact ⟨⟨ends.1, settled_kept ends.2⟩, .inr ends.2⟩
      | error fault => trivial

theorem mem_operationIds (found : desk.intents.lookup id = some intent) :
    id ∈ desk.operationIds := by
  have key : id ∈ desk.intents := AList.lookup_isSome.mp (by rw [found]; rfl)
  exact List.mem_mergeSort.mpr key

/-- A scan that returns has settled an operation on one instance that was there before. -/
theorem runPendingStarts_settles :
    running.Meets (fun desk => Sound desk ∧ At id (Kept least) desk) runPendingStarts
      (fun _ desk => Sound desk ∧ At id (Settled least) desk) Anyhow := by
  have outlasts : Outlasts (At id (Kept least)) := at_outlasts kept_lasting kept_superseded
  have stable : running.Stable fun desk => Sound desk ∧ At id (Kept least) desk :=
    stable_sound outlasts.stable
  refine Conduct.Meets.bind (reconcileOnce_meets outlasts) fun _ => ?_
  have reads : running.Meets (fun desk => Sound desk ∧ At id (Kept least) desk)
      readOperationIds (fun operationIds => Scanned id least operationIds) Anyhow := by
    refine read_meets SameIntents.running stable ?_ fun _ => scanned_stable
    rintro answer desk operationIds ⟨sound, intent, found, rest⟩ ok
    obtain rfl := Except.ok.inj ok
    exact ⟨⟨sound, intent, found, rest⟩, .inl (mem_operationIds found)⟩
  refine Conduct.Meets.bind reads fun operationIds => ?_
  have loop : running.Meets (Scanned id least operationIds)
      (Thread.forEach runPendingStart operationIds) (fun _ => Scanned id least []) Anyhow :=
    Conduct.Meets.forEach (Scanned id least) (fun _ => scanned_stable)
      fun operationId rest => scanned_turn
  refine loop.mono (fun _ holds => holds) (fun _ desk holds => ?_) fun _ _ _ => trivial
  exact ⟨holds.1.1, holds.2.resolve_left (by simp)⟩

/-- A scan keeps to what the runner promises. -/
theorem runPendingStarts_meets :
    running.Meets Sound runPendingStarts (fun _ => Sound) Anyhow := by
  have stable : running.Stable fun desk => Sound desk ∧ True := stable_sound outlasts_true.stable
  have both : running.Meets (fun desk => Sound desk ∧ True) runPendingStarts
      (fun _ desk => Sound desk ∧ True) Anyhow := by
    refine Conduct.Meets.bind (reconcileOnce_meets outlasts_true) fun _ => ?_
    refine Conduct.Meets.bind (Quiet.read.anyhow SameIntents.running stable
      fun same holds => ⟨same.sound holds.1, trivial⟩) fun operationIds => ?_
    exact Conduct.Meets.forEach (fun _ desk => Sound desk ∧ True) (fun _ => stable)
      fun operationId rest => runPendingStart_meets fun _ => frames_true
  exact both.mono (fun _ sound => ⟨sound, trivial⟩) (fun _ _ holds => holds.1) fun _ _ _ => trivial

end

end StartOperations

end DesignHarness
