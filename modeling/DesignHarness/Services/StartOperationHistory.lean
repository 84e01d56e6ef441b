import DesignHarness.Services.StartOperationScans

/-!
# Runs of start operations

Requests on different operations, the scans of the runner and other services interleave at every
step, and the control plane can stop at every step.
-/

namespace DesignHarness

open Library

namespace StartOperations

section

variable {α : Type} {intent next : StartOperation} {operationId id : Identifier}
  {desk later : StartDesk} {time : Timestamp} {envelope : CommandEnvelope}
  {answer : StartSurroundings}

/-! ## What requests write -/

/-- A request is served while the runner lives. -/
def Serving (desk : StartDesk) : Prop := Sound desk ∧ desk.runnerAlive = true

theorem serving_stable : requesting.Stable Serving :=
  fun between holds => ⟨between.1 holds.1, between.2.alive holds.2⟩

theorem serving_blind (same : SameIntents desk later) (holds : Serving desk) : Serving later :=
  ⟨same.sound holds.1, same.alive.trans holds.2⟩

theorem Quiet.serving {operation : Starting α} (quiet : Quiet operation) :
    requesting.Meets Serving operation (fun _ => Serving) Anyhow :=
  quiet.anyhow SameIntents.requesting serving_stable serving_blind

/-- One step of a request. -/
theorem serving_step {body : StartSurroundings → StartDesk → Except Fault α × StartDesk}
    (keeps : ∀ answer desk, Sound desk →
      Sound (body answer desk).2 ∧ Beside desk (body answer desk).2) :
    requesting.Meets Serving (Thread.atomically body) (fun _ => Serving) Anyhow :=
  Conduct.Meets.atomically serving_stable
    (fun answer desk holds => ⟨fun sound => (keeps answer desk sound).1,
      (keeps answer desk holds.1).2⟩)
    (fun answer desk _ holds _ => ⟨(keeps answer desk holds.1).1,
      (keeps answer desk holds.1).2.alive holds.2⟩)
    (fun _ _ _ _ _ => trivial) (fun _ => serving_stable) fun _ => Conduct.Stable.always

theorem prepareLocked_keeps {restart : Bool} {key : InstanceKey} (sound : Sound desk) :
    Sound (prepareLocked restart operationId key envelope answer desk).2 ∧
      Beside desk (prepareLocked restart operationId key envelope answer desk).2 := by
  unfold prepareLocked
  dsimp only
  split
  · split
    · exact ⟨sound, .refl desk⟩
    · split <;> exact ⟨sound, .refl desk⟩
  · rename_i absent
    split
    · exact ⟨sound, .refl desk⟩
    · split
      · exact ⟨sound, .refl desk⟩
      · exact ⟨sound.write instanceIntent_wellFormed, .write_new absent⟩

theorem prepareInstanceOperation_meets {restart : Bool} {key : InstanceKey} :
    requesting.Meets Serving (prepareInstanceOperation restart operationId key envelope)
      (fun _ => Serving) Anyhow := by
  unfold prepareInstanceOperation
  split
  · refine Conduct.Meets.bind Quiet.read.serving fun _ => ?_
    refine Conduct.Meets.bind (serving_step fun answer desk => prepareLocked_keeps)
      fun prepared => ?_
    split
    · refine Conduct.Meets.bind Quiet.ask.serving fun _ => ?_
      exact Conduct.Meets.pure serving_stable fun _ holds => holds
    · exact Conduct.Meets.pure serving_stable fun _ holds => holds
  · exact fun _ _ _ _ => trivial

theorem recoverable_gate (recoverable : isRecoverablePptGateFailure intent answer desk = true) :
    intent.kind = .startInstance ∧ intent.state = .aborted ∧
      intent.lastError.any isGateFailure = true := by
  simp only [isRecoverablePptGateFailure, Bool.and_eq_true, decide_eq_true_eq] at recoverable
  exact ⟨recoverable.1.1.1, recoverable.1.1.2, recoverable.1.2⟩

/-- The operations that `retry_start_operation` accepts. -/
theorem retries_of_accepted
    (state : ¬(intent.state ≠ .retryableFailed ∧
      isRecoverablePptGateFailure intent answer desk = false))
    (remains : ¬(isRecoverablePptGateFailure intent answer desk = false ∧
        intent.retryAllowed = false ∨
      isRecoverablePptGateFailure intent answer desk = true ∧ intent.attemptsExhausted = true)) :
    Retries intent (isRecoverablePptGateFailure intent answer desk) := by
  cases recoverable : isRecoverablePptGateFailure intent answer desk with
  | true =>
      obtain ⟨kind, aborted, gate⟩ := recoverable_gate recoverable
      refine ⟨.inr aborted, fun _ => rfl, fun _ => ⟨?_, ?_⟩, ?_⟩
      · simp [StartOperation.isInstance, kind]
      · simp [mayRetry, aborted, gate]
      · simpa [recoverable] using remains
  | false =>
      have failed : intent.state = .retryableFailed := by simpa [recoverable] using state
      refine ⟨.inl failed, fun aborted => ?_, (by rintro ⟨⟩), ?_⟩
      · cases failed.symm.trans aborted
      · simpa [recoverable, StartOperation.retryAllowed, failed] using remains

theorem Retries.mayRetry {reopens : Bool} (retries : Retries intent reopens) :
    mayRetry intent = true := by
  obtain failed | aborted := retries.failed
  · simp [StartOperations.mayRetry, failed]
  · exact (retries.single (retries.opened aborted)).2

theorem retryLocked_keeps (sound : Sound desk) :
    Sound (retryLocked operationId envelope answer desk).2 ∧
      Beside desk (retryLocked operationId envelope answer desk).2 := by
  unfold retryLocked
  dsimp only
  split
  · exact ⟨sound, .refl desk⟩
  · rename_i intent found
    obtain ⟨named, wellFormed⟩ := sound.filed found
    split_ifs with actor repeated same state remains
    · exact ⟨sound, .refl desk⟩
    · exact ⟨sound, .refl desk⟩
    · exact ⟨sound, .refl desk⟩
    · exact ⟨sound, .refl desk⟩
    · exact ⟨sound, .refl desk⟩
    · split
      · exact ⟨sound, .refl desk⟩
      · have retries := retries_of_accepted state remains
        rw [← named] at found
        refine ⟨sound.write (retriedIntent_wellFormed wellFormed retries),
          .write found rfl rfl (fun single => ⟨retries.mayRetry,
            rfl, retriedIntent_attempts wellFormed retries single⟩) fun all => ?_⟩
        refine wellFormed.confirmed all ?_
        obtain failed | aborted := retries.failed
        · rw [failed]; rfl
        · rw [aborted]; rfl

/-- While the runner lives, a request carries out nothing itself. -/
theorem alive_read {condition : StartDesk → Prop} (stable : requesting.Stable condition)
    {rest : Bool → Starting α} (serves : ∀ desk, condition desk → Serving desk)
    {returns : α → StartDesk → Prop}
    (continues : requesting.Meets condition (rest true) returns Anyhow) :
    requesting.Meets condition
      (runnerAlive >>= rest) returns Anyhow := by
  have reads : requesting.Meets condition runnerAlive
      (fun alive desk => alive = true ∧ condition desk) Anyhow := by
    refine read_meets SameIntents.requesting stable ?_ fun alive => ?_
    · intro answer desk alive holds ok
      obtain rfl := Except.ok.inj ok
      exact ⟨(serves desk holds).2, holds⟩
    · exact fun between holds => ⟨holds.1, stable between holds.2⟩
  refine Conduct.Meets.bind reads fun alive => meets_pure fun lives => ?_
  subst lives
  exact continues

theorem retryStartOperation_meets :
    requesting.Meets Serving (retryStartOperation operationId envelope) (fun _ => Serving)
      Anyhow := by
  refine Conduct.Meets.bind (serving_step fun answer desk => retryLocked_keeps) fun retried => ?_
  split
  · exact alive_read serving_stable (fun _ holds => holds)
      (Conduct.Meets.pure serving_stable fun _ holds => holds)
  · exact Conduct.Meets.pure serving_stable fun _ holds => holds

/-- The operation of the request is stored. -/
def Filed (operationId : Identifier) (desk : StartDesk) : Prop :=
  Serving desk ∧ AllAt operationId Anyone desk

theorem filed_stable : requesting.Stable (Filed operationId) := by
  rintro desk later between ⟨holds, intent, found, all, -⟩
  obtain ⟨next, foundNext, kind, -⟩ := between.2.intents found
  exact ⟨serving_stable between holds, next, foundNext, (isInstance_of_kind kind).trans all,
    trivial⟩

theorem filed_blind (same : SameIntents desk later) (holds : Filed operationId desk) :
    Filed operationId later :=
  ⟨serving_blind same holds.1, allAt_blind same.intents holds.2⟩

theorem confirmLocked_step {request : StartOperationRequest} (sound : Sound desk) :
    (Sound (confirmLocked operationId request answer desk).2 ∧
      Beside desk (confirmLocked operationId request answer desk).2) ∧
    ((confirmLocked operationId request answer desk).1 = .ok none →
      AllAt operationId Anyone (confirmLocked operationId request answer desk).2) := by
  unfold confirmLocked
  split
  · rename_i intent found
    split_ifs with other
    · exact ⟨⟨sound, .refl desk⟩, by rintro ⟨⟩⟩
    · exact ⟨⟨sound, .refl desk⟩, by rintro ⟨⟩⟩
    · exact ⟨⟨sound, .refl desk⟩, by rintro ⟨⟩⟩
    · refine ⟨⟨sound, .refl desk⟩, fun _ => ⟨intent, found, ?_, trivial⟩⟩
      have kind : intent.kind = .startReadyInstances := by
        by_contra differs
        exact other (.inl differs)
      simp [StartOperation.isInstance, kind]
  · rename_i absent
    split
    · exact ⟨⟨sound, .refl desk⟩, by rintro ⟨⟩⟩
    · split
      · split
        · exact ⟨⟨sound, .refl desk⟩, by rintro ⟨⟩⟩
        · rename_i plan _ _ _ targets _
          refine ⟨⟨sound.write readyIntent_wellFormed, .write_new absent⟩, fun _ =>
            ⟨readyIntent operationId request plan targets answer.now, ?_, rfl, trivial⟩⟩
          rw [lookup_write]
          exact if_pos rfl
      · exact ⟨⟨sound, .refl desk⟩, by rintro ⟨⟩⟩

/-- A request confirms its operation. -/
theorem confirmStartIntent_filed :
    requesting.Meets (Filed operationId) (confirmStartIntent operationId)
      (fun _ => Filed operationId) Anyhow := by
  have quiet {β : Type} {operation : Starting β} (quiet : Quiet operation) :
      requesting.Meets (Filed operationId) operation (fun _ => Filed operationId) Anyhow :=
    quiet.anyhow SameIntents.requesting filed_stable filed_blind
  have reads : requesting.Meets (Filed operationId) (readIntent operationId) (fun intent desk =>
      (intent.WellFormed ∧ intent.operationId = operationId ∧ intent.isInstance = false) ∧
        Filed operationId desk) Anyhow := by
    refine read_meets SameIntents.requesting filed_stable ?_ fun intent => ?_
    · rintro answer desk intent ⟨holds, stored, found, all, -⟩ ok
      obtain rfl := Option.some.inj (found.symm.trans (storedIntent_eq_ok ok))
      obtain ⟨named, wellFormed⟩ := holds.1.filed found
      exact ⟨⟨wellFormed, named, all⟩, holds, stored, found, all, trivial⟩
    · exact fun between holds => ⟨holds.1, filed_stable between holds.2⟩
  refine Conduct.Meets.bind reads fun intent => meets_pure fun ⟨wellFormed, named, all⟩ => ?_
  split
  · exact Conduct.Meets.pure filed_stable fun _ holds => holds
  · rename_i unconfirmed
    have active : intent.state.isActive = true := by
      cases state : intent.state.isActive with
      | true => rfl
      | false => exact absurd (wellFormed.confirmed all state) unconfirmed
    refine Conduct.Meets.bind (quiet Quiet.read) fun plan => ?_
    refine Conduct.Meets.bind (quiet Quiet.confirmTask) fun _ => ?_
    refine Conduct.Meets.bind (quiet Quiet.now) fun time => ?_
    have wellFormed' := @confirmedIntent_wellFormed intent time wellFormed
    have wrote : ∀ {desk}, Filed operationId desk →
        requesting.guarantee desk (desk.write (confirmedIntent intent time)) ∧
          Filed operationId (desk.write (confirmedIntent intent time)) := by
      rintro desk ⟨⟨sound, alive⟩, stored, found, known, -⟩
      have lookup : desk.intents.lookup (confirmedIntent intent time).operationId = some stored :=
        by rwa [show (confirmedIntent intent time).operationId = operationId from named]
      have kind : intent.kind = stored.kind := (kind_of_all all).trans (kind_of_all known).symm
      have beside : Beside desk (desk.write (confirmedIntent intent time)) :=
        .write lookup kind active (fun single => absurd (known.symm.trans single) (by decide))
          fun _ => rfl
      refine ⟨⟨fun sound => sound.write wellFormed', beside⟩,
        ⟨sound.write wellFormed', alive⟩, confirmedIntent intent time, ?_, all, trivial⟩
      rw [lookup_write]
      exact if_pos named.symm
    exact Conduct.Meets.change filed_stable (fun _ _ holds => (wrote holds).1)
      (fun _ _ holds => (wrote holds).2) filed_stable

theorem confirmAndStartReadyInstances_meets {taskId : Identifier}
    {only : Option (List Identifier)} :
    requesting.Meets Serving (confirmAndStartReadyInstances operationId taskId envelope only)
      (fun _ => Serving) Anyhow := by
  refine Conduct.Meets.bind Quiet.read.serving fun _ => ?_
  have locked : requesting.Meets Serving
      (Thread.atomically (confirmLocked operationId (readyRequest taskId envelope only)))
      (fun replayed desk => Serving desk ∧ (replayed = none → Filed operationId desk)) Anyhow := by
    refine Conduct.Meets.atomically serving_stable
      (fun answer desk holds => ⟨fun sound => (confirmLocked_step sound).1.1,
        (confirmLocked_step holds.1).1.2⟩) (fun answer desk replayed holds ok => ?_)
      (fun _ _ _ _ _ => trivial) (fun replayed => ?_) fun _ => Conduct.Stable.always
    · obtain ⟨⟨sound, beside⟩, stored⟩ := @confirmLocked_step operationId desk answer
        (readyRequest taskId envelope only) holds.1
      have serving := And.intro sound (beside.alive holds.2)
      refine ⟨serving, ?_⟩
      rintro rfl
      exact ⟨serving, stored ok⟩
    · exact fun between holds => ⟨serving_stable between holds.1, fun none =>
        filed_stable between (holds.2 none)⟩
  refine Conduct.Meets.bind locked fun replayed => ?_
  cases replayed with
  | some summary =>
      refine fun desk holds => Conduct.Meets.pure serving_stable (fun _ holds => holds) desk holds.1
  | none =>
      have quiet {β : Type} {operation : Starting β} (quiet : Quiet operation) :
          requesting.Meets (Filed operationId) operation (fun _ => Filed operationId) Anyhow :=
        quiet.anyhow SameIntents.requesting filed_stable filed_blind
      have rest : requesting.Meets (Filed operationId) (do
          ask (·.configLocked)
          confirmStartIntent operationId
          handOver operationId) (fun _ => Serving) Anyhow := by
        refine Conduct.Meets.bind (quiet Quiet.ask) fun _ => ?_
        refine Conduct.Meets.bind confirmStartIntent_filed fun _ => ?_
        refine alive_read filed_stable (fun _ holds => holds.1) ?_
        refine Conduct.Meets.bind (quiet Quiet.read) fun intent => ?_
        exact Conduct.Meets.pure filed_stable fun _ holds => holds.1
      exact rest.strengthen fun _ holds => holds.2 rfl

/-- A request on one instance, on the ready ones, or to carry an operation out again. -/
inductive StartRequest where
  | single (restart : Bool) (operationId : Identifier) (key : InstanceKey)
      (envelope : CommandEnvelope)
  | ready (operationId taskId : Identifier) (envelope : CommandEnvelope)
      (only : Option (List Identifier))
  | retry (operationId : Identifier) (envelope : CommandEnvelope)

/-- The request without its answer. -/
def StartRequest.thread : StartRequest → Starting Unit
  | single restart operationId key envelope => do
      let _ ← prepareInstanceOperation restart operationId key envelope
      return ()
  | ready operationId taskId envelope only => do
      let _ ← confirmAndStartReadyInstances operationId taskId envelope only
      return ()
  | retry operationId envelope => do
      let _ ← retryStartOperation operationId envelope
      return ()

theorem StartRequest.serves (request : StartRequest) :
    requesting.Meets Serving request.thread (fun _ => Serving) Anyhow := by
  have done : ∀ _ : StartSummary, requesting.Meets Serving
      (pure () : Starting Unit) (fun _ => Serving) Anyhow :=
    fun _ => Conduct.Meets.pure serving_stable fun _ holds => holds
  cases request with
  | single => exact Conduct.Meets.bind prepareInstanceOperation_meets done
  | ready => exact Conduct.Meets.bind confirmAndStartReadyInstances_meets done
  | retry => exact Conduct.Meets.bind retryStartOperation_meets done

end

/-- Start operations of a control plane: one scan at a time and any number of requests beside it.
    Other services change the instances. -/
def startService : Service (Option Nat) StartSurroundings StartDesk Fault Unit where
  outside desk later := ∃ instances, later = { desk with instances }
  offered
    | none, thread => thread = runPendingStarts
    | some _, thread => ∃ request : StartRequest, thread = request.thread
  recovery := startMonitoring

/-- Requests are made while the runner lives. -/
def startSettled : Option Nat → StartDesk → Prop
  | none, _ => True
  | some _, desk => desk.runnerAlive = true

def startConduct : Option Nat → Conduct StartDesk
  | none => running
  | some _ => requesting

section

variable {desk later : StartDesk} {intent : StartOperation} {id : Identifier}
  {stage next : Service.Stage (Option Nat) StartSurroundings StartDesk Fault Unit}

theorem outside_same (happens : startService.outside desk later) : SameIntents desk later := by
  obtain ⟨instances, rfl⟩ := happens
  exact ⟨rfl, rfl, rfl⟩

theorem startMonitoring_meets :
    running.Meets Sound startMonitoring (fun _ desk => desk.runnerAlive = true) Anyhow := by
  have stable : running.Stable Sound := fun between => between.1
  refine Conduct.Meets.change stable (fun _ desk _ => ⟨fun sound => ?_, ?_⟩) (fun _ _ _ => rfl)
    fun between => between.2.alive
  · exact ⟨sound.filed, sound.recorded⟩
  · exact ⟨fun _ => rfl, fun found => ⟨_, found, rfl, fun _ _ => rfl⟩⟩

theorem start_verified :
    startService.Verified Sound startSettled (fun desk => desk.runnerAlive = true) startConduct
      running where
  apart {key other state later} differs sound promised := by
    cases key with
    | none =>
        cases other with
        | none => exact absurd rfl differs
        | some _ => exact promised
    | some _ =>
        cases other with
        | none => exact promised
        | some _ => exact ⟨promised.1, promised.2.onward⟩
  aside key {state later} sound happens := by
    have same := outside_same happens
    cases key with
    | none => exact ⟨same.sound, same.beside⟩
    | some _ => exact ⟨same.sound, same.beside.onward⟩
  asideRecovering sound happens := ⟨(outside_same happens).sound, (outside_same happens).beside⟩
  soundOutside happens := (outside_same happens).sound
  soundStep {key state later} promised sound := by
    cases key with
    | none => exact promised.1 sound
    | some _ => exact promised.1 sound
  soundRecovering promised sound := promised.1 sound
  stable key := by
    cases key with
    | none => exact fun _ _ => trivial
    | some _ => exact fun between alive => between.2.alive alive
  calls {key thread} offers state sound settled := by
    cases key with
    | none =>
        obtain rfl := offers
        have within : running.Within _ runPendingStarts state := runPendingStarts_meets state sound
        exact within.mono fun _ _ _ => trivial
    | some _ =>
        obtain ⟨request, rfl⟩ := offers
        have alive : requesting.Stable fun desk => desk.runnerAlive = true :=
          fun between alive => between.2.alive alive
        have within : requesting.Within _ request.thread state :=
          request.serves state ⟨sound, settled⟩
        have kept := within.keeps alive (fun promised alive => promised.2.alive alive) settled
        exact kept.mono fun _ _ ends => ends.2
  recovers {state} sound := startMonitoring_meets state sound
  settles alive key := by
    cases key with
    | none => trivial
    | some _ => exact alive

theorem sound_nothing : Sound .empty where
  filed found := by cases found
  recorded _ member := by cases member

/-- The stages of the control plane from an empty desk on. -/
abbrev StartReaches
    (stage : Service.Stage (Option Nat) StartSurroundings StartDesk Fault Unit) : Prop :=
  startService.Reaches .empty stage

theorem StartReaches.holds (reached : StartReaches stage) :
    Service.Holds Sound startSettled (fun desk => desk.runnerAlive = true) startConduct running
      stage :=
  start_verified.reaches sound_nothing reached

theorem StartReaches.sound (reached : StartReaches stage) : Sound stage.shared := by
  have holds := reached.holds
  cases stage with
  | stopped shared => exact holds
  | recovering thread shared => exact holds.1
  | serving pool => exact holds.1

/-- Everything that is asked for succeeds. -/
def kindStart : StartSurroundings where
  now := "t9"
  taskArchived := false
  plan := some markedPlan
  revisionChecked := .ok ()
  configLocked := .ok ()
  startConfirmed := .ok ()
  commanded := .ok true
  recorded := .ok ()
  adapterAvailable := .ok true
  cardErrors := .ok []
  prepared := .ok ()
  launched := .ok ⟨"launch", "attempt", .running, 4000, none, none, none⟩
  recovered := .ok false
  agentStarted := .ok (some "agent")

/-- A start of the deck. -/
def deckRequest : StartRequest :=
  .single false "start" ⟨"task", "p"⟩ ⟨"key", .human, "user", 1⟩

/-- The control plane runs, and the deck is ready. -/
def readyDesk : StartDesk :=
  { (startMonitoring.alone kindStart .empty).2 with instances := [deckInstance none] }

def queuedDesk : StartDesk := (deckRequest.thread.alone kindStart readyDesk).2

/-- A scan has carried the start out. -/
def startedDesk : StartDesk := (runPendingStarts.alone kindStart queuedDesk).2

theorem queuedDesk_reached : StartReaches (.serving (.idle queuedDesk)) := by
  have booted : StartReaches (.recovering (.done (.ok ()))
      (startMonitoring.alone kindStart .empty).2) :=
    Service.Reaches.recovers (.next .first (.start _)) kindStart rfl
  have ready : StartReaches (.serving (.idle readyDesk)) :=
    (booted.next (.outside ⟨[deckInstance none], rfl⟩)).next .serve
  have offers : startService.offered (some 0) deckRequest.thread := ⟨deckRequest, rfl⟩
  exact Service.Reaches.calls ready offers kindStart rfl

theorem scan_offered : startService.offered none runPendingStarts := rfl

theorem scanned_alone :
    runPendingStarts.alone kindStart queuedDesk = (.ok (), startedDesk) := by
  have returns : (runPendingStarts.alone kindStart queuedDesk).1 = .ok () := by
    decide +kernel
  exact Prod.ext returns rfl

theorem startedDesk_reached : StartReaches (.serving (.idle startedDesk)) :=
  Service.Reaches.calls queuedDesk_reached scan_offered kindStart scanned_alone

/-- The start as it is stored after the scan. -/
theorem started_committed : ∃ intent, startedDesk.intents.lookup "start" = some intent ∧
    intent.isInstance = true ∧ intent.state = .committed := by
  decide +kernel

/-! ## What holds in every run -/

/-- An operation that is stored stays, whatever interleaves and wherever the control plane stops;
    and one on an instance that was committed, superseded, or aborted other than by the gate of the
    prior release never changes again. -/
theorem final_operations_kept (reached : StartReaches stage)
    (steps : Relation.ReflTransGen startService.Step stage next)
    (found : stage.shared.intents.lookup id = some intent) :
    ∃ intent', next.shared.intents.lookup id = some intent' ∧ intent'.kind = intent.kind ∧
      (intent.isInstance = true → isFinal intent = true → intent' = intent) := by
  have onward : Onward stage.shared next.shared :=
    start_verified.ordered Onward.refl Onward.trans
      (fun happens => (outside_same happens).beside.onward)
      (fun {key state later} promised => by
        cases key with
        | none => exact promised.2
        | some _ => exact promised.2.onward)
      (fun promised => promised.2) reached.holds steps
  exact onward.intents found

/-- The control plane stops after the start was committed, and starts again. -/
theorem final_operations_kept_sample : ∃ intent,
    startedDesk.intents.lookup "start" = some intent ∧ intent.state = .committed ∧
      (startMonitoring.alone kindStart startedDesk).2.intents.lookup "start" = some intent := by
  obtain ⟨intent, found, single, committed⟩ := started_committed
  have stops : Relation.ReflTransGen startService.Step (.serving (.idle startedDesk))
      (.recovering (.done (.ok ())) (startMonitoring.alone kindStart startedDesk).2) :=
    ((Relation.ReflTransGen.single (.stop _)).tail (.start _)).tail (.recover kindStart)
  obtain ⟨intent', found', -, kept⟩ := final_operations_kept startedDesk_reached stops found
  have final : isFinal intent = true := by
    rw [isFinal, mayRetry, committed]
    rfl
  obtain rfl := kept single final
  exact ⟨intent', found, committed, found'⟩

/-- What a stored operation says of its targets: attempts are bounded, a committed operation has a
    result of each target, and one that failed names the target and the attempt that failed. -/
structure Consistent (intent : StartOperation) : Prop where
  limited : intent.isInstance = true → ∀ entry ∈ intent.progress, entry.attempt ≤ 3
  retryAllowed : intent.summary.retryAllowed = true ↔ intent.state = .retryableFailed
  committed : intent.state = .committed →
    (∀ entry ∈ intent.progress, entry.state = .running ∧ entry.stage = .agentAccepted) ∧
      ∃ result, intent.result = some result ∧ result.operationId = intent.operationId ∧
        result.launches.map some = intent.targets.map intent.resultOf
  failed : intent.state = .retryableFailed ∨ intent.state = .aborted →
    ∃ entry ∈ intent.progress, ∃ failure, intent.lastError = some failure ∧
      entry.lastError = some failure ∧ failure.operationId = intent.operationId ∧
        failure.attempt = entry.attempt ∧
        failure.retryable = decide (intent.state = .retryableFailed)

/-- A target that has attempts left. -/
theorem retryAllowed_iff (wellFormed : intent.WellFormed) :
    intent.retryAllowed = true ↔ intent.state = .retryableFailed := by
  constructor
  · intro allowed
    simp only [StartOperation.retryAllowed, Bool.and_eq_true, decide_eq_true_eq] at allowed
    exact allowed.1
  · intro failed
    have shaped := wellFormed.shaped
    rw [StartOperation.Shaped, failed] at shaped
    obtain ⟨-, -, -, entry, member, -, -, left⟩ := shaped
    suffices exhausted : intent.attemptsExhausted = false by
      simp [StartOperation.retryAllowed, failed, exhausted]
    by_contra exhausted
    simp only [StartOperation.attemptsExhausted, Bool.not_eq_false, Bool.and_eq_true,
      decide_eq_true_eq, List.all_eq_true] at exhausted
    obtain ⟨⟨limited, -⟩, every⟩ := exhausted
    have reached := every entry member
    have below := left limited
    omega

theorem consistent_of_wellFormed (wellFormed : intent.WellFormed) : Consistent intent where
  limited single entry member := by
    have limit : intent.maxAttempts = 3 := by
      rw [wellFormed.limit, if_pos single]
      rfl
    have bounded := (wellFormed.entries entry member).bounded
    omega
  retryAllowed := retryAllowed_iff wellFormed
  committed state := by
    have shaped := wellFormed.shaped
    rw [StartOperation.Shaped, state] at shaped
    obtain ⟨-, -, running, result⟩ := shaped
    refine ⟨fun entry member => ?_, result⟩
    have accepted := (wellFormed.entries entry member).accepted (running entry member)
    exact ⟨running entry member, accepted.2⟩
  failed states := by
    have shaped := wellFormed.shaped
    have describes : ∀ entry ∈ intent.progress, entry.state.isFailed = true →
        intent.lastError = entry.lastError →
        decide (entry.state = .retryableFailed) = decide (intent.state = .retryableFailed) →
        ∃ entry ∈ intent.progress, ∃ failure, intent.lastError = some failure ∧
          entry.lastError = some failure ∧ failure.operationId = intent.operationId ∧
            failure.attempt = entry.attempt ∧
            failure.retryable = decide (intent.state = .retryableFailed) := by
      intro entry member isFailed last same
      obtain ⟨failure, stored, described⟩ := (wellFormed.entries entry member).failed isFailed
      exact ⟨entry, member, failure, last.trans stored, stored, described.operation,
        described.attempt, described.retryable.trans same⟩
    obtain state | state := states
    · rw [StartOperation.Shaped, state] at shaped
      obtain ⟨-, -, -, entry, member, failed, last, -⟩ := shaped
      exact describes entry member (by rw [failed]; rfl) last (by simp [failed, state])
    · rw [StartOperation.Shaped, state] at shaped
      obtain ⟨-, -, -, entry, member, failed, last⟩ := shaped
      exact describes entry member (by rw [failed]; rfl) last (by simp [failed, state])

/-- Every operation that is stored, at whatever step the runner and the requests are, is filed
    under its id and consistent. -/
theorem operations_consistent (reached : StartReaches stage)
    (found : stage.shared.intents.lookup id = some intent) :
    intent.operationId = id ∧ Consistent intent := by
  obtain ⟨named, wellFormed⟩ := reached.sound.filed found
  exact ⟨named, consistent_of_wellFormed wellFormed⟩

theorem operations_consistent_sample : ∃ intent,
    startedDesk.intents.lookup "start" = some intent ∧
      ∃ result, intent.result = some result ∧ result.operationId = "start" := by
  obtain ⟨intent, found, -, committed⟩ := started_committed
  obtain ⟨named, consistent⟩ := operations_consistent startedDesk_reached found
  obtain ⟨-, result, stored, same, -⟩ := consistent.committed committed
  exact ⟨intent, found, result, stored, same.trans named⟩

/-- An Agent is asked to start for an operation on one instance only when the stored intent says
    so: it is running, and its target is at that attempt, launched, and about to be asked. -/
theorem agents_asked_recorded (reached : StartReaches stage) {request : AgentRequest}
    (asked : request ∈ stage.shared.requested) :
    ∃ intent, request.stored = some intent ∧ (intent.isInstance = true →
      intent.operationId = request.operationId ∧ intent.state = .running ∧
        intent.targets = [request.instanceId] ∧
        (∃ entry, intent.progressOf request.instanceId = some entry ∧
          entry.stage = .agentRequested ∧ entry.attempt = request.attempt ∧
            entry.launchId.isSome = true) ∧
        1 ≤ request.attempt ∧ request.attempt ≤ 3) := by
  obtain ⟨intent, stored, recorded⟩ := reached.sound.recorded request asked
  refine ⟨intent, stored, fun single => ?_⟩
  have holds := recorded single
  exact ⟨holds.operationId, holds.running, holds.target, holds.entry, holds.attempts⟩

theorem agents_asked_recorded_sample : ∃ request ∈ startedDesk.requested,
    request.instanceId = "p" ∧ ∃ intent, request.stored = some intent ∧
      intent.isInstance = true ∧ intent.state = .running := by
  have asked : ∃ request ∈ startedDesk.requested, request.instanceId = "p" ∧
      request.stored.any (·.isInstance) = true := by decide +kernel
  obtain ⟨request, member, target, single⟩ := asked
  obtain ⟨intent, stored, recorded⟩ := agents_asked_recorded startedDesk_reached member
  rw [stored] at single
  exact ⟨request, member, target, intent, stored, single, (recorded single).2.1⟩

/-- A scan that returns leaves no operation on one instance behind: each that was stored when the
    scan began has ended, or a retry has sent it again since.  The scan itself counts only the
    first attempt of an operation, so attempts are compared with one at least, except before the
    first retry: an operation that failed before its first attempt was counted has one then. -/
theorem scan_settles {pool after : Pool (Option Nat) StartSurroundings StartDesk Fault Unit}
    (reached : StartReaches (.serving pool)) (begins : pool.calls none = some runPendingStarts)
    (during : Pool.During startService.outside startService.offered none pool after)
    (returned : after.calls none = some (.done (.ok ())))
    (found : pool.shared.intents.lookup id = some intent) (single : intent.isInstance = true) :
    ∃ intent', after.shared.intents.lookup id = some intent' ∧
      (intent'.state.isActive = false ∨
        intent'.lastRetry.isSome = true ∧ attemptsOf intent < attemptsOf intent' ∧
          (intent.lastRetry.isSome = true → max 1 (attemptsOf intent) < attemptsOf intent')) := by
  have kept : At id (Kept (attemptsOf intent)) pool.shared := ⟨intent, found, single, le_rfl⟩
  have within : (startConduct none).Within _ runPendingStarts pool.shared :=
    runPendingStarts_settles pool.shared ⟨reached.holds.1, kept⟩
  obtain ⟨-, thread, under, ends⟩ := start_verified.during reached.holds begins within during
  obtain rfl := Option.some.inj (under.symm.trans returned)
  obtain ⟨-, intent', found', -, -, ended | ⟨retried, more⟩⟩ :=
    ends after.shared (running.refl _)
  · exact ⟨intent', found', .inl ended⟩
  · refine ⟨intent', found', .inr ⟨retried, more, fun before => ?_⟩⟩
    have counted := (reached.holds.1.filed found).2.sent before
    rwa [max_eq_right counted]

/-- The scan that carries the start out. -/
theorem scan_settles_sample : ∃ intent, startedDesk.intents.lookup "start" = some intent ∧
    intent.state.isActive = false := by
  have stored : ∃ intent, queuedDesk.intents.lookup "start" = some intent ∧
      intent.isInstance = true := by decide +kernel
  have alone : ∃ intent, startedDesk.intents.lookup "start" = some intent ∧
      intent.lastRetry = none := by decide +kernel
  obtain ⟨intent, found, single⟩ := stored
  obtain ⟨last, foundLast, unsent⟩ := alone
  have begun : StartReaches (.serving (.only queuedDesk none runPendingStarts)) :=
    queuedDesk_reached.next (.pool (.call rfl scan_offered))
  have during : Pool.During startService.outside startService.offered none
      (.only queuedDesk none runPendingStarts) (.only startedDesk none (.done (.ok ()))) :=
    Pool.During.completes .first kindStart scanned_alone
  obtain ⟨ended, foundEnded, settled⟩ :=
    scan_settles begun Pool.only_calls during Pool.only_calls found single
  obtain rfl := Option.some.inj (foundLast.symm.trans foundEnded)
  obtain inactive | ⟨retried, -⟩ := settled
  · exact ⟨last, foundLast, inactive⟩
  · rw [unsent] at retried
    cases retried

end

end StartOperations

end DesignHarness
