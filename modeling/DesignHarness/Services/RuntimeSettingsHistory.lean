import DesignHarness.Services.RuntimeSagaSteps
import DesignHarness.Services.ConfigHistory

/-!
# Histories of the runtime settings

Drafts, confirmations, safe points, starts and recoveries in any order, each of them possibly
stopped at a write, while everything outside the settings service may change.  A confirmation that
meets no rival leaves the sagas of every instance exclusive; nothing in `confirm` looks for one.
-/

namespace DesignHarness

open Library

namespace RuntimeSettingsService

/-- The calls of the settings service. -/
inductive SettingsCall where
  | propose (ref : InstanceRef) (request : ProposalRequest)
  | confirm (proposalId : ProposalId) (envelope : CommandEnvelope)
  | applyPending (ref : InstanceRef)
  | ensureStart (ref : InstanceRef)
  | recover (listing : List ProposalId)

section

variable {Agent : Type}

def SettingsCall.script (now : Timestamp) (port : AgentPort Agent) :
    SettingsCall → SettingsScript Agent Unit
  | .propose ref request => do
      let _ ← RuntimeSettingsService.propose now port ref request
  | .confirm proposalId envelope => do
      let _ ← RuntimeSettingsService.confirm now port proposalId envelope
  | .applyPending ref => do
      let _ ← applyPendingIfSafe now port ref
  | .ensureStart ref => ensureBeforeStart now ref
  | .recover listing => RuntimeSettingsService.recover now port listing

/-- Something else than the settings service changed the disk. -/
structure Outside (disk later : SettingsDisk Agent) : Prop where
  files : later.files = disk.files
  receipts : later.receipts = disk.receipts
  proposals : later.proposals = disk.proposals
  sagas : later.sagas = disk.sagas

/-- No settings were drafted yet; an instance of the 1.0 format stands as number 1. -/
structure InitialSettings (disk : SettingsDisk Agent) : Prop where
  proposals : ∀ proposalId, disk.proposals proposalId = none
  sagas : disk.sagas = []
  legacy : ∀ ref legacy, (disk.files ref).legacy = some legacy →
    legacy.1.currentRevision = 1 ∧ legacy.2.manifest.sequence = 1

/-- A history of permitted calls, with the disks before the last one. -/
inductive SettingsRun (port : AgentPort Agent)
    (permitted : List (SettingsDisk Agent) → SettingsDisk Agent → SettingsCall → Prop) :
    List (SettingsDisk Agent) → SettingsDisk Agent → Prop
  | start {disk : SettingsDisk Agent} (initial : InitialSettings disk) :
      SettingsRun port permitted [] disk
  | call {history : List (SettingsDisk Agent)} {disk : SettingsDisk Agent} {call : SettingsCall}
      (before : SettingsRun port permitted history disk) (allowed : permitted history disk call)
      (now : Timestamp) (stop : Option (Nat × Bool)) :
      SettingsRun port permitted (disk :: history) ((call.script now port).upTo stop disk)
  | outside {history : List (SettingsDisk Agent)} {disk later : SettingsDisk Agent}
      (before : SettingsRun port permitted history disk) (same : Outside disk later) :
      SettingsRun port permitted (disk :: history) later

/-- A call that nothing interrupts. -/
theorem SettingsRun.issue {port : AgentPort Agent}
    {permitted : List (SettingsDisk Agent) → SettingsDisk Agent → SettingsCall → Prop}
    {history : List (SettingsDisk Agent)} {disk : SettingsDisk Agent} (call : SettingsCall)
    (now : Timestamp) (before : SettingsRun port permitted history disk)
    (allowed : permitted history disk call) :
    SettingsRun port permitted (disk :: history) ((call.script now port).upTo none disk) :=
  .call before allowed now none

/-- Of every instance one saga at most is unfinished, no revision is reserved twice, and
    `_pending_saga` never raises. -/
structure Exclusive (disk : SettingsDisk Agent) : Prop where
  single : ∀ saga ∈ disk.sagas, ∀ other ∈ disk.sagas, ∀ ref, saga.Touches ref →
    other.Touches ref → saga.state.terminal = false → other.state.terminal = false → saga = other
  distinct : ∀ saga ∈ disk.sagas, ∀ other ∈ disk.sagas, ∀ ref sequence,
    saga.Reserves ref sequence → other.Reserves ref sequence → saga = other
  pending : ∀ ref includeSync, ∃ found, pendingSaga ref includeSync disk = .ok found

/-- The proposal waits for its confirmation. -/
def Unconfirmed (disk : SettingsDisk Agent) (proposalId : ProposalId) : Prop :=
  ∃ proposal, disk.proposals proposalId = some proposal ∧ proposal.confirmation = none ∧
    sagaOf proposalId disk = none

/-- The saga was confirmed after the proposal was drafted. -/
def Overtakes (history : List (SettingsDisk Agent)) (proposalId : ProposalId) (saga : Saga) : Prop :=
  saga.proposalId ≠ proposalId ∧ ∃ earlier ∈ history,
    (earlier.proposals proposalId).isSome ∧ sagaOf saga.proposalId earlier = none

/-- A saga of the instance was confirmed after the proposal was drafted. -/
def Overtaken (history : List (SettingsDisk Agent)) (disk : SettingsDisk Agent)
    (proposalId : ProposalId) : Prop :=
  ∃ saga ∈ disk.sagas, saga.Touches proposalId.owner ∧ Overtakes history proposalId saga

/-- A first confirmation of a draft whose base is current: no other saga was confirmed on the
    instance since the draft, and no rival is in the way. -/
def Permitted (history : List (SettingsDisk Agent)) (disk : SettingsDisk Agent) :
    SettingsCall → Prop
  | .confirm proposalId _ =>
      ∀ proposal, disk.proposals proposalId = some proposal → proposal.confirmation = none →
        sagaOf proposalId disk = none → BaseCurrent disk proposalId proposal →
          ¬ Overtaken history disk proposalId ∧
            ∀ ref ∈ draftRefs proposalId proposal, Unrivalled disk ref
  | _ => True

/-- The script raises before its first write. -/
def Rejected {α : Type} (disk : SettingsDisk Agent) (script : SettingsScript Agent α) : Prop :=
  (script disk).writes = [] ∧ ∃ error, (script disk).outcome = .error error

namespace Rejected

variable {α β : Type} {disk : SettingsDisk Agent} {script : SettingsScript Agent α}
  {next : α → SettingsScript Agent β}

theorem raise {error : Raised} : Rejected disk (Script.raise error : SettingsScript Agent α) :=
  ⟨rfl, error, rfl⟩

theorem look {f : SettingsDisk Agent → α} (rest : Rejected disk (next (f disk))) :
    Rejected disk (Script.read f >>= next) := rest

theorem check {outcome : Outcome α} (rest : ∀ value, outcome = .ok value → Rejected disk (next value)) :
    Rejected disk (Script.lift outcome >>= next) := by
  cases outcome with
  | ok value => exact rest value rfl
  | error error => exact ⟨rfl, error, rfl⟩

theorem bind (first : Rejected disk script) : Rejected disk (script >>= next) := by
  obtain ⟨quiet, error, raised⟩ := first
  rcases ran : script disk with ⟨writes, outcome⟩
  rw [ran] at quiet raised
  change writes = [] at quiet
  change outcome = .error error at raised
  subst quiet raised
  have whole : (script >>= next) disk = ⟨[], .error error⟩ := by
    change Script.bind script next disk = _
    unfold Script.bind
    rw [ran]
  rw [Rejected, whole]
  exact ⟨rfl, error, rfl⟩

end Rejected

variable {history : List (SettingsDisk Agent)} {disk : SettingsDisk Agent}
  {port : AgentPort Agent}

/-- `confirm` refuses a draft whose base is not current any more. -/
theorem confirm_rejected {proposalId : ProposalId} {proposal : Proposal} (now : Timestamp)
    (envelope : CommandEnvelope) (found : disk.proposals proposalId = some proposal)
    (given : proposal.confirmation = none) (absent : sagaOf proposalId disk = none)
    (stale : ¬ BaseCurrent disk proposalId proposal) :
    Rejected disk (confirm now port proposalId envelope) := by
  unfold confirm
  refine Rejected.check fun _ _ => Rejected.bind ?_
  unfold confirmLocked
  refine Rejected.look ?_
  rw [found]
  dsimp only
  rw [given]
  refine Rejected.look ?_
  rw [absent]
  refine Rejected.bind ?_
  unfold newSaga
  refine Rejected.look (Rejected.check fun _ _ => Rejected.look (Rejected.check fun _ _ => ?_))
  refine Rejected.look (Rejected.check fun current read => ?_)
  cases current with
  | none => exact Rejected.raise
  | some current =>
      refine Rejected.check fun _ _ => Rejected.check fun _ based => ?_
      exact absurd ⟨current, read, based⟩ stale

/-! ## Every history -/

theorem SettingsCall.keeping (kept : Kept history disk) (now : Timestamp) {call : SettingsCall}
    (admitted : ∀ proposalId envelope, call = .confirm proposalId envelope →
      Admitted disk proposalId) :
    Keeping history disk (call.script now port) unsaid := by
  cases call with
  | propose ref request =>
      refine Keeping.bind (propose_keeping kept ref request) ?_
      exact fun _ _ kept _ => Keeping.pure kept trivial
  | confirm proposalId envelope =>
      refine Keeping.bind (confirm_keeping kept (admitted proposalId envelope rfl) envelope) ?_
      exact fun _ _ kept _ => Keeping.pure kept trivial
  | applyPending ref =>
      refine Keeping.bind (applyPendingIfSafe_keeping kept ref) ?_
      exact fun _ _ kept _ => Keeping.pure kept trivial
  | ensureStart ref => exact ensureBeforeStart_keeping kept ref
  | recover listing => exact recover_keeping kept listing

theorem Outside.calm {later : SettingsDisk Agent} (same : Outside disk later) :
    Calm disk later where
  sagas := same.sagas
  proposals := same.proposals
  files ref := by
    rw [same.files]
    exact Moved.refl _

theorem InitialSettings.sound (initial : InitialSettings disk) : SoundSettings disk where
  keyed := by
    rw [initial.sagas]
    exact List.nodup_nil
  fits := by
    rw [initial.sagas]
    exact fun _ member => absurd member List.not_mem_nil
  confirmed := by
    rw [initial.sagas]
    exact fun _ member => absurd member List.not_mem_nil
  single := by
    rw [initial.sagas]
    exact fun _ member => absurd member List.not_mem_nil
  distinct := by
    rw [initial.sagas]
    exact fun _ member => absurd member List.not_mem_nil
  drafted := by
    intro proposalId proposal found
    rw [initial.proposals] at found
    cases found
  legacy := initial.legacy

/-- The disk before a call joins the history. -/
theorem Kept.remember (kept : Kept history disk) : Kept (disk :: history) disk where
  sound := kept.sound
  later earlier member := by
    obtain rfl | member := List.mem_cons.mp member
    · exact Later.refl earlier
    · exact kept.later earlier member

theorem SettingsRun.kept (run : SettingsRun port Permitted history disk) :
    Kept history disk ∧ ∀ earlier ∈ history, SoundSettings earlier := by
  induction run with
  | start initial =>
      refine ⟨⟨initial.sound, ?_⟩, ?_⟩
      · exact fun _ member => absurd member List.not_mem_nil
      · exact fun _ member => absurd member List.not_mem_nil
  | call before allowed now stop ih =>
      obtain ⟨kept, sounds⟩ := ih
      refine ⟨(SettingsCall.keeping kept.remember now ?_).upTo stop, ?_⟩
      · rintro proposalId envelope rfl proposal found given absent current
        exact (allowed proposal found given absent current).2
      · exact List.forall_mem_cons.mpr ⟨kept.sound, sounds⟩
  | outside before same ih =>
      obtain ⟨kept, sounds⟩ := ih
      exact ⟨kept.remember.calm same.calm, List.forall_mem_cons.mpr ⟨kept.sound, sounds⟩⟩

theorem SoundSettings.exclusive (sound : SoundSettings disk) : Exclusive disk where
  single := sound.single
  distinct := sound.distinct
  pending := by
    intro ref includeSync
    have unique : (unfinished ref includeSync disk).Nodup :=
      List.Nodup.filter _ (List.Nodup.filter _ (List.Nodup.of_map _ sound.keyed))
    have touches : ∀ saga ∈ unfinished ref includeSync disk,
        saga ∈ disk.sagas ∧ saga.Touches ref ∧ saga.state.terminal = false := by
      intro saga member
      obtain ⟨stored, mine, running⟩ := mem_unfinished.mp member
      exact ⟨stored, mine.imp id And.right, running⟩
    unfold pendingSaga
    match listed : unfinished ref includeSync disk with
    | [] => exact ⟨none, rfl⟩
    | [saga] => exact ⟨some saga, rfl⟩
    | first :: second :: rest =>
        rw [listed] at unique touches
        obtain ⟨firstStored, firstTouches, firstOpen⟩ := touches first List.mem_cons_self
        obtain ⟨secondStored, secondTouches, secondOpen⟩ :=
          touches second (List.mem_cons_of_mem _ List.mem_cons_self)
        have same := sound.single first firstStored second secondStored ref firstTouches
          secondTouches firstOpen secondOpen
        subst same
        exact absurd List.mem_cons_self (List.nodup_cons.mp unique).1

/-- A saga that was applied has moved its instance past every draft that it overtook. -/
theorem Kept.stale {proposalId : ProposalId} {proposal : Proposal} {saga : Saga}
    (kept : Kept history disk) (sounds : ∀ earlier ∈ history, SoundSettings earlier)
    (member : saga ∈ disk.sagas) (owner : saga.proposalId.owner = proposalId.owner)
    (applied : saga.state = .applied) (overtakes : Overtakes history proposalId saga)
    (found : disk.proposals proposalId = some proposal) :
    ¬ BaseCurrent disk proposalId proposal := by
  rintro ⟨current, read, based⟩
  obtain ⟨-, earlier, before, drafted, absent⟩ := overtakes
  obtain ⟨original, stored⟩ := Option.isSome_iff_exists.mp drafted
  have after := kept.later earlier before
  obtain ⟨present, still, unchanged⟩ := after.proposals proposalId original stored
  obtain rfl := Option.some.inj (found.symm.trans still)
  have base := ((sounds earlier before).drafted proposalId original stored).base
  have created := after.sagas saga member absent
  have passed := (kept.sound.fits saga member).passed applied
  have identity := congrArg ConfigIdentity.stateRevision (ensure_eq_ok.mp based)
  have settled := readCurrent_settled read
  change current.state.revision = proposal.request.baseRevision at identity
  unfold Passed at passed
  rw [owner] at created passed
  rw [unchanged] at identity
  omega

/-- In every history of permitted confirmations the sagas of every instance are exclusive, a
    permitted confirmation of a draft that another saga overtook is refused, and so is every
    confirmation of a draft of an instance whose settings were applied since. -/
theorem settings_exclusive (run : SettingsRun port Permitted history disk) :
    Exclusive disk ∧
      (∀ proposalId envelope now, Unconfirmed disk proposalId →
        Overtaken history disk proposalId →
          Permitted history disk (.confirm proposalId envelope) →
            Rejected disk (confirm now port proposalId envelope)) ∧
      ∀ proposalId envelope now, Unconfirmed disk proposalId → ∀ saga ∈ disk.sagas,
        saga.proposalId.owner = proposalId.owner → saga.state = .applied →
          Overtakes history proposalId saga →
            Rejected disk (confirm now port proposalId envelope) := by
  obtain ⟨kept, sounds⟩ := run.kept
  refine ⟨kept.sound.exclusive, ?_, ?_⟩
  · rintro proposalId envelope now ⟨proposal, found, given, absent⟩ overtaken permitted
    refine confirm_rejected now envelope found given absent ?_
    intro current
    exact (permitted proposal found given absent current).1 overtaken
  · rintro proposalId envelope now ⟨proposal, found, given, absent⟩ saga member owner applied
      overtakes
    refine confirm_rejected now envelope found given absent ?_
    exact kept.stale sounds member owner applied overtakes found

end

/-! ## Two drafts -/

def sampleText : ModelDefinition where
  id := "text"
  label := "Text"
  provider := "ark"
  model := "text-1"
  capabilities := ["structured_output"]
  parameters := []

def sampleVision : ModelDefinition where
  id := "vision"
  label := "Vision"
  provider := "ark"
  model := "vision-1"
  capabilities := ["image_input"]
  parameters := []

def sampleImage : ModelDefinition where
  id := "image"
  label := "Image"
  provider := "ark"
  model := "image-1"
  capabilities := ["text_to_image"]
  parameters := []

/-- A deployment whose models cover every workflow state. -/
def modelledConfig : ConfigSnapshot :=
  { sampleConfig with modelList := ⟨[sampleText], [sampleVision], [sampleImage]⟩ }

def sampleTaskRevision : TaskConfigRevision where
  sequence := 1
  parent := none
  sourceSystemRevision := "cfg_1"
  providerIds := ["ark"]
  modelList := modelledConfig.modelList
  runtime := modelledConfig.runtime
  createdBy := ⟨.system, "task_config"⟩
  createdAt := "2026-08-25T03:00:00.000000Z"

/-- An Agent is the boundary that it reports; it takes every revision at once. -/
def samplePort : AgentPort Boundary where
  getStatus boundary := .ok ⟨.running, some boundary.state, some boundary⟩
  applyRevision request boundary :=
    ({ boundary with
        runtimeConfigRevision := some request.revision
        runtimeConfigHash := some request.expectedConfigHash
        branchId := some "branch_2" },
      .ok ⟨request.revision, request.fromCheckpoint, request.effectiveFromState,
        request.expectedConfigHash, "branch_2", "checkpoint_2"⟩)

/-- An Agent in the middle of a job. -/
def busyBoundary : Boundary where
  state := "self_check_inspection"
  checkpointId := none
  safeNow := false
  reason := some "ACTIVE_JOB"

def sampleRef : InstanceRef := ⟨"task_1", "image_1"⟩

def sampleBundle : InstanceBundle :=
  match buildBundle (some modelledConfig) sampleTaskRevision {} false
    ⟨⟨.system, "image_config_materializer"⟩, "2026-08-25T03:00:01.000000Z", none⟩ with
  | .ok bundle => bundle
  | .error _ =>
      ⟨⟨0, none, 0, {}, ⟨.onDemand, 0, 0, .off, .off, 0, "", .url, false, ⟨.fix, 0, 0, false⟩⟩, [],
        ⟨.system, ""⟩, "", none, .beforeStart, .draft, none, none, none⟩,
        ⟨.onDemand, 0, 0, .off, .off, 0, "", .url, false, ⟨.fix, 0, 0, false⟩⟩, ⟨"", []⟩⟩

/-- A running Image instance with its first revision. -/
def runningSettings : SettingsDisk Boundary where
  taskRevisions _ := 3
  taskConfigs _ := .ok sampleTaskRevision
  process := some modelledConfig
  plans _ := some ["image_1"]
  instances _ := some
    { status := .running
      agentType := .image
      hasProcess := true
      hasLaunch := true
      hasStartIntent := true
      configRevision := 1 }
  agents _ := busyBoundary
  files _ :=
    { state := some ⟨1, none, 1, "2026-08-25T03:00:01.000000Z", "2026-08-25T03:00:01.000000Z"⟩
      slots := AList.insert 1 sampleBundle ∅ }
  receipts _ _ := none
  proposals _ := none
  sagas := []

def sampleEnvelope (key : String) : CommandEnvelope := ⟨key, .human, "user_1", 3⟩

/-- A proposal to use fewer candidates at once. -/
def sampleRequest (key : String) (candidates : Nat) : ProposalRequest where
  baseRevision := 1
  patch := { candidateConcurrency := some (some candidates) }
  syncUnstarted := false
  expectedSync := []
  envelope := sampleEnvelope key

def firstDraft : SettingsDisk Boundary :=
  ((SettingsCall.propose sampleRef (sampleRequest "draft-1" 1)).script
    "2026-08-25T03:01:00.000000Z" samplePort).upTo none runningSettings

def secondDraft : SettingsDisk Boundary :=
  ((SettingsCall.propose sampleRef (sampleRequest "draft-2" 3)).script
    "2026-08-25T03:02:00.000000Z" samplePort).upTo none firstDraft

def firstConfirmed : SettingsDisk Boundary :=
  ((SettingsCall.confirm ⟨sampleRef, "draft-1"⟩ (sampleEnvelope "confirm-1")).script
    "2026-08-25T03:03:00.000000Z" samplePort).upTo none secondDraft

def secondConfirmed : SettingsDisk Boundary :=
  ((SettingsCall.confirm ⟨sampleRef, "draft-2"⟩ (sampleEnvelope "confirm-2")).script
    "2026-08-25T03:04:00.000000Z" samplePort).upTo none firstConfirmed

theorem runningSettings_initial : InitialSettings runningSettings where
  proposals _ := rfl
  sagas := rfl
  legacy _ _ stored := by cases stored

/-- Nothing stands in the way of the first confirmation. -/
theorem settings_exclusive_confirmed :
    (unfinished sampleRef true firstConfirmed).length = 1 ∧ Exclusive firstConfirmed := by
  refine ⟨by decide +kernel, ?_⟩
  have drafts : SettingsRun samplePort Permitted [firstDraft, runningSettings] secondDraft :=
    .issue (.propose sampleRef (sampleRequest "draft-2" 3)) "2026-08-25T03:02:00.000000Z"
      (.issue (.propose sampleRef (sampleRequest "draft-1" 1)) "2026-08-25T03:01:00.000000Z"
        (.start runningSettings_initial) trivial) trivial
  have empty : secondDraft.sagas = [] := by decide +kernel
  refine (settings_exclusive (SettingsRun.issue (.confirm ⟨sampleRef, "draft-1"⟩
    (sampleEnvelope "confirm-1")) "2026-08-25T03:03:00.000000Z" drafts ?_)).1
  intro proposal _ _ _ _
  constructor
  · rintro ⟨saga, member, -⟩
    rw [empty] at member
    cases member
  · intro ref _ saga member
    rw [empty] at member
    cases member

/-- Two drafts on one base, both confirmed while the Agent is at work: the second confirmation
    persists its saga before it raises, and every later call for the instance raises. -/
theorem settings_wedged :
    SettingsRun samplePort (fun _ _ _ => True)
        [firstConfirmed, secondDraft, firstDraft, runningSettings] secondConfirmed ∧
      ¬ Exclusive secondConfirmed ∧
      pendingSaga sampleRef true secondConfirmed = .error multipleSagas ∧
      secondConfirmed.sagas.map (fun saga => saga.source.revision) = [2, 2] := by
  have wedged : pendingSaga sampleRef true secondConfirmed = .error multipleSagas := by
    decide +kernel
  refine ⟨?_, ?_, wedged, by decide +kernel⟩
  · exact .issue (.confirm ⟨sampleRef, "draft-2"⟩ (sampleEnvelope "confirm-2"))
      "2026-08-25T03:04:00.000000Z"
      (.issue (.confirm ⟨sampleRef, "draft-1"⟩ (sampleEnvelope "confirm-1"))
        "2026-08-25T03:03:00.000000Z"
        (.issue (.propose sampleRef (sampleRequest "draft-2" 3)) "2026-08-25T03:02:00.000000Z"
          (.issue (.propose sampleRef (sampleRequest "draft-1" 1)) "2026-08-25T03:01:00.000000Z"
            (.start runningSettings_initial) trivial) trivial) trivial) trivial
  · intro exclusive
    obtain ⟨found, read⟩ := exclusive.pending sampleRef true
    rw [wedged] at read
    cases read

end RuntimeSettingsService

end DesignHarness
