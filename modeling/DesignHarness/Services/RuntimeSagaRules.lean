import DesignHarness.Services.RuntimeSettingsRules

/-!
# What a settings saga keeps

A saga keeps its reservations from its first write to its last (`Saga.core`).  `SoundSettings` is
the invariant of the service: of every instance one saga at most is unfinished, and two sagas never
reserve the same revision.  A script that carries an unfinished saga (`Carried`) keeps it.
-/

namespace DesignHarness

open Library

/-! ## Reservations -/

/-- What of a target never changes. -/
def SagaTarget.core (target : SagaTarget) : Identifier × ConfigIdentity × Nat :=
  (target.instanceId, target.base, target.revision)

namespace Saga

variable {saga other : Saga} {ref : InstanceRef}

/-- What of a saga never changes. -/
def core (saga : Saga) :
    ProposalId × (Identifier × ConfigIdentity × Nat) × List (Identifier × ConfigIdentity × Nat) :=
  (saga.proposalId, saga.source.core, saga.syncTargets.map SagaTarget.core)

/-- The instance is the source of the saga, or one of its targets. -/
def Touches (saga : Saga) (ref : InstanceRef) : Prop := saga.owns ref = true ∨ saga.syncs ref = true

instance (saga : Saga) (ref : InstanceRef) : Decidable (saga.Touches ref) :=
  inferInstanceAs (Decidable (_ ∨ _))

/-- The saga reserves the revision for the instance. -/
def Reserves (saga : Saga) (ref : InstanceRef) (sequence : Nat) : Prop :=
  ∃ target ∈ saga.targets, saga.refOf target = ref ∧ target.revision = sequence

theorem core_proposalId (same : saga.core = other.core) : saga.proposalId = other.proposalId :=
  congrArg Prod.fst same

theorem core_source (same : saga.core = other.core) : saga.source.core = other.source.core :=
  congrArg (·.2.1) same

theorem core_targets (same : saga.core = other.core) :
    saga.targets.map SagaTarget.core = other.targets.map SagaTarget.core := by
  unfold targets
  rw [List.map_cons, List.map_cons, core_source same]
  exact congrArg _ (congrArg (·.2.2) same)

theorem core_base (same : saga.core = other.core) : saga.source.base = other.source.base :=
  congrArg (·.2.1) (core_source same)

theorem core_touches (same : saga.core = other.core) (touches : saga.Touches ref) :
    other.Touches ref := by
  have named := core_proposalId same
  obtain owned | synced := touches
  · left
    unfold owns at owned ⊢
    rwa [← named]
  · right
    unfold syncs taskId at synced ⊢
    have cores : saga.syncTargets.map SagaTarget.core = other.syncTargets.map SagaTarget.core :=
      congrArg (·.2.2) same
    have ids := congrArg (List.map (·.1)) cores
    simp only [List.map_map] at ids
    have everyone : ∀ targets : List SagaTarget,
        targets.any (·.instanceId == ref.instanceId) =
          (targets.map ((·.1) ∘ SagaTarget.core)).any (· == ref.instanceId) := by
      intro targets
      rw [List.any_map]
      rfl
    rw [everyone] at synced ⊢
    rwa [← named, ← ids]

theorem core_reserves {sequence : Nat} (same : saga.core = other.core)
    (reserves : saga.Reserves ref sequence) : other.Reserves ref sequence := by
  obtain ⟨target, member, placed, reserved⟩ := reserves
  have found : target.core ∈ other.targets.map SagaTarget.core := by
    rw [← core_targets same]
    exact List.mem_map_of_mem member
  obtain ⟨counterpart, counted, alike⟩ := List.mem_map.mp found
  refine ⟨counterpart, counted, ?_, (congrArg (·.2.2) alike).trans reserved⟩
  have instanceId : counterpart.instanceId = target.instanceId := congrArg (·.1) alike
  unfold refOf taskId at placed ⊢
  rwa [instanceId, ← core_proposalId same]

/-- A target at its position is replaced by the same target further on. -/
theorem setTarget_core {position : TargetPosition} {old : SagaTarget} (target : SagaTarget)
    (found : saga.target? position = some old) (same : target.core = old.core) :
    (saga.setTarget target position).core = saga.core := by
  cases position with
  | source =>
      obtain rfl := Option.some.inj found
      unfold core setTarget
      rw [same]
  | sync index =>
      have present : saga.syncTargets[index]? = some old := found
      have kept : (saga.syncTargets.set index target).map SagaTarget.core =
          saga.syncTargets.map SagaTarget.core := by
        rw [List.map_set, same]
        refine List.ext_getElem? ?_
        intro place
        by_cases here : index = place
        · subst here
          have bound : index < saga.syncTargets.length := by
            obtain ⟨bound, -⟩ := List.getElem?_eq_some_iff.mp present
            exact bound
          rw [List.getElem?_set_self (by rwa [List.length_map]), List.getElem?_map, present]
          rfl
        · rw [List.getElem?_set_ne here]
      unfold core setTarget
      rw [kept]

theorem setTarget_target {position : TargetPosition} {old target : SagaTarget}
    (found : saga.target? position = some old) :
    (saga.setTarget target position).target? position = some target := by
  cases position with
  | source => rfl
  | sync index =>
      have present : saga.syncTargets[index]? = some old := found
      obtain ⟨bound, -⟩ := List.getElem?_eq_some_iff.mp present
      exact List.getElem?_set_self bound

@[simp] theorem setTarget_state {position : TargetPosition} {target : SagaTarget} :
    (saga.setTarget target position).state = saga.state := by
  cases position <;> rfl

@[simp] theorem setTarget_proposalId {position : TargetPosition} {target : SagaTarget} :
    (saga.setTarget target position).proposalId = saga.proposalId := by
  cases position <;> rfl

end Saga

section

variable {saga other : Saga} {sagas : List Saga}

theorem mem_putSaga_self (saga : Saga) (sagas : List Saga) : saga ∈ putSaga saga sagas := by
  induction sagas with
  | nil => exact List.mem_singleton_self saga
  | cons first rest ih =>
      unfold putSaga
      split
      · exact List.mem_cons_self
      · exact List.mem_cons_of_mem _ ih

theorem putSaga_keys (saga : Saga) (sagas : List Saga) :
    (putSaga saga sagas).map Saga.proposalId =
      if saga.proposalId ∈ sagas.map Saga.proposalId then sagas.map Saga.proposalId
      else sagas.map Saga.proposalId ++ [saga.proposalId] := by
  induction sagas with
  | nil => rfl
  | cons first rest ih =>
      by_cases same : first.proposalId = saga.proposalId
      · simp [putSaga, same]
      · have apart : saga.proposalId ≠ first.proposalId := fun equal => same equal.symm
        simp only [putSaga, if_neg same, List.map_cons, ih, List.mem_cons, apart, false_or]
        split
        · rfl
        · rfl

theorem putSaga_keyed (keyed : (sagas.map Saga.proposalId).Nodup) :
    ((putSaga saga sagas).map Saga.proposalId).Nodup := by
  rw [putSaga_keys]
  split
  · exact keyed
  · next fresh => exact List.nodup_append.mpr ⟨keyed, List.nodup_singleton _, by
      intro id member last found
      obtain rfl := List.mem_singleton.mp found
      exact fun same => fresh (same ▸ member)⟩

/-- What a directory holds after a write. -/
theorem mem_putSaga (keyed : (sagas.map Saga.proposalId).Nodup) (member : other ∈ putSaga saga sagas) :
    other = saga ∨ other ∈ sagas ∧ other.proposalId ≠ saga.proposalId := by
  induction sagas with
  | nil => exact .inl (List.mem_singleton.mp member)
  | cons first rest ih =>
      obtain ⟨fresh, keyed⟩ := List.nodup_cons.mp keyed
      unfold putSaga at member
      split at member
      · next same =>
          obtain here | later := List.mem_cons.mp member
          · exact .inl here
          · refine .inr ⟨List.mem_cons_of_mem _ later, ?_⟩
            intro twin
            exact fresh (List.mem_map.mpr ⟨other, later, twin.trans same.symm⟩)
      · next different =>
          obtain rfl | later := List.mem_cons.mp member
          · exact .inr ⟨List.mem_cons_self, different⟩
          · obtain here | ⟨old, apart⟩ := ih keyed later
            · exact .inl here
            · exact .inr ⟨List.mem_cons_of_mem _ old, apart⟩

end

namespace RuntimeSettingsService

section

variable {Agent : Type}

theorem sagaOf_some {proposalId : ProposalId} {disk : SettingsDisk Agent} {saga : Saga}
    (found : sagaOf proposalId disk = some saga) :
    saga ∈ disk.sagas ∧ saga.proposalId = proposalId :=
  ⟨List.mem_of_find?_eq_some found, by simpa using List.find?_some found⟩

theorem sagaOf_none {proposalId : ProposalId} {disk : SettingsDisk Agent} :
    sagaOf proposalId disk = none ↔ ∀ saga ∈ disk.sagas, saga.proposalId ≠ proposalId := by
  simp [sagaOf]

/-- The base of a target is behind the state of its instance, or the state is the base and points
    elsewhere. -/
structure Behind (files : InstanceConfigFiles) (target : SagaTarget) : Prop where
  reached : target.base.stateRevision ≤ settledNumber files
  unmoved : settledNumber files = target.base.stateRevision →
    (pointerState files).map InstanceConfigState.currentRevision ≠ some target.revision

/-- The state of the source has moved past the base of the saga. -/
def Passed (disk : SettingsDisk Agent) (saga : Saga) : Prop :=
  saga.source.base.stateRevision < settledNumber (disk.files saga.proposalId.owner)

/-- A saga that fits the disk. -/
structure SagaFits (disk : SettingsDisk Agent) (saga : Saga) : Prop where
  owned : saga.source.instanceId = saga.proposalId.owner.instanceId
  behind : Behind (disk.files saga.proposalId.owner) saga.source
  marked : saga.source.state = .applied → Passed disk saga
  passed : saga.state = .applied → Passed disk saga
  bundled : ∀ bundle, saga.source.bundle = some bundle →
    bundle.manifest.sequence = saga.source.revision

/-- The proposal is confirmed. -/
def Confirmed (disk : SettingsDisk Agent) (proposalId : ProposalId) : Prop :=
  ∃ proposal, disk.proposals proposalId = some proposal ∧ proposal.confirmation.isSome

/-- A proposal was drafted at a state of its instance, and its targets have one. -/
structure Drafted (disk : SettingsDisk Agent) (proposalId : ProposalId) (proposal : Proposal) :
    Prop where
  base : proposal.request.baseRevision ≤ settledNumber (disk.files proposalId.owner)
  targets : ∀ instanceId ∈ proposal.syncInstanceIds,
    (pointerState (disk.files ⟨proposalId.owner.taskId, instanceId⟩)).isSome

/-- The invariant of the service. -/
structure SoundSettings (disk : SettingsDisk Agent) : Prop where
  keyed : (disk.sagas.map Saga.proposalId).Nodup
  fits : ∀ saga ∈ disk.sagas, SagaFits disk saga
  confirmed : ∀ saga ∈ disk.sagas, saga.state ≠ .intentPersisted → Confirmed disk saga.proposalId
  single : ∀ saga ∈ disk.sagas, ∀ other ∈ disk.sagas, ∀ ref, saga.Touches ref →
    other.Touches ref → saga.state.terminal = false → other.state.terminal = false → saga = other
  distinct : ∀ saga ∈ disk.sagas, ∀ other ∈ disk.sagas, ∀ ref sequence,
    saga.Reserves ref sequence → other.Reserves ref sequence → saga = other
  drafted : ∀ proposalId proposal, disk.proposals proposalId = some proposal →
    Drafted disk proposalId proposal
  legacy : ∀ ref legacy, (disk.files ref).legacy = some legacy →
    legacy.1.currentRevision = 1 ∧ legacy.2.manifest.sequence = 1

/-- What holds of a disk and one that is reached from it. -/
structure Later (earlier disk : SettingsDisk Agent) : Prop where
  files : ∀ ref, settledNumber (earlier.files ref) ≤ settledNumber (disk.files ref)
  proposals : ∀ proposalId proposal, earlier.proposals proposalId = some proposal →
    ∃ kept, disk.proposals proposalId = some kept ∧ kept.request = proposal.request
  sagas : ∀ saga ∈ disk.sagas, sagaOf saga.proposalId earlier = none →
    settledNumber (earlier.files saga.proposalId.owner) ≤ saga.source.base.stateRevision

/-- The invariant, with what holds of the disks that were before. -/
structure Kept (history : List (SettingsDisk Agent)) (disk : SettingsDisk Agent) : Prop where
  sound : SoundSettings disk
  later : ∀ earlier ∈ history, Later earlier disk

/-- A saga that a script carries: the stored one reserves the same, and is not finished. -/
structure Carried (history : List (SettingsDisk Agent)) (disk : SettingsDisk Agent) (saga : Saga) :
    Prop where
  kept : Kept history disk
  fits : SagaFits disk saga
  confirmed : Confirmed disk saga.proposalId
  unfinished : saga.state.terminal = false
  stored : ∃ stored ∈ disk.sagas, stored.core = saga.core ∧ stored.state.terminal = false

variable {history : List (SettingsDisk Agent)} {disk later : SettingsDisk Agent} {saga : Saga}

theorem Behind.moved {before after : InstanceConfigFiles} {target : SagaTarget}
    (behind : Behind before target) (moved : Moved before after) : Behind after target := by
  refine ⟨behind.reached.trans moved.settled, ?_⟩
  intro still
  obtain same | larger := moved.state
  · rw [same]
    refine behind.unmoved ?_
    rw [← still]
    exact congrArg (Option.elim · 0 InstanceConfigState.revision) same.symm
  · have reached := behind.reached
    omega

theorem Passed.moved (moves : ∀ ref, Moved (disk.files ref) (later.files ref))
    (passed : Passed disk saga) : Passed later saga :=
  lt_of_lt_of_le passed (moves _).settled

theorem SagaFits.moved (moves : ∀ ref, Moved (disk.files ref) (later.files ref))
    (fits : SagaFits disk saga) : SagaFits later saga where
  owned := fits.owned
  behind := fits.behind.moved (moves _)
  marked applied := (fits.marked applied).moved moves
  passed applied := (fits.passed applied).moved moves
  bundled := fits.bundled

theorem Drafted.moved {proposalId : ProposalId} {proposal : Proposal}
    (moves : ∀ ref, Moved (disk.files ref) (later.files ref))
    (drafted : Drafted disk proposalId proposal) : Drafted later proposalId proposal where
  base := drafted.base.trans (moves _).settled
  targets instanceId member := (moves _).present (drafted.targets instanceId member)

theorem Calm.confirmed {proposalId : ProposalId} (calm : Calm disk later)
    (confirmed : Confirmed disk proposalId) : Confirmed later proposalId := by
  unfold Confirmed
  rwa [calm.proposals]

theorem Calm.sound (calm : Calm disk later) (sound : SoundSettings disk) :
    SoundSettings later where
  keyed := by
    rw [calm.sagas]
    exact sound.keyed
  fits := by
    intro saga member
    rw [calm.sagas] at member
    exact (sound.fits saga member).moved calm.files
  confirmed := by
    intro saga member begun
    rw [calm.sagas] at member
    exact calm.confirmed (sound.confirmed saga member begun)
  single := by
    rw [calm.sagas]
    exact sound.single
  distinct := by
    rw [calm.sagas]
    exact sound.distinct
  drafted := by
    intro proposalId proposal found
    rw [calm.proposals] at found
    exact (sound.drafted proposalId proposal found).moved calm.files
  legacy := by
    intro ref legacy found
    rw [(calm.files ref).legacy] at found
    exact sound.legacy ref legacy found

theorem Later.refl (disk : SettingsDisk Agent) : Later disk disk where
  files _ := le_refl _
  proposals _ proposal found := ⟨proposal, found, rfl⟩
  sagas saga member absent := absurd rfl (sagaOf_none.mp absent saga member)

theorem Later.calm {earlier : SettingsDisk Agent} (after : Later earlier disk)
    (calm : Calm disk later) : Later earlier later where
  files ref := (after.files ref).trans (calm.files ref).settled
  proposals := by
    rw [calm.proposals]
    exact after.proposals
  sagas := by
    rw [calm.sagas]
    exact after.sagas

theorem Kept.calm (kept : Kept history disk) (calm : Calm disk later) : Kept history later where
  sound := calm.sound kept.sound
  later earlier member := (kept.later earlier member).calm calm

theorem Carried.calm (carried : Carried history disk saga) (calm : Calm disk later) :
    Carried history later saga where
  kept := carried.kept.calm calm
  fits := carried.fits.moved calm.files
  confirmed := calm.confirmed carried.confirmed
  unfinished := carried.unfinished
  stored := by
    rw [calm.sagas]
    exact carried.stored

/-! ## Writing a saga -/

namespace Carried

variable (next : Saga)

theorem put (carried : Carried history disk saga) (same : next.core = saga.core)
    (fits : SagaFits disk next) :
    Kept history (Disk.apply disk (SettingsWrite.saga next : SettingsWrite Agent)) := by
  obtain ⟨stored, member, alike, unfinished⟩ := carried.stored
  have sound := carried.kept.sound
  have named : stored.proposalId = next.proposalId :=
    Saga.core_proposalId (alike.trans same.symm)
  have twin : stored.core = next.core := alike.trans same.symm
  -- What holds of the stored saga and another one holds of the next one and the other.
  have apart : ∀ other ∈ disk.sagas, other.proposalId ≠ next.proposalId → stored ≠ other := by
    rintro other - different rfl
    exact different named
  constructor
  case sound =>
    constructor
    case keyed => exact putSaga_keyed sound.keyed
    case fits =>
      intro other written
      obtain rfl | ⟨old, -⟩ := mem_putSaga sound.keyed written
      · exact fits.moved fun ref => Moved.refl (disk.files ref)
      · exact (sound.fits other old).moved fun ref => Moved.refl (disk.files ref)
    case confirmed =>
      intro other written begun
      obtain rfl | ⟨old, -⟩ := mem_putSaga sound.keyed written
      · have confirmed := carried.confirmed
        rwa [← Saga.core_proposalId same] at confirmed
      · exact sound.confirmed other old begun
    case single =>
      intro first firstMember second secondMember ref firstTouches secondTouches firstOpen
        secondOpen
      obtain rfl | ⟨firstOld, firstApart⟩ := mem_putSaga sound.keyed firstMember
      · obtain rfl | ⟨secondOld, secondApart⟩ := mem_putSaga sound.keyed secondMember
        · rfl
        · exact absurd (sound.single stored member second secondOld ref
            (Saga.core_touches twin.symm firstTouches) secondTouches unfinished secondOpen)
            (apart second secondOld secondApart)
      · obtain rfl | ⟨secondOld, -⟩ := mem_putSaga sound.keyed secondMember
        · exact absurd (sound.single stored member first firstOld ref
            (Saga.core_touches twin.symm secondTouches) firstTouches unfinished firstOpen)
            (apart first firstOld firstApart)
        · exact sound.single first firstOld second secondOld ref firstTouches secondTouches
            firstOpen secondOpen
    case distinct =>
      intro first firstMember second secondMember ref sequence firstReserves secondReserves
      obtain rfl | ⟨firstOld, firstApart⟩ := mem_putSaga sound.keyed firstMember
      · obtain rfl | ⟨secondOld, secondApart⟩ := mem_putSaga sound.keyed secondMember
        · rfl
        · exact absurd (sound.distinct stored member second secondOld ref sequence
            (Saga.core_reserves twin.symm firstReserves) secondReserves)
            (apart second secondOld secondApart)
      · obtain rfl | ⟨secondOld, -⟩ := mem_putSaga sound.keyed secondMember
        · exact absurd (sound.distinct stored member first firstOld ref sequence
            (Saga.core_reserves twin.symm secondReserves) firstReserves)
            (apart first firstOld firstApart)
        · exact sound.distinct first firstOld second secondOld ref sequence firstReserves
            secondReserves
    case drafted =>
      intro proposalId proposal found
      exact (sound.drafted proposalId proposal found).moved fun ref => Moved.refl (disk.files ref)
    case legacy => exact sound.legacy
  case later =>
    intro earlier before
    have after := carried.kept.later earlier before
    refine ⟨after.files, after.proposals, ?_⟩
    intro other written absent
    obtain rfl | ⟨old, -⟩ := mem_putSaga sound.keyed written
    · rw [← named] at absent ⊢
      rw [← Saga.core_base twin]
      exact after.sagas stored member absent
    · exact after.sagas other old absent

/-- An unfinished saga that is written is carried on. -/
theorem written (carried : Carried history disk saga) (same : next.core = saga.core)
    (fits : SagaFits disk next) (unfinished : next.state.terminal = false) :
    Carried history (Disk.apply disk (SettingsWrite.saga next : SettingsWrite Agent)) next where
  kept := carried.put next same fits
  fits := fits.moved fun ref => Moved.refl (disk.files ref)
  confirmed := by
    have confirmed := carried.confirmed
    rwa [← Saga.core_proposalId same] at confirmed
  unfinished := unfinished
  stored := ⟨next, mem_putSaga_self next disk.sagas, rfl, unfinished⟩

/-- A saga may get on while it is carried. -/
theorem further (carried : Carried history disk saga) (same : next.core = saga.core)
    (fits : SagaFits disk next) (unfinished : next.state.terminal = false) :
    Carried history disk next where
  kept := carried.kept
  fits := fits
  confirmed := by
    rw [Saga.core_proposalId same]
    exact carried.confirmed
  unfinished := unfinished
  stored := by
    rw [same]
    exact carried.stored

end Carried

/-- A saga in another state fits as well, as long as it is not applied. -/
theorem SagaFits.progress {next : Saga} (fits : SagaFits disk saga)
    (named : next.proposalId = saga.proposalId) (source : next.source = saga.source)
    (unapplied : (next.state == .applied) = false) : SagaFits disk next where
  owned := by
    rw [source, named]
    exact fits.owned
  behind := by
    rw [source, named]
    exact fits.behind
  marked := by
    unfold Passed
    rw [source, named]
    exact fits.marked
  passed applied := by
    rw [applied] at unapplied
    cases unapplied
  bundled := by
    rw [source]
    exact fits.bundled

/-- A saga whose source has moved on may be applied. -/
theorem SagaFits.apply {next : Saga} (fits : SagaFits disk saga)
    (named : next.proposalId = saga.proposalId) (source : next.source = saga.source)
    (moved : Passed disk saga) : SagaFits disk next where
  owned := by
    rw [source, named]
    exact fits.owned
  behind := by
    rw [source, named]
    exact fits.behind
  marked := by
    unfold Passed
    rw [source, named]
    exact fits.marked
  passed _ := by
    unfold Passed
    rwa [source, named]
  bundled := by
    rw [source]
    exact fits.bundled

theorem unapplied_of_unfinished {state : SagaState} (unfinished : state.terminal = false) :
    (state == .applied) = false := by
  cases state <;> first | rfl | cases unfinished

/-- A target that got on fits. -/
theorem SagaFits.setTarget {position : TargetPosition} {old target : SagaTarget}
    (fits : SagaFits disk saga) (found : saga.target? position = some old)
    (same : target.core = old.core)
    (marked : position = .source → target.state = .applied →
      target.base.stateRevision < settledNumber (disk.files saga.proposalId.owner))
    (bundled : position = .source → ∀ bundle, target.bundle = some bundle →
      bundle.manifest.sequence = target.revision) :
    SagaFits disk (saga.setTarget target position) := by
  cases position with
  | sync index =>
      exact { owned := fits.owned, behind := fits.behind, marked := fits.marked,
              passed := fits.passed, bundled := fits.bundled }
  | source =>
      obtain rfl := Option.some.inj found
      have based : target.base = saga.source.base := congrArg (·.2.1) same
      have reserved : target.revision = saga.source.revision := congrArg (·.2.2) same
      constructor
      case owned => exact (congrArg (·.1) same).trans fits.owned
      case behind =>
        refine ⟨?_, ?_⟩
        · change target.base.stateRevision ≤ _
          rw [based]
          exact fits.behind.reached
        · change _ = target.base.stateRevision → _ ≠ some target.revision
          rw [based, reserved]
          exact fits.behind.unmoved
      case marked => exact marked rfl
      case passed =>
        intro applied
        change target.base.stateRevision < _
        rw [based]
        exact fits.passed applied
      case bundled => exact bundled rfl

/-- A proposal keeps its request, and its confirmation once it has one. -/
theorem Kept.propose {proposalId : ProposalId} (proposal : Proposal) (kept : Kept history disk)
    (drafted : Drafted disk proposalId proposal)
    (same : ∀ stored, disk.proposals proposalId = some stored →
      proposal.request = stored.request ∧
        (stored.confirmation.isSome → proposal.confirmation.isSome)) :
    Kept history (Disk.apply disk (SettingsWrite.proposal proposalId proposal : SettingsWrite Agent)) ∧
      ∀ other, Confirmed disk other →
        Confirmed (Disk.apply disk (SettingsWrite.proposal proposalId proposal : SettingsWrite Agent))
          other := by
  have confirmed : ∀ other, Confirmed disk other →
      Confirmed (Disk.apply disk (SettingsWrite.proposal proposalId proposal : SettingsWrite Agent))
        other := by
    rintro other ⟨stored, found, given⟩
    by_cases here : other = proposalId
    · subst here
      exact ⟨proposal, Function.update_self .., (same stored found).2 given⟩
    · exact ⟨stored, (Function.update_of_ne here _ _).trans found, given⟩
  refine ⟨⟨?_, ?_⟩, confirmed⟩
  · have sound := kept.sound
    constructor
    case keyed => exact sound.keyed
    case fits => exact fun saga member => (sound.fits saga member).moved fun ref => Moved.refl (disk.files ref)
    case confirmed =>
      exact fun saga member begun => confirmed _ (sound.confirmed saga member begun)
    case single => exact sound.single
    case distinct => exact sound.distinct
    case drafted =>
      intro other stored found
      by_cases here : other = proposalId
      · subst here
        change Function.update disk.proposals other (some proposal) other = some stored at found
        rw [Function.update_self] at found
        obtain rfl := Option.some.inj found
        exact drafted.moved fun ref => Moved.refl (disk.files ref)
      · change Function.update disk.proposals proposalId (some proposal) other = some stored at found
        rw [Function.update_of_ne here] at found
        exact (sound.drafted other stored found).moved fun ref => Moved.refl (disk.files ref)
    case legacy => exact sound.legacy
  · intro earlier before
    have after := kept.later earlier before
    refine ⟨after.files, ?_, after.sagas⟩
    intro other stored found
    obtain ⟨present, still, unchanged⟩ := after.proposals other stored found
    by_cases here : other = proposalId
    · subst here
      exact ⟨proposal, Function.update_self .., (same present still).1.trans unchanged⟩
    · exact ⟨present, (Function.update_of_ne here _ _).trans still, unchanged⟩

end

end RuntimeSettingsService

end DesignHarness
