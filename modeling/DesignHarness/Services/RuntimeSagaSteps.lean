import DesignHarness.Services.RuntimeSagaRules

/-!
# Every script keeps the settings sound

One specification for each script of the settings service: it keeps the invariant at every write,
and a script that goes on with a saga hands on a saga that is carried.
-/

namespace DesignHarness

open Library

namespace RuntimeSettingsService

section

variable {Agent : Type} {history : List (SettingsDisk Agent)} {disk : SettingsDisk Agent}
  {saga : Saga} {now : Timestamp} {port : AgentPort Agent}

/-- The script keeps the invariant. -/
def Keeping {α : Type} (history : List (SettingsDisk Agent)) (disk : SettingsDisk Agent)
    (script : SettingsScript Agent α) (returns : α → SettingsDisk Agent → Prop) : Prop :=
  Meets script disk (Kept history) (fun value later => Kept history later ∧ returns value later)
    fun _ => Kept history

namespace Keeping

variable {α β : Type} {script : SettingsScript Agent α} {next : α → SettingsScript Agent β}
  {returns : α → SettingsDisk Agent → Prop} {results : β → SettingsDisk Agent → Prop}

theorem pure {value : α} (kept : Kept history disk) (returned : returns value disk) :
    Keeping history disk (Pure.pure value : SettingsScript Agent α) returns :=
  Meets.pure kept ⟨kept, returned⟩

theorem raise {error : Raised} (kept : Kept history disk) :
    Keeping history disk (Script.raise error : SettingsScript Agent α) returns :=
  Meets.raise kept kept

theorem bind (first : Keeping history disk script returns)
    (rest : ∀ value later, Kept history later → returns value later →
      Keeping history later (next value) results) :
    Keeping history disk (script >>= next) results :=
  Meets.bind (first.mono (fun _ => id) (fun value later ended => rest value later ended.1 ended.2)
    fun _ _ => id)

theorem look {f : SettingsDisk Agent → α} (rest : Keeping history disk (next (f disk)) results) :
    Keeping history disk (Script.read f >>= next) results := Meets.looked rfl rest

theorem check {outcome : Outcome α} (kept : Kept history disk)
    (rest : ∀ value, outcome = .ok value → Keeping history disk (next value) results) :
    Keeping history disk (Script.lift outcome >>= next) results :=
  Meets.guarded kept rest fun _ _ => kept

theorem write {change : SettingsWrite Agent} (returns : Unit → SettingsDisk Agent → Prop)
    (kept : Kept history disk) (written : Kept history (Disk.apply disk change))
    (returned : returns () (Disk.apply disk change)) :
    Keeping history disk (Script.write change) returns :=
  Meets.write kept kept written ⟨written, returned⟩

theorem calm (kept : Kept history disk) (calm : CalmAt disk script returns) :
    Keeping history disk script fun value later => Calm disk later ∧ returns value later := by
  refine Meets.mono calm ?_ ?_ ?_
  · exact fun later moved => kept.calm moved
  · exact fun value later ended => ⟨kept.calm ended.1, ended⟩
  · exact fun _ later moved => kept.calm moved

end Keeping

theorem updateProposalStatus_keeping (kept : Kept history disk) (saga : Saga)
    (status : ProposalStatus) :
    Keeping history disk (updateProposalStatus saga status) unsaid := by
  unfold updateProposalStatus
  refine Keeping.look ?_
  cases found : disk.proposals saga.proposalId with
  | none => exact Keeping.raise kept
  | some proposal =>
      have drafted := kept.sound.drafted _ proposal found
      have written := kept.propose { proposal with status := status }
        ⟨drafted.base, drafted.targets⟩ (by
          intro stored present
          obtain rfl := Option.some.inj (found.symm.trans present)
          exact ⟨rfl, id⟩)
      exact Keeping.write _ kept written.1 trivial

theorem CalmAt.forEach {α : Type} {body : α → SettingsScript Agent Unit} {items : List α}
    (each : ∀ item (disk : SettingsDisk Agent), CalmAt disk (body item) unsaid) :
    CalmAt disk (Script.forEach body items) unsaid := by
  induction items generalizing disk with
  | nil => exact CalmAt.pure trivial
  | cons item rest ih => exact CalmAt.bind (each item disk) fun _ later _ _ => ih

theorem clearFailedPending_calm (saga : Saga) :
    CalmAt disk (clearFailedPending now saga) unsaid := by
  refine CalmAt.forEach fun target disk => ?_
  refine CalmAt.look (CalmAt.check fun current _ => ?_)
  cases current with
  | none => exact CalmAt.pure trivial
  | some current =>
      dsimp only
      split
      · exact clearPending_calm ..
      · exact CalmAt.pure trivial

theorem failSaga_keeping {α : Type} {returns : α → SettingsDisk Agent → Prop}
    (carried : Carried history disk saga) (error : HarnessError) :
    Keeping history disk (failSaga now saga error) returns := by
  unfold failSaga
  refine Keeping.bind (Keeping.calm carried.kept (clearFailedPending_calm saga)) ?_
  intro _ later _ cleared
  have here := carried.calm cleared.1
  let failed : Saga :=
    { saga with state := .failed, updatedAt := now, lastError := some (error.code, error.message) }
  have written := here.put failed rfl (here.fits.progress rfl rfl rfl)
  refine Keeping.bind (Keeping.write unsaid here.kept written trivial) ?_
  intro _ later kept _
  refine Keeping.bind (updateProposalStatus_keeping kept failed .failed) ?_
  exact fun _ later kept _ => Keeping.raise kept

theorem waitAtSafePoint_keeping (carried : Carried history disk saga) (error : Option HarnessError) :
    Keeping history disk (waitAtSafePoint now saga error) unsaid := by
  unfold waitAtSafePoint
  let waiting : Saga :=
    { saga with
      state := .waitingSafePoint
      updatedAt := now
      lastError := error.map fun error => (error.code, error.message) }
  have written := carried.put waiting rfl (carried.fits.progress rfl rfl rfl)
  refine Keeping.bind (Keeping.write unsaid carried.kept written trivial) ?_
  intro _ later kept _
  refine Keeping.bind (updateProposalStatus_keeping kept waiting .waitingSafePoint) ?_
  exact fun _ later kept _ => Keeping.pure kept trivial

/-! ## Local targets -/

theorem refOf_source (fits : SagaFits disk saga) :
    saga.refOf saga.source = saga.proposalId.owner := by
  unfold Saga.refOf Saga.taskId
  rw [fits.owned]

theorem localBundle_keeping {position : TargetPosition} {target : SagaTarget}
    (carried : Carried history disk saga) (found : saga.target? position = some target) :
    Keeping history disk (localBundle now saga position target) fun result later =>
      Carried history later result.1 ∧ result.1.target? position = some result.2.1 ∧
        result.2.1.core = target.core ∧ result.1.proposalId = saga.proposalId := by
  unfold localBundle
  cases bundled : target.bundle with
  | some bundle => exact Keeping.pure carried.kept ⟨carried, found, rfl, rfl⟩
  | none =>
      refine Keeping.bind (Keeping.calm carried.kept (buildRevision_calm _ _ _)) ?_
      rintro bundle later - ⟨-, rfl, sequence⟩
      let ready : SagaTarget := { target with bundle := some bundle, state := .bundleReady }
      let next : Saga := { saga.setTarget ready position with updatedAt := now }
      have core : next.core = saga.core := Saga.setTarget_core ready found rfl
      have fits : SagaFits later (saga.setTarget ready position) := by
        refine carried.fits.setTarget found rfl ?_ ?_
        · intro _ applied
          cases applied
        · intro _ other same
          obtain rfl := Option.some.inj same
          exact sequence
      have unfinished : next.state.terminal = false := by
        change (saga.setTarget ready position).state.terminal = false
        rw [Saga.setTarget_state]
        exact carried.unfinished
      have written := carried.written next core
        (fits.progress rfl rfl (unapplied_of_unfinished unfinished)) unfinished
      refine Keeping.bind (Keeping.write (fun _ later => Carried history later next)
        carried.kept written.kept written) ?_
      intro _ later kept here
      refine Keeping.pure kept ⟨here, ?_, rfl, Saga.setTarget_proposalId⟩
      exact Saga.setTarget_target found

/-- Where the state file moves on, an applied source has passed its base. -/
theorem Carried.advance {later : SettingsDisk Agent} {position : TargetPosition}
    {old : SagaTarget} (target : SagaTarget) (carried : Carried history disk saga)
    (found : saga.target? position = some old) (same : target.core = old.core)
    (bundle : target.bundle = old.bundle) (calm : Calm disk later)
    (moved : settledNumber (disk.files (saga.refOf old)) <
      settledNumber (later.files (saga.refOf old)) ∨
        (pointerState (disk.files (saga.refOf old))).map InstanceConfigState.currentRevision =
          some old.revision) :
    Carried history later (saga.setTarget target position) := by
  have here := carried.calm calm
  have unfinished : (saga.setTarget target position).state.terminal = false := by
    rw [Saga.setTarget_state]
    exact carried.unfinished
  refine here.further _ (Saga.setTarget_core _ found same) (here.fits.setTarget found same ?_ ?_)
    unfinished
  · rintro rfl -
    obtain rfl := Option.some.inj found
    have based : target.base = saga.source.base := congrArg (·.2.1) same
    rw [refOf_source carried.fits] at moved
    rw [based]
    have reached := carried.fits.behind.reached
    obtain larger | current := moved
    · exact lt_of_le_of_lt reached larger
    · refine lt_of_lt_of_le (lt_of_le_of_ne reached ?_) (calm.files _).settled
      intro still
      exact carried.fits.behind.unmoved still.symm current
  · rintro rfl other stored
    obtain rfl := Option.some.inj found
    have reserved : target.revision = saga.source.revision := congrArg (·.2.2) same
    rw [reserved]
    exact carried.fits.bundled other (bundle.symm.trans stored)

/-- A target keeps its instance. -/
theorem refOf_core {saga other : Saga} {first second : SagaTarget}
    (named : saga.proposalId = other.proposalId) (same : first.core = second.core) :
    saga.refOf first = other.refOf second := by
  have instanceId : first.instanceId = second.instanceId := congrArg (·.1) same
  unfold Saga.refOf Saga.taskId
  rw [named, instanceId]

theorem applyLocalTarget_keeping {position : TargetPosition} {target : SagaTarget}
    (carried : Carried history disk saga) (found : saga.target? position = some target) :
    Keeping history disk (applyLocalTarget now saga position target) fun next later =>
      Carried history later next := by
  unfold applyLocalTarget
  refine Keeping.look (Keeping.check carried.kept fun facts _ => ?_)
  refine Keeping.bind (Keeping.calm carried.kept (readOrMaterialize_calm _)) ?_
  rintro current middle - ⟨calm, present, -⟩
  have here := carried.calm calm
  dsimp only
  split
  · -- The pointer is there already: a stop came after its move.
    next pointed =>
      refine Keeping.bind (Keeping.calm here.kept (updateConfigRevision_calm _ _)) ?_
      rintro - later - ⟨calm, -⟩
      have next := here.advance { target with state := .applied } found rfl rfl calm
        (.inr (by rw [readCurrent_some present]; exact congrArg some pointed))
      exact Keeping.pure next.kept next
  · refine Keeping.check here.kept fun _ _ => Keeping.check here.kept fun _ _ => ?_
    refine Keeping.bind (localBundle_keeping here found) ?_
    rintro ⟨saga, ready, bundle⟩ built - ⟨held, placed, core, named⟩
    dsimp only
    refine Keeping.bind (Keeping.calm held.kept (publishRevision_calm _ _)) ?_
    rintro - published - ⟨quiet, -⟩
    have held := held.calm quiet
    refine Keeping.bind (Keeping.calm held.kept (setCurrent_calm _ _ _ _ _)) ?_
    rintro - pointed - ⟨calm, moved⟩
    rw [← refOf_core named core] at moved
    have held := held.advance { ready with state := .applied } placed rfl rfl calm
      (.inl moved)
    refine Keeping.bind (Keeping.calm held.kept (updateConfigRevision_calm _ _)) ?_
    rintro - recorded - ⟨calm, -⟩
    have held := held.calm calm
    let next : Saga :=
      { saga.setTarget { ready with state := .applied } position with updatedAt := now }
    have written := held.written next rfl
      (held.fits.progress rfl rfl (unapplied_of_unfinished held.unfinished)) held.unfinished
    refine Keeping.bind (Keeping.write (fun _ later => Carried history later next)
      held.kept written.kept written) ?_
    exact fun _ later kept final => Keeping.pure kept final

theorem resumeLocalTarget_keeping (carried : Carried history disk saga)
    (position : TargetPosition) :
    Keeping history disk (resumeLocalTarget now saga position) fun next later =>
      Carried history later next := by
  unfold resumeLocalTarget
  cases found : saga.target? position with
  | none => exact Keeping.pure carried.kept carried
  | some target =>
      dsimp only
      split
      · exact Keeping.pure carried.kept carried
      · exact applyLocalTarget_keeping carried found

theorem resumeTargets_keeping (carried : Carried history disk saga)
    (positions : List TargetPosition) :
    Keeping history disk (resumeTargets now positions saga) fun next later =>
      Carried history later next := by
  induction positions generalizing disk saga with
  | nil => exact Keeping.pure carried.kept carried
  | cons position rest ih =>
      refine Keeping.bind (resumeLocalTarget_keeping carried position) ?_
      exact fun next later _ here => ih here

/-- The saga is written as it is carried. -/
theorem rewrite_keeping (carried : Carried history disk saga) :
    Keeping history disk (do
      Script.write (SettingsWrite.saga saga : SettingsWrite Agent)
      return saga) fun next later => Carried history later next := by
  have written := carried.written _ rfl carried.fits carried.unfinished
  refine Keeping.bind (Keeping.write (fun _ later => Carried history later saga)
    carried.kept written.kept written) ?_
  exact fun _ later kept here => Keeping.pure kept here

theorem resumeSyncTargets_keeping (carried : Carried history disk saga) :
    Keeping history disk (resumeSyncTargets now saga) fun next later =>
      Carried history later next := by
  unfold resumeSyncTargets
  refine Keeping.bind (resumeTargets_keeping carried _) ?_
  exact fun next later _ here => rewrite_keeping here

theorem resumeLocalSource_keeping (carried : Carried history disk saga) :
    Keeping history disk (resumeLocalSource now saga) fun next later =>
      Carried history later next := by
  unfold resumeLocalSource
  refine Keeping.bind (resumeLocalTarget_keeping carried _) ?_
  exact fun next later _ here => rewrite_keeping here

theorem completeLocalSaga_keeping (carried : Carried history disk saga) :
    Keeping history disk (completeLocalSaga now saga) unsaid := by
  unfold completeLocalSaga
  split
  · next every =>
      have marked : saga.source.state = .applied := by
        have first := (List.all_eq_true.mp every) saga.source List.mem_cons_self
        simpa using first
      let applied : Saga := { saga with state := .applied, updatedAt := now, lastError := none }
      have written := carried.put applied rfl
        (carried.fits.apply rfl rfl (carried.fits.marked marked))
      refine Keeping.bind (Keeping.write unsaid carried.kept written trivial) ?_
      intro _ later kept _
      refine Keeping.bind (updateProposalStatus_keeping kept applied .applied) ?_
      exact fun _ later kept _ => Keeping.check kept fun _ _ => Keeping.pure kept trivial
  · exact Keeping.pure carried.kept trivial

theorem applyBeforeStart_keeping (carried : Carried history disk saga) :
    Keeping history disk (applyBeforeStart now saga) unsaid := by
  unfold applyBeforeStart
  refine Keeping.bind (resumeSyncTargets_keeping carried) fun next later _ here => ?_
  refine Keeping.bind (resumeLocalSource_keeping here) fun next later _ here => ?_
  exact completeLocalSaga_keeping here

/-! ## Safe points -/

/-- A carried saga with the bundle of its source. -/
def Bundled (history : List (SettingsDisk Agent)) (bundle : InstanceBundle) (saga : Saga)
    (disk : SettingsDisk Agent) : Prop :=
  Carried history disk saga ∧ bundle.manifest.sequence = saga.source.revision

theorem safeBundle_keeping (carried : Carried history disk saga) (boundary : Boundary) :
    Keeping history disk (safeBundle now saga boundary) fun result later =>
      Bundled history result.2 result.1 later := by
  unfold safeBundle
  cases bundled : saga.source.bundle with
  | some bundle =>
      exact Keeping.pure carried.kept ⟨carried, carried.fits.bundled bundle bundled⟩
  | none =>
      refine Keeping.bind (Keeping.calm carried.kept (buildRevision_calm _ _ _)) ?_
      rintro bundle later - ⟨calm, -, sequence⟩
      have here := carried.calm calm
      let next : Saga :=
        { saga with
          source := { saga.source with bundle := some bundle }
          fromCheckpoint := boundary.checkpointId
          effectiveFromState := some boundary.state
          updatedAt := now }
      have fits : SagaFits later next :=
        { owned := here.fits.owned
          behind := ⟨here.fits.behind.reached, here.fits.behind.unmoved⟩
          marked := here.fits.marked
          passed := here.fits.passed
          bundled := by
            intro other same
            obtain rfl := Option.some.inj same
            exact sequence }
      have written := here.written next rfl fits here.unfinished
      refine Keeping.bind (Keeping.write (fun _ later => Carried history later next)
        here.kept written.kept written) ?_
      exact fun _ last kept final => Keeping.pure kept ⟨final, sequence⟩

theorem materializeSafe_keeping {bundle : InstanceBundle} (held : Bundled history bundle saga disk) :
    Keeping history disk (materializeSafe now saga bundle) fun next later =>
      Bundled history bundle next later := by
  obtain ⟨carried, sequence⟩ := held
  -- What is left to do once the revision is pending.
  have mark : ∀ later : SettingsDisk Agent, Carried history later saga →
      Keeping history later (if saga.state = .confirmed ∨ saga.state = .waitingSafePoint then do
          let later : Saga := { saga with state := .materialized, updatedAt := now }
          Script.write (SettingsWrite.saga later : SettingsWrite Agent)
          return later
        else
          return saga) fun next later => Bundled history bundle next later := by
    intro later carried
    split
    · let next : Saga := { saga with state := .materialized, updatedAt := now }
      have written := carried.written next rfl (carried.fits.progress rfl rfl rfl) rfl
      refine Keeping.bind (Keeping.write (fun _ later => Carried history later next)
        carried.kept written.kept written) ?_
      exact fun _ last kept final => Keeping.pure kept ⟨final, sequence⟩
    · exact Keeping.pure carried.kept ⟨carried, sequence⟩
  unfold materializeSafe
  refine Keeping.bind (Keeping.calm carried.kept (publishRevision_calm _ _)) ?_
  rintro - published - ⟨calm, -⟩
  have carried := carried.calm calm
  refine Keeping.look (Keeping.check carried.kept fun current _ => ?_)
  cases current with
  | none => exact Keeping.raise carried.kept
  | some current =>
      dsimp only
      split
      · refine Keeping.bind (Keeping.calm carried.kept (setPending_calm _ _ _ _)) ?_
        rintro - later - ⟨calm, -⟩
        exact mark later (carried.calm calm)
      · exact mark published carried

theorem applyRemote_keeping {bundle : InstanceBundle} (held : Bundled history bundle saga disk) :
    Keeping history disk (applyRemote now port saga bundle) fun result later =>
      result.2 ≠ none → Bundled history bundle result.1 later := by
  obtain ⟨carried, sequence⟩ := held
  unfold applyRemote
  cases received : saga.receipt with
  | some receipt => exact Keeping.pure carried.kept fun _ => ⟨carried, sequence⟩
  | none =>
      refine Keeping.look ?_
      have asked := carried.calm (Calm.agent disk saga.proposalId.owner
        (port.applyRevision (applyRequest saga bundle) (disk.agents saga.proposalId.owner)).1)
      refine Keeping.bind (Keeping.write (fun _ later => Carried history later saga)
        carried.kept asked.kept asked) ?_
      intro _ later _ here
      cases remoteResult saga (applyRequest saga bundle)
        (port.applyRevision (applyRequest saga bundle) (disk.agents saga.proposalId.owner)).2 with
      | broken error => exact Keeping.raise here.kept
      | refused error =>
          dsimp only
          split
          · refine Keeping.bind (waitAtSafePoint_keeping here (some error)) ?_
            exact fun _ _ kept _ => Keeping.pure kept fun absent => absurd rfl absent
          · exact failSaga_keeping here error
      | applied response =>
          let next : Saga :=
            { saga with
              receipt := some (sagaReceipt now response)
              state := .childBranchCreated
              updatedAt := now }
          have written := here.written next rfl (here.fits.progress rfl rfl rfl) rfl
          refine Keeping.bind (Keeping.write (fun _ later => Carried history later next)
            here.kept written.kept written) ?_
          exact fun _ last kept final => Keeping.pure kept fun _ => ⟨final, sequence⟩

theorem commitPointer_keeping {bundle : InstanceBundle} (held : Bundled history bundle saga disk)
    (receipt : ApplicationReceipt) :
    Keeping history disk (commitPointer now saga bundle receipt) unsaid := by
  obtain ⟨carried, sequence⟩ := held
  -- The pointer has moved past the base of the saga.
  have finish : ∀ later : SettingsDisk Agent, Carried history later saga → Passed later saga →
      Keeping history later (do
        let committed : Saga := { saga with state := .instancePointerCommitted, updatedAt := now }
        Script.write (SettingsWrite.saga committed : SettingsWrite Agent)
        updateConfigRevision saga.proposalId.owner bundle.manifest.sequence
        let applied : Saga := { committed with state := .applied, lastError := none }
        Script.write (.saga applied)
        updateProposalStatus applied .applied
        return applied) unsaid := by
    intro later carried passed
    let committed : Saga := { saga with state := .instancePointerCommitted, updatedAt := now }
    let applied : Saga := { committed with state := .applied, lastError := none }
    have written := carried.written committed rfl (carried.fits.progress rfl rfl rfl) rfl
    refine Keeping.bind (Keeping.write (fun _ later =>
      Carried history later committed ∧ Passed later saga) carried.kept written.kept
      ⟨written, passed⟩) ?_
    rintro - middle - ⟨held, passed⟩
    refine Keeping.bind (Keeping.calm held.kept (updateConfigRevision_calm _ _)) ?_
    rintro - recorded - ⟨calm, -⟩
    have held := held.calm calm
    have last := held.put applied rfl
      (held.fits.apply rfl rfl (passed.moved calm.files))
    refine Keeping.bind (Keeping.write unsaid held.kept last trivial) ?_
    intro _ final kept _
    refine Keeping.bind (updateProposalStatus_keeping kept applied .applied) ?_
    exact fun _ _ kept _ => Keeping.pure kept trivial
  unfold commitPointer
  refine Keeping.look (Keeping.check carried.kept fun current found => ?_)
  cases current with
  | none => exact Keeping.raise carried.kept
  | some current =>
      have reached := carried.fits.behind.reached
      dsimp only
      split
      · refine Keeping.bind (Keeping.calm carried.kept (setCurrent_calm _ _ _ _ _)) ?_
        rintro - later - ⟨calm, moved⟩
        exact finish later (carried.calm calm) (lt_of_le_of_lt reached moved)
      · next pointed =>
          refine finish disk carried (lt_of_le_of_ne reached ?_)
          intro still
          refine carried.fits.behind.unmoved still.symm ?_
          rw [readCurrent_some found, ← sequence]
          exact congrArg some (not_not.mp pointed)

theorem applyAtBoundary_keeping (carried : Carried history disk saga) (boundary : Boundary) :
    Keeping history disk (applyAtBoundary now port saga boundary) unsaid := by
  unfold applyAtBoundary
  split
  · exact failSaga_keeping carried _
  · split
    · exact waitAtSafePoint_keeping carried none
    · split
      · exact failSaga_keeping carried _
      · refine Keeping.bind (safeBundle_keeping carried boundary) ?_
        rintro ⟨saga, bundle⟩ built - held
        refine Keeping.bind (materializeSafe_keeping held) ?_
        intro saga pending _ held
        refine Keeping.bind (applyRemote_keeping held) ?_
        rintro ⟨saga, receipt⟩ answered kept held
        cases receipt with
        | none => exact Keeping.pure kept trivial
        | some receipt => exact commitPointer_keeping (held (Option.some_ne_none receipt)) receipt

theorem applySafePoint_keeping (carried : Carried history disk saga) (ref : InstanceRef) :
    Keeping history disk (applySafePoint now port ref saga) unsaid := by
  unfold applySafePoint
  refine Keeping.look (Keeping.check carried.kept fun facts _ => ?_)
  refine Keeping.look (Keeping.check carried.kept fun boundary _ => ?_)
  exact applyAtBoundary_keeping carried boundary

theorem mem_unfinished {ref : InstanceRef} {includeSync : Bool} :
    saga ∈ unfinished ref includeSync disk ↔
      saga ∈ disk.sagas ∧ (saga.owns ref = true ∨ includeSync = true ∧ saga.syncs ref = true) ∧
        saga.state.terminal = false := by
  simp [unfinished, sagasFor, and_comm]

theorem pendingSaga_some {ref : InstanceRef} {includeSync : Bool}
    (found : pendingSaga ref includeSync disk = .ok (some saga)) :
    saga ∈ unfinished ref includeSync disk := by
  unfold pendingSaga at found
  split at found
  · cases found
  · next only =>
      obtain rfl := Option.some.inj (Except.ok.inj found)
      rw [only]
      exact List.mem_singleton_self _
  · cases found

/-- A stored saga that has begun and is not finished is carried by the script that takes it. -/
theorem Kept.carry (kept : Kept history disk) (member : saga ∈ disk.sagas)
    (unfinished : saga.state.terminal = false) (begun : saga.state ≠ .intentPersisted) :
    Carried history disk saga where
  kept := kept
  fits := kept.sound.fits saga member
  confirmed := kept.sound.confirmed saga member begun
  unfinished := unfinished
  stored := ⟨saga, member, rfl, unfinished⟩

theorem applyPendingIfSafe_keeping (kept : Kept history disk) (ref : InstanceRef) :
    Keeping history disk (applyPendingIfSafe now port ref) unsaid := by
  unfold applyPendingIfSafe
  refine Keeping.look (Keeping.check kept fun pending found => ?_)
  cases pending with
  | none =>
      refine Keeping.look ?_
      cases failedSaga ref disk with
      | some failed => exact Keeping.raise kept
      | none => exact Keeping.pure kept trivial
  | some saga =>
      dsimp only
      split
      · exact Keeping.pure kept trivial
      · next begun =>
          obtain ⟨member, -, unfinished⟩ := mem_unfinished.mp (pendingSaga_some found)
          have carried := kept.carry member unfinished begun
          cases saga.mode with
          | beforeStart =>
              refine Keeping.bind (applyBeforeStart_keeping carried) ?_
              exact fun _ later kept _ => Keeping.pure kept trivial
          | safeCheckpointBranch =>
              refine Keeping.bind (applySafePoint_keeping carried ref) ?_
              exact fun _ later kept _ => Keeping.pure kept trivial

theorem beginSaga_keeping (carried : Carried history disk saga) :
    Keeping history disk (beginSaga now saga) unsaid := by
  unfold beginSaga
  let confirmed : Saga := { saga with state := .confirmed, updatedAt := now }
  have written := carried.written confirmed rfl (carried.fits.progress rfl rfl rfl) rfl
  refine Keeping.bind (Keeping.write (fun _ later => Carried history later confirmed)
    carried.kept written.kept written) ?_
  intro _ later _ here
  refine Keeping.bind (resumeSyncTargets_keeping here) fun next later _ here => ?_
  cases next.mode with
  | beforeStart =>
      refine Keeping.bind (resumeLocalSource_keeping here) fun next later _ here => ?_
      exact completeLocalSaga_keeping here
  | safeCheckpointBranch => exact Keeping.pure here.kept trivial

theorem replayConfirmation_keeping {proposalId : ProposalId} (kept : Kept history disk)
    (given : Confirmed disk proposalId) (confirmation : Confirmation) (envelope : CommandEnvelope) :
    Keeping history disk (replayConfirmation now proposalId confirmation envelope) unsaid := by
  unfold replayConfirmation
  refine Keeping.check kept fun _ _ => Keeping.look ?_
  cases found : sagaOf proposalId disk with
  | none => exact Keeping.raise kept
  | some saga =>
      refine Keeping.check kept fun _ _ => ?_
      dsimp only
      split
      · next intent =>
          obtain ⟨member, rfl⟩ := sagaOf_some found
          have unfinished : saga.state.terminal = false := by rw [intent]; rfl
          have carried : Carried history disk saga :=
            { kept := kept
              fits := kept.sound.fits saga member
              confirmed := given
              unfinished := unfinished
              stored := ⟨saga, member, rfl, unfinished⟩ }
          let confirmed : Saga := { saga with state := .confirmed, updatedAt := now }
          have written := carried.put confirmed rfl
            (carried.fits.progress rfl rfl rfl)
          refine Keeping.bind (Keeping.write unsaid kept written trivial) ?_
          exact fun _ later kept _ => Keeping.pure kept trivial
      · exact Keeping.pure kept trivial

theorem confirmProposal_keeping {proposalId : ProposalId} {proposal : Proposal}
    (kept : Kept history disk) (found : disk.proposals proposalId = some proposal) (saga : Saga) :
    Keeping history disk (confirmProposal proposalId proposal saga) fun _ later =>
      later.sagas = disk.sagas ∧ later.files = disk.files ∧ Confirmed later proposalId := by
  have drafted := kept.sound.drafted _ proposal found
  have written := kept.propose
    { proposal with
      status := .confirmed
      confirmation := some ⟨saga.envelope, saga.confirmedAt⟩ }
    (show Drafted disk proposalId _ from ⟨drafted.base, drafted.targets⟩) (by
      intro stored present
      obtain rfl := Option.some.inj (found.symm.trans present)
      exact ⟨rfl, fun _ => rfl⟩)
  refine Keeping.write _ kept written.1 ⟨rfl, rfl, ?_⟩
  exact ⟨_, Function.update_self .., rfl⟩

/-! ### The checks of a first confirmation -/

/-- The script leaves the disk alone. -/
def Still {α : Type} (disk : SettingsDisk Agent) (script : SettingsScript Agent α)
    (returns : α → Prop) : Prop :=
  Meets script disk (fun later => later = disk) (fun value later => later = disk ∧ returns value)
    fun _ later => later = disk

namespace Still

variable {α β : Type} {script : SettingsScript Agent α} {next : α → SettingsScript Agent β}
  {returns : α → Prop} {results : β → Prop}

theorem pure {value : α} (returned : returns value) :
    Still disk (Pure.pure value : SettingsScript Agent α) returns := Meets.pure rfl ⟨rfl, returned⟩

theorem raise {error : Raised} :
    Still disk (Script.raise error : SettingsScript Agent α) returns := Meets.raise rfl rfl

theorem bind (first : Still disk script returns)
    (rest : ∀ value, returns value → Still disk (next value) results) :
    Still disk (script >>= next) results := by
  refine Meets.bind (Meets.mono first (fun _ => id) ?_ fun _ _ => id)
  rintro value later ⟨same, returned⟩
  rw [same]
  exact rest value returned

theorem look {f : SettingsDisk Agent → α} (rest : Still disk (next (f disk)) results) :
    Still disk (Script.read f >>= next) results := Meets.looked rfl rest

theorem check {outcome : Outcome α}
    (rest : ∀ value, outcome = .ok value → Still disk (next value) results) :
    Still disk (Script.lift outcome >>= next) results := Meets.guarded rfl rest fun _ _ => rfl

end Still

theorem readOrMaterialize_still {ref : InstanceRef}
    (present : (pointerState (disk.files ref)).isSome) :
    Still disk (readOrMaterialize now ref) fun _ => True := by
  unfold readOrMaterialize
  refine Still.look (Still.check fun current found => ?_)
  cases current with
  | some current => exact Still.pure trivial
  | none =>
      rw [readCurrent_none found] at present
      cases present

theorem validateSyncBases_still {taskId : Identifier} {bases : List (Identifier × ConfigIdentity)}
    {ids : List Identifier}
    (present : ∀ instanceId ∈ ids, (pointerState (disk.files ⟨taskId, instanceId⟩)).isSome) :
    Still disk (validateSyncBases now taskId bases ids) fun _ => True := by
  induction ids with
  | nil => exact Still.pure trivial
  | cons instanceId rest ih =>
      have later := ih fun other member => present other (List.mem_cons_of_mem _ member)
      unfold validateSyncBases
      refine Still.bind (readOrMaterialize_still (present instanceId List.mem_cons_self)) ?_
      intro current _
      cases bases.lookup instanceId with
      | none => exact Still.bind (show Still disk _ fun _ => True from Still.raise) fun _ _ => later
      | some base => exact Still.check fun _ _ => later

theorem validateSyncScope_still {ref : InstanceRef} {proposal : Proposal}
    (present : ∀ instanceId ∈ proposal.syncInstanceIds,
      (pointerState (disk.files ⟨ref.taskId, instanceId⟩)).isSome) :
    Still disk (validateSyncScope now ref proposal) fun _ => True := by
  unfold validateSyncScope
  split
  · refine Still.look (Still.check fun _ _ => validateSyncBases_still ?_)
    intro instanceId member
    exact present instanceId ((List.mem_insertionSort _).mp member)
  · exact Still.pure trivial

/-- The targets reserve the next revisions of their instances. -/
theorem reserveTargets_still (taskId : Identifier) (overrides : RuntimeOverrides)
    (items : List (Identifier × ConfigIdentity)) :
    Still disk (reserveTargets taskId overrides items) fun targets =>
      targets.map SagaTarget.instanceId = items.map Prod.fst ∧
        ∀ target ∈ targets,
          nextRevision ⟨taskId, target.instanceId⟩ disk = .ok target.revision := by
  induction items with
  | nil => exact Still.pure ⟨rfl, fun _ member => absurd member List.not_mem_nil⟩
  | cons item rest ih =>
      unfold reserveTargets
      have first : Still disk (syncTarget taskId overrides item : SettingsScript Agent SagaTarget) fun target =>
          target.instanceId = item.1 ∧ nextRevision ⟨taskId, item.1⟩ disk = .ok target.revision := by
        unfold syncTarget
        exact Still.look (Still.check fun next reserved => Still.pure ⟨rfl, reserved⟩)
      refine Still.bind first fun target reserved => Still.bind ih fun targets others => ?_
      refine Still.pure ⟨?_, ?_⟩
      · rw [List.map_cons, List.map_cons, others.1, reserved.1]
      · intro other member
        obtain rfl | member := List.mem_cons.mp member
        · rw [reserved.1]
          exact reserved.2
        · exact others.2 other member

/-- The base of a draft is still what its instance runs. -/
def BaseCurrent (disk : SettingsDisk Agent) (proposalId : ProposalId) (proposal : Proposal) : Prop :=
  ∃ current, readCurrent proposalId.owner disk = .ok (some current) ∧
    validateBase proposal current = .ok ()

/-- The instances that a draft is for. -/
def draftRefs (proposalId : ProposalId) (proposal : Proposal) : List InstanceRef :=
  proposalId.owner :: proposal.syncInstanceIds.map fun instanceId =>
    ⟨proposalId.owner.taskId, instanceId⟩

/-- No saga stands in the way of another one for the instance. -/
def Unrivalled (disk : SettingsDisk Agent) (ref : InstanceRef) : Prop :=
  ∀ saga ∈ disk.sagas, (saga.Touches ref → saga.state.terminal = true) ∧
    ∀ sequence, saga.Reserves ref sequence → nextRevision ref disk ≠ .ok sequence

/-- A first confirmation meets no rival. -/
def Admitted (disk : SettingsDisk Agent) (proposalId : ProposalId) : Prop :=
  ∀ proposal, disk.proposals proposalId = some proposal → proposal.confirmation = none →
    sagaOf proposalId disk = none → BaseCurrent disk proposalId proposal →
      ∀ ref ∈ draftRefs proposalId proposal, Unrivalled disk ref

/-- What a first confirmation reserves. -/
structure Fresh (disk : SettingsDisk Agent) (proposalId : ProposalId) (proposal : Proposal)
    (saga : Saga) : Prop where
  named : saga.proposalId = proposalId
  intent : saga.state = .intentPersisted
  owned : saga.source.instanceId = proposalId.owner.instanceId
  base : ∃ current, readCurrent proposalId.owner disk = .ok (some current) ∧
    current.legacy = false ∧ validateBase proposal current = .ok () ∧
      saga.source.base = current.identity
  unbundled : saga.source.bundle = none
  unmarked : saga.source.state = .pending
  synced : saga.syncTargets.map SagaTarget.instanceId = proposal.syncInstanceIds
  reserved : ∀ target ∈ saga.targets, nextRevision (saga.refOf target) disk = .ok target.revision

theorem newSaga_still {proposalId : ProposalId} {proposal : Proposal}
    (drafted : Drafted disk proposalId proposal) (envelope : CommandEnvelope) :
    Still disk (newSaga now proposalId.owner proposalId proposal envelope)
      (Fresh disk proposalId proposal) := by
  unfold newSaga
  refine Still.look (Still.check fun _ _ => Still.look (Still.check fun facts _ => ?_))
  refine Still.look (Still.check fun current found => ?_)
  cases current with
  | none => exact Still.raise
  | some current =>
      refine Still.check fun _ modern => Still.check fun _ based => ?_
      refine Still.bind (validateSyncScope_still drafted.targets) fun _ _ => ?_
      refine Still.look (Still.check fun revision _ => Still.check fun _ _ => ?_)
      refine Still.look (Still.check fun _ _ => Still.check fun mode _ => Still.check fun _ _ => ?_)
      refine Still.look (Still.check fun next reserved => ?_)
      refine Still.bind (reserveTargets_still _ _ _) fun targets others => Still.pure ?_
      refine
        { named := rfl
          intent := rfl
          owned := rfl
          base := ⟨current, found, ensure_eq_ok.mp modern, based, rfl⟩
          unbundled := rfl
          unmarked := rfl
          synced := others.1
          reserved := ?_ }
      intro target member
      obtain rfl | member := List.mem_cons.mp member
      · exact reserved
      · exact others.2 target member

/-- The pointer of a state names the revision that is read. -/
theorem readCurrent_pointer {ref : InstanceRef} {current : CurrentInstanceConfig}
    (sound : SoundSettings disk) (found : readCurrent ref disk = .ok (some current))
    (modern : current.legacy = false) :
    current.bundle.manifest.sequence = current.state.currentRevision := by
  have read : readInstanceRevision current.state.currentRevision (disk.files ref) =
      .ok current.bundle := by
    unfold readCurrent at found
    cases stored : (disk.files ref).state with
    | none =>
        rw [stored] at found
        cases old : (disk.files ref).legacy with
        | none =>
            rw [old] at found
            cases Except.ok.inj found
        | some legacy =>
            rw [old] at found
            obtain rfl := Option.some.inj (Except.ok.inj found)
            cases modern
    | some state =>
        rw [stored] at found
        obtain ⟨bundle, read, found⟩ := bind_eq_ok.mp found
        obtain ⟨-, -, found⟩ := bind_eq_ok.mp found
        cases pending : state.pendingRevision with
        | none =>
            rw [pending] at found
            obtain rfl := Option.some.inj (Except.ok.inj found)
            exact read
        | some sequence =>
            rw [pending] at found
            obtain ⟨-, -, found⟩ := bind_eq_ok.mp found
            obtain ⟨-, -, found⟩ := bind_eq_ok.mp found
            obtain rfl := Option.some.inj (Except.ok.inj found)
            exact read
  unfold readInstanceRevision at read
  cases slot : (disk.files ref).slots.lookup current.state.currentRevision with
  | some document =>
      rw [slot] at read
      obtain ⟨⟨⟩, numbered, read⟩ := bind_eq_ok.mp read
      obtain ⟨-, -, read⟩ := bind_eq_ok.mp read
      obtain rfl := Except.ok.inj read
      exact ensure_eq_ok.mp numbered
  | none =>
      rw [slot] at read
      by_cases first : current.state.currentRevision = 1
      · rw [if_pos first] at read
        cases old : (disk.files ref).legacy with
        | none =>
            rw [old] at read
            cases read
        | some legacy =>
            rw [old] at read
            have same : legacy.2 = current.bundle := Except.ok.inj read
            rw [← same, first]
            exact (sound.legacy ref legacy old).2
      · rw [if_neg first] at read
        cases read

/-- The next revision is beyond the current one. -/
theorem current_lt_next {ref : InstanceRef} {current : CurrentInstanceConfig} {next : Nat}
    (found : readCurrent ref disk = .ok (some current))
    (reserved : nextRevision ref disk = .ok next) : current.bundle.manifest.sequence < next := by
  unfold nextRevision at reserved
  rw [found] at reserved
  obtain rfl := Except.ok.inj reserved
  refine Nat.lt_succ_of_le (List.le_max_of_le' 0 ?_ (le_refl _))
  exact List.mem_append_right _ (List.mem_singleton_self _)

/-- An instance of a new saga is one of its draft. -/
theorem Fresh.touches {proposalId : ProposalId} {proposal : Proposal} {ref : InstanceRef}
    (fresh : Fresh disk proposalId proposal saga) (touches : saga.Touches ref) :
    ref ∈ draftRefs proposalId proposal := by
  obtain owned | synced := touches
  · have same : saga.proposalId.owner = ref := by simpa [Saga.owns] using owned
    rw [fresh.named] at same
    rw [← same]
    exact List.mem_cons_self
  · simp only [Saga.syncs, Saga.taskId, Bool.and_eq_true, beq_iff_eq, List.any_eq_true] at synced
    obtain ⟨task, target, member, here⟩ := synced
    rw [fresh.named] at task
    refine List.mem_cons_of_mem _ (List.mem_map.mpr ⟨ref.instanceId, ?_, ?_⟩)
    · rw [← fresh.synced, ← here]
      exact List.mem_map_of_mem member
    · rw [task]

theorem Fresh.reserves {proposalId : ProposalId} {proposal : Proposal} {ref : InstanceRef}
    {sequence : Nat} (fresh : Fresh disk proposalId proposal saga)
    (reserves : saga.Reserves ref sequence) :
    ref ∈ draftRefs proposalId proposal ∧ nextRevision ref disk = .ok sequence := by
  obtain ⟨target, member, rfl, rfl⟩ := reserves
  refine ⟨?_, fresh.reserved target member⟩
  unfold Saga.refOf Saga.taskId
  obtain rfl | member := List.mem_cons.mp member
  · rw [fresh.owned, fresh.named]
    exact List.mem_cons_self
  · rw [fresh.named]
    refine List.mem_cons_of_mem _ (List.mem_map.mpr ⟨target.instanceId, ?_, rfl⟩)
    rw [← fresh.synced]
    exact List.mem_map_of_mem member

/-- The base of a new saga is the state of its instance. -/
theorem Fresh.settled {proposalId : ProposalId} {proposal : Proposal}
    (fresh : Fresh disk proposalId proposal saga) :
    saga.source.base.stateRevision = settledNumber (disk.files proposalId.owner) := by
  obtain ⟨current, found, -, -, base⟩ := fresh.base
  rw [base, readCurrent_settled found]
  rfl

theorem Fresh.fits {proposalId : ProposalId} {proposal : Proposal}
    (fresh : Fresh disk proposalId proposal saga) (sound : SoundSettings disk) :
    SagaFits disk saga where
  owned := by
    rw [fresh.named]
    exact fresh.owned
  behind := by
    rw [fresh.named]
    obtain ⟨current, found, modern, -, -⟩ := fresh.base
    refine ⟨le_of_eq fresh.settled, ?_⟩
    intro _ pointed
    rw [readCurrent_some found] at pointed
    have reserved := fresh.reserved saga.source List.mem_cons_self
    rw [Saga.refOf, Saga.taskId, fresh.owned, fresh.named] at reserved
    have beyond := current_lt_next found reserved
    rw [readCurrent_pointer sound found modern, Option.some.inj pointed] at beyond
    exact lt_irrefl _ beyond
  marked applied := by
    rw [fresh.unmarked] at applied
    cases applied
  passed applied := by
    rw [fresh.intent] at applied
    cases applied
  bundled bundle stored := by
    rw [fresh.unbundled] at stored
    cases stored

/-- A new saga that meets no rival keeps the invariant. -/
theorem Fresh.begin {proposalId : ProposalId} {proposal : Proposal}
    (fresh : Fresh disk proposalId proposal saga) (kept : Kept history disk)
    (unrivalled : ∀ ref ∈ draftRefs proposalId proposal, Unrivalled disk ref) :
    Kept history (Disk.apply disk (SettingsWrite.saga saga : SettingsWrite Agent)) := by
  have sound := kept.sound
  have alone : ∀ other ∈ disk.sagas, ∀ ref, saga.Touches ref → other.Touches ref →
      other.state.terminal = false → False := by
    intro other member ref mine theirs unfinished
    have ended := (unrivalled ref (fresh.touches mine) other member).1 theirs
    rw [ended] at unfinished
    cases unfinished
  have apart : ∀ other ∈ disk.sagas, ∀ ref sequence, saga.Reserves ref sequence →
      other.Reserves ref sequence → False := by
    intro other member ref sequence mine theirs
    obtain ⟨touched, reserved⟩ := fresh.reserves mine
    exact (unrivalled ref touched other member).2 sequence theirs reserved
  constructor
  case sound =>
    constructor
    case keyed => exact putSaga_keyed sound.keyed
    case fits =>
      intro other written
      obtain rfl | ⟨old, -⟩ := mem_putSaga sound.keyed written
      · exact (fresh.fits sound).moved fun ref => Moved.refl (disk.files ref)
      · exact (sound.fits other old).moved fun ref => Moved.refl (disk.files ref)
    case confirmed =>
      intro other written begun
      obtain rfl | ⟨old, -⟩ := mem_putSaga sound.keyed written
      · exact absurd fresh.intent begun
      · exact sound.confirmed other old begun
    case single =>
      intro first firstMember second secondMember ref firstTouches secondTouches firstOpen
        secondOpen
      obtain rfl | ⟨firstOld, -⟩ := mem_putSaga sound.keyed firstMember
      · obtain rfl | ⟨secondOld, -⟩ := mem_putSaga sound.keyed secondMember
        · rfl
        · exact (alone second secondOld ref firstTouches secondTouches secondOpen).elim
      · obtain rfl | ⟨secondOld, -⟩ := mem_putSaga sound.keyed secondMember
        · exact (alone first firstOld ref secondTouches firstTouches firstOpen).elim
        · exact sound.single first firstOld second secondOld ref firstTouches secondTouches
            firstOpen secondOpen
    case distinct =>
      intro first firstMember second secondMember ref sequence firstReserves secondReserves
      obtain rfl | ⟨firstOld, -⟩ := mem_putSaga sound.keyed firstMember
      · obtain rfl | ⟨secondOld, -⟩ := mem_putSaga sound.keyed secondMember
        · rfl
        · exact (apart second secondOld ref sequence firstReserves secondReserves).elim
      · obtain rfl | ⟨secondOld, -⟩ := mem_putSaga sound.keyed secondMember
        · exact (apart first firstOld ref sequence secondReserves firstReserves).elim
        · exact sound.distinct first firstOld second secondOld ref sequence firstReserves
            secondReserves
    case drafted =>
      intro other stored found
      exact (sound.drafted other stored found).moved fun ref => Moved.refl (disk.files ref)
    case legacy => exact sound.legacy
  case later =>
    intro earlier before
    have after := kept.later earlier before
    refine ⟨after.files, after.proposals, ?_⟩
    intro other written missing
    obtain rfl | ⟨old, -⟩ := mem_putSaga sound.keyed written
    · rw [fresh.settled, fresh.named]
      exact after.files proposalId.owner
    · exact after.sagas other old missing

theorem confirmLocked_keeping {proposalId : ProposalId} (kept : Kept history disk)
    (admitted : Admitted disk proposalId) (envelope : CommandEnvelope) :
    Keeping history disk (confirmLocked now proposalId envelope) unsaid := by
  unfold confirmLocked
  refine Keeping.look ?_
  cases found : disk.proposals proposalId with
  | none => exact Keeping.raise kept
  | some proposal =>
      dsimp only
      cases given : proposal.confirmation with
      | some confirmation =>
          refine replayConfirmation_keeping kept ⟨proposal, found, ?_⟩ confirmation envelope
          rw [given]
          rfl
      | none =>
          refine Keeping.look ?_
          cases stored : sagaOf proposalId disk with
          | some saga =>
              obtain ⟨member, named⟩ := sagaOf_some stored
              -- A saga that went on is one of a confirmed proposal.
              have intent : saga.state = .intentPersisted := by
                by_contra begun
                obtain ⟨other, present, confirmed⟩ := kept.sound.confirmed saga member begun
                rw [named, found] at present
                obtain rfl := Option.some.inj present
                rw [given] at confirmed
                cases confirmed
              have unfinished : saga.state.terminal = false := by rw [intent]; rfl
              refine Keeping.check kept fun _ _ => ?_
              refine Keeping.bind (confirmProposal_keeping kept found saga) ?_
              rintro - later kept ⟨sagas, -, confirmed⟩
              rw [← sagas] at member
              refine beginSaga_keeping ?_
              exact
                { kept := kept
                  fits := kept.sound.fits saga member
                  confirmed := by rwa [named]
                  unfinished := unfinished
                  stored := ⟨saga, member, rfl, unfinished⟩ }
          | none =>
              have drafted := kept.sound.drafted _ proposal found
              have checked : Keeping history disk
                  (newSaga now proposalId.owner proposalId proposal envelope) fun saga later =>
                    later = disk ∧ Fresh disk proposalId proposal saga := by
                refine Meets.mono (newSaga_still drafted envelope) ?_ ?_ ?_
                · rintro later rfl
                  exact kept
                · rintro saga later ⟨rfl, fresh⟩
                  exact ⟨kept, rfl, fresh⟩
                · rintro - later rfl
                  exact kept
              refine Keeping.bind checked ?_
              rintro saga later - ⟨same, fresh⟩
              rw [same]
              obtain ⟨current, read, -, based, -⟩ := fresh.base
              have begun := fresh.begin kept
                (admitted proposal found given stored ⟨current, read, based⟩)
              refine Keeping.bind (Keeping.write (fun _ last =>
                last = Disk.apply disk (SettingsWrite.saga saga : SettingsWrite Agent)) kept begun rfl) ?_
              rintro - middle kept rfl
              refine Keeping.bind (confirmProposal_keeping kept found saga) ?_
              rintro - last kept ⟨sagas, -, confirmed⟩
              have member : saga ∈ last.sagas := by
                rw [sagas]
                exact mem_putSaga_self saga disk.sagas
              have unfinished : saga.state.terminal = false := by rw [fresh.intent]; rfl
              refine beginSaga_keeping ?_
              exact
                { kept := kept
                  fits := kept.sound.fits saga member
                  confirmed := by rwa [fresh.named]
                  unfinished := unfinished
                  stored := ⟨saga, member, rfl, unfinished⟩ }

/-- `confirm` keeps the invariant where no rival is in the way. -/
theorem confirm_keeping {proposalId : ProposalId} (kept : Kept history disk)
    (admitted : Admitted disk proposalId) (envelope : CommandEnvelope) :
    Keeping history disk (confirm now port proposalId envelope) unsaid := by
  unfold confirm
  refine Keeping.check kept fun _ _ => ?_
  refine Keeping.bind (confirmLocked_keeping kept admitted envelope) ?_
  intro saga later kept _
  cases saga.status with
  | appliedBeforeStart => exact Keeping.pure kept trivial
  | appliedOnBranch => exact Keeping.pure kept trivial
  | failed => exact Keeping.raise kept
  | waitingSafePoint =>
      refine Keeping.bind (applyPendingIfSafe_keeping kept proposalId.owner) ?_
      intro result last kept _
      cases result with
      | some result => exact Keeping.pure kept trivial
      | none => exact Keeping.pure kept trivial

/-! ## Starts and recoveries -/

theorem ensureSaga_keeping (kept : Kept history disk) (ref : InstanceRef)
    (member : saga.state.terminal = false → saga ∈ disk.sagas) :
    Keeping history disk (ensureSaga now ref saga) fun _ later =>
      saga.state.terminal = true → later = disk := by
  unfold ensureSaga
  split
  · exact Keeping.pure kept fun _ => rfl
  · next open' =>
      have unfinished : saga.state.terminal = false := by simpa using open'
      have never : saga.state.terminal = true → ∀ later : SettingsDisk Agent, later = disk := by
        intro ended
        rw [unfinished] at ended
        cases ended
      split
      · exact Keeping.raise kept
      · next begun =>
          have carried := kept.carry (member unfinished) unfinished begun
          refine Keeping.bind (resumeSyncTargets_keeping carried) fun next later _ here => ?_
          split
          · refine Keeping.bind (resumeLocalSource_keeping here) fun next later _ here => ?_
            refine Keeping.bind (completeLocalSaga_keeping here) ?_
            exact fun _ last kept _ => Keeping.pure kept fun ended => never ended last
          · exact Keeping.pure here.kept fun ended => never ended later

/-- `ensure_before_start` goes on with the one saga of the instance that is unfinished. -/
theorem ensureBeforeStart_keeping (kept : Kept history disk) (ref : InstanceRef) :
    Keeping history disk (ensureBeforeStart now ref) unsaid := by
  unfold ensureBeforeStart
  refine Keeping.look ?_
  have sound := kept.sound
  have listed : (sagasFor ref true disk).Nodup :=
    List.Nodup.filter _ (List.Nodup.of_map _ sound.keyed)
  -- The disk is as it was until the unfinished saga has its turn.
  refine Meets.forEach (motive := fun done later => Kept history later ∧
    ((∀ saga ∈ done, saga.state.terminal = true) → later = disk)) ?_ ?_ ⟨kept, fun _ => rfl⟩ ?_
  · rintro done saga rest later split ⟨kept, same⟩
    have member : saga.state.terminal = false → saga ∈ later.sagas := by
      intro unfinished
      have here : saga ∈ sagasFor ref true disk := by
        rw [split]
        exact List.mem_append_right _ List.mem_cons_self
      obtain ⟨stored, mine⟩ := List.mem_filter.mp here
      rw [same ?_]
      · exact stored
      · intro other before
        have there : other ∈ sagasFor ref true disk := by
          rw [split]
          exact List.mem_append_left _ before
        obtain ⟨present, theirs⟩ := List.mem_filter.mp there
        by_contra running
        have touches : ∀ saga : Saga, (saga.owns ref || (true && saga.syncs ref)) = true →
            saga.Touches ref := by
          intro saga either
          simpa [Saga.Touches] using either
        have one := sound.single other present saga stored ref (touches other theirs)
          (touches saga mine) (by simpa using running) unfinished
        subst one
        rw [split] at listed
        exact (List.nodup_append.mp listed).2.2 other before other List.mem_cons_self rfl
    refine Meets.mono (ensureSaga_keeping kept ref member) (fun _ => id) ?_ fun _ _ => id
    rintro - last ⟨kept, still⟩
    refine ⟨kept, ?_⟩
    intro every
    rw [still (every saga (List.mem_append_right _ (List.mem_singleton_self _)))]
    exact same fun other before => every other (List.mem_append_left _ before)
  · exact fun _ later holds => holds.1
  · exact fun later holds => ⟨holds.1, trivial⟩

theorem reported_keeping {script : SettingsScript Agent Unit}
    (keeping : Keeping history disk script unsaid) :
    Keeping history disk (reported script) unsaid := by
  unfold reported
  refine Meets.rescue (Meets.mono keeping (fun _ => id) (fun _ _ => id) ?_)
  intro error later kept
  cases error with
  | harness => exact Meets.pure kept ⟨kept, trivial⟩
  | _ => exact Meets.raise kept kept

theorem recoverSaga_keeping (kept : Kept history disk) (proposalId : ProposalId) :
    Keeping history disk (recoverSaga now port proposalId) unsaid := by
  unfold recoverSaga
  refine Keeping.look ?_
  cases found : sagaOf proposalId disk with
  | none => exact Keeping.pure kept trivial
  | some saga =>
      dsimp only
      split
      · exact Keeping.pure kept trivial
      · split
        · refine reported_keeping (Keeping.bind (confirm_keeping kept ?_ _) ?_)
          · intro _ _ _ absent
            obtain ⟨member, -⟩ := sagaOf_some found
            exact absurd rfl (sagaOf_none.mp absent saga member)
          · exact fun _ _ kept _ => Keeping.pure kept trivial
        · refine reported_keeping (Keeping.bind (applyPendingIfSafe_keeping kept _) ?_)
          exact fun _ _ kept _ => Keeping.pure kept trivial

theorem recover_keeping (kept : Kept history disk) (listing : List ProposalId) :
    Keeping history disk (recover now port listing) unsaid := by
  unfold recover
  refine Meets.forEach (motive := fun _ later => Kept history later) ?_ ?_ kept ?_
  · intro _ proposalId _ later _ kept
    refine Meets.mono (recoverSaga_keeping kept proposalId) (fun _ => id) ?_ fun _ _ => id
    exact fun _ _ ended => ended.1
  · exact fun _ _ kept => kept
  · exact fun _ kept => ⟨kept, trivial⟩

/-- The targets of a draft have a revision. -/
theorem configIdentities_calm (taskId : Identifier) (ids : List Identifier) :
    CalmAt disk (configIdentities now taskId ids) fun identities later =>
      identities.map Prod.fst = ids ∧
        ∀ instanceId ∈ ids, (pointerState (later.files ⟨taskId, instanceId⟩)).isSome := by
  induction ids generalizing disk with
  | nil => exact CalmAt.pure ⟨rfl, fun _ member => absurd member List.not_mem_nil⟩
  | cons instanceId rest ih =>
      unfold configIdentities
      refine CalmAt.bind (readOrMaterialize_calm _) ?_
      rintro current middle - ⟨found, -⟩
      have present : (pointerState (middle.files ⟨taskId, instanceId⟩)).isSome := by
        rw [readCurrent_some found]
        rfl
      refine CalmAt.bind ih ?_
      rintro identities later calm ⟨named, others⟩
      refine CalmAt.pure ⟨congrArg (instanceId :: ·) named, ?_⟩
      intro other member
      obtain rfl | member := List.mem_cons.mp member
      · exact (calm.files _).present present
      · exact others other member

theorem draftProposal_calm (ref : InstanceRef) (request : ProposalRequest) (observed : Boundary)
    (key : String) :
    CalmAt disk (draftProposal now ref request observed) fun proposal later =>
      Drafted later ⟨ref, key⟩ proposal := by
  unfold draftProposal
  refine CalmAt.look (CalmAt.check fun _ _ => CalmAt.look (CalmAt.check fun pending _ => ?_))
  refine CalmAt.check fun _ _ => CalmAt.look (CalmAt.check fun facts _ => ?_)
  refine CalmAt.bind (readOrMaterialize_calm ref) ?_
  rintro current middle - ⟨found, -⟩
  refine CalmAt.check fun _ _ => CalmAt.check fun _ fenced => ?_
  have base : request.baseRevision = settledNumber (middle.files ref) :=
    (ensure_eq_ok.mp fenced).symm.trans (readCurrent_settled found).symm
  refine CalmAt.look (CalmAt.check fun revision _ => CalmAt.check fun _ _ => ?_)
  refine CalmAt.look (CalmAt.check fun _ _ => CalmAt.look (CalmAt.check fun ids _ => ?_))
  refine CalmAt.bind (configIdentities_calm ref.taskId ids) ?_
  rintro identities later calm ⟨named, present⟩
  refine CalmAt.check fun mode _ => CalmAt.pure ⟨?_, ?_⟩
  · rw [base]
    exact (calm.files ref).settled
  · intro instanceId member
    unfold Proposal.syncInstanceIds at member
    rw [named] at member
    exact present instanceId member

theorem propose_keeping (kept : Kept history disk) (ref : InstanceRef)
    (request : ProposalRequest) :
    Keeping history disk (propose now port ref request) unsaid := by
  unfold propose
  refine Keeping.check kept fun _ _ => Keeping.look (Keeping.check kept fun facts _ => ?_)
  refine Keeping.look ?_
  cases found : disk.proposals ⟨ref, request.envelope.idempotencyKey⟩ with
  | some existing =>
      exact Keeping.check kept fun _ _ => Keeping.pure kept trivial
  | none =>
      refine Keeping.look (Keeping.check kept fun observed _ => ?_)
      refine Keeping.bind (Keeping.calm kept
        (draftProposal_calm ref request observed request.envelope.idempotencyKey)) ?_
      rintro proposal later kept ⟨calm, drafted⟩
      have absent : later.proposals ⟨ref, request.envelope.idempotencyKey⟩ = none := by
        rw [calm.proposals]
        exact found
      have written := kept.propose _ drafted (by
        intro stored present
        rw [absent] at present
        cases present)
      refine Keeping.bind (Keeping.write unsaid kept written.1 trivial) ?_
      exact fun _ last kept _ => Keeping.pure kept trivial

end

end RuntimeSettingsService

end DesignHarness
