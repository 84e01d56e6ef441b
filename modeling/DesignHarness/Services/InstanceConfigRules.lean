import DesignHarness.Services.TaskConfigRules

/-!
# What the instance configuration services do to consistent directories

A bundle is published and made current exactly when its number is open, whoever builds it:
`materialize` for an instance without a revision, the rebase of a task for one that was built on
an older task revision.
-/

namespace DesignHarness

open Library

/-! ## Bundles -/

section

variable {process : Option ConfigSnapshot} {revision : TaskConfigRevision}
  {overrides : RuntimeOverrides} {requireCurrentApproval : Bool} {origin : BundleOrigin}
  {bundle : InstanceBundle}

/-- What a bundle that was built says about itself. -/
structure BuiltFrom (revision : TaskConfigRevision) (overrides : RuntimeOverrides)
    (origin : BundleOrigin) (bundle : InstanceBundle) : Prop where
  sequence : bundle.manifest.sequence = origin.parent.elim 1 fun parent => parent + 1
  parent : bundle.manifest.parent = origin.parent
  task : bundle.manifest.taskConfigRevision = revision.sequence
  overrides : bundle.manifest.overrides = overrides
  applied : bundle.manifest.applyStatus = .applied
  accepted : validateManifest bundle.manifest = .ok ()

theorem buildBundle_eq_ok
    (built : buildBundle process revision overrides requireCurrentApproval origin = .ok bundle) :
    BuiltFrom revision overrides origin bundle := by
  unfold buildBundle at built
  obtain ⟨_, -, built⟩ := bind_eq_ok.mp built
  obtain ⟨bindings, -, built⟩ := bind_eq_ok.mp built
  obtain ⟨_, accepted, built⟩ := bind_eq_ok.mp built
  obtain rfl := Except.ok.inj built
  exact ⟨rfl, rfl, rfl, rfl, rfl, accepted⟩

end

section

variable {files : InstanceConfigFiles} {revision : TaskConfigRevision}
  {overrides : RuntimeOverrides} {origin : BundleOrigin} {bundle : InstanceBundle}

/-- The bundle is the next one of the directory. -/
structure BundleFollows (files : InstanceConfigFiles) (bundle : InstanceBundle) : Prop where
  sequence : bundle.manifest.sequence = files.next
  parent : bundle.manifest.parent = files.pair.map fun pair => pair.2.manifest.sequence
  applied : bundle.manifest.applyStatus = .applied
  accepted : validateManifest bundle.manifest = .ok ()

theorem BuiltFrom.follows (built : BuiltFrom revision overrides origin bundle)
    (parent : origin.parent = files.pair.map fun pair => pair.2.manifest.sequence) :
    BundleFollows files bundle where
  sequence := by
    rw [built.sequence, parent]
    unfold Revisions.next
    cases files.pair <;> rfl
  parent := built.parent.trans parent
  applied := built.applied
  accepted := built.accepted

theorem BundleFollows.beyond (inv : files.Consistent InstanceFits)
    (follows : BundleFollows files bundle) : files.Beyond bundle.manifest.sequence :=
  follows.sequence ▸ inv.beyond_next

theorem BundleFollows.parented (inv : files.Consistent InstanceFits)
    (follows : BundleFollows files bundle) {parent : Nat}
    (named : bundle.manifest.parent = some parent) :
    parent < bundle.manifest.sequence ∧ (files.document parent).isSome := by
  rw [follows.parent] at named
  obtain ⟨pair, found, rfl⟩ := Option.map_eq_some_iff.mp named
  have next : files.next = pair.2.manifest.sequence + 1 := by
    unfold Revisions.next
    rw [found]
    rfl
  refine ⟨by rw [follows.sequence, next]; exact Nat.lt_succ_self _, ?_⟩
  exact Option.isSome_iff_exists.mpr ⟨_, inv.pair_revision found⟩

theorem BundleFollows.filled (inv : files.Consistent InstanceFits)
    (follows : BundleFollows files bundle) :
    (files.fill bundle.manifest.sequence bundle).Consistent InstanceFits := by
  refine inv.fill (follows.beyond inv) rfl ?_ fun _ => follows.parented inv
  rw [follows.sequence]
  unfold Revisions.next
  cases files.pair with
  | none => exact Nat.one_pos
  | some pair => exact Nat.succ_pos _

/-- Publishing a bundle that follows succeeds exactly when its number is open. -/
theorem writeInstanceRevision_meets (inv : files.Consistent InstanceFits)
    (follows : BundleFollows files bundle) {condition : InstanceConfigFiles → Prop}
    (unchanged : condition files)
    (published : condition (files.fill bundle.manifest.sequence bundle)) :
    Meets (writeInstanceRevision bundle) files condition
      (fun _ later => files.Open bundle.manifest.sequence bundle ∧
        later = files.fill bundle.manifest.sequence bundle)
      fun _ _ => ¬ files.Open bundle.manifest.sequence bundle := by
  have noLoop : bundle.manifest.parent ≠ some bundle.manifest.sequence := fun loop =>
    absurd (follows.parented inv loop).1 (Nat.lt_irrefl _)
  unfold writeInstanceRevision
  refine Meets.checked follows.accepted (Meets.checked (ensure_of noLoop) ?_)
  refine Meets.bind ((publishOnce_meets unchanged published).mono (fun _ => id) ?_ fun _ _ => And.left)
  rintro _ later ⟨isOpen, rfl⟩
  exact Meets.pure published ⟨isOpen, rfl⟩

/-- Once the bundle stands under its number it can be made current. -/
theorem setCurrent_meets (inv : files.Consistent InstanceFits)
    (follows : BundleFollows files bundle)
    (isOpen : files.Open bundle.manifest.sequence bundle) {now : Timestamp} {expected : Nat}
    (read : (files.pair.elim 0 fun pair => pair.1.revision) = expected)
    {condition : InstanceConfigFiles → Prop}
    (published : condition (files.fill bundle.manifest.sequence bundle))
    (pointed : ∀ state : InstanceConfigState, state.currentRevision = bundle.manifest.sequence →
      state.pendingRevision = none →
        condition ((files.fill bundle.manifest.sequence bundle).point state))
    {raises : Raised → InstanceConfigFiles → Prop} :
    Meets (setCurrent bundle.manifest.sequence expected now)
      (files.fill bundle.manifest.sequence bundle) condition
      (fun state later => state.currentRevision = bundle.manifest.sequence ∧
        state.pendingRevision = none ∧
        later = (files.fill bundle.manifest.sequence bundle).point state) raises := by
  have filled := follows.filled inv
  have kept : (files.fill bundle.manifest.sequence bundle).pair = files.pair :=
    inv.pair_fill (follows.beyond inv)
  unfold setCurrent
  refine Meets.looked (currentInstanceConfig_eq filled) (Meets.checked rfl ?_)
  rw [kept]
  refine Meets.checked (ensure_of ?_) ?_
  · rw [← read]
    cases files.pair <;> rfl
  refine Meets.looked (readInstanceRevision_eq filled isOpen.document_fill) (Meets.checked rfl ?_)
  refine Meets.checked (ensure_of follows.applied) (Meets.checked (ensure_of ?_) ?_)
  · rw [follows.parent]
    cases files.pair <;> rfl
  refine Meets.bind (Meets.write published published (pointed _ rfl rfl) ?_)
  exact Meets.pure (pointed _ rfl rfl) ⟨rfl, rfl, rfl⟩

end

section

variable {disk : ConfigDisk} {taskId instanceId : Identifier} {bundle : InstanceBundle}

/-- Publishing keeps every revision built on a stored task revision. -/
theorem ConsistentConfigs.basedFill (inv : ConsistentConfigs disk)
    (based : ((disk.task taskId).document bundle.manifest.taskConfigRevision).isSome)
    {sequence : Nat} {stored : InstanceBundle}
    (found : ((disk.agentInstance taskId instanceId).fill bundle.manifest.sequence bundle).document
      sequence = some stored) :
    ((disk.task taskId).document stored.manifest.taskConfigRevision).isSome := by
  by_cases same : sequence = bundle.manifest.sequence
  · subst same
    by_cases isOpen : (disk.agentInstance taskId instanceId).Open bundle.manifest.sequence bundle
    · rw [isOpen.document_fill] at found
      obtain rfl := Option.some.inj found
      exact based
    · rw [Revisions.fill_of_not_open isOpen] at found
      exact inv.based taskId instanceId _ _ found
  · rw [Revisions.document_fill_other same] at found
    exact inv.based taskId instanceId _ _ found

/-- A bundle that follows becomes current exactly when its number is open. -/
theorem publishBundle_meets (inv : ConsistentConfigs disk)
    (follows : BundleFollows (disk.agentInstance taskId instanceId) bundle)
    (based : ((disk.task taskId).document bundle.manifest.taskConfigRevision).isSome)
    {expected : Nat}
    (read : ((disk.agentInstance taskId instanceId).pair.elim 0 fun pair => pair.1.revision) =
      expected) :
    Meets (publishBundle taskId instanceId bundle expected) disk ConsistentConfigs
      (fun state later =>
        (disk.agentInstance taskId instanceId).Open bundle.manifest.sequence bundle ∧
        (∃ files, later = disk.withInstance taskId instanceId files) ∧
        (later.agentInstance taskId instanceId).pair = some (state, bundle))
      fun _ _ =>
        ¬ (disk.agentInstance taskId instanceId).Open bundle.manifest.sequence bundle := by
  have directory := inv.instances taskId instanceId
  have filled : ConsistentConfigs (disk.withInstance taskId instanceId
      ((disk.agentInstance taskId instanceId).fill bundle.manifest.sequence bundle)) :=
    inv.withInstance (follows.filled directory) fun _ _ => inv.basedFill based
  have pointed : (disk.agentInstance taskId instanceId).Open bundle.manifest.sequence bundle →
      ∀ state : InstanceConfigState, state.currentRevision = bundle.manifest.sequence →
        state.pendingRevision = none → ConsistentConfigs (disk.withInstance taskId instanceId
          (((disk.agentInstance taskId instanceId).fill bundle.manifest.sequence bundle).point
            state)) := by
    intro isOpen state current settled
    refine inv.withInstance ?_ fun _ _ => inv.basedFill based
    refine (follows.filled directory).point ?_ ⟨follows.applied, settled⟩
    change ((disk.agentInstance taskId instanceId).fill bundle.manifest.sequence bundle).document
      state.currentRevision = some bundle
    rw [current]
    exact isOpen.document_fill
  unfold publishBundle
  refine Meets.bind (Meets.onInstance ((writeInstanceRevision_meets directory follows ?_
    filled).mono (fun _ => id) ?_ fun _ _ => id))
  · rw [ConfigDisk.withInstance_self]
    exact inv
  rintro _ later ⟨isOpen, rfl⟩
  refine Meets.onInstance ?_
  rw [ConfigDisk.agentInstance_withInstance]
  simp only [ConfigDisk.withInstance_withInstance]
  refine (setCurrent_meets directory follows isOpen read filled (pointed isOpen)).mono
    (fun _ => id) ?_ fun _ _ => id
  rintro state later ⟨current, -, rfl⟩
  refine ⟨isOpen, ⟨_, rfl⟩, ?_⟩
  rw [ConfigDisk.agentInstance_withInstance]
  refine Revisions.pair_point ?_
  change ((disk.agentInstance taskId instanceId).fill bundle.manifest.sequence bundle).document
    state.currentRevision = some bundle
  rw [current]
  exact isOpen.document_fill

end

/-- Who builds the first revision of an instance. -/
def materializer : Actor := ⟨.system, "image_config_materializer"⟩

section

variable (process : Option ConfigSnapshot) (now : Timestamp)

/-- The next bundle of an instance, built on a task revision. -/
def nextBundle (files : InstanceConfigFiles) (overrides : RuntimeOverrides) (createdBy : Actor)
    (requireCurrentApproval : Bool) (revision : TaskConfigRevision) : Outcome InstanceBundle :=
  buildBundle process revision overrides requireCurrentApproval
    ⟨createdBy, now, files.pair.map fun pair => pair.2.manifest.sequence⟩

/-- The first revision of an instance finds its number open. -/
def FirstOpen (revision : TaskConfigRevision) (files : InstanceConfigFiles) : Prop :=
  ∀ bundle, files.pair = none →
    nextBundle process now files {} materializer false revision = .ok bundle →
      files.Open bundle.manifest.sequence bundle

/-- The first revision of an instance can be built. -/
def CanBuildFirst (revision : TaskConfigRevision) (files : InstanceConfigFiles) : Prop :=
  files.pair = none →
    ∃ bundle, nextBundle process now files {} materializer false revision = .ok bundle

/-- Materializing finds every number open that it fills. -/
def MaterializeOpen (disk : ConfigDisk) (taskId instanceId : Identifier) : Prop :=
  (disk.agentInstance taskId instanceId).pair = none →
    PinOpen process now (disk.task taskId) ∧
      ∀ current, (pinned process now (disk.task taskId)).pair = some current →
        FirstOpen process now current.2 (disk.agentInstance taskId instanceId)

/-- Materializing is accepted: the configuration of the task can be pinned and makes a bundle. -/
def CanMaterialize (disk : ConfigDisk) (taskId instanceId : Identifier) : Prop :=
  (disk.agentInstance taskId instanceId).pair = none →
    CanPin process (disk.record taskId).created (disk.task taskId) ∧
      ∀ current, (pinned process now (disk.task taskId)).pair = some current →
        CanBuildFirst process now current.2 (disk.agentInstance taskId instanceId)

end

section

variable {process : Option ConfigSnapshot} {now : Timestamp} {disk : ConfigDisk}
  {taskId instanceId : Identifier} {overrides : RuntimeOverrides} {createdBy : Actor}
  {requireCurrentApproval : Bool}

theorem nextBundle_eq_ok {files : InstanceConfigFiles} {revision : TaskConfigRevision}
    {bundle : InstanceBundle}
    (built : nextBundle process now files overrides createdBy requireCurrentApproval revision =
      .ok bundle) :
    BundleFollows files bundle ∧ bundle.manifest.taskConfigRevision = revision.sequence :=
  ⟨(buildBundle_eq_ok built).follows rfl, (buildBundle_eq_ok built).task⟩

/-- The task revision of a current bundle can be read. -/
theorem launchConfig_meets (inv : ConsistentConfigs disk) {current : CurrentInstanceConfig}
    (found : (disk.agentInstance taskId instanceId).pair = some (current.state, current.bundle)) :
    Meets (launchConfig taskId current) disk ConsistentConfigs
      (fun value later => value = current ∧ later = disk) fun _ _ => False := by
  have present := (inv.instances taskId instanceId).pair_revision found
  obtain ⟨revision, based⟩ := Option.isSome_iff_exists.mp (inv.based _ _ _ _ present)
  unfold launchConfig
  refine Meets.looked (readTaskRevision_eq (inv.tasks taskId) based) (Meets.checked rfl ?_)
  exact Meets.pure inv ⟨rfl, rfl⟩

/-- What the next bundle of an instance is built on. -/
theorem buildRevision_meets (inv : ConsistentConfigs disk) :
    Meets (buildRevision process now taskId instanceId overrides createdBy requireCurrentApproval)
      disk ConsistentConfigs
      (fun bundle later => PinOpen process now (disk.task taskId) ∧
        later = disk.withTask taskId (pinned process now (disk.task taskId)) ∧
        ConsistentConfigs later ∧
        ∃ current, (pinned process now (disk.task taskId)).pair = some current ∧
          nextBundle process now (disk.agentInstance taskId instanceId) overrides createdBy
            requireCurrentApproval current.2 = .ok bundle)
      fun _ _ => CanPin process (disk.record taskId).created (disk.task taskId) →
        (∀ current, (pinned process now (disk.task taskId)).pair = some current →
          ∃ bundle, nextBundle process now (disk.agentInstance taskId instanceId) overrides
            createdBy requireCurrentApproval current.2 = .ok bundle) →
          ¬ PinOpen process now (disk.task taskId) := by
  unfold buildRevision
  refine Meets.bind (readInstanceConfig_meets inv inv ?_)
  refine Meets.bind ((getCurrent_meets inv).mono (fun _ => id) ?_ fun _ _ closed can _ => closed can)
  rintro ⟨state, revision, legacy⟩ later ⟨isOpen, same, found, consistent⟩
  rw [Option.map_map]
  refine Meets.lift consistent ?_ ?_
  · intro value returned
    exact ⟨isOpen, same, consistent, _, found, returned⟩
  · intro error failed _ canBuild
    obtain ⟨bundle, built⟩ := canBuild _ found
    cases built.symm.trans failed

/-- The bundle that was just built becomes current exactly when its number is open. -/
theorem publishBuilt_meets (inv : ConsistentConfigs disk)
    {current : TaskConfigState × TaskConfigRevision} {bundle : InstanceBundle}
    (found : (disk.task taskId).pair = some current)
    (built : nextBundle process now (disk.agentInstance taskId instanceId) overrides createdBy
      requireCurrentApproval current.2 = .ok bundle) {expected : Nat}
    (read : ((disk.agentInstance taskId instanceId).pair.elim 0 fun pair => pair.1.revision) =
      expected) :
    Meets (publishBundle taskId instanceId bundle expected) disk ConsistentConfigs
      (fun state later =>
        (disk.agentInstance taskId instanceId).Open bundle.manifest.sequence bundle ∧
        (∃ files, later = disk.withInstance taskId instanceId files) ∧
        (later.agentInstance taskId instanceId).pair = some (state, bundle) ∧
        ConsistentConfigs later)
      fun _ _ =>
        ¬ (disk.agentInstance taskId instanceId).Open bundle.manifest.sequence bundle := by
  obtain ⟨follows, task⟩ := nextBundle_eq_ok built
  have based : ((disk.task taskId).document bundle.manifest.taskConfigRevision).isSome := by
    rw [task]
    exact Option.isSome_iff_exists.mpr ⟨_, (inv.tasks taskId).pair_revision found⟩
  refine (publishBundle_meets inv follows based read).kept.mono (fun _ => id) ?_ fun _ _ => And.left
  rintro state later ⟨⟨isOpen, only, current⟩, consistent⟩
  exact ⟨isOpen, only, current, consistent⟩

/-- Materializing succeeds exactly when the numbers it fills are open. -/
theorem materialize_meets (inv : ConsistentConfigs disk) :
    Meets (materialize process now taskId instanceId) disk ConsistentConfigs
      (fun value later => MaterializeOpen process now disk taskId instanceId ∧
        (later.agentInstance taskId instanceId).pair = some (value.state, value.bundle) ∧
        ((disk.agentInstance taskId instanceId).pair = none →
          ∃ current files, (pinned process now (disk.task taskId)).pair = some current ∧
            value.bundle.manifest.taskConfigRevision = current.2.sequence ∧
            later = (disk.withTask taskId (pinned process now (disk.task taskId))).withInstance
              taskId instanceId files))
      fun _ _ => CanMaterialize process now disk taskId instanceId →
        ¬ MaterializeOpen process now disk taskId instanceId := by
  unfold materialize
  refine Meets.bind (readInstanceConfig_meets inv inv ?_)
  cases found : (disk.agentInstance taskId instanceId).pair with
  | some current =>
      refine (launchConfig_meets inv found).mono (fun _ => id) ?_ fun _ _ => False.elim
      rintro _ later ⟨rfl, rfl⟩
      refine ⟨?_, found, ?_⟩
      · intro absent
        rw [found] at absent
        cases absent
      · intro absent
        cases absent
  | none =>
      refine Meets.bind ((buildRevision_meets inv).mono (fun _ => id) ?_ ?_)
      case refine_2 =>
        intro _ _ closed can opens
        obtain ⟨canPin, canBuild⟩ := can found
        exact closed canPin (fun current pair => canBuild current pair found) (opens found).1
      rintro bundle middle ⟨isOpen, same, consistent, current, pair, built⟩
      have untouched : middle.agentInstance taskId instanceId =
          disk.agentInstance taskId instanceId := by
        rw [same, ConfigDisk.agentInstance_withTask]
      have task : (middle.task taskId).pair = some current := by
        rw [same, ConfigDisk.task_withTask, pair]
      have opens : MaterializeOpen process now disk taskId instanceId ↔
          (disk.agentInstance taskId instanceId).Open bundle.manifest.sequence bundle := by
        constructor
        · intro all
          exact (all found).2 current pair bundle found built
        · rintro free -
          refine ⟨isOpen, ?_⟩
          rintro other pair' bundle' - built'
          obtain rfl := Option.some.inj (pair.symm.trans pair')
          obtain rfl := Except.ok.inj (built.symm.trans built')
          exact free
      rw [← untouched] at built found opens
      refine Meets.bind ((publishBuilt_meets consistent task built (by rw [found]; rfl)).mono
        (fun _ => id) ?_ fun _ _ taken _ all => taken (opens.mp all))
      rintro state later ⟨free, ⟨files, only⟩, stored, consistent⟩
      refine Meets.bind (readInstanceConfig_meets consistent consistent ?_)
      rw [stored]
      refine (launchConfig_meets consistent stored).mono (fun _ => id) ?_ fun _ _ => False.elim
      rintro _ last ⟨rfl, rfl⟩
      refine ⟨opens.mpr free, stored, fun _ => ⟨current, files, pair, ?_, ?_⟩⟩
      · exact (nextBundle_eq_ok built).2
      · rw [only, same]

end

end DesignHarness
