import DesignHarness.Services.InstanceConfigRules

/-!
# What a rebase of unstarted tasks does to consistent directories

The loop over the instances fills at most one number in each directory, so its outcome is decided
by the directories as they stand before it: it ends exactly when every number it fills is open.
-/

namespace DesignHarness

open Library

section

variable (process : Option ConfigSnapshot) (now : Timestamp) (actor : Actor)

/-- A bundle that replaces one built on an older task revision finds its number open. -/
def RenewedOpen (target : TaskConfigRevision) (files : InstanceConfigFiles) : Prop :=
  ∀ current bundle, files.pair = some current →
    current.2.manifest.taskConfigRevision ≠ target.sequence →
      nextBundle process now files current.2.manifest.overrides actor true target = .ok bundle →
        files.Open bundle.manifest.sequence bundle

/-- Rebasing an instance finds the number open that it fills. -/
structure InstanceOpen (target : TaskConfigRevision) (files : InstanceConfigFiles) : Prop where
  first : FirstOpen process now target files
  renewed : RenewedOpen process now actor target files

/-- The bundles that rebasing an instance needs can be built. -/
structure CanRebaseInstance (target : TaskConfigRevision) (files : InstanceConfigFiles) :
    Prop where
  first : CanBuildFirst process now target files
  renewed : ∀ current, files.pair = some current →
    current.2.manifest.taskConfigRevision ≠ target.sequence →
      ∃ bundle, nextBundle process now files current.2.manifest.overrides actor true target =
        .ok bundle

end

/-- The instance was built on the task revision. -/
def BuiltOn (target : TaskConfigRevision) (files : InstanceConfigFiles) : Prop :=
  ∃ current, files.pair = some current ∧ current.2.manifest.taskConfigRevision = target.sequence

section

variable {process : Option ConfigSnapshot} {now : Timestamp} {actor : Actor}
  {target : TaskConfigRevision} {files : InstanceConfigFiles}

theorem BuiltOn.isOpen (built : BuiltOn target files) : InstanceOpen process now actor target files := by
  obtain ⟨current, found, same⟩ := built
  constructor
  · intro bundle absent
    rw [found] at absent
    cases absent
  · intro other bundle found' stale
    obtain rfl := Option.some.inj (found.symm.trans found')
    exact absurd same stale

theorem BuiltOn.canRebase (built : BuiltOn target files) :
    CanRebaseInstance process now actor target files := by
  obtain ⟨current, found, same⟩ := built
  constructor
  · intro absent
    rw [found] at absent
    cases absent
  · intro other found' stale
    obtain rfl := Option.some.inj (found.symm.trans found')
    exact absurd same stale

end

/-! ## One instance -/

/-- Nothing changed but the directory of one instance and the fields of its record. -/
structure OnlyInstance (taskId instanceId : Identifier) (disk later : ConfigDisk) : Prop where
  tasks : ∀ other, later.task other = disk.task other
  instances : ∀ otherTask otherInstance, ¬ (otherTask = taskId ∧ otherInstance = instanceId) →
    later.agentInstance otherTask otherInstance = disk.agentInstance otherTask otherInstance
  records : ∀ other, other ≠ taskId → later.record other = disk.record other
  listed : (later.record taskId).instances.map AgentInstance.instanceId =
    (disk.record taskId).instances.map AgentInstance.instanceId
  created : (later.record taskId).created = (disk.record taskId).created

section

variable {disk later last : ConfigDisk} {taskId instanceId : Identifier}

theorem OnlyInstance.refl : OnlyInstance taskId instanceId disk disk :=
  ⟨fun _ => rfl, fun _ _ _ => rfl, fun _ _ => rfl, rfl, rfl⟩

theorem OnlyInstance.trans (first : OnlyInstance taskId instanceId disk later)
    (second : OnlyInstance taskId instanceId later last) :
    OnlyInstance taskId instanceId disk last where
  tasks other := (second.tasks other).trans (first.tasks other)
  instances _ _ apart :=
    (second.instances _ _ apart).trans (first.instances _ _ apart)
  records other apart := (second.records other apart).trans (first.records other apart)
  listed := second.listed.trans first.listed
  created := second.created.trans first.created

theorem OnlyInstance.withInstance {files : InstanceConfigFiles} :
    OnlyInstance taskId instanceId disk (disk.withInstance taskId instanceId files) where
  tasks _ := ConfigDisk.task_withInstance
  instances _ _ apart := ConfigDisk.agentInstance_withInstance_ne apart
  records _ _ := ConfigDisk.record_withInstance
  listed := by rw [ConfigDisk.record_withInstance]
  created := by rw [ConfigDisk.record_withInstance]

theorem setConfigRevision_instanceId {sequence : Nat} {item : AgentInstance} :
    (setConfigRevision instanceId sequence item).instanceId = item.instanceId := by
  unfold setConfigRevision
  split <;> rfl

/-- The instances keep their ids. -/
theorem instances_configRevision {record : TaskRecord} {sequence : Nat} :
    (Disk.apply record (TaskRecordWrite.configRevision instanceId sequence)).instances.map
        AgentInstance.instanceId =
      record.instances.map AgentInstance.instanceId := by
  change (record.instances.map (setConfigRevision instanceId sequence)).map
    AgentInstance.instanceId = _
  rw [List.map_map]
  exact List.map_congr_left fun item _ => setConfigRevision_instanceId

/-- The instance has a record. -/
def Listed (disk : ConfigDisk) (taskId instanceId : Identifier) : Prop :=
  instanceId ∈ (disk.record taskId).instances.map AgentInstance.instanceId

/-- The projection of a listed instance follows its revision. -/
theorem reconcileInstanceProjection_meets (inv : ConsistentConfigs disk) {sequence : Nat} :
    Meets (reconcileInstanceProjection taskId instanceId sequence) disk ConsistentConfigs
      (fun _ later => OnlyInstance taskId instanceId disk later ∧
        later.agentInstance taskId instanceId = disk.agentInstance taskId instanceId ∧
        ConsistentConfigs later)
      fun _ _ => ¬ Listed disk taskId instanceId := by
  unfold reconcileInstanceProjection
  refine Meets.looked rfl ?_
  cases found : (disk.record taskId).instances.find? fun item => item.instanceId = instanceId with
  | none =>
      refine Meets.raise inv fun listed => ?_
      obtain ⟨item, member, named⟩ := List.mem_map.mp listed
      have absent := List.find?_eq_none.mp found item member
      simp [named] at absent
  | some item =>
      dsimp only
      split
      · exact Meets.pure inv ⟨.refl, rfl, inv⟩
      · refine Meets.bind (Meets.writeRecord inv ?_)
        have written : ConsistentConfigs (disk.withRecord taskId
            (Disk.apply (disk.record taskId) (.configRevision instanceId sequence))) :=
          inv.withRecord
        refine Meets.pure written ⟨?_, ConfigDisk.agentInstance_withRecord, written⟩
        constructor
        case tasks => exact fun _ => ConfigDisk.task_withRecord
        case instances => exact fun _ _ _ => ConfigDisk.agentInstance_withRecord
        case records => exact fun _ apart => ConfigDisk.record_withRecord_ne apart
        case listed =>
          rw [ConfigDisk.record_withRecord]
          exact instances_configRevision
        case created =>
          rw [ConfigDisk.record_withRecord]
          rfl

variable {process : Option ConfigSnapshot} {now : Timestamp} {actor : Actor}
  {target : TaskConfigState × TaskConfigRevision} {updated : List Identifier}

/-- The configuration of a task that is pinned stays as it is. -/
theorem canPin_of_pair {created : Bool} {files : TaskConfigFiles}
    (found : files.pair = some target) : CanPin process created files := by
  intro absent
  rw [found] at absent
  cases absent

/-- An instance that has a revision is renewed exactly when the number is open that it needs. -/
theorem renewInstance_meets (inv : ConsistentConfigs disk)
    (pinnedTask : (disk.task taskId).pair = some target)
    {current : CurrentInstanceConfig}
    (found : (disk.agentInstance taskId instanceId).pair = some (current.state, current.bundle)) :
    Meets (renewInstance process now taskId target.2.sequence actor updated instanceId current)
      disk ConsistentConfigs
      (fun _ later =>
        RenewedOpen process now actor target.2 (disk.agentInstance taskId instanceId) ∧
        OnlyInstance taskId instanceId disk later ∧
        BuiltOn target.2 (later.agentInstance taskId instanceId) ∧ ConsistentConfigs later)
      fun _ _ => Listed disk taskId instanceId →
        CanRebaseInstance process now actor target.2 (disk.agentInstance taskId instanceId) →
          ¬ RenewedOpen process now actor target.2 (disk.agentInstance taskId instanceId) := by
  unfold renewInstance
  dsimp only
  split
  · next same =>
      have built : BuiltOn target.2 (disk.agentInstance taskId instanceId) := ⟨_, found, same⟩
      refine Meets.bind ((reconcileInstanceProjection_meets inv).mono (fun _ => id) ?_
        fun _ _ missing listed => absurd listed missing)
      rintro _ later ⟨only, kept, consistent⟩
      exact Meets.pure consistent ⟨built.isOpen.renewed, only, kept ▸ built, consistent⟩
  · next stale =>
      have settled := ((inv.instances taskId instanceId).pair_fits found).settled
      refine Meets.checked (ensure_of settled) ?_
      have kept : pinned process now (disk.task taskId) = disk.task taskId :=
        pinned_of_pair pinnedTask
      have pinOpen : PinOpen process now (disk.task taskId) := by
        intro config absent
        rw [pinnedTask] at absent
        cases absent
      refine Meets.bind ((buildRevision_meets inv).mono (fun _ => id) ?_ ?_)
      case refine_2 =>
        intro _ _ closed _ can
        refine absurd pinOpen (closed (canPin_of_pair pinnedTask) ?_)
        intro other pair
        rw [kept, pinnedTask] at pair
        obtain rfl := Option.some.inj pair
        exact can.renewed _ found stale
      rw [kept, ConfigDisk.withTask_self]
      rintro bundle later ⟨-, same, -, other, pair, built⟩
      subst same
      obtain rfl := Option.some.inj (pinnedTask.symm.trans pair)
      have opens : RenewedOpen process now actor target.2
          (later.agentInstance taskId instanceId) ↔
          (later.agentInstance taskId instanceId).Open bundle.manifest.sequence bundle := by
        constructor
        · intro all
          exact all _ bundle found stale built
        · rintro free other bundle' found' - built'
          obtain rfl := Option.some.inj (found.symm.trans found')
          obtain rfl := Except.ok.inj (built.symm.trans built')
          exact free
      refine Meets.bind ((publishBuilt_meets inv pinnedTask built (by rw [found]; rfl)).mono
        (fun _ => id) ?_ fun _ _ taken _ _ all => taken (opens.mp all))
      rintro state middle ⟨free, ⟨files, rfl⟩, stored, consistent⟩
      refine Meets.bind ((reconcileInstanceProjection_meets consistent).mono (fun _ => id) ?_ ?_)
      case refine_2 =>
        intro _ _ missing listed
        unfold Listed at missing
        rw [ConfigDisk.record_withInstance] at missing
        exact absurd listed missing
      rintro _ last ⟨only, kept, consistent⟩
      refine Meets.pure consistent ⟨opens.mpr free, .trans .withInstance only, ?_, consistent⟩
      rw [kept]
      exact ⟨_, stored, (nextBundle_eq_ok built).2⟩

/-- Rebasing an instance succeeds exactly when the number is open that it fills. -/
theorem rebaseInstance_meets (inv : ConsistentConfigs disk)
    (pinnedTask : (disk.task taskId).pair = some target) :
    Meets (rebaseInstance process now taskId target.2.sequence actor updated instanceId) disk
      ConsistentConfigs
      (fun _ later =>
        InstanceOpen process now actor target.2 (disk.agentInstance taskId instanceId) ∧
        OnlyInstance taskId instanceId disk later ∧
        BuiltOn target.2 (later.agentInstance taskId instanceId) ∧ ConsistentConfigs later)
      fun _ _ => Listed disk taskId instanceId →
        CanRebaseInstance process now actor target.2 (disk.agentInstance taskId instanceId) →
          ¬ InstanceOpen process now actor target.2 (disk.agentInstance taskId instanceId) := by
  unfold rebaseInstance
  refine Meets.bind (readInstanceConfig_meets inv inv ?_)
  cases found : (disk.agentInstance taskId instanceId).pair with
  | some current =>
      refine (renewInstance_meets inv pinnedTask found).mono (fun _ => id) ?_ ?_
      · rintro _ later ⟨renewed, only, built, consistent⟩
        refine ⟨⟨?_, renewed⟩, only, built, consistent⟩
        intro bundle absent
        rw [found] at absent
        cases absent
      · intro _ _ closed listed can isOpen
        exact closed listed can isOpen.renewed
  | none =>
      have kept : pinned process now (disk.task taskId) = disk.task taskId :=
        pinned_of_pair pinnedTask
      have pinOpen : PinOpen process now (disk.task taskId) := by
        intro config absent
        rw [pinnedTask] at absent
        cases absent
      have opens : MaterializeOpen process now disk taskId instanceId ↔
          InstanceOpen process now actor target.2 (disk.agentInstance taskId instanceId) := by
        constructor
        · intro all
          refine ⟨(all found).2 target (by rw [kept, pinnedTask]), ?_⟩
          intro current bundle present
          rw [found] at present
          cases present
        · rintro isOpen -
          refine ⟨pinOpen, ?_⟩
          intro current pair
          rw [kept, pinnedTask] at pair
          obtain rfl := Option.some.inj pair
          exact isOpen.first
      have canMaterialize :
          CanRebaseInstance process now actor target.2 (disk.agentInstance taskId instanceId) →
            CanMaterialize process now disk taskId instanceId := by
        intro can _
        refine ⟨canPin_of_pair pinnedTask, ?_⟩
        intro current pair
        rw [kept, pinnedTask] at pair
        obtain rfl := Option.some.inj pair
        exact can.first
      refine Meets.bind ((materialize_meets inv).kept.mono (fun _ => id) ?_
        fun _ _ closed _ can isOpen => closed.1 (canMaterialize can) (opens.mpr isOpen))
      rintro value middle ⟨⟨isOpen, stored, made⟩, consistent⟩
      obtain ⟨current, files, pair, task, same⟩ := made found
      rw [kept, pinnedTask] at pair
      obtain rfl := Option.some.inj pair
      rw [kept, ConfigDisk.withTask_self] at same
      refine Meets.bind (readInstanceConfig_meets consistent consistent ?_)
      rw [stored]
      have built : BuiltOn target.2 (middle.agentInstance taskId instanceId) := ⟨_, stored, task⟩
      have only : OnlyInstance taskId instanceId disk middle := by
        rw [same]
        exact .withInstance
      refine (renewInstance_meets consistent ?_ stored).mono (fun _ => id) ?_ ?_
      · rw [only.tasks, pinnedTask]
      · rintro _ last ⟨-, later, built, consistent⟩
        exact ⟨opens.mp isOpen, only.trans later, built, consistent⟩
      · intro _ _ closed listed
        refine absurd built.isOpen.renewed (closed ?_ built.canRebase)
        unfold Listed
        rw [only.listed]
        exact listed

end

/-! ## The instances of a task -/

/-- Nothing changed but the directories and the record of one task. -/
structure OnlyTask (taskId : Identifier) (disk later : ConfigDisk) : Prop where
  tasks : ∀ other, other ≠ taskId → later.task other = disk.task other
  instances : ∀ other instanceId, other ≠ taskId →
    later.agentInstance other instanceId = disk.agentInstance other instanceId
  records : ∀ other, other ≠ taskId → later.record other = disk.record other

section

variable {disk later last : ConfigDisk} {taskId instanceId : Identifier}

theorem OnlyTask.refl : OnlyTask taskId disk disk :=
  ⟨fun _ _ => rfl, fun _ _ _ => rfl, fun _ _ => rfl⟩

theorem OnlyTask.trans (first : OnlyTask taskId disk later) (second : OnlyTask taskId later last) :
    OnlyTask taskId disk last where
  tasks other apart := (second.tasks other apart).trans (first.tasks other apart)
  instances other instanceId apart :=
    (second.instances other instanceId apart).trans (first.instances other instanceId apart)
  records other apart := (second.records other apart).trans (first.records other apart)

theorem OnlyInstance.onlyTask (only : OnlyInstance taskId instanceId disk later) :
    OnlyTask taskId disk later where
  tasks other _ := only.tasks other
  instances other otherInstance apart := only.instances other otherInstance fun same =>
    apart same.1
  records := only.records

theorem OnlyTask.withTask {files : TaskConfigFiles} :
    OnlyTask taskId disk (disk.withTask taskId files) where
  tasks _ apart := ConfigDisk.task_withTask_ne apart
  instances _ _ _ := ConfigDisk.agentInstance_withTask
  records _ _ := ConfigDisk.record_withTask

theorem OnlyTask.withRecord {record : TaskRecord} :
    OnlyTask taskId disk (disk.withRecord taskId record) where
  tasks _ _ := ConfigDisk.task_withRecord
  instances _ _ _ := ConfigDisk.agentInstance_withRecord
  records _ apart := ConfigDisk.record_withRecord_ne apart

variable {process : Option ConfigSnapshot} {now : Timestamp} {actor : Actor}
  {target : TaskConfigState × TaskConfigRevision} {items : List AgentInstance}

/-- After one instance, the directories of all of them are as they were or up to date. -/
theorem OnlyInstance.still (only : OnlyInstance taskId instanceId disk later)
    (built : BuiltOn target.2 (later.agentInstance taskId instanceId)) (other : Identifier) :
    later.agentInstance taskId other = disk.agentInstance taskId other ∨
      other = instanceId ∧ BuiltOn target.2 (later.agentInstance taskId other) := by
  by_cases same : other = instanceId
  · subst same
    exact .inr ⟨rfl, built⟩
  · exact .inl (only.instances taskId other fun both => same both.2)

/-- The loop over the instances succeeds exactly when every number that it fills is open. -/
theorem rebaseInstances_meets (inv : ConsistentConfigs disk)
    (pinnedTask : (disk.task taskId).pair = some target) {updated : List Identifier} :
    Meets (rebaseInstances process now taskId target.2.sequence actor items updated) disk
      ConsistentConfigs
      (fun _ later => (∀ item ∈ items, InstanceOpen process now actor target.2
        (disk.agentInstance taskId item.instanceId)) ∧ OnlyTask taskId disk later ∧
          later.task taskId = disk.task taskId ∧ ConsistentConfigs later)
      fun _ _ => (∀ item ∈ items, Listed disk taskId item.instanceId) →
        (∀ item ∈ items, CanRebaseInstance process now actor target.2
          (disk.agentInstance taskId item.instanceId)) →
          ¬ ∀ item ∈ items, InstanceOpen process now actor target.2
            (disk.agentInstance taskId item.instanceId) := by
  induction items generalizing disk updated with
  | nil =>
      refine Meets.pure inv ⟨?_, .refl, rfl, inv⟩
      intro item member
      cases member
  | cons item rest ih =>
      refine Meets.bind ((rebaseInstance_meets inv pinnedTask).mono (fun _ => id) ?_
        fun _ _ closed listed can all => closed (listed item List.mem_cons_self)
          (can item List.mem_cons_self) (all item List.mem_cons_self))
      rintro updated middle ⟨isOpen, only, built, consistent⟩
      have still := only.still built
      refine (ih consistent ?_).mono (fun _ => id) ?_ ?_
      · rw [only.tasks, pinnedTask]
      · rintro _ later ⟨opens, after, task, last⟩
        refine ⟨?_, only.onlyTask.trans after, task.trans (only.tasks taskId), last⟩
        intro other member
        obtain rfl | member := List.mem_cons.mp member
        · exact isOpen
        · obtain same | ⟨same, -⟩ := still other.instanceId
          · rw [← same]
            exact opens other member
          · rw [same]
            exact isOpen
      · intro _ _ closed listed can all
        refine closed ?_ ?_ ?_
        · intro other member
          unfold Listed
          rw [only.listed]
          exact listed other (List.mem_cons_of_mem _ member)
        · intro other member
          obtain same | ⟨-, done⟩ := still other.instanceId
          · rw [same]
            exact can other (List.mem_cons_of_mem _ member)
          · exact done.canRebase
        · intro other member
          obtain same | ⟨-, done⟩ := still other.instanceId
          · rw [same]
            exact all other (List.mem_cons_of_mem _ member)
          · exact done.isOpen

/-- The overrides of an instance. -/
def overridesOf (files : InstanceConfigFiles) : RuntimeOverrides :=
  files.pair.elim {} fun current => current.2.manifest.overrides

/-- The preflight check of an instance. -/
def preflight (process : Option ConfigSnapshot) (candidate : TaskConfigRevision)
    (files : InstanceConfigFiles) : Outcome Unit :=
  validateOverrides process candidate (overridesOf files) true

/-- The preflight check of an instance passes, or fails because of a model. -/
def CanPreflight (process : Option ConfigSnapshot) (candidate : TaskConfigRevision)
    (files : InstanceConfigFiles) : Prop :=
  ∀ error, preflight process candidate files = .error error →
    ∀ instanceId, (modelConflict instanceId error).isSome

theorem preflightInstance_meets (inv : ConsistentConfigs disk) {candidate : TaskConfigRevision} :
    Meets (preflightInstance process taskId candidate instanceId) disk ConsistentConfigs
      (fun conflicts later => later = disk ∧ (conflicts = [] ↔
        preflight process candidate (disk.agentInstance taskId instanceId) = .ok ()))
      fun _ _ => ¬ CanPreflight process candidate (disk.agentInstance taskId instanceId) := by
  unfold preflightInstance
  refine Meets.bind (readInstanceConfig_meets inv inv ?_)
  have overrides : (((disk.agentInstance taskId instanceId).pair.map fun pair =>
      (⟨pair.1, pair.2, (disk.agentInstance taskId instanceId).state.isNone⟩ :
        CurrentInstanceConfig)).elim {} fun current => current.bundle.manifest.overrides) =
      overridesOf (disk.agentInstance taskId instanceId) := by
    unfold overridesOf
    cases (disk.agentInstance taskId instanceId).pair <;> rfl
  rw [overrides]
  dsimp only
  have checks : validateOverrides process candidate
      (overridesOf (disk.agentInstance taskId instanceId)) true =
      preflight process candidate (disk.agentInstance taskId instanceId) := rfl
  rw [checks]
  cases checked : preflight process candidate (disk.agentInstance taskId instanceId) with
  | ok _ => exact Meets.pure inv ⟨rfl, by simp⟩
  | error error =>
      dsimp only
      cases found : modelConflict instanceId error with
      | some conflict => exact Meets.pure inv ⟨rfl, by simp⟩
      | none =>
          refine Meets.raise inv fun can => ?_
          have about := can error checked instanceId
          rw [found] at about
          cases about

/-- The preflight changes nothing, and finds no conflict exactly when every check passes. -/
theorem preflightOverrides_meets (inv : ConsistentConfigs disk) {candidate : TaskConfigRevision} :
    Meets (preflightOverrides process taskId candidate items) disk ConsistentConfigs
      (fun conflicts later => later = disk ∧ (conflicts = [] ↔ ∀ item ∈ items,
        preflight process candidate (disk.agentInstance taskId item.instanceId) = .ok ()))
      fun _ _ => ¬ ∀ item ∈ items,
        CanPreflight process candidate (disk.agentInstance taskId item.instanceId) := by
  induction items with
  | nil =>
      refine Meets.pure inv ⟨rfl, ?_⟩
      simp
  | cons item rest ih =>
      refine Meets.bind ((preflightInstance_meets inv).mono (fun _ => id) ?_
        fun _ _ closed all => closed (all item List.mem_cons_self))
      rintro conflict disk' ⟨rfl, here⟩
      refine Meets.bind (ih.mono (fun _ => id) ?_ fun _ _ closed all =>
        closed fun other member => all other (List.mem_cons_of_mem _ member))
      rintro conflicts disk' ⟨rfl, there⟩
      refine Meets.pure inv ⟨rfl, ?_⟩
      rw [List.append_eq_nil_iff, here, there, List.forall_mem_cons]

end

/-! ## A task -/

section

variable (process : Option ConfigSnapshot) (now : Timestamp) (actor : Actor)

/-- The rebase of a task leaves it alone: its current state is locked, or it was launched. -/
def Skipped (disk : ConfigDisk) (taskId : Identifier) : Prop :=
  (∃ current, (pinned process now (disk.task taskId)).pair = some current ∧
    current.1.lockedAt.isSome) ∨ (disk.record taskId).isLaunched = true

/-- Every instance of the task passes the preflight. -/
def Preflighted (disk : ConfigDisk) (taskId : Identifier) (config : ConfigSnapshot)
    (current : TaskConfigRevision) : Prop :=
  ∀ item ∈ (disk.record taskId).targets taskId,
    preflight process (candidateTaskRevision now config current)
      (disk.agentInstance taskId item.instanceId) = .ok ()

/-- A rebase of the task that goes through finds every number open that it fills. -/
@[mk_iff]
structure TaskOpen (disk : ConfigDisk) (taskId : Identifier) : Prop where
  pin : PinOpen process now (disk.task taskId)
  next : ∀ config current, process = some config → ¬ Skipped process now disk taskId →
    (pinned process now (disk.task taskId)).pair = some current →
      Preflighted process now disk taskId config current.2 →
        NextOpen process now actor (pinned process now (disk.task taskId))
  instances : ∀ config current, process = some config → ¬ Skipped process now disk taskId →
    (pinned process now (disk.task taskId)).pair = some current →
      Preflighted process now disk taskId config current.2 →
        ∀ item ∈ (disk.record taskId).targets taskId,
          InstanceOpen process now actor (rebaseTarget now actor config current.2)
            (disk.agentInstance taskId item.instanceId)

/-- A rebase of the task is accepted: a task that is not left alone has room for a revision, its
    preflight fails on models only, and its instances are listed and can be built anew. -/
@[mk_iff]
structure CanRebaseTask (disk : ConfigDisk) (taskId : Identifier) : Prop where
  pin : CanPin process (disk.record taskId).created (disk.task taskId)
  configured : process.isSome
  room : ∀ config current, process = some config → ¬ Skipped process now disk taskId →
    (pinned process now (disk.task taskId)).pair = some current →
      current.2.sourceSystemRevision ≠ config.revision → Room (current.2.sequence + 1)
  preflight : ∀ config current, process = some config → ¬ Skipped process now disk taskId →
    (pinned process now (disk.task taskId)).pair = some current →
      ∀ item ∈ (disk.record taskId).targets taskId,
        CanPreflight process (candidateTaskRevision now config current.2)
          (disk.agentInstance taskId item.instanceId)
  instances : ∀ config current, process = some config → ¬ Skipped process now disk taskId →
    (pinned process now (disk.task taskId)).pair = some current →
      Preflighted process now disk taskId config current.2 →
        ∀ item ∈ (disk.record taskId).targets taskId,
          CanRebaseInstance process now actor (rebaseTarget now actor config current.2)
            (disk.agentInstance taskId item.instanceId)
  listed : ∀ item ∈ (disk.record taskId).targets taskId, Listed disk taskId item.instanceId

end

section

variable {process : Option ConfigSnapshot} {now : Timestamp} {actor : Actor}
  {disk later : ConfigDisk} {taskId : Identifier}

/-- The rebase of a task succeeds exactly when every number is open that it fills. -/
theorem rebaseOne_meets (inv : ConsistentConfigs disk) :
    Meets (rebaseOne process now actor taskId) disk ConsistentConfigs
      (fun _ later => TaskOpen process now actor disk taskId ∧ OnlyTask taskId disk later)
      fun _ _ => CanRebaseTask process now actor disk taskId →
        ¬ TaskOpen process now actor disk taskId := by
  unfold rebaseOne
  refine Meets.bind ((getCurrent_meets inv).mono (fun _ => id) ?_ fun _ _ closed can isOpen =>
    closed can.pin isOpen.pin)
  rintro ⟨state, revision, legacy⟩ middle ⟨pinOpen, same, found, consistent⟩
  have record : middle.record taskId = disk.record taskId := by
    rw [same, ConfigDisk.record_withTask]
  have instances : ∀ instanceId, middle.agentInstance taskId instanceId =
      disk.agentInstance taskId instanceId := by
    intro instanceId
    rw [same, ConfigDisk.agentInstance_withTask]
  have only : OnlyTask taskId disk middle := by
    rw [same]
    exact .withTask
  have task : middle.task taskId = pinned process now (disk.task taskId) := by
    rw [same, ConfigDisk.task_withTask]
  have skips : Skipped process now disk taskId ↔
      (state.lockedAt.isSome || (disk.record taskId).isLaunched) = true := by
    rw [Bool.or_eq_true]
    refine or_congr ⟨?_, fun locked => ⟨_, found, locked⟩⟩ Iff.rfl
    rintro ⟨current, found', locked⟩
    obtain rfl := Option.some.inj (found.symm.trans found')
    exact locked
  refine Meets.looked record ?_
  dsimp only
  split
  · next skipped =>
      have skipped := skips.mpr skipped
      refine Meets.pure consistent ⟨⟨pinOpen, ?_, ?_⟩, only⟩
      · intro _ _ _ goes
        exact absurd skipped goes
      · intro _ _ _ goes
        exact absurd skipped goes
  · next goes =>
      have goes : ¬ Skipped process now disk taskId := fun skipped => goes (skips.mp skipped)
      obtain _ | config := process
      · refine Meets.guarded consistent ?_ ?_
        · intro config configured
          cases configured
        · intro error _ can
          cases can.configured
      refine Meets.checked rfl ?_
      refine Meets.bind ((preflightOverrides_meets consistent).mono (fun _ => id) ?_ ?_)
      case refine_2 =>
        intro _ _ fails can
        refine absurd ?_ fails
        intro item member
        rw [instances]
        exact can.preflight config _ rfl goes found item member
      rintro conflicts middle' ⟨rfl, passes⟩
      have passes : conflicts = [] ↔
          Preflighted (some config) now disk taskId config revision := by
        rw [passes]
        refine forall₂_congr fun item _ => ?_
        rw [instances]
      split
      · next conflicting =>
          have fails : ¬ Preflighted (some config) now disk taskId config revision :=
            fun all => conflicting (passes.mpr all)
          refine Meets.bind (Meets.writeRecord consistent (Meets.pure consistent.withRecord
            ⟨⟨pinOpen, ?_, ?_⟩, only.trans .withRecord⟩))
          · rintro _ _ configured - found' all
            obtain rfl := Option.some.inj configured
            obtain rfl := Option.some.inj (found.symm.trans found')
            exact absurd all fails
          · rintro _ _ configured - found' all
            obtain rfl := Option.some.inj configured
            obtain rfl := Option.some.inj (found.symm.trans found')
            exact absurd all fails
      · next clear =>
          have clear := passes.mp (not_not.mp clear)
          have kept : pinned (some config) now (middle'.task taskId) = middle'.task taskId :=
            pinned_of_pair (task ▸ found)
          have canRebase : CanRebaseTask (some config) now actor disk taskId →
              CanRebase (some config) (pinned (some config) now (middle'.task taskId)) := by
            intro can
            rw [kept, task]
            refine ⟨rfl, ?_, fun config current configured => can.room config current configured goes⟩
            intro current found'
            obtain rfl := Option.some.inj (found.symm.trans found')
            rw [← Option.not_isSome_iff_eq_none]
            exact fun locked => goes (.inl ⟨_, found, locked⟩)
          have opens : TaskOpen (some config) now actor disk taskId ↔
              NextOpen (some config) now actor (middle'.task taskId) ∧
                ∀ item ∈ (disk.record taskId).targets taskId,
                  InstanceOpen (some config) now actor (rebaseTarget now actor config revision)
                    (middle'.agentInstance taskId item.instanceId) := by
            rw [task]
            constructor
            · intro isOpen
              refine ⟨isOpen.next config _ rfl goes found clear, ?_⟩
              intro item member
              rw [instances]
              exact isOpen.instances config _ rfl goes found clear item member
            · rintro ⟨next, each⟩
              refine ⟨pinOpen, fun _ _ _ _ _ _ => next, ?_⟩
              rintro _ _ configured - found' - item member
              obtain rfl := Option.some.inj configured
              obtain rfl := Option.some.inj (found.symm.trans found')
              rw [← instances]
              exact each item member
          refine Meets.bind ((rebase_meets consistent).kept.mono (fun _ => id) ?_ ?_)
          · rintro rebased next ⟨⟨-, nextOpen, ⟨files, only'⟩, pair, target⟩, consistent'⟩
            rw [kept] at nextOpen target
            have target := target config _ rfl (task ▸ found)
            have canPin' : CanPin (some config) (next.record taskId).created (next.task taskId) :=
              canPin_of_pair pair
            have untouched : ∀ instanceId, next.agentInstance taskId instanceId =
                middle'.agentInstance taskId instanceId := by
              intro instanceId
              rw [only', ConfigDisk.agentInstance_withTask]
            have record' : next.record taskId = disk.record taskId := by
              rw [only', ConfigDisk.record_withTask, record]
            have only' : OnlyTask taskId disk next := by
              refine only.trans ?_
              rw [only']
              exact .withTask
            have pinOpen' : PinOpen (some config) now (next.task taskId) := by
              intro _ absent
              rw [pair] at absent
              cases absent
            refine Meets.bind ((getCurrent_meets consistent').mono (fun _ => id) ?_
              fun _ _ closed => absurd pinOpen' (closed canPin'))
            rintro current next' ⟨-, same', found', -⟩
            rw [pinned_of_pair pair, ConfigDisk.withTask_self] at same'
            rw [pinned_of_pair pair, pair] at found'
            have revised : current.revision = rebased.revision :=
              (Prod.mk.inj (Option.some.inj found')).2.symm
            subst same'
            rw [revised]
            refine Meets.bind ((rebaseInstances_meets consistent' pair).mono (fun _ => id) ?_ ?_)
            · rintro updates last ⟨each, after, -, consistent''⟩
              have isOpen : TaskOpen (some config) now actor disk taskId := by
                refine opens.mpr ⟨nextOpen, ?_⟩
                intro item member
                rw [← untouched, ← target]
                exact each item member
              refine Meets.bind (Meets.writeRecord consistent'' ?_)
              have ended : OnlyTask taskId disk (last.withRecord taskId
                  (Disk.apply (last.record taskId) (.review none))) :=
                (only'.trans after).trans .withRecord
              split
              · exact Meets.pure consistent''.withRecord ⟨isOpen, ended⟩
              · exact Meets.pure consistent''.withRecord ⟨isOpen, ended⟩
            · intro _ _ closed can isOpen
              refine closed ?_ ?_ ?_
              · intro item member
                unfold Listed
                rw [record']
                exact can.listed item member
              · intro item member
                rw [untouched, instances, target]
                exact can.instances config _ rfl goes found clear item member
              · intro item member
                rw [untouched, target]
                exact (opens.mp isOpen).2 item member
          · rintro _ _ ⟨closed, -⟩ can isOpen
            refine closed (canPin_of_pair (task ▸ found)) (canRebase can) ⟨?_, ?_⟩
            · intro _ absent
              rw [task, found] at absent
              cases absent
            · rw [kept]
              exact (opens.mp isOpen).1

end

end DesignHarness
