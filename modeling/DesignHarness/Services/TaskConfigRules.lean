import DesignHarness.Services.TaskConfig
import Mathlib.Data.List.Perm.Subperm

/-!
# What the task configuration services do to consistent directories

In a consistent directory the readers find what the pointer names, and a commit that follows the
current revision succeeds exactly when its number is open.
-/

namespace DesignHarness

open Library

/-- A state agrees with the revision it points to. -/
structure TaskFits (state : TaskConfigState) (revision : TaskConfigRevision) : Prop where
  source : state.sourceSystemRevision = revision.sourceSystemRevision
  locked : state.lockedAt.isSome = state.lockedReason.isSome

/-- An instance state without a pending revision, pointing to an applied one. -/
structure InstanceFits (state : InstanceConfigState) (bundle : InstanceBundle) : Prop where
  applied : bundle.manifest.applyStatus = .applied
  settled : state.pendingRevision = none

section

variable {files : TaskConfigFiles} {sequence : Nat} {revision : TaskConfigRevision}

theorem readTaskRevision_eq (inv : files.Consistent TaskFits)
    (found : files.document sequence = some revision) :
    readTaskRevision sequence files = .ok revision := by
  have named : revision.sequence = sequence := (inv.numbered _ _ found).1
  have parented : revision.parent ≠ some sequence := by
    intro parent
    exact absurd (inv.ancestry _ _ _ found parent).1 (Nat.lt_irrefl _)
  unfold Revisions.document at found
  unfold readTaskRevision
  cases stored : files.slots.lookup sequence with
  | some document =>
      simp only [stored, Option.some.injEq] at found
      subst found
      simp only [ensure_of named, ensure_of parented, ok_bind, pure_eq_ok]
  | none =>
      simp only [stored] at found
      split at found
      · next first =>
          obtain ⟨legacy, present, rfl⟩ := Option.map_eq_some_iff.mp found
          simp only [if_pos first, present]
      · cases found

theorem currentTaskConfig_eq (inv : files.Consistent TaskFits) :
    currentTaskConfig files =
      .ok (files.pair.map fun pair => ⟨pair.1, pair.2, files.state.isNone⟩) := by
  unfold currentTaskConfig Revisions.pair
  cases stored : files.state with
  | none => rfl
  | some state =>
      obtain ⟨revision, found, fits⟩ := inv.current state stored
      have read : readTaskRevision state.currentRevision files = .ok revision :=
        readTaskRevision_eq inv found
      have found : files.document (Revised.pointer TaskConfigRevision state) = some revision := found
      simp only [read, ensure_of fits.source, ok_bind, pure_eq_ok, found, Option.map_some,
        Option.isNone_some]

end

section

variable {files : InstanceConfigFiles} {sequence : Nat} {bundle : InstanceBundle}

theorem readInstanceRevision_eq (inv : files.Consistent InstanceFits)
    (found : files.document sequence = some bundle) :
    readInstanceRevision sequence files = .ok bundle := by
  have named : bundle.manifest.sequence = sequence := (inv.numbered _ _ found).1
  have parented : bundle.manifest.parent ≠ some sequence := by
    intro parent
    exact absurd (inv.ancestry _ _ _ found parent).1 (Nat.lt_irrefl _)
  unfold Revisions.document at found
  unfold readInstanceRevision
  cases stored : files.slots.lookup sequence with
  | some document =>
      simp only [stored, Option.some.injEq] at found
      subst found
      simp only [ensure_of named, ensure_of parented, ok_bind, pure_eq_ok]
  | none =>
      simp only [stored] at found
      split at found
      · next first =>
          obtain ⟨legacy, present, rfl⟩ := Option.map_eq_some_iff.mp found
          simp only [if_pos first, present]
      · cases found

theorem currentInstanceConfig_eq (inv : files.Consistent InstanceFits) :
    currentInstanceConfig files =
      .ok (files.pair.map fun pair => ⟨pair.1, pair.2, files.state.isNone⟩) := by
  unfold currentInstanceConfig Revisions.pair
  cases stored : files.state with
  | none => rfl
  | some state =>
      obtain ⟨bundle, found, fits⟩ := inv.current state stored
      have read : readInstanceRevision state.currentRevision files = .ok bundle :=
        readInstanceRevision_eq inv found
      have found : files.document (Revised.pointer InstanceBundle state) = some bundle := found
      simp only [read, ensure_of fits.applied, fits.settled, ok_bind, pure_eq_ok, found,
        Option.map_some, Option.isNone_some]

end

/-- The revision and the state are the next ones. -/
structure Follows (files : TaskConfigFiles) (revision : TaskConfigRevision)
    (state : TaskConfigState) (expected : Nat) : Prop where
  sequence : revision.sequence = files.next
  parent : revision.parent = files.pair.map fun pair => pair.2.sequence
  pointer : state.currentRevision = revision.sequence
  fits : TaskFits state revision
  read : (files.pair.elim 0 fun pair => pair.1.revision) = expected
  advances : state.revision = expected + 1

section

variable {files : TaskConfigFiles} {revision : TaskConfigRevision} {state : TaskConfigState}
  {expected : Nat}

theorem Follows.beyond (inv : files.Consistent TaskFits)
    (follows : Follows files revision state expected) : files.Beyond revision.sequence :=
  follows.sequence ▸ inv.beyond_next

theorem Follows.positive (follows : Follows files revision state expected) :
    0 < revision.sequence := by
  rw [follows.sequence]
  unfold Revisions.next
  cases files.pair with
  | none => exact Nat.one_pos
  | some pair => exact Nat.succ_pos _

/-- The parent of the next revision is the current one. -/
theorem Follows.parented (inv : files.Consistent TaskFits)
    (follows : Follows files revision state expected) {parent : Nat}
    (named : revision.parent = some parent) :
    parent < revision.sequence ∧ (files.document parent).isSome := by
  rw [follows.parent] at named
  obtain ⟨pair, found, rfl⟩ := Option.map_eq_some_iff.mp named
  have next : files.next = pair.2.sequence + 1 := by
    unfold Revisions.next
    rw [found]
    rfl
  refine ⟨by rw [follows.sequence, next]; exact Nat.lt_succ_self _, ?_⟩
  exact Option.isSome_iff_exists.mpr ⟨_, inv.pair_revision found⟩

theorem Follows.filled (inv : files.Consistent TaskFits)
    (follows : Follows files revision state expected) :
    (files.fill revision.sequence revision).Consistent TaskFits :=
  inv.fill (follows.beyond inv) rfl follows.positive fun _ => follows.parented inv

theorem Follows.committed (inv : files.Consistent TaskFits)
    (follows : Follows files revision state expected)
    (isOpen : files.Open revision.sequence revision) :
    ((files.fill revision.sequence revision).point state).Consistent TaskFits := by
  refine (follows.filled inv).point ?_ follows.fits
  change (files.fill revision.sequence revision).document state.currentRevision = some revision
  rw [follows.pointer]
  exact isOpen.document_fill

theorem Follows.check (follows : Follows files revision state expected) {legacy : Bool} :
    checkCommit revision state expected
      (files.pair.map fun pair => ⟨pair.1, pair.2, legacy⟩) = .ok () := by
  obtain ⟨sequence, parent, -, -, number, next⟩ := follows
  unfold Revisions.next at sequence
  unfold checkCommit
  cases found : files.pair with
  | none =>
      rw [found] at sequence parent number
      exact bind_eq_ok.mpr ⟨(), ensure_of number, bind_eq_ok.mpr ⟨(), ensure_of next,
        bind_eq_ok.mpr ⟨(), ensure_of parent, ensure_of sequence⟩⟩⟩
  | some pair =>
      rw [found] at sequence parent number
      exact bind_eq_ok.mpr ⟨(), ensure_of number, bind_eq_ok.mpr ⟨(), ensure_of next,
        bind_eq_ok.mpr ⟨(), ensure_of parent, ensure_of sequence⟩⟩⟩

/-- There is an id for the number. -/
def Room (sequence : Nat) : Prop := sequence ≤ 999999

/-- A commit of the next revision succeeds exactly when there is an id for its number and the
    number is open. -/
theorem commitTaskRevision_meets (inv : files.Consistent TaskFits)
    (follows : Follows files revision state expected) {condition : TaskConfigFiles → Prop}
    (unchanged : condition files)
    (published : condition (files.fill revision.sequence revision))
    (committed : files.Open revision.sequence revision →
      condition ((files.fill revision.sequence revision).point state)) :
    Meets (commitTaskRevision revision state expected) files condition
      (fun value later => files.Open revision.sequence revision ∧
        value = ⟨state, revision, false⟩ ∧
        later = (files.fill revision.sequence revision).point state)
      fun error later => later = files ∧ (Room revision.sequence →
        ¬ files.Open revision.sequence revision ∧
          error = taskRevisionReused revision.sequence) := by
  have pairAccepted : validatePair revision state = .ok () := by
    have noLoop : revision.parent ≠ some revision.sequence := fun loop =>
      absurd (follows.parented inv loop).1 (Nat.lt_irrefl _)
    unfold validatePair
    simp only [ensure_of follows.pointer, ensure_of follows.fits.source, ensure_of noLoop, ok_bind]
  unfold commitTaskRevision
  refine Meets.guarded unchanged ?_ ?_
  case refine_2 =>
    intro error failed
    refine ⟨rfl, fun room => ?_⟩
    have accepted : validateContract "task-config-revision"
        (revisionIdAccepted revision.sequence) = .ok () :=
      validateContract_eq_ok.mpr (decide_eq_true room)
    cases accepted.symm.trans failed
  intro _ idAccepted
  have room : revision.sequence ≤ 999999 :=
    of_decide_eq_true (validateContract_eq_ok.mp idAccepted)
  have stateAccepted : validateTaskConfigState state = .ok () := by
    refine validateContract_eq_ok.mpr ?_
    simp [revisionIdAccepted, follows.pointer, room, follows.advances, follows.fits.locked]
  refine Meets.checked stateAccepted (Meets.checked pairAccepted ?_)
  refine Meets.looked (currentTaskConfig_eq inv) (Meets.checked rfl ?_)
  refine Meets.checked follows.check ?_
  refine Meets.bind ((publishOnce_meets unchanged published).mono (fun _ => id) ?_
    fun _ _ taken => ⟨taken.2.2, fun _ => ⟨taken.1, taken.2.1⟩⟩)
  rintro _ later ⟨isOpen, rfl⟩
  refine Meets.bind (Meets.write published published (committed isOpen) ?_)
  exact Meets.pure (committed isOpen) ⟨isOpen, rfl, rfl⟩

end

section

variable {files : TaskConfigFiles}

theorem document_mem {sequence : Nat} {revision : TaskConfigRevision}
    (found : files.document sequence = some revision) : sequence ∈ 1 :: files.slots.keys := by
  unfold Revisions.document at found
  cases stored : files.slots.lookup sequence with
  | some document =>
      refine List.mem_cons_of_mem _ (AList.mem_keys.mp ?_)
      exact AList.lookup_isSome.mp (by rw [stored]; rfl)
  | none =>
      simp only [stored] at found
      split at found
      · next first => exact first ▸ List.mem_cons_self
      · cases found

/-- The walk over the parents goes down through stored revisions, so it ends. -/
theorem referencedRevisions_ends (inv : files.Consistent TaskFits) {bound : Nat}
    {referenced : List Nat} {cursor : Option TaskConfigRevision}
    (stored : ∀ revision, cursor = some revision →
      files.document revision.sequence = some revision ∧
        ∀ sequence ∈ referenced, revision.sequence < sequence)
    (distinct : referenced.Nodup) (known : referenced ⊆ 1 :: files.slots.keys)
    (enough : files.slots.keys.length + 2 ≤ bound + referenced.length) :
    ∃ result, referencedRevisions files bound referenced cursor = .ok result := by
  induction bound generalizing referenced cursor with
  | zero =>
      have few := (distinct.subperm known).length_le
      rw [List.length_cons] at few
      omega
  | succ bound ih =>
      cases cursor with
      | none => exact ⟨referenced, rfl⟩
      | some revision =>
          obtain ⟨found, below⟩ := stored revision rfl
          have fresh : revision.sequence ∉ referenced := fun member =>
            absurd (below _ member) (Nat.lt_irrefl _)
          have distinct' : (revision.sequence :: referenced).Nodup :=
            List.nodup_cons.mpr ⟨fresh, distinct⟩
          have known' : revision.sequence :: referenced ⊆ 1 :: files.slots.keys :=
            List.cons_subset.mpr ⟨document_mem found, known⟩
          have enough' : files.slots.keys.length + 2 ≤
              bound + (revision.sequence :: referenced).length := by
            rw [List.length_cons]
            omega
          unfold referencedRevisions
          rw [if_neg fresh]
          cases named : revision.parent with
          | none =>
              refine ih ?_ distinct' known' enough'
              intro other absent
              cases absent
          | some parent =>
              obtain ⟨smaller, present⟩ := inv.ancestry _ _ _ found named
              obtain ⟨older, foundOlder⟩ := Option.isSome_iff_exists.mp present
              have numbered := (inv.numbered _ _ foundOlder).1
              have same : older.sequence = parent := numbered
              simp only [readTaskRevision_eq inv foundOlder, ok_bind, pure_eq_ok]
              refine ih ?_ distinct' known' enough'
              intro other isOlder
              obtain rfl := Option.some.inj isOlder
              rw [same]
              refine ⟨foundOlder, ?_⟩
              intro sequence member
              obtain rfl | member := List.mem_cons.mp member
              · exact smaller
              · exact Nat.lt_trans smaller (below sequence member)

/-- The recovery of a task's configuration ends and reports what is current. -/
theorem recoverTaskConfig_ends (inv : files.Consistent TaskFits) :
    ∃ unreferenced, recoverTaskConfig files =
      .ok ⟨files.pair.map fun pair => pair.2.sequence, unreferenced⟩ := by
  have walk : ∃ result, referencedRevisions files
      ((files.slots.keys.insertionSort (· ≤ ·)).length + 2) []
      (files.pair.map fun pair => pair.2) = .ok result := by
    refine referencedRevisions_ends inv ?_ List.nodup_nil (List.nil_subset _) ?_
    · intro revision current
      obtain ⟨pair, found, rfl⟩ := Option.map_eq_some_iff.mp current
      refine ⟨inv.pair_revision found, ?_⟩
      intro sequence member
      cases member
    · rw [List.length_insertionSort]
      exact Nat.le_refl _
  obtain ⟨referenced, walked⟩ := walk
  have revisions : (files.pair.map fun pair =>
      (⟨pair.1, pair.2, files.state.isNone⟩ : CurrentTaskConfig)).map CurrentTaskConfig.revision =
      files.pair.map fun pair => pair.2 := by
    rw [Option.map_map]
    rfl
  unfold recoverTaskConfig
  simp only [currentTaskConfig_eq inv, ok_bind, revisions, walked, pure_eq_ok, Option.map_map]
  exact ⟨_, rfl⟩

end

/-! ## The whole disk -/

/-- Every directory is consistent, and instance revisions are built on stored task revisions. -/
structure ConsistentConfigs (disk : ConfigDisk) : Prop where
  tasks : ∀ taskId, (disk.task taskId).Consistent TaskFits
  instances : ∀ taskId instanceId, (disk.agentInstance taskId instanceId).Consistent InstanceFits
  based : ∀ taskId instanceId sequence bundle,
    (disk.agentInstance taskId instanceId).document sequence = some bundle →
      ((disk.task taskId).document bundle.manifest.taskConfigRevision).isSome

section

variable {disk : ConfigDisk} {taskId instanceId : Identifier}

/-- A task directory may change as long as it keeps its documents. -/
theorem ConsistentConfigs.withTask (inv : ConsistentConfigs disk) {files : TaskConfigFiles}
    (consistent : files.Consistent TaskFits)
    (keeps : ∀ sequence revision, (disk.task taskId).document sequence = some revision →
      files.document sequence = some revision) :
    ConsistentConfigs (disk.withTask taskId files) := by
  constructor
  case tasks =>
    intro other
    by_cases same : other = taskId
    · subst same
      rw [ConfigDisk.task_withTask]
      exact consistent
    · rw [ConfigDisk.task_withTask_ne same]
      exact inv.tasks other
  case instances =>
    intro other instanceId
    rw [ConfigDisk.agentInstance_withTask]
    exact inv.instances other instanceId
  case based =>
    intro other instanceId sequence bundle found
    rw [ConfigDisk.agentInstance_withTask] at found
    have stored := inv.based other instanceId sequence bundle found
    by_cases same : other = taskId
    · subst same
      rw [ConfigDisk.task_withTask]
      obtain ⟨revision, present⟩ := Option.isSome_iff_exists.mp stored
      rw [keeps _ _ present]
      rfl
    · rwa [ConfigDisk.task_withTask_ne same]

/-- An instance directory may change to one that is built on stored task revisions. -/
theorem ConsistentConfigs.withInstance (inv : ConsistentConfigs disk)
    {files : InstanceConfigFiles} (consistent : files.Consistent InstanceFits)
    (based : ∀ sequence bundle, files.document sequence = some bundle →
      ((disk.task taskId).document bundle.manifest.taskConfigRevision).isSome) :
    ConsistentConfigs (disk.withInstance taskId instanceId files) := by
  constructor
  case tasks =>
    intro other
    rw [ConfigDisk.task_withInstance]
    exact inv.tasks other
  case instances =>
    intro otherTask otherInstance
    by_cases same : otherTask = taskId ∧ otherInstance = instanceId
    · obtain ⟨rfl, rfl⟩ := same
      rw [ConfigDisk.agentInstance_withInstance]
      exact consistent
    · rw [ConfigDisk.agentInstance_withInstance_ne same]
      exact inv.instances otherTask otherInstance
  case based =>
    intro otherTask otherInstance sequence bundle found
    rw [ConfigDisk.task_withInstance]
    by_cases same : otherTask = taskId ∧ otherInstance = instanceId
    · obtain ⟨rfl, rfl⟩ := same
      rw [ConfigDisk.agentInstance_withInstance] at found
      exact based sequence bundle found
    · rw [ConfigDisk.agentInstance_withInstance_ne same] at found
      exact inv.based otherTask otherInstance sequence bundle found

theorem ConsistentConfigs.withRecord (inv : ConsistentConfigs disk) {record : TaskRecord} :
    ConsistentConfigs (disk.withRecord taskId record) where
  tasks other := by
    rw [ConfigDisk.task_withRecord]
    exact inv.tasks other
  instances otherTask otherInstance := by
    rw [ConfigDisk.agentInstance_withRecord]
    exact inv.instances otherTask otherInstance
  based otherTask otherInstance sequence bundle found := by
    rw [ConfigDisk.agentInstance_withRecord] at found
    rw [ConfigDisk.task_withRecord]
    exact inv.based otherTask otherInstance sequence bundle found

end

section

variable {disk : ConfigDisk} {taskId instanceId : Identifier} {α : Type}
  {condition : ConfigDisk → Prop} {returns : α → ConfigDisk → Prop}
  {raises : Raised → ConfigDisk → Prop}

theorem Meets.onTask {script : TaskConfigScript α}
    (meets : Meets script (disk.task taskId)
      (fun files => condition (disk.withTask taskId files))
      (fun value files => returns value (disk.withTask taskId files))
      fun error files => raises error (disk.withTask taskId files)) :
    Meets (script.on (.task taskId) : ConfigScript α) disk condition returns raises :=
  Meets.on meets

theorem Meets.onInstance {script : InstanceConfigScript α}
    (meets : Meets script (disk.agentInstance taskId instanceId)
      (fun files => condition (disk.withInstance taskId instanceId files))
      (fun value files => returns value (disk.withInstance taskId instanceId files))
      fun error files => raises error (disk.withInstance taskId instanceId files)) :
    Meets (script.on (.agentInstance taskId instanceId) : ConfigScript α) disk condition returns
      raises :=
  Meets.on meets

/-- The other records of a task may change. -/
theorem Meets.writeRecord {write : TaskRecordWrite} {returns : Unit → ConfigDisk → Prop}
    (inv : ConsistentConfigs disk)
    (returned : returns () (disk.withRecord taskId (Disk.apply (disk.record taskId) write))) :
    Meets (Script.write ⟨.record taskId, write⟩ : ConfigScript Unit) disk ConsistentConfigs
      returns raises := by
  have torn : disk.withRecord taskId (disk.record taskId) = disk := Function.update_eq_self ..
  refine Meets.write inv ?_ inv.withRecord returned
  change ConsistentConfigs (disk.withRecord taskId (disk.record taskId))
  rw [torn]
  exact inv

/-- Reading the current configuration of a task. -/
theorem readTaskConfig_meets (inv : ConsistentConfigs disk) (holds : condition disk)
    {returns : Option CurrentTaskConfig → ConfigDisk → Prop}
    (returned : returns ((disk.task taskId).pair.map fun pair =>
      ⟨pair.1, pair.2, (disk.task taskId).state.isNone⟩) disk) :
    Meets (readTaskConfig taskId) disk condition returns raises := by
  unfold readTaskConfig
  refine Meets.looked (currentTaskConfig_eq (inv.tasks taskId)) ?_
  refine Meets.lift holds ?_ ?_
  · intro value read
    obtain rfl := Except.ok.inj read
    exact returned
  · intro error failed
    cases failed

theorem readInstanceConfig_meets (inv : ConsistentConfigs disk) (holds : condition disk)
    {returns : Option CurrentInstanceConfig → ConfigDisk → Prop}
    (returned : returns ((disk.agentInstance taskId instanceId).pair.map fun pair =>
      ⟨pair.1, pair.2, (disk.agentInstance taskId instanceId).state.isNone⟩) disk) :
    Meets (readInstanceConfig taskId instanceId) disk condition returns raises := by
  unfold readInstanceConfig
  refine Meets.looked (currentInstanceConfig_eq (inv.instances taskId instanceId)) ?_
  refine Meets.lift holds ?_ ?_
  · intro value read
    obtain rfl := Except.ok.inj read
    exact returned
  · intro error failed
    cases failed

end

/-! ## Pinning -/

section

variable (process : Option ConfigSnapshot) (now : Timestamp)

/-- The directory of a task after its configuration was pinned. -/
def pinned (files : TaskConfigFiles) : TaskConfigFiles :=
  match files.pair, process with
  | none, some config => (files.fill 1 (pinRevision now config)).point (pinState now config)
  | _, _ => files

/-- The revision that pinning publishes finds its number open. -/
def PinOpen (files : TaskConfigFiles) : Prop :=
  ∀ config, files.pair = none → process = some config → files.Open 1 (pinRevision now config)

/-- What pinning needs: nothing, or a task and a process configuration. -/
def CanPin (created : Bool) (files : TaskConfigFiles) : Prop :=
  files.pair = none → created = true ∧ process.isSome

end

section

variable {process : Option ConfigSnapshot} {now : Timestamp} {files : TaskConfigFiles}

theorem pinned_of_pair {current : TaskConfigState × TaskConfigRevision}
    (found : files.pair = some current) : pinned process now files = files := by
  unfold pinned
  rw [found]

theorem pinned_of_none {config : ConfigSnapshot} (absent : files.pair = none) :
    pinned (some config) now files =
      (files.fill 1 (pinRevision now config)).point (pinState now config) := by
  unfold pinned
  rw [absent]

theorem pin_follows {config : ConfigSnapshot} (absent : files.pair = none) :
    Follows files (pinRevision now config) (pinState now config) 0 where
  sequence := by
    unfold Revisions.next
    rw [absent]
    rfl
  parent := by
    rw [absent]
    rfl
  pointer := rfl
  fits := ⟨rfl, rfl⟩
  read := by
    rw [absent]
    rfl
  advances := rfl

variable {disk : ConfigDisk} {taskId : Identifier} {requireTask : Bool}

/-- Publishing a revision that follows keeps the disk consistent. -/
theorem ConsistentConfigs.published (inv : ConsistentConfigs disk) {revision : TaskConfigRevision}
    {state : TaskConfigState} {expected : Nat}
    (follows : Follows (disk.task taskId) revision state expected) :
    ConsistentConfigs (disk.withTask taskId
      ((disk.task taskId).fill revision.sequence revision)) :=
  inv.withTask (follows.filled (inv.tasks taskId)) fun _ _ =>
    (follows.beyond (inv.tasks taskId)).fill_document

theorem ConsistentConfigs.committed (inv : ConsistentConfigs disk) {revision : TaskConfigRevision}
    {state : TaskConfigState} {expected : Nat}
    (follows : Follows (disk.task taskId) revision state expected)
    (isOpen : (disk.task taskId).Open revision.sequence revision) :
    ConsistentConfigs (disk.withTask taskId
      (((disk.task taskId).fill revision.sequence revision).point state)) :=
  inv.withTask (follows.committed (inv.tasks taskId) isOpen) fun _ _ =>
    (follows.beyond (inv.tasks taskId)).fill_document

/-- A commit of the next revision of a task, on the whole disk. -/
theorem commitRevision_meets (inv : ConsistentConfigs disk) {revision : TaskConfigRevision}
    {state : TaskConfigState} {expected : Nat}
    (follows : Follows (disk.task taskId) revision state expected) :
    Meets ((commitTaskRevision revision state expected).on (.task taskId) :
        ConfigScript CurrentTaskConfig) disk ConsistentConfigs
      (fun value later => (disk.task taskId).Open revision.sequence revision ∧
        value = ⟨state, revision, false⟩ ∧
        later = disk.withTask taskId
          (((disk.task taskId).fill revision.sequence revision).point state))
      fun error later => later = disk ∧ (Room revision.sequence →
        ¬ (disk.task taskId).Open revision.sequence revision ∧
          error = taskRevisionReused revision.sequence) := by
  refine Meets.onTask ((commitTaskRevision_meets (inv.tasks taskId) follows ?_ ?_ ?_).mono
    (fun _ => id) ?_ ?_)
  · rw [ConfigDisk.withTask_self]
    exact inv
  · exact inv.published follows
  · exact inv.committed follows
  · rintro value later ⟨isOpen, same, rfl⟩
    exact ⟨isOpen, same, rfl⟩
  · rintro error later ⟨rfl, taken⟩
    exact ⟨ConfigDisk.withTask_self, taken⟩

/-- Pinning is accepted: the task exists if it has to, and there is a configuration to pin. -/
def PinAccepted (process : Option ConfigSnapshot) (requireTask : Bool) (disk : ConfigDisk)
    (taskId : Identifier) : Prop :=
  (requireTask = true → (disk.record taskId).created = true) ∧
    ((disk.task taskId).pair = none → process.isSome)

/-- Pinning succeeds exactly when the first number is open, and changes nothing but the
    configuration of its task. -/
theorem pin_meets (inv : ConsistentConfigs disk) :
    Meets (pin process now requireTask taskId) disk ConsistentConfigs
      (fun value later => PinOpen process now (disk.task taskId) ∧
        later = disk.withTask taskId (pinned process now (disk.task taskId)) ∧
        (later.task taskId).pair = some (value.state, value.revision))
      fun _ _ => PinAccepted process requireTask disk taskId →
        ¬ PinOpen process now (disk.task taskId) := by
  unfold pin
  refine Meets.looked rfl (Meets.guarded inv ?_ ?_)
  case refine_2 =>
    intro error failed accepted
    exact absurd accepted.1 (ensure_eq_error.mp failed).1
  rintro - -
  refine Meets.bind (readTaskConfig_meets inv inv ?_)
  cases found : (disk.task taskId).pair with
  | some current =>
      refine Meets.pure inv ⟨?_, ?_, found⟩
      · intro config absent
        rw [found] at absent
        cases absent
      · rw [pinned_of_pair found, ConfigDisk.withTask_self]
  | none =>
      cases process with
      | none =>
          refine Meets.guarded inv ?_ ?_
          · intro config configured
            cases configured
          · intro error _ accepted
            cases accepted.2 found
      | some config =>
          have opens : PinOpen (some config) now (disk.task taskId) ↔
              (disk.task taskId).Open 1 (pinRevision now config) := by
            constructor
            · intro all
              exact all config found rfl
            · rintro isOpen _ - same
              obtain rfl := Option.some.inj same
              exact isOpen
          have room : Room (pinRevision now config).sequence := Nat.le_of_ble_eq_true rfl
          refine Meets.checked rfl (Meets.rescue ?_)
          refine (commitRevision_meets inv (pin_follows found)).mono (fun _ => id) ?_ ?_
          · rintro value later ⟨isOpen, rfl, rfl⟩
            refine ⟨opens.mpr isOpen, by rw [pinned_of_none found]; rfl, ?_⟩
            rw [ConfigDisk.task_withTask]
            exact Revisions.pair_point isOpen.document_fill
          · rintro error later ⟨rfl, taken⟩
            obtain ⟨closed, rfl⟩ := taken room
            refine Meets.bind (readTaskConfig_meets inv inv ?_)
            rw [found]
            exact Meets.raise inv fun _ all => closed (opens.mp all)

/-- What the first read of every operation finds, and what it may have pinned. -/
theorem getCurrent_meets (inv : ConsistentConfigs disk) :
    Meets (getCurrent process now taskId) disk ConsistentConfigs
      (fun value later => PinOpen process now (disk.task taskId) ∧
        later = disk.withTask taskId (pinned process now (disk.task taskId)) ∧
        (pinned process now (disk.task taskId)).pair = some (value.state, value.revision) ∧
        ConsistentConfigs later)
      fun _ _ => CanPin process (disk.record taskId).created (disk.task taskId) →
        ¬ PinOpen process now (disk.task taskId) := by
  unfold getCurrent
  refine Meets.bind (readTaskConfig_meets inv inv ?_)
  cases found : (disk.task taskId).pair with
  | some current =>
      have kept : pinned process now (disk.task taskId) = disk.task taskId := pinned_of_pair found
      refine Meets.pure inv ⟨?_, ?_, ?_, inv⟩
      · intro config absent
        rw [found] at absent
        cases absent
      · rw [kept, ConfigDisk.withTask_self]
      · rw [kept, found]
  | none =>
      refine Meets.bind ((pin_meets inv).kept.mono (fun _ => id) ?_ fun _ _ closed can =>
        closed.1 ⟨fun _ => (can found).1, fun _ => (can found).2⟩)
      rintro value later ⟨⟨isOpen, rfl, same⟩, consistent⟩
      refine Meets.bind (readTaskConfig_meets consistent consistent ?_)
      rw [ConfigDisk.task_withTask] at same ⊢
      rw [same]
      exact Meets.pure consistent ⟨isOpen, rfl, rfl, consistent⟩

/-! ## Rebasing -/

end

section

variable (process : Option ConfigSnapshot) (now : Timestamp)

/-- The revision that a rebase publishes finds its number open. -/
def NextOpen (createdBy : Actor) (files : TaskConfigFiles) : Prop :=
  ∀ config current, process = some config → files.pair = some current →
    current.2.sourceSystemRevision ≠ config.revision →
      files.Open (current.2.sequence + 1) (rebaseRevision now config current.2 createdBy)

/-- The task revision that is current after a rebase. -/
def rebaseTarget (createdBy : Actor) (config : ConfigSnapshot) (current : TaskConfigRevision) :
    TaskConfigRevision :=
  if current.sourceSystemRevision = config.revision then current
  else rebaseRevision now config current createdBy

/-- A rebase is accepted: the current state is not locked, and there is an id for a new
    revision. -/
structure CanRebase (files : TaskConfigFiles) : Prop where
  configured : process.isSome
  unlocked : ∀ current, files.pair = some current → current.1.lockedAt = none
  room : ∀ config current, process = some config → files.pair = some current →
    current.2.sourceSystemRevision ≠ config.revision → Room (current.2.sequence + 1)

end

section

variable {process : Option ConfigSnapshot} {now : Timestamp} {files : TaskConfigFiles}
  {createdBy : Actor}

theorem rebase_follows (inv : files.Consistent TaskFits) {config : ConfigSnapshot}
    {current : TaskConfigState × TaskConfigRevision} (found : files.pair = some current)
    {legacy : Bool} :
    Follows files (rebaseRevision now config current.2 createdBy)
      (rebaseState now config ⟨current.1, current.2, legacy⟩) current.1.revision where
  sequence := by
    unfold Revisions.next
    rw [found]
    rfl
  parent := by
    rw [found]
    rfl
  pointer := rfl
  fits := ⟨rfl, (inv.pair_fits found).locked⟩
  read := by
    rw [found]
    rfl
  advances := rfl

variable {disk : ConfigDisk} {taskId : Identifier}

/-- A rebase succeeds exactly when the numbers it fills are open, and leaves a current revision of
    the process configuration. -/
theorem rebase_meets (inv : ConsistentConfigs disk) :
    Meets (rebase process now taskId createdBy) disk ConsistentConfigs
      (fun value later => PinOpen process now (disk.task taskId) ∧
        NextOpen process now createdBy (pinned process now (disk.task taskId)) ∧
        (∃ files, later = disk.withTask taskId files) ∧
        (later.task taskId).pair = some (value.state, value.revision) ∧
        ∀ config current, process = some config →
          (pinned process now (disk.task taskId)).pair = some current →
            value.revision = rebaseTarget now createdBy config current.2)
      fun _ _ => CanPin process (disk.record taskId).created (disk.task taskId) →
        CanRebase process (pinned process now (disk.task taskId)) →
          ¬ (PinOpen process now (disk.task taskId) ∧
            NextOpen process now createdBy (pinned process now (disk.task taskId))) := by
  unfold rebase
  refine Meets.bind ((getCurrent_meets inv).mono (fun _ => id) ?_ fun _ _ closed can _ both =>
    closed can both.1)
  rintro ⟨state, revision, legacy⟩ later ⟨isOpen, same, found, consistent⟩
  refine Meets.guarded consistent ?_ ?_
  case refine_2 =>
    intro error failed _ canRebase
    exact absurd (canRebase.unlocked _ found) (ensure_eq_error.mp failed).1
  rintro - -
  obtain _ | config := process
  · refine Meets.guarded consistent ?_ ?_
    · intro config configured
      cases configured
    · intro error _ _ canRebase
      cases canRebase.configured
  have task : later.task taskId = pinned (some config) now (disk.task taskId) := by
    rw [same, ConfigDisk.task_withTask]
  refine Meets.checked rfl ?_
  split
  · next current =>
      refine Meets.pure consistent ⟨isOpen, ?_, ⟨_, same⟩, by rw [task]; exact found, ?_⟩
      · rintro _ other configured found' different
        obtain rfl := Option.some.inj configured
        obtain rfl := Option.some.inj (found.symm.trans found')
        exact absurd current different
      · rintro _ other configured found'
        obtain rfl := Option.some.inj configured
        obtain rfl := Option.some.inj (found.symm.trans found')
        exact (if_pos current).symm
  · next different =>
      have follows : Follows (later.task taskId) (rebaseRevision now config revision createdBy)
          (rebaseState now config ⟨state, revision, legacy⟩) state.revision :=
        rebase_follows (consistent.tasks taskId) (task ▸ found)
      have opens : NextOpen (some config) now createdBy (pinned (some config) now
          (disk.task taskId)) ↔
          (later.task taskId).Open (rebaseRevision now config revision createdBy).sequence
            (rebaseRevision now config revision createdBy) := by
        rw [task]
        constructor
        · intro all
          exact all config (state, revision) rfl found different
        · rintro free _ other configured found' -
          obtain rfl := Option.some.inj configured
          obtain rfl := Option.some.inj (found.symm.trans found')
          exact free
      refine (commitRevision_meets consistent follows).mono (fun _ => id) ?_ ?_
      · rintro value disk' ⟨free, rfl, rfl⟩
        refine ⟨isOpen, opens.mpr free, ?_, ?_, ?_⟩
        · rw [same, ConfigDisk.withTask_withTask]
          exact ⟨_, rfl⟩
        · rw [ConfigDisk.task_withTask]
          exact Revisions.pair_point free.document_fill
        · rintro _ other configured found'
          obtain rfl := Option.some.inj configured
          obtain rfl := Option.some.inj (found.symm.trans found')
          exact (if_neg different).symm
      · rintro error disk' ⟨-, taken⟩ - canRebase both
        exact (taken (canRebase.room config _ rfl found different)).1 (opens.mp both.2)

end

end DesignHarness
