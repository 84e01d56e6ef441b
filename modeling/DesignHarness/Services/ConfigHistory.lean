import DesignHarness.Library.Runs
import DesignHarness.Services.ConfigRebaseRules

/-!
# Histories of configuration calls

Calls of the task configuration, of the materializer and of the rebase service follow one another
on one disk; each can be stopped at any of its writes.  Whatever happened before, the next call
that is accepted succeeds exactly when the numbers it fills are open (`configCall_succeeds`), so
the only thing that an interrupted call can leave behind is a number taken by other content.
-/

namespace DesignHarness

open Library

section

variable {process : Option ConfigSnapshot} {now : Timestamp} {actor : Actor}
  {disk later : ConfigDisk} {taskId other : Identifier}

/-- What a rebase of another task left alone decides a rebase of this one. -/
theorem OnlyTask.taskOpen (only : OnlyTask taskId disk later) (apart : other ≠ taskId) :
    TaskOpen process now actor later other ↔ TaskOpen process now actor disk other := by
  simp only [taskOpen_iff, Skipped, Preflighted, only.tasks other apart, only.records other apart,
    only.instances other _ apart]

theorem OnlyTask.canRebaseTask (only : OnlyTask taskId disk later) (apart : other ≠ taskId) :
    CanRebaseTask process now actor later other ↔ CanRebaseTask process now actor disk other := by
  simp only [canRebaseTask_iff, Skipped, Preflighted, Listed, only.tasks other apart,
    only.records other apart, only.instances other _ apart]

/-- The loop over the tasks succeeds exactly when every number that it fills is open. -/
theorem rebaseEach_meets (inv : ConsistentConfigs disk) {taskIds : List Identifier} :
    Meets (rebaseEach process now actor taskIds) disk ConsistentConfigs
      (fun _ later => (taskIds.Nodup →
        ∀ taskId ∈ taskIds, TaskOpen process now actor disk taskId) ∧ ConsistentConfigs later)
      fun _ _ => taskIds.Nodup →
        (∀ taskId ∈ taskIds, CanRebaseTask process now actor disk taskId) →
          ¬ ∀ taskId ∈ taskIds, TaskOpen process now actor disk taskId := by
  induction taskIds generalizing disk with
  | nil =>
      refine Meets.pure inv ⟨?_, inv⟩
      intro _ taskId member
      cases member
  | cons taskId rest ih =>
      have apart : (taskId :: rest).Nodup → rest.Nodup ∧ ∀ other ∈ rest, other ≠ taskId := by
        intro distinct
        obtain ⟨fresh, distinct⟩ := List.nodup_cons.mp distinct
        refine ⟨distinct, ?_⟩
        rintro other member rfl
        exact fresh member
      refine Meets.bind ((rebaseOne_meets inv).kept.mono (fun _ => id) ?_
        fun _ _ closed _ can all => closed.1 (can taskId List.mem_cons_self)
          (all taskId List.mem_cons_self))
      rintro item middle ⟨⟨isOpen, only⟩, consistent⟩
      refine Meets.bind ((ih consistent).mono (fun _ => id) ?_ ?_)
      · rintro items last ⟨opens, consistent⟩
        refine Meets.pure consistent ⟨?_, consistent⟩
        intro distinct other member
        obtain ⟨distinct, apart⟩ := apart distinct
        obtain rfl | member := List.mem_cons.mp member
        · exact isOpen
        · exact (only.taskOpen (apart other member)).mp (opens distinct other member)
      · intro _ _ closed distinct can all
        obtain ⟨distinct, apart⟩ := apart distinct
        refine closed distinct ?_ ?_
        · intro other member
          exact (only.canRebaseTask (apart other member)).mpr
            (can other (List.mem_cons_of_mem _ member))
        · intro other member
          exact (only.taskOpen (apart other member)).mpr
            (all other (List.mem_cons_of_mem _ member))

theorem rebaseAll_meets (inv : ConsistentConfigs disk) {taskIds : List Identifier} :
    Meets (rebaseAll process now actor taskIds) disk ConsistentConfigs
      (fun _ later => (taskIds.Nodup →
        ∀ taskId ∈ taskIds, TaskOpen process now actor disk taskId) ∧ ConsistentConfigs later)
      fun _ _ => (actor.actorType = .human ∨ actor.actorType = .system) → process.isSome →
        taskIds.Nodup → (∀ taskId ∈ taskIds, CanRebaseTask process now actor disk taskId) →
          ¬ ∀ taskId ∈ taskIds, TaskOpen process now actor disk taskId := by
  unfold rebaseAll
  refine Meets.guarded inv ?_ ?_
  case refine_2 =>
    intro error failed accepted
    exact absurd accepted (ensure_eq_error.mp failed).1
  rintro - -
  refine Meets.bind ((rebaseEach_meets inv).mono (fun _ => id) ?_ fun _ _ closed _ _ => closed)
  rintro items later ⟨opens, consistent⟩
  refine Meets.guarded consistent ?_ ?_
  · intro config _
    exact Meets.pure consistent ⟨opens, consistent⟩
  · intro error failed _ configured
    obtain ⟨config, rfl⟩ := Option.isSome_iff_exists.mp configured
    cases failed

end

/-- The calls that publish revisions. -/
inductive ConfigCall where
  | pin (requireTask : Bool) (taskId : Identifier)
  | rebase (taskId : Identifier) (createdBy : Actor)
  | materialize (taskId instanceId : Identifier)
  | rebaseAll (actor : Actor) (taskIds : List Identifier)

namespace ConfigCall

variable (process : Option ConfigSnapshot) (now : Timestamp) (disk : ConfigDisk)

def script : ConfigCall → ConfigScript Unit
  | .pin requireTask taskId => do
      let _ ← DesignHarness.pin process now requireTask taskId
  | .rebase taskId createdBy => do
      let _ ← DesignHarness.rebase process now taskId createdBy
  | .materialize taskId instanceId => do
      let _ ← DesignHarness.materialize process now taskId instanceId
  | .rebaseAll actor taskIds => do
      let _ ← DesignHarness.rebaseAll process now actor taskIds

/-- The call is accepted: nothing but the revisions that stand in the directories can make it
    fail. -/
def Admissible : ConfigCall → Prop
  | .pin requireTask taskId => PinAccepted process requireTask disk taskId
  | .rebase taskId _ =>
      CanPin process (disk.record taskId).created (disk.task taskId) ∧
        CanRebase process (pinned process now (disk.task taskId))
  | .materialize taskId instanceId => CanMaterialize process now disk taskId instanceId
  | .rebaseAll actor taskIds =>
      (actor.actorType = .human ∨ actor.actorType = .system) ∧ process.isSome ∧ taskIds.Nodup ∧
        ∀ taskId ∈ taskIds, CanRebaseTask process now actor disk taskId

/-- Every number that the call fills is free, or holds the very revision that the call builds. -/
def SlotsOpen : ConfigCall → Prop
  | .pin _ taskId => PinOpen process now (disk.task taskId)
  | .rebase taskId createdBy =>
      PinOpen process now (disk.task taskId) ∧
        NextOpen process now createdBy (pinned process now (disk.task taskId))
  | .materialize taskId instanceId => MaterializeOpen process now disk taskId instanceId
  | .rebaseAll actor taskIds => ∀ taskId ∈ taskIds, TaskOpen process now actor disk taskId

variable {process : Option ConfigSnapshot} {now : Timestamp} {disk : ConfigDisk}
  {call : ConfigCall}

/-- A call that is accepted succeeds exactly when the numbers are open that it fills; any call
    keeps the disk consistent wherever it is stopped. -/
theorem script_meets (inv : ConsistentConfigs disk) :
    Meets (call.script process now) disk ConsistentConfigs
      (fun _ _ => call.Admissible process now disk → call.SlotsOpen process now disk)
      fun _ _ => call.Admissible process now disk → ¬ call.SlotsOpen process now disk := by
  cases call with
  | pin requireTask taskId =>
      refine Meets.bind ((pin_meets inv).kept.mono (fun _ => id) ?_ fun _ _ => And.left)
      rintro value later ⟨⟨isOpen, -⟩, consistent⟩
      exact Meets.pure consistent fun _ => isOpen
  | rebase taskId createdBy =>
      refine Meets.bind ((rebase_meets inv).kept.mono (fun _ => id) ?_ ?_)
      · rintro value later ⟨⟨pinOpen, nextOpen, -⟩, consistent⟩
        exact Meets.pure consistent fun _ => ⟨pinOpen, nextOpen⟩
      · rintro error later ⟨closed, -⟩ ⟨canPin, canRebase⟩
        exact closed canPin canRebase
  | materialize taskId instanceId =>
      refine Meets.bind ((materialize_meets inv).kept.mono (fun _ => id) ?_ fun _ _ => And.left)
      rintro value later ⟨⟨isOpen, -⟩, consistent⟩
      exact Meets.pure consistent fun _ => isOpen
  | rebaseAll actor taskIds =>
      refine Meets.bind ((rebaseAll_meets inv).mono (fun _ => id) ?_ ?_)
      · rintro value later ⟨opens, consistent⟩
        exact Meets.pure consistent fun accepted => opens accepted.2.2.1
      · rintro error later closed ⟨accepted, configured, distinct, can⟩
        exact closed accepted configured distinct can

end ConfigCall

/-! ## Histories -/

/-- What happens to the disk: a call or the lock of a task at its start, ended or stopped at one
    of its writes, with the configuration and the clock of the process that makes it; a recovery,
    which leaves every revision and pointer alone; another service that writes the records. -/
inductive ConfigStep where
  | call (call : ConfigCall) (process : Option ConfigSnapshot) (now : Timestamp)
      (stop : Option (Nat × Bool))
  | lock (taskId : Identifier) (reason : String) (process : Option ConfigSnapshot)
      (now : Timestamp) (stop : Option (Nat × Bool))
  | recover
  | records (taskId : Identifier) (record : TaskRecord)

def ConfigStep.next (disk : ConfigDisk) : ConfigStep → ConfigDisk
  | .call operation process now stop => (operation.script process now).upTo stop disk
  | .lock taskId reason process now stop => (lockForStart process now taskId reason).upTo stop disk
  | .recover => disk
  | .records taskId record => disk.withRecord taskId record

/-- The disk after a history. -/
def configRun (disk : ConfigDisk) (steps : List ConfigStep) : ConfigDisk :=
  steps.foldl ConfigStep.next disk

/-- A directory that holds no revision, at most a snapshot of the 1.0 format. -/
structure InitialTask (files : TaskConfigFiles) : Prop where
  state : files.state = none
  slots : files.slots = ∅
  legacy : ∀ pair, files.legacy = some pair → pair.1.currentRevision = 1 ∧
    TaskFits pair.1 pair.2 ∧ pair.2.sequence = 1 ∧ pair.2.parent = none

structure InitialInstance (files : InstanceConfigFiles) : Prop where
  state : files.state = none
  slots : files.slots = ∅
  legacy : ∀ pair, files.legacy = some pair → pair.1.currentRevision = 1 ∧
    InstanceFits pair.1 pair.2 ∧ pair.2.manifest.sequence = 1 ∧ pair.2.manifest.parent = none ∧
      pair.2.manifest.taskConfigRevision = 1

/-- No revision was published yet; an instance of the 1.0 format belongs to such a task. -/
structure InitialConfigs (disk : ConfigDisk) : Prop where
  tasks : ∀ taskId, InitialTask (disk.task taskId)
  instances : ∀ taskId instanceId, InitialInstance (disk.agentInstance taskId instanceId)
  based : ∀ taskId instanceId, (disk.agentInstance taskId instanceId).legacy.isSome →
    (disk.task taskId).legacy.isSome

theorem InitialTask.document {files : TaskConfigFiles} (initial : InitialTask files)
    {sequence : Nat} :
    files.document sequence = if sequence = 1 then files.legacy.map Prod.snd else none := by
  unfold Revisions.document
  rw [initial.slots, AList.lookup_empty]

theorem InitialInstance.document {files : InstanceConfigFiles} (initial : InitialInstance files)
    {sequence : Nat} :
    files.document sequence = if sequence = 1 then files.legacy.map Prod.snd else none := by
  unfold Revisions.document
  rw [initial.slots, AList.lookup_empty]

theorem InitialTask.consistent {files : TaskConfigFiles} (initial : InitialTask files) :
    files.Consistent TaskFits := by
  constructor
  case current =>
    intro state stored
    rw [initial.state] at stored
    cases stored
  case numbered =>
    intro sequence revision found
    rw [initial.document] at found
    split at found
    · next first =>
        obtain ⟨pair, legacy, rfl⟩ := Option.map_eq_some_iff.mp found
        obtain ⟨-, -, named, -⟩ := initial.legacy pair legacy
        exact ⟨named.trans first.symm, by omega⟩
    · cases found
  case ancestry =>
    intro sequence revision parent found named
    rw [initial.document] at found
    split at found
    · obtain ⟨pair, legacy, rfl⟩ := Option.map_eq_some_iff.mp found
      obtain ⟨-, -, -, orphan⟩ := initial.legacy pair legacy
      cases orphan.symm.trans named
    · cases found
  case legacy =>
    intro pair legacy
    obtain ⟨pointer, fits, -⟩ := initial.legacy pair legacy
    refine ⟨pointer, ?_, fits⟩
    rw [initial.document, legacy]
    rfl

theorem InitialInstance.consistent {files : InstanceConfigFiles} (initial : InitialInstance files) :
    files.Consistent InstanceFits := by
  constructor
  case current =>
    intro state stored
    rw [initial.state] at stored
    cases stored
  case numbered =>
    intro sequence bundle found
    rw [initial.document] at found
    split at found
    · next first =>
        obtain ⟨pair, legacy, rfl⟩ := Option.map_eq_some_iff.mp found
        obtain ⟨-, -, named, -⟩ := initial.legacy pair legacy
        exact ⟨named.trans first.symm, by omega⟩
    · cases found
  case ancestry =>
    intro sequence bundle parent found named
    rw [initial.document] at found
    split at found
    · obtain ⟨pair, legacy, rfl⟩ := Option.map_eq_some_iff.mp found
      obtain ⟨-, -, -, orphan, -⟩ := initial.legacy pair legacy
      cases orphan.symm.trans named
    · cases found
  case legacy =>
    intro pair legacy
    obtain ⟨pointer, fits, -⟩ := initial.legacy pair legacy
    refine ⟨pointer, ?_, fits⟩
    rw [initial.document, legacy]
    rfl

theorem InitialConfigs.consistent {disk : ConfigDisk} (initial : InitialConfigs disk) :
    ConsistentConfigs disk where
  tasks taskId := (initial.tasks taskId).consistent
  instances taskId instanceId := (initial.instances taskId instanceId).consistent
  based taskId instanceId sequence bundle found := by
    rw [(initial.instances taskId instanceId).document] at found
    split at found
    · obtain ⟨pair, legacy, rfl⟩ := Option.map_eq_some_iff.mp found
      obtain ⟨-, -, -, -, task⟩ := (initial.instances taskId instanceId).legacy pair legacy
      obtain ⟨older, present⟩ := Option.isSome_iff_exists.mp
        (initial.based taskId instanceId (by rw [legacy]; rfl))
      rw [task, (initial.tasks taskId).document, present]
      rfl
    · cases found

section

variable {disk : ConfigDisk} {process : Option ConfigSnapshot} {now : Timestamp}
  {taskId : Identifier} {reason : String}

theorem lockCurrent_meets {files : TaskConfigFiles} (inv : files.Consistent TaskFits)
    {condition : TaskConfigFiles → Prop} (unchanged : condition files)
    (locked : ∀ state : TaskConfigState, (files.point state).Consistent TaskFits →
      condition (files.point state)) :
    Meets (lockCurrent now reason) files condition (fun _ _ => True) fun _ _ => True := by
  unfold lockCurrent
  refine Meets.looked (currentTaskConfig_eq inv) (Meets.checked rfl ?_)
  cases found : files.pair with
  | none => exact Meets.raise unchanged trivial
  | some current =>
      dsimp only [Option.map_some]
      split
      · exact Meets.pure unchanged trivial
      · refine Meets.guarded unchanged ?_ fun _ _ => trivial
        intro _ _
        have written : condition (files.point
            { current.1 with
              lockedAt := some now
              lockedReason := some reason
              revision := current.1.revision + 1
              updatedAt := now }) :=
          locked _ (inv.point (inv.pair_document found) ⟨(inv.pair_fits found).source, rfl⟩)
        exact Meets.bind (Meets.write unchanged unchanged written (Meets.pure written trivial))

theorem lockForStart_meets (inv : ConsistentConfigs disk) :
    Meets (lockForStart process now taskId reason) disk ConsistentConfigs (fun _ _ => True)
      fun _ _ => True := by
  unfold lockForStart
  refine Meets.bind ((pin_meets inv).kept.mono (fun _ => id) ?_ fun _ _ _ => trivial)
  rintro value later ⟨-, consistent⟩
  refine Meets.onTask (lockCurrent_meets (consistent.tasks taskId) ?_ ?_)
  · rw [ConfigDisk.withTask_self]
    exact consistent
  · intro state pointed
    exact consistent.withTask pointed fun _ _ found => found

/-- Every step keeps the disk consistent. -/
theorem ConsistentConfigs.step (inv : ConsistentConfigs disk) (step : ConfigStep) :
    ConsistentConfigs (step.next disk) := by
  cases step with
  | call call process now stop => exact (ConfigCall.script_meets inv).upTo stop
  | lock taskId reason process now stop => exact (lockForStart_meets inv).upTo stop
  | recover => exact inv
  | records taskId record => exact inv.withRecord

/-- Every history keeps the disk consistent. -/
theorem ConsistentConfigs.run (inv : ConsistentConfigs disk) (steps : List ConfigStep) :
    ConsistentConfigs (configRun disk steps) := by
  induction steps generalizing disk with
  | nil => exact inv
  | cons step rest ih => exact ih (inv.step step)

/-- No revision stands beyond the current one. -/
structure SettledConfigs (disk : ConfigDisk) : Prop where
  tasks : ∀ taskId, (disk.task taskId).Settled
  instances : ∀ taskId instanceId, (disk.agentInstance taskId instanceId).Settled

theorem next_of_pair {files : TaskConfigFiles} {current : TaskConfigState × TaskConfigRevision}
    (found : files.pair = some current) : files.next = current.2.sequence + 1 := by
  unfold Revisions.next
  rw [found]
  rfl

theorem next_of_none {files : TaskConfigFiles} (absent : files.pair = none) : files.next = 1 := by
  unfold Revisions.next
  rw [absent]
  rfl

theorem pinOpen_of_settled {files : TaskConfigFiles} (settled : files.Settled) :
    PinOpen process now files := by
  intro config absent _
  rw [← next_of_none absent]
  exact settled.open

theorem settled_pinned {files : TaskConfigFiles} (settled : files.Settled) :
    (pinned process now files).Settled := by
  cases found : files.pair with
  | some current =>
      rw [pinned_of_pair found]
      exact settled
  | none =>
      obtain _ | config := process
      · unfold pinned
        rw [found]
        exact settled
      rw [pinned_of_none found]
      have pinOpen : PinOpen (some config) now files := pinOpen_of_settled settled
      have isOpen := pinOpen config found rfl
      have current : ((files.fill 1 (pinRevision now config)).point (pinState now config)).pair =
          some (pinState now config, pinRevision now config) :=
        Revisions.pair_point isOpen.document_fill
      have next : ((files.fill 1 (pinRevision now config)).point (pinState now config)).next = 2 :=
        next_of_pair current
      intro sequence stored
      rw [next]
      by_cases first : sequence = 1
      · omega
      · have before : (files.slots.lookup sequence).isSome := by
          have other : (files.fill 1 (pinRevision now config)).slots.lookup sequence =
              files.slots.lookup sequence := Revisions.fill_lookup_other first
          rw [← other]
          exact stored
        have bound := settled sequence before
        rw [next_of_none found] at bound
        omega

theorem nextOpen_of_settled {files : TaskConfigFiles} {createdBy : Actor}
    (settled : files.Settled) : NextOpen process now createdBy files := by
  intro config current _ found _
  rw [← next_of_pair found]
  exact settled.open

theorem instanceOpen_of_settled {files : InstanceConfigFiles} {actor : Actor}
    {target : TaskConfigRevision} (settled : files.Settled) :
    InstanceOpen process now actor target files := by
  constructor
  · intro bundle _ built
    rw [(nextBundle_eq_ok built).1.sequence]
    exact settled.open
  · intro current bundle _ _ built
    rw [(nextBundle_eq_ok built).1.sequence]
    exact settled.open

/-- On a disk where every revision is behind its pointer every number is open: what can make an
    accepted call fail is the revision of an interrupted one. -/
theorem ConfigCall.slotsOpen_of_settled {call : ConfigCall} (settled : SettledConfigs disk) :
    call.SlotsOpen process now disk := by
  have pins (taskId : String) : PinOpen process now (disk.task taskId) :=
    pinOpen_of_settled (settled.tasks taskId)
  cases call with
  | pin requireTask taskId => exact pins taskId
  | rebase taskId createdBy =>
      exact ⟨pins taskId, nextOpen_of_settled (settled_pinned (settled.tasks taskId))⟩
  | materialize taskId instanceId =>
      intro _
      refine ⟨pins taskId, ?_⟩
      intro current _
      have isOpen : InstanceOpen process now materializer current.2
          (disk.agentInstance taskId instanceId) :=
        instanceOpen_of_settled (settled.instances taskId instanceId)
      exact isOpen.first
  | rebaseAll actor taskIds =>
      intro taskId _
      refine ⟨pins taskId, ?_, ?_⟩
      · intro config current _ _ _ _
        exact nextOpen_of_settled (settled_pinned (settled.tasks taskId))
      · intro config current _ _ _ _ item _
        exact instanceOpen_of_settled (settled.instances taskId item.instanceId)

end

/-- A deployment configuration. -/
def sampleConfig : ConfigSnapshot where
  revision := "cfg_1"
  providers := ["ark"]
  modelList := ⟨[], [], []⟩
  runtime :=
    { models := ⟨"master", "text", "vision", "image"⟩
      imageAgent :=
        { questionPreference := .proactive
          maxAutoQuestions := 3
          clarificationTotalBudget := 10
          categoryConstraint := .auto
          styleDirection := .auto
          candidateConcurrency := 2
          defaultOutputSize := "1024x1024"
          responseFormat := .url
          watermark := false
          selfCheck := ⟨.solo, 2, 4, false⟩
          advancedModelOverrides := {} } }

end DesignHarness
