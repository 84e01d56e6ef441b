import DesignHarness.Services.TaskArchiveHistory

/-!
# Archived instances come back

A run interleaves archives, resumes, their recoveries and other commands of the task, and every
archive and resume may stop at any write.  In a run that is `OrderlyArchives`, where no archive
suspends beside another one or from a stale record and no resume undoes an archive while another
one holds instances, every snapshot that a resume works from records every parked instance, and
none is left when the resume returns.
-/

namespace DesignHarness

open Library

/-- The command that only `resume_task` issues. -/
def Command.restores : Command → Bool
  | .restoreArchived _ _ => true
  | _ => false

/-- What happens to the task. -/
inductive ArchiveStep where
  | archive (operationId : Identifier) (request : ArchiveRequest) (world : ArchiveWorld)
      (stop : Option (Nat × Bool))
  | recoverArchive (operationId : Identifier) (world : ArchiveWorld) (stop : Option (Nat × Bool))
  | resume (operationId : Identifier) (envelope : CommandEnvelope) (world : ArchiveWorld)
      (stop : Option (Nat × Bool))
  | recoverResume (operationId : Identifier) (world : ArchiveWorld) (stop : Option (Nat × Bool))
  | command (command : Command) (other : command.restores = false) (envelope : CommandEnvelope)
      (ambient : Ambient)
  | transition (instanceId : Identifier) (target : InstanceStatus) (key : String)
      (ambient : Ambient)
  | updateInstanceFields (instanceId : Identifier) (changes : InstanceChanges)

/-- A task without plan and intents. -/
def ArchiveDisk.empty : ArchiveDisk :=
  ⟨.empty, [], [], fun _ => none, [], fun _ => none⟩

section

variable (taskId : Identifier)

def archiveStep (disk : ArchiveDisk) : ArchiveStep → Outcome ArchiveDisk
  | .archive operationId request world stop =>
      .ok ((archiveTask taskId world operationId request).upTo stop disk)
  | .recoverArchive operationId world stop =>
      .ok ((recoverArchive taskId world operationId).upTo stop disk)
  | .resume operationId envelope world stop =>
      .ok ((resumeTask taskId world operationId envelope).upTo stop disk)
  | .recoverResume operationId world stop =>
      .ok ((recoverResume taskId world operationId).upTo stop disk)
  | .command command _ envelope ambient => do
      let (_, next) ← disk.commands.command taskId command envelope ambient
      return Disk.apply disk (ArchiveWrite.commands next)
  | .transition instanceId target key ambient => do
      let (_, next) ← disk.commands.transition taskId instanceId target key ambient
      return Disk.apply disk (ArchiveWrite.commands next)
  | .updateInstanceFields instanceId changes => do
      let next ← disk.commands.updateInstanceFields instanceId changes
      return Disk.apply disk (ArchiveWrite.commands next)

/-- The intent that an archive runs, when it does not return or raise at once. -/
def archiveRuns (disk : ArchiveDisk) (operationId : Identifier) (request : ArchiveRequest) :
    Option ArchiveIntent :=
  (openArchive taskId disk operationId request).toOption.bind Sum.getRight?

/-- The intent that a resume runs, when it does not return or raise at once. -/
def resumeRuns (disk : ArchiveDisk) (operationId : Identifier) (envelope : CommandEnvelope) :
    Option ResumeIntent :=
  (openResume taskId disk operationId envelope).toOption.bind Sum.getRight?

/-- The archive that a resume is about to undo. -/
def ArchiveDisk.undoing (disk : ArchiveDisk) (operationId : Identifier) : Option Identifier :=
  if (disk.resume? operationId).isSome then disk.undoes operationId
  else disk.latestArchive.map ArchiveIntent.operationId

/-- An archive runs only beside no other archive's suspensions and from a record that is current,
    and a resume only to undo the archive that suspended what is parked. -/
def OrderlyArchives (disk : ArchiveDisk) : ArchiveStep → Prop
  | .archive operationId request _ _ => ∀ intent ∈ archiveRuns taskId disk operationId request,
      disk.ParkedBy (some operationId) ∧ intent.Current disk
  | .recoverArchive operationId _ _ => ∀ intent ∈ disk.archive? operationId,
      intent.state = .prepared →
        disk.ParkedBy (some operationId) ∧ intent.Current disk
  | .resume operationId envelope _ _ => (resumeRuns taskId disk operationId envelope).isSome →
      disk.ParkedBy (disk.undoing operationId)
  | .recoverResume operationId _ _ => ∀ intent ∈ disk.resume? operationId, intent.result = none →
      disk.ParkedBy (disk.undoes operationId)
  | _ => True

/-- The snapshot of a new resume records what every parked instance was, and a resume that ran and
    returned leaves none parked. -/
def Restores (disk : ArchiveDisk) : ArchiveStep → Prop
  | .resume operationId envelope world _ =>
      ∀ intent ∈ resumeRuns taskId disk operationId envelope,
        (disk.resume? operationId = none → ∀ parked ∈ disk.parked,
          ArchiveTarget.mk parked.instanceId parked.status ∈ intent.snapshot.targets) ∧
        ∀ result, (resumeTask taskId world operationId envelope disk).outcome = .ok result →
          ((resumeTask taskId world operationId envelope).after disk).parked = []
  | .recoverResume operationId world _ =>
      ∀ intent ∈ disk.resume? operationId, intent.result = none →
        ∀ result, (recoverResume taskId world operationId disk).outcome = .ok result →
          ((recoverResume taskId world operationId).after disk).parked = []
  | _ => True

end

/-! ## Runs -/

section

variable {taskId : Identifier} {disk : ArchiveDisk}

/-- The intent of an archive that runs is the one on the disk, or a new one. -/
theorem archiveRuns_cases {operationId : Identifier} {request : ArchiveRequest}
    {intent : ArchiveIntent} (runs : intent ∈ archiveRuns taskId disk operationId request) :
    openArchive taskId disk operationId request = .ok (.inr intent) ∧
      intent.operationId = operationId ∧ intent.state = .prepared ∧
      (disk.archive? operationId = some intent ∨ disk.archive? operationId = none) := by
  have opened : openArchive taskId disk operationId request = .ok (.inr intent) := by
    unfold archiveRuns at runs
    cases ended : openArchive taskId disk operationId request with
    | error error => simp [ended, Except.toOption] at runs
    | ok found =>
        cases found with
        | inl result => simp [ended, Except.toOption] at runs
        | inr other => simpa [ended, Except.toOption] using runs
  refine ⟨opened, ?_⟩
  rcases bind_eq_ok.mp opened with ⟨-, -, opened⟩
  rcases bind_eq_ok.mp opened with ⟨-, -, opened⟩
  rcases bind_eq_ok.mp opened with ⟨-, -, opened⟩
  cases known : disk.archive? operationId with
  | some old =>
      simp only [known] at opened
      rcases bind_eq_ok.mp opened with ⟨-, -, opened⟩
      cases state : old.state with
      | prepared =>
          simp only [state, pure_eq_ok, Except.ok.injEq, Sum.inr.injEq] at opened
          subst opened
          exact ⟨operationId_of_archive? known, state, .inl rfl⟩
      | aborted error => simp [state] at opened
      | committed committedAt result => simp [state, pure_eq_ok] at opened
  | none =>
      simp only [known] at opened
      rcases bind_eq_ok.mp opened with ⟨replayed, -, opened⟩
      cases replayed with
      | some result => simp [pure_eq_ok] at opened
      | none =>
          rcases bind_eq_ok.mp opened with ⟨-, -, opened⟩
          rcases bind_eq_ok.mp opened with ⟨status, -, opened⟩
          rcases bind_eq_ok.mp opened with ⟨-, -, opened⟩
          simp only [pure_eq_ok, Except.ok.injEq, Sum.inr.injEq] at opened
          subst opened
          exact ⟨rfl, rfl, .inr rfl⟩

/-- The intent of a resume that runs is the one on the disk, or a new one with the snapshot of the
    latest archive. -/
theorem resumeRuns_cases {operationId : Identifier} {envelope : CommandEnvelope}
    {intent : ResumeIntent} (runs : intent ∈ resumeRuns taskId disk operationId envelope) :
    openResume taskId disk operationId envelope = .ok (.inr intent) ∧
      (disk.resume? operationId = some intent ∨ disk.resume? operationId = none ∧
        intent = ⟨operationId, envelope, resumeSnapshot disk, fun _ => .pending, false, none⟩) := by
  have opened : openResume taskId disk operationId envelope = .ok (.inr intent) := by
    unfold resumeRuns at runs
    cases ended : openResume taskId disk operationId envelope with
    | error error => simp [ended, Except.toOption] at runs
    | ok found =>
        cases found with
        | inl result => simp [ended, Except.toOption] at runs
        | inr other => simpa [ended, Except.toOption] using runs
  refine ⟨opened, ?_⟩
  rcases bind_eq_ok.mp opened with ⟨-, -, opened⟩
  rcases bind_eq_ok.mp opened with ⟨-, -, opened⟩
  cases known : disk.resume? operationId with
  | some old =>
      simp only [known] at opened
      rcases bind_eq_ok.mp opened with ⟨-, -, opened⟩
      cases result : old.result with
      | some result => simp [result, pure_eq_ok] at opened
      | none =>
          simp only [result, pure_eq_ok, Except.ok.injEq, Sum.inr.injEq] at opened
          exact .inl (congrArg some opened)
  | none =>
      simp only [known] at opened
      rcases bind_eq_ok.mp opened with ⟨-, -, opened⟩
      rcases bind_eq_ok.mp opened with ⟨status, -, opened⟩
      rcases bind_eq_ok.mp opened with ⟨-, -, opened⟩
      simp only [pure_eq_ok, Except.ok.injEq, Sum.inr.injEq] at opened
      exact .inr ⟨rfl, opened.symm⟩

theorem archiveTask_sound {operationId : Identifier} {request : ArchiveRequest}
    {world : ArchiveWorld} (sound : SoundArchives disk)
    (orderly : ∀ intent ∈ archiveRuns taskId disk operationId request,
      disk.ParkedBy (some operationId) ∧ intent.Current disk) :
    Meets (archiveTask taskId world operationId request) disk SoundArchives (fun _ _ => True)
      fun _ _ => True := by
  unfold archiveTask
  refine Meets.looked rfl ?_
  refine Meets.guarded sound (fun opened ended => ?_) fun _ _ => trivial
  change openArchive taskId disk operationId request = _ at ended
  cases opened with
  | inl result => exact Meets.pure sound trivial
  | inr intent =>
      dsimp only [id]
      have runs : intent ∈ archiveRuns taskId disk operationId request := by
        simp [archiveRuns, ended, Except.toOption]
      rcases archiveRuns_cases runs with ⟨-, same, prepared, stored | new⟩
      · have archiving : Archiving intent disk := by
          refine ⟨sound, ?_, (orderly intent runs).2, same ▸ stored, prepared⟩
          rw [same]
          exact (orderly intent runs).1
        have known : ¬ (disk.archive? operationId).isNone := by simp [stored]
        rw [if_neg known]
        exact resumeArchiveTask_sound archiving
      · have unknown : (disk.archive? operationId).isNone := by simp [new]
        rw [if_pos unknown]
        have written : SoundArchives (Disk.apply disk (.archive intent)) := by
          refine sound.archive fun old found => ?_
          rw [same, new] at found
          cases found
        have archiving : Archiving intent (Disk.apply disk (.archive intent)) := by
          refine ⟨written, ?_, (orderly intent runs).2, ?_, prepared⟩
          · rw [same]
            exact (orderly intent runs).1
          · rw [archive?_archive, if_pos rfl]
        refine Meets.bind (Meets.write sound sound written ?_)
        exact resumeArchiveTask_sound archiving

theorem recoverArchive_sound {operationId : Identifier} {world : ArchiveWorld}
    (sound : SoundArchives disk)
    (orderly : ∀ intent ∈ disk.archive? operationId, intent.state = .prepared →
      disk.ParkedBy (some operationId) ∧ intent.Current disk) :
    Meets (recoverArchive taskId world operationId) disk SoundArchives (fun _ _ => True)
      fun _ _ => True := by
  unfold recoverArchive
  refine Meets.looked rfl ?_
  cases stored : disk.archive? operationId with
  | none => exact Meets.pure sound trivial
  | some intent =>
      dsimp only
      split
      · rename_i prepared
        have same := operationId_of_archive? stored
        rcases orderly intent stored prepared with ⟨owned, current⟩
        have archiving : Archiving intent disk :=
          ⟨sound, same ▸ owned, current, same ▸ stored, prepared⟩
        refine Meets.bind ((resumeArchiveTask_sound archiving).kept.mono (fun _ => id) ?_
          fun _ _ _ => trivial)
        exact fun _ disk ended => Meets.pure ended.2 trivial
      · exact Meets.pure sound trivial

theorem resumeTask_wakes {operationId : Identifier} {envelope : CommandEnvelope}
    {world : ArchiveWorld} (sound : SoundArchives disk)
    (orderly : (resumeRuns taskId disk operationId envelope).isSome →
      disk.ParkedBy (disk.undoing operationId)) :
    Meets (resumeTask taskId world operationId envelope) disk SoundArchives
      (fun _ later => (resumeRuns taskId disk operationId envelope).isSome → later.parked = [])
      fun _ _ => True := by
  unfold resumeTask
  refine Meets.looked rfl ?_
  refine Meets.guarded sound (fun opened ended => ?_) fun _ _ => trivial
  change openResume taskId disk operationId envelope = _ at ended
  cases opened with
  | inl result =>
      refine Meets.pure sound fun runs => ?_
      simp [resumeRuns, ended, Except.toOption] at runs
  | inr intent =>
      dsimp only [id]
      have runs : intent ∈ resumeRuns taskId disk operationId envelope := by
        simp [resumeRuns, ended, Except.toOption]
      have owned := orderly (Option.isSome_of_mem runs)
      rcases resumeRuns_cases runs with ⟨-, stored | ⟨new, fresh⟩⟩
      · have same := operationId_of_resume? stored
        have known : (disk.resume? operationId).isSome := by simp [stored]
        rw [ArchiveDisk.undoing, if_pos known] at owned
        have resuming : Resuming intent disk := ⟨sound, same ▸ owned, same ▸ stored⟩
        have old : ¬ (disk.resume? operationId).isNone := by simp [stored]
        rw [if_neg old]
        exact (resumeResumeTask_wakes resuming).mono (fun _ => id) (fun _ _ nothing _ => nothing)
          fun _ _ => id
      · have unknown : ¬ (disk.resume? operationId).isSome := by simp [new]
        rw [ArchiveDisk.undoing, if_neg unknown] at owned
        have absent : (disk.resume? operationId).isNone := by simp [new]
        rw [if_pos absent]
        subst fresh
        have snapshot : ∀ archive, disk.latestArchive = some archive →
            resumeSnapshot disk = archive.snapshot := by
          intro archive latest
          simp [resumeSnapshot, latest]
        rcases @SoundArchives.openResume disk sound ⟨operationId, envelope, resumeSnapshot disk,
          fun _ => .pending, false, none⟩ new (fun _ => rfl) rfl snapshot with ⟨written, undoes⟩
        refine Meets.bind (Meets.write sound sound written ?_)
        refine (resumeResumeTask_wakes ⟨written, ?_, ?_⟩).mono (fun _ => id)
          (fun _ _ nothing _ => nothing) fun _ _ => id
        · rw [undoes]
          exact owned
        · rw [resume?_resume, if_pos rfl]

theorem recoverResume_wakes {operationId : Identifier} {world : ArchiveWorld}
    (sound : SoundArchives disk)
    (orderly : ∀ intent ∈ disk.resume? operationId, intent.result = none →
      disk.ParkedBy (disk.undoes operationId)) :
    Meets (recoverResume taskId world operationId) disk SoundArchives
      (fun _ later => ∀ intent ∈ disk.resume? operationId, intent.result = none →
        later.parked = []) fun _ _ => True := by
  unfold recoverResume
  refine Meets.looked rfl ?_
  cases stored : disk.resume? operationId with
  | none =>
      refine Meets.pure sound fun intent member => ?_
      simp at member
  | some intent =>
      dsimp only
      split
      · rename_i running
        have same := operationId_of_resume? stored
        have owned := orderly intent stored (by simpa using running)
        have resuming : Resuming intent disk := ⟨sound, same ▸ owned, same ▸ stored⟩
        refine Meets.bind ((resumeResumeTask_wakes resuming).kept.mono (fun _ => id) ?_
          fun _ _ _ => trivial)
        rintro _ later ⟨nothing, sound⟩
        exact Meets.pure sound fun _ _ _ => nothing
      · rename_i done
        refine Meets.pure sound fun other member running => ?_
        obtain rfl := Option.some.inj member
        simp [running] at done

/-- What a new resume records. -/
theorem snapshot_records {operationId : Identifier} {envelope : CommandEnvelope}
    {intent : ResumeIntent} (sound : SoundArchives disk)
    (runs : intent ∈ resumeRuns taskId disk operationId envelope)
    (new : disk.resume? operationId = none) (owned : disk.ParkedBy (disk.undoing operationId)) :
    ∀ parked ∈ disk.parked,
      ArchiveTarget.mk parked.instanceId parked.status ∈ intent.snapshot.targets := by
  intro parked member
  have by_ := owned parked member
  have unknown : ¬ (disk.resume? operationId).isSome := by simp [new]
  rw [ArchiveDisk.undoing, if_neg unknown] at by_
  rcases Option.map_eq_some_iff.mp by_.symm with ⟨archive, latest, same⟩
  rcases (sound.parked parked member).2 with ⟨recorded, found, listed⟩
  have known := (sound.latestArchive latest).1
  rw [same] at known
  obtain rfl : recorded = archive := Option.some.inj (found.symm.trans known)
  rcases resumeRuns_cases runs with ⟨-, stored | ⟨-, rfl⟩⟩
  · rw [new] at stored
    cases stored
  · simpa [resumeSnapshot, latest] using listed

/-- A step of an orderly run keeps the invariant and restores what it wakes. -/
theorem archiveStep_sound {step : ArchiveStep} (sound : SoundArchives disk)
    (orderly : OrderlyArchives taskId disk step) :
    (∀ next, archiveStep taskId disk step = .ok next → SoundArchives next) ∧
      Restores taskId disk step := by
  cases step with
  | archive operationId request world stop =>
      refine ⟨fun next stepped => ?_, trivial⟩
      obtain rfl := Except.ok.inj stepped
      exact (archiveTask_sound sound orderly).upTo stop
  | recoverArchive operationId world stop =>
      refine ⟨fun next stepped => ?_, trivial⟩
      obtain rfl := Except.ok.inj stepped
      exact (recoverArchive_sound sound orderly).upTo stop
  | resume operationId envelope world stop =>
      have meets : Meets (resumeTask taskId world operationId envelope) disk SoundArchives _ _ :=
        resumeTask_wakes sound orderly
      refine ⟨fun next stepped => ?_, fun intent runs => ⟨fun new => ?_, fun result ended => ?_⟩⟩
      · obtain rfl := Except.ok.inj stepped
        exact meets.upTo stop
      · exact snapshot_records sound runs new (orderly (Option.isSome_of_mem runs))
      · exact meets.of_ok ended (Option.isSome_of_mem runs)
  | recoverResume operationId world stop =>
      have meets : Meets (recoverResume taskId world operationId) disk SoundArchives _ _ :=
        recoverResume_wakes sound orderly
      refine ⟨fun next stepped => ?_, fun intent stored running result ended => ?_⟩
      · obtain rfl := Except.ok.inj stepped
        exact meets.upTo stop
      · exact meets.of_ok ended intent stored running
  | command command other envelope ambient =>
      refine ⟨fun next stepped => ?_, trivial⟩
      rcases bind_eq_ok.mp stepped with ⟨⟨result, store⟩, commanded, written⟩
      obtain rfl := Except.ok.inj written
      refine sound.commands (CommandStore.command_sound sound.state commanded) ?_
      refine CommandStore.notRestored_of_command (fun restores target same => ?_) commanded
      rw [same] at other
      cases other
  | transition instanceId target key ambient =>
      refine ⟨fun next stepped => ?_, trivial⟩
      rcases bind_eq_ok.mp stepped with ⟨⟨item, store⟩, moved, written⟩
      obtain rfl := Except.ok.inj written
      rcases CommandStore.transition_moves sound.state moved with ⟨moves, -⟩
      exact sound.commands moves.sound moves.keys
  | updateInstanceFields instanceId changes =>
      refine ⟨fun next stepped => ?_, trivial⟩
      rcases bind_eq_ok.mp stepped with ⟨store, updated, written⟩
      obtain rfl := Except.ok.inj written
      have ends : Ends (disk.commands.updateInstanceFields instanceId changes)
          (fun next => StateInvariant next.state ∧
            ∀ other, next.status other = disk.commands.status other)
          fun error => error.isConflict = false := CommandStore.updateInstanceFields_ends sound.state
      rw [updated] at ends
      refine sound.commands ends.1 fun key restored => ?_
      rcases restored with ⟨restores, target, result, found⟩
      rw [CommandStore.used_of_updateInstanceFields updated] at found
      exact ⟨restores, target, result, found⟩

theorem SoundArchives.empty : SoundArchives .empty where
  state := .empty
  distinct := List.nodup_nil
  parked := fun _ member => absurd member List.not_mem_nil
  undone := fun _ _ undone => by cases undone
  skipped := fun _ _ found => by cases found
  restored := fun _ _ found => by cases found
  woken := fun _ restored => by
    rcases restored with ⟨_, _, _, found⟩
    cases found

/-- In every orderly run, the snapshot of a resume records what every parked instance was, and a
    resume that returns leaves none parked. -/
theorem archives_restored (taskId : Identifier) (steps : List ArchiveStep)
    (orderly : Along (archiveStep taskId) (OrderlyArchives taskId) .empty steps) :
    Along (archiveStep taskId) (Restores taskId) .empty steps := by
  suffices rule : ∀ (steps : List ArchiveStep) (disk : ArchiveDisk), SoundArchives disk →
      Along (archiveStep taskId) (OrderlyArchives taskId) disk steps →
      Along (archiveStep taskId) (Restores taskId) disk steps from
    rule steps .empty .empty orderly
  intro steps
  induction steps with
  | nil => exact fun _ _ _ => trivial
  | cons step rest ih =>
      intro disk sound orderly
      rcases archiveStep_sound sound orderly.1 with ⟨keeps, restores⟩
      exact ⟨restores, ih _ (settle_invariant keeps sound) orderly.2⟩

end

/-! ## An instance that stays stopped -/

instance (disk : ArchiveDisk) (archiveId : Option Identifier) :
    Decidable (disk.ParkedBy archiveId) :=
  inferInstanceAs (Decidable (∀ parked ∈ disk.parked, some parked.operationId = archiveId))

instance (intent : ArchiveIntent) (disk : ArchiveDisk) : Decidable (intent.Current disk) :=
  inferInstanceAs (Decidable (∀ target ∈ intent.snapshot.targets, _ ∨ _))

instance (taskId : Identifier) (disk : ArchiveDisk) :
    ∀ step : ArchiveStep, Decidable (OrderlyArchives taskId disk step)
  | .archive operationId request _ _ =>
      inferInstanceAs (Decidable (∀ intent ∈ archiveRuns taskId disk operationId request,
        disk.ParkedBy (some operationId) ∧ intent.Current disk))
  | .recoverArchive operationId _ _ =>
      inferInstanceAs (Decidable (∀ intent ∈ disk.archive? operationId, intent.state = .prepared →
        disk.ParkedBy (some operationId) ∧ intent.Current disk))
  | .resume operationId envelope _ _ =>
      inferInstanceAs (Decidable ((resumeRuns taskId disk operationId envelope).isSome →
        disk.ParkedBy (disk.undoing operationId)))
  | .recoverResume operationId _ _ =>
      inferInstanceAs (Decidable (∀ intent ∈ disk.resume? operationId, intent.result = none →
        disk.ParkedBy (disk.undoes operationId)))
  | .command .. | .transition .. | .updateInstanceFields .. => isTrue trivial

/-- A launch of a planned instance. -/
def launchedInstance (launchId instanceId : Identifier) : List ArchiveStep :=
  [.transition instanceId .starting (launchId ++ "-starting") ⟨"t2", "u2"⟩,
    .transition instanceId .running (launchId ++ "-running") ⟨"t2", "u2"⟩,
    .updateInstanceFields instanceId { process := some (some ⟨1, 49200, launchId, .running, "t2"⟩) }]

/-- Two instances run. -/
def archivablePair : List ArchiveStep :=
  [.command (.createTask ⟨"task", "Cover", "A cover", "owner", .auto, "inputs.json"⟩) rfl
      ⟨"create", .human, "owner", 0⟩ ⟨"t1", "u1"⟩,
    .command (.savePlan .replace pairPayload none) rfl ⟨"save", .human, "owner", 1⟩ ⟨"t1", "u1"⟩] ++
    launchedInstance "l1" "a" ++ launchedInstance "l2" "b"

/-- An archive suspends the first instance and stops; its recovery finds the second one at work and
    aborts; the archive that is then forced records the second one alone. -/
def archivedInParts : List ArchiveStep :=
  archivablePair ++
    [.archive "op1" ⟨⟨"archive-1", .human, "owner", 6⟩, 300, false⟩ { ambient := ⟨"t3", "u3"⟩ }
        (some (4, false)),
      .recoverArchive "op1"
        { workState := fun instanceId => if instanceId = "b" then .active else .idle
          ambient := ⟨"t4", "u4"⟩ } none,
      .archive "op2" ⟨⟨"archive-2", .human, "owner", 7⟩, 300, true⟩ { ambient := ⟨"t5", "u5"⟩ } none]

/-- The resume succeeds for every instance of its snapshot and leaves the other one `STOPPED`. -/
theorem suspended_left_stopped :
    ¬ Along (archiveStep "task") (Restores "task") .empty (archivedInParts ++
        [.resume "op3" ⟨"resume-3", .human, "owner", 9⟩ { ambient := ⟨"t6", "u6"⟩ } none]) ∧
      let disk := runFrom (archiveStep "task") .empty (archivedInParts ++
        [.resume "op3" ⟨"resume-3", .human, "owner", 9⟩ { ambient := ⟨"t6", "u6"⟩ } none])
      disk.commands.status "a" = some .stopped ∧ disk.commands.status "b" = some .running ∧
        ((disk.resume? "op3").bind ResumeIntent.result).map ResumeResult.failedInstances =
          some [] := by
  refine ⟨fun along => ?_, by decide +kernel⟩
  have restores := (along_append.mp along).2.1
  have unrecorded : ¬ ∀ intent ∈ resumeRuns "task"
      (runFrom (archiveStep "task") .empty archivedInParts) "op3" ⟨"resume-3", .human, "owner", 9⟩,
      ∀ parked ∈ (runFrom (archiveStep "task") .empty archivedInParts).parked,
        ArchiveTarget.mk parked.instanceId parked.status ∈ intent.snapshot.targets := by
    decide +kernel
  have new : (runFrom (archiveStep "task") .empty archivedInParts).resume? "op3" = none := by
    decide +kernel
  exact unrecorded fun intent runs => (restores intent runs).1 new

theorem archive_restored_after_crash :
    Along (archiveStep "task") (Restores "task") .empty (archivablePair ++
      [.archive "op1" ⟨⟨"archive-1", .human, "owner", 6⟩, 300, false⟩ { ambient := ⟨"t3", "u3"⟩ }
          (some (4, false)),
        .recoverArchive "op1" { ambient := ⟨"t4", "u4"⟩ } none,
        .resume "op3" ⟨"resume-3", .human, "owner", 9⟩ { ambient := ⟨"t6", "u6"⟩ } none]) :=
  archives_restored "task" _ (by decide +kernel)

end DesignHarness
