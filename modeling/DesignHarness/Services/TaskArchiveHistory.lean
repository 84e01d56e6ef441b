import DesignHarness.Services.TaskArchiveRules

/-!
# Archives and resumes at work

`SoundArchives` is what the archives and resumes of a task keep: the archive that suspended an
instance has recorded its status, and a resume works from the snapshot of an archive that is done.
An archive that works alone and from a record that is current keeps it wherever it stops, and so
does a resume; a resume that returns leaves nothing parked.
-/

namespace DesignHarness

open Library

/-- An item put in the place of the one with its key. -/
theorem find?_put {α κ : Type} [DecidableEq κ] (key : α → κ) (item : α) (items : List α) (k : κ) :
    (item :: items.filter (key · ≠ key item)).find? (key · = k) =
      if k = key item then some item else items.find? (key · = k) := by
  by_cases same : k = key item
  · simp [same]
  · have different : ¬ key item = k := fun equal => same equal.symm
    rw [if_neg same, List.find?_cons_of_neg (by simpa using different), List.find?_filter]
    refine congrArg (items.find? ·) (funext fun other => ?_)
    by_cases found : key other = k
    · simp [found, same]
    · simp [found]

section

variable {disk : ArchiveDisk} {operationId : Identifier}

theorem archive?_archive {intent : ArchiveIntent} :
    (Disk.apply disk (.archive intent)).archive? operationId =
      if operationId = intent.operationId then some intent else disk.archive? operationId :=
  find?_put ArchiveIntent.operationId intent disk.archives operationId

theorem resume?_resume {intent : ResumeIntent} :
    (Disk.apply disk (.resume intent)).resume? operationId =
      if operationId = intent.operationId then some intent else disk.resume? operationId :=
  find?_put ResumeIntent.operationId intent disk.resumes operationId

theorem operationId_of_archive? {intent : ArchiveIntent}
    (found : disk.archive? operationId = some intent) : intent.operationId = operationId := by
  simpa using List.find?_some found

theorem operationId_of_resume? {intent : ResumeIntent}
    (found : disk.resume? operationId = some intent) : intent.operationId = operationId := by
  simpa using List.find?_some found

/-- A resume that is known undoes what it undid. -/
theorem undoes_resume {intent old : ResumeIntent}
    (known : disk.resume? intent.operationId = some old) :
    (Disk.apply disk (.resume intent)).undoes = disk.undoes := by
  funext other
  show (if other = intent.operationId ∧ (disk.resume? other).isNone then _ else _) = _
  rw [if_neg]
  rintro ⟨rfl, new⟩
  simp [known] at new

end

/-! ## The invariant -/

/-- Every parked instance was suspended by the archive. -/
def ArchiveDisk.ParkedBy (disk : ArchiveDisk) (archiveId : Option Identifier) : Prop :=
  ∀ parked ∈ disk.parked, some parked.operationId = archiveId

/-- The archive recorded the status that every target had before the first suspension, unless the
    target is `STOPPED`. -/
def ArchiveIntent.Current (intent : ArchiveIntent) (disk : ArchiveDisk) : Prop :=
  ∀ target ∈ intent.snapshot.targets,
    disk.statusBefore intent.operationId target.instanceId = some target.initialStatus ∨
      disk.commands.status target.instanceId = some .stopped

/-- The resume has left none of the instances parked that it wakes. -/
def ArchiveDisk.Woken (disk : ArchiveDisk) (operationId : Identifier) : Prop :=
  ∀ parked ∈ disk.parked, disk.undoes operationId ≠ some parked.operationId

structure SoundArchives (disk : ArchiveDisk) : Prop where
  state : StateInvariant disk.commands.state
  distinct : (disk.archives.map ArchiveIntent.operationId).Nodup
  /-- The archive that suspended an instance has recorded its status. -/
  parked : ∀ parked ∈ disk.parked, disk.commands.status parked.instanceId = some .stopped ∧
    ∃ intent, disk.archive? parked.operationId = some intent ∧
      ArchiveTarget.mk parked.instanceId parked.status ∈ intent.snapshot.targets
  /-- A resume works from the snapshot of an archive that is done. -/
  undone : ∀ operationId archiveId, disk.undoes operationId = some archiveId →
    ∃ resume intent, disk.resume? operationId = some resume ∧
      disk.archive? archiveId = some intent ∧ intent.committedAt.isSome ∧
      resume.snapshot = intent.snapshot
  /-- What a resume skipped was awake. -/
  skipped : ∀ operationId resume, disk.resume? operationId = some resume →
    ∀ parked ∈ disk.parked, resume.progress parked.instanceId = .skipped →
      disk.undoes operationId ≠ some parked.operationId
  restored : ∀ operationId resume, disk.resume? operationId = some resume →
    resume.aggregateRestored = true → disk.Woken operationId
  /-- The restore of a resume may have been the last thing that it did. -/
  woken : ∀ operationId, disk.commands.RestoredUnder (restoreKey operationId) →
    (disk.resume? operationId).isSome ∧ disk.Woken operationId

section

variable {taskId : Identifier} {disk : ArchiveDisk} {next : CommandStore}

theorem mem_stillParked {parked : Parked} : parked ∈ disk.stillParked next ↔
    parked ∈ disk.parked ∧ next.status parked.instanceId = some .stopped := by
  simp [ArchiveDisk.stillParked]

/-- What an archive in progress suspends, no resume has undone. -/
theorem SoundArchives.not_undone (sound : SoundArchives disk) {archiveId operationId : Identifier}
    {intent : ArchiveIntent} (found : disk.archive? archiveId = some intent)
    (running : intent.committedAt = none) : disk.undoes operationId ≠ some archiveId := by
  intro undoes
  rcases sound.undone operationId archiveId undoes with ⟨_, done, _, known, committed, _⟩
  obtain rfl : done = intent := Option.some.inj (known.symm.trans found)
  simp [running] at committed

/-- The commands and what is parked change together. -/
theorem SoundArchives.moved (sound : SoundArchives disk) {parked : List Parked}
    {statuses : Identifier → Option (Identifier → Option InstanceStatus)}
    (state : StateInvariant next.state)
    (kept : ∀ entry ∈ parked, next.status entry.instanceId = some .stopped ∧
      (entry ∈ disk.parked ∨ ∃ intent, disk.archive? entry.operationId = some intent ∧
        intent.committedAt = none ∧
        ArchiveTarget.mk entry.instanceId entry.status ∈ intent.snapshot.targets))
    (keys : ∀ operationId, next.RestoredUnder (restoreKey operationId) →
      disk.commands.RestoredUnder (restoreKey operationId) ∨
        (disk.resume? operationId).isSome ∧
          ∀ entry ∈ parked, disk.undoes operationId ≠ some entry.operationId) :
    SoundArchives { disk with commands := next, before := statuses, parked := parked } := by
  -- No resume undoes the archive of an entry that is new.
  have entries : ∀ operationId, ∀ entry ∈ parked,
      (entry ∈ disk.parked → disk.undoes operationId ≠ some entry.operationId) →
      disk.undoes operationId ≠ some entry.operationId := by
    intro operationId entry member old
    rcases (kept entry member).2 with before | ⟨intent, found, running, _⟩
    · exact old before
    · exact sound.not_undone found running
  constructor
  · exact state
  · exact sound.distinct
  · intro entry member
    refine ⟨(kept entry member).1, ?_⟩
    rcases (kept entry member).2 with before | ⟨intent, found, -, recorded⟩
    · exact (sound.parked entry before).2
    · exact ⟨intent, found, recorded⟩
  · exact sound.undone
  · intro operationId resume found entry member skipped
    exact entries operationId entry member fun before =>
      sound.skipped operationId resume found entry before skipped
  · intro operationId resume found restored entry member
    exact entries operationId entry member (sound.restored operationId resume found restored entry)
  · intro operationId restored
    rcases keys operationId restored with before | own
    · refine ⟨(sound.woken operationId before).1, fun entry member => ?_⟩
      exact entries operationId entry member ((sound.woken operationId before).2 entry)
    · exact own

theorem SoundArchives.commands (sound : SoundArchives disk) (state : StateInvariant next.state)
    (keys : disk.commands.NotRestored next) :
    SoundArchives (Disk.apply disk (ArchiveWrite.commands next)) := by
  refine sound.moved state (fun entry member => ?_) fun operationId restored => ?_
  · rcases mem_stillParked.mp member with ⟨before, stopped⟩
    exact ⟨stopped, .inl before⟩
  · exact .inl (keys _ restored)

/-- An archive is written with the snapshot that it had. -/
theorem SoundArchives.archive (sound : SoundArchives disk) {intent : ArchiveIntent}
    (known : ∀ old, disk.archive? intent.operationId = some old →
      old.snapshot = intent.snapshot ∧ (old.committedAt.isSome → intent.committedAt.isSome)) :
    SoundArchives (Disk.apply disk (.archive intent)) := by
  have looked : ∀ archiveId old, disk.archive? archiveId = some old →
      ∃ later, (Disk.apply disk (.archive intent)).archive? archiveId = some later ∧
        old.snapshot = later.snapshot ∧ (old.committedAt.isSome → later.committedAt.isSome) := by
    intro archiveId old found
    rw [archive?_archive]
    by_cases own : archiveId = intent.operationId
    · rw [if_pos own]
      exact ⟨intent, rfl, known old (own ▸ found)⟩
    · rw [if_neg own]
      exact ⟨old, found, rfl, id⟩
  constructor
  · exact sound.state
  · show ((intent :: disk.archives.filter (·.operationId ≠ intent.operationId)).map
      ArchiveIntent.operationId).Nodup
    rw [List.map_cons, List.nodup_cons]
    constructor
    · intro member
      rcases List.mem_map.mp member with ⟨other, filtered, same⟩
      simp [same] at filtered
    · exact sound.distinct.sublist (List.filter_sublist.map _)
  · intro entry member
    rcases sound.parked entry member with ⟨stopped, old, found, recorded⟩
    rcases looked _ old found with ⟨later, stored, same, -⟩
    exact ⟨stopped, later, stored, same ▸ recorded⟩
  · intro operationId archiveId undoes
    rcases sound.undone operationId archiveId undoes with ⟨resume, old, resumed, found, done, same⟩
    rcases looked archiveId old found with ⟨later, stored, equal, committed⟩
    exact ⟨resume, later, resumed, stored, committed done, same.trans equal⟩
  · exact sound.skipped
  · exact sound.restored
  · exact sound.woken

/-- A resume that is known goes on. -/
theorem SoundArchives.resume (sound : SoundArchives disk) {intent old : ResumeIntent}
    (known : disk.resume? intent.operationId = some old) (same : old.snapshot = intent.snapshot)
    (skipped : ∀ parked ∈ disk.parked, intent.progress parked.instanceId = .skipped →
      disk.undoes intent.operationId ≠ some parked.operationId)
    (restored : intent.aggregateRestored = true → disk.Woken intent.operationId) :
    SoundArchives (Disk.apply disk (.resume intent)) := by
  have undoes : (Disk.apply disk (.resume intent)).undoes = disk.undoes := undoes_resume known
  have isSome : ∀ operationId, (disk.resume? operationId).isSome →
      ((Disk.apply disk (.resume intent)).resume? operationId).isSome := by
    intro operationId before
    rw [resume?_resume]
    split
    · rfl
    · exact before
  constructor
  · exact sound.state
  · exact sound.distinct
  · exact sound.parked
  · intro operationId archiveId undone
    rw [undoes] at undone
    rcases sound.undone operationId archiveId undone with
      ⟨resume, archive, resumed, found, done, equal⟩
    rw [resume?_resume]
    by_cases own : operationId = intent.operationId
    · rw [if_pos own]
      have recorded : resume = old := Option.some.inj (resumed.symm.trans (own ▸ known))
      exact ⟨intent, archive, rfl, found, done, same.symm.trans (recorded ▸ equal)⟩
    · rw [if_neg own]
      exact ⟨resume, archive, resumed, found, done, equal⟩
  · intro operationId resume found entry member skips
    rw [undoes]
    rw [resume?_resume] at found
    by_cases own : operationId = intent.operationId
    · rw [if_pos own] at found
      obtain rfl := Option.some.inj found
      exact own ▸ skipped entry member skips
    · rw [if_neg own] at found
      exact sound.skipped operationId resume found entry member skips
  · intro operationId resume found restores entry member
    rw [undoes]
    rw [resume?_resume] at found
    by_cases own : operationId = intent.operationId
    · rw [if_pos own] at found
      obtain rfl := Option.some.inj found
      exact own ▸ restored restores entry member
    · rw [if_neg own] at found
      exact sound.restored operationId resume found restores entry member
  · intro operationId restores
    rcases sound.woken operationId restores with ⟨known, woken⟩
    refine ⟨isSome operationId known, fun entry member => ?_⟩
    rw [undoes]
    exact woken entry member

/-- The archive that a resume selects is done, and it is the one with its id. -/
theorem SoundArchives.latestArchive (sound : SoundArchives disk) {intent : ArchiveIntent}
    (latest : disk.latestArchive = some intent) :
    disk.archive? intent.operationId = some intent ∧ intent.committedAt.isSome := by
  rcases List.mem_filter.mp (List.argmax_mem latest) with ⟨member, committed⟩
  refine ⟨?_, committed⟩
  have present : (disk.archive? intent.operationId).isSome := by
    rw [ArchiveDisk.archive?, List.find?_isSome]
    exact ⟨intent, member, by simp⟩
  rcases Option.isSome_iff_exists.mp present with ⟨other, found⟩
  rw [found, List.inj_on_of_nodup_map sound.distinct (List.mem_of_find?_eq_some found) member
    (operationId_of_archive? found)]

/-- A new resume undoes the latest archive. -/
theorem SoundArchives.openResume (sound : SoundArchives disk) {intent : ResumeIntent}
    (new : disk.resume? intent.operationId = none) (pending : ∀ id, intent.progress id = .pending)
    (fresh : intent.aggregateRestored = false)
    (snapshot : ∀ archive, disk.latestArchive = some archive →
      intent.snapshot = archive.snapshot) :
    SoundArchives (Disk.apply disk (.resume intent)) ∧
      (Disk.apply disk (.resume intent)).undoes intent.operationId =
        disk.latestArchive.map ArchiveIntent.operationId := by
  have own : (Disk.apply disk (.resume intent)).undoes intent.operationId =
      disk.latestArchive.map ArchiveIntent.operationId := by
    show (if _ ∧ _ then _ else _) = _
    rw [if_pos ⟨rfl, by simp [new]⟩]
  have others : ∀ operationId, operationId ≠ intent.operationId →
      (Disk.apply disk (.resume intent)).undoes operationId = disk.undoes operationId ∧
        (Disk.apply disk (.resume intent)).resume? operationId = disk.resume? operationId := by
    intro operationId different
    rw [resume?_resume, if_neg different]
    refine ⟨?_, rfl⟩
    show (if _ ∧ _ then _ else _) = _
    rw [if_neg fun both => different both.1]
  refine ⟨?_, own⟩
  constructor
  · exact sound.state
  · exact sound.distinct
  · exact sound.parked
  · intro operationId archiveId undone
    by_cases same : operationId = intent.operationId
    · subst same
      rw [own] at undone
      rcases Option.map_eq_some_iff.mp undone with ⟨archive, latest, rfl⟩
      rcases sound.latestArchive latest with ⟨found, committed⟩
      refine ⟨intent, archive, ?_, found, committed, snapshot archive latest⟩
      rw [resume?_resume, if_pos rfl]
    · rw [(others operationId same).1] at undone
      rw [(others operationId same).2]
      exact sound.undone operationId archiveId undone
  · intro operationId resume found entry member skips
    by_cases same : operationId = intent.operationId
    · rw [resume?_resume, if_pos same] at found
      obtain rfl := Option.some.inj found
      rw [pending] at skips
      cases skips
    · rw [(others operationId same).2] at found
      rw [(others operationId same).1]
      exact sound.skipped operationId resume found entry member skips
  · intro operationId resume found restores entry member
    by_cases same : operationId = intent.operationId
    · rw [resume?_resume, if_pos same] at found
      obtain rfl := Option.some.inj found
      rw [fresh] at restores
      cases restores
    · rw [(others operationId same).2] at found
      rw [(others operationId same).1]
      exact sound.restored operationId resume found restores entry member
  · intro operationId restores
    rcases sound.woken operationId restores with ⟨known, woken⟩
    by_cases same : operationId = intent.operationId
    · subst same
      simp [new] at known
    · rw [(others operationId same).2]
      refine ⟨known, fun entry member => ?_⟩
      rw [(others operationId same).1]
      exact woken entry member

end

/-! ## An archive at work -/

/-- An archive is at work: the disk holds its intent, and nothing else has suspended instances. -/
structure Archiving (intent : ArchiveIntent) (disk : ArchiveDisk) : Prop where
  sound : SoundArchives disk
  owned : disk.ParkedBy (some intent.operationId)
  current : intent.Current disk
  stored : disk.archive? intent.operationId = some intent
  prepared : intent.state = .prepared

section

variable {taskId : Identifier} {world : ArchiveWorld} {disk : ArchiveDisk} {next : CommandStore}
  {intent : ArchiveIntent}

theorem Archiving.running (archiving : Archiving intent disk) : intent.committedAt = none := by
  simp [ArchiveIntent.committedAt, archiving.prepared]

/-- The intent may end in any state. -/
theorem Archiving.ended (archiving : Archiving intent disk) (state : ArchiveState) :
    SoundArchives (Disk.apply disk (.archive { intent with state := state })) := by
  refine archiving.sound.archive fun old found => ?_
  obtain rfl : intent = old := Option.some.inj (archiving.stored.symm.trans found)
  refine ⟨rfl, fun committed => ?_⟩
  simp [archiving.running] at committed

theorem Archiving.mark (archiving : Archiving intent disk) (instanceId : Identifier)
    (progress : ArchiveProgress) : Archiving (intent.mark instanceId progress)
      (Disk.apply disk (.archive (intent.mark instanceId progress))) where
  sound := by
    refine archiving.sound.archive fun old found => ?_
    obtain rfl : intent = old := Option.some.inj (archiving.stored.symm.trans found)
    exact ⟨rfl, id⟩
  owned := archiving.owned
  current := archiving.current
  stored := by rw [archive?_archive, if_pos rfl]
  prepared := archiving.prepared

/-- The statuses before the first suspension stay what they are, and so does the present status of
    an instance that is not suspended. -/
theorem statusBefore_suspended {operationId suspended other : Identifier}
    (kept : ¬ disk.Stops suspended next →
      next.status other = disk.commands.status other) :
    (Disk.apply disk (.suspended operationId suspended next)).statusBefore operationId other =
      disk.statusBefore operationId other := by
  have applied : (Disk.apply disk (.suspended operationId suspended next)).before operationId =
      disk.beforeSuspended operationId suspended next operationId := rfl
  rw [ArchiveDisk.statusBefore, applied, ArchiveDisk.beforeSuspended]
  by_cases stops : disk.Stops suspended next
  · rw [if_pos stops, if_pos rfl]
  · rw [if_neg stops, ArchiveDisk.statusBefore]
    cases disk.before operationId with
    | some statuses => rfl
    | none => exact kept stops

theorem Archiving.suspended (archiving : Archiving intent disk) {target : ArchiveTarget}
    (member : target ∈ intent.snapshot.targets)
    (moves : disk.commands.OnlyMoves next target.instanceId)
    (ends : next = disk.commands ∨ next.status target.instanceId = some .stopped) :
    Archiving intent
      (Disk.apply disk (.suspended intent.operationId target.instanceId next)) where
  sound := by
    refine archiving.sound.moved moves.sound (fun entry listed => ?_) fun operationId restored =>
      .inl (moves.keys _ restored)
    rcases List.mem_append.mp listed with new | old
    · unfold ArchiveDisk.newlyParked at new
      split at new
      · rename_i stops
        -- The status is the recorded one, since the instance was not stopped.
        have recorded := (archiving.current target member).resolve_right stops.1
        rw [recorded] at new
        obtain rfl := List.mem_singleton.mp new
        exact ⟨stops.2, .inr ⟨intent, archiving.stored, archiving.running, member⟩⟩
      · exact absurd new List.not_mem_nil
    · rcases mem_stillParked.mp old with ⟨before, stopped⟩
      exact ⟨stopped, .inl before⟩
  owned := by
    intro entry listed
    rcases List.mem_append.mp listed with new | old
    · unfold ArchiveDisk.newlyParked at new
      split at new
      · rcases List.mem_map.mp new with ⟨status, -, rfl⟩
        rfl
      · exact absurd new List.not_mem_nil
    · exact archiving.owned entry (mem_stillParked.mp old).1
  current := by
    intro other listed
    rcases archiving.current other listed with recorded | stopped
    · by_cases same : other.instanceId = target.instanceId
      · by_cases stopped : next.status target.instanceId = some .stopped
        · exact .inr (same ▸ stopped)
        · obtain rfl := ends.resolve_right stopped
          left
          rw [statusBefore_suspended fun _ => rfl]
          exact recorded
      · left
        rw [statusBefore_suspended fun _ => moves.others _ same]
        exact recorded
    · by_cases same : other.instanceId = target.instanceId
      · rcases ends with rfl | ended
        · exact .inr stopped
        · exact .inr (same ▸ ended)
      · exact .inr ((moves.others _ same).trans stopped)
  stored := archiving.stored
  prepared := archiving.prepared

/-- One turn of the loop. -/
theorem suspendTarget_archiving {target : ArchiveTarget} (archiving : Archiving intent disk)
    (member : target ∈ intent.snapshot.targets) :
    Meets (suspendTarget taskId world intent target) disk SoundArchives
      (fun later disk => Archiving later disk ∧ later.snapshot = intent.snapshot)
      fun _ _ => True := by
  unfold suspendTarget
  by_cases done : intent.progress target.instanceId = .stopped
  · rw [if_pos done]
    exact Meets.pure archiving.sound ⟨archiving, rfl⟩
  · rw [if_neg done]
    have marked := archiving.mark target.instanceId .stopping
    refine Meets.bind (Meets.write archiving.sound archiving.sound marked.sound ?_)
    refine Meets.looked rfl ?_
    refine Meets.guarded marked.sound (fun item found => ?_) fun _ _ => trivial
    -- What is left once the target is suspended.
    have finish : ∀ disk, Archiving (intent.mark target.instanceId .stopping) disk →
        Meets (do
          let intent := (intent.mark target.instanceId .stopping).mark target.instanceId .stopped
          Script.write (.archive intent)
          return intent : ArchiveScript ArchiveIntent) disk SoundArchives
          (fun later disk => Archiving later disk ∧ later.snapshot = intent.snapshot)
          fun _ _ => True := by
      intro disk archiving
      have marked := archiving.mark target.instanceId .stopped
      refine Meets.bind (Meets.write archiving.sound archiving.sound marked.sound ?_)
      exact Meets.pure marked.sound ⟨marked, rfl⟩
    by_cases parked : item.status = .stopped
    · rw [if_neg (not_not_intro parked)]
      exact finish _ marked
    · rw [if_pos parked]
      refine Meets.guarded marked.sound (fun next suspends => ?_) fun _ _ => trivial
      rcases CommandStore.suspendInstance_moves marked.sound.state suspends with ⟨moves, ends⟩
      have suspended := marked.suspended member moves ends
      refine Meets.bind (Meets.write marked.sound marked.sound suspended.sound ?_)
      exact finish _ suspended

/-- The loop over the targets. -/
theorem suspendTargets_archiving {targets : List ArchiveTarget} (archiving : Archiving intent disk)
    (members : ∀ target ∈ targets, target ∈ intent.snapshot.targets) :
    Meets (suspendTargets taskId world targets intent) disk SoundArchives
      (fun later disk => Archiving later disk ∧ later.snapshot = intent.snapshot)
      fun _ _ => True := by
  induction targets generalizing intent disk with
  | nil => exact Meets.pure archiving.sound ⟨archiving, rfl⟩
  | cons target rest ih =>
      refine Meets.bind ((suspendTarget_archiving archiving
        (members target List.mem_cons_self)).mono (fun _ => id) ?_ fun _ _ => id)
      rintro later disk ⟨archiving, same⟩
      refine (ih archiving fun other listed => ?_).mono (fun _ => id) ?_ fun _ _ => id
      · rw [same]
        exact members other (List.mem_cons_of_mem _ listed)
      · rintro last disk ⟨archiving, equal⟩
        exact ⟨archiving, equal.trans same⟩

theorem suspendAndArchive_sound (archiving : Archiving intent disk) :
    Meets (suspendAndArchive taskId world intent) disk SoundArchives (fun _ _ => True)
      fun _ _ => True := by
  unfold suspendAndArchive
  refine Meets.bind ((suspendTargets_archiving archiving fun _ => id).mono (fun _ => id) ?_
    fun _ _ => id)
  rintro intent disk ⟨archiving, -⟩
  refine Meets.looked rfl ?_
  refine Meets.guarded archiving.sound (fun returned issued => ?_) fun _ _ => trivial
  rcases returned with ⟨result, next⟩
  have commanded := CommandStore.command_of_issue issued
  have state := CommandStore.command_sound archiving.sound.state commanded
  have keys := CommandStore.notRestored_of_command (fun _ _ other => by cases other) commanded
  have sound := archiving.sound.commands state keys
  refine Meets.bind (Meets.write archiving.sound archiving.sound sound ?_)
  have committed : SoundArchives (Disk.apply (Disk.apply disk (ArchiveWrite.commands next))
      (.archive { intent with
        state := .committed world.ambient.now ⟨result, some intent.snapshot⟩ })) := by
    refine sound.archive fun old found => ?_
    obtain rfl : intent = old := Option.some.inj (archiving.stored.symm.trans found)
    exact ⟨rfl, fun _ => rfl⟩
  refine Meets.bind (Meets.write sound sound committed ?_)
  exact Meets.pure committed trivial

theorem resumeArchiveTask_sound (archiving : Archiving intent disk) :
    Meets (resumeArchiveTask taskId world intent) disk SoundArchives (fun _ _ => True)
      fun _ _ => True := by
  unfold resumeArchiveTask
  by_cases forced : intent.request.force = false
  · rw [if_pos forced]
    refine Meets.looked rfl ?_
    refine Meets.guarded archiving.sound (fun items found => ?_) fun _ _ => trivial
    dsimp only
    split
    · have aborted := archiving.ended (.aborted (drainError intent.operationId
        (drained world .active items) (drained world .unknown items)))
      refine Meets.bind (Meets.write archiving.sound archiving.sound aborted ?_)
      exact Meets.bind (Meets.raise aborted trivial)
    · exact suspendAndArchive_sound archiving
  · rw [if_neg forced]
    exact suspendAndArchive_sound archiving

end

/-! ## A resume at work -/

/-- A resume is at work: the disk holds its intent, and only the archive that it undoes has
    suspended instances. -/
structure Resuming (intent : ResumeIntent) (disk : ArchiveDisk) : Prop where
  sound : SoundArchives disk
  owned : disk.ParkedBy (disk.undoes intent.operationId)
  stored : disk.resume? intent.operationId = some intent

/-- The loop over the stopped instances leaves the target alone. -/
def ResumeIntent.Settled (intent : ResumeIntent) (instanceId : Identifier) : Prop :=
  match intent.progress instanceId with
  | .processRunning | .restored | .skipped | .failed _ => True
  | _ => False

/-- A resume goes on with its loop. -/
structure ResumeIntent.Advances (intent next : ResumeIntent) : Prop where
  operationId : next.operationId = intent.operationId
  snapshot : next.snapshot = intent.snapshot
  settled : ∀ instanceId, intent.Settled instanceId → next.Settled instanceId

section

variable {taskId : Identifier} {world : ArchiveWorld} {disk : ArchiveDisk} {next : CommandStore}
  {intent : ResumeIntent} {instanceId : Identifier}

theorem ResumeIntent.Advances.refl (intent : ResumeIntent) : intent.Advances intent :=
  ⟨rfl, rfl, fun _ => id⟩

theorem ResumeIntent.Advances.trans {middle last : ResumeIntent} (first : intent.Advances middle)
    (second : middle.Advances last) : intent.Advances last :=
  ⟨second.operationId.trans first.operationId, second.snapshot.trans first.snapshot,
    fun instanceId settled => second.settled instanceId (first.settled instanceId settled)⟩

theorem ResumeIntent.mark_progress {progress : ResumeProgress} {other : Identifier} :
    (intent.mark instanceId progress).progress other =
      if other = instanceId then progress else intent.progress other := rfl

theorem ResumeIntent.settled_mark {progress : ResumeProgress} {other : Identifier}
    (different : other ≠ instanceId) :
    (intent.mark instanceId progress).Settled other ↔ intent.Settled other := by
  simp [Settled, mark_progress, different]

/-- A target that is not settled yet may be marked. -/
theorem ResumeIntent.advances_mark (open_ : ¬ intent.Settled instanceId)
    (progress : ResumeProgress) : intent.Advances (intent.mark instanceId progress) := by
  refine ⟨rfl, rfl, fun other settled => ?_⟩
  have different : other ≠ instanceId := by
    rintro rfl
    exact open_ settled
  exact (settled_mark different).mpr settled

/-- The intent is written with another progress. -/
theorem Resuming.put (resuming : Resuming intent disk) {later : ResumeIntent}
    (operationId : later.operationId = intent.operationId)
    (snapshot : later.snapshot = intent.snapshot)
    (skipped : ∀ parked ∈ disk.parked, later.progress parked.instanceId = .skipped →
      disk.undoes intent.operationId ≠ some parked.operationId)
    (restored : later.aggregateRestored = true → disk.Woken intent.operationId) :
    Resuming later (Disk.apply disk (.resume later)) := by
  have known : disk.resume? later.operationId = some intent := by
    rw [operationId]
    exact resuming.stored
  refine ⟨resuming.sound.resume known snapshot.symm ?_ ?_, ?_, ?_⟩
  · rw [operationId]
    exact skipped
  · rw [operationId]
    exact restored
  · rw [undoes_resume known, operationId]
    exact resuming.owned
  · rw [resume?_resume, if_pos rfl]

theorem Resuming.mark (resuming : Resuming intent disk) {progress : ResumeProgress}
    (skips : progress = .skipped → disk.commands.status instanceId ≠ some .stopped) :
    Resuming (intent.mark instanceId progress)
      (Disk.apply disk (.resume (intent.mark instanceId progress))) := by
  refine resuming.put rfl rfl (fun parked member skipped => ?_)
    (resuming.sound.restored _ intent resuming.stored)
  rw [ResumeIntent.mark_progress] at skipped
  by_cases own : parked.instanceId = instanceId
  · rw [if_pos own] at skipped
    have stopped := (resuming.sound.parked parked member).1
    rw [own] at stopped
    exact absurd stopped (skips skipped)
  · rw [if_neg own] at skipped
    exact resuming.sound.skipped _ intent resuming.stored parked member skipped

theorem Resuming.commands (resuming : Resuming intent disk) (state : StateInvariant next.state)
    (keys : disk.commands.NotRestored next) :
    Resuming intent (Disk.apply disk (ArchiveWrite.commands next)) where
  sound := resuming.sound.commands state keys
  owned := fun parked member => resuming.owned parked (mem_stillParked.mp member).1
  stored := resuming.stored

/-- The compensation of a failed resume. -/
theorem compensateFailedResume_resuming {operationId : Identifier}
    (resuming : Resuming intent disk) :
    Meets (compensateFailedResume taskId world operationId instanceId) disk SoundArchives
      (fun _ => Resuming intent) fun _ _ => True := by
  unfold compensateFailedResume
  refine Meets.looked rfl ?_
  split
  · exact Meets.raise resuming.sound trivial
  · rename_i next suspends
    rcases CommandStore.suspendInstance_moves resuming.sound.state suspends with ⟨moves, -⟩
    have written := resuming.commands moves.sound moves.keys
    refine Meets.bind (Meets.write resuming.sound resuming.sound written.sound ?_)
    exact Meets.lift written.sound (fun _ _ => written) fun _ _ => trivial

/-- A target is marked and the turn is over. -/
theorem markTarget_resuming {progress : ResumeProgress} (resuming : Resuming intent disk)
    (unsettled : ¬ intent.Settled instanceId)
    (skips : progress = .skipped → disk.commands.status instanceId ≠ some .stopped)
    (settles : (intent.mark instanceId progress).Settled instanceId) :
    Meets (do
      Script.write (.resume (intent.mark instanceId progress))
      return intent.mark instanceId progress : ArchiveScript ResumeIntent) disk SoundArchives
      (fun later disk => Resuming later disk ∧ intent.Advances later ∧ later.Settled instanceId)
      fun _ _ => True := by
  have marked := resuming.mark skips
  refine Meets.bind (Meets.write resuming.sound resuming.sound marked.sound ?_)
  exact Meets.pure marked.sound ⟨marked, ResumeIntent.advances_mark unsettled progress, settles⟩

theorem settled_mark_self {progress : ResumeProgress}
    (final : progress = .processRunning ∨ progress = .skipped ∨ ∃ error, progress = .failed error) :
    (intent.mark instanceId progress).Settled instanceId := by
  rcases final with rfl | rfl | ⟨error, rfl⟩
  · simp [ResumeIntent.Settled, ResumeIntent.mark_progress]
  · simp [ResumeIntent.Settled, ResumeIntent.mark_progress]
  · simp [ResumeIntent.Settled, ResumeIntent.mark_progress]

/-- A compensated target has failed. -/
theorem compensated_resuming {error : HarnessError} (resuming : Resuming intent disk)
    (unsettled : ¬ intent.Settled instanceId) :
    Meets (do
      compensateFailedResume taskId world intent.operationId instanceId
      Script.write (.resume (intent.mark instanceId (.failed error)))
      return intent.mark instanceId (.failed error) : ArchiveScript ResumeIntent) disk SoundArchives
      (fun later disk => Resuming later disk ∧ intent.Advances later ∧ later.Settled instanceId)
      fun _ _ => True := by
  refine Meets.bind ((compensateFailedResume_resuming resuming).mono (fun _ => id) ?_ fun _ _ => id)
  intro _ disk resuming
  exact markTarget_resuming resuming unsettled (fun other => by cases other)
    (settled_mark_self (.inr (.inr ⟨error, rfl⟩)))

theorem wakeInstance_resuming (resuming : Resuming intent disk)
    (unsettled : ¬ intent.Settled instanceId) :
    Meets (wakeInstance taskId world intent instanceId) disk SoundArchives
      (fun later disk => Resuming later disk ∧ intent.Advances later ∧ later.Settled instanceId)
      fun _ _ => True := by
  unfold wakeInstance
  cases world.wake instanceId with
  | woken =>
      exact markTarget_resuming resuming unsettled (fun other => by cases other)
        (settled_mark_self (.inl rfl))
  | failed error recorded =>
      have failed : ∀ disk, Resuming intent disk → Meets (do
          Script.write (.resume (intent.mark instanceId (.failed error)))
          return intent.mark instanceId (.failed error) : ArchiveScript ResumeIntent) disk
          SoundArchives (fun later disk => Resuming later disk ∧ intent.Advances later ∧
            later.Settled instanceId) fun _ _ => True := by
        intro disk resuming
        exact markTarget_resuming resuming unsettled (fun other => by cases other)
          (settled_mark_self (.inr (.inr ⟨error, rfl⟩)))
      cases recorded with
      | false => exact failed disk resuming
      | true =>
          refine Meets.looked rfl ?_
          refine Meets.guarded resuming.sound (fun moved transitions => ?_) fun _ _ => trivial
          rcases moved with ⟨item, next⟩
          rcases CommandStore.transition_moves resuming.sound.state transitions with ⟨moves, -⟩
          have written := resuming.commands moves.sound moves.keys
          refine Meets.bind (Meets.write resuming.sound resuming.sound written.sound ?_)
          exact failed _ written
  | closed error =>
      have marked : Resuming (intent.mark instanceId (.compensating error))
          (Disk.apply disk (.resume (intent.mark instanceId (.compensating error)))) :=
        resuming.mark fun other => by cases other
      have advances := ResumeIntent.advances_mark unsettled (.compensating error)
      refine Meets.bind (Meets.write resuming.sound resuming.sound marked.sound ?_)
      refine (compensated_resuming marked ?_).mono (fun _ => id) ?_ fun _ _ => id
      · simp [ResumeIntent.Settled, ResumeIntent.mark_progress]
      · rintro later disk ⟨resuming, further, settled⟩
        exact ⟨resuming, advances.trans further, settled⟩

/-- One turn of the loop settles its target. -/
theorem wakeTarget_resuming {target : ArchiveTarget} (resuming : Resuming intent disk) :
    Meets (wakeTarget taskId world intent target) disk SoundArchives
      (fun later disk => Resuming later disk ∧ intent.Advances later ∧
        later.Settled target.instanceId) fun _ _ => True := by
  unfold wakeTarget
  have waking : ¬ intent.Settled target.instanceId → Meets (do
      let intent := intent.mark target.instanceId .waking
      Script.write (.resume intent)
      let store ← Script.read ArchiveDisk.commands
      let item ← Script.lift (store.requireRecord target.instanceId)
      if item.status ≠ .stopped then
        let intent := intent.mark target.instanceId .skipped
        Script.write (.resume intent)
        return intent
      wakeInstance taskId world intent target.instanceId : ArchiveScript ResumeIntent) disk
      SoundArchives (fun later disk => Resuming later disk ∧ intent.Advances later ∧
        later.Settled target.instanceId) fun _ _ => True := by
    intro unsettled
    have marked : Resuming (intent.mark target.instanceId .waking)
        (Disk.apply disk (.resume (intent.mark target.instanceId .waking))) :=
      resuming.mark fun other => by cases other
    have advances := ResumeIntent.advances_mark unsettled .waking
    have still : ¬ (intent.mark target.instanceId .waking).Settled target.instanceId := by
      simp [ResumeIntent.Settled, ResumeIntent.mark_progress]
    refine Meets.bind (Meets.write resuming.sound resuming.sound marked.sound ?_)
    refine Meets.looked rfl ?_
    refine Meets.guarded marked.sound (fun item found => ?_) fun _ _ => trivial
    split
    · rename_i awake
      refine (markTarget_resuming marked still (fun _ => ?_)
        (settled_mark_self (.inr (.inl rfl)))).mono (fun _ => id) ?_ fun _ _ => id
      · intro stopped
        have status := CommandStore.status_of_requireRecord found
        rw [status] at stopped
        exact awake (Option.some.inj stopped)
      · rintro later disk ⟨resuming, further, settled⟩
        exact ⟨resuming, advances.trans further, settled⟩
    · refine (wakeInstance_resuming marked still).mono (fun _ => id) ?_ fun _ _ => id
      rintro later disk ⟨resuming, further, settled⟩
      exact ⟨resuming, advances.trans further, settled⟩
  have settled : intent.Settled target.instanceId →
      Meets (pure intent : ArchiveScript ResumeIntent) disk SoundArchives
        (fun later disk => Resuming later disk ∧ intent.Advances later ∧
          later.Settled target.instanceId) fun _ _ => True :=
    fun done => Meets.pure resuming.sound ⟨resuming, .refl intent, done⟩
  cases progress : intent.progress target.instanceId with
  | pending => exact waking (by simp [ResumeIntent.Settled, progress])
  | waking => exact waking (by simp [ResumeIntent.Settled, progress])
  | processRunning => exact settled (by simp [ResumeIntent.Settled, progress])
  | restored => exact settled (by simp [ResumeIntent.Settled, progress])
  | skipped => exact settled (by simp [ResumeIntent.Settled, progress])
  | failed error => exact settled (by simp [ResumeIntent.Settled, progress])
  | compensating error =>
      exact compensated_resuming resuming (by simp [ResumeIntent.Settled, progress])

/-- The loop settles every target. -/
theorem wakeTargets_resuming {targets : List ArchiveTarget} (resuming : Resuming intent disk) :
    Meets (wakeTargets taskId world targets intent) disk SoundArchives
      (fun later disk => Resuming later disk ∧ intent.Advances later ∧
        ∀ target ∈ targets, later.Settled target.instanceId) fun _ _ => True := by
  induction targets generalizing intent disk with
  | nil =>
      refine Meets.pure resuming.sound ⟨resuming, .refl intent, fun _ member => ?_⟩
      exact absurd member List.not_mem_nil
  | cons target rest ih =>
      refine Meets.bind ((wakeTarget_resuming resuming).mono (fun _ => id) ?_ fun _ _ => id)
      rintro middle disk ⟨resuming, advances, own⟩
      refine (ih resuming).mono (fun _ => id) ?_ fun _ _ => id
      rintro later disk ⟨resuming, further, others⟩
      refine ⟨resuming, advances.trans further, fun other member => ?_⟩
      rcases List.mem_cons.mp member with rfl | member
      · exact further.settled _ own
      · exact others other member

/-- When a resume has woken all instances of its archive, none is parked. -/
theorem Resuming.parked_nil (resuming : Resuming intent disk)
    (woken : disk.Woken intent.operationId) : disk.parked = [] := by
  rw [List.eq_nil_iff_forall_not_mem]
  intro parked member
  exact woken parked member (resuming.owned parked member).symm

/-- A settled target that was not skipped is restored. -/
theorem ResumeIntent.mem_restores {target : ArchiveTarget}
    (listed : target ∈ intent.snapshot.targets) (settled : intent.Settled target.instanceId)
    (awake : intent.progress target.instanceId ≠ .skipped) :
    ∃ restore ∈ intent.restores, restore.instanceId = target.instanceId := by
  unfold ResumeIntent.restores
  simp only [List.mem_filterMap]
  unfold ResumeIntent.Settled at settled
  cases progress : intent.progress target.instanceId with
  | processRunning => exact ⟨_, ⟨target, listed, by rw [progress]⟩, rfl⟩
  | restored => exact ⟨_, ⟨target, listed, by rw [progress]⟩, rfl⟩
  | failed error => exact ⟨_, ⟨target, listed, by rw [progress]⟩, rfl⟩
  | skipped => exact absurd progress awake
  | pending => simp [progress] at settled
  | waking => simp [progress] at settled
  | compensating error => simp [progress] at settled

/-- The restore leaves nothing parked, and a replay of it had left nothing. -/
theorem restoreAggregate_resuming (resuming : Resuming intent disk)
    (settled : ∀ target ∈ intent.snapshot.targets, intent.Settled target.instanceId) :
    Meets (restoreAggregate taskId world intent) disk SoundArchives
      (fun later disk => Resuming later disk ∧ disk.parked = []) fun _ _ => True := by
  unfold restoreAggregate
  by_cases restored : intent.aggregateRestored = true
  · rw [if_pos restored]
    have woken := resuming.sound.restored _ intent resuming.stored restored
    exact Meets.pure resuming.sound ⟨resuming, resuming.parked_nil woken⟩
  · rw [if_neg restored]
    refine Meets.looked rfl ?_
    refine Meets.guarded resuming.sound (fun returned issued => ?_) fun _ _ => trivial
    rcases returned with ⟨result, next⟩
    have commanded := CommandStore.command_of_issue issued
    have state := CommandStore.command_sound resuming.sound.state commanded
    have awake : disk.stillParked next = [] := by
      rw [List.eq_nil_iff_forall_not_mem]
      intro parked member
      rcases mem_stillParked.mp member with ⟨before, stopped⟩
      rcases CommandStore.restoreArchived_cases commanded with replayed | unused
      · exact (resuming.sound.woken _ replayed).2 parked before (resuming.owned parked before).symm
      · rcases resuming.sound.undone _ _ (resuming.owned parked before).symm with
          ⟨resume, archive, resumed, archived, -, same⟩
        obtain rfl : resume = intent := Option.some.inj (resumed.symm.trans resuming.stored)
        rcases (resuming.sound.parked parked before).2 with ⟨recorded, found, listed⟩
        obtain rfl : recorded = archive := Option.some.inj (found.symm.trans archived)
        rw [← same] at listed
        rcases ResumeIntent.mem_restores listed (settled _ listed) fun skipped =>
          resuming.sound.skipped _ resume resuming.stored parked before skipped
            (resuming.owned parked before).symm with ⟨restore, member, equal⟩
        have wakes := CommandStore.restoreArchived_wakes resuming.sound.state unused commanded
          restore member
        rw [equal] at wakes
        exact wakes stopped
    have written : Resuming intent (Disk.apply disk (ArchiveWrite.commands next)) := by
      have none : ∀ parked, parked ∉ disk.stillParked next := by
        rw [awake]
        exact fun _ => List.not_mem_nil
      refine ⟨resuming.sound.moved state (fun entry member => absurd member (none entry))
        fun operationId key => ?_, fun entry member => absurd member (none entry),
        resuming.stored⟩
      rcases CommandStore.restoredUnder_of_command commanded key with before | own
      · exact .inl before
      · have same : operationId = intent.operationId := by
          simpa [restoreKey] using own
        refine .inr ⟨?_, fun entry member => absurd member (none entry)⟩
        rw [same, resuming.stored]
        rfl
    refine Meets.bind (Meets.write resuming.sound resuming.sound written.sound ?_)
    have nothing : (Disk.apply disk (ArchiveWrite.commands next)).parked = [] := awake
    have finished : Resuming intent.afterRestore (Disk.apply
        (Disk.apply disk (ArchiveWrite.commands next)) (.resume intent.afterRestore)) := by
      refine written.put rfl rfl (fun entry member => ?_) fun _ entry member => ?_
      · rw [nothing] at member
        exact absurd member List.not_mem_nil
      · rw [nothing] at member
        exact absurd member List.not_mem_nil
    refine Meets.bind (Meets.write written.sound written.sound finished.sound ?_)
    exact Meets.pure finished.sound ⟨finished, nothing⟩

theorem resumeResumeTask_wakes (resuming : Resuming intent disk) :
    Meets (resumeResumeTask taskId world intent) disk SoundArchives
      (fun _ disk => disk.parked = []) fun _ _ => True := by
  unfold resumeResumeTask
  refine Meets.bind ((wakeTargets_resuming resuming).mono (fun _ => id) ?_ fun _ _ => id)
  rintro middle disk ⟨resuming, advances, settled⟩
  rw [← advances.snapshot] at settled
  refine Meets.bind ((restoreAggregate_resuming resuming settled).mono (fun _ => id) ?_
    fun _ _ => id)
  rintro later disk ⟨resuming, nothing⟩
  have finished : Resuming { later with result := some later.outcome } (Disk.apply disk
      (.resume { later with result := some later.outcome })) := by
    refine resuming.put rfl rfl (fun entry member => ?_) fun _ entry member => ?_
    · rw [nothing] at member
      exact absurd member List.not_mem_nil
    · rw [nothing] at member
      exact absurd member List.not_mem_nil
  refine Meets.bind (Meets.write resuming.sound resuming.sound finished.sound ?_)
  exact Meets.pure finished.sound nothing

end

end DesignHarness
