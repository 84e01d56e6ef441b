import DesignHarness.Library.Runs
import DesignHarness.Services.TaskIntakeOperations

/-!
# Histories of an intake

The commands of an intake follow one another on one disk; each can be stopped at any of its writes.
An upload imports its file outside the lock of the task and attaches it under the lock, so other
commands may come between the two; `importing` remembers the uploads whose import has returned.  A
recovery resumes the imports one after another.

An intake owes its assets that they can be shown and submitted (`Honoured`).  It does as long as no
removal is interrupted between its two writes and no asset is attached that was removed before
(`intake_honoured`).  A committed upload can be issued again only while it still passes the gates
in front of its import (`upload_reissued`).
-/

namespace DesignHarness

open Library TaskIntakeService

/-- The disk, and the uploads that have imported their file. -/
structure IntakeState where
  disk : IntakeDisk
  importing : List (Upload × AssetManifest)

inductive IntakeStep where
  | create (prompt : String) (startPolicy : StartPolicy) (envelope : CommandEnvelope)
      (world : IntakeWorld) (stop : Option (Nat × Bool))
  | importUpload (upload : Upload) (world : IntakeWorld) (stop : Option (Nat × Bool))
  | attachUpload (upload : Upload) (manifest : AssetManifest) (world : IntakeWorld)
      (stop : Option (Nat × Bool))
  | remove (assetId : AssetId) (envelope : CommandEnvelope) (world : IntakeWorld)
      (stop : Option (Nat × Bool))
  | submit (taskExpectedRevision : Nat) (envelope : CommandEnvelope) (world : IntakeWorld)
      (stop : Option (Nat × Bool))
  | resume (assetId : AssetId) (stop : Option (Nat × Bool))
  | other (idempotencyKey command request : String)

/-- The uploads after an import that may have been stopped. -/
def imports (importing : List (Upload × AssetManifest)) (upload : Upload) :
    Option (Nat × Bool) → Outcome AssetManifest → List (Upload × AssetManifest)
  | none, .ok manifest => (upload, manifest) :: importing
  | _, _ => importing

namespace IntakeStep

variable (settings : AssetSettings)

def next (state : IntakeState) : IntakeStep → IntakeState
  | .create prompt startPolicy envelope world stop =>
      { state with
        disk := (TaskIntakeService.create settings world prompt startPolicy envelope).upTo stop
          state.disk }
  | .importUpload upload world stop =>
      let script := TaskIntakeService.importUpload settings world upload
      { disk := script.upTo stop state.disk
        importing := imports state.importing upload stop (script state.disk).outcome }
  | .attachUpload upload manifest world stop =>
      if (upload, manifest) ∈ state.importing then
        { state with
          disk := (TaskIntakeService.attachUpload settings world upload manifest).upTo stop
            state.disk }
      else state
  | .remove assetId envelope world stop =>
      { state with
        disk := (removeAsset settings world assetId envelope).upTo stop state.disk }
  | .submit taskExpectedRevision envelope world stop =>
      { state with
        disk := (TaskIntakeService.submit settings world taskExpectedRevision envelope).upTo stop
          state.disk }
  | .resume assetId stop =>
      match state.disk.transactions.lookup assetId with
      | none => state
      | some record =>
          { state with
            disk := (AssetService.resumeImport settings assetId record).upTo stop state.disk }
  | .other idempotencyKey command request =>
      if ∀ commit ∈ state.disk.commits, commit.idempotencyKey ≠ idempotencyKey then
        { state with disk := Disk.apply state.disk (.other idempotencyKey command request) }
      else state

end IntakeStep

/-- A task that was not created yet. -/
def unusedIntake : IntakeState where
  disk :=
    { taskExists := false
      intake := none
      commits := []
      events := []
      transactions := ∅
      inputs := ∅
      marks := [] }
  importing := []

/-- No step is refused. -/
def intakeStep (settings : AssetSettings) (state : IntakeState) (step : IntakeStep) :
    Except Empty IntakeState :=
  .ok (step.next settings state)

/-- The state after a history. -/
def intakeRun (settings : AssetSettings) (steps : List IntakeStep) : IntakeState :=
  runFrom (intakeStep settings) unusedIntake steps

/-! ## What every history keeps -/

section

variable {settings : AssetSettings} {state : IntakeState} {disk : IntakeDisk}

/-- The disk is sound, and every upload that returned from its import has it. -/
structure SoundState (settings : AssetSettings) (state : IntakeState) : Prop where
  disk : SoundIntakes settings state.disk
  importing : ∀ upload manifest, (upload, manifest) ∈ state.importing →
    Imported settings upload manifest state.disk

theorem unusedIntake_sound : SoundState settings unusedIntake := by
  have nothing {α : Type} (assetId : AssetId) :
      (∅ : AList fun _ : AssetId => α).lookup assetId = none := AList.lookup_empty assetId
  constructor
  case importing =>
    intro upload manifest member
    cases member
  case disk =>
    constructor
    case filed =>
      intro assetId record found
      cases (nothing assetId).symm.trans found
    case imported =>
      intro assetId manifest request found
      cases found
    case committed =>
      intro assetId record found
      cases (nothing assetId).symm.trans found
    case shown => exact fun _ => rfl
    case removed =>
      intro assetId removed
      cases removed
    case clean => rfl
    case task =>
      intro stored
      cases stored
    case attached =>
      intro intake stored
      cases stored

theorem SoundState.later (sound : SoundState settings state)
    (later : SoundIntakes settings disk) (grown : Grown state.disk disk) :
    SoundState settings { state with disk := disk } where
  disk := later
  importing upload manifest member := (sound.importing upload manifest member).grown grown

/-- An interrupted write leaves nothing, so a stopped script leaves its first writes. -/
theorem upTo_eq {α : Type} {script : IntakeScript α} {stop : Option (Nat × Bool)} :
    script.upTo stop disk =
      applyAll disk ((script disk).writes.take
        ((stop.map Prod.fst).getD (script disk).writes.length)) := by
  cases stop with
  | none =>
      show applyAll disk (script disk).writes = _
      rw [Option.map_none, Option.getD_none, List.take_length]
  | some stop =>
      obtain ⟨position, torn⟩ := stop
      show script.stopped disk position torn = _
      unfold Script.stopped
      cases torn with
      | false => rfl
      | true =>
          cases (script disk).writes[position]? with
          | none => rfl
          | some write => rfl

/-- The step is stopped before its first write. -/
def Unwritten (stop : Option (Nat × Bool)) : Prop := ∃ torn, stop = some (0, torn)

/-- The step is stopped between its first and its second write. -/
def Between (stop : Option (Nat × Bool)) : Prop := ∃ torn, stop = some (1, torn)

theorem upTo_one {α : Type} {script : IntakeScript α} {w : IntakeWrite} {outcome : Outcome α}
    (run : script disk = ⟨[w], outcome⟩) (stop : Option (Nat × Bool)) :
    (Unwritten stop ∧ script.upTo stop disk = disk) ∨
      (¬ Unwritten stop ∧ script.upTo stop disk = Disk.apply disk w) := by
  rw [upTo_eq, run]
  rcases stop with _ | ⟨_ | position, torn⟩
  · refine .inr ⟨?_, rfl⟩
    rintro ⟨torn, stopped⟩
    cases stopped
  · exact .inl ⟨⟨torn, rfl⟩, rfl⟩
  · refine .inr ⟨?_, by simp [applyAll]⟩
    rintro ⟨torn, stopped⟩
    cases stopped

theorem upTo_two {α : Type} {script : IntakeScript α} {first second : IntakeWrite}
    {outcome : Outcome α} (run : script disk = ⟨[first, second], outcome⟩)
    (stop : Option (Nat × Bool)) :
    (Between stop ∧ script.upTo stop disk = Disk.apply disk first) ∨
      (¬ Between stop ∧ (script.upTo stop disk = disk ∨
        script.upTo stop disk = Disk.apply (Disk.apply disk first) second)) := by
  rw [upTo_eq, run]
  rcases stop with _ | ⟨_ | _ | position, torn⟩
  · refine .inr ⟨?_, .inr rfl⟩
    rintro ⟨torn, stopped⟩
    cases stopped
  · refine .inr ⟨?_, .inl rfl⟩
    rintro ⟨torn, stopped⟩
    cases stopped
  · exact .inl ⟨⟨torn, rfl⟩, rfl⟩
  · refine .inr ⟨?_, .inr (by simp [applyAll])⟩
    rintro ⟨torn, stopped⟩
    cases stopped

/-- An upload is attached exactly in the states of `Attaches`. -/
theorem attachUpload_upTo {upload : Upload} {manifest : AssetManifest} (world : IntakeWorld)
    (stop : Option (Nat × Bool)) (sound : SoundIntakes settings disk)
    (imported : Imported settings upload manifest disk) :
    Reaches settings disk ((attachUpload settings world upload manifest).upTo stop disk) ∨
      ∃ intake, Attaches settings upload disk intake ∧ ¬ Unwritten stop ∧
        (attachUpload settings world upload manifest).upTo stop disk =
          Disk.apply disk (attachWrite world upload manifest intake) := by
  by_cases attaches : ∃ intake, Attaches settings upload disk intake
  · obtain ⟨intake, attaches⟩ := attaches
    rcases upTo_one (attaches.run world (imported.content sound)) stop with
      ⟨-, same⟩ | ⟨written, after⟩
    · rw [same]
      exact .inl (Reaches.start sound)
    · exact .inr ⟨intake, attaches, written, after⟩
  · exact .inl ((attachUpload_meets sound imported (not_exists.mp attaches)).upTo stop)

/-- An asset is removed exactly in the states of `Removes`. -/
theorem removeAsset_upTo {assetId : AssetId} {envelope : CommandEnvelope} (world : IntakeWorld)
    (stop : Option (Nat × Bool)) (sound : SoundIntakes settings disk) :
    Reaches settings disk ((removeAsset settings world assetId envelope).upTo stop disk) ∨
      ∃ intake, Removes assetId envelope settings disk intake ∧
        ((Between stop ∧ (removeAsset settings world assetId envelope).upTo stop disk =
            Disk.apply disk (removalEvent assetId envelope)) ∨
          ¬ Between stop ∧ (removeAsset settings world assetId envelope).upTo stop disk =
            Disk.apply (Disk.apply disk (removalEvent assetId envelope))
              (removalWrite world intake assetId envelope)) := by
  by_cases removes : ∃ intake, Removes assetId envelope settings disk intake
  · obtain ⟨intake, removes⟩ := removes
    rcases upTo_two (removes.run world sound) stop with
      between | ⟨whole, same | after⟩
    · exact .inr ⟨intake, removes, .inl between⟩
    · rw [same]
      exact .inl (Reaches.start sound)
    · exact .inr ⟨intake, removes, .inr ⟨whole, after⟩⟩
  · exact .inl ((removeAsset_meets sound (not_exists.mp removes)).upTo stop)

/-- The writes of a removal are allowed. -/
theorem Removes.carries {assetId : AssetId} {envelope : CommandEnvelope} {intake : TaskIntake}
    (removes : Removes assetId envelope settings disk intake) (world : IntakeWorld)
    (sound : SoundIntakes settings disk) :
    Allowed settings disk (removalEvent assetId envelope) ∧
      Allowed settings (Disk.apply disk (removalEvent assetId envelope))
        (removalWrite world intake assetId envelope) := by
  have stored := intake_of_requireDraft removes.opened
  have known : (disk.importEvent assetId).isSome = true :=
    sound.importEvent_isSome (sound.attached intake stored assetId removes.listed)
  have hidden : Allowed settings disk (removalEvent assetId envelope) := known
  exact ⟨hidden, removalWrite_allowed (sound.apply hidden) stored⟩

theorem mem_imports {importing : List (Upload × AssetManifest)} {upload other : Upload}
    {stop : Option (Nat × Bool)} {outcome : Outcome AssetManifest} {manifest : AssetManifest}
    (member : (other, manifest) ∈ imports importing upload stop outcome) :
    (other, manifest) ∈ importing ∨ (stop = none ∧ upload = other ∧ outcome = .ok manifest) := by
  cases stop with
  | some stop => exact .inl member
  | none =>
      cases outcome with
      | error error => exact .inl member
      | ok returned =>
          obtain same | before := List.mem_cons.mp member
          · obtain ⟨rfl, rfl⟩ := Prod.mk.inj same
            exact .inr ⟨rfl, rfl, rfl⟩
          · exact .inl before

/-- Every step keeps the state sound, and what was there stays. -/
theorem SoundState.step (sound : SoundState settings state) (step : IntakeStep) :
    SoundState settings (step.next settings state) ∧
      Grown state.disk (step.next settings state).disk := by
  have reached {disk : IntakeDisk} (reaches : Reaches settings state.disk disk) :
      SoundState settings { state with disk := disk } ∧ Grown state.disk disk :=
    ⟨sound.later reaches.sound reaches.grown, reaches.grown⟩
  have wrote (write : IntakeWrite) (allowed : Allowed settings state.disk write) :
      SoundState settings { state with disk := Disk.apply state.disk write } ∧
        Grown state.disk (Disk.apply state.disk write) :=
    ⟨sound.later (sound.disk.apply allowed) allowed.grown, allowed.grown⟩
  cases step with
  | create prompt startPolicy envelope world stop =>
      exact reached ((create_meets sound.disk).upTo stop)
  | submit taskExpectedRevision envelope world stop =>
      exact reached ((submit_meets sound.disk).upTo stop)
  | resume assetId stop =>
      rw [IntakeStep.next]
      split
      · exact reached (Reaches.start sound.disk)
      · next record found =>
          exact reached ((resumeImport_meets (Reaches.start sound.disk) found).upTo stop)
  | other idempotencyKey command request =>
      rw [IntakeStep.next]
      split
      · exact wrote (.other idempotencyKey command request) trivial
      · exact reached (Reaches.start sound.disk)
  | attachUpload upload manifest world stop =>
      rw [IntakeStep.next]
      split
      · next issued =>
          have imported := sound.importing upload manifest issued
          rcases attachUpload_upTo world stop sound.disk imported with
            reaches | ⟨intake, attaches, -, after⟩
          · exact reached reaches
          · rw [after]
            exact wrote _ (attaches.allowed sound.disk imported)
      · exact reached (Reaches.start sound.disk)
  | remove assetId envelope world stop =>
      rw [IntakeStep.next]
      rcases removeAsset_upTo world stop sound.disk with
        reaches | ⟨intake, removes, ⟨-, after⟩ | ⟨-, after⟩⟩
      · exact reached reaches
      · rw [after]
        exact wrote _ (removes.carries world sound.disk).1
      · rw [after]
        obtain ⟨hidden, unlisted⟩ := removes.carries world sound.disk
        have grown := hidden.grown.trans unlisted.grown
        exact ⟨sound.later ((sound.disk.apply hidden).apply unlisted) grown, grown⟩
  | importUpload upload world stop =>
      have meets : Meets (TaskIntakeService.importUpload settings world upload) state.disk
          (Reaches settings state.disk)
          (fun manifest later => Imported settings upload manifest later) fun _ _ => True :=
        importUpload_meets sound.disk
      have reaches := meets.upTo stop
      obtain ⟨later, grown⟩ := reached reaches
      refine ⟨⟨later.disk, ?_⟩, grown⟩
      intro other manifest member
      obtain before | ⟨rfl, rfl, returned⟩ := mem_imports member
      · exact later.importing other manifest before
      · exact meets.of_ok returned

/-- Every history leads to a sound state. -/
theorem intakeRun_sound (settings : AssetSettings) (steps : List IntakeStep) :
    SoundState settings (intakeRun settings steps) := by
  refine runFrom_invariant unusedIntake_sound ?_ steps
  rintro state step next sound stepped
  obtain rfl := Except.ok.inj stepped
  exact (sound.step step).1

end

/-! ## What an intake owes its assets -/

/-- The assets of the intake are distinct, at most 20 and fit; all of them are visible and can be
    submitted. -/
structure Honoured (settings : AssetSettings) (disk : IntakeDisk) (intake : TaskIntake) : Prop
    extends IntakeListed disk intake where
  visible : ∀ assetId ∈ intake.assetIds, ∃ manifest ∈ disk.listAssets, manifest.assetId = assetId
  verified : ∀ assetId ∈ intake.assetIds,
    (AssetService.verifyAsset settings assetId disk).outcome = .ok ()
  selected : intake.assetIds ≠ [] → AssetService.selectInputs intake.assetIds disk = .ok ()

section

variable {settings : AssetSettings} {state : IntakeState} {disk : IntakeDisk}

theorem IntakeListed.honoured {intake : TaskIntake} (listed : IntakeListed disk intake)
    (sound : SoundIntakes settings disk) (stored : disk.intake = some intake) :
    Honoured settings disk intake := by
  have shown : ∀ assetId ∈ intake.assetIds, ∃ manifest, disk.visible? assetId = some manifest := by
    obtain ⟨summaries, read, -⟩ := listed.available
    exact fun assetId member => visible?_of_assetSummaries read member
  refine { listed with visible := ?visible, verified := ?verified, selected := ?selected }
  case visible =>
    intro assetId member
    obtain ⟨manifest, found⟩ := shown assetId member
    refine ⟨manifest, List.mem_of_find?_eq_some found, ?_⟩
    simpa using List.find?_some found
  case verified =>
    intro assetId member
    obtain ⟨manifest, found⟩ := shown assetId member
    rw [verifyAsset_run sound stored member found]
  case selected =>
    intro some
    unfold AssetService.selectInputs
    rw [ensure_of ⟨some, listed.distinct⟩, ok_bind, checkEach_eq_ok]
    intro assetId member
    obtain ⟨manifest, found⟩ := shown assetId member
    refine ensure_of ⟨by rw [found]; rfl, ?_⟩
    rw [sound.clean]
    exact List.not_mem_nil

/-- What keeps a step from leaving an asset listed that is not visible: a removal is not
    interrupted between its writes, and an asset that is attached was not removed before. -/
def IntakeStep.Safe (settings : AssetSettings) (state : IntakeState) : IntakeStep → Prop
  | .attachUpload upload manifest _ stop => (upload, manifest) ∈ state.importing →
      ¬ Unwritten stop → (∃ intake, Attaches settings upload state.disk intake) →
        state.disk.removed? upload.assetId = false
  | .remove assetId envelope _ stop => Between stop →
      ¬ ∃ intake, Removes assetId envelope settings state.disk intake
  | _ => True

/-- A step leaves the listed assets visible exactly when it is safe. -/
theorem IntakeStep.listed_iff (sound : SoundState settings state)
    (listed : IntakesListed state.disk) (step : IntakeStep) :
    IntakesListed (step.next settings state).disk ↔ step.Safe settings state := by
  cases step with
  | create prompt startPolicy envelope world stop =>
      exact iff_of_true (((create_meets sound.disk).upTo stop).listed listed) trivial
  | submit taskExpectedRevision envelope world stop =>
      exact iff_of_true (((submit_meets sound.disk).upTo stop).listed listed) trivial
  | importUpload upload world stop =>
      exact iff_of_true (((importUpload_meets sound.disk).upTo stop).listed listed) trivial
  | resume assetId stop =>
      refine iff_of_true ?_ trivial
      rw [IntakeStep.next]
      split
      · exact listed
      · next record found =>
          exact ((resumeImport_meets (Reaches.start sound.disk) found).upTo stop).listed listed
  | other idempotencyKey command request =>
      refine iff_of_true ?_ trivial
      rw [IntakeStep.next]
      split
      · have allowed : Allowed settings state.disk (.other idempotencyKey command request) := trivial
        exact listed.apply sound.disk allowed trivial
      · exact listed
  | attachUpload upload manifest world stop =>
      rw [IntakeStep.next, IntakeStep.Safe]
      split
      · next issued =>
          have imported := sound.importing upload manifest issued
          by_cases attaches : ∃ intake, Attaches settings upload state.disk intake
          · obtain ⟨intake, attaches⟩ := attaches
            rcases upTo_one (attaches.run world (imported.content sound.disk)) stop with
              ⟨unwritten, same⟩ | ⟨written, after⟩
            · refine iff_of_true ?_ fun _ written => absurd unwritten written
              rw [same]
              exact listed
            · rw [after, attaches.listed sound.disk imported listed]
              exact ⟨fun standing _ _ _ => standing, fun safe => safe issued written ⟨_, attaches⟩⟩
          · refine iff_of_true ?_ fun _ _ some => absurd some attaches
            exact ((attachUpload_meets sound.disk imported (not_exists.mp attaches)).upTo
              stop).listed listed
      · next foreign => exact iff_of_true listed fun issued => absurd issued foreign
  | remove assetId envelope world stop =>
      rw [IntakeStep.next, IntakeStep.Safe]
      by_cases removes : ∃ intake, Removes assetId envelope settings state.disk intake
      · obtain ⟨intake, removes⟩ := removes
        rcases upTo_two (removes.run world sound.disk) stop with
          ⟨between, after⟩ | ⟨whole, same | after⟩
        · refine iff_of_false ?_ fun safe => safe between ⟨_, removes⟩
          rw [after]
          exact removes.torn
        · refine iff_of_true ?_ fun between => absurd between whole
          rw [same]
          exact listed
        · refine iff_of_true ?_ fun between => absurd between whole
          rw [after]
          exact removes.kept listed
      · refine iff_of_true ?_ fun _ => removes
        exact ((removeAsset_meets sound.disk (not_exists.mp removes)).upTo stop).listed listed

theorem unusedIntake_listed : IntakesListed unusedIntake.disk := by
  intro intake stored
  cases stored

/-- What every state of a history owes holds exactly when all its steps are safe. -/
theorem intake_honoured (settings : AssetSettings) (steps : List IntakeStep) :
    (∀ before, before <+: steps → ∀ intake ∈ (intakeRun settings before).disk.intake,
        Honoured settings (intakeRun settings before).disk intake) ↔
      Along (intakeStep settings) (IntakeStep.Safe settings) unusedIntake steps := by
  have honoured (before : List IntakeStep) :
      (∀ intake ∈ (intakeRun settings before).disk.intake,
          Honoured settings (intakeRun settings before).disk intake) ↔
        IntakesListed (intakeRun settings before).disk := by
    constructor
    · exact fun all intake stored => (all intake stored).toIntakeListed
    · exact fun listed intake stored =>
        (listed intake stored).honoured (intakeRun_sound settings before).disk stored
  simp only [honoured]
  induction steps using List.reverseRecOn with
  | nil =>
      refine iff_of_true ?_ trivial
      intro before empty
      obtain rfl := List.prefix_nil.mp empty
      exact unusedIntake_listed
  | append_singleton steps step ih =>
      have last : (intakeRun settings (steps ++ [step])).disk =
          (step.next settings (intakeRun settings steps)).disk := by
        unfold intakeRun
        rw [runFrom_snoc]
        rfl
      rw [along_snoc, Iff.comm.mp ih]
      constructor
      · intro all
        have earlier : ∀ before, before <+: steps → IntakesListed (intakeRun settings before).disk :=
          fun before part => all before (part.trans (List.prefix_append steps [step]))
        refine ⟨earlier, ?_⟩
        have listed := all _ (List.prefix_refl _)
        rw [last] at listed
        exact (IntakeStep.listed_iff (intakeRun_sound settings steps)
          (earlier steps (List.prefix_refl _)) step).mp listed
      · rintro ⟨earlier, safe⟩ before part
        obtain rfl | part := List.prefix_concat_iff.mp part
        · rw [last]
          exact (IntakeStep.listed_iff (intakeRun_sound settings steps)
            (earlier steps (List.prefix_refl _)) step).mpr safe
        · exact earlier before part

end

/-! ## Issuing an upload again -/

/-- The upload was committed with the result: its import returned, its command is on the disk. -/
structure CommittedUpload (settings : AssetSettings) (state : IntakeState) (upload : Upload)
    (result : IntakeResult) : Prop where
  imported : ∃ manifest, (upload, manifest) ∈ state.importing
  found : lookup settings upload.request upload.envelope state.disk = .ok (some result)

/-- The gates in front of the import let the upload in: its route finds the intake open, fewer than
    20 assets are listed, all of them visible, and its file fits into the remaining bytes, of which
    there must be one. -/
def Readmitted (upload : Upload) (disk : IntakeDisk) : Prop :=
  ∃ intake existing, openIntake upload.route disk = .ok intake ∧
    assetSummaries disk intake.assetIds = .ok existing ∧ existing.length < maxFiles ∧
    1 ≤ maxTotalBytes - totalSize existing ∧
    upload.content.size ≤ maxTotalBytes - totalSize existing

section

variable {settings : AssetSettings} {state : IntakeState} {disk : IntakeDisk} {upload : Upload}
  {manifest : AssetManifest} {world : IntakeWorld}

/-- The import of an upload is found again once its gates are passed. -/
theorem Imported.importStream (imported : Imported settings upload manifest disk)
    (sound : SoundIntakes settings disk) (task : disk.taskExists = true) {maxFileBytes : Nat}
    (some : 1 ≤ maxFileBytes) (fits : upload.content.size ≤ maxFileBytes) :
    AssetService.importStream settings world upload.assetId upload.importRequest maxFileBytes disk =
      ⟨[], .ok manifest⟩ := by
  have required : AssetService.requireTask disk = ⟨[], .ok ()⟩ := by
    unfold AssetService.requireTask
    rw [Script.run_read, ensure_of task]
    rfl
  have bounded : upload.importRequest.content.size ≤ min settings.maxFileBytes maxFileBytes :=
    Nat.le_min.mpr ⟨imported.sized.1, fits⟩
  have named : AssetService.validFilename upload.importRequest.filename = true := imported.named
  unfold AssetService.importStream AssetService.commitImport
  rw [Script.run_quiet required, ensure_of named, Script.run_lift, ensure_of some, Script.run_lift,
    ensure_of bounded, Script.run_lift, Script.run_quiet required, Script.run_read,
    imported.record]
  dsimp only
  rw [ensure_of rfl, Script.run_lift]
  exact sound.resumeImport imported.record rfl

/-- Every allowed type has room for a byte. -/
theorem mimeLimit_pos
    (typed : mimeBySuffix.lookup (suffix upload.filename) = some upload.declaredMimeType) :
    1 ≤ upload.mimeLimit := by
  have all : ∀ pair ∈ mimeBySuffix, 1 ≤ (perMimeLimits.lookup pair.2).getD 0 := by decide
  obtain ⟨before, after, split, -⟩ := List.lookup_eq_some_iff.mp typed
  refine all (suffix upload.filename, upload.declaredMimeType) ?_
  rw [split]
  simp

/-- The bytes that the gates grant a file, if they let it in. -/
def Granted (settings : AssetSettings) (upload : Upload) (disk : IntakeDisk)
    (maxFileBytes : Nat) : Prop :=
  admitUpload settings upload disk = .ok maxFileBytes ∧ 1 ≤ maxFileBytes ∧
    upload.content.size ≤ maxFileBytes

theorem Imported.importUpload (imported : Imported settings upload manifest disk)
    (sound : SoundIntakes settings disk) (task : disk.taskExists = true) {maxFileBytes : Nat}
    (granted : Granted settings upload disk maxFileBytes) :
    importUpload settings world upload disk = ⟨[], .ok manifest⟩ := by
  obtain ⟨passed, some, fits⟩ := granted
  unfold TaskIntakeService.importUpload
  rw [Script.run_read, passed, Script.run_lift,
    Script.run_quiet (imported.importStream sound task some fits)]
  dsimp only
  rw [if_neg (not_not.mpr imported.detected)]
  rfl

/-- An upload that the gates do not let in is refused. -/
theorem importUpload_refused
    (refused : ∀ maxFileBytes, ¬ Granted settings upload disk maxFileBytes) (result : IntakeResult) :
    (uploadAsset settings world upload disk).outcome ≠ .ok result := by
  have meets : Meets (importUpload settings world upload) disk (fun _ => True)
      (fun _ _ => False) fun _ _ => True := by
    unfold TaskIntakeService.importUpload AssetService.importStream AssetService.requireTask
    refine Meets.looked rfl (Meets.guarded trivial ?_ fun _ _ => trivial)
    intro maxFileBytes passed
    refine Meets.bind (Meets.bind (Meets.looked rfl (Meets.lift trivial ?_ fun _ _ => trivial)))
    rintro - -
    refine Meets.guarded trivial ?_ fun _ _ => trivial
    rintro - -
    refine Meets.guarded trivial ?_ fun _ _ => trivial
    intro _ some
    refine Meets.guarded trivial ?_ fun _ _ => trivial
    intro _ fits
    have fits : upload.content.size ≤ min settings.maxFileBytes maxFileBytes := ensure_eq_ok.mp fits
    exact absurd ⟨passed, ensure_eq_ok.mp some, Nat.le_trans fits (Nat.min_le_right _ _)⟩
      (refused maxFileBytes)
  have uploads : Meets (uploadAsset settings world upload) disk (fun _ => True)
      (fun _ _ => False) fun _ _ => True :=
    Meets.bind (meets.mono (fun _ => id) (fun _ _ => False.elim) fun _ _ => id)
  exact fun returned => uploads.of_ok returned

/-- The gates in front of the import, for an upload that passed the rest. -/
theorem readmitted_iff (imported : Imported settings upload manifest disk) :
    Readmitted upload disk ↔ ∃ maxFileBytes, Granted settings upload disk maxFileBytes := by
  have limit : upload.content.size ≤ upload.mimeLimit := imported.sized.2
  have positive : 1 ≤ upload.mimeLimit := mimeLimit_pos imported.typed
  constructor
  · rintro ⟨intake, existing, opened, read, room, some, fits⟩
    have stored := intake_of_openIntake opened
    obtain ⟨current, held, revision⟩ := imported.current
    obtain rfl := Option.some.inj (stored.symm.trans held)
    refine ⟨min upload.mimeLimit (maxTotalBytes - totalSize existing), ?_, ?_, ?_⟩
    · exact admitUpload_eq_ok.mpr
        { human := imported.human
          described := imported.described
          typed := imported.typed
          room := ⟨intake, existing, opened, revision, read, room, rfl⟩ }
    · omega
    · omega
  · rintro ⟨maxFileBytes, passed, some, fits⟩
    obtain ⟨-, -, -, intake, existing, opened, -, read, room, rfl⟩ := admitUpload_eq_ok.mp passed
    exact ⟨intake, existing, opened, read, room, by omega, by omega⟩

/-- After any history, a committed upload that is issued again returns its result and writes
    nothing exactly when the gates in front of its import let it in. -/
theorem upload_reissued (settings : AssetSettings) (steps : List IntakeStep) (upload : Upload)
    (result : IntakeResult) (world : IntakeWorld)
    (committed : CommittedUpload settings (intakeRun settings steps) upload result) :
    uploadAsset settings world upload (intakeRun settings steps).disk = ⟨[], .ok result⟩ ↔
      Readmitted upload (intakeRun settings steps).disk := by
  have sound := intakeRun_sound settings steps
  obtain ⟨⟨manifest, member⟩, found⟩ := committed
  have imported := sound.importing upload manifest member
  obtain ⟨intake, stored, -⟩ := imported.current
  have task := sound.disk.task (by rw [stored]; rfl)
  rw [readmitted_iff imported]
  constructor
  · intro returned
    by_contra refused
    have failed : (uploadAsset settings world upload (intakeRun settings steps).disk).outcome ≠
        .ok result := importUpload_refused (not_exists.mp refused) result
    exact failed (by rw [returned])
  · rintro ⟨maxFileBytes, granted⟩
    unfold uploadAsset TaskIntakeService.attachUpload
    rw [Script.run_quiet (imported.importUpload sound.disk task granted), Script.run_read, found,
      Script.run_lift]
    rfl

end

def intakeSettings : AssetSettings where
  taskId := "task_intake_1"
  maxFileBytes := 50 * 1024 * 1024
  maxTaskBytes := 250 * 1024 * 1024
  allowedMimeTypes := ["application/pdf"]
  detectMime _ _ := "application/pdf"
  manifestContract _ := .ok ()

def intakeWorld : IntakeWorld where
  now := "2026-08-25T03:00:00.000000Z"

def intakeEnvelope (idempotencyKey : String) (expectedRevision : Nat) : CommandEnvelope where
  actorType := .human
  actorId := "user_1"
  idempotencyKey := idempotencyKey
  expectedRevision := expectedRevision

/-- A document of 50 MiB. -/
def document (idempotencyKey : String) : Upload where
  route := .intake
  content := ⟨"digest_" ++ idempotencyKey, 50 * 1024 * 1024⟩
  filename := "brief.pdf"
  declaredMimeType := "application/pdf"
  description := ""
  envelope := intakeEnvelope idempotencyKey 1

def documentManifest (idempotencyKey : String) : AssetManifest where
  assetId := (document idempotencyKey).assetId
  filename := "brief.pdf"
  mimeType := "application/pdf"
  content := (document idempotencyKey).content
  description := ""
  createdAt := "2026-08-25T03:00:00.000000Z"

def createIntake : IntakeStep :=
  .create "Poster" .manual (intakeEnvelope "create" 0) intakeWorld none

def importDocument (idempotencyKey : String) : IntakeStep :=
  .importUpload (document idempotencyKey) intakeWorld none

def attachDocument (idempotencyKey : String) : IntakeStep :=
  .attachUpload (document idempotencyKey) (documentManifest idempotencyKey) intakeWorld none

/-- A removal is stopped between its two writes. -/
def interruptedRemoval : List IntakeStep :=
  [createIntake, importDocument "a", attachDocument "a",
    .remove (document "a").assetId (intakeEnvelope "remove" 2) intakeWorld (some (1, false))]

/-- Two documents are imported at once, the second is rejected; when there is room again its upload
    is issued again. -/
def revivedUpload : List IntakeStep :=
  [createIntake, importDocument "a", attachDocument "a", importDocument "b", attachDocument "b",
    importDocument "c", attachDocument "c", importDocument "d", importDocument "e",
    attachDocument "d", attachDocument "e",
    .remove (document "a").assetId (intakeEnvelope "remove" 5) intakeWorld none,
    importDocument "e", attachDocument "e"]

/-- What the intake lists has no summary. -/
def unavailable (disk : IntakeDisk) : Bool :=
  match disk.intake with
  | none => false
  | some intake =>
      match assetSummaries disk intake.assetIds with
      | .ok _ => false
      | .error _ => true

theorem not_honoured_of_unavailable {settings : AssetSettings} {disk : IntakeDisk}
    (hidden : unavailable disk = true) :
    ∃ intake ∈ disk.intake, ¬ Honoured settings disk intake := by
  unfold unavailable at hidden
  cases stored : disk.intake with
  | none =>
      rw [stored] at hidden
      cases hidden
  | some intake =>
      refine ⟨intake, rfl, ?_⟩
      intro honoured
      obtain ⟨summaries, read, -⟩ := honoured.available
      rw [stored] at hidden
      dsimp only at hidden
      rw [read] at hidden
      cases hidden

/-- Both histories leave an intake that lists an asset nobody can see. -/
theorem intake_dishonoured :
    (∃ intake ∈ (intakeRun intakeSettings interruptedRemoval).disk.intake,
        ¬ Honoured intakeSettings (intakeRun intakeSettings interruptedRemoval).disk intake) ∧
      ∃ intake ∈ (intakeRun intakeSettings revivedUpload).disk.intake,
        ¬ Honoured intakeSettings (intakeRun intakeSettings revivedUpload).disk intake :=
  ⟨not_honoured_of_unavailable (by decide +kernel),
    not_honoured_of_unavailable (by decide +kernel)⟩

/-- The result of the first document. -/
def documentResult : IntakeResult where
  intake :=
    { prompt := "Poster"
      sessionOpen := true
      assetIds := [(document "a").assetId]
      status := .draft
      startPolicy := .manual
      revision := 2
      createdAt := "2026-08-25T03:00:00.000000Z"
      updatedAt := "2026-08-25T03:00:00.000000Z"
      submittedAt := none }
  intakeRevision := 2
  asset := some (documentManifest "a")

def attachedDocument : List IntakeStep := [createIntake, importDocument "a", attachDocument "a"]

def submittedDocument : List IntakeStep :=
  attachedDocument ++ [.submit 1 (intakeEnvelope "submit" 2) intakeWorld none]

theorem upload_reissued_document :
    uploadAsset intakeSettings intakeWorld (document "a")
        (intakeRun intakeSettings attachedDocument).disk = ⟨[], .ok documentResult⟩ ↔
      Readmitted (document "a") (intakeRun intakeSettings attachedDocument).disk :=
  upload_reissued intakeSettings attachedDocument (document "a") documentResult intakeWorld
    ⟨⟨documentManifest "a", by decide +kernel⟩, by decide +kernel⟩

/-- Once its intake is submitted, a committed upload that is issued again is refused. -/
theorem upload_refused :
    CommittedUpload intakeSettings (intakeRun intakeSettings submittedDocument) (document "a")
        documentResult ∧
      (uploadAsset intakeSettings intakeWorld (document "a")
          (intakeRun intakeSettings submittedDocument).disk).outcome =
        .error (.harness ⟨.invalidStateTransition, "The task intake no longer accepts uploads.",
          []⟩) :=
  ⟨⟨⟨documentManifest "a", by decide +kernel⟩, by decide +kernel⟩, by decide +kernel⟩

end DesignHarness
