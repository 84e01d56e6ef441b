import DesignHarness.Services.TaskIntakeRules

/-!
# What the operations of an intake keep

Every operation keeps the disk sound wherever it is stopped.  `attachUpload` lists an asset in the
states of `Attaches` and `removeAsset` unlists one in those of `Removes`; there their writes are
known exactly, and everywhere else all operations keep what is listed.
-/

namespace DesignHarness

open Library TaskIntakeService

/-! ## Imports -/

section

variable {settings : AssetSettings} {world : IntakeWorld} {start disk : IntakeDisk}
  {assetId : AssetId} {record : ImportRecord}

/-- A quiet write of an operation. -/
theorem Reaches.meets {w : IntakeWrite} {returns : Unit → IntakeDisk → Prop}
    {raises : Raised → IntakeDisk → Prop} (reaches : Reaches settings start disk)
    (allowed : Allowed settings disk w) (quiet : Quiet disk w)
    (returned : Reaches settings start (Disk.apply disk w) → returns () (Disk.apply disk w)) :
    Meets (Script.write w) disk (Reaches settings start) returns raises := by
  have applied := reaches.apply allowed quiet
  exact Meets.write reaches reaches applied (returned applied)

/-- The file of a transaction verifies. -/
theorem SoundIntakes.verified (sound : SoundIntakes settings disk)
    (found : disk.transactions.lookup assetId = some record) :
    AssetService.verifyManifestFile settings record.manifest disk = .ok () := by
  have filed := sound.filed assetId record found
  have file : disk.inputs.lookup record.manifest.assetId =
      some ⟨record.manifest.filename, record.manifest.content⟩ := by
    rw [filed.owner, filed.filename, filed.content]
    exact filed.file
  have detected : settings.detectMime record.manifest.content record.manifest.filename =
      record.manifest.mimeType := by
    rw [filed.filename, filed.content]
    exact filed.detected
  unfold AssetService.verifyManifestFile
  dsimp only
  rw [ensure_of (by rw [file]; rfl), ok_bind]
  exact ensure_of ⟨file, detected⟩

theorem SoundIntakes.verifyOrMark (sound : SoundIntakes settings disk)
    (found : disk.transactions.lookup assetId = some record) :
    AssetService.verifyOrMark settings record.manifest disk = ⟨[], .ok ()⟩ := by
  unfold AssetService.verifyOrMark
  rw [Script.run_read, sound.verified found]
  rfl

/-- A complete import has nothing to resume. -/
theorem SoundIntakes.resumeImport (sound : SoundIntakes settings disk)
    (found : disk.transactions.lookup assetId = some record) (committed : record.committed = true) :
    AssetService.resumeImport settings assetId record disk = ⟨[], .ok record.manifest⟩ := by
  have event := sound.committed assetId record found committed
  have agrees : ∀ pair ∈ disk.importEvent assetId, pair.2 = record.request := by
    rw [event]
    intro pair same
    obtain rfl := Option.some.inj same
    rfl
  unfold AssetService.resumeImport
  rw [Script.run_read, ensure_of agrees, Script.run_lift,
    Script.run_quiet (sound.verifyOrMark found), event]
  rw [committed]
  rfl

/-- Resuming an import completes its transaction. -/
theorem resumeImport_meets (reaches : Reaches settings start disk)
    (found : disk.transactions.lookup assetId = some record) :
    Meets (AssetService.resumeImport settings assetId record) disk (Reaches settings start)
      (fun manifest later => manifest = record.manifest ∧
        later.transactions.lookup assetId = some { record with committed := true })
      fun _ _ => False := by
  have owner : record.manifest.assetId = assetId := (reaches.sound.filed assetId record found).owner
  unfold AssetService.resumeImport
  have agrees : ∀ pair ∈ disk.importEvent assetId, pair.2 = record.request := by
    rintro ⟨manifest, request⟩ event
    obtain ⟨committed, stored⟩ := reaches.sound.imported assetId manifest request event
    obtain rfl := Option.some.inj (found.symm.trans stored)
    rfl
  refine Meets.looked rfl (Meets.checked (ensure_of agrees) ?_)
  refine Meets.quiet (reaches.sound.verifyOrMark found) ?_
  -- What follows the import event.
  have completes (disk : IntakeDisk) (reaches : Reaches settings start disk)
      (found : disk.transactions.lookup assetId = some record)
      (event : disk.importEvent assetId = some (record.manifest, record.request)) :
      Meets (do
          if record.committed = false then
            Script.write (.transaction assetId { record with committed := true })
          return record.manifest : IntakeScript AssetManifest) disk (Reaches settings start)
        (fun manifest later => manifest = record.manifest ∧
          later.transactions.lookup assetId = some { record with committed := true })
        fun _ _ => False := by
    split
    · have allowed : Allowed settings disk
          (.transaction assetId { record with committed := true }) :=
        .inr ⟨record, found, rfl, event⟩
      refine Meets.bind (reaches.meets allowed trivial fun written => ?_)
      exact Meets.pure written ⟨rfl, AList.lookup_insert _⟩
    · next done =>
        have committed : record.committed = true := by simpa using done
        have same : { record with committed := true } = record := by
          rw [← committed]
        rw [same]
        exact Meets.pure reaches ⟨rfl, found⟩
  cases event : disk.importEvent assetId with
  | some pair =>
      obtain ⟨manifest, request⟩ := pair
      obtain ⟨committed, stored⟩ := reaches.sound.imported assetId manifest request event
      obtain rfl := Option.some.inj (found.symm.trans stored)
      exact completes disk reaches found event
  | none =>
      have pending : record.committed = false := by
        cases done : record.committed with
        | false => rfl
        | true =>
            have known := reaches.sound.committed assetId record found done
            cases event.symm.trans known
      have prepared : disk.transactions.lookup record.manifest.assetId =
          some ⟨record.request, false, record.manifest⟩ := by
        rw [owner, found, ← pending]
      have allowed : Allowed settings disk
          (.event (.imported record.manifest record.request)) := by
        refine ⟨?_, prepared⟩
        rw [owner]
        exact event
      refine Meets.bind (reaches.meets allowed trivial fun written => ?_)
      refine completes _ written found ?_
      have recorded : (disk.record (.imported record.manifest record.request)).importEvent assetId =
          some (record.manifest, record.request) := by
        rw [IntakeDisk.importEvent_imported, event, if_pos owner]
        rfl
      exact recorded

/-- Removing an asset that the intake does not list. -/
theorem removeInputAsset_meets {key : String} (reaches : Reaches settings start disk)
    (unlisted : ∀ intake ∈ disk.intake, assetId ∉ intake.assetIds) :
    Meets (AssetService.removeInputAsset assetId key) disk (Reaches settings start)
      (fun _ _ => True) fun _ _ => True := by
  unfold AssetService.removeInputAsset AssetService.requireTask
  refine Meets.bind (Meets.looked rfl (Meets.lift reaches ?_ fun _ _ => trivial))
  rintro - -
  refine Meets.looked rfl ?_
  split
  · exact Meets.lift reaches (fun _ _ => trivial) fun _ _ => trivial
  · refine Meets.looked rfl (Meets.guarded reaches ?_ fun _ _ => trivial)
    intro _ known
    have imported : (disk.importEvent assetId).isSome = true := ensure_eq_ok.mp known
    exact reaches.meets imported unlisted fun _ => trivial

/-- Importing a file that passed the checks of its upload. -/
theorem commitImport_meets {request : ImportRequest} (reaches : Reaches settings start disk) :
    Meets (AssetService.commitImport settings world assetId request) disk (Reaches settings start)
      (fun manifest later =>
        later.transactions.lookup assetId = some ⟨request, true, manifest⟩)
      fun _ _ => True := by
  unfold AssetService.commitImport AssetService.requireTask
  refine Meets.bind (Meets.looked rfl (Meets.lift reaches ?_ fun _ _ => trivial))
  rintro - -
  refine Meets.looked rfl ?_
  split
  · next existing found =>
      refine Meets.guarded reaches ?_ fun _ _ => trivial
      intro _ agreed
      have asked : existing.request = request := ensure_eq_ok.mp agreed
      refine (resumeImport_meets reaches found).mono (fun _ => id) ?_ fun _ _ => False.elim
      rintro manifest later ⟨rfl, complete⟩
      rw [complete, asked]
  · next fresh =>
      refine Meets.looked rfl ?_
      refine Meets.bind (reaches.meets (w := .input assetId request.filename request.content)
        fresh trivial fun staged => ?_)
      split
      · refine Meets.bind (staged.meets fresh trivial fun discarded => ?_)
        exact Meets.bind (Meets.raise discarded trivial)
      dsimp only
      split
      · refine Meets.bind (staged.meets fresh trivial fun discarded => ?_)
        exact Meets.bind (Meets.raise discarded trivial)
      refine Meets.guarded staged ?_ fun _ _ => trivial
      rintro - -
      have filed : Filed settings (disk.inputs.insert assetId ⟨request.filename, request.content⟩)
          assetId
          ⟨request, false, assetId, request.filename,
            settings.detectMime request.content request.filename, request.content,
            request.description, world.now⟩ :=
        ⟨rfl, rfl, rfl, AList.lookup_insert _, rfl⟩
      refine Meets.bind (staged.meets (.inl ⟨fresh, rfl, filed⟩) trivial fun prepared => ?_)
      refine (resumeImport_meets prepared (AList.lookup_insert _)).mono (fun _ => id) ?_
        fun _ _ => False.elim
      rintro manifest later ⟨rfl, complete⟩
      exact complete

/-- The import of an upload is complete and passed every check in front of it. -/
structure Imported (settings : AssetSettings) (upload : Upload) (manifest : AssetManifest)
    (disk : IntakeDisk) : Prop where
  human : upload.envelope.actorType = .human
  described : upload.description.length ≤ 4000
  typed : mimeBySuffix.lookup (suffix upload.filename) = some upload.declaredMimeType
  named : AssetService.validFilename upload.filename = true
  sized : upload.content.size ≤ settings.maxFileBytes ∧ upload.content.size ≤ upload.mimeLimit
  current : ∃ intake ∈ disk.intake, upload.envelope.expectedRevision ≤ intake.revision
  record : disk.transactions.lookup upload.assetId =
    some ⟨upload.importRequest, true, manifest⟩
  detected : manifest.mimeType = upload.declaredMimeType

theorem Imported.grown {upload : Upload} {manifest : AssetManifest} {later : IntakeDisk}
    (imported : Imported settings upload manifest disk) (grown : Grown disk later) :
    Imported settings upload manifest later := by
  obtain ⟨human, described, typed, named, sized, current, record, detected⟩ := imported
  refine ⟨human, described, typed, named, sized, ?_, ?_, detected⟩
  · obtain ⟨intake, stored, least⟩ := current
    obtain ⟨next, held, more⟩ := grown.intake intake stored
    exact ⟨next, held, Nat.le_trans least more⟩
  · rcases grown.transactions _ _ record with same | complete
    · exact same
    · exact complete

/-- What an upload finds when its file is admitted. -/
structure Admitted (settings : AssetSettings) (upload : Upload) (disk : IntakeDisk)
    (maxFileBytes : Nat) : Prop where
  human : upload.envelope.actorType = .human
  described : upload.description.length ≤ 4000
  typed : mimeBySuffix.lookup (suffix upload.filename) = some upload.declaredMimeType
  room : ∃ intake existing, openIntake upload.route disk = .ok intake ∧
    upload.envelope.expectedRevision ≤ intake.revision ∧
    assetSummaries disk intake.assetIds = .ok existing ∧ existing.length < maxFiles ∧
    maxFileBytes = min upload.mimeLimit (maxTotalBytes - totalSize existing)

theorem admitUpload_eq_ok {upload : Upload} {maxFileBytes : Nat} :
    admitUpload settings upload disk = .ok maxFileBytes ↔
      Admitted settings upload disk maxFileBytes := by
  unfold admitUpload requireHuman allowRevision
  simp only [bind_eq_ok, ensure_eq_ok, pure_eq_ok, Except.ok.injEq, exists_const]
  constructor
  · rintro ⟨human, described, typed, intake, opened, revision, existing, read, room, rfl⟩
    exact ⟨human, described, typed, intake, existing, opened, revision, read, room, rfl⟩
  · rintro ⟨human, described, typed, intake, existing, opened, revision, read, room, rfl⟩
    exact ⟨human, described, typed, intake, opened, revision, existing, read, room, rfl⟩

theorem intake_of_requireIntake {intake : TaskIntake} (opened : requireIntake disk = .ok intake) :
    disk.intake = some intake := by
  unfold requireIntake at opened
  cases held : disk.intake with
  | none =>
      rw [held] at opened
      cases opened
  | some other =>
      rw [held] at opened
      obtain rfl := Except.ok.inj opened
      rfl

theorem intake_of_requireDraft {intake : TaskIntake} (opened : requireDraft disk = .ok intake) :
    disk.intake = some intake := by
  unfold requireDraft at opened
  obtain ⟨other, found, opened⟩ := bind_eq_ok.mp opened
  obtain ⟨-, -, same⟩ := bind_eq_ok.mp opened
  obtain rfl := Except.ok.inj same
  exact intake_of_requireIntake found

/-- Either route opens the stored intake. -/
theorem intake_of_openIntake {route : UploadRoute} {intake : TaskIntake}
    (opened : openIntake route disk = .ok intake) : disk.intake = some intake := by
  cases route with
  | intake => exact intake_of_requireDraft opened
  | task => exact intake_of_requireIntake opened

/-- An asset of the intake has the type of its suffix, so its upload is not rejected for it. -/
theorem SoundIntakes.typed (sound : SoundIntakes settings disk) {upload : Upload}
    {manifest : AssetManifest} {intake : TaskIntake} (stored : intake ∈ disk.intake)
    (member : upload.assetId ∈ intake.assetIds)
    (typed : mimeBySuffix.lookup (suffix upload.filename) = some upload.declaredMimeType)
    (record : disk.transactions.lookup upload.assetId =
      some ⟨upload.importRequest, true, manifest⟩) :
    manifest.mimeType = upload.declaredMimeType := by
  obtain ⟨listed, found, -, detected⟩ :=
    (sound.attached intake stored upload.assetId member).imported
  obtain rfl := Option.some.inj (record.symm.trans found)
  exact Option.some.inj (detected.symm.trans typed)

/-- Wherever it is stopped, the part of an upload outside the lock lists nothing; when it returns
    the import is complete. -/
theorem importUpload_meets {upload : Upload} (sound : SoundIntakes settings disk) :
    Meets (importUpload settings world upload) disk (Reaches settings disk)
      (fun manifest later => Imported settings upload manifest later) fun _ _ => True := by
  have reaches : Reaches settings disk disk := Reaches.start sound
  unfold importUpload AssetService.importStream AssetService.requireTask
  refine Meets.looked rfl (Meets.guarded reaches ?_ fun _ _ => trivial)
  intro maxFileBytes passed
  obtain ⟨human, described, typed, intake, existing, opened, revision, read, room, limit⟩ :=
    admitUpload_eq_ok.mp passed
  refine Meets.bind (Meets.bind (Meets.looked rfl (Meets.lift reaches ?_ fun _ _ => trivial)))
  rintro - -
  refine Meets.guarded reaches ?_ fun _ _ => trivial
  intro _ filename
  have named := ensure_eq_ok.mp filename
  refine Meets.guarded reaches ?_ fun _ _ => trivial
  rintro - -
  refine Meets.guarded reaches ?_ fun _ _ => trivial
  intro _ bounded
  have sized : upload.content.size ≤ min settings.maxFileBytes maxFileBytes :=
    ensure_eq_ok.mp bounded
  refine (commitImport_meets reaches).kept.mono (fun _ => id) ?_ fun _ _ _ => trivial
  rintro manifest later ⟨record, reached⟩
  obtain ⟨next, held, more⟩ := reached.grown.intake intake (intake_of_openIntake opened)
  dsimp only
  split
  · next mistyped =>
      -- The intake lists no asset of this type under this suffix.
      have unlisted : ∀ current ∈ later.intake, upload.assetId ∉ current.assetIds := by
        intro current stored member
        exact mistyped (reached.sound.typed stored member typed record)
      refine Meets.bind ((removeInputAsset_meets reached unlisted).kept.mono (fun _ => id) ?_
        fun _ _ _ => trivial)
      rintro - last ⟨-, rejected⟩
      exact Meets.bind (Meets.raise rejected trivial)
  · next detected =>
      refine Meets.pure reached ?_
      have size : upload.content.size ≤ settings.maxFileBytes ∧
          upload.content.size ≤ upload.mimeLimit := by
        omega
      exact
        { human := human
          described := described
          typed := typed
          named := named
          sized := size
          current := ⟨next, held, Nat.le_trans revision more⟩
          record := record
          detected := not_not.mp detected }

/-! ## Attaching an asset -/

section

variable {request : IntakeRequest} {envelope : CommandEnvelope}

theorem lookup_eq_none :
    lookup settings request envelope disk = .ok none ↔
      ∀ commit ∈ disk.commits, commit.idempotencyKey ≠ envelope.idempotencyKey := by
  unfold lookup
  cases found : disk.commits.find? (·.idempotencyKey = envelope.idempotencyKey) with
  | none =>
      rw [List.find?_eq_none] at found
      simpa using found
  | some commit =>
      have member := List.mem_of_find?_eq_some found
      have key : commit.idempotencyKey = envelope.idempotencyKey := by
        simpa using List.find?_some found
      have taken : ¬ ∀ commit ∈ disk.commits,
          commit.idempotencyKey ≠ envelope.idempotencyKey := fun fresh => fresh commit member key
      cases commit with
      | intake other committed result => simp [bind_eq_ok, taken]
      | other => simp [taken]

end

/-- The state in which the asset of an upload is attached to the intake. -/
structure Attaches (settings : AssetSettings) (upload : Upload) (disk : IntakeDisk)
    (intake : TaskIntake) : Prop where
  fresh : lookup settings upload.request upload.envelope disk = .ok none
  opened : openIntake upload.route disk = .ok intake
  revision : upload.envelope.expectedRevision ≤ intake.revision
  unlisted : upload.assetId ∉ intake.assetIds
  room : ∃ active, assetSummaries disk intake.assetIds = .ok active ∧
    active.length < maxFiles ∧ totalSize active + upload.content.size ≤ maxTotalBytes

/-- What attaching the asset writes. -/
def attachment (world : IntakeWorld) (upload : Upload) (manifest : AssetManifest)
    (intake : TaskIntake) : IntakeResult where
  intake := attached world intake upload.assetId
  intakeRevision := intake.revision + 1
  asset := some manifest

def attachWrite (world : IntakeWorld) (upload : Upload) (manifest : AssetManifest)
    (intake : TaskIntake) : IntakeWrite :=
  .commit (attached world intake upload.assetId)
    (.intake upload.envelope.idempotencyKey upload.request
      (attachment world upload manifest intake))

theorem Imported.content {upload : Upload} {manifest : AssetManifest}
    (sound : SoundIntakes settings disk) (imported : Imported settings upload manifest disk) :
    manifest.content = upload.content :=
  (sound.filed _ _ imported.record).content

section

variable {upload : Upload} {manifest : AssetManifest} {intake : TaskIntake}

/-- In such a state the asset is attached, with one write. -/
theorem Attaches.run (attaches : Attaches settings upload disk intake) (world : IntakeWorld)
    (content : manifest.content = upload.content) :
    attachUpload settings world upload manifest disk =
      ⟨[attachWrite world upload manifest intake],
        .ok (attachment world upload manifest intake)⟩ := by
  obtain ⟨fresh, opened, revision, unlisted, active, read, room, fits⟩ := attaches
  have full : ¬ (maxFiles ≤ active.length ∨
      maxTotalBytes < totalSize active + manifest.content.size) := by
    rw [content]
    omega
  unfold attachUpload
  rw [Script.run_read, fresh, Script.run_lift]
  dsimp only
  rw [Script.run_read, opened]
  dsimp only
  rw [allowRevision, ensure_of revision, Script.run_lift, if_neg unlisted, Script.run_read, read,
    Script.run_lift, if_neg full]
  rfl

/-- An upload that is not committed is not listed. -/
theorem SoundIntakes.unlisted (sound : SoundIntakes settings disk)
    (fresh : lookup settings upload.request upload.envelope disk = .ok none) :
    ∀ intake ∈ disk.intake, upload.assetId ∉ intake.assetIds := by
  intro intake stored member
  obtain ⟨commit, committed, key⟩ :=
    (sound.attached intake stored upload.assetId member).command
  exact lookup_eq_none.mp fresh commit committed key

/-- In any other state nothing is listed. -/
theorem attachUpload_meets (sound : SoundIntakes settings disk)
    (imported : Imported settings upload manifest disk)
    (refused : ∀ intake, ¬ Attaches settings upload disk intake) :
    Meets (attachUpload settings world upload manifest) disk (Reaches settings disk)
      (fun _ _ => True) fun _ _ => True := by
  have reaches : Reaches settings disk disk := Reaches.start sound
  unfold attachUpload
  refine Meets.looked rfl (Meets.guarded reaches ?_ fun _ _ => trivial)
  intro replay found
  cases replay with
  | some result => exact Meets.pure reaches trivial
  | none =>
      have unlisted := sound.unlisted found
      refine Meets.looked rfl ?_
      cases opened : openIntake upload.route disk with
      | error error =>
          refine Meets.bind ((removeInputAsset_meets reaches unlisted).kept.mono (fun _ => id) ?_
            fun _ _ _ => trivial)
          rintro - later ⟨-, rejected⟩
          exact Meets.raise rejected trivial
      | ok current =>
          refine Meets.guarded reaches ?_ fun _ _ => trivial
          intro _ revision
          have revision : upload.envelope.expectedRevision ≤ current.revision :=
            ensure_eq_ok.mp revision
          split
          · exact Meets.pure reaches trivial
          · next absent =>
              refine Meets.looked rfl (Meets.guarded reaches ?_ fun _ _ => trivial)
              intro active read
              dsimp only
              split
              · refine Meets.bind ((removeInputAsset_meets reaches unlisted).kept.mono
                  (fun _ => id) ?_ fun _ _ _ => trivial)
                rintro - later ⟨-, rejected⟩
                exact Meets.bind (Meets.raise rejected trivial)
              · next room =>
                  rw [imported.content sound] at room
                  have fits : active.length < maxFiles ∧
                      totalSize active + upload.content.size ≤ maxTotalBytes := by
                    omega
                  exact absurd ⟨found, opened, revision, absent, active, read, fits⟩
                    (refused current)

/-- Attaching the asset is allowed. -/
theorem Attaches.allowed (attaches : Attaches settings upload disk intake)
    (sound : SoundIntakes settings disk) (imported : Imported settings upload manifest disk) :
    Allowed settings disk (attachWrite world upload manifest intake) := by
  have stored := intake_of_openIntake attaches.opened
  refine ⟨sound.task (by rw [stored]; rfl), ?_, ?_⟩
  · intro old held
    obtain rfl := Option.some.inj (stored.symm.trans held)
    exact Nat.le_succ _
  · intro assetId member
    obtain before | same := List.mem_append.mp member
    · exact (sound.attached intake stored assetId before).grown
        { Grown.refl disk with commits := ⟨_, rfl⟩ }
    · obtain rfl := List.mem_singleton.mp same
      refine ⟨⟨_, List.mem_append_right _ List.mem_cons_self, rfl⟩, _, imported.record, rfl, ?_⟩
      rw [imported.detected]
      exact imported.typed

/-- The intake stays listed exactly when the attached asset was not removed before. -/
theorem Attaches.listed (attaches : Attaches settings upload disk intake)
    (sound : SoundIntakes settings disk) (imported : Imported settings upload manifest disk)
    (listed : IntakesListed disk) :
    IntakesListed (Disk.apply disk (attachWrite world upload manifest intake)) ↔
      disk.removed? upload.assetId = false := by
  have stored := intake_of_openIntake attaches.opened
  obtain ⟨-, -, -, unlisted, active, read, room, fits⟩ := attaches
  constructor
  · intro after
    obtain ⟨-, -, summaries, read, -⟩ := after _ rfl
    obtain ⟨shown, visible⟩ := visible?_of_assetSummaries read
      (List.mem_append_right _ List.mem_cons_self)
    cases removed : disk.removed? upload.assetId with
    | false => rfl
    | true =>
        have hidden : disk.visible? upload.assetId = none := by
          rw [sound.shown, removed]
          rfl
        cases hidden.symm.trans visible
  · intro standing next held
    obtain rfl := Option.some.inj held
    have shown := sound.visible?_eq_some imported.record rfl standing
    obtain ⟨distinct, -, -⟩ := listed intake stored
    constructor
    case distinct =>
      refine List.nodup_append.mpr ⟨distinct, List.nodup_singleton _, ?_⟩
      intro assetId member other same equal
      obtain rfl := List.mem_singleton.mp same
      exact unlisted (equal ▸ member)
    case atMost =>
      show (intake.assetIds ++ [upload.assetId]).length ≤ maxFiles
      have count := assetSummaries_length read
      rw [List.length_append, List.length_singleton]
      omega
    case available =>
      have same : ∀ assetId ∈ intake.assetIds,
          (Disk.apply disk (attachWrite world upload manifest intake)).visible? assetId =
            disk.visible? assetId := fun _ _ => rfl
      have later := (assetSummaries_congr same).trans read
      refine ⟨active ++ [manifest], assetSummaries_snoc later shown, ?_⟩
      have total : totalSize (active ++ [manifest]) =
          totalSize active + manifest.content.size := by
        unfold totalSize
        rw [List.map_append, List.sum_append]
        rfl
      rw [total, imported.content sound]
      exact fits

end

/-! ## Removing an asset -/

/-- The state in which an asset is removed from the intake. -/
structure Removes (assetId : AssetId) (envelope : CommandEnvelope) (settings : AssetSettings)
    (disk : IntakeDisk) (intake : TaskIntake) : Prop where
  human : envelope.actorType = .human
  fresh : lookup settings (.remove assetId) envelope disk = .ok none
  opened : requireDraft disk = .ok intake
  revision : envelope.expectedRevision ≤ intake.revision
  listed : assetId ∈ intake.assetIds
  unused : disk.removedUnder ("remove-intake-" ++ envelope.idempotencyKey) = none

/-- The two writes of a removal. -/
def removalEvent (assetId : AssetId) (envelope : CommandEnvelope) : IntakeWrite :=
  .event (.removed assetId ("remove-intake-" ++ envelope.idempotencyKey))

def withoutAsset (world : IntakeWorld) (intake : TaskIntake) (assetId : AssetId) : TaskIntake :=
  { intake with
    assetIds := intake.assetIds.erase assetId
    revision := intake.revision + 1
    updatedAt := world.now }

def removal (world : IntakeWorld) (intake : TaskIntake) (assetId : AssetId) : IntakeResult where
  intake := withoutAsset world intake assetId
  intakeRevision := intake.revision + 1
  removedAssetId := some assetId

def removalWrite (world : IntakeWorld) (intake : TaskIntake) (assetId : AssetId)
    (envelope : CommandEnvelope) : IntakeWrite :=
  .commit (withoutAsset world intake assetId)
    (.intake envelope.idempotencyKey (.remove assetId) (removal world intake assetId))

section

variable {envelope : CommandEnvelope} {intake : TaskIntake}

theorem removeInputAsset_run {key : String} (task : disk.taskExists = true)
    (unused : disk.removedUnder key = none) (known : (disk.importEvent assetId).isSome = true) :
    AssetService.removeInputAsset assetId key disk =
      ⟨[.event (.removed assetId key)], .ok ()⟩ := by
  have required : AssetService.requireTask disk = ⟨[], .ok ()⟩ := by
    unfold AssetService.requireTask
    rw [Script.run_read, ensure_of task]
    rfl
  unfold AssetService.removeInputAsset
  rw [Script.run_quiet required, Script.run_read, unused]
  dsimp only
  rw [Script.run_read, ensure_of known]
  rfl

/-- In such a state the asset is hidden first, then taken from the list. -/
theorem Removes.run (removes : Removes assetId envelope settings disk intake)
    (world : IntakeWorld) (sound : SoundIntakes settings disk) :
    removeAsset settings world assetId envelope disk =
      ⟨[removalEvent assetId envelope, removalWrite world intake assetId envelope],
        .ok (removal world intake assetId)⟩ := by
  obtain ⟨human, fresh, opened, revision, listed, unused⟩ := removes
  have stored := intake_of_requireDraft opened
  have known : (disk.importEvent assetId).isSome = true :=
    sound.importEvent_isSome (sound.attached intake stored assetId listed)
  have task : disk.taskExists = true := sound.task (by rw [stored]; rfl)
  unfold removeAsset
  rw [requireHuman, ensure_of human, Script.run_lift, Script.run_read, fresh, Script.run_lift]
  dsimp only
  rw [Script.run_read, opened, Script.run_lift, allowRevision, ensure_of revision, Script.run_lift,
    ensure_of listed, Script.run_lift, Script.run_bind (removeInputAsset_run task unused known)]
  rfl

/-- Taking an asset from the list is allowed. -/
theorem removalWrite_allowed (sound : SoundIntakes settings disk)
    (stored : disk.intake = some intake) :
    Allowed settings disk (removalWrite world intake assetId envelope) := by
  refine ⟨sound.task (by rw [stored]; rfl), ?_, ?_⟩
  · intro old held
    obtain rfl := Option.some.inj (stored.symm.trans held)
    exact Nat.le_succ _
  · intro other member
    have before : other ∈ intake.assetIds := List.mem_of_mem_erase member
    exact (sound.attached intake stored other before).grown
      { Grown.refl disk with commits := ⟨_, rfl⟩ }

/-- In any other state nothing is taken from what the intake lists. -/
theorem removeAsset_meets (sound : SoundIntakes settings disk)
    (refused : ∀ intake, ¬ Removes assetId envelope settings disk intake) :
    Meets (removeAsset settings world assetId envelope) disk (Reaches settings disk)
      (fun _ _ => True) fun _ _ => True := by
  have reaches : Reaches settings disk disk := Reaches.start sound
  unfold removeAsset
  refine Meets.guarded reaches ?_ fun _ _ => trivial
  intro _ human
  have human : envelope.actorType = .human := ensure_eq_ok.mp human
  refine Meets.looked rfl (Meets.guarded reaches ?_ fun _ _ => trivial)
  intro replay fresh
  cases replay with
  | some result => exact Meets.pure reaches trivial
  | none =>
      refine Meets.looked rfl (Meets.guarded reaches ?_ fun _ _ => trivial)
      intro current opened
      refine Meets.guarded reaches ?_ fun _ _ => trivial
      intro _ revision
      have revision : envelope.expectedRevision ≤ current.revision := ensure_eq_ok.mp revision
      refine Meets.guarded reaches ?_ fun _ _ => trivial
      intro _ member
      have member : assetId ∈ current.assetIds := ensure_eq_ok.mp member
      have stored := intake_of_requireDraft opened
      unfold AssetService.removeInputAsset AssetService.requireTask
      refine Meets.bind (Meets.bind (Meets.looked rfl (Meets.lift reaches ?_ fun _ _ => trivial)))
      rintro - -
      refine Meets.looked rfl ?_
      cases used : disk.removedUnder ("remove-intake-" ++ envelope.idempotencyKey) with
      | none =>
          exact absurd ⟨human, fresh, opened, revision, member, used⟩ (refused current)
      | some other =>
          refine Meets.lift reaches ?_ fun _ _ => trivial
          intro _ same
          obtain rfl : other = assetId := ensure_eq_ok.mp same
          -- The asset was hidden by a removal that was interrupted.
          have hidden : ¬ IntakesListed disk := by
            intro listed
            obtain ⟨-, -, summaries, read, -⟩ := listed current stored
            obtain ⟨manifest, visible⟩ := visible?_of_assetSummaries read member
            rw [sound.shown, IntakeDisk.removed?_of_removedUnder used] at visible
            cases visible
          have allowed : Allowed settings disk (removalWrite world current other envelope) :=
            removalWrite_allowed sound stored
          have reached : Reaches settings disk
              (Disk.apply disk (removalWrite world current other envelope)) :=
            ⟨sound.apply allowed, allowed.grown, fun listed => absurd listed hidden⟩
          exact Meets.bind (Meets.write reaches reaches reached (Meets.pure reached trivial))

/-- Between its two writes a removal leaves an asset listed that is not visible. -/
theorem Removes.torn (removes : Removes assetId envelope settings disk intake) :
    ¬ IntakesListed (Disk.apply disk (removalEvent assetId envelope)) := by
  intro listed
  have stored := intake_of_requireDraft removes.opened
  obtain ⟨-, -, summaries, read, -⟩ := listed intake stored
  obtain ⟨manifest, visible⟩ := visible?_of_assetSummaries read removes.listed
  have hidden : (disk.record (.removed assetId
      ("remove-intake-" ++ envelope.idempotencyKey))).visible? assetId = none := by
    rw [IntakeDisk.visible?_removed, if_pos rfl]
  cases hidden.symm.trans visible

/-- The whole removal leaves a list. -/
theorem Removes.kept (removes : Removes assetId envelope settings disk intake)
    (listed : IntakesListed disk) :
    IntakesListed (Disk.apply (Disk.apply disk (removalEvent assetId envelope))
      (removalWrite world intake assetId envelope)) := by
  intro next held
  obtain rfl := Option.some.inj held
  have stored := intake_of_requireDraft removes.opened
  obtain ⟨distinct, atMost, summaries, read, fits⟩ := listed intake stored
  obtain ⟨fewer, fewerRead, less⟩ := assetSummaries_erase assetId read
  constructor
  case distinct => exact distinct.erase assetId
  case atMost => exact Nat.le_trans List.length_erase_le atMost
  case available =>
    have same : ∀ other ∈ intake.assetIds.erase assetId,
        (Disk.apply (Disk.apply disk (removalEvent assetId envelope))
          (removalWrite world intake assetId envelope)).visible? other = disk.visible? other := by
      intro other member
      have apart : assetId ≠ other := fun equal => (distinct.mem_erase_iff.mp member).1 equal.symm
      exact IntakeDisk.visible?_removed.trans (if_neg apart)
    exact ⟨fewer, (assetSummaries_congr same).trans fewerRead, Nat.le_trans less fits⟩

end

section

variable {envelope : CommandEnvelope}

theorem create_meets {prompt : String} {startPolicy : StartPolicy}
    (sound : SoundIntakes settings disk) :
    Meets (create settings world prompt startPolicy envelope) disk (Reaches settings disk)
      (fun _ _ => True) fun _ _ => True := by
  have reaches : Reaches settings disk disk := Reaches.start sound
  unfold create
  dsimp only
  refine Meets.guarded reaches ?_ fun _ _ => trivial
  rintro - -
  refine Meets.guarded reaches ?_ fun _ _ => trivial
  rintro - -
  refine Meets.guarded reaches ?_ fun _ _ => trivial
  rintro - -
  refine Meets.looked rfl (Meets.guarded reaches ?_ fun _ _ => trivial)
  intro replay _
  cases replay with
  | some result => exact Meets.pure reaches trivial
  | none =>
      refine Meets.guarded reaches ?_ fun _ _ => trivial
      rintro - -
      refine Meets.guarded reaches ?_ fun _ _ => trivial
      rintro - -
      refine Meets.bind (reaches.meets (w := .task) trivial trivial fun created => ?_)
      refine Meets.looked rfl (Meets.guarded created ?_ fun _ _ => trivial)
      intro _ absent
      have absent : (Disk.apply disk IntakeWrite.task).intake = none := ensure_eq_ok.mp absent
      have first (intake : TaskIntake) (commit : IntakeCommit) (empty : intake.assetIds = []) :
          Reaches settings disk
            (Disk.apply (Disk.apply disk IntakeWrite.task) (.commit intake commit)) := by
        refine created.apply ⟨rfl, ?_, ?_⟩ ?_
        · intro old held
          cases absent.symm.trans held
        · rw [empty]
          intro assetId member
          cases member
        · show intake.assetIds = (disk.intake.map TaskIntake.assetIds).getD []
          rw [empty, show disk.intake = none from absent]
          rfl
      rw [absent]
      exact Meets.bind (Meets.write created created (first _ _ rfl)
        (Meets.pure (first _ _ rfl) trivial))

/-- What an intake lists is verified. -/
theorem verifyAsset_run (sound : SoundIntakes settings disk) {intake : TaskIntake}
    (stored : disk.intake = some intake) (member : assetId ∈ intake.assetIds)
    {manifest : AssetManifest} (visible : disk.visible? assetId = some manifest) :
    AssetService.verifyAsset settings assetId disk = ⟨[], .ok ()⟩ := by
  obtain ⟨record, found, committed, -⟩ := (sound.attached intake stored assetId member).imported
  have same : manifest = record.manifest := by
    rw [sound.shown, sound.committed assetId record found committed] at visible
    split at visible
    · cases visible
    · exact (Option.some.inj visible).symm
  unfold AssetService.verifyAsset
  rw [Script.run_read, visible, same]
  exact sound.verifyOrMark found

/-- Verifying an asset writes nothing, whether it is visible or not. -/
theorem verifyAsset_meets (sound : SoundIntakes settings disk) {intake : TaskIntake}
    (stored : disk.intake = some intake) (member : assetId ∈ intake.assetIds) :
    Meets (AssetService.verifyAsset settings assetId) disk (disk = ·)
      (fun _ => (disk = ·)) fun _ _ => True := by
  cases visible : disk.visible? assetId with
  | none =>
      unfold AssetService.verifyAsset
      exact Meets.looked visible (Meets.raise rfl trivial)
  | some manifest =>
      have quiet := verifyAsset_run sound stored member visible
      constructor
      · rw [quiet]
        rfl
      · rw [Script.after, quiet]
        rfl

theorem submit_meets {taskExpectedRevision : Nat} (sound : SoundIntakes settings disk) :
    Meets (submit settings world taskExpectedRevision envelope) disk (Reaches settings disk)
      (fun _ _ => True) fun _ _ => True := by
  have reaches : Reaches settings disk disk := Reaches.start sound
  unfold submit
  refine Meets.guarded reaches ?_ fun _ _ => trivial
  rintro - -
  refine Meets.guarded reaches ?_ fun _ _ => trivial
  rintro - -
  refine Meets.looked rfl (Meets.guarded reaches ?_ fun _ _ => trivial)
  intro replay _
  cases replay with
  | some result => exact Meets.pure reaches trivial
  | none =>
      refine Meets.looked rfl (Meets.guarded reaches ?_ fun _ _ => trivial)
      intro current opened
      have stored := intake_of_requireDraft opened
      refine Meets.guarded reaches ?_ fun _ _ => trivial
      rintro - -
      have verifies : Meets (Script.forEach (AssetService.verifyAsset settings) current.assetIds)
          disk (disk = ·) (fun _ => (disk = ·)) fun _ _ => True := by
        refine Meets.forEach (motive := fun _ => (disk = ·)) ?_ (fun _ _ => id) rfl
          fun _ => id
        rintro done assetId rest later split rfl
        have member : assetId ∈ current.assetIds := by
          rw [split]
          exact List.mem_append_right _ List.mem_cons_self
        exact verifyAsset_meets sound stored member
      refine Meets.bind (verifies.mono ?_ ?_ fun _ _ => id)
      · rintro later rfl
        exact reaches
      rintro - later rfl
      dsimp only
      -- The list of the submitted intake is the list of the draft.
      have submits : Meets (do
            Script.lift world.registerInputManifest
            let summaries ← Script.read (assetSummaries · current.assetIds)
            let _ ← Script.lift summaries
            let updated :=
              { current with
                status := .submitted
                sessionOpen := false
                revision := current.revision + 1
                updatedAt := world.now
                submittedAt := some world.now }
            putIntake updated (.submit taskExpectedRevision) envelope
              { intake := updated, intakeRevision := updated.revision } : IntakeScript IntakeResult)
          disk (Reaches settings disk) (fun _ _ => True) fun _ _ => True := by
        refine Meets.guarded reaches ?_ fun _ _ => trivial
        rintro - -
        refine Meets.looked rfl (Meets.guarded reaches ?_ fun _ _ => trivial)
        rintro - -
        have locked (next : TaskIntake) (commit : IntakeCommit)
            (same : next.assetIds = current.assetIds) (later : current.revision ≤ next.revision) :
            Reaches settings disk (Disk.apply disk (.commit next commit)) := by
          refine reaches.apply ⟨sound.task (by rw [stored]; rfl), ?_, ?_⟩ ?_
          · intro old held
            obtain rfl := Option.some.inj (stored.symm.trans held)
            exact later
          · rw [same]
            intro assetId member
            exact (sound.attached current stored assetId member).grown
              { Grown.refl disk with commits := ⟨_, rfl⟩ }
          · show next.assetIds = (disk.intake.map TaskIntake.assetIds).getD []
            rw [same, stored]
            rfl
        exact Meets.bind (Meets.write reaches reaches (locked _ _ rfl (Nat.le_succ _))
          (Meets.pure (locked _ _ rfl (Nat.le_succ _)) trivial))
      split
      · refine Meets.looked rfl (Meets.guarded reaches ?_ fun _ _ => trivial)
        rintro - -
        exact submits
      · exact submits

end

end

end DesignHarness
