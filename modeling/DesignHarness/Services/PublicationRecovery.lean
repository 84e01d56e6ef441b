import DesignHarness.Services.PublicationBatches
import Mathlib.Data.List.Dedup

/-!
# Recovering publications

A recovery resumes the transactions of a task one after another, removes temporaries that no
transaction owns and verifies what is visible (`asset_recovery.py:30-72`).

A publication is `Secured` when it can be resumed and shares its destination with no other one.
Whatever else a recovery does to the disk, it stays so.
-/

namespace DesignHarness

open Library

namespace AssetService

variable (settings : PublicationSettings) (now : UtcTime)

/-- The turn of the record of a publication. -/
def recoverPublication (publicationId : PublicationId) : PublicationScript Unit := do
  match ← Script.read fun disk : PublicationDisk => disk.publications publicationId with
  | none => return ()
  | some record => do
      let _ ← resumePublication settings now publicationId record

/-- The turn of the record of a batch. -/
def recoverBatch (batchId : Identifier) : PublicationScript Unit := do
  match ← Script.read fun disk : PublicationDisk => disk.batches batchId with
  | none => return ()
  | some record => do
      let _ ← resumePublicationBatch settings now batchId record

/-- The removal of a file that matches `.*.tmp` and is not owned (`asset_recovery.py:51-58`): the
    name of an output is not the id of a publication. -/
def removeOrphan (path : PublicPath) : PublicationScript Unit := do
  let found ← Script.read fun disk : PublicationDisk => (disk.files path).isSome
  if found then
    match path with
    | .temporary publicationId => do
        let record ← Script.read fun disk : PublicationDisk => disk.publications publicationId
        if record.isNone then
          Script.write (.unlinkFile publicationId)
    | .destination destination =>
        if destination.lasting = false then
          Script.write (.unlinkDestination destination)

/-- `except HarnessError`: a corrupted asset is reported, other errors are raised again
    (`asset_recovery.py:60-71`). -/
def quarantine {σ ω : Type} [Disk σ ω] (script : Script σ ω Raised Unit) :
    Script σ ω Raised Unit :=
  script.rescue fun error =>
    match error with
    | .harness raised =>
        if raised.code = .assetCorrupted then return () else Script.raise error
    | other => Script.raise other

end AssetService

/-- The assets that `_visible_asset_events` shows (`assets.py:1107-1136`). -/
def PublicationDisk.visiblePublications (disk : PublicationDisk) : List PublicationId :=
  (disk.events.filterMap fun event =>
    match event with
    | .published manifest _ =>
        (disk.visible? manifest.publicationId).map fun _ => manifest.publicationId
    | _ => none).dedup

open AssetService

section

variable {settings : PublicationSettings} {disk : PublicationDisk} {write : PublicationWrite}
  {publicationId : PublicationId} {record : PublicationRecord}

/-- The write takes the destination. -/
def PublicationWrite.takes (destination : Destination) : PublicationWrite → Prop
  | .linkFile _ target => target = destination
  | _ => False

/-- A destination that is free stays free unless it is taken. -/
theorem PublicationAllowed.free (allowed : PublicationAllowed settings disk write)
    {destination : Destination} (apart : ¬ write.takes destination) :
    (Disk.apply disk write).files (.destination destination) =
      disk.files (.destination destination) := by
  cases write with
  | linkFile other target =>
      have different : PublicPath.destination destination ≠ .destination target := by
        rintro same
        exact apart (PublicPath.destination.inj same).symm
      exact Function.update_of_ne different _ _
  | unlinkDestination target =>
      by_cases same : destination = target
      · subst same
        exact PublicationDisk.files_unlinkDestination.trans (Eq.symm allowed)
      · have different : PublicPath.destination destination ≠ .destination target := by
          simpa using same
        exact Function.update_of_ne different _ _
  | publication => rfl
  | batch => rfl
  | event => rfl
  | copy => rfl
  | unlinkFile => rfl
  | manifest => rfl
  | linkManifest => rfl
  | unlinkManifest => rfl
  | bundle => rfl
  | mark => rfl

theorem outputs_apply : (Disk.apply disk write).outputs = disk.outputs := by
  cases write <;> rfl

theorem statuses_apply : (Disk.apply disk write).statuses = disk.statuses := by
  cases write <;> rfl

/-- A write about something else leaves a publication resumable. -/
theorem Resumable.apply (resumable : Resumable settings disk publicationId record)
    (allowed : PublicationAllowed settings disk write)
    (apart : write.about ≠ some publicationId) (free : ¬ write.takes record.destination) :
    Resumable settings (Disk.apply disk write) publicationId record := by
  have view := allowed.view apart
  have destination := allowed.free free
  unfold Resumable at resumable ⊢
  cases state : record.state with
  | prepared =>
      rw [state] at resumable
      dsimp only at resumable ⊢
      rw [destination, outputs_apply]
      exact resumable
  | copied content mimeType prepared =>
      rw [state] at resumable
      dsimp only at resumable ⊢
      rw [view.events, view.copy, destination]
      exact resumable
  | committed manifest => trivial

/-- A check of an asset that passed passes again. -/
theorem checkBatchAsset_apply {request : BatchRequest} {item : BatchAsset}
    (sound : SoundPublications settings disk) (allowed : PublicationAllowed settings disk write)
    (passed : checkBatchAsset settings request disk item = .ok ()) :
    checkBatchAsset settings request (Disk.apply disk write) item = .ok () := by
  unfold checkBatchAsset at passed ⊢
  cases found : disk.publicationEvent item.publicationId with
  | none =>
      rw [found] at passed
      cases passed
  | some pair =>
      rw [found] at passed
      obtain ⟨owner, manifest, rfl, published⟩ := sound.single found
      have later : (Disk.apply disk write).publicationEvent item.publicationId =
          some (manifest, owner.request) := by
        unfold PublicationDisk.publicationEvent
        rw [allowed.single published.event]
        rfl
      rw [later]
      obtain ⟨⟨⟩, belongs, verified⟩ := bind_eq_ok.mp passed
      dsimp only at belongs verified ⊢
      rw [belongs, ok_bind]
      obtain ⟨number, file⟩ := published.file
      unfold verifyPublicationFile at verified ⊢
      rw [published.describes.destination] at verified ⊢
      rw [file] at verified
      rw [allowed.placed file]
      exact verified

/-- A batch stays resumable unless its bundle is stored differently. -/
theorem BatchResumable.apply {request : BatchRequest}
    (resumable : BatchResumable settings disk request) (sound : SoundPublications settings disk)
    (allowed : PublicationAllowed settings disk write)
    (bundle : ∀ bundleId written, write = .bundle bundleId written →
      ∀ manifest ∈ request.bundleManifest, manifest.bundleId = bundleId → manifest = written) :
    BatchResumable settings (Disk.apply disk write) request where
  assets none item member := by
    have before : disk.batchesOf request.batchId = [] := by
      cases write with
      | event event =>
          have parts := PublicationDisk.batchesOf_append.symm.trans none
          exact (List.append_eq_nil_iff.mp parts).1
      | publication => exact none
      | batch => exact none
      | bundle => exact none
      | mark => exact none
      | copy => exact none
      | unlinkFile => exact none
      | unlinkDestination => exact none
      | linkFile => exact none
      | manifest => exact none
      | unlinkManifest => exact none
      | linkManifest => exact none
    exact checkBatchAsset_apply sound allowed (resumable.assets before item member)
  bundle := by
    cases asked : request.bundleManifest with
    | none =>
        unfold checkBundle
        rw [asked]
    | some manifest =>
        by_cases stored : (Disk.apply disk write).bundles manifest.bundleId =
            disk.bundles manifest.bundleId
        · refine (checkBundle_congr ?_).trans resumable.bundle
          intro other member
          obtain rfl := Option.some.inj (asked.symm.trans member)
          exact stored
        · refine checkBundle_stored asked resumable.bundle ?_
          cases write with
          | bundle bundleId written =>
              by_cases same : manifest.bundleId = bundleId
              · obtain rfl := bundle bundleId written rfl manifest asked same
                rw [same]
                exact PublicationDisk.bundles_bundle
              · exact absurd (Function.update_of_ne same _ _) stored
          | publication => exact absurd rfl stored
          | batch => exact absurd rfl stored
          | event => exact absurd rfl stored
          | mark => exact absurd rfl stored
          | copy => exact absurd rfl stored
          | unlinkFile => exact absurd rfl stored
          | unlinkDestination => exact absurd rfl stored
          | linkFile => exact absurd rfl stored
          | manifest => exact absurd rfl stored
          | unlinkManifest => exact absurd rfl stored
          | linkManifest => exact absurd rfl stored

end

/-! ## Secured transactions -/

/-- The transactions that a recovery is asked about: those that must stay resumable, the requests
    that records must keep, the records that are there, and those that are finished. -/
structure Scope where
  publications : PublicationId → Prop := fun _ => False
  batches : Identifier → Prop := fun _ => False
  published : PublicationId → PublicationRequest → Prop := fun _ _ => False
  committed : Identifier → BatchRequest → Prop := fun _ _ => False
  recorded : PublicationId → Prop := fun _ => False
  filed : Identifier → Prop := fun _ => False
  finished : PublicationId → Prop := fun _ => False
  settled : Identifier → Prop := fun _ => False

/-- The publications and batches of the scope can be resumed, whatever happens to the others. -/
structure Secured (settings : PublicationSettings) (scope : Scope) (disk : PublicationDisk) :
    Prop where
  sound : SoundPublications settings disk
  resumable : ∀ publicationId record, scope.publications publicationId →
    disk.publications publicationId = some record →
      Resumable settings disk publicationId record
  separate : ∀ publicationId record other twin, scope.publications publicationId →
    disk.publications publicationId = some record → disk.publications other = some twin →
      twin.destination = record.destination → other = publicationId
  committable : ∀ batchId record, scope.batches batchId →
    disk.batches batchId = some record → BatchResumable settings disk record.request
  bundles : ∀ batchId record other twin, scope.batches batchId →
    disk.batches batchId = some record → disk.batches other = some twin →
      ∀ manifest ∈ record.request.bundleManifest, ∀ written ∈ twin.request.bundleManifest,
        manifest.bundleId = written.bundleId → manifest = written
  published : ∀ publicationId request record, scope.published publicationId request →
    disk.publications publicationId = some record → record.request = request
  committed : ∀ batchId request record, scope.committed batchId request →
    disk.batches batchId = some record → record.request = request
  recorded : ∀ publicationId, scope.recorded publicationId →
    ∃ record, disk.publications publicationId = some record
  filed : ∀ batchId, scope.filed batchId → ∃ record, disk.batches batchId = some record
  finished : ∀ publicationId, scope.finished publicationId →
    ∃ record manifest, disk.publications publicationId = some record ∧
      record.state = .committed manifest
  settled : ∀ batchId, scope.settled batchId →
    ∃ record event, disk.batches batchId = some record ∧ record.result = some event

/-- The write touches nothing that the scope is about. -/
structure Outside (scope : Scope) (disk : PublicationDisk) (write : PublicationWrite) : Prop where
  publication : ∀ publicationId record, scope.publications publicationId →
    (Disk.apply disk write).publications publicationId = some record →
      write.about ≠ some publicationId
  destination : ∀ publicationId record, scope.publications publicationId →
    disk.publications publicationId = some record →
      ¬ write.takes record.destination ∧
        ∀ other written, write = .publication other written →
          written.destination ≠ record.destination
  batch : ∀ batchId, scope.batches batchId → write.batchOf ≠ some batchId
  bundle : ∀ batchId record, scope.batches batchId → disk.batches batchId = some record →
    ∀ manifest ∈ record.request.bundleManifest,
      (∀ bundleId written, write = .bundle bundleId written →
        manifest.bundleId = bundleId → manifest = written) ∧
      ∀ other stored, write = .batch other stored → ∀ written ∈ stored.request.bundleManifest,
        manifest.bundleId = written.bundleId → manifest = written
  published : ∀ publicationId request, scope.published publicationId request →
    ∀ written, write = .publication publicationId written → written.request = request
  committed : ∀ batchId request, scope.committed batchId request →
    ∀ stored, write = .batch batchId stored → stored.request = request

section

variable {settings : PublicationSettings} {scope : Scope} {disk : PublicationDisk}
  {write : PublicationWrite} {publicationId : PublicationId} {batchId : Identifier}

/-- A record of the later disk was there before, or is the one that is written. -/
theorem publications_apply {record : PublicationRecord}
    (found : (Disk.apply disk write).publications publicationId = some record) :
    disk.publications publicationId = some record ∨ write = .publication publicationId record := by
  cases write with
  | publication other written =>
      by_cases same : publicationId = other
      · subst same
        obtain rfl := Option.some.inj (PublicationDisk.publications_publication.symm.trans found)
        exact .inr rfl
      · exact .inl ((Function.update_of_ne same _ _).symm.trans found)
  | batch => exact .inl found
  | event => exact .inl found
  | copy => exact .inl found
  | linkFile => exact .inl found
  | unlinkFile => exact .inl found
  | unlinkDestination => exact .inl found
  | manifest => exact .inl found
  | linkManifest => exact .inl found
  | unlinkManifest => exact .inl found
  | bundle => exact .inl found
  | mark => exact .inl found

theorem batches_apply {record : BatchRecord}
    (found : (Disk.apply disk write).batches batchId = some record) :
    disk.batches batchId = some record ∨ write = .batch batchId record := by
  cases write with
  | batch other written =>
      by_cases same : batchId = other
      · subst same
        obtain rfl := Option.some.inj (PublicationDisk.batches_batch.symm.trans found)
        exact .inr rfl
      · exact .inl ((Function.update_of_ne same _ _).symm.trans found)
  | publication => exact .inl found
  | event => exact .inl found
  | copy => exact .inl found
  | linkFile => exact .inl found
  | unlinkFile => exact .inl found
  | unlinkDestination => exact .inl found
  | manifest => exact .inl found
  | linkManifest => exact .inl found
  | unlinkManifest => exact .inl found
  | bundle => exact .inl found
  | mark => exact .inl found

/-- A record that was there is there, or another one is written in its place. -/
theorem publications_kept {record : PublicationRecord}
    (found : disk.publications publicationId = some record) :
    (Disk.apply disk write).publications publicationId = some record ∨
      ∃ written, write = .publication publicationId written ∧
        (Disk.apply disk write).publications publicationId = some written := by
  cases write with
  | publication other written =>
      by_cases same : publicationId = other
      · subst same
        exact .inr ⟨written, rfl, PublicationDisk.publications_publication⟩
      · exact .inl ((Function.update_of_ne same _ _).trans found)
  | batch => exact .inl found
  | event => exact .inl found
  | copy => exact .inl found
  | linkFile => exact .inl found
  | unlinkFile => exact .inl found
  | unlinkDestination => exact .inl found
  | manifest => exact .inl found
  | linkManifest => exact .inl found
  | unlinkManifest => exact .inl found
  | bundle => exact .inl found
  | mark => exact .inl found

theorem batches_kept {record : BatchRecord} (found : disk.batches batchId = some record) :
    (Disk.apply disk write).batches batchId = some record ∨
      ∃ stored, write = .batch batchId stored ∧
        (Disk.apply disk write).batches batchId = some stored := by
  cases write with
  | batch other stored =>
      by_cases same : batchId = other
      · subst same
        exact .inr ⟨stored, rfl, PublicationDisk.batches_batch⟩
      · exact .inl ((Function.update_of_ne same _ _).trans found)
  | publication => exact .inl found
  | event => exact .inl found
  | copy => exact .inl found
  | linkFile => exact .inl found
  | unlinkFile => exact .inl found
  | unlinkDestination => exact .inl found
  | manifest => exact .inl found
  | linkManifest => exact .inl found
  | unlinkManifest => exact .inl found
  | bundle => exact .inl found
  | mark => exact .inl found

/-- Writes outside the scope leave it secured. -/
theorem Secured.apply (secured : Secured settings scope disk)
    (allowed : PublicationAllowed settings disk write) (outside : Outside scope disk write) :
    Secured settings scope (Disk.apply disk write) where
  sound := secured.sound.apply allowed
  resumable publicationId record member found := by
    have apart := outside.publication publicationId record member found
    have before := (allowed.record apart).symm.trans found
    exact (secured.resumable publicationId record member before).apply allowed apart
      (outside.destination publicationId record member before).1
  separate publicationId record other twin member found listed same := by
    have before := (allowed.record (outside.publication publicationId record member found)).symm.trans found
    rcases publications_apply listed with stored | written
    · exact secured.separate publicationId record other twin member before stored same
    · exact absurd same
        ((outside.destination publicationId record member before).2 other twin written)
  committable batchId record member found := by
    have before := (allowed.batches (outside.batch batchId member)).1.symm.trans found
    refine (secured.committable batchId record member before).apply secured.sound allowed ?_
    intro bundleId written same manifest asked
    exact (outside.bundle batchId record member before manifest asked).1 bundleId written same
  bundles batchId record other twin member found listed manifest asked written stored same := by
    have before := (allowed.batches (outside.batch batchId member)).1.symm.trans found
    rcases batches_apply listed with former | filed
    · exact secured.bundles batchId record other twin member before former manifest asked written
        stored same
    · exact (outside.bundle batchId record member before manifest asked).2 other twin filed
        written stored same
  published publicationId request record asked found := by
    rcases publications_apply found with before | written
    · exact secured.published publicationId request record asked before
    · exact outside.published publicationId request asked record written
  committed batchId request record asked found := by
    rcases batches_apply found with before | written
    · exact secured.committed batchId request record asked before
    · exact outside.committed batchId request asked record written
  recorded publicationId member := by
    obtain ⟨record, found⟩ := secured.recorded publicationId member
    rcases publications_kept found with kept | ⟨written, -, kept⟩
    · exact ⟨record, kept⟩
    · exact ⟨written, kept⟩
  filed batchId member := by
    obtain ⟨record, found⟩ := secured.filed batchId member
    rcases batches_kept found with kept | ⟨written, -, kept⟩
    · exact ⟨record, kept⟩
    · exact ⟨written, kept⟩
  finished publicationId member := by
    obtain ⟨record, manifest, found, state⟩ := secured.finished publicationId member
    rcases publications_kept found with kept | ⟨written, filed, -⟩
    · exact ⟨record, manifest, kept, state⟩
    · subst filed
      exact absurd state (allowed.2.2 record manifest found)
  settled batchId member := by
    obtain ⟨record, event, found, result⟩ := secured.settled batchId member
    rcases batches_kept found with kept | ⟨written, filed, -⟩
    · exact ⟨record, event, kept, result⟩
    · subst filed
      cases (allowed.2 record found).symm.trans result

end

/-! ## The turn of a publication -/

/-- The scope without a publication. -/
def Scope.without (scope : Scope) (publicationId : PublicationId) : Scope :=
  { scope with publications := fun other => scope.publications other ∧ other ≠ publicationId }

/-- What the turn of a publication keeps: the others of the scope, and the request and the
    destination of its own record. -/
structure DuringPublication (settings : PublicationSettings) (scope : Scope)
    (publicationId : PublicationId) (record : PublicationRecord) (disk : PublicationDisk) :
    Prop where
  others : Secured settings (scope.without publicationId) disk
  separate : scope.publications publicationId → ∀ other twin,
    disk.publications other = some twin → twin.destination = record.destination →
      other = publicationId
  own : ∃ current, disk.publications publicationId = some current ∧
    current.request = record.request ∧ current.destination = record.destination

section

variable {settings : PublicationSettings} {scope : Scope} {disk : PublicationDisk}
  {write : PublicationWrite} {publicationId : PublicationId} {record : PublicationRecord}

theorem PublicationWrite.resumes.about (own : write.resumes publicationId record)
    {other : PublicationId} (apart : other ≠ publicationId) : write.about ≠ some other := by
  intro about
  cases write with
  | publication =>
      obtain rfl := Option.some.inj about
      exact apart own.1
  | event event =>
      cases event with
      | published asset request =>
          obtain rfl := Option.some.inj about
          exact apart own
      | batchCommitted => cases about
      | corrupted => cases about
  | copy =>
      obtain rfl := Option.some.inj about
      exact apart own
  | unlinkFile =>
      obtain rfl := Option.some.inj about
      exact apart own
  | manifest =>
      obtain rfl := Option.some.inj about
      exact apart own
  | linkManifest =>
      obtain rfl := Option.some.inj about
      exact apart own
  | unlinkManifest =>
      obtain rfl := Option.some.inj about
      exact apart own
  | linkFile => cases about
  | mark => cases about
  | unlinkDestination => exact own.elim
  | batch => exact own.elim
  | bundle => exact own.elim

theorem PublicationWrite.resumes.batchOf (own : write.resumes publicationId record) :
    write.batchOf = none := by
  cases write with
  | batch => exact own.elim
  | event event =>
      cases event with
      | batchCommitted => exact own.elim
      | published => rfl
      | corrupted => rfl
  | publication => rfl
  | copy => rfl
  | unlinkFile => rfl
  | unlinkDestination => rfl
  | manifest => rfl
  | linkManifest => rfl
  | unlinkManifest => rfl
  | linkFile => rfl
  | bundle => rfl
  | mark => rfl

/-- The writes of a publication are outside the rest of the scope. -/
theorem DuringPublication.outside
    (during : DuringPublication settings scope publicationId record disk)
    (own : write.resumes publicationId record) :
    Outside (scope.without publicationId) disk write where
  publication _ _ member _ := own.about member.2
  destination other twin member found := by
    obtain ⟨current, stored, -, destination⟩ := during.own
    have apart : record.destination ≠ twin.destination := by
      intro same
      exact member.2 (during.others.separate other twin publicationId current member found stored
        (destination.trans same)).symm
    constructor
    · intro takes
      cases write with
      | linkFile => exact apart (own.2.symm.trans takes)
      | publication => exact takes
      | batch => exact takes
      | event => exact takes
      | copy => exact takes
      | unlinkFile => exact takes
      | unlinkDestination => exact takes
      | manifest => exact takes
      | linkManifest => exact takes
      | unlinkManifest => exact takes
      | bundle => exact takes
      | mark => exact takes
    · rintro third written rfl same
      exact apart (own.2.2.symm.trans same)
  batch batchId _ := by
    rw [own.batchOf]
    intro none
    cases none
  bundle batchId stored member found manifest asked := by
    constructor
    · rintro bundleId written rfl
      exact own.elim
    · rintro other filed rfl
      exact own.elim
  published other request asked := by
    rintro written rfl
    obtain ⟨rfl, same, -⟩ := own
    obtain ⟨current, stored, kept, -⟩ := during.own
    rw [same, ← kept]
    exact during.others.published other request current asked stored
  committed batchId request asked := by
    rintro stored rfl
    exact own.elim

/-- The writes of a publication keep what its turn keeps. -/
theorem DuringPublication.kept :
    KeptBy settings (PublicationWrite.resumes publicationId record)
      (DuringPublication settings scope publicationId record) where
  sound _ during := during.others.sound
  closed disk write during own allowed := by
    have mine : ∀ twin, write = .publication publicationId twin →
        twin.request = record.request ∧ twin.destination = record.destination := by
      rintro twin rfl
      exact own.2
    constructor
    case others => exact during.others.apply allowed (during.outside own)
    case separate =>
      intro member other twin found same
      rcases publications_apply found with stored | written
      · exact during.separate member other twin stored same
      · rw [written] at own
        exact own.1
    case own =>
      obtain ⟨current, stored, request, destination⟩ := during.own
      rcases publications_kept stored with kept | ⟨written, filed, found⟩
      · exact ⟨current, kept, request, destination⟩
      · exact ⟨written, found, mine written filed⟩

theorem Secured.during (secured : Secured settings scope disk)
    (found : disk.publications publicationId = some record) :
    DuringPublication settings scope publicationId record disk where
  others :=
    { secured with
      resumable := fun other twin member => secured.resumable other twin member.1
      separate := fun other twin third next member => secured.separate other twin third next member.1 }
  separate member other twin stored same :=
    secured.separate publicationId record other twin member found stored same
  own := ⟨record, found, rfl, rfl⟩

/-- The whole scope is secured again where the publication can be resumed. -/
theorem DuringPublication.secured
    (during : DuringPublication settings scope publicationId record disk)
    (resumable : scope.publications publicationId → ∃ current,
      disk.publications publicationId = some current ∧ current.request = record.request ∧
        current.destination = record.destination ∧
          Resumable settings disk publicationId current) :
    Secured settings scope disk :=
  { during.others with
    resumable := by
      intro other twin member found
      by_cases same : other = publicationId
      · subst same
        obtain ⟨current, stored, -, -, ready⟩ := resumable member
        obtain rfl := Option.some.inj (stored.symm.trans found)
        exact ready
      · exact during.others.resumable other twin ⟨member, same⟩ found
    separate := by
      intro other twin third next member found stored same
      by_cases equal : other = publicationId
      · subst equal
        obtain ⟨current, own, -, destination⟩ := during.own
        obtain rfl := Option.some.inj (own.symm.trans found)
        exact during.separate member third next stored (same.trans destination)
      · exact during.others.separate other twin third next ⟨member, equal⟩ found stored same }

/-- Resuming any publication keeps the scope secured, and finishes one of the scope. -/
theorem resumePublication_secured (now : UtcTime) (secured : Secured settings scope disk)
    (found : disk.publications publicationId = some record) :
    Meets (resumePublication settings now publicationId record) disk (Secured settings scope)
      (fun manifest later => Finished later publicationId record manifest)
      fun _ _ => ¬ scope.publications publicationId := by
  have meets := resumePublication_meets now DuringPublication.kept (secured.during found) found
  refine meets.mono ?_ (fun _ _ => id) ?_
  · intro later advances
    refine advances.holds.secured fun member => ?_
    exact advances.resumable (secured.resumable publicationId record member found)
  · intro _ _ failed member
    exact failed (secured.resumable publicationId record member found)

theorem recoverPublication_meets (now : UtcTime) (secured : Secured settings scope disk) :
    Meets (recoverPublication settings now publicationId) disk (Secured settings scope)
      (fun _ later => scope.recorded publicationId → ∃ record manifest,
        later.publications publicationId = some record ∧ record.state = .committed manifest)
      fun _ _ => ¬ scope.publications publicationId := by
  unfold recoverPublication
  cases found : disk.publications publicationId with
  | none =>
      refine Meets.looked found (Meets.pure secured ?_)
      intro member
      obtain ⟨record, stored⟩ := secured.recorded publicationId member
      cases found.symm.trans stored
  | some record =>
      refine Meets.looked found ?_
      refine Meets.bind ((resumePublication_secured now secured found).kept.mono (fun _ => id) ?_
        fun _ _ => And.left)
      rintro manifest later ⟨finished, after⟩
      exact Meets.pure after fun _ => ⟨_, manifest, finished.record, rfl⟩

end

/-! ## The turn of a batch -/

/-- The scope without a batch. -/
def Scope.withoutBatch (scope : Scope) (batchId : Identifier) : Scope :=
  { scope with batches := fun other => scope.batches other ∧ other ≠ batchId }

/-- What the turn of a batch keeps. -/
structure DuringBatch (settings : PublicationSettings) (scope : Scope) (request : BatchRequest)
    (disk : PublicationDisk) : Prop where
  others : Secured settings (scope.withoutBatch request.batchId) disk
  bundles : scope.batches request.batchId → ∀ other twin, disk.batches other = some twin →
    ∀ manifest ∈ request.bundleManifest, ∀ written ∈ twin.request.bundleManifest,
      manifest.bundleId = written.bundleId → manifest = written
  own : ∃ current, disk.batches request.batchId = some current ∧ current.request = request

section

variable {settings : PublicationSettings} {scope : Scope} {disk : PublicationDisk}
  {write : PublicationWrite} {request : BatchRequest} {record : BatchRecord}

theorem PublicationWrite.resumesBatch.about (own : write.resumesBatch request) :
    write.about = none := by
  cases write with
  | batch => rfl
  | bundle => rfl
  | event event =>
      cases event with
      | published => exact own.elim
      | batchCommitted => rfl
      | corrupted => rfl
  | linkFile => rfl
  | unlinkDestination => rfl
  | mark => rfl
  | publication => exact own.elim
  | copy => exact own.elim
  | unlinkFile => exact own.elim
  | manifest => exact own.elim
  | linkManifest => exact own.elim
  | unlinkManifest => exact own.elim

theorem PublicationWrite.resumesBatch.batchOf (own : write.resumesBatch request)
    {batchId : Identifier} (apart : batchId ≠ request.batchId) : write.batchOf ≠ some batchId := by
  intro about
  cases write with
  | batch =>
      obtain rfl := Option.some.inj about
      exact apart own.1
  | event event =>
      cases event with
      | batchCommitted committed =>
          obtain rfl := Option.some.inj about
          have asked : committed.request = request := own
          exact apart (congrArg BatchRequest.batchId asked)
      | published => cases about
      | corrupted => cases about
  | bundle => cases about
  | publication => cases about
  | copy => cases about
  | unlinkFile => cases about
  | unlinkDestination => cases about
  | manifest => cases about
  | linkManifest => cases about
  | unlinkManifest => cases about
  | linkFile => cases about
  | mark => cases about

/-- The writes of a batch are outside the rest of the scope. -/
theorem DuringBatch.outside (during : DuringBatch settings scope request disk)
    (own : write.resumesBatch request) :
    Outside (scope.withoutBatch request.batchId) disk write where
  publication _ _ _ _ := by
    rw [own.about]
    intro none
    cases none
  destination other twin member found := by
    constructor
    · intro takes
      cases write with
      | linkFile => exact own.elim
      | publication => exact takes
      | batch => exact takes
      | event => exact takes
      | copy => exact takes
      | unlinkFile => exact takes
      | unlinkDestination => exact takes
      | manifest => exact takes
      | linkManifest => exact takes
      | unlinkManifest => exact takes
      | bundle => exact takes
      | mark => exact takes
    · rintro third written rfl
      exact own.elim
  batch _ member := own.batchOf member.2
  bundle other stored member found manifest asked := by
    obtain ⟨current, kept, same⟩ := during.own
    have separate := during.others.bundles other stored request.batchId current member found kept
      manifest asked
    rw [same] at separate
    constructor
    · rintro bundleId written rfl equal
      obtain ⟨wanted, rfl⟩ := own
      exact separate written wanted equal
    · rintro third filed rfl written wanted equal
      obtain ⟨-, asked⟩ := own
      rw [asked] at wanted
      exact separate written wanted equal
  published other asked member := by
    rintro written rfl
    exact own.elim
  committed other asked member := by
    rintro stored rfl
    obtain ⟨rfl, same⟩ := own
    obtain ⟨current, kept, named⟩ := during.own
    rw [same, ← named]
    exact during.others.committed _ asked current member kept

/-- The writes of a batch keep what its turn keeps. -/
theorem DuringBatch.kept :
    KeptBy settings (PublicationWrite.resumesBatch request) (DuringBatch settings scope request) where
  sound _ during := during.others.sound
  closed disk write during own allowed := by
    have mine : ∀ other twin, write = .batch other twin → twin.request = request := by
      rintro other twin rfl
      exact own.2
    obtain ⟨current, stored, same⟩ := during.own
    constructor
    case others => exact during.others.apply allowed (during.outside own)
    case bundles =>
      intro member other twin found manifest asked written wanted equal
      rcases batches_apply found with before | filed
      · exact during.bundles member other twin before manifest asked written wanted equal
      · rw [mine other twin filed] at wanted
        rw [← same] at asked wanted
        exact during.bundles member _ current stored manifest (by rwa [same] at asked) written
          wanted equal
    case own =>
      rcases batches_kept stored with kept | ⟨written, filed, found⟩
      · exact ⟨current, kept, same⟩
      · exact ⟨written, found, mine _ written filed⟩

theorem Secured.duringBatch (secured : Secured settings scope disk)
    (found : disk.batches record.request.batchId = some record) :
    DuringBatch settings scope record.request disk where
  others :=
    { secured with
      committable := fun other twin member => secured.committable other twin member.1
      bundles := fun other twin third next member => secured.bundles other twin third next member.1 }
  bundles member other twin stored :=
    secured.bundles record.request.batchId record other twin member found stored
  own := ⟨record, found, rfl⟩

theorem DuringBatch.secured (during : DuringBatch settings scope request disk)
    (resumable : scope.batches request.batchId → BatchResumable settings disk request) :
    Secured settings scope disk := by
  obtain ⟨others, bundles, current, own, same⟩ := during
  exact
    { others with
      committable := by
        intro other twin member found
        by_cases equal : other = request.batchId
        · subst equal
          obtain rfl := Option.some.inj (own.symm.trans found)
          rw [same]
          exact resumable member
        · exact others.committable other twin ⟨member, equal⟩ found
      bundles := by
        intro other twin third next member found stored manifest asked
        by_cases equal : other = request.batchId
        · subst equal
          obtain rfl := Option.some.inj (own.symm.trans found)
          rw [same] at asked
          exact bundles member third next stored manifest asked
        · exact others.bundles other twin third next ⟨member, equal⟩ found stored manifest asked }

/-- Resuming any batch keeps the scope secured, and commits one of the scope. -/
theorem resumePublicationBatch_secured (now : UtcTime) (secured : Secured settings scope disk)
    (found : disk.batches record.request.batchId = some record) :
    Meets (resumePublicationBatch settings now record.request.batchId record) disk
      (Secured settings scope) (fun event later => BatchFinished later record.request event)
      fun _ _ => ¬ scope.batches record.request.batchId := by
  have meets := resumePublicationBatch_meets now DuringBatch.kept (secured.duringBatch found) found
  refine meets.mono ?_ (fun _ _ => id) ?_
  · intro later advances
    refine advances.holds.secured fun member => ?_
    exact (advances.resumable (secured.committable _ record member found)).2
  · intro _ _ failed member
    exact failed (secured.committable _ record member found)

theorem recoverBatch_meets (now : UtcTime) {batchId : Identifier}
    (secured : Secured settings scope disk) :
    Meets (recoverBatch settings now batchId) disk (Secured settings scope)
      (fun _ later => scope.filed batchId → ∃ record event,
        later.batches batchId = some record ∧ record.result = some event)
      fun _ _ => ¬ scope.batches batchId := by
  unfold recoverBatch
  cases found : disk.batches batchId with
  | none =>
      refine Meets.looked found (Meets.pure secured ?_)
      intro member
      obtain ⟨record, stored⟩ := secured.filed batchId member
      cases found.symm.trans stored
  | some record =>
      obtain rfl : record.request.batchId = batchId := (secured.sound.batch _ _ found).named
      refine Meets.looked found ?_
      refine Meets.bind ((resumePublicationBatch_secured now secured found).kept.mono (fun _ => id)
        ?_ fun _ _ => And.left)
      rintro event later ⟨finished, after⟩
      exact Meets.pure after fun _ => ⟨_, event, finished.record, rfl⟩

end

section

variable {settings : PublicationSettings} {scope : Scope} {disk : PublicationDisk}

/-- The removal of what no transaction owns. -/
theorem removeOrphan_meets (path : PublicPath) (secured : Secured settings scope disk) :
    Meets (removeOrphan path) disk (Secured settings scope) (fun _ _ => True)
      fun _ _ => False := by
  unfold removeOrphan
  refine Meets.looked rfl ?_
  split
  · next there =>
      cases path with
      | temporary publicationId =>
          refine Meets.looked rfl ?_
          split
          · next absent =>
              have none : disk.publications publicationId = none :=
                Option.isNone_iff_eq_none.mp absent
              have allowed : PublicationAllowed settings disk (.unlinkFile publicationId) := by
                intro record found
                cases none.symm.trans found
              have outside : Outside scope disk (.unlinkFile publicationId) := by
                constructor
                case publication =>
                  rintro other record - found about
                  obtain rfl := Option.some.inj about
                  cases none.symm.trans found
                case destination =>
                  intro _ _ _ _
                  exact ⟨fun takes => takes, fun _ _ written => by cases written⟩
                case batch =>
                  rintro _ - about
                  cases about
                case bundle =>
                  rintro _ _ - - _ -
                  constructor
                  · intro _ _ written
                    cases written
                  · intro _ _ written
                    cases written
                case published =>
                  rintro _ _ - _ written
                  cases written
                case committed =>
                  rintro _ _ - _ written
                  cases written
              exact Meets.write secured secured (secured.apply allowed outside) trivial
          · exact Meets.pure secured trivial
      | destination destination =>
          dsimp only
          split
          · next short =>
              obtain ⟨file, found⟩ := Option.isSome_iff_exists.mp there
              have lasting := secured.sound.lasting destination file found
              rw [short] at lasting
              cases lasting
          · exact Meets.pure secured trivial
  · exact Meets.pure secured trivial

/-- What is visible verifies. -/
theorem verifyPublication_quiet (sound : SoundPublications settings disk)
    {publicationId : PublicationId} (visible : publicationId ∈ disk.visiblePublications) :
    quarantine (verifyPublication settings publicationId) disk = ⟨[], .ok ()⟩ := by
  obtain ⟨event, listed, shown⟩ := List.mem_filterMap.mp (List.mem_dedup.mp visible)
  cases event with
  | batchCommitted => cases shown
  | corrupted => cases shown
  | published manifest request =>
      have there : (disk.visible? manifest.publicationId).isSome = true ∧
          manifest.publicationId = publicationId := by
        dsimp only at shown
        cases found : disk.visible? manifest.publicationId with
        | none =>
            rw [found] at shown
            cases shown
        | some seen =>
            rw [found] at shown
            exact ⟨rfl, Option.some.inj shown⟩
      obtain ⟨there, rfl⟩ := there
      have pair : (manifest, request) ∈ disk.publicationsOf manifest.publicationId :=
        List.mem_filterMap.mpr ⟨_, listed, if_pos rfl⟩
      cases opened : disk.gateOpen manifest request with
      | false =>
          rw [(sound.hidden pair opened).1] at there
          cases there
      | true =>
          obtain ⟨record, other, event, published⟩ := sound.published pair
          have single := published.event
          rw [← event] at single
          have seen : disk.visible? manifest.publicationId = some manifest := by
            rw [PublicationDisk.visible?_eq single]
            exact if_pos opened
          obtain ⟨rfl, -⟩ := Prod.mk.inj event
          unfold quarantine Script.rescue verifyPublication
          rw [Script.run_read, seen]
          dsimp only
          rw [Script.run_read, published.verified]
          rfl

end

end DesignHarness
