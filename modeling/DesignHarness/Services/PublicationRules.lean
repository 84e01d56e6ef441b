import DesignHarness.Services.Publications

/-!
# What the writes of publications keep

How far a publication has come shows in its record, its events, its copy, its destination and its
manifest; `PublicationPhase` says which combinations there are.  A write about another publication changes
none of them (`SameView`), except that it may take a destination nobody has taken yet.
`SoundPublications` collects the phases of all publications and batches; every allowed write keeps
it.
-/

namespace DesignHarness

open Library AssetService

/-! ## Phases -/

/-- The manifest describes the publication of the record. -/
structure Describes (settings : PublicationSettings) (publicationId : PublicationId)
    (record : PublicationRecord) (manifest : PublicationManifest) : Prop where
  named : manifest.publicationId = publicationId
  producer : manifest.producerInstanceId = record.request.instanceId
  destination : manifest.destination = record.destination
  mimeType : settings.detectMime manifest.content record.destination.suffix = manifest.mimeType

/-- The file is at its destination. -/
def Placed (disk : PublicationDisk) (destination : Destination) (content : Blob) : Prop :=
  ∃ number, disk.files (.destination destination) = some ⟨number, content⟩

/-- The publication has its event, its file and its manifest. -/
structure Published (settings : PublicationSettings) (disk : PublicationDisk)
    (publicationId : PublicationId) (record : PublicationRecord)
    (manifest : PublicationManifest) : Prop where
  describes : Describes settings publicationId record manifest
  event : disk.publicationsOf publicationId = [(manifest, record.request)]
  file : Placed disk record.destination manifest.content
  manifest : ∃ number, disk.manifests (.manifest publicationId) = some ⟨number, manifest⟩

/-- The publication has its copy, and of its manifest what the record prepares. -/
structure Pending (settings : PublicationSettings) (disk : PublicationDisk)
    (publicationId : PublicationId) (record : PublicationRecord) (content : Blob)
    (mimeType : String) (prepared : Option PublicationManifest) : Prop where
  mimeType : settings.detectMime content record.destination.suffix = mimeType
  event : disk.publicationsOf publicationId = []
  copy : ∃ number, disk.files (.temporary publicationId) = some ⟨number, content⟩
  ready : ∀ manifest ∈ prepared, Describes settings publicationId record manifest ∧
    manifest.content = content ∧ Placed disk record.destination content
  manifest : ∀ file ∈ disk.manifests (.manifest publicationId),
    disk.manifests (.temporary publicationId) = some file ∧ prepared = some file.content

def PublicationPhase (settings : PublicationSettings) (disk : PublicationDisk)
    (publicationId : PublicationId) (record : PublicationRecord) : Prop :=
  match record.state with
  | .prepared => disk.publicationsOf publicationId = [] ∧
      disk.manifests (.manifest publicationId) = none
  | .copied content mimeType prepared =>
      Pending settings disk publicationId record content mimeType prepared ∨
        ∃ manifest, Published settings disk publicationId record manifest
  | .committed manifest => Published settings disk publicationId record manifest

/-- The record belongs to its publication. -/
structure Belongs (publicationId : PublicationId) (record : PublicationRecord) : Prop where
  instanceId : record.request.instanceId = publicationId.instanceId
  destination : record.destination = destinationOf publicationId record.request
  lasting : record.destination.lasting = true

/-- Every asset of the batch is published in it. -/
def Grounded (disk : PublicationDisk) (request : BatchRequest) : Prop :=
  ∀ item ∈ request.assets, ∃ manifest publication,
    disk.publicationsOf item.publicationId = [(manifest, publication)] ∧
      publication.batchId = some request.batchId ∧ manifest.content.sha256 = item.sha256 ∧
      manifest.producerInstanceId = request.instanceId

/-- The event commits the batch of the request. -/
structure Commits (disk : PublicationDisk) (request : BatchRequest) (event : BatchEvent) :
    Prop where
  asked : event.request = request
  listed : event.assetIds = request.assets.map BatchAsset.publicationId
  grounded : Grounded disk request
  bundle : ∀ manifest ∈ request.bundleManifest, disk.bundles manifest.bundleId = some manifest

/-- The journal has at most the one event of a batch, once the record has it exactly that. -/
structure BatchPhase (disk : PublicationDisk) (batchId : Identifier) (record : BatchRecord) :
    Prop where
  named : record.request.batchId = batchId
  events : (disk.batchesOf batchId = [] ∧ record.result = none) ∨
    ∃ event, disk.batchesOf batchId = [event] ∧ Commits disk record.request event ∧
      ∀ result ∈ record.result, result = event

structure SoundPublications (settings : PublicationSettings) (disk : PublicationDisk) : Prop where
  belongs : ∀ publicationId record, disk.publications publicationId = some record →
    Belongs publicationId record
  phase : ∀ publicationId record, disk.publications publicationId = some record →
    PublicationPhase settings disk publicationId record
  unpublished : ∀ publicationId, disk.publications publicationId = none →
    disk.publicationsOf publicationId = [] ∧ disk.manifests (.manifest publicationId) = none
  batch : ∀ batchId record, disk.batches batchId = some record → BatchPhase disk batchId record
  unbatched : ∀ batchId, disk.batches batchId = none → disk.batchesOf batchId = []
  lasting : ∀ destination file, disk.files (.destination destination) = some file →
    destination.lasting = true
  numbered : ∀ path file, disk.files path = some file → file.number < disk.created
  shared : ∀ path other file twin, disk.files path = some file → disk.files other = some twin →
    file.number = twin.number → file.content = twin.content

/-- The publication has the same event and manifest on both disks, and no destination changes that
    was taken. -/
structure SameResult (publicationId : PublicationId) (disk later : PublicationDisk) : Prop where
  events : later.publicationsOf publicationId = disk.publicationsOf publicationId
  manifest : later.manifests (.manifest publicationId) = disk.manifests (.manifest publicationId)
  placed : ∀ destination file, disk.files (.destination destination) = some file →
    later.files (.destination destination) = some file

/-- The publication looks the same on both disks. -/
structure SameView (publicationId : PublicationId) (disk later : PublicationDisk) : Prop
    extends SameResult publicationId disk later where
  copy : later.files (.temporary publicationId) = disk.files (.temporary publicationId)
  manifestCopy : later.manifests (.temporary publicationId) =
    disk.manifests (.temporary publicationId)

section

variable {settings : PublicationSettings} {disk later : PublicationDisk}
  {publicationId : PublicationId} {record : PublicationRecord} {manifest : PublicationManifest}

theorem SameView.refl : SameView publicationId disk disk :=
  ⟨⟨rfl, rfl, fun _ _ => id⟩, rfl, rfl⟩

theorem Placed.result {destination : Destination} {content : Blob}
    (placed : Placed disk destination content) (same : SameResult publicationId disk later) :
    Placed later destination content := by
  obtain ⟨number, found⟩ := placed
  exact ⟨number, same.placed _ _ found⟩

theorem Published.result (published : Published settings disk publicationId record manifest)
    (same : SameResult publicationId disk later) :
    Published settings later publicationId record manifest where
  describes := published.describes
  event := same.events.trans published.event
  file := published.file.result same
  manifest := by
    rw [same.manifest]
    exact published.manifest

theorem Pending.view {content : Blob} {mimeType : String} {prepared : Option PublicationManifest}
    (pending : Pending settings disk publicationId record content mimeType prepared)
    (view : SameView publicationId disk later) :
    Pending settings later publicationId record content mimeType prepared where
  mimeType := pending.mimeType
  event := view.events.trans pending.event
  copy := by
    rw [view.copy]
    exact pending.copy
  ready := by
    intro manifest member
    obtain ⟨describes, content, placed⟩ := pending.ready manifest member
    exact ⟨describes, content, placed.result view.toSameResult⟩
  manifest := by
    rw [view.manifest, view.manifestCopy]
    exact pending.manifest

theorem PublicationPhase.view (phase : PublicationPhase settings disk publicationId record)
    (view : SameView publicationId disk later) :
    PublicationPhase settings later publicationId record := by
  unfold PublicationPhase at phase ⊢
  cases state : record.state with
  | prepared =>
      rw [state] at phase
      exact ⟨view.events.trans phase.1, view.manifest.trans phase.2⟩
  | copied content mimeType prepared =>
      rw [state] at phase
      rcases phase with pending | ⟨manifest, published⟩
      · exact .inl (pending.view view)
      · exact .inr ⟨manifest, published.result view.toSameResult⟩
  | committed manifest =>
      rw [state] at phase
      exact Published.result phase view.toSameResult

end

/-- The writes of the operations: what each finds on the disk. -/
def PublicationAllowed (settings : PublicationSettings) (disk : PublicationDisk) :
    PublicationWrite → Prop
  | .publication publicationId record =>
      Belongs publicationId record ∧ PublicationPhase settings disk publicationId record ∧
        ∀ stored manifest, disk.publications publicationId = some stored →
          stored.state ≠ .committed manifest
  | .batch batchId record => BatchPhase disk batchId record ∧
      ∀ stored, disk.batches batchId = some stored → stored.result = none
  | .event (.published manifest request) => ∃ record content mimeType prepared,
      disk.publications manifest.publicationId = some record ∧ record.request = request ∧
        record.state = .copied content mimeType prepared ∧
        disk.publicationsOf manifest.publicationId = [] ∧
        Describes settings manifest.publicationId record manifest ∧
        Placed disk record.destination manifest.content ∧
        ∃ number, disk.manifests (.manifest manifest.publicationId) = some ⟨number, manifest⟩
  | .event (.batchCommitted event) => ∃ record,
      disk.batches event.request.batchId = some record ∧ record.result = none ∧
        disk.batchesOf event.request.batchId = [] ∧ Commits disk record.request event
  | .event (.corrupted _) => True
  | .copy publicationId _ | .unlinkFile publicationId => ∀ record,
      disk.publications publicationId = some record → record.state = .prepared ∨
        ∃ manifest, record.state = .committed manifest
  | .linkFile publicationId destination =>
      disk.files (.destination destination) = none ∧ ∃ record,
        disk.publications publicationId = some record ∧ record.destination = destination
  | .manifest publicationId _ | .unlinkManifest publicationId => ∀ record,
      disk.publications publicationId = some record →
        disk.manifests (.manifest publicationId) = none ∨
          ∃ manifest, record.state = .committed manifest
  | .linkManifest publicationId =>
      disk.manifests (.manifest publicationId) = none ∧ ∃ record content mimeType manifest number,
        disk.publications publicationId = some record ∧
          record.state = .copied content mimeType (some manifest) ∧
          disk.publicationsOf publicationId = [] ∧
          disk.manifests (.temporary publicationId) = some ⟨number, manifest⟩
  | .unlinkDestination destination => disk.files (.destination destination) = none
  | .bundle bundleId _ => disk.bundles bundleId = none
  | .mark _ => True

/-- The publication that a write is about; a link at a free destination shows in none. -/
def PublicationWrite.about : PublicationWrite → Option PublicationId
  | .publication publicationId _ => some publicationId
  | .event (.published asset _) => some asset.publicationId
  | .copy publicationId _ => some publicationId
  | .unlinkFile publicationId => some publicationId
  | .manifest publicationId _ => some publicationId
  | .linkManifest publicationId => some publicationId
  | .unlinkManifest publicationId => some publicationId
  | _ => none

/-- The batch that a write is about. -/
def PublicationWrite.batchOf : PublicationWrite → Option Identifier
  | .batch batchId _ => some batchId
  | .event (.batchCommitted committed) => some committed.request.batchId
  | _ => none

/-! ## Where a write goes -/

namespace PublicationDisk

variable {disk : PublicationDisk} {publicationId : PublicationId} {batchId : Identifier}

theorem publications_publication {record : PublicationRecord} :
    (Disk.apply disk (.publication publicationId record)).publications publicationId =
      some record := by
  change Function.update disk.publications publicationId (some record) publicationId = _
  exact Function.update_self _ _ _

theorem batches_batch {record : BatchRecord} :
    (Disk.apply disk (.batch batchId record)).batches batchId = some record := by
  change Function.update disk.batches batchId (some record) batchId = _
  exact Function.update_self _ _ _

theorem files_copy {content : Blob} :
    (Disk.apply disk (.copy publicationId content)).files (.temporary publicationId) =
      some ⟨disk.created, content⟩ := by
  change Function.update disk.files _ (some _) _ = _
  exact Function.update_self _ _ _

theorem files_linkFile {destination : Destination} :
    (Disk.apply disk (.linkFile publicationId destination)).files (.destination destination) =
      disk.files (.temporary publicationId) := by
  change Function.update disk.files _ _ _ = _
  exact Function.update_self _ _ _

theorem files_unlinkFile :
    (Disk.apply disk (.unlinkFile publicationId)).files (.temporary publicationId) = none := by
  change Function.update disk.files _ _ _ = _
  exact Function.update_self _ _ _

theorem files_unlinkDestination {destination : Destination} :
    (Disk.apply disk (.unlinkDestination destination)).files (.destination destination) = none := by
  change Function.update disk.files _ _ _ = _
  exact Function.update_self _ _ _

theorem manifests_manifest {manifest : PublicationManifest} :
    (Disk.apply disk (.manifest publicationId manifest)).manifests (.temporary publicationId) =
      some ⟨disk.created, manifest⟩ := by
  change Function.update disk.manifests _ (some _) _ = _
  exact Function.update_self _ _ _

theorem manifests_linkManifest :
    (Disk.apply disk (.linkManifest publicationId)).manifests (.manifest publicationId) =
      disk.manifests (.temporary publicationId) := by
  change Function.update disk.manifests _ _ _ = _
  exact Function.update_self _ _ _

theorem manifests_unlinkManifest :
    (Disk.apply disk (.unlinkManifest publicationId)).manifests (.temporary publicationId) =
      none := by
  change Function.update disk.manifests _ _ _ = _
  exact Function.update_self _ _ _

theorem bundles_bundle {bundleId : Identifier} {manifest : BundleManifest} :
    (Disk.apply disk (.bundle bundleId manifest)).bundles bundleId = some manifest := by
  change Function.update disk.bundles bundleId (some manifest) bundleId = _
  exact Function.update_self _ _ _

theorem publicationsOf_append {event : PublicationEvent} :
    ({ disk with events := disk.events ++ [event] } : PublicationDisk).publicationsOf
        publicationId =
      disk.publicationsOf publicationId ++
        (PublicationEvent.publishes publicationId event).toList := by
  unfold publicationsOf
  rw [List.filterMap_append]
  cases found : PublicationEvent.publishes publicationId event with
  | none => simp [found]
  | some pair => simp [found]

theorem batchesOf_append {event : PublicationEvent} :
    ({ disk with events := disk.events ++ [event] } : PublicationDisk).batchesOf batchId =
      disk.batchesOf batchId ++ (PublicationEvent.commits batchId event).toList := by
  unfold batchesOf
  rw [List.filterMap_append]
  cases found : PublicationEvent.commits batchId event with
  | none => simp [found]
  | some batch => simp [found]

end PublicationDisk

section

variable {settings : PublicationSettings} {disk : PublicationDisk} {write : PublicationWrite}
  {publicationId : PublicationId} {batchId : Identifier}

/-- A destination stays taken. -/
theorem PublicationAllowed.placed (allowed : PublicationAllowed settings disk write)
    {destination : Destination} {file : StoredFile Blob}
    (found : disk.files (.destination destination) = some file) :
    (Disk.apply disk write).files (.destination destination) = some file := by
  cases write with
  | linkFile other target =>
      have apart : PublicPath.destination destination ≠ .destination target := by
        rintro same
        obtain rfl := PublicPath.destination.inj same
        cases found.symm.trans allowed.1
      exact Eq.trans (Function.update_of_ne apart _ _) found
  | unlinkDestination target =>
      have apart : PublicPath.destination destination ≠ .destination target := by
        rintro same
        obtain rfl := PublicPath.destination.inj same
        cases found.symm.trans allowed
      exact Eq.trans (Function.update_of_ne apart _ _) found
  | copy => exact found
  | unlinkFile => exact found
  | publication => exact found
  | batch => exact found
  | event => exact found
  | manifest => exact found
  | linkManifest => exact found
  | unlinkManifest => exact found
  | bundle => exact found
  | mark => exact found

/-- A write about something else leaves the publication as it is. -/
theorem PublicationAllowed.view (allowed : PublicationAllowed settings disk write)
    (apart : write.about ≠ some publicationId) :
    SameView publicationId disk (Disk.apply disk write) := by
  have placed : ∀ destination file, disk.files (.destination destination) = some file →
      (Disk.apply disk write).files (.destination destination) = some file :=
    fun destination file found => allowed.placed found
  have base : SameView publicationId disk disk := SameView.refl
  cases write with
  | batch => exact { base with placed := placed }
  | bundle => exact { base with placed := placed }
  | mark => exact { base with placed := placed }
  | publication => exact { base with placed := placed }
  | event event =>
      have events : (Disk.apply disk (.event event)).publicationsOf publicationId =
          disk.publicationsOf publicationId := ?_
      · exact { base with events := events, placed := placed }
      refine PublicationDisk.publicationsOf_append.trans ?_
      cases event with
      | published manifest request =>
          have different : manifest.publicationId ≠ publicationId :=
            fun same => apart (congrArg some same)
          rw [PublicationEvent.publishes, if_neg different]
          exact List.append_nil _
      | batchCommitted => exact List.append_nil _
      | corrupted => exact List.append_nil _
  | copy other content =>
      have different : publicationId ≠ other := fun same => apart (congrArg some same.symm)
      have path : PublicPath.temporary publicationId ≠ .temporary other := by simpa using different
      exact { base with copy := Function.update_of_ne path _ _, placed := placed }
  | unlinkFile other =>
      have different : publicationId ≠ other := fun same => apart (congrArg some same.symm)
      have path : PublicPath.temporary publicationId ≠ .temporary other := by simpa using different
      exact { base with copy := Function.update_of_ne path _ _, placed := placed }
  | linkFile => exact { base with copy := rfl, placed := placed }
  | unlinkDestination => exact { base with copy := rfl, placed := placed }
  | manifest other manifest =>
      have different : publicationId ≠ other := fun same => apart (congrArg some same.symm)
      have path : ManifestPath.temporary publicationId ≠ .temporary other := by
        simpa using different
      exact
        { base with
          manifest := rfl
          manifestCopy := Function.update_of_ne path _ _
          placed := placed }
  | unlinkManifest other =>
      have different : publicationId ≠ other := fun same => apart (congrArg some same.symm)
      have path : ManifestPath.temporary publicationId ≠ .temporary other := by
        simpa using different
      exact
        { base with
          manifest := rfl
          manifestCopy := Function.update_of_ne path _ _
          placed := placed }
  | linkManifest other =>
      have different : publicationId ≠ other := fun same => apart (congrArg some same.symm)
      have path : ManifestPath.manifest publicationId ≠ .manifest other := by simpa using different
      exact
        { base with
          manifest := Function.update_of_ne path _ _
          manifestCopy := rfl
          placed := placed }

theorem PublicationAllowed.record (allowed : PublicationAllowed settings disk write)
    (apart : write.about ≠ some publicationId) :
    (Disk.apply disk write).publications publicationId = disk.publications publicationId := by
  cases write with
  | publication other record =>
      have different : publicationId ≠ other := fun same => apart (congrArg some same.symm)
      exact Function.update_of_ne different _ _
  | batch => rfl
  | bundle => rfl
  | mark => rfl
  | event => rfl
  | copy => rfl
  | unlinkFile => rfl
  | linkFile => rfl
  | unlinkDestination => rfl
  | manifest => rfl
  | unlinkManifest => rfl
  | linkManifest => rfl

/-- A publication event stays the only one of its publication. -/
theorem PublicationAllowed.single (allowed : PublicationAllowed settings disk write)
    {pair : PublicationManifest × PublicationRequest}
    (found : disk.publicationsOf publicationId = [pair]) :
    (Disk.apply disk write).publicationsOf publicationId = [pair] := by
  by_cases about : write.about = some publicationId
  · cases write with
    | event event =>
        cases event with
        | published manifest request =>
            obtain rfl : manifest.publicationId = publicationId := Option.some.inj about
            obtain ⟨record, content, mimeType, prepared, -, -, -, none, -⟩ := allowed
            cases none.symm.trans found
        | batchCommitted => cases about
        | corrupted => cases about
    | publication => exact found
    | batch => exact found
    | bundle => exact found
    | mark => exact found
    | copy => exact found
    | unlinkFile => exact found
    | linkFile => exact found
    | unlinkDestination => exact found
    | manifest => exact found
    | unlinkManifest => exact found
    | linkManifest => exact found
  · exact (allowed.view about).events.trans found

theorem PublicationAllowed.bundle (allowed : PublicationAllowed settings disk write)
    {bundleId : Identifier} {manifest : BundleManifest}
    (found : disk.bundles bundleId = some manifest) :
    (Disk.apply disk write).bundles bundleId = some manifest := by
  cases write with
  | bundle other written =>
      have different : bundleId ≠ other := by
        rintro rfl
        cases found.symm.trans allowed
      exact (Function.update_of_ne different _ _).trans found
  | publication => exact found
  | batch => exact found
  | mark => exact found
  | event => exact found
  | copy => exact found
  | unlinkFile => exact found
  | linkFile => exact found
  | unlinkDestination => exact found
  | manifest => exact found
  | unlinkManifest => exact found
  | linkManifest => exact found

theorem PublicationAllowed.batches (allowed : PublicationAllowed settings disk write)
    (apart : write.batchOf ≠ some batchId) :
    (Disk.apply disk write).batches batchId = disk.batches batchId ∧
      (Disk.apply disk write).batchesOf batchId = disk.batchesOf batchId := by
  cases write with
  | batch other record =>
      have different : batchId ≠ other := fun same => apart (congrArg some same.symm)
      exact ⟨Function.update_of_ne different _ _, rfl⟩
  | event event =>
      refine ⟨rfl, PublicationDisk.batchesOf_append.trans ?_⟩
      cases event with
      | batchCommitted event =>
          have different : event.request.batchId ≠ batchId := fun same => apart (congrArg some same)
          rw [PublicationEvent.commits, if_neg different]
          exact List.append_nil _
      | published => exact List.append_nil _
      | corrupted => exact List.append_nil _
  | publication => exact ⟨rfl, rfl⟩
  | bundle => exact ⟨rfl, rfl⟩
  | mark => exact ⟨rfl, rfl⟩
  | copy => exact ⟨rfl, rfl⟩
  | unlinkFile => exact ⟨rfl, rfl⟩
  | linkFile => exact ⟨rfl, rfl⟩
  | unlinkDestination => exact ⟨rfl, rfl⟩
  | manifest => exact ⟨rfl, rfl⟩
  | unlinkManifest => exact ⟨rfl, rfl⟩
  | linkManifest => exact ⟨rfl, rfl⟩

theorem Commits.apply {request : BatchRequest} {event : BatchEvent}
    (commits : Commits disk request event) (allowed : PublicationAllowed settings disk write) :
    Commits (Disk.apply disk write) request event where
  asked := commits.asked
  listed := commits.listed
  grounded item member := by
    obtain ⟨manifest, publication, found, rest⟩ := commits.grounded item member
    exact ⟨manifest, publication, allowed.single found, rest⟩
  bundle manifest member := allowed.bundle (commits.bundle manifest member)

section

variable {later : PublicationDisk} {record : PublicationRecord}

/-- The phase does not change with a copy that nothing relies on yet or any more. -/
theorem PublicationPhase.recopied (phase : PublicationPhase settings disk publicationId record)
    (same : SameResult publicationId disk later)
    (state : record.state = .prepared ∨ ∃ manifest, record.state = .committed manifest) :
    PublicationPhase settings later publicationId record := by
  unfold PublicationPhase at phase ⊢
  rcases state with prepared | ⟨manifest, committed⟩
  · rw [prepared] at phase ⊢
    exact ⟨same.events.trans phase.1, same.manifest.trans phase.2⟩
  · rw [committed] at phase ⊢
    exact Published.result phase same

/-- Nor with the copy of a manifest that is not placed yet. -/
theorem PublicationPhase.remade (phase : PublicationPhase settings disk publicationId record)
    (same : SameResult publicationId disk later)
    (copy : later.files (.temporary publicationId) = disk.files (.temporary publicationId))
    (state : disk.manifests (.manifest publicationId) = none ∨
      ∃ manifest, record.state = .committed manifest) :
    PublicationPhase settings later publicationId record := by
  rcases state with unplaced | committed
  · unfold PublicationPhase at phase ⊢
    cases state : record.state with
    | prepared =>
        rw [state] at phase
        exact ⟨same.events.trans phase.1, same.manifest.trans phase.2⟩
    | copied content mimeType prepared =>
        rw [state] at phase
        rcases phase with pending | ⟨manifest, published⟩
        · left
          constructor
          case mimeType => exact pending.mimeType
          case event => exact same.events.trans pending.event
          case copy =>
            rw [copy]
            exact pending.copy
          case ready =>
            intro manifest member
            obtain ⟨describes, content, placed⟩ := pending.ready manifest member
            exact ⟨describes, content, placed.result same⟩
          case manifest =>
            rw [same.manifest, unplaced]
            intro file member
            cases member
        · exact .inr ⟨manifest, published.result same⟩
    | committed manifest =>
        rw [state] at phase
        exact Published.result phase same
  · exact phase.recopied same (.inr committed)

end

/-- The phase of the publication that the write is about. -/
theorem PublicationAllowed.phase (allowed : PublicationAllowed settings disk write)
    (about : write.about = some publicationId) {record : PublicationRecord}
    (phase : ∀ record, disk.publications publicationId = some record →
      PublicationPhase settings disk publicationId record)
    (found : (Disk.apply disk write).publications publicationId = some record) :
    PublicationPhase settings (Disk.apply disk write) publicationId record := by
  have placed : ∀ destination file, disk.files (.destination destination) = some file →
      (Disk.apply disk write).files (.destination destination) = some file :=
    fun destination file found => allowed.placed found
  cases write with
  | publication other written =>
      obtain rfl : other = publicationId := Option.some.inj about
      obtain rfl := Option.some.inj (PublicationDisk.publications_publication.symm.trans found)
      exact allowed.2.1.view ⟨⟨rfl, rfl, placed⟩, rfl, rfl⟩
  | event event =>
      cases event with
      | published manifest request =>
          obtain rfl : manifest.publicationId = publicationId := Option.some.inj about
          obtain ⟨stored, content, mimeType, prepared, same, asked, state, fresh, describes, file,
            made⟩ := allowed
          obtain rfl := Option.some.inj (same.symm.trans found)
          unfold PublicationPhase
          rw [state]
          refine .inr ⟨manifest, describes, ?_, file, made⟩
          refine PublicationDisk.publicationsOf_append.trans ?_
          rw [fresh, PublicationEvent.publishes, if_pos rfl, asked]
          rfl
      | batchCommitted => cases about
      | corrupted => cases about
  | copy other content =>
      obtain rfl : other = publicationId := Option.some.inj about
      exact (phase record found).recopied ⟨rfl, rfl, placed⟩ (allowed record found)
  | unlinkFile other =>
      obtain rfl : other = publicationId := Option.some.inj about
      exact (phase record found).recopied ⟨rfl, rfl, placed⟩ (allowed record found)
  | manifest other manifest =>
      obtain rfl : other = publicationId := Option.some.inj about
      exact (phase record found).remade ⟨rfl, rfl, placed⟩ rfl (allowed record found)
  | unlinkManifest other =>
      obtain rfl : other = publicationId := Option.some.inj about
      exact (phase record found).remade ⟨rfl, rfl, placed⟩ rfl (allowed record found)
  | linkManifest other =>
      obtain rfl : other = publicationId := Option.some.inj about
      obtain ⟨unplaced, stored, content, mimeType, manifest, number, same, state, fresh, copy⟩ :=
        allowed
      obtain rfl := Option.some.inj (same.symm.trans found)
      have before := phase stored same
      unfold PublicationPhase at before ⊢
      rw [state] at before ⊢
      rcases before with pending | ⟨published, event⟩
      · left
        constructor
        case mimeType => exact pending.mimeType
        case event => exact pending.event
        case copy => exact pending.copy
        case ready => exact pending.ready
        case manifest =>
          intro file member
          have linked : some ⟨number, manifest⟩ = some file :=
            copy.symm.trans (PublicationDisk.manifests_linkManifest.symm.trans member)
          obtain rfl := Option.some.inj linked
          exact ⟨copy, rfl⟩
      · cases fresh.symm.trans event.event
  | batch => cases about
  | linkFile => cases about
  | unlinkDestination => cases about
  | bundle => cases about
  | mark => cases about

/-! ## Every allowed write keeps the disk sound -/

theorem SoundPublications.unpublished_apply (sound : SoundPublications settings disk)
    (allowed : PublicationAllowed settings disk write)
    (absent : (Disk.apply disk write).publications publicationId = none) :
    (Disk.apply disk write).publicationsOf publicationId = [] ∧
      (Disk.apply disk write).manifests (.manifest publicationId) = none := by
  by_cases about : write.about = some publicationId
  · cases write with
    | publication other record =>
        obtain rfl : other = publicationId := Option.some.inj about
        cases PublicationDisk.publications_publication.symm.trans absent
    | event event =>
        cases event with
        | published manifest request =>
            obtain rfl : manifest.publicationId = publicationId := Option.some.inj about
            obtain ⟨record, content, mimeType, prepared, found, -⟩ := allowed
            cases found.symm.trans absent
        | batchCommitted => cases about
        | corrupted => cases about
    | linkManifest other =>
        obtain rfl : other = publicationId := Option.some.inj about
        obtain ⟨-, record, content, mimeType, manifest, number, found, -⟩ := allowed
        cases found.symm.trans absent
    | copy => exact sound.unpublished _ absent
    | unlinkFile => exact sound.unpublished _ absent
    | manifest => exact sound.unpublished _ absent
    | unlinkManifest => exact sound.unpublished _ absent
    | batch => cases about
    | linkFile => cases about
    | unlinkDestination => cases about
    | bundle => cases about
    | mark => cases about
  · have before := sound.unpublished publicationId ((allowed.record about).symm.trans absent)
    have view := allowed.view about
    exact ⟨view.events.trans before.1, view.manifest.trans before.2⟩

theorem SoundPublications.batch_apply (sound : SoundPublications settings disk)
    (allowed : PublicationAllowed settings disk write) {record : BatchRecord}
    (found : (Disk.apply disk write).batches batchId = some record) :
    BatchPhase (Disk.apply disk write) batchId record := by
  by_cases about : write.batchOf = some batchId
  · cases write with
    | batch other written =>
        obtain rfl : other = batchId := Option.some.inj about
        obtain rfl := Option.some.inj (PublicationDisk.batches_batch.symm.trans found)
        obtain ⟨⟨named, events⟩, -⟩ := id allowed
        refine ⟨named, events.imp_right ?_⟩
        rintro ⟨event, one, commits, result⟩
        exact ⟨event, one, commits.apply allowed, result⟩
    | event event =>
        cases event with
        | batchCommitted event =>
            obtain rfl : event.request.batchId = batchId := Option.some.inj about
            obtain ⟨stored, same, pending, fresh, commits⟩ := id allowed
            obtain rfl := Option.some.inj (same.symm.trans found)
            refine ⟨(sound.batch _ _ same).named, .inr ⟨event, ?_, commits.apply allowed, ?_⟩⟩
            · refine PublicationDisk.batchesOf_append.trans ?_
              rw [fresh, PublicationEvent.commits, if_pos rfl]
              rfl
            · rw [pending]
              intro result member
              cases member
        | published => cases about
        | corrupted => cases about
    | publication => cases about
    | copy => cases about
    | unlinkFile => cases about
    | manifest => cases about
    | unlinkManifest => cases about
    | linkManifest => cases about
    | linkFile => cases about
    | unlinkDestination => cases about
    | bundle => cases about
    | mark => cases about
  · obtain ⟨records, events⟩ := allowed.batches about
    obtain ⟨named, phases⟩ := sound.batch batchId record (records.symm.trans found)
    refine ⟨named, phases.imp ?_ ?_⟩
    · rintro ⟨none, pending⟩
      exact ⟨events.trans none, pending⟩
    · rintro ⟨event, one, commits, result⟩
      exact ⟨event, events.trans one, commits.apply allowed, result⟩

theorem SoundPublications.unbatched_apply (sound : SoundPublications settings disk)
    (allowed : PublicationAllowed settings disk write)
    (absent : (Disk.apply disk write).batches batchId = none) :
    (Disk.apply disk write).batchesOf batchId = [] := by
  by_cases about : write.batchOf = some batchId
  · cases write with
    | batch other record =>
        obtain rfl : other = batchId := Option.some.inj about
        cases PublicationDisk.batches_batch.symm.trans absent
    | event event =>
        cases event with
        | batchCommitted event =>
            obtain rfl : event.request.batchId = batchId := Option.some.inj about
            obtain ⟨record, found, -⟩ := allowed
            cases found.symm.trans absent
        | published => cases about
        | corrupted => cases about
    | publication => cases about
    | copy => cases about
    | unlinkFile => cases about
    | manifest => cases about
    | unlinkManifest => cases about
    | linkManifest => cases about
    | linkFile => cases about
    | unlinkDestination => cases about
    | bundle => cases about
    | mark => cases about
  · obtain ⟨records, events⟩ := allowed.batches about
    exact events.trans (sound.unbatched batchId (records.symm.trans absent))

/-- A destination that is taken has a record, or was taken before. -/
theorem PublicationAllowed.destination (allowed : PublicationAllowed settings disk write)
    {destination : Destination} {file : StoredFile Blob}
    (found : (Disk.apply disk write).files (.destination destination) = some file) :
    disk.files (.destination destination) = some file ∨ ∃ publicationId record,
      disk.publications publicationId = some record ∧ record.destination = destination := by
  cases write with
  | linkFile other target =>
      by_cases same : destination = target
      · obtain ⟨-, record, stored, asked⟩ := allowed
        exact .inr ⟨other, record, stored, asked.trans same.symm⟩
      · have apart : PublicPath.destination destination ≠ .destination target := by
          simpa using same
        exact .inl ((Function.update_of_ne apart _ _).symm.trans found)
  | unlinkDestination target =>
      by_cases same : destination = target
      · subst same
        cases PublicationDisk.files_unlinkDestination.symm.trans found
      · have apart : PublicPath.destination destination ≠ .destination target := by
          simpa using same
        exact .inl ((Function.update_of_ne apart _ _).symm.trans found)
  | copy => exact .inl found
  | unlinkFile => exact .inl found
  | publication => exact .inl found
  | batch => exact .inl found
  | event => exact .inl found
  | manifest => exact .inl found
  | linkManifest => exact .inl found
  | unlinkManifest => exact .inl found
  | bundle => exact .inl found
  | mark => exact .inl found

/-- A file of the later disk is a file of the earlier one, or the new copy. -/
theorem files_apply {path : PublicPath} {file : StoredFile Blob}
    (found : (Disk.apply disk write).files path = some file) :
    (∃ before, disk.files before = some file) ∨
      ∃ publicationId content, write = .copy publicationId content ∧
        path = .temporary publicationId ∧ file = ⟨disk.created, content⟩ := by
  cases write with
  | copy publicationId content =>
      by_cases same : path = .temporary publicationId
      · subst same
        obtain rfl := Option.some.inj (PublicationDisk.files_copy.symm.trans found)
        exact .inr ⟨publicationId, content, rfl, rfl, rfl⟩
      · exact .inl ⟨path, (Function.update_of_ne same _ _).symm.trans found⟩
  | linkFile publicationId destination =>
      by_cases same : path = .destination destination
      · subst same
        exact .inl ⟨.temporary publicationId, PublicationDisk.files_linkFile.symm.trans found⟩
      · exact .inl ⟨path, (Function.update_of_ne same _ _).symm.trans found⟩
  | unlinkFile publicationId =>
      by_cases same : path = .temporary publicationId
      · subst same
        cases PublicationDisk.files_unlinkFile.symm.trans found
      · exact .inl ⟨path, (Function.update_of_ne same _ _).symm.trans found⟩
  | unlinkDestination destination =>
      by_cases same : path = .destination destination
      · subst same
        cases PublicationDisk.files_unlinkDestination.symm.trans found
      · exact .inl ⟨path, (Function.update_of_ne same _ _).symm.trans found⟩
  | publication => exact .inl ⟨path, found⟩
  | batch => exact .inl ⟨path, found⟩
  | event => exact .inl ⟨path, found⟩
  | manifest => exact .inl ⟨path, found⟩
  | linkManifest => exact .inl ⟨path, found⟩
  | unlinkManifest => exact .inl ⟨path, found⟩
  | bundle => exact .inl ⟨path, found⟩
  | mark => exact .inl ⟨path, found⟩

theorem created_apply : disk.created ≤ (Disk.apply disk write).created := by
  cases write with
  | copy => exact Nat.le_succ _
  | manifest => exact Nat.le_succ _
  | publication => exact Nat.le_refl _
  | batch => exact Nat.le_refl _
  | event => exact Nat.le_refl _
  | linkFile => exact Nat.le_refl _
  | unlinkDestination => exact Nat.le_refl _
  | unlinkFile => exact Nat.le_refl _
  | linkManifest => exact Nat.le_refl _
  | unlinkManifest => exact Nat.le_refl _
  | bundle => exact Nat.le_refl _
  | mark => exact Nat.le_refl _

theorem SoundPublications.apply (sound : SoundPublications settings disk)
    (allowed : PublicationAllowed settings disk write) :
    SoundPublications settings (Disk.apply disk write) where
  belongs publicationId record found := by
    by_cases about : write.about = some publicationId
    · cases write with
      | publication other written =>
          obtain rfl : other = publicationId := Option.some.inj about
          obtain rfl := Option.some.inj (PublicationDisk.publications_publication.symm.trans found)
          exact allowed.1
      | event => exact sound.belongs _ _ found
      | copy => exact sound.belongs _ _ found
      | unlinkFile => exact sound.belongs _ _ found
      | manifest => exact sound.belongs _ _ found
      | unlinkManifest => exact sound.belongs _ _ found
      | linkManifest => exact sound.belongs _ _ found
      | batch => cases about
      | linkFile => cases about
      | unlinkDestination => cases about
      | bundle => cases about
      | mark => cases about
    · exact sound.belongs _ _ ((allowed.record about).symm.trans found)
  phase publicationId record found := by
    by_cases about : write.about = some publicationId
    · exact allowed.phase about (sound.phase publicationId) found
    · have stored := (allowed.record about).symm.trans found
      exact (sound.phase publicationId record stored).view (allowed.view about)
  unpublished _ absent := sound.unpublished_apply allowed absent
  batch _ _ found := sound.batch_apply allowed found
  unbatched _ absent := sound.unbatched_apply allowed absent
  lasting destination file found := by
    rcases allowed.destination found with before | ⟨publicationId, record, stored, rfl⟩
    · exact sound.lasting destination file before
    · exact (sound.belongs publicationId record stored).lasting
  numbered path file found := by
    rcases files_apply found with ⟨before, stored⟩ | ⟨publicationId, content, rfl, rfl, rfl⟩
    · exact Nat.lt_of_lt_of_le (sound.numbered before file stored) created_apply
    · exact Nat.lt_succ_self disk.created
  shared path other file twin found second same := by
    rcases files_apply found with ⟨before, stored⟩ | ⟨publicationId, content, copied, rfl, rfl⟩
    · rcases files_apply second with ⟨former, kept⟩ | ⟨publicationId, content, -, -, rfl⟩
      · exact sound.shared before former file twin stored kept same
      · have older : file.number < disk.created := sound.numbered before file stored
        rw [same] at older
        exact absurd older (Nat.lt_irrefl _)
    · rcases files_apply second with ⟨former, kept⟩ | ⟨otherId, more, again, -, rfl⟩
      · have older : twin.number < disk.created := sound.numbered former twin kept
        rw [← same] at older
        exact absurd older (Nat.lt_irrefl _)
      · obtain ⟨rfl, rfl⟩ := PublicationWrite.copy.inj (copied.symm.trans again)
        rfl

end

end DesignHarness
