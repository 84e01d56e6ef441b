import DesignHarness.Services.AssetHistory

/-!
# How long a delivery stays visible

`_visible_asset_events` (`assets.py:1107-1136`) shows a publication of a committed batch while its
producer has the status SUCCEEDED, read at each listing.  What is listed of a committed batch
therefore stays listed exactly as long as the producer keeps that status, and
`list_bundle_manifests` raises as soon as the producer of one committed bundle has another one
(`deliveries_returned`); stopping a producer that has succeeded is a transition of the state
machine (`deliveries_hidden`).
-/

namespace DesignHarness

open Library AssetService

namespace AssetService

variable (settings : PublicationSettings)

/-- The turn of a file of `resources/bundles` (`assets.py:739-753`). -/
def listBundle (bundleId : Identifier) : PublicationScript (Option BundleManifest) := do
  match ← Script.read fun disk : PublicationDisk => disk.bundles bundleId with
  | none => return none
  | some manifest => do
      Script.lift (settings.bundleContract manifest)
      Script.lift (ensure (manifest.bundleId = bundleId)
        (invalidAsset "A bundle manifest has an invalid task owner or filename."))
      match ← Script.read (PublicationDisk.batchEvent · manifest.publicationBatchId) with
      | none => return none
      | some committed => do
          if committed.request.bundleManifest.map BundleManifest.bundleId ≠
              some manifest.bundleId then
            return none
          verifyPublication settings manifest.imageAsset
          verifyPublication settings manifest.designNoteAsset
          return some manifest

/-- `list_bundle_manifests` (`assets.py:732-754`): the bundles in the order of their files. -/
def listBundleManifests : List Identifier → PublicationScript (List BundleManifest)
  | [] => return []
  | bundleId :: rest => do
      let manifest ← listBundle settings bundleId
      let others ← listBundleManifests rest
      return manifest.toList ++ others

end AssetService

/-! ## The gate of a publication -/

/-- The event commits a bundle with the manifest's id. -/
def BatchEvent.bundles (event : BatchEvent) (manifest : BundleManifest) : Prop :=
  event.request.bundleManifest.map BundleManifest.bundleId = some manifest.bundleId

/-- `list_assets` and `verify_asset` return the asset. -/
structure Returned (settings : PublicationSettings) (disk : PublicationDisk)
    (publicationId : PublicationId) (manifest : PublicationManifest) : Prop where
  listed : disk.visible? publicationId = some manifest
  verified : verifyPublication settings publicationId disk = ⟨[], .ok ()⟩

/-- No batch holds the publication back. -/
def Unbatched (disk : PublicationDisk) (publicationId : PublicationId) : Prop :=
  ∀ pair ∈ disk.publicationsOf publicationId, pair.2.batchId = none

/-- An instance that has succeeded and committed a batch. -/
def PublicationDisk.Delivered (disk : PublicationDisk) (instanceId : Identifier) : Prop :=
  disk.statuses instanceId = some .succeeded ∧
    ∃ batchId, ∃ event ∈ disk.batchesOf batchId, event.request.instanceId = instanceId

section

variable {settings : PublicationSettings} {disk : PublicationDisk} {publicationId : PublicationId}
  {manifest : PublicationManifest} {request : PublicationRequest} {batchId : Identifier}
  {event : BatchEvent}

/-- What is visible has its one event, and an open gate. -/
theorem SoundPublications.shown (sound : SoundPublications settings disk)
    (visible : disk.visible? publicationId = some manifest) :
    ∃ request, disk.publicationsOf publicationId = [(manifest, request)] ∧
      disk.gateOpen manifest request = true := by
  have member := List.mem_of_getLast? visible
  obtain ⟨event, listed, shown⟩ := List.mem_filterMap.mp member
  cases event with
  | batchCommitted => cases shown
  | corrupted => cases shown
  | published other request =>
      by_cases own : other.publicationId = publicationId ∧ disk.gateOpen other request = true
      · unfold PublicationDisk.shownBy at shown
        dsimp only at shown
        rw [if_pos own] at shown
        obtain rfl := Option.some.inj shown
        have pair : (other, request) ∈ disk.publicationsOf publicationId :=
          List.mem_filterMap.mpr ⟨_, listed, if_pos own.1⟩
        obtain ⟨record, published, same, facts⟩ := sound.published pair
        refine ⟨request, ?_, own.2⟩
        rw [same]
        exact facts.event
      · unfold PublicationDisk.shownBy at shown
        dsimp only at shown
        rw [if_neg own] at shown
        cases shown

/-- What is visible verifies. -/
theorem SoundPublications.returned (sound : SoundPublications settings disk)
    (visible : disk.visible? publicationId = some manifest) :
    Returned settings disk publicationId manifest := by
  obtain ⟨request, single, -⟩ := sound.shown visible
  have pair : (manifest, request) ∈ disk.publicationsOf publicationId := by
    rw [single]
    exact List.mem_singleton_self _
  obtain ⟨record, other, same, published⟩ := sound.published pair
  obtain ⟨rfl, -⟩ := Prod.mk.inj same
  refine ⟨visible, ?_⟩
  unfold verifyPublication
  rw [Script.run_read, visible]
  dsimp only
  rw [Script.run_read, published.verified]
  rfl

/-- What is not visible raises, and nothing is marked. -/
theorem verifyPublication_hidden (hidden : disk.visible? publicationId = none) :
    verifyPublication settings publicationId disk =
      ⟨[], .error (invalidAsset "The asset has no committed import or publication fact.")⟩ := by
  unfold verifyPublication
  rw [Script.run_read, hidden]
  rfl

/-- An event of a batch is its only one, and commits it. -/
theorem SoundPublications.committed (sound : SoundPublications settings disk)
    (listed : event ∈ disk.batchesOf batchId) :
    disk.batchesOf batchId = [event] ∧ event.request.batchId = batchId ∧
      Commits disk event.request event ∧
      ∃ record, disk.batches batchId = some record ∧ record.request = event.request := by
  cases stored : disk.batches batchId with
  | none =>
      rw [sound.unbatched batchId stored] at listed
      cases listed
  | some record =>
      obtain ⟨named, ⟨none, -⟩ | ⟨other, one, commits, -⟩⟩ := sound.batch batchId record stored
      · rw [none] at listed
        cases listed
      · rw [one] at listed
        obtain rfl := List.mem_singleton.mp listed
        refine ⟨one, ?_, ?_, record, rfl, commits.asked.symm⟩
        · rw [commits.asked]
          exact named
        · rw [commits.asked]
          exact commits

/-- The gate of an event that belongs to a committed batch is its producer's status. -/
theorem SoundPublications.gateOpen_eq (sound : SoundPublications settings disk)
    (listed : event ∈ disk.batchesOf batchId) (asked : request.batchId = some batchId)
    (member : manifest.publicationId ∈ event.assetIds) :
    disk.gateOpen manifest request =
      decide (disk.statuses manifest.producerInstanceId = some .succeeded) := by
  obtain ⟨one, -, -⟩ := sound.committed listed
  unfold PublicationDisk.gateOpen PublicationDisk.committedBatch
  rw [asked]
  dsimp only
  rw [one]
  simp [member]

/-- A gate that a batch keeps is open when the batch lists the asset and its producer has
    succeeded. -/
theorem PublicationDisk.gateOpen_batch (asked : request.batchId = some batchId)
    (opened : disk.gateOpen manifest request = true) :
    ∃ event ∈ disk.batchesOf batchId, manifest.publicationId ∈ event.assetIds ∧
      disk.statuses manifest.producerInstanceId = some .succeeded := by
  unfold PublicationDisk.gateOpen at opened
  rw [asked] at opened
  dsimp only at opened
  cases found : disk.committedBatch batchId with
  | none =>
      rw [found] at opened
      cases opened
  | some event =>
      rw [found] at opened
      have both := Bool.and_eq_true_iff.mp opened
      exact ⟨event, List.mem_of_getLast? found, of_decide_eq_true both.1,
        of_decide_eq_true both.2⟩

/-- An asset of a committed batch is visible exactly while the producer of the batch has
    succeeded. -/
theorem SoundPublications.visible_iff (sound : SoundPublications settings disk)
    (listed : event ∈ disk.batchesOf batchId) (member : publicationId ∈ event.assetIds) :
    (disk.statuses event.request.instanceId = some .succeeded →
      ∃ manifest, disk.visible? publicationId = some manifest) ∧
    (disk.statuses event.request.instanceId ≠ some .succeeded →
      disk.visible? publicationId = none) := by
  obtain ⟨-, named, commits, -⟩ := sound.committed listed
  have asked := member
  rw [commits.listed] at asked
  obtain ⟨item, contained, rfl⟩ := List.mem_map.mp asked
  obtain ⟨manifest, publication, single, batch, -, producer⟩ := commits.grounded item contained
  have pair : (manifest, publication) ∈ disk.publicationsOf item.publicationId := by
    rw [single]
    exact List.mem_singleton_self _
  have own := publicationId_of_publicationsOf pair
  rw [named] at batch
  have gate : disk.gateOpen manifest publication =
      decide (disk.statuses event.request.instanceId = some .succeeded) := by
    rw [← producer]
    exact sound.gateOpen_eq listed batch (own ▸ member)
  constructor
  · intro succeeded
    refine ⟨manifest, ?_⟩
    rw [PublicationDisk.visible?_eq single, gate]
    simp [succeeded]
  · intro other
    rw [PublicationDisk.visible?_eq single, gate]
    simp [other]

end

/-! ## The stored bundles -/

/-- The records of batches and the stored bundles have passed their checks. -/
structure BundlesChecked (settings : PublicationSettings) (disk : PublicationDisk) : Prop where
  asked : ∀ batchId record, disk.batches batchId = some record →
    checkBundleRequest settings record.request = .ok ()
  stored : ∀ bundleId manifest, disk.bundles bundleId = some manifest →
    manifest.bundleId = bundleId ∧ settings.bundleContract manifest = .ok ()

/-- The write keeps that. -/
def PublicationWrite.checked (settings : PublicationSettings) : PublicationWrite → Prop
  | .batch _ record => checkBundleRequest settings record.request = .ok ()
  | .bundle bundleId written =>
      written.bundleId = bundleId ∧ settings.bundleContract written = .ok ()
  | _ => True

/-- What a bundle of a batch that passes its checks has. -/
structure BundleOf (settings : PublicationSettings) (request : BatchRequest)
    (manifest : BundleManifest) : Prop where
  contract : settings.bundleContract manifest = .ok ()
  instanceId : manifest.instanceId = request.instanceId
  batchId : manifest.publicationBatchId = request.batchId
  imageAsset : manifest.imageAsset ∈ request.assets.map BatchAsset.publicationId
  designNoteAsset : manifest.designNoteAsset ∈ request.assets.map BatchAsset.publicationId

section

variable {settings : PublicationSettings} {disk : PublicationDisk} {request : BatchRequest}
  {manifest : BundleManifest} {write : PublicationWrite}

theorem checkBundleRequest_bundle (passed : checkBundleRequest settings request = .ok ())
    (asked : request.bundleManifest = some manifest) : BundleOf settings request manifest := by
  unfold checkBundleRequest at passed
  rw [asked] at passed
  dsimp only at passed
  obtain ⟨⟨⟩, contract, rest⟩ := bind_eq_ok.mp passed
  obtain ⟨⟨⟩, named, listed⟩ := bind_eq_ok.mp rest
  obtain ⟨instanceId, batchId⟩ := ensure_eq_ok.mp named
  obtain ⟨referenced, -⟩ := ensure_eq_ok.mp listed
  exact
    { contract := contract
      instanceId := instanceId
      batchId := batchId
      imageAsset := referenced _ (by simp)
      designNoteAsset := referenced _ (by simp) }

theorem BundlesChecked.apply (holds : BundlesChecked settings disk)
    (checked : write.checked settings) : BundlesChecked settings (Disk.apply disk write) := by
  cases write with
  | batch batchId record =>
      refine ⟨?_, holds.stored⟩
      intro other found stored
      by_cases same : other = batchId
      · subst same
        rw [PublicationDisk.batches_batch] at stored
        obtain rfl := Option.some.inj stored
        exact checked
      · have kept : Function.update disk.batches batchId (some record) other = some found := stored
        rw [Function.update_of_ne same] at kept
        exact holds.asked other found kept
  | bundle bundleId written =>
      refine ⟨holds.asked, ?_⟩
      intro other found stored
      by_cases same : other = bundleId
      · subst same
        rw [PublicationDisk.bundles_bundle] at stored
        obtain rfl := Option.some.inj stored
        exact checked
      · have kept : Function.update disk.bundles bundleId (some written) other = some found := stored
        rw [Function.update_of_ne same] at kept
        exact holds.stored other found kept
  | publication => exact ⟨holds.asked, holds.stored⟩
  | event => exact ⟨holds.asked, holds.stored⟩
  | copy => exact ⟨holds.asked, holds.stored⟩
  | linkFile => exact ⟨holds.asked, holds.stored⟩
  | unlinkFile => exact ⟨holds.asked, holds.stored⟩
  | unlinkDestination => exact ⟨holds.asked, holds.stored⟩
  | manifest => exact ⟨holds.asked, holds.stored⟩
  | linkManifest => exact ⟨holds.asked, holds.stored⟩
  | unlinkManifest => exact ⟨holds.asked, holds.stored⟩
  | mark => exact ⟨holds.asked, holds.stored⟩

/-- A checked write keeps the checks, torn or not. -/
theorem checked_keeps (checked : write.checked settings) :
    Keeps (BundlesChecked settings) (fun _ => False) write :=
  fun _ holds => ⟨holds.apply checked, .inl holds⟩

end

section

variable {settings : PublicationSettings} {now : UtcTime} {publicationId : PublicationId}
  {allowed : PublicationWrite → Prop}

/-- The writes of a script that are about neither batches nor bundles. -/
def PublicationWrite.single : PublicationWrite → Prop
  | .batch _ _ => False
  | .bundle _ _ => False
  | _ => True

theorem markPublicationCorrupted_writes :
    Script.WritesOnly PublicationWrite.single (markPublicationCorrupted publicationId) := by
  refine .look fun marked => ?_
  split
  · exact .pure
  · exact .bind (.write trivial) fun _ => .write trivial

theorem verifyPublication_writes :
    Script.WritesOnly PublicationWrite.single (verifyPublication settings publicationId) := by
  refine .look fun visible => ?_
  cases visible with
  | none => exact .raise
  | some manifest =>
      refine .look fun verified => ?_
      cases verified with
      | ok => exact .pure
      | error error => exact .bind markPublicationCorrupted_writes fun _ => .raise

theorem removeTemporaries_writes :
    Script.WritesOnly PublicationWrite.single (removeTemporaries publicationId) :=
  .bind (.write trivial) fun _ => .write trivial

theorem copyOutput_writes {record : PublicationRecord} :
    Script.WritesOnly PublicationWrite.single (copyOutput settings publicationId record) := by
  refine .look fun occupied => .check fun _ => .look fun source => ?_
  cases source with
  | none => exact .raise
  | some content =>
      refine .bind (.write trivial) fun _ => .check fun _ => .bind (.write trivial) fun _ => ?_
      dsimp only
      split
      · exact .bind (.write trivial) fun _ => .raise
      · exact .bind (.write trivial) fun _ => .pure

theorem linkCopy_writes {destination : Destination} :
    Script.WritesOnly PublicationWrite.single (linkCopy publicationId destination) := by
  refine .look fun copy => ?_
  cases copy with
  | none => exact .raise
  | some copy =>
      refine .look fun file => ?_
      cases file with
      | none => exact .write trivial
      | some file => exact .lift

theorem checkPlaced_writes {destination : Destination} {content : Blob} {mimeType : String} :
    Script.WritesOnly PublicationWrite.single
      (checkPlaced settings publicationId destination content mimeType) := by
  refine .look fun file => ?_
  cases file with
  | none => exact .raise
  | some file =>
      dsimp only
      split
      · exact .bind markPublicationCorrupted_writes fun _ => .raise
      · exact .pure

theorem prepareManifest_writes {record : PublicationRecord} {content : Blob} {mimeType : String}
    {prepared : Option PublicationManifest} :
    Script.WritesOnly PublicationWrite.single
      (prepareManifest now publicationId record content mimeType prepared) := by
  cases prepared with
  | some manifest => exact .pure
  | none => exact .bind (.write trivial) fun _ => .pure

theorem placeManifest_writes {manifest : PublicationManifest} :
    Script.WritesOnly PublicationWrite.single (placeManifest publicationId manifest) := by
  refine .look fun file => ?_
  cases file with
  | some file => exact .look fun _ => .lift
  | none =>
      exact .bind (.write trivial) fun _ => .bind (.write trivial) fun _ => .write trivial

theorem finishPublication_writes {record : PublicationRecord} {content : Blob}
    {mimeType : String} {prepared : Option PublicationManifest} :
    Script.WritesOnly PublicationWrite.single
      (finishPublication settings now publicationId record content mimeType prepared) := by
  refine .bind linkCopy_writes fun _ => .bind checkPlaced_writes fun _ => ?_
  refine .bind prepareManifest_writes fun manifest => .check fun _ => ?_
  refine .bind placeManifest_writes fun _ => .bind (.write trivial) fun _ => ?_
  exact .bind (.write trivial) fun _ => .bind removeTemporaries_writes fun _ => .pure

theorem settlePublication_writes {record : PublicationRecord} {manifest : PublicationManifest} :
    Script.WritesOnly PublicationWrite.single
      (settlePublication settings publicationId record manifest) := by
  refine .look fun verified => .check fun _ => .bind (.write trivial) fun _ => ?_
  exact .bind removeTemporaries_writes fun _ => .pure

theorem resumePublication_writes {record : PublicationRecord} :
    Script.WritesOnly PublicationWrite.single
      (resumePublication settings now publicationId record) := by
  unfold resumePublication
  cases record.state with
  | committed manifest =>
      dsimp only
      split
      · exact .bind verifyPublication_writes fun _ => .bind removeTemporaries_writes fun _ => .pure
      · exact .look fun verified => .check fun _ => .bind removeTemporaries_writes fun _ => .pure
  | prepared =>
      refine .look fun event => ?_
      cases event with
      | some pair => exact settlePublication_writes
      | none => exact .bind copyOutput_writes fun _ => finishPublication_writes
  | copied content mimeType prepared =>
      refine .look fun event => ?_
      cases event with
      | some pair => exact settlePublication_writes
      | none => exact finishPublication_writes

theorem publishDelivery_writes {request : PublicationRequest} {key : String} :
    Script.WritesOnly PublicationWrite.single (publishDelivery settings now request key) := by
  refine .look fun found => .check fun status => .check fun _ => .check fun _ => .check fun _ => ?_
  refine .look fun source => .check fun _ => .look fun record => ?_
  cases record with
  | some record => exact .check fun _ => resumePublication_writes
  | none => exact .bind (.write trivial) fun _ => resumePublication_writes

theorem removeOrphan_writes {path : PublicPath} :
    Script.WritesOnly PublicationWrite.single (removeOrphan path) := by
  refine .look fun found => ?_
  by_cases there : found = true
  · rw [if_pos there]
    cases path with
    | temporary other =>
        refine .look fun record => ?_
        by_cases unrecorded : record.isNone = true
        · rw [if_pos unrecorded]
          exact .write trivial
        · rw [if_neg unrecorded]
          exact .pure
    | destination destination =>
        dsimp only
        by_cases short : destination.lasting = false
        · rw [if_pos short]
          exact .write trivial
        · rw [if_neg short]
          exact .pure
  · rw [if_neg there]
    exact .pure

theorem quarantine_writes {script : PublicationScript Unit}
    (attempt : Script.WritesOnly allowed script) :
    Script.WritesOnly allowed (quarantine script) := by
  refine .rescue attempt fun error => ?_
  cases error with
  | harness raised =>
      dsimp only
      split
      · exact .pure
      · exact .raise
  | _ => exact .raise

theorem single_checked (write : PublicationWrite) (single : write.single) :
    write.checked settings := by
  cases write with
  | batch => exact single.elim
  | bundle => exact single.elim
  | _ => trivial

/-- A script about single publications keeps the checks. -/
theorem bundlesChecked_single {α : Type} {script : PublicationScript α}
    (writes : Script.WritesOnly PublicationWrite.single script) :
    Maintains (BundlesChecked settings) (fun _ => False) script fun _ => True :=
  writes.maintains fun write single => checked_keeps (single_checked write single)

end

section

variable {settings : PublicationSettings} {now : UtcTime} {batchId : Identifier}

theorem writeBundle_writes {request : BatchRequest}
    (passed : checkBundleRequest settings request = .ok ()) :
    Script.WritesOnly (PublicationWrite.checked settings) (writeBundle request) := by
  unfold writeBundle
  cases asked : request.bundleManifest with
  | none => exact .pure
  | some manifest =>
      refine .look fun stored => ?_
      by_cases missing : stored.isNone = true
      · rw [if_pos missing]
        exact .write ⟨rfl, (checkBundleRequest_bundle passed asked).contract⟩
      · rw [if_neg missing]
        exact .pure

theorem resumePublicationBatch_writes {record : BatchRecord}
    (passed : checkBundleRequest settings record.request = .ok ()) :
    Script.WritesOnly (PublicationWrite.checked settings)
      (resumePublicationBatch settings now batchId record) := by
  refine .look fun bundle => .check fun _ => .look fun event => ?_
  cases event with
  | none =>
      refine .look fun prepared => .check fun _ => .bind (writeBundle_writes passed) fun _ => ?_
      exact .bind (.write trivial) fun _ => .bind (.write passed) fun _ => .pure
  | some event =>
      refine .check fun _ => ?_
      dsimp only
      split
      · exact .bind (.write passed) fun _ => .bind (writeBundle_writes passed) fun _ => .pure
      · exact .bind (writeBundle_writes passed) fun _ => .pure

/-- The request of a batch passes its checks before its record is written. -/
theorem commitPublicationBatch_checked {instanceId : Identifier}
    {manifests : List PublicationManifest} {bundleManifest : Option BundleManifest} :
    Maintains (BundlesChecked settings) (fun _ => False)
      (commitPublicationBatch settings now instanceId batchId manifests bundleManifest)
      fun _ => True := by
  refine .andThen .look fun found => .andThen .check fun status => .andThen .check fun _ => ?_
  refine .andThen .check fun _ => .andThen .check fun _ => ?_
  refine Maintains.bind (.lift fun _ passed => passed) fun _ passed => ?_
  refine .andThen .look fun record => ?_
  cases record with
  | some record =>
      refine Maintains.bind (.lift fun _ same => ensure_eq_ok.mp same) fun _ same => ?_
      refine (resumePublicationBatch_writes ?_).maintains fun write => checked_keeps
      rw [same]
      exact passed
  | none =>
      refine .andThen (.write (checked_keeps passed)) fun _ => ?_
      exact (resumePublicationBatch_writes passed).maintains fun write => checked_keeps

theorem recoverBatch_checked :
    Maintains (BundlesChecked settings) (fun _ => False) (recoverBatch settings now batchId)
      fun _ => True := by
  have found : Maintains (BundlesChecked settings) (fun _ => False)
      (Script.read fun disk : PublicationDisk => disk.batches batchId : PublicationScript _)
      fun found => ∀ record ∈ found, checkBundleRequest settings record.request = .ok () :=
    .read fun disk holds => holds.asked batchId
  refine found.bind fun found asked => ?_
  cases found with
  | none => exact .done
  | some record =>
      refine .andThen ((resumePublicationBatch_writes (asked record rfl)).maintains
        fun write => checked_keeps) fun _ => .done

end

/-! ## The stored bundles of all tasks -/

/-- The batches and bundles of a task have passed their checks. -/
def PartChecked (settings : AssetServiceSettings) :
    (part : AssetPart) → AssetFiles part → Prop
  | .imports _ => fun _ => True
  | .publications _ => BundlesChecked settings.publications

section

variable {settings : AssetServiceSettings} {now : UtcTime} {state : AssetState}

/-- A script over the imports of a task. -/
theorem partChecked_imports {taskId : Identifier} {α : Type} {script : IntakeScript α} :
    Maintains (fun disk : AssetDisk => ∀ part, PartChecked settings part (disk part))
      (fun _ => False) (script.on (.imports taskId)) fun _ => True := by
  refine Maintains.on ?_
  exact Maintains.always (fun _ _ _ => ⟨trivial, .inl trivial⟩) script

/-- A script over the publications of a task that keeps the checks. -/
theorem partChecked_publications {taskId : Identifier} {α : Type} {script : PublicationScript α}
    (kept : Maintains (BundlesChecked settings.publications) (fun _ => False) script
      fun _ => True) :
    Maintains (fun disk : AssetDisk => ∀ part, PartChecked settings part (disk part))
      (fun _ => False) (script.on (.publications taskId)) fun _ => True := by
  refine Maintains.on ?_
  exact kept

theorem recoverTransaction_checked {taskId : Identifier} {transaction : AssetTransaction} :
    Maintains (fun disk : AssetDisk => ∀ part, PartChecked settings part (disk part))
      (fun _ => False) (recoverTransaction settings now taskId transaction) fun _ => True := by
  cases transaction with
  | imported assetId =>
      have kept : Maintains (fun disk : AssetDisk => ∀ part, PartChecked settings part (disk part))
          (fun _ => False) ((recoverImport settings assetId).on (.imports taskId)) fun _ => True :=
        partChecked_imports
      exact kept
  | publication publicationId =>
      have writes : Script.WritesOnly PublicationWrite.single
          (recoverPublication settings.publications now publicationId) := by
        refine .look fun record => ?_
        cases record with
        | none => exact .pure
        | some record => exact .bind resumePublication_writes fun _ => .pure
      exact partChecked_publications (bundlesChecked_single writes)
  | batch batchId => exact partChecked_publications recoverBatch_checked

theorem verifyVisible_checked {taskId : Identifier} :
    Maintains (fun disk : AssetDisk => ∀ part, PartChecked settings part (disk part))
      (fun _ => False) (verifyVisible settings taskId) fun _ => True := by
  refine .andThen .look fun imported => .andThen .look fun published => ?_
  refine .andThen (.forEach fun assetId _ => partChecked_imports) fun _ => ?_
  refine .forEach fun publicationId _ => ?_
  exact partChecked_publications
    (bundlesChecked_single (quarantine_writes verifyPublication_writes))

theorem recover_checked {listings : List AssetListing} :
    Maintains (fun disk : AssetDisk => ∀ part, PartChecked settings part (disk part))
      (fun _ => False) (AssetService.recover settings now listings) fun _ => True := by
  refine .forEach fun listing _ => ?_
  refine .andThen (.forEach fun transaction _ => recoverTransaction_checked) fun _ => ?_
  refine .andThen (.forEach fun path _ => ?_) fun _ => verifyVisible_checked
  exact partChecked_publications (bundlesChecked_single removeOrphan_writes)

/-- The publications of one task change. -/
theorem partChecked_withPublications {taskId : Identifier} {publications : PublicationDisk}
    (holds : ∀ part, PartChecked settings part (state.disk part))
    (later : BundlesChecked settings.publications publications) :
    ∀ part, PartChecked settings part (state.disk.withPublications taskId publications part) := by
  intro part
  cases part with
  | imports another => trivial
  | publications another =>
      show BundlesChecked settings.publications
        ((state.disk.withPublications taskId publications).publications another)
      by_cases same : another = taskId
      · subst same
        rw [AssetDisk.publications_withPublications]
        exact later
      · rw [AssetDisk.publications_withPublications_ne same]
        exact holds (.publications another)

theorem partChecked_withImports {taskId : Identifier} {imports : IntakeDisk}
    (holds : ∀ part, PartChecked settings part (state.disk part)) :
    ∀ part, PartChecked settings part (state.disk.withImports taskId imports part) := by
  intro part
  cases part with
  | imports another => trivial
  | publications another =>
      show BundlesChecked settings.publications
        ((state.disk.withImports taskId imports).publications another)
      rw [AssetDisk.publications_withImports]
      exact holds (.publications another)

theorem AssetStep.partChecked (step : AssetStep)
    (holds : ∀ part, PartChecked settings part (state.disk part)) :
    ∀ part, PartChecked settings part ((step.next settings state).disk part) := by
  have checked (taskId : Identifier) :
      BundlesChecked settings.publications (state.disk.publications taskId) :=
    holds (.publications taskId)
  cases step with
  | intake taskId step => exact partChecked_withImports holds
  | importStream taskId assetId request maxFileBytes world stop =>
      exact partChecked_withImports holds
  | removeInput taskId assetId key stop => exact partChecked_withImports holds
  | publish taskId request key now stop =>
      have kept : Maintains (BundlesChecked settings.publications) (fun _ => False)
          (publishDelivery settings.publications now request key) fun _ => True :=
        bundlesChecked_single publishDelivery_writes
      exact partChecked_withPublications holds
        (((kept _ (checked taskId)).upTo stop).resolve_right id)
  | commit taskId instanceId batchId manifests bundleManifest now stop =>
      have kept : Maintains (BundlesChecked settings.publications) (fun _ => False)
          (commitPublicationBatch settings.publications now instanceId batchId manifests
            bundleManifest) fun _ => True := commitPublicationBatch_checked
      exact partChecked_withPublications holds
        (((kept _ (checked taskId)).upTo stop).resolve_right id)
  | recover listings now stop =>
      exact ((recover_checked state.disk holds).upTo stop).resolve_right id
  | status taskId instanceId value =>
      exact partChecked_withPublications holds ⟨(checked taskId).asked, (checked taskId).stored⟩
  | output taskId path content =>
      exact partChecked_withPublications holds ⟨(checked taskId).asked, (checked taskId).stored⟩
  | changeInput taskId assetId file => exact partChecked_withImports holds
  | changeFile taskId destination content =>
      refine partChecked_withPublications holds ?_
      unfold PublicationDisk.changeFile
      split
      · exact checked taskId
      · exact ⟨(checked taskId).asked, (checked taskId).stored⟩

/-- Every part of the state holds what has passed its checks. -/
def CheckedState (settings : AssetServiceSettings) (state : AssetState) : Prop :=
  ∀ part, PartChecked settings part (state.disk part)

theorem unusedAssets_checked : CheckedState settings unusedAssets := by
  intro part
  cases part with
  | imports another => trivial
  | publications another =>
      constructor
      case asked => exact fun _ _ found => by cases found
      case stored => exact fun _ _ found => by cases found

/-- In every history the records of batches and the stored bundles have passed their checks. -/
theorem assetRun_checked (steps : List AssetStep) (taskId : Identifier) :
    BundlesChecked settings.publications
      ((assetRun settings steps).disk.publications taskId) := by
  have all : CheckedState settings (assetRun settings steps) := by
    refine runFrom_invariant unusedAssets_checked ?_ steps
    rintro state step next holds ⟨⟩
    exact step.partChecked holds
  exact all (.publications taskId)

end

/-- The publications of a task have all the events there were. -/
def Grew (disk later : PublicationDisk) : Prop := disk.events <+: later.events

section

variable {settings : AssetServiceSettings} {state : AssetState} {taskId : Identifier}
  {disk later : PublicationDisk} {write : PublicationWrite}

theorem Grew.apply (grew : Grew disk later) : Grew disk (Disk.apply later write) := by
  cases write with
  | event event => exact grew.trans (List.prefix_append _ _)
  | _ => exact grew

/-- A script changes neither statuses nor outputs, and only appends to the journal. -/
theorem grew_upTo {α : Type} (script : PublicationScript α) (stop : Option (Nat × Bool)) :
    Grew disk (script.upTo stop disk) := by
  have keeps (write : PublicationWrite) : Keeps (Grew disk) (fun _ => False) write :=
    fun _ grew => ⟨grew.apply, .inl grew⟩
  exact ((Maintains.always keeps script disk (List.prefix_refl _)).upTo stop).resolve_right id

theorem Grew.publicationsOf (grew : Grew disk later) (publicationId : PublicationId) :
    disk.publicationsOf publicationId <+: later.publicationsOf publicationId :=
  List.IsPrefix.filterMap _ grew

theorem Grew.batchesOf (grew : Grew disk later) (batchId : Identifier) :
    disk.batchesOf batchId <+: later.batchesOf batchId :=
  List.IsPrefix.filterMap _ grew

variable (settings state taskId) in
/-- A step sets one status, or leaves them all; the journal only grows. -/
theorem AssetStep.publications_next (step : AssetStep) :
    (∃ instanceId value, step = .status taskId instanceId value ∧
      (step.next settings state).disk.publications taskId =
        (state.disk.publications taskId).setStatus instanceId value) ∨
    (((step.next settings state).disk.publications taskId).statuses =
        (state.disk.publications taskId).statuses ∧
      Grew (state.disk.publications taskId)
        ((step.next settings state).disk.publications taskId)) := by
  -- One task changes; for the others there is nothing to say.
  have one {changed : Identifier} {later : PublicationDisk}
      (same : later.statuses = (state.disk.publications changed).statuses)
      (grew : Grew (state.disk.publications changed) later) :
      ((state.disk.withPublications changed later).publications taskId).statuses =
          (state.disk.publications taskId).statuses ∧
        Grew (state.disk.publications taskId)
          ((state.disk.withPublications changed later).publications taskId) := by
    by_cases own : taskId = changed
    · subst own
      rw [AssetDisk.publications_withPublications]
      exact ⟨same, grew⟩
    · rw [AssetDisk.publications_withPublications_ne own]
      exact ⟨rfl, List.prefix_refl _⟩
  have none {changed : Identifier} {imports : IntakeDisk} :
      ((state.disk.withImports changed imports).publications taskId).statuses =
          (state.disk.publications taskId).statuses ∧
        Grew (state.disk.publications taskId)
          ((state.disk.withImports changed imports).publications taskId) := by
    rw [AssetDisk.publications_withImports]
    exact ⟨rfl, List.prefix_refl _⟩
  cases step with
  | intake changed step => exact .inr none
  | importStream changed assetId request maxFileBytes world stop => exact .inr none
  | removeInput changed assetId key stop => exact .inr none
  | changeInput changed assetId file => exact .inr none
  | publish changed request key now stop =>
      exact .inr (one (sameSurroundings_upTo _ stop).1 (grew_upTo _ stop))
  | commit changed instanceId batchId manifests bundleManifest now stop =>
      exact .inr (one (sameSurroundings_upTo _ stop).1 (grew_upTo _ stop))
  | recover listings now stop =>
      refine .inr ⟨?_, ?_⟩
      · have same : SameSurroundings (state.disk.publications taskId)
            (((AssetService.recover settings now listings).upTo stop state.disk).publications
              taskId) :=
          publications_upTo _ stop (fun _ _ same => same.apply) ⟨rfl, rfl⟩
        exact same.1
      · exact publications_upTo _ stop (fun _ _ grew => grew.apply) (List.prefix_refl _)
  | status changed instanceId value =>
      by_cases own : taskId = changed
      · subst own
        exact .inl ⟨instanceId, value, rfl, AssetDisk.publications_withPublications⟩
      · right
        show ((state.disk.withPublications changed _).publications taskId).statuses = _ ∧
          Grew _ ((state.disk.withPublications changed _).publications taskId)
        rw [AssetDisk.publications_withPublications_ne own]
        exact ⟨rfl, List.prefix_refl _⟩
  | output changed path content => exact .inr (one rfl (List.prefix_refl _))
  | changeFile changed destination content =>
      refine .inr (one ?_ ?_)
      · unfold PublicationDisk.changeFile
        split <;> rfl
      · unfold PublicationDisk.changeFile
        split
        · exact List.prefix_refl _
        · exact List.prefix_refl _

theorem AssetStep.grew (step : AssetStep) :
    Grew (state.disk.publications taskId)
      ((step.next settings state).disk.publications taskId) := by
  obtain ⟨instanceId, value, -, same⟩ | ⟨-, grew⟩ := step.publications_next settings state taskId
  · rw [same]
    exact List.prefix_refl _
  · exact grew

/-- The journal only grows along a history. -/
theorem assetRun_grew (before after : List AssetStep) :
    Grew ((assetRun settings before).disk.publications taskId)
      ((assetRun settings (before ++ after)).disk.publications taskId) := by
  induction after using List.reverseRecOn with
  | nil =>
      rw [List.append_nil]
      exact List.prefix_refl _
  | append_singleton after step ih =>
      rw [← List.append_assoc]
      unfold assetRun at ih ⊢
      rw [runFrom_snoc]
      exact ih.trans (step.grew)

/-- No instance that has succeeded and committed a batch gets another status. -/
def AssetStep.KeepsDelivered (state : AssetState) : AssetStep → Prop
  | .status taskId instanceId value =>
      (state.disk.publications taskId).Delivered instanceId → value = .succeeded
  | _ => True

theorem PublicationDisk.Delivered.grew {instanceId : Identifier} (delivered : disk.Delivered instanceId)
    (same : later.statuses instanceId = some .succeeded) (grew : Grew disk later) :
    later.Delivered instanceId := by
  obtain ⟨-, batchId, event, listed, own⟩ := delivered
  exact ⟨same, batchId, event, (grew.batchesOf batchId).subset listed, own⟩

theorem AssetStep.delivered_kept (step : AssetStep) {instanceId : Identifier}
    (keeps : step.KeepsDelivered state)
    (delivered : (state.disk.publications taskId).Delivered instanceId) :
    ((step.next settings state).disk.publications taskId).Delivered instanceId := by
  refine delivered.grew ?_ step.grew
  obtain ⟨changed, value, rfl, same⟩ | ⟨same, -⟩ := step.publications_next settings state taskId
  · rw [same]
    show Function.update (state.disk.publications taskId).statuses changed (some value) instanceId =
      some InstanceStatus.succeeded
    by_cases own : instanceId = changed
    · subst own
      rw [Function.update_self, keeps delivered]
    · rw [Function.update_of_ne own]
      exact delivered.1
  · rw [same]
    exact delivered.1

/-- An instance that has delivered stays so along a history whose steps keep it. -/
theorem assetRun_delivered {before after : List AssetStep} {instanceId : Identifier}
    (along : Along (assetStep settings) AssetStep.KeepsDelivered (assetRun settings before) after)
    (delivered : ((assetRun settings before).disk.publications taskId).Delivered instanceId) :
    ((assetRun settings (before ++ after)).disk.publications taskId).Delivered instanceId := by
  unfold assetRun at along delivered ⊢
  rw [runFrom_append]
  refine along_induction
    (motive := fun _ state => (state.disk.publications taskId).Delivered instanceId) delivered ?_
    along
  intro _ step _ keeps delivered
  exact step.delivered_kept keeps delivered

end

/-- The bundle is committed, and its producer has not the status SUCCEEDED. -/
def PublicationDisk.HeldBack (disk : PublicationDisk) (bundleId : Identifier) : Prop :=
  ∃ manifest event, disk.bundles bundleId = some manifest ∧
    disk.batchEvent manifest.publicationBatchId = some event ∧ event.bundles manifest ∧
    disk.statuses manifest.instanceId ≠ some .succeeded

section

variable {settings : PublicationSettings} {disk : PublicationDisk} {bundleId : Identifier}
  {manifest : BundleManifest} {event : BatchEvent}

/-- A committed bundle belongs to the batch that commits it. -/
theorem SoundPublications.bundleOf (sound : SoundPublications settings disk)
    (checked : BundlesChecked settings disk) (stored : disk.bundles bundleId = some manifest)
    (found : disk.batchEvent manifest.publicationBatchId = some event)
    (bundles : event.bundles manifest) :
    event ∈ disk.batchesOf manifest.publicationBatchId ∧
      manifest.instanceId = event.request.instanceId ∧
      manifest.imageAsset ∈ event.assetIds ∧ manifest.designNoteAsset ∈ event.assetIds := by
  have listed : event ∈ disk.batchesOf manifest.publicationBatchId := List.mem_of_head? found
  obtain ⟨-, -, commits, record, filed, asked⟩ := sound.committed listed
  obtain ⟨written, wrote, named⟩ := Option.map_eq_some_iff.mp bundles
  have same : written = manifest := by
    have there := commits.bundle written wrote
    rw [named, (checked.stored bundleId manifest stored).1, stored] at there
    exact (Option.some.inj there).symm
  subst same
  have passed := checked.asked _ record filed
  rw [asked] at passed
  have bundle := checkBundleRequest_bundle passed wrote
  refine ⟨listed, bundle.instanceId, ?_, ?_⟩
  · rw [commits.listed]
    exact bundle.imageAsset
  · rw [commits.listed]
    exact bundle.designNoteAsset

/-- The turn of a bundle raises when its producer holds it back, and only then. -/
theorem listBundle_outcome (sound : SoundPublications settings disk)
    (checked : BundlesChecked settings disk) :
    (disk.HeldBack bundleId → ∃ error, listBundle settings bundleId disk = ⟨[], .error error⟩) ∧
      (¬ disk.HeldBack bundleId →
        ∃ listed, listBundle settings bundleId disk = ⟨[], .ok listed⟩) := by
  unfold listBundle
  rw [Script.run_read]
  cases stored : disk.bundles bundleId with
  | none =>
      refine ⟨?_, fun _ => ⟨none, rfl⟩⟩
      rintro ⟨manifest, event, there, -⟩
      cases stored.symm.trans there
  | some manifest =>
      obtain ⟨own, contract⟩ := checked.stored bundleId manifest stored
      have named : ensure (manifest.bundleId = bundleId)
          (invalidAsset "A bundle manifest has an invalid task owner or filename.") = .ok () :=
        ensure_of own
      dsimp only
      rw [contract, Script.run_lift, named, Script.run_lift, Script.run_read]
      cases found : disk.batchEvent manifest.publicationBatchId with
      | none =>
          refine ⟨?_, fun _ => ⟨none, rfl⟩⟩
          rintro ⟨other, event, there, committed, -⟩
          obtain rfl := Option.some.inj (stored.symm.trans there)
          cases found.symm.trans committed
      | some event =>
          dsimp only
          by_cases bundles : event.bundles manifest
          · have go : ¬ event.request.bundleManifest.map BundleManifest.bundleId ≠
                some manifest.bundleId := fun other => other bundles
            rw [if_neg go]
            obtain ⟨listed, producer, image, note⟩ := sound.bundleOf checked stored found bundles
            obtain ⟨imageShown, imageHidden⟩ := sound.visible_iff listed image
            obtain ⟨noteShown, -⟩ := sound.visible_iff listed note
            constructor
            · rintro ⟨other, committed, there, -, -, status⟩
              obtain rfl := Option.some.inj (stored.symm.trans there)
              rw [producer] at status
              exact ⟨_, Script.run_raised (verifyPublication_hidden (imageHidden status))⟩
            · intro free
              have succeeded : disk.statuses event.request.instanceId = some .succeeded := by
                by_contra status
                rw [← producer] at status
                exact free ⟨manifest, event, stored, found, bundles, status⟩
              obtain ⟨imageManifest, imageSeen⟩ := imageShown succeeded
              obtain ⟨noteManifest, noteSeen⟩ := noteShown succeeded
              refine ⟨some manifest, ?_⟩
              have first : verifyPublication settings manifest.imageAsset disk = ⟨[], .ok ()⟩ :=
                (sound.returned imageSeen).verified
              have second : verifyPublication settings manifest.designNoteAsset disk =
                  ⟨[], .ok ()⟩ := (sound.returned noteSeen).verified
              exact (Script.run_quiet first).trans (Script.run_quiet second)
          · have skip : event.request.bundleManifest.map BundleManifest.bundleId ≠
                some manifest.bundleId := bundles
            rw [if_pos skip]
            refine ⟨?_, fun _ => ⟨none, rfl⟩⟩
            rintro ⟨other, committed, there, seen, same, -⟩
            obtain rfl := Option.some.inj (stored.symm.trans there)
            obtain rfl := Option.some.inj (found.symm.trans seen)
            exact absurd same bundles

/-- The listing raises when it meets a bundle that is held back, and only then. -/
theorem listBundleManifests_outcome (sound : SoundPublications settings disk)
    (checked : BundlesChecked settings disk) (bundleIds : List Identifier) :
    ((∃ bundleId ∈ bundleIds, disk.HeldBack bundleId) →
        ∃ error, listBundleManifests settings bundleIds disk = ⟨[], .error error⟩) ∧
      ((∀ bundleId ∈ bundleIds, ¬ disk.HeldBack bundleId) →
        ∃ listed, listBundleManifests settings bundleIds disk = ⟨[], .ok listed⟩) := by
  induction bundleIds with
  | nil =>
      constructor
      · rintro ⟨bundleId, member, -⟩
        cases member
      · exact fun _ => ⟨[], rfl⟩
  | cons first rest ih =>
      have turn := @listBundle_outcome settings disk first sound checked
      obtain ⟨raises, returns⟩ := turn
      obtain ⟨restRaises, restReturns⟩ := ih
      rw [List.forall_mem_cons, List.exists_mem_cons_iff]
      by_cases held : disk.HeldBack first
      · obtain ⟨error, failed⟩ := raises held
        exact ⟨fun _ => ⟨error, Script.run_raised failed⟩, fun free => absurd held free.1⟩
      · obtain ⟨manifest, done⟩ := returns held
        constructor
        · intro some
          obtain ⟨error, failed⟩ := restRaises (some.resolve_left held)
          exact ⟨error, (Script.run_quiet done).trans (Script.run_raised failed)⟩
        · intro free
          obtain ⟨others, later⟩ := restReturns free.2
          exact ⟨manifest.toList ++ others, (Script.run_quiet done).trans (Script.run_quiet later)⟩

end

/-! ## What stays returned -/

section

variable {settings : AssetServiceSettings} {before after : List AssetStep} {taskId : Identifier}
  {publicationId : PublicationId} {manifest : PublicationManifest}

/-- What is visible before is visible afterwards as long as it has no batch, or its producer has
    the status SUCCEEDED again. -/
theorem returned_iff {disk later : PublicationDisk}
    (sound : SoundPublications settings.publications disk)
    (later' : SoundPublications settings.publications later) (grew : Grew disk later)
    (visible : disk.visible? publicationId = some manifest) :
    Returned settings.publications later publicationId manifest ↔
      Unbatched later publicationId ∨
        later.statuses manifest.producerInstanceId = some .succeeded := by
  obtain ⟨request, single, opened⟩ := sound.shown visible
  have pair : (manifest, request) ∈ disk.publicationsOf publicationId := by
    rw [single]
    exact List.mem_singleton_self _
  have own := publicationId_of_publicationsOf pair
  have still := (grew.publicationsOf publicationId).subset pair
  obtain ⟨record, other, same, published⟩ := later'.published still
  have event : later.publicationsOf publicationId = [(manifest, request)] := by
    rw [same]
    exact published.event
  have returned : Returned settings.publications later publicationId manifest ↔
      later.gateOpen manifest request = true := by
    constructor
    · intro returned
      have seen := returned.listed
      rw [PublicationDisk.visible?_eq event] at seen
      by_contra closed
      rw [if_neg closed] at seen
      cases seen
    · intro opened
      refine later'.returned ?_
      rw [PublicationDisk.visible?_eq event, if_pos opened]
  rw [returned]
  cases asked : request.batchId with
  | none =>
      have unbatched : Unbatched later publicationId := by
        intro pair member
        rw [event] at member
        rw [List.mem_singleton.mp member]
        exact asked
      have open' : later.gateOpen manifest request = true := by
        unfold PublicationDisk.gateOpen
        rw [asked]
      exact iff_of_true open' (.inl unbatched)
  | some batchId =>
      obtain ⟨batch, committed, listed, -⟩ := PublicationDisk.gateOpen_batch asked opened
      have gate := later'.gateOpen_eq ((grew.batchesOf batchId).subset committed) asked listed
      rw [gate, decide_eq_true_iff]
      refine ⟨.inr, fun either => either.resolve_left fun unbatched => ?_⟩
      have none := unbatched (manifest, request) still
      cases none.symm.trans asked

end

section

variable {settings : AssetServiceSettings} {disk : PublicationDisk} {taskId : Identifier}
  {publicationId : PublicationId} {manifest : PublicationManifest}

/-- The producer of a visible asset of a batch has delivered. -/
theorem SoundPublications.delivered {request : PublicationRequest} {batchId : Identifier}
    (sound : SoundPublications settings.publications disk)
    (single : disk.publicationsOf publicationId = [(manifest, request)])
    (opened : disk.gateOpen manifest request = true) (asked : request.batchId = some batchId) :
    disk.Delivered manifest.producerInstanceId := by
  obtain ⟨event, committed, listed, succeeded⟩ := PublicationDisk.gateOpen_batch asked opened
  obtain ⟨-, -, commits, -⟩ := sound.committed committed
  have pair : (manifest, request) ∈ disk.publicationsOf publicationId := by
    rw [single]
    exact List.mem_singleton_self _
  have own := publicationId_of_publicationsOf pair
  rw [commits.listed, own] at listed
  obtain ⟨item, contained, same⟩ := List.mem_map.mp listed
  obtain ⟨other, publication, event', -, -, producer⟩ := commits.grounded item contained
  rw [same, single] at event'
  obtain ⟨rfl, -⟩ := Prod.mk.inj (List.singleton_inj.mp event')
  exact ⟨succeeded, batchId, event, committed, producer.symm⟩

end

/-- In every history in which no output is published whose name matches `.*.tmp` and no file of a
    record changes: what `list_assets` returned it returns later, and `verify_asset` with it, as
    long as no producer of a committed batch leaves the status SUCCEEDED; exactly, an asset of a
    batch is returned when its producer has that status, and `list_bundle_manifests` raises when
    the producer of a committed bundle has not. -/
theorem deliveries_returned (settings : AssetServiceSettings) (before after : List AssetStep)
    (permitted : Along (assetStep settings) (AssetStep.Permitted settings Scope.nothing)
      unusedAssets (before ++ after)) (taskId : Identifier) :
    let earlier := (assetRun settings before).disk.publications taskId
    let later := (assetRun settings (before ++ after)).disk.publications taskId
    (Along (assetStep settings) AssetStep.KeepsDelivered (assetRun settings before) after →
      ∀ publicationId manifest, earlier.visible? publicationId = some manifest →
        Returned settings.publications later publicationId manifest) ∧
    (∀ publicationId manifest, earlier.visible? publicationId = some manifest →
      (Returned settings.publications later publicationId manifest ↔
        Unbatched later publicationId ∨
          later.statuses manifest.producerInstanceId = some .succeeded)) ∧
    ∀ bundleIds,
      (∃ listed, listBundleManifests settings.publications bundleIds later = ⟨[], .ok listed⟩) ↔
        ∀ bundleId ∈ bundleIds, ¬ later.HeldBack bundleId := by
  intro earlier later
  have sound : SoundPublications settings.publications earlier :=
    ((assetRun_sound Scope.nothing_idle (along_append.mp permitted).1).publications taskId).sound
  have later' : SoundPublications settings.publications later :=
    ((assetRun_sound Scope.nothing_idle permitted).publications taskId).sound
  have grew : Grew earlier later := assetRun_grew before after
  refine ⟨?_, ?_, ?_⟩
  · intro along publicationId manifest visible
    refine (returned_iff sound later' grew visible).mpr ?_
    obtain ⟨request, single, opened⟩ := sound.shown visible
    have pair : (manifest, request) ∈ earlier.publicationsOf publicationId := by
      rw [single]
      exact List.mem_singleton_self _
    have still := (grew.publicationsOf publicationId).subset pair
    cases asked : request.batchId with
    | none =>
        left
        intro other member
        obtain ⟨record, published, same, facts⟩ := later'.published still
        rw [facts.event, ← same] at member
        rw [List.mem_singleton.mp member]
        exact asked
    | some batchId =>
        right
        exact (assetRun_delivered along (sound.delivered single opened asked)).1
  · exact fun publicationId manifest visible => returned_iff sound later' grew visible
  · intro bundleIds
    obtain ⟨raises, returns⟩ :=
      listBundleManifests_outcome later' (assetRun_checked (before ++ after) taskId) bundleIds
    refine ⟨?_, returns⟩
    rintro ⟨listed, done⟩ bundleId member held
    obtain ⟨error, failed⟩ := raises ⟨bundleId, member, held⟩
    rw [failed] at done
    cases done

/-! ## The delivery of a bundle -/

/-- A step that is permitted in every state. -/
def AssetStep.Lasting : AssetStep → Prop
  | .publish _ request key _ _ =>
      (destinationOf ⟨request.instanceId, key⟩ request).lasting = true
  | .changeInput .. => False
  | .changeFile .. => False
  | _ => True

theorem AssetStep.Lasting.permitted {settings : AssetServiceSettings} {state : AssetState}
    {step : AssetStep} (lasting : step.Lasting) :
    step.Permitted settings Scope.nothing state := by
  cases step with
  | publish taskId request key now stop =>
      intro _ _ _
      constructor
      case lasting => exact lasting
      case resumable => exact fun member => member.elim
      case separate => exact fun _ _ member => (member.elim id id).elim
      case asked => exact fun _ member => member.elim
  | commit taskId instanceId batchId manifests bundleManifest now stop =>
      intro _ _ _
      constructor
      case resumable => exact fun member => member.elim
      case bundles => exact fun _ _ member => (member.elim id id).elim
      case asked => exact fun _ member => member.elim
  | output taskId path content => exact fun _ _ member => member.elim
  | changeInput => exact lasting.elim
  | changeFile => exact lasting.elim
  | _ => trivial

theorem permitted_of_lasting {settings : AssetServiceSettings} {state : AssetState}
    {steps : List AssetStep} (lasting : ∀ step ∈ steps, step.Lasting) :
    Along (assetStep settings) (AssetStep.Permitted settings Scope.nothing) state steps := by
  induction steps generalizing state with
  | nil => trivial
  | cons step rest ih =>
      refine ⟨(lasting step List.mem_cons_self).permitted, ih ?_⟩
      exact fun other later => lasting other (List.mem_cons_of_mem _ later)

/-- One of the two files of a bundle. -/
def bundleDelivery (role name : String) : PublicationRequest where
  instanceId := "inst_a"
  source := ⟨"inst_a", name⟩
  role := role
  description := ""
  batchId := some "batch_1"
  bundleId := some "bundle_1"
  derivation := none

def bundleFile (role name content : String) : PublicationManifest :=
  buildManifest publishTime ⟨"inst_a", role⟩
    (preparedRecord publishTime ⟨"inst_a", role⟩ (bundleDelivery role name))
    ⟨content, 12⟩ "text/plain"

def deliveredBundle : BundleManifest where
  bundleId := "bundle_1"
  instanceId := "inst_a"
  publicationBatchId := "batch_1"
  imageAsset := ⟨"inst_a", "image"⟩
  designNoteAsset := ⟨"inst_a", "note"⟩
  details := ""

/-- An instance publishes an image and a note, commits them as a bundle and succeeds. -/
def bundleDelivered : List AssetStep :=
  [.status "task_1" "inst_a" .running,
    .output "task_1" ⟨"inst_a", "poster.png"⟩ (some ⟨"image", 12⟩),
    .output "task_1" ⟨"inst_a", "note.md"⟩ (some ⟨"note", 12⟩),
    .publish "task_1" (bundleDelivery "image" "poster.png") "image"
      publishTime none,
    .publish "task_1" (bundleDelivery "note" "note.md") "note"
      publishTime none,
    .commit "task_1" "inst_a" "batch_1"
      [bundleFile "image" "poster.png" "image", bundleFile "note" "note.md" "note"]
      (some deliveredBundle) publishTime none,
    .status "task_1" "inst_a" .succeeded]

theorem bundleDelivered_lasting (step : AssetStep) (member : step ∈ bundleDelivered) :
    step.Lasting := by
  have names : ∀ name, (destinationOf ⟨"inst_a", name⟩ (bundleDelivery name "poster.png")).lasting =
      true ∧ (destinationOf ⟨"inst_a", name⟩ (bundleDelivery name "note.md")).lasting = true :=
    fun _ => ⟨rfl, rfl⟩
  rcases List.mem_cons.mp member with rfl | member
  · trivial
  rcases List.mem_cons.mp member with rfl | member
  · trivial
  rcases List.mem_cons.mp member with rfl | member
  · trivial
  rcases List.mem_cons.mp member with rfl | member
  · exact (names "image").1
  rcases List.mem_cons.mp member with rfl | member
  · exact (names "note").2
  rcases List.mem_cons.mp member with rfl | member
  · trivial
  obtain rfl := List.mem_singleton.mp member
  trivial

/-- The publications of the task after the delivery and further steps. -/
def afterDelivery (steps : List AssetStep) : PublicationDisk :=
  (assetRun assetSettings (bundleDelivered ++ steps)).disk.publications "task_1"

/-- The delivery is returned while another instance runs. -/
theorem deliveries_returned_running :
    Returned publicationSettings (afterDelivery [.status "task_1" "inst_b" .running])
        ⟨"inst_a", "image"⟩ (bundleFile "image" "poster.png" "image") ∧
      ∃ listed, listBundleManifests publicationSettings ["bundle_1"]
        (afterDelivery [.status "task_1" "inst_b" .running]) = ⟨[], .ok listed⟩ := by
  have lasting : ∀ step ∈ bundleDelivered ++ [.status "task_1" "inst_b" .running],
      step.Lasting := by
    intro step member
    rcases List.mem_append.mp member with early | last
    · exact bundleDelivered_lasting step early
    · obtain rfl := List.mem_singleton.mp last
      trivial
  have all := deliveries_returned assetSettings bundleDelivered
    [.status "task_1" "inst_b" .running] (permitted_of_lasting lasting) "task_1"
  obtain ⟨stays, -, bundles⟩ := all
  constructor
  · refine stays ⟨?_, trivial⟩ _ _ (by decide +kernel)
    intro delivered
    exact absurd delivered.1 (by decide +kernel)
  · refine (bundles ["bundle_1"]).mpr ?_
    rintro bundleId member ⟨manifest, event, stored, -, -, status⟩
    obtain rfl := List.mem_singleton.mp member
    have same : manifest = deliveredBundle := by
      refine Option.some.inj (stored.symm.trans ?_)
      decide +kernel
    subst same
    exact absurd (show _ = some InstanceStatus.succeeded by decide +kernel) status

/-- The producer is stopped, as an archived task stops it: the delivery is hidden, and the listing
    of the bundles raises. -/
theorem deliveries_hidden :
    transitionInstanceStatus .succeeded .stopped = .ok () ∧
    (afterDelivery []).visible? ⟨"inst_a", "image"⟩ =
      some (bundleFile "image" "poster.png" "image") ∧
    (listBundleManifests publicationSettings ["bundle_1"] (afterDelivery [])).outcome =
      .ok [deliveredBundle] ∧
    (afterDelivery [.status "task_1" "inst_a" .stopped]).visible? ⟨"inst_a", "image"⟩ = none ∧
    (verifyPublication publicationSettings ⟨"inst_a", "image"⟩
        (afterDelivery [.status "task_1" "inst_a" .stopped])).outcome =
      .error (invalidAsset "The asset has no committed import or publication fact.") ∧
    (listBundleManifests publicationSettings ["bundle_1"]
        (afterDelivery [.status "task_1" "inst_a" .stopped])).outcome =
      .error (invalidAsset "The asset has no committed import or publication fact.") :=
  ⟨by decide, by decide +kernel, by decide +kernel, by decide +kernel,
    outcome_of_raisedBy (by decide +kernel), outcome_of_raisedBy (by decide +kernel)⟩

end DesignHarness
