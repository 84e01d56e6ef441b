import DesignHarness.Services.TaskIntakes
import Mathlib.Data.List.Sort
import Mathlib.Logic.Function.Basic

/-!
# Publications

An instance publishes an output file as an asset (`publish_delivery` of `assets.py`); publications
of one batch become visible together (`commit_publication_batch`).  Both write a transaction record
first and then resume it (`_resume_publication` and `_resume_publication_batch` of
`asset_recovery.py`), as a recovery does: which steps were taken is read off the record, the files
and the journal.

A digest stands for what is hashed: the content of a file for its `sha256`, the instance and the
key of a publication for its id and the id of its asset.  A hard link is a file with the number of
the linked one.
-/

namespace DesignHarness

open Library

/-- `publication_id` and, cut from the same digest, `asset_id` (`assets.py:511-514`). -/
structure PublicationId where
  instanceId : Identifier
  idempotencyKey : String
  deriving DecidableEq, Repr

/-- An output file: a path below `instances/<instance>/outputs`. -/
structure OutputPath where
  instanceId : Identifier
  relativePath : String
  deriving DecidableEq, Repr

/-- `source.name`. -/
def OutputPath.name (path : OutputPath) : String :=
  String.ofList ((path.relativePath.toList.reverse.takeWhile (· ≠ '/')).reverse)

/-- `destination_relpath` (`assets.py:521-525`). -/
inductive Destination where
  | bundle (bundleId : Identifier) (suffix : String)
  | own (publicationId : PublicationId) (name : String)
  deriving DecidableEq, Repr

/-- The name of a file matches `.*.tmp`. -/
def temporaryName (name : String) : Bool :=
  decide (5 ≤ name.length) && decide (name.toList.head? = some '.') &&
    decide (name.toList.reverse.take 4 = ['p', 'm', 't', '.'])

/-- The name of the destination does not match `.*.tmp`; the id of a bundle starts with a letter. -/
def Destination.lasting : Destination → Bool
  | bundle _ _ => true
  | own _ name => !temporaryName name

/-- The suffix of the destination, in lower case. -/
def Destination.suffix : Destination → String
  | bundle _ suffix => suffix
  | own _ name => TaskIntakeService.suffix name

/-- The `request` of a publication (`assets.py:499-510`). -/
structure PublicationRequest where
  instanceId : Identifier
  source : OutputPath
  role : String
  description : String
  batchId : Option Identifier
  bundleId : Option Identifier
  derivation : Option String
  deriving DecidableEq, Repr

/-- AssetManifest of a publication (`asset_recovery.py:240-262`). -/
structure PublicationManifest where
  publicationId : PublicationId
  producerInstanceId : Identifier
  bundleId : Option Identifier
  role : String
  destination : Destination
  mimeType : String
  content : Blob
  description : String
  derivation : Option String
  source : OutputPath
  publishedAt : UtcTime
  createdAt : UtcTime
  deriving DecidableEq, Repr

/-- `state` of a publication, with the fields that are set in it. -/
inductive PublicationState where
  | prepared
  | copied (content : Blob) (mimeType : String) (preparedManifest : Option PublicationManifest)
  | committed (manifest : PublicationManifest)
  deriving DecidableEq, Repr

/-- The transaction of a publication (`assets.py:526-541`). -/
structure PublicationRecord where
  request : PublicationRequest
  destination : Destination
  createdAt : UtcTime
  state : PublicationState
  deriving DecidableEq, Repr

/-- The item of an asset in the request of a batch. -/
structure BatchAsset where
  publicationId : PublicationId
  sha256 : String
  deriving DecidableEq, Repr

/-- BundleManifest; `details` are the fields that nothing here reads. -/
structure BundleManifest where
  bundleId : Identifier
  instanceId : Identifier
  publicationBatchId : Identifier
  imageAsset : PublicationId
  designNoteAsset : PublicationId
  details : String
  deriving DecidableEq, Repr

/-- The `request` of a batch (`assets.py:631-644`). -/
structure BatchRequest where
  instanceId : Identifier
  batchId : Identifier
  assets : List BatchAsset
  bundleManifest : Option BundleManifest
  deriving DecidableEq, Repr

/-- The event of a committed batch. -/
structure BatchEvent where
  request : BatchRequest
  assetIds : List PublicationId
  occurredAt : UtcTime
  deriving DecidableEq, Repr

/-- The transaction of a batch. -/
structure BatchRecord where
  request : BatchRequest
  result : Option BatchEvent
  deriving DecidableEq, Repr

/-- The lines of the journal that are about publications. -/
inductive PublicationEvent where
  | published (manifest : PublicationManifest) (request : PublicationRequest)
  | batchCommitted (event : BatchEvent)
  | corrupted (publicationId : PublicationId)
  deriving DecidableEq, Repr

/-! ## The disk -/

/-- A file: two paths name the same file when their numbers agree. -/
structure StoredFile (α : Type) where
  number : Nat
  content : α
  deriving DecidableEq, Repr

/-- The paths of public files. -/
inductive PublicPath where
  | destination (destination : Destination)
  | temporary (publicationId : PublicationId)
  deriving DecidableEq, Repr

/-- The paths of manifests. -/
inductive ManifestPath where
  | manifest (publicationId : PublicationId)
  | temporary (publicationId : PublicationId)
  deriving DecidableEq, Repr

/-- The objects and files that the publications of a task use; `created` counts the files. -/
structure PublicationDisk where
  statuses : Identifier → Option InstanceStatus
  outputs : OutputPath → Option Blob
  files : PublicPath → Option (StoredFile Blob)
  manifests : ManifestPath → Option (StoredFile PublicationManifest)
  bundles : Identifier → Option BundleManifest
  created : Nat
  publications : PublicationId → Option PublicationRecord
  batches : Identifier → Option BatchRecord
  events : List PublicationEvent
  marks : List PublicationId

inductive PublicationWrite where
  | publication (publicationId : PublicationId) (record : PublicationRecord)
  | batch (batchId : Identifier) (record : BatchRecord)
  | event (event : PublicationEvent)
  | copy (publicationId : PublicationId) (content : Blob)
  | linkFile (publicationId : PublicationId) (destination : Destination)
  | unlinkFile (publicationId : PublicationId)
  | unlinkDestination (destination : Destination)
  | manifest (publicationId : PublicationId) (manifest : PublicationManifest)
  | linkManifest (publicationId : PublicationId)
  | unlinkManifest (publicationId : PublicationId)
  | bundle (bundleId : Identifier) (manifest : BundleManifest)
  | mark (publicationId : PublicationId)

/-- Every write is atomic: a record and a copy replace their path whole, a torn line of the
    journal is cut off when it is next read. -/
instance : Disk PublicationDisk PublicationWrite where
  apply disk
    | .publication publicationId record =>
        { disk with publications := Function.update disk.publications publicationId (some record) }
    | .batch batchId record => 
        { disk with batches := Function.update disk.batches batchId (some record) }
    | .event event => { disk with events := disk.events ++ [event] }
    | .copy publicationId content =>
        { disk with
          files := Function.update disk.files (.temporary publicationId)
            (some ⟨disk.created, content⟩)
          created := disk.created + 1 }
    | .linkFile publicationId destination =>
        { disk with
          files := Function.update disk.files (.destination destination)
            (disk.files (.temporary publicationId)) }
    | .unlinkFile publicationId =>
        { disk with files := Function.update disk.files (.temporary publicationId) none }
    | .unlinkDestination destination =>
        { disk with files := Function.update disk.files (.destination destination) none }
    | .manifest publicationId manifest =>
        { disk with
          manifests := Function.update disk.manifests (.temporary publicationId)
            (some ⟨disk.created, manifest⟩)
          created := disk.created + 1 }
    | .linkManifest publicationId =>
        { disk with
          manifests := Function.update disk.manifests (.manifest publicationId)
            (disk.manifests (.temporary publicationId)) }
    | .unlinkManifest publicationId =>
        { disk with manifests := Function.update disk.manifests (.temporary publicationId) none }
    | .bundle bundleId manifest =>
        { disk with bundles := Function.update disk.bundles bundleId (some manifest) }
    | .mark publicationId => { disk with marks := publicationId :: disk.marks }
  tear disk _ := disk

abbrev PublicationScript (α : Type) := Script PublicationDisk PublicationWrite Raised α

/-- The limits of `AssetService`, and the contracts of the manifests. -/
structure PublicationSettings where
  maxFileBytes : Nat
  allowedMimeTypes : List String
  detectMime : Blob → String → String
  manifestContract : PublicationManifest → Outcome Unit
  bundleContract : BundleManifest → Outcome Unit

/-- `_corrupted` of a published asset. -/
def corruptedPublication (publicationId : PublicationId)
    (message : String := "The asset no longer matches its committed manifest.") : Raised :=
  .harness ⟨.assetCorrupted, message, [("asset_id", .text publicationId.idempotencyKey)]⟩

/-- `resolve_task_path` of a path where there is nothing (`paths.py:54-59`). -/
def missingFile (path : String) : Raised :=
  .harness ⟨.assetValidationFailed, "The requested task file does not exist.",
    [("path", .text path)]⟩

namespace PublicationEvent

/-- What the event publishes under the id. -/
def publishes (publicationId : PublicationId) :
    PublicationEvent → Option (PublicationManifest × PublicationRequest)
  | published manifest request =>
      if manifest.publicationId = publicationId then some (manifest, request) else none
  | _ => none

/-- The batch that the event commits under the id. -/
def commits (batchId : Identifier) : PublicationEvent → Option BatchEvent
  | batchCommitted event => if event.request.batchId = batchId then some event else none
  | _ => none

end PublicationEvent

namespace PublicationDisk

variable (disk : PublicationDisk)

/-- What the journal publishes under the id. -/
def publicationsOf (publicationId : PublicationId) :
    List (PublicationManifest × PublicationRequest) :=
  disk.events.filterMap (PublicationEvent.publishes publicationId)

/-- What the journal commits under the id of the batch. -/
def batchesOf (batchId : Identifier) : List BatchEvent :=
  disk.events.filterMap (PublicationEvent.commits batchId)

/-- `_publication_event` (`assets.py:1183-1192`). -/
def publicationEvent (publicationId : PublicationId) :
    Option (PublicationManifest × PublicationRequest) :=
  (disk.publicationsOf publicationId).head?

/-- `_publication_batch_event` (`assets.py:1194-1203`). -/
def batchEvent (batchId : Identifier) : Option BatchEvent := (disk.batchesOf batchId).head?

/-- `committed_batches[batch_id]`: the last event of the batch. -/
def committedBatch (batchId : Identifier) : Option BatchEvent :=
  (disk.batchesOf batchId).getLast?

/-- The visibility gate of a publication event (`assets.py:1118-1132`). -/
def gateOpen (manifest : PublicationManifest) (request : PublicationRequest) : Bool :=
  match request.batchId with
  | none => true
  | some batchId =>
      match disk.committedBatch batchId with
      | none => false
      | some batch =>
          decide (manifest.publicationId ∈ batch.assetIds) &&
            disk.statuses manifest.producerInstanceId = some .succeeded

/-- The manifest that `list_assets` shows for an event. -/
def shownBy (publicationId : PublicationId) : PublicationEvent → Option PublicationManifest
  | .published manifest request =>
      if manifest.publicationId = publicationId ∧ disk.gateOpen manifest request = true then
        some manifest
      else none
  | _ => none

/-- The asset in `list_assets` (`assets.py:723-730`): the last event that shows it. -/
def visible? (publicationId : PublicationId) : Option PublicationManifest :=
  (disk.events.filterMap (disk.shownBy publicationId)).getLast?

end PublicationDisk

namespace AssetService

variable (settings : PublicationSettings) (now : UtcTime)

/-- `_verify_manifest_file` (`assets.py:1169-1181`). -/
def verifyPublicationFile (manifest : PublicationManifest) (disk : PublicationDisk) :
    Outcome Unit :=
  match disk.files (.destination manifest.destination) with
  | none => .error (missingFile manifest.source.name)
  | some file =>
      ensure (file.content = manifest.content ∧
          settings.detectMime file.content manifest.destination.suffix = manifest.mimeType)
        (corruptedPublication manifest.publicationId)

/-- `_mark_corrupted` (`assets.py:1209-1227`). -/
def markPublicationCorrupted (publicationId : PublicationId) : PublicationScript Unit := do
  let marked ← Script.read fun disk : PublicationDisk => decide (publicationId ∈ disk.marks)
  if marked then
    return ()
  Script.write (.mark publicationId)
  Script.write (.event (.corrupted publicationId))

/-- `verify_asset` (`assets.py:756-774`) of a published asset. -/
def verifyPublication (publicationId : PublicationId) : PublicationScript Unit := do
  match ← Script.read (PublicationDisk.visible? · publicationId) with
  | none => do
      Script.raise (invalidAsset "The asset has no committed import or publication fact.")
  | some manifest => do
      match ← Script.read (verifyPublicationFile settings manifest) with
      | .ok () => return ()
      | .error error => do
          markPublicationCorrupted publicationId
          Script.raise error

/-! ## Publishing a file -/

/-- `temporary.unlink` of both temporaries. -/
def removeTemporaries (publicationId : PublicationId) : PublicationScript Unit := do
  Script.write (.unlinkFile publicationId)
  Script.write (.unlinkManifest publicationId)

/-- The copy of a prepared publication (`asset_recovery.py:179-206`). -/
def copyOutput (publicationId : PublicationId) (record : PublicationRecord) :
    PublicationScript (Blob × String) := do
  let occupied ← Script.read fun disk : PublicationDisk => disk.files (.destination record.destination)
  Script.lift (ensure (occupied = none)
    (invalidAsset "The publication destination is already occupied."))
  match ← Script.read fun disk : PublicationDisk => disk.outputs record.request.source with
  | none => do
      Script.raise (missingFile record.request.source.relativePath)
  | some content => do
      Script.write (.unlinkFile publicationId)
      Script.lift (ensure (content.size ≤ settings.maxFileBytes)
        (invalidAsset "The asset exceeds the per-file size limit."))
      Script.write (.copy publicationId content)
      let mimeType := settings.detectMime content (TaskIntakeService.suffix record.request.source.name)
      if mimeType ∉ settings.allowedMimeTypes then
        Script.write (.unlinkFile publicationId)
        Script.raise (invalidAsset "The detected MIME type is not allowed.")
      Script.write (.publication publicationId { record with state := .copied content mimeType none })
      return (content, mimeType)

/-- The link of the copy at its destination (`asset_recovery.py:207-222`). -/
def linkCopy (publicationId : PublicationId) (destination : Destination) :
    PublicationScript Unit := do
  match ← Script.read fun disk : PublicationDisk => disk.files (.temporary publicationId) with
  | none => do
      Script.raise (corruptedPublication publicationId)
  | some copy => do
      match ← Script.read fun disk : PublicationDisk => disk.files (.destination destination) with
      | some file => Script.lift (ensure (copy.number = file.number)
          (invalidAsset "The publication destination is not owned by this transaction."))
      | none => Script.write (.linkFile publicationId destination)

/-- The check of what is at the destination (`asset_recovery.py:224-236`). -/
def checkPlaced (publicationId : PublicationId) (destination : Destination) (content : Blob)
    (mimeType : String) : PublicationScript Unit := do
  match ← Script.read fun disk : PublicationDisk => disk.files (.destination destination) with
  | none => do
      Script.raise (.osError publicationId.idempotencyKey)
  | some file => do
      if ¬ (file.content = content ∧
          settings.detectMime file.content destination.suffix = mimeType) then
        markPublicationCorrupted publicationId
        Script.raise (corruptedPublication publicationId
          "The published asset does not match its publication transaction.")

/-- The manifest of a publication (`asset_recovery.py:237-266`). -/
def buildManifest (publicationId : PublicationId) (record : PublicationRecord) (content : Blob)
    (mimeType : String) : PublicationManifest where
  publicationId := publicationId
  producerInstanceId := record.request.instanceId
  bundleId := record.request.bundleId
  role := record.request.role
  destination := record.destination
  mimeType := mimeType
  content := content
  description := record.request.description
  derivation := record.request.derivation
  source := record.request.source
  publishedAt := now
  createdAt := record.createdAt

/-- The prepared manifest, which a record keeps. -/
def prepareManifest (publicationId : PublicationId) (record : PublicationRecord) (content : Blob)
    (mimeType : String) (prepared : Option PublicationManifest) :
    PublicationScript PublicationManifest := do
  match prepared with
  | some manifest => return manifest
  | none => do
      let manifest := buildManifest now publicationId record content mimeType
      Script.write (.publication publicationId
        { record with state := .copied content mimeType (some manifest) })
      return manifest

/-- The link of the manifest (`asset_recovery.py:268-282`). -/
def placeManifest (publicationId : PublicationId) (manifest : PublicationManifest) :
    PublicationScript Unit := do
  match ← Script.read fun disk : PublicationDisk => disk.manifests (.manifest publicationId) with
  | some file => do
      let copy ← Script.read fun disk : PublicationDisk => disk.manifests (.temporary publicationId)
      Script.lift (ensure (copy.map StoredFile.number = some file.number)
        (invalidAsset "The publication manifest target is already occupied."))
  | none => do
      Script.write (.unlinkManifest publicationId)
      Script.write (.manifest publicationId manifest)
      Script.write (.linkManifest publicationId)

/-- What a publication that is copied still has to do. -/
def finishPublication (publicationId : PublicationId) (record : PublicationRecord) (content : Blob)
    (mimeType : String) (prepared : Option PublicationManifest) :
    PublicationScript PublicationManifest := do
  linkCopy publicationId record.destination
  checkPlaced settings publicationId record.destination content mimeType
  let manifest ← prepareManifest now publicationId record content mimeType prepared
  Script.lift (settings.manifestContract manifest)
  placeManifest publicationId manifest
  Script.write (.event (.published manifest record.request))
  Script.write (.publication publicationId { record with state := .committed manifest })
  removeTemporaries publicationId
  return manifest

/-- A publication that is not committed but has its event. -/
def settlePublication (publicationId : PublicationId) (record : PublicationRecord)
    (manifest : PublicationManifest) : PublicationScript PublicationManifest := do
  let verified ← Script.read (verifyPublicationFile settings manifest)
  Script.lift verified
  Script.write (.publication publicationId { record with state := .committed manifest })
  removeTemporaries publicationId
  return manifest

/-- `_resume_publication` (`asset_recovery.py:119-307`); its paths hold no links. -/
def resumePublication (publicationId : PublicationId) (record : PublicationRecord) :
    PublicationScript PublicationManifest := do
  match record.state with
  | .committed manifest => do
      if record.request.batchId = none then
        verifyPublication settings publicationId
      else
        let verified ← Script.read (verifyPublicationFile settings manifest)
        Script.lift verified
      removeTemporaries publicationId
      return manifest
  | .prepared => do
      match ← Script.read (PublicationDisk.publicationEvent · publicationId) with
      | some (manifest, _) => settlePublication settings publicationId record manifest
      | none => do
          let (content, mimeType) ← copyOutput settings publicationId record
          finishPublication settings now publicationId record content mimeType none
  | .copied content mimeType prepared => do
      match ← Script.read (PublicationDisk.publicationEvent · publicationId) with
      | some (manifest, _) => settlePublication settings publicationId record manifest
      | none => finishPublication settings now publicationId record content mimeType prepared

/-- `_require_instance` (`assets.py:1282-1287`). -/
def requireInstance (instanceId : Identifier) (disk : PublicationDisk) : Outcome InstanceStatus :=
  match disk.statuses instanceId with
  | some status => .ok status
  | none => .error (.harness ⟨.instanceNotFound, "The requested instance does not exist.", []⟩)

/-- Where a publication goes. -/
def destinationOf (publicationId : PublicationId) (request : PublicationRequest) : Destination :=
  match request.bundleId with
  | some bundleId => .bundle bundleId (TaskIntakeService.suffix request.source.name)
  | none => .own publicationId request.source.name

/-- `publish_delivery` (`assets.py:465-543`). -/
def publishDelivery (request : PublicationRequest) (idempotencyKey : String) :
    PublicationScript PublicationManifest := do
  let found ← Script.read (requireInstance request.instanceId)
  let status ← Script.lift found
  Script.lift (ensure (status ≠ .archived)
    (.harness ⟨.invalidStateTransition, "An archived instance is read-only.", []⟩))
  Script.lift (ensure (1 ≤ request.role.length ∧ request.role.length ≤ 128 ∧
      request.description.length ≤ 4000)
    (invalidAsset "Delivery role or description is invalid."))
  Script.lift (ensure (request.source.instanceId = request.instanceId)
    (.harness ⟨.pathOutsideTaskRoot, "The path is not a safe task-relative path.",
      [("path", .text request.source.relativePath)]⟩))
  let source ← Script.read fun disk : PublicationDisk => disk.outputs request.source
  Script.lift (ensure (source ≠ none) (missingFile request.source.relativePath))
  let publicationId : PublicationId := ⟨request.instanceId, idempotencyKey⟩
  match ← Script.read fun disk : PublicationDisk => disk.publications publicationId with
  | some record => do
      Script.lift (ensure (record.request = request)
        (reusedKey "The asset idempotency key was used for a different request."
          [("transaction_type", .text "publication")]))
      resumePublication settings now publicationId record
  | none => do
      let record : PublicationRecord :=
        ⟨request, destinationOf publicationId request, now, .prepared⟩
      Script.write (.publication publicationId record)
      resumePublication settings now publicationId record

/-- One asset of a batch is published as the request of the batch says. -/
def checkBatchAsset (request : BatchRequest) (disk : PublicationDisk) (item : BatchAsset) :
    Outcome Unit :=
  let missing : Raised := .harness ⟨.assetValidationFailed,
    "A publication batch is missing one prepared asset.",
    [("batch_id", .text request.batchId), ("asset_id", .text item.publicationId.idempotencyKey)]⟩
  match disk.publicationEvent item.publicationId with
  | none => .error missing
  | some (manifest, publication) => do
      ensure (publication.batchId = some request.batchId ∧ manifest.content.sha256 = item.sha256 ∧
        manifest.producerInstanceId = request.instanceId) missing
      verifyPublicationFile settings manifest disk

/-- The bundle manifest of a batch is valid and its path not taken
    (`asset_recovery.py:319-342`). -/
def checkBundle (request : BatchRequest) (disk : PublicationDisk) : Outcome Unit :=
  match request.bundleManifest with
  | none => .ok ()
  | some manifest => do
      settings.bundleContract manifest
      ensure (manifest.instanceId = request.instanceId ∧
          manifest.publicationBatchId = request.batchId)
        (invalidAsset "The publication batch contains an invalid bundle manifest.")
      ensure (∀ stored ∈ disk.bundles manifest.bundleId, stored = manifest)
        (reusedKey "The bundle manifest path already contains another bundle.")

/-- `if bundle_path is not None and not bundle_path.exists()`. -/
def writeBundle (request : BatchRequest) : PublicationScript Unit := do
  match request.bundleManifest with
  | none => return ()
  | some manifest => do
      let stored ← Script.read fun disk : PublicationDisk => disk.bundles manifest.bundleId
      if stored.isNone then
        Script.write (.bundle manifest.bundleId manifest)

/-- `_resume_publication_batch` (`asset_recovery.py:309-397`). -/
def resumePublicationBatch (batchId : Identifier) (record : BatchRecord) :
    PublicationScript BatchEvent := do
  let bundle ← Script.read (checkBundle settings record.request)
  Script.lift bundle
  match ← Script.read (PublicationDisk.batchEvent · batchId) with
  | some event => do
      Script.lift (ensure (event.request = record.request)
        (reusedKey "The committed publication batch does not match its transaction."))
      if record.result.isNone then
        Script.write (.batch batchId { record with result := some event })
      writeBundle record.request
      return event
  | none => do
      let prepared ← Script.read fun disk : PublicationDisk =>
        checkEach (checkBatchAsset settings record.request disk) record.request.assets
      Script.lift prepared
      writeBundle record.request
      let event : BatchEvent :=
        ⟨record.request, record.request.assets.map BatchAsset.publicationId, now⟩
      Script.write (.event (.batchCommitted event))
      Script.write (.batch batchId { record with result := some event })
      return event

/-- The assets of a batch in the order of their ids. -/
def batchAssets (manifests : List PublicationManifest) : List BatchAsset :=
  (manifests.insertionSort fun first second =>
    first.publicationId.idempotencyKey ≤ second.publicationId.idempotencyKey).map
      fun manifest => ⟨manifest.publicationId, manifest.content.sha256⟩

/-- The bundle manifest names its batch and exactly the assets of the batch
    (`assets.py:616-630`). -/
def checkBundleRequest (request : BatchRequest) : Outcome Unit :=
  match request.bundleManifest with
  | none => .ok ()
  | some manifest => do
      settings.bundleContract manifest
      ensure (manifest.instanceId = request.instanceId ∧
          manifest.publicationBatchId = request.batchId)
        (invalidAsset "The bundle manifest does not belong to its publication batch.")
      let referenced := [manifest.imageAsset, manifest.designNoteAsset]
      let assetIds := request.assets.map BatchAsset.publicationId
      ensure ((∀ assetId ∈ referenced, assetId ∈ assetIds) ∧ ∀ assetId ∈ assetIds,
          assetId ∈ referenced)
        (invalidAsset "The bundle manifest must reference exactly its two batch assets.")

/-- `commit_publication_batch` (`assets.py:592-665`). -/
def commitPublicationBatch (instanceId batchId : Identifier)
    (manifests : List PublicationManifest) (bundleManifest : Option BundleManifest) :
    PublicationScript BatchEvent := do
  let found ← Script.read (requireInstance instanceId)
  let _ ← Script.lift found
  Script.lift (ensure (manifests ≠ []) (invalidAsset "A publication batch cannot be empty."))
  Script.lift (checkEach (fun manifest => do
    settings.manifestContract manifest
    ensure (manifest.producerInstanceId = instanceId)
      (invalidAsset "Every batch asset must belong to its producing instance.")) manifests)
  let assets := batchAssets manifests
  Script.lift (ensure ((assets.map BatchAsset.publicationId).Nodup)
    (invalidAsset "A publication batch cannot contain duplicate assets."))
  let request : BatchRequest := ⟨instanceId, batchId, assets, bundleManifest⟩
  Script.lift (checkBundleRequest settings request)
  match ← Script.read fun disk : PublicationDisk => disk.batches batchId with
  | some record => do
      Script.lift (ensure (record.request = request)
        (reusedKey "The asset idempotency key was used for a different request."
          [("transaction_type", .text "publication_batch")]))
      resumePublicationBatch settings now batchId record
  | none => do
      let record : BatchRecord := ⟨request, none⟩
      Script.write (.batch batchId record)
      resumePublicationBatch settings now batchId record

end AssetService

end DesignHarness
