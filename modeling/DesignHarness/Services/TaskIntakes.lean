import DesignHarness.Domain.Service
import DesignHarness.Library.Script
import Mathlib.Algebra.Order.BigOperators.Group.List
import Mathlib.Algebra.GroupWithZero.Nat
import Mathlib.Data.List.AList

/-!
# Task intakes

`TaskIntakeService` (`task_intakes.py`) collects the prompt and the uploaded files of a task before
the Master sees it.  The files belong to `AssetService` (`assets.py`, `asset_recovery.py`): an
upload imports its file there under a key of its own, outside the lock of the task, and then
attaches the asset to the intake under the lock.

A digest stands for what is hashed: the content of a file for its `sha256`, the key of an upload
for the id of its asset and of its transaction.
-/

namespace DesignHarness

open Library

/-- The two upload routes (`task_intakes.py:213-258`). -/
inductive UploadRoute where
  | intake
  | task
  deriving DecidableEq, Repr

/-- The `asset_id` of an import, cut from the digest of the key of its upload. -/
structure AssetId where
  route : UploadRoute
  idempotencyKey : String
  deriving DecidableEq, Repr

/-- The content of a file: its digest, and its size in bytes. -/
structure Blob where
  sha256 : String
  size : Nat
  deriving DecidableEq, Repr

/-- AssetManifest of an import (`assets.py:362-375`). -/
structure AssetManifest where
  assetId : AssetId
  filename : String
  mimeType : String
  content : Blob
  description : String
  createdAt : Timestamp
  deriving DecidableEq, Repr

/-- The `request` of an import (`assets.py:312-318`). -/
structure ImportRequest where
  filename : String
  description : String
  source : String
  content : Blob
  deriving DecidableEq, Repr

/-- The transaction of an import. -/
structure ImportRecord where
  request : ImportRequest
  committed : Bool
  manifest : AssetManifest
  deriving DecidableEq, Repr

/-- The lines of the journal that are about imported assets. -/
inductive AssetEvent where
  | imported (manifest : AssetManifest) (request : ImportRequest)
  | removed (assetId : AssetId) (idempotencyKey : String)
  | corrupted (assetId : AssetId)
  deriving DecidableEq, Repr

/-- `status` of an intake. -/
inductive IntakeStatus where
  | draft
  | submitted
  deriving DecidableEq, Repr

/-- `TaskIntake` (`task-intake.schema.json`). -/
structure TaskIntake where
  prompt : String
  sessionOpen : Bool
  assetIds : List AssetId
  status : IntakeStatus
  startPolicy : StartPolicy
  revision : Nat
  createdAt : Timestamp
  updatedAt : Timestamp
  submittedAt : Option Timestamp
  deriving DecidableEq, Repr

/-- The request of a command of the intake. -/
inductive IntakeRequest where
  | create (prompt : String) (startPolicy : StartPolicy) (actorId : Identifier)
  | upload (assetId : AssetId) (filename description declaredMimeType : String) (content : Blob)
  | remove (assetId : AssetId)
  | submit (taskExpectedRevision : Nat)
  deriving DecidableEq, Repr

/-- The command that a request belongs to. -/
def IntakeRequest.command : IntakeRequest → String
  | create .. => "create_task_intake"
  | upload ⟨.intake, _⟩ .. => "upload_task_intake_asset"
  | upload ⟨.task, _⟩ .. => "upload_task_asset"
  | remove _ => "remove_task_intake_asset"
  | submit _ => "submit_task_intake"

/-- The result of a command: the intake and its revision, and the asset that it is about. -/
structure IntakeResult where
  intake : TaskIntake
  intakeRevision : Nat
  asset : Option AssetManifest := none
  removedAssetId : Option AssetId := none
  deriving DecidableEq, Repr

/-- A committed command: of the intake, with its result, or another one of the task. -/
inductive IntakeCommit where
  | intake (idempotencyKey : String) (request : IntakeRequest) (result : IntakeResult)
  | other (idempotencyKey command request : String)
  deriving DecidableEq, Repr

def IntakeCommit.idempotencyKey : IntakeCommit → String
  | intake idempotencyKey _ _ => idempotencyKey
  | other idempotencyKey _ _ => idempotencyKey

/-- The objects and files that intakes and imports use. -/
structure IntakeDisk where
  taskExists : Bool
  intake : Option TaskIntake
  commits : List IntakeCommit
  events : List AssetEvent
  transactions : AList fun _ : AssetId => ImportRecord
  inputs : AList fun _ : AssetId => (_ : String) × Blob
  marks : List AssetId

/-- A write to the disk.  An intake is stored together with the result of its command. -/
inductive IntakeWrite where
  | task
  | commit (intake : TaskIntake) (commit : IntakeCommit)
  | other (idempotencyKey command request : String)
  | event (event : AssetEvent)
  | transaction (assetId : AssetId) (record : ImportRecord)
  | input (assetId : AssetId) (filename : String) (content : Blob)
  | discard (assetId : AssetId)
  | mark (assetId : AssetId)

/-- Every write is atomic: a torn line of the journal is cut off when it is next read. -/
instance : Disk IntakeDisk IntakeWrite where
  apply disk
    | .task => { disk with taskExists := true }
    | .commit intake commit =>
        { disk with intake := some intake, commits := disk.commits ++ [commit] }
    | .other idempotencyKey command request =>
        { disk with commits := disk.commits ++ [.other idempotencyKey command request] }
    | .event event => { disk with events := disk.events ++ [event] }
    | .transaction assetId record =>
        { disk with transactions := disk.transactions.insert assetId record }
    | .input assetId filename content =>
        { disk with inputs := disk.inputs.insert assetId ⟨filename, content⟩ }
    | .discard assetId => { disk with inputs := disk.inputs.erase assetId }
    | .mark assetId => { disk with marks := assetId :: disk.marks }
  tear disk _ := disk

abbrev IntakeScript (α : Type) := Script IntakeDisk IntakeWrite Raised α

/-! ## Assets -/

/-- The limits of `AssetService` and what it recognizes of a file. -/
structure AssetSettings where
  taskId : Identifier
  maxFileBytes : Nat
  maxTaskBytes : Nat
  allowedMimeTypes : List String
  detectMime : Blob → String → String
  manifestContract : AssetManifest → Outcome Unit

/-- What a call observes around the disk: the clock, the visible bytes that instances published,
    whether the task is archived, and how the commands of other services end. -/
structure IntakeWorld where
  now : Timestamp
  publishedBytes : Nat := 0
  archived : Bool := false
  pinForCreation : Outcome Unit := .ok ()
  createTask : Outcome Unit := .ok ()
  registerInputManifest : Outcome Unit := .ok ()

/-- `_invalid` (`assets.py:1344-1345`). -/
def invalidAsset (message : String) : Raised := .harness ⟨.assetValidationFailed, message, []⟩

/-- `_corrupted` (`assets.py:1348-1353`). -/
def corruptedAsset (assetId : AssetId) : Raised :=
  .harness ⟨.assetCorrupted, "The asset no longer matches its committed manifest.",
    [("asset_id", .text assetId.idempotencyKey)]⟩

/-- `HarnessError("IDEMPOTENCY_CONFLICT", message)`. -/
def reusedKey (message : String) (details : List (String × Detail) := []) : Raised :=
  .harness ⟨.idempotencyConflict, message, details⟩

namespace AssetEvent

/-- What the event imports as the asset. -/
def importOf (assetId : AssetId) : AssetEvent → Option (AssetManifest × ImportRequest)
  | imported manifest request =>
      if manifest.assetId = assetId then some (manifest, request) else none
  | _ => none

/-- The asset that the event removes under the key. -/
def removalUnder (key : String) : AssetEvent → Option AssetId
  | removed assetId other => if other = key then some assetId else none
  | _ => none

/-- The bytes that an import event retains once its asset is no longer visible. -/
def retained (visible : AssetId → Bool) : AssetEvent → Nat
  | imported manifest _ => if visible manifest.assetId then 0 else manifest.content.size
  | _ => 0

end AssetEvent

namespace IntakeDisk

variable (disk : IntakeDisk)

/-- The import event of the asset. -/
def importEvent (assetId : AssetId) : Option (AssetManifest × ImportRequest) :=
  disk.events.findSome? (AssetEvent.importOf assetId)

/-- The asset that was removed under the key. -/
def removedUnder (key : String) : Option AssetId :=
  disk.events.findSome? (AssetEvent.removalUnder key)

/-- The step of `_visible_asset_events` (`assets.py:1107-1136`). -/
def listEvent (latest : List AssetManifest) : AssetEvent → List AssetManifest
  | .imported manifest _ =>
      latest.filter (fun other => other.assetId ≠ manifest.assetId) ++ [manifest]
  | .removed assetId _ => latest.filter fun other => other.assetId ≠ assetId
  | .corrupted _ => latest

/-- The manifests of `list_assets` (`assets.py:723-730`). -/
def listAssets : List AssetManifest := disk.events.foldl listEvent []

def visible? (assetId : AssetId) : Option AssetManifest :=
  disk.listAssets.find? (·.assetId = assetId)

end IntakeDisk

namespace AssetService

variable (settings : AssetSettings) (world : IntakeWorld)

/-- `_require_task` (`assets.py:1275-1280`). -/
def requireTask : IntakeScript Unit := do
  let known ← Script.read IntakeDisk.taskExists
  Script.lift (ensure (known = true) (.harness ⟨.taskNotFound,
    "The requested task does not exist.", []⟩))

/-- `_validate_filename` (`assets.py:1311-1317`). -/
def validFilename (filename : String) : Bool :=
  decide (1 ≤ filename.length) && decide (filename.length ≤ 255) &&
    (filename.toList.all fun c =>
      c ≠ '/' && c ≠ '\\' && decide (0x20 ≤ c.toNat) && decide (c.toNat ≠ 0x7F)) &&
    filename ≠ "." && filename ≠ ".."

/-- `_verify_manifest_file` (`assets.py:1169-1181`).  The path of a file that is gone cannot be
    resolved. -/
def verifyManifestFile (manifest : AssetManifest) (disk : IntakeDisk) : Outcome Unit := do
  let file := disk.inputs.lookup manifest.assetId
  ensure (file.isSome = true) (.harness ⟨.assetValidationFailed,
    "The requested task file does not exist.",
    [("path", .text (manifest.assetId.idempotencyKey ++ "/" ++ manifest.filename))]⟩)
  ensure (file = some ⟨manifest.filename, manifest.content⟩ ∧
      settings.detectMime manifest.content manifest.filename = manifest.mimeType)
    (corruptedAsset manifest.assetId)

/-- `_mark_corrupted` (`assets.py:1209-1227`). -/
def markCorrupted (assetId : AssetId) : IntakeScript Unit := do
  let marked ← Script.read fun disk : IntakeDisk => decide (assetId ∈ disk.marks)
  if marked then
    return ()
  Script.write (.mark assetId)
  Script.write (.event (.corrupted assetId))

/-- Verify a file, and mark its asset when it does not verify. -/
def verifyOrMark (manifest : AssetManifest) : IntakeScript Unit := do
  let verified ← Script.read (verifyManifestFile settings manifest)
  match verified with
  | .ok () => return ()
  | .error error => do
      markCorrupted manifest.assetId
      Script.raise error

/-- `verify_asset` (`assets.py:756-774`). -/
def verifyAsset (assetId : AssetId) : IntakeScript Unit := do
  match ← Script.read (IntakeDisk.visible? · assetId) with
  | none => do
      Script.raise (invalidAsset "The asset has no committed import or publication fact.")
  | some manifest => verifyOrMark settings manifest

/-- `_resume_import` (`asset_recovery.py:74-117`). -/
def resumeImport (assetId : AssetId) (record : ImportRecord) : IntakeScript AssetManifest := do
  let event ← Script.read (IntakeDisk.importEvent · assetId)
  Script.lift (ensure (∀ found ∈ event, found.2 = record.request)
    (reusedKey "The committed import event does not match its transaction."))
  verifyOrMark settings record.manifest
  if event.isNone then
    Script.write (.event (.imported record.manifest record.request))
  if record.committed = false then
    Script.write (.transaction assetId { record with committed := true })
  return record.manifest

/-- The bytes of the task before an import: of what it lists, and of removed imports, whose files
    are kept (`assets.py:325-340`). -/
def currentTotal (disk : IntakeDisk) : Nat :=
  world.publishedBytes + (disk.listAssets.map fun manifest => manifest.content.size).sum +
    (disk.events.map (AssetEvent.retained fun assetId => (disk.visible? assetId).isSome)).sum

/-- `_commit_import` (`assets.py:296-405`). -/
def commitImport (assetId : AssetId) (request : ImportRequest) : IntakeScript AssetManifest := do
  requireTask
  match ← Script.read fun disk : IntakeDisk => disk.transactions.lookup assetId with
  | some existing => do
      Script.lift (ensure (existing.request = request)
        (reusedKey "The asset idempotency key was used for a different request."
          [("transaction_type", .text "import")]))
      resumeImport settings assetId existing
  | none => do
      let total ← Script.read (currentTotal world)
      Script.write (.input assetId request.filename request.content)
      if settings.maxTaskBytes < total + request.content.size then
        Script.write (.discard assetId)
        Script.raise (invalidAsset "The task upload size limit would be exceeded.")
      let mimeType := settings.detectMime request.content request.filename
      if mimeType ∉ settings.allowedMimeTypes then
        Script.write (.discard assetId)
        Script.raise (invalidAsset "The detected MIME type is not allowed.")
      let manifest : AssetManifest :=
        { assetId := assetId
          filename := request.filename
          mimeType := mimeType
          content := request.content
          description := request.description
          createdAt := world.now }
      Script.lift (settings.manifestContract manifest)
      let record : ImportRecord := ⟨request, false, manifest⟩
      Script.write (.transaction assetId record)
      resumeImport settings assetId record

/-- `_import_stream` (`assets.py:191-234`) of an upload: its source and description are in bounds. -/
def importStream (assetId : AssetId) (request : ImportRequest) (maxFileBytes : Nat) :
    IntakeScript AssetManifest := do
  requireTask
  Script.lift (ensure (validFilename request.filename = true)
    (.harness ⟨.assetValidationFailed, "The uploaded filename is unsafe.",
      [("filename", .text request.filename)]⟩))
  Script.lift (ensure (1 ≤ maxFileBytes)
    (invalidAsset "The task upload size limit would be exceeded."))
  Script.lift (ensure (request.content.size ≤ min settings.maxFileBytes maxFileBytes)
    (invalidAsset "The asset exceeds the per-file size limit."))
  commitImport settings world assetId request

/-- `remove_input_asset` (`assets.py:236-294`). -/
def removeInputAsset (assetId : AssetId) (idempotencyKey : String) : IntakeScript Unit := do
  requireTask
  match ← Script.read (IntakeDisk.removedUnder · idempotencyKey) with
  | some other => Script.lift (ensure (other = assetId)
      (reusedKey "The idempotency key was reused for another asset removal."))
  | none => do
      let known ← Script.read (IntakeDisk.importEvent · assetId)
      Script.lift (ensure (known.isSome = true)
        (invalidAsset "The requested intake asset does not exist."))
      Script.write (.event (.removed assetId idempotencyKey))

/-- The check of `select_inputs` of the selected assets (`assets.py:417-430`); the copies it makes
    are not read again. -/
def selectInputs (assetIds : List AssetId) (disk : IntakeDisk) : Outcome Unit := do
  ensure (assetIds ≠ [] ∧ assetIds.Nodup)
    (invalidAsset "Selected inputs must contain unique registered asset ids.")
  checkEach (fun assetId =>
    ensure ((disk.visible? assetId).isSome = true ∧ assetId ∉ disk.marks)
      (.harness ⟨.assetValidationFailed, "Only verified registered assets may be selected.",
        [("asset_id", .text assetId.idempotencyKey)]⟩)) assetIds

end AssetService

/-! ## Intakes -/

namespace TaskIntakeService

def maxFiles : Nat := 20

def maxTotalBytes : Nat := 200 * 1024 * 1024

/-- `PER_MIME_LIMITS` (`task_intakes.py:30-37`). -/
def perMimeLimits : List (String × Nat) :=
  [("image/jpeg", 20 * 1024 * 1024), ("image/png", 20 * 1024 * 1024),
    ("image/webp", 20 * 1024 * 1024), ("application/pdf", 50 * 1024 * 1024),
    ("text/plain", 5 * 1024 * 1024), ("text/markdown", 5 * 1024 * 1024)]

/-- `MIME_BY_SUFFIX` (`task_intakes.py:38-47`). -/
def mimeBySuffix : List (String × String) :=
  [(".jpg", "image/jpeg"), (".jpeg", "image/jpeg"), (".png", "image/png"),
    (".webp", "image/webp"), (".pdf", "application/pdf"), (".txt", "text/plain"),
    (".md", "text/markdown"), (".markdown", "text/markdown")]

/-- `Path(filename).suffix.lower()` of a name without separators: from the last dot on, unless that
    is the first or the last character. -/
def suffix (filename : String) : String :=
  let reversed := filename.toList.reverse
  let extension := reversed.takeWhile (· ≠ '.')
  if extension = [] ∨ reversed.length ≤ extension.length + 1 then ""
  else (String.ofList ('.' :: extension.reverse)).toLower

/-- The arguments of an upload. -/
structure Upload where
  route : UploadRoute
  content : Blob
  filename : String
  declaredMimeType : String
  description : String
  envelope : CommandEnvelope
  deriving DecidableEq, Repr

namespace Upload

variable (upload : Upload)

/-- The id of the asset of an upload: of its route and its key. -/
def assetId : AssetId := ⟨upload.route, upload.envelope.idempotencyKey⟩

/-- `source` of the two routes. -/
def source : String :=
  match upload.route with
  | .intake => "web_task_intake"
  | .task => "web_task_asset"

/-- What the upload asks of the asset service. -/
def importRequest : ImportRequest :=
  ⟨upload.filename, upload.description, upload.source, upload.content⟩

/-- The request of the command that attaches the asset. -/
def request : IntakeRequest :=
  .upload upload.assetId upload.filename upload.description upload.declaredMimeType upload.content

/-- `PER_MIME_LIMITS[declared_mime_type]`. -/
def mimeLimit : Nat := (perMimeLimits.lookup upload.declaredMimeType).getD 0

end Upload

variable (settings : AssetSettings) (world : IntakeWorld)

/-- `_require_human` (`task_intakes.py:814-818`). -/
def requireHuman (envelope : CommandEnvelope) : Outcome Unit :=
  ensure (envelope.actorType = .human)
    (validationError "Only a human may change a web task intake.")

/-- `_intake` (`task_intakes.py:698-702`). -/
def requireIntake (disk : IntakeDisk) : Outcome TaskIntake :=
  match disk.intake with
  | some intake => .ok intake
  | none => .error (.harness ⟨.taskNotFound, "The requested task intake does not exist.", []⟩)

/-- `_draft` (`task_intakes.py:690-696`). -/
def requireDraft (disk : IntakeDisk) : Outcome TaskIntake := do
  let intake ← requireIntake disk
  ensure (intake.status = .draft ∧ intake.sessionOpen = true) (.harness ⟨.invalidStateTransition,
    "The task intake no longer accepts uploads.", []⟩)
  return intake

/-- `self._draft(task_id) if require_draft else self._intake(task_id)`. -/
def openIntake (route : UploadRoute) (disk : IntakeDisk) : Outcome TaskIntake :=
  match route with
  | .intake => requireDraft disk
  | .task => requireIntake disk

/-- `_allow_commutative_revision` (`task_intakes.py:821-827`). -/
def allowRevision (expected actual : Nat) : Outcome Unit :=
  ensure (expected ≤ actual) (revisionConflict expected actual "task_intake" settings.taskId)

/-- `_lookup` (`task_intakes.py:735-762`). -/
def lookup (request : IntakeRequest) (envelope : CommandEnvelope) (disk : IntakeDisk) :
    Outcome (Option IntakeResult) :=
  let conflict := reusedKey "The idempotency key was already used for a different request."
    [("scope", .text settings.taskId), ("command", .text request.command)]
  match disk.commits.find? (·.idempotencyKey = envelope.idempotencyKey) with
  | none => .ok none
  | some (.intake _ committed result) => do
      ensure (committed = request) conflict
      return some result
  | some (.other ..) => .error conflict

/-- One asset of `_asset_summaries`. -/
def assetSummary (disk : IntakeDisk) (assetId : AssetId) : Outcome AssetManifest :=
  match disk.visible? assetId with
  | some manifest => .ok manifest
  | none => .error (.harness ⟨.assetCorrupted,
      "The intake references an unavailable uploaded asset.",
      [("asset_id", .text assetId.idempotencyKey)]⟩)

/-- `_asset_summaries` (`task_intakes.py:764-786`). -/
def assetSummaries (disk : IntakeDisk) : List AssetId → Outcome (List AssetManifest)
  | [] => .ok []
  | assetId :: rest => do
      let summary ← assetSummary disk assetId
      let summaries ← assetSummaries disk rest
      return summary :: summaries

/-- `sum(item["size_bytes"] for item in summaries)`. -/
def totalSize (summaries : List AssetManifest) : Nat :=
  (summaries.map fun manifest => manifest.content.size).sum

/-- `_put_intake` (`task_intakes.py:704-733`).  Its callers hold the lock of the task, so the
    revision they expect is the stored one. -/
def putIntake (intake : TaskIntake) (request : IntakeRequest) (envelope : CommandEnvelope)
    (result : IntakeResult) : IntakeScript IntakeResult := do
  Script.write (.commit intake (.intake envelope.idempotencyKey request result))
  return result

/-- The checks of an upload before it imports its file, and the bytes it may have
    (`task_intakes.py:274-304`). -/
def admitUpload (upload : Upload) (disk : IntakeDisk) : Outcome Nat := do
  requireHuman upload.envelope
  ensure (upload.description.length ≤ 4000)
    (validationError "The file description is too long.")
  ensure (mimeBySuffix.lookup (suffix upload.filename) = some upload.declaredMimeType)
    (invalidAsset
      "The filename extension and declared MIME type do not match an allowed format.")
  let intake ← openIntake upload.route disk
  allowRevision settings upload.envelope.expectedRevision intake.revision
  let existing ← assetSummaries disk intake.assetIds
  ensure (existing.length < maxFiles) (invalidAsset "The task already has 20 files.")
  return min upload.mimeLimit (maxTotalBytes - totalSize existing)

/-- The part of `_upload_asset` outside the lock (`task_intakes.py:274-316`). -/
def importUpload (upload : Upload) : IntakeScript AssetManifest := do
  let admitted ← Script.read (admitUpload settings upload)
  let maxFileBytes ← Script.lift admitted
  let manifest ← AssetService.importStream settings world upload.assetId upload.importRequest
    maxFileBytes
  if manifest.mimeType ≠ upload.declaredMimeType then
    AssetService.removeInputAsset upload.assetId
      ("reject-mime-" ++ upload.envelope.idempotencyKey)
    Script.raise (invalidAsset
      "The detected MIME type does not match the selected file type.")
  return manifest

/-- The intake with one more asset. -/
def attached (intake : TaskIntake) (assetId : AssetId) : TaskIntake :=
  { intake with
    assetIds := intake.assetIds ++ [assetId]
    revision := intake.revision + 1
    updatedAt := world.now }

/-- The part of `_upload_asset` under the lock (`task_intakes.py:324-377`). -/
def attachUpload (upload : Upload) (manifest : AssetManifest) : IntakeScript IntakeResult := do
  let found ← Script.read (lookup settings upload.request upload.envelope)
  match ← Script.lift found with
  | some replay => return replay
  | none => do
      match ← Script.read (openIntake upload.route) with
      | .error error => do
          AssetService.removeInputAsset upload.assetId
            ("reject-closed-" ++ upload.envelope.idempotencyKey)
          Script.raise error
      | .ok current => do
          Script.lift (allowRevision settings upload.envelope.expectedRevision current.revision)
          if upload.assetId ∈ current.assetIds then
            return { intake := current, intakeRevision := current.revision, asset := some manifest }
          let summaries ← Script.read (assetSummaries · current.assetIds)
          let active ← Script.lift summaries
          if maxFiles ≤ active.length ∨
              maxTotalBytes < totalSize active + manifest.content.size then
            AssetService.removeInputAsset upload.assetId
              ("reject-capacity-" ++ upload.envelope.idempotencyKey)
            Script.raise (invalidAsset "The task upload limit would be exceeded.")
          let updated := attached world current upload.assetId
          putIntake updated upload.request upload.envelope
            { intake := updated, intakeRevision := updated.revision, asset := some manifest }

/-- `_upload_asset` (`task_intakes.py:260-377`). -/
def uploadAsset (upload : Upload) : IntakeScript IntakeResult := do
  let manifest ← importUpload settings world upload
  attachUpload settings world upload manifest

/-- `create` (`task_intakes.py:67-194`); `create_task` commits the task. -/
def create (prompt : String) (startPolicy : StartPolicy) (envelope : CommandEnvelope) :
    IntakeScript IntakeResult := do
  let normalized := TaskCommandService.strip prompt
  Script.lift (ensure (normalized ≠ "") (validationError "The task Prompt is invalid."))
  Script.lift (requireHuman envelope)
  Script.lift (ensure (envelope.expectedRevision = 0) (.harness ⟨.revisionConflict,
    "Task intake creation requires expected revision zero.",
    [("expected_revision", .number envelope.expectedRevision), ("actual_revision", .number 0)]⟩))
  let request := IntakeRequest.create normalized startPolicy envelope.actorId
  let found ← Script.read (lookup settings request envelope)
  match ← Script.lift found with
  | some replay => return replay
  | none => do
      Script.lift world.pinForCreation
      Script.lift world.createTask
      Script.write .task
      let stored ← Script.read IntakeDisk.intake
      let intake := stored.getD
        { prompt := normalized
          sessionOpen := true
          assetIds := []
          status := .draft
          startPolicy := startPolicy
          revision := 1
          createdAt := world.now
          updatedAt := world.now
          submittedAt := none }
      -- The store expects that there is no intake yet.
      Script.lift (ensure (stored = none)
        (revisionConflict 0 intake.revision "task_intake" settings.taskId))
      putIntake intake request envelope { intake := intake, intakeRevision := 1 }

/-- `remove_asset` (`task_intakes.py:379-427`). -/
def removeAsset (assetId : AssetId) (envelope : CommandEnvelope) : IntakeScript IntakeResult := do
  Script.lift (requireHuman envelope)
  let found ← Script.read (lookup settings (.remove assetId) envelope)
  match ← Script.lift found with
  | some replay => return replay
  | none => do
      let draft ← Script.read requireDraft
      let current ← Script.lift draft
      Script.lift (allowRevision settings envelope.expectedRevision current.revision)
      Script.lift (ensure (assetId ∈ current.assetIds)
        (invalidAsset "The requested intake asset does not exist."))
      AssetService.removeInputAsset assetId ("remove-intake-" ++ envelope.idempotencyKey)
      let updated :=
        { current with
          assetIds := current.assetIds.erase assetId
          revision := current.revision + 1
          updatedAt := world.now }
      putIntake updated (.remove assetId) envelope
        { intake := updated
          intakeRevision := updated.revision
          removedAssetId := some assetId }

/-- `submit` (`task_intakes.py:429-507`). -/
def submit (taskExpectedRevision : Nat) (envelope : CommandEnvelope) :
    IntakeScript IntakeResult := do
  Script.lift (requireHuman envelope)
  Script.lift (ensure (world.archived = false) (.harness ⟨.taskArchived,
    "The task is archived and read-only; resume it before issuing changes.",
    [("task_id", .text settings.taskId)]⟩))
  let request := IntakeRequest.submit taskExpectedRevision
  let found ← Script.read (lookup settings request envelope)
  match ← Script.lift found with
  | some replay => return replay
  | none => do
      let draft ← Script.read requireDraft
      let current ← Script.lift draft
      Script.lift (ensure (envelope.expectedRevision = current.revision)
        (revisionConflict envelope.expectedRevision current.revision "task_intake"
          settings.taskId))
      Script.forEach (AssetService.verifyAsset settings) current.assetIds
      if current.assetIds ≠ [] then
        let selected ← Script.read (AssetService.selectInputs current.assetIds)
        Script.lift selected
      Script.lift world.registerInputManifest
      let summaries ← Script.read (assetSummaries · current.assetIds)
      let _ ← Script.lift summaries
      let updated :=
        { current with
          status := .submitted
          sessionOpen := false
          revision := current.revision + 1
          updatedAt := world.now
          submittedAt := some world.now }
      putIntake updated request envelope
        { intake := updated, intakeRevision := updated.revision }

end TaskIntakeService

end DesignHarness
