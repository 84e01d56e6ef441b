import DesignHarness.Services.AssetRecovery

/-!
# Histories of assets

The operations of the asset service and of the intakes follow one another on the disk of all
tasks; each can be stopped at any of its writes.  Instances change their status and their outputs,
and files may change or get lost.

A publication or a batch that was interrupted is finished by any recoveries and the same call, and
the assets of a batch are visible together, as long as no output is published whose name matches
`.*.tmp` (`publications_recovered`).  A recovery never raises as long as, in addition, no call
leaves a record that cannot be resumed and no file of a record changes (`recovery_returns`).
-/

namespace DesignHarness

open Library AssetService TaskIntakeService

/-- The disk, and the uploads that have imported their file. -/
structure AssetState where
  disk : AssetDisk
  importing : Identifier → List (Upload × AssetManifest)

inductive AssetStep where
  | intake (taskId : Identifier) (step : IntakeStep)
  | importStream (taskId : Identifier) (assetId : AssetId) (request : ImportRequest)
      (maxFileBytes : Nat) (world : IntakeWorld) (stop : Option (Nat × Bool))
  | removeInput (taskId : Identifier) (assetId : AssetId) (idempotencyKey : String)
      (stop : Option (Nat × Bool))
  | publish (taskId : Identifier) (request : PublicationRequest) (idempotencyKey : String)
      (now : UtcTime) (stop : Option (Nat × Bool))
  | commit (taskId instanceId batchId : Identifier) (manifests : List PublicationManifest)
      (bundleManifest : Option BundleManifest) (now : UtcTime) (stop : Option (Nat × Bool))
  | recover (listings : List AssetListing) (now : UtcTime) (stop : Option (Nat × Bool))
  | status (taskId instanceId : Identifier) (status : InstanceStatus)
  | output (taskId : Identifier) (path : OutputPath) (content : Option Blob)
  | changeInput (taskId : Identifier) (assetId : AssetId) (file : Option ((_ : String) × Blob))
  | changeFile (taskId : Identifier) (destination : Destination) (content : Option Blob)

namespace AssetDisk

variable (disk : AssetDisk) (taskId : Identifier)

def withImports (imports : IntakeDisk) : AssetDisk :=
  Function.update disk (.imports taskId) imports

def withPublications (publications : PublicationDisk) : AssetDisk :=
  Function.update disk (.publications taskId) publications

variable {disk taskId} {another : Identifier} {intake : IntakeDisk} {published : PublicationDisk}

@[simp] theorem imports_withImports : (disk.withImports taskId intake).imports taskId = intake :=
  Function.update_self ..

theorem imports_withImports_ne (different : another ≠ taskId) :
    (disk.withImports taskId intake).imports another = disk.imports another := by
  have apart : AssetPart.imports another ≠ .imports taskId := by simpa using different
  exact Function.update_of_ne apart intake disk

@[simp] theorem publications_withImports :
    (disk.withImports taskId intake).publications another = disk.publications another := by
  have apart : AssetPart.publications another ≠ .imports taskId := by simp
  exact Function.update_of_ne apart intake disk

@[simp] theorem publications_withPublications :
    (disk.withPublications taskId published).publications taskId = published :=
  Function.update_self ..

theorem publications_withPublications_ne (different : another ≠ taskId) :
    (disk.withPublications taskId published).publications another = disk.publications another := by
  have apart : AssetPart.publications another ≠ .publications taskId := by simpa using different
  exact Function.update_of_ne apart published disk

@[simp] theorem imports_withPublications :
    (disk.withPublications taskId published).imports another = disk.imports another := by
  have apart : AssetPart.imports another ≠ .publications taskId := by simp
  exact Function.update_of_ne apart published disk

end AssetDisk

/-- The file of an import is replaced or lost. -/
def IntakeDisk.changeInput (disk : IntakeDisk) (assetId : AssetId) :
    Option ((_ : String) × Blob) → IntakeDisk
  | none => Disk.apply disk (.discard assetId)
  | some ⟨filename, content⟩ => Disk.apply disk (.input assetId filename content)

namespace PublicationDisk

variable (disk : PublicationDisk)

def setStatus (instanceId : Identifier) (status : InstanceStatus) : PublicationDisk :=
  { disk with statuses := Function.update disk.statuses instanceId (some status) }

def setOutput (path : OutputPath) (content : Option Blob) : PublicationDisk :=
  { disk with outputs := Function.update disk.outputs path content }

/-- A published file is replaced by another one, or lost. -/
def changeFile (destination : Destination) (content : Option Blob) : PublicationDisk :=
  match disk.files (.destination destination) with
  | none => disk
  | some _ =>
      { disk with
        files := Function.update disk.files (.destination destination)
          (content.map (⟨disk.created, ·⟩))
        created := disk.created + 1 }

end PublicationDisk

namespace AssetStep

variable (settings : AssetServiceSettings)

def next (state : AssetState) : AssetStep → AssetState
  | .intake taskId step =>
      let after := step.next settings.imports ⟨state.disk.imports taskId, state.importing taskId⟩
      { disk := state.disk.withImports taskId after.disk
        importing := Function.update state.importing taskId after.importing }
  | .importStream taskId assetId request maxFileBytes world stop =>
      let script := AssetService.importStream settings.imports world assetId request maxFileBytes
      { state with
        disk := state.disk.withImports taskId (script.upTo stop (state.disk.imports taskId)) }
  | .removeInput taskId assetId idempotencyKey stop =>
      let script := removeInputAsset assetId idempotencyKey
      { state with
        disk := state.disk.withImports taskId (script.upTo stop (state.disk.imports taskId)) }
  | .publish taskId request idempotencyKey now stop =>
      let script := publishDelivery settings.publications now request idempotencyKey
      { state with
        disk := state.disk.withPublications taskId
          (script.upTo stop (state.disk.publications taskId)) }
  | .commit taskId instanceId batchId manifests bundleManifest now stop =>
      let script := commitPublicationBatch settings.publications now instanceId batchId manifests
        bundleManifest
      { state with
        disk := state.disk.withPublications taskId
          (script.upTo stop (state.disk.publications taskId)) }
  | .recover listings now stop =>
      { state with disk := (AssetService.recover settings now listings).upTo stop state.disk }
  | .status taskId instanceId value =>
      { state with
        disk := state.disk.withPublications taskId
          ((state.disk.publications taskId).setStatus instanceId value) }
  | .output taskId path content =>
      { state with
        disk := state.disk.withPublications taskId
          ((state.disk.publications taskId).setOutput path content) }
  | .changeInput taskId assetId file =>
      { state with
        disk := state.disk.withImports taskId
          ((state.disk.imports taskId).changeInput assetId file) }
  | .changeFile taskId destination content =>
      { state with
        disk := state.disk.withPublications taskId
          ((state.disk.publications taskId).changeFile destination content) }

end AssetStep

/-- Publications of a task without any. -/
def noPublications : PublicationDisk where
  statuses _ := none
  outputs _ := none
  files _ := none
  manifests _ := none
  bundles _ := none
  created := 0
  publications _ := none
  batches _ := none
  events := []
  marks := []

/-- No task has an asset. -/
def unusedAssets : AssetState where
  disk := fun part =>
    match part with
    | .imports _ => unusedIntake.disk
    | .publications _ => noPublications
  importing _ := []

/-- No step is refused. -/
def assetStep (settings : AssetServiceSettings) (state : AssetState) (step : AssetStep) :
    Except Empty AssetState :=
  .ok (step.next settings state)

/-- The state after a history. -/
def assetRun (settings : AssetServiceSettings) (steps : List AssetStep) : AssetState :=
  runFrom (assetStep settings) unusedAssets steps

/-- A new record leaves the scope secured, and no file of a record changes. -/
def AssetStep.Permitted (settings : AssetServiceSettings) (scope : Scope) (state : AssetState) :
    AssetStep → Prop
  | .publish taskId request key now stop =>
      ¬ Unwritten stop → PublishAdmitted (state.disk.publications taskId) request →
        (state.disk.publications taskId).publications ⟨request.instanceId, key⟩ = none →
          Admissible settings.publications scope (state.disk.publications taskId)
            (preparedRecord now ⟨request.instanceId, key⟩ request) ⟨request.instanceId, key⟩
  | .commit taskId instanceId batchId manifests bundleManifest _ stop =>
      ¬ Unwritten stop → CommitAdmitted settings.publications (state.disk.publications taskId)
          manifests (batchRequest instanceId batchId manifests bundleManifest) →
        (state.disk.publications taskId).batches batchId = none →
          BatchAdmissible settings.publications scope (state.disk.publications taskId)
            (batchRequest instanceId batchId manifests bundleManifest)
  | .output taskId path content =>
      ∀ publicationId record, scope.publications publicationId →
        (state.disk.publications taskId).publications publicationId = some record →
          record.request.source = path →
            Resumable settings.publications
              ((state.disk.publications taskId).setOutput path content) publicationId record
  | .changeInput taskId assetId _ =>
      (state.disk.imports taskId).transactions.lookup assetId = none
  | .changeFile taskId destination _ =>
      (state.disk.publications taskId).files (.destination destination) = none
  | _ => True

/-! ## What every history keeps -/

section

variable {settings : AssetServiceSettings} {scope : Scope} {state : AssetState}
  {disk : PublicationDisk}

/-- The imports are sound and the publications of every task secured. -/
structure SoundAssets (settings : AssetServiceSettings) (scope : Scope) (state : AssetState) :
    Prop where
  imports : ∀ taskId, SoundState settings.imports
    ⟨state.disk.imports taskId, state.importing taskId⟩
  publications : ∀ taskId, Secured settings.publications scope (state.disk.publications taskId)

/-- Nothing of the scope needs to be there. -/
structure Scope.Idle (scope : Scope) : Prop where
  recorded : ∀ publicationId, ¬ scope.recorded publicationId
  filed : ∀ batchId, ¬ scope.filed batchId
  finished : ∀ publicationId, ¬ scope.finished publicationId
  settled : ∀ batchId, ¬ scope.settled batchId

theorem noPublications_secured {publications : PublicationSettings} (idle : scope.Idle) :
    Secured publications scope noPublications := by
  constructor
  case sound =>
    constructor
    case belongs => exact fun _ _ found => by cases found
    case phase => exact fun _ _ found => by cases found
    case unpublished => exact fun _ _ => ⟨rfl, rfl⟩
    case batch => exact fun _ _ found => by cases found
    case unbatched => exact fun _ _ => rfl
    case lasting => exact fun _ _ found => by cases found
    case numbered => exact fun _ _ found => by cases found
    case shared => exact fun _ _ _ _ found => by cases found
  case resumable => exact fun _ _ _ found => by cases found
  case separate => exact fun _ _ _ _ _ found => by cases found
  case committable => exact fun _ _ _ found => by cases found
  case bundles => exact fun _ _ _ _ _ found => by cases found
  case published => exact fun _ _ _ _ found => by cases found
  case committed => exact fun _ _ _ _ found => by cases found
  case recorded => exact fun publicationId member => (idle.recorded publicationId member).elim
  case filed => exact fun batchId member => (idle.filed batchId member).elim
  case finished => exact fun publicationId member => (idle.finished publicationId member).elim
  case settled => exact fun batchId member => (idle.settled batchId member).elim

theorem unusedAssets_sound (idle : scope.Idle) : SoundAssets settings scope unusedAssets where
  imports _ := unusedIntake_sound
  publications _ := noPublications_secured idle

theorem SoundAssets.withImports (sound : SoundAssets settings scope state) {taskId : Identifier}
    {imports : IntakeDisk} {importing : Identifier → List (Upload × AssetManifest)}
    (other : ∀ another, another ≠ taskId → importing another = state.importing another)
    (later : SoundState settings.imports ⟨imports, importing taskId⟩) :
    SoundAssets settings scope
      { disk := state.disk.withImports taskId imports, importing := importing } where
  imports another := by
    by_cases same : another = taskId
    · subst same
      simpa using later
    · have kept := sound.imports another
      rw [← other another same] at kept
      simpa [AssetDisk.imports_withImports_ne same] using kept
  publications another := by
    simpa using sound.publications another

theorem SoundAssets.withPublications (sound : SoundAssets settings scope state)
    {taskId : Identifier} (later : Secured settings.publications scope disk) :
    SoundAssets settings scope
      { state with disk := state.disk.withPublications taskId disk } where
  imports another := by
    simpa using sound.imports another
  publications another := by
    by_cases same : another = taskId
    · subst same
      simpa using later
    · simpa [AssetDisk.publications_withPublications_ne same] using sound.publications another

/-- What an import of its own leaves. -/
theorem importStream_meets {world : IntakeWorld} {assetId : AssetId} {request : ImportRequest}
    {maxFileBytes : Nat} {intake : IntakeDisk} (sound : SoundIntakes settings.imports intake) :
    Meets (AssetService.importStream settings.imports world assetId request maxFileBytes) intake
      (Reaches settings.imports intake) (fun _ _ => True) fun _ _ => True := by
  have reaches : Reaches settings.imports intake intake := Reaches.start sound
  unfold AssetService.importStream AssetService.requireTask
  refine Meets.bind (Meets.looked rfl (Meets.lift reaches ?_ fun _ _ => trivial))
  rintro - -
  refine Meets.guarded reaches ?_ fun _ _ => trivial
  rintro - -
  refine Meets.guarded reaches ?_ fun _ _ => trivial
  rintro - -
  refine Meets.guarded reaches ?_ fun _ _ => trivial
  rintro - -
  exact (commitImport_meets reaches).mono (fun _ => id) (fun _ _ _ => trivial) fun _ _ => id

/-- What a removal of its own leaves. -/
theorem removeInput_meets {assetId : AssetId} {key : String} {intake : IntakeDisk}
    (sound : SoundIntakes settings.imports intake) :
    Meets (removeInputAsset assetId key) intake
      (fun later => SoundIntakes settings.imports later ∧ Grown intake later)
      (fun _ _ => True) fun _ _ => True := by
  have kept : SoundIntakes settings.imports intake ∧ Grown intake intake :=
    ⟨sound, Grown.refl intake⟩
  unfold removeInputAsset AssetService.requireTask
  refine Meets.bind (Meets.looked rfl (Meets.lift kept ?_ fun _ _ => trivial))
  rintro - -
  refine Meets.looked rfl ?_
  split
  · exact Meets.lift kept (fun _ _ => trivial) fun _ _ => trivial
  · refine Meets.looked rfl (Meets.guarded kept ?_ fun _ _ => trivial)
    intro _ known
    have imported : (intake.importEvent assetId).isSome = true := ensure_eq_ok.mp known
    have allowed : Allowed settings.imports intake (.event (.removed assetId key)) := imported
    exact Meets.write kept kept ⟨sound.apply allowed, allowed.grown⟩ trivial

/-- The file of no import. -/
theorem SoundState.changeInput {intake : IntakeDisk}
    {importing : List (Upload × AssetManifest)} {assetId : AssetId}
    (sound : SoundState settings.imports ⟨intake, importing⟩)
    (free : intake.transactions.lookup assetId = none) (file : Option ((_ : String) × Blob)) :
    SoundState settings.imports ⟨intake.changeInput assetId file, importing⟩ := by
  cases file with
  | none =>
      have allowed : Allowed settings.imports intake (.discard assetId) := free
      exact sound.later (sound.disk.apply allowed) allowed.grown
  | some file =>
      have allowed : Allowed settings.imports intake (.input assetId file.1 file.2) := free
      exact sound.later (sound.disk.apply allowed) allowed.grown

/-- A script that is stopped before its first write leaves the disk. -/
theorem Unwritten.upTo {α : Type} {script : PublicationScript α} {stop : Option (Nat × Bool)}
    (unwritten : Unwritten stop) : script.upTo stop disk = disk := by
  obtain ⟨torn, rfl⟩ := unwritten
  show script.stopped disk 0 torn = disk
  unfold Script.stopped
  cases torn with
  | false => rfl
  | true =>
      cases (script disk).writes[0]? with
      | none => rfl
      | some write => rfl

/-- The statuses and the outputs are not the service's. -/
theorem SoundPublications.surroundings {publications : PublicationSettings}
    (sound : SoundPublications publications disk)
    (statuses : Identifier → Option InstanceStatus) (outputs : OutputPath → Option Blob) :
    SoundPublications publications { disk with statuses := statuses, outputs := outputs } where
  belongs := sound.belongs
  phase publicationId record found :=
    (sound.phase publicationId record found).view ⟨⟨rfl, rfl, fun _ _ => id⟩, rfl, rfl⟩
  unpublished := sound.unpublished
  batch batchId record found := by
    obtain ⟨named, none | ⟨event, one, commits, result⟩⟩ := sound.batch batchId record found
    · exact ⟨named, .inl none⟩
    · exact ⟨named, .inr ⟨event, one,
        ⟨commits.asked, commits.listed, commits.grounded, commits.bundle⟩, result⟩⟩
  unbatched := sound.unbatched
  lasting := sound.lasting
  numbered := sound.numbered
  shared := sound.shared

/-- What is around the service may change where everything stays resumable. -/
theorem Secured.surroundings {publications : PublicationSettings}
    (secured : Secured publications scope disk)
    (statuses : Identifier → Option InstanceStatus) (outputs : OutputPath → Option Blob)
    (resumable : ∀ publicationId record, scope.publications publicationId →
      disk.publications publicationId = some record →
        Resumable publications { disk with statuses := statuses, outputs := outputs }
          publicationId record) :
    Secured publications scope { disk with statuses := statuses, outputs := outputs } where
  sound := secured.sound.surroundings statuses outputs
  resumable := resumable
  separate := secured.separate
  committable batchId record member found := by
    obtain ⟨bundle, assets⟩ := secured.committable batchId record member found
    exact ⟨bundle, assets⟩
  bundles := secured.bundles
  published := secured.published
  committed := secured.committed
  recorded := secured.recorded
  filed := secured.filed
  finished := secured.finished
  settled := secured.settled

/-- A publication does not depend on statuses, nor on an output that is not its own. -/
theorem Resumable.surroundings {publications : PublicationSettings} {publicationId : PublicationId}
    {record : PublicationRecord} (resumable : Resumable publications disk publicationId record)
    (statuses : Identifier → Option InstanceStatus) {outputs : OutputPath → Option Blob}
    (same : outputs record.request.source = disk.outputs record.request.source) :
    Resumable publications { disk with statuses := statuses, outputs := outputs } publicationId
      record := by
  unfold Resumable at resumable ⊢
  cases state : record.state with
  | prepared =>
      rw [state] at resumable
      dsimp only at resumable ⊢
      rw [same]
      exact resumable
  | copied content mimeType prepared =>
      rw [state] at resumable
      exact resumable
  | committed manifest => trivial

/-- The state as the recovery sees it. -/
theorem SoundAssets.secured (sound : SoundAssets settings scope state) :
    AssetsSecured settings state.disk.imports (fun _ => scope) [] state.disk := by
  intro part
  cases part with
  | imports taskId =>
      exact ⟨(sound.imports taskId).disk, Grown.refl _, fun _ done => by cases done⟩
  | publications taskId =>
      exact
        { sound.publications taskId with
          finished := fun _ done => by cases done.1
          settled := fun _ done => by cases done.1 }

/-- Every permitted step keeps the state sound. -/
theorem SoundAssets.step (sound : SoundAssets settings scope state) (idle : scope.Idle)
    (step : AssetStep) (permitted : step.Permitted settings scope state) :
    SoundAssets settings scope (step.next settings state) := by
  cases step with
  | intake taskId step =>
      have later := ((sound.imports taskId).step step).1
      refine sound.withImports ?_ ?_
      · intro another different
        exact Function.update_of_ne different _ _
      · rw [Function.update_self]
        exact later
  | importStream taskId assetId request maxFileBytes world stop =>
      have meets : Meets (AssetService.importStream settings.imports world assetId request
          maxFileBytes) (state.disk.imports taskId)
          (Reaches settings.imports (state.disk.imports taskId)) (fun _ _ => True)
          fun _ _ => True := importStream_meets (sound.imports taskId).disk
      have reaches := meets.upTo stop
      exact sound.withImports (fun _ _ => rfl)
        ((sound.imports taskId).later reaches.sound reaches.grown)
  | removeInput taskId assetId key stop =>
      have meets : Meets (removeInputAsset assetId key) (state.disk.imports taskId)
          (fun later => SoundIntakes settings.imports later ∧
            Grown (state.disk.imports taskId) later) (fun _ _ => True)
          fun _ _ => True := removeInput_meets (sound.imports taskId).disk
      obtain ⟨later, grown⟩ := meets.upTo stop
      exact sound.withImports (fun _ _ => rfl) ((sound.imports taskId).later later grown)
  | publish taskId request key now stop =>
      by_cases unwritten : Unwritten stop
      · refine sound.withPublications ?_
        rw [unwritten.upTo]
        exact sound.publications taskId
      · exact sound.withPublications
          ((publishDelivery_meets now (sound.publications taskId) (permitted unwritten)).upTo stop)
  | commit taskId instanceId batchId manifests bundleManifest now stop =>
      by_cases unwritten : Unwritten stop
      · refine sound.withPublications ?_
        rw [unwritten.upTo]
        exact sound.publications taskId
      · exact sound.withPublications
          ((commitPublicationBatch_meets now (sound.publications taskId)
            (permitted unwritten)).upTo stop)
  | recover listings now stop =>
      have secured := (recoverAssets_meets now listings sound.secured).upTo stop
      constructor
      case imports =>
        intro taskId
        have kept := secured.imports taskId
        exact (sound.imports taskId).later kept.sound kept.grown
      case publications =>
        intro taskId
        exact
          { secured.publications taskId with
            finished := fun other member => (idle.finished other member).elim
            settled := fun other member => (idle.settled other member).elim }
  | status taskId instanceId value =>
      refine sound.withPublications ((sound.publications taskId).surroundings _ _ ?_)
      intro publicationId record member found
      exact ((sound.publications taskId).resumable publicationId record member found).surroundings
        _ rfl
  | output taskId path content =>
      refine sound.withPublications ((sound.publications taskId).surroundings _ _ ?_)
      intro publicationId record member found
      by_cases own : record.request.source = path
      · exact permitted publicationId record member found own
      · exact ((sound.publications taskId).resumable publicationId record member
          found).surroundings _ (Function.update_of_ne own _ _)
  | changeInput taskId assetId file =>
      exact sound.withImports (fun _ _ => rfl)
        (SoundState.changeInput (sound.imports taskId) permitted file)
  | changeFile taskId destination content =>
      have free : (state.disk.publications taskId).files (.destination destination) = none :=
        permitted
      have same : (state.disk.publications taskId).changeFile destination content =
          state.disk.publications taskId := by
        unfold PublicationDisk.changeFile
        rw [free]
      refine sound.withPublications ?_
      rw [same]
      exact sound.publications taskId

/-- Every history of permitted steps keeps the state sound. -/
theorem assetRun_sound {steps : List AssetStep} (idle : scope.Idle)
    (along : Along (assetStep settings) (AssetStep.Permitted settings scope) unusedAssets steps) :
    SoundAssets settings scope (assetRun settings steps) := by
  refine along_induction (motive := fun _ state => SoundAssets settings scope state)
    (unusedAssets_sound idle) ?_ along
  intro steps step _ permitted sound
  exact sound.step idle step permitted

end

def publicationSettings : PublicationSettings where
  maxFileBytes := 50 * 1024 * 1024
  allowedMimeTypes := ["text/plain"]
  detectMime content _ :=
    if content.sha256 = "movie" then "application/octet-stream" else "text/plain"
  manifestContract _ := .ok ()
  bundleContract _ := .ok ()

def assetSettings : AssetServiceSettings where
  imports := intakeSettings
  publications := publicationSettings

def publishTime : UtcTime := ⟨"2026-08-25T03:00:00.000000Z", by decide +kernel⟩

def restartTime : UtcTime := ⟨"2026-08-25T04:00:00.000000Z", by decide +kernel⟩

def reissueTime : UtcTime := ⟨"2026-08-25T05:00:00.000000Z", by decide +kernel⟩

def delivery (name : String) (batchId : Option Identifier) : PublicationRequest where
  instanceId := "inst_a"
  source := ⟨"inst_a", name⟩
  role := "deliverable"
  description := ""
  batchId := batchId
  bundleId := none
  derivation := none

def publishOutput (name : String) (batchId : Option Identifier) (stop : Option (Nat × Bool)) :
    AssetStep :=
  .publish "task_1" (delivery name batchId) "publish" publishTime stop

/-- An instance writes an output. -/
def writtenOutput (name content : String) : List AssetStep :=
  [.status "task_1" "inst_a" .running,
    .output "task_1" ⟨"inst_a", name⟩ (some ⟨content, 12⟩)]

/-- An output is written and published. -/
def publishedOutput (name content : String) (batchId : Option Identifier)
    (stop : Option (Nat × Bool)) : List AssetStep :=
  writtenOutput name content ++ [publishOutput name batchId stop]

/-- The listing of the one publication. -/
def oneListing (temporaries : List PublicPath) : AssetListing where
  taskId := "task_1"
  transactions := [.publication ⟨"inst_a", "publish"⟩]
  temporaries := temporaries

def raisedBy {α : Type} : Outcome α → Option Raised
  | .ok _ => none
  | .error error => some error

theorem outcome_of_raisedBy {α : Type} {outcome : Outcome α} {error : Raised}
    (raised : raisedBy outcome = some error) : outcome = .error error := by
  cases outcome with
  | ok value => cases raised
  | error other => exact congrArg Except.error (Option.some.inj raised)

/-- The publications of the task when the output is written. -/
def writtenDisk (name content : String) : PublicationDisk :=
  (noPublications.setStatus "inst_a" .running).setOutput ⟨"inst_a", name⟩ (some ⟨content, 12⟩)

theorem writtenOutput_disk (name content : String) :
    (assetRun assetSettings (writtenOutput name content)).disk.publications "task_1" =
      writtenDisk name content := by
  have first : (assetRun assetSettings [.status "task_1" "inst_a" .running]).disk.publications
      "task_1" = noPublications.setStatus "inst_a" .running :=
    AssetDisk.publications_withPublications
  have second : (assetRun assetSettings (writtenOutput name content)).disk.publications "task_1" =
      ((assetRun assetSettings [.status "task_1" "inst_a" .running]).disk.publications
        "task_1").setOutput ⟨"inst_a", name⟩ (some ⟨content, 12⟩) :=
    AssetDisk.publications_withPublications
  rw [second, first, writtenDisk]

/-- A publication of a text can be resumed. -/
theorem publishedOutput_permitted {scope : Scope} {name content : String}
    {batchId : Option Identifier} (text : content ≠ "movie")
    (lasting : (destinationOf ⟨"inst_a", "publish"⟩ (delivery name batchId)).lasting = true)
    (asked : ∀ publicationId request, ¬ scope.published publicationId request)
    (stop : Option (Nat × Bool)) :
    Along (assetStep assetSettings) (AssetStep.Permitted assetSettings scope) unusedAssets
      (publishedOutput name content batchId stop) := by
  unfold publishedOutput
  rw [along_snoc]
  constructor
  · refine ⟨trivial, ?_, trivial⟩
    rintro publicationId record - found
    have unrecorded : ((unusedAssets.disk.withPublications "task_1"
        (noPublications.setStatus "inst_a" .running)).publications "task_1").publications
        publicationId = some record := found
    rw [AssetDisk.publications_withPublications] at unrecorded
    cases unrecorded
  · intro _ _ _
    have disk := writtenOutput_disk name content
    show Admissible publicationSettings scope
      ((assetRun assetSettings (writtenOutput name content)).disk.publications "task_1") _ _
    rw [disk]
    constructor
    case lasting => exact lasting
    case separate =>
      rintro other twin - found
      cases found
    case asked => exact fun request member => (asked _ _ member).elim
    case resumable =>
      intro member
      refine ⟨rfl, ⟨content, 12⟩, "text/plain", ?_, ?_, ?_, ?_, fun _ => rfl⟩
      · exact Function.update_self ..
      · show 12 ≤ 50 * 1024 * 1024
        decide
      · exact if_neg text
      · exact List.mem_singleton.mpr rfl

/-! ## Recoveries -/

/-- The scope of no transaction, and of all of them. -/
def Scope.nothing : Scope := {}

def Scope.everything : Scope where
  publications _ := True
  batches _ := True

theorem Scope.nothing_idle : Scope.nothing.Idle := ⟨fun _ => id, fun _ => id, fun _ => id, fun _ => id⟩

theorem Scope.everything_idle : Scope.everything.Idle :=
  ⟨fun _ => id, fun _ => id, fun _ => id, fun _ => id⟩

/-- The record of the transaction is on the disk. -/
def AssetTransaction.Recorded (disk : AssetDisk) (taskId : Identifier) : AssetTransaction → Prop
  | .imported assetId => ∃ record, (disk.imports taskId).transactions.lookup assetId = some record
  | .publication publicationId =>
      ∃ record, (disk.publications taskId).publications publicationId = some record
  | .batch batchId => ∃ record, (disk.publications taskId).batches batchId = some record

/-- The record of the transaction is committed. -/
def AssetTransaction.Committed (disk : AssetDisk) (taskId : Identifier) : AssetTransaction → Prop
  | .imported assetId => ∃ record,
      (disk.imports taskId).transactions.lookup assetId = some record ∧ record.committed = true
  | .publication publicationId => ∃ record manifest,
      (disk.publications taskId).publications publicationId = some record ∧
        record.state = .committed manifest
  | .batch batchId => ∃ record event,
      (disk.publications taskId).batches batchId = some record ∧ record.result = some event

/-- The scope of everything, with the records that are there. -/
def Scope.ofDisk (disk : PublicationDisk) : Scope :=
  { Scope.everything with
    recorded := fun publicationId => ∃ record, disk.publications publicationId = some record
    filed := fun batchId => ∃ record, disk.batches batchId = some record }

theorem SoundAssets.everything {settings : AssetServiceSettings} {state : AssetState}
    (sound : SoundAssets settings Scope.everything state) :
    AssetsSecured settings state.disk.imports
      (fun taskId => Scope.ofDisk (state.disk.publications taskId)) [] state.disk := by
  intro part
  cases part with
  | imports taskId => exact sound.secured (.imports taskId)
  | publications taskId =>
      have secured : Secured settings.publications (Scope.everything.after taskId [])
          (state.disk.publications taskId) := sound.secured (.publications taskId)
      exact
        { secured with
          recorded := fun _ there => there
          filed := fun _ there => there
          finished := fun _ done => by cases done.1
          settled := fun _ done => by cases done.1 }

/-- After a history in which every new record can be resumed and no file of a record changes, a
    recovery returns, and has finished every transaction that it listed. -/
theorem recovery_returns (settings : AssetServiceSettings) (steps : List AssetStep)
    (permitted : Along (assetStep settings) (AssetStep.Permitted settings Scope.everything)
      unusedAssets steps) (listings : List AssetListing) (now : UtcTime) :
    (AssetService.recover settings now listings (assetRun settings steps).disk).outcome = .ok () ∧
      ∀ listing ∈ listings, ∀ transaction ∈ listing.transactions,
        transaction.Recorded (assetRun settings steps).disk listing.taskId →
          transaction.Committed
            ((AssetService.recover settings now listings).after (assetRun settings steps).disk)
            listing.taskId := by
  have sound := assetRun_sound Scope.everything_idle permitted
  have meets := recoverAssets_meets now listings sound.everything
  have full : ∀ taskId, (Scope.ofDisk ((assetRun settings steps).disk.publications taskId)).Full :=
    fun _ => ⟨fun _ => trivial, fun _ => trivial⟩
  cases outcome : (AssetService.recover settings now listings (assetRun settings steps).disk).outcome
    with
  | error error => exact absurd full (meets.of_error outcome)
  | ok value =>
      refine ⟨rfl, ?_⟩
      have finished := meets.of_ok outcome
      intro listing member transaction listed recorded
      have done : (listing.taskId, transaction) ∈ listings.flatMap AssetListing.all :=
        List.mem_flatMap.mpr ⟨listing, member, List.mem_map.mpr ⟨transaction, listed, rfl⟩⟩
      cases transaction with
      | imported assetId =>
          obtain ⟨record, stored⟩ := recorded
          exact ⟨_, (finished.imports listing.taskId).done assetId done record stored, rfl⟩
      | publication publicationId =>
          exact (finished.publications listing.taskId).finished publicationId ⟨done, recorded⟩
      | batch batchId =>
          exact (finished.publications listing.taskId).settled batchId ⟨done, recorded⟩

theorem recovery_returns_interrupted :
    (AssetService.recover assetSettings restartTime [oneListing []]
        (assetRun assetSettings
          (publishedOutput "poster.txt" "text" none (some (4, false)))).disk).outcome = .ok () ∧
      ∀ listing ∈ [oneListing []], ∀ transaction ∈ listing.transactions,
        transaction.Recorded
            (assetRun assetSettings
              (publishedOutput "poster.txt" "text" none (some (4, false)))).disk listing.taskId →
          transaction.Committed
            ((AssetService.recover assetSettings restartTime
              [oneListing []]).after (assetRun assetSettings
                (publishedOutput "poster.txt" "text" none (some (4, false)))).disk)
            listing.taskId :=
  recovery_returns assetSettings (publishedOutput "poster.txt" "text" none (some (4, false)))
    (publishedOutput_permitted (by decide) (by decide +kernel) (fun _ _ => id) _) [oneListing []]
    restartTime

/-- A published file changes or gets lost. -/
def changedOutput (content : Option Blob) : List AssetStep :=
  publishedOutput "poster.txt" "text" none none ++
    [.changeFile "task_1" (.own ⟨"inst_a", "publish"⟩ "poster.txt") content]

/-- A recovery raises on the record of a refused publication, and on a published file that changed
    or got lost. -/
theorem recovery_raises :
    (AssetService.recover assetSettings restartTime [oneListing []]
        (assetRun assetSettings (publishedOutput "movie.mp4" "movie" none none)).disk).outcome =
      .error (invalidAsset "The detected MIME type is not allowed.") ∧
    (AssetService.recover assetSettings restartTime [oneListing []]
        (assetRun assetSettings (changedOutput (some ⟨"other", 12⟩))).disk).outcome =
      .error (corruptedPublication ⟨"inst_a", "publish"⟩) ∧
    (AssetService.recover assetSettings restartTime [oneListing []]
        (assetRun assetSettings (changedOutput none)).disk).outcome =
      .error (missingFile "poster.txt") :=
  ⟨outcome_of_raisedBy (by decide +kernel), outcome_of_raisedBy (by decide +kernel),
    outcome_of_raisedBy (by decide +kernel)⟩

/-! ## Interrupted calls -/

/-- A recovery, which may be stopped. -/
structure Recovery where
  listings : List AssetListing
  now : UtcTime
  stop : Option (Nat × Bool)

def afterRecoveries (settings : AssetServiceSettings) (disk : AssetDisk)
    (recoveries : List Recovery) : AssetDisk :=
  recoveries.foldl
    (fun disk recovery =>
      (AssetService.recover settings recovery.now recovery.listings).upTo recovery.stop disk)
    disk

/-- The publication has one event, its file and its manifest, and no temporaries. -/
structure PublishedOnce (disk : PublicationDisk) (publicationId : PublicationId)
    (request : PublicationRequest) (manifest : PublicationManifest) : Prop where
  single : disk.publicationsOf publicationId = [(manifest, request)]
  file : ∃ number,
    disk.files (.destination manifest.destination) = some ⟨number, manifest.content⟩
  stored : ∃ number, disk.manifests (.manifest publicationId) = some ⟨number, manifest⟩
  copy : disk.files (.temporary publicationId) = none
  manifestCopy : disk.manifests (.temporary publicationId) = none

/-- The batch has one event, and its bundle manifest. -/
structure CommittedOnce (disk : PublicationDisk) (request : BatchRequest) (event : BatchEvent) :
    Prop where
  single : disk.batchesOf request.batchId = [event]
  asked : event.request = request
  bundle : ∀ manifest ∈ request.bundleManifest, disk.bundles manifest.bundleId = some manifest

/-- A call that was stopped behind its record is finished by recoveries and the same call. -/
def PublicationRecovers (settings : AssetServiceSettings) (disk : AssetDisk) (taskId : Identifier)
    (request : PublicationRequest) (key : String) (now : UtcTime) : Prop :=
  ∀ stop recoveries later,
    let stopped := (publishDelivery settings.publications now request key).upTo stop
      (disk.publications taskId)
    let recovered := (afterRecoveries settings (disk.withPublications taskId stopped)
      recoveries).publications taskId
    let again := publishDelivery settings.publications later request key
    stopped.publications ⟨request.instanceId, key⟩ ≠ none →
      ∃ manifest, (again recovered).outcome = .ok manifest ∧
        PublishedOnce (again.after recovered) ⟨request.instanceId, key⟩ request manifest

def BatchRecovers (settings : AssetServiceSettings) (disk : AssetDisk)
    (taskId instanceId batchId : Identifier) (manifests : List PublicationManifest)
    (bundleManifest : Option BundleManifest) (now : UtcTime) : Prop :=
  ∀ stop recoveries later,
    let stopped := (commitPublicationBatch settings.publications now instanceId batchId manifests
      bundleManifest).upTo stop (disk.publications taskId)
    let recovered := (afterRecoveries settings (disk.withPublications taskId stopped)
      recoveries).publications taskId
    let again := commitPublicationBatch settings.publications later instanceId batchId manifests
      bundleManifest
    stopped.batches batchId ≠ none →
      ∃ event, (again recovered).outcome = .ok event ∧
        CommittedOnce (again.after recovered)
          (batchRequest instanceId batchId manifests bundleManifest) event

/-- No other publication goes to the destination: a bundle is published under one key for each of
    its files. -/
def Unshared (disk : PublicationDisk) (publicationId : PublicationId)
    (request : PublicationRequest) : Prop :=
  ∀ other record, disk.publications other = some record →
    record.destination = destinationOf publicationId request → other = publicationId

/-- No other batch has another manifest of the bundle. -/
def UnsharedBundle (disk : PublicationDisk) (request : BatchRequest) : Prop :=
  ∀ other record, disk.batches other = some record → ∀ manifest ∈ request.bundleManifest,
    ∀ written ∈ record.request.bundleManifest, manifest.bundleId = written.bundleId →
      manifest = written

section

variable {settings : AssetServiceSettings} {disk : AssetDisk} {taskId : Identifier}

/-- The publications of a task have the statuses and the outputs of the disk. -/
def SameSurroundings (disk later : PublicationDisk) : Prop :=
  later.statuses = disk.statuses ∧ later.outputs = disk.outputs

theorem SameSurroundings.trans {disk between later : PublicationDisk}
    (first : SameSurroundings disk between) (second : SameSurroundings between later) :
    SameSurroundings disk later :=
  ⟨second.1.trans first.1, second.2.trans first.2⟩

theorem SameSurroundings.apply {before later : PublicationDisk} {write : PublicationWrite}
    (same : SameSurroundings before later) :
    SameSurroundings before (Disk.apply later write) :=
  ⟨statuses_apply.trans same.1, outputs_apply.trans same.2⟩

/-- The service writes neither statuses nor outputs. -/
theorem sameSurroundings_upTo {publications : PublicationDisk} {α : Type}
    (script : PublicationScript α) (stop : Option (Nat × Bool)) :
    SameSurroundings publications (script.upTo stop publications) := by
  have keeps (write : PublicationWrite) :
      Keeps (SameSurroundings publications) (fun _ => False) write := by
    intro later same
    exact ⟨same.apply, .inl same⟩
  have kept := (Maintains.always keeps script publications ⟨rfl, rfl⟩).upTo stop
  exact kept.resolve_right id

/-- What every write keeps of the publications of a task, a script on all tasks keeps. -/
theorem publications_upTo {keeps : PublicationDisk → Prop} {α : Type} (script : AssetScript α)
    (stop : Option (Nat × Bool))
    (apply : ∀ later write, keeps later → keeps (Disk.apply later write))
    (holds : keeps (disk.publications taskId)) :
    keeps ((script.upTo stop disk).publications taskId) := by
  have kept (write : PartWrite AssetWrites) :
      Keeps (fun later : AssetDisk => keeps (later.publications taskId)) (fun _ => False)
        write := by
    intro later holds
    obtain ⟨part, write⟩ := write
    by_cases own : AssetPart.publications taskId = part
    · subst own
      refine ⟨?_, .inl ?_⟩
      · show keeps (Function.update later _ (Disk.apply (later _) write) (.publications taskId))
        rw [Function.update_self]
        exact apply _ write holds
      · show keeps (Function.update later _ (Disk.tear (later _) write) (.publications taskId))
        rw [Function.update_self]
        exact holds
    · refine ⟨?_, .inl ?_⟩
      · show keeps (Function.update later part (Disk.apply (later part) write)
          (.publications taskId))
        rw [Function.update_of_ne own]
        exact holds
      · show keeps (Function.update later part (Disk.tear (later part) write)
          (.publications taskId))
        rw [Function.update_of_ne own]
        exact holds
  exact ((Maintains.always kept script disk holds).upTo stop).resolve_right id

theorem sameSurroundings_recovered (recoveries : List Recovery) :
    SameSurroundings (disk.publications taskId)
      ((afterRecoveries settings disk recoveries).publications taskId) := by
  induction recoveries generalizing disk with
  | nil => exact ⟨rfl, rfl⟩
  | cons recovery rest ih =>
      have first : SameSurroundings (disk.publications taskId)
          (((AssetService.recover settings recovery.now recovery.listings).upTo recovery.stop
            disk).publications taskId) :=
        publications_upTo _ recovery.stop (fun _ _ same => same.apply) ⟨rfl, rfl⟩
      exact first.trans ih

/-- Recoveries keep the scopes of all tasks secured. -/
theorem afterRecoveries_secured {start : Identifier → IntakeDisk} {scope : Identifier → Scope}
    (secured : AssetsSecured settings start scope [] disk) (recoveries : List Recovery) :
    AssetsSecured settings start scope [] (afterRecoveries settings disk recoveries) := by
  induction recoveries generalizing disk with
  | nil => exact secured
  | cons recovery rest ih =>
      exact ih ((recoverAssets_meets recovery.now recovery.listings secured).upTo recovery.stop)

/-- One task has a scope of its own, and recoveries keep it secured. -/
theorem SoundAssets.recovered {state : AssetState} {scope : Scope}
    {stopped : PublicationDisk} (sound : SoundAssets settings Scope.nothing state)
    (secured : Secured settings.publications (scope.after taskId []) stopped)
    (recoveries : List Recovery) :
    Secured settings.publications (scope.after taskId [])
      ((afterRecoveries settings (state.disk.withPublications taskId stopped)
        recoveries).publications taskId) := by
  have all : AssetsSecured settings state.disk.imports
      (Function.update (fun _ => Scope.nothing) taskId scope) []
      (state.disk.withPublications taskId stopped) := by
    intro part
    cases part with
    | imports another =>
        have kept := sound.secured.imports another
        rw [← AssetDisk.imports_withPublications] at kept
        exact kept
    | publications another =>
        show Secured settings.publications
          ((Function.update (fun _ => Scope.nothing) taskId scope another).after another [])
          ((state.disk.withPublications taskId stopped).publications another)
        by_cases same : another = taskId
        · subst same
          rw [Function.update_self, AssetDisk.publications_withPublications]
          exact secured
        · rw [Function.update_of_ne same, AssetDisk.publications_withPublications_ne same]
          exact sound.secured.publications another
  have later := (afterRecoveries_secured all recoveries).publications taskId
  rw [Function.update_self] at later
  exact later

end

/-! ## Calls that are issued again -/

section

variable {settings : AssetServiceSettings} {state : AssetState} {taskId : Identifier}

/-- The scope of one publication. -/
def Scope.ofPublication (publicationId : PublicationId) (request : PublicationRequest) : Scope where
  publications other := other = publicationId
  published other asked := other = publicationId ∧ asked = request

/-- The scope of one batch. -/
def Scope.ofBatch (request : BatchRequest) : Scope where
  batches other := other = request.batchId
  committed other asked := other = request.batchId ∧ asked = request

/-- A destination outside of bundles is not shared. -/
theorem SoundPublications.unshared {publications : PublicationSettings} {disk : PublicationDisk}
    {publicationId : PublicationId} {request : PublicationRequest}
    (sound : SoundPublications publications disk)
    (bundled : ∀ bundleId ∈ request.bundleId, Unshared disk publicationId request) :
    Unshared disk publicationId request := by
  cases bundle : request.bundleId with
  | some bundleId => exact bundled bundleId bundle
  | none =>
      intro other record found same
      have belongs := (sound.belongs other record found).destination
      rw [belongs] at same
      unfold destinationOf at same
      rw [bundle] at same
      split at same
      · cases same
      · exact (Destination.own.inj same).1

variable {request : PublicationRequest} {key : String}

theorem publication_recovers (timeless : Timeless settings.publications)
    (sound : SoundAssets settings Scope.nothing state) {now : UtcTime}
    {manifest : PublicationManifest}
    (lasting : (destinationOf ⟨request.instanceId, key⟩ request).lasting = true)
    (returned : (publishDelivery settings.publications now request key
      (state.disk.publications taskId)).outcome = .ok manifest)
    (bundled : ∀ bundleId ∈ request.bundleId,
      Unshared (state.disk.publications taskId) ⟨request.instanceId, key⟩ request) :
    PublicationRecovers settings state.disk taskId request key now := by
  have publications := (sound.publications taskId).sound
  have unshared := publications.unshared bundled
  obtain ⟨admitted, known, fresh⟩ :=
    publishDelivery_ok timeless publications lasting returned
  have belongs {record : PublicationRecord}
      (found : (state.disk.publications taskId).publications ⟨request.instanceId, key⟩ =
        some record) : record.destination = destinationOf ⟨request.instanceId, key⟩ request := by
    rw [(publications.belongs _ _ found).destination, (known record found).1]
  have secured : Secured settings.publications (Scope.ofPublication ⟨request.instanceId, key⟩
      request) (state.disk.publications taskId) := by
    constructor
    case sound => exact publications
    case resumable =>
      rintro other record rfl found
      exact (known record found).2
    case separate =>
      rintro other record another twin rfl found listed same
      exact unshared another twin listed (same.trans (belongs found))
    case committable => exact fun _ _ member => member.elim
    case bundles => exact fun _ _ _ _ member => member.elim
    case published =>
      rintro other asked record ⟨rfl, rfl⟩ found
      exact (known record found).1
    case committed => exact fun _ _ _ member => member.elim
    case recorded => exact fun _ member => member.elim
    case filed => exact fun _ member => member.elim
    case finished => exact fun _ member => member.elim
    case settled => exact fun _ member => member.elim
  have admissible (absent : (state.disk.publications taskId).publications
      ⟨request.instanceId, key⟩ = none) :
      Admissible settings.publications (Scope.ofPublication ⟨request.instanceId, key⟩ request)
        (state.disk.publications taskId) (preparedRecord now ⟨request.instanceId, key⟩ request)
        ⟨request.instanceId, key⟩ := by
    constructor
    case lasting => exact lasting
    case resumable => exact fun _ => fresh absent
    case separate =>
      rintro other twin - listed same
      obtain rfl := unshared other twin listed same
      cases absent.symm.trans listed
    case asked =>
      rintro asked ⟨-, rfl⟩
      rfl
  intro stop recoveries later stopped recovered again recorded
  have during : Secured settings.publications _ stopped :=
    (publishDelivery_meets now secured fun _ => admissible).upTo stop
  have there : ∃ record, stopped.publications ⟨request.instanceId, key⟩ = some record :=
    Option.ne_none_iff_exists'.mp recorded
  have kept : Secured settings.publications
      (({ Scope.ofPublication ⟨request.instanceId, key⟩ request with
        recorded := (· = ⟨request.instanceId, key⟩) } : Scope).after taskId []) stopped :=
    { during with
      recorded := by
        rintro other rfl
        exact there
      finished := fun _ done => by cases done.1
      settled := fun _ done => by cases done.1 }
  have afterwards := sound.recovered kept recoveries
  have surroundings : SameSurroundings (state.disk.publications taskId) recovered := by
    refine (sameSurroundings_upTo (publishDelivery settings.publications now request key)
      stop).trans ?_
    have rest : SameSurroundings ((state.disk.withPublications taskId stopped).publications taskId)
        recovered := sameSurroundings_recovered recoveries
    rw [AssetDisk.publications_withPublications] at rest
    exact rest
  obtain ⟨record, found⟩ := afterwards.recorded _ rfl
  have meets := publishDelivery_meets later afterwards fun _ absent => by
    cases absent.symm.trans found
  cases outcome : (again recovered).outcome with
  | error error =>
      refine absurd ⟨?_, rfl, ?_⟩ (meets.of_error outcome)
      · obtain ⟨status, stored, active⟩ := admitted.known
        refine ⟨⟨status, ?_, active⟩, admitted.bounds, admitted.path, ?_⟩
        · exact (congrFun surroundings.1 _).trans stored
        · exact fun none => admitted.source ((congrFun surroundings.2 _).symm.trans none)
      · exact fun record stored => afterwards.published _ _ record ⟨rfl, rfl⟩ stored
  | ok manifest =>
      obtain ⟨last, asked, finished⟩ := meets.of_ok outcome
      have final : Secured settings.publications _ (again.after recovered) := meets.upTo none
      have phase := final.sound.phase _ _ finished.record
      have published : Published settings.publications (again.after recovered)
          ⟨request.instanceId, key⟩ _ manifest := phase
      refine ⟨manifest, rfl, ?_⟩
      constructor
      case single =>
        have event := published.event
        dsimp only at event
        rw [asked] at event
        exact event
      case file =>
        rw [published.describes.destination]
        exact published.file
      case stored => exact published.manifest
      case copy => exact finished.copy
      case manifestCopy => exact finished.manifestCopy

variable {instanceId batchId : Identifier} {manifests : List PublicationManifest}
  {bundleManifest : Option BundleManifest}

theorem batch_recovers (sound : SoundAssets settings Scope.nothing state) {now : UtcTime}
    {event : BatchEvent}
    (returned : (commitPublicationBatch settings.publications now instanceId batchId manifests
      bundleManifest (state.disk.publications taskId)).outcome = .ok event)
    (unshared : UnsharedBundle (state.disk.publications taskId)
      (batchRequest instanceId batchId manifests bundleManifest)) :
    BatchRecovers settings state.disk taskId instanceId batchId manifests bundleManifest now := by
  have publications := (sound.publications taskId).sound
  obtain ⟨admitted, known, resumable⟩ := commitPublicationBatch_ok returned
  have secured : Secured settings.publications
      (Scope.ofBatch (batchRequest instanceId batchId manifests bundleManifest))
      (state.disk.publications taskId) := by
    constructor
    case sound => exact publications
    case resumable => exact fun _ _ member => member.elim
    case separate => exact fun _ _ _ _ member => member.elim
    case committable =>
      rintro other record rfl found
      rw [known record found]
      exact resumable
    case bundles =>
      rintro other record another twin rfl found listed manifest asked written wanted same
      rw [known record found] at asked
      exact unshared another twin listed manifest asked written wanted same
    case published => exact fun _ _ _ member => member.elim
    case committed =>
      rintro other asked record ⟨rfl, rfl⟩ found
      exact known record found
    case recorded => exact fun _ member => member.elim
    case filed => exact fun _ member => member.elim
    case finished => exact fun _ member => member.elim
    case settled => exact fun _ member => member.elim
  have admissible : BatchAdmissible settings.publications
      (Scope.ofBatch (batchRequest instanceId batchId manifests bundleManifest))
      (state.disk.publications taskId)
      (batchRequest instanceId batchId manifests bundleManifest) := by
    constructor
    case resumable => exact fun _ => resumable
    case bundles =>
      intro other twin _ listed manifest asked written wanted same
      exact unshared other twin listed manifest asked written wanted same
    case asked =>
      rintro asked ⟨-, rfl⟩
      rfl
  intro stop recoveries later stopped recovered again filed
  have during : Secured settings.publications _ stopped :=
    (commitPublicationBatch_meets now secured fun _ _ => admissible).upTo stop
  have there : ∃ record, stopped.batches batchId = some record :=
    Option.ne_none_iff_exists'.mp filed
  have kept : Secured settings.publications
      (({ Scope.ofBatch (batchRequest instanceId batchId manifests bundleManifest) with
        filed := (· = batchId) } : Scope).after taskId []) stopped :=
    { during with
      filed := by
        rintro other rfl
        exact there
      finished := fun _ done => by cases done.1
      settled := fun _ done => by cases done.1 }
  have afterwards := sound.recovered kept recoveries
  have surroundings : SameSurroundings (state.disk.publications taskId) recovered := by
    refine (sameSurroundings_upTo (commitPublicationBatch settings.publications now instanceId
      batchId manifests bundleManifest) stop).trans ?_
    have rest : SameSurroundings ((state.disk.withPublications taskId stopped).publications taskId)
        recovered := sameSurroundings_recovered recoveries
    rw [AssetDisk.publications_withPublications] at rest
    exact rest
  obtain ⟨record, found⟩ := afterwards.filed batchId rfl
  have meets := @commitPublicationBatch_meets settings.publications _ recovered instanceId batchId
    manifests bundleManifest later afterwards fun _ absent => by cases absent.symm.trans found
  cases outcome : (again recovered).outcome with
  | error error =>
      refine absurd ⟨?_, rfl, ?_⟩ (meets.of_error outcome)
      · obtain ⟨status, stored⟩ := admitted.known
        exact
          { admitted with
            known := ⟨status, (congrFun surroundings.1 _).trans stored⟩ }
      · exact fun record stored => afterwards.committed batchId _ record ⟨rfl, rfl⟩ stored
  | ok event =>
      have finished := meets.of_ok outcome
      refine ⟨event, rfl, ?_⟩
      constructor
      case single => exact finished.single
      case asked => exact finished.commits.asked
      case bundle => exact finished.commits.bundle

end

/-- In every history in which no output is published whose name matches `.*.tmp` and no file of a
    record changes, a call that is stopped behind its record is finished by recoveries and the same
    call, once and with its file, and the assets of a batch are visible together. -/
theorem publications_recovered (settings : AssetServiceSettings)
    (timeless : Timeless settings.publications) (steps : List AssetStep)
    (permitted : Along (assetStep settings) (AssetStep.Permitted settings Scope.nothing)
      unusedAssets steps) (taskId : Identifier) :
    (∀ request key now manifest,
      (publishDelivery settings.publications now request key
        ((assetRun settings steps).disk.publications taskId)).outcome = .ok manifest →
      (destinationOf ⟨request.instanceId, key⟩ request).lasting = true →
      (∀ bundleId ∈ request.bundleId,
        Unshared ((assetRun settings steps).disk.publications taskId) ⟨request.instanceId, key⟩
          request) →
      PublicationRecovers settings (assetRun settings steps).disk taskId request key now) ∧
    (∀ instanceId batchId manifests bundleManifest now event,
      (commitPublicationBatch settings.publications now instanceId batchId manifests
        bundleManifest ((assetRun settings steps).disk.publications taskId)).outcome = .ok event →
      UnsharedBundle ((assetRun settings steps).disk.publications taskId)
        (batchRequest instanceId batchId manifests bundleManifest) →
      BatchRecovers settings (assetRun settings steps).disk taskId instanceId batchId manifests
        bundleManifest now) ∧
    ∀ batchId, VisibleTogether ((assetRun settings steps).disk.publications taskId) batchId := by
  have sound := assetRun_sound Scope.nothing_idle permitted
  refine ⟨?_, ?_, ?_⟩
  · intro request key now manifest returned lasting unshared
    exact publication_recovers timeless sound lasting returned unshared
  · intro instanceId batchId manifests bundleManifest now event returned unshared
    exact batch_recovers sound returned unshared
  · exact (sound.publications taskId).sound.visible_together

/-- The manifest of the one publication. -/
def deliveredManifest (batchId : Option Identifier) : PublicationManifest :=
  buildManifest publishTime ⟨"inst_a", "publish"⟩
    (preparedRecord publishTime ⟨"inst_a", "publish"⟩
      (delivery "poster.txt" batchId)) ⟨"text", 12⟩ "text/plain"

theorem publications_recovered_interrupted :
    PublicationRecovers assetSettings
        (assetRun assetSettings (publishedOutput "poster.txt" "text" (some "batch_1")
          (some (4, false)))).disk "task_1" (delivery "poster.txt" (some "batch_1")) "publish"
        restartTime ∧
      BatchRecovers assetSettings
        (assetRun assetSettings (publishedOutput "poster.txt" "text" (some "batch_1") none)).disk
        "task_1" "inst_a" "batch_1" [deliveredManifest (some "batch_1")] none
        restartTime :=
  ⟨(publications_recovered assetSettings (fun _ _ _ _ => rfl) _
      (publishedOutput_permitted (by decide) (by decide +kernel) (fun _ _ => id) _) "task_1").1
      _ _ _ { deliveredManifest (some "batch_1") with publishedAt := restartTime }
      (by decide +kernel) (by decide +kernel) (fun _ member => by cases member),
    (publications_recovered assetSettings (fun _ _ _ _ => rfl) _
      (publishedOutput_permitted (by decide) (by decide +kernel) (fun _ _ => id) _) "task_1").2.1
      _ _ _ _ _ ⟨batchRequest "inst_a" "batch_1" [deliveredManifest (some "batch_1")] none,
        [⟨"inst_a", "publish"⟩], restartTime⟩
      (by decide +kernel) (fun _ _ _ _ member => by cases member)⟩

/-- The recovery removes an output that is published as `.draft.tmp`. -/
theorem hidden_publication_lost :
    (∃ manifest, (publishDelivery publicationSettings publishTime
      (delivery ".draft.tmp" none) "publish"
      ((assetRun assetSettings (writtenOutput ".draft.tmp" "text")).disk.publications
        "task_1")).outcome = .ok manifest) ∧
    ¬ PublicationRecovers assetSettings
      (assetRun assetSettings (writtenOutput ".draft.tmp" "text")).disk "task_1"
      (delivery ".draft.tmp" none) "publish" publishTime := by
  constructor
  · refine ⟨buildManifest publishTime ⟨"inst_a", "publish"⟩
      (preparedRecord publishTime ⟨"inst_a", "publish"⟩
        (delivery ".draft.tmp" none)) ⟨"text", 12⟩ "text/plain", ?_⟩
    decide +kernel
  · intro recovers
    obtain ⟨manifest, returned, -⟩ := recovers none
      [⟨[oneListing [.destination (.own ⟨"inst_a", "publish"⟩ ".draft.tmp")]],
        restartTime, none⟩] reissueTime (by decide +kernel)
    have quiet := (congrArg raisedBy returned).trans (show raisedBy (.ok manifest) = none from rfl)
    exact absurd quiet (by decide +kernel)

end DesignHarness
