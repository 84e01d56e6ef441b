import DesignHarness.Services.PublicationRecovery

/-!
# Calls that publish and commit

A call that returned had everything its transaction needs (`publishDelivery_ok`,
`commitPublicationBatch_ok`); a call whose transaction is on the disk and secured returns
(`publishDelivery_meets`, `commitPublicationBatch_meets`).
-/

namespace DesignHarness

open Library AssetService

/-- The contract of a manifest checks of its timestamps no more than their format. -/
def Timeless (settings : PublicationSettings) : Prop :=
  ∀ manifest (publishedAt createdAt : UtcTime), settings.manifestContract manifest = .ok () →
    settings.manifestContract
      { manifest with publishedAt := publishedAt, createdAt := createdAt } = .ok ()

/-- The checks in front of the record of a publication. -/
structure PublishAdmitted (disk : PublicationDisk) (request : PublicationRequest) : Prop where
  known : ∃ status, disk.statuses request.instanceId = some status ∧ status ≠ .archived
  bounds : 1 ≤ request.role.length ∧ request.role.length ≤ 128 ∧
    request.description.length ≤ 4000
  path : request.source.instanceId = request.instanceId
  source : disk.outputs request.source ≠ none

section

variable {settings : PublicationSettings} {disk : PublicationDisk} {publicationId : PublicationId}
  {record : PublicationRecord} {content : Blob} {mimeType : String}
  {prepared : Option PublicationManifest}

theorem prepareManifest_ok {now : UtcTime} {manifest : PublicationManifest}
    (returned : (prepareManifest now publicationId record content mimeType prepared disk).outcome =
      .ok manifest) :
    manifest = prepared.getD (buildManifest now publicationId record content mimeType) := by
  cases prepared with
  | some stored => exact (Except.ok.inj returned).symm
  | none => exact (Except.ok.inj returned).symm

/-- A publication that was finished had its destination and the contract of its manifest. -/
theorem finishPublication_ok {now : UtcTime} {manifest : PublicationManifest}
    (returned : (finishPublication settings now publicationId record content mimeType prepared
      disk).outcome = .ok manifest) :
    (∀ copy ∈ disk.files (.temporary publicationId),
        ∀ file ∈ disk.files (.destination record.destination), copy.number = file.number) ∧
      settings.manifestContract
        (prepared.getD (buildManifest now publicationId record content mimeType)) = .ok () := by
  unfold finishPublication at returned
  obtain ⟨⟨⟩, linked, returned⟩ := Script.bind_ok returned
  obtain ⟨⟨⟩, -, returned⟩ := Script.bind_ok returned
  obtain ⟨made, preparing, returned⟩ := Script.bind_ok returned
  obtain ⟨⟨⟩, contract, -⟩ := Script.lift_ok returned
  rw [prepareManifest_ok preparing] at contract
  refine ⟨?_, contract⟩
  intro copy copied file taken
  have there : disk.files (.temporary publicationId) = some copy := copied
  have owned : disk.files (.destination record.destination) = some file := taken
  unfold linkCopy at linked
  rw [Script.run_read, there] at linked
  dsimp only at linked
  rw [Script.run_read, owned] at linked
  exact ensure_eq_ok.mp linked

/-- A prepared publication that was copied had its output in bounds. -/
theorem copyOutput_ok {copied : Blob × String}
    (returned : (copyOutput settings publicationId record disk).outcome = .ok copied) :
    disk.files (.destination record.destination) = none ∧
      disk.outputs record.request.source = some copied.1 ∧
      copied.1.size ≤ settings.maxFileBytes ∧
      settings.detectMime copied.1 (TaskIntakeService.suffix record.request.source.name) =
        copied.2 ∧
      copied.2 ∈ settings.allowedMimeTypes := by
  unfold copyOutput at returned
  rw [Script.run_read] at returned
  obtain ⟨⟨⟩, free, returned⟩ := Script.lift_ok returned
  rw [Script.run_read] at returned
  cases output : disk.outputs record.request.source with
  | none =>
      rw [output] at returned
      cases returned
  | some content =>
      rw [output] at returned
      dsimp only at returned
      obtain ⟨⟨⟩, -, returned⟩ := Script.bind_ok returned
      obtain ⟨⟨⟩, size, returned⟩ := Script.lift_ok returned
      obtain ⟨⟨⟩, -, returned⟩ := Script.bind_ok returned
      split at returned
      · obtain ⟨⟨⟩, -, returned⟩ := Script.bind_ok returned
        cases returned
      · next accepted =>
          obtain ⟨⟨⟩, -, returned⟩ := Script.bind_ok returned
          obtain rfl := Except.ok.inj returned
          exact ⟨ensure_eq_ok.mp free, rfl, ensure_eq_ok.mp size, rfl, not_not.mp accepted⟩

/-- A publication that was resumed to its end could be resumed. -/
theorem resumePublication_ok {now : UtcTime} {manifest : PublicationManifest}
    (timeless : Timeless settings)
    (returned : (resumePublication settings now publicationId record disk).outcome = .ok manifest)
    (sound : SoundPublications settings disk)
    (found : disk.publications publicationId = some record) :
    Resumable settings disk publicationId record := by
  have phase := sound.phase _ _ found
  unfold PublicationPhase at phase
  unfold resumePublication at returned
  unfold Resumable
  cases state : record.state with
  | committed manifest => trivial
  | prepared =>
      rw [state] at phase returned
      dsimp only at returned ⊢
      rw [Script.run_read, publicationEvent_of_nil phase.1] at returned
      obtain ⟨⟨content, mimeType⟩, copied, returned⟩ := Script.bind_ok returned
      obtain ⟨free, output, size, detected, accepted⟩ := copyOutput_ok copied
      obtain ⟨-, contract⟩ := finishPublication_ok returned
      refine ⟨free, content, mimeType, output, size, detected, accepted, ?_⟩
      exact fun later => timeless _ later record.createdAt contract
  | copied content mimeType prepared =>
      rw [state] at returned
      dsimp only at returned ⊢
      intro none
      rw [Script.run_read, publicationEvent_of_nil none] at returned
      obtain ⟨owned, contract⟩ := finishPublication_ok returned
      refine ⟨owned, ?_, ?_⟩
      · rintro stored member
        obtain rfl : prepared = some stored := member
        exact contract
      · rintro rfl later
        exact timeless _ later record.createdAt contract

end

/-! ## Publishing -/

/-- The record that a new publication starts with. -/
def preparedRecord (now : UtcTime) (publicationId : PublicationId)
    (request : PublicationRequest) : PublicationRecord :=
  ⟨request, destinationOf publicationId request, now, .prepared⟩

/-- What a new publication finds: its record stays in the scope and leaves it secured. -/
structure Admissible (settings : PublicationSettings) (scope : Scope) (disk : PublicationDisk)
    (record : PublicationRecord) (publicationId : PublicationId) : Prop where
  lasting : record.destination.lasting = true
  resumable : scope.publications publicationId → Resumable settings disk publicationId record
  separate : ∀ other twin, scope.publications publicationId ∨ scope.publications other →
    disk.publications other = some twin → twin.destination ≠ record.destination
  asked : ∀ request, scope.published publicationId request → record.request = request

section

variable {settings : PublicationSettings} {scope : Scope} {disk : PublicationDisk}
  {publicationId : PublicationId} {record : PublicationRecord} {request : PublicationRequest}
  {key : String}

theorem requireInstance_ok {instanceId : Identifier} {status : InstanceStatus} :
    requireInstance instanceId disk = .ok status ↔ disk.statuses instanceId = some status := by
  unfold requireInstance
  cases disk.statuses instanceId with
  | none => simp
  | some other => simp

/-- The record of a new publication is allowed. -/
theorem preparedRecord_allowed (now : UtcTime) (sound : SoundPublications settings disk)
    (absent : disk.publications ⟨request.instanceId, key⟩ = none)
    (lasting : (destinationOf ⟨request.instanceId, key⟩ request).lasting = true) :
    PublicationAllowed settings disk (.publication ⟨request.instanceId, key⟩
      (preparedRecord now ⟨request.instanceId, key⟩ request)) :=
  ⟨⟨rfl, rfl, lasting⟩, sound.unpublished _ absent, fun _ _ found => by
    cases absent.symm.trans found⟩

/-- The call had what its transaction needs. -/
theorem publishDelivery_ok {now : UtcTime} {manifest : PublicationManifest}
    (timeless : Timeless settings) (sound : SoundPublications settings disk)
    (lasting : (destinationOf ⟨request.instanceId, key⟩ request).lasting = true)
    (returned : (publishDelivery settings now request key disk).outcome = .ok manifest) :
    PublishAdmitted disk request ∧
      (∀ record, disk.publications ⟨request.instanceId, key⟩ = some record →
        record.request = request ∧ Resumable settings disk ⟨request.instanceId, key⟩ record) ∧
      (disk.publications ⟨request.instanceId, key⟩ = none →
        Resumable settings disk ⟨request.instanceId, key⟩
          (preparedRecord now ⟨request.instanceId, key⟩ request)) := by
  unfold publishDelivery at returned
  rw [Script.run_read] at returned
  obtain ⟨status, known, returned⟩ := Script.lift_ok returned
  obtain ⟨⟨⟩, active, returned⟩ := Script.lift_ok returned
  obtain ⟨⟨⟩, bounds, returned⟩ := Script.lift_ok returned
  obtain ⟨⟨⟩, path, returned⟩ := Script.lift_ok returned
  rw [Script.run_read] at returned
  obtain ⟨⟨⟩, source, returned⟩ := Script.lift_ok returned
  have admitted : PublishAdmitted disk request :=
    { known := ⟨status, requireInstance_ok.mp known, ensure_eq_ok.mp active⟩
      bounds := ensure_eq_ok.mp bounds
      path := ensure_eq_ok.mp path
      source := ensure_eq_ok.mp source }
  refine ⟨admitted, ?_⟩
  rw [Script.run_read] at returned
  cases found : disk.publications ⟨request.instanceId, key⟩ with
  | some record =>
      rw [found] at returned
      obtain ⟨⟨⟩, asked, returned⟩ := Script.lift_ok returned
      constructor
      · rintro other same
        obtain rfl := Option.some.inj same
        exact ⟨ensure_eq_ok.mp asked, resumePublication_ok timeless returned sound found⟩
      · intro none
        cases none
  | none =>
      rw [found] at returned
      obtain ⟨⟨⟩, -, returned⟩ := Script.bind_ok returned
      constructor
      · intro record same
        cases same
      · intro _
        have later := sound.apply (preparedRecord_allowed now sound found lasting)
        have resumed : (resumePublication settings now ⟨request.instanceId, key⟩
            (preparedRecord now ⟨request.instanceId, key⟩ request)
            (Disk.apply disk (.publication ⟨request.instanceId, key⟩
              (preparedRecord now ⟨request.instanceId, key⟩ request)))).outcome =
            .ok manifest := returned
        have resumable := resumePublication_ok timeless resumed later
          PublicationDisk.publications_publication
        exact resumable

/-- The first write of a new publication. -/
theorem Secured.publish (now : UtcTime) (secured : Secured settings scope disk)
    (absent : disk.publications ⟨request.instanceId, key⟩ = none)
    (admissible : Admissible settings scope disk
      (preparedRecord now ⟨request.instanceId, key⟩ request) ⟨request.instanceId, key⟩) :
    Secured settings scope (Disk.apply disk (.publication ⟨request.instanceId, key⟩
      (preparedRecord now ⟨request.instanceId, key⟩ request))) := by
  have allowed := preparedRecord_allowed now secured.sound absent admissible.lasting
  have others : Secured settings (scope.without ⟨request.instanceId, key⟩) disk :=
    { secured with
      resumable := fun other twin member => secured.resumable other twin member.1
      separate := fun other twin third next member =>
        secured.separate other twin third next member.1 }
  have outside : Outside (scope.without ⟨request.instanceId, key⟩) disk
      (.publication ⟨request.instanceId, key⟩
        (preparedRecord now ⟨request.instanceId, key⟩ request)) := by
    constructor
    case publication =>
      rintro other record member - about
      exact member.2 (Option.some.inj about).symm
    case destination =>
      intro other twin member found
      refine ⟨fun takes => takes, ?_⟩
      rintro third written same equal
      obtain ⟨rfl, rfl⟩ := PublicationWrite.publication.inj same
      exact admissible.separate other twin (.inr member.1) found equal.symm
    case batch =>
      rintro _ - about
      cases about
    case bundle =>
      rintro _ _ - - _ -
      constructor
      · intro _ _ written
        cases written
      · intro _ _ written
        cases written
    case published =>
      rintro other asked member written same
      obtain ⟨rfl, rfl⟩ := PublicationWrite.publication.inj same
      exact admissible.asked asked member
    case committed =>
      rintro _ _ - _ written
      cases written
  have during : DuringPublication settings scope ⟨request.instanceId, key⟩
      (preparedRecord now ⟨request.instanceId, key⟩ request)
      (Disk.apply disk (.publication ⟨request.instanceId, key⟩
        (preparedRecord now ⟨request.instanceId, key⟩ request))) := by
    refine ⟨others.apply allowed outside, ?_, ?_⟩
    · intro member other twin found same
      rcases publications_apply found with stored | written
      · exact absurd same (admissible.separate other twin (.inl member) stored)
      · exact (PublicationWrite.publication.inj written).1.symm
    · exact ⟨_, PublicationDisk.publications_publication, rfl, rfl⟩
  refine during.secured fun member => ?_
  exact ⟨_, PublicationDisk.publications_publication, rfl, rfl, admissible.resumable member⟩

/-- Wherever the call is stopped the scope is secured; it returns when its record is in the
    scope. -/
theorem publishDelivery_meets (now : UtcTime) (secured : Secured settings scope disk)
    (fresh : PublishAdmitted disk request →
      disk.publications ⟨request.instanceId, key⟩ = none →
        Admissible settings scope disk (preparedRecord now ⟨request.instanceId, key⟩ request)
          ⟨request.instanceId, key⟩) :
    Meets (publishDelivery settings now request key) disk (Secured settings scope)
      (fun manifest later => ∃ record, record.request = request ∧
        Finished later ⟨request.instanceId, key⟩ record manifest)
      fun _ _ => ¬ (PublishAdmitted disk request ∧
        scope.publications ⟨request.instanceId, key⟩ ∧
        ∀ record, disk.publications ⟨request.instanceId, key⟩ = some record →
          record.request = request) := by
  unfold publishDelivery
  refine Meets.looked rfl (Meets.guarded secured ?_ ?_)
  case refine_2 =>
    rintro _ failed ⟨admitted, -⟩
    obtain ⟨status, known, -⟩ := admitted.known
    rw [requireInstance_ok.mpr known] at failed
    cases failed
  intro status found
  have known := requireInstance_ok.mp found
  refine Meets.guarded secured ?_ ?_
  case refine_2 =>
    rintro _ failed ⟨admitted, -⟩
    obtain ⟨other, same, active⟩ := admitted.known
    obtain rfl := Option.some.inj (known.symm.trans same)
    rw [ensure_of active] at failed
    cases failed
  intro _ active
  refine Meets.guarded secured ?_ ?_
  case refine_2 =>
    rintro _ failed ⟨admitted, -⟩
    rw [ensure_of admitted.bounds] at failed
    cases failed
  intro _ bounds
  refine Meets.guarded secured ?_ ?_
  case refine_2 =>
    rintro _ failed ⟨admitted, -⟩
    rw [ensure_of admitted.path] at failed
    cases failed
  intro _ path
  refine Meets.looked rfl (Meets.guarded secured ?_ ?_)
  case refine_2 =>
    rintro _ failed ⟨admitted, -⟩
    rw [ensure_of admitted.source] at failed
    cases failed
  intro _ source
  have admitted : PublishAdmitted disk request :=
    { known := ⟨status, known, ensure_eq_ok.mp active⟩
      bounds := ensure_eq_ok.mp bounds
      path := ensure_eq_ok.mp path
      source := ensure_eq_ok.mp source }
  cases stored : disk.publications ⟨request.instanceId, key⟩ with
  | some record =>
      refine Meets.looked stored (Meets.guarded secured ?_ ?_)
      · intro _ asked
        refine (resumePublication_secured now secured stored).mono (fun _ => id) ?_ ?_
        · exact fun manifest later finished => ⟨record, ensure_eq_ok.mp asked, finished⟩
        · exact fun _ _ failed ready => failed ready.2.1
      · rintro _ failed ⟨-, -, same⟩
        rw [ensure_of (same record rfl)] at failed
        cases failed
  | none =>
      refine Meets.looked stored ?_
      have prepared := secured.publish now stored (fresh admitted stored)
      refine Meets.bind (Meets.write secured secured prepared ?_)
      refine (resumePublication_secured now prepared
        PublicationDisk.publications_publication).mono (fun _ => id) ?_ ?_
      · exact fun manifest later finished => ⟨_, rfl, finished⟩
      · exact fun _ _ failed ready => failed ready.2.1

end

/-! ## Committing -/

/-- The request of a call that commits a batch. -/
def batchRequest (instanceId batchId : Identifier) (manifests : List PublicationManifest)
    (bundleManifest : Option BundleManifest) : BatchRequest :=
  ⟨instanceId, batchId, batchAssets manifests, bundleManifest⟩

/-- The checks in front of the record of a batch. -/
structure CommitAdmitted (settings : PublicationSettings) (disk : PublicationDisk)
    (manifests : List PublicationManifest) (request : BatchRequest) : Prop where
  known : ∃ status, disk.statuses request.instanceId = some status
  nonempty : manifests ≠ []
  valid : ∀ manifest ∈ manifests, settings.manifestContract manifest = .ok () ∧
    manifest.producerInstanceId = request.instanceId
  distinct : (request.assets.map BatchAsset.publicationId).Nodup
  bundle : checkBundleRequest settings request = .ok ()

section

variable {settings : PublicationSettings} {scope : Scope} {disk : PublicationDisk}
  {instanceId batchId : Identifier} {manifests : List PublicationManifest}
  {bundleManifest : Option BundleManifest}

/-- What a new batch finds. -/
structure BatchAdmissible (settings : PublicationSettings) (scope : Scope) (disk : PublicationDisk)
    (request : BatchRequest) : Prop where
  resumable : scope.batches request.batchId → BatchResumable settings disk request
  bundles : ∀ other twin, scope.batches request.batchId ∨ scope.batches other →
    disk.batches other = some twin → ∀ manifest ∈ request.bundleManifest,
      ∀ written ∈ twin.request.bundleManifest, manifest.bundleId = written.bundleId →
        manifest = written
  asked : ∀ other, scope.committed request.batchId other → request = other

/-- The check of the manifests of a batch. -/
theorem checkManifests_ok :
    checkEach (fun manifest => do
        settings.manifestContract manifest
        ensure (manifest.producerInstanceId = instanceId)
          (invalidAsset "Every batch asset must belong to its producing instance."))
        manifests = .ok () ↔
      ∀ manifest ∈ manifests, settings.manifestContract manifest = .ok () ∧
        manifest.producerInstanceId = instanceId := by
  rw [checkEach_eq_ok]
  constructor
  · intro passed manifest member
    obtain ⟨⟨⟩, contract, producer⟩ := bind_eq_ok.mp (passed manifest member)
    exact ⟨contract, ensure_eq_ok.mp producer⟩
  · intro valid manifest member
    obtain ⟨contract, producer⟩ := valid manifest member
    rw [contract, ok_bind]
    exact ensure_of producer

/-- A batch that was resumed to its end could be resumed. -/
theorem resumePublicationBatch_ok {now : UtcTime} {record : BatchRecord} {event : BatchEvent}
    (returned : (resumePublicationBatch settings now record.request.batchId record disk).outcome =
      .ok event) : BatchResumable settings disk record.request := by
  unfold resumePublicationBatch at returned
  rw [Script.run_read] at returned
  obtain ⟨⟨⟩, bundle, returned⟩ := Script.lift_ok returned
  refine ⟨bundle, ?_⟩
  intro none
  rw [Script.run_read, batchEvent_of_nil none] at returned
  dsimp only at returned
  rw [Script.run_read] at returned
  obtain ⟨⟨⟩, assets, -⟩ := Script.lift_ok returned
  exact checkEach_eq_ok.mp assets

/-- The call had what its transaction needs. -/
theorem commitPublicationBatch_ok {now : UtcTime} {event : BatchEvent}
    (returned : (commitPublicationBatch settings now instanceId batchId manifests bundleManifest
      disk).outcome = .ok event) :
    CommitAdmitted settings disk manifests
        (batchRequest instanceId batchId manifests bundleManifest) ∧
      (∀ record, disk.batches batchId = some record →
        record.request = batchRequest instanceId batchId manifests bundleManifest) ∧
      BatchResumable settings disk (batchRequest instanceId batchId manifests bundleManifest) := by
  unfold commitPublicationBatch at returned
  rw [Script.run_read] at returned
  obtain ⟨status, known, returned⟩ := Script.lift_ok returned
  obtain ⟨⟨⟩, nonempty, returned⟩ := Script.lift_ok returned
  obtain ⟨⟨⟩, valid, returned⟩ := Script.lift_ok returned
  obtain ⟨⟨⟩, distinct, returned⟩ := Script.lift_ok returned
  obtain ⟨⟨⟩, bundle, returned⟩ := Script.lift_ok returned
  have admitted : CommitAdmitted settings disk manifests
      (batchRequest instanceId batchId manifests bundleManifest) :=
    { known := ⟨status, requireInstance_ok.mp known⟩
      nonempty := ensure_eq_ok.mp nonempty
      valid := checkManifests_ok.mp valid
      distinct := ensure_eq_ok.mp distinct
      bundle := bundle }
  refine ⟨admitted, ?_⟩
  rw [Script.run_read] at returned
  cases found : disk.batches batchId with
  | some record =>
      rw [found] at returned
      obtain ⟨⟨⟩, asked, returned⟩ := Script.lift_ok returned
      have same : record.request = batchRequest instanceId batchId manifests bundleManifest :=
        ensure_eq_ok.mp asked
      have named : record.request.batchId = batchId := by rw [same, batchRequest]
      rw [← named] at returned
      have resumable := resumePublicationBatch_ok returned
      rw [same] at resumable
      refine ⟨?_, resumable⟩
      rintro other equal
      obtain rfl := Option.some.inj equal
      exact same
  | none =>
      rw [found] at returned
      obtain ⟨⟨⟩, -, returned⟩ := Script.bind_ok returned
      refine ⟨?_, ?_⟩
      · intro record same
        cases same
      have resumed : (resumePublicationBatch settings now batchId
          ⟨batchRequest instanceId batchId manifests bundleManifest, none⟩
          (Disk.apply disk (.batch batchId
            ⟨batchRequest instanceId batchId manifests bundleManifest, none⟩))).outcome =
          .ok event := returned
      obtain ⟨bundle, assets⟩ := resumePublicationBatch_ok resumed
      exact ⟨bundle, assets⟩

/-- The first write of a new batch. -/
theorem Secured.commit {request : BatchRequest} (secured : Secured settings scope disk)
    (absent : disk.batches request.batchId = none)
    (admissible : BatchAdmissible settings scope disk request) :
    Secured settings scope (Disk.apply disk (.batch request.batchId ⟨request, none⟩)) := by
  have allowed : PublicationAllowed settings disk (.batch request.batchId ⟨request, none⟩) :=
    ⟨⟨rfl, .inl ⟨secured.sound.unbatched _ absent, rfl⟩⟩, fun _ found => by
      cases absent.symm.trans found⟩
  have others : Secured settings (scope.withoutBatch request.batchId) disk :=
    { secured with
      committable := fun other twin member => secured.committable other twin member.1
      bundles := fun other twin third next member =>
        secured.bundles other twin third next member.1 }
  have outside : Outside (scope.withoutBatch request.batchId) disk
      (.batch request.batchId ⟨request, none⟩) := by
    constructor
    case publication =>
      rintro _ _ - - about
      cases about
    case destination =>
      rintro _ _ - -
      refine ⟨fun takes => takes, ?_⟩
      rintro _ _ written
      cases written
    case batch =>
      intro other member about
      exact member.2 (Option.some.inj about).symm
    case bundle =>
      intro other twin member found manifest asked
      constructor
      · intro _ _ written
        cases written
      · rintro third stored same written wanted equal
        obtain ⟨rfl, rfl⟩ := PublicationWrite.batch.inj same
        exact (admissible.bundles other twin (.inr member.1) found written wanted manifest asked
          equal.symm).symm
    case published =>
      rintro _ _ - _ written
      cases written
    case committed =>
      rintro other asked member stored same
      obtain ⟨rfl, rfl⟩ := PublicationWrite.batch.inj same
      exact admissible.asked asked member
  have during : DuringBatch settings scope request
      (Disk.apply disk (.batch request.batchId ⟨request, none⟩)) := by
    refine ⟨others.apply allowed outside, ?_, ?_⟩
    · intro member other twin found manifest asked written wanted equal
      rcases batches_apply found with stored | filed
      · exact admissible.bundles other twin (.inl member) stored manifest asked written wanted equal
      · obtain ⟨-, rfl⟩ := PublicationWrite.batch.inj filed
        exact Option.some.inj (asked.symm.trans wanted)
    · exact ⟨_, PublicationDisk.batches_batch, rfl⟩
  refine during.secured fun member => ?_
  obtain ⟨bundle, assets⟩ := admissible.resumable member
  exact ⟨bundle, assets⟩

/-- Wherever the call is stopped the scope is secured; it returns when its record is in the
    scope. -/
theorem commitPublicationBatch_meets (now : UtcTime) (secured : Secured settings scope disk)
    (fresh : CommitAdmitted settings disk manifests
        (batchRequest instanceId batchId manifests bundleManifest) →
      disk.batches batchId = none → BatchAdmissible settings scope disk
        (batchRequest instanceId batchId manifests bundleManifest)) :
    Meets (commitPublicationBatch settings now instanceId batchId manifests bundleManifest) disk
      (Secured settings scope)
      (fun event later => BatchFinished later
        (batchRequest instanceId batchId manifests bundleManifest) event)
      fun _ _ => ¬ (CommitAdmitted settings disk manifests
          (batchRequest instanceId batchId manifests bundleManifest) ∧
        scope.batches batchId ∧ ∀ record, disk.batches batchId = some record →
          record.request = batchRequest instanceId batchId manifests bundleManifest) := by
  unfold commitPublicationBatch
  refine Meets.looked rfl (Meets.guarded secured ?_ ?_)
  case refine_2 =>
    rintro _ failed ⟨admitted, -⟩
    obtain ⟨status, known⟩ := admitted.known
    have passed : requireInstance instanceId disk = .ok status := requireInstance_ok.mpr known
    cases passed.symm.trans failed
  intro status known
  refine Meets.guarded secured ?_ ?_
  case refine_2 =>
    rintro _ failed ⟨admitted, -⟩
    rw [ensure_of admitted.nonempty] at failed
    cases failed
  intro _ nonempty
  refine Meets.guarded secured ?_ ?_
  case refine_2 =>
    rintro _ failed ⟨admitted, -⟩
    cases (checkManifests_ok.mpr admitted.valid).symm.trans failed
  rintro ⟨⟩ valid
  refine Meets.guarded secured ?_ ?_
  case refine_2 =>
    rintro _ failed ⟨admitted, -⟩
    cases (ensure_of admitted.distinct).symm.trans failed
  intro _ distinct
  refine Meets.guarded secured ?_ ?_
  case refine_2 =>
    rintro _ failed ⟨admitted, -⟩
    cases admitted.bundle.symm.trans failed
  rintro ⟨⟩ bundle
  have admitted : CommitAdmitted settings disk manifests
      (batchRequest instanceId batchId manifests bundleManifest) :=
    { known := ⟨status, requireInstance_ok.mp known⟩
      nonempty := ensure_eq_ok.mp nonempty
      valid := checkManifests_ok.mp valid
      distinct := ensure_eq_ok.mp distinct
      bundle := bundle }
  cases stored : disk.batches batchId with
  | some record =>
      refine Meets.looked stored (Meets.guarded secured ?_ ?_)
      · intro _ asked
        have same : record.request = batchRequest instanceId batchId manifests bundleManifest :=
          ensure_eq_ok.mp asked
        have named : record.request.batchId = batchId := by rw [same, batchRequest]
        subst named
        refine (resumePublicationBatch_secured now secured stored).mono (fun _ => id) ?_ ?_
        · intro event later finished
          rw [same] at finished
          exact finished
        · exact fun _ _ failed ready => failed ready.2.1
      · rintro _ failed ⟨-, -, same⟩
        cases (ensure_of (same record rfl)).symm.trans failed
  | none =>
      refine Meets.looked stored ?_
      have prepared : Secured settings scope (Disk.apply disk (.batch batchId
          ⟨batchRequest instanceId batchId manifests bundleManifest, none⟩)) :=
        secured.commit stored (fresh admitted stored)
      refine Meets.bind (Meets.write secured secured prepared ?_)
      refine (resumePublicationBatch_secured now prepared
        PublicationDisk.batches_batch).mono (fun _ => id) (fun _ _ => id) ?_
      exact fun _ _ failed ready => failed ready.2.1

end

end DesignHarness
