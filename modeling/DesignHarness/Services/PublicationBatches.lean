import DesignHarness.Services.PublicationOperations

/-!
# What committing a batch does

A batch is committed by one event, after its bundle manifest.  Until then none of its publications
is visible; from then on they all are while their instance has succeeded, and none is while it has
not (`visible_together`).
-/

namespace DesignHarness

open Library AssetService

/-- What a batch that is resumed needs. -/
structure BatchResumable (settings : PublicationSettings) (disk : PublicationDisk)
    (request : BatchRequest) : Prop where
  bundle : checkBundle settings request disk = .ok ()
  assets : disk.batchesOf request.batchId = [] →
    ∀ item ∈ request.assets, checkBatchAsset settings request disk item = .ok ()

/-- The writes that resuming a batch makes. -/
def PublicationWrite.resumesBatch (request : BatchRequest) : PublicationWrite → Prop
  | .batch other written => other = request.batchId ∧ written.request = request
  | .event (.batchCommitted committed) => committed.request = request
  | .bundle bundleId written => request.bundleManifest = some written ∧
      bundleId = written.bundleId
  | _ => False

/-- The batch has its record, and from a good start it stays resumable. -/
structure BatchAdvances (settings : PublicationSettings) (condition : PublicationDisk → Prop)
    (ready : Prop) (request : BatchRequest) (disk : PublicationDisk) : Prop where
  holds : condition disk
  resumable : ready → (∃ current, disk.batches request.batchId = some current ∧
    current.request = request) ∧ BatchResumable settings disk request

/-- The batch has its one event. -/
structure BatchFinished (disk : PublicationDisk) (request : BatchRequest) (event : BatchEvent) :
    Prop where
  record : disk.batches request.batchId = some ⟨request, some event⟩
  single : disk.batchesOf request.batchId = [event]
  commits : Commits disk request event

section

variable {settings : PublicationSettings} {condition : PublicationDisk → Prop} {ready : Prop}
  {disk : PublicationDisk} {request : BatchRequest} {record : BatchRecord} {event : BatchEvent}

/-- One write of a batch that is resumed. -/
theorem BatchAdvances.meets {w : PublicationWrite} {returns : Unit → PublicationDisk → Prop}
    {raises : Raised → PublicationDisk → Prop}
    (advances : BatchAdvances settings condition ready request disk)
    (kept : KeptBy settings (PublicationWrite.resumesBatch request) condition)
    (own : w.resumesBatch request) (allowed : PublicationAllowed settings disk w)
    (resumable : ready → (∃ current, (Disk.apply disk w).batches request.batchId = some current ∧
      current.request = request) ∧ BatchResumable settings (Disk.apply disk w) request)
    (returned : BatchAdvances settings condition ready request (Disk.apply disk w) →
      returns () (Disk.apply disk w)) :
    Meets (Script.write w) disk (BatchAdvances settings condition ready request) returns
      raises := by
  have written : BatchAdvances settings condition ready request (Disk.apply disk w) :=
    ⟨kept.closed disk w advances.holds own allowed, resumable⟩
  exact Meets.write advances advances written (returned written)

/-- An event that is found is the only one of its publication. -/
theorem SoundPublications.single (sound : SoundPublications settings disk)
    {publicationId : PublicationId} {pair : PublicationManifest × PublicationRequest}
    (found : disk.publicationEvent publicationId = some pair) :
    ∃ record manifest, pair = (manifest, record.request) ∧
      Published settings disk publicationId record manifest := by
  have absent (none : disk.publicationsOf publicationId = []) :
      ∃ record manifest, pair = (manifest, record.request) ∧
        Published settings disk publicationId record manifest := by
    cases (publicationEvent_of_nil none).symm.trans found
  have same {record : PublicationRecord} {manifest : PublicationManifest}
      (published : Published settings disk publicationId record manifest) :
      ∃ record manifest, pair = (manifest, record.request) ∧
        Published settings disk publicationId record manifest := by
    have event := (publicationEvent_of_published published).symm.trans found
    exact ⟨record, manifest, (Option.some.inj event).symm, published⟩
  cases stored : disk.publications publicationId with
  | none => exact absent (sound.unpublished _ stored).1
  | some record =>
      have phase := sound.phase _ _ stored
      unfold PublicationPhase at phase
      cases state : record.state with
      | prepared =>
          rw [state] at phase
          exact absent phase.1
      | copied content mimeType prepared =>
          rw [state] at phase
          rcases phase with pending | ⟨manifest, published⟩
          · exact absent pending.event
          · exact same published
      | committed manifest =>
          rw [state] at phase
          exact same phase

/-- Assets that pass the check of the batch are published for it. -/
theorem SoundPublications.grounded (sound : SoundPublications settings disk)
    (passes : ∀ item ∈ request.assets, checkBatchAsset settings request disk item = .ok ()) :
    Grounded disk request := by
  intro item member
  have passed := passes item member
  unfold checkBatchAsset at passed
  cases found : disk.publicationEvent item.publicationId with
  | none =>
      rw [found] at passed
      cases passed
  | some pair =>
      rw [found] at passed
      obtain ⟨record, manifest, rfl, published⟩ := sound.single found
      obtain ⟨⟨⟩, belongs, -⟩ := bind_eq_ok.mp passed
      obtain ⟨batch, digest, producer⟩ := ensure_eq_ok.mp belongs
      exact ⟨manifest, record.request, published.event, batch, digest, producer⟩

theorem batchEvent_of_nil {batchId : Identifier} (none : disk.batchesOf batchId = []) :
    disk.batchEvent batchId = Option.none := by
  unfold PublicationDisk.batchEvent
  rw [none]
  rfl

theorem batchEvent_of_singleton {batchId : Identifier} (one : disk.batchesOf batchId = [event]) :
    disk.batchEvent batchId = some event := by
  unfold PublicationDisk.batchEvent
  rw [one]
  rfl

/-- The check of the bundle only reads the stored bundle. -/
theorem checkBundle_congr {later : PublicationDisk}
    (same : ∀ manifest ∈ request.bundleManifest,
      later.bundles manifest.bundleId = disk.bundles manifest.bundleId) :
    checkBundle settings request later = checkBundle settings request disk := by
  unfold checkBundle
  cases bundle : request.bundleManifest with
  | none => rfl
  | some manifest =>
      dsimp only
      rw [same manifest bundle]

/-- A stored bundle passes where a missing one does. -/
theorem checkBundle_stored {later : PublicationDisk} {manifest : BundleManifest}
    (asked : request.bundleManifest = some manifest)
    (passed : checkBundle settings request disk = .ok ())
    (stored : later.bundles manifest.bundleId = some manifest) :
    checkBundle settings request later = .ok () := by
  unfold checkBundle at passed ⊢
  rw [asked] at passed ⊢
  dsimp only at passed ⊢
  obtain ⟨⟨⟩, contract, rest⟩ := bind_eq_ok.mp passed
  obtain ⟨⟨⟩, named, -⟩ := bind_eq_ok.mp rest
  rw [contract, ok_bind, named, ok_bind]
  refine ensure_of ?_
  rintro other member
  exact (Option.some.inj (stored.symm.trans member)).symm

/-- The bundle is in place when the script returns. -/
theorem writeBundle_meets
    (kept : KeptBy settings (PublicationWrite.resumesBatch request) condition)
    (advances : BatchAdvances settings condition ready request disk)
    (passed : checkBundle settings request disk = .ok ()) {raises : Raised → PublicationDisk → Prop} :
    Meets (writeBundle request) disk (BatchAdvances settings condition ready request)
      (fun _ later => BatchAdvances settings condition ready request later ∧
        later.batches = disk.batches ∧ later.events = disk.events ∧
        ∀ manifest ∈ request.bundleManifest, later.bundles manifest.bundleId = some manifest)
      raises := by
  unfold writeBundle
  cases asked : request.bundleManifest with
  | none => exact Meets.pure advances ⟨advances, rfl, rfl, fun _ member => by cases member⟩
  | some manifest =>
      refine Meets.looked rfl ?_
      cases there : disk.bundles manifest.bundleId with
      | some stored =>
          have same : stored = manifest := by
            unfold checkBundle at passed
            rw [asked] at passed
            obtain ⟨⟨⟩, -, rest⟩ := bind_eq_ok.mp passed
            obtain ⟨⟨⟩, -, free⟩ := bind_eq_ok.mp rest
            exact ensure_eq_ok.mp free stored there
          refine Meets.pure advances ⟨advances, rfl, rfl, ?_⟩
          intro other member
          obtain rfl := Option.some.inj member
          rw [there, same]
      | none =>
          have stored : (Disk.apply disk (.bundle manifest.bundleId manifest)).bundles
              manifest.bundleId = some manifest := PublicationDisk.bundles_bundle
          refine advances.meets kept ⟨asked, rfl⟩ there ?_ fun written => ?_
          · intro go
            obtain ⟨record, resumable⟩ := advances.resumable go
            exact ⟨record, checkBundle_stored asked resumable.bundle stored, resumable.assets⟩
          · refine ⟨written, rfl, rfl, ?_⟩
            intro other member
            obtain rfl := Option.some.inj member
            exact stored

/-- Resuming a batch commits it, or it was not resumable. -/
theorem resumePublicationBatch_meets (now : UtcTime)
    (kept : KeptBy settings (PublicationWrite.resumesBatch record.request) condition)
    (holds : condition disk) (found : disk.batches record.request.batchId = some record) :
    Meets (resumePublicationBatch settings now record.request.batchId record) disk
      (BatchAdvances settings condition (BatchResumable settings disk record.request)
        record.request)
      (fun event later => BatchFinished later record.request event)
      fun _ _ => ¬ BatchResumable settings disk record.request := by
  have sound := kept.sound disk holds
  have advances : BatchAdvances settings condition (BatchResumable settings disk record.request)
      record.request disk :=
    ⟨holds, fun resumable => ⟨⟨record, found, rfl⟩, resumable⟩⟩
  unfold resumePublicationBatch
  refine Meets.looked rfl (Meets.guarded advances ?_ ?_)
  case refine_2 =>
    intro _ failed resumable
    rw [resumable.bundle] at failed
    cases failed
  rintro ⟨⟩ passed
  obtain ⟨-, ⟨fresh, pending⟩ | ⟨event, one, commits, result⟩⟩ := sound.batch _ _ found
  · refine Meets.looked (batchEvent_of_nil fresh) ?_
    refine Meets.looked rfl (Meets.guarded advances ?_ ?_)
    case refine_2 =>
      intro _ failed resumable
      have all : checkEach (checkBatchAsset settings record.request disk)
          record.request.assets = .ok () := checkEach_eq_ok.mpr (resumable.assets fresh)
      cases all.symm.trans failed
    rintro ⟨⟩ prepared
    have grounded : Grounded disk record.request := sound.grounded (checkEach_eq_ok.mp prepared)
    refine Meets.bind ((writeBundle_meets kept advances passed).mono (fun _ => id) ?_ fun _ _ => id)
    rintro - later ⟨advances, batches, events, bundle⟩
    let event : BatchEvent :=
      ⟨record.request, record.request.assets.map BatchAsset.publicationId, now⟩
    have stored : later.batches record.request.batchId = some record := by
      rw [batches]
      exact found
    have same (batchId : Identifier) : later.batchesOf batchId = disk.batchesOf batchId := by
      unfold PublicationDisk.batchesOf
      rw [events]
    have commits : Commits later record.request event := by
      refine ⟨rfl, rfl, ?_, bundle⟩
      intro item member
      have published := grounded item member
      unfold PublicationDisk.publicationsOf at published ⊢
      rw [events]
      exact published
    have allowed : PublicationAllowed settings later (.event (.batchCommitted event)) :=
      ⟨record, stored, pending, (same _).trans fresh, commits⟩
    have one : (Disk.apply later (.event (.batchCommitted event))).batchesOf
        record.request.batchId = [event] := by
      refine PublicationDisk.batchesOf_append.trans ?_
      rw [(same _).trans fresh, PublicationEvent.commits, if_pos rfl]
      rfl
    have resumes (disk : PublicationDisk) (stored : ∃ current,
          disk.batches record.request.batchId = some current ∧ current.request = record.request)
        (bundles : disk.bundles = later.bundles)
        (events : disk.batchesOf record.request.batchId = [event])
        (ready : BatchResumable settings later record.request) :
        (∃ current, disk.batches record.request.batchId = some current ∧
          current.request = record.request) ∧ BatchResumable settings disk record.request := by
      refine ⟨stored, ?_, ?_⟩
      · rw [checkBundle_congr fun manifest _ => congrFun bundles manifest.bundleId]
        exact ready.bundle
      · intro none
        cases none.symm.trans events
    refine Meets.bind (advances.meets kept rfl allowed ?_ fun committed => ?_)
    · exact fun go => resumes _ ⟨record, stored, rfl⟩ rfl one (advances.resumable go).2
    have kept' := commits.apply allowed
    refine Meets.bind (committed.meets (w := .batch record.request.batchId
      { record with result := some event }) kept ⟨rfl, rfl⟩ ⟨⟨rfl, .inr ⟨event, one, kept', ?_⟩⟩,
        ?_⟩ ?_ fun written => ?_)
    · rintro result member
      exact (Option.some.inj member).symm
    · rintro other same
      obtain rfl := Option.some.inj (stored.symm.trans same)
      exact pending
    · exact fun go => resumes _ ⟨_, PublicationDisk.batches_batch, rfl⟩ rfl one
        (advances.resumable go).2
    · refine Meets.pure written ⟨PublicationDisk.batches_batch, one, ?_⟩
      exact ⟨kept'.asked, kept'.listed, kept'.grounded, kept'.bundle⟩
  · refine Meets.looked (batchEvent_of_singleton one) ?_
    refine Meets.checked (ensure_of commits.asked) ?_
    -- The bundle was stored before the event.
    have quiet (later : PublicationDisk) (bundles : later.bundles = disk.bundles) :
        writeBundle record.request later = ⟨[], .ok ()⟩ := by
      unfold writeBundle
      cases asked : record.request.bundleManifest with
      | none => rfl
      | some manifest =>
          dsimp only
          rw [Script.run_read, bundles, commits.bundle manifest asked]
          rfl
    cases known : record.result with
    | some stored =>
        obtain rfl : stored = event := result stored known
        refine Meets.quiet (quiet disk rfl) (Meets.pure advances ⟨?_, one, commits⟩)
        rw [found, ← known]
    | none =>
        have allowed : PublicationAllowed settings disk (.batch record.request.batchId
            { record with result := some event }) := by
          refine ⟨⟨rfl, .inr ⟨event, one, ⟨commits.asked, commits.listed, commits.grounded,
            commits.bundle⟩, ?_⟩⟩, ?_⟩
          · rintro stored member
            exact (Option.some.inj member).symm
          · rintro other same
            obtain rfl := Option.some.inj (found.symm.trans same)
            exact known
        refine Meets.bind (advances.meets kept ⟨rfl, rfl⟩ allowed ?_ fun written => ?_)
        · intro go
          refine ⟨⟨_, PublicationDisk.batches_batch, rfl⟩, go.bundle, ?_⟩
          intro none
          cases none.symm.trans one
        · refine Meets.quiet (quiet _ rfl) (Meets.pure written ?_)
          exact ⟨PublicationDisk.batches_batch, one, commits.asked, commits.listed,
            commits.grounded, commits.bundle⟩

/-! ## The visibility of a batch -/

/-- The assets of the batch are all visible, or no publication that was made for it is. -/
def VisibleTogether (disk : PublicationDisk) (batchId : Identifier) : Prop :=
  (∃ event, disk.batchesOf batchId = [event] ∧
      ∀ assetId ∈ event.assetIds, ∃ manifest, disk.visible? assetId = some manifest) ∨
    ∀ publicationId manifest publication,
      (manifest, publication) ∈ disk.publicationsOf publicationId →
        publication.batchId = some batchId → disk.visible? publicationId = none

/-- What the journal publishes has its file and its manifest. -/
theorem SoundPublications.published (sound : SoundPublications settings disk)
    {publicationId : PublicationId} {pair : PublicationManifest × PublicationRequest}
    (listed : pair ∈ disk.publicationsOf publicationId) :
    ∃ record manifest, pair = (manifest, record.request) ∧
      Published settings disk publicationId record manifest := by
  have found : ∃ first, disk.publicationEvent publicationId = some first := by
    unfold PublicationDisk.publicationEvent
    cases all : disk.publicationsOf publicationId with
    | nil =>
        rw [all] at listed
        cases listed
    | cons first rest => exact ⟨first, rfl⟩
  obtain ⟨first, found⟩ := found
  obtain ⟨record, manifest, -, published⟩ := sound.single found
  have event := published.event
  rw [event] at listed
  exact ⟨record, manifest, List.mem_singleton.mp listed, published⟩

/-- A publication whose gate is closed is not visible. -/
theorem SoundPublications.hidden (sound : SoundPublications settings disk)
    {publicationId : PublicationId} {manifest : PublicationManifest}
    {publication : PublicationRequest}
    (listed : (manifest, publication) ∈ disk.publicationsOf publicationId)
    (closed : disk.gateOpen manifest publication = false) :
    disk.visible? publicationId = none ∧
      disk.publicationsOf publicationId = [(manifest, publication)] := by
  obtain ⟨record, other, same, published⟩ := sound.published listed
  obtain ⟨rfl, rfl⟩ := Prod.mk.inj same
  refine ⟨?_, published.event⟩
  rw [PublicationDisk.visible?_eq published.event, closed]
  rfl

/-- An event publishes under the id of its manifest. -/
theorem publicationId_of_publicationsOf {publicationId : PublicationId}
    {manifest : PublicationManifest} {publication : PublicationRequest}
    (listed : (manifest, publication) ∈ disk.publicationsOf publicationId) :
    manifest.publicationId = publicationId := by
  obtain ⟨event, -, publishes⟩ := List.mem_filterMap.mp listed
  cases event with
  | published other request =>
      by_cases named : other.publicationId = publicationId
      · simp only [PublicationEvent.publishes, named, if_true] at publishes
        obtain ⟨rfl, rfl⟩ := Prod.mk.inj (Option.some.inj publishes)
        exact named
      · simp [PublicationEvent.publishes, named] at publishes
  | batchCommitted => cases publishes
  | corrupted => cases publishes

/-- On a sound disk the assets of a batch are visible together. -/
theorem SoundPublications.visible_together (sound : SoundPublications settings disk)
    (batchId : Identifier) : VisibleTogether disk batchId := by
  -- Without an event of the batch its gates are closed.
  have closed (none : disk.batchesOf batchId = []) : VisibleTogether disk batchId := by
    right
    intro publicationId manifest publication listed batch
    refine (sound.hidden listed ?_).1
    unfold PublicationDisk.gateOpen PublicationDisk.committedBatch
    rw [batch]
    dsimp only
    rw [none]
    rfl
  cases stored : disk.batches batchId with
  | none => exact closed (sound.unbatched batchId stored)
  | some record =>
      obtain ⟨named, ⟨none, -⟩ | ⟨event, one, commits, -⟩⟩ := sound.batch batchId record stored
      · exact closed none
      have committed : disk.committedBatch batchId = some event := by
        unfold PublicationDisk.committedBatch
        rw [one]
        rfl
      by_cases succeeded : disk.statuses record.request.instanceId = some .succeeded
      · refine .inl ⟨event, one, ?_⟩
        intro assetId member
        have listed := member
        rw [commits.listed] at listed
        obtain ⟨item, asked, rfl⟩ := List.mem_map.mp listed
        obtain ⟨manifest, publication, found, batch, -, producer⟩ := commits.grounded item asked
        have own : manifest.publicationId = item.publicationId := by
          have listed : (manifest, publication) ∈ disk.publicationsOf item.publicationId := by
            rw [found]
            exact List.mem_singleton_self _
          exact publicationId_of_publicationsOf listed
        refine ⟨manifest, ?_⟩
        rw [PublicationDisk.visible?_eq found]
        refine if_pos ?_
        unfold PublicationDisk.gateOpen
        rw [batch, named]
        dsimp only
        rw [committed]
        simp [own, member, producer, succeeded]
      · refine .inr ?_
        intro publicationId manifest publication listed batch
        have own := publicationId_of_publicationsOf listed
        refine (sound.hidden listed ?_).1
        unfold PublicationDisk.gateOpen
        rw [batch]
        dsimp only
        rw [committed]
        by_cases member : publicationId ∈ event.assetIds
        · rw [commits.listed] at member
          obtain ⟨item, asked, same⟩ := List.mem_map.mp member
          obtain ⟨other, request, found, -, -, producer⟩ := commits.grounded item asked
          rw [same] at found
          rw [found] at listed
          obtain ⟨rfl, rfl⟩ := Prod.mk.inj (List.mem_singleton.mp listed)
          simp [producer, succeeded]
        · simp [own, member]

end

end DesignHarness
