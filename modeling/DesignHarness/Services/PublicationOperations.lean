import DesignHarness.Services.PublicationRules

/-!
# What resuming a publication does

A resumed publication keeps every condition that its own writes keep (`KeptBy`), wherever it is
stopped.  It raises only when it is not `Resumable`, which depends on the output, the limits and
the destination; otherwise it ends with its event, its file and its manifest in place and without
temporaries (`Finished`).
-/

namespace DesignHarness

open Library AssetService

/-- What a publication that is resumed needs from outside its record, its event and its copy. -/
def Resumable (settings : PublicationSettings) (disk : PublicationDisk)
    (publicationId : PublicationId) (record : PublicationRecord) : Prop :=
  match record.state with
  | .prepared =>
      disk.files (.destination record.destination) = none ∧ ∃ content mimeType,
        disk.outputs record.request.source = some content ∧
          content.size ≤ settings.maxFileBytes ∧
          settings.detectMime content (TaskIntakeService.suffix record.request.source.name) =
            mimeType ∧
          mimeType ∈ settings.allowedMimeTypes ∧
          ∀ now, settings.manifestContract
            (buildManifest now publicationId record content mimeType) = .ok ()
  | .copied content mimeType prepared =>
      disk.publicationsOf publicationId = [] →
        (∀ copy ∈ disk.files (.temporary publicationId),
          ∀ file ∈ disk.files (.destination record.destination), copy.number = file.number) ∧
        (∀ manifest ∈ prepared, settings.manifestContract manifest = .ok ()) ∧
        (prepared = none → ∀ now, settings.manifestContract
          (buildManifest now publicationId record content mimeType) = .ok ())
  | .committed _ => True

/-- The writes that resuming a publication makes. -/
def PublicationWrite.resumes (publicationId : PublicationId) (record : PublicationRecord) :
    PublicationWrite → Prop
  | .publication other written => other = publicationId ∧ written.request = record.request ∧
      written.destination = record.destination
  | .event (.published asset _) => asset.publicationId = publicationId
  | .event (.corrupted _) => True
  | .copy other _ => other = publicationId
  | .linkFile other destination => other = publicationId ∧ destination = record.destination
  | .unlinkFile other => other = publicationId
  | .manifest other _ => other = publicationId
  | .linkManifest other => other = publicationId
  | .unlinkManifest other => other = publicationId
  | .mark _ => True
  | _ => False

/-- A condition on sound disks that some of the writes keep. -/
structure KeptBy (settings : PublicationSettings) (writes : PublicationWrite → Prop)
    (condition : PublicationDisk → Prop) : Prop where
  sound : ∀ disk, condition disk → SoundPublications settings disk
  closed : ∀ disk write, condition disk → writes write →
    PublicationAllowed settings disk write → condition (Disk.apply disk write)

/-- The publication has its record, and from a good start it stays resumable. -/
structure Advances (settings : PublicationSettings) (condition : PublicationDisk → Prop)
    (ready : Prop) (publicationId : PublicationId) (record : PublicationRecord)
    (disk : PublicationDisk) : Prop where
  holds : condition disk
  resumable : ready → ∃ current, disk.publications publicationId = some current ∧
    current.request = record.request ∧ current.destination = record.destination ∧
      Resumable settings disk publicationId current

/-- The publication is committed and has no temporaries. -/
structure Finished (disk : PublicationDisk) (publicationId : PublicationId)
    (record : PublicationRecord) (manifest : PublicationManifest) : Prop where
  record : disk.publications publicationId = some { record with state := .committed manifest }
  copy : disk.files (.temporary publicationId) = none
  manifestCopy : disk.manifests (.temporary publicationId) = none

section

variable {settings : PublicationSettings} {condition : PublicationDisk → Prop} {ready : Prop}
  {disk : PublicationDisk} {publicationId : PublicationId} {record : PublicationRecord}
  {manifest : PublicationManifest}

/-- One write of a publication that is resumed. -/
theorem Advances.meets {w : PublicationWrite} {returns : Unit → PublicationDisk → Prop}
    {raises : Raised → PublicationDisk → Prop}
    (advances : Advances settings condition ready publicationId record disk)
    (kept : KeptBy settings (PublicationWrite.resumes publicationId record) condition)
    (own : w.resumes publicationId record) (allowed : PublicationAllowed settings disk w)
    (resumable : ready → ∃ current, (Disk.apply disk w).publications publicationId = some current ∧
      current.request = record.request ∧ current.destination = record.destination ∧
        Resumable settings (Disk.apply disk w) publicationId current)
    (returned : Advances settings condition ready publicationId record (Disk.apply disk w) →
      returns () (Disk.apply disk w)) :
    Meets (Script.write w) disk (Advances settings condition ready publicationId record) returns
      raises := by
  have written : Advances settings condition ready publicationId record (Disk.apply disk w) :=
    ⟨kept.closed disk w advances.holds own allowed, resumable⟩
  exact Meets.write advances advances written (returned written)

/-! ## Committed publications -/

/-- The file of a published manifest verifies. -/
theorem Published.verified (published : Published settings disk publicationId record manifest) :
    verifyPublicationFile settings manifest disk = .ok () := by
  obtain ⟨number, found⟩ := published.file
  have destination := published.describes.destination
  unfold verifyPublicationFile
  rw [destination, found]
  exact ensure_of ⟨rfl, published.describes.mimeType⟩

/-- A publication is visible when the gate of its event is open. -/
theorem PublicationDisk.visible?_eq {request : PublicationRequest}
    (single : disk.publicationsOf publicationId = [(manifest, request)]) :
    disk.visible? publicationId =
      if disk.gateOpen manifest request = true then some manifest else none := by
  have shown : disk.shownBy publicationId = fun event =>
      (PublicationEvent.publishes publicationId event).bind fun pair =>
        if disk.gateOpen pair.1 pair.2 = true then some pair.1 else none := by
    funext event
    cases event with
    | published other request =>
        by_cases named : other.publicationId = publicationId
        · simp [PublicationDisk.shownBy, PublicationEvent.publishes, named]
        · simp [PublicationDisk.shownBy, PublicationEvent.publishes, named]
    | batchCommitted => rfl
    | corrupted => rfl
  unfold PublicationDisk.visible?
  rw [shown, ← List.filterMap_filterMap]
  change (List.filterMap _ (disk.publicationsOf publicationId)).getLast? = _
  rw [single]
  cases opened : disk.gateOpen manifest request with
  | true => simp [opened]
  | false => simp [opened]

/-- A publication without a batch is visible from its event on. -/
theorem Published.visible (published : Published settings disk publicationId record manifest)
    (single : record.request.batchId = none) : disk.visible? publicationId = some manifest := by
  rw [PublicationDisk.visible?_eq published.event]
  refine if_pos ?_
  unfold PublicationDisk.gateOpen
  rw [single]

theorem Published.verifyPublication (published : Published settings disk publicationId record manifest)
    (single : record.request.batchId = none) :
    AssetService.verifyPublication settings publicationId disk = ⟨[], .ok ()⟩ := by
  unfold AssetService.verifyPublication
  rw [Script.run_read, published.visible single]
  dsimp only
  rw [Script.run_read, published.verified]
  rfl

/-- What resuming a committed publication removes. -/
theorem removeTemporaries_meets
    (kept : KeptBy settings (PublicationWrite.resumes publicationId record) condition)
    (holds : condition disk)
    (found : disk.publications publicationId = some { record with state := .committed manifest }) :
    Meets (removeTemporaries publicationId) disk
      (Advances settings condition ready publicationId record)
      (fun _ later => Finished later publicationId record manifest) fun _ _ => False := by
  have advances : Advances settings condition ready publicationId record disk :=
    ⟨holds, fun _ => ⟨_, found, rfl, rfl, trivial⟩⟩
  have committed : ∀ current, disk.publications publicationId = some current →
      ∃ manifest, current.state = .committed manifest := by
    intro current same
    obtain rfl := Option.some.inj (found.symm.trans same)
    exact ⟨manifest, rfl⟩
  unfold removeTemporaries
  refine Meets.bind (advances.meets (w := .unlinkFile publicationId) kept rfl ?_ ?_ ?_)
  · exact fun current same => .inr (committed current same)
  · exact fun _ => ⟨_, found, rfl, rfl, trivial⟩
  intro unlinked
  refine unlinked.meets kept rfl ?_ ?_ ?_
  · exact fun current same => .inr (committed current same)
  · exact fun _ => ⟨_, found, rfl, rfl, trivial⟩
  intro _
  exact
    { record := found
      copy := PublicationDisk.files_unlinkFile
      manifestCopy := PublicationDisk.manifests_unlinkManifest }

/-! ## Copied publications -/

section

variable {content : Blob} {mimeType : String} {prepared : Option PublicationManifest}

/-- The publication is copied and has no event. -/
structure AtCopy (settings : PublicationSettings) (disk : PublicationDisk)
    (publicationId : PublicationId) (record : PublicationRecord) (content : Blob)
    (mimeType : String) (prepared : Option PublicationManifest) : Prop where
  found : disk.publications publicationId =
    some { record with state := .copied content mimeType prepared }
  pending : Pending settings disk publicationId record content mimeType prepared

theorem Pending.state {state : PublicationState}
    (pending : Pending settings disk publicationId record content mimeType prepared) :
    Pending settings disk publicationId { record with state := state } content mimeType prepared where
  mimeType := pending.mimeType
  event := pending.event
  copy := pending.copy
  ready manifest member := by
    obtain ⟨describes, same, placed⟩ := pending.ready manifest member
    exact ⟨⟨describes.named, describes.producer, describes.destination, describes.mimeType⟩, same,
      placed⟩
  manifest := pending.manifest

/-- What a resumable publication that is copied has. -/
theorem AtCopy.resumable (copied : AtCopy settings disk publicationId record content mimeType prepared)
    (advances : Advances settings condition ready publicationId record disk) (go : ready) :
    (∀ copy ∈ disk.files (.temporary publicationId),
        ∀ file ∈ disk.files (.destination record.destination), copy.number = file.number) ∧
      (∀ manifest ∈ prepared, settings.manifestContract manifest = .ok ()) ∧
      (prepared = none → ∀ now, settings.manifestContract
        (buildManifest now publicationId record content mimeType) = .ok ()) := by
  obtain ⟨current, found, -, -, resumable⟩ := advances.resumable go
  obtain rfl := Option.some.inj (copied.found.symm.trans found)
  exact resumable copied.pending.event

/-- The link is in place when the script returns. -/
theorem linkCopy_meets
    (kept : KeptBy settings (PublicationWrite.resumes publicationId record) condition)
    (advances : Advances settings condition ready publicationId record disk)
    (copied : AtCopy settings disk publicationId record content mimeType prepared) :
    Meets (linkCopy publicationId record.destination) disk
      (Advances settings condition ready publicationId record)
      (fun _ later => Advances settings condition ready publicationId record later ∧
        AtCopy settings later publicationId record content mimeType prepared ∧
        Placed later record.destination content)
      fun _ _ => ¬ ready := by
  obtain ⟨number, copy⟩ := copied.pending.copy
  unfold linkCopy
  refine Meets.looked copy ?_
  cases taken : disk.files (.destination record.destination) with
  | some file =>
      refine Meets.looked taken ?_
      refine Meets.lift advances ?_ ?_
      · intro _ passed
        have owned : number = file.number := ensure_eq_ok.mp passed
        have same : content = file.content :=
          (kept.sound disk advances.holds).shared _ _ _ _ copy taken owned
        refine ⟨advances, copied, file.number, ?_⟩
        rw [taken, same]
      · intro _ failed go
        have owned : number = file.number :=
          (copied.resumable advances go).1 _ copy _ taken
        rw [ensure_of owned] at failed
        cases failed
  | none =>
      refine Meets.looked taken ?_
      have allowed : PublicationAllowed settings disk
          (.linkFile publicationId record.destination) :=
        ⟨taken, _, copied.found, rfl⟩
      have placed : (Disk.apply disk (.linkFile publicationId record.destination)).files
          (.destination record.destination) = some ⟨number, content⟩ :=
        PublicationDisk.files_linkFile.trans copy
      have view : SameView publicationId disk
          (Disk.apply disk (.linkFile publicationId record.destination)) :=
        allowed.view fun none => by cases none
      refine advances.meets kept ⟨rfl, rfl⟩ allowed ?_ ?_
      · intro go
        obtain ⟨-, made, make⟩ := copied.resumable advances go
        refine ⟨_, copied.found, rfl, rfl, ?_⟩
        intro _
        refine ⟨?_, made, make⟩
        intro stored found file there
        obtain rfl := Option.some.inj ((view.copy.trans copy).symm.trans found)
        obtain rfl := Option.some.inj (placed.symm.trans there)
        rfl
      · intro linked
        exact ⟨linked, ⟨copied.found, copied.pending.view view⟩, number, placed⟩

/-- The file that was linked passes its check. -/
theorem Pending.checkPlaced
    (pending : Pending settings disk publicationId record content mimeType prepared)
    (placed : Placed disk record.destination content) :
    AssetService.checkPlaced settings publicationId record.destination content mimeType disk =
      ⟨[], .ok ()⟩ := by
  obtain ⟨number, file⟩ := placed
  unfold AssetService.checkPlaced
  rw [Script.run_read, file]
  have matched : content = content ∧
      settings.detectMime content record.destination.suffix = mimeType := ⟨rfl, pending.mimeType⟩
  exact congrFun (if_neg (not_not.mpr matched)) disk

/-- The manifest that a publication builds describes it. -/
theorem buildManifest_describes (now : UtcTime)
    (pending : Pending settings disk publicationId record content mimeType prepared) :
    Describes settings publicationId record
      (buildManifest now publicationId record content mimeType) :=
  ⟨rfl, rfl, rfl, pending.mimeType⟩

/-- The record has its prepared manifest when the script returns. -/
theorem prepareManifest_meets (now : UtcTime)
    (kept : KeptBy settings (PublicationWrite.resumes publicationId record) condition)
    (advances : Advances settings condition ready publicationId record disk)
    (copied : AtCopy settings disk publicationId record content mimeType prepared)
    (placed : Placed disk record.destination content) :
    Meets (prepareManifest now publicationId record content mimeType prepared) disk
      (Advances settings condition ready publicationId record)
      (fun manifest later => Advances settings condition ready publicationId record later ∧
        AtCopy settings later publicationId record content mimeType (some manifest))
      fun _ _ => ¬ ready := by
  unfold prepareManifest
  cases prepared with
  | some manifest => exact Meets.pure advances ⟨advances, copied⟩
  | none =>
      let manifest := buildManifest now publicationId record content mimeType
      have later : Pending settings disk publicationId record content mimeType (some manifest) :=
        { copied.pending with
          ready := by
            intro other member
            obtain rfl := Option.some.inj member
            exact ⟨buildManifest_describes now copied.pending, rfl, placed⟩
          manifest := by
            intro file member
            obtain ⟨-, none⟩ := copied.pending.manifest file member
            cases none }
      have allowed : PublicationAllowed settings disk (.publication publicationId
          { record with state := .copied content mimeType (some manifest) }) := by
        have belongs := (kept.sound disk advances.holds).belongs _ _ copied.found
        refine ⟨⟨belongs.instanceId, belongs.destination, belongs.lasting⟩, .inl later.state, ?_⟩
        intro stored manifest same
        obtain rfl := Option.some.inj (copied.found.symm.trans same)
        exact PublicationState.noConfusion
      have same : SameView publicationId disk (Disk.apply disk (.publication publicationId
          { record with state := .copied content mimeType (some manifest) })) :=
        ⟨⟨rfl, rfl, fun _ _ => id⟩, rfl, rfl⟩
      refine Meets.bind (advances.meets kept ⟨rfl, rfl, rfl⟩ allowed ?_ ?_)
      · intro go
        obtain ⟨owned, -, make⟩ := copied.resumable advances go
        refine ⟨_, PublicationDisk.publications_publication, rfl, rfl, ?_⟩
        intro _
        refine ⟨owned, ?_, fun none => by cases none⟩
        intro other member
        obtain rfl := Option.some.inj member
        exact make rfl now
      · intro written
        have made : AtCopy settings (Disk.apply disk (.publication publicationId
            { record with state := .copied content mimeType (some manifest) })) publicationId
            record content mimeType (some manifest) :=
          ⟨PublicationDisk.publications_publication, later.view same⟩
        exact Meets.pure written ⟨written, made⟩

/-- The manifest is in place when the script returns. -/
theorem placeManifest_meets
    (kept : KeptBy settings (PublicationWrite.resumes publicationId record) condition)
    (advances : Advances settings condition ready publicationId record disk)
    (copied : AtCopy settings disk publicationId record content mimeType (some manifest)) :
    Meets (placeManifest publicationId manifest) disk
      (Advances settings condition ready publicationId record)
      (fun _ later => Advances settings condition ready publicationId record later ∧
        AtCopy settings later publicationId record content mimeType (some manifest) ∧
        ∃ number, later.manifests (.manifest publicationId) = some ⟨number, manifest⟩)
      fun _ _ => ¬ ready := by
  unfold placeManifest
  cases there : disk.manifests (.manifest publicationId) with
  | some file =>
      obtain ⟨copy, same⟩ := copied.pending.manifest file there
      refine Meets.looked there ?_
      refine Meets.looked copy ?_
      refine Meets.lift advances ?_ ?_
      · intro _ _
        obtain rfl := Option.some.inj same
        exact ⟨advances, copied, file.number, there⟩
      · intro _ failed
        have owned : (some file).map StoredFile.number = some file.number := rfl
        rw [ensure_of owned] at failed
        cases failed
  | none =>
      refine Meets.looked there ?_
      have unplaced (later : PublicationDisk)
          (same : later.manifests (.manifest publicationId) =
            disk.manifests (.manifest publicationId)) :
          ∀ current, later.publications publicationId = some current →
            later.manifests (.manifest publicationId) = none ∨
              ∃ manifest, current.state = .committed manifest :=
        fun _ _ => .inl (same.trans there)
      have resumable (later : PublicationDisk) (records : later.publications = disk.publications)
          (files : later.files = disk.files) :
          ready → ∃ current, later.publications publicationId = some current ∧
            current.request = record.request ∧ current.destination = record.destination ∧
              Resumable settings later publicationId current := by
        intro go
        refine ⟨_, (congrFun records _).trans copied.found, rfl, rfl, ?_⟩
        intro _
        rw [files]
        exact copied.resumable advances go
      refine Meets.bind (advances.meets (w := .unlinkManifest publicationId) kept rfl
        (unplaced disk rfl) (resumable _ rfl rfl) fun unlinked => ?_)
      refine Meets.bind (unlinked.meets (w := .manifest publicationId manifest) kept rfl
        (unplaced _ rfl) (resumable _ rfl rfl) fun made => ?_)
      have copy : (Disk.apply (Disk.apply disk (.unlinkManifest publicationId))
          (.manifest publicationId manifest)).manifests (.temporary publicationId) =
          some ⟨disk.created, manifest⟩ := PublicationDisk.manifests_manifest
      have allowed : PublicationAllowed settings (Disk.apply (Disk.apply disk
          (.unlinkManifest publicationId)) (.manifest publicationId manifest))
          (.linkManifest publicationId) :=
        ⟨there, _, content, mimeType, manifest, disk.created, copied.found, rfl,
          copied.pending.event, copy⟩
      refine made.meets kept rfl allowed (resumable _ rfl rfl) fun linked => ?_
      have placed : (Disk.apply (Disk.apply (Disk.apply disk (.unlinkManifest publicationId))
          (.manifest publicationId manifest)) (.linkManifest publicationId)).manifests
          (.manifest publicationId) = some ⟨disk.created, manifest⟩ :=
        PublicationDisk.manifests_linkManifest.trans copy
      refine ⟨linked, ⟨copied.found, ?_⟩, disk.created, placed⟩
      exact
        { copied.pending with
          manifest := by
            intro file member
            obtain rfl := Option.some.inj (placed.symm.trans member)
            exact ⟨copy, rfl⟩ }

/-- A publication that is copied is finished. -/
theorem finishPublication_meets (now : UtcTime)
    (kept : KeptBy settings (PublicationWrite.resumes publicationId record) condition)
    (advances : Advances settings condition ready publicationId record disk)
    (copied : AtCopy settings disk publicationId record content mimeType prepared) :
    Meets (finishPublication settings now publicationId record content mimeType prepared) disk
      (Advances settings condition ready publicationId record)
      (fun manifest later => Finished later publicationId record manifest) fun _ _ => ¬ ready := by
  unfold finishPublication
  refine Meets.bind ((linkCopy_meets kept advances copied).mono (fun _ => id) ?_ fun _ _ => id)
  rintro - disk ⟨advances, copied, placed⟩
  refine Meets.quiet (copied.pending.checkPlaced placed) ?_
  refine Meets.bind ((prepareManifest_meets now kept advances copied placed).mono (fun _ => id) ?_
    fun _ _ => id)
  rintro manifest disk ⟨advances, copied⟩
  refine Meets.guarded advances ?_ ?_
  case refine_2 =>
    intro _ failed go
    have made := (copied.resumable advances go).2.1 manifest rfl
    rw [made] at failed
    cases failed
  rintro - -
  refine Meets.bind ((placeManifest_meets kept advances copied).mono (fun _ => id) ?_ fun _ _ => id)
  rintro - disk ⟨advances, copied, number, made⟩
  obtain ⟨describes, same, placed⟩ := copied.pending.ready manifest rfl
  have named := describes.named
  -- The event makes the publication visible; everything it promises is in place.
  have event : PublicationAllowed settings disk (.event (.published manifest record.request)) := by
    rw [PublicationAllowed, named]
    refine ⟨_, content, mimeType, some manifest, copied.found, rfl, rfl, copied.pending.event, ?_,
      ?_, number, made⟩
    · exact ⟨named, describes.producer, describes.destination, describes.mimeType⟩
    · rw [same]
      exact placed
  have events : (Disk.apply disk (.event (.published manifest record.request))).publicationsOf
      publicationId = [(manifest, record.request)] := by
    refine PublicationDisk.publicationsOf_append.trans ?_
    rw [copied.pending.event, PublicationEvent.publishes, if_pos named]
    rfl
  refine Meets.bind (advances.meets kept named event ?_ fun published => ?_)
  · intro _
    refine ⟨_, copied.found, rfl, rfl, ?_⟩
    intro none
    cases none.symm.trans events
  have done : Published settings (Disk.apply disk (.event (.published manifest record.request)))
      publicationId { record with state := .committed manifest } manifest := by
    refine ⟨⟨named, describes.producer, describes.destination, describes.mimeType⟩, events, ?_,
      number, made⟩
    rw [same]
    exact placed
  have belongs := (kept.sound disk advances.holds).belongs _ _ copied.found
  refine Meets.bind (published.meets (w := .publication publicationId
    { record with state := .committed manifest }) kept ⟨rfl, rfl, rfl⟩
    ⟨⟨belongs.instanceId, belongs.destination, belongs.lasting⟩, done, ?_⟩ ?_
    fun committed => ?_)
  · intro stored manifest same
    obtain rfl := Option.some.inj (copied.found.symm.trans same)
    exact PublicationState.noConfusion
  · exact fun _ => ⟨_, PublicationDisk.publications_publication, rfl, rfl, trivial⟩
  refine Meets.bind ((removeTemporaries_meets kept committed.holds
    PublicationDisk.publications_publication).kept.mono (fun _ => id) ?_ fun _ _ failed => failed.1.elim)
  rintro - later ⟨finished, advanced⟩
  exact Meets.pure advanced finished

/-- A publication that has its event is settled. -/
theorem settlePublication_meets
    (kept : KeptBy settings (PublicationWrite.resumes publicationId record) condition)
    (advances : Advances settings condition ready publicationId record disk)
    (found : disk.publications publicationId = some record)
    (pending : ∀ manifest, record.state ≠ .committed manifest)
    (published : Published settings disk publicationId record manifest) :
    Meets (settlePublication settings publicationId record manifest) disk
      (Advances settings condition ready publicationId record)
      (fun manifest later => Finished later publicationId record manifest) fun _ _ => ¬ ready := by
  unfold settlePublication
  refine Meets.looked published.verified (Meets.checked rfl ?_)
  have belongs := (kept.sound disk advances.holds).belongs _ _ found
  have done : Published settings disk publicationId { record with state := .committed manifest }
      manifest := by
    obtain ⟨describes, event, file, made⟩ := published
    exact ⟨⟨describes.named, describes.producer, describes.destination, describes.mimeType⟩, event,
      file, made⟩
  refine Meets.bind (advances.meets (w := .publication publicationId
    { record with state := .committed manifest }) kept ⟨rfl, rfl, rfl⟩
    ⟨⟨belongs.instanceId, belongs.destination, belongs.lasting⟩, done, ?_⟩ ?_
    fun committed => ?_)
  · intro stored other same
    obtain rfl := Option.some.inj (found.symm.trans same)
    exact pending other
  · exact fun _ => ⟨_, PublicationDisk.publications_publication, rfl, rfl, trivial⟩
  refine Meets.bind ((removeTemporaries_meets kept committed.holds
    PublicationDisk.publications_publication).kept.mono (fun _ => id) ?_ fun _ _ failed => failed.1.elim)
  rintro - later ⟨finished, advanced⟩
  exact Meets.pure advanced finished

end

/-! ## Resuming a publication -/

/-- The suffix of an output is the one of its destination. -/
theorem suffix_destination (belongs : Belongs publicationId record) :
    record.destination.suffix = TaskIntakeService.suffix record.request.source.name := by
  rw [belongs.destination, destinationOf]
  cases record.request.bundleId <;> rfl

/-- A prepared publication is copied when the script returns. -/
theorem copyOutput_meets
    (kept : KeptBy settings (PublicationWrite.resumes publicationId record) condition)
    (advances : Advances settings condition ready publicationId record disk)
    (found : disk.publications publicationId = some record) (prepared : record.state = .prepared) :
    Meets (copyOutput settings publicationId record) disk
      (Advances settings condition ready publicationId record)
      (fun copied later => Advances settings condition ready publicationId record later ∧
        AtCopy settings later publicationId record copied.1 copied.2 none)
      fun _ _ => ¬ ready := by
  have sound := kept.sound disk advances.holds
  have belongs := sound.belongs _ _ found
  obtain ⟨unpublished, unplaced⟩ : disk.publicationsOf publicationId = [] ∧
      disk.manifests (.manifest publicationId) = none := by
    have phase := sound.phase _ _ found
    unfold PublicationPhase at phase
    rw [prepared] at phase
    exact phase
  have needs (go : ready) : disk.files (.destination record.destination) = none ∧
      ∃ content mimeType, disk.outputs record.request.source = some content ∧
        content.size ≤ settings.maxFileBytes ∧
        settings.detectMime content (TaskIntakeService.suffix record.request.source.name) =
          mimeType ∧
        mimeType ∈ settings.allowedMimeTypes ∧
        ∀ now, settings.manifestContract
          (buildManifest now publicationId record content mimeType) = .ok () := by
    obtain ⟨current, same, -, -, resumable⟩ := advances.resumable go
    obtain rfl := Option.some.inj (found.symm.trans same)
    unfold Resumable at resumable
    rw [prepared] at resumable
    exact resumable
  have stays (later : PublicationDisk) (records : later.publications = disk.publications)
      (outputs : later.outputs = disk.outputs)
      (file : later.files (.destination record.destination) =
        disk.files (.destination record.destination)) :
      ready → ∃ current, later.publications publicationId = some current ∧
        current.request = record.request ∧ current.destination = record.destination ∧
          Resumable settings later publicationId current := by
    intro go
    refine ⟨record, (congrFun records _).trans found, rfl, rfl, ?_⟩
    unfold Resumable
    rw [prepared]
    dsimp only
    rw [file, outputs]
    exact needs go
  have idle : ∀ current, disk.publications publicationId = some current →
      current.state = .prepared ∨ ∃ manifest, current.state = .committed manifest := by
    intro current same
    obtain rfl := Option.some.inj (found.symm.trans same)
    exact .inl prepared
  unfold copyOutput
  refine Meets.looked rfl (Meets.guarded advances ?_ ?_)
  case refine_2 =>
    intro _ failed go
    rw [ensure_of (needs go).1] at failed
    cases failed
  intro _ passed
  have free : disk.files (.destination record.destination) = none := ensure_eq_ok.mp passed
  cases output : disk.outputs record.request.source with
  | none =>
      refine Meets.looked output (Meets.raise advances ?_)
      intro go
      obtain ⟨-, content, mimeType, stored, -⟩ := needs go
      cases output.symm.trans stored
  | some content =>
      refine Meets.looked output ?_
      -- What the checks of the copy find is what the record needs.
      have checks (go : ready) : content.size ≤ settings.maxFileBytes ∧
          settings.detectMime content (TaskIntakeService.suffix record.request.source.name) ∈
            settings.allowedMimeTypes ∧
          ∀ now, settings.manifestContract (buildManifest now publicationId record content
            (settings.detectMime content (TaskIntakeService.suffix record.request.source.name))) =
              .ok () := by
        obtain ⟨-, content, mimeType, stored, size, rfl, allowed, contract⟩ := needs go
        obtain rfl := Option.some.inj (output.symm.trans stored)
        exact ⟨size, allowed, contract⟩
      refine Meets.bind (advances.meets (w := .unlinkFile publicationId) kept rfl idle
        (stays _ rfl rfl rfl) fun unlinked => ?_)
      refine Meets.guarded unlinked ?_ ?_
      case refine_2 =>
        intro _ failed go
        rw [ensure_of (checks go).1] at failed
        cases failed
      rintro - -
      refine Meets.bind (unlinked.meets (w := .copy publicationId content) kept rfl idle
        (stays _ rfl rfl rfl) fun copied => ?_)
      dsimp only
      split
      · next refused =>
          refine Meets.bind (copied.meets (w := .unlinkFile publicationId) kept rfl idle
            (stays _ rfl rfl rfl) fun dropped => ?_)
          refine Meets.bind (Meets.raise dropped ?_)
          exact fun go => refused (checks go).2.1
      · next accepted =>
          let mimeType := settings.detectMime content
            (TaskIntakeService.suffix record.request.source.name)
          let before := Disk.apply (Disk.apply disk (.unlinkFile publicationId))
            (.copy publicationId content)
          have copy : before.files (.temporary publicationId) =
              some ⟨disk.created, content⟩ := PublicationDisk.files_copy
          have file : before.files (.destination record.destination) = none := free
          have pending : Pending settings before publicationId record content mimeType none := by
            refine ⟨?_, unpublished, ⟨disk.created, copy⟩, ?_, ?_⟩
            · rw [suffix_destination belongs]
            · intro manifest member
              cases member
            · intro file member
              cases unplaced.symm.trans member
          have allowed : PublicationAllowed settings before (.publication publicationId
              { record with state := .copied content mimeType none }) :=
            ⟨⟨belongs.instanceId, belongs.destination, belongs.lasting⟩, .inl pending.state, by
              intro stored manifest same
              obtain rfl := Option.some.inj (found.symm.trans same)
              rw [prepared]
              exact PublicationState.noConfusion⟩
          have same : SameView publicationId before (Disk.apply before (.publication publicationId
              { record with state := .copied content mimeType none })) :=
            ⟨⟨rfl, rfl, fun _ _ => id⟩, rfl, rfl⟩
          refine Meets.bind (copied.meets kept ⟨rfl, rfl, rfl⟩ allowed ?_ fun written => ?_)
          · intro go
            refine ⟨_, PublicationDisk.publications_publication, rfl, rfl, ?_⟩
            intro _
            refine ⟨?_, ?_, fun _ => (checks go).2.2⟩
            · intro _ _ other there
              cases file.symm.trans there
            · intro manifest member
              cases member
          · refine Meets.pure written ⟨written, ?_⟩
            exact ⟨PublicationDisk.publications_publication, pending.view same⟩

theorem publicationEvent_of_published
    (published : Published settings disk publicationId record manifest) :
    disk.publicationEvent publicationId = some (manifest, record.request) := by
  unfold PublicationDisk.publicationEvent
  rw [published.event]
  rfl

theorem publicationEvent_of_nil (none : disk.publicationsOf publicationId = []) :
    disk.publicationEvent publicationId = Option.none := by
  unfold PublicationDisk.publicationEvent
  rw [none]
  rfl

/-- A record with its own state. -/
theorem state_eta {state : PublicationState} (same : record.state = state) :
    { record with state := state } = record := by
  rw [← same]

/-- Resuming a publication finishes it, or it was not resumable. -/
theorem resumePublication_meets (now : UtcTime)
    (kept : KeptBy settings (PublicationWrite.resumes publicationId record) condition)
    (holds : condition disk) (found : disk.publications publicationId = some record) :
    Meets (resumePublication settings now publicationId record) disk
      (Advances settings condition (Resumable settings disk publicationId record) publicationId
        record)
      (fun manifest later => Finished later publicationId record manifest)
      fun _ _ => ¬ Resumable settings disk publicationId record := by
  have advances : Advances settings condition (Resumable settings disk publicationId record)
      publicationId record disk :=
    ⟨holds, fun resumable => ⟨record, found, rfl, rfl, resumable⟩⟩
  have phase := (kept.sound disk holds).phase _ _ found
  unfold PublicationPhase at phase
  unfold resumePublication
  cases state : record.state with
  | prepared =>
      rw [state] at phase
      refine Meets.looked (publicationEvent_of_nil phase.1) ?_
      refine Meets.bind ((copyOutput_meets kept advances found state).mono (fun _ => id) ?_
        fun _ _ => id)
      rintro ⟨content, mimeType⟩ disk ⟨advances, copied⟩
      exact finishPublication_meets now kept advances copied
  | copied content mimeType prepared =>
      rw [state] at phase
      rcases phase with pending | ⟨manifest, published⟩
      · refine Meets.looked (publicationEvent_of_nil pending.event) ?_
        refine finishPublication_meets now kept advances ⟨?_, pending⟩
        rw [state_eta state]
        exact found
      · refine Meets.looked (publicationEvent_of_published published) ?_
        refine settlePublication_meets kept advances found ?_ published
        intro manifest
        rw [state]
        exact PublicationState.noConfusion
  | committed manifest =>
      rw [state] at phase
      have published : Published settings disk publicationId record manifest := phase
      have removes : Meets (do
          removeTemporaries publicationId
          return manifest : PublicationScript PublicationManifest) disk
          (Advances settings condition (Resumable settings disk publicationId record) publicationId
            record)
          (fun manifest later => Finished later publicationId record manifest)
          fun _ _ => ¬ Resumable settings disk publicationId record := by
        have stored : disk.publications publicationId =
            some { record with state := .committed manifest } := by
          rw [state_eta state]
          exact found
        refine Meets.bind ((removeTemporaries_meets kept holds stored).kept.mono (fun _ => id) ?_
          fun _ _ failed => failed.1.elim)
        rintro - later ⟨finished, advanced⟩
        exact Meets.pure advanced finished
      dsimp only
      split
      · next single =>
          exact Meets.quiet (published.verifyPublication single) removes
      · exact Meets.looked published.verified (Meets.checked rfl removes)

end

end DesignHarness
