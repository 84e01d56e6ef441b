import DesignHarness.Services.AssetHistory
import Mathlib.Algebra.Order.BigOperators.Group.Finset
import Mathlib.Algebra.Order.Ring.Nat

/-!
# The bytes of the imported files of a task

An import is refused when its file and those that have an event exceed the quota of the task
(`commitImport`).  An import that was stopped behind its record has no event yet; when it is issued
again or recovered its event is appended without another look at the quota (`resumeImport`).  The
quota holds in every history in which what is resumed still fits.
-/

namespace DesignHarness

open Library AssetService

namespace AssetEvent

def importedManifest : AssetEvent → Option AssetManifest
  | imported manifest _ => some manifest
  | _ => none

/-- The bytes that the event adds to the imported files. -/
def importedSize : AssetEvent → Nat
  | imported manifest _ => manifest.content.size
  | _ => 0

end AssetEvent

namespace IntakeDisk

variable (disk : IntakeDisk)

/-- The manifests of the import events, those of removed assets included. -/
def importedFiles : List AssetManifest := disk.events.filterMap AssetEvent.importedManifest

/-- The total size of the imported files, visible and removed. -/
def importedBytes : Nat := (disk.events.map AssetEvent.importedSize).sum

end IntakeDisk

section

variable {disk : IntakeDisk} {settings : AssetSettings}

/-- What is listed was imported. -/
theorem imported_of_listed {events : List AssetEvent} {manifest : AssetManifest}
    (listed : manifest ∈ events.foldl IntakeDisk.listEvent []) :
    manifest ∈ events.filterMap AssetEvent.importedManifest := by
  induction events using List.reverseRecOn with
  | nil => cases listed
  | append_singleton events event ih =>
      rw [List.foldl_append] at listed
      rw [List.filterMap_append]
      change manifest ∈ IntakeDisk.listEvent (events.foldl IntakeDisk.listEvent []) event at listed
      cases event with
      | imported other request =>
          obtain before | last := List.mem_append.mp listed
          · exact List.mem_append_left _ (ih (List.mem_of_mem_filter before))
          · exact List.mem_append_right _ last
      | removed assetId key => exact List.mem_append_left _ (ih (List.mem_of_mem_filter listed))
      | corrupted assetId => exact List.mem_append_left _ (ih listed)

/-- The bytes of the imports are those of the visible and of the retained ones. -/
theorem importedBytes_split (visible : AssetId → Bool) (events : List AssetEvent) :
    (events.map AssetEvent.importedSize).sum =
      (((events.filterMap AssetEvent.importedManifest).filter fun manifest =>
          visible manifest.assetId).map fun manifest => manifest.content.size).sum +
        (events.map (AssetEvent.retained visible)).sum := by
  induction events with
  | nil => rfl
  | cons event events ih =>
      cases event with
      | imported manifest request =>
          by_cases shown : visible manifest.assetId = true
          · simp [AssetEvent.importedManifest, AssetEvent.importedSize, AssetEvent.retained,
              shown, ih, Nat.add_assoc]
          · simp [AssetEvent.importedManifest, AssetEvent.importedSize, AssetEvent.retained,
              shown, ih, Nat.add_left_comm]
      | removed assetId key =>
          simp [List.filterMap_cons, AssetEvent.importedManifest, AssetEvent.importedSize,
            AssetEvent.retained, ih]
      | corrupted assetId =>
          simp [List.filterMap_cons, AssetEvent.importedManifest, AssetEvent.importedSize,
            AssetEvent.retained, ih]

/-- Every asset is imported once. -/
def IntakeDisk.ImportedOnce (disk : IntakeDisk) : Prop :=
  (disk.importedFiles.map AssetManifest.assetId).Nodup

/-- The total of an import covers every imported file. -/
theorem importedBytes_le_currentTotal (world : IntakeWorld) (once : disk.ImportedOnce) :
    disk.importedBytes ≤ currentTotal world disk := by
  unfold IntakeDisk.importedBytes currentTotal
  rw [importedBytes_split fun assetId => (disk.visible? assetId).isSome]
  have shown : ∀ manifest ∈ disk.importedFiles.filter fun manifest =>
      (disk.visible? manifest.assetId).isSome, manifest ∈ disk.listAssets := by
    intro manifest member
    obtain ⟨imported, visible⟩ := List.mem_filter.mp member
    obtain ⟨other, found⟩ := Option.isSome_iff_exists.mp visible
    have listed : other ∈ disk.listAssets := List.mem_of_find?_eq_some found
    have named : other.assetId = manifest.assetId := by simpa using List.find?_some found
    have same := List.inj_on_of_nodup_map once (imported_of_listed listed) imported named
    rwa [← same]
  have distinct : (disk.importedFiles.filter fun manifest =>
      (disk.visible? manifest.assetId).isSome).Nodup :=
    List.Nodup.filter _ (List.Nodup.of_map _ once)
  obtain ⟨files, perm, sublist⟩ := List.subperm_of_subset distinct shown
  have sums := (perm.map fun manifest => manifest.content.size).sum_eq
  have least := (sublist.map fun manifest => manifest.content.size).sum_le_sum
    fun _ _ => Nat.zero_le _
  unfold IntakeDisk.importedFiles at sums
  omega

end

/-- The transactions belong to their assets, every asset is imported once, and the imported files
    are within the quota. -/
structure Metered (settings : AssetSettings) (disk : IntakeDisk) : Prop where
  owned : ∀ assetId record, disk.transactions.lookup assetId = some record →
    record.manifest.assetId = assetId
  once : disk.ImportedOnce
  within : disk.importedBytes ≤ settings.maxTaskBytes

/-- The disk is metered, and its journal goes on from the one at the start. -/
def Onward (settings : AssetSettings) (start disk : IntakeDisk) : Prop :=
  Metered settings disk ∧ ∃ more, disk.events = start.events ++ more

/-- Nothing is left by an interrupted write. -/
def untorn (_ : IntakeDisk) : Prop := False

/-- A write that neither imports a file nor prepares an import. -/
def IntakeWrite.Plain : IntakeWrite → Prop
  | .event (.imported ..) => False
  | .transaction .. => False
  | _ => True

/-- A write that marks an asset as corrupted. -/
def IntakeWrite.Marking : IntakeWrite → Prop
  | .event (.corrupted _) => True
  | .mark _ => True
  | _ => False

/-- The script leaves the imports alone. -/
abbrev PlainScript {α : Type} (script : IntakeScript α) : Prop :=
  script.WritesOnly IntakeWrite.Plain

section

variable {settings : AssetSettings} {world : IntakeWorld} {start disk : IntakeDisk}
  {assetId : AssetId} {record : ImportRecord}

theorem Onward.refl (metered : Metered settings disk) : Onward settings disk disk :=
  ⟨metered, [], (List.append_nil _).symm⟩

/-- An event that imports nothing. -/
theorem Onward.append {event : AssetEvent} (onward : Onward settings start disk)
    (nothing : event.importedManifest = none) (free : event.importedSize = 0) :
    Onward settings start (disk.record event) := by
  obtain ⟨metered, more, events⟩ := onward
  refine ⟨⟨metered.owned, ?_, ?_⟩, more ++ [event], ?_⟩
  · unfold IntakeDisk.ImportedOnce IntakeDisk.importedFiles IntakeDisk.record
    rw [List.filterMap_append, List.filterMap_cons_none nothing, List.filterMap_nil,
      List.append_nil]
    exact metered.once
  · unfold IntakeDisk.importedBytes IntakeDisk.record
    rw [List.map_append, List.sum_append, List.map_singleton, free]
    exact metered.within
  · unfold IntakeDisk.record
    rw [events, List.append_assoc]

theorem IntakeWrite.Plain.keeps {w : IntakeWrite} (plain : w.Plain) :
    Keeps (Onward settings start) untorn w := by
  intro disk onward
  refine ⟨?_, .inl onward⟩
  obtain ⟨metered, journal⟩ := onward
  cases w with
  | event event =>
      cases event with
      | imported manifest request => exact plain.elim
      | removed assetId key => exact Onward.append ⟨metered, journal⟩ rfl rfl
      | corrupted assetId => exact Onward.append ⟨metered, journal⟩ rfl rfl
  | transaction assetId record => exact plain.elim
  | task => exact ⟨⟨metered.owned, metered.once, metered.within⟩, journal⟩
  | commit intake commit => exact ⟨⟨metered.owned, metered.once, metered.within⟩, journal⟩
  | other key command request => exact ⟨⟨metered.owned, metered.once, metered.within⟩, journal⟩
  | input assetId filename content =>
      exact ⟨⟨metered.owned, metered.once, metered.within⟩, journal⟩
  | discard assetId => exact ⟨⟨metered.owned, metered.once, metered.within⟩, journal⟩
  | mark assetId => exact ⟨⟨metered.owned, metered.once, metered.within⟩, journal⟩

theorem IntakeWrite.Marking.plain {w : IntakeWrite} (marking : w.Marking) : w.Plain := by
  cases w with
  | event event =>
      cases event with
      | corrupted assetId => trivial
      | imported manifest request => exact marking.elim
      | removed assetId key => exact marking.elim
  | mark assetId => trivial
  | _ => exact marking.elim

/-- What every plain write keeps, a plain script keeps. -/
theorem onward_of_plain {α : Type} {script : IntakeScript α} (plain : PlainScript script)
    (onward : Onward settings start disk) :
    Meets script disk (Onward settings start) (fun _ _ => True) fun _ _ => True :=
  (plain.maintains (fun _ fine => fine.keeps) disk onward).mono
    (fun _ held => held.resolve_right id) (fun _ _ _ => trivial) fun _ _ _ => trivial

/-! ## Scripts that import nothing -/

theorem markCorrupted_marking (assetId : AssetId) :
    (markCorrupted assetId).WritesOnly IntakeWrite.Marking := by
  unfold markCorrupted
  refine Script.WritesOnly.look fun marked => ?_
  split
  · exact Script.WritesOnly.pure
  · exact Script.WritesOnly.bind (Script.WritesOnly.write trivial) fun _ =>
      Script.WritesOnly.write trivial

theorem verifyOrMark_marking (manifest : AssetManifest) :
    (verifyOrMark settings manifest).WritesOnly IntakeWrite.Marking := by
  unfold verifyOrMark
  refine Script.WritesOnly.look fun verified => ?_
  cases verified with
  | ok value => exact Script.WritesOnly.pure
  | error error =>
      exact Script.WritesOnly.bind (markCorrupted_marking _) fun _ => Script.WritesOnly.raise

theorem verifyAsset_marking (assetId : AssetId) :
    (verifyAsset settings assetId).WritesOnly IntakeWrite.Marking := by
  unfold verifyAsset
  refine Script.WritesOnly.look fun visible => ?_
  cases visible with
  | none => exact Script.WritesOnly.raise
  | some manifest => exact verifyOrMark_marking manifest

/-- The verification of what is visible reports a corrupted asset. -/
theorem quarantine_marking (assetId : AssetId) :
    (quarantine (verifyAsset settings assetId)).WritesOnly IntakeWrite.Marking := by
  unfold quarantine
  refine Script.WritesOnly.rescue (verifyAsset_marking assetId) fun error => ?_
  cases error with
  | harness raised =>
      dsimp only
      split
      · exact Script.WritesOnly.pure
      · exact Script.WritesOnly.raise
  | _ => exact Script.WritesOnly.raise

theorem requireTask_plain : PlainScript requireTask := by
  unfold requireTask
  exact Script.WritesOnly.look fun _ => Script.WritesOnly.lift

theorem removeInputAsset_plain (assetId : AssetId) (key : String) :
    PlainScript (removeInputAsset assetId key) := by
  unfold removeInputAsset
  refine Script.WritesOnly.bind requireTask_plain fun _ => Script.WritesOnly.look fun other => ?_
  cases other with
  | some other => exact Script.WritesOnly.lift
  | none => exact Script.WritesOnly.look fun _ => Script.WritesOnly.check fun _ => Script.WritesOnly.write trivial

open TaskIntakeService

theorem putIntake_plain (intake : TaskIntake) (request : IntakeRequest)
    (envelope : CommandEnvelope) (result : IntakeResult) :
    PlainScript (putIntake intake request envelope result) := by
  unfold putIntake
  exact Script.WritesOnly.bind (Script.WritesOnly.write trivial) fun _ => Script.WritesOnly.pure

theorem attachUpload_plain (upload : Upload) (manifest : AssetManifest) :
    PlainScript (attachUpload settings world upload manifest) := by
  unfold attachUpload
  refine Script.WritesOnly.look fun found => Script.WritesOnly.check fun replay => ?_
  cases replay with
  | some replay => exact Script.WritesOnly.pure
  | none =>
      refine Script.WritesOnly.look fun opened => ?_
      cases opened with
      | error error =>
          exact Script.WritesOnly.bind (removeInputAsset_plain _ _) fun _ => Script.WritesOnly.raise
      | ok current =>
          refine Script.WritesOnly.check fun _ => ?_
          have attaches : PlainScript (do
              let summaries ← Script.read (assetSummaries · current.assetIds)
              let active ← Script.lift summaries
              if maxFiles ≤ active.length ∨
                  maxTotalBytes < totalSize active + manifest.content.size then
                AssetService.removeInputAsset upload.assetId
                  ("reject-capacity-" ++ upload.envelope.idempotencyKey)
                Script.raise (invalidAsset "The task upload limit would be exceeded.")
              let updated := attached world current upload.assetId
              putIntake updated upload.request upload.envelope
                { intake := updated, intakeRevision := updated.revision,
                  asset := some manifest }) := by
            refine Script.WritesOnly.look fun _ => Script.WritesOnly.check fun active => ?_
            dsimp only
            split
            · refine Script.WritesOnly.bind (removeInputAsset_plain _ _) fun _ => ?_
              exact Script.WritesOnly.bind Script.WritesOnly.raise fun _ => putIntake_plain _ _ _ _
            · exact putIntake_plain _ _ _ _
          dsimp only
          split
          · exact Script.WritesOnly.pure
          · exact attaches

theorem removeAsset_plain (assetId : AssetId) (envelope : CommandEnvelope) :
    PlainScript (removeAsset settings world assetId envelope) := by
  unfold removeAsset
  refine Script.WritesOnly.check fun _ => Script.WritesOnly.look fun _ => Script.WritesOnly.check fun replay => ?_
  cases replay with
  | some replay => exact Script.WritesOnly.pure
  | none =>
      refine Script.WritesOnly.look fun _ => Script.WritesOnly.check fun _ => Script.WritesOnly.check fun _ => ?_
      refine Script.WritesOnly.check fun _ => Script.WritesOnly.bind (removeInputAsset_plain _ _) fun _ => ?_
      exact putIntake_plain _ _ _ _

theorem create_plain (prompt : String) (startPolicy : StartPolicy) (envelope : CommandEnvelope) :
    PlainScript (TaskIntakeService.create settings world prompt startPolicy envelope) := by
  unfold TaskIntakeService.create
  refine Script.WritesOnly.check fun _ => Script.WritesOnly.check fun _ => Script.WritesOnly.check fun _ => ?_
  refine Script.WritesOnly.look fun _ => Script.WritesOnly.check fun replay => ?_
  cases replay with
  | some replay => exact Script.WritesOnly.pure
  | none =>
      refine Script.WritesOnly.check fun _ => Script.WritesOnly.check fun _ => ?_
      refine Script.WritesOnly.bind (Script.WritesOnly.write trivial) fun _ => Script.WritesOnly.look fun _ => ?_
      exact Script.WritesOnly.check fun _ => putIntake_plain _ _ _ _

theorem submit_plain (taskExpectedRevision : Nat) (envelope : CommandEnvelope) :
    PlainScript (TaskIntakeService.submit settings world taskExpectedRevision envelope) := by
  unfold TaskIntakeService.submit
  refine Script.WritesOnly.check fun _ => Script.WritesOnly.check fun _ => Script.WritesOnly.look fun _ => ?_
  refine Script.WritesOnly.check fun replay => ?_
  cases replay with
  | some replay => exact Script.WritesOnly.pure
  | none =>
      refine Script.WritesOnly.look fun _ => Script.WritesOnly.check fun current => Script.WritesOnly.check fun _ => ?_
      refine Script.WritesOnly.bind (Script.WritesOnly.forEach fun assetId _ =>
        (verifyAsset_marking assetId).mono fun _ => IntakeWrite.Marking.plain) fun _ => ?_
      have commits : PlainScript (do
          Script.lift world.registerInputManifest
          let summaries ← Script.read (assetSummaries · current.assetIds)
          let _ ← Script.lift summaries
          let updated :=
            { current with
              status := .submitted
              sessionOpen := false
              revision := current.revision + 1
              updatedAt := world.now
              submittedAt := some world.now }
          putIntake updated (.submit taskExpectedRevision) envelope
            { intake := updated, intakeRevision := updated.revision }) := by
        refine Script.WritesOnly.check fun _ => Script.WritesOnly.look fun _ => Script.WritesOnly.check fun _ => ?_
        exact putIntake_plain _ _ _ _
      dsimp only
      split
      · exact Script.WritesOnly.look fun _ => Script.WritesOnly.check fun _ => commits
      · exact commits

end

/-! ## Resuming an import -/

/-- The bytes that resuming the import would add: those of its file when it verifies and has no
    event yet. -/
def resumable (settings : AssetSettings) (disk : IntakeDisk) (assetId : AssetId) : Nat :=
  match disk.transactions.lookup assetId with
  | none => 0
  | some record =>
      if disk.importEvent assetId = none ∧ verifyManifestFile settings record.manifest disk = .ok ()
      then record.manifest.content.size
      else 0

/-- What a turn of an import leaves: its bytes are charged, and nothing else can be resumed that
    could not before. -/
structure Turned (settings : AssetSettings) (disk : IntakeDisk) (assetId : AssetId)
    (later : IntakeDisk) : Prop where
  bytes : later.importedBytes ≤ disk.importedBytes + resumable settings disk assetId
  settled : resumable settings later assetId = 0
  others : ∀ other, resumable settings later other ≤ resumable settings disk other

section

variable {settings : AssetSettings} {world : IntakeWorld} {start disk later : IntakeDisk}
  {assetId : AssetId} {record : ImportRecord}

theorem resumable_of_event (event : (disk.importEvent assetId).isSome) :
    resumable settings disk assetId = 0 := by
  unfold resumable
  cases disk.transactions.lookup assetId with
  | none => rfl
  | some record =>
      refine if_neg ?_
      rintro ⟨absent, -⟩
      rw [absent] at event
      cases event

theorem resumable_of_absent (absent : disk.transactions.lookup assetId = none) :
    resumable settings disk assetId = 0 := by
  unfold resumable
  rw [absent]

/-- An asset has an import event exactly when it is among the imported files. -/
theorem importEvent_isSome_iff :
    (disk.importEvent assetId).isSome ↔
      assetId ∈ disk.importedFiles.map AssetManifest.assetId := by
  unfold IntakeDisk.importEvent IntakeDisk.importedFiles
  rw [List.findSome?_isSome_iff]
  constructor
  · rintro ⟨event, member, found⟩
    cases event with
    | imported manifest request =>
        simp only [AssetEvent.importOf] at found
        split at found
        · next same =>
            refine List.mem_map.mpr ⟨manifest, List.mem_filterMap.mpr ⟨_, member, rfl⟩, same⟩
        · cases found
    | removed other key => cases found
    | corrupted other => cases found
  · intro listed
    obtain ⟨manifest, member, same⟩ := List.mem_map.mp listed
    obtain ⟨event, recorded, found⟩ := List.mem_filterMap.mp member
    refine ⟨event, recorded, ?_⟩
    cases event with
    | imported other request =>
        obtain rfl := Option.some.inj found
        simp only [AssetEvent.importOf, if_pos same, Option.isSome_some]
    | removed other key => cases found
    | corrupted other => cases found

theorem importedBytes_imported {request : ImportRequest} {manifest : AssetManifest} :
    (disk.record (.imported manifest request)).importedBytes =
      disk.importedBytes + manifest.content.size := by
  unfold IntakeDisk.importedBytes IntakeDisk.record
  rw [List.map_append, List.sum_append]
  rfl

/-- The event of an import that fits. -/
theorem Onward.recordImport {manifest : AssetManifest}
    (onward : Onward settings start disk) (request : ImportRequest) (owner : manifest.assetId = assetId)
    (absent : disk.importEvent assetId = none)
    (fits : disk.importedBytes + manifest.content.size ≤ settings.maxTaskBytes) :
    Onward settings start (disk.record (.imported manifest request)) := by
  obtain ⟨metered, more, events⟩ := onward
  refine ⟨⟨metered.owned, ?_, ?_⟩, more ++ [.imported manifest request], ?_⟩
  · have fresh : assetId ∉ disk.importedFiles.map AssetManifest.assetId := by
      rw [← importEvent_isSome_iff, absent]
      exact Bool.false_ne_true
    have files : (disk.record (.imported manifest request)).importedFiles =
        disk.importedFiles ++ [manifest] := List.filterMap_append
    unfold IntakeDisk.ImportedOnce
    rw [files, List.map_append, List.map_singleton, owner]
    refine List.nodup_append.mpr ⟨metered.once, List.nodup_singleton _, ?_⟩
    intro other member last found same
    obtain rfl := List.mem_singleton.mp found
    exact fresh (same ▸ member)
  · rw [importedBytes_imported]
    exact fits
  · unfold IntakeDisk.record
    rw [events, List.append_assoc]

/-- A transaction of the asset itself. -/
theorem Onward.file (onward : Onward settings start disk) (record : ImportRecord)
    (owner : record.manifest.assetId = assetId) :
    Onward settings start (Disk.apply disk (IntakeWrite.transaction assetId record)) := by
  obtain ⟨metered, journal⟩ := onward
  refine ⟨⟨?_, metered.once, metered.within⟩, journal⟩
  intro other stored found
  change (disk.transactions.insert assetId record).lookup other = some stored at found
  by_cases same : other = assetId
  · subst same
    rw [AList.lookup_insert] at found
    obtain rfl := Option.some.inj found
    exact owner
  · rw [AList.lookup_insert_ne same] at found
    exact metered.owned other stored found

/-- The journal has the event of the asset, and the rest is as before. -/
theorem turned_of_event (event : (later.importEvent assetId).isSome)
    (bytes : later.importedBytes ≤ disk.importedBytes + resumable settings disk assetId)
    (inputs : later.inputs = disk.inputs)
    (transactions : ∀ other, other ≠ assetId →
      later.transactions.lookup other = disk.transactions.lookup other)
    (events : ∀ other, other ≠ assetId → later.importEvent other = disk.importEvent other) :
    Turned settings disk assetId later := by
  have settled : resumable settings later assetId = 0 := resumable_of_event event
  refine ⟨bytes, settled, ?_⟩
  intro other
  by_cases same : other = assetId
  · rw [same, settled]
    exact Nat.zero_le _
  · have files : ∀ manifest, verifyManifestFile settings manifest later =
        verifyManifestFile settings manifest disk := by
      intro manifest
      unfold verifyManifestFile
      rw [inputs]
    unfold resumable
    rw [transactions other same, events other same]
    cases disk.transactions.lookup other with
    | none => exact le_rfl
    | some record =>
        dsimp only
        rw [files]

theorem resumeImport_onward (onward : Onward settings start disk)
    (found : disk.transactions.lookup assetId = some record)
    (fits : disk.importedBytes + resumable settings disk assetId ≤ settings.maxTaskBytes) :
    Meets (resumeImport settings assetId record) disk (Onward settings start)
      (fun _ later => Turned settings disk assetId later) fun _ _ => True := by
  have owner := onward.1.owned assetId record found
  unfold resumeImport
  refine Meets.looked rfl (Meets.guarded onward ?_ fun _ _ => trivial)
  rintro - -
  cases verified : verifyManifestFile settings record.manifest disk with
  | error error =>
      -- The file does not verify: the asset is marked, and the call raises.
      have raises : Meets (verifyOrMark settings record.manifest) disk (Onward settings start)
          (fun _ _ => False) fun _ _ => True := by
        unfold verifyOrMark
        refine Meets.looked verified ?_
        refine Meets.bind ((onward_of_plain ((markCorrupted_marking _).mono fun _ => IntakeWrite.Marking.plain)
            onward).kept.mono (fun _ => id) ?_ ?_)
        · rintro - later ⟨-, held⟩
          exact Meets.raise held trivial
        · exact fun _ _ _ => trivial
      exact Meets.bind (raises.mono (fun _ => id) (fun _ _ absurd => absurd.elim) fun _ _ => id)
  | ok value =>
      have quiet : verifyOrMark settings record.manifest disk = ⟨[], .ok ()⟩ := by
        unfold verifyOrMark
        rw [Script.run_read, verified]
        rfl
      refine Meets.quiet quiet ?_
      -- The transaction is committed once the event is there.
      have completes : ∀ later : IntakeDisk, Onward settings start later →
          Turned settings disk assetId later → (later.importEvent assetId).isSome →
          Meets (do
              if record.committed = false then
                Script.write (.transaction assetId { record with committed := true })
              return record.manifest : IntakeScript AssetManifest) later (Onward settings start)
            (fun _ last => Turned settings disk assetId last) fun _ _ => True := by
        intro later held turned event
        split
        · have filed := held.file { record with committed := true } owner
          refine Meets.bind (Meets.write held held filed ?_)
          refine Meets.pure filed ⟨turned.bytes, ?_, ?_⟩
          · exact resumable_of_event event
          · intro other
            by_cases same : other = assetId
            · subst same
              refine le_of_eq_of_le ?_ (Nat.zero_le _)
              exact resumable_of_event event
            · refine le_of_eq_of_le ?_ (turned.others other)
              unfold resumable
              change (match (later.transactions.insert assetId _).lookup other with
                | none => 0
                | some record => _) = _
              rw [AList.lookup_insert_ne same]
              rfl
        · exact Meets.pure held turned
      cases event : disk.importEvent assetId with
      | some pair =>
          have present : (disk.importEvent assetId).isSome := by rw [event]; rfl
          refine completes disk onward ?_ present
          exact turned_of_event present (Nat.le_add_right _ _) rfl (fun _ _ => rfl) fun _ _ => rfl
      | none =>
          have charged : resumable settings disk assetId = record.manifest.content.size := by
            unfold resumable
            rw [found]
            exact if_pos ⟨event, verified⟩
          rw [charged] at fits
          have recorded := onward.recordImport record.request owner event fits
          have present : ((disk.record (.imported record.manifest record.request)).importEvent
              assetId).isSome := by
            rw [IntakeDisk.importEvent_imported, event, if_pos owner]
            rfl
          refine Meets.bind (Meets.write onward onward recorded ?_)
          refine completes _ recorded (turned_of_event present ?_ rfl (fun _ _ => rfl) ?_) present
          · rw [charged]
            exact le_of_eq importedBytes_imported
          · intro other different
            have apart : record.manifest.assetId ≠ other := by
              rw [owner]
              exact Ne.symm different
            refine IntakeDisk.importEvent_imported.trans ?_
            rw [if_neg apart, Option.or_none]

end

/-- An import goes on with the transaction under its key. -/
def Reissues (disk : IntakeDisk) (assetId : AssetId) (request : ImportRequest) : Prop :=
  ∃ record, disk.transactions.lookup assetId = some record ∧ record.request = request

instance (disk : IntakeDisk) (assetId : AssetId) (request : ImportRequest) :
    Decidable (Reissues disk assetId request) :=
  match found : disk.transactions.lookup assetId with
  | none => .isFalse fun ⟨_, stored, _⟩ => by rw [found] at stored; cases stored
  | some record =>
      if same : record.request = request then .isTrue ⟨record, found, same⟩
      else .isFalse fun ⟨_, stored, asked⟩ =>
        same ((Option.some.inj (found.symm.trans stored)) ▸ asked)

/-- What is resumed of the asset still fits. -/
def StillFits (settings : AssetSettings) (disk : IntakeDisk) (assetId : AssetId) : Prop :=
  disk.importedBytes + resumable settings disk assetId ≤ settings.maxTaskBytes

instance (settings : AssetSettings) (disk : IntakeDisk) (assetId : AssetId) :
    Decidable (StillFits settings disk assetId) := inferInstanceAs (Decidable (_ ≤ _))

section

variable {settings : AssetSettings} {world : IntakeWorld} {start disk : IntakeDisk}
  {assetId : AssetId} {request : ImportRequest}

theorem commitImport_onward (onward : Onward settings start disk)
    (fits : Reissues disk assetId request → StillFits settings disk assetId) :
    Meets (commitImport settings world assetId request) disk (Onward settings start)
      (fun _ _ => True) fun _ _ => True := by
  unfold commitImport requireTask
  refine Meets.bind (Meets.looked rfl (Meets.lift onward ?_ fun _ _ => trivial))
  rintro - -
  refine Meets.looked rfl ?_
  split
  · next existing found =>
      refine Meets.guarded onward ?_ fun _ _ => trivial
      intro _ agreed
      have asked : existing.request = request := ensure_eq_ok.mp agreed
      refine (resumeImport_onward onward found (fits ⟨existing, found, asked⟩)).mono
        (fun _ => id) (fun _ _ _ => trivial) fun _ _ => id
  · next fresh =>
      refine Meets.looked rfl ?_
      have staged : Onward settings start
          (Disk.apply disk (IntakeWrite.input assetId request.filename request.content)) :=
        (IntakeWrite.Plain.keeps (w := .input assetId request.filename request.content) trivial
          disk onward).1
      have discarded : Onward settings start (Disk.apply (Disk.apply disk
          (IntakeWrite.input assetId request.filename request.content))
            (IntakeWrite.discard assetId)) :=
        (IntakeWrite.Plain.keeps (w := .discard assetId) trivial _ staged).1
      refine Meets.bind (Meets.write onward onward staged ?_)
      split
      · refine Meets.bind (Meets.write staged staged discarded ?_)
        exact Meets.bind (Meets.raise discarded trivial)
      next small =>
      dsimp only
      split
      · refine Meets.bind (Meets.write staged staged discarded ?_)
        exact Meets.bind (Meets.raise discarded trivial)
      refine Meets.guarded staged ?_ fun _ _ => trivial
      rintro - -
      let record : ImportRecord :=
        ⟨request, false, assetId, request.filename,
          settings.detectMime request.content request.filename, request.content,
          request.description, world.now⟩
      have prepared := staged.file record (show record.manifest.assetId = assetId from rfl)
      refine Meets.bind (Meets.write staged staged prepared ?_)
      have least := importedBytes_le_currentTotal world onward.1.once
      refine (resumeImport_onward prepared (AList.lookup_insert _) ?_).mono (fun _ => id)
        (fun _ _ _ => trivial) fun _ _ => id
      -- The bytes at hand are those that were counted.
      have charge : resumable settings (Disk.apply (Disk.apply disk
          (IntakeWrite.input assetId request.filename request.content))
            (IntakeWrite.transaction assetId record)) assetId ≤ request.content.size := by
        unfold resumable
        change (match (disk.transactions.insert assetId record).lookup assetId with
          | none => 0
          | some record => _) ≤ _
        rw [AList.lookup_insert]
        dsimp only
        split
        · exact le_rfl
        · exact Nat.zero_le _
      change disk.importedBytes + _ ≤ _
      omega

/-- The checks of `_import_stream` pass. -/
def StreamAdmitted (settings : AssetSettings) (request : ImportRequest) (maxFileBytes : Nat) :
    Prop :=
  validFilename request.filename = true ∧ 1 ≤ maxFileBytes ∧
    request.content.size ≤ min settings.maxFileBytes maxFileBytes

instance (settings : AssetSettings) (request : ImportRequest) (maxFileBytes : Nat) :
    Decidable (StreamAdmitted settings request maxFileBytes) := inferInstanceAs (Decidable (_ ∧ _))

theorem importStream_onward {maxFileBytes : Nat} (onward : Onward settings start disk)
    (fits : StreamAdmitted settings request maxFileBytes → Reissues disk assetId request →
      StillFits settings disk assetId) :
    Meets (importStream settings world assetId request maxFileBytes) disk (Onward settings start)
      (fun _ _ => True) fun _ _ => True := by
  unfold importStream requireTask
  refine Meets.bind (Meets.looked rfl (Meets.lift onward ?_ fun _ _ => trivial))
  rintro - -
  refine Meets.guarded onward ?_ fun _ _ => trivial
  intro _ named
  refine Meets.guarded onward ?_ fun _ _ => trivial
  intro _ positive
  refine Meets.guarded onward ?_ fun _ _ => trivial
  intro _ small
  exact commitImport_onward onward
    (fits ⟨ensure_eq_ok.mp named, ensure_eq_ok.mp positive, ensure_eq_ok.mp small⟩)

theorem importUpload_onward {upload : TaskIntakeService.Upload} (onward : Onward settings start disk)
    (fits : ∀ maxFileBytes, TaskIntakeService.admitUpload settings upload disk = .ok maxFileBytes →
      StreamAdmitted settings upload.importRequest maxFileBytes →
        Reissues disk upload.assetId upload.importRequest →
          StillFits settings disk upload.assetId) :
    Meets (TaskIntakeService.importUpload settings world upload) disk (Onward settings start)
      (fun _ _ => True) fun _ _ => True := by
  unfold TaskIntakeService.importUpload
  refine Meets.looked rfl (Meets.guarded onward ?_ fun _ _ => trivial)
  intro maxFileBytes admitted
  refine Meets.bind ((importStream_onward onward (fits maxFileBytes admitted)).kept.mono
    (fun _ => id) ?_ fun _ _ _ => trivial)
  rintro manifest later ⟨-, held⟩
  split
  · refine Meets.bind ((onward_of_plain (removeInputAsset_plain _ _) held).kept.mono (fun _ => id) ?_
      fun _ _ _ => trivial)
    rintro - last ⟨-, held⟩
    exact Meets.bind (Meets.raise held trivial)
  · exact Meets.pure held trivial

end

/-- The bytes that resuming the assets would add. -/
def resumableBytes (settings : AssetSettings) (disk : IntakeDisk) (assetIds : List AssetId) : Nat :=
  ∑ assetId ∈ assetIds.toFinset, resumable settings disk assetId

/-- Whatever is resumed of the assets still fits. -/
def Headroom (settings : AssetSettings) (disk : IntakeDisk) (assetIds : List AssetId) : Prop :=
  disk.importedBytes + resumableBytes settings disk assetIds ≤ settings.maxTaskBytes

section

variable {settings : AssetSettings} {start disk later : IntakeDisk} {assetId : AssetId}
  {rest : List AssetId}

/-- The turn of an asset uses up its own room. -/
theorem Turned.room (turned : Turned settings disk assetId later)
    (room : Headroom settings disk (assetId :: rest)) : Headroom settings later rest := by
  unfold Headroom resumableBytes at room ⊢
  have others : ∑ other ∈ rest.toFinset, resumable settings later other ≤
      ∑ other ∈ rest.toFinset.erase assetId, resumable settings disk other := by
    rw [← Finset.sum_erase rest.toFinset turned.settled]
    exact Finset.sum_le_sum fun other _ => turned.others other
  have split : ∑ other ∈ (assetId :: rest).toFinset, resumable settings disk other =
      resumable settings disk assetId +
        ∑ other ∈ rest.toFinset.erase assetId, resumable settings disk other := by
    rw [List.toFinset_cons, ← Finset.add_sum_erase _ _ (Finset.mem_insert_self _ _),
      Finset.erase_insert_eq_erase]
  have bytes := turned.bytes
  omega

theorem Headroom.head (room : Headroom settings disk (assetId :: rest)) :
    StillFits settings disk assetId := by
  unfold Headroom resumableBytes at room
  have least : resumable settings disk assetId ≤
      ∑ other ∈ (assetId :: rest).toFinset, resumable settings disk other :=
    Finset.single_le_sum (fun _ _ => Nat.zero_le _)
      (List.mem_toFinset.mpr List.mem_cons_self)
  unfold StillFits
  omega

theorem recoverImport_onward {services : AssetServiceSettings}
    (onward : Onward services.imports start disk)
    (room : Headroom services.imports disk (assetId :: rest)) :
    Meets (recoverImport services assetId) disk (Onward services.imports start)
      (fun _ later => Headroom services.imports later rest) fun _ _ => True := by
  unfold recoverImport
  cases found : disk.transactions.lookup assetId with
  | none =>
      refine Meets.looked found (Meets.pure onward ?_)
      have turned : Turned services.imports disk assetId disk :=
        ⟨Nat.le_add_right _ _, resumable_of_absent found, fun _ => le_rfl⟩
      exact turned.room room
  | some record =>
      refine Meets.looked found ?_
      refine Meets.bind ((resumeImport_onward onward found room.head).kept.mono (fun _ => id) ?_
        fun _ _ _ => trivial)
      rintro - later ⟨turned, held⟩
      exact Meets.pure held (turned.room room)

end

/-! ## The recovery of all tasks -/

/-- The imports of a task among the transactions. -/
def importsOf (taskId : Identifier) (transactions : List TaskTransaction) : List AssetId :=
  transactions.filterMap fun
    | (other, .imported assetId) => if other = taskId then some assetId else none
    | _ => none

/-- The quota holds in every task, and whatever is left of the listing still fits. -/
def AssetsMetered (settings : AssetServiceSettings) (start : Identifier → IntakeDisk)
    (rest : List TaskTransaction) (disk : AssetDisk) : Prop :=
  ∀ taskId, Onward settings.imports (start taskId) (disk.imports taskId) ∧
    Headroom settings.imports (disk.imports taskId) (importsOf taskId rest)

section

variable {settings : AssetServiceSettings} {start : Identifier → IntakeDisk}
  {disk : AssetDisk} {taskId : Identifier} {rest : List TaskTransaction}

theorem Headroom.none {settings : AssetSettings} {disk : IntakeDisk} (metered : Metered settings disk) :
    Headroom settings disk [] := by
  have within := metered.within
  unfold Headroom resumableBytes
  rw [List.toFinset_nil, Finset.sum_empty]
  omega

/-- With nothing left, the quota holds. -/
theorem AssetsMetered.done (metered : AssetsMetered settings start rest disk) :
    AssetsMetered settings start [] disk :=
  fun taskId => ⟨(metered taskId).1, Headroom.none (metered taskId).1.1⟩

/-- The imports of one task change. -/
theorem AssetsMetered.withImports {intake : IntakeDisk} {before : List TaskTransaction}
    (metered : AssetsMetered settings start before disk)
    (others : ∀ another, another ≠ taskId → importsOf another rest = importsOf another before)
    (onward : Onward settings.imports (start taskId) intake)
    (headroom : Headroom settings.imports intake (importsOf taskId rest)) :
    AssetsMetered settings start rest (disk.withImports taskId intake) := by
  intro another
  by_cases same : another = taskId
  · subst same
    rw [AssetDisk.imports_withImports]
    exact ⟨onward, headroom⟩
  · rw [AssetDisk.imports_withImports_ne same, others another same]
    exact metered another

/-- Publications leave the imports alone. -/
theorem AssetsMetered.publish {α : Type} (metered : AssetsMetered settings start rest disk)
    (script : PublicationScript α) :
    Meets (script.on (.publications taskId)) disk (AssetsMetered settings start [])
      (fun _ => AssetsMetered settings start rest) fun _ _ => True := by
  have kept (published : PublicationDisk) :
      AssetsMetered settings start rest (disk.withPublications taskId published) := by
    intro another
    rw [AssetDisk.imports_withPublications]
    exact metered another
  have free : Maintains (fun _ => True) (fun _ => True) script fun _ => True :=
    Maintains.always (fun _ _ _ => ⟨trivial, .inl trivial⟩) script
  refine Meets.on ((free (disk.publications taskId) trivial).mono ?_ ?_ fun _ _ => id)
  · exact fun published _ => (kept published).done
  · exact fun _ published _ => kept published

/-- An asset that is marked is not imported again. -/
theorem IntakeWrite.Marking.keeps {settings : AssetSettings} {start : IntakeDisk}
    {assetIds : List AssetId} {w : IntakeWrite} (marking : w.Marking) :
    Keeps (fun disk => Onward settings start disk ∧ Headroom settings disk assetIds) untorn w := by
  intro disk held
  obtain ⟨onward, headroom⟩ := held
  have kept := (marking.plain.keeps disk onward).1
  refine ⟨⟨kept, ?_⟩, .inl ⟨onward, headroom⟩⟩
  have same : (Disk.apply disk w).importedBytes = disk.importedBytes ∧
      ∀ assetId, resumable settings (Disk.apply disk w) assetId =
        resumable settings disk assetId := by
    cases w with
    | event event =>
        cases event with
        | imported manifest request => exact marking.elim
        | removed assetId key => exact marking.elim
        | corrupted marked =>
            refine ⟨?_, ?_⟩
            · unfold IntakeDisk.importedBytes
              change ((disk.events ++ [_]).map AssetEvent.importedSize).sum = _
              rw [List.map_append, List.sum_append]
              rfl
            · intro assetId
              have events : (Disk.apply disk (IntakeWrite.event (.corrupted marked))).importEvent
                  assetId = disk.importEvent assetId := by
                unfold IntakeDisk.importEvent
                change (disk.events ++ [_]).findSome? _ = _
                rw [List.findSome?_append]
                exact Option.or_none
              unfold resumable
              rw [events]
              rfl
    | mark marked => exact ⟨rfl, fun _ => rfl⟩
    | _ => exact marking.elim
  unfold Headroom resumableBytes at headroom ⊢
  rw [same.1, Finset.sum_congr rfl fun assetId _ => same.2 assetId]
  exact headroom

theorem recoverTransaction_metered (now : UtcTime) (transaction : AssetTransaction)
    (metered : AssetsMetered settings start ((taskId, transaction) :: rest) disk) :
    Meets (recoverTransaction settings now taskId transaction) disk
      (AssetsMetered settings start []) (fun _ => AssetsMetered settings start rest)
      fun _ _ => True := by
  unfold recoverTransaction
  cases transaction with
  | imported assetId =>
      obtain ⟨onward, headroom⟩ := metered taskId
      have own : importsOf taskId ((taskId, .imported assetId) :: rest) =
          assetId :: importsOf taskId rest := by
        simp [importsOf]
      have others (another : Identifier) (different : another ≠ taskId) :
          importsOf another rest = importsOf another ((taskId, .imported assetId) :: rest) := by
        simp [importsOf, Ne.symm different]
      rw [own] at headroom
      refine Meets.on ((recoverImport_onward onward headroom).kept.mono ?_ ?_ fun _ _ _ => trivial)
      · intro intake held
        refine metered.done.withImports (fun _ _ => rfl) held ?_
        exact Headroom.none held.1
      · rintro - intake ⟨room, held⟩
        exact metered.withImports others held room
  | publication publicationId =>
      have metered : AssetsMetered settings start rest disk := metered
      exact metered.publish _
  | batch batchId =>
      have metered : AssetsMetered settings start rest disk := metered
      exact metered.publish _

theorem verifyVisible_metered (metered : AssetsMetered settings start rest disk) :
    Meets (verifyVisible settings taskId) disk (AssetsMetered settings start [])
      (fun _ => AssetsMetered settings start rest) fun _ _ => True := by
  unfold verifyVisible
  refine Meets.looked rfl (Meets.looked rfl ?_)
  refine Meets.bind (Meets.forEachRest (motive := fun _ => AssetsMetered settings start rest) ?_
    (fun _ _ => AssetsMetered.done) metered ?_)
  · intro assetId _ disk metered
    have marking : (quarantine (verifyAsset settings.imports assetId)).WritesOnly
        IntakeWrite.Marking := quarantine_marking assetId
    have marks := marking.maintains (fun _ fine => fine.keeps) (disk.imports taskId)
      (metered taskId)
    refine Meets.on (marks.kept.mono ?_ ?_ fun _ _ _ => trivial)
    · intro intake held
      obtain ⟨onward, -⟩ := held.resolve_right id
      exact metered.done.withImports (fun _ _ => rfl) onward (Headroom.none onward.1)
    · intro _ intake ended
      obtain ⟨onward, headroom⟩ := ended.1.1
      exact metered.withImports (fun _ _ => rfl) onward headroom
  intro disk metered
  refine Meets.forEachRest (motive := fun _ => AssetsMetered settings start rest) ?_
    (fun _ _ => AssetsMetered.done) metered fun _ => id
  exact fun _ _ _ metered => metered.publish _

theorem recoverTask_metered (now : UtcTime) (listing : AssetListing)
    (metered : AssetsMetered settings start (listing.all ++ rest) disk) :
    Meets (recoverTask settings now listing) disk (AssetsMetered settings start [])
      (fun _ => AssetsMetered settings start rest) fun _ _ => True := by
  unfold recoverTask
  refine Meets.bind (Meets.forEachRest (motive := fun left => AssetsMetered settings start
    (left.map (fun transaction => (listing.taskId, transaction)) ++ rest)) ?_
    (fun _ _ => AssetsMetered.done) metered ?_)
  · exact fun transaction _ _ metered => recoverTransaction_metered now transaction metered
  intro disk metered
  refine Meets.bind (Meets.forEachRest (motive := fun _ => AssetsMetered settings start rest) ?_
    (fun _ _ => AssetsMetered.done) metered ?_)
  · exact fun _ _ _ metered => metered.publish _
  intro disk metered
  exact verifyVisible_metered metered

theorem recover_metered (now : UtcTime) (listings : List AssetListing)
    (metered : AssetsMetered settings start (listings.flatMap AssetListing.all) disk) :
    Meets (AssetService.recover settings now listings) disk (AssetsMetered settings start [])
      (fun _ _ => True) fun _ _ => True := by
  unfold AssetService.recover
  refine Meets.forEachRest (motive := fun left => AssetsMetered settings start
    (left.flatMap AssetListing.all)) ?_ (fun _ _ => AssetsMetered.done) metered fun _ _ => trivial
  intro listing _ disk metered
  exact recoverTask_metered now listing metered

end

/-! ## Histories within the quota -/

/-- What the step resumes still fits into the quota of its task. -/
def AssetStep.WithinQuota (settings : AssetServiceSettings) (state : AssetState) :
    AssetStep → Prop
  | .intake taskId (.importUpload upload _ _) =>
      ∀ maxFileBytes,
        TaskIntakeService.admitUpload settings.imports upload (state.disk.imports taskId) =
            .ok maxFileBytes →
          StreamAdmitted settings.imports upload.importRequest maxFileBytes →
            Reissues (state.disk.imports taskId) upload.assetId upload.importRequest →
              StillFits settings.imports (state.disk.imports taskId) upload.assetId
  | .intake taskId (.resume assetId _) =>
      StillFits settings.imports (state.disk.imports taskId) assetId
  | .importStream taskId assetId request maxFileBytes _ _ =>
      StreamAdmitted settings.imports request maxFileBytes →
        Reissues (state.disk.imports taskId) assetId request →
          StillFits settings.imports (state.disk.imports taskId) assetId
  | .recover listings _ _ =>
      ∀ taskId, Headroom settings.imports (state.disk.imports taskId)
        (importsOf taskId (listings.flatMap AssetListing.all))
  | _ => True

section

variable {settings : AssetServiceSettings} {state : AssetState} {taskId : Identifier}

theorem IntakeStep.next_onward {intake : IntakeState} (step : IntakeStep)
    (metered : Metered settings.imports intake.disk)
    (imports : ∀ upload world stop, step = .importUpload upload world stop →
      ∀ maxFileBytes,
        TaskIntakeService.admitUpload settings.imports upload intake.disk = .ok maxFileBytes →
        StreamAdmitted settings.imports upload.importRequest maxFileBytes →
          Reissues intake.disk upload.assetId upload.importRequest →
            StillFits settings.imports intake.disk upload.assetId)
    (resumes : ∀ assetId stop, step = .resume assetId stop →
      StillFits settings.imports intake.disk assetId) :
    Onward settings.imports intake.disk (step.next settings.imports intake).disk := by
  have onward := Onward.refl metered
  cases step with
  | create prompt startPolicy envelope world stop =>
      exact (onward_of_plain (create_plain prompt startPolicy envelope) onward).upTo stop
  | importUpload upload world stop =>
      exact (importUpload_onward onward (imports upload world stop rfl)).upTo stop
  | attachUpload upload manifest world stop =>
      unfold IntakeStep.next
      dsimp only
      split
      · exact (onward_of_plain (attachUpload_plain upload manifest) onward).upTo stop
      · exact onward
  | remove assetId envelope world stop =>
      exact (onward_of_plain (removeAsset_plain assetId envelope) onward).upTo stop
  | submit taskExpectedRevision envelope world stop =>
      exact (onward_of_plain (submit_plain taskExpectedRevision envelope) onward).upTo stop
  | resume assetId stop =>
      unfold IntakeStep.next
      dsimp only
      split
      · exact onward
      · next record found =>
          exact (resumeImport_onward onward found (resumes assetId stop rfl)).upTo stop
  | other idempotencyKey command request =>
      unfold IntakeStep.next
      dsimp only
      split
      · exact (IntakeWrite.Plain.keeps (w := .other idempotencyKey command request) trivial _
          onward).1
      · exact onward

/-- The imports of one task go on, the others stay. -/
theorem onward_withImports {intake : IntakeDisk}
    (metered : ∀ another, Metered settings.imports (state.disk.imports another))
    (onward : Onward settings.imports (state.disk.imports taskId) intake) (another : Identifier) :
    Onward settings.imports (state.disk.imports another)
      ((state.disk.withImports taskId intake).imports another) := by
  by_cases same : another = taskId
  · subst same
    rw [AssetDisk.imports_withImports]
    exact onward
  · rw [AssetDisk.imports_withImports_ne same]
    exact Onward.refl (metered another)

/-- A permitted step keeps the quota of every task, and its events follow those before. -/
theorem AssetStep.next_onward (step : AssetStep)
    (metered : ∀ another, Metered settings.imports (state.disk.imports another))
    (within : step.WithinQuota settings state) (another : Identifier) :
    Onward settings.imports (state.disk.imports another)
      ((step.next settings state).disk.imports another) := by
  have publications (taskId : Identifier) (published : PublicationDisk) :
      Onward settings.imports (state.disk.imports another)
        ((state.disk.withPublications taskId published).imports another) := by
    rw [AssetDisk.imports_withPublications]
    exact Onward.refl (metered another)
  cases step with
  | intake taskId step =>
      refine onward_withImports metered (step.next_onward (metered taskId) ?_ ?_) another
      · intro upload world stop same
        subst same
        exact within
      · intro assetId stop same
        subst same
        exact within
  | importStream taskId assetId request maxFileBytes world stop =>
      have onward := Onward.refl (metered taskId)
      exact onward_withImports metered ((importStream_onward onward within).upTo stop) another
  | removeInput taskId assetId idempotencyKey stop =>
      have onward := Onward.refl (metered taskId)
      have removed := onward_of_plain (removeInputAsset_plain assetId idempotencyKey) onward
      exact onward_withImports metered (removed.upTo stop) another
  | publish taskId request idempotencyKey now stop => exact publications taskId _
  | commit taskId instanceId batchId manifests bundleManifest now stop =>
      exact publications taskId _
  | recover listings now stop =>
      have start : AssetsMetered settings (fun taskId => state.disk.imports taskId)
          (listings.flatMap AssetListing.all) state.disk :=
        fun taskId => ⟨Onward.refl (metered taskId), within taskId⟩
      exact ((recover_metered now listings start).upTo stop another).1
  | status taskId instanceId value => exact publications taskId _
  | output taskId path content => exact publications taskId _
  | changeInput taskId assetId file =>
      have onward := Onward.refl (metered taskId)
      refine onward_withImports metered ?_ another
      cases file with
      | none => exact (IntakeWrite.Plain.keeps (w := .discard assetId) trivial _ onward).1
      | some file =>
          exact (IntakeWrite.Plain.keeps (w := .input assetId file.1 file.2) trivial _ onward).1
  | changeFile taskId destination content => exact publications taskId _

theorem assetRun_metered {steps : List AssetStep}
    (along : Along (assetStep settings) (AssetStep.WithinQuota settings) unusedAssets steps)
    (taskId : Identifier) :
    Metered settings.imports ((assetRun settings steps).disk.imports taskId) := by
  refine along_induction (motive := fun _ state =>
    ∀ taskId, Metered settings.imports (state.disk.imports taskId)) ?_ ?_ along taskId
  · intro taskId
    refine ⟨?_, List.nodup_nil, Nat.zero_le _⟩
    intro assetId record found
    cases found
  · intro steps step _ within metered taskId
    exact (step.next_onward metered within taskId).1

/-- In every history in which what is resumed still fits, the imported files of every task are
    within its quota, and what a further step imports fits on top of those before. -/
theorem imports_within_quota {steps : List AssetStep}
    (along : Along (assetStep settings) (AssetStep.WithinQuota settings) unusedAssets steps)
    (taskId : Identifier) :
    ((assetRun settings steps).disk.imports taskId).importedBytes ≤
        settings.imports.maxTaskBytes ∧
      ∀ step : AssetStep, step.WithinQuota settings (assetRun settings steps) →
        ∃ more, ((step.next settings (assetRun settings steps)).disk.imports taskId).events =
            ((assetRun settings steps).disk.imports taskId).events ++ more ∧
          ((assetRun settings steps).disk.imports taskId).importedBytes +
            (more.map AssetEvent.importedSize).sum ≤ settings.imports.maxTaskBytes := by
  have metered := assetRun_metered along
  refine ⟨(metered taskId).within, ?_⟩
  intro step within
  obtain ⟨later, more, events⟩ := step.next_onward metered within taskId
  refine ⟨more, events, ?_⟩
  have bytes := later.within
  unfold IntakeDisk.importedBytes at bytes ⊢
  rwa [events, List.map_append, List.sum_append] at bytes

end

/-- An import of its own of a document of 50 MiB. -/
def importAlone (idempotencyKey : String) (stop : Option (Nat × Bool)) : AssetStep :=
  .importStream "task_intake_1" (document idempotencyKey).assetId
    (document idempotencyKey).importRequest (50 * 1024 * 1024) intakeWorld stop

/-- An import is stopped behind its record, and resumed next to another one. -/
def resumedImport : List AssetStep :=
  [.intake "task_intake_1" createIntake, importAlone "a" (some (2, false)), importAlone "b" none,
    importAlone "a" none]

/-- The same import is resumed when the others have used up the quota. -/
def overbookedImports : List AssetStep :=
  [.intake "task_intake_1" createIntake, importAlone "a" (some (2, false)), importAlone "b" none,
    importAlone "c" none, importAlone "d" none, importAlone "e" none, importAlone "f" none,
    importAlone "a" none]

theorem resumedImport_within_quota :
    ((assetRun assetSettings resumedImport).disk.imports "task_intake_1").importedBytes =
        100 * 1024 * 1024 ∧
      ((assetRun assetSettings resumedImport).disk.imports "task_intake_1").importedBytes ≤
        assetSettings.imports.maxTaskBytes := by
  refine ⟨by decide +kernel, (imports_within_quota ?_ "task_intake_1").1⟩
  refine ⟨trivial, ?_, ?_, ?_, trivial⟩
  · intro _ _
    decide +kernel
  · intro _ _
    decide +kernel
  · intro _ _
    decide +kernel

/-- Six documents of 50 MiB are imported into a task of 250 MiB. -/
theorem overbookedImports_exceed :
    ((assetRun assetSettings overbookedImports).disk.imports "task_intake_1").importedBytes =
        300 * 1024 * 1024 ∧
      assetSettings.imports.maxTaskBytes = 250 * 1024 * 1024 :=
  ⟨by decide +kernel, rfl⟩

end DesignHarness
