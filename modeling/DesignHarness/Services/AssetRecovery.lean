import DesignHarness.Library.Parts
import DesignHarness.Services.PublicationCalls
import DesignHarness.Services.TaskIntakeHistory

/-!
# Recovering the assets of all tasks

At a start of the application every transaction of every task is resumed (`recover` of
`asset_recovery.py`).  The imports and the publications of a task are parts of the disk of their
own; only the listings of the transaction directory and of the shared directory interleave them.
-/

namespace DesignHarness

open Library

/-- The imports of a task, and its publications. -/
inductive AssetPart where
  | imports (taskId : Identifier)
  | publications (taskId : Identifier)
  deriving DecidableEq

abbrev AssetFiles : AssetPart → Type
  | .imports _ => IntakeDisk
  | .publications _ => PublicationDisk

abbrev AssetWrites : AssetPart → Type
  | .imports _ => IntakeWrite
  | .publications _ => PublicationWrite

instance (part : AssetPart) : Disk (AssetFiles part) (AssetWrites part) :=
  match part with
  | .imports _ => inferInstanceAs (Disk IntakeDisk _)
  | .publications _ => inferInstanceAs (Disk PublicationDisk _)

abbrev AssetDisk := (part : AssetPart) → AssetFiles part

abbrev AssetScript (α : Type) := Script AssetDisk (PartWrite AssetWrites) Raised α

namespace AssetDisk

variable (disk : AssetDisk) (taskId : Identifier)

def imports : IntakeDisk := disk (.imports taskId)

def publications : PublicationDisk := disk (.publications taskId)

end AssetDisk

/-! ## The recovery -/

structure AssetServiceSettings where
  imports : AssetSettings
  publications : PublicationSettings

/-- A record of the transaction directory. -/
inductive AssetTransaction where
  | imported (assetId : AssetId)
  | publication (publicationId : PublicationId)
  | batch (batchId : Identifier)
  deriving DecidableEq

/-- What a recovery lists of a task: its transactions in the order of their names, and the files
    of its shared directory whose names match `.*.tmp`. -/
structure AssetListing where
  taskId : Identifier
  transactions : List AssetTransaction
  temporaries : List PublicPath

namespace AssetService

variable (settings : AssetServiceSettings) (now : UtcTime)

/-- The turn of the record of an import. -/
def recoverImport (assetId : AssetId) : IntakeScript Unit := do
  match ← Script.read fun disk : IntakeDisk => disk.transactions.lookup assetId with
  | none => return ()
  | some record => do
      let _ ← resumeImport settings.imports assetId record

def recoverTransaction (taskId : Identifier) : AssetTransaction → AssetScript Unit
  | .imported assetId => (recoverImport settings assetId).on (.imports taskId)
  | .publication publicationId =>
      (recoverPublication settings.publications now publicationId).on (.publications taskId)
  | .batch batchId => (recoverBatch settings.publications now batchId).on (.publications taskId)

/-- The verification of what is visible (`asset_recovery.py:59-71`). -/
def verifyVisible (taskId : Identifier) : AssetScript Unit := do
  let imported ← Script.read fun disk : AssetDisk =>
    (disk.imports taskId).listAssets.map AssetManifest.assetId
  let published ← Script.read fun disk : AssetDisk => (disk.publications taskId).visiblePublications
  Script.forEach (fun assetId =>
    (quarantine (verifyAsset settings.imports assetId)).on (.imports taskId)) imported
  Script.forEach (fun publicationId =>
    (quarantine (verifyPublication settings.publications publicationId)).on
      (.publications taskId)) published

/-- The turn of a task. -/
def recoverTask (listing : AssetListing) : AssetScript Unit := do
  Script.forEach (recoverTransaction settings now listing.taskId) listing.transactions
  Script.forEach (fun path => (removeOrphan path).on (.publications listing.taskId))
    listing.temporaries
  verifyVisible settings listing.taskId

/-- `recover` (`asset_recovery.py:30-72`). -/
def recover (listings : List AssetListing) : AssetScript Unit :=
  Script.forEach (recoverTask settings now) listings

end AssetService

open AssetService

/-! ## What a recovery keeps -/

/-- A scope that every transaction is in. -/
def Scope.Full (scope : Scope) : Prop :=
  (∀ publicationId, scope.publications publicationId) ∧ ∀ batchId, scope.batches batchId

/-- A transaction of a task. -/
abbrev TaskTransaction := Identifier × AssetTransaction

/-- The imports are sound, with what they had; those that had their turn are complete. -/
structure ImportsKept (settings : AssetSettings) (start : IntakeDisk) (done : AssetId → Prop)
    (disk : IntakeDisk) : Prop where
  sound : SoundIntakes settings disk
  grown : Grown start disk
  done : ∀ assetId, done assetId → ∀ record, start.transactions.lookup assetId = some record →
    disk.transactions.lookup assetId = some { record with committed := true }

/-- The scope of a task when some transactions had their turn. -/
def Scope.after (scope : Scope) (taskId : Identifier) (done : List TaskTransaction) : Scope :=
  { scope with
    finished := fun publicationId =>
      (taskId, .publication publicationId) ∈ done ∧ scope.recorded publicationId
    settled := fun batchId => (taskId, .batch batchId) ∈ done ∧ scope.filed batchId }

/-- The imports of the task are kept, and its publications are secured. -/
def PartSecured (settings : AssetServiceSettings) (start : Identifier → IntakeDisk)
    (scope : Identifier → Scope) (done : List TaskTransaction) :
    (part : AssetPart) → AssetFiles part → Prop
  | .imports taskId => ImportsKept settings.imports (start taskId) fun assetId =>
      (taskId, .imported assetId) ∈ done
  | .publications taskId => Secured settings.publications ((scope taskId).after taskId done)

/-- Every part of the disk is sound, and the scopes are secured. -/
def AssetsSecured (settings : AssetServiceSettings) (start : Identifier → IntakeDisk)
    (scope : Identifier → Scope) (done : List TaskTransaction) (disk : AssetDisk) : Prop :=
  ∀ part, PartSecured settings start scope done part (disk part)

section

variable {settings : AssetServiceSettings} {start : Identifier → IntakeDisk}
  {scope : Identifier → Scope} {done : List TaskTransaction} {disk : AssetDisk}
  {taskId : Identifier}

theorem AssetsSecured.imports (secured : AssetsSecured settings start scope done disk)
    (taskId : Identifier) :
    ImportsKept settings.imports (start taskId)
      (fun assetId => (taskId, AssetTransaction.imported assetId) ∈ done) (disk.imports taskId) :=
  secured (.imports taskId)

theorem AssetsSecured.publications (secured : AssetsSecured settings start scope done disk)
    (taskId : Identifier) :
    Secured settings.publications ((scope taskId).after taskId done) (disk.publications taskId) :=
  secured (.publications taskId)

/-- Fewer transactions that had their turn. -/
theorem AssetsSecured.fewer (secured : AssetsSecured settings start scope done disk)
    {before : List TaskTransaction} (subset : ∀ transaction ∈ before, transaction ∈ done) :
    AssetsSecured settings start scope before disk := by
  intro part
  cases part with
  | imports taskId =>
      obtain ⟨sound, grown, complete⟩ := secured.imports taskId
      exact ⟨sound, grown, fun assetId member => complete assetId (subset _ member)⟩
  | publications taskId =>
      exact
        { secured.publications taskId with
          finished := fun publicationId member =>
            (secured.publications taskId).finished publicationId ⟨subset _ member.1, member.2⟩
          settled := fun batchId member =>
            (secured.publications taskId).settled batchId ⟨subset _ member.1, member.2⟩ }

/-- Resuming an import completes it. -/
theorem recoverImport_meets {before intake : IntakeDisk} {done : AssetId → Prop}
    (assetId : AssetId) (kept : ImportsKept settings.imports before done intake) :
    Meets (recoverImport settings assetId) intake (ImportsKept settings.imports before done)
      (fun _ later => ∀ record, before.transactions.lookup assetId = some record →
        later.transactions.lookup assetId = some { record with committed := true })
      fun _ _ => False := by
  unfold recoverImport
  cases found : intake.transactions.lookup assetId with
  | none =>
      refine Meets.looked found (Meets.pure kept ?_)
      intro record stored
      rcases kept.grown.transactions assetId record stored with same | complete
      · cases found.symm.trans same
      · cases found.symm.trans complete
  | some record =>
      refine Meets.looked found ?_
      have later (disk : IntakeDisk) (reaches : Reaches settings.imports intake disk) :
          ImportsKept settings.imports before done disk := by
        refine ⟨reaches.sound, kept.grown.trans reaches.grown, ?_⟩
        intro other member record stored
        rcases reaches.grown.transactions other _ (kept.done other member record stored) with
          same | complete
        · exact same
        · exact complete
      refine Meets.bind ((resumeImport_meets (Reaches.start kept.sound) found).kept.mono later ?_
        fun _ _ failed => failed.1)
      rintro manifest disk ⟨⟨-, complete⟩, reaches⟩
      refine Meets.pure (later disk reaches) ?_
      intro first stored
      rcases kept.grown.transactions assetId first stored with same | done
      · obtain rfl := Option.some.inj (found.symm.trans same)
        exact complete
      · obtain rfl := Option.some.inj (found.symm.trans done)
        exact complete

/-- A visible import verifies. -/
theorem verifyAsset_quiet {intake : IntakeDisk} {assetId : AssetId}
    (sound : SoundIntakes settings.imports intake)
    (visible : assetId ∈ intake.listAssets.map AssetManifest.assetId) :
    quarantine (verifyAsset settings.imports assetId) intake = ⟨[], .ok ()⟩ := by
  obtain ⟨listed, member, named⟩ := List.mem_map.mp visible
  cases seen : intake.visible? assetId with
  | none =>
      have absent := List.find?_eq_none.mp seen listed member
      exact absurd (decide_eq_true named) absent
  | some manifest =>
      have event : ∃ request, intake.importEvent assetId = some (manifest, request) := by
        have shown := sound.shown assetId
        rw [seen] at shown
        split at shown
        · cases shown
        · cases found : intake.importEvent assetId with
          | none =>
              rw [found] at shown
              cases shown
          | some pair =>
              obtain ⟨other, request⟩ := pair
              rw [found] at shown
              obtain rfl := Option.some.inj shown
              exact ⟨request, rfl⟩
      obtain ⟨request, event⟩ := event
      obtain ⟨committed, found⟩ := sound.imported assetId manifest request event
      unfold quarantine Script.rescue verifyAsset
      rw [Script.run_read, seen]
      dsimp only
      rw [sound.verifyOrMark found]

/-- The end of the turn of a task writes nothing. -/
theorem verifyVisible_meets (secured : AssetsSecured settings start scope done disk) :
    Meets (verifyVisible settings taskId) disk (AssetsSecured settings start scope done)
      (fun _ _ => True) fun _ _ => False := by
  unfold verifyVisible
  refine Meets.looked rfl (Meets.looked rfl ?_)
  have imports : Script.forEach (fun assetId =>
      (quarantine (verifyAsset settings.imports assetId)).on (.imports taskId))
      ((disk.imports taskId).listAssets.map AssetManifest.assetId) disk = ⟨[], .ok ()⟩ :=
    Script.forEach_quiet fun assetId visible =>
      Script.on_quiet (verifyAsset_quiet (secured.imports taskId).sound visible)
  have published : Script.forEach (fun publicationId =>
      (quarantine (verifyPublication settings.publications publicationId)).on
        (.publications taskId)) (disk.publications taskId).visiblePublications disk =
      ⟨[], .ok ()⟩ :=
    Script.forEach_quiet fun publicationId visible =>
      Script.on_quiet (verifyPublication_quiet (secured.publications taskId).sound visible)
  refine Meets.quiet imports ⟨?_, ?_⟩
  · rw [published]
    exact secured
  · rw [published]
    trivial

/-- A transaction that had its turn is finished. -/
structure TransactionDone (start : Identifier → IntakeDisk) (scope : Identifier → Scope)
    (taskId : Identifier) (transaction : AssetTransaction) (disk : AssetDisk) : Prop where
  imported : ∀ assetId, transaction = .imported assetId → ∀ record,
    (start taskId).transactions.lookup assetId = some record →
      (disk.imports taskId).transactions.lookup assetId = some { record with committed := true }
  publication : ∀ publicationId, transaction = .publication publicationId →
    (scope taskId).recorded publicationId → ∃ record manifest,
      (disk.publications taskId).publications publicationId = some record ∧
        record.state = .committed manifest
  batch : ∀ batchId, transaction = .batch batchId → (scope taskId).filed batchId →
    ∃ record event, (disk.publications taskId).batches batchId = some record ∧
      record.result = some event

theorem AssetsSecured.turned {transaction : AssetTransaction}
    (secured : AssetsSecured settings start scope done disk)
    (finished : TransactionDone start scope taskId transaction disk) :
    AssetsSecured settings start scope (done ++ [(taskId, transaction)]) disk := by
  have last {pair : TaskTransaction} (member : pair ∈ done ++ [(taskId, transaction)]) :
      pair ∈ done ∨ pair = (taskId, transaction) := by
    simpa using member
  intro part
  cases part with
  | imports other =>
      obtain ⟨sound, grown, before⟩ := secured.imports other
      refine ⟨sound, grown, ?_⟩
      intro assetId member
      rcases last member with old | new
      · exact before assetId old
      · obtain ⟨rfl, same⟩ := Prod.mk.inj new
        exact finished.imported assetId same.symm
  | publications other =>
      have same := secured.publications other
      exact
        { same with
          finished := by
            intro publicationId member
            rcases last member.1 with old | new
            · exact same.finished publicationId ⟨old, member.2⟩
            · obtain ⟨rfl, equal⟩ := Prod.mk.inj new
              exact finished.publication publicationId equal.symm member.2
          settled := by
            intro batchId member
            rcases last member.1 with old | new
            · exact same.settled batchId ⟨old, member.2⟩
            · obtain ⟨rfl, equal⟩ := Prod.mk.inj new
              exact finished.batch batchId equal.symm member.2 }

/-- The turn of a transaction keeps the scopes secured and finishes the transaction. -/
theorem recoverTransaction_meets (now : UtcTime) (transaction : AssetTransaction)
    (secured : AssetsSecured settings start scope done disk) :
    Meets (recoverTransaction settings now taskId transaction) disk
      (AssetsSecured settings start scope done)
      (fun _ => AssetsSecured settings start scope (done ++ [(taskId, transaction)]))
      fun _ _ => ¬ (scope taskId).Full := by
  unfold recoverTransaction
  cases transaction with
  | imported assetId =>
      have meets := recoverImport_meets assetId (secured.imports taskId)
      refine (Meets.onPart secured meets).kept.mono (fun _ => id) ?_ fun _ _ failed => failed.1.elim
      rintro - later ⟨complete, kept⟩
      have kept : AssetsSecured settings start scope done later := kept
      refine kept.turned ⟨?_, ?_, ?_⟩
      · intro other same
        obtain rfl := AssetTransaction.imported.inj same
        exact complete
      · exact fun _ same => by cases same
      · exact fun _ same => by cases same
  | publication publicationId =>
      have meets : Meets (recoverPublication settings.publications now publicationId)
          (disk.publications taskId)
          (Secured settings.publications ((scope taskId).after taskId done))
          (fun _ later => (scope taskId).recorded publicationId → ∃ record manifest,
            later.publications publicationId = some record ∧ record.state = .committed manifest)
          fun _ _ => ¬ (scope taskId).publications publicationId :=
        recoverPublication_meets now (secured.publications taskId)
      refine (Meets.onPart secured meets).kept.mono (fun _ => id) ?_ ?_
      case refine_2 => exact fun _ _ failed full => failed.1 (full.1 publicationId)
      rintro - later ⟨finished, kept⟩
      have kept : AssetsSecured settings start scope done later := kept
      refine kept.turned ⟨?_, ?_, ?_⟩
      · exact fun _ same => by cases same
      · intro other same
        obtain rfl := AssetTransaction.publication.inj same
        exact finished
      · exact fun _ same => by cases same
  | batch batchId =>
      have meets : Meets (recoverBatch settings.publications now batchId)
          (disk.publications taskId)
          (Secured settings.publications ((scope taskId).after taskId done))
          (fun _ later => (scope taskId).filed batchId → ∃ record event,
            later.batches batchId = some record ∧ record.result = some event)
          fun _ _ => ¬ (scope taskId).batches batchId :=
        recoverBatch_meets now (secured.publications taskId)
      refine (Meets.onPart secured meets).kept.mono (fun _ => id) ?_ ?_
      case refine_2 => exact fun _ _ failed full => failed.1 (full.2 batchId)
      rintro - later ⟨settled, kept⟩
      have kept : AssetsSecured settings start scope done later := kept
      refine kept.turned ⟨?_, ?_, ?_⟩
      · exact fun _ same => by cases same
      · exact fun _ same => by cases same
      · intro other same
        obtain rfl := AssetTransaction.batch.inj same
        exact settled

/-- The transactions of a listing. -/
def AssetListing.all (listing : AssetListing) : List TaskTransaction :=
  listing.transactions.map fun transaction => (listing.taskId, transaction)

theorem recoverTask_meets (now : UtcTime) (listing : AssetListing)
    (secured : AssetsSecured settings start scope done disk) :
    Meets (recoverTask settings now listing) disk (AssetsSecured settings start scope done)
      (fun _ => AssetsSecured settings start scope (done ++ listing.all))
      fun _ _ => ¬ (scope listing.taskId).Full := by
  have fewer (more : List TaskTransaction) (disk : AssetDisk)
      (secured : AssetsSecured settings start scope (done ++ more) disk) :
      AssetsSecured settings start scope done disk :=
    secured.fewer fun _ member => List.mem_append_left _ member
  unfold recoverTask
  refine Meets.bind (Meets.forEach (motive := fun turns => AssetsSecured settings start scope
    (done ++ turns.map fun transaction => (listing.taskId, transaction))) ?_ ?_ ?_ ?_)
  · intro turns transaction _ disk _ secured
    refine (recoverTransaction_meets now transaction secured).mono (fewer _) ?_ fun _ _ => id
    intro _ later turned
    rw [List.map_append, ← List.append_assoc]
    exact turned
  · exact fun turns disk => fewer _ disk
  · rw [List.map_nil, List.append_nil]
    exact secured
  intro disk secured
  refine Meets.bind (Meets.forEach (motive := fun _ => AssetsSecured settings start scope
    (done ++ listing.all)) ?_ (fun _ => fewer _) secured ?_)
  · intro _ path _ disk _ secured
    have meets := removeOrphan_meets path (secured.publications listing.taskId)
    exact (Meets.onPart secured meets).kept.mono (fewer _) (fun _ _ => And.right)
      fun _ _ failed => failed.1.elim
  intro disk secured
  exact (verifyVisible_meets secured).kept.mono (fewer _) (fun _ _ => And.right)
    fun _ _ failed => failed.1.elim

/-- Wherever a recovery is stopped, the scopes are secured; when every transaction is in its scope
    it returns and has finished them all. -/
theorem recoverAssets_meets (now : UtcTime) (listings : List AssetListing)
    (secured : AssetsSecured settings start scope [] disk) :
    Meets (AssetService.recover settings now listings) disk
      (AssetsSecured settings start scope [])
      (fun _ => AssetsSecured settings start scope (listings.flatMap AssetListing.all))
      fun _ _ => ¬ ∀ taskId, (scope taskId).Full := by
  have fewer (turns : List TaskTransaction) (disk : AssetDisk)
      (secured : AssetsSecured settings start scope turns disk) :
      AssetsSecured settings start scope [] disk :=
    secured.fewer fun _ member => by cases member
  unfold AssetService.recover
  refine Meets.forEach (motive := fun turns => AssetsSecured settings start scope
    (turns.flatMap AssetListing.all)) ?_ (fun _ => fewer _) secured fun _ => id
  intro turns listing _ disk _ secured
  refine (recoverTask_meets now listing secured).mono (fewer _) ?_ ?_
  · intro _ later turned
    rw [List.flatMap_append]
    simpa using turned
  · exact fun _ _ failed full => failed (full listing.taskId)

end

end DesignHarness
