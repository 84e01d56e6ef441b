import DesignHarness.Services.TaskIntakes

/-!
# What the writes of intakes and imports keep

`SoundIntakes` is what every allowed write keeps: a transaction has its file, an event has its
transaction, an imported asset is visible until it is removed, and what the intake lists was once
uploaded to it.  `Grown` is what stays.  `IntakesListed` is what the intake owes its assets; a quiet
write keeps it as well.
-/

namespace DesignHarness

open Library TaskIntakeService

/-! ## Reading the events -/

/-- The event removes the asset. -/
def AssetEvent.removes (assetId : AssetId) : AssetEvent → Bool
  | removed other _ => decide (other = assetId)
  | _ => false

namespace IntakeDisk

/-- The asset was removed. -/
def removed? (disk : IntakeDisk) (assetId : AssetId) : Bool :=
  disk.events.any (AssetEvent.removes assetId)

/-- The disk after an event. -/
def record (disk : IntakeDisk) (event : AssetEvent) : IntakeDisk :=
  { disk with events := disk.events ++ [event] }

variable {disk : IntakeDisk} {assetId other : AssetId} {manifest : AssetManifest}
  {request : ImportRequest} {key : String} {event : AssetEvent}

theorem listAssets_record : (disk.record event).listAssets = listEvent disk.listAssets event := by
  unfold listAssets record
  rw [List.foldl_append]
  rfl

/-- Filtering an asset out leaves the others where they are. -/
theorem find?_without {latest : List AssetManifest} :
    (latest.filter fun item => item.assetId ≠ other).find? (·.assetId = assetId) =
      if other = assetId then none else latest.find? (·.assetId = assetId) := by
  rw [List.find?_filter]
  split
  · next same =>
      rw [List.find?_eq_none]
      intro item _ kept
      simp_all
  · next apart =>
      congr 1
      funext item
      by_cases same : item.assetId = assetId
      · simp [same, Ne.symm apart]
      · simp [same]

theorem visible?_imported :
    (disk.record (.imported manifest request)).visible? assetId =
      if manifest.assetId = assetId then some manifest else disk.visible? assetId := by
  unfold visible?
  rw [listAssets_record]
  unfold listEvent
  rw [List.find?_append, find?_without]
  split
  · next same => simp [same]
  · next apart => simp [apart]

theorem visible?_removed :
    (disk.record (.removed other key)).visible? assetId =
      if other = assetId then none else disk.visible? assetId := by
  unfold visible?
  rw [listAssets_record]
  exact find?_without

theorem importEvent_imported :
    (disk.record (.imported manifest request)).importEvent assetId =
      (disk.importEvent assetId).or
        (if manifest.assetId = assetId then some (manifest, request) else none) := by
  unfold importEvent record
  rw [List.findSome?_append]
  congr 1
  rw [List.findSome?_cons, AssetEvent.importOf]
  split
  · next same => rw [← same]
  · next absent => exact absent.symm

theorem importEvent_removed :
    (disk.record (.removed other key)).importEvent assetId = disk.importEvent assetId := by
  unfold importEvent record
  rw [List.findSome?_append]
  exact Option.or_none

theorem removed?_imported :
    (disk.record (.imported manifest request)).removed? assetId = disk.removed? assetId := by
  unfold removed? record
  rw [List.any_append]
  exact Bool.or_false _

theorem removed?_removed :
    (disk.record (.removed other key)).removed? assetId =
      (disk.removed? assetId || decide (other = assetId)) := by
  unfold removed? record
  rw [List.any_append]
  congr 1
  exact Bool.or_false _

theorem removed?_of_removedUnder (found : disk.removedUnder key = some assetId) :
    disk.removed? assetId = true := by
  obtain ⟨event, member, removal⟩ := List.exists_of_findSome?_eq_some found
  cases event with
  | imported => cases removal
  | corrupted => cases removal
  | removed other key' =>
      rw [AssetEvent.removalUnder] at removal
      split at removal
      · obtain rfl := Option.some.inj removal
        exact List.any_eq_true.mpr ⟨_, member, by simp [AssetEvent.removes]⟩
      · cases removal

end IntakeDisk

/-- The transaction of an import describes its file. -/
structure Filed (settings : AssetSettings) (inputs : AList fun _ : AssetId => (_ : String) × Blob)
    (assetId : AssetId) (record : ImportRecord) : Prop where
  owner : record.manifest.assetId = assetId
  filename : record.manifest.filename = record.request.filename
  content : record.manifest.content = record.request.content
  file : inputs.lookup assetId = some ⟨record.request.filename, record.request.content⟩
  detected : settings.detectMime record.request.content record.request.filename =
    record.manifest.mimeType

/-- The asset was attached to the intake: its upload is committed, its import complete. -/
structure Attached (disk : IntakeDisk) (assetId : AssetId) : Prop where
  command : ∃ commit ∈ disk.commits, commit.idempotencyKey = assetId.idempotencyKey
  imported : ∃ record, disk.transactions.lookup assetId = some record ∧ record.committed = true ∧
    mimeBySuffix.lookup (suffix record.request.filename) = some record.manifest.mimeType

structure SoundIntakes (settings : AssetSettings) (disk : IntakeDisk) : Prop where
  filed : ∀ assetId record, disk.transactions.lookup assetId = some record →
    Filed settings disk.inputs assetId record
  imported : ∀ assetId manifest request, disk.importEvent assetId = some (manifest, request) →
    ∃ committed, disk.transactions.lookup assetId = some ⟨request, committed, manifest⟩
  committed : ∀ assetId record, disk.transactions.lookup assetId = some record →
    record.committed = true → disk.importEvent assetId = some (record.manifest, record.request)
  shown : ∀ assetId, disk.visible? assetId =
    if disk.removed? assetId then none else (disk.importEvent assetId).map Prod.fst
  removed : ∀ assetId, disk.removed? assetId = true → (disk.importEvent assetId).isSome
  clean : disk.marks = []
  task : disk.intake.isSome → disk.taskExists = true
  attached : ∀ intake ∈ disk.intake, ∀ assetId ∈ intake.assetIds, Attached disk assetId

/-- What stays from one disk to a later one. -/
structure Grown (disk later : IntakeDisk) : Prop where
  commits : ∃ more, later.commits = disk.commits ++ more
  transactions : ∀ assetId record, disk.transactions.lookup assetId = some record →
    later.transactions.lookup assetId = some record ∨
      later.transactions.lookup assetId = some { record with committed := true }
  task : disk.taskExists = true → later.taskExists = true
  intake : ∀ intake ∈ disk.intake, ∃ next ∈ later.intake, intake.revision ≤ next.revision

theorem Grown.refl (disk : IntakeDisk) : Grown disk disk where
  commits := ⟨[], (List.append_nil _).symm⟩
  transactions _ _ found := .inl found
  task := id
  intake intake stored := ⟨intake, stored, Nat.le_refl _⟩

theorem Grown.trans {disk middle later : IntakeDisk} (first : Grown disk middle)
    (second : Grown middle later) : Grown disk later := by
  constructor
  case commits =>
    obtain ⟨more, grown⟩ := first.commits
    obtain ⟨most, later⟩ := second.commits
    exact ⟨more ++ most, by rw [later, grown, List.append_assoc]⟩
  case transactions =>
    intro assetId record found
    rcases first.transactions assetId record found with same | done
    · exact second.transactions assetId record same
    · rcases second.transactions assetId _ done with same | again
      · exact .inr same
      · exact .inr again
  case task => exact fun known => second.task (first.task known)
  case intake =>
    intro intake stored
    obtain ⟨next, found, least⟩ := first.intake intake stored
    obtain ⟨last, kept, more⟩ := second.intake next found
    exact ⟨last, kept, Nat.le_trans least more⟩

theorem Attached.grown {disk later : IntakeDisk} {assetId : AssetId}
    (attached : Attached disk assetId) (grown : Grown disk later) : Attached later assetId := by
  constructor
  case command =>
    obtain ⟨commit, member, key⟩ := attached.command
    obtain ⟨more, commits⟩ := grown.commits
    refine ⟨commit, ?_, key⟩
    rw [commits]
    exact List.mem_append_left _ member
  case imported =>
    obtain ⟨record, found, committed, typed⟩ := attached.imported
    rcases grown.transactions assetId record found with same | done
    · exact ⟨record, same, committed, typed⟩
    · exact ⟨_, done, rfl, typed⟩

/-- The assets of the intake are distinct, at most 20, and visible; their files fit. -/
structure IntakeListed (disk : IntakeDisk) (intake : TaskIntake) : Prop where
  distinct : intake.assetIds.Nodup
  atMost : intake.assetIds.length ≤ maxFiles
  available : ∃ summaries, assetSummaries disk intake.assetIds = .ok summaries ∧
    totalSize summaries ≤ maxTotalBytes

def IntakesListed (disk : IntakeDisk) : Prop := ∀ intake ∈ disk.intake, IntakeListed disk intake

theorem assetSummary_eq_ok {disk : IntakeDisk} {assetId : AssetId} {manifest : AssetManifest} :
    assetSummary disk assetId = .ok manifest ↔ disk.visible? assetId = some manifest := by
  unfold assetSummary
  cases disk.visible? assetId with
  | none => simp
  | some shown => simp

/-- Summaries depend on what is visible of the listed assets only. -/
theorem assetSummaries_congr {disk later : IntakeDisk} {assetIds : List AssetId}
    (same : ∀ assetId ∈ assetIds, later.visible? assetId = disk.visible? assetId) :
    assetSummaries later assetIds = assetSummaries disk assetIds := by
  induction assetIds with
  | nil => rfl
  | cons assetId rest ih =>
      have first : assetSummary later assetId = assetSummary disk assetId := by
        unfold assetSummary
        rw [same assetId List.mem_cons_self]
      have others := ih fun other member => same other (List.mem_cons_of_mem _ member)
      unfold assetSummaries
      rw [first, others]

theorem assetSummaries_cons {disk : IntakeDisk} {assetId : AssetId} {rest : List AssetId}
    {summaries : List AssetManifest} :
    assetSummaries disk (assetId :: rest) = .ok summaries ↔
      ∃ manifest others, disk.visible? assetId = some manifest ∧
        assetSummaries disk rest = .ok others ∧ summaries = manifest :: others := by
  rw [assetSummaries]
  simp only [bind_eq_ok, assetSummary_eq_ok, pure_eq_ok, Except.ok.injEq]
  constructor
  · rintro ⟨manifest, shown, others, read, rfl⟩
    exact ⟨manifest, others, shown, read, rfl⟩
  · rintro ⟨manifest, others, shown, read, rfl⟩
    exact ⟨manifest, shown, others, read, rfl⟩

theorem assetSummaries_length {disk : IntakeDisk} {assetIds : List AssetId}
    {summaries : List AssetManifest} (read : assetSummaries disk assetIds = .ok summaries) :
    summaries.length = assetIds.length := by
  induction assetIds generalizing summaries with
  | nil =>
      obtain rfl := Except.ok.inj read
      rfl
  | cons assetId rest ih =>
      obtain ⟨manifest, others, -, later, rfl⟩ := assetSummaries_cons.mp read
      rw [List.length_cons, List.length_cons, ih later]

/-- What has a summary is visible. -/
theorem visible?_of_assetSummaries {disk : IntakeDisk} {assetIds : List AssetId}
    {summaries : List AssetManifest} (read : assetSummaries disk assetIds = .ok summaries)
    {assetId : AssetId} (member : assetId ∈ assetIds) :
    ∃ manifest, disk.visible? assetId = some manifest := by
  induction assetIds generalizing summaries with
  | nil => cases member
  | cons first rest ih =>
      obtain ⟨manifest, others, shown, later, rfl⟩ := assetSummaries_cons.mp read
      obtain rfl | member := List.mem_cons.mp member
      · exact ⟨manifest, shown⟩
      · exact ih later member

theorem assetSummaries_snoc {disk : IntakeDisk} {assetIds : List AssetId} {assetId : AssetId}
    {summaries : List AssetManifest} {manifest : AssetManifest}
    (read : assetSummaries disk assetIds = .ok summaries)
    (shown : disk.visible? assetId = some manifest) :
    assetSummaries disk (assetIds ++ [assetId]) = .ok (summaries ++ [manifest]) := by
  induction assetIds generalizing summaries with
  | nil =>
      obtain rfl := Except.ok.inj read
      exact assetSummaries_cons.mpr ⟨manifest, [], shown, rfl, rfl⟩
  | cons first rest ih =>
      obtain ⟨head, others, visible, later, rfl⟩ := assetSummaries_cons.mp read
      exact assetSummaries_cons.mpr ⟨head, others ++ [manifest], visible, ih later, rfl⟩

/-- Without one of the assets the files take no more. -/
theorem assetSummaries_erase (assetId : AssetId) {disk : IntakeDisk} {assetIds : List AssetId}
    {summaries : List AssetManifest} (read : assetSummaries disk assetIds = .ok summaries) :
    ∃ fewer, assetSummaries disk (assetIds.erase assetId) = .ok fewer ∧
      totalSize fewer ≤ totalSize summaries := by
  induction assetIds generalizing summaries with
  | nil => exact ⟨summaries, read, Nat.le_refl _⟩
  | cons first rest ih =>
      obtain ⟨head, others, visible, later, rfl⟩ := assetSummaries_cons.mp read
      by_cases same : first = assetId
      · subst same
        refine ⟨others, ?_, ?_⟩
        · rw [List.erase_cons_head]
          exact later
        · show totalSize others ≤ head.content.size + totalSize others
          omega
      · obtain ⟨fewer, kept, least⟩ := ih later
        refine ⟨head :: fewer, ?_, ?_⟩
        · rw [List.erase_cons_tail (by simpa using same)]
          exact assetSummaries_cons.mpr ⟨head, fewer, visible, kept, rfl⟩
        · show head.content.size + totalSize fewer ≤ head.content.size + totalSize others
          omega

/-! ## Writes -/

/-- The writes of the operations: what each finds on the disk. -/
def Allowed (settings : AssetSettings) (disk : IntakeDisk) : IntakeWrite → Prop
  | .task => True
  | .other .. => True
  | .commit intake commit =>
      disk.taskExists = true ∧ (∀ old ∈ disk.intake, old.revision ≤ intake.revision) ∧
        ∀ assetId ∈ intake.assetIds,
          Attached { disk with commits := disk.commits ++ [commit] } assetId
  | .event (.imported manifest request) =>
      disk.importEvent manifest.assetId = none ∧
        disk.transactions.lookup manifest.assetId = some ⟨request, false, manifest⟩
  | .event (.removed assetId _) => (disk.importEvent assetId).isSome
  | .event (.corrupted _) => False
  | .transaction assetId record =>
      (disk.transactions.lookup assetId = none ∧ record.committed = false ∧
          Filed settings disk.inputs assetId record) ∨
        ∃ old, disk.transactions.lookup assetId = some old ∧
          record = { old with committed := true } ∧
          disk.importEvent assetId = some (record.manifest, record.request)
  | .input assetId _ _ => disk.transactions.lookup assetId = none
  | .discard assetId => disk.transactions.lookup assetId = none
  | .mark _ => False

section

variable {settings : AssetSettings} {disk : IntakeDisk} {write : IntakeWrite}

/-- What an allowed write leaves. -/
theorem Allowed.grown (allowed : Allowed settings disk write) :
    Grown disk (Disk.apply disk write) := by
  cases write with
  | task => exact { Grown.refl disk with task := fun _ => rfl }
  | other key command request =>
      exact { Grown.refl disk with commits := ⟨[.other key command request], rfl⟩ }
  | commit intake commit =>
      obtain ⟨-, later, -⟩ := allowed
      exact
        { Grown.refl disk with
          commits := ⟨[commit], rfl⟩
          intake := fun old stored => ⟨intake, rfl, later old stored⟩ }
  | event event => exact { Grown.refl disk with }
  | transaction assetId record =>
      refine { Grown.refl disk with transactions := ?_ }
      intro other stored found
      by_cases same : other = assetId
      · subst same
        rcases allowed with ⟨fresh, -⟩ | ⟨old, standing, rfl, -⟩
        · cases fresh.symm.trans found
        · obtain rfl := Option.some.inj (standing.symm.trans found)
          exact .inr (AList.lookup_insert disk.transactions)
      · exact .inl ((AList.lookup_insert_ne same).trans found)
  | input assetId filename content => exact { Grown.refl disk with }
  | discard assetId => exact { Grown.refl disk with }
  | mark assetId => exact allowed.elim

theorem Filed.congr {inputs later : AList fun _ : AssetId => (_ : String) × Blob}
    {assetId : AssetId} {record : ImportRecord} (filed : Filed settings inputs assetId record)
    (same : later.lookup assetId = inputs.lookup assetId) :
    Filed settings later assetId record :=
  { filed with file := same.trans filed.file }

namespace SoundIntakes

theorem not_removed (sound : SoundIntakes settings disk) {assetId : AssetId}
    (absent : disk.importEvent assetId = none) : disk.removed? assetId = false := by
  cases removed : disk.removed? assetId with
  | false => rfl
  | true =>
      have imported := sound.removed assetId removed
      rw [absent] at imported
      cases imported

theorem visible?_eq_some (sound : SoundIntakes settings disk) {assetId : AssetId}
    {record : ImportRecord} (found : disk.transactions.lookup assetId = some record)
    (committed : record.committed = true) (standing : disk.removed? assetId = false) :
    disk.visible? assetId = some record.manifest := by
  rw [sound.shown, standing, sound.committed assetId record found committed]
  rfl

/-- An attached asset was imported. -/
theorem importEvent_isSome (sound : SoundIntakes settings disk) {assetId : AssetId}
    (attached : Attached disk assetId) : (disk.importEvent assetId).isSome := by
  obtain ⟨record, found, committed, -⟩ := attached.imported
  rw [sound.committed assetId record found committed]
  rfl

/-- An import event: the asset becomes visible. -/
theorem recordImport (sound : SoundIntakes settings disk) {manifest : AssetManifest}
    {request : ImportRequest} (absent : disk.importEvent manifest.assetId = none)
    (found : disk.transactions.lookup manifest.assetId = some ⟨request, false, manifest⟩) :
    SoundIntakes settings (disk.record (.imported manifest request)) := by
  have attached : ∀ intake ∈ disk.intake, ∀ assetId ∈ intake.assetIds,
      Attached (disk.record (.imported manifest request)) assetId := by
    intro intake stored assetId member
    exact (sound.attached intake stored assetId member).grown { Grown.refl disk with }
  refine
    { sound with
      imported := ?imported
      committed := ?committed
      shown := ?shown
      removed := ?removed
      attached := attached }
  case imported =>
    intro assetId manifest' request' event
    rw [IntakeDisk.importEvent_imported] at event
    cases before : disk.importEvent assetId with
    | some pair =>
        rw [before] at event
        obtain rfl := Option.some.inj event
        exact sound.imported assetId manifest' request' before
    | none =>
        rw [before, Option.none_or] at event
        split at event
        · next same =>
            subst same
            obtain ⟨rfl, rfl⟩ := Prod.mk.inj (Option.some.inj event)
            exact ⟨false, found⟩
        · cases event
  case committed =>
    intro assetId record stored done
    rw [IntakeDisk.importEvent_imported, sound.committed assetId record stored done]
    rfl
  case shown =>
    intro assetId
    rw [IntakeDisk.visible?_imported, IntakeDisk.removed?_imported,
      IntakeDisk.importEvent_imported]
    split
    · next same =>
        subst same
        rw [sound.not_removed absent, absent]
        rfl
    · rw [sound.shown, Option.or_none]
  case removed =>
    intro assetId removed
    rw [IntakeDisk.removed?_imported] at removed
    rw [IntakeDisk.importEvent_imported, Option.isSome_or, sound.removed assetId removed]
    rfl

/-- A removal: the asset is not visible any more. -/
theorem recordRemoval (sound : SoundIntakes settings disk) {removed : AssetId} {key : String}
    (known : (disk.importEvent removed).isSome) :
    SoundIntakes settings (disk.record (.removed removed key)) := by
  have attached : ∀ intake ∈ disk.intake, ∀ assetId ∈ intake.assetIds,
      Attached (disk.record (.removed removed key)) assetId := by
    intro intake stored assetId member
    exact (sound.attached intake stored assetId member).grown { Grown.refl disk with }
  refine
    { sound with
      imported := ?imported
      committed := ?committed
      shown := ?shown
      removed := ?removed
      attached := attached }
  case imported =>
    intro assetId manifest request event
    rw [IntakeDisk.importEvent_removed] at event
    exact sound.imported assetId manifest request event
  case committed =>
    intro assetId record stored done
    rw [IntakeDisk.importEvent_removed]
    exact sound.committed assetId record stored done
  case shown =>
    intro assetId
    rw [IntakeDisk.visible?_removed, IntakeDisk.removed?_removed, IntakeDisk.importEvent_removed,
      sound.shown]
    by_cases same : removed = assetId
    · simp [same]
    · simp [same]
  case removed =>
    intro assetId gone
    rw [IntakeDisk.removed?_removed, Bool.or_eq_true] at gone
    rw [IntakeDisk.importEvent_removed]
    rcases gone with before | same
    · exact sound.removed assetId before
    · obtain rfl : removed = assetId := by simpa using same
      exact known

end SoundIntakes

/-- Every allowed write keeps the disk sound. -/
theorem SoundIntakes.apply (sound : SoundIntakes settings disk)
    (allowed : Allowed settings disk write) :
    SoundIntakes settings (Disk.apply disk write) := by
  have grown := allowed.grown
  have attached : ∀ intake ∈ disk.intake, ∀ assetId ∈ intake.assetIds,
      Attached (Disk.apply disk write) assetId := by
    intro intake stored assetId member
    exact (sound.attached intake stored assetId member).grown grown
  cases write with
  | task => exact { sound with task := fun _ => rfl, attached := attached }
  | other => exact { sound with attached := attached }
  | commit intake commit =>
      obtain ⟨task, -, uploads⟩ := allowed
      refine { sound with task := fun _ => task, attached := ?_ }
      intro stored held assetId member
      obtain rfl := Option.some.inj held
      have before := uploads assetId member
      exact ⟨before.command, before.imported⟩
  | event event =>
      cases event with
      | imported manifest request => exact sound.recordImport allowed.1 allowed.2
      | removed assetId key => exact sound.recordRemoval allowed
      | corrupted assetId => exact allowed.elim
  | transaction assetId record =>
      refine
        { sound with
          filed := ?filed
          imported := ?imported
          committed := ?committed
          attached := attached }
      case filed =>
        intro other stored found
        by_cases same : other = assetId
        · subst same
          obtain rfl := Option.some.inj ((AList.lookup_insert _).symm.trans found)
          rcases allowed with ⟨-, -, filed⟩ | ⟨old, standing, rfl, -⟩
          · exact filed
          · exact { sound.filed other old standing with }
        · exact sound.filed other stored ((AList.lookup_insert_ne same).symm.trans found)
      case imported =>
        intro other manifest request event
        obtain ⟨done, found⟩ := sound.imported other manifest request event
        by_cases same : other = assetId
        · subst same
          rcases allowed with ⟨fresh, -⟩ | ⟨old, standing, rfl, -⟩
          · cases fresh.symm.trans found
          · obtain rfl := Option.some.inj (standing.symm.trans found)
            exact ⟨true, AList.lookup_insert _⟩
        · exact ⟨done, (AList.lookup_insert_ne same).trans found⟩
      case committed =>
        intro other stored found done
        by_cases same : other = assetId
        · subst same
          obtain rfl := Option.some.inj ((AList.lookup_insert _).symm.trans found)
          rcases allowed with ⟨-, prepared, -⟩ | ⟨old, standing, rfl, imported⟩
          · cases prepared.symm.trans done
          · exact imported
        · exact sound.committed other stored ((AList.lookup_insert_ne same).symm.trans found) done
  | input assetId filename content =>
      refine { sound with filed := ?_, attached := attached }
      intro other record found
      have apart : other ≠ assetId := by
        rintro rfl
        cases found.symm.trans allowed
      exact (sound.filed other record found).congr (AList.lookup_insert_ne apart)
  | discard assetId =>
      refine { sound with filed := ?_, attached := attached }
      intro other record found
      have apart : other ≠ assetId := by
        rintro rfl
        cases found.symm.trans allowed
      exact (sound.filed other record found).congr (AList.lookup_erase_ne apart)
  | mark assetId => exact allowed.elim

/-- The write leaves the list of the intake and what it lists as they are. -/
def Quiet (disk : IntakeDisk) : IntakeWrite → Prop
  | .commit intake _ => intake.assetIds = (disk.intake.map TaskIntake.assetIds).getD []
  | .event (.removed assetId _) => ∀ intake ∈ disk.intake, assetId ∉ intake.assetIds
  | _ => True

theorem IntakeListed.congr {later : IntakeDisk} {intake next : TaskIntake}
    (listed : IntakeListed disk intake) (same : next.assetIds = intake.assetIds)
    (shown : ∀ assetId ∈ intake.assetIds, later.visible? assetId = disk.visible? assetId) :
    IntakeListed later next := by
  obtain ⟨distinct, atMost, summaries, read, fits⟩ := listed
  constructor
  case distinct =>
    rw [same]
    exact distinct
  case atMost =>
    rw [same]
    exact atMost
  case available =>
    refine ⟨summaries, ?_, fits⟩
    rw [same, assetSummaries_congr shown]
    exact read

/-- An empty list owes nothing. -/
theorem IntakeListed.nil {intake : TaskIntake} (empty : intake.assetIds = []) :
    IntakeListed disk intake := by
  constructor
  case distinct =>
    rw [empty]
    exact List.nodup_nil
  case atMost =>
    rw [empty]
    exact Nat.zero_le _
  case available =>
    rw [empty]
    exact ⟨[], rfl, Nat.zero_le _⟩

/-- A quiet write that is allowed keeps what is listed. -/
theorem IntakesListed.apply (listed : IntakesListed disk) (sound : SoundIntakes settings disk)
    (allowed : Allowed settings disk write) (quiet : Quiet disk write) :
    IntakesListed (Disk.apply disk write) := by
  cases write with
  | commit intake commit =>
      intro next stored
      obtain rfl := Option.some.inj stored
      cases held : disk.intake with
      | none =>
          have empty : intake.assetIds = [] := by
            rw [show intake.assetIds = _ from quiet, held]
            rfl
          exact IntakeListed.nil empty
      | some old =>
          have same : intake.assetIds = old.assetIds := by
            rw [show intake.assetIds = _ from quiet, held]
            rfl
          exact (listed old held).congr same fun _ _ => rfl
  | event event =>
      intro intake stored
      refine (listed intake stored).congr rfl ?_
      intro assetId member
      cases event with
      | imported manifest request =>
          have apart : manifest.assetId ≠ assetId := by
            intro same
            have imported := sound.importEvent_isSome (sound.attached intake stored assetId member)
            rw [← same, allowed.1] at imported
            cases imported
          exact IntakeDisk.visible?_imported.trans (if_neg apart)
      | removed removed key =>
          have apart : removed ≠ assetId := by
            intro same
            exact quiet intake stored (same ▸ member)
          exact IntakeDisk.visible?_removed.trans (if_neg apart)
      | corrupted => exact allowed.elim
  | mark => exact allowed.elim
  | task => exact fun intake stored => (listed intake stored).congr rfl fun _ _ => rfl
  | other => exact fun intake stored => (listed intake stored).congr rfl fun _ _ => rfl
  | transaction => exact fun intake stored => (listed intake stored).congr rfl fun _ _ => rfl
  | input => exact fun intake stored => (listed intake stored).congr rfl fun _ _ => rfl
  | discard => exact fun intake stored => (listed intake stored).congr rfl fun _ _ => rfl

/-- What an operation that lists nothing new leaves, wherever it is stopped. -/
structure Reaches (settings : AssetSettings) (disk later : IntakeDisk) : Prop where
  sound : SoundIntakes settings later
  grown : Grown disk later
  listed : IntakesListed disk → IntakesListed later

theorem Reaches.start (sound : SoundIntakes settings disk) : Reaches settings disk disk :=
  ⟨sound, Grown.refl disk, id⟩

theorem Reaches.apply {start : IntakeDisk} (reaches : Reaches settings start disk)
    (allowed : Allowed settings disk write) (quiet : Quiet disk write) :
    Reaches settings start (Disk.apply disk write) where
  sound := reaches.sound.apply allowed
  grown := reaches.grown.trans allowed.grown
  listed := fun listed => (reaches.listed listed).apply reaches.sound allowed quiet

end

end DesignHarness
