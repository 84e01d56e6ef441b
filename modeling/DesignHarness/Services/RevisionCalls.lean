import DesignHarness.Services.InstanceRevisionStore

/-!
# The revision store of an instance under arbitrary calls

The operations of `InstanceConfigRevisionStore` (`instance_config_revisions.py`) are called in any
order, with any revision, expected number and receipt.  The chronicle of an instance keeps which
revisions were current, and how often its state file was replaced.

An id that is not of the form `cfg-inst-r000003` is a number that nothing is published under.
-/

namespace DesignHarness

open Library

/-- A call of the store, with its arguments. -/
inductive RevisionCall where
  | writeRevision (bundle : InstanceBundle)
  | setCurrent (sequence expected : Nat) (updatedAt : Timestamp)
      (receipt : Option ApplicationReceipt)
  | setPending (sequence expected : Nat) (updatedAt : Timestamp)
  | clearPending (sequence expected : Nat) (updatedAt : Timestamp)
  | recordApplication (sequence : Nat) (receipt : ApplicationReceipt)
  deriving DecidableEq, Repr

open InstanceRevisionStore

open RuntimeSettingsService (validateReceipt checkApplied movedState readCurrent_some
  readCurrent_none readCurrent_settled readCurrent_number runningSettings sampleBundle sampleRef)

def RevisionCall.script {Agent : Type} (sizes : ConfigFileSizes) (ref : InstanceRef) :
    RevisionCall → SettingsScript Agent Unit
  | .writeRevision bundle => InstanceRevisionStore.writeRevision sizes ref bundle
  | .setCurrent sequence expected updatedAt receipt =>
      InstanceRevisionStore.setCurrent sizes ref sequence expected updatedAt receipt
  | .setPending sequence expected updatedAt =>
      InstanceRevisionStore.setPending sizes ref sequence expected updatedAt
  | .clearPending sequence expected updatedAt =>
      InstanceRevisionStore.clearPending sizes ref sequence expected updatedAt
  | .recordApplication sequence receipt =>
      InstanceRevisionStore.recordApplication sizes ref sequence receipt

/-- The revisions that have been current, the latest first, and the number of times that the state
    file was replaced. -/
structure Chronicle where
  currents : List Nat
  changes : Nat
  deriving DecidableEq, Repr

namespace Chronicle

/-- The bundle of the 1.0 format is the first revision, and its state has number 1. -/
def start (files : InstanceConfigFiles) : Chronicle :=
  if files.legacy.isSome then ⟨[1], 1⟩ else ⟨[], 0⟩

/-- What a call adds, told by whether it returned and by the state file before and after it. -/
def note (call : RevisionCall) (returned : Bool) (before after : InstanceConfigFiles)
    (chronicle : Chronicle) : Chronicle where
  currents :=
    match call, returned with
    | .setCurrent sequence _ _ _, true => sequence :: chronicle.currents
    | _, _ => chronicle.currents
  changes := if after.state = before.state then chronicle.changes else chronicle.changes + 1

end Chronicle

structure RevisionRun (Agent : Type) where
  disk : SettingsDisk Agent
  chronicle : InstanceRef → Chronicle

/-- A call for an instance. -/
structure RevisionStep where
  owner : InstanceRef
  call : RevisionCall

def RevisionRun.start {Agent : Type} (disk : SettingsDisk Agent) : RevisionRun Agent :=
  ⟨disk, fun ref => Chronicle.start (disk.files ref)⟩

/-- A call that raises may still have changed the disk. -/
def revisionStep {Agent : Type} (sizes : ConfigFileSizes) (run : RevisionRun Agent)
    (step : RevisionStep) : Except Empty (RevisionRun Agent) :=
  let script := step.call.script sizes step.owner
  let later := script.after run.disk
  .ok
    { disk := later
      chronicle := Function.update run.chronicle step.owner
        ((run.chronicle step.owner).note step.call (script run.disk).outcome.isOk
          (run.disk.files step.owner) (later.files step.owner)) }

/-- Following the parents of a revision visits exactly these revisions, down to one without a
    parent. -/
inductive Descends (sizes : ConfigFileSizes) (ref : InstanceRef) (files : InstanceConfigFiles) :
    Option Nat → List Nat → Prop where
  | first : Descends sizes ref files none []
  | next {sequence : Nat} {bundle : InstanceBundle} {earlier : List Nat}
      (found : readRevision sizes ref sequence files = .ok bundle)
      (rest : Descends sizes ref files bundle.manifest.parent earlier) :
      Descends sizes ref files (some sequence) (sequence :: earlier)

/-- The current revision can be read and is applied or has a receipt, another one is pending, the
    state counts its changes, and the parents of the current revision are the earlier ones. -/
def Intact {Agent : Type} (sizes : ConfigFileSizes) (ref : InstanceRef)
    (disk : SettingsDisk Agent) (chronicle : Chronicle) : Prop :=
  ∃ current, readCurrent sizes ref disk = .ok current ∧
    (current.elim 0 fun now => now.state.revision) = chronicle.changes ∧
    (∀ now, current = some now →
      (∃ bundle, readRevision sizes ref now.state.currentRevision (disk.files ref) = .ok bundle ∧
        checkApplied bundle (disk.receipts ref now.state.currentRevision) = .ok ()) ∧
      now.state.pendingRevision ≠ some now.state.currentRevision) ∧
    Descends sizes ref (disk.files ref) (current.map fun now => now.state.currentRevision)
      chronicle.currents

/-- The bundle that `_legacy_bundle` makes of the 1.0 format (`instance_config_revisions.py:462-530`)
    is applied and current, without a parent. -/
structure LegacyBundle (legacy : InstanceConfigState × InstanceBundle) : Prop where
  current : legacy.1.currentRevision = 1
  settled : legacy.1.pendingRevision = none
  counted : legacy.1.revision = 1
  numbered : legacy.2.manifest.sequence = 1
  orphan : legacy.2.manifest.parent = none
  applied : legacy.2.manifest.applyStatus = .applied
  accepted : stateAccepted legacy.1 = true

/-- Nothing was written for an instance so far. -/
structure Fresh {Agent : Type} (disk : SettingsDisk Agent) (ref : InstanceRef) : Prop where
  state : (disk.files ref).state = none
  slots : (disk.files ref).slots = ∅
  receipts : ∀ sequence, disk.receipts ref sequence = none
  legacy : ∀ legacy, (disk.files ref).legacy = some legacy → LegacyBundle legacy

/-- A call keeps away from what the store does not check.

    - A bundle that takes the place of the one of the 1.0 format can be read and has no parent
      either, and is applied or has a receipt if that revision is current.
    - A revision that is given a new receipt to become current has the current one as its parent;
      the time is well formed, and the receipt can be read if the revision is not applied without.
    - A revision that is to be pending is not the current one.
    - A state that is written can be read. -/
def Orderly {Agent : Type} (sizes : ConfigFileSizes) (ref : InstanceRef)
    (disk : SettingsDisk Agent) : RevisionCall → Prop
  | .writeRevision bundle =>
      validateManifest bundle.manifest = .ok () → bundle.manifest.sequence = 1 →
        bundle.manifest.parent ≠ some 1 → (disk.files ref).slots.lookup 1 = none →
          (disk.files ref).legacy.isSome →
            FilesFit sizes ref bundle ∧ bundle.manifest.parent = none ∧
              ∀ state, pointerState (disk.files ref) = some state → state.currentRevision = 1 →
                checkCurrent sizes ref bundle (disk.receipts ref 1) = .ok ()
  | .setCurrent sequence expected updatedAt receipt =>
      ∀ current target, readCurrent sizes ref disk = .ok current →
        (current.elim 0 fun now => now.state.revision) = expected →
          readRevision sizes ref sequence (disk.files ref) = .ok target →
            sizes.state ref (movedState sequence expected updatedAt current) ≤
                maxConfigFileBytes ∧
              ∀ document, receipt = some document → disk.receipts ref sequence = none →
                validateReceipt target document = .ok () →
                  target.manifest.parent =
                      (current.map fun now => now.bundle.manifest.sequence) ∧
                    isTimestamp updatedAt = true ∧
                    (target.manifest.applyStatus ≠ .applied →
                      sizes.receipt ref document ≤ maxConfigFileBytes)
  | .setPending sequence expected updatedAt =>
      ∀ now, readCurrent sizes ref disk = .ok (some now) → now.state.revision = expected →
        now.state.pendingRevision = none → sequence ≠ now.state.currentRevision ∧
          sizes.state ref (repended now (some sequence) expected updatedAt) ≤ maxConfigFileBytes
  | .clearPending sequence expected updatedAt =>
      ∀ now, readCurrent sizes ref disk = .ok (some now) → now.state.revision = expected →
        now.state.pendingRevision = some sequence →
          sizes.state ref (repended now none expected updatedAt) ≤ maxConfigFileBytes
  | .recordApplication _ _ => True

/-! ## What a call can do -/

section

variable {Agent : Type} {sizes : ConfigFileSizes} {ref other : InstanceRef}
  {disk : SettingsDisk Agent} {bundle : InstanceBundle} {state : InstanceConfigState}
  {receipt : ApplicationReceipt} {sequence expected : Nat} {updatedAt : Timestamp}

/-- What a call makes of the disk if it returns; if it raises, the disk is the same. -/
def Leaves (script : SettingsScript Agent Unit) (disk : SettingsDisk Agent)
    (returns : SettingsDisk Agent → Prop) : Prop :=
  Meets script disk (fun _ => True) (fun _ later => returns later) fun _ later => later = disk

theorem writeRevision_leaves :
    Leaves (writeRevision sizes ref bundle) disk fun later => later = disk ∨
      validateManifest bundle.manifest = .ok () ∧
        bundle.manifest.parent ≠ some bundle.manifest.sequence ∧
        (disk.files ref).slots.lookup bundle.manifest.sequence = none ∧
        later = Disk.apply disk (SettingsWrite.revision ref bundle) := by
  unfold writeRevision
  refine Meets.guarded trivial (fun _ accepted => ?_) fun _ _ => rfl
  refine Meets.guarded trivial (fun _ foreign => ?_) fun _ _ => rfl
  refine Meets.looked rfl ?_
  cases free : (disk.files ref).slots.lookup bundle.manifest.sequence with
  | some stored => exact Meets.lift trivial (fun _ _ => .inl rfl) fun _ _ => rfl
  | none =>
      refine Meets.write trivial trivial trivial (.inr ?_)
      exact ⟨accepted, ensure_eq_ok.mp foreign, rfl, rfl⟩

/-- The receipt of a revision is written, or it stands already and can be read. -/
theorem recordApplication_leaves :
    Leaves (recordApplication sizes ref sequence receipt) disk fun later =>
      (∃ target, readRevision sizes ref sequence (disk.files ref) = .ok target ∧
        validateReceipt target receipt = .ok ()) ∧
      (disk.receipts ref receipt.revision = some receipt ∧
          sizes.receipt ref receipt ≤ maxConfigFileBytes ∧ later = disk ∨
        disk.receipts ref receipt.revision = none ∧
          later = Disk.apply disk (SettingsWrite.receipt ref receipt)) := by
  unfold recordApplication
  refine Meets.looked rfl (Meets.guarded trivial (fun target read => ?_) fun _ _ => rfl)
  refine Meets.guarded trivial (fun _ valid => ?_) fun _ _ => rfl
  refine Meets.looked rfl ?_
  cases found : disk.receipts ref receipt.revision with
  | some stored =>
      refine Meets.guarded trivial (fun _ small => ?_) fun _ _ => rfl
      refine Meets.lift trivial (fun _ same => ⟨⟨target, read, valid⟩, .inl ?_⟩) fun _ _ => rfl
      obtain rfl := ensure_eq_ok.mp same
      exact ⟨rfl, ensure_eq_ok.mp small, rfl⟩
  | none => exact Meets.write trivial trivial trivial ⟨⟨target, read, valid⟩, .inr ⟨rfl, rfl⟩⟩

theorem setPending_leaves :
    Leaves (setPending sizes ref sequence expected updatedAt) disk fun later => later = disk ∨
      ∃ now target, readCurrent sizes ref disk = .ok (some now) ∧
        now.state.revision = expected ∧ now.state.pendingRevision = none ∧
        readRevision sizes ref sequence (disk.files ref) = .ok target ∧
        stateAccepted (repended now (some sequence) expected updatedAt) = true ∧
        later = Disk.apply disk
          (SettingsWrite.point ref (repended now (some sequence) expected updatedAt)) := by
  unfold setPending
  refine Meets.looked rfl (Meets.guarded trivial (fun current found => ?_) fun _ _ => rfl)
  cases current with
  | none => exact Meets.raise trivial rfl
  | some now =>
      refine Meets.guarded trivial (fun _ fresh => ?_) fun _ _ => rfl
      cases pending : now.state.pendingRevision with
      | some other =>
          refine Meets.guarded trivial (fun _ _ => ?_) fun _ _ => rfl
          refine Meets.looked rfl (Meets.guarded trivial (fun _ _ => ?_) fun _ _ => rfl)
          exact Meets.pure trivial (.inl rfl)
      | none =>
          refine Meets.looked rfl (Meets.guarded trivial (fun target read => ?_) fun _ _ => rfl)
          refine Meets.guarded trivial (fun _ accepted => ?_) fun _ _ => rfl
          refine Meets.write trivial trivial trivial (.inr ?_)
          exact ⟨now, target, found, ensure_eq_ok.mp fresh, pending, read,
            validateContract_eq_ok.mp accepted, rfl⟩

theorem clearPending_leaves :
    Leaves (clearPending sizes ref sequence expected updatedAt) disk fun later => later = disk ∨
      ∃ now, readCurrent sizes ref disk = .ok (some now) ∧ now.state.revision = expected ∧
        now.state.pendingRevision = some sequence ∧
        stateAccepted (repended now none expected updatedAt) = true ∧
        later = Disk.apply disk
          (SettingsWrite.point ref (repended now none expected updatedAt)) := by
  unfold clearPending
  refine Meets.looked rfl (Meets.guarded trivial (fun current found => ?_) fun _ _ => rfl)
  cases current with
  | none => exact Meets.raise trivial rfl
  | some now =>
      refine Meets.guarded trivial (fun _ fresh => ?_) fun _ _ => rfl
      cases pending : now.state.pendingRevision with
      | none => exact Meets.pure trivial (.inl rfl)
      | some other =>
          refine Meets.guarded trivial (fun _ same => ?_) fun _ _ => rfl
          refine Meets.guarded trivial (fun _ accepted => ?_) fun _ _ => rfl
          refine Meets.write trivial trivial trivial (.inr ?_)
          obtain rfl := ensure_eq_ok.mp same
          exact ⟨now, found, ensure_eq_ok.mp fresh, pending, validateContract_eq_ok.mp accepted,
            rfl⟩

/-- Before it moves the pointer, `set_current` has at most recorded the receipt. -/
def Receipted (sizes : ConfigFileSizes) (ref : InstanceRef) (sequence : Nat)
    (target : InstanceBundle) (disk : SettingsDisk Agent) :
    Option ApplicationReceipt → SettingsDisk Agent → Prop
  | none, later => target.manifest.applyStatus = .applied ∧ later = disk
  | some receipt, later => receipt.revision = sequence ∧ validateReceipt target receipt = .ok () ∧
      (disk.receipts ref sequence = some receipt ∧
          sizes.receipt ref receipt ≤ maxConfigFileBytes ∧ later = disk ∨
        disk.receipts ref sequence = none ∧
          later = Disk.apply disk (SettingsWrite.receipt ref receipt))

theorem readInstanceRevision_numbered {files : InstanceConfigFiles} {target : InstanceBundle}
    (numbered : ∀ legacy, files.legacy = some legacy → legacy.2.manifest.sequence = 1)
    (read : readInstanceRevision sequence files = .ok target) :
    target.manifest.sequence = sequence := by
  unfold readInstanceRevision at read
  cases stored : files.slots.lookup sequence with
  | some document =>
      rw [stored] at read
      obtain ⟨_, same, read⟩ := bind_eq_ok.mp read
      obtain ⟨_, -, read⟩ := bind_eq_ok.mp read
      obtain rfl := Except.ok.inj read
      exact ensure_eq_ok.mp same
  | none =>
      rw [stored] at read
      by_cases first : sequence = 1
      · rw [if_pos first] at read
        cases legacy : files.legacy with
        | none =>
            rw [legacy] at read
            cases read
        | some pair =>
            rw [legacy] at read
            obtain rfl := Except.ok.inj read
            exact (numbered pair legacy).trans first.symm
      · rw [if_neg first] at read
        cases read

/-- An orderly `set_current` records a receipt only if it then moves the pointer. -/
theorem setCurrent_leaves (numbered : ∀ legacy, (disk.files ref).legacy = some legacy →
      legacy.2.manifest.sequence = 1) {receipt : Option ApplicationReceipt}
    (ready : ∀ current target, readCurrent sizes ref disk = .ok current →
      readRevision sizes ref sequence (disk.files ref) = .ok target →
        isTimestamp updatedAt = true →
          stateAccepted (movedState sequence expected updatedAt current) = true)
    (orderly : Orderly sizes ref disk (.setCurrent sequence expected updatedAt receipt)) :
    Leaves ((RevisionCall.setCurrent sequence expected updatedAt receipt).script sizes ref) disk
      fun later => ∃ current target middle, readCurrent sizes ref disk = .ok current ∧
        (current.elim 0 fun now => now.state.revision) = expected ∧
        readRevision sizes ref sequence (disk.files ref) = .ok target ∧
        target.manifest.parent = (current.map fun now => now.bundle.manifest.sequence) ∧
        stateAccepted (movedState sequence expected updatedAt current) = true ∧
        Receipted sizes ref sequence target disk receipt middle ∧
        later = Disk.apply middle
          (SettingsWrite.point ref (movedState sequence expected updatedAt current)) := by
  refine Meets.looked rfl (Meets.guarded trivial (fun current found => ?_) fun _ _ => rfl)
  refine Meets.guarded trivial (fun _ fresh => ?_) fun _ _ => rfl
  refine Meets.looked rfl (Meets.guarded trivial (fun target read => ?_) fun _ _ => rfl)
  refine Meets.guarded trivial (fun _ applicable => ?_) fun _ _ => rfl
  have number := ensure_eq_ok.mp fresh
  have named := readInstanceRevision_numbered numbered (readRevision_eq_ok.mp read).1
  -- The pointer moves once the receipt is there: the parent cannot be stale then, and the state
  -- is well formed.
  cases receipt with
  | none =>
      refine Meets.guarded trivial (fun _ _ => ?_) fun _ _ => rfl
      refine Meets.guarded trivial (fun _ parented => ?_) fun _ _ => rfl
      refine Meets.guarded trivial (fun _ accepted => ?_) fun _ _ => rfl
      refine Meets.write trivial trivial trivial ?_
      refine ⟨current, target, disk, found, number, read, ensure_eq_ok.mp parented,
        validateContract_eq_ok.mp accepted, ?_, rfl⟩
      exact ⟨(ensure_eq_ok.mp applicable).resolve_right fun some_ => some_ rfl, rfl⟩
  | some document =>
      refine Meets.guarded trivial (fun _ valid => ?_) fun _ _ => rfl
      have same : document.revision = sequence := by
        obtain ⟨_, -, valid⟩ := bind_eq_ok.mp valid
        exact (ensure_eq_ok.mp valid).1.trans named
      refine Meets.bind (recordApplication_leaves.mono (fun _ => id) ?_ fun _ _ => id)
      rintro _ middle ⟨-, recorded⟩
      rw [same] at recorded
      have receipted : Receipted sizes ref sequence target disk (some document) middle :=
        ⟨same, valid, recorded⟩
      have prepared : middle = disk ∨
          target.manifest.parent = (current.map fun now => now.bundle.manifest.sequence) ∧
            isTimestamp updatedAt = true := by
        obtain ⟨-, -, kept⟩ | ⟨new, -⟩ := recorded
        · exact .inl kept
        · obtain ⟨parented, stamped, -⟩ :=
            (orderly current target found number read).2 document rfl new valid
          exact .inr ⟨parented, stamped⟩
      refine Meets.guarded trivial (fun _ parented => ?_) ?_
      · refine Meets.guarded trivial (fun _ accepted => ?_) ?_
        · refine Meets.write trivial trivial trivial ?_
          exact ⟨current, target, middle, found, number, read, ensure_eq_ok.mp parented,
            validateContract_eq_ok.mp accepted, receipted, rfl⟩
        · intro error refused
          obtain kept | ⟨-, stamped⟩ := prepared
          · exact kept
          · exact absurd (ready current target found read stamped) (ensure_eq_error.mp refused).1
      · intro error stale
        obtain kept | ⟨parent, -⟩ := prepared
        · exact kept
        · exact absurd parent (ensure_eq_error.mp stale).1

end

/-! ## The invariant -/

/-- What holds of the files and receipts of an instance, against its chronicle. -/
structure StoreSound (sizes : ConfigFileSizes) (ref : InstanceRef) (files : InstanceConfigFiles)
    (receipts : Nat → Option ApplicationReceipt) (chronicle : Chronicle) : Prop where
  named : ∀ n bundle, files.slots.lookup n = some bundle →
    bundle.manifest.sequence = n ∧ bundle.manifest.parent ≠ some n ∧ revisionIdAccepted n = true
  legacy : ∀ legacy, files.legacy = some legacy → LegacyBundle legacy
  counted : settledNumber files = chronicle.changes
  pointed : chronicle.currents.head? =
    (pointerState files).map InstanceConfigState.currentRevision
  accepted : ∀ state, pointerState files = some state → stateAccepted state = true
  readable : ∀ state, files.state = some state → sizes.state ref state ≤ maxConfigFileBytes
  descends : Descends sizes ref files chronicle.currents.head? chronicle.currents
  applied : ∀ state, pointerState files = some state →
    ∃ bundle, readRevision sizes ref state.currentRevision files = .ok bundle ∧
      checkCurrent sizes ref bundle (receipts state.currentRevision) = .ok ()
  pending : ∀ state n, pointerState files = some state → state.pendingRevision = some n →
    n ≠ state.currentRevision ∧ ∃ bundle, readRevision sizes ref n files = .ok bundle

section

variable {sizes : ConfigFileSizes} {ref : InstanceRef} {files : InstanceConfigFiles}
  {bundle target : InstanceBundle} {n m : Nat} {receipts : Nat → Option ApplicationReceipt}
  {chronicle : Chronicle} {state : InstanceConfigState} {origin : Option Nat}
  {earlier : List Nat}

theorem readRevision_publish (named : bundle.manifest.sequence = m)
    (foreign : bundle.manifest.parent ≠ some m) (fits : FilesFit sizes ref bundle) :
    readRevision sizes ref m (files.publish m bundle) = .ok bundle := by
  refine readRevision_eq_ok.mpr ⟨?_, fun _ _ => fits⟩
  unfold readInstanceRevision Revisions.publish
  simp only [AList.lookup_insert, named, ensure_of foreign]
  rfl

theorem readRevision_publish_other (different : n ≠ m) :
    readRevision sizes ref n (files.publish m bundle) = readRevision sizes ref n files := by
  unfold readRevision readInstanceRevision Revisions.publish
  simp only [AList.lookup_insert_ne different]

/-- Only the bundle of the 1.0 format can be read where nothing was published. -/
theorem readRevision_free (free : files.slots.lookup n = none)
    (read : readRevision sizes ref n files = .ok target) :
    n = 1 ∧ ∃ legacy, files.legacy = some legacy ∧ target = legacy.2 := by
  unfold readRevision readInstanceRevision at read
  rw [free] at read
  by_cases first : n = 1
  · simp only [if_pos first] at read
    cases legacy : files.legacy with
    | none =>
        rw [legacy] at read
        cases read
    | some pair =>
        rw [legacy] at read
        exact ⟨first, pair, rfl, (Except.ok.inj read).symm⟩
  · simp only [if_neg first] at read
    cases read

theorem Descends.point (descends : Descends sizes ref files origin earlier) :
    Descends sizes ref (files.point state) origin earlier := by
  induction descends with
  | first => exact .first
  | next found _ ih => exact .next found ih

/-- A bundle without a parent may take the place of the one of the 1.0 format. -/
theorem Descends.publish (descends : Descends sizes ref files origin earlier)
    (legacy : ∀ legacy, files.legacy = some legacy → LegacyBundle legacy)
    (free : files.slots.lookup m = none) (named : bundle.manifest.sequence = m)
    (foreign : bundle.manifest.parent ≠ some m)
    (replaces : m = 1 → files.legacy.isSome →
      FilesFit sizes ref bundle ∧ bundle.manifest.parent = none) :
    Descends sizes ref (files.publish m bundle) origin earlier := by
  induction descends with
  | first => exact .first
  | @next n target earlier found rest ih =>
      by_cases same : n = m
      · subst same
        obtain ⟨first, pair, stored, rfl⟩ := readRevision_free free found
        obtain ⟨fits, parentless⟩ := replaces first (by rw [stored]; rfl)
        refine .next (readRevision_publish named foreign fits) ?_
        rw [parentless, ← (legacy pair stored).orphan]
        exact ih
      · exact .next ((readRevision_publish_other same).trans found) ih

namespace StoreSound

theorem numbered (sound : StoreSound sizes ref files receipts chronicle) :
    ∀ legacy, files.legacy = some legacy → legacy.2.manifest.sequence = 1 :=
  fun legacy stored => (sound.legacy legacy stored).numbered

/-- The id of a revision that can be read is well formed. -/
theorem idAccepted (sound : StoreSound sizes ref files receipts chronicle)
    (read : readRevision sizes ref n files = .ok target) : revisionIdAccepted n = true := by
  cases stored : files.slots.lookup n with
  | some bundle => exact (sound.named n bundle stored).2.2
  | none =>
      obtain ⟨rfl, -⟩ := readRevision_free stored read
      rfl

theorem publish (sound : StoreSound sizes ref files receipts chronicle)
    (free : files.slots.lookup m = none) (named : bundle.manifest.sequence = m)
    (foreign : bundle.manifest.parent ≠ some m) (accepted : revisionIdAccepted m = true)
    (replaces : m = 1 → files.legacy.isSome →
      FilesFit sizes ref bundle ∧ bundle.manifest.parent = none ∧
        ∀ state, pointerState files = some state → state.currentRevision = 1 →
          checkCurrent sizes ref bundle (receipts 1) = .ok ()) :
    StoreSound sizes ref (files.publish m bundle) receipts chronicle := by
  have readable : ∀ k target, readRevision sizes ref k files = .ok target →
      ∃ target, readRevision sizes ref k (files.publish m bundle) = .ok target := by
    intro k target read
    by_cases same : k = m
    · subst same
      obtain ⟨first, pair, stored, -⟩ := readRevision_free free read
      have fits := (replaces first (by rw [stored]; rfl)).1
      exact ⟨bundle, readRevision_publish named foreign fits⟩
    · exact ⟨target, (readRevision_publish_other same).trans read⟩
  constructor
  case named =>
    intro k stored found
    change (files.slots.insert m bundle).lookup k = _ at found
    by_cases same : k = m
    · subst same
      rw [AList.lookup_insert] at found
      obtain rfl := Option.some.inj found
      exact ⟨named, foreign, accepted⟩
    · rw [AList.lookup_insert_ne same] at found
      exact sound.named k stored found
  case legacy => exact sound.legacy
  case counted => exact sound.counted
  case pointed => exact sound.pointed
  case accepted => exact sound.accepted
  case readable => exact sound.readable
  case descends =>
    refine sound.descends.publish sound.legacy free named foreign ?_
    exact fun first old => ⟨(replaces first old).1, (replaces first old).2.1⟩
  case applied =>
    intro state pointer
    change pointerState files = some state at pointer
    obtain ⟨current, read, applied⟩ := sound.applied state pointer
    by_cases same : state.currentRevision = m
    · rw [same] at read
      obtain ⟨rfl, pair, stored, -⟩ := readRevision_free free read
      obtain ⟨fits, -, still⟩ := replaces rfl (by rw [stored]; rfl)
      refine ⟨bundle, ?_, ?_⟩
      · rw [same]
        exact readRevision_publish named foreign fits
      · rw [same]
        exact still state pointer same
    · exact ⟨current, (readRevision_publish_other same).trans read, applied⟩
  case pending =>
    intro state k pointer waiting
    obtain ⟨different, other, read⟩ := sound.pending state k pointer waiting
    exact ⟨different, readable k other read⟩

/-- A receipt that was missing is none that the current revision needed. -/
theorem record (sound : StoreSound sizes ref files receipts chronicle)
    {receipt : ApplicationReceipt} (missing : receipts n = none) :
    StoreSound sizes ref files (Function.update receipts n (some receipt)) chronicle := by
  refine ⟨sound.named, sound.legacy, sound.counted, sound.pointed, sound.accepted,
    sound.readable, sound.descends, ?_, sound.pending⟩
  intro state pointer
  obtain ⟨current, read, applied⟩ := sound.applied state pointer
  refine ⟨current, read, ?_⟩
  by_cases same : state.currentRevision = n
  · rw [same, missing] at applied
    rw [same, Function.update_self]
    unfold checkCurrent checkApplied at applied
    unfold checkCurrent
    by_cases settled : current.manifest.applyStatus = .applied
    · exact if_pos settled
    · simp only [if_neg settled] at applied
      cases applied
  · rwa [Function.update_of_ne same]

theorem point (sound : StoreSound sizes ref files receipts chronicle)
    (counted : state.revision = chronicle.changes + 1)
    (pointed : earlier.head? = some state.currentRevision)
    (accepted : stateAccepted state = true)
    (readable : sizes.state ref state ≤ maxConfigFileBytes)
    (descends : Descends sizes ref files earlier.head? earlier)
    (applied : ∃ bundle, readRevision sizes ref state.currentRevision files = .ok bundle ∧
      checkCurrent sizes ref bundle (receipts state.currentRevision) = .ok ())
    (pending : ∀ n, state.pendingRevision = some n →
      n ≠ state.currentRevision ∧ ∃ bundle, readRevision sizes ref n files = .ok bundle) :
    StoreSound sizes ref (files.point state) receipts ⟨earlier, chronicle.changes + 1⟩ where
  named := sound.named
  legacy := sound.legacy
  counted := counted
  pointed := pointed
  accepted other pointer := by
    obtain rfl := Option.some.inj pointer
    exact accepted
  readable other stored := by
    obtain rfl := Option.some.inj stored
    exact readable
  descends := descends.point
  applied other pointer := by
    obtain rfl := Option.some.inj pointer
    exact applied
  pending other n pointer waiting := by
    obtain rfl := Option.some.inj pointer
    exact pending n waiting

end StoreSound

end

section

variable {Agent : Type} {sizes : ConfigFileSizes} {ref : InstanceRef}
  {disk later : SettingsDisk Agent} {chronicle : Chronicle}
  {current : Option CurrentInstanceConfig}

theorem StoreSound.reads
    (sound : StoreSound sizes ref (disk.files ref) (disk.receipts ref) chronicle) :
    ∃ current, readCurrent sizes ref disk = .ok current := by
  unfold readCurrent
  cases stored : (disk.files ref).state with
  | none => exact ⟨_, rfl⟩
  | some state =>
      have pointer : pointerState (disk.files ref) = some state := by
        unfold pointerState
        rw [stored]
        rfl
      obtain ⟨bundle, read, applied⟩ := sound.applied state pointer
      have small : readBytes "state.json" (sizes.state ref state) = .ok () :=
        ensure_of (sound.readable state stored)
      have valid : validatePersisted state = .ok () := ensure_of (sound.accepted state pointer)
      simp only [small, valid, read, applied, ok_bind]
      cases waiting : state.pendingRevision with
      | none => exact ⟨_, rfl⟩
      | some n =>
          obtain ⟨different, other, found⟩ := sound.pending state n pointer waiting
          simp only [ensure_of different, found, ok_bind]
          exact ⟨_, rfl⟩

theorem readCurrent_pointer (found : readCurrent sizes ref disk = .ok current) :
    pointerState (disk.files ref) = current.map CurrentInstanceConfig.state := by
  have read := readCurrent_settings found
  cases current with
  | none => exact readCurrent_none read
  | some now => exact readCurrent_some read

/-- The current bundle carries the number that the state points to. -/
theorem StoreSound.current_numbered
    (sound : StoreSound sizes ref (disk.files ref) (disk.receipts ref) chronicle)
    {now : CurrentInstanceConfig} (found : readCurrent sizes ref disk = .ok (some now)) :
    now.bundle.manifest.sequence = now.state.currentRevision := by
  unfold readCurrent at found
  cases stored : (disk.files ref).state with
  | none =>
      rw [stored] at found
      obtain ⟨legacy, old, same⟩ := Option.map_eq_some_iff.mp (Except.ok.inj found)
      subst same
      have fits := sound.legacy legacy old
      exact fits.numbered.trans fits.current.symm
  | some state =>
      rw [stored] at found
      obtain ⟨_, -, found⟩ := bind_eq_ok.mp found
      obtain ⟨_, -, found⟩ := bind_eq_ok.mp found
      obtain ⟨bundle, read, found⟩ := bind_eq_ok.mp found
      obtain ⟨_, -, found⟩ := bind_eq_ok.mp found
      have numbered :=
        readInstanceRevision_numbered sound.numbered (readRevision_eq_ok.mp read).1
      cases waiting : state.pendingRevision with
      | none =>
          rw [waiting] at found
          obtain rfl := Option.some.inj (Except.ok.inj found)
          exact numbered
      | some n =>
          rw [waiting] at found
          obtain ⟨_, -, found⟩ := bind_eq_ok.mp found
          obtain ⟨_, -, found⟩ := bind_eq_ok.mp found
          obtain rfl := Option.some.inj (Except.ok.inj found)
          exact numbered

theorem StoreSound.intact
    (sound : StoreSound sizes ref (disk.files ref) (disk.receipts ref) chronicle) :
    Intact sizes ref disk chronicle := by
  obtain ⟨current, found⟩ := sound.reads
  have pointer := readCurrent_pointer found
  refine ⟨current, found, ?_, ?_, ?_⟩
  · rw [readCurrent_number (readCurrent_settings found)]
    exact sound.counted
  · rintro now rfl
    obtain ⟨bundle, read, checked⟩ := sound.applied now.state pointer
    refine ⟨⟨bundle, read, checkCurrent_applied checked⟩, ?_⟩
    intro waiting
    exact (sound.pending now.state _ pointer waiting).1 rfl
  · have pointed := sound.pointed
    rw [pointer, Option.map_map] at pointed
    have descends := sound.descends
    rw [pointed] at descends
    exact descends

/-- The state that `set_current` writes passes its contract if its time does. -/
theorem StoreSound.moved_accepted
    (sound : StoreSound sizes ref (disk.files ref) (disk.receipts ref) chronicle)
    {target : InstanceBundle} {sequence expected : Nat} {updatedAt : Timestamp}
    (found : readCurrent sizes ref disk = .ok current)
    (read : readRevision sizes ref sequence (disk.files ref) = .ok target)
    (stamped : isTimestamp updatedAt = true) :
    stateAccepted (movedState sequence expected updatedAt current) = true := by
  have created : isTimestamp (current.elim updatedAt fun now => now.state.createdAt) = true := by
    cases current with
    | none => exact stamped
    | some now =>
        have accepted := sound.accepted now.state (readCurrent_pointer found)
        unfold stateAccepted at accepted
        simp only [Bool.and_eq_true] at accepted
        exact accepted.1.2
  simp only [stateAccepted, movedState, sound.idAccepted read, created, stamped, Option.all_none,
    Nat.le_add_left, decide_true, Bool.and_self]

/-- The state that a call writes is another one than before. -/
theorem state_changed {state : InstanceConfigState}
    (counted : state.revision = settledNumber (disk.files ref) + 1) :
    some state ≠ (disk.files ref).state := by
  intro same
  unfold settledNumber pointerState at counted
  rw [← same] at counted
  exact absurd counted (Nat.ne_of_lt (Nat.lt_succ_self _))

/-! ## What a call keeps -/

/-- The files and receipts of other instances are as they were. -/
def Elsewhere (ref : InstanceRef) (disk later : SettingsDisk Agent) : Prop :=
  ∀ other, other ≠ ref →
    later.files other = disk.files other ∧ later.receipts other = disk.receipts other

namespace Elsewhere

theorem refl : Elsewhere ref disk disk := fun _ _ => ⟨rfl, rfl⟩

theorem revision {bundle : InstanceBundle} :
    Elsewhere ref disk (Disk.apply disk (SettingsWrite.revision ref bundle : SettingsWrite Agent)) :=
  fun _ different => ⟨Function.update_of_ne different _ _, rfl⟩

theorem receipt {receipt : ApplicationReceipt} :
    Elsewhere ref disk (Disk.apply disk (SettingsWrite.receipt ref receipt : SettingsWrite Agent)) :=
  fun _ different => ⟨rfl, Function.update_of_ne different _ _⟩

theorem point {middle : SettingsDisk Agent} {state : InstanceConfigState}
    (elsewhere : Elsewhere ref disk middle) :
    Elsewhere ref disk (Disk.apply middle (SettingsWrite.point ref state : SettingsWrite Agent)) :=
  fun other different =>
    ⟨(Function.update_of_ne different _ _).trans (elsewhere other different).1,
      (elsewhere other different).2⟩

end Elsewhere

/-- The disk after a call that returned, against the chronicle with the call in it. -/
def Kept (sizes : ConfigFileSizes) (ref : InstanceRef) (call : RevisionCall)
    (chronicle : Chronicle) (disk later : SettingsDisk Agent) : Prop :=
  Elsewhere ref disk later ∧ StoreSound sizes ref (later.files ref) (later.receipts ref)
    (chronicle.note call true (disk.files ref) (later.files ref))

section

variable {call : RevisionCall} {state : InstanceConfigState}

theorem note_kept {files : InstanceConfigFiles} {returned : Bool}
    (plain : ∀ sequence expected updatedAt receipt,
      call ≠ .setCurrent sequence expected updatedAt receipt ∨ returned = false)
    {later : InstanceConfigFiles} (same : later.state = files.state) :
    chronicle.note call returned files later = chronicle := by
  unfold Chronicle.note
  rw [if_pos same]
  cases call with
  | setCurrent sequence expected updatedAt receipt =>
      obtain different | rfl := plain sequence expected updatedAt receipt
      · exact absurd rfl different
      · rfl
  | writeRevision bundle => rfl
  | setPending sequence expected updatedAt => rfl
  | clearPending sequence expected updatedAt => rfl
  | recordApplication sequence receipt => rfl

theorem note_changed {files : InstanceConfigFiles} {returned : Bool}
    (changed : some state ≠ files.state) :
    chronicle.note call returned files (files.point state) =
      ⟨(chronicle.note call returned files files).currents, chronicle.changes + 1⟩ :=
  congrArg (Chronicle.mk _) (if_neg changed)

/-- A call that returned without a write, or a receipt or a bundle that was written. -/
theorem Kept.quiet (plain : ∀ sequence expected updatedAt receipt,
      call ≠ .setCurrent sequence expected updatedAt receipt)
    (elsewhere : Elsewhere ref disk later)
    (same : (later.files ref).state = (disk.files ref).state)
    (sound : StoreSound sizes ref (later.files ref) (later.receipts ref) chronicle) :
    Kept sizes ref call chronicle disk later := by
  refine ⟨elsewhere, ?_⟩
  rw [note_kept (fun sequence expected updatedAt receipt =>
    .inl (plain sequence expected updatedAt receipt)) same]
  exact sound

/-- The pointer stays while the pending revision changes. -/
theorem StoreSound.repend
    (sound : StoreSound sizes ref (disk.files ref) (disk.receipts ref) chronicle)
    {now : CurrentInstanceConfig} (found : readCurrent sizes ref disk = .ok (some now))
    {expected : Nat} (fresh : now.state.revision = expected) (pending : Option Nat)
    (updatedAt : Timestamp)
    (accepted : stateAccepted (repended now pending expected updatedAt) = true)
    (small : sizes.state ref (repended now pending expected updatedAt) ≤ maxConfigFileBytes)
    (readable : ∀ n, pending = some n → n ≠ now.state.currentRevision ∧
      ∃ bundle, readRevision sizes ref n (disk.files ref) = .ok bundle) :
    some (repended now pending expected updatedAt) ≠ (disk.files ref).state ∧
      StoreSound sizes ref ((disk.files ref).point (repended now pending expected updatedAt))
        (disk.receipts ref) ⟨chronicle.currents, chronicle.changes + 1⟩ := by
  have number : settledNumber (disk.files ref) = expected :=
    (readCurrent_settled (readCurrent_settings found)).trans fresh
  have pointer := readCurrent_pointer found
  refine ⟨state_changed (by rw [number]; rfl), ?_⟩
  refine sound.point ?_ ?_ accepted small sound.descends ?_ readable
  · rw [← sound.counted, number]
    rfl
  · rw [sound.pointed, pointer]
    rfl
  · exact sound.applied now.state pointer

theorem Leaves.mono {script : SettingsScript Agent Unit} {returns weaker : SettingsDisk Agent → Prop}
    (leaves : Leaves script disk returns) (weaken : ∀ later, returns later → weaker later) :
    Leaves script disk weaker :=
  Meets.mono leaves (fun _ => id) (fun _ => weaken) fun _ _ => id

theorem files_point {middle : SettingsDisk Agent} :
    (Disk.apply middle (SettingsWrite.point ref state : SettingsWrite Agent)).files ref =
      (middle.files ref).point state := Function.update_self ..

theorem writeRevision_keeps {bundle : InstanceBundle}
    (sound : StoreSound sizes ref (disk.files ref) (disk.receipts ref) chronicle)
    (orderly : Orderly sizes ref disk (.writeRevision bundle)) :
    Leaves (writeRevision sizes ref bundle) disk
      (Kept sizes ref (.writeRevision bundle) chronicle disk) := by
  refine writeRevision_leaves.mono ?_
  intro later change
  obtain rfl | ⟨accepted, foreign, free, rfl⟩ := change
  · exact Kept.quiet (fun _ _ _ _ => by simp) Elsewhere.refl rfl sound
  · have written : (Disk.apply disk (SettingsWrite.revision ref bundle)).files ref =
        (disk.files ref).publish bundle.manifest.sequence bundle := Function.update_self ..
    have named : revisionIdAccepted bundle.manifest.sequence = true := by
      have checked := validateContract_eq_ok.mp accepted
      simp only [Bool.and_eq_true] at checked
      exact checked.1
    refine Kept.quiet (fun _ _ _ _ => by simp) Elsewhere.revision ?_ ?_
    · rw [written]
      rfl
    · rw [written]
      refine sound.publish free rfl foreign named ?_
      intro first old
      rw [first] at foreign free
      exact orderly accepted first foreign free old

theorem recordApplication_keeps {sequence : Nat} {receipt : ApplicationReceipt}
    (sound : StoreSound sizes ref (disk.files ref) (disk.receipts ref) chronicle) :
    Leaves (recordApplication sizes ref sequence receipt) disk
      (Kept sizes ref (.recordApplication sequence receipt) chronicle disk) := by
  refine Leaves.mono recordApplication_leaves ?_
  rintro later ⟨-, change⟩
  obtain ⟨-, -, rfl⟩ | ⟨missing, rfl⟩ := change
  · exact Kept.quiet (fun _ _ _ _ => by simp) Elsewhere.refl rfl sound
  · refine Kept.quiet (fun _ _ _ _ => by simp) Elsewhere.receipt rfl ?_
    have written : (Disk.apply disk (SettingsWrite.receipt ref receipt)).receipts ref =
        Function.update (disk.receipts ref) receipt.revision (some receipt) :=
      Function.update_self ..
    rw [written]
    exact sound.record missing

theorem setPending_keeps {sequence expected : Nat} {updatedAt : Timestamp}
    (sound : StoreSound sizes ref (disk.files ref) (disk.receipts ref) chronicle)
    (orderly : Orderly sizes ref disk (.setPending sequence expected updatedAt)) :
    Leaves (setPending sizes ref sequence expected updatedAt) disk
      (Kept sizes ref (.setPending sequence expected updatedAt) chronicle disk) := by
  refine setPending_leaves.mono ?_
  intro later change
  obtain rfl | ⟨now, target, found, fresh, free, read, accepted, rfl⟩ := change
  · exact Kept.quiet (fun _ _ _ _ => by simp) Elsewhere.refl rfl sound
  · refine ⟨Elsewhere.refl.point, ?_⟩
    obtain ⟨different, small⟩ := orderly now found fresh free
    have readable : ∀ n, some sequence = some n → n ≠ now.state.currentRevision ∧
        ∃ bundle, readRevision sizes ref n (disk.files ref) = .ok bundle := by
      intro n waiting
      obtain rfl := Option.some.inj waiting
      exact ⟨different, target, read⟩
    obtain ⟨changed, kept⟩ :=
      sound.repend found fresh (some sequence) updatedAt accepted small readable
    rw [files_point, note_changed changed]
    exact kept

theorem clearPending_keeps {sequence expected : Nat} {updatedAt : Timestamp}
    (sound : StoreSound sizes ref (disk.files ref) (disk.receipts ref) chronicle)
    (orderly : Orderly sizes ref disk (.clearPending sequence expected updatedAt)) :
    Leaves (clearPending sizes ref sequence expected updatedAt) disk
      (Kept sizes ref (.clearPending sequence expected updatedAt) chronicle disk) := by
  refine clearPending_leaves.mono ?_
  intro later change
  obtain rfl | ⟨now, found, fresh, waiting, accepted, rfl⟩ := change
  · exact Kept.quiet (fun _ _ _ _ => by simp) Elsewhere.refl rfl sound
  · refine ⟨Elsewhere.refl.point, ?_⟩
    obtain ⟨changed, kept⟩ := sound.repend found fresh none updatedAt accepted
      (orderly now found fresh waiting) (by simp)
    rw [files_point, note_changed changed]
    exact kept

/-- Recording the receipt of the revision that becomes current. -/
theorem Receipted.records {sequence : Nat} {target : InstanceBundle}
    {receipt : Option ApplicationReceipt}
    (sound : StoreSound sizes ref (disk.files ref) (disk.receipts ref) chronicle)
    (small : ∀ document, receipt = some document → disk.receipts ref sequence = none →
      validateReceipt target document = .ok () → target.manifest.applyStatus ≠ .applied →
        sizes.receipt ref document ≤ maxConfigFileBytes)
    (receipted : Receipted sizes ref sequence target disk receipt later) :
    Elsewhere ref disk later ∧ later.files = disk.files ∧
      StoreSound sizes ref (later.files ref) (later.receipts ref) chronicle ∧
      checkCurrent sizes ref target (later.receipts ref sequence) = .ok () := by
  cases receipt with
  | none =>
      obtain ⟨settled, rfl⟩ := receipted
      exact ⟨Elsewhere.refl, rfl, sound, checkCurrent_settled settled⟩
  | some receipt =>
      obtain ⟨rfl, valid, ⟨stored, fits, rfl⟩ | ⟨missing, rfl⟩⟩ := receipted
      · refine ⟨Elsewhere.refl, rfl, sound, ?_⟩
        rw [stored]
        exact checkCurrent_receipt valid fun _ => fits
      · have written : (Disk.apply disk (SettingsWrite.receipt ref receipt)).receipts ref =
            Function.update (disk.receipts ref) receipt.revision (some receipt) :=
          Function.update_self ..
        refine ⟨Elsewhere.receipt, rfl, ?_, ?_⟩
        · rw [written]
          exact sound.record missing
        · rw [written, Function.update_self]
          exact checkCurrent_receipt valid (small receipt rfl missing valid)

theorem setCurrent_keeps {sequence expected : Nat} {updatedAt : Timestamp}
    {receipt : Option ApplicationReceipt}
    (sound : StoreSound sizes ref (disk.files ref) (disk.receipts ref) chronicle)
    (orderly : Orderly sizes ref disk (.setCurrent sequence expected updatedAt receipt)) :
    Leaves ((RevisionCall.setCurrent sequence expected updatedAt receipt).script sizes ref) disk
      (Kept sizes ref (.setCurrent sequence expected updatedAt receipt) chronicle disk) := by
  refine (setCurrent_leaves sound.numbered (fun _ _ => sound.moved_accepted) orderly).mono ?_
  rintro later ⟨current, target, middle, found, number, read, parented, accepted, receipted, rfl⟩
  obtain ⟨small, fits⟩ := orderly current target found number read
  obtain ⟨elsewhere, files, kept, applied⟩ := receipted.records sound
    fun document given missing valid => (fits document given missing valid).2.2
  have settled := readCurrent_number (readCurrent_settings found)
  have counted : expected = chronicle.changes := by
    rw [← number, settled]
    exact sound.counted
  -- The parent of the new current revision is the one that was current.
  have headed : target.manifest.parent = chronicle.currents.head? := by
    rw [parented, sound.pointed, readCurrent_pointer found, Option.map_map]
    cases current with
    | none => rfl
    | some now => exact congrArg some (sound.current_numbered found)
  have changed : some (movedState sequence expected updatedAt current) ≠
      (disk.files ref).state := by
    refine state_changed ?_
    rw [← settled, number]
    rfl
  refine ⟨elsewhere.point, ?_⟩
  rw [files_point, files, note_changed changed]
  rw [files] at kept
  refine kept.point (congrArg (· + 1) counted) rfl accepted small ?_ ⟨target, read, applied⟩ ?_
  · refine .next read ?_
    rw [headed]
    exact sound.descends
  · intro n waiting
    cases waiting

/-- What holds of an instance holds after an orderly call of it, and one that raises changes
    nothing. -/
theorem call_keeps (sound : StoreSound sizes ref (disk.files ref) (disk.receipts ref) chronicle)
    (orderly : Orderly sizes ref disk call) :
    Leaves (call.script sizes ref) disk (Kept sizes ref call chronicle disk) := by
  cases call with
  | writeRevision bundle => exact writeRevision_keeps sound orderly
  | setCurrent sequence expected updatedAt receipt => exact setCurrent_keeps sound orderly
  | setPending sequence expected updatedAt => exact setPending_keeps sound orderly
  | clearPending sequence expected updatedAt => exact clearPending_keeps sound orderly
  | recordApplication sequence receipt => exact recordApplication_keeps sound

end

end

/-! ## Runs of the store -/

section

variable {Agent : Type} {sizes : ConfigFileSizes}

/-- What holds of every instance. -/
def RunSound (sizes : ConfigFileSizes) (run : RevisionRun Agent) : Prop :=
  ∀ ref, StoreSound sizes ref (run.disk.files ref) (run.disk.receipts ref) (run.chronicle ref)

theorem Fresh.sound {disk : SettingsDisk Agent} {ref : InstanceRef} (fresh : Fresh disk ref) :
    StoreSound sizes ref (disk.files ref) (disk.receipts ref)
      (Chronicle.start (disk.files ref)) := by
  have unpublished : ∀ n, (disk.files ref).slots.lookup n = none := by
    intro n
    rw [fresh.slots, AList.lookup_empty]
  have pointer : pointerState (disk.files ref) = (disk.files ref).legacy.map Prod.fst := by
    unfold pointerState
    rw [fresh.state]
    rfl
  have readable : ∀ legacy, (disk.files ref).legacy = some legacy →
      readRevision sizes ref 1 (disk.files ref) = .ok legacy.2 := by
    intro legacy stored
    unfold readRevision readInstanceRevision
    rw [unpublished, if_pos rfl, stored]
  unfold Chronicle.start
  constructor
  case named =>
    intro n bundle stored
    rw [unpublished] at stored
    cases stored
  case legacy => exact fresh.legacy
  case counted =>
    unfold settledNumber
    rw [pointer]
    cases stored : (disk.files ref).legacy with
    | none => rfl
    | some legacy => exact (fresh.legacy legacy stored).counted
  case pointed =>
    rw [pointer]
    cases stored : (disk.files ref).legacy with
    | none => rfl
    | some legacy => exact congrArg some (fresh.legacy legacy stored).current.symm
  case accepted =>
    intro state current
    rw [pointer] at current
    obtain ⟨legacy, stored, rfl⟩ := Option.map_eq_some_iff.mp current
    exact (fresh.legacy legacy stored).accepted
  case readable =>
    intro state stored
    rw [fresh.state] at stored
    cases stored
  case descends =>
    cases stored : (disk.files ref).legacy with
    | none => exact .first
    | some legacy =>
        refine .next (readable legacy stored) ?_
        rw [(fresh.legacy legacy stored).orphan]
        exact .first
  case applied =>
    intro state current
    rw [pointer] at current
    obtain ⟨legacy, stored, rfl⟩ := Option.map_eq_some_iff.mp current
    have fits := fresh.legacy legacy stored
    rw [fits.current]
    exact ⟨legacy.2, readable legacy stored, checkCurrent_settled fits.applied⟩
  case pending =>
    intro state n current waiting
    rw [pointer] at current
    obtain ⟨legacy, stored, rfl⟩ := Option.map_eq_some_iff.mp current
    rw [(fresh.legacy legacy stored).settled] at waiting
    cases waiting

/-- An orderly call of one instance keeps what holds of all of them. -/
theorem RunSound.step {run : RevisionRun Agent} (sound : RunSound sizes run) {step : RevisionStep}
    (orderly : Orderly sizes step.owner run.disk step.call) :
    RunSound sizes (settle (revisionStep sizes) run step) := by
  have leaves := call_keeps (sound step.owner) orderly
  intro ref
  change StoreSound sizes ref (((step.call.script sizes step.owner).after run.disk).files ref)
    (((step.call.script sizes step.owner).after run.disk).receipts ref)
    (Function.update run.chronicle step.owner _ ref)
  cases ended : (step.call.script sizes step.owner run.disk).outcome with
  | error error =>
      have same := Meets.of_error leaves ended
      rw [same]
      by_cases mine : ref = step.owner
      · subst mine
        rw [Function.update_self]
        change StoreSound _ _ _ _ (Chronicle.note step.call false _ _ _)
        rw [note_kept (fun _ _ _ _ => .inr rfl) rfl]
        exact sound step.owner
      · rw [Function.update_of_ne mine]
        exact sound ref
  | ok value =>
      obtain ⟨elsewhere, kept⟩ := Meets.of_ok leaves ended
      by_cases mine : ref = step.owner
      · subst mine
        rw [Function.update_self]
        exact kept
      · obtain ⟨files, receipts⟩ := elsewhere ref mine
        rw [Function.update_of_ne mine, files, receipts]
        exact sound ref

/-- Where every call is orderly, the revisions of all instances are intact all the time, and a call
    that raises leaves the disk as it was. -/
theorem revision_calls_intact {start : SettingsDisk Agent} (fresh : ∀ ref, Fresh start ref)
    {steps : List RevisionStep}
    (orderly : Along (revisionStep sizes)
      (fun run step => Orderly sizes step.owner run.disk step.call) (RevisionRun.start start) steps) (before after : List RevisionStep)
    (split : steps = before ++ after) :
    (∀ ref, Intact sizes ref (runFrom (revisionStep sizes) (RevisionRun.start start) before).disk
        ((runFrom (revisionStep sizes) (RevisionRun.start start) before).chronicle ref)) ∧
      ∀ step rest error, after = step :: rest →
        (step.call.script sizes step.owner
            (runFrom (revisionStep sizes) (RevisionRun.start start) before).disk).outcome =
          .error error →
        (step.call.script sizes step.owner).after
            (runFrom (revisionStep sizes) (RevisionRun.start start) before).disk =
          (runFrom (revisionStep sizes) (RevisionRun.start start) before).disk := by
  subst split
  obtain ⟨earlier, later⟩ := along_append.mp orderly
  have sound : RunSound sizes (runFrom (revisionStep sizes) (RevisionRun.start start) before) := by
    refine along_induction (motive := fun _ run => RunSound sizes run)
      (fun ref => (fresh ref).sound) ?_ earlier
    exact fun _ call _ meets sound => sound.step meets
  refine ⟨fun ref => (sound ref).intact, ?_⟩
  rintro step rest error rfl raised
  exact Meets.of_error (call_keeps (sound step.owner) later.1) raised

end

/-! A run, and what becomes of runs where a call is not orderly. -/

/-- Files of a few kilobytes. -/
def smallSizes : ConfigFileSizes where
  manifest _ _ := 2048
  runtime _ := 512
  modelConfig _ := 1024
  state _ _ := 320
  receipt _ _ := 384

theorem smallSizes_state (ref : InstanceRef) (state : InstanceConfigState) :
    smallSizes.state ref state ≤ maxConfigFileBytes := by
  change 320 ≤ maxConfigFileBytes
  decide

/-- An instance without any revision. -/
def emptySettings : SettingsDisk Boundary :=
  { runningSettings with files := fun _ => { legacy := none, state := none, slots := ∅ } }

/-- An instance of the 1.0 format. -/
def legacySettings : SettingsDisk Boundary :=
  { runningSettings with
    files := fun _ =>
      { legacy := some (⟨1, none, 1, "2026-08-25T03:00:01.000000Z", "2026-08-25T03:00:01.000000Z"⟩,
          sampleBundle)
        state := none
        slots := ∅ } }

/-- Another revision after the first. -/
def successorBundle (sequence : Nat) : InstanceBundle :=
  { sampleBundle with
    manifest := { sampleBundle.manifest with sequence := sequence, parent := some 1 } }

def successorReceipt (sequence : Nat) : ApplicationReceipt where
  revision := sequence
  branchId := "branch_2"
  checkpointId := "checkpoint_2"
  fromCheckpoint := some "checkpoint_1"
  effectiveFromState := (successorBundle sequence).manifest.effectiveFromState
  configHash := (successorBundle sequence).configHash
  appliedAt := "2026-08-25T03:05:00.000000Z"

/-- The first revision becomes current, and the second one pending. -/
def firstRevisions : List RevisionStep :=
  [⟨sampleRef, .writeRevision sampleBundle⟩,
    ⟨sampleRef, .setCurrent 1 0 "2026-08-25T03:01:00.000000Z" none⟩,
    ⟨sampleRef, .writeRevision (successorBundle 2)⟩,
    ⟨sampleRef, .setPending 2 1 "2026-08-25T03:02:00.000000Z"⟩]

/-- The second revision becomes current, and the third one has the first as its parent. -/
def secondRevisions : List RevisionStep :=
  firstRevisions ++
    [⟨sampleRef, .setCurrent 2 2 "2026-08-25T03:03:00.000000Z" (some (successorReceipt 2))⟩,
      ⟨sampleRef, .writeRevision (successorBundle 3)⟩]

/-- The first revision of the 1.0 format is current, and another one takes its place. -/
def replacedRevisions : List RevisionStep :=
  [⟨sampleRef, .writeRevision (successorBundle 2)⟩,
    ⟨sampleRef, .setPending 2 1 "2026-08-25T03:02:00.000000Z"⟩,
    ⟨sampleRef, .writeRevision { sampleBundle with
      manifest := { sampleBundle.manifest with applyStatus := .failed } }⟩]

abbrev smallRun (disk : SettingsDisk Boundary) (steps : List RevisionStep) :
    RevisionRun Boundary :=
  runFrom (revisionStep smallSizes) (RevisionRun.start disk) steps

theorem emptySettings_fresh (ref : InstanceRef) : Fresh emptySettings ref where
  state := rfl
  slots := rfl
  receipts _ := rfl
  legacy _ stored := by cases stored

theorem legacySettings_fresh (ref : InstanceRef) : Fresh legacySettings ref where
  state := rfl
  slots := rfl
  receipts _ := rfl
  legacy _ stored := by
    obtain rfl := Option.some.inj stored
    exact ⟨rfl, rfl, rfl, by decide +kernel, by decide +kernel, by decide +kernel,
      by decide +kernel⟩

theorem firstRevisions_orderly :
    Along (revisionStep smallSizes)
      (fun run step => Orderly smallSizes step.owner run.disk step.call) (RevisionRun.start emptySettings) firstRevisions := by
  refine ⟨?_, ?_, ?_, ?_, trivial⟩
  · intro _ _ _ _ old
    cases old
  · intro _ _ _ _ _
    refine ⟨smallSizes_state _ _, ?_⟩
    intro _ receipt
    cases receipt
  · intro _ first
    have second : (successorBundle 2).manifest.sequence = 2 := rfl
    cases second.symm.trans first
  · intro now found _ _
    have pointer := readCurrent_pointer found
    have current : (pointerState ((smallRun emptySettings (firstRevisions.take 3)).disk.files
        sampleRef)).map InstanceConfigState.currentRevision = some 1 := by
      decide +kernel
    have one : now.state.currentRevision = 1 := by
      refine Option.some.inj (Eq.trans ?_ current)
      exact (congrArg (Option.map InstanceConfigState.currentRevision) pointer).symm
    rw [one]
    exact ⟨by decide, smallSizes_state _ _⟩

/-- The second revision waits behind the first. -/
theorem revision_calls_intact_pending :
    Intact smallSizes sampleRef (smallRun emptySettings firstRevisions).disk ⟨[1], 2⟩ := by
  have intact := (revision_calls_intact emptySettings_fresh firstRevisions_orderly
    firstRevisions [] rfl).1 sampleRef
  have chronicle : (smallRun emptySettings firstRevisions).chronicle sampleRef = ⟨[1], 2⟩ := by
    decide +kernel
  rwa [chronicle] at intact

/-- The current revision can be made pending, the receipt of a stale call and of one with a
    malformed time stays, and a bundle that is not applied can take the place of the current one of
    the 1.0 format. -/
theorem unchecked_revision_calls :
    (∀ ref, Fresh emptySettings ref) ∧ (∀ ref, Fresh legacySettings ref) ∧
    readCurrent smallSizes sampleRef (smallRun emptySettings (firstRevisions.take 2 ++
          [⟨sampleRef, .setPending 1 1 "2026-08-25T03:02:00.000000Z"⟩])).disk =
      .error (configIntegrity "The pending instance revision is already current.") ∧
    (let disk := (smallRun emptySettings secondRevisions).disk
      let call := RevisionCall.setCurrent 3 3 "2026-08-25T03:04:00.000000Z"
        (some (successorReceipt 3))
      (call.script smallSizes sampleRef disk).outcome.isOk = false ∧
        disk.receipts sampleRef 3 = none ∧
        ((call.script smallSizes sampleRef).after disk).receipts sampleRef 3 =
          some (successorReceipt 3)) ∧
    (let disk := (smallRun emptySettings firstRevisions).disk
      let call := RevisionCall.setCurrent 2 2 "soon" (some (successorReceipt 2))
      (call.script smallSizes sampleRef disk).outcome.isOk = false ∧
        disk.receipts sampleRef 2 = none ∧
        ((call.script smallSizes sampleRef).after disk).receipts sampleRef 2 =
          some (successorReceipt 2)) ∧
    readCurrent smallSizes sampleRef (smallRun legacySettings replacedRevisions).disk =
      .error (configIntegrity "The active instance configuration revision is not applied.") := by
  refine ⟨emptySettings_fresh, legacySettings_fresh, ?_⟩
  decide +kernel

end DesignHarness
