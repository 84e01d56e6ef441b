import DesignHarness.Services.RuntimeSettingsHistory

/-!
# The revision store of an instance

`InstanceConfigRevisionStore` (`instance_config_revisions.py`) as it is called from outside, with
any argument: a file above the limit of the reader cannot be read, and a state is checked against
its contract before it is written.  The settings service calls it with small files and the time of
its clock.

How many bytes the serialisers make of a record is a parameter (`ConfigFileSizes`).
-/

namespace DesignHarness

open Library

/-- The sizes of the files of an instance, in bytes. -/
structure ConfigFileSizes where
  manifest : InstanceRef → InstanceManifest → Nat
  runtime : EffectiveRuntime → Nat
  modelConfig : ModelDocument → Nat
  state : InstanceRef → InstanceConfigState → Nat
  receipt : InstanceRef → ApplicationReceipt → Nat

/-- `MAX_CONFIG_FILE_BYTES` (`config_revision_io.py:23`). -/
def maxConfigFileBytes : Nat := 4 * 1024 * 1024

namespace InstanceRevisionStore

open RuntimeSettingsService (checkApplied validateReceipt movedState stateChanged noBaseline
  anotherPending)

/-- `read_regular_bytes` of a file that is there (`config_revision_io.py:174-188`). -/
def readBytes (file : String) (size : Nat) : Outcome Unit :=
  ensure (size ≤ maxConfigFileBytes) (missingConfigFile file)

/-- What `instance-runtime-config-state-v2.0.schema.json` accepts. -/
def stateAccepted (state : InstanceConfigState) : Bool :=
  revisionIdAccepted state.currentRevision && state.pendingRevision.all revisionIdAccepted &&
    decide (1 ≤ state.revision) && isTimestamp state.createdAt && isTimestamp state.updatedAt

def validateState (state : InstanceConfigState) : Outcome Unit :=
  validateContract "instance-runtime-config-state" (stateAccepted state)

/-- `_validate_persisted` of a state. -/
def validatePersisted (state : InstanceConfigState) : Outcome Unit :=
  ensure (stateAccepted state = true) (.harness ⟨.configIntegrityFailed,
    "A persisted instance configuration document failed contract validation.",
    [("schema", .text "instance-runtime-config-state")]⟩)

section

variable {Agent : Type} (sizes : ConfigFileSizes) (ref : InstanceRef)

/-- `read_revision` (`instance_config_revisions.py:361-391`). -/
def readRevision (sequence : Nat) (files : InstanceConfigFiles) : Outcome InstanceBundle :=
  match files.slots.lookup sequence with
  | none => readInstanceRevision sequence files
  | some stored => do
      readBytes "manifest.json" (sizes.manifest ref stored.manifest)
      let bundle ← readInstanceRevision sequence files
      readBytes "runtime.yaml" (sizes.runtime bundle.runtime)
      readBytes "model_config.yaml" (sizes.modelConfig bundle.modelConfig)
      return bundle

/-- The name of the file of a receipt. -/
def receiptFile (sequence : Nat) : String := instanceRevisionId sequence ++ ".json"

/-- `read_application` (`instance_config_revisions.py:321-333`), where the current revision is not
    applied by its status. -/
def checkCurrent (bundle : InstanceBundle) (receipt : Option ApplicationReceipt) :
    Outcome Unit :=
  match receipt with
  | none => checkApplied bundle none
  | some receipt =>
      if bundle.manifest.applyStatus = .applied then
        .ok ()
      else do
        readBytes (receiptFile receipt.revision) (sizes.receipt ref receipt)
        validateReceipt bundle receipt

/-- `read_current` (`instance_config_revisions.py:335-359`). -/
def readCurrent (disk : SettingsDisk Agent) : Outcome (Option CurrentInstanceConfig) :=
  match (disk.files ref).state with
  | none => .ok ((disk.files ref).legacy.map fun legacy => ⟨legacy.1, legacy.2, true⟩)
  | some state => do
      readBytes "state.json" (sizes.state ref state)
      validatePersisted state
      let bundle ← readRevision sizes ref state.currentRevision (disk.files ref)
      checkCurrent sizes ref bundle (disk.receipts ref state.currentRevision)
      match state.pendingRevision with
      | none => return some ⟨state, bundle, false⟩
      | some pending => do
          ensure (pending ≠ state.currentRevision)
            (configIntegrity "The pending instance revision is already current.")
          let _ ← readRevision sizes ref pending (disk.files ref)
          return some ⟨state, bundle, false⟩

/-- `_verify_existing_directory` (`config_revision_io.py:271-291`).  The manifest has the hashes of
    the other files. -/
def verifyExisting (stored bundle : InstanceBundle) : Outcome Unit := do
  readBytes "manifest.json" (sizes.manifest ref stored.manifest)
  ensure (stored = bundle) (instanceRevisionReused bundle.manifest.sequence)
  readBytes "runtime.yaml" (sizes.runtime stored.runtime)
  readBytes "model_config.yaml" (sizes.modelConfig stored.modelConfig)

/-- `write_revision` (`instance_config_revisions.py:52-101`). -/
def writeRevision (bundle : InstanceBundle) : SettingsScript Agent Unit := do
  Script.lift (validateManifest bundle.manifest)
  Script.lift (ensure (bundle.manifest.parent ≠ some bundle.manifest.sequence)
    (.harness ⟨.validationError,
      "A runtime configuration revision cannot be its own parent.", []⟩))
  match ← Script.read fun disk : SettingsDisk Agent =>
      (disk.files ref).slots.lookup bundle.manifest.sequence with
  | some stored => Script.lift (verifyExisting sizes ref stored bundle)
  | none => Script.write (.revision ref bundle)

/-- `record_application` (`instance_config_revisions.py:280-319`). -/
def recordApplication (sequence : Nat) (receipt : ApplicationReceipt) :
    SettingsScript Agent Unit := do
  let target ← Script.read fun disk : SettingsDisk Agent =>
    readRevision sizes ref sequence (disk.files ref)
  let target ← Script.lift target
  Script.lift (validateReceipt target receipt)
  match ← Script.read fun disk : SettingsDisk Agent => disk.receipts ref receipt.revision with
  | some stored => do
      Script.lift (readBytes (receiptFile receipt.revision) (sizes.receipt ref stored))
      Script.lift (ensure (stored = receipt) (.harness ⟨.configIntegrityFailed,
        "The runtime configuration application receipt changed after publication.",
        [("revision_id", .text (instanceRevisionId receipt.revision))]⟩))
  | none => Script.write (.receipt ref receipt)

/-- `set_current` (`instance_config_revisions.py:122-188`). -/
def setCurrent (sequence expected : Nat) (updatedAt : Timestamp)
    (receipt : Option ApplicationReceipt) : SettingsScript Agent Unit := do
  let current ← Script.read (readCurrent sizes ref)
  let current ← Script.lift current
  let currentNumber := current.elim 0 fun current => current.state.revision
  Script.lift (ensure (currentNumber = expected) (stateChanged expected currentNumber))
  let target ← Script.read fun disk : SettingsDisk Agent =>
    readRevision sizes ref sequence (disk.files ref)
  let target ← Script.lift target
  Script.lift (ensure (target.manifest.applyStatus = .applied ∨ receipt ≠ none) (.harness
    ⟨.invalidStateTransition, "Only an applied configuration revision may become current.",
      [("revision_id", .text (instanceRevisionId sequence))]⟩))
  match receipt with
  | none => Script.lift (.ok ())
  | some receipt => do
      Script.lift (validateReceipt target receipt)
      recordApplication sizes ref sequence receipt
  let expectedParent := current.map fun current => current.bundle.manifest.sequence
  Script.lift (ensure (target.manifest.parent = expectedParent) (settingsConflict
    "The instance configuration revision parent is stale."
    [("expected_parent_revision_id", optionalText (expectedParent.map instanceRevisionId))]))
  let state := movedState sequence expected updatedAt current
  Script.lift (validateState state)
  Script.write (.point ref state)

/-- The state with another pending revision. -/
def repended (current : CurrentInstanceConfig) (pending : Option Nat) (expected : Nat)
    (updatedAt : Timestamp) : InstanceConfigState :=
  { current.state with
    pendingRevision := pending
    revision := expected + 1
    updatedAt := updatedAt }

/-- `set_pending` (`instance_config_revisions.py:190-239`). -/
def setPending (sequence expected : Nat) (updatedAt : Timestamp) :
    SettingsScript Agent Unit := do
  let current ← Script.read (readCurrent sizes ref)
  match ← Script.lift current with
  | none => Script.raise noBaseline
  | some current => do
      Script.lift (ensure (current.state.revision = expected)
        (stateChanged expected current.state.revision))
      match current.state.pendingRevision with
      | some pending => do
          Script.lift (ensure (pending = sequence) (anotherPending pending))
          let target ← Script.read fun disk : SettingsDisk Agent =>
            readRevision sizes ref sequence (disk.files ref)
          let _ ← Script.lift target
          return ()
      | none => do
          let target ← Script.read fun disk : SettingsDisk Agent =>
            readRevision sizes ref sequence (disk.files ref)
          let _ ← Script.lift target
          let state := repended current (some sequence) expected updatedAt
          Script.lift (validateState state)
          Script.write (.point ref state)

/-- `clear_pending` (`instance_config_revisions.py:241-278`). -/
def clearPending (sequence expected : Nat) (updatedAt : Timestamp) :
    SettingsScript Agent Unit := do
  let current ← Script.read (readCurrent sizes ref)
  match ← Script.lift current with
  | none => Script.raise noBaseline
  | some current => do
      Script.lift (ensure (current.state.revision = expected)
        (stateChanged expected current.state.revision))
      match current.state.pendingRevision with
      | none => return ()
      | some pending => do
          Script.lift (ensure (pending = sequence) (anotherPending pending))
          let state := repended current none expected updatedAt
          Script.lift (validateState state)
          Script.write (.point ref state)

end

/-! ## What is read -/

/-- The files of a bundle are within the limit. -/
structure FilesFit (sizes : ConfigFileSizes) (ref : InstanceRef) (bundle : InstanceBundle) :
    Prop where
  manifest : sizes.manifest ref bundle.manifest ≤ maxConfigFileBytes
  runtime : sizes.runtime bundle.runtime ≤ maxConfigFileBytes
  modelConfig : sizes.modelConfig bundle.modelConfig ≤ maxConfigFileBytes

section

variable {Agent : Type} {sizes : ConfigFileSizes} {ref : InstanceRef} {files : InstanceConfigFiles}
  {sequence : Nat} {bundle : InstanceBundle}

/-- The reader of the settings service, for files within the limit. -/
theorem readRevision_eq_ok :
    readRevision sizes ref sequence files = .ok bundle ↔
      readInstanceRevision sequence files = .ok bundle ∧
        ∀ stored, files.slots.lookup sequence = some stored → FilesFit sizes ref bundle := by
  unfold readRevision
  cases lookup : files.slots.lookup sequence with
  | none => simp
  | some stored =>
      simp only [Option.some.injEq, forall_eq']
      have whole : ∀ found, readInstanceRevision sequence files = .ok found → found = stored := by
        intro found read
        unfold readInstanceRevision at read
        rw [lookup] at read
        obtain ⟨_, -, read⟩ := bind_eq_ok.mp read
        obtain ⟨_, -, read⟩ := bind_eq_ok.mp read
        exact (Except.ok.inj read).symm
      constructor
      · intro read
        obtain ⟨_, manifest, read⟩ := bind_eq_ok.mp read
        obtain ⟨found, same, read⟩ := bind_eq_ok.mp read
        obtain ⟨_, runtime, read⟩ := bind_eq_ok.mp read
        obtain ⟨_, modelConfig, read⟩ := bind_eq_ok.mp read
        obtain rfl := Except.ok.inj read
        obtain rfl := whole found same
        exact ⟨same, ensure_eq_ok.mp manifest, ensure_eq_ok.mp runtime,
          ensure_eq_ok.mp modelConfig⟩
      · rintro ⟨read, fits⟩
        obtain rfl := whole bundle read
        simp only [readBytes, ensure_of fits.manifest, ensure_of fits.runtime,
          ensure_of fits.modelConfig, read, ok_bind]
        rfl

/-- What is read of the current revision is what the settings service reads. -/
theorem checkCurrent_applied {receipt : Option ApplicationReceipt}
    (checked : checkCurrent sizes ref bundle receipt = .ok ()) :
    checkApplied bundle receipt = .ok () := by
  cases receipt with
  | none => exact checked
  | some receipt =>
      unfold checkCurrent at checked
      unfold RuntimeSettingsService.checkApplied
      by_cases applied : bundle.manifest.applyStatus = .applied
      · exact if_pos applied
      · rw [if_neg applied]
        simp only [if_neg applied] at checked
        obtain ⟨_, -, valid⟩ := bind_eq_ok.mp checked
        exact valid

theorem checkCurrent_settled {receipt : Option ApplicationReceipt}
    (applied : bundle.manifest.applyStatus = .applied) :
    checkCurrent sizes ref bundle receipt = .ok () := by
  cases receipt with
  | none => exact if_pos applied
  | some receipt => exact if_pos applied

theorem checkCurrent_receipt {receipt : ApplicationReceipt}
    (valid : validateReceipt bundle receipt = .ok ())
    (fits : bundle.manifest.applyStatus ≠ .applied →
      sizes.receipt ref receipt ≤ maxConfigFileBytes) :
    checkCurrent sizes ref bundle (some receipt) = .ok () := by
  unfold checkCurrent
  by_cases applied : bundle.manifest.applyStatus = .applied
  · exact if_pos applied
  · simp only [if_neg applied, readBytes, ensure_of (fits applied), ok_bind, valid]

theorem readCurrent_settings {disk : SettingsDisk Agent} {current : Option CurrentInstanceConfig}
    (read : readCurrent sizes ref disk = .ok current) :
    RuntimeSettingsService.readCurrent ref disk = .ok current := by
  unfold readCurrent at read
  unfold RuntimeSettingsService.readCurrent
  cases stored : (disk.files ref).state with
  | none =>
      rw [stored] at read
      exact read
  | some state =>
      rw [stored] at read
      obtain ⟨_, -, read⟩ := bind_eq_ok.mp read
      obtain ⟨_, -, read⟩ := bind_eq_ok.mp read
      obtain ⟨bundle, found, read⟩ := bind_eq_ok.mp read
      obtain ⟨_, checked, read⟩ := bind_eq_ok.mp read
      simp only [(readRevision_eq_ok.mp found).1, checkCurrent_applied checked, ok_bind]
      cases waiting : state.pendingRevision with
      | none =>
          rw [waiting] at read
          exact read
      | some pending =>
          rw [waiting] at read
          obtain ⟨_, different, read⟩ := bind_eq_ok.mp read
          obtain ⟨other, foundOther, read⟩ := bind_eq_ok.mp read
          simp only [ensure_of (ensure_eq_ok.mp different), (readRevision_eq_ok.mp foundOther).1,
            ok_bind]
          exact read

end

end InstanceRevisionStore

end DesignHarness
