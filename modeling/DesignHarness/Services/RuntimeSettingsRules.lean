import DesignHarness.Services.RuntimeSagas

/-!
# What the files of the runtime settings keep

The number of an instance's state file only grows, and the pointer stays while the number does
(`Moved`).  A script that leaves the proposals and the sagas alone is calm.
-/

namespace DesignHarness

open Library

/-- The state that `read_current` answers with. -/
def pointerState (files : InstanceConfigFiles) : Option InstanceConfigState :=
  files.state.or (files.legacy.map Prod.fst)

/-- The number of the state. -/
def settledNumber (files : InstanceConfigFiles) : Nat :=
  (pointerState files).elim 0 InstanceConfigState.revision

/-- The state file is the same, or has a larger number. -/
structure Moved (before after : InstanceConfigFiles) : Prop where
  legacy : after.legacy = before.legacy
  state : pointerState after = pointerState before ∨ settledNumber before < settledNumber after

namespace Moved

variable {before middle after : InstanceConfigFiles}

theorem refl (files : InstanceConfigFiles) : Moved files files := ⟨rfl, .inl rfl⟩

theorem settled (moved : Moved before after) : settledNumber before ≤ settledNumber after := by
  obtain same | larger := moved.state
  · exact le_of_eq (congrArg (Option.elim · 0 InstanceConfigState.revision) same.symm)
  · exact le_of_lt larger

theorem trans (first : Moved before middle) (second : Moved middle after) : Moved before after := by
  refine ⟨second.legacy.trans first.legacy, ?_⟩
  obtain same | larger := second.state
  · obtain kept | grown := first.state
    · exact .inl (same.trans kept)
    · refine .inr (lt_of_lt_of_le grown (second.settled))
  · exact .inr (lt_of_le_of_lt first.settled larger)

theorem present (moved : Moved before after) (found : (pointerState before).isSome) :
    (pointerState after).isSome := by
  obtain same | larger := moved.state
  · rwa [same]
  · unfold settledNumber at larger
    cases absent : pointerState after with
    | some state => rfl
    | none =>
        rw [absent] at larger
        exact absurd larger (Nat.not_lt_zero _)

theorem publish {sequence : Nat} {bundle : InstanceBundle} (files : InstanceConfigFiles) :
    Moved files (files.publish sequence bundle) := ⟨rfl, .inl rfl⟩

theorem point {state : InstanceConfigState} {files : InstanceConfigFiles}
    (larger : settledNumber files < state.revision) : Moved files (files.point state) :=
  ⟨rfl, .inr larger⟩

end Moved

namespace RuntimeSettingsService

section

variable {Agent : Type}

/-! ## Reading the current revision -/

variable {ref : InstanceRef} {disk : SettingsDisk Agent}

/-- What `read_current` returns comes from the state. -/
theorem readCurrent_some {current : CurrentInstanceConfig}
    (found : readCurrent ref disk = .ok (some current)) :
    pointerState (disk.files ref) = some current.state := by
  unfold readCurrent at found
  unfold pointerState
  cases stored : (disk.files ref).state with
  | none =>
      rw [stored] at found
      cases old : (disk.files ref).legacy with
      | none =>
          rw [old] at found
          cases Except.ok.inj found
      | some legacy =>
          rw [old] at found
          obtain rfl := Option.some.inj (Except.ok.inj found)
          rfl
  | some state =>
      rw [stored] at found
      obtain ⟨bundle, -, found⟩ := bind_eq_ok.mp found
      obtain ⟨-, -, found⟩ := bind_eq_ok.mp found
      cases pending : state.pendingRevision with
      | none =>
          rw [pending] at found
          obtain rfl := Option.some.inj (Except.ok.inj found)
          rfl
      | some sequence =>
          rw [pending] at found
          obtain ⟨-, -, found⟩ := bind_eq_ok.mp found
          obtain ⟨-, -, found⟩ := bind_eq_ok.mp found
          obtain rfl := Option.some.inj (Except.ok.inj found)
          rfl

theorem readCurrent_settled {current : CurrentInstanceConfig}
    (found : readCurrent ref disk = .ok (some current)) :
    settledNumber (disk.files ref) = current.state.revision := by
  unfold settledNumber
  rw [readCurrent_some found]
  rfl

/-- An instance without a current revision has no state. -/
theorem readCurrent_none (found : readCurrent ref disk = .ok none) :
    pointerState (disk.files ref) = none := by
  unfold readCurrent at found
  unfold pointerState
  cases stored : (disk.files ref).state with
  | none =>
      rw [stored] at found
      cases old : (disk.files ref).legacy with
      | none => rfl
      | some legacy =>
          rw [old] at found
          cases Except.ok.inj found
  | some state =>
      rw [stored] at found
      obtain ⟨bundle, -, found⟩ := bind_eq_ok.mp found
      obtain ⟨-, -, found⟩ := bind_eq_ok.mp found
      cases pending : state.pendingRevision with
      | none =>
          rw [pending] at found
          cases Except.ok.inj found
      | some sequence =>
          rw [pending] at found
          obtain ⟨-, -, found⟩ := bind_eq_ok.mp found
          obtain ⟨-, -, found⟩ := bind_eq_ok.mp found
          cases Except.ok.inj found

theorem readCurrent_number {current : Option CurrentInstanceConfig}
    (found : readCurrent ref disk = .ok current) :
    (current.elim 0 fun current => current.state.revision) = settledNumber (disk.files ref) := by
  cases current with
  | none =>
      unfold settledNumber
      rw [readCurrent_none found]
      rfl
  | some current => exact (readCurrent_settled found).symm

/-! ## Calm scripts -/

/-- The proposals and the sagas are as they were, and the state files only moved on. -/
structure Calm (disk later : SettingsDisk Agent) : Prop where
  sagas : later.sagas = disk.sagas
  proposals : later.proposals = disk.proposals
  files : ∀ ref, Moved (disk.files ref) (later.files ref)

namespace Calm

variable {disk middle later : SettingsDisk Agent}

theorem refl (disk : SettingsDisk Agent) : Calm disk disk := ⟨rfl, rfl, fun _ => Moved.refl _⟩

theorem trans (first : Calm disk middle) (second : Calm middle later) : Calm disk later where
  sagas := second.sagas.trans first.sagas
  proposals := second.proposals.trans first.proposals
  files ref := (first.files ref).trans (second.files ref)

theorem revision (disk : SettingsDisk Agent) (ref : InstanceRef) (bundle : InstanceBundle) :
    Calm disk (Disk.apply disk (SettingsWrite.revision ref bundle : SettingsWrite Agent)) := by
  refine ⟨rfl, rfl, ?_⟩
  intro other
  by_cases same : other = ref
  · subst same
    change Moved _ (Function.update disk.files other _ other)
    rw [Function.update_self]
    exact Moved.publish _
  · change Moved _ (Function.update disk.files ref _ other)
    rw [Function.update_of_ne same]
    exact Moved.refl _

theorem point {ref : InstanceRef} {state : InstanceConfigState}
    (larger : settledNumber (disk.files ref) < state.revision) :
    Calm disk (Disk.apply disk (SettingsWrite.point ref state : SettingsWrite Agent)) := by
  refine ⟨rfl, rfl, ?_⟩
  intro other
  by_cases same : other = ref
  · subst same
    change Moved _ (Function.update disk.files other _ other)
    rw [Function.update_self]
    exact Moved.point larger
  · change Moved _ (Function.update disk.files ref _ other)
    rw [Function.update_of_ne same]
    exact Moved.refl _

theorem receipt (disk : SettingsDisk Agent) (ref : InstanceRef) (receipt : ApplicationReceipt) :
    Calm disk (Disk.apply disk (SettingsWrite.receipt ref receipt : SettingsWrite Agent)) :=
  ⟨rfl, rfl, fun _ => Moved.refl _⟩

theorem configRevision (disk : SettingsDisk Agent) (ref : InstanceRef) (sequence : Nat) :
    Calm disk (Disk.apply disk (SettingsWrite.configRevision ref sequence : SettingsWrite Agent)) :=
  ⟨rfl, rfl, fun _ => Moved.refl _⟩

theorem agent (disk : SettingsDisk Agent) (ref : InstanceRef) (agent : Agent) :
    Calm disk (Disk.apply disk (SettingsWrite.agent ref agent)) :=
  ⟨rfl, rfl, fun _ => Moved.refl _⟩

end Calm

/-- From the disk the script is calm. -/
def CalmAt {α : Type} (disk : SettingsDisk Agent) (script : SettingsScript Agent α)
    (returns : α → SettingsDisk Agent → Prop) : Prop :=
  Meets script disk (Calm disk) (fun value later => Calm disk later ∧ returns value later)
    fun _ => Calm disk

namespace CalmAt

variable {α β : Type} {script : SettingsScript Agent α} {returns : α → SettingsDisk Agent → Prop}

theorem pure {value : α} (returned : returns value disk) :
    CalmAt disk (Pure.pure value : SettingsScript Agent α) returns :=
  Meets.pure (Calm.refl disk) ⟨Calm.refl disk, returned⟩

theorem raise {error : Raised} :
    CalmAt disk (Script.raise error : SettingsScript Agent α) returns :=
  Meets.raise (Calm.refl disk) (Calm.refl disk)

theorem bind {next : α → SettingsScript Agent β} {results : β → SettingsDisk Agent → Prop}
    (first : CalmAt disk script returns)
    (rest : ∀ value later, Calm disk later → returns value later →
      CalmAt later (next value) results) : CalmAt disk (script >>= next) results := by
  refine Meets.bind (first.mono (fun _ => id) ?_ fun _ _ => id)
  intro value later ended
  obtain ⟨calm, returned⟩ := ended
  refine (rest value later calm returned).mono ?_ ?_ ?_
  · intro last second
    exact calm.trans second
  · intro result last ended
    exact ⟨calm.trans ended.1, ended.2⟩
  · intro _ last second
    exact calm.trans second

theorem look {f : SettingsDisk Agent → α} {next : α → SettingsScript Agent β}
    {results : β → SettingsDisk Agent → Prop} (rest : CalmAt disk (next (f disk)) results) :
    CalmAt disk (Script.read f >>= next) results := Meets.looked rfl rest

theorem check {outcome : Outcome α} {next : α → SettingsScript Agent β}
    {results : β → SettingsDisk Agent → Prop}
    (rest : ∀ value, outcome = .ok value → CalmAt disk (next value) results) :
    CalmAt disk (Script.lift outcome >>= next) results :=
  Meets.guarded (Calm.refl disk) rest fun _ _ => Calm.refl disk

theorem lift {outcome : Outcome α} (returned : ∀ value, outcome = .ok value → returns value disk) :
    CalmAt disk (Script.lift outcome : SettingsScript Agent α) returns :=
  Meets.lift (Calm.refl disk) (fun value passed => ⟨Calm.refl disk, returned value passed⟩)
    fun _ _ => Calm.refl disk

theorem write {change : SettingsWrite Agent} (returns : Unit → SettingsDisk Agent → Prop)
    (calm : Calm disk (Disk.apply disk change)) (returned : returns () (Disk.apply disk change)) :
    CalmAt disk (Script.write change) returns :=
  Meets.write (Calm.refl disk) (Calm.refl disk) calm ⟨calm, returned⟩

end CalmAt

/-- Nothing is said of what the script returns. -/
def unsaid {α : Type} (_ : α) (_ : SettingsDisk Agent) : Prop := True

variable {now : Timestamp}

theorem publishRevision_calm (ref : InstanceRef) (bundle : InstanceBundle) :
    CalmAt disk (publishRevision ref bundle) unsaid := by
  unfold publishRevision
  refine CalmAt.check fun _ _ => CalmAt.check fun _ _ => CalmAt.look ?_
  cases (disk.files ref).slots.lookup bundle.manifest.sequence with
  | some stored => exact CalmAt.lift fun _ _ => trivial
  | none => exact CalmAt.write _ (Calm.revision disk ref bundle) trivial

theorem recordApplication_calm (ref : InstanceRef) (receipt : ApplicationReceipt) :
    CalmAt disk (recordApplication ref receipt) fun _ later => later.files = disk.files := by
  unfold recordApplication
  refine CalmAt.look ?_
  cases disk.receipts ref receipt.revision with
  | some stored => exact CalmAt.lift fun _ _ => rfl
  | none => exact CalmAt.write _ (Calm.receipt disk ref receipt) rfl

/-- The state after a move of the pointer. -/
theorem settled_point {state : InstanceConfigState} :
    settledNumber ((Disk.apply disk (SettingsWrite.point ref state : SettingsWrite Agent)).files ref) =
      state.revision := by
  change settledNumber (Function.update disk.files ref _ ref) = _
  rw [Function.update_self]
  rfl

theorem setCurrent_calm (ref : InstanceRef) (sequence expected : Nat) (updatedAt : Timestamp)
    (receipt : Option ApplicationReceipt) :
    CalmAt disk (setCurrent ref sequence expected updatedAt receipt) fun _ later =>
      settledNumber (disk.files ref) < settledNumber (later.files ref) := by
  unfold setCurrent
  refine CalmAt.look (CalmAt.check fun current found => CalmAt.check fun _ fresh => ?_)
  have number := (readCurrent_number found).symm.trans (ensure_eq_ok.mp fresh)
  refine CalmAt.look (CalmAt.check fun target _ => CalmAt.check fun _ _ => ?_)
  -- Recording the receipt leaves the state file alone.
  have moves : ∀ later : SettingsDisk Agent, later.files = disk.files →
      CalmAt later (do
        Script.lift (ensure (target.manifest.parent =
            current.map fun current => current.bundle.manifest.sequence)
          (settingsConflict "The instance configuration revision parent is stale."
            [("expected_parent_revision_id", optionalText ((current.map fun current =>
              current.bundle.manifest.sequence).map instanceRevisionId))]))
        Script.write (.point ref (movedState sequence expected updatedAt current))
        return movedState sequence expected updatedAt current) fun _ last =>
          settledNumber (disk.files ref) < settledNumber (last.files ref) := by
    intro later files
    have larger : settledNumber (disk.files ref) <
        (movedState sequence expected updatedAt current).revision := by
      rw [number]
      exact Nat.lt_succ_self expected
    refine CalmAt.check fun _ _ => ?_
    refine CalmAt.bind (CalmAt.write (fun _ last =>
      settledNumber (disk.files ref) < settledNumber (last.files ref)) (Calm.point ?_) ?_) ?_
    · rwa [files]
    · rwa [settled_point]
    · exact fun _ _ _ moved => CalmAt.pure moved
  cases receipt with
  | none => exact CalmAt.check fun _ _ => moves disk rfl
  | some receipt =>
      refine CalmAt.check fun _ _ => ?_
      refine CalmAt.bind (recordApplication_calm ref receipt) fun _ later _ files => ?_
      exact moves later files

theorem setPending_calm (ref : InstanceRef) (sequence expected : Nat) (updatedAt : Timestamp) :
    CalmAt disk (setPending ref sequence expected updatedAt) unsaid := by
  unfold setPending
  refine CalmAt.look (CalmAt.check fun current found => ?_)
  cases current with
  | none => exact CalmAt.raise
  | some current =>
      refine CalmAt.check fun _ fresh => ?_
      have number := (readCurrent_settled found).trans (ensure_eq_ok.mp fresh)
      cases pending : current.state.pendingRevision with
      | some other => exact CalmAt.lift fun _ _ => trivial
      | none =>
          refine CalmAt.look (CalmAt.check fun _ _ => ?_)
          refine CalmAt.write _ (Calm.point ?_) trivial
          rw [number]
          exact Nat.lt_succ_self expected

theorem clearPending_calm (ref : InstanceRef) (sequence expected : Nat) (updatedAt : Timestamp) :
    CalmAt disk (clearPending ref sequence expected updatedAt) unsaid := by
  unfold clearPending
  refine CalmAt.look (CalmAt.check fun current found => ?_)
  cases current with
  | none => exact CalmAt.raise
  | some current =>
      refine CalmAt.check fun _ fresh => ?_
      have number := (readCurrent_settled found).trans (ensure_eq_ok.mp fresh)
      cases pending : current.state.pendingRevision with
      | none => exact CalmAt.pure trivial
      | some other =>
          refine CalmAt.check fun _ _ => CalmAt.write _ (Calm.point ?_) trivial
          rw [number]
          exact Nat.lt_succ_self expected

theorem updateConfigRevision_calm (ref : InstanceRef) (sequence : Nat) :
    CalmAt disk (updateConfigRevision ref sequence) unsaid := by
  unfold updateConfigRevision
  refine CalmAt.look ?_
  cases disk.instances ref with
  | none => exact CalmAt.raise
  | some facts =>
      dsimp only
      split
      · exact CalmAt.pure trivial
      · exact CalmAt.write _ (Calm.configRevision disk ref sequence) trivial

theorem orderedBundle_sequence {process : Option ConfigSnapshot} {revision : TaskConfigRevision}
    {overrides : RuntimeOverrides} {order : RevisionOrder} {parent : Option Nat}
    {bundle : InstanceBundle}
    (built : orderedBundle process revision overrides order parent now = .ok bundle) :
    bundle.manifest.sequence = order.sequence := by
  unfold orderedBundle at built
  obtain ⟨-, -, built⟩ := bind_eq_ok.mp built
  obtain ⟨bindings, -, built⟩ := bind_eq_ok.mp built
  obtain ⟨-, -, built⟩ := bind_eq_ok.mp built
  obtain rfl := Except.ok.inj built
  rfl

theorem buildRevision_calm (ref : InstanceRef) (overrides : RuntimeOverrides)
    (order : RevisionOrder) :
    CalmAt disk (buildRevision now ref overrides order) fun bundle later =>
      later = disk ∧ bundle.manifest.sequence = order.sequence := by
  unfold buildRevision
  refine CalmAt.look (CalmAt.check fun current _ => CalmAt.look (CalmAt.check fun revision _ => ?_))
  refine CalmAt.look (CalmAt.lift fun bundle built => ?_)
  exact ⟨rfl, orderedBundle_sequence built⟩

theorem readOrMaterialize_calm (ref : InstanceRef) :
    CalmAt disk (readOrMaterialize now ref) fun current later =>
      readCurrent ref later = .ok (some current) ∧
        ((pointerState (disk.files ref)).isSome → later = disk) := by
  unfold readOrMaterialize
  refine CalmAt.look (CalmAt.check fun current found => ?_)
  cases current with
  | some current => exact CalmAt.pure ⟨found, fun _ => rfl⟩
  | none =>
      refine CalmAt.look (CalmAt.check fun revision _ => ?_)
      refine CalmAt.look (CalmAt.check fun bundle _ => ?_)
      refine CalmAt.bind (publishRevision_calm ref bundle) fun _ middle _ _ => ?_
      refine CalmAt.bind (setCurrent_calm ref _ _ _ _) fun _ later _ _ => ?_
      refine CalmAt.look (CalmAt.check fun current last => ?_)
      cases current with
      | none => exact CalmAt.raise
      | some current =>
          refine CalmAt.pure ⟨last, ?_⟩
          intro present
          rw [readCurrent_none found] at present
          cases present

end

end RuntimeSettingsService

end DesignHarness
