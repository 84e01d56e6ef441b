import DesignHarness.Domain.ProposalRules
import DesignHarness.Domain.TextPatterns
import DesignHarness.Services.PlanDrafts

/-!
# From a draft to an accepted proposal

`draftEntries_eq` says what the loop of `materialize_plan_draft` builds for each stage.  Its
proposal passes every check of `validate_plan_proposal` but the contract of the cards, which asks
for two things more than the schema of the model (`drafted_proposal_valid_iff`).
-/

namespace DesignHarness

open Library

section

variable (digest : String → String) (taskId : Identifier) (revision : Nat) (createdAt : Timestamp)

/-- The state of the loop behind the given stages. -/
def previousOf (before : List DraftStage) : Option PreviousStage :=
  before.getLast?.map fun last =>
    ⟨positionId digest taskId revision "stage" before.length, last.type,
      positionId digest taskId revision "work" before.length⟩

/-- The records of the stage with the index. -/
def plannedEntry (stages : List DraftStage) (index : Nat) (stage : DraftStage) : DraftEntry :=
  let dependencies := draftDependencies (previousOf digest taskId revision (stages.take index)) stage
  draftEntry digest taskId revision createdAt (index + 1) stage dependencies.1 dependencies.2

variable {digest taskId revision createdAt}

theorem draftEntries_eq_of_append {assetIds : List Identifier} (before : List DraftStage)
    {rest : List DraftStage} {entries : List DraftEntry}
    (built : draftEntries digest taskId revision createdAt assetIds
      (previousOf digest taskId revision before) (before.length + 1) rest = .ok entries) :
    entries = rest.mapIdx fun index stage =>
      plannedEntry digest taskId revision createdAt (before ++ rest) (before.length + index) stage := by
  induction rest generalizing before entries with
  | nil =>
      cases built
      rfl
  | cons stage rest ih =>
      simp only [draftEntries, bind_eq_ok, pure_eq_ok, Except.ok.injEq] at built
      obtain ⟨-, -, later, builtLater, rfl⟩ := built
      have moved : previousOf digest taskId revision (before ++ [stage]) =
          some ⟨positionId digest taskId revision "stage" (before.length + 1), stage.type,
            positionId digest taskId revision "work" (before.length + 1)⟩ := by
        simp [previousOf]
      have same := ih (before ++ [stage]) (by
        rw [moved, List.length_append, List.length_singleton]
        exact builtLater)
      rw [List.mapIdx_cons, same]
      congr 1
      · simp [plannedEntry]
      · simp only [List.append_assoc, List.singleton_append, List.length_append,
          List.length_singleton, Nat.add_assoc, Nat.add_comm 1]

theorem draftEntries_eq {assetIds : List Identifier} {stages : List DraftStage}
    {entries : List DraftEntry}
    (built : draftEntries digest taskId revision createdAt assetIds none 1 stages = .ok entries) :
    entries = stages.mapIdx (plannedEntry digest taskId revision createdAt stages) := by
  have same := draftEntries_eq_of_append [] built
  simpa using same

/-- The records of a PPT stage right behind an Image stage depend on that; others on nothing. -/
theorem plannedEntry_cases {stages : List DraftStage} {index : Nat}
    (inside : index < stages.length) :
    ((plannedEntry digest taskId revision createdAt stages index stages[index]).stage.dependsOn =
        [] ∧
      (plannedEntry digest taskId revision createdAt stages index stages[index]).item.dependsOn =
        []) ∨
    ∃ before, ∃ earlier : before < stages.length, index = before + 1 ∧
      stages[before].type = .image ∧ stages[index].type = .ppt ∧
      (plannedEntry digest taskId revision createdAt stages index stages[index]).stage.dependsOn =
        [positionId digest taskId revision "stage" (before + 1)] ∧
      (plannedEntry digest taskId revision createdAt stages index stages[index]).item.dependsOn =
        [positionId digest taskId revision "work" (before + 1)] := by
  cases index with
  | zero => simp [plannedEntry, previousOf, draftDependencies, draftEntry]
  | succ before =>
      have earlier : before < stages.length := by omega
      have last : (stages.take (before + 1)).getLast? = some stages[before] := by
        simp [List.getLast?_take, earlier]
      have length : (stages.take (before + 1)).length = before + 1 := by
        rw [List.length_take]
        omega
      have previous : previousOf digest taskId revision (stages.take (before + 1)) =
          some ⟨positionId digest taskId revision "stage" (before + 1), stages[before].type,
            positionId digest taskId revision "work" (before + 1)⟩ := by
        rw [previousOf, last, length]
        rfl
      by_cases linked : stages[before].type = .image ∧ stages[before + 1].type = .ppt
      · refine .inr ⟨before, earlier, rfl, linked.1, linked.2, ?_, ?_⟩ <;>
          simp [plannedEntry, previous, draftDependencies, linked, draftEntry]
      · left
        simp [plannedEntry, previous, draftDependencies, linked, draftEntry]

theorem plannedEntry_dependsOn {stages : List DraftStage} {index : Nat}
    (inside : index < stages.length) {key : Identifier}
    (depends : key ∈
        (plannedEntry digest taskId revision createdAt stages index stages[index]).stage.dependsOn ∨
      key ∈
        (plannedEntry digest taskId revision createdAt stages index stages[index]).item.dependsOn) :
    ∃ before, ∃ earlier : before < stages.length, index = before + 1 ∧
      stages[before].type = .image ∧ stages[index].type = .ppt ∧
      (plannedEntry digest taskId revision createdAt stages index stages[index]).stage.dependsOn =
        [positionId digest taskId revision "stage" (before + 1)] ∧
      (plannedEntry digest taskId revision createdAt stages index stages[index]).item.dependsOn =
        [positionId digest taskId revision "work" (before + 1)] := by
  rcases plannedEntry_cases inside with ⟨stageFree, itemFree⟩ | linked
  · rw [stageFree, itemFree] at depends
    simp at depends
  · exact linked

end

/-! ## The checks that every built proposal passes -/

/-- The truncated digest does not collide on the positions of the plan. -/
def PositionsDistinct (digest : String → String) (taskId : Identifier) (revision count : Nat) :
    Prop :=
  ∀ one other, 1 ≤ one → one ≤ count → 1 ≤ other → other ≤ count →
    digest ("\x00".intercalate [taskId, toString revision, toString one]) =
      digest ("\x00".intercalate [taskId, toString revision, toString other]) → one = other

/-- The proposal of the records of its stages. -/
def proposalOf (digest : String → String) (taskId : Identifier) (revision : Nat)
    (createdAt : Timestamp) (entries : List DraftEntry) : PlanProposal where
  proposalId := derivedId digest "proposal" [taskId, toString revision]
  taskId := taskId
  revision := revision
  status := .pendingConfirmation
  stages := entries.map DraftEntry.stage
  workItems := entries.map DraftEntry.item
  executionCards := entries.map DraftEntry.card
  createdAt := createdAt
  updatedAt := createdAt
  confirmedAt := none

/-- The records of all stages. -/
def plannedEntries (digest : String → String) (taskId : Identifier) (revision : Nat)
    (createdAt : Timestamp) (stages : List DraftStage) : List DraftEntry :=
  stages.mapIdx (plannedEntry digest taskId revision createdAt stages)

section

variable {digest : String → String} {taskId : Identifier} {revision : Nat} {createdAt : Timestamp}
  {stages : List DraftStage}

theorem positionId_inj {count : Nat} (distinct : PositionsDistinct digest taskId revision count)
    {kind : String} {one other : Nat} (oneIn : 1 ≤ one ∧ one ≤ count)
    (otherIn : 1 ≤ other ∧ other ≤ count)
    (same : positionId digest taskId revision kind one =
      positionId digest taskId revision kind other) : one = other := by
  refine distinct one other oneIn.1 oneIn.2 otherIn.1 otherIn.2 ?_
  have chars := congrArg String.toList same
  simp only [positionId, derivedId, String.toList_append, List.append_assoc,
    List.append_cancel_left_eq] at chars
  exact String.toList_injective chars

theorem positionIds_nodup (distinct : PositionsDistinct digest taskId revision stages.length)
    (kind : String) :
    ((List.range' 1 stages.length).map (positionId digest taskId revision kind)).Nodup := by
  refine (List.nodup_map_iff_inj_on List.nodup_range').mpr fun one oneIn other otherIn same => ?_
  rw [List.mem_range'_1] at oneIn otherIn
  exact positionId_inj distinct (by omega) (by omega) same

/-- A field of the records that is an id of their positions. -/
theorem plannedEntries_ids {α : Type} (field : DraftEntry → α) (f : Nat → α)
    (reads : ∀ index stage,
      field (plannedEntry digest taskId revision createdAt stages index stage) = f (index + 1)) :
    (plannedEntries digest taskId revision createdAt stages).map field =
      (List.range' 1 stages.length).map f := by
  refine List.ext_getElem (by simp [plannedEntries]) fun index _ _ => ?_
  simp [plannedEntries, reads, Nat.add_comm]

theorem mem_plannedEntries {entry : DraftEntry} :
    entry ∈ plannedEntries digest taskId revision createdAt stages ↔
      ∃ index, ∃ inside : index < stages.length,
        plannedEntry digest taskId revision createdAt stages index stages[index] = entry :=
  List.mem_mapIdx

/-- The stage of a position is found under its id. -/
theorem plannedStage_found (distinct : PositionsDistinct digest taskId revision stages.length)
    {index : Nat} (inside : index < stages.length) :
    dictGet ProposalStage.stageId
        ((plannedEntries digest taskId revision createdAt stages).map DraftEntry.stage)
        (positionId digest taskId revision "stage" (index + 1)) =
      some (plannedEntry digest taskId revision createdAt stages index stages[index]).stage := by
  have ids : (((plannedEntries digest taskId revision createdAt stages).map
      DraftEntry.stage).map ProposalStage.stageId).Nodup := by
    rw [List.map_map, plannedEntries_ids _ (positionId digest taskId revision "stage")
      fun _ _ => rfl]
    exact positionIds_nodup distinct "stage"
  rw [dictGet_eq_some_iff ids]
  exact ⟨List.mem_map_of_mem (mem_plannedEntries.mpr ⟨index, inside, rfl⟩), rfl⟩

theorem sortedStages_planned :
    sortedStages ((plannedEntries digest taskId revision createdAt stages).map DraftEntry.stage) =
      (plannedEntries digest taskId revision createdAt stages).map DraftEntry.stage := by
  have positions : ((plannedEntries digest taskId revision createdAt stages).map
      DraftEntry.stage).map ProposalStage.position = List.range' 1 stages.length := by
    rw [List.map_map, plannedEntries_ids _ id fun _ _ => rfl, List.map_id]
  have ordered : (((plannedEntries digest taskId revision createdAt stages).map
      DraftEntry.stage).map ProposalStage.position).Pairwise (· ≤ ·) := by
    rw [positions]
    exact List.pairwise_le_range'
  exact (List.pairwise_map.mp ordered).insertionSort_eq

/-- The dependencies of the work items have no cycle. -/
theorem plannedItems_acyclic (distinct : PositionsDistinct digest taskId revision stages.length) :
    checkCycles ((plannedEntries digest taskId revision createdAt stages).map DraftEntry.item) =
      .ok () := by
  have ids : ((plannedEntries digest taskId revision createdAt stages).map DraftEntry.item).map
      WorkItem.workItemId =
        (List.range' 1 stages.length).map (positionId digest taskId revision "work") := by
    rw [List.map_map, plannedEntries_ids _ (positionId digest taskId revision "work")
      fun _ _ => rfl]
  have rank : ∀ index, index < stages.length →
      ((List.range' 1 stages.length).map (positionId digest taskId revision "work")).idxOf
        (positionId digest taskId revision "work" (index + 1)) = index := by
    intro index inside
    have bound : index < ((List.range' 1 stages.length).map
        (positionId digest taskId revision "work")).length := by simpa using inside
    have at_index : ((List.range' 1 stages.length).map
        (positionId digest taskId revision "work"))[index] =
          positionId digest taskId revision "work" (index + 1) := by
      simp [Nat.add_comm]
    rw [← at_index]
    exact (positionIds_nodup distinct "work").idxOf_getElem index bound
  refine checkCycles_of_rank (fun key =>
    ((List.range' 1 stages.length).map (positionId digest taskId revision "work")).idxOf key) ?_ ?_
  · intro item member key depends
    obtain ⟨entry, entryMember, rfl⟩ := List.mem_map.mp member
    obtain ⟨index, inside, rfl⟩ := mem_plannedEntries.mp entryMember
    obtain ⟨before, earlier, rfl, -, -, -, waits⟩ := plannedEntry_dependsOn inside (.inr depends)
    rw [waits, List.mem_singleton] at depends
    subst depends
    constructor
    · rw [ids]
      exact List.mem_map_of_mem (List.mem_range'_1.mpr (by omega))
    · have later := rank (before + 1) inside
      have sooner := rank before earlier
      calc ((List.range' 1 stages.length).map (positionId digest taskId revision "work")).idxOf
            (positionId digest taskId revision "work" (before + 1)) = before := sooner
        _ < before + 1 := Nat.lt_succ_self before
        _ = _ := later.symm
  · intro key known
    rw [ids] at known
    have bound := List.idxOf_lt_length_of_mem known
    simp [plannedEntries] at bound ⊢
    omega

/-- The card of a work item is the one that was built with it. -/
theorem plannedCard_found (distinct : PositionsDistinct digest taskId revision stages.length)
    {index : Nat} (inside : index < stages.length) :
    dictGet ExecutionCard.cardId
        ((plannedEntries digest taskId revision createdAt stages).map DraftEntry.card)
        (positionId digest taskId revision "card" (index + 1)) =
      some (plannedEntry digest taskId revision createdAt stages index stages[index]).card := by
  have ids : (((plannedEntries digest taskId revision createdAt stages).map
      DraftEntry.card).map ExecutionCard.cardId).Nodup := by
    rw [List.map_map, plannedEntries_ids _ (positionId digest taskId revision "card")
      fun _ _ => rfl]
    exact positionIds_nodup distinct "card"
  rw [dictGet_eq_some_iff ids]
  exact ⟨List.mem_map_of_mem (mem_plannedEntries.mpr ⟨index, inside, rfl⟩), rfl⟩

/-- Whatever the texts of a draft are, only the contract can refuse its proposal. -/
theorem proposalOf_valid_iff {credentialSafe : String → Bool}
    (distinct : PositionsDistinct digest taskId revision stages.length) :
    ProposalValid credentialSafe (proposalOf digest taskId revision createdAt
        (plannedEntries digest taskId revision createdAt stages)) taskId revision ↔
      (proposalOf digest taskId revision createdAt
        (plannedEntries digest taskId revision createdAt stages)).accepted credentialSafe = true := by
  have stageIds : ((plannedEntries digest taskId revision createdAt stages).map
      DraftEntry.stage).map ProposalStage.stageId =
        (List.range' 1 stages.length).map (positionId digest taskId revision "stage") := by
    rw [List.map_map, plannedEntries_ids _ (positionId digest taskId revision "stage")
      fun _ _ => rfl]
  have itemIds : ((plannedEntries digest taskId revision createdAt stages).map
      DraftEntry.item).map WorkItem.workItemId =
        (List.range' 1 stages.length).map (positionId digest taskId revision "work") := by
    rw [List.map_map, plannedEntries_ids _ (positionId digest taskId revision "work")
      fun _ _ => rfl]
  have cardIds : ((plannedEntries digest taskId revision createdAt stages).map
      DraftEntry.card).map ExecutionCard.cardId =
        (List.range' 1 stages.length).map (positionId digest taskId revision "card") := by
    rw [List.map_map, plannedEntries_ids _ (positionId digest taskId revision "card")
      fun _ _ => rfl]
  have referenced : ((plannedEntries digest taskId revision createdAt stages).map
      DraftEntry.item).flatMap WorkItem.taskCardIds =
        (List.range' 1 stages.length).map (positionId digest taskId revision "card") := by
    rw [List.flatMap_map, ← cardIds, List.map_map, List.map_eq_flatMap]
    refine List.flatMap_congr fun entry member => ?_
    obtain ⟨index, inside, rfl⟩ := mem_plannedEntries.mp member
    rfl
  constructor
  · exact fun valid => valid.accepted
  intro accepted
  constructor
  case accepted => exact accepted
  case inTask => rfl
  case nextRevision => rfl
  case pending => exact ⟨rfl, rfl⟩
  case stageIdsDistinct =>
    rw [proposalOf, sortedStages_planned, stageIds]
    exact positionIds_nodup distinct "stage"
  case positions =>
    rw [proposalOf, sortedStages_planned, List.map_map,
      plannedEntries_ids _ id fun _ _ => rfl, List.map_id]
    simp [plannedEntries]
  case dependenciesEarlier =>
    intro stage member key depends
    rw [proposalOf, sortedStages_planned] at member ⊢
    obtain ⟨entry, entryMember, rfl⟩ := List.mem_map.mp member
    obtain ⟨index, inside, rfl⟩ := mem_plannedEntries.mp entryMember
    obtain ⟨before, earlier, rfl, -, -, waits, -⟩ := plannedEntry_dependsOn inside (.inl depends)
    rw [waits, List.mem_singleton] at depends
    rw [stageIds, depends, List.mem_take_iff_getElem]
    refine ⟨before, ?_, ?_⟩
    · simp [plannedEntry, draftEntry]
      omega
    · simp [Nat.add_comm]
  case dependenciesImageToPpt =>
    intro stage member key depends
    rw [proposalOf, sortedStages_planned] at member ⊢
    obtain ⟨entry, entryMember, rfl⟩ := List.mem_map.mp member
    obtain ⟨index, inside, rfl⟩ := mem_plannedEntries.mp entryMember
    obtain ⟨before, earlier, rfl, image, ppt, waits, -⟩ :=
      plannedEntry_dependsOn inside (.inl depends)
    rw [waits, List.mem_singleton] at depends
    rw [depends]
    exact ⟨_, plannedStage_found distinct earlier, image, ppt⟩
  case itemIdsDistinct =>
    rw [proposalOf, itemIds]
    exact positionIds_nodup distinct "work"
  case itemsPlaced =>
    intro item member
    obtain ⟨entry, entryMember, rfl⟩ := List.mem_map.mp member
    obtain ⟨index, inside, rfl⟩ := mem_plannedEntries.mp entryMember
    constructor
    case inTask => rfl
    case inStage =>
      rw [proposalOf, sortedStages_planned]
      exact ⟨_, plannedStage_found distinct inside, rfl⟩
    case current =>
      exact ⟨_, rfl, fun key listed => List.mem_singleton.mp listed, List.mem_singleton.mpr rfl⟩
    case independent =>
      intro depends
      obtain ⟨before, earlier, rfl, -, -, -, waits⟩ := plannedEntry_dependsOn inside (.inr depends)
      rw [waits, List.mem_singleton] at depends
      have same := positionId_inj distinct (by omega) (by omega) depends
      omega
    case dependenciesExist =>
      intro key depends
      obtain ⟨before, earlier, rfl, -, -, -, waits⟩ := plannedEntry_dependsOn inside (.inr depends)
      rw [waits, List.mem_singleton] at depends
      rw [proposalOf, itemIds, depends]
      exact List.mem_map_of_mem (List.mem_range'_1.mpr (by omega))
  case acyclic => exact plannedItems_acyclic distinct
  case cardIdsDistinct =>
    rw [proposalOf, cardIds]
    exact positionIds_nodup distinct "card"
  case referencedDistinct =>
    rw [proposalOf, referenced]
    exact positionIds_nodup distinct "card"
  case referencedExist =>
    rw [proposalOf, referenced, cardIds]
    exact fun key known => known
  case cardsReferenced =>
    rw [proposalOf, referenced, cardIds]
    exact fun key known => known
  case itemsCarded =>
    intro item member
    obtain ⟨entry, entryMember, rfl⟩ := List.mem_map.mp member
    obtain ⟨index, inside, rfl⟩ := mem_plannedEntries.mp entryMember
    exact ⟨(plannedEntry digest taskId revision createdAt stages index stages[index]).card, rfl,
      plannedCard_found distinct inside, rfl, rfl, rfl, rfl⟩
  case currentDistinct =>
    rw [proposalOf, List.map_map, plannedEntries_ids _
      (fun position => some (positionId digest taskId revision "instance" position))
      fun _ _ => rfl]
    have ids := positionIds_nodup distinct "instance"
    have instances := ids.map (Option.some_injective Identifier)
    rw [List.map_map] at instances
    exact instances

end

/-! ## The contract -/

/-- `hexdigest()[:32]`. -/
def HexDigest (digest : String → String) : Prop :=
  ∀ text, (digest text).toList.length = 32 ∧
    ∀ c ∈ (digest text).toList, c ∈ "0123456789abcdef".toList

/-- The texts of a draft that the contracts ask to be free of credentials. -/
def DraftParameters.safe (credentialSafe : String → Bool) : DraftParameters → Bool
  | .image _ _ usageContext _ _ => usageContext.all credentialSafe
  | .ppt _ plannedAssetRole => plannedAssetRole.all credentialSafe
  | .general => true

def DraftStage.safe (credentialSafe : String → Bool) (stage : DraftStage) : Bool :=
  credentialSafe stage.title && credentialSafe stage.objective &&
    stage.instructions.all credentialSafe &&
    stage.expectedDeliveries.all (fun delivery => credentialSafe delivery.role) &&
    stage.parameters.safe credentialSafe

def PlanDraft.safe (credentialSafe : String → Bool) (draft : PlanDraft) : Bool :=
  draft.stages.all (DraftStage.safe credentialSafe)

/-- An Image stage that names a version names the category of the version. -/
def DraftParameters.categorised : DraftParameters → Bool
  | .image _ _ _ categoryId categoryVersion => categoryVersion.isNone || categoryId.isSome
  | .ppt .. => true
  | .general => true

theorem DraftParameters.card_accepted_iff {credentialSafe : String → Bool}
    {parameters : DraftParameters} (accepted : parameters.accepted = true)
    (safe : parameters.safe credentialSafe = true) :
    parameters.card.accepted credentialSafe parameters.type = true ↔
      parameters.categorised = true := by
  cases parameters with
  | image aspectRatio variants usageContext categoryId categoryVersion =>
      simp only [DraftParameters.accepted, Bool.and_eq_true] at accepted
      obtain ⟨⟨⟨⟨ratio, variantsIn⟩, context⟩, category⟩, version⟩ := accepted
      have safeContext : usageContext.all (safeText credentialSafe 10000) = true := by
        cases usageContext with
        | none => rfl
        | some text =>
            rw [Option.all_some, safeText, Bool.and_eq_true]
            exact ⟨safe, context⟩
      simp only [DraftParameters.card, DraftParameters.type, CardParameters.accepted,
        CardParameters.imageAccepted, ratio, variantsIn, safeContext, category, version,
        Option.isNone_none, Bool.true_and, DraftParameters.categorised]
  | ppt slideCount plannedAssetRole =>
      simp only [DraftParameters.accepted, Bool.and_eq_true] at accepted
      obtain ⟨slides, role⟩ := accepted
      have safeRole : plannedAssetRole.all (fun role => credentialSafe role &&
          identifierAccepted role) = true := by
        cases plannedAssetRole with
        | none => rfl
        | some text =>
            rw [Option.all_some, Bool.and_eq_true]
            exact ⟨safe, role⟩
      simp only [DraftParameters.card, DraftParameters.type, CardParameters.accepted,
        CardParameters.pptAccepted, slides, safeRole, Option.isNone_none, Bool.true_and,
        DraftParameters.categorised]
  | general =>
      simp [DraftParameters.card, DraftParameters.type, CardParameters.accepted,
        DraftParameters.categorised]

/-- A kind of id, with room for the digest behind it. -/
structure IsKind (kind : String) : Prop where
  word : IsWord kind.toList
  short : kind.toList.length ≤ 16

theorem derivedId_accepted {digest : String → String} (hexadecimal : HexDigest digest)
    {kind : String} (isKind : IsKind kind) (parts : List String) :
    identifierAccepted (derivedId digest kind parts) = true := by
  obtain ⟨length, digits⟩ := hexadecimal ("\x00".intercalate parts)
  have spelled : (derivedId digest kind parts).toList =
      kind.toList ++ '_' :: (digest ("\x00".intercalate parts)).toList := by
    rw [derivedId, String.toList_append, String.toList_append, List.append_assoc]
    rfl
  rw [identifierAccepted_iff, spelled]
  left
  constructor
  case head =>
    obtain ⟨first, rest, same, alpha⟩ := isKind.word.head
    exact ⟨first, _, by rw [same, List.cons_append], alpha⟩
  case chars =>
    intro c member
    rcases List.mem_append.mp member with inKind | member
    · exact isKind.word.chars c inKind
    · rcases List.mem_cons.mp member with rfl | inDigest
      · rfl
      · have digit := digits c inDigest
        have all : "0123456789abcdef".toList.all isWordChar = true := rfl
        exact List.all_eq_true.mp all c digit
  case short =>
    have short := isKind.short
    rw [List.length_append, List.length_cons, length]
    omega

/-- The manifest of an asset is a path unless a newline is behind the id. -/
theorem manifestRelpath_accepted_iff {key : Identifier} (known : identifierAccepted key = true) :
    relativePathAccepted ("inputs/manifests/" ++ key ++ ".json") = true ↔ '\n' ∉ key.toList := by
  have inputs : IsWord "inputs".toList := ⟨⟨'i', _, rfl, rfl⟩, List.all_eq_true.mp rfl, by decide⟩
  have manifests : IsWord "manifests".toList :=
    ⟨⟨'m', _, rfl, rfl⟩, List.all_eq_true.mp rfl, by decide⟩
  have spelled : ("inputs/manifests/" ++ key ++ ".json").toList =
      "inputs".toList ++ '/' :: ("manifests".toList ++ '/' :: (key.toList ++ ".json".toList)) := by
    have folder : "inputs/manifests/".toList =
        "inputs".toList ++ '/' :: ("manifests".toList ++ ['/']) := rfl
    rw [String.toList_append, String.toList_append, folder]
    simp
  rcases identifierAccepted_iff.mp known with isWord | ⟨word, withNewline, -⟩
  · refine iff_of_true ?_ fun member => (isWord.segment.chars _ member).2.2 rfl
    have name : IsSegment (key.toList ++ ".json".toList) := by
      obtain ⟨first, rest, same, alpha⟩ := isWord.head
      have plain := isWord.segment
      refine ⟨by simp [same], ⟨?_, ?_⟩, ?_⟩
      · intro equal
        have lengths := congrArg List.length equal
        simp at lengths
      · intro equal
        have lengths := congrArg List.length equal
        simp at lengths
      · intro c member
        rcases List.mem_append.mp member with inKey | inSuffix
        · exact plain.chars c inKey
        · have all : ".json".toList.all (fun c => c != '/' && c != '\\' && c != '\n') = true := rfl
          simpa [and_assoc] using List.all_eq_true.mp all c inSuffix
    refine relativePathAccepted_of
      ["inputs".toList, "manifests".toList, key.toList ++ ".json".toList] (.inl ?_) (by simp) ?_ ?_
    · rw [spelled]
      simp [List.intercalate_cons_cons]
    · intro segment member
      simp only [List.mem_cons, List.not_mem_nil, or_false] at member
      rcases member with rfl | rfl | rfl
      · exact inputs.segment
      · exact manifests.segment
      · exact name
    · have short := isWord.short
      have one : "inputs".toList.length = 6 := rfl
      have two : "manifests".toList.length = 9 := rfl
      have three : ".json".toList.length = 5 := rfl
      rw [spelled, List.length_append, List.length_cons, List.length_append, List.length_cons,
        List.length_append, one, two, three]
      omega
  · refine iff_of_false ?_ (by simp [withNewline])
    rw [Bool.not_eq_true]
    refine relativePathAccepted_of_newline
      ("inputs".toList ++ '/' :: ("manifests".toList ++ '/' :: word)) ".json".toList ?_ (by decide)
    rw [spelled, withNewline]
    simp

section

variable {credentialSafe : String → Bool} {digest : String → String} {taskId : Identifier}
  {revision : Nat} {createdAt : Timestamp} {assetIds : List Identifier}

theorem kinds : IsKind "proposal" ∧ IsKind "stage" ∧ IsKind "work" ∧ IsKind "instance" ∧
    IsKind "card" := by
  refine ⟨⟨⟨⟨'p', _, rfl, rfl⟩, List.all_eq_true.mp rfl, by decide⟩, by decide⟩,
    ⟨⟨⟨'s', _, rfl, rfl⟩, List.all_eq_true.mp rfl, by decide⟩, by decide⟩,
    ⟨⟨⟨'w', _, rfl, rfl⟩, List.all_eq_true.mp rfl, by decide⟩, by decide⟩,
    ⟨⟨⟨'i', _, rfl, rfl⟩, List.all_eq_true.mp rfl, by decide⟩, by decide⟩,
    ⟨⟨⟨'c', _, rfl, rfl⟩, List.all_eq_true.mp rfl, by decide⟩, by decide⟩⟩

/-- The contract of a stage asks only for what the loop builds. -/
theorem plannedStage_accepted (hexadecimal : HexDigest digest) {stages : List DraftStage}
    {index : Nat} (inside : index < stages.length) :
    (plannedEntry digest taskId revision createdAt stages index
      stages[index]).stage.accepted = true := by
  have stageIds := derivedId_accepted hexadecimal kinds.2.1
  have position : 1 ≤ index + 1 := Nat.le_add_left 1 index
  have depends : (plannedEntry digest taskId revision createdAt stages index
      stages[index]).stage.dependsOn.all identifierAccepted = true ∧
      (plannedEntry digest taskId revision createdAt stages index
        stages[index]).stage.dependsOn.Nodup := by
    rcases plannedEntry_cases inside with ⟨stageFree, -⟩ | ⟨before, -, -, -, -, waits, -⟩
    · rw [stageFree]
      exact ⟨rfl, List.nodup_nil⟩
    · rw [waits, List.all_cons, List.all_nil, Bool.and_true]
      exact ⟨stageIds _, List.nodup_singleton _⟩
  simp only [ProposalStage.accepted, Bool.and_eq_true]
  exact ⟨⟨⟨stageIds _, decide_eq_true position⟩, depends.1⟩, decide_eq_true depends.2⟩

/-- The contract of a work item asks for a title besides. -/
theorem plannedItem_accepted (hexadecimal : HexDigest digest)
    (identified : identifierAccepted taskId = true) {stages : List DraftStage} {index : Nat}
    (inside : index < stages.length) (title : safeText credentialSafe 256 stages[index].title = true) :
    (plannedEntry digest taskId revision createdAt stages index
      stages[index]).item.accepted credentialSafe = true := by
  obtain ⟨-, stageKind, workKind, instanceKind, cardKind⟩ := kinds
  have ids := fun {kind : String} (isKind : IsKind kind) position =>
    show identifierAccepted (positionId digest taskId revision kind position) = true from
      derivedId_accepted hexadecimal isKind _
  have depends : (plannedEntry digest taskId revision createdAt stages index
      stages[index]).item.dependsOn.all identifierAccepted = true ∧
      (plannedEntry digest taskId revision createdAt stages index
        stages[index]).item.dependsOn.Nodup := by
    rcases plannedEntry_cases inside with ⟨-, itemFree⟩ | ⟨before, -, -, -, -, -, waits⟩
    · rw [itemFree]
      exact ⟨rfl, List.nodup_nil⟩
    · rw [waits, List.all_cons, List.all_nil, Bool.and_true]
      exact ⟨ids workKind _, List.nodup_singleton _⟩
  have instances : [positionId digest taskId revision "instance" (index + 1)].all
      identifierAccepted = true := by
    rw [List.all_cons, List.all_nil, Bool.and_true]
    exact ids instanceKind _
  have cards : [positionId digest taskId revision "card" (index + 1)].all
      identifierAccepted = true := by
    rw [List.all_cons, List.all_nil, Bool.and_true]
    exact ids cardKind _
  simp only [WorkItem.accepted, Bool.and_eq_true]
  exact ⟨⟨⟨⟨⟨⟨⟨⟨⟨⟨ids workKind _, identified⟩, ids stageKind _⟩, title⟩, depends.1⟩,
    decide_eq_true depends.2⟩, ids instanceKind _⟩, instances⟩,
    decide_eq_true (List.nodup_singleton _)⟩, cards⟩, decide_eq_true (List.nodup_singleton _)⟩

/-- The contract of a card asks for the category of a version, and for paths. -/
theorem plannedCard_accepted_iff (hexadecimal : HexDigest digest)
    (identified : identifierAccepted taskId = true)
    (catalogue : ∀ assetId ∈ assetIds, identifierAccepted assetId = true)
    {stages : List DraftStage} {index : Nat} (inside : index < stages.length)
    (accepted : stages[index].accepted assetIds = true)
    (safe : stages[index].safe credentialSafe = true) :
    (plannedEntry digest taskId revision createdAt stages index
        stages[index]).card.accepted credentialSafe = true ↔
      stages[index].parameters.categorised = true ∧
        ∀ assetId ∈ stages[index].inputAssetIds, '\n' ∉ assetId.toList := by
  obtain ⟨-, stageKind, -, instanceKind, cardKind⟩ := kinds
  have ids := fun {kind : String} (isKind : IsKind kind) position =>
    show identifierAccepted (positionId digest taskId revision kind position) = true from
      derivedId_accepted hexadecimal isKind _
  generalize stages[index] = stage at accepted safe ⊢
  simp only [DraftStage.accepted, inputAssetIdsAccepted, Bool.and_eq_true, List.all_eq_true,
    decide_eq_true_eq] at accepted
  obtain ⟨⟨⟨⟨⟨⟨⟨⟨⟨-, objective⟩, -⟩, -⟩, instructions⟩, ⟨-, known⟩⟩, someDelivery⟩, -⟩, deliveries⟩,
    parameters⟩ := accepted
  simp only [DraftStage.safe, Bool.and_eq_true, List.all_eq_true] at safe
  obtain ⟨⟨⟨⟨-, safeObjective⟩, safeInstructions⟩, safeRoles⟩, safeParameters⟩ := safe
  have objectiveAccepted : safeText credentialSafe 20000 stage.objective = true := by
    rw [safeText, safeObjective, objective]
    rfl
  have instructionsAccepted : stage.instructions.all (safeText credentialSafe 10000) = true := by
    rw [List.all_eq_true]
    intro text member
    rw [safeText, safeInstructions text member, instructions text member]
    rfl
  have deliveriesAccepted :
      stage.expectedDeliveries.all (ExpectedDelivery.accepted credentialSafe) = true := by
    rw [List.all_eq_true]
    intro delivery member
    have drafted := deliveries delivery member
    simp only [ExpectedDelivery.drafted, Bool.and_eq_true] at drafted
    simp only [ExpectedDelivery.accepted, safeText, safeRoles delivery member, drafted,
      Bool.and_self]
  have paths : (stage.inputAssetIds.map fun assetId => (⟨assetId,
        "inputs/manifests/" ++ assetId ++ ".json"⟩ : AssetReference)).all AssetReference.accepted =
        true ↔ ∀ assetId ∈ stage.inputAssetIds, '\n' ∉ assetId.toList := by
    rw [List.all_map, List.all_eq_true]
    refine forall₂_congr fun assetId member => ?_
    have identifier := catalogue assetId (known assetId member)
    rw [Function.comp_apply, AssetReference.accepted, identifier, Bool.true_and,
      manifestRelpath_accepted_iff identifier]
  have contract := DraftParameters.card_accepted_iff parameters safeParameters
  simp only [plannedEntry, draftEntry, ExecutionCard.accepted, ids cardKind, ids stageKind,
    ids instanceKind, identified, objectiveAccepted, instructionsAccepted, deliveriesAccepted,
    someDelivery, DraftStage.type, le_refl, decide_true, Bool.true_and, Bool.and_true,
    Option.all_none, Bool.and_eq_true, paths, contract]
  exact and_comm

/-- The contract of a proposal comes down to that of its cards. -/
theorem proposalOf_accepted_iff (hexadecimal : HexDigest digest)
    (identified : identifierAccepted taskId = true) (positive : 1 ≤ revision)
    (catalogue : ∀ assetId ∈ assetIds, identifierAccepted assetId = true) {draft : PlanDraft}
    (accepted : draft.accepted assetIds = true) (safe : draft.safe credentialSafe = true) :
    (proposalOf digest taskId revision createdAt
        (plannedEntries digest taskId revision createdAt draft.stages)).accepted credentialSafe =
        true ↔
      (∀ stage ∈ draft.stages, stage.parameters.categorised = true) ∧
        ∀ stage ∈ draft.stages, ∀ assetId ∈ stage.inputAssetIds, '\n' ∉ assetId.toList := by
  simp only [PlanDraft.accepted, Bool.and_eq_true, Bool.not_eq_true', List.isEmpty_eq_false_iff,
    List.all_eq_true] at accepted
  obtain ⟨⟨some, -⟩, stages⟩ := accepted
  have safeStages := List.all_eq_true.mp safe
  have entries : plannedEntries digest taskId revision createdAt draft.stages ≠ [] := by
    simpa [plannedEntries] using some
  have stagesAccepted : ((plannedEntries digest taskId revision createdAt draft.stages).map
      DraftEntry.stage).all ProposalStage.accepted = true := by
    rw [List.all_map, List.all_eq_true]
    intro entry member
    obtain ⟨index, inside, rfl⟩ := mem_plannedEntries.mp member
    exact plannedStage_accepted hexadecimal inside
  have itemsAccepted : ((plannedEntries digest taskId revision createdAt draft.stages).map
      DraftEntry.item).all (WorkItem.accepted credentialSafe) = true := by
    rw [List.all_map, List.all_eq_true]
    intro entry member
    obtain ⟨index, inside, rfl⟩ := mem_plannedEntries.mp member
    refine plannedItem_accepted hexadecimal identified inside ?_
    have drafted := stages _ (List.getElem_mem inside)
    have plain := safeStages _ (List.getElem_mem inside)
    simp only [DraftStage.accepted, Bool.and_eq_true] at drafted
    simp only [DraftStage.safe, Bool.and_eq_true] at plain
    obtain ⟨⟨⟨⟨title, -⟩, -⟩, -⟩, -⟩ := plain
    rw [safeText, title, drafted.1.1.1.1.1.1.1.1.1]
    rfl
  have cards : ((plannedEntries digest taskId revision createdAt draft.stages).map
      DraftEntry.card).all (ExecutionCard.accepted credentialSafe) = true ↔
        (∀ stage ∈ draft.stages, stage.parameters.categorised = true) ∧
          ∀ stage ∈ draft.stages, ∀ assetId ∈ stage.inputAssetIds, '\n' ∉ assetId.toList := by
    rw [List.all_map, List.all_eq_true]
    have each : ∀ index (inside : index < draft.stages.length),
        (plannedEntry digest taskId revision createdAt draft.stages index
          draft.stages[index]).card.accepted credentialSafe = true ↔
          draft.stages[index].parameters.categorised = true ∧
            ∀ assetId ∈ draft.stages[index].inputAssetIds, '\n' ∉ assetId.toList :=
      fun index inside => plannedCard_accepted_iff hexadecimal identified catalogue inside
        (stages _ (List.getElem_mem inside)) (safeStages _ (List.getElem_mem inside))
    constructor
    · intro all
      have both : ∀ stage ∈ draft.stages, stage.parameters.categorised = true ∧
          ∀ assetId ∈ stage.inputAssetIds, '\n' ∉ assetId.toList := by
        intro stage member
        obtain ⟨index, inside, rfl⟩ := List.mem_iff_getElem.mp member
        exact (each index inside).mp (all _ (mem_plannedEntries.mpr ⟨index, inside, rfl⟩))
      exact ⟨fun stage member => (both stage member).1, fun stage member => (both stage member).2⟩
    · rintro ⟨categorised, plain⟩ entry member
      obtain ⟨index, inside, rfl⟩ := mem_plannedEntries.mp member
      exact (each index inside).mpr
        ⟨categorised _ (List.getElem_mem inside), plain _ (List.getElem_mem inside)⟩
  have proposalId := derivedId_accepted hexadecimal kinds.1 [taskId, toString revision]
  simp only [PlanProposal.accepted, proposalOf, proposalId, identified, positive, decide_true,
    stagesAccepted, itemsAccepted, List.isEmpty_map, List.isEmpty_eq_false_iff.mpr entries,
    Bool.not_false, Bool.true_and, Bool.and_eq_true, cards]
  simp

/-- What `materialize_plan_draft` returns. -/
theorem materializePlanDraft_eq {draft : PlanDraft} {proposal : PlanProposal}
    (built : materializePlanDraft digest taskId revision createdAt assetIds draft =
      .ok proposal) :
    proposal = proposalOf digest taskId revision createdAt
      (plannedEntries digest taskId revision createdAt draft.stages) := by
  simp only [materializePlanDraft, bind_eq_ok, pure_eq_ok, Except.ok.injEq] at built
  obtain ⟨-, -, entries, loop, rfl⟩ := built
  rw [draftEntries_eq loop]
  rfl

end

/-- An accepted draft becomes a proposal unless it has too many Image stages. -/
theorem materializePlanDraft_isOk_iff {digest : String → String} {taskId : Identifier}
    {revision : Nat} {createdAt : Timestamp} {assetIds : List Identifier} {draft : PlanDraft}
    (accepted : draft.accepted assetIds = true) :
    (∃ proposal, materializePlanDraft digest taskId revision createdAt assetIds draft =
        .ok proposal) ↔
      (draft.stages.filter fun stage => stage.type = .image).length ≤ maxImageStages := by
  have known : ∀ stage ∈ draft.stages, ∀ assetId ∈ stage.inputAssetIds, assetId ∈ assetIds := by
    simp only [PlanDraft.accepted, DraftStage.accepted, inputAssetIdsAccepted, Bool.and_eq_true,
      List.all_eq_true, decide_eq_true_eq] at accepted
    intro stage member
    obtain ⟨⟨⟨⟨-, ⟨-, known⟩⟩, -⟩, -⟩, -⟩ := (accepted.2 stage member).1
    exact known
  have loop : ∀ previous position, ∃ entries,
      draftEntries digest taskId revision createdAt assetIds previous position draft.stages =
        .ok entries := by
    generalize draft.stages = stages at known
    induction stages with
    | nil => exact fun _ _ => ⟨[], rfl⟩
    | cons stage rest ih =>
        intro previous position
        have checked := known stage List.mem_cons_self
        have later := ih fun other member => known other (List.mem_cons_of_mem _ member)
        obtain ⟨entries, built⟩ := later (some ⟨positionId digest taskId revision "stage" position,
          stage.type, positionId digest taskId revision "work" position⟩) (position + 1)
        refine ⟨draftEntry digest taskId revision createdAt position stage
          (draftDependencies previous stage).1 (draftDependencies previous stage).2 :: entries, ?_⟩
        simp only [draftEntries, ensure_of checked, ok_bind, draftEntry, built, pure_eq_ok]
  constructor
  · rintro ⟨proposal, built⟩
    simp only [materializePlanDraft, bind_eq_ok, ensure_eq_ok] at built
    obtain ⟨-, few, -⟩ := built
    exact few
  · intro few
    obtain ⟨entries, built⟩ := loop none 1
    exact ⟨_, by rw [materializePlanDraft, ensure_of few, ok_bind, built, ok_bind, pure_eq_ok]⟩

/-- The proposal of an accepted response is accepted exactly when its Image stages name the category
    of a version and no input asset has an id with a newline behind it. -/
theorem drafted_proposal_valid_iff {credentialSafe : String → Bool} {digest : String → String}
    {taskId : Identifier} {revision : Nat} {createdAt : Timestamp} {assetIds : List Identifier}
    {response : MasterResponse} {draft : PlanDraft} {proposal : PlanProposal}
    (hexadecimal : HexDigest digest)
    (distinct : PositionsDistinct digest taskId revision draft.stages.length)
    (identified : identifierAccepted taskId = true) (positive : 1 ≤ revision)
    (catalogue : ∀ assetId ∈ assetIds, identifierAccepted assetId = true)
    (accepted : response.accepted assetIds = true) (planned : response.planDraft = some draft)
    (safe : draft.safe credentialSafe = true)
    (built : materializePlanDraft digest taskId revision createdAt assetIds draft =
      .ok proposal) :
    validatePlanProposal credentialSafe proposal taskId revision = .ok () ↔
      (∀ stage ∈ draft.stages, stage.parameters.categorised = true) ∧
        ∀ stage ∈ draft.stages, ∀ assetId ∈ stage.inputAssetIds, '\n' ∉ assetId.toList := by
  have draftAccepted : draft.accepted assetIds = true := by
    simp only [MasterResponse.accepted, Bool.and_eq_true, planned, Option.all_some] at accepted
    exact accepted.2
  rw [materializePlanDraft_eq built, validatePlanProposal_eq_ok, proposalOf_valid_iff distinct,
    proposalOf_accepted_iff hexadecimal identified positive catalogue draftAccepted safe]

/-! ## Two drafts -/

/-- SHA-256 on the texts of the first plan of a task named `task`, cut to 32 digits. -/
def sampleDigest (text : String) : String :=
  if text = "task\x001" then "7062dfadd4d1e62a7e1b3c2315b26707"
  else if text = "task\x001\x001" then "7933179bacedc7baddf65745c1a44134"
  else if text = "task\x001\x002" then "673e1f5e330940da974a06511017a3e9"
  else "00000000000000000000000000000000"

theorem sampleDigest_hex : HexDigest sampleDigest := by
  have hex : ∀ value : String, (decide (value.toList.length = 32) &&
      value.toList.all (fun c => "0123456789abcdef".toList.contains c)) = true →
      value.toList.length = 32 ∧ ∀ c ∈ value.toList, c ∈ "0123456789abcdef".toList := by
    intro value checked
    rw [Bool.and_eq_true, decide_eq_true_eq, List.all_eq_true] at checked
    exact ⟨checked.1, fun c member => List.contains_iff_mem.mp (checked.2 c member)⟩
  intro text
  unfold sampleDigest
  split
  · exact hex _ (by decide +kernel)
  · split
    · exact hex _ (by decide +kernel)
    · split
      · exact hex _ (by decide +kernel)
      · exact hex _ (by decide +kernel)

theorem sampleDigest_distinct {count : Nat} (few : count ≤ 2) :
    PositionsDistinct sampleDigest "task" 1 count := by
  have differ : sampleDigest ("\x00".intercalate ["task", toString 1, toString 1]) ≠
      sampleDigest ("\x00".intercalate ["task", toString 1, toString 2]) := by decide +kernel
  intro one other oneMin oneMax otherMin otherMax same
  have oneCases : one = 1 ∨ one = 2 := by omega
  have otherCases : other = 1 ∨ other = 2 := by omega
  rcases oneCases with rfl | rfl <;> rcases otherCases with rfl | rfl
  · rfl
  · exact absurd same differ
  · exact absurd same.symm differ
  · rfl

/-- An Image stage with the given category and version. -/
def coverStage (categoryId categoryVersion : Option String) : DraftStage where
  title := "Cover"
  required := true
  objective := "Draw the cover"
  instructions := ["Follow asset_1/page/1."]
  inputAssetIds := ["asset_1"]
  expectedDeliveries := [⟨.image, "cover", true, ["image/png"]⟩]
  parameters := .image (some "16:9") (some 2) none categoryId categoryVersion

def slidesStage : DraftStage where
  title := "Slides"
  required := true
  objective := "Lay the slides out"
  instructions := ["Use the cover."]
  inputAssetIds := []
  expectedDeliveries := [⟨.presentation, "deck", true, ["application/pdf"]⟩]
  parameters := .ppt (some 10) (some "deck")

def responseOf (draft : PlanDraft) : MasterResponse :=
  ⟨.planReady, "Here is a plan.", some "Cover and slides", some draft⟩

/-- A cover with a category, and the slides that wait for it. -/
def coverDraft : PlanDraft := ⟨[coverStage (some "poster") (some "1.0"), slidesStage]⟩

/-- A cover with the version of no category. -/
def uncategorisedDraft : PlanDraft := ⟨[coverStage none (some "1.0")]⟩

theorem coverDraft_accepted :
    validatePlanProposal (fun _ => true) (proposalOf sampleDigest "task" 1 "t0"
      (plannedEntries sampleDigest "task" 1 "t0" coverDraft.stages)) "task" 1 = .ok () :=
  (drafted_proposal_valid_iff sampleDigest_hex
    (sampleDigest_distinct (by decide)) (by decide +kernel) le_rfl
    (show ∀ assetId ∈ ["asset_1"], identifierAccepted assetId = true by decide +kernel)
    (show (responseOf coverDraft).accepted ["asset_1"] = true by decide +kernel) rfl
    (by decide +kernel)
    (show materializePlanDraft sampleDigest "task" 1 "t0" ["asset_1"] coverDraft = _ by
      decide +kernel)).mpr (by decide +kernel)

/-- A version without a category passes the schema of the model, and its proposal is refused. -/
theorem uncategorised_draft_refused :
    ¬ ∀ (credentialSafe : String → Bool) (digest : String → String) (taskId : Identifier)
      (revision : Nat) (createdAt : Timestamp) (assetIds : List Identifier)
      (response : MasterResponse) (draft : PlanDraft) (proposal : PlanProposal),
      HexDigest digest → PositionsDistinct digest taskId revision draft.stages.length →
      identifierAccepted taskId = true → 1 ≤ revision →
      (∀ assetId ∈ assetIds, identifierAccepted assetId = true) →
      response.accepted assetIds = true → response.planDraft = some draft →
      draft.safe credentialSafe = true →
      materializePlanDraft digest taskId revision createdAt assetIds draft = .ok proposal →
      validatePlanProposal credentialSafe proposal taskId revision = .ok () := by
  intro claim
  have valid := claim (fun _ => true) sampleDigest "task" 1 "t0" ["asset_1"]
    (responseOf uncategorisedDraft) uncategorisedDraft
    (proposalOf sampleDigest "task" 1 "t0"
      (plannedEntries sampleDigest "task" 1 "t0" uncategorisedDraft.stages))
    sampleDigest_hex (sampleDigest_distinct (by decide)) (by decide +kernel) le_rfl
    (by decide +kernel) (by decide +kernel) rfl (by decide +kernel) (by decide +kernel)
  have refused : (validatePlanProposal (fun _ => true) (proposalOf sampleDigest "task" 1 "t0"
      (plannedEntries sampleDigest "task" 1 "t0" uncategorisedDraft.stages)) "task" 1).isOk =
      false := by decide +kernel
  rw [valid] at refused
  cases refused

end DesignHarness
