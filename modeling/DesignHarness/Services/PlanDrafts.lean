import DesignHarness.Domain.PlanProposals

/-!
# Plan drafts of the Master

`plan_drafts.py`: the structured answer of the model is checked against `master_response_schema`,
and its PlanDraft becomes a PlanProposal (`materialize_plan_draft`).  The texts of `asset_ids` are
those of the task's catalogue; the hexadecimal digest of a derived id is a parameter.
-/

namespace DesignHarness

open Library

/-- `parameters` of a stage of a draft, which fix its type. -/
inductive DraftParameters where
  | image (aspectRatio : Option String) (variants : Option Nat) (usageContext : Option String)
      (categoryId categoryVersion : Option String)
  | ppt (slideCount : Option Nat) (plannedAssetRole : Option String)
  | general
  deriving DecidableEq, Repr

def DraftParameters.type : DraftParameters → AgentType
  | .image .. => .image
  | .ppt .. => .ppt
  | .general => .general

structure DraftStage where
  title : String
  required : Bool
  objective : String
  instructions : List String
  inputAssetIds : List Identifier
  expectedDeliveries : List ExpectedDelivery
  parameters : DraftParameters
  deriving DecidableEq, Repr

/-- `type` of a stage. -/
def DraftStage.type (stage : DraftStage) : AgentType := stage.parameters.type

structure PlanDraft where
  stages : List DraftStage
  deriving DecidableEq, Repr

/-- `status` of a response. -/
inductive MasterStatus where
  | needsInput
  | planReady
  deriving DecidableEq, Repr

structure MasterResponse where
  status : MasterStatus
  message : String
  taskTitle : Option String
  planDraft : Option PlanDraft
  deriving DecidableEq, Repr

/-- `_MAX_IMAGE_STAGES`. -/
def maxImageStages : Nat := 6

/-- `_MAX_STAGES`. -/
def maxStages : Nat := 8

/-- `delivery`. -/
def ExpectedDelivery.drafted (delivery : ExpectedDelivery) : Bool :=
  textWithin 128 delivery.role && !delivery.acceptedMimeTypes.isEmpty &&
    decide (delivery.acceptedMimeTypes.length ≤ 20) && decide delivery.acceptedMimeTypes.Nodup &&
    delivery.acceptedMimeTypes.all mimeTypeAccepted

/-- `parameters` of `image_stage`, `ppt_stage` and `general_stage`. -/
def DraftParameters.accepted : DraftParameters → Bool
  | .image aspectRatio variants usageContext categoryId categoryVersion =>
      aspectRatio.all aspectRatioAccepted &&
        variants.all (fun variants => decide (1 ≤ variants ∧ variants ≤ 64)) &&
        usageContext.all (textWithin 10000) && categoryId.all categoryIdAccepted &&
        categoryVersion.all categoryVersionAccepted
  | .ppt slideCount plannedAssetRole =>
      slideCount.all (fun count => decide (1 ≤ count ∧ count ≤ 500)) &&
        plannedAssetRole.all identifierAccepted
  | .general => true

/-- `input_asset_ids`; without assets `maxItems` is 0. -/
def inputAssetIdsAccepted (assetIds inputs : List Identifier) : Bool :=
  decide inputs.Nodup && decide (inputs.length ≤ assetIds.length) &&
    inputs.all fun assetId => decide (assetId ∈ assetIds)

/-- `common_stage_properties` and the parameters of the type. -/
def DraftStage.accepted (assetIds : List Identifier) (stage : DraftStage) : Bool :=
  textWithin 256 stage.title && textWithin 20000 stage.objective &&
    !stage.instructions.isEmpty && decide (stage.instructions.length ≤ 100) &&
    stage.instructions.all (textWithin 10000) &&
    inputAssetIdsAccepted assetIds stage.inputAssetIds &&
    !stage.expectedDeliveries.isEmpty && decide (stage.expectedDeliveries.length ≤ 20) &&
    stage.expectedDeliveries.all ExpectedDelivery.drafted && stage.parameters.accepted

/-- `plan_draft`. -/
def PlanDraft.accepted (assetIds : List Identifier) (draft : PlanDraft) : Bool :=
  !draft.stages.isEmpty && decide (draft.stages.length ≤ maxStages) &&
    draft.stages.all (DraftStage.accepted assetIds)

/-- `validate_master_response(master_response_schema(asset_ids), output)` raises nothing. -/
def MasterResponse.accepted (assetIds : List Identifier) (response : MasterResponse) : Bool :=
  textWithin 20000 response.message && response.taskTitle.all (textWithin 256) &&
    response.planDraft.all (PlanDraft.accepted assetIds)

/-! ## `materialize_plan_draft` -/

/-- `PlanDraftValidationError`. -/
structure PlanDraftValidationError where
  schema : String
  path : String
  reason : String
  deriving DecidableEq, Repr

section

variable (digest : String → String)

/-- `_identifier`. -/
def derivedId (kind : String) (parts : List String) : Identifier :=
  kind ++ "_" ++ digest ("\x00".intercalate parts)

variable (taskId : Identifier) (revision : Nat)

/-- `_identifier(kind, task_id, revision, position)`. -/
def positionId (kind : String) (position : Nat) : Identifier :=
  derivedId digest kind [taskId, toString revision, toString position]

/-- `{key: value for key, value in parameters.items() if value is not None}`. -/
def DraftParameters.card : DraftParameters → CardParameters
  | .image aspectRatio variants usageContext categoryId categoryVersion =>
      { aspectRatio := aspectRatio
        variants := variants
        usageContext := usageContext
        categoryId := categoryId
        categoryVersion := categoryVersion }
  | .ppt slideCount plannedAssetRole =>
      { slideCount := slideCount
        plannedAssetRole := plannedAssetRole }
  | .general => {}

/-- What one round of the loop appends to the three lists. -/
structure DraftEntry where
  stage : ProposalStage
  item : WorkItem
  card : ExecutionCard
  deriving DecidableEq, Repr

variable (createdAt : Timestamp)

/-- The three records of a stage (`plan_drafts.py:307-360`). -/
def draftEntry (position : Nat) (stage : DraftStage)
    (stageDependencies workDependencies : List Identifier) : DraftEntry :=
  let stageId := positionId digest taskId revision "stage" position
  let workItemId := positionId digest taskId revision "work" position
  let instanceId := positionId digest taskId revision "instance" position
  let cardId := positionId digest taskId revision "card" position
  { stage :=
      { stageId := stageId
        type := stage.type
        position := position
        dependsOn := stageDependencies
        required := stage.required }
    item :=
      { workItemId := workItemId
        taskId := taskId
        stageId := stageId
        title := stage.title
        agentType := stage.type
        required := stage.required
        dependsOn := workDependencies
        currentInstanceId := some instanceId
        instanceIds := [instanceId]
        taskCardIds := [cardId] }
    card :=
      { cardId := cardId
        revision := 1
        taskId := taskId
        stageId := stageId
        instanceId := instanceId
        agentType := stage.type
        objective := stage.objective
        instructions := stage.instructions
        inputAssets := stage.inputAssetIds.map fun assetId =>
          { assetId := assetId, manifestRelpath := "inputs/manifests/" ++ assetId ++ ".json" }
        expectedDeliveries := stage.expectedDeliveries
        parameters := stage.parameters.card
        createdAt := createdAt } }

/-- `previous_stage_id`, `previous_stage_type` and `previous_work_item_id`. -/
structure PreviousStage where
  stageId : Identifier
  type : AgentType
  workItemId : Identifier
  deriving DecidableEq, Repr

/-- `stage_dependencies` and `work_dependencies`. -/
def draftDependencies (previous : Option PreviousStage) (stage : DraftStage) :
    List Identifier × List Identifier :=
  match previous with
  | none => ([], [])
  | some before =>
      if before.type = .image ∧ stage.type = .ppt then ([before.stageId], [before.workItemId])
      else ([], [])

variable (assetIds : List Identifier)

/-- `for position, stage in enumerate(stages, start=1)`. -/
def draftEntries : Option PreviousStage → Nat → List DraftStage →
    Except PlanDraftValidationError (List DraftEntry)
  | _, _, [] => .ok []
  | previous, position, stage :: rest => do
      ensure (∀ assetId ∈ stage.inputAssetIds, assetId ∈ assetIds)
        ⟨"plan-draft", "stages." ++ toString (position - 1) ++ ".input_asset_ids",
          "unknown_asset_reference"⟩
      let (stageDependencies, workDependencies) := draftDependencies previous stage
      let entry := draftEntry digest taskId revision createdAt position stage stageDependencies
        workDependencies
      let later ← draftEntries
        (some ⟨entry.stage.stageId, stage.type, entry.item.workItemId⟩) (position + 1) rest
      return entry :: later

/-- `materialize_plan_draft` (`plan_drafts.py:254-366`). -/
def materializePlanDraft (draft : PlanDraft) :
    Except PlanDraftValidationError PlanProposal := do
  ensure ((draft.stages.filter fun stage => stage.type = .image).length ≤ maxImageStages)
    ⟨"plan-draft", "stages", "too_many_image_stages"⟩
  let entries ← draftEntries digest taskId revision createdAt assetIds none 1 draft.stages
  return {
    proposalId := derivedId digest "proposal" [taskId, toString revision]
    taskId := taskId
    revision := revision
    status := .pendingConfirmation
    stages := entries.map DraftEntry.stage
    workItems := entries.map DraftEntry.item
    executionCards := entries.map DraftEntry.card
    createdAt := createdAt
    updatedAt := createdAt
    confirmedAt := none }

end

end DesignHarness
