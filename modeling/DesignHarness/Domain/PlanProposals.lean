import DesignHarness.Domain.Service

/-!
# Master plans

`master.py`: a PlanProposal is validated as a whole (`validate_plan_proposal`) and translated to the
payload of `save_plan` (`materialize_plan_proposal`).  The contracts are those of
`plan-proposal.schema.json`, `work-item.schema.json` and `task-card-v1.1.schema.json`; what
`credentialSafeText` refuses is a parameter, and time stamps are texts of the clock.
-/

namespace DesignHarness

open Library

/-- `^[A-Za-z][A-Za-z0-9_-]{0,127}$`. -/
def identifierAccepted : String → Bool :=
  matchesLine fun
    | [] => false
    | first :: rest => first.isAlpha && decide (rest.length ≤ 127) &&
        rest.all fun c => c.isAlphanum || c == '_' || c == '-'

/-- `^[A-Za-z][A-Za-z0-9_.-]{0,127}$`. -/
def categoryIdAccepted : String → Bool :=
  matchesLine fun
    | [] => false
    | first :: rest => first.isAlpha && decide (rest.length ≤ 127) &&
        rest.all fun c => c.isAlphanum || c == '_' || c == '.' || c == '-'

/-- `^[A-Za-z0-9][A-Za-z0-9_.-]{0,63}$`. -/
def categoryVersionAccepted : String → Bool :=
  matchesLine fun
    | [] => false
    | first :: rest => first.isAlphanum && decide (rest.length ≤ 63) &&
        rest.all fun c => c.isAlphanum || c == '_' || c == '.' || c == '-'

/-- `[1-9][0-9]{0,3}`. -/
def isRatioPart : List Char → Bool
  | [] => false
  | first :: rest => first.isDigit && first != '0' && decide (rest.length ≤ 3) &&
      rest.all Char.isDigit

/-- `^[1-9][0-9]{0,3}:[1-9][0-9]{0,3}$`. -/
def aspectRatioAccepted : String → Bool :=
  matchesLine fun text =>
    match text.dropWhile (· != ':') with
    | ':' :: height => isRatioPart (text.takeWhile (· != ':')) && isRatioPart height
    | _ => false

/-- `[a-z0-9.+-]`. -/
def isMimeChar (c : Char) : Bool := c.isLower || c.isDigit || c == '.' || c == '+' || c == '-'

/-- `^[a-z0-9.+-]+/[a-z0-9.+-]+$`. -/
def mimeTypeAccepted : String → Bool :=
  matchesLine fun text =>
    match text.dropWhile isMimeChar with
    | '/' :: subtype => !(text.takeWhile isMimeChar).isEmpty && !subtype.isEmpty &&
        subtype.all isMimeChar
    | _ => false

/-- `status` of a PlanProposal. -/
inductive PlanProposalStatus where
  | pendingConfirmation
  | confirmed
  | superseded
  | rejected
  deriving DecidableEq, Repr

/-- `proposalStage` (`plan-proposal.schema.json`). -/
structure ProposalStage where
  stageId : Identifier
  type : AgentType
  position : Nat
  dependsOn : List Identifier
  required : Bool
  deriving DecidableEq, Repr

/-- `WorkItem` (`work-item.schema.json`). -/
structure WorkItem where
  workItemId : Identifier
  taskId : Identifier
  stageId : Identifier
  title : String
  agentType : AgentType
  required : Bool
  dependsOn : List Identifier
  currentInstanceId : Option Identifier
  instanceIds : List Identifier
  taskCardIds : List Identifier
  deriving DecidableEq, Repr

/-- `assetReference` (`common.schema.json`). -/
structure AssetReference where
  assetId : Identifier
  manifestRelpath : String
  deriving DecidableEq, Repr

inductive InputSource where
  | shared
  | empty
  deriving DecidableEq, Repr

/-- `parameters` of a card: those of the image, ppt and general agents together. -/
structure CardParameters where
  aspectRatio : Option String := none
  variants : Option Nat := none
  usageContext : Option String := none
  categoryId : Option String := none
  categoryVersion : Option String := none
  slideCount : Option Nat := none
  inputSource : Option InputSource := none
  plannedAssetRole : Option String := none
  deriving DecidableEq, Repr

/-- `TaskCard` of version 1.1 (`task-card-v1.1.schema.json`). -/
structure ExecutionCard where
  cardId : Identifier
  revision : Nat
  taskId : Identifier
  stageId : Identifier
  instanceId : Identifier
  agentType : AgentType
  objective : String
  instructions : List String
  inputAssets : List AssetReference
  expectedDeliveries : List ExpectedDelivery
  parameters : CardParameters
  retryGroupId : Option Identifier := none
  createdAt : Timestamp
  deriving DecidableEq, Repr

/-- `PlanProposal` (`plan-proposal.schema.json`). -/
structure PlanProposal where
  proposalId : Identifier
  taskId : Identifier
  revision : Nat
  status : PlanProposalStatus
  stages : List ProposalStage
  workItems : List WorkItem
  executionCards : List ExecutionCard
  createdAt : Timestamp
  updatedAt : Timestamp
  confirmedAt : Option Timestamp
  deriving DecidableEq, Repr

/-- The `relativePath` of `common.schema.json`: not absolute, no empty segment before the last, no
    `.` or `..`, no backslash, one line. -/
def relativePathAccepted (value : String) : Bool :=
  textWithin 1024 value && matchesLine (fun text =>
    !text.isEmpty && text.head? != some '/' && !text.contains '\\' && !text.contains '\n' &&
      (text.splitOn '/').dropLast.all (!·.isEmpty) &&
      (text.splitOn '/').all fun segment => segment != ['.'] && segment != ['.', '.']) value

def AssetReference.accepted (asset : AssetReference) : Bool :=
  identifierAccepted asset.assetId && relativePathAccepted asset.manifestRelpath

section

variable (credentialSafe : String → Bool)

/-- A `credentialSafeText` of at most `limit` characters. -/
def safeText (limit : Nat) (value : String) : Bool := credentialSafe value && textWithin limit value

def ExpectedDelivery.accepted (delivery : ExpectedDelivery) : Bool :=
  safeText credentialSafe 128 delivery.role && !delivery.acceptedMimeTypes.isEmpty &&
    decide delivery.acceptedMimeTypes.Nodup && delivery.acceptedMimeTypes.all mimeTypeAccepted

/-- `imageParameters`; a version requires the category that it is a version of. -/
def CardParameters.imageAccepted (parameters : CardParameters) : Bool :=
  parameters.slideCount.isNone && parameters.inputSource.isNone &&
    parameters.plannedAssetRole.isNone &&
    parameters.aspectRatio.all aspectRatioAccepted &&
    parameters.variants.all (fun variants => decide (1 ≤ variants ∧ variants ≤ 64)) &&
    parameters.usageContext.all (safeText credentialSafe 10000) &&
    parameters.categoryId.all categoryIdAccepted &&
    parameters.categoryVersion.all categoryVersionAccepted &&
    (parameters.categoryVersion.isNone || parameters.categoryId.isSome)

/-- `pptParameters`. -/
def CardParameters.pptAccepted (parameters : CardParameters) : Bool :=
  parameters.aspectRatio.isNone && parameters.variants.isNone && parameters.usageContext.isNone &&
    parameters.categoryId.isNone && parameters.categoryVersion.isNone &&
    parameters.slideCount.all (fun count => decide (1 ≤ count ∧ count ≤ 500)) &&
    parameters.plannedAssetRole.all (fun role => credentialSafe role && identifierAccepted role)

/-- The `oneOf` over the agent types. -/
def CardParameters.accepted (parameters : CardParameters) : AgentType → Bool
  | .image => parameters.imageAccepted credentialSafe
  | .ppt => parameters.pptAccepted credentialSafe
  | .general => decide (parameters = {})

/-- The `task-card` contract of version 1.1. -/
def ExecutionCard.accepted (card : ExecutionCard) : Bool :=
  identifierAccepted card.cardId && decide (1 ≤ card.revision) && identifierAccepted card.taskId &&
    identifierAccepted card.stageId && identifierAccepted card.instanceId &&
    safeText credentialSafe 20000 card.objective &&
    card.instructions.all (safeText credentialSafe 10000) &&
    card.inputAssets.all AssetReference.accepted && !card.expectedDeliveries.isEmpty &&
    card.expectedDeliveries.all (ExpectedDelivery.accepted credentialSafe) &&
    card.parameters.accepted credentialSafe card.agentType &&
    card.retryGroupId.all identifierAccepted

/-- The `work-item` contract. -/
def WorkItem.accepted (item : WorkItem) : Bool :=
  identifierAccepted item.workItemId && identifierAccepted item.taskId &&
    identifierAccepted item.stageId && safeText credentialSafe 256 item.title &&
    item.dependsOn.all identifierAccepted && decide item.dependsOn.Nodup &&
    item.currentInstanceId.all identifierAccepted &&
    item.instanceIds.all identifierAccepted && decide item.instanceIds.Nodup &&
    item.taskCardIds.all identifierAccepted && decide item.taskCardIds.Nodup

def ProposalStage.accepted (stage : ProposalStage) : Bool :=
  identifierAccepted stage.stageId && decide (1 ≤ stage.position) &&
    stage.dependsOn.all identifierAccepted && decide stage.dependsOn.Nodup

/-- The `plan-proposal` contract. -/
def PlanProposal.accepted (proposal : PlanProposal) : Bool :=
  identifierAccepted proposal.proposalId && identifierAccepted proposal.taskId &&
    decide (1 ≤ proposal.revision) && !proposal.stages.isEmpty &&
    proposal.stages.all ProposalStage.accepted && !proposal.workItems.isEmpty &&
    proposal.workItems.all (WorkItem.accepted credentialSafe) &&
    !proposal.executionCards.isEmpty &&
    proposal.executionCards.all (ExecutionCard.accepted credentialSafe) &&
    (if proposal.status = .confirmed then proposal.confirmedAt.isSome
      else proposal.confirmedAt.isNone)

end

/-! ## `validate_plan_proposal` -/

/-- `sorted(proposal["stages"], key=position)`. -/
def sortedStages (stages : List ProposalStage) : List ProposalStage :=
  stages.insertionSort fun a b => a.position ≤ b.position

/-- The loop over the stages (`master.py:59-70`). -/
def checkProposalStage (stages : List ProposalStage) (stage : ProposalStage) : Outcome Unit := do
  let earlier := (stages.map ProposalStage.stageId).take (stage.position - 1)
  ensure (∀ key ∈ stage.dependsOn, key ∈ earlier)
    (invalidPlan "A Master stage dependency must reference an earlier stage.")
  checkEach (fun key =>
    match dictGet ProposalStage.stageId stages key with
    | none => .error (.keyError key)
    | some dependency => ensure (dependency.type = .image ∧ stage.type = .ppt)
        (invalidPlan "Same-type stages must be parallel and only Image-to-PPT dependencies are supported."))
    stage.dependsOn

/-- The loop over the work items (`master.py:76-88`). -/
def checkWorkItem (taskId : Identifier) (stages : List ProposalStage) (items : List WorkItem)
    (item : WorkItem) : Outcome Unit := do
  let mismatch := invalidPlan "Every Master work item must match its task and stage."
  ensure (item.taskId = taskId) mismatch
  match dictGet ProposalStage.stageId stages item.stageId with
  | none => .error mismatch
  | some stage => do
      ensure (item.agentType = stage.type) mismatch
      match item.currentInstanceId with
      | none => .error (invalidPlan "A new Master work item requires one current instance.")
      | some current => do
          ensure ((∀ key ∈ item.instanceIds, key = current) ∧ current ∈ item.instanceIds)
            (invalidPlan "A new Master plan cannot introduce historical instances.")
          ensure (item.workItemId ∉ item.dependsOn)
            (invalidPlan "A Master work item cannot depend on itself.")
          ensure (∀ key ∈ item.dependsOn, key ∈ items.map WorkItem.workItemId)
            (invalidPlan "A Master work item references an unknown dependency.")

/-- `visit` (`master.py:93-103`): the ids that are visited afterwards.  The depth of the recursion
    is bounded by the fuel. -/
def visitItem (items : List WorkItem) :
    Nat → List Identifier → List Identifier → Identifier → Outcome (List Identifier)
  | 0, _, _, _ => .error (.runtimeError "maximum recursion depth exceeded")
  | fuel + 1, visiting, visited, itemId =>
      if itemId ∈ visiting then
        .error (invalidPlan "Master work item dependencies contain a cycle.")
      else if itemId ∈ visited then .ok visited
      else
        match dictGet WorkItem.workItemId items itemId with
        | none => .error (.keyError itemId)
        | some item => do
            let visited ← item.dependsOn.foldlM (visitItem items fuel (itemId :: visiting)) visited
            return itemId :: visited

/-- `for item_id in item_by_id: visit(item_id)`; no path is longer than the number of items. -/
def checkCycles (items : List WorkItem) : Outcome Unit := do
  let _ ← (items.map WorkItem.workItemId).foldlM (visitItem items (items.length + 1) []) []
  return ()

/-- The loop over the cards of the items (`master.py:116-130`); `seen` is `instance_ids`. -/
def checkItemCards (taskId : Identifier) (cards : List ExecutionCard) :
    List Identifier → List WorkItem → Outcome Unit
  | _, [] => .ok ()
  | seen, item :: rest =>
      match item.taskCardIds with
      | [cardId] =>
          match dictGet ExecutionCard.cardId cards cardId with
          | none => .error (.keyError cardId)
          | some card => do
              ensure (card.taskId = taskId ∧ card.stageId = item.stageId ∧
                  card.agentType = item.agentType ∧ some card.instanceId = item.currentInstanceId)
                (invalidPlan "A Master execution card does not match its work item.")
              ensure (card.instanceId ∉ seen)
                (invalidPlan "A Master instance cannot belong to multiple work items.")
              checkItemCards taskId cards (card.instanceId :: seen) rest
      | _ => .error
          (invalidPlan "Each new work item requires exactly one active execution card.")

/-- `validate_plan_proposal` (`master.py:31-125`). -/
def validatePlanProposal (credentialSafe : String → Bool) (proposal : PlanProposal)
    (taskId : Identifier) (expectedRevision : Nat) : Outcome Unit := do
  validateContract "plan-proposal" (proposal.accepted credentialSafe)
  ensure (proposal.taskId = taskId) (invalidPlan "The Master plan belongs to another task.")
  ensure (proposal.revision = expectedRevision)
    (invalidPlan "The Master plan revision is not the next durable revision.")
  ensure (proposal.status = .pendingConfirmation ∧ proposal.confirmedAt = none)
    (invalidPlan "A new Master plan must be pending confirmation.")
  let stages := sortedStages proposal.stages
  let stageIds := stages.map ProposalStage.stageId
  ensure (stageIds.Nodup ∧ stages.map ProposalStage.position = List.range' 1 stages.length)
    (invalidPlan "Master plan stages require unique ids and contiguous positions.")
  checkEach (checkProposalStage stages) stages
  let items := proposal.workItems
  ensure (items.map WorkItem.workItemId).Nodup (invalidPlan "Master work item ids must be unique.")
  checkEach (checkWorkItem taskId stages items) items
  checkCycles items
  let cards := proposal.executionCards
  let cardIds := cards.map ExecutionCard.cardId
  ensure cardIds.Nodup (invalidPlan "Master execution card ids must be unique.")
  let referenced := items.flatMap WorkItem.taskCardIds
  ensure (referenced.Nodup ∧ (∀ key ∈ referenced, key ∈ cardIds) ∧
      ∀ key ∈ cardIds, key ∈ referenced)
    (invalidPlan "Every Master execution card must belong to exactly one work item.")
  checkItemCards taskId cards [] items

/-- The instances of a stage, in the order of its work items. -/
def stageInstances (items : List WorkItem) (stageId : Identifier) : List Identifier :=
  (items.filter fun item => item.stageId = stageId).filterMap WorkItem.currentInstanceId

/-- What a saved card keeps as its text. -/
def ExecutionCard.content (card : ExecutionCard) : String :=
  reprStr (card.instructions, card.inputAssets, card.expectedDeliveries, card.parameters,
    card.retryGroupId)

def ProposalStage.payload (items : List WorkItem) (stage : ProposalStage) : StagePayload where
  stageId := stage.stageId
  type := stage.type
  position := stage.position
  dependsOn := stage.dependsOn
  required := stage.required
  instanceIds := stageInstances items stage.stageId

def WorkItem.payload (item : WorkItem) (instanceId : Identifier) : InstancePayload where
  instanceId := instanceId
  stageId := item.stageId
  agentType := item.agentType
  required := item.required
  approvalMode := .human
  configRevision := 1
  workspaceRelpath := "instances/" ++ instanceId
  taskCardRelpath := "instances/" ++ instanceId ++ "/task-card.json"

def ExecutionCard.payload (card : ExecutionCard) : CardPayload where
  cardId := card.cardId
  revision := card.revision
  stageId := card.stageId
  instanceId := card.instanceId
  agentType := card.agentType
  objective := card.objective
  content := card.content
  createdAt := some card.createdAt

/-- `materialize_plan_proposal` (`master.py:169-196`), for a proposal whose items all have a current
    instance. -/
def materializePlanProposal (proposal : PlanProposal) : PlanPayload where
  stages := (sortedStages proposal.stages).map (ProposalStage.payload proposal.workItems)
  instances := proposal.workItems.filterMap fun item => item.currentInstanceId.map item.payload
  taskCards := proposal.executionCards.map ExecutionCard.payload

end DesignHarness
