import DesignHarness.Storage.ConfigRevisions
import Mathlib.Data.List.SplitOn

/-!
# Runtime configuration of an Image Agent

What `ImageAgentConfigMaterializer` (`agent_config_materialization.py`) computes from a task
revision and the overrides of an instance: the effective runtime, the model of each workflow
state, and the bundle that is published.  Overrides have the fields and types of their schema, so
the checks for unknown fields and for wrong types are left out.
-/

namespace DesignHarness

open Library

/-- The mapping of `question_preference` in `effective_runtime`. -/
def QuestionPreference.effective : QuestionPreference → QuestionPreference
  | proactive => .proactive
  | onDemand => .blockingOnly
  | blockingOnly => .blockingOnly

def SelfCheckOverride.apply (override : SelfCheckOverride) (config : SelfCheckConfig) :
    SelfCheckConfig where
  termination := override.termination.getD config.termination
  fixedRounds := override.fixedRounds.getD config.fixedRounds
  maxRounds := override.maxRounds.getD config.maxRounds
  stopEarlyOnPass := override.stopEarlyOnPass.getD config.stopEarlyOnPass

/-- `effective_runtime` (`agent_config_materialization.py:475-505`). -/
def effectiveRuntime (revision : TaskConfigRevision) (overrides : RuntimeOverrides) :
    EffectiveRuntime :=
  let image := revision.runtime.imageAgent
  { questionPreference := overrides.questionPreference.getD image.questionPreference.effective
    maxAutoQuestions := overrides.maxAutoQuestions.getD image.maxAutoQuestions
    clarificationTotalBudget :=
      overrides.clarificationTotalBudget.getD image.clarificationTotalBudget
    categoryConstraint := overrides.categoryConstraint.getD image.categoryConstraint
    styleDirection := overrides.styleDirection.getD image.styleDirection
    candidateConcurrency := overrides.candidateConcurrency.getD image.candidateConcurrency
    defaultOutputSize := overrides.defaultOutputSize.getD image.defaultOutputSize
    responseFormat := overrides.responseFormat.getD image.responseFormat
    watermark := overrides.watermark.getD image.watermark
    selfCheck := overrides.selfCheck.apply image.selfCheck }

/-- `[1-9][0-9]{1,4}`. -/
def isDimension : List Char → Bool
  | [] => false
  | first :: rest => first.isDigit && first != '0' && decide (1 ≤ rest.length) &&
      decide (rest.length ≤ 4) && rest.all Char.isDigit

/-- `_OUTPUT_SIZE` (`agent_config_materialization.py:64`). -/
def outputSizeAccepted (size : String) : Bool :=
  match size.toList.splitOn 'x' with
  | [width, height] => isDimension width && isDimension height
  | [[digit, 'K']] => digit == '1' || digit == '2' || digit == '4'
  | _ => false

def invalidSetting (message : String) : Raised := .harness ⟨.validationError, message, []⟩

/-- `_validate_effective_runtime` (`agent_config_materialization.py:352-399`); the enumerated
    settings are valid by their type, apart from `question_preference`. -/
def validateEffectiveRuntime (runtime : EffectiveRuntime) : Outcome Unit := do
  ensure (runtime.maxAutoQuestions ≤ 10)
    (invalidSetting "max_auto_questions is outside its safe range.")
  ensure (runtime.clarificationTotalBudget ≤ 100)
    (invalidSetting "clarification_total_budget is outside its safe range.")
  ensure (1 ≤ runtime.candidateConcurrency ∧ runtime.candidateConcurrency ≤ 5)
    (invalidSetting "candidate_concurrency is outside its safe range.")
  ensure (runtime.questionPreference ≠ .onDemand)
    (invalidSetting "question_preference is invalid.")
  ensure (outputSizeAccepted runtime.defaultOutputSize = true)
    (invalidSetting "default_output_size is invalid.")
  ensure (1 ≤ runtime.selfCheck.fixedRounds ∧ runtime.selfCheck.fixedRounds ≤ 20)
    (invalidSetting "self_check.fixed_rounds is invalid.")
  ensure (1 ≤ runtime.selfCheck.maxRounds ∧ runtime.selfCheck.maxRounds ≤ 50)
    (invalidSetting "self_check.max_rounds is invalid.")

/-! ## Models -/

/-- A row of `_STATE_ROUTES`. -/
structure StateRoute where
  state : WorkflowState
  role : String
  group : ModelListConfig → List ModelDefinition
  default : RuntimeModelSelection → String
  capability : String

/-- `_STATE_ROUTES` (`agent_config_materialization.py:22-60`). -/
def stateRoutes : List StateRoute :=
  [⟨.intakeClarify, "reasoning_llm", ModelListConfig.textModels,
      RuntimeModelSelection.textReasoning, "structured_output"⟩,
    ⟨.confirmationBuild, "reasoning_llm", ModelListConfig.textModels,
      RuntimeModelSelection.textReasoning, "structured_output"⟩,
    ⟨.initialCandidateGeneration, "text_to_image_model", ModelListConfig.imageModels,
      RuntimeModelSelection.imageGeneration, "text_to_image"⟩,
    ⟨.selfCheckInspection, "vision_language_model", ModelListConfig.vlmModels,
      RuntimeModelSelection.visionUnderstanding, "image_input"⟩,
    ⟨.selfCheckRework, "text_to_image_model", ModelListConfig.imageModels,
      RuntimeModelSelection.imageGeneration, "text_to_image"⟩,
    ⟨.humanPromptRework, "text_to_image_model", ModelListConfig.imageModels,
      RuntimeModelSelection.imageGeneration, "text_to_image"⟩]

/-- `currently_approved`: the ids of every group of the process configuration. -/
def ConfigSnapshot.approvedModels (config : ConfigSnapshot) : List String :=
  (config.modelList.textModels ++ config.modelList.vlmModels ++
    config.modelList.imageModels).map ModelDefinition.id

def modelError (code : ErrorCode) (message : String) (state : WorkflowState)
    (modelId : String) : Raised :=
  .harness ⟨code, message, [("state", .text state.name), ("model_id", .text modelId)]⟩

/-- The body of the loop of `_model_configuration` (`agent_config_materialization.py:537-574`). -/
def bindState (config : ConfigSnapshot) (revision : TaskConfigRevision)
    (overrides : RuntimeOverrides) (requireCurrentApproval : Bool) (route : StateRoute) :
    Outcome StateBinding := do
  let requested := (overrides.advancedModelOverrides.get route.state).or
    (revision.runtime.imageAgent.advancedModelOverrides.get route.state)
  let default := route.default revision.runtime.models
  -- `requested.get(state) or ..`: an empty id counts as none.
  let selected := requested.elim default fun id => if id = "" then default else id
  let notApproved := modelError .modelNotApproved
    "The selected model is not approved for this workflow state." route.state selected
  match dictGet ModelDefinition.id (route.group revision.modelList) selected with
  | none => .error notApproved
  | some model => do
      ensure (route.capability ∈ model.capabilities) notApproved
      ensure (requireCurrentApproval = true → selected ∈ config.approvedModels)
        (modelError .modelNotApproved
          "The selected model is no longer in the system approval list." route.state selected)
      ensure (model.provider ∈ config.providers)
        (modelError .modelProviderNotAuthorized
          "The selected model Provider is not authorized for this instance." route.state selected)
      return ⟨route.state, route.role, model.provider, model.model, model.parameters⟩

/-- `require_process_snapshot` (`task_config.py:218-226`). -/
def requireProcessSnapshot (process : Option ConfigSnapshot) : Outcome ConfigSnapshot :=
  match process with
  | none => raiseHarness .validationError
      "A validated deployment configuration is required for Master execution."
  | some config => .ok config

/-- `_model_configuration` (`agent_config_materialization.py:507-578`): the bindings of the
    routes; `model_bindings` are the models of these. -/
def modelConfiguration (process : Option ConfigSnapshot) (revision : TaskConfigRevision)
    (overrides : RuntimeOverrides) (requireCurrentApproval : Bool) :
    Outcome (List StateBinding) := do
  let config ← requireProcessSnapshot process
  stateRoutes.mapM (bindState config revision overrides requireCurrentApproval)

/-- `validate_overrides` (`agent_config_materialization.py:283-350`). -/
def validateOverrides (process : Option ConfigSnapshot) (revision : TaskConfigRevision)
    (overrides : RuntimeOverrides) (requireCurrentApproval : Bool) : Outcome Unit := do
  ensure ("" ∉ overrides.advancedModelOverrides.values)
    (invalidSetting "Advanced model overrides must reference non-empty model IDs.")
  let runtime := effectiveRuntime revision overrides
  validateEffectiveRuntime runtime
  ensure (runtime.selfCheck.fixedRounds ≤ runtime.selfCheck.maxRounds)
    (invalidSetting "The fixed self-check rounds cannot exceed the maximum rounds.")
  let _ ← modelConfiguration process revision overrides requireCurrentApproval
  return ()

/-- Who builds a bundle, when, and on what. -/
structure BundleOrigin where
  createdBy : Actor
  now : Timestamp
  parent : Option Nat

/-- The bundle that `build_revision` builds for a start (`agent_config_materialization.py:169-230`,
    with the arguments of `materialize` and of `_rebase_instances`). -/
def buildBundle (process : Option ConfigSnapshot) (revision : TaskConfigRevision)
    (overrides : RuntimeOverrides) (requireCurrentApproval : Bool) (origin : BundleOrigin) :
    Outcome InstanceBundle := do
  let sequence := origin.parent.elim 1 fun parent => parent + 1
  validateOverrides process revision overrides requireCurrentApproval
  let runtime := effectiveRuntime revision overrides
  let bindings ← modelConfiguration process revision overrides requireCurrentApproval
  let manifest : InstanceManifest :=
    { sequence := sequence
      parent := origin.parent
      taskConfigRevision := revision.sequence
      overrides := overrides
      effectiveRuntime := runtime
      modelBindings := bindings.map fun binding => (binding.state, binding.model)
      createdBy := origin.createdBy
      createdAt := origin.now
      confirmedAt := some origin.now
      applyMode := .beforeStart
      applyStatus := .applied
      branchId := none
      checkpointId := none
      effectiveFromState := some "initial" }
  validateManifest manifest
  return ⟨manifest, runtime, ⟨"materialized-" ++ instanceRevisionId sequence, bindings⟩⟩

end DesignHarness
