import DesignHarness.Contracts.Records

/-!
# Deployment configuration

The validated configuration of a process (`core/config_kernel.py`), as far as the task and
instance revisions copy it.  Provider URLs and credentials stay out of every revision and are left
out; the sections of the runtime file that no revision reads are one opaque text.
-/

namespace DesignHarness

/-- `ModelDefinition` (`config_kernel.py:118-162`). -/
structure ModelDefinition where
  id : String
  label : String
  provider : Identifier
  model : String
  capabilities : List String
  parameters : List (String × String)
  deriving DecidableEq, Repr

/-- `ModelListConfig` (`config_kernel.py:165-175`). -/
structure ModelListConfig where
  textModels : List ModelDefinition
  vlmModels : List ModelDefinition
  imageModels : List ModelDefinition
  deriving DecidableEq, Repr

/-- `RuntimeModelSelection` (`config_kernel.py:184-188`). -/
structure RuntimeModelSelection where
  master : String
  textReasoning : String
  visionUnderstanding : String
  imageGeneration : String
  deriving DecidableEq, Repr

inductive QuestionPreference where
  | proactive
  | blockingOnly
  | onDemand
  deriving DecidableEq, Repr

/-- `release` of `LibraryReleaseConfig` (`config_kernel.py:217-218`). -/
inductive LibraryRelease where
  | auto
  | manual
  | off
  deriving DecidableEq, Repr

inductive ResponseFormat where
  | url
  | b64Json
  deriving DecidableEq, Repr

inductive Termination where
  | fix
  | solo
  deriving DecidableEq, Repr

/-- `ImageAgentSelfCheckConfig` (`config_kernel.py:221-231`). -/
structure SelfCheckConfig where
  termination : Termination
  fixedRounds : Nat
  maxRounds : Nat
  stopEarlyOnPass : Bool
  deriving DecidableEq, Repr

/-- The workflow states that are bound to a model (`_MODEL_STATES`). -/
inductive WorkflowState where
  | intakeClarify
  | confirmationBuild
  | initialCandidateGeneration
  | selfCheckInspection
  | selfCheckRework
  | humanPromptRework
  deriving DecidableEq, Repr

def WorkflowState.name : WorkflowState → String
  | intakeClarify => "intake_clarify"
  | confirmationBuild => "confirmation_build"
  | initialCandidateGeneration => "initial_candidate_generation"
  | selfCheckInspection => "self_check_inspection"
  | selfCheckRework => "self_check_rework"
  | humanPromptRework => "human_prompt_rework"

/-- `AdvancedModelOverrides` (`config_kernel.py:208-214`), also the override of an instance. -/
structure AdvancedModelOverrides where
  intakeClarify : Option String := none
  confirmationBuild : Option String := none
  initialCandidateGeneration : Option String := none
  selfCheckInspection : Option String := none
  selfCheckRework : Option String := none
  humanPromptRework : Option String := none
  deriving DecidableEq, Repr

def AdvancedModelOverrides.get (overrides : AdvancedModelOverrides) :
    WorkflowState → Option String
  | .intakeClarify => overrides.intakeClarify
  | .confirmationBuild => overrides.confirmationBuild
  | .initialCandidateGeneration => overrides.initialCandidateGeneration
  | .selfCheckInspection => overrides.selfCheckInspection
  | .selfCheckRework => overrides.selfCheckRework
  | .humanPromptRework => overrides.humanPromptRework

/-- The overrides that are set. -/
def AdvancedModelOverrides.values (overrides : AdvancedModelOverrides) : List String :=
  [overrides.intakeClarify, overrides.confirmationBuild, overrides.initialCandidateGeneration,
    overrides.selfCheckInspection, overrides.selfCheckRework,
    overrides.humanPromptRework].reduceOption

/-- `ImageAgentConfig` (`config_kernel.py:234-252`). -/
structure ImageAgentConfig where
  questionPreference : QuestionPreference
  maxAutoQuestions : Nat
  clarificationTotalBudget : Nat
  categoryConstraint : LibraryRelease
  styleDirection : LibraryRelease
  candidateConcurrency : Nat
  defaultOutputSize : String
  responseFormat : ResponseFormat
  watermark : Bool
  selfCheck : SelfCheckConfig
  advancedModelOverrides : AdvancedModelOverrides
  deriving DecidableEq, Repr

/-- `RuntimeConfig` (`config_kernel.py:289-292`). -/
structure RuntimeConfig where
  models : RuntimeModelSelection
  imageAgent : ImageAgentConfig
  unread : String := ""
  deriving DecidableEq, Repr

/-- `ConfigSnapshot` (`config_kernel.py:295-302`). -/
structure ConfigSnapshot where
  revision : Identifier
  providers : List Identifier
  modelList : ModelListConfig
  runtime : RuntimeConfig
  deriving DecidableEq, Repr

end DesignHarness
