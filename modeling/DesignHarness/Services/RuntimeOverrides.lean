import DesignHarness.Storage.ConfigRevisions

/-!
# Patches of runtime overrides

`merge_overrides` (`agent_config_materialization.py:419-446`).  A patch leaves a field alone, clears
it, or sets it; a nested object that is null clears each of its fields.
-/

namespace DesignHarness

/-- What a patch does to one field: nothing, clear it (`some none`), or set it. -/
abbrev Edit (α : Type) := Option (Option α)

/-- The field after the patch. -/
def Edit.apply {α : Type} (edit : Edit α) (current : Option α) : Option α := edit.getD current

structure SelfCheckPatch where
  termination : Edit Termination := none
  fixedRounds : Edit Nat := none
  maxRounds : Edit Nat := none
  stopEarlyOnPass : Edit Bool := none
  deriving DecidableEq, Repr

structure ModelPatch where
  intakeClarify : Edit String := none
  confirmationBuild : Edit String := none
  initialCandidateGeneration : Edit String := none
  selfCheckInspection : Edit String := none
  selfCheckRework : Edit String := none
  humanPromptRework : Edit String := none
  deriving DecidableEq, Repr

/-- The `patch` of a settings proposal. -/
structure RuntimePatch where
  questionPreference : Edit QuestionPreference := none
  maxAutoQuestions : Edit Nat := none
  clarificationTotalBudget : Edit Nat := none
  categoryConstraint : Edit LibraryRelease := none
  styleDirection : Edit LibraryRelease := none
  candidateConcurrency : Edit Nat := none
  defaultOutputSize : Edit String := none
  responseFormat : Edit ResponseFormat := none
  watermark : Edit Bool := none
  selfCheck : SelfCheckPatch := {}
  advancedModelOverrides : ModelPatch := {}
  deriving DecidableEq, Repr

def SelfCheckPatch.apply (patch : SelfCheckPatch) (current : SelfCheckOverride) :
    SelfCheckOverride where
  termination := patch.termination.apply current.termination
  fixedRounds := patch.fixedRounds.apply current.fixedRounds
  maxRounds := patch.maxRounds.apply current.maxRounds
  stopEarlyOnPass := patch.stopEarlyOnPass.apply current.stopEarlyOnPass

def ModelPatch.apply (patch : ModelPatch) (current : AdvancedModelOverrides) :
    AdvancedModelOverrides where
  intakeClarify := patch.intakeClarify.apply current.intakeClarify
  confirmationBuild := patch.confirmationBuild.apply current.confirmationBuild
  initialCandidateGeneration :=
    patch.initialCandidateGeneration.apply current.initialCandidateGeneration
  selfCheckInspection := patch.selfCheckInspection.apply current.selfCheckInspection
  selfCheckRework := patch.selfCheckRework.apply current.selfCheckRework
  humanPromptRework := patch.humanPromptRework.apply current.humanPromptRework

/-- `merge_overrides` (`agent_config_materialization.py:419-446`). -/
def mergeOverrides (current : RuntimeOverrides) (patch : RuntimePatch) : RuntimeOverrides where
  questionPreference := patch.questionPreference.apply current.questionPreference
  maxAutoQuestions := patch.maxAutoQuestions.apply current.maxAutoQuestions
  clarificationTotalBudget := patch.clarificationTotalBudget.apply current.clarificationTotalBudget
  categoryConstraint := patch.categoryConstraint.apply current.categoryConstraint
  styleDirection := patch.styleDirection.apply current.styleDirection
  candidateConcurrency := patch.candidateConcurrency.apply current.candidateConcurrency
  defaultOutputSize := patch.defaultOutputSize.apply current.defaultOutputSize
  responseFormat := patch.responseFormat.apply current.responseFormat
  watermark := patch.watermark.apply current.watermark
  selfCheck := patch.selfCheck.apply current.selfCheck
  advancedModelOverrides := patch.advancedModelOverrides.apply current.advancedModelOverrides

end DesignHarness
