import DesignHarness.Domain.Membership
import DesignHarness.Domain.History

/-!
# Starting a PPT instance

Two gates stand before the start of a PPT instance.  The application asks for every Image instance
of the task to be completed (`_require_ppt_start_gate`, `application.py:1716-1743`) before it queues
the operation; the supervisor then asks the domain whether the stage of the instance may activate
(`_validate_start_eligibility`, `supervisor.py:539-591`, through `stage_dependencies_authorized`).
The first looks at every Image instance, the second at the stages the PPT stage depends on or at
the marks of the Image instances.
-/

namespace DesignHarness

open Library

/-- `{"SUCCEEDED", "SKIPPED", "SUPERSEDED", "ARCHIVED"}`; no instance is `SKIPPED`. -/
def InstanceStatus.isClosed : InstanceStatus → Bool
  | succeeded | superseded | archived => true
  | _ => false

/-- An Image instance that is neither closed nor marked finished. -/
def AgentInstance.isUnfinishedImage (item : AgentInstance) : Bool :=
  item.agentType = .image && !item.status.isClosed && !item.manualFinished

def Plan.unfinishedInstanceIds (plan : Plan) : List Identifier :=
  (plan.instances.filter AgentInstance.isUnfinishedImage).map AgentInstance.instanceId

/-- `_require_ppt_start_gate` (`application.py:1716-1743`). -/
def requirePptStartGate (plan : Option Plan) (instanceId : Identifier) : Outcome Unit :=
  match plan with
  | none => raiseHarness .taskNotFound "The task does not have a saved plan."
  | some plan =>
      match plan.instances.find? (·.instanceId = instanceId) with
      | none => raiseHarness .instanceNotFound "The requested instance does not exist."
      | some target =>
          if target.agentType ≠ .ppt then
            .ok ()
          else
            ensure (plan.unfinishedInstanceIds = []) (.harness ⟨.invalidStateTransition,
              "All Image WorkItems must be completed before PPT can start.",
              [("instance_id", .text instanceId),
                ("unfinished_instance_ids", .texts plan.unfinishedInstanceIds)]⟩)

/-- The checks of a `START_INSTANCE` request before its intent is queued
    (`application_planning.py:410-437`); `item` is the stored record of the instance. -/
def acceptStartInstance (plan : Option Plan) (item : Option AgentInstance)
    (instanceId : Identifier) : Outcome Unit :=
  match plan, item with
  | none, _ => raiseHarness .taskNotFound "The task does not have a saved plan."
  | some _, none => raiseHarness .instanceNotFound "The requested instance does not exist."
  | some plan, some item => do
      ensure (plan.task.status ≠ .awaitingStartConfirmation) (.harness ⟨.invalidStateTransition,
        "Confirm the task start before starting an individual instance.", []⟩)
      ensure (item.status = .ready) (.harness ⟨.invalidStateTransition,
        "This instance state cannot execute the requested operation.",
        [("current", .text item.status.name), ("operation", .text "START_INSTANCE")]⟩)
      requirePptStartGate (some plan) instanceId

/-- The task statuses in which an instance that is not resumed may start. -/
def TaskStatus.admitsStart : TaskStatus → Bool
  | running | failed | waitingApproval => true
  | _ => false

/-- The task statuses in which a `STOPPED` instance may be resumed. -/
def TaskStatus.admitsResume : TaskStatus → Bool
  | running | waitingApproval | blockedUnavailable | failed | succeeded | partiallySucceeded =>
      true
  | _ => false

/-- The instance statuses in which an instance that is not resumed may start. -/
def InstanceStatus.admitsStart : InstanceStatus → Bool
  | ready | failedToStart | failed | crashed => true
  | _ => false

/-- `stage_authorized`: the planned instance was activated before, or its stage may activate. -/
def Plan.stageAuthorized (plan : Plan) (planned : AgentInstance) : Outcome Bool :=
  match dictGet Stage.stageId plan.stages planned.stageId with
  | none => .ok false
  | some stage =>
      if planned.requirementLifecycle.firstActivatedAt.isSome then .ok true
      else stageDependenciesAuthorized stage plan.stages plan.instances

/-- `_validate_start_eligibility` (`supervisor.py:539-591`). -/
def validateStartEligibility (plan : Option Plan) (item : AgentInstance) : Outcome Unit :=
  let refusal (taskStatus : Detail) : Raised := .harness ⟨.invalidStateTransition,
    "The instance stage and task are not authorized to start.",
    [("task_status", taskStatus), ("instance_status", .text item.status.name)]⟩
  match plan with
  | none => .error (refusal .null)
  | some plan =>
      match plan.instances.find? (·.instanceId = item.instanceId) with
      | none => .error (refusal (.text plan.task.status.name))
      | some planned => do
          let stageAuthorized ← plan.stageAuthorized planned
          let suspendedResume := item.status = .stopped && plan.task.status.admitsResume
          ensure (stageAuthorized = true ∧ (suspendedResume = true ∨
              plan.task.status.admitsStart = true ∧ item.status.admitsStart = true))
            (refusal (.text plan.task.status.name))

/-! ## What each gate looks at -/

/-- Where it is certain which of the two gates decides: every stage that `stage` depends on has
    succeeded, or there are Image instances and each closed one is also marked finished. -/
def Plan.marksDecide (plan : Plan) (stage : Stage) : Prop :=
  dependenciesSucceeded plan.stages stage.dependsOn = .ok true ∨
    (∃ item ∈ plan.instances, item.agentType = .image) ∧
    ∀ item ∈ plan.instances, item.agentType = .image → item.status.isClosed = true →
      item.manualFinished = true

section

variable {plan : Plan} {item : AgentInstance} {stage : Stage}

theorem AgentInstance.isUnfinishedImage_iff :
    item.isUnfinishedImage = true ↔
      item.agentType = .image ∧ item.status.isClosed = false ∧ item.manualFinished = false := by
  simp [AgentInstance.isUnfinishedImage, and_assoc]

theorem Plan.unfinishedInstanceIds_eq_nil :
    plan.unfinishedInstanceIds = [] ↔
      ∀ image ∈ plan.instances, image.isUnfinishedImage = false := by
  rw [Plan.unfinishedInstanceIds, List.map_eq_nil_iff, List.filter_eq_nil_iff]
  simp only [Bool.not_eq_true]

theorem imageInstancesFinished_iff {instances : List AgentInstance} :
    imageInstancesFinished instances = true ↔
      (∃ image ∈ instances, image.agentType = .image) ∧
      ∀ image ∈ instances, image.agentType = .image → image.manualFinished = true := by
  simp only [imageInstancesFinished, Bool.and_eq_true, List.all_eq_true, List.mem_filter,
    decide_eq_true_eq, and_imp]
  refine and_congr ?_ Iff.rfl
  rw [Bool.not_eq_true', List.isEmpty_eq_false_iff_exists_mem]
  simp only [List.mem_filter, decide_eq_true_eq]

namespace PlanValid

theorem find_instance (valid : PlanValid plan) (member : item ∈ plan.instances) :
    plan.instances.find? (·.instanceId = item.instanceId) = some item := by
  cases found : plan.instances.find? (·.instanceId = item.instanceId) with
  | none =>
      have absent := List.find?_eq_none.mp found item member
      simp at absent
  | some other =>
      have same : other.instanceId = item.instanceId := by
        simpa using List.find?_some found
      rw [List.inj_on_of_nodup_map valid.instanceIdsDistinct (List.mem_of_find?_eq_some found)
        member same]

/-- The dependencies of an accepted stage exist, so reading their statuses does not raise. -/
theorem dependenciesSucceeded_total (valid : PlanValid plan) (member : stage ∈ plan.stages) :
    ∃ succeeded, dependenciesSucceeded plan.stages stage.dependsOn = .ok succeeded := by
  have exist : ∀ key ∈ stage.dependsOn, ∃ dependency,
      dictGet Stage.stageId plan.stages key = some dependency := by
    intro key depends
    obtain ⟨dependency, found, -⟩ := valid.dependenciesImageToPpt stage member key depends
    exact ⟨dependency, found⟩
  revert exist
  induction stage.dependsOn with
  | nil =>
      intro _
      exact ⟨true, rfl⟩
  | cons key rest ih =>
      intro exist
      obtain ⟨dependency, found⟩ := exist key List.mem_cons_self
      rw [dependenciesSucceeded, stageById, found, ok_bind]
      split
      · exact ih fun other later => exist other (List.mem_cons_of_mem _ later)
      · exact ⟨false, rfl⟩

/-- The PPT gate of an accepted plan passes exactly when no Image instance is left open. -/
theorem requirePptStartGate_eq_ok (valid : PlanValid plan) (member : item ∈ plan.instances)
    (ppt : item.agentType = .ppt) :
    requirePptStartGate (some plan) item.instanceId = .ok () ↔
      ∀ image ∈ plan.instances, image.isUnfinishedImage = false := by
  rw [← Plan.unfinishedInstanceIds_eq_nil]
  simp [requirePptStartGate, valid.find_instance member, ppt]

end PlanValid

/-- A PPT stage activates under delivery, or under the marks when it depends on something. -/
theorem stageDependenciesAuthorized_eq_ok {succeeded : Bool} (ppt : stage.type = .ppt)
    (read : dependenciesSucceeded plan.stages stage.dependsOn = .ok succeeded) :
    stageDependenciesAuthorized stage plan.stages plan.instances = .ok true ↔
      succeeded = true ∨ imageInstancesFinished plan.instances = true := by
  rw [stageDependenciesAuthorized, read, ok_bind]
  cases succeeded with
  | true => simp
  | false =>
      have depends : stage.dependsOn ≠ [] := by
        intro independent
        rw [independent] at read
        cases read
      simp [ppt, depends]

/-- The marks authorize nothing that the application would refuse. -/
theorem unfinished_of_imageInstancesFinished
    (finished : imageInstancesFinished plan.instances = true) :
    ∀ image ∈ plan.instances, image.isUnfinishedImage = false := by
  intro image member
  rw [← Bool.not_eq_true, AgentInstance.isUnfinishedImage_iff]
  rintro ⟨isImage, -, unmarked⟩
  have marked := (imageInstancesFinished_iff.mp finished).2 image member isImage
  rw [marked] at unmarked
  cases unmarked

/-- What the application accepts the domain authorizes, where the marks decide. -/
theorem Plan.marksDecide.authorizes {succeeded : Bool} (decides : plan.marksDecide stage)
    (read : dependenciesSucceeded plan.stages stage.dependsOn = .ok succeeded)
    (passes : ∀ image ∈ plan.instances, image.isUnfinishedImage = false) :
    succeeded = true ∨ imageInstancesFinished plan.instances = true := by
  rcases decides with delivered | ⟨present, marked⟩
  · rw [read] at delivered
    exact .inl (Except.ok.inj delivered)
  · right
    refine imageInstancesFinished_iff.mpr ⟨present, ?_⟩
    intro image member isImage
    by_contra unmarked
    -- Unmarked, the image must be closed for the application gate to pass, so it is marked.
    have unmarked : image.manualFinished = false := Bool.not_eq_true _ ▸ unmarked
    have closed : image.status.isClosed = true := by
      by_contra isOpen
      have isOpen : image.status.isClosed = false := Bool.not_eq_true _ ▸ isOpen
      have unfinished := AgentInstance.isUnfinishedImage_iff.mpr ⟨isImage, isOpen, unmarked⟩
      rw [passes image member] at unfinished
      cases unfinished
    rw [marked image member isImage closed] at unmarked
    cases unmarked

/-- An accepted start of a ready instance passed the PPT gate. -/
theorem acceptStartInstance_eq_ok {instanceId : Identifier} {u : Unit} :
    acceptStartInstance (some plan) (some item) instanceId = .ok u ↔
      plan.task.status ≠ .awaitingStartConfirmation ∧ item.status = .ready ∧
      requirePptStartGate (some plan) instanceId = .ok u := by
  simp [acceptStartInstance, bind_eq_ok]

theorem PlanValid.validateStartEligibility_eq_ok (valid : PlanValid plan)
    (member : item ∈ plan.instances)
    (found : dictGet Stage.stageId plan.stages item.stageId = some stage)
    (admits : plan.task.status.admitsStart = true) (ready : item.status = .ready)
    (authorized : stageDependenciesAuthorized stage plan.stages plan.instances = .ok true) :
    validateStartEligibility (some plan) item = .ok () := by
  have stageAuthorized : plan.stageAuthorized item = .ok true := by
    simp only [Plan.stageAuthorized, found]
    split
    · rfl
    · exact authorized
  simp [validateStartEligibility, valid.find_instance member, stageAuthorized, admits, ready,
    InstanceStatus.admitsStart]

/-- The two gates before the start of a PPT instance of an accepted plan.  The application gate is
    the stricter one: where the domain authorizes the stage it still refuses while any Image
    instance of the task is open, though never under the marks.  Where the marks decide, it
    accepts nothing that the domain does not authorize, and a start that is queued is eligible. -/
theorem pptStartGate_refines (accepted : validatePlan plan = .ok ())
    (member : item ∈ plan.instances) (ppt : item.agentType = .ppt) :
    ∃ stage, dictGet Stage.stageId plan.stages item.stageId = some stage ∧
      (stageDependenciesAuthorized stage plan.stages plan.instances = .ok true →
        (requirePptStartGate (some plan) item.instanceId = .ok () ↔
          ∀ image ∈ plan.instances, image.isUnfinishedImage = false) ∧
        (dependenciesSucceeded plan.stages stage.dependsOn = .ok false →
          requirePptStartGate (some plan) item.instanceId = .ok ())) ∧
      (plan.marksDecide stage →
        (requirePptStartGate (some plan) item.instanceId = .ok () →
          stageDependenciesAuthorized stage plan.stages plan.instances = .ok true) ∧
        (plan.task.status.admitsStart = true →
          acceptStartInstance (some plan) (some item) item.instanceId = .ok () →
          validateStartEligibility (some plan) item = .ok ())) := by
  have valid := validatePlan_eq_ok.mp accepted
  obtain ⟨stage, found, typed⟩ := (valid.instancesPlaced item member).inStage
  have stagePpt : stage.type = .ppt := typed.symm.trans ppt
  obtain ⟨stageMember, -⟩ := mem_of_dictGet found
  obtain ⟨succeeded, read⟩ := valid.dependenciesSucceeded_total stageMember
  have gate := valid.requirePptStartGate_eq_ok member ppt
  have domain := stageDependenciesAuthorized_eq_ok stagePpt read
  refine ⟨stage, found, fun authorized => ⟨gate, fun undelivered => ?_⟩, fun decides => ?_⟩
  · rw [read] at undelivered
    obtain rfl := Except.ok.inj undelivered
    rcases domain.mp authorized with delivered | finished
    · cases delivered
    · exact gate.mpr (unfinished_of_imageInstancesFinished finished)
  · have authorizes : requirePptStartGate (some plan) item.instanceId = .ok () →
        stageDependenciesAuthorized stage plan.stages plan.instances = .ok true := by
      intro passes
      exact domain.mpr (decides.authorizes read (gate.mp passes))
    refine ⟨authorizes, fun admits queued => ?_⟩
    obtain ⟨-, ready, passes⟩ := acceptStartInstance_eq_ok.mp queued
    exact valid.validateStartEligibility_eq_ok member found admits ready (authorizes passes)

end

/-- Two Image stages, and a PPT stage that depends on the first of them. -/
def deckPayload : PlanPayload where
  stages := [sampleStage "s1" .image 1 ["a"], sampleStage "s2" .image 2 ["b"],
    sampleStage "s3" .ppt 3 ["p"] true ["s1"]]
  instances := [sampleInstance "a" "s1" .image, sampleInstance "b" "s2" .image,
    sampleInstance "p" "s3" .ppt]
  taskCards := [sampleCard "a" "s1" .image, sampleCard "b" "s2" .image,
    sampleCard "p" "s3" .ppt]

/-- The PPT instance of the deck, with the time of its activation. -/
def deckInstance (firstActivatedAt : Option Timestamp) : AgentInstance :=
  { InstancePayload.normalize "task" "t1" (sampleInstance "p" "s3" .ppt) with
    requirementLifecycle := ⟨true, firstActivatedAt, none⟩ }

/-- The deck is planned and started, and both covers are marked finished. -/
def markedRun : List Call :=
  samplePlanned .manual deckPayload ++ [sampleCall 2 .confirmStart,
    sampleCall 3 (.setManualFinished "a" true), sampleCall 4 (.setManualFinished "b" true)]

def markedPlan : Plan := (observe markedRun).state.plan.getD ⟨sampleTask, [], [], []⟩

/-- Both gates let the deck start once the covers are marked. -/
theorem pptStartGate_refines_marked :
    acceptStartInstance (some markedPlan) (some (deckInstance none)) "p" = .ok () ∧
      validateStartEligibility (some markedPlan) (deckInstance none) = .ok () := by
  have queued : acceptStartInstance (some markedPlan) (some (deckInstance none)) "p" = .ok () := by
    decide
  obtain ⟨stage, -, -, decided⟩ :=
    @pptStartGate_refines markedPlan (deckInstance none) (by decide) (by decide) rfl
  exact ⟨queued, (decided (.inr (by decide))).2 (by decide) queued⟩

/-- The deck is planned and started, and the first cover is delivered. -/
def deckRun : List Call :=
  samplePlanned .manual deckPayload ++ sampleCall 2 .confirmStart ::
    sampleTransitions 3 [("a", .starting), ("a", .running), ("a", .succeeded)]

def deckPlan : Plan := (observe deckRun).state.plan.getD ⟨sampleTask, [], [], []⟩

/-- The domain lets the deck start, the application does not: the second cover is open. -/
theorem pptStartGate_refuses_authorized :
    (observe deckRun).state.plan = some deckPlan ∧
      deckInstance (some "t1") ∈ deckPlan.instances ∧
      (∃ stage ∈ deckPlan.stages, stage.stageId = (deckInstance (some "t1")).stageId ∧
        stageDependenciesAuthorized stage deckPlan.stages deckPlan.instances = .ok true) ∧
      validateStartEligibility (some deckPlan) (deckInstance (some "t1")) = .ok () ∧
      requirePptStartGate (some deckPlan) "p" = .error (.harness ⟨.invalidStateTransition,
        "All Image WorkItems must be completed before PPT can start.",
        [("instance_id", .text "p"), ("unfinished_instance_ids", .texts ["b"])]⟩) := by
  decide

end DesignHarness
