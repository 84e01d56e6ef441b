import DesignHarness.Domain.Completion

/-!
# Which instance events can be recorded

`_transition_instance` applies a legal event and then re-aggregates the whole plan; a stage or a
task that would have to move against its catalog makes it raise.  `Plan.blocks` says when: it is
a table over the stored status of each stage and the facts of its members after the event, and
over the stored status of the task and the facts of the plan.
-/

namespace DesignHarness

open Library

/-! ## Stages -/

namespace MemberFacts

/-- No member executes or waits to be started. -/
def idle (facts : MemberFacts) : Bool := !facts.working && !facts.queued

/-- A stage with the status cannot follow members with these facts. -/
def blocks (facts : MemberFacts) : StageStatus → Bool
  | .succeeded =>
      facts.working || facts.queued || facts.awaiting || facts.broken || facts.vacated
  | .failed => facts.idle && facts.awaiting
  | .ready => facts.idle && (facts.awaiting || (!facts.broken && facts.delivered))
  | .pending => facts.idle && (facts.awaiting || facts.broken || facts.delivered)
  | .running | .waitingApproval => facts.idle && facts.vacated
  | .unavailable | .skipped | .cancelled => false

/-- Facts of members of which none is required exclude each other. -/
structure Consistent (facts : MemberFacts) : Prop where
  available : facts.unavailable = false
  vacated : facts.vacated = true →
    facts.awaiting = false ∧ facts.broken = false ∧ facts.delivered = false

/-- The table is exact: it lists the moves that the catalog and the two-step paths refuse. -/
theorem blocks_iff {facts : MemberFacts} {current : StageStatus} (consistent : facts.Consistent)
    (unsettled : current.isSettled = false) (available : current ≠ .unavailable) :
    facts.blocks current = false ↔
      (facts.status current ≠ current →
        validateStageReaggregation current (facts.status current) = .ok ()) := by
  obtain ⟨working, queued, awaiting, broken, unavailable, delivered, vacated⟩ := facts
  obtain ⟨rfl, exclusive⟩ := consistent
  cases current
  case skipped => cases unsettled
  case cancelled => cases unsettled
  case unavailable => exact absurd rfl available
  all_goals
    revert exclusive working queued awaiting broken delivered vacated
    decide

end MemberFacts

theorem memberFacts_consistent {required : Bool} {members : List AgentInstance}
    (sound : ∀ item ∈ members, InstanceSound item) : (memberFacts required members).Consistent := by
  constructor
  · rw [Bool.eq_false_iff]
    intro unavailable
    obtain ⟨item, member, status⟩ := memberFacts_unavailable unavailable
    exact (sound item member).available status
  · intro vacated
    simp only [memberFacts, Bool.and_eq_true, Bool.not_eq_true'] at vacated
    obtain ⟨⟨none, optional⟩, incomplete⟩ := vacated
    have unrequired : ∀ item ∈ members, item.required = false := by simpa using none
    refine ⟨?_, ?_, ?_⟩
    · simpa [memberFacts] using fun item member required => by simp [unrequired item member] at required
    · simpa [memberFacts] using fun item member required => by simp [unrequired item member] at required
    · simp [memberFacts, none, optional, incomplete]

/-- The stage may leave `PENDING`: its dependencies are authorized or it was activated. -/
def Stage.isReleased (stages : List Stage) (instances : List AgentInstance) (stage : Stage) : Bool :=
  stage.isReady stages instances || stage.requirementLifecycle.firstActivatedAt.isSome

/-- The stage cannot follow its members. -/
def Stage.blocks (stages : List Stage) (instances : List AgentInstance) (stage : Stage) : Bool :=
  (decide (stage.status ≠ .pending) || stage.isReleased stages instances) &&
    (memberFacts stage.required (stage.members instances)).blocks stage.status

theorem validateStageReaggregation_error {current target : StageStatus} {error : Raised}
    (h : validateStageReaggregation current target = .error error) :
    error.isInvalidTransition = true := by
  have step : ∀ {source goal : StageStatus}, transitionStage source goal = .error error →
      error.isInvalidTransition = true := by
    intro source goal failed
    obtain ⟨-, rfl⟩ := ensure_eq_error.mp failed
    rfl
  have path : ∀ {first second : Outcome Unit},
      (first = .error error → error.isInvalidTransition = true) →
      (second = .error error → error.isInvalidTransition = true) →
      (do first; second) = .error error → error.isInvalidTransition = true := by
    intro first second one two failed
    rcases bind_eq_error.mp failed with stopped | ⟨-, -, later⟩
    · exact one stopped
    · exact two later
  unfold validateStageReaggregation at h
  split at h
  · exact path step step h
  · exact path step step h
  · exact path step step h
  · exact step h

section

variable {stages : List Stage} {instances : List AgentInstance} {stage : Stage}

theorem Stage.checkRefresh_error {error : Raised}
    (h : stage.checkRefresh stages instances = .error error) :
    error.isInvalidTransition = true := by
  unfold Stage.checkRefresh at h
  split at h
  · exact validateStageReaggregation_error h
  · cases h

/-- The move of a stage is refused exactly when the stage is blocked. -/
theorem Stage.checkRefresh_eq_ok (sound : StageSound stage)
    (members : ∀ item ∈ instances, InstanceSound item) :
    stage.checkRefresh stages instances = .ok () ↔ stage.blocks stages instances = false := by
  have consistent : (memberFacts stage.required (stage.members instances)).Consistent :=
    memberFacts_consistent fun item member => members item (Stage.mem_members member).1
  cases settled : stage.status.isSettled with
  | true =>
      have free : (memberFacts stage.required (stage.members instances)).blocks stage.status =
          false := by
        cases status : stage.status <;> simp_all [StageStatus.isSettled, MemberFacts.blocks]
      simp [Stage.checkRefresh, Stage.blocks, settled, free]
  | false =>
      have member : stage.memberStatus instances =
          (memberFacts stage.required (stage.members instances)).status stage.status := by
        rw [Stage.memberStatus, settled, if_neg Bool.false_ne_true, aggregateMembers_eq]
      by_cases released : stage.isReleased stages instances = true
      · have target : stage.refreshTarget stages instances =
            (memberFacts stage.required (stage.members instances)).status stage.status := by
          rw [Stage.refreshTarget, if_neg, member]
          rw [Stage.isReleased, Bool.or_eq_true] at released
          rcases released with ready | activated
          · simp [ready]
          · simp [activated]
        rw [Stage.blocks, released, Bool.or_true, Bool.true_and,
          MemberFacts.blocks_iff consistent settled sound.available, Stage.checkRefresh, target,
          settled]
        by_cases moves : (memberFacts stage.required (stage.members instances)).status
            stage.status = stage.status
        · simp [moves]
        · simp [moves]
      · -- A stage that is not released has not advanced, so it stays where it is.
        rw [Bool.not_eq_true, Stage.isReleased, Bool.or_eq_false_iff] at released
        obtain ⟨notReady, inactive⟩ := released
        have pending : stage.status = .pending := by
          have independent : stage.dependsOn ≠ [] := by
            intro none
            rw [Stage.isReady_of_independent none] at notReady
            cases notReady
          cases idle : stage.status.isIdle with
          | true => cases status : stage.status <;> simp_all [StageStatus.isSettled, StageStatus.isIdle]
          | false =>
              rcases sound.advanced idle with activated | none
              · rw [inactive] at activated
                cases activated
              · exact absurd none independent
        have target : stage.refreshTarget stages instances = stage.status := by
          rw [Stage.refreshTarget, settled, notReady, inactive, pending]
          rfl
        rw [Stage.checkRefresh, target, if_neg (by simp), Stage.blocks, Stage.isReleased, pending,
          notReady, inactive]
        simp

end

/-- What `aggregate_task` asks about a plan. -/
structure PlanFacts where
  /-- A required instance waits for an approval. -/
  awaiting : Bool
  /-- An instance can work or works. -/
  active : Bool
  /-- A required instance has failed. -/
  broken : Bool
  /-- A required stage is unavailable. -/
  unavailable : Bool
  /-- Every required stage has succeeded. -/
  complete : Bool
  /-- Something was downgraded after its activation. -/
  downgraded : Bool
  deriving DecidableEq, Repr

def Plan.facts (plan : Plan) : PlanFacts where
  awaiting := plan.instances.any fun item => item.required && item.status = .waitingApproval
  active := plan.instances.any (·.status.isActive)
  broken := plan.instances.any fun item => item.required && item.status.isFailed
  unavailable := plan.stages.any fun stage => stage.required && stage.status = .unavailable
  complete := (plan.stages.filter (·.required)).all (·.status = .succeeded)
  downgraded := anyDowngraded plan.stages plan.instances

namespace PlanFacts

/-- The status of a task that is not settled, from the facts of its plan. -/
def status (facts : PlanFacts) : TaskStatus :=
  if facts.awaiting then .waitingApproval
  else if facts.active then .running
  else if facts.broken then .failed
  else if facts.unavailable then .blockedUnavailable
  else if !facts.complete then .running
  else if facts.downgraded then .partiallySucceeded
  else .succeeded

/-- A task with the status cannot follow a plan with these facts. -/
def blocks (facts : PlanFacts) : TaskStatus → Bool
  | .awaitingStartConfirmation =>
      facts.awaiting || (!facts.active && (facts.broken || facts.complete))
  | .failed =>
      facts.awaiting ||
        (!facts.active && !facts.broken && facts.complete && !facts.downgraded)
  | _ => false

theorem blocks_iff {facts : PlanFacts} {current : TaskStatus}
    (available : facts.unavailable = false) (started : current ≠ .draft ∧ current ≠ .planned ∧
      current ≠ .blockedUnavailable) (live : current.isTerminal = false)
    (unarchived : current ≠ .archived) :
    facts.blocks current = false ↔
      (facts.status ≠ current → facts.status ∈ current.transitions) := by
  obtain ⟨awaiting, active, broken, unavailable, complete, downgraded⟩ := facts
  subst available
  revert live unarchived started
  cases current <;> revert awaiting active broken complete downgraded <;> decide

end PlanFacts

theorem Plan.aggregateTask_eq (plan : Plan) :
    plan.aggregateTask =
      if plan.task.status.isTerminal ∨ plan.task.status = .archived then plan.task.status
      else plan.facts.status := by
  unfold Plan.aggregateTask DesignHarness.aggregateTask PlanFacts.status Plan.facts
  by_cases terminal : plan.task.status.isTerminal = true
  · simp [terminal]
  · by_cases archived : plan.task.status = .archived
    · simp [archived]
    · simp [terminal, archived]

/-- The move of the task is refused exactly when the task is blocked. -/
theorem Plan.aggregateTask_legal {plan : Plan} (stages : ∀ stage ∈ plan.stages, StageSound stage)
    (started : plan.task.status ≠ .draft ∧ plan.task.status ≠ .planned ∧
      plan.task.status ≠ .blockedUnavailable) :
    (plan.aggregateTask ≠ plan.task.status →
        plan.aggregateTask ∈ plan.task.status.transitions) ↔
      plan.facts.blocks plan.task.status = false := by
  have available : plan.facts.unavailable = false := by
    rw [Bool.eq_false_iff]
    intro some
    obtain ⟨stage, member, status⟩ := List.any_eq_true.mp some
    rw [Bool.and_eq_true, decide_eq_true_eq] at status
    exact (stages stage member).available status.2
  rw [Plan.aggregateTask_eq]
  by_cases settled : plan.task.status.isTerminal ∨ plan.task.status = .archived
  · rw [if_pos settled]
    have free : plan.facts.blocks plan.task.status = false := by
      rcases settled with terminal | archived
      · cases status : plan.task.status <;> simp_all [TaskStatus.isTerminal, PlanFacts.blocks]
      · rw [archived]
        rfl
    simp [free]
  · rw [if_neg settled]
    rw [not_or] at settled
    exact (PlanFacts.blocks_iff available started (by simpa using settled.1) settled.2).symm

/-! ## Instance events -/

/-- The plan cannot be re-aggregated: one of its stages, or its task, would have to move against
    the catalog. -/
def Plan.blocks (now : Timestamp) (plan : Plan) : Bool :=
  plan.stages.any (Stage.blocks plan.stages plan.instances) ||
    (plan.refreshed now true).facts.blocks plan.task.status

section

variable {plan : Plan} {now : Timestamp}

/-- The plan as a re-aggregation leaves it. -/
def Plan.reaggregated (now : Timestamp) (plan : Plan) : Plan :=
  ((plan.refreshed now true).withStatus (plan.refreshed now true).aggregateTask).touch now

/-- A re-aggregation raises exactly when the plan is blocked. -/
theorem Plan.reaggregate_eq (wired : WiredPlan plan.stages plan.instances)
    (stages : ∀ stage ∈ plan.stages, StageSound stage)
    (instances : ∀ item ∈ plan.instances, InstanceSound item)
    (started : plan.task.status ≠ .draft ∧ plan.task.status ≠ .planned ∧
      plan.task.status ≠ .blockedUnavailable) :
    (plan.blocks now = false → plan.reaggregate now = .ok (plan.reaggregated now)) ∧
      (plan.blocks now = true → ∃ error, plan.reaggregate now = .error error ∧
        error.isInvalidTransition = true) := by
  have refreshedSound : ∀ stage ∈ (plan.refreshed now true).stages, StageSound stage :=
    Plan.refreshed_stages_sound wired (fun stage member => (stages stage member).available)
      instances
  have legal := Plan.aggregateTask_legal refreshedSound started
  have checks : checkEach (Stage.checkRefresh plan.stages plan.instances) plan.stages = .ok () ↔
      plan.stages.any (Stage.blocks plan.stages plan.instances) = false := by
    rw [checkEach_eq_ok, List.any_eq_false]
    refine forall₂_congr fun stage member => ?_
    rw [Stage.checkRefresh_eq_ok (stages stage member) instances, Bool.not_eq_true]
  cases checked : checkEach (Stage.checkRefresh plan.stages plan.instances) plan.stages with
  | error error =>
      obtain ⟨stage, -, failed⟩ := checkEach_eq_error checked
      have raised : plan.reaggregate now = .error error := by
        rw [Plan.reaggregate, refreshStages_eq wired, checked]
        rfl
      have blocked : plan.stages.any (Stage.blocks plan.stages plan.instances) = true := by
        rw [← Bool.not_eq_false, ← checks, checked]
        intro same
        cases same
      constructor
      · intro free
        rw [Plan.blocks, blocked] at free
        cases free
      · exact fun _ => ⟨error, raised, Stage.checkRefresh_error failed⟩
  | ok u =>
      have free := checks.mp checked
      rw [Plan.blocks, free, Bool.false_or]
      have refreshes : plan.reaggregate now = (do
          if (plan.refreshed now true).aggregateTask ≠ plan.task.status then
            transitionTask plan.task.status (plan.refreshed now true).aggregateTask
          return plan.reaggregated now) := by
        rw [Plan.reaggregate, refreshStages_eq wired, checked]
        rfl
      rw [refreshes]
      by_cases moves : (plan.refreshed now true).aggregateTask = plan.task.status
      · have unblocked := legal.mp fun other => absurd moves other
        constructor
        · exact fun _ => by simp [moves]
        · intro blocked
          exact absurd (unblocked.symm.trans blocked) Bool.false_ne_true
      · by_cases allowed : (plan.refreshed now true).aggregateTask ∈ plan.task.status.transitions
        · have unblocked := legal.mp fun _ => allowed
          constructor
          · exact fun _ => by simp [moves, transitionTask, ensure_of allowed]
          · intro blocked
            exact absurd (unblocked.symm.trans blocked) Bool.false_ne_true
        · constructor
          · exact fun unblocked => absurd (legal.mpr unblocked moves) allowed
          · intro _
            refine ⟨transitionError "main_task" plan.task.status.name
              (plan.refreshed now true).aggregateTask.name, ?_, rfl⟩
            simp only [ne_eq, moves, not_false_eq_true, if_true, transitionTask,
              ensure_of_not allowed]
            rfl

theorem RequirementLifecycle.activate_accepted {lifecycle : RequirementLifecycle}
    (accepted : lifecycle.accepted = true) : (lifecycle.activate now).accepted = true := by
  unfold RequirementLifecycle.activate
  split
  · unfold RequirementLifecycle.accepted at *
    cases authorized : lifecycle.authorizedDowngrade with
    | none => rfl
    | some authorization => simp_all
  · exact accepted

/-- Another record of an instance, in the same place of the plan and as acceptable. -/
structure SamePlace (item other : AgentInstance) : Prop where
  taskId : other.taskId = item.taskId
  instanceId : other.instanceId = item.instanceId
  stageId : other.stageId = item.stageId
  agentType : other.agentType = item.agentType
  accepted : item.accepted = true → other.accepted = true

theorem SamePlace.refl (item : AgentInstance) : SamePlace item item := ⟨rfl, rfl, rfl, rfl, id⟩

theorem SamePlace.trans {item middle other : AgentInstance} (first : SamePlace item middle)
    (second : SamePlace middle other) : SamePlace item other :=
  ⟨second.taskId.trans first.taskId, second.instanceId.trans first.instanceId,
    second.stageId.trans first.stageId, second.agentType.trans first.agentType,
    fun accepted => second.accepted (first.accepted accepted)⟩

theorem AgentInstance.activate_place (item : AgentInstance) :
    SamePlace item (item.activate now) := by
  refine ⟨rfl, rfl, rfl, rfl, fun accepted => ?_⟩
  unfold AgentInstance.accepted AgentInstance.activate at *
  simp only [Bool.and_eq_true] at accepted ⊢
  obtain ⟨⟨⟨⟨lifecycle, revision⟩, process⟩, rejection⟩, failure⟩ := accepted
  exact ⟨⟨⟨⟨RequirementLifecycle.activate_accepted lifecycle, revision⟩, process⟩, rejection⟩,
    failure⟩

theorem AgentInstance.clearManualStatus_place (item : AgentInstance) :
    SamePlace item item.clearManualStatus := ⟨rfl, rfl, rfl, rfl, id⟩

theorem AgentInstance.dropRejection_place (item : AgentInstance) :
    SamePlace item { item with deliveryRejection := none } := by
  refine ⟨rfl, rfl, rfl, rfl, fun accepted => ?_⟩
  unfold AgentInstance.accepted at *
  simp only [Bool.and_eq_true] at accepted ⊢
  exact ⟨⟨accepted.1.1, rfl⟩, accepted.2⟩

theorem recordTransition_place (target : InstanceStatus) (item : AgentInstance) :
    SamePlace item (TaskCommandService.recordTransition now target item) := by
  have choose : ∀ {condition : Prop} [Decidable condition] {before one other : AgentInstance},
      SamePlace before one → SamePlace before other →
      SamePlace before (if condition then one else other) := by
    intro condition _ before one other first second
    split
    · exact first
    · exact second
  have moved : SamePlace item { item with status := target } := ⟨rfl, rfl, rfl, rfl, id⟩
  unfold TaskCommandService.recordTransition
  exact ((moved.trans (choose (.refl _) (AgentInstance.clearManualStatus_place _))).trans
    (choose (AgentInstance.dropRejection_place _) (.refl _))).trans
    (choose (AgentInstance.activate_place _) (.refl _))

theorem Stage.activate_accepted {stage : Stage} (accepted : stage.accepted = true) :
    (stage.activate now).accepted = true := by
  unfold Stage.accepted Stage.activate at *
  simp only [Bool.and_eq_true] at accepted ⊢
  obtain ⟨⟨⟨⟨position, depends⟩, lifecycle⟩, some⟩, listed⟩ := accepted
  exact ⟨⟨⟨⟨position, depends⟩, RequirementLifecycle.activate_accepted lifecycle⟩, some⟩, listed⟩

theorem Stage.refreshed_accepted {activateNew : Bool} {stages : List Stage}
    {instances : List AgentInstance} {stage : Stage} (accepted : stage.accepted = true) :
    (stage.refreshed now activateNew stages instances).accepted = true := by
  unfold Stage.refreshed
  split
  · exact Stage.activate_accepted accepted
  · exact accepted

/-- A plan stays valid when its instances keep their places and its stages their links. -/
theorem PlanValid.of_place (valid : PlanValid plan) (task : MainTask) (onStage : Stage → Stage)
    (onInstance : AgentInstance → AgentInstance) (sameId : task.taskId = plan.task.taskId)
    (taskAccepted : plan.task.accepted = true → task.accepted = true)
    (stages : ∀ stage, (onStage stage).taskId = stage.taskId ∧ (onStage stage).link = stage.link ∧
      (stage.accepted = true → (onStage stage).accepted = true))
    (place : ∀ item, SamePlace item (onInstance item)) :
    PlanValid { plan with
      task := task
      stages := plan.stages.map onStage
      instances := plan.instances.map onInstance } := by
  refine valid.mapped task onStage onInstance sameId
    (fun stage _ => ⟨(stages stage).1, (stages stage).2.1⟩)
    (fun item _ => ⟨(place item).taskId, (place item).instanceId, (place item).stageId,
      (place item).agentType⟩) ?_
  have accepted := valid.accepted
  unfold Plan.accepted at accepted ⊢
  simp only [Bool.and_eq_true, List.all_eq_true, List.isEmpty_map, List.mem_map,
    forall_exists_index, and_imp, forall_apply_eq_imp_iff₂] at accepted ⊢
  obtain ⟨⟨⟨⟨⟨⟨task, someStage⟩, all⟩, someInstance⟩, instances⟩, someCard⟩, cards⟩ := accepted
  exact ⟨⟨⟨⟨⟨⟨taskAccepted task, someStage⟩, fun stage member => (stages stage).2.2 (all stage member)⟩,
    someInstance⟩, fun item member => (place item).accepted (instances item member)⟩, someCard⟩,
    cards⟩

theorem PlanValid.modifyPlace (valid : PlanValid plan) {instanceId : Identifier}
    {change : AgentInstance → AgentInstance} (place : ∀ item, SamePlace item (change item)) :
    PlanValid (plan.modifyInstance instanceId change) := by
  have kept := valid.of_place plan.task id
    (fun item => if item.instanceId = instanceId then change item else item) rfl id
    (fun _ => ⟨rfl, rfl, id⟩) fun item => by
      split
      · exact place item
      · exact .refl item
  rw [List.map_id] at kept
  exact kept

/-- A re-aggregated plan passes `validate_plan` again. -/
theorem PlanValid.reaggregated (valid : PlanValid plan) : PlanValid (plan.reaggregated now) := by
  refine valid.of_place (plan.reaggregated now).task
    (Stage.refreshed now true plan.stages plan.instances) _ rfl id (fun stage => ?_) fun item => ?_
  · refine ⟨?_, Stage.refreshed_link .., Stage.refreshed_accepted⟩
    unfold Stage.refreshed
    split <;> rfl
  · split
    · exact AgentInstance.activate_place item
    · exact .refl item

end

/-- The plan that an instance event leaves to be re-aggregated. -/
def Plan.afterEvent (now : Timestamp) (instanceId : Identifier) (target : InstanceStatus)
    (plan : Plan) : Plan :=
  plan.modifyInstance instanceId (TaskCommandService.recordTransition now target)

theorem recordTransition_status (now : Timestamp) (target : InstanceStatus)
    (item : AgentInstance) :
    (TaskCommandService.recordTransition now target item).status = target := by
  have clears : ∀ item : AgentInstance, item.clearManualStatus.status = item.status :=
    fun _ => rfl
  unfold TaskCommandService.recordTransition AgentInstance.activate
  split_ifs <;> simp [clears]

/-- The plan holds the event: the instance has the target status, and every other one its own. -/
def Plan.RecordsEvent (plan next : Plan) (instanceId : Identifier) (target : InstanceStatus) :
    Prop :=
  next.instances.map (fun item => (item.instanceId, item.status)) =
    plan.instances.map fun item =>
      (item.instanceId, if item.instanceId = instanceId then target else item.status)

theorem Plan.afterEvent_records (now : Timestamp) (instanceId : Identifier)
    (target : InstanceStatus) (plan : Plan) :
    plan.RecordsEvent ((plan.afterEvent now instanceId target).reaggregated now) instanceId
      target := by
  have activated : ∀ (keys : List Identifier) (items : List AgentInstance),
      (activateAll now keys items).map (fun item => (item.instanceId, item.status)) =
        items.map fun item => (item.instanceId, item.status) := by
    intro keys items
    rw [activateAll, List.map_map]
    refine List.map_congr_left fun item _ => ?_
    simp only [Function.comp_apply]
    split <;> rfl
  have moved : ((plan.afterEvent now instanceId target).reaggregated now).instances =
      activateAll now _ (plan.afterEvent now instanceId target).instances := rfl
  rw [Plan.RecordsEvent, moved, activated]
  simp only [Plan.afterEvent, Plan.modifyInstance, List.map_map]
  refine List.map_congr_left fun item _ => ?_
  simp only [Function.comp_apply]
  split
  · rw [recordTransition_instanceId, recordTransition_status]
  · rfl

theorem Plan.requireInstance_of_mem {plan : Plan} {item : AgentInstance}
    (distinct : (plan.instances.map AgentInstance.instanceId).Nodup)
    (member : item ∈ plan.instances) : plan.requireInstance item.instanceId = .ok item := by
  rw [Plan.requireInstance_eq_ok]
  cases found : plan.instances.find? (·.instanceId = item.instanceId) with
  | none =>
      have other := List.find?_eq_none.mp found item member
      simp at other
  | some other =>
      have same : other.instanceId = item.instanceId := by simpa using List.find?_some found
      rw [List.inj_on_of_nodup_map distinct (List.mem_of_find?_eq_some found) member same]

/-- A legal event at the current revision is decided by the re-aggregation. -/
theorem handle_transitionInstance {state : TaskState} {plan : Plan} {item : AgentInstance}
    {target : InstanceStatus} {envelope : CommandEnvelope} (ambient : Ambient)
    (stored : state.plan = some plan) (found : plan.requireInstance item.instanceId = .ok item)
    (legal : target ∈ item.status.transitions)
    (current : envelope.expectedRevision = state.taskRevision) :
    TaskCommandService.handle state envelope ambient
        (.transitionInstance item.instanceId target) = (do
      let moved ← (plan.afterEvent ambient.now item.instanceId target).reaggregate ambient.now
      return .aggregate moved false) := by
  have moves : transitionInstanceStatus item.status target = .ok () :=
    transitionInstanceStatus_eq_ok.mpr legal
  have revision : state.requireRevision envelope plan.task.taskId = .ok () :=
    TaskState.requireRevision_eq_ok.mpr current
  have planned : state.requirePlan = .ok plan := TaskState.requirePlan_eq_ok.mpr stored
  simp only [TaskCommandService.handle, TaskCommandService.transitionInstance, planned, revision,
    found, moves, ok_bind, Plan.afterEvent]

/-- The store after an event that was recorded. -/
def TaskState.afterEvent (state : TaskState) (plan : Plan) : TaskState where
  task := some plan.task
  taskRevision := state.taskRevision + 1
  plan := some plan
  planRevision := state.planRevision + 1

/-- In a sound plan a legal event at the current revision is recorded, or raises
    `INVALID_STATE_TRANSITION` when it leaves a plan that blocks it. -/
theorem StateInvariant.legalEvent {state : TaskState} {plan : Plan} {item : AgentInstance}
    {target : InstanceStatus} {envelope : CommandEnvelope} {ambient : Ambient}
    (inv : StateInvariant state) (stored : state.plan = some plan)
    (member : item ∈ plan.instances) (legal : target ∈ item.status.transitions)
    (current : envelope.expectedRevision = state.taskRevision) :
    ((plan.afterEvent ambient.now item.instanceId target).blocks ambient.now = false →
      TaskCommandService.handle state envelope ambient
          (.transitionInstance item.instanceId target) = .ok (.aggregate
        ((plan.afterEvent ambient.now item.instanceId target).reaggregated ambient.now) false) ∧
      state.apply (.aggregate
          ((plan.afterEvent ambient.now item.instanceId target).reaggregated ambient.now) false) =
        .ok (state.afterEvent
          ((plan.afterEvent ambient.now item.instanceId target).reaggregated ambient.now))) ∧
    ((plan.afterEvent ambient.now item.instanceId target).blocks ambient.now = true →
      ∃ error, TaskCommandService.handle state envelope ambient
        (.transitionInstance item.instanceId target) = .error error ∧
        error.isInvalidTransition = true) := by
  have inv := inv.plan plan stored
  have distinct := inv.valid.instanceIdsDistinct
  have handles := handle_transitionInstance ambient stored
    (Plan.requireInstance_of_mem distinct member) legal current
  have prepared : PlanBase plan (plan.afterEvent ambient.now item.instanceId target) :=
    .of_modifyInstance distinct member (recordTransition_instanceId _ _)
      (recordTransition_progressed legal _)
  have wired := prepared.wired inv.valid.wired
  have sound := prepared.instances.sound inv.instances
  obtain ⟨records, raises⟩ := Plan.reaggregate_eq wired inv.stages sound inv.status
  rw [handles]
  constructor
  · intro free
    have valid : PlanValid ((plan.afterEvent ambient.now item.instanceId target).reaggregated
        ambient.now) :=
      (inv.valid.modifyPlace fun item => recordTransition_place target item).reaggregated
    rw [records free, ok_bind]
    exact ⟨rfl, TaskState.apply_aggregate_eq_ok.mpr ⟨valid, rfl⟩⟩
  · intro blocked
    obtain ⟨error, raised, invalid⟩ := raises blocked
    rw [raised, error_bind]
    exact ⟨error, rfl, invalid⟩

/-- In every reachable plan a legal event at the current revision is recorded, or raises
    `INVALID_STATE_TRANSITION` when it leaves a plan that blocks it. -/
theorem transitionInstance_recorded_unless_blocked {calls : List Call} {plan : Plan}
    {item : AgentInstance} {target : InstanceStatus} {envelope : CommandEnvelope}
    {ambient : Ambient} (stored : (runOf calls).plan = some plan) (member : item ∈ plan.instances)
    (legal : target ∈ item.status.transitions)
    (current : envelope.expectedRevision = (runOf calls).taskRevision) :
    ((plan.afterEvent ambient.now item.instanceId target).blocks ambient.now = false →
      ∃ next recorded, (runOf calls).execute envelope ambient
          (.transitionInstance item.instanceId target) = .ok next ∧
        next.taskRevision = (runOf calls).taskRevision + 1 ∧ next.plan = some recorded ∧
        plan.RecordsEvent recorded item.instanceId target) ∧
    ((plan.afterEvent ambient.now item.instanceId target).blocks ambient.now = true →
      ∃ error, (runOf calls).execute envelope ambient
        (.transitionInstance item.instanceId target) = .error error ∧
        error.isInvalidTransition = true) := by
  obtain ⟨records, raises⟩ := (runOf_invariant calls).legalEvent stored member legal current
  have built : TaskCommandService.buildRequest envelope
      (.transitionInstance item.instanceId target) =
        .ok (.transitionInstance item.instanceId target) := rfl
  constructor
  · intro free
    obtain ⟨handled, applied⟩ := records free
    refine ⟨(runOf calls).afterEvent ((plan.afterEvent ambient.now item.instanceId
      target).reaggregated ambient.now), _, ?_, rfl, rfl, Plan.afterEvent_records ..⟩
    rw [TaskState.execute, built, ok_bind, handled, ok_bind, applied]
  · intro blocked
    obtain ⟨error, raised, invalid⟩ := raises blocked
    refine ⟨error, ?_, invalid⟩
    rw [TaskState.execute, built, ok_bind, raised, error_bind]

theorem transitionInstance_recorded_unless_blocked_starting :
    ∃ next recorded, (runOf (samplePlanned .auto pairPayload)).execute ⟨"key", .human, "owner", 2⟩
        ⟨"t2", "u2"⟩ (.transitionInstance "a" .starting) = .ok next ∧
      next.plan = some recorded ∧
      ∃ item ∈ recorded.instances, item.instanceId = "a" ∧ item.status = .starting := by
  have reachable : ∃ plan ∈ (runOf (samplePlanned .auto pairPayload)).plan,
      (plan.afterEvent "t2" "a" .starting).blocks "t2" = false ∧
        ∃ item ∈ plan.instances, item.instanceId = "a" ∧ .starting ∈ item.status.transitions := by
    decide
  obtain ⟨plan, stored, free, item, member, same, legal⟩ := reachable
  rw [← same] at free ⊢
  have recording := @transitionInstance_recorded_unless_blocked (samplePlanned .auto pairPayload)
    plan item .starting ⟨"key", .human, "owner", 2⟩ ⟨"t2", "u2"⟩ stored member legal (by decide)
  obtain ⟨next, recorded, executed, -, found, records⟩ := recording.1 free
  refine ⟨next, recorded, executed, found, ?_⟩
  have listed : (item.instanceId, InstanceStatus.starting) ∈
      recorded.instances.map fun item => (item.instanceId, item.status) := by
    rw [records]
    exact List.mem_map.mpr ⟨item, member, by rw [if_pos rfl]⟩
  obtain ⟨moved, among, equal⟩ := List.mem_map.mp listed
  exact ⟨moved, among, (Prod.ext_iff.mp equal).1, (Prod.ext_iff.mp equal).2⟩

/-- A legal event at the current revision that raises `INVALID_STATE_TRANSITION` after a run. -/
def RefusedEvent (calls : List Call) (key : Identifier) (target : InstanceStatus) : Prop :=
  (∃ plan ∈ (runOf calls).plan, ∃ item ∈ plan.instances, item.instanceId = key ∧
    target ∈ item.status.transitions) ∧
  Outcome.raisesInvalidTransition ((runOf calls).execute
    ⟨"key", .human, "owner", (runOf calls).taskRevision⟩ ⟨"t2", "u2"⟩
    (.transitionInstance key target)) = true

instance (calls : List Call) (key : Identifier) (target : InstanceStatus) :
    Decidable (RefusedEvent calls key target) := inferInstanceAs (Decidable (_ ∧ _))

/-- An optional instance alone in an optional stage. -/
def optionalPayload : PlanPayload where
  stages := [sampleStage "s1" .general 1 ["a"] false]
  instances := [sampleInstance "a" "s1" .general false]
  taskCards := [sampleCard "a" "s1" .general]

/-- Events that the catalog allows and the re-aggregation refuses: the failure of the only
    instance of an optional stage that runs, waking an instance of a stage that has succeeded,
    and returning to an approval in a stage that has failed. -/
theorem legal_events_refused :
    RefusedEvent (samplePlanned .auto optionalPayload ++
      sampleTransitions 2 [("a", .starting), ("a", .running)]) "a" .failed ∧
    RefusedEvent (samplePlanned .auto pairPayload ++
      sampleTransitions 2 [("a", .starting), ("b", .starting), ("a", .running), ("b", .running),
        ("a", .succeeded), ("b", .succeeded), ("a", .stopped)]) "a" .running ∧
    RefusedEvent (samplePlanned .auto pairPayload ++
      sampleTransitions 2 [("a", .starting), ("b", .starting), ("a", .running), ("b", .running),
        ("b", .waitingApproval), ("b", .stopped), ("a", .failed)]) "b" .waitingApproval := by
  decide

end DesignHarness
