import DesignHarness.Domain.ProposalRules
import DesignHarness.Domain.Reaggregation
import DesignHarness.Domain.TextPatterns

/-!
# Saving the plan of a proposal

A proposal that `validate_plan_proposal` accepts is saved with `save_plan(mode="replace")`, which
runs the `task-plan` contract and `validate_plan` on what `materialize_plan_proposal` makes of it,
and writes the stages and the instances to files of their names.  The two agree on everything but
three details (`proposal_saved_iff`): a stage without work items, an instance id with a newline
behind it, which `task_card_relpath` then has in its middle, and a stage id with one.
-/

namespace DesignHarness

open Library

/-! ## Replacing a plan -/

/-- The plan of `_normalize_plan` before it is aggregated. -/
def PlanPayload.fresh (payload : PlanPayload) (task : MainTask) (planRevision : Nat)
    (now : Timestamp) : Plan where
  task := { task with status := .planned, planRevision := planRevision, updatedAt := now }
  stages := (sortedPayload payload.stages).map (StagePayload.normalize task.taskId)
  instances := payload.instances.map (InstancePayload.normalize task.taskId now)
  taskCards := payload.taskCards.map (CardPayload.normalize task.taskId now)

/-- The task is in a state in which `save_plan` with these arguments replaces its plan. -/
structure Plannable (state : TaskState) (envelope : CommandEnvelope)
    (expectedPlanRevision : Option Nat) (task : MainTask) : Prop where
  stored : state.task = some task
  accepted : task.accepted = true
  status : task.status ∈ [.draft, .planned, .blockedUnavailable, .failed]
  revision : envelope.expectedRevision = state.taskRevision
  planRevision : ∀ expected, expectedPlanRevision = some expected → expected = task.planRevision

/-- `business_revision`. -/
def TaskState.nextPlanRevision (state : TaskState) (task : MainTask) : Nat :=
  if state.plan.isSome then task.planRevision + 1 else task.planRevision

section

variable {payload : PlanPayload} {task : MainTask} {planRevision : Nat} {now : Timestamp}

theorem PlanPayload.fresh_stage {stage : Stage}
    (member : stage ∈ (payload.fresh task planRevision now).stages) : FreshStage stage := by
  obtain ⟨raw, -, rfl⟩ := List.mem_map.mp member
  exact ⟨rfl, rfl⟩

theorem PlanPayload.fresh_instance {item : AgentInstance}
    (member : item ∈ (payload.fresh task planRevision now).instances) : FreshInstance item := by
  obtain ⟨raw, -, rfl⟩ := List.mem_map.mp member
  exact ⟨rfl, rfl, rfl⟩

/-- A stage of a valid plan has a member. -/
theorem PlanValid.exists_member {plan : Plan} (valid : PlanValid plan) {stage : Stage}
    (member : stage ∈ plan.stages) : ∃ item, item ∈ stage.members plan.instances := by
  have accepted := valid.accepted
  simp only [Plan.accepted, Bool.and_eq_true, List.all_eq_true] at accepted
  have stageAccepted := accepted.1.1.1.1.2 stage member
  simp only [Stage.accepted, Bool.and_eq_true, Bool.not_eq_true', List.isEmpty_eq_false_iff]
    at stageAccepted
  obtain ⟨key, listed⟩ := List.exists_mem_of_ne_nil _ stageAccepted.1.2
  have known := valid.referencedExist key (List.mem_flatMap.mpr ⟨stage, member, listed⟩)
  obtain ⟨item, found⟩ := Option.isSome_iff_exists.mp (dictGet_isSome_iff.mpr known)
  exact ⟨item, List.mem_filterMap.mpr ⟨key, listed, found⟩⟩

/-- The stages of a valid new plan wait for their members to be started, and may. -/
theorem PlanValid.fresh_checkRefresh
    (valid : PlanValid (payload.fresh task planRevision now)) :
    checkEach (Stage.checkRefresh (payload.fresh task planRevision now).stages
        (payload.fresh task planRevision now).instances)
      (payload.fresh task planRevision now).stages = .ok () := by
  rw [checkEach_eq_ok]
  intro stage member
  have fresh := PlanPayload.fresh_stage member
  rw [Stage.checkRefresh_eq_ok fresh.sound fun item itemMember =>
    (PlanPayload.fresh_instance itemMember).sound]
  obtain ⟨item, listed⟩ := valid.exists_member member
  have ready := (PlanPayload.fresh_instance (Stage.mem_members listed).1).status
  have queued : (memberFacts stage.required
      (stage.members (payload.fresh task planRevision now).instances)).queued = true :=
    List.any_eq_true.mpr ⟨item, listed, by simp [ready, InstanceStatus.isQueued]⟩
  simp [Stage.blocks, fresh.status, MemberFacts.blocks, MemberFacts.idle, queued]

theorem PlanValid.fresh_refreshed (valid : PlanValid (payload.fresh task planRevision now)) :
    PlanValid ((payload.fresh task planRevision now).refreshed now false) := by
  refine valid.of_place _
    (Stage.refreshed now false (payload.fresh task planRevision now).stages
      (payload.fresh task planRevision now).instances) _ rfl id (fun stage => ?_) fun item => ?_
  · refine ⟨?_, Stage.refreshed_link .., Stage.refreshed_accepted⟩
    unfold Stage.refreshed
    split <;> rfl
  · split
    · exact AgentInstance.activate_place item
    · exact .refl item

/-- `_normalize_plan` returns the plan with its stages aggregated. -/
theorem normalizePlan_of_valid (valid : PlanValid (payload.fresh task planRevision now)) :
    normalizePlan task planRevision payload now =
      .ok ((payload.fresh task planRevision now).refreshed now false) := by
  have refreshes : refreshStages (payload.fresh task planRevision now) now false =
      .ok ((payload.fresh task planRevision now).refreshed now false) := by
    rw [refreshStages_eq valid.wired, valid.fresh_checkRefresh, ok_bind]
  have passes : validatePlan ((payload.fresh task planRevision now).refreshed now false) = .ok () :=
    validatePlan_eq_ok.mpr valid.fresh_refreshed
  change (do
    let plan ← refreshStages (payload.fresh task planRevision now) now false
    validatePlan plan
    return plan) = _
  rw [refreshes, ok_bind, passes, ok_bind, pure_eq_ok]

/-- A plan that `_normalize_plan` returns lists an instance in each stage of its payload. -/
theorem normalizePlan_listed {plan : Plan} {raw : StagePayload}
    (normalized : normalizePlan task planRevision payload now = .ok plan)
    (member : raw ∈ payload.stages) : raw.instanceIds ≠ [] := by
  simp only [normalizePlan, bind_eq_ok, validatePlan_eq_ok, pure_eq_ok, Except.ok.injEq]
    at normalized
  obtain ⟨_, refreshed, -, valid, rfl⟩ := normalized
  obtain ⟨-, -, same⟩ := refreshStages_of_wired refreshed valid.wired
  have accepted := valid.accepted
  simp only [Plan.accepted, Bool.and_eq_true, List.all_eq_true] at accepted
  have stages := accepted.1.1.1.1.2
  rw [same] at stages
  have inFresh : raw.normalize task.taskId ∈ sortedByPosition ((sortedPayload payload.stages).map
      (StagePayload.normalize task.taskId)) :=
    (List.mem_insertionSort _).mpr (List.mem_map_of_mem ((List.mem_insertionSort _).mpr member))
  have stageAccepted := stages _ (List.mem_map_of_mem inFresh)
  simp only [Stage.accepted, Bool.and_eq_true, Bool.not_eq_true', List.isEmpty_eq_false_iff]
    at stageAccepted
  have listed := congrArg StageLink.instanceIds (Stage.refreshed_link now false
    (sortedByPosition ((sortedPayload payload.stages).map (StagePayload.normalize task.taskId)))
    (payload.instances.map (InstancePayload.normalize task.taskId now))
    (raw.normalize task.taskId))
  exact fun none => stageAccepted.1.2 (listed.trans none)

/-- No stage has to move when a new plan is started. -/
theorem PlanValid.fresh_checkStart (valid : PlanValid (payload.fresh task planRevision now)) :
    checkEach (Stage.checkStart ((payload.fresh task planRevision now).refreshed now false).stages
        ((payload.fresh task planRevision now).refreshed now false).instances)
      ((payload.fresh task planRevision now).refreshed now false).stages = .ok () := by
  rw [checkEach_eq_ok]
  intro other member
  obtain ⟨stage, stageMember, rfl⟩ := List.mem_map.mp member
  rw [Stage.checkStart, if_neg]
  rintro ⟨ready, moves⟩
  rw [Plan.refreshed_isReady valid.wired stageMember false] at ready
  refine moves ?_
  rw [Stage.refreshed_status, Stage.refreshTarget_of_isReady ready]
  exact Stage.memberStatus_refreshed ready _

/-- A started new plan is running. -/
theorem PlanValid.fresh_aggregateTask (valid : PlanValid (payload.fresh task planRevision now)) :
    ((((payload.fresh task planRevision now).refreshed now false).withStatus .planned).started
      now).aggregateTask = .running := by
  have ready : ∀ item ∈ ((((payload.fresh task planRevision now).refreshed now false).withStatus
      .planned).started now).instances, item.status = .ready := by
    intro item member
    obtain ⟨refreshed, refreshedMember, -, -, status⟩ := mem_activateAll member
    obtain ⟨fresh, freshMember, -, -, same⟩ := mem_activateAll refreshedMember
    rw [status, same, (PlanPayload.fresh_instance freshMember).status]
  have some : ((((payload.fresh task planRevision now).refreshed now false).withStatus
      .planned).started now).instances ≠ [] := by
    have accepted := valid.accepted
    simp only [Plan.accepted, Bool.and_eq_true, Bool.not_eq_true', List.isEmpty_eq_false_iff]
      at accepted
    simpa [Plan.started, Plan.refreshed, Plan.withStatus, activateAll] using accepted.1.1.1.2
  have planned : ((((payload.fresh task planRevision now).refreshed now false).withStatus
      .planned).started now).task.status = .planned := rfl
  generalize ((((payload.fresh task planRevision now).refreshed now false).withStatus
    .planned).started now) = plan at ready some planned ⊢
  have waiting : plan.facts.awaiting = false := by
    refine List.any_eq_false.mpr fun item member => ?_
    simp [ready item member]
  have active : plan.facts.active = true := by
    obtain ⟨item, member⟩ := List.exists_mem_of_ne_nil _ some
    refine List.any_eq_true.mpr ⟨item, member, ?_⟩
    simp [ready item member, InstanceStatus.isActive]
  rw [Plan.aggregateTask_eq, planned]
  simp [TaskStatus.isTerminal, PlanFacts.status, waiting, active]

/-- What is saved has the stages and the instances of the payload. -/
theorem savePlan_names {state : TaskState} {envelope : CommandEnvelope} {ambient : Ambient}
    {expectedPlanRevision : Option Nat} {commit : Commit}
    (saved : TaskCommandService.savePlan state envelope ambient .replace payload
      expectedPlanRevision = .ok commit) :
    ∃ plan skipUnchanged, commit = .aggregate plan skipUnchanged ∧
      (∀ key, key ∈ plan.stages.map Stage.stageId ↔
        key ∈ payload.stages.map StagePayload.stageId) ∧
      plan.instances.map AgentInstance.instanceId =
        payload.instances.map InstancePayload.instanceId := by
  simp only [TaskCommandService.savePlan, TaskCommandService.replacePlan, bind_eq_ok] at saved
  obtain ⟨task, -, -, -, -, -, -, -, _, normalized, saved⟩ := saved
  simp only [normalizePlan, bind_eq_ok, validatePlan_eq_ok, pure_eq_ok, Except.ok.injEq]
    at normalized
  obtain ⟨plan, refreshed, -, valid, rfl⟩ := normalized
  obtain ⟨-, -, same⟩ := refreshStages_of_wired refreshed valid.wired
  have links : ∀ (stages : List Stage) (moved : Stage → Stage),
      (∀ stage, (moved stage).link = stage.link) →
      (stages.map moved).map Stage.stageId = stages.map Stage.stageId := by
    intro stages moved kept
    rw [List.map_map]
    exact List.map_congr_left fun stage _ => congrArg StageLink.stageId (kept stage)
  have stages : ∀ key, key ∈ plan.stages.map Stage.stageId ↔
      key ∈ payload.stages.map StagePayload.stageId := by
    intro key
    rw [same]
    change key ∈ (List.map _ _).map Stage.stageId ↔ _
    rw [links _ _ fun stage => Stage.refreshed_link ..]
    simp only [List.mem_map, mem_sortedByPosition, sortedPayload, List.mem_insertionSort]
    constructor
    · rintro ⟨_, ⟨raw, member, rfl⟩, rfl⟩
      exact ⟨raw, member, rfl⟩
    · rintro ⟨raw, member, rfl⟩
      exact ⟨_, ⟨raw, member, rfl⟩, rfl⟩
  have instances : plan.instances.map AgentInstance.instanceId =
      payload.instances.map InstancePayload.instanceId := by
    rw [same]
    change (activateAll _ _ _).map AgentInstance.instanceId = _
    rw [activateAll_instanceIds, List.map_map]
    rfl
  replace saved := ok_of_guarded saved
  split at saved
  · obtain ⟨-, -, saved⟩ := bind_eq_ok.mp saved
    obtain rfl := Except.ok.inj saved
    exact ⟨_, false, rfl, stages, instances⟩
  · simp only [bind_eq_ok] at saved
    obtain ⟨started, activated, -, -, saved⟩ := saved
    obtain rfl := Except.ok.inj saved
    have starts : started = (plan.withStatus .planned).started ambient.now :=
      activateCurrentStages_eq_ok valid.wired activated
    refine ⟨_, false, rfl, fun key => ?_, ?_⟩
    · rw [starts]
      change key ∈ (List.map _ _).map Stage.stageId ↔ _
      rw [links _ _ fun stage => Stage.started_link ..]
      exact stages key
    · rw [starts]
      change (activateAll _ _ _).map AgentInstance.instanceId = _
      rw [activateAll_instanceIds]
      exact instances

/-- A plannable task takes every plan that is valid when it is new. -/
theorem savePlan_of_valid {state : TaskState} {envelope : CommandEnvelope} (ambient : Ambient)
    {expectedPlanRevision : Option Nat}
    (plannable : Plannable state envelope expectedPlanRevision task)
    (valid : PlanValid (payload.fresh task (state.nextPlanRevision task) ambient.now)) :
    ∃ commit, TaskCommandService.savePlan state envelope ambient .replace payload
      expectedPlanRevision = .ok commit := by
  have read : state.requireTask = .ok task := by
    rw [TaskState.requireTask, plannable.stored]
  have guarded : TaskCommandService.guardPlanSaveState task.status .replace = .ok () :=
    ensure_of plannable.status
  have revision : state.requireRevision envelope task.taskId = .ok () :=
    ensure_of plannable.revision
  have planRevision : task.requirePlanRevision expectedPlanRevision = .ok () := by
    cases given : expectedPlanRevision with
    | none => rfl
    | some expected => exact ensure_of (plannable.planRevision expected given)
  have moves : task.status ≠ .planned → transitionTask task.status .planned = .ok () := by
    intro unplanned
    rw [transitionTask_eq_ok]
    have status := plannable.status
    simp only [List.mem_cons, List.not_mem_nil, or_false] at status
    rcases status with same | same | same | same
    · rw [same]
      decide
    · exact absurd same unplanned
    · rw [same]
      decide
    · rw [same]
      decide
  have awaits : transitionTask .planned .awaitingStartConfirmation = .ok () :=
    transitionTask_eq_ok.mpr (by decide)
  have starts := @activateCurrentStages_eq
    (((payload.fresh task (state.nextPlanRevision task) ambient.now).refreshed ambient.now
      false).withStatus .planned) valid.fresh_refreshed.wired ambient.now
  have legal := valid.fresh_checkStart
  have runs := valid.fresh_aggregateTask
  have running : validateTaskReaggregation .planned .running = .ok () := by
    rw [validateTaskReaggregation, if_neg (by simp), transitionTask_eq_ok]
    decide
  simp only [TaskCommandService.savePlan, read, guarded, revision, planRevision, ok_bind,
    TaskCommandService.replacePlan]
  rw [← TaskState.nextPlanRevision, normalizePlan_of_valid valid]
  simp only [ok_bind]
  rw [starts]
  by_cases planned : task.status = .planned <;>
    by_cases manual : task.startPolicy = .manual <;>
      simp [planned, manual, moves, awaits, legal, runs, running]

end

/-! ## The plan of a proposal -/

theorem mem_sortedStages {stages : List ProposalStage} {stage : ProposalStage} :
    stage ∈ sortedStages stages ↔ stage ∈ stages := List.mem_insertionSort _

namespace ProposalValid

variable {credentialSafe : String → Bool} {proposal : PlanProposal} {taskId : Identifier}
  {expectedRevision : Nat}

theorem contract (valid : ProposalValid credentialSafe proposal taskId expectedRevision) :
    (proposal.stages ≠ [] ∧ ∀ stage ∈ proposal.stages, stage.accepted = true) ∧
      (proposal.workItems ≠ [] ∧
        ∀ item ∈ proposal.workItems, item.accepted credentialSafe = true) ∧
      proposal.executionCards ≠ [] ∧
        ∀ card ∈ proposal.executionCards, card.accepted credentialSafe = true := by
  have accepted := valid.accepted
  simp only [PlanProposal.accepted, Bool.and_eq_true, Bool.not_eq_true',
    List.isEmpty_eq_false_iff, List.all_eq_true] at accepted
  obtain ⟨⟨⟨⟨⟨⟨⟨-, someStage⟩, stages⟩, someItem⟩, items⟩, someCard⟩, cards⟩, -⟩ := accepted
  exact ⟨⟨someStage, stages⟩, ⟨someItem, items⟩, someCard, cards⟩

theorem exists_current (valid : ProposalValid credentialSafe proposal taskId expectedRevision)
    {item : WorkItem} (member : item ∈ proposal.workItems) :
    ∃ current, item.currentInstanceId = some current := by
  obtain ⟨current, known, -⟩ := (valid.itemsPlaced item member).current
  exact ⟨current, known⟩

/-- No two work items have the same instance. -/
theorem item_unique (valid : ProposalValid credentialSafe proposal taskId expectedRevision)
    {item other : WorkItem} (member : item ∈ proposal.workItems)
    (otherMember : other ∈ proposal.workItems)
    (same : item.currentInstanceId = other.currentInstanceId) : item = other :=
  List.inj_on_of_nodup_map valid.currentDistinct member otherMember same

theorem current_distinct (valid : ProposalValid credentialSafe proposal taskId expectedRevision) :
    (proposal.workItems.filterMap WorkItem.currentInstanceId).Nodup := by
  have distinct := valid.currentDistinct.filterMap (f := id)
    fun one other key inOne inOther => by
      rw [id, Option.mem_def] at inOne inOther
      rw [inOne, inOther]
  rw [List.filterMap_map] at distinct
  exact distinct

theorem sorted_positions (valid : ProposalValid credentialSafe proposal taskId expectedRevision) :
    sortedPayload (materializePlanProposal proposal).stages =
      (materializePlanProposal proposal).stages := by
  have ordered : ((materializePlanProposal proposal).stages.map StagePayload.position).Pairwise
      (· ≤ ·) := by
    have same : (materializePlanProposal proposal).stages.map StagePayload.position =
        (sortedStages proposal.stages).map ProposalStage.position := by
      simp [materializePlanProposal, ProposalStage.payload]
    rw [same, valid.positions]
    exact List.pairwise_le_range'
  exact (List.pairwise_map.mp ordered).insertionSort_eq

end ProposalValid

/-- The instance of a work item in a new plan. -/
theorem mem_fresh_instances {proposal : PlanProposal} {task : MainTask} {planRevision : Nat}
    {now : Timestamp} {fresh : AgentInstance} :
    fresh ∈ ((materializePlanProposal proposal).fresh task planRevision now).instances ↔
      ∃ item ∈ proposal.workItems, ∃ current, item.currentInstanceId = some current ∧
        fresh = (item.payload current).normalize task.taskId now := by
  simp only [PlanPayload.fresh, materializePlanProposal, List.mem_map, List.mem_filterMap,
    Option.map_eq_some_iff]
  constructor
  · rintro ⟨raw, ⟨item, member, current, known, rfl⟩, rfl⟩
    exact ⟨item, member, current, known, rfl⟩
  · rintro ⟨item, member, current, known, rfl⟩
    exact ⟨_, ⟨item, member, current, known, rfl⟩, rfl⟩

theorem fresh_instanceIds {proposal : PlanProposal} {task : MainTask} {planRevision : Nat}
    {now : Timestamp} :
    ((materializePlanProposal proposal).fresh task planRevision now).instances.map
      AgentInstance.instanceId = proposal.workItems.filterMap WorkItem.currentInstanceId := by
  simp only [PlanPayload.fresh, materializePlanProposal, List.map_map, List.map_filterMap]
  refine congrArg (List.filterMap · proposal.workItems) (funext fun item => ?_)
  cases item.currentInstanceId <;> rfl

theorem mem_stageInstances {items : List WorkItem} {stageId key : Identifier} :
    key ∈ stageInstances items stageId ↔
      ∃ item ∈ items, item.stageId = stageId ∧ item.currentInstanceId = some key := by
  simp [stageInstances, List.mem_filterMap, List.mem_filter, and_assoc]

/-- A stage of a new plan. -/
def ProposalStage.fresh (task : MainTask) (items : List WorkItem) (stage : ProposalStage) : Stage :=
  (stage.payload items).normalize task.taskId

section

variable {credentialSafe : String → Bool} {proposal : PlanProposal} {expectedRevision : Nat}
  {task : MainTask} {planRevision : Nat} {now : Timestamp}

theorem ProposalValid.fresh_stages
    (valid : ProposalValid credentialSafe proposal task.taskId expectedRevision) :
    ((materializePlanProposal proposal).fresh task planRevision now).stages =
      (sortedStages proposal.stages).map (ProposalStage.fresh task proposal.workItems) := by
  rw [PlanPayload.fresh, valid.sorted_positions, materializePlanProposal, List.map_map]
  rfl

/-- The stage of a work item is found in the plan. -/
theorem ProposalValid.fresh_stage
    (valid : ProposalValid credentialSafe proposal task.taskId expectedRevision)
    {key : Identifier} {stage : ProposalStage}
    (found : dictGet ProposalStage.stageId (sortedStages proposal.stages) key = some stage) :
    dictGet Stage.stageId ((materializePlanProposal proposal).fresh task planRevision now).stages
      key = some (stage.fresh task proposal.workItems) := by
  obtain ⟨member, rfl⟩ := mem_of_dictGet found
  have distinct : (((materializePlanProposal proposal).fresh task planRevision now).stages.map
      Stage.stageId).Nodup := by
    rw [valid.fresh_stages, List.map_map]
    exact valid.stageIdsDistinct
  rw [dictGet_eq_some_iff distinct, valid.fresh_stages]
  exact ⟨List.mem_map_of_mem member, rfl⟩

theorem ProposalValid.fresh_instance
    (valid : ProposalValid credentialSafe proposal task.taskId expectedRevision)
    {item : WorkItem} {current : Identifier} (member : item ∈ proposal.workItems)
    (known : item.currentInstanceId = some current) :
    dictGet AgentInstance.instanceId
      ((materializePlanProposal proposal).fresh task planRevision now).instances current =
        some ((item.payload current).normalize task.taskId now) := by
  have distinct : (((materializePlanProposal proposal).fresh task planRevision now).instances.map
      AgentInstance.instanceId).Nodup := by
    rw [fresh_instanceIds]
    exact valid.current_distinct
  rw [dictGet_eq_some_iff distinct, mem_fresh_instances]
  exact ⟨⟨item, member, current, known, rfl⟩, rfl⟩

/-- Every card belongs to one work item. -/
theorem ProposalValid.card_item {taskId : Identifier}
    (valid : ProposalValid credentialSafe proposal taskId expectedRevision)
    {card : ExecutionCard} (member : card ∈ proposal.executionCards) :
    ∃ item ∈ proposal.workItems, ItemCard taskId proposal.executionCards item card := by
  have referenced := valid.cardsReferenced card.cardId (List.mem_map_of_mem member)
  obtain ⟨item, itemMember, listed⟩ := List.mem_flatMap.mp referenced
  obtain ⟨other, carded⟩ := valid.itemsCarded item itemMember
  rw [carded.listed, List.mem_singleton] at listed
  have same : other = card := List.inj_on_of_nodup_map valid.cardIdsDistinct
    (mem_of_dictGet carded.found).1 member listed.symm
  exact ⟨item, itemMember, same ▸ carded⟩

theorem ProposalValid.fresh_accepted
    (valid : ProposalValid credentialSafe proposal task.taskId expectedRevision)
    (accepted : task.accepted = true) (positive : 1 ≤ planRevision)
    (staffed : ∀ stage ∈ proposal.stages, ∃ item ∈ proposal.workItems,
      item.stageId = stage.stageId) :
    ((materializePlanProposal proposal).fresh task planRevision now).accepted = true := by
  obtain ⟨⟨someStage, stages⟩, ⟨someItem, -⟩, someCard, cards⟩ := valid.contract
  simp only [Plan.accepted, Bool.and_eq_true, Bool.not_eq_true', List.isEmpty_eq_false_iff,
    List.all_eq_true]
  refine ⟨⟨⟨⟨⟨⟨?_, ?_⟩, ?_⟩, ?_⟩, ?_⟩, ?_⟩, ?_⟩
  · simp only [MainTask.accepted, PlanPayload.fresh, Bool.and_eq_true] at accepted ⊢
    exact ⟨accepted.1, decide_eq_true positive⟩
  · rw [valid.fresh_stages]
    obtain ⟨stage, member⟩ := List.exists_mem_of_ne_nil _ someStage
    exact List.ne_nil_of_mem (List.mem_map_of_mem (mem_sortedStages.mpr member))
  · intro other member
    rw [valid.fresh_stages] at member
    obtain ⟨stage, stageMember, rfl⟩ := List.mem_map.mp member
    have stageMember := mem_sortedStages.mp stageMember
    have stageAccepted := stages stage stageMember
    simp only [ProposalStage.accepted, Bool.and_eq_true, decide_eq_true_eq] at stageAccepted
    obtain ⟨⟨⟨-, position⟩, -⟩, depends⟩ := stageAccepted
    obtain ⟨item, itemMember, itsStage⟩ := staffed stage stageMember
    obtain ⟨current, known⟩ := valid.exists_current itemMember
    have listed : current ∈ stageInstances proposal.workItems stage.stageId :=
      mem_stageInstances.mpr ⟨item, itemMember, itsStage, known⟩
    have distinct : (stageInstances proposal.workItems stage.stageId).Nodup :=
      valid.current_distinct.sublist (List.filter_sublist.filterMap _)
    simp only [Stage.accepted, ProposalStage.fresh, StagePayload.normalize, ProposalStage.payload,
      Bool.and_eq_true, Bool.not_eq_true', List.isEmpty_eq_false_iff]
    exact ⟨⟨⟨⟨decide_eq_true position, decide_eq_true depends⟩, rfl⟩, List.ne_nil_of_mem listed⟩,
      decide_eq_true distinct⟩
  · obtain ⟨item, member⟩ := List.exists_mem_of_ne_nil _ someItem
    obtain ⟨current, known⟩ := valid.exists_current member
    exact List.ne_nil_of_mem (mem_fresh_instances.mpr ⟨item, member, current, known, rfl⟩)
  · intro fresh member
    obtain ⟨item, -, current, -, rfl⟩ := mem_fresh_instances.mp member
    rfl
  · obtain ⟨card, member⟩ := List.exists_mem_of_ne_nil _ someCard
    exact List.ne_nil_of_mem (List.mem_map_of_mem (List.mem_map_of_mem member))
  · intro fresh member
    obtain ⟨raw, rawMember, rfl⟩ := List.mem_map.mp member
    obtain ⟨card, cardMember, rfl⟩ := List.mem_map.mp rawMember
    have cardAccepted := cards card cardMember
    simp only [ExecutionCard.accepted, safeText, Bool.and_eq_true, decide_eq_true_eq]
      at cardAccepted
    obtain ⟨⟨⟨⟨⟨⟨⟨⟨⟨⟨⟨-, revision⟩, -⟩, -⟩, -⟩, ⟨-, objective⟩⟩, -⟩, -⟩, -⟩, -⟩, -⟩, -⟩ := cardAccepted
    simp [TaskCard.accepted, CardPayload.normalize, ExecutionCard.payload, revision, objective]

/-- The plan of a proposal is valid when every stage has a work item. -/
theorem ProposalValid.fresh_valid
    (valid : ProposalValid credentialSafe proposal task.taskId expectedRevision)
    (accepted : task.accepted = true) (positive : 1 ≤ planRevision)
    (staffed : ∀ stage ∈ proposal.stages, ∃ item ∈ proposal.workItems,
      item.stageId = stage.stageId) :
    PlanValid ((materializePlanProposal proposal).fresh task planRevision now) := by
  have listed : ∀ key, key ∈ ((materializePlanProposal proposal).fresh task planRevision
      now).stages.flatMap Stage.instanceIds ↔
        ∃ item ∈ proposal.workItems, item.currentInstanceId = some key := by
    intro key
    rw [valid.fresh_stages, List.flatMap_map, List.mem_flatMap]
    constructor
    · rintro ⟨stage, -, inStage⟩
      obtain ⟨item, member, -, known⟩ := mem_stageInstances.mp inStage
      exact ⟨item, member, known⟩
    · rintro ⟨item, member, known⟩
      obtain ⟨stage, found, -⟩ := (valid.itemsPlaced item member).inStage
      obtain ⟨stageMember, same⟩ := mem_of_dictGet found
      exact ⟨stage, stageMember, mem_stageInstances.mpr ⟨item, member, same.symm, known⟩⟩
  have instanceIds : ∀ key, key ∈ ((materializePlanProposal proposal).fresh task planRevision
      now).instances.map AgentInstance.instanceId ↔
        ∃ item ∈ proposal.workItems, item.currentInstanceId = some key := by
    intro key
    rw [fresh_instanceIds, List.mem_filterMap]
  constructor
  case accepted => exact valid.fresh_accepted accepted positive staffed
  case stageIdsDistinct =>
    rw [valid.fresh_stages, List.map_map]
    exact valid.stageIdsDistinct
  case positions =>
    rw [valid.fresh_stages, List.map_map, List.length_map]
    exact valid.positions
  case stagesInTask =>
    intro fresh member
    rw [valid.fresh_stages] at member
    obtain ⟨stage, -, rfl⟩ := List.mem_map.mp member
    rfl
  case dependenciesEarlier =>
    intro fresh member key depends
    rw [valid.fresh_stages] at member ⊢
    obtain ⟨stage, stageMember, rfl⟩ := List.mem_map.mp member
    rw [List.map_map]
    exact valid.dependenciesEarlier stage stageMember key depends
  case dependenciesImageToPpt =>
    intro fresh member key depends
    rw [valid.fresh_stages] at member
    obtain ⟨stage, stageMember, rfl⟩ := List.mem_map.mp member
    obtain ⟨dependency, found, image, ppt⟩ :=
      valid.dependenciesImageToPpt stage stageMember key depends
    exact ⟨_, valid.fresh_stage found, image, ppt⟩
  case instanceIdsDistinct =>
    rw [fresh_instanceIds]
    exact valid.current_distinct
  case instancesPlaced =>
    intro fresh member
    obtain ⟨item, itemMember, current, known, rfl⟩ := mem_fresh_instances.mp member
    obtain ⟨stage, found, typed⟩ := (valid.itemsPlaced item itemMember).inStage
    exact ⟨rfl, _, valid.fresh_stage found, typed⟩
  case referencedDistinct =>
    rw [valid.fresh_stages, List.flatMap_map, List.nodup_flatMap]
    constructor
    · intro stage _
      exact valid.current_distinct.sublist (List.filter_sublist.filterMap _)
    · refine (List.pairwise_map.mp valid.stageIdsDistinct).imp fun {one other} differ => ?_
      intro key inOne inOther
      obtain ⟨item, member, itsStage, known⟩ := mem_stageInstances.mp inOne
      obtain ⟨another, otherMember, otherStage, otherKnown⟩ := mem_stageInstances.mp inOther
      obtain rfl := valid.item_unique member otherMember (known.trans otherKnown.symm)
      exact differ (itsStage.symm.trans otherStage)
  case referencedExist =>
    exact fun key member => (instanceIds key).mpr ((listed key).mp member)
  case instancesReferenced =>
    exact fun key member => (listed key).mpr ((instanceIds key).mp member)
  case cardsDistinct =>
    simp only [PlanPayload.fresh, materializePlanProposal, List.map_map]
    refine (List.nodup_map_iff_inj_on (List.Nodup.of_map _ valid.cardIdsDistinct)).mpr ?_
    intro card member other otherMember same
    obtain ⟨item, itemMember, carded⟩ := valid.card_item member
    obtain ⟨another, anotherMember, otherCarded⟩ := valid.card_item otherMember
    have sameInstance : card.instanceId = other.instanceId := same
    obtain rfl := valid.item_unique itemMember anotherMember
      (carded.instanceId.symm.trans (sameInstance ▸ otherCarded.instanceId))
    have sameCard := carded.listed.symm.trans otherCarded.listed
    exact List.inj_on_of_nodup_map valid.cardIdsDistinct member otherMember
      (List.singleton_inj.mp sameCard)
  case cardsPlaced =>
    intro fresh member
    obtain ⟨raw, rawMember, rfl⟩ := List.mem_map.mp member
    obtain ⟨card, cardMember, rfl⟩ := List.mem_map.mp rawMember
    obtain ⟨item, itemMember, carded⟩ := valid.card_item cardMember
    exact ⟨rfl, _, valid.fresh_instance itemMember carded.instanceId.symm, carded.stageId,
      carded.agentType⟩
  case instancesCarded =>
    intro key member
    obtain ⟨item, itemMember, known⟩ := (instanceIds key).mp member
    obtain ⟨card, carded⟩ := valid.itemsCarded item itemMember
    have cardMember := (mem_of_dictGet carded.found).1
    have same : card.instanceId = key := Option.some.inj (carded.instanceId.trans known)
    rw [← same]
    simp only [PlanPayload.fresh, materializePlanProposal, List.map_map]
    exact List.mem_map_of_mem (f := TaskCard.instanceId ∘ CardPayload.normalize task.taskId now ∘
      ExecutionCard.payload) cardMember

end

/-! ## The texts of a saved plan -/

/-- What the contracts of stages and instances ask of the texts of a payload; what they ask of the
    rest is in `Plan.accepted`. -/
def PlanPayload.textsAccepted (payload : PlanPayload) : Bool :=
  payload.stages.all (fun stage => identifierAccepted stage.stageId &&
    stage.dependsOn.all identifierAccepted && stage.instanceIds.all identifierAccepted) &&
  payload.instances.all fun item => identifierAccepted item.instanceId &&
    identifierAccepted item.stageId && relativePathAccepted item.workspaceRelpath &&
    relativePathAccepted item.taskCardRelpath

/-- The files to which `_persist_aggregate` writes the stages and the instances, after the plan and
    the task (`SnapshotRepository.path`). -/
def Commit.checkPaths : Commit → Outcome Unit
  | .task .. => .ok ()
  | .aggregate plan _ => do
      checkEach (validateIdentifier "stage_id") (plan.stages.map Stage.stageId)
      checkEach (validateIdentifier "instance_id") (plan.instances.map AgentInstance.instanceId)

/-- `save_plan(mode="replace")` of a proposal.  The `task-plan` contract is one check of the plan;
    its part on texts and on the cards of version 1.1 stands behind the handler here. -/
def saveProposal (credentialSafe : String → Bool) (state : TaskState) (envelope : CommandEnvelope)
    (ambient : Ambient) (proposal : PlanProposal) (expectedPlanRevision : Option Nat) :
    Outcome Commit := do
  let payload := materializePlanProposal proposal
  let commit ← TaskCommandService.savePlan state envelope ambient .replace payload
    expectedPlanRevision
  let task ← state.requireTask
  validateContract "task-plan" (payload.textsAccepted && proposal.executionCards.all fun card =>
    ExecutionCard.accepted credentialSafe
      { card with taskId := task.taskId, createdAt := ambient.now })
  commit.checkPaths
  return commit

theorem instancesFolder : IsWord "instances".toList :=
  ⟨⟨'i', _, rfl, rfl⟩, List.all_eq_true.mp rfl, by decide⟩

theorem taskCardName : IsSegment "task-card.json".toList := by
  refine ⟨by decide, ⟨by decide, by decide⟩, fun c member => ?_⟩
  have plain : "task-card.json".toList.all (fun c => c != '/' && c != '\\' && c != '\n') = true :=
    rfl
  simpa [and_assoc] using List.all_eq_true.mp plain c member

theorem workspaceRelpath_spelled (key : Identifier) :
    ("instances/" ++ key).toList = "instances".toList ++ '/' :: key.toList := by
  have folder : "instances/".toList = "instances".toList ++ ['/'] := rfl
  rw [String.toList_append, folder, List.append_assoc, List.singleton_append]

theorem taskCardRelpath_spelled (key : Identifier) :
    ("instances/" ++ key ++ "/task-card.json").toList =
      "instances".toList ++ '/' :: (key.toList ++ '/' :: "task-card.json".toList) := by
  have name : "/task-card.json".toList = '/' :: "task-card.json".toList := rfl
  rw [String.toList_append, name, workspaceRelpath_spelled, List.append_assoc, List.cons_append]

/-- `instances/{instance_id}` is a path for every identifier. -/
theorem workspaceRelpath_accepted {key : Identifier} (known : identifierAccepted key = true) :
    relativePathAccepted ("instances/" ++ key) = true := by
  have path : ∀ word, IsWord word → key.toList = word ∨ key.toList = word ++ ['\n'] →
      relativePathAccepted ("instances/" ++ key) = true := by
    intro word isWord spelled
    refine relativePathAccepted_of ["instances".toList, word] ?_ (by simp) ?_ ?_
    · rw [workspaceRelpath_spelled]
      rcases spelled with same | same
      · left
        simp [same, List.intercalate_cons_cons]
      · right
        simp [same, List.intercalate_cons_cons]
    · intro segment member
      rcases List.mem_cons.mp member with rfl | member
      · exact instancesFolder.segment
      · exact List.mem_singleton.mp member ▸ isWord.segment
    · have short := isWord.short
      have folder : "instances".toList.length = 9 := rfl
      rw [workspaceRelpath_spelled, List.length_append, List.length_cons, folder]
      rcases spelled with same | same <;> rw [same]
      · omega
      · rw [List.length_append, List.length_singleton]
        omega
  rcases identifierAccepted_iff.mp known with word | ⟨word, spelled, isWord⟩
  · exact path _ word (.inl rfl)
  · exact path _ isWord (.inr spelled)

/-- `instances/{instance_id}/task-card.json` is a path unless a newline is behind the id. -/
theorem taskCardRelpath_accepted_iff {key : Identifier} (known : identifierAccepted key = true) :
    relativePathAccepted ("instances/" ++ key ++ "/task-card.json") = true ↔
      '\n' ∉ key.toList := by
  rcases identifierAccepted_iff.mp known with isWord | ⟨word, spelled, -⟩
  · refine iff_of_true ?_ fun member => (isWord.segment.chars _ member).2.2 rfl
    refine relativePathAccepted_of ["instances".toList, key.toList, "task-card.json".toList]
      (.inl ?_) (by simp) ?_ ?_
    · rw [taskCardRelpath_spelled]
      simp [List.intercalate_cons_cons]
    · intro segment member
      simp only [List.mem_cons, List.not_mem_nil, or_false] at member
      rcases member with rfl | rfl | rfl
      · exact instancesFolder.segment
      · exact isWord.segment
      · exact taskCardName
    · have short := isWord.short
      have folder : "instances".toList.length = 9 := rfl
      have name : "task-card.json".toList.length = 14 := rfl
      rw [taskCardRelpath_spelled, List.length_append, List.length_cons, List.length_append,
        List.length_cons, folder, name]
      omega
  · refine iff_of_false ?_ (by simp [spelled])
    rw [Bool.not_eq_true]
    refine relativePathAccepted_of_newline ("instances".toList ++ '/' :: word)
      ('/' :: "task-card.json".toList) ?_ (List.cons_ne_nil _ _)
    rw [taskCardRelpath_spelled, spelled]
    simp

section

variable {credentialSafe : String → Bool} {proposal : PlanProposal} {expectedRevision : Nat}
  {taskId : Identifier}

/-- The contracts accept the texts of a proposal's plan unless an instance id ends in a newline. -/
theorem ProposalValid.textsAccepted_iff
    (valid : ProposalValid credentialSafe proposal taskId expectedRevision) :
    (materializePlanProposal proposal).textsAccepted = true ↔
      ∀ item ∈ proposal.workItems, ∀ key, item.currentInstanceId = some key → '\n' ∉ key.toList := by
  obtain ⟨⟨-, stages⟩, ⟨-, items⟩, -⟩ := valid.contract
  have identifiers : ∀ item ∈ proposal.workItems, identifierAccepted item.stageId = true ∧
      ∀ key, item.currentInstanceId = some key → identifierAccepted key = true := by
    intro item member
    have accepted := items item member
    simp only [WorkItem.accepted, Bool.and_eq_true] at accepted
    obtain ⟨⟨⟨⟨⟨⟨⟨⟨⟨⟨-, -⟩, stageId⟩, -⟩, -⟩, -⟩, current⟩, -⟩, -⟩, -⟩, -⟩ := accepted
    refine ⟨stageId, fun key known => ?_⟩
    rw [known] at current
    exact current
  simp only [PlanPayload.textsAccepted, Bool.and_eq_true, List.all_eq_true]
  constructor
  · rintro ⟨-, instances⟩ item member key known
    obtain ⟨identified, current⟩ := identifiers item member
    have inPlan : item.payload key ∈ (materializePlanProposal proposal).instances :=
      List.mem_filterMap.mpr ⟨item, member, by rw [known]; rfl⟩
    exact (taskCardRelpath_accepted_iff (current key known)).mp (instances _ inPlan).2
  · intro plain
    constructor
    · intro raw member
      obtain ⟨stage, stageMember, rfl⟩ := List.mem_map.mp member
      have accepted := stages stage (mem_sortedStages.mp stageMember)
      simp only [ProposalStage.accepted, Bool.and_eq_true, List.all_eq_true] at accepted
      refine ⟨⟨accepted.1.1.1, accepted.1.2⟩, fun key listed => ?_⟩
      obtain ⟨item, itemMember, -, known⟩ := mem_stageInstances.mp listed
      exact (identifiers item itemMember).2 key known
    · intro raw member
      obtain ⟨item, itemMember, given⟩ := List.mem_filterMap.mp member
      obtain ⟨key, known, rfl⟩ := Option.map_eq_some_iff.mp given
      obtain ⟨stageId, current⟩ := identifiers item itemMember
      exact ⟨⟨⟨current key known, stageId⟩, workspaceRelpath_accepted (current key known)⟩,
        (taskCardRelpath_accepted_iff (current key known)).mpr (plain item itemMember key known)⟩

/-- The contract of a card does not look at the time, and the task of a card is the saved one. -/
theorem ProposalValid.cards_accepted
    (valid : ProposalValid credentialSafe proposal taskId expectedRevision) (now : Timestamp) :
    (proposal.executionCards.all fun card => ExecutionCard.accepted credentialSafe
      { card with taskId := taskId, createdAt := now }) = true := by
  rw [List.all_eq_true]
  intro card member
  obtain ⟨item, -, carded⟩ := valid.card_item member
  rw [← carded.inTask]
  exact valid.contract.2.2.2 card member

/-- The stages and the instances of what is saved have files when no stage id has a newline behind
    it; the contracts see to the instance ids. -/
theorem ProposalValid.checkPaths_iff
    (valid : ProposalValid credentialSafe proposal taskId expectedRevision)
    (plain : ∀ item ∈ proposal.workItems, ∀ key, item.currentInstanceId = some key →
      '\n' ∉ key.toList) {plan : Plan} {skipUnchanged : Bool}
    (stages : ∀ key, key ∈ plan.stages.map Stage.stageId ↔
      key ∈ (materializePlanProposal proposal).stages.map StagePayload.stageId)
    (instances : plan.instances.map AgentInstance.instanceId =
      (materializePlanProposal proposal).instances.map InstancePayload.instanceId) :
    (Commit.aggregate plan skipUnchanged).checkPaths = .ok () ↔
      ∀ stage ∈ proposal.stages, '\n' ∉ stage.stageId.toList := by
  obtain ⟨⟨-, stagesAccepted⟩, ⟨-, items⟩, -⟩ := valid.contract
  have identified : ∀ stage ∈ proposal.stages, identifierAccepted stage.stageId = true := by
    intro stage member
    have accepted := stagesAccepted stage member
    simp only [ProposalStage.accepted, Bool.and_eq_true] at accepted
    exact accepted.1.1.1
  have named : ∀ key ∈ plan.instances.map AgentInstance.instanceId,
      validateIdentifier "instance_id" key = .ok () := by
    intro key listed
    rw [instances] at listed
    obtain ⟨raw, member, rfl⟩ := List.mem_map.mp listed
    obtain ⟨item, itemMember, given⟩ := List.mem_filterMap.mp member
    obtain ⟨current, known, rfl⟩ := Option.map_eq_some_iff.mp given
    have accepted := items item itemMember
    simp only [WorkItem.accepted, Bool.and_eq_true] at accepted
    obtain ⟨⟨⟨⟨⟨⟨⟨⟨⟨⟨-, -⟩, -⟩, -⟩, -⟩, -⟩, instanceId⟩, -⟩, -⟩, -⟩, -⟩ := accepted
    rw [known] at instanceId
    exact ensure_of ((isIdentifier_iff_plain instanceId).mpr (plain item itemMember current known))
  simp only [Commit.checkPaths, bind_eq_ok, checkEach_eq_ok]
  constructor
  · rintro ⟨-, checked, -⟩ stage member
    have listed := (stages stage.stageId).mpr (List.mem_map.mpr
      ⟨_, List.mem_map_of_mem (mem_sortedStages.mpr member), rfl⟩)
    exact (isIdentifier_iff_plain (identified stage member)).mp
      (ensure_eq_ok.mp (checked _ listed))
  · intro stagesPlain
    refine ⟨(), fun key listed => ?_, named⟩
    obtain ⟨raw, member, rfl⟩ := List.mem_map.mp ((stages key).mp listed)
    obtain ⟨stage, stageMember, rfl⟩ := List.mem_map.mp member
    have among := mem_sortedStages.mp stageMember
    exact ensure_of ((isIdentifier_iff_plain (identified stage among)).mpr
      (stagesPlain stage among))

end

/-- A proposal that was accepted is saved exactly when every stage has a work item and no instance
    id or stage id has a newline behind it. -/
theorem proposal_saved_iff {credentialSafe : String → Bool} {proposal : PlanProposal}
    {expectedRevision : Nat} {state : TaskState} {envelope : CommandEnvelope} (ambient : Ambient)
    {expectedPlanRevision : Option Nat} {task : MainTask}
    (checked : validatePlanProposal credentialSafe proposal task.taskId expectedRevision = .ok ())
    (plannable : Plannable state envelope expectedPlanRevision task) :
    (∃ commit, saveProposal credentialSafe state envelope ambient proposal expectedPlanRevision =
        .ok commit) ↔
      (∀ stage ∈ proposal.stages, '\n' ∉ stage.stageId.toList ∧
        ∃ item ∈ proposal.workItems, item.stageId = stage.stageId) ∧
        ∀ item ∈ proposal.workItems, ∀ key, item.currentInstanceId = some key →
          '\n' ∉ key.toList := by
  have valid := validatePlanProposal_eq_ok.mp checked
  have read : state.requireTask = .ok task := by
    rw [TaskState.requireTask, plannable.stored]
  simp only [saveProposal, read, bind_eq_ok, Except.ok.injEq, exists_eq_left',
    validateContract_eq_ok, Bool.and_eq_true, valid.textsAccepted_iff, valid.cards_accepted,
    and_true, pure_eq_ok]
  constructor
  · rintro ⟨commit, committed, saved, -, plain, _, paths, -⟩
    obtain ⟨plan, skipUnchanged, rfl, stages, instances⟩ := savePlan_names saved
    have stagesPlain := (valid.checkPaths_iff plain stages instances).mp paths
    refine ⟨fun stage member => ⟨stagesPlain stage member, ?_⟩, plain⟩
    simp only [TaskCommandService.savePlan, TaskCommandService.replacePlan, bind_eq_ok] at saved
    obtain ⟨task, -, -, -, -, -, -, -, plan, normalized, -⟩ := saved
    have listed := normalizePlan_listed normalized
      (List.mem_map_of_mem (f := ProposalStage.payload proposal.workItems)
        (mem_sortedStages.mpr member))
    obtain ⟨key, inStage⟩ := List.exists_mem_of_ne_nil _ listed
    obtain ⟨item, itemMember, same, -⟩ := mem_stageInstances.mp inStage
    exact ⟨item, itemMember, same⟩
  · rintro ⟨staffed, plain⟩
    have positive : 1 ≤ state.nextPlanRevision task := by
      have accepted := plannable.accepted
      simp only [MainTask.accepted, Bool.and_eq_true, decide_eq_true_eq] at accepted
      rw [TaskState.nextPlanRevision]
      split <;> omega
    obtain ⟨commit, saved⟩ := savePlan_of_valid ambient plannable
      (valid.fresh_valid plannable.accepted positive fun stage member => (staffed stage member).2)
    obtain ⟨plan, skipUnchanged, rfl, stages, instances⟩ := savePlan_names saved
    have paths := (@ProposalValid.checkPaths_iff _ _ _ _ valid plain plan skipUnchanged stages
      instances).mpr fun stage member => (staffed stage member).1
    exact ⟨_, _, saved, (), plain, (), paths, rfl⟩

/-- A plan of one image, whose instance has the given id. -/
def coverProposal (instanceId : Identifier) : PlanProposal where
  proposalId := "proposal"
  taskId := "task"
  revision := 1
  status := .pendingConfirmation
  stages := [⟨"images", .image, 1, [], true⟩]
  workItems := [
    { workItemId := "cover"
      taskId := "task"
      stageId := "images"
      title := "Cover"
      agentType := .image
      required := true
      dependsOn := []
      currentInstanceId := some instanceId
      instanceIds := [instanceId]
      taskCardIds := ["card"] }]
  executionCards := [
    { cardId := "card"
      revision := 1
      taskId := "task"
      stageId := "images"
      instanceId := instanceId
      agentType := .image
      objective := "Draw the cover"
      instructions := []
      inputAssets := []
      expectedDeliveries := [⟨.image, "cover", true, ["image/png"]⟩]
      parameters := {}
      createdAt := "t0" }]
  createdAt := "t0"
  updatedAt := "t0"
  confirmedAt := none

/-- The same plan with a PPT stage that has no work. -/
def idleStageProposal : PlanProposal :=
  { coverProposal "instance" with
    stages := [⟨"images", .image, 1, [], true⟩, ⟨"slides", .ppt, 2, ["images"], true⟩] }

def plannableState : TaskState := ⟨some sampleTask, 1, none, 0⟩

def confirmation : CommandEnvelope := ⟨"confirm", .human, "owner", 1⟩

theorem plannable_sampleTask : Plannable plannableState confirmation (some 1) sampleTask where
  stored := rfl
  accepted := by decide
  status := by decide
  revision := rfl
  planRevision := fun expected given => (Option.some.inj given).symm

theorem cover_saved :
    ∃ commit, saveProposal (fun _ => true) plannableState confirmation ⟨"t1", "u"⟩
      (coverProposal "instance") (some 1) = .ok commit :=
  (proposal_saved_iff ⟨"t1", "u"⟩
    (show validatePlanProposal (fun _ => true) (coverProposal "instance") sampleTask.taskId 1 =
      .ok () by decide +kernel) plannable_sampleTask).mpr (by decide +kernel)

/-- A proposal with an idle stage is accepted, and refused when it is confirmed. -/
theorem idle_stage_not_saved :
    ¬ ∀ (credentialSafe : String → Bool) (proposal : PlanProposal) (expectedRevision : Nat)
      (state : TaskState) (envelope : CommandEnvelope) (ambient : Ambient)
      (expectedPlanRevision : Option Nat) (task : MainTask),
      validatePlanProposal credentialSafe proposal task.taskId expectedRevision = .ok () →
      Plannable state envelope expectedPlanRevision task →
      ∃ commit, saveProposal credentialSafe state envelope ambient proposal expectedPlanRevision =
        .ok commit := by
  intro claim
  obtain ⟨commit, saved⟩ := claim (fun _ => true) idleStageProposal 1 plannableState confirmation
    ⟨"t1", "u"⟩ (some 1) sampleTask (by decide +kernel) plannable_sampleTask
  have refused : (saveProposal (fun _ => true) plannableState confirmation ⟨"t1", "u"⟩
      idleStageProposal (some 1)).isOk = false := by decide +kernel
  rw [saved] at refused
  cases refused

/-- So is one whose instance id has a newline behind it. -/
example :
    validatePlanProposal (fun _ => true) (coverProposal "instance\n") "task" 1 = .ok () ∧
      (saveProposal (fun _ => true) plannableState confirmation ⟨"t1", "u"⟩
        (coverProposal "instance\n") (some 1)).isOk = false := by decide +kernel

end DesignHarness
