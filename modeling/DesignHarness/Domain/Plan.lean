import DesignHarness.Domain.StateMachine

/-!
# Cross-object validation of a task plan

`validate_plan` (`plan.py:15-70`) runs the `task-plan` contract and then the checks that span
several objects.  `PlanValid` is what it accepts, one field for each check
(`validatePlan_eq_ok`).
-/

namespace DesignHarness

open Library

/-- The `oneOf` of `requirementLifecycle`: an authorization is present only on an activated,
    originally required item. -/
def RequirementLifecycle.accepted (lifecycle : RequirementLifecycle) : Bool :=
  match lifecycle.authorizedDowngrade with
  | none => true
  | some authorization =>
      lifecycle.originalRequired && lifecycle.firstActivatedAt.isSome &&
        decide (2 ≤ authorization.planRevision) &&
        (authorization.authorizedByType = .human || authorization.authorizedByType = .master)

/-- `minLength: 1` and `maxLength: limit`. -/
def textWithin (limit : Nat) (value : String) : Bool :=
  decide (1 ≤ value.length) && decide (value.length ≤ limit)

/-- The `main-task` contract. -/
def MainTask.accepted (task : MainTask) : Bool :=
  textWithin 256 task.title && decide (1 ≤ task.goal.length) && decide (1 ≤ task.planRevision)

/-- The `stage` contract. -/
def Stage.accepted (stage : Stage) : Bool :=
  decide (1 ≤ stage.position) && decide stage.dependsOn.Nodup &&
    stage.requirementLifecycle.accepted && !stage.instanceIds.isEmpty &&
    decide stage.instanceIds.Nodup

/-- The `agent-instance` contract. -/
def AgentInstance.accepted (item : AgentInstance) : Bool :=
  item.requirementLifecycle.accepted && decide (1 ≤ item.configRevision) &&
    item.process.all (fun process =>
      decide (1 ≤ process.pid) && decide (1 ≤ process.port) && decide (process.port ≤ 65535)) &&
    item.deliveryRejection.all (fun rejection =>
      textWithin 128 rejection.code && textWithin 1000 rejection.message) &&
    item.startFailure.all (fun failure =>
      textWithin 128 failure.code && textWithin 1000 failure.message &&
        textWithin 64 failure.phase && decide (1 ≤ failure.attempt))

/-- The `task-card` contract. -/
def TaskCard.accepted (card : TaskCard) : Bool :=
  decide (1 ≤ card.revision) && textWithin 20000 card.objective

/-- The `task-plan` contract. -/
def Plan.accepted (plan : Plan) : Bool :=
  plan.task.accepted && !plan.stages.isEmpty && plan.stages.all Stage.accepted &&
    !plan.instances.isEmpty && plan.instances.all AgentInstance.accepted &&
    !plan.taskCards.isEmpty && plan.taskCards.all TaskCard.accepted

/-- `contracts.validate(schema, payload)` with the verdict of the schema. -/
def validateContract (schema : String) (accepted : Bool) : Outcome Unit :=
  ensure accepted (.harness ⟨.validationError, "Payload failed contract validation.",
    [("schema", .text (schema ++ ".schema.json"))]⟩)

@[simp] theorem validateContract_eq_ok {schema : String} {accepted : Bool} {u : Unit} :
    validateContract schema accepted = .ok u ↔ accepted = true := ensure_eq_ok

/-- `_invalid(message)`. -/
def invalidPlan (message : String) : Raised := .harness ⟨.validationError, message, []⟩

/-- The first loop over the stages (`plan.py:25-30`). -/
def checkStageOrder (taskId : Identifier) (stageIds : List Identifier) (stage : Stage) :
    Outcome Unit := do
  ensure (stage.taskId = taskId) (invalidPlan "Every stage must belong to the plan task.")
  let earlier := stageIds.take (stage.position - 1)
  ensure (∀ key ∈ stage.dependsOn, key ∈ earlier)
    (invalidPlan "A stage dependency must reference an earlier stage in the task.")

/-- The second loop over the stages (`plan.py:31-38`). -/
def checkStageDependencies (stages : List Stage) (stage : Stage) : Outcome Unit :=
  checkEach (fun key => do
    let dependency ← stageById stages key
    ensure (dependency.type = .image ∧ stage.type = .ppt)
      (invalidPlan "Same-type stages must be parallel and only Image-to-PPT dependencies are supported."))
    stage.dependsOn

/-- The loop over the instances (`plan.py:40-49`); `seen` holds the keys of `instance_by_id`. -/
def checkInstances (taskId : Identifier) (stages : List Stage) :
    List Identifier → List AgentInstance → Outcome Unit
  | _, [] => .ok ()
  | seen, item :: rest => do
      ensure (item.instanceId ∉ seen) (invalidPlan "Instance ids must be unique within a plan.")
      match dictGet Stage.stageId stages item.stageId with
      | none => .error (invalidPlan "Every instance must belong to a stage in the plan task.")
      | some stage => do
          ensure (item.taskId = taskId)
            (invalidPlan "Every instance must belong to a stage in the plan task.")
          ensure (item.agentType = stage.type)
            (invalidPlan "An instance agent type must match its stage type.")
          checkInstances taskId stages (item.instanceId :: seen) rest

/-- The loop over the task cards (`plan.py:54-63`); `seen` is `card_instances`. -/
def checkCards (taskId : Identifier) (instances : List AgentInstance) :
    List Identifier → List TaskCard → Outcome Unit
  | _, [] => .ok ()
  | seen, card :: rest => do
      match dictGet AgentInstance.instanceId instances card.instanceId with
      | none => .error (invalidPlan "Every task card must reference an instance in the plan task.")
      | some item => do
          ensure (card.taskId = taskId)
            (invalidPlan "Every task card must reference an instance in the plan task.")
          ensure (card.stageId = item.stageId ∧ card.agentType = item.agentType)
            (invalidPlan "Task card stage and agent type must match its instance.")
          ensure (card.instanceId ∉ seen)
            (invalidPlan "Every instance has exactly one active task card in a saved plan.")
          checkCards taskId instances (card.instanceId :: seen) rest

/-- `validate_plan` (`plan.py:15-66`). -/
def validatePlan (plan : Plan) : Outcome Unit := do
  validateContract "task-plan" plan.accepted
  let taskId := plan.task.taskId
  let stageIds := plan.stages.map Stage.stageId
  let instanceIds := plan.instances.map AgentInstance.instanceId
  ensure (stageIds.Nodup ∧
      plan.stages.map Stage.position = List.range' 1 plan.stages.length)
    (invalidPlan "Stage ids must be unique and positions must be contiguous from one.")
  checkEach (checkStageOrder taskId stageIds) plan.stages
  checkEach (checkStageDependencies plan.stages) plan.stages
  checkInstances taskId plan.stages [] plan.instances
  let referenced := plan.stages.flatMap Stage.instanceIds
  ensure (referenced.Nodup ∧ (∀ key ∈ referenced, key ∈ instanceIds) ∧
      ∀ key ∈ instanceIds, key ∈ referenced)
    (invalidPlan "Every instance must be referenced by exactly one stage.")
  checkCards taskId plan.instances [] plan.taskCards
  ensure (∀ key ∈ instanceIds, key ∈ plan.taskCards.map TaskCard.instanceId)
    (invalidPlan "Every instance requires one task card.")

/-! ## What `validate_plan` accepts -/

/-- An instance that the loop over the instances lets through. -/
structure InstancePlaced (taskId : Identifier) (stages : List Stage) (item : AgentInstance) :
    Prop where
  inTask : item.taskId = taskId
  inStage : ∃ stage, dictGet Stage.stageId stages item.stageId = some stage ∧
    item.agentType = stage.type

theorem checkInstances_eq_ok {taskId : Identifier} {stages : List Stage} {u : Unit}
    {seen : List Identifier} {instances : List AgentInstance} :
    checkInstances taskId stages seen instances = .ok u ↔
      (instances.map AgentInstance.instanceId).Nodup ∧
      (∀ item ∈ instances, item.instanceId ∉ seen) ∧
      ∀ item ∈ instances, InstancePlaced taskId stages item := by
  induction instances generalizing seen with
  | nil => simp [checkInstances]
  | cons item rest ih =>
      simp only [checkInstances, bind_eq_ok, ensure_eq_ok, List.map_cons, List.nodup_cons,
        List.forall_mem_cons]
      constructor
      · rintro ⟨-, fresh, h⟩
        cases found : dictGet Stage.stageId stages item.stageId with
        | none => simp [found] at h
        | some stage =>
            simp only [found, bind_eq_ok, ensure_eq_ok, ih] at h
            obtain ⟨-, inTask, -, typed, distinct, unseen, placed⟩ := h
            refine ⟨⟨?_, distinct⟩, ⟨fresh, ?_⟩, ⟨inTask, stage, found, typed⟩, placed⟩
            · rintro member
              obtain ⟨other, otherMember, same⟩ := List.mem_map.mp member
              exact unseen other otherMember (same ▸ List.mem_cons_self)
            · exact fun other member seen' =>
                unseen other member (List.mem_cons_of_mem _ seen')
      · rintro ⟨⟨notLater, distinct⟩, ⟨fresh, unseen⟩, placed, restPlaced⟩
        obtain ⟨stage, found, typed⟩ := placed.inStage
        refine ⟨(), fresh, ?_⟩
        simp only [found, bind_eq_ok, ensure_eq_ok, ih]
        refine ⟨(), placed.inTask, (), typed, distinct, ?_, restPlaced⟩
        intro other member later
        rcases List.mem_cons.mp later with same | later
        · exact notLater (same ▸ List.mem_map_of_mem member)
        · exact unseen other member later

/-- A task card that the loop over the cards lets through. -/
structure CardPlaced (taskId : Identifier) (instances : List AgentInstance) (card : TaskCard) :
    Prop where
  inTask : card.taskId = taskId
  ofInstance : ∃ item, dictGet AgentInstance.instanceId instances card.instanceId = some item ∧
    card.stageId = item.stageId ∧ card.agentType = item.agentType

theorem checkCards_eq_ok {taskId : Identifier} {instances : List AgentInstance} {u : Unit}
    {seen : List Identifier} {cards : List TaskCard} :
    checkCards taskId instances seen cards = .ok u ↔
      (cards.map TaskCard.instanceId).Nodup ∧
      (∀ card ∈ cards, card.instanceId ∉ seen) ∧
      ∀ card ∈ cards, CardPlaced taskId instances card := by
  induction cards generalizing seen with
  | nil => simp [checkCards]
  | cons card rest ih =>
      simp only [checkCards, List.map_cons, List.nodup_cons, List.forall_mem_cons]
      constructor
      · intro h
        cases found : dictGet AgentInstance.instanceId instances card.instanceId with
        | none => simp [found] at h
        | some item =>
            simp only [found, bind_eq_ok, ensure_eq_ok, ih] at h
            obtain ⟨-, inTask, -, matched, -, fresh, distinct, unseen, placed⟩ := h
            refine ⟨⟨?_, distinct⟩, ⟨fresh, ?_⟩, ⟨inTask, item, found, matched⟩, placed⟩
            · rintro member
              obtain ⟨other, otherMember, same⟩ := List.mem_map.mp member
              exact unseen other otherMember (same ▸ List.mem_cons_self)
            · exact fun other member seen' =>
                unseen other member (List.mem_cons_of_mem _ seen')
      · rintro ⟨⟨notLater, distinct⟩, ⟨fresh, unseen⟩, placed, restPlaced⟩
        obtain ⟨item, found, matched⟩ := placed.ofInstance
        simp only [found, bind_eq_ok, ensure_eq_ok, ih]
        refine ⟨(), placed.inTask, (), matched, (), fresh, distinct, ?_, restPlaced⟩
        intro other member later
        rcases List.mem_cons.mp later with same | later
        · exact notLater (same ▸ List.mem_map_of_mem member)
        · exact unseen other member later

/-- The plans that `validate_plan` accepts, one field for each of its checks. -/
structure PlanValid (plan : Plan) : Prop where
  accepted : plan.accepted = true
  stageIdsDistinct : (plan.stages.map Stage.stageId).Nodup
  positions : plan.stages.map Stage.position = List.range' 1 plan.stages.length
  stagesInTask : ∀ stage ∈ plan.stages, stage.taskId = plan.task.taskId
  dependenciesEarlier : ∀ stage ∈ plan.stages, ∀ key ∈ stage.dependsOn,
    key ∈ (plan.stages.map Stage.stageId).take (stage.position - 1)
  dependenciesImageToPpt : ∀ stage ∈ plan.stages, ∀ key ∈ stage.dependsOn,
    ∃ dependency, dictGet Stage.stageId plan.stages key = some dependency ∧
      dependency.type = .image ∧ stage.type = .ppt
  instanceIdsDistinct : (plan.instances.map AgentInstance.instanceId).Nodup
  instancesPlaced : ∀ item ∈ plan.instances, InstancePlaced plan.task.taskId plan.stages item
  referencedDistinct : (plan.stages.flatMap Stage.instanceIds).Nodup
  referencedExist : ∀ key ∈ plan.stages.flatMap Stage.instanceIds,
    key ∈ plan.instances.map AgentInstance.instanceId
  instancesReferenced : ∀ key ∈ plan.instances.map AgentInstance.instanceId,
    key ∈ plan.stages.flatMap Stage.instanceIds
  cardsDistinct : (plan.taskCards.map TaskCard.instanceId).Nodup
  cardsPlaced : ∀ card ∈ plan.taskCards, CardPlaced plan.task.taskId plan.instances card
  instancesCarded : ∀ key ∈ plan.instances.map AgentInstance.instanceId,
    key ∈ plan.taskCards.map TaskCard.instanceId

theorem checkStageOrder_eq_ok {taskId : Identifier} {stageIds : List Identifier} {stage : Stage}
    {u : Unit} :
    checkStageOrder taskId stageIds stage = .ok u ↔
      stage.taskId = taskId ∧ ∀ key ∈ stage.dependsOn, key ∈ stageIds.take (stage.position - 1) := by
  simp [checkStageOrder, bind_eq_ok]

theorem checkStageDependencies_eq_ok {stages : List Stage} {stage : Stage} {u : Unit} :
    checkStageDependencies stages stage = .ok u ↔
      ∀ key ∈ stage.dependsOn, ∃ dependency, dictGet Stage.stageId stages key = some dependency ∧
        dependency.type = .image ∧ stage.type = .ppt := by
  rw [checkStageDependencies, checkEach_eq_ok]
  refine forall₂_congr fun key _ => ?_
  cases found : dictGet Stage.stageId stages key <;> simp [stageById, found]

theorem validatePlan_eq_ok {plan : Plan} {u : Unit} :
    validatePlan plan = .ok u ↔ PlanValid plan := by
  simp only [validatePlan, bind_eq_ok, ensure_eq_ok, validateContract_eq_ok, checkEach_eq_ok,
    checkStageOrder_eq_ok, checkStageDependencies_eq_ok, checkInstances_eq_ok, checkCards_eq_ok]
  constructor
  · rintro ⟨-, accepted, -, ⟨ids, positions⟩, -, order, -, dependencies, -,
      ⟨instanceIds, -, placed⟩, -, ⟨distinct, exist, referenced⟩, -, ⟨cards, -, cardsPlaced⟩,
      carded⟩
    exact ⟨accepted, ids, positions, fun stage member => (order stage member).1,
      fun stage member => (order stage member).2, dependencies, instanceIds, placed, distinct,
      exist, referenced, cards, cardsPlaced, carded⟩
  · intro valid
    exact ⟨(), valid.accepted, (), ⟨valid.stageIdsDistinct, valid.positions⟩, (),
      fun stage member => ⟨valid.stagesInTask stage member, valid.dependenciesEarlier stage member⟩,
      (), valid.dependenciesImageToPpt, (),
      ⟨valid.instanceIdsDistinct, by simp, valid.instancesPlaced⟩, (),
      ⟨valid.referencedDistinct, valid.referencedExist, valid.instancesReferenced⟩, (),
      ⟨valid.cardsDistinct, by simp, valid.cardsPlaced⟩, valid.instancesCarded⟩

end DesignHarness
