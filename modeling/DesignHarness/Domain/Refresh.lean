import DesignHarness.Domain.Aggregation
import DesignHarness.Domain.Members
import DesignHarness.Domain.Membership

/-!
# What a re-aggregation does to a plan

The loops of `_refresh_stages` and `_activate_current_stages` let a stage see what the rounds
before it wrote.  In a wired plan that is less than it seems: only PPT stages have dependencies,
their dependencies are earlier Image stages, and an Image stage has none.  So the new status of
every stage is a function of the plan the loop starts from (`refreshStages_eq`,
`activateCurrentStages_eq`).
-/

namespace DesignHarness

open Library

/-! ## The wiring of a plan -/

/-- The fields of a stage that no status change touches. -/
structure StageLink where
  stageId : Identifier
  type : AgentType
  position : Nat
  dependsOn : List Identifier
  instanceIds : List Identifier

def Stage.link (stage : Stage) : StageLink :=
  ⟨stage.stageId, stage.type, stage.position, stage.dependsOn, stage.instanceIds⟩

/-- The part of `PlanValid` that the loops rely on. -/
structure Wired (links : List StageLink) (keys : List Identifier) : Prop where
  stageIdsDistinct : (links.map StageLink.stageId).Nodup
  positions : links.map StageLink.position = List.range' 1 links.length
  dependenciesEarlier : ∀ link ∈ links, ∀ key ∈ link.dependsOn,
    key ∈ (links.map StageLink.stageId).take (link.position - 1)
  dependenciesImageToPpt : ∀ link ∈ links, ∀ key ∈ link.dependsOn, link.type = .ppt ∧
    ∀ dependency ∈ links, dependency.stageId = key → dependency.type = .image
  instanceIdsDistinct : keys.Nodup
  listedExist : ∀ link ∈ links, ∀ key ∈ link.instanceIds, key ∈ keys

/-- The wiring of the two lists of a plan. -/
abbrev WiredPlan (stages : List Stage) (instances : List AgentInstance) : Prop :=
  Wired (stages.map Stage.link) (instances.map AgentInstance.instanceId)

theorem PlanValid.wired {plan : Plan} (valid : PlanValid plan) :
    WiredPlan plan.stages plan.instances where
  stageIdsDistinct := by simpa [Function.comp_def, Stage.link] using valid.stageIdsDistinct
  positions := by simpa [Function.comp_def, Stage.link] using valid.positions
  dependenciesEarlier := by
    intro link member key depends
    obtain ⟨stage, stageMember, rfl⟩ := List.mem_map.mp member
    simpa [Function.comp_def, Stage.link] using
      valid.dependenciesEarlier stage stageMember key depends
  dependenciesImageToPpt := by
    intro link member key depends
    obtain ⟨stage, stageMember, rfl⟩ := List.mem_map.mp member
    obtain ⟨dependency, found, image, ppt⟩ :=
      valid.dependenciesImageToPpt stage stageMember key depends
    refine ⟨ppt, fun named linked same => ?_⟩
    obtain ⟨other, otherMember, rfl⟩ := List.mem_map.mp linked
    obtain ⟨dependencyMember, dependencyId⟩ := mem_of_dictGet found
    have unique : other = dependency := List.inj_on_of_nodup_map valid.stageIdsDistinct
      otherMember dependencyMember (same.trans dependencyId.symm)
    rw [unique]
    exact image
  instanceIdsDistinct := valid.instanceIdsDistinct
  listedExist := by
    intro link member key listed
    obtain ⟨stage, stageMember, rfl⟩ := List.mem_map.mp member
    exact valid.referencedExist key (List.mem_flatMap.mpr ⟨stage, stageMember, listed⟩)

/-- A plan stays valid when its stages and instances are edited in place, apart from their links
    and the contract. -/
theorem PlanValid.mapped {plan : Plan} (valid : PlanValid plan) (task : MainTask)
    (onStage : Stage → Stage) (onInstance : AgentInstance → AgentInstance)
    (sameTask : task.taskId = plan.task.taskId)
    (stages : ∀ stage ∈ plan.stages, (onStage stage).taskId = stage.taskId ∧
      (onStage stage).link = stage.link)
    (instances : ∀ item ∈ plan.instances, (onInstance item).taskId = item.taskId ∧
      (onInstance item).instanceId = item.instanceId ∧ (onInstance item).stageId = item.stageId ∧
      (onInstance item).agentType = item.agentType)
    (accepted : Plan.accepted { plan with
      task := task
      stages := plan.stages.map onStage
      instances := plan.instances.map onInstance } = true) :
    PlanValid { plan with
      task := task
      stages := plan.stages.map onStage
      instances := plan.instances.map onInstance } := by
  have stageIds : (plan.stages.map onStage).map Stage.stageId = plan.stages.map Stage.stageId := by
    rw [List.map_map]
    exact List.map_congr_left fun stage member => congrArg StageLink.stageId (stages stage member).2
  have positions : (plan.stages.map onStage).map Stage.position =
      plan.stages.map Stage.position := by
    rw [List.map_map]
    exact List.map_congr_left fun stage member =>
      congrArg StageLink.position (stages stage member).2
  have instanceIds : (plan.instances.map onInstance).map AgentInstance.instanceId =
      plan.instances.map AgentInstance.instanceId := by
    rw [List.map_map]
    exact List.map_congr_left fun item member => (instances item member).2.1
  have listed : (plan.stages.map onStage).flatMap Stage.instanceIds =
      plan.stages.flatMap Stage.instanceIds := by
    rw [List.flatMap_map]
    exact List.flatMap_congr fun stage member =>
      congrArg StageLink.instanceIds (stages stage member).2
  have stageFound : ∀ key stage, dictGet Stage.stageId plan.stages key = some stage →
      dictGet Stage.stageId (plan.stages.map onStage) key = some (onStage stage) := by
    intro key stage found
    have keeps : ∀ other ∈ plan.stages, (onStage other).stageId = other.stageId :=
      fun other member => congrArg StageLink.stageId (stages other member).2
    rw [dictGet_map keeps, found]
    rfl
  have itemFound : ∀ key item, dictGet AgentInstance.instanceId plan.instances key = some item →
      dictGet AgentInstance.instanceId (plan.instances.map onInstance) key =
        some (onInstance item) := by
    intro key item found
    rw [dictGet_map fun other member => (instances other member).2.1, found]
    rfl
  constructor
  case accepted => exact accepted
  case stageIdsDistinct => exact stageIds ▸ valid.stageIdsDistinct
  case positions =>
    rw [positions, List.length_map]
    exact valid.positions
  case stagesInTask =>
    intro other member
    obtain ⟨stage, stageMember, rfl⟩ := List.mem_map.mp member
    rw [(stages stage stageMember).1, valid.stagesInTask stage stageMember, sameTask]
  case dependenciesEarlier =>
    intro other member key depends
    obtain ⟨stage, stageMember, rfl⟩ := List.mem_map.mp member
    have link := (stages stage stageMember).2
    rw [show (onStage stage).dependsOn = stage.dependsOn from congrArg StageLink.dependsOn link]
      at depends
    rw [stageIds, show (onStage stage).position = stage.position from
      congrArg StageLink.position link]
    exact valid.dependenciesEarlier stage stageMember key depends
  case dependenciesImageToPpt =>
    intro other member key depends
    obtain ⟨stage, stageMember, rfl⟩ := List.mem_map.mp member
    have link := (stages stage stageMember).2
    rw [show (onStage stage).dependsOn = stage.dependsOn from congrArg StageLink.dependsOn link]
      at depends
    obtain ⟨dependency, found, image, ppt⟩ :=
      valid.dependenciesImageToPpt stage stageMember key depends
    have dependencyMember := (mem_of_dictGet found).1
    refine ⟨onStage dependency, stageFound key dependency found, ?_, ?_⟩
    · rw [← image]
      exact congrArg StageLink.type (stages dependency dependencyMember).2
    · rw [← ppt]
      exact congrArg StageLink.type link
  case instanceIdsDistinct => exact instanceIds ▸ valid.instanceIdsDistinct
  case instancesPlaced =>
    intro other member
    obtain ⟨item, itemMember, rfl⟩ := List.mem_map.mp member
    obtain ⟨inTask, stage, found, type⟩ := valid.instancesPlaced item itemMember
    obtain ⟨taskId, -, stageId, agentType⟩ := instances item itemMember
    refine ⟨by rw [taskId, inTask, sameTask], onStage stage, ?_, ?_⟩
    · rw [stageId]
      exact stageFound _ _ found
    · rw [agentType, type]
      exact (congrArg StageLink.type (stages stage (mem_of_dictGet found).1).2).symm
  case referencedDistinct => exact listed ▸ valid.referencedDistinct
  case referencedExist => rw [listed, instanceIds]; exact valid.referencedExist
  case instancesReferenced => rw [listed, instanceIds]; exact valid.instancesReferenced
  case cardsDistinct => exact valid.cardsDistinct
  case cardsPlaced =>
    intro card member
    obtain ⟨inTask, item, found, stageId, agentType⟩ := valid.cardsPlaced card member
    obtain ⟨-, -, sameStage, sameType⟩ := instances item (mem_of_dictGet found).1
    refine ⟨by rw [inTask, sameTask], onInstance item, itemFound _ _ found, ?_, ?_⟩
    · rw [stageId, sameStage]
    · rw [agentType, sameType]
  case instancesCarded => rw [instanceIds]; exact valid.instancesCarded

namespace Wired

variable {stages : List Stage} {instances : List AgentInstance}

theorem idsDistinct (wired : WiredPlan stages instances) :
    (stages.map Stage.stageId).Nodup := by
  simpa [Function.comp_def, Stage.link] using wired.stageIdsDistinct

theorem stage_positions (wired : WiredPlan stages instances) :
    stages.map Stage.position = List.range' 1 stages.length := by
  simpa [Function.comp_def, Stage.link] using wired.positions

/-- The plan keeps its stages in the order the loops visit them. -/
theorem sortedByPosition_eq (wired : WiredPlan stages instances) :
    sortedByPosition stages = stages := by
  have ordered : (stages.map Stage.position).Pairwise (· ≤ ·) := by
    rw [wired.stage_positions]
    exact List.pairwise_le_range'
  exact (List.pairwise_map.mp ordered).insertionSort_eq

/-- A stage depends on Image stages before it, and those depend on nothing. -/
theorem dependency_before {pre rest : List Stage} {stage : Stage} {key : Identifier}
    (wired : WiredPlan (pre ++ stage :: rest) instances) (depends : key ∈ stage.dependsOn) :
    ∃ dependency ∈ pre, dependency.stageId = key ∧ dependency.type = .image ∧
      dependency.dependsOn = [] := by
  have member : stage.link ∈ (pre ++ stage :: rest).map Stage.link :=
    List.mem_map_of_mem (by simp)
  have placed : stage.position = pre.length + 1 := by
    have positions := congrArg (·[pre.length]?) wired.stage_positions
    simpa [List.getElem?_range', Nat.add_comm] using positions
  have earlier := wired.dependenciesEarlier _ member key depends
  have before : key ∈ pre.map Stage.stageId := by
    have same : ((pre ++ stage :: rest).map Stage.link).map StageLink.stageId =
        pre.map Stage.stageId ++ stage.stageId :: rest.map Stage.stageId := by
      simp [Stage.link, Function.comp_def]
    rw [same, show stage.link.position - 1 = (pre.map Stage.stageId).length by
      simp [Stage.link, placed], List.take_left] at earlier
    exact earlier
  obtain ⟨dependency, dependencyMember, rfl⟩ := List.mem_map.mp before
  have linked : dependency.link ∈ (pre ++ stage :: rest).map Stage.link :=
    List.mem_map_of_mem (by simp [dependencyMember])
  have image := (wired.dependenciesImageToPpt _ member _ depends).2 _ linked rfl
  refine ⟨dependency, dependencyMember, rfl, image, List.eq_nil_iff_forall_not_mem.mpr ?_⟩
  intro other otherDepends
  have ppt := (wired.dependenciesImageToPpt _ linked other otherDepends).1
  rw [image] at ppt
  cases ppt

end Wired

/-- The instances with the listed ones activated. -/
def activateAll (now : Timestamp) (keys : List Identifier) (instances : List AgentInstance) :
    List AgentInstance :=
  instances.map fun item => if item.instanceId ∈ keys then item.activate now else item

theorem RequirementLifecycle.activate_activate (now : Timestamp)
    (lifecycle : RequirementLifecycle) :
    (lifecycle.activate now).activate now = lifecycle.activate now := by
  unfold RequirementLifecycle.activate
  cases h : lifecycle.firstActivatedAt <;> simp [h]

@[simp] theorem RequirementLifecycle.activate_isSome (now : Timestamp)
    (lifecycle : RequirementLifecycle) :
    (lifecycle.activate now).firstActivatedAt.isSome = true := by
  unfold RequirementLifecycle.activate
  cases h : lifecycle.firstActivatedAt <;> simp [h]

theorem activateAll_nil (now : Timestamp) (instances : List AgentInstance) :
    activateAll now [] instances = instances := by
  simp [activateAll]

theorem activateAll_append (now : Timestamp) (keys more : List Identifier)
    (instances : List AgentInstance) :
    activateAll now more (activateAll now keys instances) =
      activateAll now (keys ++ more) instances := by
  simp only [activateAll, List.map_map, List.mem_append]
  refine List.map_congr_left fun item _ => ?_
  by_cases first : item.instanceId ∈ keys <;> by_cases second : item.instanceId ∈ more <;>
    simp [first, second, AgentInstance.activate, RequirementLifecycle.activate_activate]

@[simp] theorem activateAll_instanceIds (now : Timestamp) (keys : List Identifier)
    (instances : List AgentInstance) :
    (activateAll now keys instances).map AgentInstance.instanceId =
      instances.map AgentInstance.instanceId := by
  rw [activateAll, List.map_map]
  refine List.map_congr_left fun item _ => ?_
  simp only [Function.comp_apply]
  split <;> rfl

/-- The instances that a stage lists. -/
def Stage.members (instances : List AgentInstance) (stage : Stage) : List AgentInstance :=
  stage.instanceIds.filterMap (dictGet AgentInstance.instanceId instances)

theorem Wired.mapM_instanceById {stages : List Stage} {instances : List AgentInstance}
    {stage : Stage} (wired : WiredPlan stages instances) (member : stage ∈ stages) :
    stage.instanceIds.mapM (instanceById instances) = .ok (stage.members instances) := by
  have listed : ∀ key ∈ stage.instanceIds, key ∈ instances.map AgentInstance.instanceId :=
    wired.listedExist _ (List.mem_map_of_mem member)
  unfold Stage.members
  generalize stage.instanceIds = keys at listed
  induction keys with
  | nil => rfl
  | cons key rest ih =>
      have present := dictGet_isSome_iff.mpr (listed key List.mem_cons_self)
      obtain ⟨item, found⟩ := Option.isSome_iff_exists.mp present
      rw [List.mapM_cons, ih fun other member => listed other (List.mem_cons_of_mem _ member)]
      simp [instanceById, found]

theorem members_activateAll (now : Timestamp) (keys : List Identifier)
    (instances : List AgentInstance) (stage : Stage) :
    stage.members (activateAll now keys instances) =
      (stage.members instances).map fun item =>
        if item.instanceId ∈ keys then item.activate now else item := by
  unfold Stage.members
  rw [List.map_filterMap]
  refine congrArg (List.filterMap · stage.instanceIds) (funext fun key => ?_)
  refine dictGet_map fun item _ => ?_
  split <;> rfl

/-- The status of a stage is read off the statuses and requirements of its members. -/
theorem aggregateMembers_map {f : AgentInstance → AgentInstance} (stage : Stage)
    (members : List AgentInstance) (status : ∀ item, (f item).status = item.status)
    (required : ∀ item, (f item).required = item.required) :
    aggregateMembers stage (members.map f) = aggregateMembers stage members := by
  rw [aggregateMembers_eq, aggregateMembers_eq, memberFacts_map _ _ status required]

theorem aggregateMembers_activateAll (now : Timestamp) (keys : List Identifier)
    (instances : List AgentInstance) (probe stage : Stage) :
    aggregateMembers probe (stage.members (activateAll now keys instances)) =
      aggregateMembers probe (stage.members instances) := by
  rw [members_activateAll]
  refine aggregateMembers_map probe _ (fun item => ?_) fun item => ?_ <;> split <;> rfl

theorem imageInstancesFinished_activateAll (now : Timestamp) (keys : List Identifier)
    (instances : List AgentInstance) :
    imageInstancesFinished (activateAll now keys instances) =
      imageInstancesFinished instances := by
  have type : ∀ item : AgentInstance,
      (if item.instanceId ∈ keys then item.activate now else item).agentType = item.agentType := by
    intro item
    split <;> rfl
  have finished : ∀ item : AgentInstance,
      (if item.instanceId ∈ keys then item.activate now else item).manualFinished =
        item.manualFinished := by
    intro item
    split <;> rfl
  simp only [imageInstancesFinished, activateAll, List.filter_map, Function.comp_def, type,
    List.isEmpty_map, List.all_map, finished]

/-- The status of a stage that may run, from its members. -/
def Stage.memberStatus (instances : List AgentInstance) (stage : Stage) : StageStatus :=
  if stage.status.isSettled then stage.status
  else aggregateMembers stage (stage.members instances)

/-- Whether the dependencies of a stage are authorized once they are re-aggregated. -/
def Stage.isReady (stages : List Stage) (instances : List AgentInstance) (stage : Stage) : Bool :=
  stage.dependsOn.all (fun key =>
      (dictGet Stage.stageId stages key).any (·.memberStatus instances = .succeeded)) ||
    (decide (stage.type = .ppt) && decide (stage.dependsOn ≠ []) &&
      imageInstancesFinished instances)

/-- The target of `aggregate_stage` in `_refresh_stages`. -/
def Stage.refreshTarget (stages : List Stage) (instances : List AgentInstance) (stage : Stage) :
    StageStatus :=
  if !stage.status.isSettled && !stage.isReady stages instances &&
      !stage.requirementLifecycle.firstActivatedAt.isSome then .pending
  else stage.memberStatus instances

theorem Stage.isReady_of_independent {stages : List Stage} {instances : List AgentInstance}
    {stage : Stage} (independent : stage.dependsOn = []) :
    stage.isReady stages instances = true := by
  simp [Stage.isReady, independent]

theorem Stage.refreshTarget_of_isReady {stages : List Stage} {instances : List AgentInstance}
    {stage : Stage} (ready : stage.isReady stages instances = true) :
    stage.refreshTarget stages instances = stage.memberStatus instances := by
  simp [Stage.refreshTarget, ready]

/-! ## One round -/

section

variable {pre rest : List Stage} {stage probe : Stage} {instances : List AgentInstance}
  {finish : Stage → Stage}

/-- The dictionary of a round finds a dependency as an earlier round left it. -/
theorem Wired.stageById_before (wired : WiredPlan (pre ++ stage :: rest) instances)
    (keeps : ∀ other, (finish other).link = other.link) (same : probe.link = stage.link)
    {dependency : Stage} (member : dependency ∈ pre) :
    dictGet Stage.stageId (pre.map finish ++ probe :: rest) dependency.stageId =
      some (finish dependency) := by
  have keepsId : ∀ other, (finish other).stageId = other.stageId :=
    fun other => congrArg StageLink.stageId (keeps other)
  have ids : (pre.map finish ++ probe :: rest).map Stage.stageId =
      (pre ++ stage :: rest).map Stage.stageId := by
    simp [Function.comp_def, keepsId, show probe.stageId = stage.stageId from
      congrArg StageLink.stageId same]
  rw [dictGet_eq_some_iff (ids ▸ wired.idsDistinct)]
  exact ⟨List.mem_append_left _ (List.mem_map_of_mem member), keepsId dependency⟩

/-- `stage_dependencies_authorized` in a round of a loop. -/
theorem Wired.stageDependenciesAuthorized_eq
    (wired : WiredPlan (pre ++ stage :: rest) instances)
    (keeps : ∀ other, (finish other).link = other.link)
    (image : ∀ other ∈ pre, other.dependsOn = [] →
      (finish other).status = other.memberStatus instances)
    (now : Timestamp) (keys : List Identifier) (same : probe.link = stage.link) :
    stageDependenciesAuthorized probe (pre.map finish ++ probe :: rest)
        (activateAll now keys instances) =
      .ok (stage.isReady (pre ++ stage :: rest) instances) := by
  have dependsOn : probe.dependsOn = stage.dependsOn := congrArg StageLink.dependsOn same
  have type : probe.type = stage.type := congrArg StageLink.type same
  -- Each dependency is read as an earlier round left it, with its own member status.
  have lookup : ∀ key ∈ stage.dependsOn, ∃ dependency,
      stageById (pre.map finish ++ probe :: rest) key = .ok (finish dependency) ∧
      dictGet Stage.stageId (pre ++ stage :: rest) key = some dependency ∧
      (finish dependency).status = dependency.memberStatus instances := by
    intro key depends
    obtain ⟨dependency, member, rfl, -, independent⟩ := wired.dependency_before depends
    refine ⟨dependency, ?_, ?_, image dependency member independent⟩
    · rw [stageById, wired.stageById_before keeps same member]
    · exact (dictGet_eq_some_iff wired.idsDistinct).mpr ⟨List.mem_append_left _ member, rfl⟩
  have succeeded : ∀ keys, (∀ key ∈ keys, key ∈ stage.dependsOn) →
      dependenciesSucceeded (pre.map finish ++ probe :: rest) keys =
        .ok (keys.all fun key => (dictGet Stage.stageId (pre ++ stage :: rest) key).any
          (·.memberStatus instances = .succeeded)) := by
    intro keys
    induction keys with
    | nil => exact fun _ => rfl
    | cons key others ih =>
        intro subset
        obtain ⟨dependency, found, same, status⟩ := lookup key (subset key List.mem_cons_self)
        have tail := ih fun other member => subset other (List.mem_cons_of_mem _ member)
        simp only [dependenciesSucceeded, found, ok_bind, status, tail, List.all_cons, same,
          Option.any_some]
        by_cases done : dependency.memberStatus instances = .succeeded <;> simp [done]
  rw [stageDependenciesAuthorized, dependsOn, type, succeeded _ fun _ member => member]
  simp only [ok_bind, imageInstancesFinished_activateAll, Stage.isReady]
  split
  · rename_i authorized
    simp [authorized]
  · rename_i waiting
    rw [Bool.not_eq_true] at waiting
    rw [waiting]
    by_cases ppt : stage.type = .ppt <;> by_cases independent : stage.dependsOn = [] <;>
      simp [ppt, independent]

/-- `aggregate_stage` in a round of a loop; `probe` is the stage, possibly just activated. -/
theorem Wired.aggregateStage_eq
    (wired : WiredPlan (pre ++ stage :: rest) instances)
    (keeps : ∀ other, (finish other).link = other.link)
    (image : ∀ other ∈ pre, other.dependsOn = [] →
      (finish other).status = other.memberStatus instances)
    (now : Timestamp) (keys : List Identifier) (same : probe.link = stage.link)
    (status : probe.status = stage.status) (required : probe.required = stage.required) :
    aggregateStage probe (pre.map finish ++ probe :: rest) (activateAll now keys instances) =
      .ok (if !stage.status.isSettled && !stage.isReady (pre ++ stage :: rest) instances &&
          !probe.requirementLifecycle.firstActivatedAt.isSome then .pending
        else stage.memberStatus instances) := by
  have members : probe.instanceIds.mapM (instanceById (activateAll now keys instances)) =
      .ok (stage.members (activateAll now keys instances)) := by
    rw [show probe.instanceIds = stage.instanceIds from congrArg StageLink.instanceIds same]
    have activated : WiredPlan (pre ++ stage :: rest) (activateAll now keys instances) := by
      rw [WiredPlan, activateAll_instanceIds]
      exact wired
    exact activated.mapM_instanceById (by simp)
  have sameMembers : ∀ list, aggregateMembers probe list = aggregateMembers stage list := by
    intro list
    simp only [aggregateMembers, status, required]
  rw [aggregateStage, wired.stageDependenciesAuthorized_eq keeps image now keys same, members]
  cases settled : stage.status <;>
    simp [status, settled, StageStatus.isSettled, Stage.memberStatus, sameMembers,
      aggregateMembers_activateAll]
  all_goals
    cases stage.isReady (pre ++ stage :: rest) instances <;>
      cases probe.requirementLifecycle.firstActivatedAt <;> simp

end

/-- The ids of the members of the stages that activate. -/
def activatedKeys (activates : Stage → Bool) (stages : List Stage) : List Identifier :=
  (stages.filter activates).flatMap Stage.instanceIds

theorem activatedKeys_append (activates : Stage → Bool) (stages more : List Stage) :
    activatedKeys activates (stages ++ more) =
      activatedKeys activates stages ++ activatedKeys activates more := by
  simp [activatedKeys]

theorem activatedKeys_singleton (activates : Stage → Bool) (stage : Stage) :
    activatedKeys activates [stage] = if activates stage then stage.instanceIds else [] := by
  unfold activatedKeys
  cases h : activates stage <;> simp [h]

theorem Wired.activateInstances_eq {stages : List Stage} {instances : List AgentInstance}
    {stage : Stage} (wired : WiredPlan stages instances) (member : stage ∈ stages)
    (now : Timestamp) (keys : List Identifier) :
    activateInstances stage.instanceIds now (activateAll now keys instances) =
      .ok (activateAll now (keys ++ stage.instanceIds) instances) := by
  have activated : WiredPlan stages (activateAll now keys instances) := by
    rw [WiredPlan, activateAll_instanceIds]
    exact wired
  rw [activateInstances, activated.mapM_instanceById member, ← activateAll_append]
  rfl

/-! ## `_refresh_stages` -/

/-- `activate_new and dependencies_ready and stage["type"] == "ppt"`. -/
def Stage.activatesOnRefresh (activateNew : Bool) (stages : List Stage)
    (instances : List AgentInstance) (stage : Stage) : Bool :=
  activateNew && stage.isReady stages instances && stage.type = .ppt

/-- The stage as `_refresh_stages` leaves it. -/
def Stage.refreshed (now : Timestamp) (activateNew : Bool) (stages : List Stage)
    (instances : List AgentInstance) (stage : Stage) : Stage :=
  { (if stage.activatesOnRefresh activateNew stages instances then stage.activate now else stage)
    with status := stage.refreshTarget stages instances }

/-- The validation of the stage's move. -/
def Stage.checkRefresh (stages : List Stage) (instances : List AgentInstance) (stage : Stage) :
    Outcome Unit :=
  if stage.refreshTarget stages instances ≠ stage.status ∧ !stage.status.isSettled then
    validateStageReaggregation stage.status (stage.refreshTarget stages instances)
  else
    .ok ()

@[simp] theorem Stage.refreshed_link (now : Timestamp) (activateNew : Bool) (stages : List Stage)
    (instances : List AgentInstance) (stage : Stage) :
    (stage.refreshed now activateNew stages instances).link = stage.link := by
  unfold Stage.refreshed
  split <;> rfl

@[simp] theorem Stage.refreshed_status (now : Timestamp) (activateNew : Bool)
    (stages : List Stage) (instances : List AgentInstance) (stage : Stage) :
    (stage.refreshed now activateNew stages instances).status =
      stage.refreshTarget stages instances := rfl

/-- Re-aggregation of a whole plan, when no stage is moved against the catalog. -/
def Plan.refreshed (now : Timestamp) (activateNew : Bool) (plan : Plan) : Plan :=
  { plan with
    stages := plan.stages.map (Stage.refreshed now activateNew plan.stages plan.instances)
    instances := activateAll now
      (activatedKeys (Stage.activatesOnRefresh activateNew plan.stages plan.instances) plan.stages)
      plan.instances }

section

variable {pre rest : List Stage} {stage : Stage} {instances : List AgentInstance}

theorem Wired.refreshStage_eq {stages : List Stage} (wired : WiredPlan stages instances)
    (split : stages = pre ++ stage :: rest) (now : Timestamp) (activateNew : Bool) :
    refreshStage now activateNew (pre.map (Stage.refreshed now activateNew stages instances)) rest
        (activateAll now
          (activatedKeys (Stage.activatesOnRefresh activateNew stages instances) pre) instances)
        stage =
      (do
        stage.checkRefresh stages instances
        .ok (stage.refreshed now activateNew stages instances,
          activateAll now
            (activatedKeys (Stage.activatesOnRefresh activateNew stages instances)
              (pre ++ [stage])) instances)) := by
  have keeps : ∀ other : Stage,
      (other.refreshed now activateNew stages instances).link = other.link :=
    fun other => other.refreshed_link now activateNew stages instances
  have image : ∀ other ∈ pre, other.dependsOn = [] →
      (other.refreshed now activateNew stages instances).status = other.memberStatus instances :=
    fun other _ independent =>
      Stage.refreshTarget_of_isReady (Stage.isReady_of_independent independent)
  have activate := wired.activateInstances_eq (show stage ∈ stages by simp [split]) now
    (activatedKeys (Stage.activatesOnRefresh activateNew stages instances) pre)
  rw [split] at wired
  have target := wired.aggregateStage_eq keeps image now
    (activatedKeys (Stage.activatesOnRefresh activateNew stages instances) pre) rfl rfl rfl
  have ready := wired.stageDependenciesAuthorized_eq keeps image now
    (activatedKeys (Stage.activatesOnRefresh activateNew stages instances) pre) rfl
  rw [← split] at target ready
  rw [← Stage.refreshTarget] at target
  simp only [refreshStage, target, ready, ok_bind, activatedKeys_append, activatedKeys_singleton,
    Stage.refreshed, Stage.checkRefresh, activateMembersIf, pure_eq_ok]
  rw [← Stage.activatesOnRefresh]
  by_cases activates : stage.activatesOnRefresh activateNew stages instances = true
  · simp only [activates, if_true, activate, ok_bind]
    split <;> rfl
  · simp only [activates, if_false, List.append_nil, Bool.false_eq_true]
    split <;> rfl

theorem stageLoop_eq {stages : List Stage}
    {round : List Stage → List Stage → List AgentInstance → Stage →
      Outcome (Stage × List AgentInstance)}
    {finish : Stage → Stage} (touch : List Stage → List AgentInstance)
    {check : Stage → Outcome Unit}
    (rounds : ∀ pre stage rest, stages = pre ++ stage :: rest →
      round (pre.map finish) rest (touch pre) stage =
        (do check stage; .ok (finish stage, touch (pre ++ [stage])))) :
    ∀ pre rest, stages = pre ++ rest →
      stageLoop round (pre.map finish) rest (touch pre) =
        (do checkEach check rest; .ok (stages.map finish, touch stages)) := by
  intro pre rest
  induction rest generalizing pre with
  | nil =>
      intro split
      rw [List.append_nil] at split
      rw [split]
      rfl
  | cons stage rest ih =>
      intro split
      have next := ih (pre ++ [stage]) (by simpa using split)
      rw [List.map_append, List.map_singleton] at next
      rw [stageLoop, rounds pre stage rest split, checkEach]
      cases check stage with
      | error error => rfl
      | ok u => exact next

/-- `_refresh_stages` on a wired plan: every move is checked, then every stage has its target. -/
theorem refreshStages_eq {plan : Plan} (wired : WiredPlan plan.stages plan.instances)
    (now : Timestamp) (activateNew : Bool) :
    refreshStages plan now activateNew =
      (do
        checkEach (Stage.checkRefresh plan.stages plan.instances) plan.stages
        .ok (plan.refreshed now activateNew)) := by
  have loop := stageLoop_eq
    (fun pre => activateAll now
      (activatedKeys (Stage.activatesOnRefresh activateNew plan.stages plan.instances) pre)
      plan.instances)
    (fun pre stage rest split => wired.refreshStage_eq split now activateNew) [] plan.stages rfl
  simp only [List.map_nil, activatedKeys, List.filter_nil, List.flatMap_nil,
    activateAll_nil] at loop
  rw [refreshStages, wired.sortedByPosition_eq, loop]
  cases checkEach (Stage.checkRefresh plan.stages plan.instances) plan.stages <;> rfl

end

theorem activateInstances_ids {keys : List Identifier} {now : Timestamp}
    {instances next : List AgentInstance} (h : activateInstances keys now instances = .ok next) :
    next.map AgentInstance.instanceId = instances.map AgentInstance.instanceId := by
  simp only [activateInstances, bind_eq_ok, pure_eq_ok, Except.ok.injEq] at h
  obtain ⟨-, -, rfl⟩ := h
  exact activateAll_instanceIds now keys instances

theorem refreshStage_keeps {now : Timestamp} {activateNew : Bool} {done rest : List Stage}
    {instances next : List AgentInstance} {stage left : Stage}
    (h : refreshStage now activateNew done rest instances stage = .ok (left, next)) :
    left.link = stage.link ∧
      next.map AgentInstance.instanceId = instances.map AgentInstance.instanceId := by
  simp only [refreshStage, bind_eq_ok] at h
  obtain ⟨target, -, ready, -, touched, activated, h⟩ := h
  have finished := Except.ok.inj (ok_of_guarded h)
  obtain ⟨rfl, rfl⟩ := Prod.mk.inj finished
  constructor
  · simp only [Stage.link]
    split <;> rfl
  · unfold activateMembersIf at activated
    split at activated
    · exact activateInstances_ids activated
    · exact congrArg _ (Except.ok.inj activated).symm

theorem stageLoop_keeps
    {round : List Stage → List Stage → List AgentInstance → Stage →
      Outcome (Stage × List AgentInstance)}
    (keeps : ∀ {done rest instances stage left next},
      round done rest instances stage = .ok (left, next) → left.link = stage.link ∧
        next.map AgentInstance.instanceId = instances.map AgentInstance.instanceId)
    {done rest stages : List Stage} {instances next : List AgentInstance}
    (h : stageLoop round done rest instances = .ok (stages, next)) :
    stages.map Stage.link = (done ++ rest).map Stage.link ∧
      next.map AgentInstance.instanceId = instances.map AgentInstance.instanceId := by
  induction rest generalizing done instances with
  | nil =>
      obtain ⟨rfl, rfl⟩ := Prod.mk.inj (Except.ok.inj h)
      simp
  | cons stage rest ih =>
      simp only [stageLoop, bind_eq_ok] at h
      obtain ⟨⟨left, touched⟩, ran, h⟩ := h
      obtain ⟨sameLink, sameIds⟩ := keeps ran
      obtain ⟨links, ids⟩ := ih h
      constructor
      · rw [links]
        simp [sameLink]
      · rw [ids, sameIds]

/-- A re-aggregation whose result is wired started from a wired plan, up to the order of its
    stages. -/
theorem refreshStages_of_wired {plan next : Plan} {now : Timestamp} {activateNew : Bool}
    (h : refreshStages plan now activateNew = .ok next)
    (wired : WiredPlan next.stages next.instances) :
    WiredPlan (sortedByPosition plan.stages) plan.instances ∧
      checkEach (Stage.checkRefresh (sortedByPosition plan.stages) plan.instances)
        (sortedByPosition plan.stages) = .ok () ∧
      next = { plan with stages := sortedByPosition plan.stages }.refreshed now activateNew := by
  obtain ⟨⟨stages, instances⟩, looped, rest⟩ := bind_eq_ok.mp h
  obtain rfl := Except.ok.inj rest
  obtain ⟨links, ids⟩ := stageLoop_keeps refreshStage_keeps looped
  have base : WiredPlan (sortedByPosition plan.stages) plan.instances := by
    have same : (sortedByPosition plan.stages).map Stage.link = stages.map Stage.link := links.symm
    rw [WiredPlan, same, ← ids]
    exact wired
  refine ⟨base, ?_⟩
  have again : refreshStages { plan with stages := sortedByPosition plan.stages } now activateNew =
      refreshStages plan now activateNew := by
    rw [refreshStages, refreshStages, base.sortedByPosition_eq]
  rw [refreshStages_eq base, h] at again
  obtain ⟨⟨⟩, legal, same⟩ := bind_eq_ok.mp again
  exact ⟨legal, (Except.ok.inj same).symm⟩
/-- The stage as `_activate_current_stages` leaves it. -/
def Stage.started (now : Timestamp) (stages : List Stage) (instances : List AgentInstance)
    (stage : Stage) : Stage :=
  if stage.isReady stages instances then
    { stage.activate now with status := stage.memberStatus instances }
  else
    stage

/-- The transition of a stage that activates. -/
def Stage.checkStart (stages : List Stage) (instances : List AgentInstance) (stage : Stage) :
    Outcome Unit :=
  if stage.isReady stages instances ∧ stage.memberStatus instances ≠ stage.status then
    transitionStage stage.status (stage.memberStatus instances)
  else
    .ok ()

@[simp] theorem Stage.started_link (now : Timestamp) (stages : List Stage)
    (instances : List AgentInstance) (stage : Stage) :
    (stage.started now stages instances).link = stage.link := by
  unfold Stage.started
  split <;> rfl

/-- Activation of a whole plan, when no stage is moved against the catalog. -/
def Plan.started (now : Timestamp) (plan : Plan) : Plan :=
  { plan with
    stages := plan.stages.map (Stage.started now plan.stages plan.instances)
    instances := activateAll now
      (activatedKeys (Stage.isReady plan.stages plan.instances) plan.stages) plan.instances }

theorem Wired.activateStage_eq {stages pre rest : List Stage} {stage : Stage}
    {instances : List AgentInstance} (wired : WiredPlan stages instances)
    (split : stages = pre ++ stage :: rest) (now : Timestamp) :
    activateStage now (pre.map (Stage.started now stages instances)) rest
        (activateAll now (activatedKeys (Stage.isReady stages instances) pre) instances) stage =
      (do
        stage.checkStart stages instances
        .ok (stage.started now stages instances,
          activateAll now (activatedKeys (Stage.isReady stages instances) (pre ++ [stage]))
            instances)) := by
  have keeps : ∀ other : Stage, (other.started now stages instances).link = other.link :=
    fun other => other.started_link now stages instances
  have image : ∀ other ∈ pre, other.dependsOn = [] →
      (other.started now stages instances).status = other.memberStatus instances := by
    intro other _ independent
    rw [Stage.started, if_pos (Stage.isReady_of_independent independent)]
  have activate := wired.activateInstances_eq (show stage ∈ stages by simp [split]) now
    (activatedKeys (Stage.isReady stages instances) pre)
  rw [split] at wired
  have ready := wired.stageDependenciesAuthorized_eq keeps image now
    (activatedKeys (Stage.isReady stages instances) pre) rfl
  have target := wired.aggregateStage_eq keeps image now
    (activatedKeys (Stage.isReady stages instances) pre ++ stage.instanceIds)
    (show (stage.activate now).link = stage.link from rfl) rfl rfl
  rw [← split] at target ready
  simp only [activateStage, ready, ok_bind, activatedKeys_append, activatedKeys_singleton,
    Stage.started, Stage.checkStart]
  cases authorized : stage.isReady stages instances
  · simp
  · simp only [Bool.not_true, Bool.false_eq_true, if_false, true_and, if_true]
    rw [show (stage.activate now).instanceIds = stage.instanceIds from rfl, activate]
    simp only [ok_bind, target]
    by_cases same : stage.memberStatus instances = stage.status <;>
      simp [Stage.activate, same]

/-- `_activate_current_stages` on a wired plan. -/
theorem activateCurrentStages_eq {plan : Plan} (wired : WiredPlan plan.stages plan.instances)
    (now : Timestamp) :
    activateCurrentStages plan now =
      (do
        checkEach (Stage.checkStart plan.stages plan.instances) plan.stages
        .ok (plan.started now)) := by
  have loop := stageLoop_eq
    (fun pre => activateAll now
      (activatedKeys (Stage.isReady plan.stages plan.instances) pre) plan.instances)
    (fun pre stage rest split => wired.activateStage_eq split now) [] plan.stages rfl
  simp only [List.map_nil, activatedKeys, List.filter_nil, List.flatMap_nil,
    activateAll_nil] at loop
  rw [activateCurrentStages, wired.sortedByPosition_eq, loop]
  cases checkEach (Stage.checkStart plan.stages plan.instances) plan.stages <;> rfl

end DesignHarness
