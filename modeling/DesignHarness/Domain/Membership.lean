import DesignHarness.Domain.Commands
import DesignHarness.Domain.Plan

/-!
# Stage membership

A plan links a stage and an instance twice: `stage.instance_ids` names the instance and
`instance.stage_id` names the stage.  `aggregate_stage` follows the first link, the downgrade
command the second.  `validate_plan` checks each link on its own and never compares the two.
-/

namespace DesignHarness

open Library

/-- The two links agree, and what a stage lists has the stage's agent type. -/
def Plan.membershipConsistent (plan : Plan) : Prop :=
  ∀ stage ∈ plan.stages, ∀ item ∈ plan.instances,
    (item.instanceId ∈ stage.instanceIds ↔ item.stageId = stage.stageId) ∧
      (item.instanceId ∈ stage.instanceIds → item.agentType = stage.type)

instance (plan : Plan) : Decidable plan.membershipConsistent := by
  unfold Plan.membershipConsistent
  infer_instance

/-- `instance_by_id[item]["stage_id"] == stage["stage_id"]` for every id the stage lists, the
    comparison that `validate_plan` leaves out. -/
def Stage.listsOwnInstances (instances : List AgentInstance) (stage : Stage) : Bool :=
  stage.instanceIds.all fun key =>
    (dictGet AgentInstance.instanceId instances key).any (·.stageId = stage.stageId)

variable {plan : Plan} {stage other : Stage} {item : AgentInstance}

namespace PlanValid

theorem stage_eq (valid : PlanValid plan) (member : stage ∈ plan.stages)
    (member' : other ∈ plan.stages) (same : stage.stageId = other.stageId) : stage = other :=
  List.inj_on_of_nodup_map valid.stageIdsDistinct member member' same

theorem instanceById_eq (valid : PlanValid plan) (member : item ∈ plan.instances) :
    dictGet AgentInstance.instanceId plan.instances item.instanceId = some item :=
  (dictGet_eq_some_iff valid.instanceIdsDistinct).mpr ⟨member, rfl⟩

/-- Every id a stage lists belongs to an instance of the plan. -/
theorem listed_exists (valid : PlanValid plan) (member : stage ∈ plan.stages) {key : Identifier}
    (listed : key ∈ stage.instanceIds) :
    ∃ item ∈ plan.instances, item.instanceId = key ∧
      dictGet AgentInstance.instanceId plan.instances key = some item := by
  have referenced : key ∈ plan.stages.flatMap Stage.instanceIds :=
    List.mem_flatMap.mpr ⟨stage, member, listed⟩
  obtain ⟨item, itemMember, rfl⟩ := List.mem_map.mp (valid.referencedExist key referenced)
  exact ⟨item, itemMember, rfl, valid.instanceById_eq itemMember⟩

/-- Every instance is listed by some stage. -/
theorem listed_by (valid : PlanValid plan) (member : item ∈ plan.instances) :
    ∃ stage ∈ plan.stages, item.instanceId ∈ stage.instanceIds :=
  List.mem_flatMap.mp (valid.instancesReferenced _ (List.mem_map_of_mem member))

/-- An instance has the agent type of the stage that its `stage_id` names. -/
theorem agentType_eq (valid : PlanValid plan) (itemMember : item ∈ plan.instances)
    (stageMember : stage ∈ plan.stages) (same : item.stageId = stage.stageId) :
    item.agentType = stage.type := by
  obtain ⟨named, found, typed⟩ := (valid.instancesPlaced item itemMember).inStage
  obtain ⟨namedMember, namedId⟩ := mem_of_dictGet found
  rw [typed, valid.stage_eq namedMember stageMember (namedId.trans same)]

end PlanValid

theorem Stage.listsOwnInstances_iff (valid : PlanValid plan) (member : stage ∈ plan.stages) :
    stage.listsOwnInstances plan.instances = true ↔
      ∀ item ∈ plan.instances, item.instanceId ∈ stage.instanceIds →
        item.stageId = stage.stageId := by
  simp only [Stage.listsOwnInstances, List.all_eq_true]
  constructor
  · intro own item itemMember listed
    have named := own _ listed
    rw [valid.instanceById_eq itemMember] at named
    simpa using named
  · intro own key listed
    obtain ⟨item, itemMember, rfl, found⟩ := valid.listed_exists member listed
    simpa [found] using own item itemMember listed

/-- An accepted plan is wired consistently exactly when every stage lists only instances that
    name it: the other direction and the agent types follow from the checks that are made. -/
theorem membershipConsistent_iff_listsOwnInstances (accepted : validatePlan plan = .ok ()) :
    plan.membershipConsistent ↔
      plan.stages.all (Stage.listsOwnInstances plan.instances) = true := by
  have valid := validatePlan_eq_ok.mp accepted
  rw [List.all_eq_true]
  constructor
  · intro consistent stage member
    rw [Stage.listsOwnInstances_iff valid member]
    exact fun item itemMember => (consistent stage member item itemMember).1.mp
  · intro own stage member item itemMember
    have named : item.instanceId ∈ stage.instanceIds → item.stageId = stage.stageId :=
      (Stage.listsOwnInstances_iff valid member).mp (own stage member) item itemMember
    refine ⟨⟨named, fun same => ?_⟩, fun listed =>
      valid.agentType_eq itemMember member (named listed)⟩
    -- Some stage lists the instance; that stage is the one the instance names.
    obtain ⟨lister, listerMember, listed⟩ := valid.listed_by itemMember
    have listerNamed : item.stageId = lister.stageId :=
      (Stage.listsOwnInstances_iff valid listerMember).mp (own lister listerMember) item itemMember
        listed
    rwa [valid.stage_eq member listerMember (same.symm.trans listerNamed)]

/-- Instance `a` names stage `s1` and instance `b` names `s2`; the stages list what is given. -/
def crossedPlan (listed1 listed2 : Identifier) : Plan where
  task := sampleTask
  stages := [sampleStage "s1" .image 1 [listed1], sampleStage "s2" .general 2 [listed2]].map
    (StagePayload.normalize "task")
  instances := [sampleInstance "a" "s1" .image, sampleInstance "b" "s2" .general].map
    (InstancePayload.normalize "task" "t0")
  taskCards := [sampleCard "a" "s1" .image, sampleCard "b" "s2" .general].map
    (CardPayload.normalize "task" "t0")

/-- `validate_plan` accepts two stages that list each other's instance, of the wrong type. -/
theorem validatePlan_accepts_crossed_links :
    validatePlan (crossedPlan "b" "a") = .ok () ∧
      ¬ (crossedPlan "b" "a").membershipConsistent := by
  decide

theorem membershipConsistent_iff_listsOwnInstances_crossed :
    ((crossedPlan "b" "a").membershipConsistent ↔
      (crossedPlan "b" "a").stages.all
        (Stage.listsOwnInstances (crossedPlan "b" "a").instances) = true) ∧
    ((crossedPlan "a" "b").membershipConsistent ↔
      (crossedPlan "a" "b").stages.all
        (Stage.listsOwnInstances (crossedPlan "a" "b").instances) = true) :=
  ⟨membershipConsistent_iff_listsOwnInstances (by decide),
    membershipConsistent_iff_listsOwnInstances (by decide)⟩

end DesignHarness
