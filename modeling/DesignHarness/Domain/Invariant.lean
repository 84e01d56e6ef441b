import DesignHarness.Domain.Moves
import DesignHarness.Library.Runs

/-!
# The invariant of every reachable plan

A run is a list of calls from the empty store: commands of `TaskCommandService` and
`update_instance_fields`.  `StateInvariant` holds after every run (`runOf_invariant`).
-/

namespace DesignHarness

open Library

/-- One call on the task. -/
inductive Call where
  | command (command : Command) (envelope : CommandEnvelope) (ambient : Ambient)
  | updateInstanceFields (instanceId : Identifier) (changes : InstanceChanges)
  deriving DecidableEq, Repr

def TaskState.perform (state : TaskState) : Call → Outcome TaskState
  | .command command envelope ambient => state.execute envelope ambient command
  | .updateInstanceFields instanceId changes => state.updateInstanceFields instanceId changes

/-- The state after a run; a call that raises changes nothing. -/
def runOf (calls : List Call) : TaskState := runFrom TaskState.perform .empty calls

/-- A stage that is past its dependencies shows it: it was activated or has none. -/
def StageStatus.isIdle : StageStatus → Bool
  | pending | skipped | cancelled => true
  | _ => false

structure StageSound (stage : Stage) : Prop where
  available : stage.status ≠ .unavailable
  advanced : stage.status.isIdle = false →
    stage.requirementLifecycle.firstActivatedAt.isSome = true ∨ stage.dependsOn = []

/-- An instance is created `READY` and never leaves the part of the catalog reached from there. -/
structure InstanceSound (item : AgentInstance) : Prop where
  notCreated : item.status ≠ .created
  available : item.status ≠ .unavailable

/-- What holds of every stored plan. -/
structure PlanInvariant (plan : Plan) : Prop where
  valid : PlanValid plan
  stages : ∀ stage ∈ plan.stages, StageSound stage
  instances : ∀ item ∈ plan.instances, InstanceSound item
  status : plan.task.status ≠ .draft ∧ plan.task.status ≠ .planned ∧
    plan.task.status ≠ .blockedUnavailable

/-- What holds of the store after every run. -/
structure StateInvariant (state : TaskState) : Prop where
  plan : ∀ plan, state.plan = some plan → PlanInvariant plan
  synced : ∀ task plan, state.task = some task → state.plan = some plan →
    task.status = plan.task.status
  stored : ∀ plan, state.plan = some plan → 0 < state.taskRevision ∧ state.task.isSome = true

theorem InstanceSound.of_progressed {item other : AgentInstance} (sound : InstanceSound item)
    (progress : Progressed item other) : InstanceSound other := by
  have step : ∀ current target : InstanceStatus, target ∈ current.transitions →
      current ≠ .created → target ≠ .created ∧ target ≠ .unavailable := by
    intro current target legal
    cases current <;> cases target <;> simp_all [InstanceStatus.transitions]
  rcases progress.status with same | legal
  · exact ⟨same ▸ sound.notCreated, same ▸ sound.available⟩
  · obtain ⟨created, unavailable⟩ := step _ _ legal sound.notCreated
    exact ⟨created, unavailable⟩

theorem InstancesProgress.sound {old new : List AgentInstance} (progress : InstancesProgress old new)
    (sound : ∀ item ∈ old, InstanceSound item) : ∀ item ∈ new, InstanceSound item := by
  intro other member
  obtain ⟨item, itemMember, moved⟩ := progress other member
  exact (sound item itemMember).of_progressed moved

theorem activateAll_progress (now : Timestamp) (keys : List Identifier)
    (instances : List AgentInstance) :
    InstancesProgress instances (activateAll now keys instances) := by
  refine .of_map fun item _ => ?_
  split
  · exact ⟨rfl, id, .inl rfl⟩
  · exact .refl item

/-- Activation changes nothing but the time of the first activation. -/
theorem mem_activateAll {now : Timestamp} {keys : List Identifier}
    {instances : List AgentInstance} {other : AgentInstance}
    (member : other ∈ activateAll now keys instances) :
    ∃ item ∈ instances, other.instanceId = item.instanceId ∧ other.required = item.required ∧
      other.status = item.status := by
  obtain ⟨item, itemMember, rfl⟩ := List.mem_map.mp member
  refine ⟨item, itemMember, ?_⟩
  split <;> exact ⟨rfl, rfl, rfl⟩

/-! ## Stages -/

theorem Stage.mem_members {instances : List AgentInstance} {stage : Stage} {item : AgentInstance}
    (member : item ∈ stage.members instances) :
    item ∈ instances ∧ item.instanceId ∈ stage.instanceIds := by
  obtain ⟨key, listed, found⟩ := List.mem_filterMap.mp member
  obtain ⟨itemMember, rfl⟩ := mem_of_dictGet found
  exact ⟨itemMember, listed⟩

theorem Stage.memberStatus_available {instances : List AgentInstance} {stage : Stage}
    (sound : ∀ item ∈ instances, InstanceSound item) (available : stage.status ≠ .unavailable) :
    stage.memberStatus instances ≠ .unavailable := by
  unfold Stage.memberStatus
  split
  · exact available
  · rw [aggregateMembers_eq]
    intro unavailable
    rcases MemberFacts.status_unavailable unavailable with member | same
    · obtain ⟨item, member, status⟩ := memberFacts_unavailable member
      exact (sound item (Stage.mem_members member).1).available status
    · exact available same

/-- A stage succeeds through its members or had succeeded before. -/
theorem Stage.succeeded_cases {instances : List AgentInstance} {stage : Stage}
    (succeeded : stage.memberStatus instances = .succeeded) :
    stage.status = .succeeded ∨
      ((∃ item ∈ stage.members instances, item.status.isComplete) ∧
        (stage.required = true → ∀ item ∈ stage.members instances, item.required →
          item.status.isComplete)) := by
  unfold Stage.memberStatus at succeeded
  split at succeeded
  · exact .inl succeeded
  · rw [aggregateMembers_eq] at succeeded
    exact (MemberFacts.status_succeeded succeeded).symm.imp_right memberFacts_delivered

/-- A stage that was re-aggregated has the status that its members give it. -/
theorem Stage.memberStatus_refreshed {stages : List Stage} {instances : List AgentInstance}
    {stage : Stage} {now : Timestamp} {activateNew : Bool}
    (ready : stage.isReady stages instances = true) (keys : List Identifier) :
    (stage.refreshed now activateNew stages instances).memberStatus
      (activateAll now keys instances) = stage.memberStatus instances := by
  have link := stage.refreshed_link now activateNew stages instances
  have required : (stage.refreshed now activateNew stages instances).required =
      stage.required := by
    unfold Stage.refreshed
    split <;> rfl
  have members : (stage.refreshed now activateNew stages instances).members
      (activateAll now keys instances) = stage.members (activateAll now keys instances) := by
    rw [Stage.members, Stage.members, show
      (stage.refreshed now activateNew stages instances).instanceIds = stage.instanceIds from
      congrArg StageLink.instanceIds link]
  have status : (stage.refreshed now activateNew stages instances).status =
      stage.memberStatus instances := Stage.refreshTarget_of_isReady ready
  rw [Stage.memberStatus, members]
  split
  · exact status
  · rw [aggregateMembers_activateAll]
    unfold Stage.memberStatus at status ⊢
    split
    · rename_i unsettled settled
      rw [if_pos settled] at status
      exact absurd (status ▸ settled) unsettled
    · rename_i unsettled
      rw [if_neg unsettled] at status
      rw [aggregateMembers_eq] at status
      rw [aggregateMembers_eq, aggregateMembers_eq, status, required]
      exact MemberFacts.status_status

/-- A stage with dependencies is a PPT stage. -/
theorem Wired.dependent_ppt {stages : List Stage} {instances : List AgentInstance}
    (wired : WiredPlan stages instances) {stage : Stage} (member : stage ∈ stages)
    (dependent : stage.dependsOn ≠ []) : stage.type = .ppt := by
  obtain ⟨key, depends⟩ := List.exists_mem_of_ne_nil _ dependent
  exact (wired.dependenciesImageToPpt stage.link (List.mem_map_of_mem member) key depends).1

section

variable {now : Timestamp} {plan : Plan} {stage : Stage}

/-- After a re-aggregation that activates, every stage is sound. -/
theorem Plan.refreshed_stages_sound (wired : WiredPlan plan.stages plan.instances)
    (available : ∀ stage ∈ plan.stages, stage.status ≠ .unavailable)
    (sound : ∀ item ∈ plan.instances, InstanceSound item) :
    ∀ stage ∈ (plan.refreshed now true).stages, StageSound stage := by
  intro other member
  obtain ⟨stage, stageMember, rfl⟩ := List.mem_map.mp member
  constructor
  · rw [Stage.refreshed_status, Stage.refreshTarget]
    split
    · simp
    · exact Stage.memberStatus_available sound (available stage stageMember)
  · intro advanced
    rw [Stage.refreshed_status] at advanced
    by_cases independent : stage.dependsOn = []
    · right
      exact (congrArg StageLink.dependsOn (Stage.refreshed_link ..)).trans independent
    · left
      by_cases ready : stage.isReady plan.stages plan.instances = true
      · have ppt := wired.dependent_ppt stageMember independent
        simp [Stage.refreshed, Stage.activatesOnRefresh, ready, ppt, Stage.activate]
      · by_cases activated : stage.requirementLifecycle.firstActivatedAt.isSome = true
        · unfold Stage.refreshed
          split
          · exact RequirementLifecycle.activate_isSome _ _
          · exact activated
        · rw [Stage.refreshTarget] at advanced
          cases settled : stage.status.isSettled
          · simp [settled, ready, activated, StageStatus.isIdle] at advanced
          · rw [if_neg (by simp [settled])] at advanced
            rw [Stage.memberStatus, if_pos settled] at advanced
            cases status : stage.status <;>
              simp_all [StageStatus.isSettled, StageStatus.isIdle]

/-- A start activates what is ready and leaves the rest alone. -/
theorem Plan.started_stages_sound
    (available : ∀ stage ∈ plan.stages, stage.status ≠ .unavailable)
    (waiting : ∀ stage ∈ plan.stages, stage.isReady plan.stages plan.instances = false →
      StageSound stage)
    (sound : ∀ item ∈ plan.instances, InstanceSound item) :
    ∀ stage ∈ (plan.started now).stages, StageSound stage := by
  intro other member
  obtain ⟨stage, stageMember, rfl⟩ := List.mem_map.mp member
  unfold Stage.started
  split
  · exact ⟨Stage.memberStatus_available sound (available stage stageMember),
      fun _ => .inl (RequirementLifecycle.activate_isSome _ _)⟩
  · rename_i notReady
    exact waiting stage stageMember (by simpa using notReady)

/-- Re-aggregation neither gives nor takes a permission. -/
theorem Plan.refreshed_isReady (wired : WiredPlan plan.stages plan.instances)
    (member : stage ∈ plan.stages) (activateNew : Bool) :
    (stage.refreshed now activateNew plan.stages plan.instances).isReady
      (plan.refreshed now activateNew).stages (plan.refreshed now activateNew).instances =
        stage.isReady plan.stages plan.instances := by
  have link := stage.refreshed_link now activateNew plan.stages plan.instances
  have dependsOn : (stage.refreshed now activateNew plan.stages plan.instances).dependsOn =
      stage.dependsOn := congrArg StageLink.dependsOn link
  have type : (stage.refreshed now activateNew plan.stages plan.instances).type = stage.type :=
    congrArg StageLink.type link
  have gate : imageInstancesFinished (plan.refreshed now activateNew).instances =
      imageInstancesFinished plan.instances := imageInstancesFinished_activateAll ..
  -- A dependency has none of its own, so it was re-aggregated from its members.
  have same : ∀ key ∈ stage.dependsOn,
      ((dictGet Stage.stageId (plan.refreshed now activateNew).stages key).any
        (·.memberStatus (plan.refreshed now activateNew).instances = .succeeded)) =
      ((dictGet Stage.stageId plan.stages key).any
        (·.memberStatus plan.instances = .succeeded)) := by
    intro key depends
    obtain ⟨pre, rest, split⟩ := List.append_of_mem member
    have splitWired := wired
    rw [split] at splitWired
    obtain ⟨dependency, dependencyMember, rfl, -, independent⟩ :=
      splitWired.dependency_before depends
    have dependencyStage : dependency ∈ plan.stages := by simp [split, dependencyMember]
    have refreshedLink := dependency.refreshed_link now activateNew plan.stages plan.instances
    have found : dictGet Stage.stageId (plan.refreshed now activateNew).stages dependency.stageId =
        some (dependency.refreshed now activateNew plan.stages plan.instances) := by
      rw [dictGet_eq_some_iff (Plan.refreshed_wired wired now activateNew).idsDistinct]
      exact ⟨List.mem_map_of_mem dependencyStage, congrArg StageLink.stageId refreshedLink⟩
    have status : (dependency.refreshed now activateNew plan.stages plan.instances).memberStatus
        (plan.refreshed now activateNew).instances = dependency.memberStatus plan.instances :=
      Stage.memberStatus_refreshed (Stage.isReady_of_independent independent) _
    rw [found, (dictGet_eq_some_iff wired.idsDistinct).mpr ⟨dependencyStage, rfl⟩,
      Option.any_some, Option.any_some, status]
  unfold Stage.isReady
  rw [dependsOn, type, gate]
  congr 1
  rw [Bool.eq_iff_iff, List.all_eq_true, List.all_eq_true]
  exact forall₂_congr fun key depends => by rw [same key depends]

/-- A start after a re-aggregation without activation leaves every stage sound. -/
theorem Plan.refreshed_started_sound (wired : WiredPlan plan.stages plan.instances)
    (stages : ∀ stage ∈ plan.stages, StageSound stage)
    (sound : ∀ item ∈ plan.instances, InstanceSound item) :
    ∀ stage ∈ ((plan.refreshed now false).started now).stages, StageSound stage := by
  have available : ∀ stage ∈ (plan.refreshed now false).stages, stage.status ≠ .unavailable := by
    intro other member
    obtain ⟨stage, stageMember, rfl⟩ := List.mem_map.mp member
    rw [Stage.refreshed_status, Stage.refreshTarget]
    split
    · simp
    · exact Stage.memberStatus_available sound (stages stage stageMember).available
  refine Plan.started_stages_sound available ?_ ((activateAll_progress _ _ _).sound sound)
  intro other member notReady
  obtain ⟨stage, stageMember, rfl⟩ := List.mem_map.mp member
  refine ⟨available _ member, fun advanced => ?_⟩
  have lifecycle : (stage.refreshed now false plan.stages plan.instances).requirementLifecycle =
      stage.requirementLifecycle := rfl
  rw [lifecycle]
  -- The stage is not ready now, so it was not ready before.
  have waiting : stage.isReady plan.stages plan.instances = false := by
    by_contra ready
    rw [Bool.not_eq_false] at ready
    rw [Plan.refreshed_isReady wired stageMember false, ready] at notReady
    cases notReady
  by_cases activated : stage.requirementLifecycle.firstActivatedAt.isSome = true
  · exact .inl activated
  · rw [Stage.refreshed_status, Stage.refreshTarget] at advanced
    cases settled : stage.status.isSettled
    · simp [settled, waiting, activated, StageStatus.isIdle] at advanced
    · rw [if_neg (by simp [settled]), Stage.memberStatus, if_pos settled] at advanced
      cases status : stage.status <;> simp_all [StageStatus.isSettled, StageStatus.isIdle]

theorem FreshStage.sound (fresh : FreshStage stage) : StageSound stage := by
  constructor
  · simp [fresh.status]
  · simp [fresh.status, StageStatus.isIdle]

theorem FreshInstance.sound {item : AgentInstance} (fresh : FreshInstance item) :
    InstanceSound item :=
  ⟨by simp [fresh.status], by simp [fresh.status]⟩

/-- In a plan of new items only the stages without dependencies are ready. -/
theorem isReady_of_fresh (stages : ∀ stage ∈ plan.stages, FreshStage stage)
    (instances : ∀ item ∈ plan.instances, FreshInstance item)
    (ready : stage.isReady plan.stages plan.instances = true) : stage.dependsOn = [] := by
  rw [Stage.isReady, Bool.or_eq_true] at ready
  rcases ready with succeeded | gate
  · refine List.eq_nil_iff_forall_not_mem.mpr fun key depends => ?_
    have done := List.all_eq_true.mp succeeded key depends
    obtain ⟨dependency, found, status⟩ := (Option.any_eq_true _ _).mp done
    obtain ⟨dependencyMember, -⟩ := mem_of_dictGet found
    rcases Stage.succeeded_cases (of_decide_eq_true status) with same | ⟨⟨item, member, complete⟩, -⟩
    · rw [(stages dependency dependencyMember).status] at same
      cases same
    · rw [(instances item (Stage.mem_members member).1).status] at complete
      cases complete
  · simp only [Bool.and_eq_true, imageInstancesFinished] at gate
    obtain ⟨-, some, finished⟩ := gate
    obtain ⟨item, member⟩ : ∃ item, item ∈ plan.instances.filter (·.agentType = .image) :=
      List.exists_mem_of_ne_nil _ (by simpa using some)
    have unfinished := (instances item (List.mem_filter.mp member).1).unfinished
    have marked := List.all_eq_true.mp finished item member
    rw [unfinished] at marked
    cases marked

/-- Without a start, a plan of new items has sound stages too. -/
theorem Plan.refreshed_fresh_sound (stages : ∀ stage ∈ plan.stages, FreshStage stage)
    (instances : ∀ item ∈ plan.instances, FreshInstance item) :
    ∀ stage ∈ (plan.refreshed now false).stages, StageSound stage := by
  intro other member
  obtain ⟨stage, stageMember, rfl⟩ := List.mem_map.mp member
  have fresh := stages stage stageMember
  constructor
  · rw [Stage.refreshed_status, Stage.refreshTarget]
    split
    · simp
    · exact Stage.memberStatus_available (fun item member => (instances item member).sound)
        fresh.sound.available
  · intro advanced
    right
    by_cases ready : stage.isReady plan.stages plan.instances = true
    · exact isReady_of_fresh stages instances ready
    · have idle : stage.refreshTarget plan.stages plan.instances = .pending := by
        simp [Stage.refreshTarget, ready, fresh.status, fresh.lifecycle, StageStatus.isSettled,
          RequirementLifecycle.fresh]
      rw [Stage.refreshed_status, idle] at advanced
      cases advanced

end

/-! ## Plans -/

section

variable {now : Timestamp} {old new : Plan}

theorem PlanMove.instances_sound (move : PlanMove now old new)
    (sound : ∀ item ∈ old.instances, InstanceSound item) :
    ∀ item ∈ new.instances, InstanceSound item := by
  cases move with
  | edited stages instances => exact instances.sound sound
  | cancelled stages instances => exact instances.sound sound
  | reaggregated base prepared legal stages instances =>
      rw [instances]
      exact (activateAll_progress _ _ _).sound (prepared.instances.sound sound)
  | confirmed awaiting stages instances =>
      rw [instances]
      exact (activateAll_progress _ _ _).sound sound
  | extended base wired baseStages baseInstances landed live stages instances =>
      rw [instances]
      refine (activateAll_progress _ _ _).sound ((activateAll_progress _ _ _).sound ?_)
      intro item member
      rcases baseInstances item member with kept | fresh
      · exact sound item kept
      · exact fresh.sound

/-- An instance that was in the plan is still the same one, at most one step further. -/
theorem PlanMove.instances_progressed (move : PlanMove now old new) (valid : PlanValid old)
    {item other : AgentInstance} (itemMember : item ∈ old.instances)
    (otherMember : other ∈ new.instances) (same : other.instanceId = item.instanceId) :
    Progressed item other := by
  have of_progress : ∀ {list : List AgentInstance}, InstancesProgress old.instances list →
      ∀ other ∈ list, other.instanceId = item.instanceId → Progressed item other := by
    intro list progress other member same
    obtain ⟨origin, originMember, moved⟩ := progress other member
    have unique : item = origin := List.inj_on_of_nodup_map valid.instanceIdsDistinct itemMember
      originMember (same.symm.trans moved.instanceId)
    rw [unique]
    exact moved
  have of_activated : ∀ {list : List AgentInstance} {keys : List Identifier},
      (∀ other ∈ list, other.instanceId = item.instanceId → Progressed item other) →
      ∀ other ∈ activateAll now keys list, other.instanceId = item.instanceId →
        Progressed item other := by
    intro list keys progress other member same
    obtain ⟨middle, middleMember, ids, required, status⟩ := mem_activateAll member
    have moved := progress middle middleMember (ids.symm.trans same)
    refine ⟨same, fun needed => moved.required (required ▸ needed), ?_⟩
    rw [status]
    exact moved.status
  cases move with
  | edited stages instances => exact of_progress instances other otherMember same
  | cancelled stages instances => exact of_progress instances other otherMember same
  | reaggregated base prepared legal stages instances =>
      rw [instances] at otherMember
      exact of_activated (of_progress prepared.instances) other otherMember same
  | confirmed awaiting stages instances =>
      rw [instances] at otherMember
      exact of_activated (of_progress (.refl _)) other otherMember same
  | extended base wired baseStages baseInstances landed live stages instances =>
      rw [instances] at otherMember
      refine of_activated (of_activated ?_) other otherMember same
      intro middle member same
      rw [List.inj_on_of_nodup_map wired.instanceIdsDistinct member (landed item itemMember) same]
      exact .refl item

theorem PlanMove.stages_sound (move : PlanMove now old new) (wired : WiredPlan old.stages old.instances)
    (sound : ∀ stage ∈ old.stages, StageSound stage)
    (instancesSound : ∀ item ∈ old.instances, InstanceSound item) :
    ∀ stage ∈ new.stages, StageSound stage := by
  cases move with
  | edited stages instances =>
      rw [stages]
      exact sound
  | cancelled stages instances =>
      rw [stages]
      intro other member
      obtain ⟨stage, stageMember, rfl⟩ := List.mem_map.mp member
      unfold TaskCommandService.cancelStage
      split
      · exact ⟨by simp, by simp [StageStatus.isIdle]⟩
      · exact sound stage stageMember
  | reaggregated base prepared legal stages instances =>
      rw [stages]
      refine Plan.refreshed_stages_sound (prepared.wired wired) (fun other member => ?_)
        (prepared.instances.sound instancesSound)
      obtain ⟨stage, stageMember, same⟩ := prepared.stages other member
      rw [same.status]
      exact (sound stage stageMember).available
  | confirmed awaiting stages instances =>
      rw [stages]
      exact Plan.started_stages_sound (fun stage member => (sound stage member).available)
        (fun stage member _ => sound stage member) instancesSound
  | extended base baseWired baseStages baseInstances landed live stages instances =>
      rw [stages]
      refine Plan.refreshed_started_sound baseWired (fun stage member => ?_) fun item member => ?_
      · rcases baseStages stage member with kept | fresh
        · exact sound stage kept
        · exact fresh.sound
      · rcases baseInstances item member with kept | fresh
        · exact instancesSound item kept
        · exact fresh.sound

theorem FreshPlan.instances_sound (fresh : FreshPlan now new) :
    ∀ item ∈ new.instances, InstanceSound item := by
  obtain ⟨base, -, -, instances, built⟩ := fresh.built
  have sound : ∀ item ∈ (base.refreshed now false).instances, InstanceSound item :=
    (activateAll_progress _ _ _).sound fun item member => (instances item member).sound
  rcases built with ⟨-, same, -⟩ | ⟨-, same, -⟩
  · rw [same]
    exact sound
  · rw [same]
    exact (activateAll_progress _ _ _).sound sound

theorem FreshPlan.stages_sound (fresh : FreshPlan now new) :
    ∀ stage ∈ new.stages, StageSound stage := by
  obtain ⟨base, wired, stages, instances, built⟩ := fresh.built
  rcases built with ⟨same, -⟩ | ⟨same, -⟩
  · rw [same]
    exact Plan.refreshed_fresh_sound stages instances
  · rw [same]
    exact Plan.refreshed_started_sound wired (fun stage member => (stages stage member).sound)
      fun item member => (instances item member).sound

/-- The aggregate status of a task is a terminal or archived status it has already, or one of
    the statuses of a started task. -/
theorem aggregateTask_cases (plan : Plan) :
    (plan.aggregateTask = plan.task.status ∧
      (plan.task.status.isTerminal = true ∨ plan.task.status = .archived)) ∨
    ((plan.task.status.isTerminal = false ∧ plan.task.status ≠ .archived) ∧
      (plan.aggregateTask = .waitingApproval ∨ plan.aggregateTask = .running ∨
        plan.aggregateTask = .failed ∨
        (plan.aggregateTask = .blockedUnavailable ∧
          ∃ stage ∈ plan.stages, stage.status = .unavailable) ∨
        ((plan.aggregateTask = .partiallySucceeded ∨ plan.aggregateTask = .succeeded) ∧
          ∀ stage ∈ plan.stages, stage.required = true → stage.status = .succeeded))) := by
  unfold Plan.aggregateTask aggregateTask
  split
  · rename_i terminal
    exact .inl ⟨rfl, .inl terminal⟩
  · rename_i open_
    split
    · rename_i archived
      exact .inl ⟨rfl, .inr archived⟩
    · rename_i live
      refine .inr ⟨⟨by simpa using open_, live⟩, ?_⟩
      rw [if_neg (by simp)]
      split
      · exact .inl rfl
      · split
        · exact .inr (.inl rfl)
        · split
          · exact .inr (.inr (.inl rfl))
          · split
            · rename_i unavailable
              obtain ⟨stage, member, status⟩ := List.any_eq_true.mp unavailable
              rw [Bool.and_eq_true, decide_eq_true_eq] at status
              exact .inr (.inr (.inr (.inl ⟨rfl, stage, member, status.2⟩)))
            · split
              · exact .inr (.inl rfl)
              · rename_i complete
                have done : ∀ stage ∈ plan.stages, stage.required = true →
                    stage.status = .succeeded := by
                  simpa using complete
                split
                · exact .inr (.inr (.inr (.inr ⟨.inl rfl, done⟩)))
                · exact .inr (.inr (.inr (.inr ⟨.inr rfl, done⟩)))

theorem aggregateTask_sound {plan : Plan} (stages : ∀ stage ∈ plan.stages, StageSound stage) :
    plan.aggregateTask ≠ .draft ∧ plan.aggregateTask ≠ .planned ∧
      plan.aggregateTask ≠ .blockedUnavailable ∧
      plan.aggregateTask ≠ .awaitingStartConfirmation := by
  rcases aggregateTask_cases plan with ⟨same, settled⟩ | ⟨-, same | same | same | ⟨-, stage, member,
    status⟩ | ⟨same | same, -⟩⟩
  · rw [same]
    cases status : plan.task.status <;> simp_all [TaskStatus.isTerminal]
  · simp [same]
  · simp [same]
  · simp [same]
  · exact absurd status (stages stage member).available
  · simp [same]
  · simp [same]

end

/-! ## The store -/

section

variable {state next : TaskState} {envelope : CommandEnvelope} {ambient : Ambient}
  {command : Command} {old new : Plan} {skipUnchanged : Bool}

theorem Decision.freshPlan {payload : PlanPayload} {expected : Option Nat}
    (decision : Decision state envelope ambient (.savePlan .replace payload expected)
      (.aggregate new skipUnchanged)) : FreshPlan ambient.now new := by
  cases decision with
  | edited command other new skip edits found edited => cases edits
  | replaced payload expected task planRevision fresh new stored guarded normalized saved =>
      obtain ⟨valid, base, wired, stages, instances, rfl⟩ := normalizePlan_spec normalized
      refine ⟨base, wired, stages, instances, ?_⟩
      rcases saved with ⟨-, rfl⟩ | ⟨-, started, activated, rfl⟩
      · exact .inl ⟨rfl, rfl, rfl⟩
      · have plannedWired : WiredPlan ((base.refreshed ambient.now false).withStatus .planned).stages
            ((base.refreshed ambient.now false).withStatus .planned).instances := valid.wired
        obtain rfl := activateCurrentStages_eq_ok plannedWired activated
        refine .inr ⟨rfl, rfl, ?_⟩
        rw [Plan.touch_status, Plan.withStatus_status]
        refine (aggregateTask_sound ?_).2.2.2
        exact Plan.refreshed_started_sound wired (fun stage member => (stages stage member).sound)
          fun item member => (instances item member).sound

/-- Only a fresh plan is saved on a task without a plan. -/
theorem Decision.command_of_planless (noPlan : state.plan = none)
    (decision : Decision state envelope ambient command (.aggregate new skipUnchanged)) :
    ∃ payload expected, command = .savePlan .replace payload expected := by
  cases decision with
  | replaced payload expected => exact ⟨payload, expected, rfl⟩
  | edited command other new skip edits found => rw [noPlan] at found; cases found
  | archived other found => rw [noPlan] at found; cases found
  | cancelled other found => rw [noPlan] at found; cases found
  | appended payload expected task planRevision other merged started storedTask found =>
      rw [noPlan] at found; cases found
  | confirmed other started found => rw [noPlan] at found; cases found
  | transitioned instanceId target other new item found => rw [noPlan] at found; cases found
  | rejected instanceId rejection other new item found => rw [noPlan] at found; cases found
  | restored restores target task other refreshed instances storedTask found =>
      rw [noPlan] at found; cases found
  | downgraded instanceId reason other base new item authorization found =>
      rw [noPlan] at found; cases found

/-- The status that a commit gives a planned task, besides the ones it edits or replaces. -/
theorem Decision.status_sound (oldStatus : ∀ plan, state.plan = some plan →
      plan.task.status ≠ .draft ∧ plan.task.status ≠ .planned ∧
        plan.task.status ≠ .blockedUnavailable)
    (stages : ∀ stage ∈ new.stages, StageSound stage)
    (decision : Decision state envelope ambient command (.aggregate new skipUnchanged)) :
    new.task.status ≠ .draft ∧ new.task.status ≠ .planned ∧
      new.task.status ≠ .blockedUnavailable := by
  have aggregated : ∀ plan : Plan, plan.stages = new.stages →
      plan.aggregateTask ≠ .draft ∧ plan.aggregateTask ≠ .planned ∧
        plan.aggregateTask ≠ .blockedUnavailable := by
    intro plan same
    obtain ⟨draft, planned, blocked, -⟩ := aggregateTask_sound (show ∀ stage ∈ plan.stages, StageSound stage from same ▸ stages)
    exact ⟨draft, planned, blocked⟩
  cases decision with
  | edited command other new skip edits found edited =>
      rw [edited.status]
      exact oldStatus other found
  | archived other found legal => simp
  | cancelled other found legal => simp
  | replaced payload expected task planRevision fresh new stored guarded normalized saved =>
      rcases saved with ⟨-, rfl⟩ | ⟨-, started, activated, rfl⟩
      · simp
      · exact aggregated started rfl
  | appended payload expected task planRevision other merged started storedTask found guarded
      normalized activated => exact aggregated started rfl
  | confirmed other started found awaiting activated => exact aggregated started rfl
  | transitioned instanceId target other new item found member same legal moved =>
      obtain ⟨refreshed, -, -, rfl⟩ := Plan.reaggregate_eq_ok.mp moved
      exact aggregated refreshed rfl
  | rejected instanceId rejection other new item found member same legal moved =>
      obtain ⟨refreshed, -, -, rfl⟩ := Plan.reaggregate_eq_ok.mp moved
      exact aggregated refreshed rfl
  | restored restores target task other refreshed instances storedTask found guarded woken moved
      legal => exact aggregated (refreshed.withStatus target) rfl
  | downgraded instanceId reason other base new item authorization found mutable member same
      activated recorded moved =>
      obtain ⟨refreshed, -, -, rfl⟩ := Plan.reaggregate_eq_ok.mp moved
      exact aggregated refreshed rfl

/-- A committed plan satisfies the invariant. -/
theorem Decision.planInvariant (inv : StateInvariant state) (valid : PlanValid new)
    (decision : Decision state envelope ambient command (.aggregate new skipUnchanged)) :
    PlanInvariant new := by
  have freshSound : (∃ payload expected, command = .savePlan .replace payload expected) →
      (∀ stage ∈ new.stages, StageSound stage) ∧ ∀ item ∈ new.instances, InstanceSound item := by
    rintro ⟨payload, expected, rfl⟩
    exact ⟨decision.freshPlan.stages_sound, decision.freshPlan.instances_sound⟩
  have sound : (∀ stage ∈ new.stages, StageSound stage) ∧
      ∀ item ∈ new.instances, InstanceSound item := by
    cases stored : state.plan with
    | none => exact freshSound (decision.command_of_planless stored)
    | some old =>
        have before := inv.plan old stored
        have synced := fun task found => inv.synced task old found stored
        rcases decision.planMove before.valid stored synced with move | replaced
        · exact ⟨move.stages_sound before.valid.wired before.stages before.instances,
            move.instances_sound before.instances⟩
        · exact freshSound replaced
  exact ⟨valid, sound.1, sound.2,
    decision.status_sound (fun plan stored => (inv.plan plan stored).status) sound.1⟩

theorem TaskState.execute_eq_ok {state next : TaskState} :
    state.execute envelope ambient command = .ok next ↔
      ∃ request commit, TaskCommandService.buildRequest envelope command = .ok request ∧
        TaskCommandService.handle state envelope ambient request = .ok commit ∧
        state.apply commit = .ok next := by
  simp only [TaskState.execute, bind_eq_ok]
  constructor
  · rintro ⟨request, built, commit, handled, applied⟩
    exact ⟨request, commit, built, handled, applied⟩
  · rintro ⟨request, commit, built, handled, applied⟩
    exact ⟨request, built, commit, handled, applied⟩

/-- The effect of a commit. -/
theorem TaskState.apply_task_eq_ok {payload : MainTask} {expectedRevision : Nat} :
    state.apply (.task payload expectedRevision) = .ok next ↔
      payload.accepted = true ∧ expectedRevision = state.taskRevision ∧
        next = { state with task := some payload, taskRevision := state.taskRevision + 1 } := by
  simp only [TaskState.apply, bind_eq_ok, validateContract_eq_ok, ensure_eq_ok, pure_eq_ok,
    Except.ok.injEq]
  constructor
  · rintro ⟨-, accepted, -, same, rfl⟩
    exact ⟨accepted, same, rfl⟩
  · rintro ⟨accepted, same, rfl⟩
    exact ⟨(), accepted, (), same, rfl⟩

theorem TaskState.apply_aggregate_eq_ok :
    state.apply (.aggregate new skipUnchanged) = .ok next ↔
      PlanValid new ∧ next = ⟨some new.task, state.taskRevision + 1, some new,
        state.planRevision + 1⟩ := by
  simp only [TaskState.apply, bind_eq_ok, validatePlan_eq_ok, pure_eq_ok, Except.ok.injEq]
  constructor
  · rintro ⟨-, valid, rfl⟩
    exact ⟨valid, rfl⟩
  · rintro ⟨valid, rfl⟩
    exact ⟨(), valid, rfl⟩

/-- A successful command made a decision and committed it. -/
theorem StateInvariant.execute_decision (inv : StateInvariant state)
    (h : state.execute envelope ambient command = .ok next) :
    ∃ request commit, TaskCommandService.buildRequest envelope command = .ok request ∧
      Decision state envelope ambient request commit ∧ state.apply commit = .ok next := by
  obtain ⟨request, commit, built, handled, applied⟩ := TaskState.execute_eq_ok.mp h
  exact ⟨request, commit, built, TaskCommandService.handle_decision inv.synced handled, applied⟩

theorem StateInvariant.execute (inv : StateInvariant state)
    (h : state.execute envelope ambient command = .ok next) : StateInvariant next := by
  obtain ⟨request, commit, -, decision, applied⟩ := inv.execute_decision h
  cases commit with
  | task payload expectedRevision =>
      obtain ⟨-, revision, rfl⟩ := TaskState.apply_task_eq_ok.mp applied
      refine ⟨inv.plan, fun task plan stored planned => ?_,
        fun plan planned => ⟨Nat.succ_pos _, rfl⟩⟩
      obtain rfl := Option.some.inj stored
      cases decision with
      | created request payload draft =>
          have positive := (inv.stored plan planned).1
          omega
      | registered inputManifest before found => exact inv.synced before plan found planned
      | planless command task payload stored noPlan =>
          rw [show state.plan = some plan from planned] at noPlan
          cases noPlan
  | aggregate new skipUnchanged =>
      obtain ⟨valid, rfl⟩ := TaskState.apply_aggregate_eq_ok.mp applied
      refine ⟨fun plan planned => ?_, fun task plan stored planned => ?_,
        fun plan planned => ⟨Nat.succ_pos _, rfl⟩⟩
      · obtain rfl := Option.some.inj planned
        exact decision.planInvariant inv valid
      · obtain rfl := Option.some.inj planned
        obtain rfl := Option.some.inj stored
        rfl

theorem InstanceChanges.apply_progress (changes : InstanceChanges) (item : AgentInstance) :
    SameProgress item (changes.apply item) := ⟨rfl, rfl, rfl, rfl, rfl⟩

theorem PlanValid.modifyInstance {plan : Plan} {instanceId : Identifier}
    {changes : InstanceChanges} (valid : PlanValid plan)
    (accepted : (plan.modifyInstance instanceId changes.apply).accepted = true) :
    PlanValid (plan.modifyInstance instanceId changes.apply) := by
  have mapped := valid.mapped plan.task id
    (fun item => if item.instanceId = instanceId then changes.apply item else item)
    rfl (fun _ _ => ⟨rfl, rfl⟩) (fun item _ => by split <;> exact ⟨rfl, rfl, rfl, rfl⟩)
  rw [List.map_id] at mapped
  exact mapped accepted

/-- `update_instance_fields` changes nothing, or edits the instance in the plan and leaves the
    task equal to the plan's. -/
theorem updateInstanceFields_eq_ok {instanceId : Identifier} {changes : InstanceChanges}
    (h : state.updateInstanceFields instanceId changes = .ok next) :
    ∃ plan, state.plan = some plan ∧ (next = state ∨
      ((plan.modifyInstance instanceId changes.apply).accepted = true ∧
        next.plan = some (plan.modifyInstance instanceId changes.apply) ∧
        next.task = some plan.task ∧ state.taskRevision ≤ next.taskRevision)) := by
  unfold TaskState.updateInstanceFields at h
  obtain ⟨-, -, h⟩ := bind_eq_ok.mp h
  cases planned : state.plan with
  | none => simp [planned] at h
  | some plan =>
      simp only [planned] at h
      obtain ⟨item, -, h⟩ := bind_eq_ok.mp h
      refine ⟨plan, rfl, ?_⟩
      split at h
      · exact .inl (Except.ok.inj h).symm
      · obtain ⟨_, accepted, h⟩ := bind_eq_ok.mp h
        rw [validateContract_eq_ok] at accepted
        split at h
        · rename_i same
          obtain rfl := Except.ok.inj h
          exact .inr ⟨accepted, rfl, same, Nat.le_refl _⟩
        · obtain rfl := Except.ok.inj h
          exact .inr ⟨accepted, rfl, rfl, Nat.le_succ _⟩

theorem EditedPlan.of_changes (plan : Plan) (instanceId : Identifier) (changes : InstanceChanges) :
    EditedPlan plan (plan.modifyInstance instanceId changes.apply) where
  stages := rfl
  instances := by
    refine ⟨_, rfl, fun item => ?_⟩
    split
    · exact changes.apply_progress item
    · exact .refl item
  status := rfl

theorem StateInvariant.updateInstanceFields {instanceId : Identifier} {changes : InstanceChanges}
    (inv : StateInvariant state) (h : state.updateInstanceFields instanceId changes = .ok next) :
    StateInvariant next := by
  obtain ⟨plan, planned, rfl | ⟨accepted, nextPlan, nextTask, revision⟩⟩ :=
    updateInstanceFields_eq_ok h
  · exact inv
  · have before := inv.plan plan planned
    have after : PlanInvariant (plan.modifyInstance instanceId changes.apply) := by
      have move : PlanMove "" plan (plan.modifyInstance instanceId changes.apply) :=
        .of_edited (.of_changes plan instanceId changes)
      exact ⟨before.valid.modifyInstance accepted, before.stages,
        move.instances_sound before.instances, before.status⟩
    refine ⟨fun other found => ?_, fun task other stored found => ?_, fun other found => ?_⟩
    · obtain rfl := Option.some.inj (nextPlan.symm.trans found)
      exact after
    · obtain rfl := Option.some.inj (nextPlan.symm.trans found)
      obtain rfl := Option.some.inj (nextTask.symm.trans stored)
      rfl
    · rw [nextTask]
      exact ⟨Nat.lt_of_lt_of_le (inv.stored plan planned).1 revision, rfl⟩

theorem StateInvariant.perform {call : Call} (inv : StateInvariant state)
    (h : state.perform call = .ok next) : StateInvariant next := by
  cases call with
  | command command envelope ambient => exact inv.execute h
  | updateInstanceFields instanceId changes => exact inv.updateInstanceFields h

theorem StateInvariant.empty : StateInvariant .empty where
  plan := by
    intro plan planned
    cases planned
  synced := by
    intro task plan stored
    cases stored
  stored := by
    intro plan planned
    cases planned

/-- The invariant holds after every run. -/
theorem runOf_invariant (calls : List Call) : StateInvariant (runOf calls) :=
  runFrom_invariant .empty (fun _ _ _ inv => inv.perform) calls

end

end DesignHarness
