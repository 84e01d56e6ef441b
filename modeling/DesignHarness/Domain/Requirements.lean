import DesignHarness.Domain.PlanAppends
import DesignHarness.Library.Pointwise

/-!
# Requirements through a commit

The `required` flag and the `requirement_lifecycle` of a stage or an instance are written when the
item is created, when it is first activated (`_activate_lifecycle`) and when it is downgraded
(`service.py:900-922`).  `Decision.requirements` says, for every command that keeps the plan, what
became of them.
-/

namespace DesignHarness

open Library

/-- What is required of a stage or an instance. -/
structure Requirement where
  id : Identifier
  required : Bool
  lifecycle : RequirementLifecycle
  deriving DecidableEq, Repr

def Stage.requirement (stage : Stage) : Requirement :=
  ⟨stage.stageId, stage.required, stage.requirementLifecycle⟩

def AgentInstance.requirement (item : AgentInstance) : Requirement :=
  ⟨item.instanceId, item.required, item.requirementLifecycle⟩

def Plan.stageRequirements (plan : Plan) : List Requirement := plan.stages.map Stage.requirement

def Plan.instanceRequirements (plan : Plan) : List Requirement :=
  plan.instances.map AgentInstance.requirement

namespace Requirement

/-- What no command changes: how the item was planned and when it was first activated. -/
structure Lasts (before after : Requirement) : Prop where
  id : after.id = before.id
  original : after.lifecycle.originalRequired = before.lifecycle.originalRequired
  activated : ∀ time, before.lifecycle.firstActivatedAt = some time →
    after.lifecycle.firstActivatedAt = some time

/-- The item may have been activated, nothing else happened to it. -/
structure Kept (before after : Requirement) : Prop extends Lasts before after where
  required : after.required = before.required
  authorizedDowngrade :
    after.lifecycle.authorizedDowngrade = before.lifecycle.authorizedDowngrade

/-- The item was downgraded under an authorization. -/
structure Waived (authorization : AuthorizedDowngrade) (before after : Requirement) : Prop
    extends Lasts before after where
  dropped : after.required = false
  authorized : after.lifecycle.authorizedDowngrade = some authorization

/-- The item is as it was planned. -/
structure AsPlanned (requirement : Requirement) : Prop where
  required : requirement.required = requirement.lifecycle.originalRequired
  unauthorized : requirement.lifecycle.authorizedDowngrade = none

/-- The item was downgraded after its activation. -/
structure Downgraded (authorization : AuthorizedDowngrade) (requirement : Requirement) : Prop where
  required : requirement.required = false
  original : requirement.lifecycle.originalRequired = true
  activated : requirement.lifecycle.firstActivatedAt.isSome = true
  authorized : requirement.lifecycle.authorizedDowngrade = some authorization

variable {before middle after : Requirement} {authorization : AuthorizedDowngrade}

theorem Lasts.refl (requirement : Requirement) : Lasts requirement requirement :=
  ⟨rfl, rfl, fun _ activated => activated⟩

theorem Lasts.trans (first : Lasts before middle) (second : Lasts middle after) :
    Lasts before after :=
  ⟨second.id.trans first.id, second.original.trans first.original,
    fun time activated => second.activated time (first.activated time activated)⟩

theorem Lasts.isSome (lasts : Lasts before after)
    (activated : before.lifecycle.firstActivatedAt.isSome = true) :
    after.lifecycle.firstActivatedAt.isSome = true := by
  obtain ⟨time, found⟩ := Option.isSome_iff_exists.mp activated
  rw [lasts.activated time found]
  rfl

theorem Kept.refl (requirement : Requirement) : Kept requirement requirement :=
  ⟨.refl requirement, rfl, rfl⟩

theorem Kept.trans (first : Kept before middle) (second : Kept middle after) : Kept before after :=
  ⟨first.toLasts.trans second.toLasts, second.required.trans first.required,
    second.authorizedDowngrade.trans first.authorizedDowngrade⟩

theorem Waived.trans_kept (first : Waived authorization before middle) (second : Kept middle after) :
    Waived authorization before after :=
  ⟨first.toLasts.trans second.toLasts, second.required.trans first.dropped,
    second.authorizedDowngrade.trans first.authorized⟩

theorem AsPlanned.kept (planned : AsPlanned before) (kept : Kept before after) :
    AsPlanned after :=
  ⟨kept.required.trans (planned.required.trans kept.original.symm),
    kept.authorizedDowngrade.trans planned.unauthorized⟩

theorem Downgraded.kept (downgraded : Downgraded authorization before) (kept : Kept before after) :
    Downgraded authorization after :=
  ⟨kept.required.trans downgraded.required, kept.original.trans downgraded.original,
    kept.toLasts.isSome downgraded.activated,
    kept.authorizedDowngrade.trans downgraded.authorized⟩

end Requirement

open Requirement

/-- Every requirement is kept, in the same place. -/
def RequirementsKept (old new : List Requirement) : Prop := List.Forall₂ Kept old new

namespace RequirementsKept

theorem refl (requirements : List Requirement) : RequirementsKept requirements requirements :=
  List.forall₂_same.mpr fun requirement _ => .refl requirement

theorem trans {old middle new : List Requirement} (first : RequirementsKept old middle)
    (second : RequirementsKept middle new) : RequirementsKept old new := by
  have compose : ∀ before between after, Kept before between → Kept between after →
      Kept before after := fun _ _ _ => Kept.trans
  exact forall₂_trans compose first second

/-- An update of every item of a list. -/
theorem of_map {α : Type} {requirement : α → Requirement} {items : List α} {change : α → α}
    (kept : ∀ item ∈ items, Kept (requirement item) (requirement (change item))) :
    RequirementsKept (items.map requirement) ((items.map change).map requirement) := by
  rw [List.map_map]
  exact forall₂_map kept

end RequirementsKept

/-! ## What keeps a requirement -/

theorem RequirementLifecycle.activate_kept (id : Identifier) (required : Bool) (now : Timestamp)
    (lifecycle : RequirementLifecycle) :
    Kept ⟨id, required, lifecycle⟩ ⟨id, required, lifecycle.activate now⟩ := by
  unfold RequirementLifecycle.activate
  split
  · rename_i never
    refine ⟨⟨rfl, rfl, fun time activated => ?_⟩, rfl, rfl⟩
    exact absurd (activated.symm.trans never) (by simp)
  · exact .refl _

theorem AgentInstance.activate_kept (now : Timestamp) (item : AgentInstance) :
    Kept item.requirement (item.activate now).requirement :=
  RequirementLifecycle.activate_kept ..

theorem Stage.activate_kept (now : Timestamp) (stage : Stage) :
    Kept stage.requirement (stage.activate now).requirement :=
  RequirementLifecycle.activate_kept ..

theorem SameProgress.kept {item other : AgentInstance} (same : SameProgress item other) :
    Kept item.requirement other.requirement := by
  refine ⟨⟨same.instanceId, ?_, fun time activated => ?_⟩, same.required, ?_⟩
  · exact congrArg RequirementLifecycle.originalRequired same.requirementLifecycle
  · exact (congrArg RequirementLifecycle.firstActivatedAt same.requirementLifecycle).trans activated
  · exact congrArg RequirementLifecycle.authorizedDowngrade same.requirementLifecycle

theorem cancelInstance_kept (item : AgentInstance) :
    Kept item.requirement (TaskCommandService.cancelInstance item).requirement := by
  unfold TaskCommandService.cancelInstance
  split <;> exact .refl _

theorem cancelStage_kept (stage : Stage) :
    Kept stage.requirement (TaskCommandService.cancelStage stage).requirement := by
  unfold TaskCommandService.cancelStage
  split <;> exact .refl _

theorem recordTransition_kept (now : Timestamp) (target : InstanceStatus) (item : AgentInstance) :
    Kept item.requirement
      (TaskCommandService.recordTransition now target item).requirement := by
  unfold TaskCommandService.recordTransition AgentInstance.clearManualStatus
  dsimp only
  split <;> split <;> split <;> first | exact RequirementLifecycle.activate_kept .. | exact .refl _

theorem activateAll_kept (now : Timestamp) (keys : List Identifier)
    (instances : List AgentInstance) :
    RequirementsKept (instances.map AgentInstance.requirement)
      ((activateAll now keys instances).map AgentInstance.requirement) := by
  refine .of_map fun item _ => ?_
  split
  · exact item.activate_kept now
  · exact .refl _

theorem restoreInstance_kept {now : Timestamp} {instances next : List AgentInstance}
    {restore : InstanceRestore}
    (h : TaskCommandService.restoreInstance now instances restore = .ok next) :
    RequirementsKept (instances.map AgentInstance.requirement)
      (next.map AgentInstance.requirement) := by
  unfold TaskCommandService.restoreInstance at h
  cases found : dictGet AgentInstance.instanceId instances restore.instanceId with
  | none => simp [found] at h
  | some item =>
      simp only [found] at h
      split at h
      · obtain rfl := Except.ok.inj h
        exact .refl _
      · obtain ⟨-, -, h⟩ := bind_eq_ok.mp h
        obtain rfl := Except.ok.inj h
        refine .of_map fun other _ => ?_
        unfold TaskCommandService.restoredInstance
        dsimp only
        split
        · split
          · exact RequirementLifecycle.activate_kept ..
          · exact .refl _
        · exact .refl _

theorem restoreInstances_kept {now : Timestamp} {restores : List InstanceRestore}
    {instances next : List AgentInstance}
    (h : restores.foldlM (TaskCommandService.restoreInstance now) instances = .ok next) :
    RequirementsKept (instances.map AgentInstance.requirement)
      (next.map AgentInstance.requirement) := by
  induction restores generalizing instances with
  | nil =>
      obtain rfl := Except.ok.inj h
      exact .refl _
  | cons restore restores ih =>
      obtain ⟨middle, first, h⟩ := bind_eq_ok.mp h
      exact (restoreInstance_kept first).trans (ih h)

section

variable {plan next : Plan} {now : Timestamp}

theorem Stage.refreshed_kept (activateNew : Bool) (stages : List Stage)
    (instances : List AgentInstance) (stage : Stage) :
    Kept stage.requirement (stage.refreshed now activateNew stages instances).requirement := by
  unfold Stage.refreshed
  split
  · exact stage.activate_kept now
  · exact .refl _

theorem Stage.started_kept (stages : List Stage) (instances : List AgentInstance) (stage : Stage) :
    Kept stage.requirement (stage.started now stages instances).requirement := by
  unfold Stage.started
  split
  · exact stage.activate_kept now
  · exact .refl _

/-- Both lists of requirements are kept. -/
structure PlanKept (old new : Plan) : Prop where
  stages : RequirementsKept old.stageRequirements new.stageRequirements
  instances : RequirementsKept old.instanceRequirements new.instanceRequirements

theorem PlanKept.trans {middle : Plan} (first : PlanKept plan middle)
    (second : PlanKept middle next) : PlanKept plan next :=
  ⟨first.stages.trans second.stages, first.instances.trans second.instances⟩

theorem Plan.refreshed_kept (plan : Plan) (now : Timestamp) (activateNew : Bool) :
    PlanKept plan (plan.refreshed now activateNew) :=
  ⟨.of_map fun stage _ => stage.refreshed_kept activateNew plan.stages plan.instances,
    activateAll_kept now _ plan.instances⟩

theorem Plan.started_kept (plan : Plan) (now : Timestamp) : PlanKept plan (plan.started now) :=
  ⟨.of_map fun stage _ => stage.started_kept plan.stages plan.instances,
    activateAll_kept now _ plan.instances⟩

theorem Plan.modifyInstance_kept {instanceId : Identifier} {change : AgentInstance → AgentInstance}
    (kept : ∀ item, Kept item.requirement (change item).requirement) :
    PlanKept plan (plan.modifyInstance instanceId change) := by
  refine ⟨.refl _, .of_map fun item _ => ?_⟩
  split
  · exact kept item
  · exact .refl _

end

/-! ## The decisions -/

/-- A downgrade: the instance is waived under the authorization, the other ones are kept, and so
    are the stages, unless one has lost its last required instance. -/
structure PlanWaived (authorization : AuthorizedDowngrade) (instanceId : Identifier)
    (old new : Plan) : Prop where
  stages : List.Forall₂
    (fun before after => Kept before after ∨ Waived authorization before after)
    old.stageRequirements new.stageRequirements
  instances : List.Forall₂
    (fun before after => (before.id ≠ instanceId ∧ Kept before after) ∨
      (before.id = instanceId ∧ Waived authorization before after))
    old.instanceRequirements new.instanceRequirements

theorem PlanWaived.trans_kept {authorization : AuthorizedDowngrade} {instanceId : Identifier}
    {old middle new : Plan} (first : PlanWaived authorization instanceId old middle)
    (second : PlanKept middle new) : PlanWaived authorization instanceId old new := by
  refine ⟨forall₂_trans ?_ first.stages second.stages,
    forall₂_trans ?_ first.instances second.instances⟩
  · rintro before between after (kept | waived) later
    · exact .inl (kept.trans later)
    · exact .inr (waived.trans_kept later)
  · rintro before between after (⟨other, kept⟩ | ⟨same, waived⟩) later
    · exact .inl ⟨other, kept.trans later⟩
    · exact .inr ⟨same, waived.trans_kept later⟩

theorem downgradedInstance_waived (authorization : AuthorizedDowngrade) (item : AgentInstance) :
    Waived authorization item.requirement
      (TaskCommandService.downgradedInstance authorization item).requirement :=
  ⟨⟨rfl, rfl, fun _ activated => activated⟩, rfl, rfl⟩

theorem downgradedStage_waived (activatedAt : Timestamp) (authorization : AuthorizedDowngrade)
    (stage : Stage) : Waived authorization stage.requirement
      (TaskCommandService.downgradedStage activatedAt authorization stage).requirement := by
  have kept := stage.activate_kept activatedAt
  exact ⟨⟨rfl, kept.original, kept.activated⟩, rfl, rfl⟩

theorem recordDowngrade_waived {old base : Plan} {item : AgentInstance} {activatedAt : Timestamp}
    {authorization : AuthorizedDowngrade}
    (h : TaskCommandService.recordDowngrade old item activatedAt authorization = .ok base) :
    PlanWaived authorization item.instanceId old base := by
  unfold TaskCommandService.recordDowngrade at h
  dsimp only at h
  split at h
  · cases h
  · obtain rfl := Except.ok.inj h
    constructor
    · unfold Plan.stageRequirements
      dsimp only
      split
      · rw [List.map_map]
        refine forall₂_map fun stage _ => ?_
        dsimp only [Function.comp_apply]
        split
        · exact .inr (downgradedStage_waived ..)
        · exact .inl (.refl _)
      · exact List.forall₂_same.mpr fun _ _ => .inl (.refl _)
    · unfold Plan.instanceRequirements Plan.modifyInstance
      dsimp only
      rw [List.map_map]
      refine forall₂_map fun other _ => ?_
      dsimp only [Function.comp_apply]
      split
      · rename_i same
        exact .inr ⟨same, downgradedInstance_waived authorization other⟩
      · rename_i different
        exact .inl ⟨different, .refl _⟩

/-- The old requirements are kept, and new ones follow as they were planned. -/
def RequirementsExtended (old new : List Requirement) : Prop :=
  ∃ more, (∀ requirement ∈ more, AsPlanned requirement) ∧ RequirementsKept (old ++ more) new

structure PlanExtended (old new : Plan) : Prop where
  stages : RequirementsExtended old.stageRequirements new.stageRequirements
  instances : RequirementsExtended old.instanceRequirements new.instanceRequirements

theorem PlanKept.extended {old new : Plan} (kept : PlanKept old new) : PlanExtended old new where
  stages := ⟨[], by simp, by simpa using kept.stages⟩
  instances := ⟨[], by simp, by simpa using kept.instances⟩

section

variable {old : Plan} {task : MainTask} {planRevision : Nat} {payload : PlanPayload}
  {now : Timestamp}

theorem appended_extended {merged started : Plan} (landed : PlanValid old)
    (normalized : normalizeAppend task old planRevision payload now = .ok merged)
    (activated : activateCurrentStages merged now = .ok started) : PlanExtended old started := by
  obtain ⟨-, contiguous, refreshed, valid⟩ := normalizeAppend_eq_ok.mp normalized
  obtain ⟨-, -, same⟩ := refreshStages_of_wired refreshed valid.wired
  obtain rfl := activateCurrentStages_eq_ok valid.wired activated
  rw [Plan.withPayload_sorted landed contiguous] at same
  have kept : PlanKept (old.withPayload task planRevision payload now) (merged.started now) := by
    rw [same]
    exact (Plan.refreshed_kept _ now false).trans (Plan.started_kept _ now)
  constructor
  · refine ⟨(payload.appendedStages task.taskId old.stages.length).map Stage.requirement, ?_, ?_⟩
    · intro requirement member
      obtain ⟨stage, stageMember, rfl⟩ := List.mem_map.mp member
      obtain ⟨raw, -, rfl⟩ := List.mem_map.mp stageMember
      exact ⟨rfl, rfl⟩
    · have stages := kept.stages
      unfold Plan.stageRequirements Plan.withPayload at stages
      rwa [List.map_append] at stages
  · refine ⟨(payload.instances.map (InstancePayload.normalize task.taskId now)).map
      AgentInstance.requirement, ?_, ?_⟩
    · intro requirement member
      obtain ⟨item, itemMember, rfl⟩ := List.mem_map.mp member
      obtain ⟨raw, -, rfl⟩ := List.mem_map.mp itemMember
      exact ⟨rfl, rfl⟩
    · have instances := kept.instances
      unfold Plan.instanceRequirements Plan.withPayload at instances
      rwa [List.map_append] at instances

/-- A new plan is made of new items. -/
theorem normalizePlan_planned {fresh : Plan}
    (normalized : normalizePlan task planRevision payload now = .ok fresh) :
    (∀ requirement ∈ fresh.stageRequirements, AsPlanned requirement) ∧
      ∀ requirement ∈ fresh.instanceRequirements, AsPlanned requirement := by
  obtain ⟨-, base, -, stages, instances, rfl⟩ := normalizePlan_spec normalized
  have kept : PlanKept base (base.refreshed now false) := Plan.refreshed_kept base now false
  constructor
  · intro after member
    obtain ⟨before, beforeMember, related⟩ := exists_left_of_forall₂ kept.stages member
    obtain ⟨stage, stageMember, rfl⟩ := List.mem_map.mp beforeMember
    have lifecycle := (stages stage stageMember).lifecycle
    have planned : AsPlanned stage.requirement := by
      constructor
      · exact (congrArg RequirementLifecycle.originalRequired lifecycle).symm
      · exact congrArg RequirementLifecycle.authorizedDowngrade lifecycle
    exact planned.kept related
  · intro after member
    obtain ⟨before, beforeMember, related⟩ := exists_left_of_forall₂ kept.instances member
    obtain ⟨item, itemMember, rfl⟩ := List.mem_map.mp beforeMember
    have lifecycle := (instances item itemMember).lifecycle
    have planned : AsPlanned item.requirement := by
      constructor
      · exact (congrArg RequirementLifecycle.originalRequired lifecycle).symm
      · exact congrArg RequirementLifecycle.authorizedDowngrade lifecycle
    exact planned.kept related

end

section

variable {state : TaskState} {envelope : CommandEnvelope} {ambient : Ambient} {old new : Plan}
  {command : Command} {skipUnchanged : Bool}

theorem PlanKept.of_reaggregate {base : Plan} {now : Timestamp} (kept : PlanKept old base)
    (wired : WiredPlan base.stages base.instances) (moved : base.reaggregate now = .ok new) :
    PlanKept old new := by
  obtain ⟨refreshed, ran, -, rfl⟩ := Plan.reaggregate_eq_ok.mp moved
  obtain ⟨-, rfl⟩ := refreshStages_eq_ok wired ran
  have whole := kept.trans (Plan.refreshed_kept base now true)
  exact ⟨whole.stages, whole.instances⟩

/-- Every decision about a stored plan, but to replace it or to downgrade an instance, keeps what
    was required and may add new items. -/
theorem Decision.planExtended (valid : PlanValid old) (stored : state.plan = some old)
    (kept : ∀ payload expected, command ≠ .savePlan .replace payload expected)
    (required : ∀ instanceId reason, command ≠ .downgradeInstance instanceId reason)
    (decision : Decision state envelope ambient command (.aggregate new skipUnchanged)) :
    PlanExtended old new := by
  have unique : ∀ {other : Plan}, state.plan = some other → other = old := fun found =>
    Option.some.inj (found.symm.trans stored)
  have distinct := valid.instanceIdsDistinct
  cases decision with
  | edited command other new skip edits found edited =>
      obtain rfl := unique found
      obtain ⟨edit, instances, same⟩ := edited.instances
      refine PlanKept.extended ⟨?_, ?_⟩
      · rw [Plan.stageRequirements, Plan.stageRequirements, edited.stages]
        exact .refl _
      · rw [Plan.instanceRequirements, Plan.instanceRequirements, instances]
        exact .of_map fun item _ => (same item).kept
  | archived other found legal =>
      obtain rfl := unique found
      exact PlanKept.extended ⟨.refl _, .refl _⟩
  | cancelled other found legal =>
      obtain rfl := unique found
      exact PlanKept.extended ⟨.of_map fun stage _ => cancelStage_kept stage,
        .of_map fun item _ => cancelInstance_kept item⟩
  | replaced payload expected => exact absurd rfl (kept payload expected)
  | appended payload expected task planRevision other merged started storedTask found guarded
      normalized activated =>
      obtain rfl := unique found
      have extended := appended_extended valid normalized activated
      exact ⟨extended.stages, extended.instances⟩
  | confirmed other started found awaiting activated =>
      obtain rfl := unique found
      obtain rfl := activateCurrentStages_eq_ok valid.wired activated
      have started := Plan.started_kept other ambient.now
      exact PlanKept.extended ⟨started.stages, started.instances⟩
  | transitioned instanceId target other new item found member same legal moved =>
      obtain rfl := unique found
      subst same
      have prepared : PlanBase other (other.modifyInstance item.instanceId
          (TaskCommandService.recordTransition ambient.now target)) :=
        .of_modifyInstance distinct member (recordTransition_instanceId _ _)
          (recordTransition_progressed legal _)
      have modified : PlanKept other (other.modifyInstance item.instanceId
          (TaskCommandService.recordTransition ambient.now target)) :=
        Plan.modifyInstance_kept fun item => recordTransition_kept ambient.now target item
      exact (modified.of_reaggregate (prepared.wired valid.wired) moved).extended
  | rejected instanceId rejection other new item found member same legal moved =>
      obtain rfl := unique found
      subst same
      have prepared : PlanBase other (other.modifyInstance item.instanceId
          (TaskCommandService.recordRejection ambient.now rejection)) :=
        .of_modifyInstance distinct member (fun _ => rfl) (recordRejection_progressed legal _)
      have modified : PlanKept other (other.modifyInstance item.instanceId
          (TaskCommandService.recordRejection ambient.now rejection)) :=
        Plan.modifyInstance_kept fun _ => .refl _
      exact (modified.of_reaggregate (prepared.wired valid.wired) moved).extended
  | restored restores target task other refreshed instances storedTask found guarded woken moved
      legal =>
      obtain rfl := unique found
      obtain ⟨ids, progress⟩ := restoreInstances_progress distinct woken
      have prepared : PlanBase other { other with instances := instances } :=
        ⟨rfl, ids, fun stage member => ⟨stage, member, .refl stage⟩, progress⟩
      obtain ⟨-, rfl⟩ := refreshStages_eq_ok (prepared.wired valid.wired) moved
      have woke : PlanKept other { other with instances := instances } :=
        ⟨.refl _, restoreInstances_kept woken⟩
      have whole := woke.trans (Plan.refreshed_kept _ ambient.now true)
      exact PlanKept.extended ⟨whole.stages, whole.instances⟩
  | downgraded instanceId reason => exact absurd rfl (required instanceId reason)

/-- The authorization that a downgrade writes. -/
def downgradeAuthorization (envelope : CommandEnvelope) (ambient : Ambient) (reason : String)
    (plan : Plan) : AuthorizedDowngrade where
  authorizationId := "auth_" ++ ambient.uuid
  authorizedAt := ambient.now
  authorizedByType := envelope.actorType
  authorizedById := envelope.actorId
  planRevision := max 2 (plan.task.planRevision + 1)
  reason := reason

/-- A downgrade that succeeds waives a required, originally required, activated instance. -/
theorem downgradeInstance_waived {instanceId : Identifier} {reason : String} {commit : Commit}
    (valid : PlanValid old) (stored : state.plan = some old)
    (h : TaskCommandService.downgradeInstance state envelope ambient instanceId reason =
      .ok commit) :
    ∃ item ∈ old.instances, ∃ new, commit = .aggregate new false ∧
      item.instanceId = instanceId ∧ item.required = true ∧
      item.requirementLifecycle.originalRequired = true ∧
      item.requirementLifecycle.firstActivatedAt.isSome = true ∧
      PlanWaived (downgradeAuthorization envelope ambient reason old) instanceId old new := by
  simp only [TaskCommandService.downgradeInstance, bind_eq_ok, TaskState.requirePlan_eq_ok,
    ensure_eq_ok, pure_eq_ok, Except.ok.injEq] at h
  obtain ⟨-, -, plan, planned, -, -, -, -, item, found, -, ⟨required, original, activated⟩, base,
    recorded, new, moved, rfl⟩ := h
  obtain rfl := Option.some.inj (stored.symm.trans planned)
  obtain ⟨member, rfl⟩ := Plan.requireInstance_mem found
  have prepared := recordDowngrade_base valid.instanceIdsDistinct member recorded
  have waived := recordDowngrade_waived recorded
  obtain ⟨refreshed, ran, -, rfl⟩ := Plan.reaggregate_eq_ok.mp moved
  obtain ⟨-, rfl⟩ := refreshStages_eq_ok (prepared.wired valid.wired) ran
  have whole := waived.trans_kept (Plan.refreshed_kept base ambient.now true)
  exact ⟨item, member, _, rfl, rfl, required, original, activated, whole.stages, whole.instances⟩

end

end DesignHarness
