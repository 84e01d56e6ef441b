import DesignHarness.Domain.Decisions

/-!
# How a commit changes a plan

Behind the decisions there are few ways in which a commit can change the stages and instances of
a plan: an edit, a cancellation, a re-aggregation of a prepared plan, a start, an extension that
is aggregated and then started (`PlanMove`, `Decision.planMove`), and a fresh plan (`FreshPlan`,
`Decision.freshPlan`).
-/

namespace DesignHarness

open Library

/-- A record of the same instance later on: the requirement is only ever dropped and the status
    is kept or moved along the catalog. -/
structure Progressed (item other : AgentInstance) : Prop where
  instanceId : other.instanceId = item.instanceId
  required : other.required = true → item.required = true
  status : other.status = item.status ∨ other.status ∈ item.status.transitions

theorem Progressed.refl (item : AgentInstance) : Progressed item item := ⟨rfl, id, .inl rfl⟩

theorem SameProgress.progressed {item other : AgentInstance} (same : SameProgress item other) :
    Progressed item other :=
  ⟨same.instanceId, fun required => same.required ▸ required, .inl same.status⟩

/-- Every new instance is an old one later on. -/
def InstancesProgress (old new : List AgentInstance) : Prop :=
  ∀ other ∈ new, ∃ item ∈ old, Progressed item other

theorem InstancesProgress.refl (instances : List AgentInstance) :
    InstancesProgress instances instances :=
  fun item member => ⟨item, member, .refl item⟩

theorem InstancesProgress.of_map {instances : List AgentInstance}
    {move : AgentInstance → AgentInstance}
    (progress : ∀ item ∈ instances, Progressed item (move item)) :
    InstancesProgress instances (instances.map move) := by
  intro other member
  obtain ⟨item, itemMember, rfl⟩ := List.mem_map.mp member
  exact ⟨item, itemMember, progress item itemMember⟩

/-- A stage made ready for a re-aggregation: it may have lost its requirement. -/
structure Prepared (stage other : Stage) : Prop where
  link : other.link = stage.link
  status : other.status = stage.status
  required : other.required = true → stage.required = true
  activated : stage.requirementLifecycle.firstActivatedAt.isSome = true →
    other.requirementLifecycle.firstActivatedAt.isSome = true

theorem Prepared.refl (stage : Stage) : Prepared stage stage := ⟨rfl, rfl, id, id⟩

/-- The plan that a handler re-aggregates. -/
structure PlanBase (old base : Plan) : Prop where
  links : base.stages.map Stage.link = old.stages.map Stage.link
  ids : base.instances.map AgentInstance.instanceId = old.instances.map AgentInstance.instanceId
  stages : ∀ other ∈ base.stages, ∃ stage ∈ old.stages, Prepared stage other
  instances : InstancesProgress old.instances base.instances

theorem PlanBase.wired {old base : Plan} (prepared : PlanBase old base)
    (wired : WiredPlan old.stages old.instances) : WiredPlan base.stages base.instances := by
  rw [WiredPlan, prepared.links, prepared.ids]
  exact wired

/-- An item as `save_plan` creates it. -/
structure FreshStage (stage : Stage) : Prop where
  status : stage.status = .pending
  lifecycle : stage.requirementLifecycle = .fresh stage.required

structure FreshInstance (item : AgentInstance) : Prop where
  status : item.status = .ready
  lifecycle : item.requirementLifecycle = .fresh item.required
  unfinished : item.manualFinished = false

/-- How the stages and instances of a plan change, other than by a new plan. -/
inductive PlanMove (now : Timestamp) (old new : Plan) : Prop where
  | edited (stages : new.stages = old.stages)
      (instances : InstancesProgress old.instances new.instances)
  | cancelled (stages : new.stages = old.stages.map TaskCommandService.cancelStage)
      (instances : InstancesProgress old.instances new.instances)
  | reaggregated (base : Plan) (prepared : PlanBase old base)
      (legal : checkEach (Stage.checkRefresh base.stages base.instances) base.stages = .ok ())
      (stages : new.stages = (base.refreshed now true).stages)
      (instances : new.instances = (base.refreshed now true).instances)
  | confirmed (awaiting : old.task.status = .awaitingStartConfirmation)
      (stages : new.stages = (old.started now).stages)
      (instances : new.instances = (old.started now).instances)
  | extended (base : Plan) (wired : WiredPlan base.stages base.instances)
      (baseStages : ∀ stage ∈ base.stages, stage ∈ old.stages ∨ FreshStage stage)
      (baseInstances : ∀ item ∈ base.instances, item ∈ old.instances ∨ FreshInstance item)
      (landed : ∀ item ∈ old.instances, item ∈ base.instances)
      (live : old.task.status = .running ∨ old.task.status = .waitingApproval)
      (stages : new.stages = ((base.refreshed now false).started now).stages)
      (instances : new.instances = ((base.refreshed now false).started now).instances)

/-- A plan made of new items only, aggregated, and possibly started. -/
structure FreshPlan (now : Timestamp) (new : Plan) : Prop where
  built : ∃ base : Plan, WiredPlan base.stages base.instances ∧
    (∀ stage ∈ base.stages, FreshStage stage) ∧ (∀ item ∈ base.instances, FreshInstance item) ∧
    ((new.stages = (base.refreshed now false).stages ∧
        new.instances = (base.refreshed now false).instances ∧
        new.task.status = .awaitingStartConfirmation) ∨
      (new.stages = ((base.refreshed now false).started now).stages ∧
        new.instances = ((base.refreshed now false).started now).instances ∧
        new.task.status ≠ .awaitingStartConfirmation))

theorem Plan.refreshed_wired {plan : Plan} (wired : WiredPlan plan.stages plan.instances)
    (now : Timestamp) (activateNew : Bool) :
    WiredPlan (plan.refreshed now activateNew).stages
      (plan.refreshed now activateNew).instances := by
  have links : (plan.refreshed now activateNew).stages.map Stage.link =
      plan.stages.map Stage.link := by
    simp [Plan.refreshed, Function.comp_def]
  rw [WiredPlan, links, Plan.refreshed, activateAll_instanceIds]
  exact wired

/-- What a successful re-aggregation is. -/
theorem refreshStages_eq_ok {plan next : Plan} {now : Timestamp} {activateNew : Bool}
    (wired : WiredPlan plan.stages plan.instances)
    (h : refreshStages plan now activateNew = .ok next) :
    checkEach (Stage.checkRefresh plan.stages plan.instances) plan.stages = .ok () ∧
      next = plan.refreshed now activateNew := by
  rw [refreshStages_eq wired] at h
  obtain ⟨⟨⟩, legal, h⟩ := bind_eq_ok.mp h
  exact ⟨legal, (Except.ok.inj h).symm⟩

theorem activateCurrentStages_eq_ok {plan next : Plan} {now : Timestamp}
    (wired : WiredPlan plan.stages plan.instances)
    (h : activateCurrentStages plan now = .ok next) : next = plan.started now := by
  rw [activateCurrentStages_eq wired] at h
  obtain ⟨-, -, h⟩ := bind_eq_ok.mp h
  exact (Except.ok.inj h).symm

theorem mem_sortedByPosition {stages : List Stage} {stage : Stage} :
    stage ∈ sortedByPosition stages ↔ stage ∈ stages :=
  (List.perm_insertionSort _ stages).mem_iff

/-- The loops never touch the task. -/
theorem refreshStages_task {plan next : Plan} {now : Timestamp} {activateNew : Bool}
    (h : refreshStages plan now activateNew = .ok next) : next.task = plan.task := by
  obtain ⟨⟨_, _⟩, _, rest⟩ := bind_eq_ok.mp h
  obtain rfl := Except.ok.inj rest
  rfl

theorem activateCurrentStages_task {plan next : Plan} {now : Timestamp}
    (h : activateCurrentStages plan now = .ok next) : next.task = plan.task := by
  obtain ⟨⟨_, _⟩, _, rest⟩ := bind_eq_ok.mp h
  obtain rfl := Except.ok.inj rest
  rfl

/-- A normalized plan is the re-aggregation of a wired plan of its items. -/
theorem validated_refresh {plan next : Plan} {now : Timestamp}
    (refreshed : refreshStages plan now false = .ok next) (valid : PlanValid next) :
    ∃ base : Plan, WiredPlan base.stages base.instances ∧
      (∀ stage, stage ∈ base.stages ↔ stage ∈ plan.stages) ∧
      base.instances = plan.instances ∧ next = base.refreshed now false := by
  obtain ⟨wired, -, same⟩ := refreshStages_of_wired refreshed valid.wired
  exact ⟨{ plan with stages := sortedByPosition plan.stages }, wired,
    fun _ => mem_sortedByPosition, rfl, same⟩

/-! ## Preparing a plan -/

/-- The ids are distinct, so the instance an update finds is the one it writes. -/
theorem PlanBase.of_modifyInstance {plan : Plan} {item : AgentInstance}
    {change : AgentInstance → AgentInstance}
    (distinct : (plan.instances.map AgentInstance.instanceId).Nodup)
    (member : item ∈ plan.instances) (keepsId : ∀ item, (change item).instanceId = item.instanceId)
    (progress : Progressed item (change item)) :
    PlanBase plan (plan.modifyInstance item.instanceId change) where
  links := rfl
  ids := by
    rw [Plan.modifyInstance, List.map_map]
    refine List.map_congr_left fun other _ => ?_
    simp only [Function.comp_apply]
    split
    · exact keepsId other
    · rfl
  stages := fun stage stageMember => ⟨stage, stageMember, .refl stage⟩
  instances := by
    refine .of_map fun other otherMember => ?_
    split
    · rename_i same
      rw [List.inj_on_of_nodup_map distinct otherMember member same]
      exact progress
    · exact .refl other

theorem recordTransition_progressed {item : AgentInstance} {target : InstanceStatus}
    (legal : target ∈ item.status.transitions) (now : Timestamp) :
    Progressed item (TaskCommandService.recordTransition now target item) := by
  refine ⟨?_, ?_, .inr ?_⟩
  all_goals
    unfold TaskCommandService.recordTransition AgentInstance.clearManualStatus
      AgentInstance.activate
    dsimp only
    split <;> split <;> split <;> first | rfl | exact id | exact legal

theorem recordTransition_instanceId (now : Timestamp) (target : InstanceStatus)
    (item : AgentInstance) :
    (TaskCommandService.recordTransition now target item).instanceId = item.instanceId := by
  unfold TaskCommandService.recordTransition AgentInstance.clearManualStatus AgentInstance.activate
  dsimp only
  split <;> split <;> split <;> rfl

theorem recordRejection_progressed {item : AgentInstance} {rejection : RejectionRequest}
    (legal : .failed ∈ item.status.transitions) (now : Timestamp) :
    Progressed item (TaskCommandService.recordRejection now rejection item) :=
  ⟨rfl, id, .inr legal⟩

/-- A restore keeps the identity of every instance and moves only parked ones. -/
theorem restoreInstance_progress {now : Timestamp} {instances next : List AgentInstance}
    {restore : InstanceRestore}
    (distinct : (instances.map AgentInstance.instanceId).Nodup)
    (h : TaskCommandService.restoreInstance now instances restore = .ok next) :
    next.map AgentInstance.instanceId = instances.map AgentInstance.instanceId ∧
      ∀ other ∈ next, ∃ item ∈ instances, other.instanceId = item.instanceId ∧
        other.required = item.required ∧ (other.status = item.status ∨
          (item.status = .stopped ∧ other.status ∈ InstanceStatus.stopped.transitions)) := by
  unfold TaskCommandService.restoreInstance at h
  cases found : dictGet AgentInstance.instanceId instances restore.instanceId with
  | none => simp [found] at h
  | some item =>
      simp only [found] at h
      by_cases parked : item.status = .stopped
      · simp only [parked, ne_eq, not_true, if_false, bind_eq_ok, transitionInstanceStatus_eq_ok,
          pure_eq_ok, Except.ok.injEq] at h
        obtain ⟨-, legal, rfl⟩ := h
        obtain ⟨itemMember, itemId⟩ := mem_of_dictGet found
        constructor
        · rw [List.map_map]
          refine List.map_congr_left fun other _ => ?_
          simp only [Function.comp_apply, TaskCommandService.restoredInstance]
          split
          · split <;> rfl
          · rfl
        · intro other otherMember
          obtain ⟨before, beforeMember, rfl⟩ := List.mem_map.mp otherMember
          refine ⟨before, beforeMember, ?_⟩
          split
          · rename_i same
            have unique : before = item := List.inj_on_of_nodup_map distinct beforeMember itemMember
              (same.trans itemId.symm)
            subst unique
            unfold TaskCommandService.restoredInstance AgentInstance.activate
            dsimp only
            split <;> exact ⟨rfl, rfl, .inr ⟨parked, legal⟩⟩
          · exact ⟨rfl, rfl, .inl rfl⟩
      · simp only [parked, ne_eq, not_false_eq_true, if_true, pure_eq_ok, Except.ok.injEq] at h
        subst h
        exact ⟨rfl, fun other member => ⟨other, member, rfl, rfl, .inl rfl⟩⟩

theorem restoreInstances_progress {now : Timestamp} {restores : List InstanceRestore}
    {instances next : List AgentInstance}
    (distinct : (instances.map AgentInstance.instanceId).Nodup)
    (h : restores.foldlM (TaskCommandService.restoreInstance now) instances = .ok next) :
    next.map AgentInstance.instanceId = instances.map AgentInstance.instanceId ∧
      InstancesProgress instances next := by
  suffices moved : next.map AgentInstance.instanceId = instances.map AgentInstance.instanceId ∧
      ∀ other ∈ next, ∃ item ∈ instances, other.instanceId = item.instanceId ∧
        other.required = item.required ∧ (other.status = item.status ∨
          (item.status = .stopped ∧ other.status ∈ InstanceStatus.stopped.transitions)) by
    refine ⟨moved.1, fun other member => ?_⟩
    obtain ⟨item, itemMember, sameId, sameRequired, status⟩ := moved.2 other member
    refine ⟨item, itemMember, sameId, fun required => sameRequired ▸ required, ?_⟩
    rcases status with same | ⟨parked, legal⟩
    · exact .inl same
    · exact .inr (parked ▸ legal)
  induction restores generalizing instances with
  | nil =>
      obtain rfl := Except.ok.inj h
      exact ⟨rfl, fun other member => ⟨other, member, rfl, rfl, .inl rfl⟩⟩
  | cons restore restores ih =>
      obtain ⟨middle, first, h⟩ := bind_eq_ok.mp h
      obtain ⟨firstIds, firstMoves⟩ := restoreInstance_progress distinct first
      obtain ⟨ids, moves⟩ := ih (firstIds ▸ distinct) h
      refine ⟨ids.trans firstIds, fun other member => ?_⟩
      obtain ⟨between, betweenMember, id₂, required₂, status₂⟩ := moves other member
      obtain ⟨item, itemMember, id₁, required₁, status₁⟩ := firstMoves between betweenMember
      refine ⟨item, itemMember, id₂.trans id₁, required₂.trans required₁, ?_⟩
      -- A woken instance is no longer parked, so a later entry leaves it alone.
      rcases status₁ with same | ⟨parked, legal⟩
      · rw [← same]
        exact status₂
      · rcases status₂ with same | ⟨stillParked, -⟩
        · exact .inr ⟨parked, same ▸ legal⟩
        · rw [stillParked] at legal
          exact absurd legal (by decide)

theorem recordDowngrade_base {old base : Plan} {item : AgentInstance} {activatedAt : Timestamp}
    {authorization : AuthorizedDowngrade}
    (distinct : (old.instances.map AgentInstance.instanceId).Nodup) (member : item ∈ old.instances)
    (h : TaskCommandService.recordDowngrade old item activatedAt authorization = .ok base) :
    PlanBase old base := by
  have edited : PlanBase old (old.modifyInstance item.instanceId
      (TaskCommandService.downgradedInstance authorization)) :=
    .of_modifyInstance distinct member (fun _ => rfl) ⟨rfl, nofun, .inl rfl⟩
  unfold TaskCommandService.recordDowngrade at h
  dsimp only at h
  split at h
  · cases h
  · rename_i stage found
    obtain rfl := Except.ok.inj h
    refine ⟨?_, edited.ids, ?_, edited.instances⟩
    · dsimp only
      split
      · rw [Plan.modifyInstance, List.map_map]
        refine List.map_congr_left fun other _ => ?_
        simp only [Function.comp_apply]
        split <;> rfl
      · rfl
    · dsimp only
      intro other otherMember
      split at otherMember
      · obtain ⟨before, beforeMember, rfl⟩ := List.mem_map.mp otherMember
        refine ⟨before, beforeMember, ?_⟩
        split
        · exact ⟨rfl, rfl, nofun, fun _ => RequirementLifecycle.activate_isSome _ _⟩
        · exact .refl before
      · exact ⟨other, otherMember, .refl other⟩

theorem recordDowngrade_status {old base : Plan} {item : AgentInstance} {activatedAt : Timestamp}
    {authorization : AuthorizedDowngrade}
    (h : TaskCommandService.recordDowngrade old item activatedAt authorization = .ok base) :
    base.task.status = old.task.status := by
  unfold TaskCommandService.recordDowngrade at h
  dsimp only at h
  split at h
  · cases h
  · obtain rfl := Except.ok.inj h
    rfl

theorem cancelInstance_progressed (item : AgentInstance) :
    Progressed item (TaskCommandService.cancelInstance item) := by
  unfold TaskCommandService.cancelInstance
  split
  · rename_i legal
    exact ⟨rfl, id, .inr legal⟩
  · exact .refl item

/-! ## The moves of the decisions -/

theorem PlanMove.of_edited {now : Timestamp} {old new : Plan} (edited : EditedPlan old new) :
    PlanMove now old new := by
  obtain ⟨edit, same, progress⟩ := edited.instances
  refine .edited edited.stages ?_
  rw [same]
  exact .of_map fun item _ => (progress item).progressed

theorem PlanMove.of_reaggregate {now : Timestamp} {old base new : Plan}
    (wired : WiredPlan old.stages old.instances) (prepared : PlanBase old base)
    (moved : base.reaggregate now = .ok new) : PlanMove now old new := by
  obtain ⟨refreshed, ran, -, rfl⟩ := Plan.reaggregate_eq_ok.mp moved
  obtain ⟨legal, rfl⟩ := refreshStages_eq_ok (prepared.wired wired) ran
  exact .reaggregated base prepared legal rfl rfl

section

variable {state : TaskState} {envelope : CommandEnvelope} {ambient : Ambient} {command : Command}
  {old new : Plan} {skipUnchanged : Bool}

theorem normalizeAppend_spec {task : MainTask} {planRevision : Nat} {payload : PlanPayload}
    {now : Timestamp} {merged : Plan}
    (h : normalizeAppend task old planRevision payload now = .ok merged) :
    PlanValid merged ∧ merged.task.status = task.status ∧
    ∃ base : Plan, WiredPlan base.stages base.instances ∧
      (∀ stage ∈ base.stages, stage ∈ old.stages ∨ FreshStage stage) ∧
      (∀ item ∈ base.instances, item ∈ old.instances ∨ FreshInstance item) ∧
      (∀ item ∈ old.instances, item ∈ base.instances) ∧
      merged = base.refreshed now false := by
  simp only [normalizeAppend, bind_eq_ok, validatePlan_eq_ok, pure_eq_ok, Except.ok.injEq] at h
  obtain ⟨-, -, -, -, -, -, -, -, plan, refreshed, -, valid, rfl⟩ := h
  obtain ⟨base, wired, stages, instances, same⟩ := validated_refresh refreshed valid
  have status : plan.task.status = task.status := by
    rw [refreshStages_task refreshed]
  refine ⟨valid, status, base, wired, fun stage member => ?_, fun item member => ?_,
    fun item member => instances ▸ List.mem_append_left _ member, same⟩
  · rcases List.mem_append.mp ((stages stage).mp member) with landed | added
    · exact .inl landed
    · obtain ⟨raw, -, rfl⟩ := List.mem_map.mp added
      exact .inr ⟨rfl, rfl⟩
  · rw [instances] at member
    rcases List.mem_append.mp member with landed | added
    · exact .inl landed
    · obtain ⟨raw, -, rfl⟩ := List.mem_map.mp added
      exact .inr ⟨rfl, rfl, rfl⟩

theorem normalizePlan_spec {task : MainTask} {planRevision : Nat} {payload : PlanPayload}
    {now : Timestamp} {fresh : Plan}
    (h : normalizePlan task planRevision payload now = .ok fresh) :
    PlanValid fresh ∧
    ∃ base : Plan, WiredPlan base.stages base.instances ∧
      (∀ stage ∈ base.stages, FreshStage stage) ∧ (∀ item ∈ base.instances, FreshInstance item) ∧
      fresh = base.refreshed now false := by
  simp only [normalizePlan, bind_eq_ok, validatePlan_eq_ok, pure_eq_ok, Except.ok.injEq] at h
  obtain ⟨plan, refreshed, -, valid, rfl⟩ := h
  obtain ⟨base, wired, stages, instances, same⟩ := validated_refresh refreshed valid
  refine ⟨valid, base, wired, fun stage member => ?_, fun item member => ?_, same⟩
  · obtain ⟨raw, -, rfl⟩ := List.mem_map.mp ((stages stage).mp member)
    exact ⟨rfl, rfl⟩
  · rw [instances] at member
    obtain ⟨raw, -, rfl⟩ := List.mem_map.mp member
    exact ⟨rfl, rfl, rfl⟩

/-- A plan is replaced only while its task is in one of the states that allow it. -/
theorem Decision.replaced_status {payload : PlanPayload} {expected : Option Nat}
    (synced : ∀ task, state.task = some task → task.status = old.task.status)
    (decision : Decision state envelope ambient (.savePlan .replace payload expected)
      (.aggregate new skipUnchanged)) :
    old.task.status ∈ [.draft, .planned, .blockedUnavailable, .failed] := by
  cases decision with
  | edited command other new skip edits found edited => cases edits
  | replaced payload expected task planRevision fresh new storedTask guarded normalized saved =>
      rw [← synced task storedTask]
      exact guarded

/-- A decision about a stored plan moves it, unless it replaces it. -/
theorem Decision.planMove (valid : PlanValid old) (stored : state.plan = some old)
    (synced : ∀ task, state.task = some task → task.status = old.task.status)
    (decision : Decision state envelope ambient command (.aggregate new skipUnchanged)) :
    PlanMove ambient.now old new ∨
      ∃ payload expected, command = .savePlan .replace payload expected := by
  have unique : ∀ {other : Plan}, state.plan = some other → other = old := fun found =>
    Option.some.inj (found.symm.trans stored)
  have distinct := valid.instanceIdsDistinct
  cases decision with
  | edited command other new skip edits found edited =>
      obtain rfl := unique found
      exact .inl (.of_edited edited)
  | archived other found legal =>
      obtain rfl := unique found
      exact .inl (.edited rfl (.refl _))
  | cancelled other found legal =>
      obtain rfl := unique found
      exact .inl (.cancelled rfl (.of_map fun item _ => cancelInstance_progressed item))
  | replaced payload expected => exact .inr ⟨payload, expected, rfl⟩
  | appended payload expected task planRevision other merged started storedTask found guarded
      normalized activated =>
      obtain rfl := unique found
      obtain ⟨mergedValid, -, base, wired, stages, instances, landed, rfl⟩ :=
        normalizeAppend_spec normalized
      obtain rfl := activateCurrentStages_eq_ok mergedValid.wired activated
      rw [synced task storedTask] at guarded
      exact .inl (.extended base wired stages instances landed guarded rfl rfl)
  | confirmed other started found awaiting activated =>
      obtain rfl := unique found
      obtain rfl := activateCurrentStages_eq_ok valid.wired activated
      exact .inl (.confirmed awaiting rfl rfl)
  | transitioned instanceId target other new item found member same legal moved =>
      obtain rfl := unique found
      subst same
      exact .inl (.of_reaggregate valid.wired
        (.of_modifyInstance distinct member (recordTransition_instanceId _ _)
          (recordTransition_progressed legal _)) moved)
  | rejected instanceId rejection other new item found member same legal moved =>
      obtain rfl := unique found
      subst same
      have prepared : PlanBase other (other.modifyInstance item.instanceId
          (TaskCommandService.recordRejection ambient.now rejection)) :=
        .of_modifyInstance distinct member (fun _ => rfl) (recordRejection_progressed legal _)
      exact .inl (.of_reaggregate valid.wired prepared moved)
  | restored restores target task other refreshed instances storedTask found guarded woken moved
      legal =>
      obtain rfl := unique found
      obtain ⟨ids, progress⟩ := restoreInstances_progress distinct woken
      have prepared : PlanBase other { other with instances := instances } :=
        ⟨rfl, ids, fun stage member => ⟨stage, member, .refl stage⟩, progress⟩
      obtain ⟨checked, rfl⟩ := refreshStages_eq_ok (prepared.wired valid.wired) moved
      exact .inl (.reaggregated _ prepared checked rfl rfl)
  | downgraded instanceId reason other base new item authorization found mutable member same
      activated recorded moved =>
      obtain rfl := unique found
      exact .inl (.of_reaggregate valid.wired (recordDowngrade_base distinct member recorded)
        moved)

end

end DesignHarness
