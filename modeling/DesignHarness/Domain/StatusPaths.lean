import DesignHarness.Domain.PlanAppends

/-!
# Statuses move along the catalog

Not every command hands a status to `StateMachine.transition`: a stage and the task are often
written as a side effect of a re-aggregation, which has its own validators (`service.py:1251-1303`).
Here every commit but the replacement of a plan is held against the catalog: what a stored object
had as its status leads to the new one by an edge, or by the two edges of a path that a validator
lists.
-/

namespace DesignHarness

open Library

/-- The status between, on the path that `_validate_task_reaggregation` lists. -/
def TaskStatus.listedVia : TaskStatus → TaskStatus → Option TaskStatus
  | .planned, .succeeded => some .running
  | .awaitingStartConfirmation, .succeeded => some .running
  | _, _ => none

/-- The status between, on the paths that `_validate_stage_reaggregation` lists. -/
def StageStatus.listedVia : StageStatus → StageStatus → Option StageStatus
  | .pending, .running => some .ready
  | .failed, .succeeded => some .running
  | .failed, .skipped => some .ready
  | _, _ => none

/-- One edge of the catalog, or the two edges of a listed path. -/
def TaskStatus.Reaches (current target : TaskStatus) : Prop :=
  target ∈ current.transitions ∨
    ∃ via, current.listedVia target = some via ∧ via ∈ current.transitions ∧
      target ∈ via.transitions

/-- One edge of the catalog, or the two edges of a listed path. -/
def StageStatus.Reaches (current target : StageStatus) : Prop :=
  target ∈ current.transitions ∨
    ∃ via, current.listedVia target = some via ∧ via ∈ current.transitions ∧
      target ∈ via.transitions

theorem validateTaskReaggregation_reaches {current target : TaskStatus} {u : Unit}
    (h : validateTaskReaggregation current target = .ok u) : current.Reaches target := by
  unfold validateTaskReaggregation at h
  split at h
  · rename_i listed
    obtain ⟨from_, rfl⟩ := listed
    simp only [bind_eq_ok, transitionTask_eq_ok] at h
    obtain ⟨-, first, second⟩ := h
    refine .inr ⟨.running, ?_, first, second⟩
    rcases from_ with rfl | rfl <;> rfl
  · exact .inl (transitionTask_eq_ok.mp h)

theorem validateStageReaggregation_reaches {current target : StageStatus} {u : Unit}
    (h : validateStageReaggregation current target = .ok u) : current.Reaches target := by
  unfold validateStageReaggregation at h
  split at h
  case h_4 => exact .inl (transitionStage_eq_ok.mp h)
  all_goals
    simp only [bind_eq_ok, transitionStage_eq_ok] at h
    obtain ⟨-, first, second⟩ := h
    exact .inr ⟨_, rfl, first, second⟩

/-- A task leaves a terminal status by an edge only. -/
theorem TaskStatus.Reaches.of_terminal {current target : TaskStatus}
    (reaches : current.Reaches target) (terminal : current.isTerminal = true) :
    target ∈ current.transitions := by
  rcases reaches with edge | ⟨via, listed, -, -⟩
  · exact edge
  · cases current <;> simp [TaskStatus.isTerminal, TaskStatus.listedVia] at terminal listed

/-! ## Stages -/

/-- The status is kept or moved along a path. -/
def Stage.Moves (stage other : Stage) : Prop :=
  other.status = stage.status ∨ stage.status.Reaches other.status

theorem Stage.refreshed_moves {stages : List Stage} {instances : List AgentInstance}
    {stage : Stage} (legal : stage.checkRefresh stages instances = .ok ()) (now : Timestamp)
    (activateNew : Bool) : stage.Moves (stage.refreshed now activateNew stages instances) := by
  unfold Stage.Moves
  rw [Stage.refreshed_status]
  unfold Stage.checkRefresh at legal
  split at legal
  · exact .inr (validateStageReaggregation_reaches legal)
  · rename_i kept
    left
    by_cases settled : stage.status.isSettled = true
    · -- A settled stage is aggregated to the status it has.
      rw [Stage.refreshTarget, if_neg (by simp [settled]), Stage.memberStatus, if_pos settled]
    · simpa [settled] using kept

theorem Stage.started_moves {stages : List Stage} {instances : List AgentInstance}
    {stage : Stage} (legal : stage.checkStart stages instances = .ok ()) (now : Timestamp) :
    stage.Moves (stage.started now stages instances) := by
  unfold Stage.checkStart at legal
  unfold Stage.Moves Stage.started
  by_cases ready : stage.isReady stages instances = true
  · rw [if_pos ready]
    by_cases same : stage.memberStatus instances = stage.status
    · exact .inl same
    · rw [if_pos ⟨ready, same⟩] at legal
      exact .inr (.inl (transitionStage_eq_ok.mp legal))
  · rw [if_neg ready]
    exact .inl rfl

/-- A start right after a re-aggregation moves no stage. -/
theorem Plan.refreshed_started_status {plan : Plan} {stage : Stage} {now : Timestamp}
    (wired : WiredPlan plan.stages plan.instances) (member : stage ∈ plan.stages) :
    ((stage.refreshed now false plan.stages plan.instances).started now
      (plan.refreshed now false).stages (plan.refreshed now false).instances).status =
        (stage.refreshed now false plan.stages plan.instances).status := by
  unfold Stage.started
  split
  · rename_i ready
    rw [Plan.refreshed_isReady wired member] at ready
    rw [Stage.refreshed_status, Stage.refreshTarget_of_isReady ready]
    exact Stage.memberStatus_refreshed ready _
  · rfl

/-- The stages of a plan whose statuses all moved along the catalog. -/
def StagesMove (old new : Plan) : Prop :=
  ∀ stage ∈ old.stages, ∀ other ∈ new.stages, other.stageId = stage.stageId → stage.Moves other

/-- The stages of the new plan come from a list that holds the old ones. -/
theorem StagesMove.of_base {old new : Plan} {base : List Stage}
    (distinct : (base.map Stage.stageId).Nodup)
    (landed : ∀ stage ∈ old.stages, ∃ origin ∈ base, origin.stageId = stage.stageId ∧
      origin.status = stage.status)
    (moved : ∀ other ∈ new.stages, ∃ origin ∈ base, other.stageId = origin.stageId ∧
      origin.Moves other) : StagesMove old new := by
  intro stage stageMember other otherMember same
  obtain ⟨first, firstMember, firstId, status⟩ := landed stage stageMember
  obtain ⟨second, secondMember, secondId, moves⟩ := moved other otherMember
  have unique : first = second := List.inj_on_of_nodup_map distinct firstMember secondMember
    (firstId.trans (same.symm.trans secondId))
  subst unique
  rw [Stage.Moves, ← status]
  exact moves

/-- The landed stages are their own base. -/
theorem StagesMove.of_image {old new : Plan} (valid : PlanValid old) (change : Stage → Stage)
    (stages : new.stages = old.stages.map change)
    (keepsId : ∀ stage ∈ old.stages, (change stage).stageId = stage.stageId)
    (moves : ∀ stage ∈ old.stages, stage.Moves (change stage)) : StagesMove old new := by
  refine .of_base valid.stageIdsDistinct (fun stage member => ⟨stage, member, rfl, rfl⟩) ?_
  rw [stages]
  intro other member
  obtain ⟨stage, stageMember, rfl⟩ := List.mem_map.mp member
  exact ⟨stage, stageMember, keepsId stage stageMember, moves stage stageMember⟩

theorem StagesMove.of_same {old new : Plan} (valid : PlanValid old)
    (stages : new.stages = old.stages) : StagesMove old new :=
  .of_image valid id (by simpa using stages) (fun _ _ => rfl) fun _ _ => .inl rfl

theorem cancelStage_moves (stage : Stage) : stage.Moves (TaskCommandService.cancelStage stage) := by
  unfold TaskCommandService.cancelStage
  split
  · rename_i legal
    exact .inr (.inl legal)
  · exact .inl rfl

/-- A re-aggregation of a prepared plan. -/
theorem StagesMove.of_refreshed {old base new : Plan} {now : Timestamp} (valid : PlanValid old)
    (prepared : PlanBase old base)
    (legal : checkEach (Stage.checkRefresh base.stages base.instances) base.stages = .ok ())
    (stages : new.stages = (base.refreshed now true).stages) : StagesMove old new := by
  have wired := prepared.wired valid.wired
  refine .of_base wired.idsDistinct (fun stage member => ?_) ?_
  · have linked : stage.link ∈ base.stages.map Stage.link := by
      rw [prepared.links]
      exact List.mem_map_of_mem member
    obtain ⟨origin, originMember, link⟩ := List.mem_map.mp linked
    obtain ⟨before, beforeMember, kept⟩ := prepared.stages origin originMember
    have same : before.stageId = stage.stageId :=
      congrArg StageLink.stageId (kept.link.symm.trans link)
    rw [List.inj_on_of_nodup_map valid.stageIdsDistinct beforeMember member same] at kept
    exact ⟨origin, originMember, congrArg StageLink.stageId link, kept.status⟩
  · rw [stages]
    intro other member
    obtain ⟨origin, originMember, rfl⟩ := List.mem_map.mp member
    exact ⟨origin, originMember, congrArg StageLink.stageId (Stage.refreshed_link ..),
      Stage.refreshed_moves (checkEach_eq_ok.mp legal origin originMember) now true⟩

/-- A start of the landed plan. -/
theorem StagesMove.of_started {old started : Plan} {now : Timestamp} (valid : PlanValid old)
    (activated : activateCurrentStages old now = .ok started) : StagesMove old started := by
  rw [activateCurrentStages_eq valid.wired] at activated
  obtain ⟨⟨⟩, legal, activated⟩ := bind_eq_ok.mp activated
  obtain rfl := Except.ok.inj activated
  exact .of_image valid _ rfl
    (fun stage _ => congrArg StageLink.stageId (stage.started_link now _ _))
    fun stage member => Stage.started_moves (checkEach_eq_ok.mp legal stage member) now

/-- An append moves a landed stage in its re-aggregation only. -/
theorem StagesMove.of_appended {task : MainTask} {old merged started : Plan} {planRevision : Nat}
    {payload : PlanPayload} {now : Timestamp}
    (normalized : normalizeAppend task old planRevision payload now = .ok merged)
    (activated : activateCurrentStages merged now = .ok started) : StagesMove old started := by
  obtain ⟨-, -, refreshed, mergedValid⟩ := normalizeAppend_eq_ok.mp normalized
  obtain ⟨wired, legal, same⟩ := refreshStages_of_wired refreshed mergedValid.wired
  obtain rfl := activateCurrentStages_eq_ok mergedValid.wired activated
  refine .of_base wired.idsDistinct (fun stage member => ⟨stage, ?_, rfl, rfl⟩) ?_
  · exact mem_sortedByPosition.mpr (List.mem_append_left _ member)
  · intro other otherMember
    obtain ⟨middle, middleMember, rfl⟩ := List.mem_map.mp otherMember
    rw [same] at middleMember ⊢
    obtain ⟨origin, originMember, rfl⟩ := List.mem_map.mp middleMember
    refine ⟨origin, originMember, ?_, ?_⟩
    · exact congrArg StageLink.stageId ((Stage.started_link ..).trans (Stage.refreshed_link ..))
    · rw [Stage.Moves, Plan.refreshed_started_status wired originMember]
      exact Stage.refreshed_moves (checkEach_eq_ok.mp legal origin originMember) now false

/-- Every decision about a stored plan, but to replace it, moves its stages along the catalog. -/
theorem Decision.stagesMove {state : TaskState} {envelope : CommandEnvelope} {ambient : Ambient}
    {command : Command} {old new : Plan} {skipUnchanged : Bool} (valid : PlanValid old)
    (stored : state.plan = some old)
    (kept : ∀ payload expected, command ≠ .savePlan .replace payload expected)
    (decision : Decision state envelope ambient command (.aggregate new skipUnchanged)) :
    StagesMove old new := by
  have unique : ∀ {other : Plan}, state.plan = some other → other = old := fun found =>
    Option.some.inj (found.symm.trans stored)
  have distinct := valid.instanceIdsDistinct
  have reaggregated : ∀ {base : Plan}, PlanBase old base → base.reaggregate ambient.now = .ok new →
      StagesMove old new := by
    intro base prepared moved
    obtain ⟨refreshed, ran, -, rfl⟩ := Plan.reaggregate_eq_ok.mp moved
    obtain ⟨legal, rfl⟩ := refreshStages_eq_ok (prepared.wired valid.wired) ran
    exact .of_refreshed valid prepared legal rfl
  cases decision with
  | edited command other new skip edits found edited =>
      obtain rfl := unique found
      exact .of_same valid edited.stages
  | archived other found legal =>
      obtain rfl := unique found
      exact .of_same valid rfl
  | cancelled other found legal =>
      obtain rfl := unique found
      refine .of_image valid TaskCommandService.cancelStage rfl (fun stage _ => ?_)
        fun stage _ => cancelStage_moves stage
      unfold TaskCommandService.cancelStage
      split <;> rfl
  | replaced payload expected => exact absurd rfl (kept payload expected)
  | appended payload expected task planRevision other merged started storedTask found guarded
      normalized activated =>
      obtain rfl := unique found
      have moves : StagesMove other started := .of_appended normalized activated
      exact moves
  | confirmed other started found awaiting activated =>
      obtain rfl := unique found
      have moves : StagesMove other started := .of_started valid activated
      exact moves
  | transitioned instanceId target other new item found member same legal moved =>
      obtain rfl := unique found
      subst same
      exact reaggregated (.of_modifyInstance distinct member (recordTransition_instanceId _ _)
        (recordTransition_progressed legal _)) moved
  | rejected instanceId rejection other new item found member same legal moved =>
      obtain rfl := unique found
      subst same
      have prepared : PlanBase other (other.modifyInstance item.instanceId
          (TaskCommandService.recordRejection ambient.now rejection)) :=
        .of_modifyInstance distinct member (fun _ => rfl) (recordRejection_progressed legal _)
      exact reaggregated prepared moved
  | restored restores target task other refreshed instances storedTask found guarded woken moved
      legal =>
      obtain rfl := unique found
      obtain ⟨ids, progress⟩ := restoreInstances_progress distinct woken
      have prepared : PlanBase other { other with instances := instances } :=
        ⟨rfl, ids, fun stage member => ⟨stage, member, .refl stage⟩, progress⟩
      obtain ⟨checked, rfl⟩ := refreshStages_eq_ok (prepared.wired valid.wired) moved
      exact .of_refreshed valid prepared checked rfl
  | downgraded instanceId reason other base new item authorization found mutable member same
      activated recorded moved =>
      obtain rfl := unique found
      exact reaggregated (recordDowngrade_base distinct member recorded) moved

/-- The status of the task that a commit writes. -/
def Commit.taskStatus : Commit → TaskStatus
  | .task payload _ => payload.status
  | .aggregate plan _ => plan.task.status

/-- The status is kept or moved along a path. -/
def TaskStatus.Moves (current target : TaskStatus) : Prop :=
  target = current ∨ current.Reaches target

theorem TaskStatus.Moves.of_legal {current target : TaskStatus}
    (legal : target ≠ current → target ∈ current.transitions) : current.Moves target := by
  by_cases same : target = current
  · exact .inl same
  · exact .inr (.inl (legal same))

theorem Plan.reaggregate_moves {base new : Plan} {now : Timestamp}
    (moved : base.reaggregate now = .ok new) : base.task.status.Moves new.task.status := by
  obtain ⟨refreshed, ran, legal, rfl⟩ := Plan.reaggregate_eq_ok.mp moved
  rw [refreshStages_task ran] at legal
  exact .of_legal legal

section

variable {state : TaskState} {envelope : CommandEnvelope} {ambient : Ambient} {task : MainTask}
  {commit : Commit}

namespace TaskCommandService

theorem appendPlan_moves {existing : Plan} {planRevision : Nat} {payload : PlanPayload}
    (h : appendPlan ambient task existing planRevision payload = .ok commit) :
    task.status.Moves commit.taskStatus := by
  obtain ⟨merged, normalized, h⟩ := bind_eq_ok.mp h
  obtain ⟨started, activated, h⟩ := bind_eq_ok.mp h
  obtain ⟨legal, h⟩ := guarded_eq_ok.mp h
  obtain rfl := Except.ok.inj h
  obtain ⟨-, status, -⟩ := normalizeAppend_spec normalized
  rw [activateCurrentStages_task activated, status] at legal
  exact .of_legal fun moves => transitionTask_eq_ok.mp (legal moves)

theorem confirmStart_moves {plan : Plan} (stored : state.plan = some plan)
    (h : confirmStart state envelope ambient = .ok commit) :
    plan.task.status.Moves commit.taskStatus := by
  simp only [confirmStart, bind_eq_ok, TaskState.requirePlan_eq_ok, pure_eq_ok,
    Except.ok.injEq] at h
  obtain ⟨other, found, -, -, -, -, started, activated, _, legal, rfl⟩ := h
  obtain rfl := Option.some.inj (stored.symm.trans found)
  exact .inr (validateTaskReaggregation_reaches legal)

theorem restoreArchived_moves {restores : List InstanceRestore} {target : TaskStatus}
    {plan : Plan} (storedTask : state.task = some task) (stored : state.plan = some plan)
    (h : restoreArchived state envelope ambient restores target = .ok commit) :
    task.status.Moves commit.taskStatus := by
  simp only [restoreArchived, bind_eq_ok, TaskState.requireTask_eq_ok, ensure_eq_ok, stored] at h
  obtain ⟨other, found, -, -, -, guarded, instances, -, refreshed, -, h⟩ := h
  obtain rfl := Option.some.inj (storedTask.symm.trans found)
  by_cases archived : task.status = .archived
  · rw [if_pos archived] at h
    obtain ⟨_, legal, h⟩ := bind_eq_ok.mp h
    obtain rfl := Except.ok.inj h
    rw [archived]
    exact .inr (.inl (transitionTask_eq_ok.mp legal))
  · have same : task.status = target := guarded.resolve_left archived
    rw [if_neg archived] at h
    obtain ⟨legal, h⟩ := guarded_eq_ok.mp h
    obtain rfl := Except.ok.inj h
    rw [same]
    exact .of_legal fun moves => transitionTask_eq_ok.mp (legal moves)

end TaskCommandService

/-- Every handler, but those that create a task or replace its plan, moves the task along the
    catalog. -/
theorem handle_taskMoves {command : Command} (inv : StateInvariant state)
    (stored : state.task = some task)
    (created : ∀ request, command ≠ .createTask request)
    (kept : ∀ payload expected, command ≠ .savePlan .replace payload expected)
    (handled : TaskCommandService.handle state envelope ambient command = .ok commit) :
    task.status.Moves commit.taskStatus := by
  have decision := TaskCommandService.handle_decision inv.synced handled
  have synced : ∀ {plan : Plan}, state.plan = some plan → task.status = plan.task.status :=
    fun found => inv.synced task _ stored found
  have unique : ∀ {other : MainTask}, state.task = some other → other = task := fun found =>
    Option.some.inj (found.symm.trans stored)
  cases decision with
  | created request => exact absurd rfl (created request)
  | registered inputManifest other found =>
      obtain rfl := unique found
      exact .inl rfl
  | planless command other payload found noPlan moved legal =>
      obtain rfl := unique found
      exact .of_legal legal
  | edited command old new skip edits found edited =>
      exact .inl (edited.status.trans (synced found).symm)
  | archived old found legal => exact .inr (.inl (synced found ▸ legal))
  | cancelled old found legal => exact .inr (.inl (synced found ▸ legal))
  | replaced payload expected => exact absurd rfl (kept payload expected)
  | appended payload expected other planRevision old merged started found foundPlan =>
      obtain ⟨read, readTask, h⟩ := bind_eq_ok.mp handled
      obtain rfl := unique (TaskState.requireTask_eq_ok.mp readTask)
      simp only [bind_eq_ok] at h
      obtain ⟨-, -, -, -, -, -, existing, -, h⟩ := h
      exact TaskCommandService.appendPlan_moves h
  | confirmed old started found =>
      rw [synced found]
      exact TaskCommandService.confirmStart_moves found handled
  | transitioned instanceId target old new item found member same legal moved =>
      have moves := Plan.reaggregate_moves moved
      rw [synced found]
      exact moves
  | rejected instanceId rejection old new item found member same legal moved =>
      have moves := Plan.reaggregate_moves moved
      rw [synced found]
      exact moves
  | restored restores target other old refreshed instances found foundPlan =>
      exact TaskCommandService.restoreArchived_moves stored foundPlan handled
  | downgraded instanceId reason old base new item authorization found mutable member same
      activated recorded moved =>
      rw [synced found, ← recordDowngrade_status recorded]
      exact Plan.reaggregate_moves moved

end

/-! ## Every run -/

/-- What a step does to the statuses of the stored objects. -/
structure FollowsCatalog (before after : TaskState) : Prop where
  task : ∀ task other, before.task = some task → after.task = some other →
    other.status ≠ task.status → task.status.Reaches other.status
  terminal : ∀ task other, before.task = some task → after.task = some other →
    task.status.isTerminal = true → other.status ≠ task.status →
    other.status ∈ task.status.transitions
  stages : ∀ plan other, before.plan = some plan → after.plan = some other →
    ∀ stage ∈ plan.stages, ∀ later ∈ other.stages, later.stageId = stage.stageId →
      later.status ≠ stage.status → stage.status.Reaches later.status
  instances : ∀ plan other, before.plan = some plan → after.plan = some other →
    ∀ item ∈ plan.instances, ∀ later ∈ other.instances, later.instanceId = item.instanceId →
      later.status ≠ item.status → later.status ∈ item.status.transitions

/-- The call asks for a new plan in the place of the stored one. -/
def Call.asksReplacement : Call → Prop
  | .command (.savePlan .replace _ _) _ _ => True
  | _ => False

/-- The task has a revision once it is stored. -/
def TaskState.Counted (state : TaskState) : Prop :=
  state.task.isSome = true → 0 < state.taskRevision

theorem TaskState.Counted.perform {state next : TaskState} {call : Call} (counted : state.Counted)
    (performed : state.perform call = .ok next) : next.Counted := by
  cases call with
  | command command envelope ambient =>
      obtain ⟨request, commit, -, -, applied⟩ := TaskState.execute_eq_ok.mp performed
      cases commit with
      | task payload expectedRevision =>
          obtain ⟨-, -, rfl⟩ := TaskState.apply_task_eq_ok.mp applied
          exact fun _ => Nat.succ_pos _
      | aggregate plan skipUnchanged =>
          obtain ⟨-, rfl⟩ := TaskState.apply_aggregate_eq_ok.mp applied
          exact fun _ => Nat.succ_pos _
  | updateInstanceFields instanceId changes =>
      unfold TaskState.perform TaskState.updateInstanceFields at performed
      obtain ⟨-, -, performed⟩ := bind_eq_ok.mp performed
      cases planned : state.plan with
      | none => simp [planned] at performed
      | some plan =>
          simp only [planned] at performed
          obtain ⟨item, -, performed⟩ := bind_eq_ok.mp performed
          split at performed
          · obtain rfl := Except.ok.inj performed
            exact counted
          · obtain ⟨-, -, performed⟩ := bind_eq_ok.mp performed
            split at performed
            · obtain rfl := Except.ok.inj performed
              exact counted
            · obtain rfl := Except.ok.inj performed
              exact fun _ => Nat.succ_pos _

theorem runOf_counted (calls : List Call) : (runOf calls).Counted :=
  runFrom_invariant (fun stored => by cases stored) (fun _ _ _ counted => counted.perform) calls

section

variable {state next : TaskState}

theorem FollowsCatalog.refl (state : TaskState) (inv : StateInvariant state) :
    FollowsCatalog state state where
  task := by
    intro task other stored after changed
    exact absurd (congrArg MainTask.status (Option.some.inj (after.symm.trans stored))) changed
  terminal := by
    intro task other stored after _ changed
    exact absurd (congrArg MainTask.status (Option.some.inj (after.symm.trans stored))) changed
  stages := by
    intro plan other stored after stage member later laterMember same changed
    obtain rfl := Option.some.inj (after.symm.trans stored)
    have distinct := (inv.plan _ stored).valid.stageIdsDistinct
    rw [List.inj_on_of_nodup_map distinct laterMember member same] at changed
    exact absurd rfl changed
  instances := by
    intro plan other stored after item member later laterMember same changed
    obtain rfl := Option.some.inj (after.symm.trans stored)
    have distinct := (inv.plan _ stored).valid.instanceIdsDistinct
    rw [List.inj_on_of_nodup_map distinct laterMember member same] at changed
    exact absurd rfl changed

/-- The parts of a step that keeps the plan. -/
theorem FollowsCatalog.of_moves
    (task : ∀ task other, state.task = some task → next.task = some other →
      task.status.Moves other.status)
    (stages : ∀ plan other, state.plan = some plan → next.plan = some other →
      StagesMove plan other)
    (instances : ∀ plan other, state.plan = some plan → next.plan = some other →
      ∀ item ∈ plan.instances, ∀ later ∈ other.instances, later.instanceId = item.instanceId →
        Progressed item later) : FollowsCatalog state next where
  task := by
    intro before after stored found changed
    exact (task before after stored found).resolve_left changed
  terminal := by
    intro before after stored found terminal changed
    exact ((task before after stored found).resolve_left changed).of_terminal terminal
  stages := by
    intro plan other stored found stage member later laterMember same changed
    exact (stages plan other stored found stage member later laterMember same).resolve_left changed
  instances := by
    intro plan other stored found item member later laterMember same changed
    exact (instances plan other stored found item member later laterMember same).status.resolve_left
      changed

theorem FollowsCatalog.command {command : Command} {envelope : CommandEnvelope} {ambient : Ambient}
    (inv : StateInvariant state) (counted : state.Counted)
    (kept : ¬ Call.asksReplacement (.command command envelope ambient))
    (performed : state.execute envelope ambient command = .ok next) :
    FollowsCatalog state next := by
  obtain ⟨request, commit, built, handled, applied⟩ := TaskState.execute_eq_ok.mp performed
  have keeps : ∀ payload expected, request ≠ .savePlan .replace payload expected := by
    rintro payload expected rfl
    have same := TaskCommandService.command_of_buildRequest built
      (fun title renamed => by cases renamed)
    subst same
    exact kept trivial
  have decision := TaskCommandService.handle_decision inv.synced handled
  have moves : ∀ task, state.task = some task → task.status.Moves commit.taskStatus := by
    intro task stored
    by_cases creates : ∃ request', request = .createTask request'
    · -- A task is created at revision zero, so there was none.
      obtain ⟨taskRequest, rfl⟩ := creates
      have positive := counted (by rw [stored]; rfl)
      cases decision with
      | created _ payload draft =>
          obtain ⟨-, revision, -⟩ := TaskState.apply_task_eq_ok.mp applied
          omega
      | planless _ _ _ _ _ moved => cases moved
      | edited _ _ _ _ edits => cases edits
    · exact handle_taskMoves inv stored (fun taskRequest same => creates ⟨taskRequest, same⟩) keeps
        handled
  cases commit with
  | task payload expectedRevision =>
      obtain ⟨-, -, rfl⟩ := TaskState.apply_task_eq_ok.mp applied
      have unchanged := FollowsCatalog.refl state inv
      refine ⟨?_, ?_, unchanged.stages, unchanged.instances⟩
      · rintro task other stored ⟨⟩ changed
        exact (moves task stored).resolve_left changed
      · rintro task other stored ⟨⟩ terminal changed
        exact ((moves task stored).resolve_left changed).of_terminal terminal
  | aggregate new skipUnchanged =>
      obtain ⟨valid, rfl⟩ := TaskState.apply_aggregate_eq_ok.mp applied
      refine .of_moves ?_ ?_ ?_
      · rintro task other stored ⟨⟩
        exact moves task stored
      · rintro plan other stored ⟨⟩
        exact decision.stagesMove (inv.plan plan stored).valid stored keeps
      · rintro plan other stored ⟨⟩ item member later laterMember same
        have planValid := (inv.plan plan stored).valid
        rcases decision.planMove planValid stored
          (fun task found => inv.synced task plan found stored) with move | replaced
        · exact move.instances_progressed planValid member laterMember same
        · obtain ⟨payload, expected, rfl⟩ := replaced
          exact absurd rfl (keeps payload expected)

theorem FollowsCatalog.updateInstanceFields {instanceId : Identifier} {changes : InstanceChanges}
    (inv : StateInvariant state)
    (performed : state.updateInstanceFields instanceId changes = .ok next) :
    FollowsCatalog state next := by
  obtain ⟨plan, planned, rfl | ⟨accepted, nextPlan, nextTask, -⟩⟩ :=
    updateInstanceFields_eq_ok performed
  · exact .refl _ inv
  · have valid := (inv.plan plan planned).valid
    have move : PlanMove "" plan (plan.modifyInstance instanceId changes.apply) :=
      .of_edited (.of_changes plan instanceId changes)
    refine .of_moves ?_ ?_ ?_
    · intro task other stored found
      obtain rfl := Option.some.inj (nextTask.symm.trans found)
      exact .inl (inv.synced task plan stored planned).symm
    · intro before other stored found
      obtain rfl := Option.some.inj (planned.symm.trans stored)
      obtain rfl := Option.some.inj (nextPlan.symm.trans found)
      exact .of_same valid rfl
    · intro before other stored found item member later laterMember same
      obtain rfl := Option.some.inj (planned.symm.trans stored)
      obtain rfl := Option.some.inj (nextPlan.symm.trans found)
      exact move.instances_progressed valid member laterMember same

end

/-- In every run, a step that does not replace the plan moves every status along the catalog. -/
theorem statuses_follow_catalog (calls : List Call) (call : Call) (next : TaskState)
    (performed : (runOf calls).perform call = .ok next) (kept : ¬ call.asksReplacement) :
    FollowsCatalog (runOf calls) next := by
  have inv := runOf_invariant calls
  cases call with
  | command command envelope ambient =>
      exact FollowsCatalog.command inv (runOf_counted calls) kept performed
  | updateInstanceFields instanceId changes =>
      exact FollowsCatalog.updateInstanceFields inv performed

theorem statuses_follow_catalog_started : ∃ next,
    (runOf (samplePlanned .auto pairPayload)).perform
        (sampleCall 2 (.transitionInstance "a" .starting)) = .ok next ∧
      FollowsCatalog (runOf (samplePlanned .auto pairPayload)) next := by
  have ran : ((runOf (samplePlanned .auto pairPayload)).perform
      (sampleCall 2 (.transitionInstance "a" .starting))).toOption.isSome = true := by
    decide +kernel
  obtain ⟨next, found⟩ := Option.isSome_iff_exists.mp ran
  have performed := toOption_eq_some.mp found
  refine ⟨next, performed, statuses_follow_catalog _ _ next performed ?_⟩
  rintro ⟨⟩

end DesignHarness
