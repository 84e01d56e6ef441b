import DesignHarness.Domain.Refresh
import DesignHarness.Domain.Service

/-!
# What a handler decides

One inversion lemma for the handlers: `Decision` lists, command by command, what a successful
handler read and what it commits (`handle_decision`).  The invariants of a run are proved by
cases on it and never unfold a handler.
-/

namespace DesignHarness

open Library

theorem TaskState.requireTask_eq_ok {state : TaskState} {task : MainTask} :
    state.requireTask = .ok task ↔ state.task = some task := by
  unfold TaskState.requireTask
  cases state.task <;> simp

theorem TaskState.requirePlan_eq_ok {state : TaskState} {plan : Plan} :
    state.requirePlan = .ok plan ↔ state.plan = some plan := by
  unfold TaskState.requirePlan
  cases state.plan <;> simp

theorem TaskState.requireRevision_eq_ok {state : TaskState} {envelope : CommandEnvelope}
    {taskId : Identifier} {u : Unit} :
    state.requireRevision envelope taskId = .ok u ↔
      envelope.expectedRevision = state.taskRevision := ensure_eq_ok

theorem Plan.requireMutable_eq_ok {plan : Plan} {u : Unit} :
    plan.requireMutable = .ok u ↔ plan.task.status ≠ .archived := ensure_eq_ok

theorem Plan.requireInstance_eq_ok {plan : Plan} {instanceId : Identifier}
    {item : AgentInstance} :
    plan.requireInstance instanceId = .ok item ↔
      plan.instances.find? (·.instanceId = instanceId) = some item := by
  unfold Plan.requireInstance
  cases plan.instances.find? (·.instanceId = instanceId) <;> simp

theorem Plan.requireInstance_mem {plan : Plan} {instanceId : Identifier} {item : AgentInstance}
    (h : plan.requireInstance instanceId = .ok item) :
    item ∈ plan.instances ∧ item.instanceId = instanceId := by
  rw [Plan.requireInstance_eq_ok] at h
  exact ⟨List.mem_of_find?_eq_some h, by simpa using List.find?_some h⟩

@[simp] theorem Plan.withStatus_status (status : TaskStatus) (plan : Plan) :
    (plan.withStatus status).task.status = status := rfl

@[simp] theorem Plan.withStatus_stages (status : TaskStatus) (plan : Plan) :
    (plan.withStatus status).stages = plan.stages := rfl

@[simp] theorem Plan.withStatus_instances (status : TaskStatus) (plan : Plan) :
    (plan.withStatus status).instances = plan.instances := rfl

@[simp] theorem Plan.touch_status (now : Timestamp) (plan : Plan) :
    (plan.touch now).task.status = plan.task.status := rfl

@[simp] theorem Plan.touch_stages (now : Timestamp) (plan : Plan) :
    (plan.touch now).stages = plan.stages := rfl

@[simp] theorem Plan.touch_instances (now : Timestamp) (plan : Plan) :
    (plan.touch now).instances = plan.instances := rfl

theorem Plan.reaggregate_eq_ok {plan next : Plan} {now : Timestamp} :
    plan.reaggregate now = .ok next ↔
      ∃ refreshed, refreshStages plan now = .ok refreshed ∧
        (refreshed.aggregateTask ≠ refreshed.task.status →
          refreshed.aggregateTask ∈ refreshed.task.status.transitions) ∧
        next = (refreshed.withStatus refreshed.aggregateTask).touch now := by
  simp only [Plan.reaggregate, bind_eq_ok, pure_eq_ok]
  refine exists_congr fun refreshed => and_congr_right fun _ => ?_
  rw [eq_comm (a := next), ← Except.ok.injEq (ε := Raised)]
  by_cases moves : refreshed.aggregateTask = refreshed.task.status
  · simp [moves]
  · simp [moves, bind_eq_ok]

/-- Two records of one instance at the same point of its life. -/
structure SameProgress (item other : AgentInstance) : Prop where
  instanceId : other.instanceId = item.instanceId
  stageId : other.stageId = item.stageId
  required : other.required = item.required
  requirementLifecycle : other.requirementLifecycle = item.requirementLifecycle
  status : other.status = item.status

theorem SameProgress.refl (item : AgentInstance) : SameProgress item item := ⟨rfl, rfl, rfl, rfl, rfl⟩

/-- A plan whose stages, and whose instances as far as the aggregation reads them, are those of
    another plan. -/
structure EditedPlan (old new : Plan) : Prop where
  stages : new.stages = old.stages
  instances : ∃ edit : AgentInstance → AgentInstance,
    new.instances = old.instances.map edit ∧ ∀ item, SameProgress item (edit item)
  status : new.task.status = old.task.status

theorem EditedPlan.of_modifyInstance (plan : Plan) (instanceId : Identifier) (now : Timestamp)
    {change : AgentInstance → AgentInstance} (same : ∀ item, SameProgress item (change item)) :
    EditedPlan plan ((plan.modifyInstance instanceId change).touch now) where
  stages := rfl
  instances := by
    refine ⟨_, rfl, fun item => ?_⟩
    split
    · exact same item
    · exact .refl item
  status := rfl

theorem EditedPlan.of_task {plan : Plan} {task : MainTask} {cards : List TaskCard}
    (same : task.status = plan.task.status) :
    EditedPlan plan { plan with task := task, taskCards := cards } where
  stages := rfl
  instances := ⟨id, by simp, SameProgress.refl⟩
  status := same

/-! ## The decisions -/

/-- The commands that only edit the plan. -/
def Command.isEdit : Command → Bool
  | .renameTask _ | .savePlan .merge _ _ | .setManualFinished _ _ | .setManualBusinessStatus _ _
  | .setApprovalMode _ _ => true
  | _ => false

/-- The status that a command gives a task without a plan. -/
def Command.planlessStatus (current : TaskStatus) : Command → Option TaskStatus
  | .renameTask _ => some current
  | .archiveTask => some .archived
  | .cancelTask => some .cancelled
  | .restoreArchived _ target => some target
  | _ => none

/-- What a successful handler read and what it commits. -/
inductive Decision (state : TaskState) (envelope : CommandEnvelope) (ambient : Ambient) :
    Command → Commit → Prop where
  | created (request : TaskRequest) (payload : MainTask) (draft : payload.status = .draft) :
      Decision state envelope ambient (.createTask request) (.task payload 0)
  | registered (inputManifest : String) (task : MainTask) (stored : state.task = some task) :
      Decision state envelope ambient (.registerInputManifest inputManifest)
        (.task { task with inputManifest := inputManifest, updatedAt := ambient.now }
          envelope.expectedRevision)
  | planless (command : Command) (task payload : MainTask) (stored : state.task = some task)
      (noPlan : state.plan = none) (moved : command.planlessStatus task.status = some payload.status)
      (legal : payload.status ≠ task.status → payload.status ∈ task.status.transitions)
      (guarded : ∀ restores target, command = .restoreArchived restores target →
        task.status = .archived ∨ task.status = target) :
      Decision state envelope ambient command (.task payload state.taskRevision)
  | edited (command : Command) (old new : Plan) (skipUnchanged : Bool) (edits : command.isEdit)
      (stored : state.plan = some old) (edited : EditedPlan old new) :
      Decision state envelope ambient command (.aggregate new skipUnchanged)
  | archived (old : Plan) (stored : state.plan = some old)
      (legal : .archived ∈ old.task.status.transitions) :
      Decision state envelope ambient .archiveTask
        (.aggregate ((old.withStatus .archived).touch ambient.now) false)
  | cancelled (old : Plan) (stored : state.plan = some old)
      (legal : .cancelled ∈ old.task.status.transitions) :
      Decision state envelope ambient .cancelTask
        (.aggregate
          (({ old with
              instances := old.instances.map TaskCommandService.cancelInstance
              stages := old.stages.map TaskCommandService.cancelStage }
            : Plan).withStatus .cancelled |>.touch ambient.now) false)
  | replaced (payload : PlanPayload) (expected : Option Nat) (task : MainTask)
      (planRevision : Nat) (fresh new : Plan) (stored : state.task = some task)
      (guarded : task.status ∈ [.draft, .planned, .blockedUnavailable, .failed])
      (normalized : normalizePlan task planRevision payload ambient.now = .ok fresh)
      (saved :
        (task.startPolicy = .manual ∧
          new = (fresh.withStatus .awaitingStartConfirmation).touch ambient.now) ∨
        (task.startPolicy ≠ .manual ∧ ∃ started,
          activateCurrentStages (fresh.withStatus .planned) ambient.now = .ok started ∧
          new = (started.withStatus started.aggregateTask).touch ambient.now)) :
      Decision state envelope ambient (.savePlan .replace payload expected)
        (.aggregate new false)
  | appended (payload : PlanPayload) (expected : Option Nat) (task : MainTask)
      (planRevision : Nat) (old merged started : Plan) (storedTask : state.task = some task)
      (stored : state.plan = some old)
      (guarded : task.status = .running ∨ task.status = .waitingApproval)
      (normalized : normalizeAppend task old planRevision payload ambient.now = .ok merged)
      (activated : activateCurrentStages merged ambient.now = .ok started) :
      Decision state envelope ambient (.savePlan .append payload expected)
        (.aggregate ((started.withStatus started.aggregateTask).touch ambient.now) false)
  | confirmed (old started : Plan) (stored : state.plan = some old)
      (awaiting : old.task.status = .awaitingStartConfirmation)
      (activated : activateCurrentStages old ambient.now = .ok started) :
      Decision state envelope ambient .confirmStart
        (.aggregate ((started.withStatus started.aggregateTask).touch ambient.now) false)
  | transitioned (instanceId : Identifier) (target : InstanceStatus) (old new : Plan)
      (item : AgentInstance) (stored : state.plan = some old) (member : item ∈ old.instances)
      (same : item.instanceId = instanceId) (legal : target ∈ item.status.transitions)
      (moved : (old.modifyInstance instanceId
          (TaskCommandService.recordTransition ambient.now target)).reaggregate ambient.now =
        .ok new) :
      Decision state envelope ambient (.transitionInstance instanceId target)
        (.aggregate new false)
  | rejected (instanceId : Identifier) (rejection : RejectionRequest) (old new : Plan)
      (item : AgentInstance) (stored : state.plan = some old) (member : item ∈ old.instances)
      (same : item.instanceId = instanceId) (legal : .failed ∈ item.status.transitions)
      (moved : (old.modifyInstance instanceId
          (TaskCommandService.recordRejection ambient.now rejection)).reaggregate ambient.now =
        .ok new) :
      Decision state envelope ambient (.rejectInstanceDelivery instanceId rejection)
        (.aggregate new false)
  | restored (restores : List InstanceRestore) (target : TaskStatus) (task : MainTask)
      (old refreshed : Plan) (instances : List AgentInstance) (storedTask : state.task = some task)
      (stored : state.plan = some old) (guarded : task.status = .archived ∨ task.status = target)
      (woken : restores.foldlM (TaskCommandService.restoreInstance ambient.now) old.instances =
        .ok instances)
      (moved : refreshStages { old with instances := instances } ambient.now = .ok refreshed)
      (legal : task.status = .archived →
        (refreshed.withStatus target).aggregateTask ∈ TaskStatus.archived.transitions) :
      Decision state envelope ambient (.restoreArchived restores target)
        (.aggregate ((refreshed.withStatus (refreshed.withStatus target).aggregateTask).touch
          ambient.now) false)
  | downgraded (instanceId : Identifier) (reason : String) (old base new : Plan)
      (item : AgentInstance) (authorization : AuthorizedDowngrade)
      (stored : state.plan = some old) (mutable : old.task.status ≠ .archived)
      (member : item ∈ old.instances) (same : item.instanceId = instanceId)
      (activated : item.requirementLifecycle.firstActivatedAt.isSome = true)
      (recorded : TaskCommandService.recordDowngrade old item
        (item.requirementLifecycle.firstActivatedAt.getD ambient.now) authorization = .ok base)
      (moved : base.reaggregate ambient.now = .ok new) :
      Decision state envelope ambient (.downgradeInstance instanceId reason)
        (.aggregate new false)

/-! ## The handlers -/

theorem normalizeMerge_edited {task : MainTask} {old new : Plan} {planRevision : Nat}
    {payload : PlanPayload} {now : Timestamp} (same : task.status = old.task.status)
    (h : normalizeMerge task old planRevision payload now = .ok new) : EditedPlan old new := by
  simp only [normalizeMerge, bind_eq_ok, pure_eq_ok, Except.ok.injEq] at h
  obtain ⟨-, -, -, -, -, -, -, -, -, -, cards, -, -, -, rfl⟩ := h
  exact .of_task same

section

variable {state : TaskState} {envelope : CommandEnvelope} {ambient : Ambient} {commit : Commit}

namespace TaskCommandService

theorem createTask_decision {request : TaskRequest}
    (h : createTask envelope ambient request = .ok commit) :
    Decision state envelope ambient (.createTask request) commit := by
  simp only [createTask, bind_eq_ok, pure_eq_ok, Except.ok.injEq] at h
  obtain ⟨-, -, rfl⟩ := h
  exact .created request _ rfl

theorem registerInputManifest_decision {inputManifest : String}
    (h : registerInputManifest state envelope ambient inputManifest = .ok commit) :
    Decision state envelope ambient (.registerInputManifest inputManifest) commit := by
  simp only [registerInputManifest, bind_eq_ok, pure_eq_ok, Except.ok.injEq,
    TaskState.requireTask_eq_ok] at h
  obtain ⟨task, stored, rfl⟩ := h
  exact .registered inputManifest task stored

section

variable (synced : ∀ task plan, state.task = some task → state.plan = some plan →
  task.status = plan.task.status)
include synced

theorem renameTask_decision {title : String}
    (h : renameTask state envelope ambient title = .ok commit) :
    Decision state envelope ambient (.renameTask title) commit := by
  simp only [renameTask, bind_eq_ok, TaskState.requireTask_eq_ok] at h
  obtain ⟨task, stored, -, -, h⟩ := h
  cases planned : state.plan with
  | none =>
      simp only [planned, pure_eq_ok, Except.ok.injEq] at h
      subst h
      exact .planless _ task _ stored planned rfl (absurd rfl) fun _ _ same => by cases same
  | some plan =>
      simp only [planned, pure_eq_ok, Except.ok.injEq] at h
      subst h
      exact .edited _ plan _ false rfl planned (.of_task (synced task plan stored planned))

theorem archiveTask_decision (h : archiveTask state envelope ambient = .ok commit) :
    Decision state envelope ambient .archiveTask commit := by
  simp only [archiveTask, bind_eq_ok, TaskState.requireTask_eq_ok, transitionTask_eq_ok] at h
  obtain ⟨task, stored, -, -, -, legal, h⟩ := h
  cases planned : state.plan with
  | none =>
      simp only [planned, pure_eq_ok, Except.ok.injEq] at h
      subst h
      exact .planless _ task _ stored planned rfl (fun _ => legal) fun _ _ same => by cases same
  | some plan =>
      simp only [planned, pure_eq_ok, Except.ok.injEq] at h
      subst h
      exact .archived plan planned (synced task plan stored planned ▸ legal)

theorem cancelTask_decision (h : cancelTask state envelope ambient = .ok commit) :
    Decision state envelope ambient .cancelTask commit := by
  simp only [cancelTask, bind_eq_ok, TaskState.requireTask_eq_ok, transitionTask_eq_ok] at h
  obtain ⟨task, stored, -, -, -, legal, h⟩ := h
  cases planned : state.plan with
  | none =>
      simp only [planned, pure_eq_ok, Except.ok.injEq] at h
      subst h
      exact .planless _ task _ stored planned rfl (fun _ => legal) fun _ _ same => by cases same
  | some plan =>
      simp only [planned, pure_eq_ok, Except.ok.injEq] at h
      subst h
      exact .cancelled plan planned (synced task plan stored planned ▸ legal)

theorem savePlan_decision {mode : PlanSaveMode} {payload : PlanPayload} {expected : Option Nat}
    (h : savePlan state envelope ambient mode payload expected = .ok commit) :
    Decision state envelope ambient (.savePlan mode payload expected) commit := by
  simp only [savePlan, bind_eq_ok, TaskState.requireTask_eq_ok] at h
  obtain ⟨task, stored, _, guarded, -, -, -, -, h⟩ := h
  cases mode with
  | append =>
      simp only [bind_eq_ok, TaskState.requirePlan_eq_ok, appendPlan, pure_eq_ok] at h
      obtain ⟨old, planned, merged, normalized, started, activated, h⟩ := h
      have running : task.status = .running ∨ task.status = .waitingApproval := by
        simpa [guardPlanSaveState] using guarded
      have committed : commit =
          .aggregate ((started.withStatus started.aggregateTask).touch ambient.now) false :=
        (Except.ok.inj (ok_of_guarded h)).symm
      rw [committed]
      exact .appended payload expected task _ old merged started stored planned running normalized
        activated
  | merge =>
      simp only [bind_eq_ok, TaskState.requirePlan_eq_ok, mergePlan, pure_eq_ok,
        Except.ok.injEq] at h
      obtain ⟨old, planned, merged, normalized, rfl⟩ := h
      have edited := normalizeMerge_edited (synced task old stored planned) normalized
      exact .edited _ old _ true rfl planned ⟨edited.stages, edited.instances, edited.status⟩
  | replace =>
      simp only [bind_eq_ok, replacePlan, pure_eq_ok] at h
      obtain ⟨fresh, normalized, h⟩ := h
      have allowed : task.status ∈ [.draft, .planned, .blockedUnavailable, .failed] := by
        simpa [guardPlanSaveState] using guarded
      have rest := ok_of_guarded h
      by_cases manual : task.startPolicy = .manual
      · simp only [manual, if_true, bind_eq_ok, Except.ok.injEq] at rest
        obtain ⟨-, -, rfl⟩ := rest
        exact .replaced payload expected task _ fresh _ stored allowed normalized
          (.inl ⟨manual, rfl⟩)
      · simp only [manual, if_false, bind_eq_ok, Except.ok.injEq] at rest
        obtain ⟨started, activated, -, -, rfl⟩ := rest
        exact .replaced payload expected task _ fresh _ stored allowed normalized
          (.inr ⟨manual, started, activated, rfl⟩)

end

theorem confirmStart_decision (h : confirmStart state envelope ambient = .ok commit) :
    Decision state envelope ambient .confirmStart commit := by
  simp only [confirmStart, bind_eq_ok, TaskState.requirePlan_eq_ok, ensure_eq_ok, pure_eq_ok,
    Except.ok.injEq] at h
  obtain ⟨plan, planned, -, -, -, awaiting, started, activated, -, -, rfl⟩ := h
  exact .confirmed plan started planned awaiting activated

theorem setManualFinished_decision {instanceId : Identifier} {manualFinished : Bool}
    (h : setManualFinished state envelope ambient instanceId manualFinished = .ok commit) :
    Decision state envelope ambient (.setManualFinished instanceId manualFinished) commit := by
  simp only [setManualFinished, bind_eq_ok, TaskState.requirePlan_eq_ok, pure_eq_ok,
    Except.ok.injEq] at h
  obtain ⟨-, -, plan, planned, -, -, -, -, -, -, -, -, rfl⟩ := h
  exact .edited _ plan _ false rfl planned
    (.of_modifyInstance plan instanceId ambient.now fun _ => ⟨rfl, rfl, rfl, rfl, rfl⟩)

theorem setManualBusinessStatus_decision {instanceId : Identifier}
    {businessStatus : BusinessStatus}
    (h : setManualBusinessStatus state envelope ambient instanceId businessStatus = .ok commit) :
    Decision state envelope ambient (.setManualBusinessStatus instanceId businessStatus)
      commit := by
  simp only [setManualBusinessStatus, bind_eq_ok, TaskState.requirePlan_eq_ok, pure_eq_ok,
    Except.ok.injEq] at h
  obtain ⟨-, -, plan, planned, -, -, -, -, -, -, rfl⟩ := h
  exact .edited _ plan _ false rfl planned
    (.of_modifyInstance plan instanceId ambient.now fun _ => ⟨rfl, rfl, rfl, rfl, rfl⟩)

theorem setApprovalMode_decision {instanceId : Identifier} {approvalMode : ApprovalMode}
    (h : setApprovalMode state envelope ambient instanceId approvalMode = .ok commit) :
    Decision state envelope ambient (.setApprovalMode instanceId approvalMode) commit := by
  simp only [setApprovalMode, bind_eq_ok, TaskState.requirePlan_eq_ok, pure_eq_ok,
    Except.ok.injEq] at h
  obtain ⟨-, -, plan, planned, -, -, -, -, -, -, rfl⟩ := h
  exact .edited _ plan _ false rfl planned
    (.of_modifyInstance plan instanceId ambient.now fun _ => ⟨rfl, rfl, rfl, rfl, rfl⟩)

theorem transitionInstance_decision {instanceId : Identifier} {target : InstanceStatus}
    (h : transitionInstance state envelope ambient instanceId target = .ok commit) :
    Decision state envelope ambient (.transitionInstance instanceId target) commit := by
  simp only [transitionInstance, bind_eq_ok, TaskState.requirePlan_eq_ok,
    transitionInstanceStatus_eq_ok, pure_eq_ok, Except.ok.injEq] at h
  obtain ⟨plan, planned, -, -, item, found, -, legal, new, moved, rfl⟩ := h
  obtain ⟨member, same⟩ := Plan.requireInstance_mem found
  exact .transitioned instanceId target plan new item planned member same legal moved

theorem rejectInstanceDelivery_decision {instanceId : Identifier} {rejection : RejectionRequest}
    (h : rejectInstanceDelivery state envelope ambient instanceId rejection = .ok commit) :
    Decision state envelope ambient (.rejectInstanceDelivery instanceId rejection) commit := by
  simp only [rejectInstanceDelivery, bind_eq_ok, TaskState.requirePlan_eq_ok,
    transitionInstanceStatus_eq_ok, pure_eq_ok, Except.ok.injEq] at h
  obtain ⟨plan, planned, -, -, item, found, -, -, -, legal, new, moved, rfl⟩ := h
  obtain ⟨member, same⟩ := Plan.requireInstance_mem found
  exact .rejected instanceId rejection plan new item planned member same legal moved

theorem restoreArchived_decision {restores : List InstanceRestore} {target : TaskStatus}
    (h : restoreArchived state envelope ambient restores target = .ok commit) :
    Decision state envelope ambient (.restoreArchived restores target) commit := by
  simp only [restoreArchived, bind_eq_ok, TaskState.requireTask_eq_ok, ensure_eq_ok] at h
  obtain ⟨task, stored, -, -, -, guarded, h⟩ := h
  cases planned : state.plan with
  | none =>
      simp only [planned, pure_eq_ok] at h
      have legal : target ≠ task.status → target ∈ task.status.transitions := by
        intro moves
        rcases guarded with archived | same
        · simp only [archived, if_true, bind_eq_ok, transitionTask_eq_ok] at h
          rw [archived]
          exact h.choose_spec.1
        · exact absurd same.symm moves
      have committed : commit =
          .task { task with status := target, updatedAt := ambient.now } state.taskRevision := by
        obtain ⟨-, -, h⟩ := bind_eq_ok.mp (ok_of_guarded h)
        exact (Except.ok.inj h).symm
      rw [committed]
      refine .planless _ task _ stored planned rfl legal fun others other same => ?_
      cases same
      exact guarded
  | some plan =>
      simp only [planned, bind_eq_ok] at h
      obtain ⟨instances, woken, refreshed, moved, h⟩ := h
      have legal : task.status = .archived →
          (refreshed.withStatus target).aggregateTask ∈ TaskStatus.archived.transitions := by
        intro archived
        simp only [archived, if_true, bind_eq_ok, transitionTask_eq_ok] at h
        exact h.choose_spec.1
      have committed : commit = .aggregate ((refreshed.withStatus
          (refreshed.withStatus target).aggregateTask).touch ambient.now) false := by
        split at h
        · obtain ⟨-, -, h⟩ := bind_eq_ok.mp h
          exact (Except.ok.inj h).symm
        · exact (Except.ok.inj (ok_of_guarded h)).symm
      rw [committed]
      exact .restored restores target task plan refreshed instances stored planned guarded woken
        moved legal

theorem downgradeInstance_decision {instanceId : Identifier} {reason : String}
    (h : downgradeInstance state envelope ambient instanceId reason = .ok commit) :
    Decision state envelope ambient (.downgradeInstance instanceId reason) commit := by
  simp only [downgradeInstance, bind_eq_ok, TaskState.requirePlan_eq_ok,
    Plan.requireMutable_eq_ok, ensure_eq_ok, pure_eq_ok, Except.ok.injEq] at h
  obtain ⟨-, -, plan, planned, -, mutable, -, -, item, found, -, ⟨-, -, activated⟩, base, recorded,
    new, moved, rfl⟩ := h
  obtain ⟨member, same⟩ := Plan.requireInstance_mem found
  exact .downgraded instanceId reason plan base new item _ planned mutable member same activated
    recorded moved

/-- Only a rename builds a request of its own, and it stays a rename. -/
theorem buildRequest_eq_ok {command request : Command}
    (h : buildRequest envelope command = .ok request) :
    request = command ∨
      ∃ title normalized, command = .renameTask title ∧ request = .renameTask normalized := by
  cases command with
  | renameTask title =>
      simp only [buildRequest, bind_eq_ok, pure_eq_ok, Except.ok.injEq] at h
      obtain ⟨-, -, -, -, rfl⟩ := h
      exact .inr ⟨title, _, rfl, rfl⟩
  | _ => exact .inl (Except.ok.inj h).symm

theorem command_of_buildRequest {command request : Command}
    (h : buildRequest envelope command = .ok request)
    (other : ∀ title, request ≠ .renameTask title) : command = request := by
  rcases buildRequest_eq_ok h with same | ⟨-, normalized, -, renamed⟩
  · exact same.symm
  · exact absurd renamed (other normalized)

/-- Every successful handler made one of the decisions. -/
theorem handle_decision {command : Command}
    (synced : ∀ task plan, state.task = some task → state.plan = some plan →
      task.status = plan.task.status)
    (h : handle state envelope ambient command = .ok commit) :
    Decision state envelope ambient command commit := by
  cases command with
  | createTask request => exact createTask_decision h
  | registerInputManifest inputManifest => exact registerInputManifest_decision h
  | renameTask title => exact renameTask_decision synced h
  | savePlan mode payload expected => exact savePlan_decision synced h
  | confirmStart => exact confirmStart_decision h
  | setManualFinished instanceId manualFinished => exact setManualFinished_decision h
  | setManualBusinessStatus instanceId businessStatus =>
      exact setManualBusinessStatus_decision h
  | transitionInstance instanceId target => exact transitionInstance_decision h
  | rejectInstanceDelivery instanceId rejection => exact rejectInstanceDelivery_decision h
  | setApprovalMode instanceId approvalMode => exact setApprovalMode_decision h
  | archiveTask => exact archiveTask_decision synced h
  | restoreArchived restores target => exact restoreArchived_decision h
  | cancelTask => exact cancelTask_decision synced h
  | downgradeInstance instanceId reason => exact downgradeInstance_decision h

end TaskCommandService

end

end DesignHarness
