import DesignHarness.Domain.History
import DesignHarness.Domain.Membership

/-!
# What a succeeded task has completed

`aggregate_stage` counts a required member as complete when it is `SUCCEEDED` or `ARCHIVED`, and
`aggregate_task` asks for the required stages only.  Over a run this means: when a stage or a task
is `SUCCEEDED`, every required instance of it has been in one of the two statuses at some point
since the plan was replaced, although it may have moved on since.
-/

namespace DesignHarness

open Library

/-- The plan has the instance in one of the given statuses. -/
def TaskState.hasInstance (state : TaskState) (key : Identifier) (statuses : InstanceStatus → Bool) :
    Prop :=
  ∃ plan, state.plan = some plan ∧
    ∃ item ∈ plan.instances, item.instanceId = key ∧ statuses item.status = true

/-- The call saves a new plan in the place of the one that is stored. -/
def Call.replacesPlan (observed : Observed) (call : Call) : Prop :=
  ∃ payload expected envelope ambient,
    call = .command (.savePlan .replace payload expected) envelope ambient ∧
      ∃ next, observed.perform call = .ok next

/-- At some point of the run since the plan was last replaced, the instance had one of the
    statuses. -/
def HasBeen (statuses : InstanceStatus → Bool) (calls : List Call) (key : Identifier) : Prop :=
  ∃ before after, calls = before ++ after ∧ (observe before).state.hasInstance key statuses ∧
    Along Observed.perform (fun observed call => ¬ call.replacesPlan observed) (observe before) after

section

variable {statuses : InstanceStatus → Bool} {calls : List Call} {call : Call} {key : Identifier}

theorem HasBeen.now (has : (observe calls).state.hasInstance key statuses) :
    HasBeen statuses calls key :=
  ⟨calls, [], (List.append_nil calls).symm, has, trivial⟩

theorem HasBeen.later (has : HasBeen statuses calls key)
    (keeps : ¬ call.replacesPlan (observe calls)) : HasBeen statuses (calls ++ [call]) key := by
  obtain ⟨before, after, rfl, present, along⟩ := has
  refine ⟨before, after ++ [call], (List.append_assoc ..), present, ?_⟩
  rw [along_snoc]
  refine ⟨along, ?_⟩
  rw [observe, runFrom_append] at keeps
  exact keeps

end

/-! ## One step -/

section

variable {now : Timestamp} {old new : Plan}

/-- A member of a stage, by its id. -/
theorem PlanValid.mem_members {plan : Plan} (valid : PlanValid plan) {stage : Stage}
    {item : AgentInstance} (member : item ∈ plan.instances)
    (listed : item.instanceId ∈ stage.instanceIds) : item ∈ stage.members plan.instances :=
  List.mem_filterMap.mpr ⟨item.instanceId, listed,
    (dictGet_eq_some_iff valid.instanceIdsDistinct).mpr ⟨member, rfl⟩⟩

/-- What a `SUCCEEDED` stage of a new plan rests on: its members, or the stage it was before. -/
def SucceededFrom (old : Plan) (instances : List AgentInstance) (stage : Stage) : Prop :=
  (∃ before ∈ old.stages, before.link = stage.link ∧ before.status = .succeeded ∧
    before.required = true) ∨
  ∀ item ∈ stage.members instances, item.required = true → item.status.isComplete = true

/-- Activation changes neither the members' statuses nor their requirements. -/
theorem members_complete_activateAll {instances : List AgentInstance} {keys : List Identifier}
    {stage : Stage} (complete : ∀ item ∈ stage.members instances, item.required = true →
      item.status.isComplete = true) :
    ∀ item ∈ stage.members (activateAll now keys instances), item.required = true →
      item.status.isComplete = true := by
  rw [members_activateAll]
  intro item member required
  obtain ⟨origin, originMember, rfl⟩ := List.mem_map.mp member
  have requirement : (if origin.instanceId ∈ keys then origin.activate now else origin).required =
      origin.required := by
    split <;> rfl
  have status : (if origin.instanceId ∈ keys then origin.activate now else origin).status =
      origin.status := by
    split <;> rfl
  rw [status]
  exact complete origin originMember (requirement ▸ required)

theorem Stage.members_congr {stage other : Stage} (same : other.link = stage.link)
    (instances : List AgentInstance) : other.members instances = stage.members instances := by
  rw [Stage.members, Stage.members, show other.instanceIds = stage.instanceIds from
    congrArg StageLink.instanceIds same]

theorem Stage.refreshed_required (now : Timestamp) (activateNew : Bool) (stages : List Stage)
    (instances : List AgentInstance) (stage : Stage) :
    (stage.refreshed now activateNew stages instances).required = stage.required := by
  unfold Stage.refreshed
  split <;> rfl

theorem Stage.started_required (now : Timestamp) (stages : List Stage)
    (instances : List AgentInstance) (stage : Stage) :
    (stage.started now stages instances).required = stage.required := by
  unfold Stage.started
  split <;> rfl

/-- A stage that a re-aggregation leaves `SUCCEEDED` had succeeded or is complete. -/
theorem Stage.refreshed_succeeded {stages : List Stage} {instances : List AgentInstance}
    {stage : Stage} {activateNew : Bool} (keys : List Identifier)
    (succeeded : (stage.refreshed now activateNew stages instances).status = .succeeded)
    (required : stage.required = true) :
    stage.status = .succeeded ∨
      ∀ item ∈ (stage.refreshed now activateNew stages instances).members
        (activateAll now keys instances), item.required = true →
          item.status.isComplete = true := by
  rw [Stage.refreshed_status, Stage.refreshTarget] at succeeded
  split at succeeded
  · cases succeeded
  · rw [Stage.members_congr (Stage.refreshed_link ..)]
    exact (Stage.succeeded_cases succeeded).imp_right fun complete =>
      members_complete_activateAll (complete.2 required)

theorem Stage.started_succeeded {stages : List Stage} {instances : List AgentInstance}
    {stage : Stage} (keys : List Identifier)
    (succeeded : (stage.started now stages instances).status = .succeeded)
    (required : stage.required = true) :
    stage.status = .succeeded ∨
      ∀ item ∈ (stage.started now stages instances).members (activateAll now keys instances),
        item.required = true → item.status.isComplete = true := by
  rw [Stage.members_congr (Stage.started_link ..)]
  unfold Stage.started at succeeded
  split at succeeded
  · exact (Stage.succeeded_cases succeeded).imp_right fun complete =>
      members_complete_activateAll (complete.2 required)
  · exact .inl succeeded

/-- A re-aggregated and then started stage of an extended or fresh plan. -/
theorem Plan.refreshed_started_succeeded {base : Plan} {stage : Stage}
    (member : stage ∈ ((base.refreshed now false).started now).stages)
    (succeeded : stage.status = .succeeded) (required : stage.required = true) :
    (∃ before ∈ base.stages, before.link = stage.link ∧ before.status = .succeeded ∧
      before.required = true) ∨
    ∀ item ∈ stage.members ((base.refreshed now false).started now).instances,
      item.required = true → item.status.isComplete = true := by
  obtain ⟨middle, middleMember, rfl⟩ := List.mem_map.mp member
  obtain ⟨before, beforeMember, rfl⟩ := List.mem_map.mp middleMember
  rw [Stage.started_required, Stage.refreshed_required] at required
  rcases Stage.started_succeeded _ succeeded
    ((Stage.refreshed_required ..).trans required) with first | complete
  · rcases Stage.refreshed_succeeded
      (activatedKeys (Stage.activatesOnRefresh false base.stages base.instances) base.stages)
      first required with same | complete
    · refine .inl ⟨before, beforeMember, ?_, same, required⟩
      rw [Stage.started_link, Stage.refreshed_link]
    · right
      rw [Stage.members_congr (Stage.started_link ..)]
      exact members_complete_activateAll complete
  · exact .inr complete

theorem PlanMove.succeeded (move : PlanMove now old new) :
    ∀ stage ∈ new.stages, stage.status = .succeeded → stage.required = true →
      SucceededFrom old new.instances stage := by
  intro stage member succeeded required
  cases move with
  | edited stages instances =>
      rw [stages] at member
      exact .inl ⟨stage, member, rfl, succeeded, required⟩
  | cancelled stages instances =>
      rw [stages] at member
      obtain ⟨before, beforeMember, rfl⟩ := List.mem_map.mp member
      unfold TaskCommandService.cancelStage at succeeded required ⊢
      split at succeeded
      · cases succeeded
      · rename_i kept
        rw [if_neg kept] at required ⊢
        exact .inl ⟨before, beforeMember, rfl, succeeded, required⟩
  | reaggregated base prepared legal stages instances =>
      rw [stages] at member
      rw [SucceededFrom, instances]
      obtain ⟨middle, middleMember, rfl⟩ := List.mem_map.mp member
      obtain ⟨before, beforeMember, origin⟩ := prepared.stages middle middleMember
      rw [Stage.refreshed_required] at required
      refine (Stage.refreshed_succeeded _ succeeded required).imp_left fun same => ?_
      refine ⟨before, beforeMember, ?_, origin.status.symm.trans same, origin.required required⟩
      rw [Stage.refreshed_link, origin.link]
  | confirmed awaiting stages instances =>
      rw [stages] at member
      rw [SucceededFrom, instances]
      obtain ⟨before, beforeMember, rfl⟩ := List.mem_map.mp member
      rw [Stage.started_required] at required
      refine (Stage.started_succeeded _ succeeded required).imp_left fun same => ?_
      exact ⟨before, beforeMember, (Stage.started_link ..).symm, same, required⟩
  | extended base wired baseStages baseInstances landed live stages instances =>
      rw [stages] at member
      rw [SucceededFrom, instances]
      refine (Plan.refreshed_started_succeeded member succeeded required).imp_left ?_
      rintro ⟨before, beforeMember, link, status, beforeRequired⟩
      rcases baseStages before beforeMember with kept | fresh
      · exact ⟨before, kept, link, status, beforeRequired⟩
      · rw [fresh.status] at status
        cases status

/-- In a fresh plan a `SUCCEEDED` stage rests on its members. -/
theorem FreshPlan.succeeded (fresh : FreshPlan now new) :
    ∀ stage ∈ new.stages, stage.status = .succeeded → stage.required = true →
      ∀ item ∈ stage.members new.instances, item.required = true →
        item.status.isComplete = true := by
  intro stage member succeeded required
  obtain ⟨base, wired, stages, instances, built⟩ := fresh.built
  rcases built with ⟨sameStages, sameInstances, -⟩ | ⟨sameStages, sameInstances, -⟩
  · rw [sameStages] at member
    rw [sameInstances]
    obtain ⟨before, beforeMember, rfl⟩ := List.mem_map.mp member
    rw [Stage.refreshed_required] at required
    rcases Stage.refreshed_succeeded _ succeeded required with same | complete
    · rw [(stages before beforeMember).status] at same
      cases same
    · exact complete
  · rw [sameStages] at member
    rw [sameInstances]
    rcases Plan.refreshed_started_succeeded member succeeded required with
      ⟨before, beforeMember, -, same, -⟩ | complete
    · rw [(stages before beforeMember).status] at same
      cases same
    · exact complete

/-- `SUCCEEDED` is final for a stage. -/
theorem Stage.refreshTarget_succeeded {stages : List Stage} {instances : List AgentInstance}
    {stage : Stage} (succeeded : stage.status = .succeeded)
    (legal : stage.checkRefresh stages instances = .ok ()) :
    stage.refreshTarget stages instances = .succeeded := by
  rw [Stage.checkRefresh, succeeded] at legal
  by_contra moves
  rw [if_pos ⟨moves, rfl⟩] at legal
  simp [validateStageReaggregation, StageStatus.transitions] at legal

/-- A task that has succeeded keeps its required stages `SUCCEEDED`, archived or not. -/
theorem PlanMove.all_succeeded (move : PlanMove now old new)
    (settled : old.task.status = .succeeded ∨ old.task.status = .archived)
    (all : ∀ stage ∈ old.stages, stage.required = true → stage.status = .succeeded) :
    ∀ stage ∈ new.stages, stage.required = true → stage.status = .succeeded := by
  intro stage member required
  cases move with
  | edited stages instances =>
      rw [stages] at member
      exact all stage member required
  | cancelled stages instances =>
      rw [stages] at member
      obtain ⟨before, beforeMember, rfl⟩ := List.mem_map.mp member
      unfold TaskCommandService.cancelStage at required ⊢
      by_cases cancels : .cancelled ∈ before.status.transitions
      · rw [if_pos cancels] at required
        rw [all before beforeMember required] at cancels
        cases cancels
      · rw [if_neg cancels] at required ⊢
        exact all before beforeMember required
  | reaggregated base prepared legal stages instances =>
      rw [stages] at member
      obtain ⟨middle, middleMember, rfl⟩ := List.mem_map.mp member
      obtain ⟨before, beforeMember, origin⟩ := prepared.stages middle middleMember
      rw [Stage.refreshed_required] at required
      have succeeded := all before beforeMember (origin.required required)
      exact Stage.refreshTarget_succeeded (origin.status.trans succeeded)
        (checkEach_eq_ok.mp legal middle middleMember)
  | confirmed awaiting stages instances =>
      rcases settled with same | same <;> rw [awaiting] at same <;> cases same
  | extended base wired baseStages baseInstances landed live stages instances =>
      rcases settled with same | same <;> rcases live with other | other <;> rw [other] at same <;>
        cases same

end

/-! ## Runs -/

/-- After a run: each `SUCCEEDED` required stage has completed its required instances, and a task
    that has succeeded, archived or not, has all its required stages `SUCCEEDED`. -/
structure CompletionInvariant (calls : List Call) (observed : Observed) : Prop where
  stages : ∀ plan, observed.state.plan = some plan → ∀ stage ∈ plan.stages,
    stage.status = .succeeded → stage.required = true → ∀ item ∈ plan.instances,
    item.instanceId ∈ stage.instanceIds → item.required = true →
    HasBeen InstanceStatus.isComplete calls item.instanceId
  task : ∀ plan, observed.state.plan = some plan →
    plan.task.status = .succeeded ∨
      (plan.task.status = .archived ∧ observed.preArchive = some .succeeded) →
    ∀ stage ∈ plan.stages, stage.required = true → stage.status = .succeeded

section

variable {calls : List Call} {call : Call} {key : Identifier}

/-- A new status of `SUCCEEDED` is either kept, or restored, or asks for all required stages. -/
theorem Decision.succeeded_cases {state : TaskState} {envelope : CommandEnvelope}
    {ambient : Ambient} {command : Command} {new : Plan} {skipUnchanged : Bool}
    (synced : ∀ task plan, state.task = some task → state.plan = some plan →
      task.status = plan.task.status)
    (decision : Decision state envelope ambient command (.aggregate new skipUnchanged))
    (succeeded : new.task.status = .succeeded) :
    (∀ stage ∈ new.stages, stage.required = true → stage.status = .succeeded) ∨
    (∃ old, state.plan = some old ∧ old.task.status = .succeeded) ∨
    ∃ restores task old, command = .restoreArchived restores .succeeded ∧
      state.task = some task ∧ state.plan = some old ∧ task.status = .archived := by
  have aggregated : ∀ plan : Plan, plan.stages = new.stages → plan.aggregateTask = .succeeded →
      (∀ stage ∈ new.stages, stage.required = true → stage.status = .succeeded) ∨
        plan.task.status = .succeeded := by
    intro plan same status
    rcases aggregateTask_cases plan with ⟨kept, -⟩ | ⟨-, h | h | h | ⟨h, -⟩ | ⟨-, complete⟩⟩
    · exact .inr (kept.symm.trans status)
    all_goals first
      | exact .inl (same ▸ complete)
      | (rw [h] at status; cases status)
  have reaggregated : ∀ {old base : Plan}, state.plan = some old →
      base.reaggregate ambient.now = .ok new → base.task.status = old.task.status →
      (∀ stage ∈ new.stages, stage.required = true → stage.status = .succeeded) ∨
        ∃ old, state.plan = some old ∧ old.task.status = .succeeded := by
    intro old base stored moved same
    obtain ⟨refreshed, ran, -, rfl⟩ := Plan.reaggregate_eq_ok.mp moved
    refine (aggregated refreshed rfl succeeded).imp_right fun kept => ⟨old, stored, ?_⟩
    rw [← same, ← refreshStages_task ran]
    exact kept
  cases decision with
  | edited command old new skip edits stored edited =>
      exact .inr (.inl ⟨old, stored, edited.status.symm.trans succeeded⟩)
  | archived old stored legal => cases succeeded
  | cancelled old stored legal => cases succeeded
  | replaced payload expected task planRevision fresh new stored guarded normalized saved =>
      rcases saved with ⟨-, rfl⟩ | ⟨-, started, activated, rfl⟩
      · cases succeeded
      · refine (aggregated started rfl succeeded).imp_right fun kept => ?_
        rw [activateCurrentStages_task activated] at kept
        cases kept
  | appended payload expected task planRevision old merged started storedTask stored guarded
      normalized activated =>
      refine (aggregated started rfl succeeded).imp_right fun kept => ?_
      rw [activateCurrentStages_task activated, (normalizeAppend_spec normalized).2.1] at kept
      rcases guarded with running | waiting
      · rw [running] at kept
        cases kept
      · rw [waiting] at kept
        cases kept
  | confirmed old started stored awaiting activated =>
      refine (aggregated started rfl succeeded).imp_right fun kept => ?_
      rw [activateCurrentStages_task activated, awaiting] at kept
      cases kept
  | transitioned instanceId target old new item stored member same legal moved =>
      exact (reaggregated stored moved rfl).imp_right .inl
  | rejected instanceId rejection old new item stored member same legal moved =>
      exact (reaggregated stored moved rfl).imp_right .inl
  | restored restores target task old refreshed instances storedTask stored guarded woken moved
      legal =>
      refine (aggregated (refreshed.withStatus target) rfl succeeded).imp_right fun kept => ?_
      obtain rfl : target = .succeeded := kept
      rcases guarded with archived | same
      · exact .inr ⟨restores, task, old, rfl, storedTask, stored, archived⟩
      · exact .inl ⟨old, stored, (synced task old storedTask stored).symm.trans same⟩
  | downgraded instanceId reason old base new item authorization stored mutable member same
      activated recorded moved =>
      exact (reaggregated stored moved (recordDowngrade_status recorded)).imp_right .inl

theorem Call.not_replacesPlan_of_error {observed : Observed} {error : Raised}
    (raised : observed.perform call = .error error) : ¬ call.replacesPlan observed := by
  rintro ⟨_, _, _, _, -, next, performed⟩
  rw [raised] at performed
  cases performed

theorem Call.not_replacesPlan_of_command {observed : Observed} {command : Command}
    {envelope : CommandEnvelope} {ambient : Ambient}
    (other : ∀ payload expected, command ≠ .savePlan .replace payload expected) :
    ¬ Call.replacesPlan observed (.command command envelope ambient) := by
  rintro ⟨payload, expected, _, _, same, -⟩
  injection same with same
  exact other payload expected same

/-- The stages after a step that kept the plan: what held before holds later in the run. -/
theorem CompletionInvariant.stages_of_move {now : Timestamp} {old new : Plan}
    (inv : CompletionInvariant calls (observe calls)) (stored : (observe calls).state.plan = some old)
    (oldValid : PlanValid old) (newValid : PlanValid new) (move : PlanMove now old new)
    (next : (observe (calls ++ [call])).state.plan = some new)
    (keeps : ¬ call.replacesPlan (observe calls)) :
    ∀ stage ∈ new.stages, stage.status = .succeeded → stage.required = true →
      ∀ item ∈ new.instances, item.instanceId ∈ stage.instanceIds → item.required = true →
        HasBeen InstanceStatus.isComplete (calls ++ [call]) item.instanceId := by
  intro stage member succeeded required item itemMember listed itemRequired
  rcases move.succeeded stage member succeeded required with
    ⟨before, beforeMember, link, beforeSucceeded, beforeRequired⟩ | complete
  · -- The stage had succeeded before, and the instance was required then too.
    have beforeListed : item.instanceId ∈ before.instanceIds := by
      rw [show before.instanceIds = stage.instanceIds from congrArg StageLink.instanceIds link]
      exact listed
    obtain ⟨origin, originMember, same, -⟩ := oldValid.listed_exists beforeMember beforeListed
    have originRequired : origin.required = true :=
      (move.instances_progressed oldValid originMember itemMember same.symm).required itemRequired
    have been := inv.stages old stored before beforeMember beforeSucceeded beforeRequired origin
      originMember (same ▸ beforeListed) originRequired
    exact same ▸ been.later keeps
  · have status := complete item (newValid.mem_members itemMember listed) itemRequired
    exact .now ⟨new, next, item, itemMember, rfl, status⟩

theorem CompletionInvariant.later {calls : List Call} {call : Call} {observed : Observed}
    (inv : CompletionInvariant calls observed) (keeps : ¬ call.replacesPlan (observe calls)) :
    CompletionInvariant (calls ++ [call]) observed where
  stages := fun plan stored stage member succeeded required item itemMember listed itemRequired =>
    (inv.stages plan stored stage member succeeded required item itemMember listed
      itemRequired).later keeps
  task := inv.task

/-- The task after a step that kept the plan. -/
theorem CompletionInvariant.task_of_move {now : Timestamp} {old new : Plan} {next : Observed}
    (inv : CompletionInvariant calls (observe calls)) (stored : (observe calls).state.plan = some old)
    (synced : (observe calls).state.status = some old.task.status)
    (move : PlanMove now old new) (nextStatus : next.state.status = some new.task.status)
    (snapshot : next.preArchive = (observe calls).snapshot next.state)
    (origin : new.task.status = .succeeded →
      (∀ stage ∈ new.stages, stage.required = true → stage.status = .succeeded) ∨
      old.task.status = .succeeded ∨
      (old.task.status = .archived ∧ (observe calls).preArchive = some .succeeded))
    (status : new.task.status = .succeeded ∨
      (new.task.status = .archived ∧ next.preArchive = some .succeeded)) :
    ∀ stage ∈ new.stages, stage.required = true → stage.status = .succeeded := by
  have kept : (old.task.status = .succeeded ∨
      (old.task.status = .archived ∧ (observe calls).preArchive = some .succeeded)) →
      ∀ stage ∈ new.stages, stage.required = true → stage.status = .succeeded := by
    intro settled
    exact move.all_succeeded (settled.imp_right And.left) (inv.task old stored settled)
  rcases status with succeeded | ⟨archived, remembered⟩
  · exact (origin succeeded).elim id kept
  · rw [snapshot, Observed.snapshot, nextStatus, synced, archived] at remembered
    by_cases wasArchived : old.task.status = .archived
    · simp only [wasArchived, ne_eq, not_true, and_false, if_false] at remembered
      exact kept (.inr ⟨wasArchived, remembered⟩)
    · simp only [Option.some.injEq, wasArchived, ne_eq, not_false_eq_true, and_self,
        if_true] at remembered
      exact kept (.inl remembered)

theorem CompletionInvariant.command {command : Command} {envelope : CommandEnvelope}
    {ambient : Ambient} {next : Observed}
    (inv : CompletionInvariant calls (observe calls))
    (faithful : (Call.command command envelope ambient).isFaithful (observe calls))
    (performed : (observe calls).perform (.command command envelope ambient) = .ok next)
    (reached : observe (calls ++ [.command command envelope ambient]) = next) :
    CompletionInvariant (calls ++ [.command command envelope ambient]) next := by
  have sound := observe_invariant calls
  obtain ⟨executed, snapshot⟩ := Observed.perform_eq_ok.mp performed
  obtain ⟨request, commit, built, decision, applied⟩ := sound.execute_decision executed
  have sameKind : ∀ payload expected, request = .savePlan .replace payload expected ↔
      command = .savePlan .replace payload expected := by
    intro payload expected
    rcases TaskCommandService.buildRequest_eq_ok built with same | ⟨-, -, rfl, rfl⟩
    · rw [same]
    · simp
  have sameRestore : ∀ restores target, request = .restoreArchived restores target →
      command = .restoreArchived restores target := by
    intro restores target restored
    rcases TaskCommandService.buildRequest_eq_ok built with same | ⟨title, normalized, -, renamed⟩
    · rw [← same, restored]
    · rw [renamed] at restored
      cases restored
  cases commit with
  | task payload expectedRevision =>
      obtain ⟨-, -, rest⟩ := TaskState.apply_task_eq_ok.mp applied
      have samePlan : next.state.plan = (observe calls).state.plan := by rw [rest]
      have keeps : ¬ Call.replacesPlan (observe calls) (.command command envelope ambient) := by
        refine Call.not_replacesPlan_of_command fun payload expected same => ?_
        obtain rfl := (sameKind payload expected).mpr same
        cases decision with
        | planless command task payload stored noPlan moved => cases moved
      refine ⟨fun plan stored => (inv.later keeps).stages plan (samePlan ▸ stored),
        fun plan stored status => inv.task plan (samePlan ▸ stored) ?_⟩
      rw [samePlan] at stored
      have nextStatus : next.state.status = (observe calls).state.status := by
        cases decision with
        | created request payload draft =>
            have positive := (sound.stored plan stored).1
            have revision := (TaskState.apply_task_eq_ok.mp applied).2.1
            omega
        | registered inputManifest task found =>
            rw [rest]
            simp [TaskState.status, found]
        | planless command task payload found noPlan =>
            rw [stored] at noPlan
            cases noPlan
      refine status.imp_right fun ⟨archived, remembered⟩ => ⟨archived, ?_⟩
      rw [snapshot, Observed.snapshot, nextStatus] at remembered
      simpa using remembered
  | aggregate new skipUnchanged =>
      obtain ⟨valid, rest⟩ := TaskState.apply_aggregate_eq_ok.mp applied
      have nextPlan : next.state.plan = some new := by rw [rest]
      have nextStatus : next.state.status = some new.task.status := by
        rw [rest]
        rfl
      have reachedPlan : (observe (calls ++ [.command command envelope ambient])).state.plan =
          some new := by rw [reached, nextPlan]
      suffices parts :
          (∀ stage ∈ new.stages, stage.status = .succeeded → stage.required = true →
            ∀ item ∈ new.instances, item.instanceId ∈ stage.instanceIds → item.required = true →
              HasBeen InstanceStatus.isComplete (calls ++ [.command command envelope ambient])
                item.instanceId) ∧
          (new.task.status = .succeeded ∨
              (new.task.status = .archived ∧ next.preArchive = some .succeeded) →
            ∀ stage ∈ new.stages, stage.required = true → stage.status = .succeeded) by
        refine ⟨fun plan stored => ?_, fun plan stored => ?_⟩
        · obtain rfl := Option.some.inj (nextPlan.symm.trans stored)
          exact parts.1
        · obtain rfl := Option.some.inj (nextPlan.symm.trans stored)
          exact parts.2
      have fresh : ∀ {payload expected}, request = .savePlan .replace payload expected →
          (∀ stage ∈ new.stages, stage.status = .succeeded → stage.required = true →
            ∀ item ∈ new.instances, item.instanceId ∈ stage.instanceIds → item.required = true →
              HasBeen InstanceStatus.isComplete (calls ++ [.command command envelope ambient])
                item.instanceId) := by
        rintro payload expected rfl stage member succeeded required item itemMember listed
          itemRequired
        have status := decision.freshPlan.succeeded stage member succeeded required item
          (valid.mem_members itemMember listed) itemRequired
        exact .now ⟨new, reachedPlan, item, itemMember, rfl, status⟩
      have freshArchived : ∀ {payload expected}, request = .savePlan .replace payload expected →
          new.task.status ≠ .archived := by
        rintro payload expected rfl
        cases decision with
        | edited command other new skip edits => cases edits
        | replaced payload expected task planRevision fresh new stored guarded normalized saved =>
            rcases saved with ⟨-, rfl⟩ | ⟨-, started, activated, rfl⟩
            · simp
            · intro archived
              rw [Plan.touch_status, Plan.withStatus_status] at archived
              rcases aggregateTask_cases started with ⟨-, terminal | same⟩ |
                ⟨-, h | h | h | ⟨h, -⟩ | ⟨h | h, -⟩⟩
              · rw [activateCurrentStages_task activated] at terminal
                cases terminal
              · rw [activateCurrentStages_task activated] at same
                cases same
              all_goals rw [h] at archived; cases archived
      cases stored : (observe calls).state.plan with
      | none =>
          obtain ⟨payload, expected, replaced⟩ := decision.command_of_planless stored
          refine ⟨fresh replaced, fun status => ?_⟩
          rcases status with succeeded | ⟨archived, -⟩
          · rcases decision.succeeded_cases sound.synced succeeded with all | ⟨old, found, -⟩ |
              ⟨-, -, old, -, -, found, -⟩
            · exact all
            · rw [stored] at found
              cases found
            · rw [stored] at found
              cases found
          · exact absurd archived (freshArchived replaced)
      | some old =>
          have oldValid := (sound.plan old stored).valid
          have syncedTask := fun task found => sound.synced task old found stored
          have synced : (observe calls).state.status = some old.task.status := by
            obtain ⟨task, found⟩ := Option.isSome_iff_exists.mp (sound.stored old stored).2
            rw [TaskState.status, found, Option.map_some, syncedTask task found]
          have origin : new.task.status = .succeeded →
              (∀ stage ∈ new.stages, stage.required = true → stage.status = .succeeded) ∨
              old.task.status = .succeeded ∨
              (old.task.status = .archived ∧ (observe calls).preArchive = some .succeeded) := by
            intro succeeded
            rcases decision.succeeded_cases sound.synced succeeded with all |
              ⟨other, found, status⟩ | ⟨restores, task, other, restored, storedTask, -, archived⟩
            · exact .inl all
            · obtain rfl := Option.some.inj (stored.symm.trans found)
              exact .inr (.inl status)
            · refine .inr (.inr ⟨(syncedTask task storedTask).symm.trans archived, ?_⟩)
              rw [sameRestore _ _ restored] at faithful
              refine faithful ?_
              rw [TaskState.status, storedTask, Option.map_some, archived]
          rcases decision.planMove oldValid stored syncedTask with move |
            ⟨payload, expected, replaced⟩
          · by_cases replaces : ∃ payload expected, command = .savePlan .replace payload expected
            · obtain ⟨payload, expected, same⟩ := replaces
              refine ⟨fresh ((sameKind payload expected).mpr same), ?_⟩
              exact inv.task_of_move stored synced move nextStatus snapshot origin
            · have keeps : ¬ Call.replacesPlan (observe calls) (.command command envelope ambient) :=
                Call.not_replacesPlan_of_command fun payload expected same =>
                  replaces ⟨payload, expected, same⟩
              exact ⟨inv.stages_of_move stored oldValid valid move reachedPlan keeps,
                inv.task_of_move stored synced move nextStatus snapshot origin⟩
          · refine ⟨fresh replaced, fun status => ?_⟩
            subst replaced
            have guarded := decision.replaced_status syncedTask
            rcases status with succeeded | ⟨archived, -⟩
            · rcases origin succeeded with all | same | ⟨same, -⟩
              · exact all
              · rw [same] at guarded
                simp at guarded
              · rw [same] at guarded
                simp at guarded
            · exact absurd archived (freshArchived rfl)

theorem CompletionInvariant.updateInstanceFields {instanceId : Identifier}
    {changes : InstanceChanges} {next : Observed}
    (inv : CompletionInvariant calls (observe calls))
    (performed : (observe calls).perform (.updateInstanceFields instanceId changes) = .ok next)
    (reached : observe (calls ++ [.updateInstanceFields instanceId changes]) = next) :
    CompletionInvariant (calls ++ [.updateInstanceFields instanceId changes]) next := by
  have sound := observe_invariant calls
  obtain ⟨updated, snapshot⟩ := Observed.perform_eq_ok.mp performed
  have keeps : ¬ Call.replacesPlan (observe calls) (.updateInstanceFields instanceId changes) := by
    rintro ⟨_, _, _, _, same, -⟩
    cases same
  obtain ⟨old, stored, same | ⟨accepted, nextPlan, nextTask, -⟩⟩ := updateInstanceFields_eq_ok updated
  · have unchanged : next = observe calls := by
      have remembered : next.preArchive = (observe calls).preArchive := by
        rw [snapshot, Observed.snapshot, same]
        simp
      cases next
      simp_all
    rw [unchanged]
    exact inv.later keeps
  · have oldValid := (sound.plan old stored).valid
    have move : PlanMove "" old (old.modifyInstance instanceId changes.apply) :=
      .of_edited (.of_changes old instanceId changes)
    have newValid := oldValid.modifyInstance accepted
    have synced : (observe calls).state.status = some old.task.status := by
      obtain ⟨task, found⟩ := Option.isSome_iff_exists.mp (sound.stored old stored).2
      rw [TaskState.status, found, Option.map_some, sound.synced task old found stored]
    have nextStatus : next.state.status = some old.task.status := by
      rw [TaskState.status, nextTask]
      rfl
    refine ⟨fun plan found => ?_, fun plan found => ?_⟩
    · obtain rfl := Option.some.inj (nextPlan.symm.trans found)
      exact inv.stages_of_move stored oldValid newValid move (reached ▸ nextPlan) keeps
    · obtain rfl := Option.some.inj (nextPlan.symm.trans found)
      exact inv.task_of_move stored synced move nextStatus snapshot fun status => .inr (.inl status)

/-- The invariant holds along every faithful run. -/
theorem completionInvariant {calls : List Call} (faithful : FaithfulRun calls) :
    CompletionInvariant calls (observe calls) := by
  refine observe_induction ?_ ?_ ?_ faithful
  · constructor <;> intro plan stored <;> cases stored
  · exact fun calls call error raised inv => inv.later (Call.not_replacesPlan_of_error raised)
  · intro calls call next condition performed reached inv
    cases call with
    | command command envelope ambient => exact inv.command condition performed reached
    | updateInstanceFields instanceId changes => exact inv.updateInstanceFields performed reached

end

/-- Over every faithful run: each required instance that a `SUCCEEDED` required stage lists has
    been `SUCCEEDED` or `ARCHIVED` since the plan was last replaced, and when the task is
    `SUCCEEDED` this covers the required instances of every required stage. -/
theorem succeeded_instances_completed {calls : List Call} (faithful : FaithfulRun calls)
    {plan : Plan} (stored : (observe calls).state.plan = some plan) :
    ∀ stage ∈ plan.stages, stage.required = true →
      (stage.status = .succeeded ∨ (observe calls).state.status = some .succeeded) →
      ∀ item ∈ plan.instances, item.instanceId ∈ stage.instanceIds → item.required = true →
        HasBeen InstanceStatus.isComplete calls item.instanceId := by
  intro stage member required succeeded item itemMember listed itemRequired
  have inv := completionInvariant faithful
  have sound := observe_invariant calls
  have stageSucceeded : stage.status = .succeeded := by
    rcases succeeded with same | taskSucceeded
    · exact same
    · obtain ⟨task, found⟩ := Option.isSome_iff_exists.mp (sound.stored plan stored).2
      have status : plan.task.status = .succeeded := by
        rw [← sound.synced task plan found stored]
        simpa [TaskState.status, found] using taskSucceeded
      exact inv.task plan stored (.inl status) stage member required
  exact inv.stages plan stored stage member stageSucceeded required item itemMember listed
    itemRequired

/-! ## Success without the success of a required instance -/

/-- The status of an instance after a run. -/
def instanceStatus (calls : List Call) (key : Identifier) : Option InstanceStatus :=
  (observe calls).state.plan.bind fun plan =>
    (plan.instances.find? (·.instanceId = key)).map AgentInstance.status

/-- The task ends up `SUCCEEDED`, and its required instance was never `SUCCEEDED` from the last
    save of the plan on. -/
def SucceedsWithout (saved later : List Call) (key : Identifier) : Prop :=
  (observe (saved ++ later)).state.status = some .succeeded ∧
    (∃ plan ∈ (observe (saved ++ later)).state.plan, ∃ item ∈ plan.instances,
      item.instanceId = key ∧ item.required = true) ∧
    ∀ before ∈ later.inits, instanceStatus (saved ++ before) key ≠ some .succeeded

instance (saved later : List Call) (key : Identifier) : Decidable (SucceedsWithout saved later key) := by
  unfold SucceedsWithout
  infer_instance

/-- Two required instances in two stages; the first stage may be optional. -/
def splitPayload (required : Bool) : PlanPayload where
  stages := [sampleStage "s1" .general 1 ["a"] required, sampleStage "s2" .general 2 ["b"]]
  instances := [sampleInstance "a" "s1" .general, sampleInstance "b" "s2" .general]
  taskCards := [sampleCard "a" "s1" .general, sampleCard "b" "s2" .general]

/-- Instance `a` fails and is archived, then `b` succeeds. -/
def archivedFailure : List Call :=
  sampleTransitions 2 [("a", .starting), ("a", .running), ("b", .starting), ("b", .running),
    ("a", .failed), ("a", .archived), ("b", .succeeded)]

/-- A required instance counts as complete when it failed and was archived, is not looked at in an
    optional stage, keeps a success from before a merge, and is not looked at by a restore. -/
theorem succeeded_without_required_success :
    SucceedsWithout (samplePlanned .auto pairPayload) archivedFailure "a" ∧
    SucceedsWithout (samplePlanned .auto (splitPayload false))
      (sampleTransitions 2 [("a", .cancelled), ("b", .starting), ("b", .running),
        ("b", .succeeded)]) "a" ∧
    SucceedsWithout
      (samplePlanned .auto (splitPayload true) ++
        sampleTransitions 2 [("a", .starting), ("a", .running), ("b", .starting), ("b", .running),
          ("a", .succeeded), ("a", .stopped)] ++
        [sampleCall 8 (.savePlan .merge (splitPayload true) none)])
      (sampleTransitions 9 [("b", .succeeded)]) "a" ∧
    SucceedsWithout (samplePlanned .auto pairPayload)
      [sampleCall 2 .archiveTask, sampleCall 3 (.restoreArchived [] .succeeded)] "a" := by
  decide

theorem succeeded_instances_completed_archivedFailure :
    HasBeen InstanceStatus.isComplete (samplePlanned .auto pairPayload ++ archivedFailure) "a" := by
  have stored : ∃ plan ∈ (observe (samplePlanned .auto pairPayload ++ archivedFailure)).state.plan,
      ∃ stage ∈ plan.stages, stage.required = true ∧ stage.status = .succeeded ∧
        ∃ item ∈ plan.instances, item.instanceId = "a" ∧ item.instanceId ∈ stage.instanceIds ∧
          item.required = true := by
    decide
  obtain ⟨plan, stored, stage, stageMember, required, succeeded, item, member, same, listed,
    itemRequired⟩ := stored
  rw [← same]
  exact succeeded_instances_completed (by decide) stored stage stageMember required
    (.inl succeeded) item member listed itemRequired

end DesignHarness
