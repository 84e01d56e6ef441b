import DesignHarness.Domain.Requirements

/-!
# Graded success

`aggregate_task` grades a finished task by the fields that a downgrade leaves in the plan
(`state_machine.py:117-133`).  `Tracked` records the downgrades themselves, from one replacement of
the plan to the next, and the grade is compared with that record.
-/

namespace DesignHarness

open Library Requirement

/-- A committed `downgrade_instance`. -/
structure Downgrade where
  instanceId : Identifier
  authorization : AuthorizedDowngrade
  deriving DecidableEq, Repr

/-- The store with the number of replacements of the plan and the downgrades since the last one. -/
structure Tracked where
  state : TaskState
  replacements : Nat
  downgrades : List Downgrade
  deriving DecidableEq, Repr

def Tracked.initial : Tracked := ⟨.empty, 0, []⟩

/-- The downgrade that a command asks for, of the plan it finds. -/
def TaskState.downgrade (state : TaskState) (instanceId : Identifier) (reason : String)
    (envelope : CommandEnvelope) (ambient : Ambient) : List Downgrade :=
  (state.plan.map fun plan =>
    ⟨instanceId, downgradeAuthorization envelope ambient reason plan⟩).toList

/-- What a call that was committed adds to the record. -/
def Tracked.record (before : Tracked) (next : TaskState) : Call → Tracked
  | .command (.savePlan .replace _ _) _ _ => ⟨next, before.replacements + 1, []⟩
  | .command (.downgradeInstance instanceId reason) envelope ambient =>
      ⟨next, before.replacements,
        before.downgrades ++ before.state.downgrade instanceId reason envelope ambient⟩
  | _ => ⟨next, before.replacements, before.downgrades⟩

def Tracked.perform (tracked : Tracked) (call : Call) : Outcome Tracked := do
  let next ← tracked.state.perform call
  return tracked.record next call

/-- The store after a run, with its record. -/
def track (calls : List Call) : Tracked := runFrom Tracked.perform .initial calls

theorem Tracked.record_state (tracked : Tracked) (next : TaskState) (call : Call) :
    (tracked.record next call).state = next := by
  unfold Tracked.record
  split <;> rfl

theorem Tracked.perform_eq_ok {tracked next : Tracked} {call : Call} :
    tracked.perform call = .ok next ↔
      tracked.state.perform call = .ok next.state ∧ next = tracked.record next.state call := by
  simp only [Tracked.perform, bind_eq_ok, pure_eq_ok, Except.ok.injEq]
  constructor
  · rintro ⟨state, performed, rfl⟩
    rw [Tracked.record_state]
    exact ⟨performed, rfl⟩
  · rintro ⟨performed, recorded⟩
    exact ⟨next.state, performed, recorded.symm⟩

theorem track_state (calls : List Call) : (track calls).state = runOf calls := by
  refine runFrom_forget (fun tracked call => ?_) Tracked.initial calls
  unfold Tracked.perform
  cases tracked.state.perform call with
  | ok next => exact congrArg Except.ok (tracked.record_state next call)
  | error error => rfl

theorem track_invariant (calls : List Call) : StateInvariant (track calls).state := by
  rw [track_state]
  exact runOf_invariant calls

/-- The downgrades of the record are those that the plan shows. -/
structure DowngradesShown (plan : Plan) (downgrades : List Downgrade) : Prop where
  instances : ∀ requirement ∈ plan.instanceRequirements, AsPlanned requirement ∨
    ∃ authorization, Downgraded authorization requirement ∧
      ⟨requirement.id, authorization⟩ ∈ downgrades
  recorded : ∀ downgrade ∈ downgrades, ∃ requirement ∈ plan.instanceRequirements,
    requirement.id = downgrade.instanceId ∧ Downgraded downgrade.authorization requirement
  stages : ∀ requirement ∈ plan.stageRequirements,
    requirement.lifecycle.authorizedDowngrade.isSome = true → downgrades ≠ []

theorem isActivatedDowngrade_iff {requirement : Requirement} :
    isActivatedDowngrade requirement.required requirement.lifecycle = true ↔
      ∃ authorization, Downgraded authorization requirement := by
  unfold isActivatedDowngrade
  simp only [Bool.and_eq_true, Bool.not_eq_true']
  constructor
  · rintro ⟨⟨⟨original, dropped⟩, activated⟩, authorized⟩
    obtain ⟨authorization, found⟩ := Option.isSome_iff_exists.mp authorized
    exact ⟨authorization, dropped, original, activated, found⟩
  · rintro ⟨authorization, downgraded⟩
    refine ⟨⟨⟨downgraded.original, downgraded.required⟩, downgraded.activated⟩, ?_⟩
    rw [downgraded.authorized]
    rfl

/-- `aggregate_task` sees a downgrade exactly when one is on record. -/
theorem DowngradesShown.anyDowngraded_iff {plan : Plan} {downgrades : List Downgrade}
    (shown : DowngradesShown plan downgrades) :
    anyDowngraded plan.stages plan.instances = true ↔ downgrades ≠ [] := by
  unfold anyDowngraded
  rw [Bool.or_eq_true, List.any_eq_true, List.any_eq_true]
  constructor
  · rintro (⟨stage, member, downgraded⟩ | ⟨item, member, downgraded⟩)
    · have authorized : stage.requirementLifecycle.authorizedDowngrade.isSome = true := by
        unfold isActivatedDowngrade at downgraded
        exact (Bool.and_eq_true _ _ ▸ downgraded).2
      exact shown.stages stage.requirement (List.mem_map_of_mem member) authorized
    · rcases shown.instances item.requirement (List.mem_map_of_mem member) with
        planned | ⟨authorization, -, recorded⟩
      · have found : ∃ authorization, Downgraded authorization item.requirement :=
          isActivatedDowngrade_iff.mp downgraded
        obtain ⟨authorization, found⟩ := found
        exact absurd (found.authorized.symm.trans planned.unauthorized) (by simp)
      · exact List.ne_nil_of_mem recorded
  · intro some_
    obtain ⟨downgrade, member⟩ := List.exists_mem_of_ne_nil _ some_
    obtain ⟨requirement, listed, -, downgraded⟩ := shown.recorded downgrade member
    obtain ⟨item, itemMember, rfl⟩ := List.mem_map.mp listed
    exact .inr ⟨item, itemMember, isActivatedDowngrade_iff.mpr ⟨_, downgraded⟩⟩

/-- A plan of new items shows no downgrade. -/
theorem DowngradesShown.of_planned {plan : Plan}
    (stages : ∀ requirement ∈ plan.stageRequirements, AsPlanned requirement)
    (instances : ∀ requirement ∈ plan.instanceRequirements, AsPlanned requirement) :
    DowngradesShown plan [] where
  instances := fun requirement member => .inl (instances requirement member)
  recorded := fun downgrade member => by cases member
  stages := by
    intro requirement member authorized
    rw [(stages requirement member).unauthorized] at authorized
    cases authorized

theorem DowngradesShown.extended {old new : Plan} {downgrades : List Downgrade}
    (shown : DowngradesShown old downgrades) (extended : PlanExtended old new) :
    DowngradesShown new downgrades := by
  obtain ⟨moreStages, stagesPlanned, stages⟩ := extended.stages
  obtain ⟨moreInstances, instancesPlanned, instances⟩ := extended.instances
  refine ⟨fun after member => ?_, fun downgrade member => ?_, fun after member authorized => ?_⟩
  · obtain ⟨before, beforeMember, kept⟩ := exists_left_of_forall₂ instances member
    rcases List.mem_append.mp beforeMember with landed | added
    · rcases shown.instances before landed with planned | ⟨authorization, downgraded, recorded⟩
      · exact .inl (planned.kept kept)
      · exact .inr ⟨authorization, downgraded.kept kept, kept.id ▸ recorded⟩
    · exact .inl ((instancesPlanned before added).kept kept)
  · obtain ⟨before, landed, same, downgraded⟩ := shown.recorded downgrade member
    obtain ⟨after, afterMember, kept⟩ :=
      exists_right_of_forall₂ instances (List.mem_append_left _ landed)
    exact ⟨after, afterMember, kept.id.trans same, downgraded.kept kept⟩
  · obtain ⟨before, beforeMember, kept⟩ := exists_left_of_forall₂ stages member
    rw [kept.authorizedDowngrade] at authorized
    rcases List.mem_append.mp beforeMember with landed | added
    · exact shown.stages before landed authorized
    · rw [(stagesPlanned before added).unauthorized] at authorized
      cases authorized

/-- A downgrade adds its record. -/
theorem DowngradesShown.waived {old new : Plan} {downgrades : List Downgrade} {item : AgentInstance}
    {authorization : AuthorizedDowngrade} (shown : DowngradesShown old downgrades)
    (valid : PlanValid old) (member : item ∈ old.instances)
    (required : item.required = true)
    (original : item.requirementLifecycle.originalRequired = true)
    (activated : item.requirementLifecycle.firstActivatedAt.isSome = true)
    (waived : PlanWaived authorization item.instanceId old new) :
    DowngradesShown new (downgrades ++ [⟨item.instanceId, authorization⟩]) := by
  have target : ∀ before ∈ old.instanceRequirements, before.id = item.instanceId →
      before = item.requirement := by
    intro before beforeMember same
    obtain ⟨other, otherMember, rfl⟩ := List.mem_map.mp beforeMember
    exact congrArg AgentInstance.requirement
      (List.inj_on_of_nodup_map valid.instanceIdsDistinct otherMember member same)
  have downgraded : ∀ {after}, Waived authorization item.requirement after →
      Downgraded authorization after := fun {after} change =>
    ⟨change.dropped, change.original.trans original, change.toLasts.isSome activated,
      change.authorized⟩
  refine ⟨fun after afterMember => ?_, fun downgrade recorded => ?_, fun _ _ _ => by simp⟩
  · obtain ⟨before, beforeMember, ⟨-, kept⟩ | ⟨same, change⟩⟩ :=
      exists_left_of_forall₂ waived.instances afterMember
    · rcases shown.instances before beforeMember with planned | ⟨other, downgrade, recorded⟩
      · exact .inl (planned.kept kept)
      · exact .inr ⟨other, downgrade.kept kept, List.mem_append_left _ (kept.id ▸ recorded)⟩
    · rw [target before beforeMember same] at change
      refine .inr ⟨authorization, downgraded change, List.mem_append_right _ ?_⟩
      rw [change.id]
      exact List.mem_singleton_self _
  · rcases List.mem_append.mp recorded with earlier | last
    · obtain ⟨before, beforeMember, id, shownBefore⟩ := shown.recorded downgrade earlier
      obtain ⟨after, afterMember, ⟨-, kept⟩ | ⟨same, -⟩⟩ :=
        exists_right_of_forall₂ waived.instances beforeMember
      · exact ⟨after, afterMember, kept.id.trans id, shownBefore.kept kept⟩
      · -- The instance was still required, so it was not on record before.
        rw [target before beforeMember same] at shownBefore
        exact absurd (shownBefore.required.symm.trans required) (by simp)
    · obtain rfl := List.mem_singleton.mp last
      obtain ⟨after, afterMember, ⟨different, -⟩ | ⟨-, change⟩⟩ :=
        exists_right_of_forall₂ waived.instances (List.mem_map_of_mem member)
      · exact absurd rfl different
      · exact ⟨after, afterMember, change.id, downgraded change⟩

/-! ## One step of a run -/

/-- What a call does to the plan and to the record. -/
inductive Tracked.Step (before after : Tracked) : Prop where
  /-- The plan is new. -/
  | replaced (new : Plan) (made : after.state.plan = some new)
      (stages : ∀ requirement ∈ new.stageRequirements, AsPlanned requirement)
      (instances : ∀ requirement ∈ new.instanceRequirements, AsPlanned requirement)
      (counted : after.replacements = before.replacements + 1) (forgotten : after.downgrades = [])
  /-- An instance is downgraded. -/
  | downgraded (old new : Plan) (item : AgentInstance) (authorization : AuthorizedDowngrade)
      (stored : before.state.plan = some old) (made : after.state.plan = some new)
      (member : item ∈ old.instances) (required : item.required = true)
      (original : item.requirementLifecycle.originalRequired = true)
      (activated : item.requirementLifecycle.firstActivatedAt.isSome = true)
      (waived : PlanWaived authorization item.instanceId old new)
      (counted : after.replacements = before.replacements)
      (recorded : after.downgrades = before.downgrades ++ [⟨item.instanceId, authorization⟩])
  /-- The plan is kept, or appended to. -/
  | extended (old new : Plan) (stored : before.state.plan = some old)
      (made : after.state.plan = some new) (extended : PlanExtended old new)
      (counted : after.replacements = before.replacements)
      (same : after.downgrades = before.downgrades)
  /-- The call does not write the plan. -/
  | unplanned (unwritten : after.state.plan = before.state.plan)
      (counted : after.replacements = before.replacements)
      (same : after.downgrades = before.downgrades)

section

variable {tracked next : Tracked} {envelope : CommandEnvelope} {ambient : Ambient}
  {command request : Command}

theorem Tracked.record_request (state : TaskState)
    (built : TaskCommandService.buildRequest envelope command = .ok request) :
    tracked.record state (.command command envelope ambient) =
      tracked.record state (.command request envelope ambient) := by
  rcases TaskCommandService.buildRequest_eq_ok built with rfl | ⟨title, normalized, rfl, rfl⟩
  · rfl
  · rfl

theorem Tracked.record_other (state : TaskState)
    (kept : ∀ payload expected, command ≠ .savePlan .replace payload expected)
    (required : ∀ instanceId reason, command ≠ .downgradeInstance instanceId reason) :
    tracked.record state (.command command envelope ambient) =
      ⟨state, tracked.replacements, tracked.downgrades⟩ := by
  unfold Tracked.record
  split
  · rename_i payload expected _ _ same
    cases same
    exact absurd rfl (kept payload expected)
  · rename_i instanceId reason _ _ same
    cases same
    exact absurd rfl (required instanceId reason)
  · rfl

theorem Decision.replaced_planned {state : TaskState} {payload : PlanPayload}
    {expected : Option Nat} {new : Plan} {skipUnchanged : Bool}
    (decision : Decision state envelope ambient (.savePlan .replace payload expected)
      (.aggregate new skipUnchanged)) :
    (∀ requirement ∈ new.stageRequirements, AsPlanned requirement) ∧
      ∀ requirement ∈ new.instanceRequirements, AsPlanned requirement := by
  cases decision with
  | edited command other new skip edits found edited => cases edits
  | replaced payload expected task planRevision fresh new stored guarded normalized saved =>
      have planned := normalizePlan_planned normalized
      rcases saved with ⟨-, rfl⟩ | ⟨-, started, activated, rfl⟩
      · exact planned
      · obtain ⟨valid, -⟩ := normalizePlan_spec normalized
        have wired : WiredPlan (fresh.withStatus .planned).stages
            (fresh.withStatus .planned).instances := valid.wired
        obtain rfl := activateCurrentStages_eq_ok wired activated
        have kept := (fresh.withStatus .planned).started_kept ambient.now
        constructor
        · intro after member
          obtain ⟨before, beforeMember, related⟩ := exists_left_of_forall₂ kept.stages member
          exact (planned.1 before beforeMember).kept related
        · intro after member
          obtain ⟨before, beforeMember, related⟩ := exists_left_of_forall₂ kept.instances member
          exact (planned.2 before beforeMember).kept related

theorem Tracked.command_step (inv : StateInvariant tracked.state)
    (performed : tracked.perform (.command command envelope ambient) = .ok next) :
    tracked.Step next := by
  obtain ⟨executed, recorded⟩ := Tracked.perform_eq_ok.mp performed
  obtain ⟨request, commit, built, handled, applied⟩ := TaskState.execute_eq_ok.mp executed
  rw [Tracked.record_request next.state built] at recorded
  have decision := TaskCommandService.handle_decision inv.synced handled
  by_cases replaces : ∃ payload expected, request = .savePlan .replace payload expected
  · obtain ⟨payload, expected, rfl⟩ := replaces
    cases commit with
    | task written expectedRevision =>
        cases decision with
        | planless _ _ _ _ _ moved => cases moved
    | aggregate new skipUnchanged =>
        obtain ⟨-, same⟩ := TaskState.apply_aggregate_eq_ok.mp applied
        have planned := decision.replaced_planned
        refine .replaced new ?_ planned.1 planned.2 ?_ ?_
        · rw [same]
        · rw [recorded]
          rfl
        · rw [recorded]
          rfl
  by_cases downgrades : ∃ instanceId reason, request = .downgradeInstance instanceId reason
  · obtain ⟨instanceId, reason, rfl⟩ := downgrades
    cases stored : tracked.state.plan with
    | none =>
        obtain ⟨-, -, handled⟩ := bind_eq_ok.mp handled
        obtain ⟨plan, found, -⟩ := bind_eq_ok.mp handled
        rw [TaskState.requirePlan_eq_ok, stored] at found
        cases found
    | some old =>
        obtain ⟨item, member, new, rfl, rfl, required, original, activated, waived⟩ :=
          downgradeInstance_waived (inv.plan old stored).valid stored handled
        obtain ⟨-, same⟩ := TaskState.apply_aggregate_eq_ok.mp applied
        refine .downgraded old new item _ stored ?_ member required original activated waived ?_ ?_
        · rw [same]
        · rw [recorded]
          rfl
        · rw [recorded]
          simp [Tracked.record, TaskState.downgrade, stored]
  · rw [Tracked.record_other next.state
      (fun payload expected same => replaces ⟨payload, expected, same⟩)
      (fun instanceId reason same => downgrades ⟨instanceId, reason, same⟩)] at recorded
    have counted : next.replacements = tracked.replacements := by rw [recorded]
    have same : next.downgrades = tracked.downgrades := by rw [recorded]
    cases commit with
    | task written expectedRevision =>
        obtain ⟨-, -, after⟩ := TaskState.apply_task_eq_ok.mp applied
        exact .unplanned (by rw [after]) counted same
    | aggregate new skipUnchanged =>
        obtain ⟨-, after⟩ := TaskState.apply_aggregate_eq_ok.mp applied
        cases stored : tracked.state.plan with
        | none =>
            obtain ⟨payload, expected, asked⟩ := decision.command_of_planless stored
            exact absurd ⟨payload, expected, asked⟩ replaces
        | some old =>
            refine .extended old new stored (by rw [after]) ?_ counted same
            exact decision.planExtended (inv.plan old stored).valid stored
              (fun payload expected asked => replaces ⟨payload, expected, asked⟩)
              (fun instanceId reason asked => downgrades ⟨instanceId, reason, asked⟩)

/-- Every call makes one of the steps. -/
theorem Tracked.perform_step {call : Call} (inv : StateInvariant tracked.state)
    (performed : tracked.perform call = .ok next) : tracked.Step next := by
  cases call with
  | command command envelope ambient => exact Tracked.command_step inv performed
  | updateInstanceFields instanceId changes =>
      obtain ⟨updated, recorded⟩ := Tracked.perform_eq_ok.mp performed
      have counted : next.replacements = tracked.replacements := by
        rw [recorded]
        rfl
      have same : next.downgrades = tracked.downgrades := by
        rw [recorded]
        rfl
      obtain ⟨plan, stored, unchanged | ⟨accepted, made, -⟩⟩ := updateInstanceFields_eq_ok updated
      · exact .unplanned (by rw [unchanged]) counted same
      · refine .extended plan _ stored made (PlanKept.extended ?_) counted same
        exact Plan.modifyInstance_kept fun item => (changes.apply_progress item).kept

end

/-- The stored plan shows the downgrades on record. -/
def Tracked.Shown (tracked : Tracked) : Prop :=
  ∀ plan, tracked.state.plan = some plan → DowngradesShown plan tracked.downgrades

theorem Tracked.Shown.step {tracked next : Tracked} (inv : StateInvariant tracked.state)
    (shown : tracked.Shown) (step : tracked.Step next) : next.Shown := by
  intro plan stored
  cases step with
  | replaced new made stages instances counted forgotten =>
      obtain rfl := Option.some.inj (made.symm.trans stored)
      rw [forgotten]
      exact .of_planned stages instances
  | downgraded old new item authorization found made member required original activated waived
      counted recorded =>
      obtain rfl := Option.some.inj (made.symm.trans stored)
      rw [recorded]
      exact (shown old found).waived (inv.plan old found).valid member required original activated
        waived
  | extended old new found made extended counted same =>
      obtain rfl := Option.some.inj (made.symm.trans stored)
      rw [same]
      exact (shown old found).extended extended
  | unplanned unwritten counted same =>
      rw [same]
      exact shown plan (unwritten.symm.trans stored)

theorem track_snoc_of_ok {calls : List Call} {call : Call} {next : Tracked}
    (performed : (track calls).perform call = .ok next) : track (calls ++ [call]) = next :=
  (runFrom_snoc ..).trans (settle_of_ok performed)

theorem track_snoc_of_error {calls : List Call} {call : Call} {error : Raised}
    (raised : (track calls).perform call = .error error) : track (calls ++ [call]) = track calls :=
  (runFrom_snoc ..).trans (settle_of_error raised)

theorem track_shown (calls : List Call) : (track calls).Shown := by
  induction calls using List.reverseRecOn with
  | nil =>
      intro plan stored
      cases stored
  | append_singleton calls call ih =>
      cases performed : (track calls).perform call with
      | error error =>
          rw [track_snoc_of_error performed]
          exact ih
      | ok next =>
          rw [track_snoc_of_ok performed]
          have inv := track_invariant calls
          exact ih.step inv (Tracked.perform_step inv performed)

/-! ## What lasts between two replacements -/

/-- Every requirement of the first list is still there, as it was planned and as it was first
    activated. -/
structure RequirementsLast (old new : List Requirement) : Prop where
  present : ∀ before ∈ old, ∃ after ∈ new, after.id = before.id
  same : ∀ before ∈ old, ∀ after ∈ new, after.id = before.id → Lasts before after

structure PlanLasts (old new : Plan) : Prop where
  stages : RequirementsLast old.stageRequirements new.stageRequirements
  instances : RequirementsLast old.instanceRequirements new.instanceRequirements

/-- Every requirement of the first list has one that it lasts in. -/
def Succeeds (old new : List Requirement) : Prop :=
  ∀ before ∈ old, ∃ after ∈ new, Lasts before after

theorem Succeeds.refl (requirements : List Requirement) : Succeeds requirements requirements :=
  fun before member => ⟨before, member, .refl before⟩

theorem Succeeds.trans {old middle new : List Requirement} (first : Succeeds old middle)
    (second : Succeeds middle new) : Succeeds old new := by
  intro before member
  obtain ⟨between, betweenMember, lasts⟩ := first before member
  obtain ⟨after, afterMember, later⟩ := second between betweenMember
  exact ⟨after, afterMember, lasts.trans later⟩

theorem RequirementsExtended.succeeds {old new : List Requirement}
    (extended : RequirementsExtended old new) : Succeeds old new := by
  obtain ⟨more, -, kept⟩ := extended
  intro before member
  obtain ⟨after, afterMember, related⟩ :=
    exists_right_of_forall₂ kept (List.mem_append_left more member)
  exact ⟨after, afterMember, related.toLasts⟩

theorem PlanWaived.succeeds {authorization : AuthorizedDowngrade} {instanceId : Identifier}
    {old new : Plan} (waived : PlanWaived authorization instanceId old new) :
    Succeeds old.stageRequirements new.stageRequirements ∧
      Succeeds old.instanceRequirements new.instanceRequirements := by
  constructor
  · intro before member
    obtain ⟨after, afterMember, kept | changed⟩ := exists_right_of_forall₂ waived.stages member
    · exact ⟨after, afterMember, kept.toLasts⟩
    · exact ⟨after, afterMember, changed.toLasts⟩
  · intro before member
    obtain ⟨after, afterMember, ⟨-, kept⟩ | ⟨-, changed⟩⟩ :=
      exists_right_of_forall₂ waived.instances member
    · exact ⟨after, afterMember, kept.toLasts⟩
    · exact ⟨after, afterMember, changed.toLasts⟩

/-- The ids of a plan are distinct, so the successor of a requirement is the one with its id. -/
theorem Succeeds.last {old new : List Requirement} (succeeds : Succeeds old new)
    (distinct : (new.map Requirement.id).Nodup) : RequirementsLast old new := by
  refine ⟨fun before member => ?_, fun before member after afterMember same => ?_⟩
  · obtain ⟨after, afterMember, lasts⟩ := succeeds before member
    exact ⟨after, afterMember, lasts.id⟩
  · obtain ⟨other, otherMember, lasts⟩ := succeeds before member
    have equal : after = other :=
      List.inj_on_of_nodup_map distinct afterMember otherMember (same.trans lasts.id.symm)
    rw [equal]
    exact lasts

theorem Tracked.Step.replacements_le {tracked next : Tracked} (step : tracked.Step next) :
    tracked.replacements ≤ next.replacements := by
  cases step with
  | replaced new made stages instances counted => omega
  | downgraded old new item authorization stored made member required original activated waived
      counted => omega
  | extended old new stored made extended counted => omega
  | unplanned unwritten counted => omega

/-- A step that does not replace the plan keeps every requirement of it. -/
theorem Tracked.Step.succeeds {tracked next : Tracked} {old : Plan} (step : tracked.Step next)
    (kept : next.replacements = tracked.replacements) (stored : tracked.state.plan = some old) :
    ∃ new, next.state.plan = some new ∧
      Succeeds old.stageRequirements new.stageRequirements ∧
      Succeeds old.instanceRequirements new.instanceRequirements := by
  cases step with
  | replaced new made stages instances counted => omega
  | downgraded other new item authorization found made member required original activated waived =>
      obtain rfl := Option.some.inj (found.symm.trans stored)
      exact ⟨new, made, waived.succeeds⟩
  | extended other new found made extended =>
      obtain rfl := Option.some.inj (found.symm.trans stored)
      exact ⟨new, made, extended.stages.succeeds, extended.instances.succeeds⟩
  | unplanned unwritten => exact ⟨old, unwritten.trans stored, .refl _, .refl _⟩

theorem track_replacements_le (calls more : List Call) :
    (track calls).replacements ≤ (track (calls ++ more)).replacements := by
  induction more using List.reverseRecOn with
  | nil => simp
  | append_singleton more call ih =>
      rw [← List.append_assoc]
      cases performed : (track (calls ++ more)).perform call with
      | error error =>
          rw [track_snoc_of_error performed]
          exact ih
      | ok next =>
          rw [track_snoc_of_ok performed]
          have step := Tracked.perform_step (track_invariant _) performed
          exact ih.trans step.replacements_le

theorem track_succeeds {calls more : List Call} {old : Plan}
    (stored : (track calls).state.plan = some old)
    (kept : (track (calls ++ more)).replacements = (track calls).replacements) :
    ∃ new, (track (calls ++ more)).state.plan = some new ∧
      Succeeds old.stageRequirements new.stageRequirements ∧
      Succeeds old.instanceRequirements new.instanceRequirements := by
  induction more using List.reverseRecOn with
  | nil =>
      rw [List.append_nil]
      exact ⟨old, stored, .refl _, .refl _⟩
  | append_singleton more call ih =>
      rw [← List.append_assoc] at kept ⊢
      have before := track_replacements_le calls more
      cases performed : (track (calls ++ more)).perform call with
      | error error =>
          rw [track_snoc_of_error performed] at kept ⊢
          exact ih kept
      | ok next =>
          rw [track_snoc_of_ok performed] at kept ⊢
          have step := Tracked.perform_step (track_invariant _) performed
          have after := step.replacements_le
          obtain ⟨middle, found, stages, instances⟩ := ih (by omega)
          obtain ⟨new, made, laterStages, laterInstances⟩ := step.succeeds (by omega) found
          exact ⟨new, made, stages.trans laterStages, instances.trans laterInstances⟩

/-- Between two replacements no command changes how an item was planned or when it was first
    activated. -/
theorem track_lasts {calls more : List Call} {old new : Plan}
    (stored : (track calls).state.plan = some old)
    (later : (track (calls ++ more)).state.plan = some new)
    (kept : (track (calls ++ more)).replacements = (track calls).replacements) :
    PlanLasts old new := by
  obtain ⟨other, found, stages, instances⟩ := track_succeeds stored kept
  obtain rfl := Option.some.inj (found.symm.trans later)
  have valid := ((track_invariant (calls ++ more)).plan other found).valid
  refine ⟨stages.last ?_, instances.last ?_⟩
  · have distinct := valid.stageIdsDistinct
    unfold Plan.stageRequirements
    rwa [List.map_map]
  · have distinct := valid.instanceIdsDistinct
    unfold Plan.instanceRequirements
    rwa [List.map_map]

/-! ## The grade -/

/-- The two grades of a task whose required stages are done. -/
def TaskStatus.isGrade : TaskStatus → Bool
  | .partiallySucceeded | .succeeded => true
  | _ => false

/-- `aggregate_task` grades a task that has no grade yet by the downgrades that it sees. -/
theorem aggregateTask_graded {plan : Plan} {grade : TaskStatus} (graded : grade.isGrade = true)
    (aggregated : plan.aggregateTask = grade) :
    plan.task.status = grade ∨
      (grade = .partiallySucceeded ↔ anyDowngraded plan.stages plan.instances = true) := by
  unfold Plan.aggregateTask aggregateTask at aggregated
  split at aggregated
  · exact .inl aggregated
  split at aggregated
  · exact .inl aggregated
  rw [if_neg (by simp)] at aggregated
  repeat
    split at aggregated
    · first
        | (subst aggregated; cases graded; done)
        | (rename_i downgraded; exact .inr ⟨fun _ => downgraded, fun _ => aggregated.symm⟩)
  rename_i clean
  subst aggregated
  refine .inr ⟨fun same => ?_, fun downgraded => absurd downgraded clean⟩
  cases same

section

variable {state : TaskState} {envelope : CommandEnvelope} {ambient : Ambient} {command : Command}
  {new : Plan} {skipUnchanged : Bool} {grade : TaskStatus}

/-- A commit that gives the task a grade gives it by the downgrades in the plan, unless the task
    had the grade already or it is restored to it. -/
theorem Decision.graded (graded : grade.isGrade = true)
    (asked : ∀ restores, command ≠ .restoreArchived restores grade)
    (decision : Decision state envelope ambient command (.aggregate new skipUnchanged))
    (status : new.task.status = grade) :
    (∃ old, state.plan = some old ∧ old.task.status = grade) ∨
      (grade = .partiallySucceeded ↔ anyDowngraded new.stages new.instances = true) := by
  have reaggregated : ∀ {old base : Plan}, state.plan = some old →
      base.reaggregate ambient.now = .ok new → base.task.status = old.task.status →
      (∃ old, state.plan = some old ∧ old.task.status = grade) ∨
        (grade = .partiallySucceeded ↔ anyDowngraded new.stages new.instances = true) := by
    intro old base stored moved same
    obtain ⟨refreshed, ran, -, rfl⟩ := Plan.reaggregate_eq_ok.mp moved
    refine (aggregateTask_graded graded status).imp_left fun kept => ⟨old, stored, ?_⟩
    rw [← same, ← refreshStages_task ran]
    exact kept
  cases decision with
  | edited command old new skip edits stored edited =>
      exact .inl ⟨old, stored, edited.status.symm.trans status⟩
  | archived old stored legal =>
      subst status
      cases graded
  | cancelled old stored legal =>
      subst status
      cases graded
  | replaced payload expected task planRevision fresh new stored guarded normalized saved =>
      rcases saved with ⟨-, rfl⟩ | ⟨-, started, activated, rfl⟩
      · subst status
        cases graded
      · rcases aggregateTask_graded graded status with kept | matched
        · rw [activateCurrentStages_task activated] at kept
          subst kept
          cases graded
        · exact .inr matched
  | appended payload expected task planRevision old merged started storedTask stored guarded
      normalized activated =>
      rcases aggregateTask_graded graded status with kept | matched
      · rw [activateCurrentStages_task activated, (normalizeAppend_spec normalized).2.1] at kept
        rcases guarded with running | waiting
        · rw [← kept, running] at graded
          cases graded
        · rw [← kept, waiting] at graded
          cases graded
      · exact .inr matched
  | confirmed old started stored awaiting activated =>
      rcases aggregateTask_graded graded status with kept | matched
      · rw [activateCurrentStages_task activated, awaiting] at kept
        subst kept
        cases graded
      · exact .inr matched
  | transitioned instanceId target old new item stored member same legal moved =>
      exact reaggregated stored moved rfl
  | rejected instanceId rejection old new item stored member same legal moved =>
      exact reaggregated stored moved rfl
  | restored restores target task old refreshed instances storedTask stored guarded woken moved
      legal =>
      have base : (refreshed.withStatus target).aggregateTask = grade := status
      rcases aggregateTask_graded graded base with kept | matched
      · exact absurd (congrArg _ kept) (asked restores)
      · exact .inr matched
  | downgraded instanceId reason old base new item authorization stored mutable member same
      activated recorded moved =>
      exact reaggregated stored moved (recordDowngrade_status recorded)

/-- A commit of the task alone grades it only where a restore asks for the grade. -/
theorem Decision.task_graded {payload : MainTask} {expectedRevision : Nat}
    (graded : grade.isGrade = true)
    (decision : Decision state envelope ambient command (.task payload expectedRevision))
    (status : payload.status = grade) :
    state.status = some grade ∨ ∃ restores, command = .restoreArchived restores grade := by
  subst status
  cases decision with
  | created request written draft =>
      rw [draft] at graded
      cases graded
  | registered inputManifest task stored =>
      refine .inl ?_
      rw [TaskState.status, stored]
      rfl
  | planless command task written stored noPlan moved =>
      unfold Command.planlessStatus at moved
      split at moved
      · refine .inl ?_
        rw [TaskState.status, stored]
        exact moved
      · rw [← Option.some.inj moved] at graded
        cases graded
      · rw [← Option.some.inj moved] at graded
        cases graded
      · rename_i restores target _
        exact .inr ⟨restores, by rw [Option.some.inj moved]⟩
      · cases moved

end

/-- A restore that asks for the grade. -/
def Call.asksGrade (grade : TaskStatus) : Call → Prop
  | .command (.restoreArchived _ target) _ _ => target = grade
  | _ => False

theorem graded_iff_downgraded {calls : List Call} {call : Call} {next : Tracked}
    {grade : TaskStatus} (performed : (track calls).perform call = .ok next)
    (status : next.state.status = some grade) (graded : grade.isGrade = true)
    (changed : (track calls).state.status ≠ some grade) (unasked : ¬ call.asksGrade grade) :
    grade = .partiallySucceeded ↔ next.downgrades ≠ [] := by
  have inv := track_invariant calls
  have shown := (track_shown calls).step inv (Tracked.perform_step inv performed)
  have planned : ∀ plan : Plan, (track calls).state.plan = some plan →
      (track calls).state.status = some plan.task.status := by
    intro plan stored
    have known := (inv.stored plan stored).2
    obtain ⟨task, found⟩ := Option.isSome_iff_exists.mp known
    rw [TaskState.status, found]
    exact congrArg some (inv.synced task plan found stored)
  obtain ⟨executed, -⟩ := Tracked.perform_eq_ok.mp performed
  cases call with
  | updateInstanceFields instanceId changes =>
      obtain ⟨plan, stored, unchanged | ⟨-, -, made, -⟩⟩ := updateInstanceFields_eq_ok executed
      · rw [unchanged] at status
        exact absurd status changed
      · refine absurd ?_ changed
        rw [planned plan stored, ← status, TaskState.status, made]
        rfl
  | command command envelope ambient =>
      obtain ⟨request, commit, built, handled, applied⟩ := TaskState.execute_eq_ok.mp executed
      have decision := TaskCommandService.handle_decision inv.synced handled
      have asked : ∀ restores, request ≠ .restoreArchived restores grade := by
        rintro restores rfl
        have same := TaskCommandService.command_of_buildRequest built
          (fun title renamed => by cases renamed)
        subst same
        exact unasked rfl
      cases commit with
      | task payload expectedRevision =>
          obtain ⟨-, -, after⟩ := TaskState.apply_task_eq_ok.mp applied
          rw [after] at status
          rcases decision.task_graded graded (Option.some.inj status) with same | ⟨restores, same⟩
          · exact absurd same changed
          · exact absurd same (asked restores)
      | aggregate new skipUnchanged =>
          obtain ⟨-, after⟩ := TaskState.apply_aggregate_eq_ok.mp applied
          have stored : next.state.plan = some new := by rw [after]
          rw [after] at status
          rcases decision.graded graded asked (Option.some.inj status) with
            ⟨old, found, same⟩ | matched
          · rw [← same] at changed
            exact absurd (planned old found) changed
          · exact matched.trans (shown new stored).anyDowngraded_iff

/-- In every run, between two replacements of the plan every requirement stays as it was planned
    and first activated, an instance that is no longer required carries the authorization of its
    downgrade, and a task that gets a grade without being restored to it gets it by the downgrades
    since its plan was last replaced. -/
theorem success_graded_by_downgrades (calls : List Call) :
    (∀ more old, (track calls).state.plan = some old →
      (track (calls ++ more)).replacements = (track calls).replacements →
      ∃ new, (track (calls ++ more)).state.plan = some new ∧ PlanLasts old new) ∧
    (∀ plan, (track calls).state.plan = some plan → ∀ item ∈ plan.instances,
      item.required = false → item.requirementLifecycle.originalRequired = true →
      ∃ authorization, item.requirementLifecycle.authorizedDowngrade = some authorization ∧
        ⟨item.instanceId, authorization⟩ ∈ (track calls).downgrades) ∧
    ∀ call next grade, (track calls).perform call = .ok next →
      next.state.status = some grade → grade.isGrade = true →
      (track calls).state.status ≠ some grade → ¬ call.asksGrade grade →
      (grade = .partiallySucceeded ↔ next.downgrades ≠ []) := by
  refine ⟨fun more old stored kept => ?_, fun plan stored item member dropped original => ?_,
    fun call next grade performed status graded changed unasked =>
      graded_iff_downgraded performed status graded changed unasked⟩
  · obtain ⟨new, later, -⟩ := track_succeeds stored kept
    exact ⟨new, later, track_lasts stored later kept⟩
  · have shown := track_shown calls plan stored
    rcases shown.instances item.requirement (List.mem_map_of_mem member) with
      planned | ⟨authorization, downgraded, recorded⟩
    · have required : item.required = item.requirementLifecycle.originalRequired :=
        planned.required
      rw [dropped, original] at required
      cases required
    · exact ⟨authorization, downgraded.authorized, recorded⟩

/-- Two instances, of which `a` succeeds and `b` runs. -/
def pairRunning : List Call :=
  samplePlanned .auto pairPayload ++ sampleTransitions 2 [("a", .starting), ("a", .running),
    ("a", .succeeded), ("b", .starting), ("b", .running)]

theorem success_graded_by_downgrades_pairRunning :
    ∃ next, (track (pairRunning ++ [sampleCall 7 (.downgradeInstance "b" "out of scope")])).perform
        (sampleCall 8 (.transitionInstance "b" .succeeded)) = .ok next ∧
      next.state.status = some .partiallySucceeded ∧ next.downgrades ≠ [] := by
  have ran : (((track (pairRunning ++
      [sampleCall 7 (.downgradeInstance "b" "out of scope")])).perform
        (sampleCall 8 (.transitionInstance "b" .succeeded))).toOption.bind
          fun next => next.state.status) = some .partiallySucceeded := by decide +kernel
  obtain ⟨next, found, status⟩ := Option.bind_eq_some_iff.mp ran
  have performed := toOption_eq_some.mp found
  have changed : (track (pairRunning ++
      [sampleCall 7 (.downgradeInstance "b" "out of scope")])).state.status ≠
        some .partiallySucceeded := by decide +kernel
  refine ⟨next, performed, status, ?_⟩
  exact ((success_graded_by_downgrades _).2.2 _ next .partiallySucceeded performed status rfl
    changed (fun asked => asked)).mp rfl

/-- A task that succeeded, was then downgraded and was archived. -/
def downgradedSuccess : List Call :=
  pairRunning ++ sampleTransitions 7 [("b", .succeeded)] ++
    [sampleCall 8 (.downgradeInstance "b" "out of scope"), sampleCall 9 .archiveTask]

/-- It is restored to its success, although a downgrade was committed since the plan was saved. -/
theorem restored_success_after_downgrade :
    ∃ next, (track downgradedSuccess).perform
        (sampleCall 10 (.restoreArchived [] .succeeded)) = .ok next ∧
      (track downgradedSuccess).state.status = some .archived ∧
      next.state.status = some .succeeded ∧ next.downgrades ≠ [] := by
  have ran : (((track downgradedSuccess).perform
      (sampleCall 10 (.restoreArchived [] .succeeded))).toOption.map
        fun next => (next.state.status, decide (next.downgrades ≠ []))) =
          some (some .succeeded, true) := by decide +kernel
  have archived : (track downgradedSuccess).state.status = some .archived := by decide +kernel
  obtain ⟨next, found, same⟩ := Option.map_eq_some_iff.mp ran
  obtain ⟨status, downgraded⟩ := Prod.ext_iff.mp same
  exact ⟨next, toOption_eq_some.mp found, archived, status, of_decide_eq_true downgraded⟩

end DesignHarness
