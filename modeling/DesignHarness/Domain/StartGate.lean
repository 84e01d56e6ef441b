import DesignHarness.Domain.Reaggregation

/-!
# The manual start gate

A task with the manual start policy waits in `AWAITING_START_CONFIRMATION` until `confirm_start`.
Every re-aggregation calls `aggregate_task` with `preserve_start_confirmation=False`, so the gate
holds only as long as no command re-aggregates a waiting task (`startGate`).
-/

namespace DesignHarness

open Library

/-- The call re-aggregates a task that waits for its start: an instance event on it, or a resume
    into `AWAITING_START_CONFIRMATION`. -/
def Call.startsByAggregation (observed : Observed) : Call → Prop
  | .command (.transitionInstance _ _) _ _ | .command (.rejectInstanceDelivery _ _) _ _ =>
      observed.state.status = some .awaitingStartConfirmation
  | .command (.restoreArchived _ target) _ _ => target = .awaitingStartConfirmation
  | _ => False

instance (observed : Observed) (call : Call) : Decidable (call.startsByAggregation observed) := by
  cases call with
  | command command envelope ambient =>
      cases command <;> first
        | exact instDecidableFalse
        | exact inferInstanceAs (Decidable (_ = _))
  | updateInstanceFields instanceId changes => exact instDecidableFalse

/-- The call is a `confirm_start` that is committed. -/
def Call.confirmsStart (observed : Observed) : Call → Prop
  | .command .confirmStart envelope ambient =>
      (observed.perform (.command .confirmStart envelope ambient)).isOk = true
  | _ => False

instance (observed : Observed) (call : Call) : Decidable (call.confirmsStart observed) := by
  unfold Call.confirmsStart
  split <;> infer_instance

/-- The status of the task, looking through the archive. -/
def Observed.effectiveStatus (observed : Observed) : Option TaskStatus :=
  if observed.state.status = some .archived then observed.preArchive else observed.state.status

/-- A task that has not been started: it waits or was cancelled, archived or not. -/
def Observed.isHeld (observed : Observed) : Prop :=
  observed.effectiveStatus = some .awaitingStartConfirmation ∨
    observed.effectiveStatus = some .cancelled

/-- A task that waits for its start has activated nothing. -/
def TaskState.gateClosed (state : TaskState) : Prop :=
  ∀ plan, state.plan = some plan → plan.task.status = .awaitingStartConfirmation →
    ∀ item ∈ plan.instances, item.requirementLifecycle.firstActivatedAt = none

section

variable {state next : TaskState} {envelope : CommandEnvelope} {ambient : Ambient}
  {command : Command} {old new : Plan} {skipUnchanged : Bool}

theorem aggregateTask_of_settled {plan : Plan}
    (settled : plan.task.status = .cancelled ∨ plan.task.status = .archived) :
    plan.aggregateTask = plan.task.status := by
  rcases aggregateTask_cases plan with ⟨same, -⟩ | ⟨⟨live, unarchived⟩, -⟩
  · exact same
  · rcases settled with cancelled | archived
    · rw [cancelled] at live
      cases live
    · exact absurd archived unarchived

theorem aggregateTask_not_awaiting {plan : Plan} :
    plan.aggregateTask ≠ .awaitingStartConfirmation := by
  intro awaiting
  rcases aggregateTask_cases plan with ⟨same, terminal | archived⟩ |
    ⟨-, h | h | h | ⟨h, -⟩ | ⟨h | h, -⟩⟩
  · rw [← same, awaiting] at terminal
    cases terminal
  · rw [← same, awaiting] at archived
    cases archived
  all_goals
    rw [h] at awaiting
    cases awaiting

/-- A plan waits for its start only as a fresh plan or an edited waiting plan. -/
theorem Decision.awaiting_cases
    (decision : Decision state envelope ambient command (.aggregate new skipUnchanged))
    (awaiting : new.task.status = .awaitingStartConfirmation) :
    (∃ old, state.plan = some old ∧ EditedPlan old new) ∨
      ∃ payload expected, command = .savePlan .replace payload expected := by
  have reaggregated : ∀ {base : Plan}, base.reaggregate ambient.now ≠ .ok new := by
    intro base moved
    obtain ⟨refreshed, -, -, rfl⟩ := Plan.reaggregate_eq_ok.mp moved
    exact aggregateTask_not_awaiting awaiting
  cases decision with
  | edited command old new skip edits stored edited => exact .inl ⟨old, stored, edited⟩
  | archived old stored legal => cases awaiting
  | cancelled old stored legal => cases awaiting
  | replaced payload expected => exact .inr ⟨payload, expected, rfl⟩
  | appended payload expected task planRevision old merged started =>
      exact absurd awaiting aggregateTask_not_awaiting
  | confirmed old started => exact absurd awaiting aggregateTask_not_awaiting
  | transitioned instanceId target old new item stored member same legal moved =>
      exact absurd moved reaggregated
  | rejected instanceId rejection old new item stored member same legal moved =>
      exact absurd moved reaggregated
  | restored restores target task old refreshed =>
      exact absurd awaiting aggregateTask_not_awaiting
  | downgraded instanceId reason old base new item authorization stored mutable member same
      activated recorded moved => exact absurd moved reaggregated

theorem FreshPlan.unactivated {now : Timestamp} (fresh : FreshPlan now new)
    (awaiting : new.task.status = .awaitingStartConfirmation) :
    ∀ item ∈ new.instances, item.requirementLifecycle.firstActivatedAt = none := by
  obtain ⟨base, -, -, instances, ⟨-, same, -⟩ | ⟨-, -, other⟩⟩ := fresh.built
  · rw [same]
    intro item member
    have none_activated :
        activatedKeys (Stage.activatesOnRefresh false base.stages base.instances) base.stages =
          [] := by
      simp [activatedKeys, Stage.activatesOnRefresh]
    rw [Plan.refreshed, none_activated, activateAll_nil] at member
    rw [(instances item member).lifecycle]
    rfl
  · exact absurd awaiting other

theorem TaskState.gateClosed.execute (closed : state.gateClosed) (inv : StateInvariant state)
    (h : state.execute envelope ambient command = .ok next) : next.gateClosed := by
  obtain ⟨request, commit, -, decision, applied⟩ := inv.execute_decision h
  cases commit with
  | task payload expectedRevision =>
      obtain ⟨-, -, rfl⟩ := TaskState.apply_task_eq_ok.mp applied
      exact closed
  | aggregate new skipUnchanged =>
      obtain ⟨valid, rfl⟩ := TaskState.apply_aggregate_eq_ok.mp applied
      intro plan stored awaiting
      obtain rfl := Option.some.inj stored
      rcases decision.awaiting_cases awaiting with ⟨old, storedOld, edited⟩ |
        ⟨payload, expected, rfl⟩
      · intro item member
        obtain ⟨edit, instances, same⟩ := edited.instances
        rw [instances] at member
        obtain ⟨origin, originMember, rfl⟩ := List.mem_map.mp member
        rw [(same origin).requirementLifecycle]
        exact closed old storedOld (edited.status.symm.trans awaiting) origin originMember
      · exact decision.freshPlan.unactivated awaiting

theorem TaskState.gateClosed.perform {call : Call} (closed : state.gateClosed)
    (inv : StateInvariant state) (h : state.perform call = .ok next) : next.gateClosed := by
  cases call with
  | command command envelope ambient => exact closed.execute inv h
  | updateInstanceFields instanceId changes =>
      obtain ⟨old, stored, rfl | ⟨-, nextPlan, -⟩⟩ := updateInstanceFields_eq_ok h
      · exact closed
      · intro plan found awaiting item member
        obtain rfl := Option.some.inj (nextPlan.symm.trans found)
        obtain ⟨origin, originMember, rfl⟩ := List.mem_map.mp member
        have before := closed old stored awaiting origin originMember
        split
        · exact before
        · exact before

/-- The status a decision gives a task that is held: one it may have without having started. -/
theorem Decision.held_status (inv : StateInvariant state) (closed : state.gateClosed)
    (stored : state.plan = some old)
    (held : old.task.status = .awaitingStartConfirmation ∨ old.task.status = .cancelled ∨
      old.task.status = .archived)
    (decision : Decision state envelope ambient command (.aggregate new skipUnchanged))
    (unconfirmed : command ≠ .confirmStart)
    (quiet : old.task.status = .awaitingStartConfirmation →
      (∀ instanceId target, command ≠ .transitionInstance instanceId target) ∧
      ∀ instanceId rejection, command ≠ .rejectInstanceDelivery instanceId rejection)
    (resumed : ∀ restores target, command = .restoreArchived restores target →
      target ≠ .awaitingStartConfirmation ∧ (old.task.status = .archived → target = .cancelled)) :
    new.task.status = old.task.status ∨ new.task.status = .archived ∨
      new.task.status = .cancelled := by
  have unique : ∀ {other : Plan}, state.plan = some other → other = old := fun found =>
    Option.some.inj (found.symm.trans stored)
  have reaggregated : ∀ {base : Plan}, base.reaggregate ambient.now = .ok new →
      base.task.status = old.task.status → old.task.status ≠ .awaitingStartConfirmation →
      new.task.status = old.task.status := by
    intro base moved same notAwaiting
    obtain ⟨refreshed, ran, -, rfl⟩ := Plan.reaggregate_eq_ok.mp moved
    have refreshedStatus : refreshed.task.status = old.task.status := by
      rw [refreshStages_task ran, same]
    have settled : refreshed.task.status = .cancelled ∨ refreshed.task.status = .archived := by
      rw [refreshedStatus]
      exact held.resolve_left notAwaiting
    rw [Plan.touch_status, Plan.withStatus_status, aggregateTask_of_settled settled,
      refreshedStatus]
  cases decision with
  | edited command other new skip edits found edited =>
      obtain rfl := unique found
      exact .inl edited.status
  | archived other found legal => exact .inr (.inl rfl)
  | cancelled other found legal => exact .inr (.inr rfl)
  | replaced payload expected task planRevision fresh new storedTask guarded normalized saved =>
      rw [inv.synced task old storedTask stored] at guarded
      rcases held with same | same | same <;> simp [same] at guarded
  | appended payload expected task planRevision other merged started storedTask found guarded =>
      rw [inv.synced task old storedTask stored] at guarded
      rcases held with same | same | same <;> simp [same] at guarded
  | confirmed => exact absurd rfl unconfirmed
  | transitioned instanceId target other new item found member same legal moved =>
      obtain rfl := unique found
      exact .inl (reaggregated moved rfl fun awaiting =>
        (quiet awaiting).1 instanceId target rfl)
  | rejected instanceId rejection other new item found member same legal moved =>
      obtain rfl := unique found
      exact .inl (reaggregated moved rfl fun awaiting =>
        (quiet awaiting).2 instanceId rejection rfl)
  | restored restores target task other refreshed instances storedTask found guarded =>
      obtain rfl := unique found
      obtain ⟨notAwaiting, fromArchive⟩ := resumed restores target rfl
      rw [inv.synced task other storedTask found] at guarded
      have cancelled : target = .cancelled := by
        rcases guarded with archived | same
        · exact fromArchive archived
        · rw [same] at held
          rcases held with awaiting | cancelled | archived
          · exact absurd awaiting notAwaiting
          · exact cancelled
          · exact fromArchive (same.trans archived)
      subst cancelled
      have kept : (refreshed.withStatus .cancelled).aggregateTask = .cancelled :=
        aggregateTask_of_settled (.inl rfl)
      exact .inr (.inr kept)
  | downgraded instanceId reason other base new item authorization found mutable member same
      activated recorded moved =>
      obtain rfl := unique found
      refine .inl (reaggregated moved (recordDowngrade_status recorded) fun awaiting => ?_)
      rw [closed other found awaiting item member] at activated
      cases activated

end

/-! ## Runs -/

/-- What holds of the store in every run without a start by aggregation. -/
structure GateInvariant (observed : Observed) : Prop where
  sound : StateInvariant observed.state
  closed : observed.state.gateClosed
  positive : observed.state.task.isSome = true → 0 < observed.state.taskRevision

/-- A faithful call that does not start the task by aggregation. -/
def Call.respectsGate (observed : Observed) (call : Call) : Prop :=
  call.isFaithful observed ∧ ¬ call.startsByAggregation observed

instance (observed : Observed) (call : Call) : Decidable (call.respectsGate observed) :=
  inferInstanceAs (Decidable (_ ∧ _))

section

variable {observed next : Observed} {call : Call}

/-- A stored task has a revision. -/
theorem GateInvariant.positive_perform (inv : GateInvariant observed) {state : TaskState}
    (stepped : observed.state.perform call = .ok state) :
    state.task.isSome = true → 0 < state.taskRevision := by
  cases call with
  | command command envelope ambient =>
      obtain ⟨request, commit, -, -, applied⟩ := inv.sound.execute_decision stepped
      intro _
      cases commit with
      | task payload expectedRevision =>
          obtain ⟨-, -, rfl⟩ := TaskState.apply_task_eq_ok.mp applied
          exact Nat.succ_pos _
      | aggregate new skipUnchanged =>
          obtain ⟨-, rfl⟩ := TaskState.apply_aggregate_eq_ok.mp applied
          exact Nat.succ_pos _
  | updateInstanceFields instanceId changes =>
      obtain ⟨old, stored, rfl | ⟨-, -, -, grows⟩⟩ := updateInstanceFields_eq_ok stepped
      · exact inv.positive
      · intro _
        exact Nat.lt_of_lt_of_le (inv.sound.stored old stored).1 grows

theorem GateInvariant.perform (inv : GateInvariant observed)
    (performed : observed.perform call = .ok next) : GateInvariant next := by
  have stepped := (Observed.perform_eq_ok.mp performed).1
  exact ⟨inv.sound.perform stepped, inv.closed.perform inv.sound stepped,
    inv.positive_perform stepped⟩

theorem Observed.status_of_plan (sound : StateInvariant observed.state) {plan : Plan}
    (stored : observed.state.plan = some plan) :
    observed.state.status = some plan.task.status := by
  obtain ⟨task, found⟩ := Option.isSome_iff_exists.mp (sound.stored plan stored).2
  rw [TaskState.status, found, Option.map_some, sound.synced task plan found stored]

/-- The status of a held task is one of three. -/
theorem Observed.isHeld.status (held : observed.isHeld) :
    observed.state.status = some .awaitingStartConfirmation ∨
      observed.state.status = some .cancelled ∨ observed.state.status = some .archived := by
  unfold isHeld effectiveStatus at held
  split at held
  · exact .inr (.inr ‹_›)
  · rcases held with awaiting | cancelled
    · exact .inl awaiting
    · exact .inr (.inl cancelled)

/-- A held task stays held when its status is kept, archived or cancelled. -/
theorem Observed.isHeld.of_status {state : TaskState} (held : observed.isHeld)
    (status : state.status = observed.state.status ∨ state.status = some .archived ∨
      state.status = some .cancelled) : Observed.isHeld ⟨state, observed.snapshot state⟩ := by
  have three := held.status
  unfold isHeld effectiveStatus snapshot at *
  dsimp only
  by_cases archived : state.status = some .archived
  · rw [if_pos archived]
    by_cases wasArchived : observed.state.status = some .archived
    · rw [if_pos wasArchived] at held
      rw [if_neg (by simp [wasArchived])]
      exact held
    · rw [if_pos ⟨archived, wasArchived⟩]
      rcases three with awaiting | cancelled | same
      · exact .inl awaiting
      · exact .inr cancelled
      · exact absurd same wasArchived
  · rw [if_neg archived]
    rcases status with same | same | same
    · rw [same]
      rcases three with awaiting | cancelled | wasArchived
      · exact .inl awaiting
      · exact .inr cancelled
      · exact absurd (same.trans wasArchived) archived
    · exact absurd same archived
    · exact .inr same

/-- A held task without a plan stays held: nothing but a resume could start it. -/
theorem Decision.planless_status {state : TaskState} {envelope : CommandEnvelope}
    {ambient : Ambient} {command : Command} {payload : MainTask} {expectedRevision : Nat}
    {task : MainTask} (stored : state.task = some task) (positive : 0 < state.taskRevision)
    (decision : Decision state envelope ambient command (.task payload expectedRevision))
    (revision : expectedRevision = state.taskRevision)
    (resumed : ∀ restores target, command = .restoreArchived restores target →
      task.status = .archived → target = .cancelled) :
    payload.status = task.status ∨ payload.status = .archived ∨ payload.status = .cancelled := by
  cases decision with
  | created request payload draft =>
      rw [← revision] at positive
      exact absurd positive (Nat.lt_irrefl 0)
  | registered inputManifest other found =>
      obtain rfl := Option.some.inj (stored.symm.trans found)
      exact .inl rfl
  | planless command other payload found noPlan moved legal guarded =>
      obtain rfl := Option.some.inj (stored.symm.trans found)
      cases command with
      | renameTask title => exact .inl (Option.some.inj moved).symm
      | archiveTask => exact .inr (.inl (Option.some.inj moved).symm)
      | cancelTask => exact .inr (.inr (Option.some.inj moved).symm)
      | restoreArchived restores target =>
          have same : target = payload.status := Option.some.inj moved
          rw [← same]
          rcases guarded restores target rfl with archived | unchanged
          · exact .inr (.inr (resumed restores target rfl archived))
          · exact .inl unchanged.symm
      | _ => cases moved

/-- The plan of a held task is not replaced. -/
theorem Decision.replaced_not_held {envelope : CommandEnvelope} {ambient : Ambient}
    {payload : PlanPayload} {expected : Option Nat} {new : Plan} {skipUnchanged : Bool}
    (decision : Decision observed.state envelope ambient (.savePlan .replace payload expected)
      (.aggregate new skipUnchanged)) : ¬ observed.isHeld := by
  intro held
  cases decision with
  | edited command other new skip edits => cases edits
  | replaced payload expected task planRevision fresh new stored guarded =>
      have three := held.status
      rw [TaskState.status, stored, Option.map_some] at three
      simp only [Option.some.injEq] at three
      rcases three with same | same | same <;> simp [same] at guarded

/-- A held task can only be resumed as a cancelled one. -/
theorem Observed.isHeld.resumed {restores : List InstanceRestore} {target : TaskStatus}
    {envelope : CommandEnvelope} {ambient : Ambient} (held : observed.isHeld)
    (quiet : (Call.command (.restoreArchived restores target) envelope ambient).respectsGate
      observed) (archived : observed.state.status = some .archived) : target = .cancelled := by
  obtain ⟨faithful, unstarted⟩ := quiet
  have snapshot : observed.preArchive = some target := faithful archived
  unfold isHeld effectiveStatus at held
  rw [if_pos archived, snapshot] at held
  rcases held with awaiting | cancelled
  · exact absurd (Option.some.inj awaiting) unstarted
  · exact Option.some.inj cancelled

/-- A held task stays held until its start is confirmed. -/
theorem GateInvariant.held (inv : GateInvariant observed) (held : observed.isHeld)
    (quiet : call.respectsGate observed) (unconfirmed : ¬ call.confirmsStart observed)
    (performed : observed.perform call = .ok next) : next.isHeld := by
  obtain ⟨stepped, snapshot⟩ := Observed.perform_eq_ok.mp performed
  suffices status : next.state.status = observed.state.status ∨
      next.state.status = some .archived ∨ next.state.status = some .cancelled by
    have moved := held.of_status status
    rw [← snapshot] at moved
    exact moved
  cases call with
  | updateInstanceFields instanceId changes =>
      left
      obtain ⟨old, stored, same | ⟨-, -, nextTask, -⟩⟩ := updateInstanceFields_eq_ok stepped
      · rw [same]
      · rw [Observed.status_of_plan inv.sound stored, TaskState.status, nextTask]
        rfl
  | command command envelope ambient =>
      obtain ⟨request, commit, built, decision, applied⟩ := inv.sound.execute_decision stepped
      have resumes : ∀ restores target, request = .restoreArchived restores target →
          command = .restoreArchived restores target := by
        rintro restores target rfl
        exact TaskCommandService.command_of_buildRequest built fun _ same => by cases same
      have resumed : ∀ restores target, request = .restoreArchived restores target →
          observed.state.status = some .archived → target = .cancelled := by
        intro restores target same
        obtain rfl := resumes restores target same
        exact held.resumed quiet
      cases commit with
      | task payload expectedRevision =>
          obtain ⟨-, revision, after⟩ := TaskState.apply_task_eq_ok.mp applied
          obtain ⟨status, stored⟩ : ∃ status, observed.state.status = some status := by
            rcases held.status with same | same | same <;> exact ⟨_, same⟩
          obtain ⟨task, found, rfl⟩ := Option.map_eq_some_iff.mp stored
          have moved := decision.planless_status found (inv.positive (by rw [found]; rfl)) revision
            fun restores target same archived => resumed restores target same (by
              rw [stored, archived])
          rw [after, stored]
          rcases moved with same | same | same
          · exact .inl (congrArg some same)
          · exact .inr (.inl (congrArg some same))
          · exact .inr (.inr (congrArg some same))
      | aggregate new skipUnchanged =>
          obtain ⟨-, after⟩ := TaskState.apply_aggregate_eq_ok.mp applied
          have becomes : next.state.status = some new.task.status := by
            rw [after]
            rfl
          cases stored : observed.state.plan with
          | none =>
              obtain ⟨payload, expected, rfl⟩ := decision.command_of_planless stored
              exact absurd held decision.replaced_not_held
          | some old =>
              have status := Observed.status_of_plan inv.sound stored
              have three := held.status
              rw [status] at three
              simp only [Option.some.injEq] at three
              have moved := decision.held_status inv.sound inv.closed stored three ?_ ?_ ?_
              · rw [becomes, status]
                rcases moved with same | same | same
                · exact .inl (congrArg some same)
                · exact .inr (.inl (congrArg some same))
                · exact .inr (.inr (congrArg some same))
              · rintro rfl
                obtain rfl := TaskCommandService.command_of_buildRequest built fun _ same => by cases same
                rw [Call.confirmsStart, performed] at unconfirmed
                exact unconfirmed rfl
              · intro awaiting
                rw [awaiting] at status
                constructor
                · rintro instanceId target rfl
                  obtain rfl := TaskCommandService.command_of_buildRequest built fun _ same => by cases same
                  exact quiet.2 status
                · rintro instanceId rejection rfl
                  obtain rfl := TaskCommandService.command_of_buildRequest built fun _ same => by cases same
                  exact quiet.2 status
              · intro restores target same
                refine ⟨fun awaiting => ?_, fun archived => ?_⟩
                · obtain rfl := resumes restores target same
                  exact quiet.2 awaiting
                · exact resumed restores target same (by rw [status, archived])

/-- The invariant of the gate holds along every run. -/
theorem gateInvariant (calls : List Call) : GateInvariant (observe calls) := by
  refine runFrom_invariant ?_ (fun _ _ _ inv => inv.perform) calls
  exact ⟨.empty, nofun, nofun⟩

/-- A held task stays held along a run that neither starts it by aggregation nor confirms its
    start. -/
theorem held_along {before after : List Call} (held : (observe before).isHeld)
    (quiet : Along Observed.perform (fun observed call => call.respectsGate observed ∧
      ¬ call.confirmsStart observed) (observe before) after) :
    (observe (before ++ after)).isHeld := by
  have reached : observe (before ++ after) = runFrom Observed.perform (observe before) after :=
    runFrom_append ..
  rw [reached]
  refine along_induction (motive := fun _ observed => observed.isHeld) held ?_ quiet
  intro calls call _ condition stillHeld
  have inv : GateInvariant (runFrom Observed.perform (observe before) calls) := by
    have := gateInvariant (before ++ calls)
    rw [observe, runFrom_append] at this
    exact this
  exact settle_invariant
    (fun next performed => inv.held stillHeld condition.1 condition.2 performed) stillHeld

/-- The statuses of a task that was started. -/
def TaskStatus.isStarted : TaskStatus → Bool
  | .running | .waitingApproval | .failed | .blockedUnavailable => true
  | _ => false

/-- In a run in which no call starts the task by aggregation, a task that waits for its start is
    started only after a `confirm_start` was committed. -/
theorem started_only_by_confirmStart {before after : List Call} {status : TaskStatus}
    (respects : Along Observed.perform (fun observed call => call.respectsGate observed) .initial
      (before ++ after))
    (waiting : (observe before).state.status = some .awaitingStartConfirmation)
    (reached : (observe (before ++ after)).state.status = some status)
    (started : status.isStarted = true) :
    ∃ middle call rest, after = middle ++ call :: rest ∧
      call.confirmsStart (observe (before ++ middle)) := by
  by_contra never
  have held : (observe before).isHeld := by
    left
    rw [Observed.effectiveStatus, waiting, if_neg (by decide)]
  have quiet : Along Observed.perform (fun observed call => call.respectsGate observed ∧
      ¬ call.confirmsStart observed) (observe before) after := by
    by_contra fails
    obtain ⟨middle, call, rest, split, confirms⟩ :=
      exists_of_not_along (along_append.mp respects).2 fails
    refine never ⟨middle, call, rest, split, ?_⟩
    rw [observe, runFrom_append]
    exact not_not.mp confirms
  rcases (held_along held quiet).status with same | same | same
  all_goals
    rw [reached] at same
    obtain rfl := Option.some.inj same
    cases started

end

theorem started_only_by_confirmStart_renamed :
    ∃ middle call rest,
      [sampleCall 2 (.renameTask "Poster"), sampleCall 3 .confirmStart] =
        middle ++ call :: rest ∧
      call.confirmsStart (observe (samplePlanned .manual pairPayload ++ middle)) := by
  have reached : (observe (samplePlanned .manual pairPayload ++
      [sampleCall 2 (.renameTask "Poster"), sampleCall 3 .confirmStart])).state.status =
        some .running := by
    decide
  exact started_only_by_confirmStart (by decide) (by decide) reached rfl

/-- An instance event, and a resume from the archive, start a task that waits for its start. -/
theorem started_by_aggregation :
    (observe (samplePlanned .manual pairPayload)).state.status =
        some .awaitingStartConfirmation ∧
      (∀ calls ∈ [[sampleCall 2 (.transitionInstance "a" .starting)],
          [sampleCall 2 .archiveTask, sampleCall 3 (.restoreArchived [] .awaitingStartConfirmation)]],
        FaithfulRun (samplePlanned .manual pairPayload ++ calls) ∧
        (observe (samplePlanned .manual pairPayload ++ calls)).state.status = some .running ∧
        Along Observed.perform (fun observed call => ¬ call.confirmsStart observed)
          (observe (samplePlanned .manual pairPayload)) calls) := by
  decide

end DesignHarness
