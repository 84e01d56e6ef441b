import DesignHarness.Services.TaskArchives
import DesignHarness.Library.Runs

/-!
# Archived instances come back

An archive moves its targets one by one and restores nothing (`OnlyMoves`); a restore leaves none
of its instances `STOPPED` (`restoreArchived_wakes`), unless its key replays an earlier one
(`RestoredUnder`).
-/

namespace DesignHarness

open Library

namespace CommandStore

/-- A task has been restored under a key. -/
def RestoredUnder (store : CommandStore) (key : String) : Prop :=
  ∃ restores target result,
    store.used key = some (.command (.restoreArchived restores target) result)

/-- No task has been restored since. -/
def NotRestored (store next : CommandStore) : Prop :=
  ∀ key, next.RestoredUnder key → store.RestoredUnder key

/-- No instance but one has another status, and no task has been restored. -/
structure OnlyMoves (store next : CommandStore) (instanceId : Identifier) : Prop where
  sound : StateInvariant next.state
  others : ∀ other, other ≠ instanceId → next.status other = store.status other
  keys : store.NotRestored next

section

variable {taskId : Identifier} {store next : CommandStore} {instanceId : Identifier}
  {target : InstanceStatus} {key : String} {ambient : Ambient} {request : Command}
  {envelope : CommandEnvelope}

theorem OnlyMoves.refl (inv : StateInvariant store.state) : store.OnlyMoves store instanceId :=
  ⟨inv, fun _ _ => rfl, fun _ => id⟩

theorem Recorded.onlyMoves (recorded : store.Recorded next instanceId target key) :
    store.OnlyMoves next instanceId := by
  refine ⟨recorded.sound, fun other different => ?_, fun other restored => ?_⟩
  · rw [recorded.moved, if_neg different]
  · obtain ⟨restores, status, result, found⟩ := restored
    rcases recorded.used other with same | ⟨-, moved, own⟩
    · exact ⟨restores, status, result, same ▸ found⟩
    · rw [found] at own
      cases own

/-- A command replays what its key holds, or is recorded under it. -/
theorem used_of_command {result : CommandResult}
    (returned : store.command taskId request envelope ambient = .ok (result, next)) :
    next = store ∨ ∃ built, TaskCommandService.buildRequest envelope request = .ok built ∧
      ∀ other, next.used other =
        if other = envelope.idempotencyKey then some (.command built result)
        else store.used other := by
  obtain ⟨built, builds, returned⟩ := bind_eq_ok.mp returned
  cases known : store.used envelope.idempotencyKey with
  | none =>
      rw [known] at returned
      obtain ⟨commit, -, returned⟩ := bind_eq_ok.mp returned
      obtain ⟨state, -, returned⟩ := bind_eq_ok.mp returned
      cases returned
      exact .inr ⟨built, builds, fun _ => rfl⟩
  | some use =>
      rw [known] at returned
      cases use with
      | service => cases returned
      | command earlier recorded =>
          obtain ⟨⟨⟩, -, returned⟩ := bind_eq_ok.mp returned
          cases returned
          exact .inl rfl

theorem status_of_requireRecord {item : AgentInstance}
    (found : store.requireRecord instanceId = .ok item) :
    store.status instanceId = some item.status := by
  unfold requireRecord at found
  cases known : store.record instanceId with
  | none => simp [known] at found
  | some record =>
      simp only [known, Except.ok.injEq] at found
      simp [status, known, found]

theorem used_of_updateInstanceFields {changes : InstanceChanges}
    (updated : store.updateInstanceFields instanceId changes = .ok next) :
    next.used = store.used := by
  unfold updateInstanceFields at updated
  cases known : store.planned instanceId with
  | some item =>
      rw [known] at updated
      rcases bind_eq_ok.mp updated with ⟨state, -, written⟩
      obtain rfl := Except.ok.inj written
      rfl
  | none =>
      rw [known] at updated
      rcases bind_eq_ok.mp updated with ⟨-, -, updated⟩
      rcases bind_eq_ok.mp updated with ⟨item, -, updated⟩
      split at updated
      · obtain rfl := Except.ok.inj updated
        rfl
      · rcases bind_eq_ok.mp updated with ⟨-, -, written⟩
        obtain rfl := Except.ok.inj written
        rfl

/-- Only `restore_archived` restores, under its key. -/
theorem restoredUnder_of_command {result : CommandResult}
    (returned : store.command taskId request envelope ambient = .ok (result, next))
    (restored : next.RestoredUnder key) :
    store.RestoredUnder key ∨ key = envelope.idempotencyKey := by
  rcases used_of_command returned with rfl | ⟨built, builds, used⟩
  · exact .inl restored
  · by_cases own : key = envelope.idempotencyKey
    · exact .inr own
    · rcases restored with ⟨restores, target, recorded, found⟩
      rw [used, if_neg own] at found
      exact .inl ⟨restores, target, recorded, found⟩

/-- A restore replays an earlier one, or is the first command under its key. -/
theorem restoreArchived_cases {result : CommandResult} {restores : List InstanceRestore}
    {status : TaskStatus}
    (returned : store.command taskId (.restoreArchived restores status) envelope ambient =
      .ok (result, next)) :
    store.RestoredUnder envelope.idempotencyKey ∨ store.used envelope.idempotencyKey = none := by
  rcases bind_eq_ok.mp returned with ⟨built, builds, returned⟩
  have same : .restoreArchived restores status = built := Except.ok.inj builds
  cases known : store.used envelope.idempotencyKey with
  | none => exact .inr rfl
  | some use =>
      left
      rw [known] at returned
      cases use with
      | service => cases returned
      | command earlier recorded =>
          rcases bind_eq_ok.mp returned with ⟨⟨⟩, equal, -⟩
          rw [ensure_eq_ok.mp equal, ← same] at known
          exact ⟨restores, status, recorded, known⟩

/-- Only `restore_archived` restores. -/
theorem notRestored_of_command {result : CommandResult}
    (other : ∀ restores target, request ≠ .restoreArchived restores target)
    (returned : store.command taskId request envelope ambient = .ok (result, next)) :
    store.NotRestored next := by
  intro key restored
  rcases used_of_command returned with rfl | ⟨built, builds, used⟩
  · exact restored
  · obtain ⟨restores, target, recorded, found⟩ := restored
    rw [used] at found
    by_cases own : key = envelope.idempotencyKey
    · rw [if_pos own] at found
      cases found
      have same : request = .restoreArchived restores target :=
        TaskCommandService.command_of_buildRequest builds fun _ equal => by cases equal
      exact absurd same (other restores target)
    · rw [if_neg own] at found
      exact ⟨restores, target, recorded, found⟩

/-- `_transition` moves no other instance, and its own to the target if at all. -/
theorem transition_moves {item : AgentInstance} (inv : StateInvariant store.state)
    (returned : store.transition taskId instanceId target key ambient = .ok (item, next)) :
    store.OnlyMoves next instanceId ∧ (next = store ∨ next.status instanceId = some target) := by
  by_cases replays : (store.planned instanceId).isSome ∧
      store.status instanceId ≠ some target ∧ store.used key ≠ none
  · obtain ⟨known, other, used⟩ := replays
    obtain ⟨use, used⟩ := Option.ne_none_iff_exists'.mp used
    have ends : Ends (store.transition taskId instanceId target key ambient)
        (fun result => result.2 = store) fun _ => True := transition_used known other used
    rw [returned] at ends
    obtain rfl : next = store := ends
    exact ⟨.refl inv, .inl rfl⟩
  · have ends : Ends (store.transition taskId instanceId target key ambient)
        (fun result => store.Recorded result.2 instanceId target key)
        fun error => error.isConflict = false := by
      refine transition_ends inv fun other member => ?_
      unfold transitionKeys at member
      split at member
      · rename_i asks
        rw [List.mem_singleton.mp member]
        by_contra used
        exact replays ⟨asks.1, asks.2, used⟩
      · exact absurd member List.not_mem_nil
    rw [returned] at ends
    have moved := ends.moved instanceId
    rw [if_pos rfl] at moved
    exact ⟨ends.onlyMoves, .inr moved⟩

theorem suspendInstance_moves {idempotencyKey : Option String}
    (inv : StateInvariant store.state)
    (returned : store.suspendInstance taskId instanceId idempotencyKey ambient = .ok next) :
    store.OnlyMoves next instanceId ∧ (next = store ∨ next.status instanceId = some .stopped) := by
  obtain ⟨item, -, returned⟩ := bind_eq_ok.mp returned
  by_cases parked : item.status = .stopped
  · rw [if_neg (not_not_intro parked)] at returned
    obtain rfl := Except.ok.inj returned
    exact ⟨.refl inv, .inl rfl⟩
  · rw [if_pos parked] at returned
    obtain ⟨⟨moved, state⟩, transitioned, returned⟩ := bind_eq_ok.mp returned
    obtain rfl := Except.ok.inj returned
    exact transition_moves inv transitioned

end

end CommandStore

/-! ## What a restore wakes -/

/-- No instance with the id is parked. -/
def AwakeIn (instances : List AgentInstance) (instanceId : Identifier) : Prop :=
  instanceId ∈ instances.map AgentInstance.instanceId ∧
    ∀ item ∈ instances, item.instanceId = instanceId → item.status ≠ .stopped

theorem AwakeIn.map {instances : List AgentInstance} {instanceId : Identifier}
    {f : AgentInstance → AgentInstance} (awake : AwakeIn instances instanceId)
    (keepsId : ∀ item, (f item).instanceId = item.instanceId)
    (wakes : ∀ item, item.status ≠ .stopped → (f item).status ≠ .stopped) :
    AwakeIn (instances.map f) instanceId := by
  constructor
  · rw [List.map_map]
    have same : AgentInstance.instanceId ∘ f = AgentInstance.instanceId := funext keepsId
    rw [same]
    exact awake.1
  · intro item member sameId
    obtain ⟨before, listed, rfl⟩ := List.mem_map.mp member
    exact wakes before (awake.2 before listed (keepsId before ▸ sameId))

section

variable {now : Timestamp} {instances next : List AgentInstance} {instanceId : Identifier}

theorem restoredInstance_status (target : InstanceStatus) (item : AgentInstance) :
    (TaskCommandService.restoredInstance now target item).status = target := by
  unfold TaskCommandService.restoredInstance AgentInstance.activate
  dsimp only
  split <;> rfl

theorem restoredInstance_instanceId (target : InstanceStatus) (item : AgentInstance) :
    (TaskCommandService.restoredInstance now target item).instanceId = item.instanceId := by
  unfold TaskCommandService.restoredInstance AgentInstance.activate
  dsimp only
  split <;> rfl

/-- An entry of a restore leaves its instance awake, and every other one that was.  A parked
    instance has no transition to `STOPPED`. -/
theorem restoreInstance_awake {restore : InstanceRestore}
    (distinct : (instances.map AgentInstance.instanceId).Nodup)
    (restored : TaskCommandService.restoreInstance now instances restore = .ok next) :
    AwakeIn next restore.instanceId ∧
      ∀ other, AwakeIn instances other → AwakeIn next other := by
  unfold TaskCommandService.restoreInstance at restored
  cases found : dictGet AgentInstance.instanceId instances restore.instanceId with
  | none =>
      rw [found] at restored
      cases restored
  | some item =>
      obtain ⟨member, sameId⟩ := mem_of_dictGet found
      have listed : restore.instanceId ∈ instances.map AgentInstance.instanceId :=
        List.mem_map.mpr ⟨item, member, sameId⟩
      rw [found] at restored
      by_cases parked : item.status = .stopped
      · simp only [parked, ne_eq, not_true, if_false, bind_eq_ok, transitionInstanceStatus_eq_ok,
          pure_eq_ok, Except.ok.injEq] at restored
        obtain ⟨-, legal, rfl⟩ := restored
        have awake : restore.targetStatus ≠ .stopped := by
          intro same
          rw [same] at legal
          exact absurd legal (by decide)
        have keepsId : ∀ item : AgentInstance, (if item.instanceId = restore.instanceId then
            TaskCommandService.restoredInstance now restore.targetStatus item
            else item).instanceId = item.instanceId := by
          intro item
          split
          · exact restoredInstance_instanceId _ item
          · rfl
        refine ⟨⟨?_, ?_⟩, fun other waking => waking.map keepsId fun item waking => ?_⟩
        · rw [List.map_map]
          have same : (AgentInstance.instanceId ∘ fun item : AgentInstance =>
              if item.instanceId = restore.instanceId then
                TaskCommandService.restoredInstance now restore.targetStatus item
              else item) = AgentInstance.instanceId := funext keepsId
          rw [same]
          exact listed
        · intro other member sameId
          obtain ⟨before, -, rfl⟩ := List.mem_map.mp member
          rw [keepsId] at sameId
          rw [if_pos sameId, restoredInstance_status]
          exact awake
        · split
          · rw [restoredInstance_status]
            exact awake
          · exact waking
      · simp only [parked, ne_eq, not_false_eq_true, if_true, pure_eq_ok,
          Except.ok.injEq] at restored
        subst restored
        refine ⟨⟨listed, fun other otherMember same => ?_⟩, fun _ => id⟩
        rw [List.inj_on_of_nodup_map distinct otherMember member (same.trans sameId.symm)]
        exact parked

theorem restoreInstances_awake {restores : List InstanceRestore}
    (distinct : (instances.map AgentInstance.instanceId).Nodup)
    (restored : restores.foldlM (TaskCommandService.restoreInstance now) instances = .ok next) :
    (∀ restore ∈ restores, AwakeIn next restore.instanceId) ∧
      ∀ other, AwakeIn instances other → AwakeIn next other := by
  induction restores generalizing instances with
  | nil =>
      obtain rfl := Except.ok.inj restored
      exact ⟨fun _ none => absurd none List.not_mem_nil, fun _ => id⟩
  | cons restore restores ih =>
      rw [List.foldlM_cons] at restored
      obtain ⟨middle, first, restored⟩ := bind_eq_ok.mp restored
      obtain ⟨own, kept⟩ := restoreInstance_awake distinct first
      obtain ⟨later, onward⟩ := ih ((restoreInstance_progress distinct first).1 ▸ distinct) restored
      refine ⟨fun other member => ?_, fun other awake => onward other (kept other awake)⟩
      rcases List.mem_cons.mp member with rfl | rest
      · exact onward _ own
      · exact later other rest

end

namespace CommandStore

section

variable {taskId : Identifier} {store next : CommandStore} {restores : List InstanceRestore}
  {target : TaskStatus} {envelope : CommandEnvelope} {ambient : Ambient} {result : CommandResult}

/-- An instance that is awake in the plan is not parked. -/
theorem status_of_awakeIn {plan : Plan} {instanceId : Identifier}
    (stored : store.state.plan = some plan) (awake : AwakeIn plan.instances instanceId) :
    store.status instanceId ≠ some .stopped := by
  intro parked
  have listed : (plan.instances.find? (·.instanceId = instanceId)).isSome := by
    obtain ⟨item, member, same⟩ := List.mem_map.mp awake.1
    rw [List.find?_isSome]
    exact ⟨item, member, by simpa using same⟩
  obtain ⟨item, found⟩ := Option.isSome_iff_exists.mp listed
  have sameId : item.instanceId = instanceId := by simpa using List.find?_some found
  have planned : store.planned instanceId = some item := by
    rw [CommandStore.planned, stored, Option.bind_some, found]
  rw [status_of_planned planned] at parked
  exact awake.2 item (List.mem_of_find?_eq_some found) sameId (Option.some.inj parked)

/-- A restore that is not a replay leaves none of its instances parked. -/
theorem restoreArchived_wakes (inv : StateInvariant store.state)
    (unused : store.used envelope.idempotencyKey = none)
    (returned : store.command taskId (.restoreArchived restores target) envelope ambient =
      .ok (result, next)) :
    ∀ restore ∈ restores, next.status restore.instanceId ≠ some .stopped := by
  have built : TaskCommandService.buildRequest envelope (.restoreArchived restores target) =
      .ok (.restoreArchived restores target) := rfl
  rw [command_unused built unused] at returned
  obtain ⟨commit, handled, returned⟩ := bind_eq_ok.mp returned
  obtain ⟨state, applied, returned⟩ := bind_eq_ok.mp returned
  obtain ⟨-, rfl⟩ := Prod.mk.inj (Except.ok.inj returned)
  have decision : Decision store.state envelope ambient (.restoreArchived restores target) commit :=
    TaskCommandService.restoreArchived_decision handled
  cases stored : store.state.plan with
  | none =>
      -- Without a plan there is nothing to restore.
      have nothing : restores = [] := by
        simp only [TaskCommandService.handle, TaskCommandService.restoreArchived, stored,
          bind_eq_ok] at handled
        obtain ⟨task, -, -, -, -, -, handled⟩ := handled
        have checked := ok_of_guarded handled
        obtain ⟨passed, none, -⟩ := bind_eq_ok.mp checked
        exact ensure_eq_ok.mp none
      intro restore member
      rw [nothing] at member
      exact absurd member List.not_mem_nil
  | some plan =>
      cases decision with
      | planless command task payload storedTask noPlan =>
          rw [stored] at noPlan
          cases noPlan
      | edited command old new skipUnchanged edits => cases edits
      | restored restores target task old refreshed instances storedTask found guarded woken moved
          legal =>
          have valid : PlanValid old := (inv.plan old found).valid
          obtain ⟨-, rfl⟩ := TaskState.apply_aggregate_eq_ok.mp applied
          obtain ⟨ids, progress⟩ := restoreInstances_progress valid.instanceIdsDistinct woken
          have prepared : PlanBase old { old with instances := instances } :=
            ⟨rfl, ids, fun stage member => ⟨stage, member, .refl stage⟩, progress⟩
          obtain ⟨-, rfl⟩ := refreshStages_eq_ok (prepared.wired valid.wired) moved
          intro restore member
          have awake : AwakeIn instances restore.instanceId :=
            (restoreInstances_awake valid.instanceIdsDistinct woken).1 restore member
          refine status_of_awakeIn rfl (awake.map (fun item => ?_) fun item waking => ?_)
          · split <;> rfl
          · split
            · exact waking
            · exact waking

end

end CommandStore

end DesignHarness
