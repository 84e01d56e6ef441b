import DesignHarness.Library.Runs
import DesignHarness.Services.BudgetOperations
import DesignHarness.Services.BudgetPolicy
import DesignHarness.Storage.Recovery

/-!
# Runs of the retry budget service

A run interleaves the operations of `RetryBudgetService`, each finished or stopped at any of its
writes, with startups of the store and with the writes of everything else.  `Budgets` is the
condition that it keeps: what every `BudgetMove` keeps holds of the stored budget and of the one
that a startup would restore.
-/

namespace DesignHarness

open Library

/-- The operations of `RetryBudgetService` on a task. -/
inductive BudgetCall where
  | configure (policy : RetryPolicy) (expectedRevision : Nat) (name : String) (actor : Actor)
  | requestRetry (request : RetryRequest) (name : String) (actor : Actor)
  | resolveApproval (resolution : BudgetResolution) (envelope : CommandEnvelope)
  | consumeOverride (attemptId : Identifier) (name : String) (actor : Actor)
  | settle (request : SettleRequest) (name : String) (actor : Actor)
  | recover

def BudgetCall.script (taskId : Identifier) (now : Timestamp) : BudgetCall → TaskScript Unit
  | .configure policy expectedRevision name actor => do
      let _ ← DesignHarness.configure taskId policy expectedRevision name actor now
  | .requestRetry request name actor => do
      let _ ← DesignHarness.requestRetry taskId request name actor now
  | .resolveApproval resolution envelope => do
      let _ ← DesignHarness.resolveApproval taskId resolution envelope now
  | .consumeOverride attemptId name actor => do
      let _ ← DesignHarness.consumeOverride taskId attemptId name actor now
  | .settle request name actor => do
      let _ ← DesignHarness.settle taskId request name actor now
  | .recover => recoverBudget taskId now

/-- The object that a write is about. -/
def TaskWrite.about : TaskWrite → Option ObjectKey
  | .append event => some event.key
  | .replace key _ | .unlink key => some key
  | .truncate | .side _ => none

/-- A write of something else than the retry budgets. -/
abbrev OtherWrite := { write : TaskWrite // TaskWrite.about write ≠ some .retryBudget }

/-- The write at which a script was stopped, and whether that write was torn. -/
abbrev Stop := Nat × Bool

/-- One step of a run: a call of the service, a startup of the store, or a write of something
    else. -/
inductive BudgetStep where
  | service (operation : BudgetCall) (now : Timestamp) (stop : Option Stop)
  | startup (now : Timestamp) (stop : Option Stop)
  | other (write : OtherWrite) (torn : Bool)

/-- The store after a script that was stopped or not. -/
def ranTo {α : Type} (script : TaskScript α) (stop : Option Stop) (store : TaskStore) :
    TaskStore :=
  match stop with
  | none => script.after store
  | some (position, torn) => script.stopped store position torn

def BudgetStep.next (taskId : Identifier) (store : TaskStore) : BudgetStep → TaskStore
  | .service operation now stop => ranTo (operation.script taskId now) stop store
  | .startup now stop => ranTo (recover taskId now) stop store
  | .other write torn => if torn then Disk.tear store write.val else Disk.apply store write.val

/-- A step of a run never fails; what an operation raises is the end of its script. -/
def budgetStep (taskId : Identifier) (store : TaskStore) (step : BudgetStep) :
    Except Empty TaskStore :=
  .ok (step.next taskId store)

/-- The store that a list of steps makes of a store. -/
def budgetRun (taskId : Identifier) (store : TaskStore) (steps : List BudgetStep) : TaskStore :=
  runFrom (budgetStep taskId) store steps

/-- A policy that the step commits is allowed for the stored budget. -/
def Configures (taskId : Identifier) (allowed : RetryBudget → RetryPolicy → Prop)
    (store : TaskStore) : BudgetStep → Prop
  | .service (.configure policy expectedRevision name actor) now _ =>
      Reconfigures taskId policy expectedRevision name actor store →
        allowed (store.budget.getD (.initial taskId now)) policy
  | _ => True

/-- What holds of the stored snapshot and of the one that a startup restores. -/
structure Budgets (fits : Option (Wrapper RetryBudget) → Prop) (store : TaskStore) : Prop where
  stored : fits (store.lookup ObjectKey.retryBudget)
  restored : fits (latest ObjectKey.retryBudget store.events)

/-- A property of budgets as one of their snapshots. -/
abbrev OfBudget (fits : Option RetryBudget → Prop) (current : Option (Wrapper RetryBudget)) :
    Prop :=
  fits (current.map Wrapper.payload)

/-- Nothing may be left half done. -/
abbrev Nowhere (_ : TaskStore) : Prop := False

section

variable {taskId : Identifier} {now : Timestamp} {fits : Option (Wrapper RetryBudget) → Prop}
  {store : TaskStore} {key : ObjectKey}

theorem Budgets.torn (budgets : Budgets fits store) : Budgets fits store.torn where
  stored := budgets.stored
  restored := by
    rw [Store.events_torn]
    exact budgets.restored

theorem keeps_append {event : TaskEvent} (committed : ∀ snapshot : Wrapper RetryBudget,
      event.snapshot .retryBudget = some snapshot → fits (some snapshot)) :
    Keeps (Budgets fits) Nowhere (.append event : TaskWrite) := by
  intro store budgets
  refine ⟨⟨budgets.stored, ?_⟩, .inl budgets.torn⟩
  change fits (latest ObjectKey.retryBudget (store.append event).events)
  rcases Store.events_append_cases event store with same | added
  · rw [same]
    exact budgets.restored
  · rw [added]
    rcases latest_append_cases store.events event with earlier | ⟨snapshot, found, later⟩
    · rw [earlier]
      exact budgets.restored
    · rw [later]
      exact committed snapshot found

theorem keeps_replace_budget {snapshot : Wrapper RetryBudget}
    (replaced : fits (some snapshot)) :
    Keeps (Budgets fits) Nowhere (.replace .retryBudget snapshot : TaskWrite) := by
  intro store budgets
  refine ⟨⟨?_, budgets.restored⟩, .inl budgets⟩
  change fits ((store.replace ObjectKey.retryBudget snapshot).lookup ObjectKey.retryBudget)
  rw [Store.lookup_replace_self]
  exact replaced

theorem keeps_replace_other {snapshot : Wrapper (Payload key)} (different : key ≠ .retryBudget) :
    Keeps (Budgets fits) Nowhere (.replace key snapshot : TaskWrite) := by
  intro store budgets
  refine ⟨⟨?_, budgets.restored⟩, .inl budgets⟩
  change fits ((store.replace key snapshot).lookup ObjectKey.retryBudget)
  rw [Store.lookup_replace_of_ne different.symm]
  exact budgets.stored

theorem keeps_unlink (different : key ≠ .retryBudget) :
    Keeps (Budgets fits) Nowhere (.unlink key : TaskWrite) := by
  intro store budgets
  refine ⟨⟨?_, budgets.restored⟩, .inl budgets⟩
  change fits ((store.unlink key).lookup ObjectKey.retryBudget)
  rw [Store.lookup_unlink_of_ne different.symm]
  exact budgets.stored

theorem keeps_truncate : Keeps (Budgets fits) Nowhere (.truncate : TaskWrite) :=
  fun _ budgets => ⟨⟨budgets.stored, budgets.restored⟩, .inl budgets⟩

theorem keeps_side {side : SideFiles} : Keeps (Budgets fits) Nowhere (.side side : TaskWrite) :=
  fun _ budgets => ⟨⟨budgets.stored, budgets.restored⟩, .inl budgets⟩

/-- Whatever is not about the budget keeps what holds of it. -/
theorem keeps_other {write : TaskWrite} (other : write.about ≠ some .retryBudget) :
    Keeps (Budgets fits) Nowhere write := by
  cases write with
  | append event =>
      have different : event.key ≠ .retryBudget := fun same => other (congrArg some same)
      refine keeps_append fun snapshot found => ?_
      rw [Event.snapshot_of_ne different] at found
      cases found
  | truncate => exact keeps_truncate
  | replace key snapshot => exact keeps_replace_other fun same => other (congrArg some same)
  | unlink key => exact keeps_unlink fun same => other (congrArg some same)
  | side value => exact keeps_side

theorem putOther_maintains {payload : Payload key} {expected : Nat} {info : EventInfo}
    (different : key ≠ .retryBudget) :
    Maintains (Budgets fits) Nowhere (putObject taskId key payload expected info now)
      fun _ => True := by
  refine put_maintains keeps_truncate (fun revision => ?_) fun revision => ?_
  · exact keeps_other fun same => different (Option.some.inj same)
  · exact keeps_replace_other different

theorem putBudget_maintains {updated : RetryBudget} {actor : Actor} {command name : String}
    {digest : Request} {result : ServiceResult}
    (fit : ∀ revision, fits (some ⟨revision, updated, now⟩)) :
    Maintains (Budgets fits) Nowhere
      (putBudget taskId updated actor command name digest result now) fun _ => True := by
  refine Maintains.andThen Maintains.look fun revision => ?_
  refine Maintains.andThen (put_maintains keeps_truncate (fun revision => ?_) fun revision => ?_)
    fun _ => Maintains.done
  · refine keeps_append fun snapshot found => ?_
    rw [Event.snapshot_committed] at found
    obtain rfl := Option.some.inj found
    exact fit revision
  · exact keeps_replace_budget (fit revision)

/-! ### Startup -/

theorem recoverIdempotencyResults_maintains {events : List TaskEvent} :
    Maintains (Budgets fits) Nowhere (recoverIdempotencyResults taskId events) fun _ => True := by
  refine Maintains.forEach fun event member => ?_
  cases event.info.result with
  | none => exact Maintains.done
  | some result =>
      refine Maintains.andThen (Maintains.andThen Maintains.look fun side => ?_) fun _ =>
        Maintains.done
      cases side.registry.lookup event.info.idempotencyKey with
      | some record => exact Maintains.andThen Maintains.check fun _ => Maintains.done
      | none => exact Maintains.andThen (Maintains.write keeps_side) fun _ => Maintains.done

theorem recoverObjects_maintains {events : List TaskEvent}
    (restored : fits (latest ObjectKey.retryBudget events)) :
    Maintains (Budgets fits) Nowhere (recoverObjects (storeErrors taskId) events)
      fun _ => True := by
  have replaced : ∀ key (committed : Wrapper (Payload key)), latest key events = some committed →
      Keeps (Budgets fits) Nowhere (.replace key committed : TaskWrite) := by
    intro key committed found
    by_cases same : key = .retryBudget
    · subst same
      rw [found] at restored
      exact keeps_replace_budget restored
    · exact keeps_replace_other same
  refine Maintains.andThen (Maintains.forEach fun key member => ?_) fun _ => ?_
  · cases found : latest key events with
    | none => exact Maintains.done
    | some committed =>
        have written := Maintains.write (ε := Raised) (replaced key committed found)
        refine Maintains.andThen Maintains.look fun current => ?_
        cases current with
        | none => exact written
        | some current =>
            dsimp only
            split
            · exact written
            · split
              · exact Maintains.raise
              · split
                · exact written
                · exact Maintains.done
  · refine Maintains.andThen Maintains.look fun keys => ?_
    exact Maintains.forEach fun key member => Maintains.check

theorem reconcilePlanProjections_maintains :
    Maintains (Budgets fits) Nowhere (reconcilePlanProjections taskId now) fun _ => True := by
  have retired : ∀ (toKey : Identifier → ObjectKey) (active listed : List Identifier),
      (∀ objectId, toKey objectId ≠ .retryBudget) →
      Maintains (Budgets fits) Nowhere (retireFrom toKey active listed) fun _ => True := by
    intro toKey active listed different
    refine Maintains.forEach fun objectId member => ?_
    split
    · exact Maintains.done
    · exact Maintains.write (keeps_unlink (different objectId))
  refine Maintains.andThen Maintains.look fun plan => ?_
  cases plan with
  | none => exact Maintains.done
  | some wrapper =>
      refine Maintains.andThen (Maintains.forEach fun projection member => ?_) fun _ => ?_
      · have different : projection.1 ≠ .retryBudget := by
          rcases List.mem_cons.mp member with rfl | member
          · simp
          · rcases List.mem_append.mp member with stage | item
            · obtain ⟨stage, -, rfl⟩ := List.mem_map.mp stage
              simp [Stage.projection]
            · obtain ⟨item, -, rfl⟩ := List.mem_map.mp item
              simp [AgentInstance.projection]
        refine Maintains.andThen Maintains.look fun current => ?_
        split
        · exact Maintains.done
        · exact Maintains.andThen (putOther_maintains different) fun _ => Maintains.done
      · refine Maintains.andThen Maintains.look fun stages => ?_
        refine Maintains.andThen (retired _ _ _ (by simp)) fun _ => ?_
        refine Maintains.andThen Maintains.look fun instances => ?_
        exact retired _ _ _ (by simp)

/-- A startup restores the budget of the journal. -/
theorem recover_maintains :
    Maintains (Budgets fits) Nowhere (recover taskId now) fun _ => True := by
  have read : Maintains (Budgets fits) Nowhere (recoverRecords (storeErrors taskId))
      fun events => fits (latest ObjectKey.retryBudget events) := by
    have journal : Maintains (Budgets fits) Nowhere
        (Script.read Store.journal : TaskScript (Journal ObjectKey Payload EventInfo))
        fun journal => fits (latest ObjectKey.retryBudget journal.events) :=
      Maintains.read fun _ budgets => budgets.restored
    refine Maintains.bind journal fun journal fit => ?_
    cases tail : journal.tail with
    | clean => exact Maintains.pure fit
    | torn | garbled =>
        exact Maintains.andThen (Maintains.write keeps_truncate) fun _ => Maintains.pure fit
    | corrupt => exact Maintains.raise
  refine Maintains.bind read fun events fit => ?_
  refine Maintains.andThen recoverIdempotencyResults_maintains fun _ => ?_
  refine Maintains.andThen (recoverObjects_maintains fit) fun _ => ?_
  exact reconcilePlanProjections_maintains

theorem ranTo_budgets {script : TaskScript Unit}
    (meets : Meets script store (fun store => Budgets fits store ∨ Nowhere store)
      (fun _ => Budgets fits) fun _ => Budgets fits) (stop : Option Stop) :
    Budgets fits (ranTo script stop store) := by
  cases stop with
  | none => exact meets.after
  | some stop => exact (meets.stopped stop.1 stop.2).resolve_right id

end

section

variable {taskId : Identifier} {now : Timestamp} {fits : Option RetryBudget → Prop}
  {allowed : RetryBudget → RetryPolicy → Prop} {decides : Prop} {store : TaskStore}

theorem Budgets.about : AboutBudget taskId (Budgets (OfBudget fits)) Nowhere where
  truncated := keeps_truncate
  sides _ := keeps_side
  puts _ _ _ _ _ different := putOther_maintains different

/-- Every operation keeps a property of budgets that every move keeps. -/
theorem Budgets.guard
    (closed : ∀ current new now, fits current →
      BudgetMove allowed True (fun _ _ _ => True) (current.getD (.initial taskId now)) new → fits (some new)) :
    BudgetGuard taskId allowed True (fun _ _ _ => True) fits (Budgets (OfBudget fits)) Nowhere where
  toUndisturbed := Budgets.about.undisturbed
  stored _ budgets := budgets.stored
  lineages _ _ _ _ _ _ := trivial
  closed := closed
  commits _ _ _ _ _ _ _ fit _ := putBudget_maintains fun _ => fit
  resolutions _ _ _ _ _ _ _ := Budgets.about.resolution

theorem Configures.anything {step : BudgetStep} :
    Configures taskId (fun _ _ => True) store step := by
  cases step with
  | service operation now stop =>
      cases operation with
      | configure policy expectedRevision name actor => exact fun _ => trivial
      | _ => trivial
  | startup now stop => trivial
  | other write torn => trivial

/-- Every operation keeps a guarded condition, when a policy that it configures is allowed. -/
theorem BudgetGuard.operation {condition between : TaskStore → Prop}
    (guard : BudgetGuard taskId allowed True resolves fits condition between) {operation : BudgetCall}
    {stop : Option Stop} (configures : Configures taskId allowed store (.service operation now stop))
    (holds : condition store) :
    Meets (operation.script taskId now) store (fun store => condition store ∨ between store)
      (fun _ => condition) fun _ => condition := by
  have kept : ∀ {script : TaskScript Unit}, Maintains condition between script (fun _ => True) →
      Meets script store (fun store => condition store ∨ between store) (fun _ => condition)
        fun _ => condition :=
    fun maintains => (maintains store holds).mono (fun _ => id) (fun _ _ ended => ended.1)
      fun _ _ => id
  have finished : ∀ {α : Type} {script : TaskScript α},
      Maintains condition between script (fun _ => True) →
      Maintains condition between (script >>= fun _ => pure ()) fun _ => True :=
    fun maintains => Maintains.andThen maintains fun _ => Maintains.done
  cases operation with
  | configure policy expected name actor =>
      refine Meets.bind ((guard.configure holds configures).mono (fun _ => id) ?_ fun _ _ => id)
      intro _ later kept
      exact Meets.pure (.inl kept) kept
  | requestRetry request name actor => exact kept (finished guard.requestRetry)
  | resolveApproval resolution envelope => exact kept (finished (guard.resolveApproval trivial))
  | consumeOverride attemptId name actor => exact kept (finished guard.consumeOverride)
  | settle request name actor => exact kept (finished guard.settle)
  | recover => exact kept guard.recover

/-- A step keeps a property of budgets that every move keeps. -/
theorem Budgets.next
    (closed : ∀ current new now, fits current →
      BudgetMove allowed True (fun _ _ _ => True) (current.getD (.initial taskId now)) new → fits (some new))
    {step : BudgetStep} (configures : Configures taskId allowed store step)
    (budgets : Budgets (OfBudget fits) store) : Budgets (OfBudget fits) (step.next taskId store) := by
  cases step with
  | service operation now stop =>
      exact ranTo_budgets ((Budgets.guard closed).operation configures budgets) stop
  | startup now stop =>
      refine ranTo_budgets ?_ stop
      exact (recover_maintains store budgets).mono (fun _ => id) (fun _ _ ended => ended.1)
        fun _ _ => id
  | other write torn =>
      obtain ⟨applied, interrupted⟩ := keeps_other write.property store budgets
      cases torn with
      | false => exact applied
      | true => exact interrupted.resolve_right id

/-- What every move keeps holds throughout a run that only configures what is allowed. -/
theorem Budgets.run
    (closed : ∀ current new now, fits current →
      BudgetMove allowed True (fun _ _ _ => True) (current.getD (.initial taskId now)) new → fits (some new))
    {steps : List BudgetStep}
    (along : Along (budgetStep taskId) (Configures taskId allowed) store steps)
    (start : Budgets (OfBudget fits) store) :
    Budgets (OfBudget fits) (budgetRun taskId store steps) := by
  refine along_induction (motive := fun _ store => Budgets (OfBudget fits) store) start ?_ along
  intro steps step _ configures budgets
  exact budgets.next closed configures

/-- Nothing is asked of a run that may configure any policy. -/
theorem Configures.always {steps : List BudgetStep} :
    Along (budgetStep taskId) (Configures taskId fun _ _ => True) store steps := by
  induction steps generalizing store with
  | nil => trivial
  | cons step steps ih => exact ⟨Configures.anything, ih⟩

/-! ## Runs without an interruption -/

/-- The journal verifies, and a startup would restore the budget that is stored. -/
structure Synced (store : TaskStore) : Prop where
  clean : store.Clean
  same : store.lookup ObjectKey.retryBudget = latest ObjectKey.retryBudget store.events

/-- Anything may be left half done. -/
abbrev Anywhere (_ : TaskStore) : Prop := True

/-- A step that nothing interrupts. -/
def BudgetStep.isComplete : BudgetStep → Bool
  | .service _ _ stop | .startup _ stop => stop.isNone
  | .other _ torn => !torn

theorem keeps_clean (write : TaskWrite) : Keeps Store.Clean Anywhere write := by
  intro store clean
  refine ⟨?_, .inr trivial⟩
  cases write with
  | append event => exact clean.append
  | truncate => exact rfl
  | replace key snapshot => exact clean
  | unlink key => exact clean
  | side value => exact clean

/-- A finished write that is not about the budget leaves it synced. -/
theorem keeps_synced {write : TaskWrite} (other : write.about ≠ some .retryBudget) :
    Keeps Synced Anywhere write := by
  intro store synced
  refine ⟨⟨(keeps_clean write store synced.clean).1, ?_⟩, .inr trivial⟩
  have kept := @keeps_other (fun current => current = store.lookup ObjectKey.retryBudget) write
    other store ⟨rfl, synced.same.symm⟩
  exact kept.1.stored.trans kept.1.restored.symm

theorem Synced.putBudget {updated : RetryBudget} {actor : Actor} {command name : String}
    {digest : Request} {result : ServiceResult} :
    Maintains Synced Anywhere
      (DesignHarness.putBudget taskId updated actor command name digest result now)
      fun _ => True := by
  intro store synced
  refine Meets.bind (Meets.read (.inl synced) ?_)
  refine Meets.bind (put_meets synced.clean (.inl synced) (fun _ _ => synced) (fun _ => synced) ?_)
  intro _ _
  have newest : (latest ObjectKey.retryBudget store.events).elim 0 Wrapper.revision <
      store.nextRevision ObjectKey.retryBudget := by
    unfold Store.nextRevision
    cases found : store.lookup ObjectKey.retryBudget with
    | none => exact Nat.lt_succ_of_le (maxRevision_eq _ store.events).ge
    | some snapshot =>
        rw [← synced.same, found]
        exact Nat.lt_succ_self _
  have committed : Synced (store.commit ObjectKey.retryBudget updated
      ⟨actor, command, name, some ⟨digest, result⟩⟩ now) := by
    refine ⟨synced.clean.commit, ?_⟩
    rw [Store.lookup_commit_self, Store.events_commit synced.clean, Store.commitEvent]
    exact (latest_append_newest newest).symm
  exact ⟨.inr trivial, .inr trivial, .inr trivial, Meets.pure (.inl committed) ⟨committed, trivial⟩⟩

theorem Synced.about : AboutBudget taskId Synced Anywhere where
  truncated := keeps_synced (by simp [TaskWrite.about])
  sides _ := keeps_synced (by simp [TaskWrite.about])
  puts _ _ _ _ _ different := put_maintains (keeps_synced (by simp [TaskWrite.about]))
    (fun _ => keeps_synced fun same => different (Option.some.inj same))
    fun _ => keeps_synced fun same => different (Option.some.inj same)

theorem Synced.guard :
    BudgetGuard taskId (fun _ _ => True) True (fun _ _ _ => True) (fun _ => True) Synced Anywhere where
  toUndisturbed := Synced.about.undisturbed
  stored _ _ := trivial
  lineages _ _ _ _ _ _ := trivial
  closed _ _ _ _ _ := trivial
  commits _ _ _ _ _ _ _ _ _ := Synced.putBudget
  resolutions _ _ _ _ _ _ _ := Synced.about.resolution

theorem Synced.next {step : BudgetStep} (complete : step.isComplete = true)
    (synced : Synced store) : Synced (step.next taskId store) := by
  cases step with
  | service operation now stop =>
      obtain rfl := Option.isNone_iff_eq_none.mp complete
      have configures : Configures taskId (fun _ _ => True) store (.service operation now none) :=
        Configures.anything
      exact (Synced.guard.operation configures synced).after
  | startup now stop =>
      obtain rfl := Option.isNone_iff_eq_none.mp complete
      have clean := (Maintains.always keeps_clean (recover taskId now)).after synced.clean
      have kept := (@recover_maintains taskId now (fun current => current =
        store.lookup ObjectKey.retryBudget)).after ⟨rfl, synced.same.symm⟩
      exact ⟨clean, kept.stored.trans kept.restored.symm⟩
  | other write torn =>
      cases torn with
      | false => exact (keeps_synced write.property store synced).1
      | true => cases complete

theorem Synced.run {steps : List BudgetStep} (complete : ∀ step ∈ steps, step.isComplete = true)
    (synced : Synced store) : Synced (budgetRun taskId store steps) := by
  induction steps generalizing store with
  | nil => exact synced
  | cons step steps ih =>
      refine ih (fun later member => complete later (List.mem_cons_of_mem _ member)) ?_
      exact synced.next (complete step List.mem_cons_self)

theorem Synced.empty : Synced .empty := ⟨rfl, rfl⟩

/-- In every run the counters of the stored ledger are the totals over its attempts, and a
    settlement never takes off more than the counters hold. -/
theorem budgetRun_balanced (taskId : Identifier) (steps : List BudgetStep) (budget : RetryBudget)
    (stored : (budgetRun taskId .empty steps).budget = some budget) :
    budget.Balanced ∧ ∀ attempt ∈ budget.attempts, attempt.status = .reserved →
      attempt.reservedTokens.getD 0 ≤ budget.ledger.retryTokensReserved ∧
        attempt.reservedCostMicros.getD 0 ≤ budget.ledger.retryCostMicrosReserved := by
  have sound := @Budgets.run taskId (fun current => ∀ budget, current = some budget → budget.Sound)
    (fun _ _ => True) .empty (by
      rintro current new now sound move budget ⟨⟩
      refine move.sound ?_
      cases current with
      | none => exact RetryBudget.Sound.initial
      | some budget => exact sound budget rfl)
    steps Configures.always ⟨by rintro budget ⟨⟩, by rintro budget ⟨⟩⟩
  have balanced := (sound.stored budget stored).balanced
  exact ⟨balanced, fun attempt member reserved => balanced.covers member reserved⟩

/-- In every run that does not lower the policy under an automatic retry, these retries are within
    the policy while the ledger is not frozen; once it is frozen it stays so, and no retry becomes
    an automatic one. -/
theorem automaticRetries_bounded (taskId : Identifier) :
    (∀ steps, Along (budgetStep taskId) (Configures taskId KeepsLimits) .empty steps →
      ∀ budget, (budgetRun taskId .empty steps).budget = some budget →
        budget.ledger.frozen = false → budget.WithinPolicy) ∧
    ∀ before after, (∀ step ∈ before, step.isComplete = true) →
      ∀ budget, (budgetRun taskId .empty before).budget = some budget →
        budget.ledger.frozen = true →
        ∃ later, (budgetRun taskId .empty (before ++ after)).budget = some later ∧
          later.ledger.frozen = true ∧
          ∀ attemptId ∈ later.automaticIds, attemptId ∈ budget.automaticIds := by
  constructor
  · intro steps along budget stored thawed
    have bounded := @Budgets.run taskId
      (fun current => ∀ budget, current = some budget → budget.Bounded) KeepsLimits .empty (by
        rintro current new now bounded move budget ⟨⟩
        refine move.bounded ?_
        cases current with
        | none => exact RetryBudget.Bounded.initial
        | some budget => exact bounded budget rfl)
      steps along ⟨by rintro budget ⟨⟩, by rintro budget ⟨⟩⟩
    exact (bounded.stored budget stored).within thawed
  · intro before after complete budget stored frozen
    have synced := @Synced.run taskId .empty before complete Synced.empty
    have later := @Budgets.run taskId (fun current => ∃ later, current = some later ∧
        later.ledger.frozen = true ∧
        ∀ attemptId ∈ later.automaticIds, attemptId ∈ budget.automaticIds)
      (fun _ _ => True) (budgetRun taskId .empty before) (by
        rintro current new now ⟨earlier, rfl, frozen, automatic⟩ move
        obtain ⟨still, kept⟩ := move.frozen frozen
        exact ⟨new, rfl, still, fun attemptId member => automatic _ (kept _ member)⟩)
      after Configures.always
    have start : ∃ later, (budgetRun taskId .empty before).budget = some later ∧
        later.ledger.frozen = true ∧
        ∀ attemptId ∈ later.automaticIds, attemptId ∈ budget.automaticIds :=
      ⟨budget, stored, frozen, fun _ => id⟩
    have ended := (later ⟨start, synced.same ▸ start⟩).stored
    rw [budgetRun, runFrom_append]
    exact ended

end

def retriedInstance : AgentInstance where
  instanceId := "a"
  taskId := "task"
  stageId := "drafts"
  agentType := .general
  required := true
  requirementLifecycle := .fresh true
  status := .running
  approvalMode := .human
  manualFinished := false
  manualBusinessStatus := none
  configRevision := 1
  workspaceRelpath := "instances/a"
  taskCardRelpath := "cards/a"
  uiUrl := none
  process := none
  restartRequired := none
  deliveryRejection := none
  startFailure := none
  createdAt := "t0"

def retriedSnapshot : Payload (.agentInstance "a") := ⟨retriedInstance, rfl⟩

def retryPolicy : RetryPolicy := { maxAutoRetriesPerRetryGroup := 2, maxAutoRetryTokensTask := 100 }

/-- The task, its instance and a registered model call, a policy, and a granted retry. -/
def grantedRun : List BudgetStep :=
  [.other ⟨.replace .task ⟨1, sampleTask, "t0"⟩, by simp [TaskWrite.about]⟩ false,
    .other ⟨.replace (.agentInstance "a") ⟨1, retriedSnapshot, "t0"⟩,
      by simp [TaskWrite.about]⟩ false,
    .other ⟨.side ⟨∅, ∅, AList.singleton "call" "a", 0⟩, by simp [TaskWrite.about]⟩ false,
    .service (.configure retryPolicy 0 "policy" ⟨.human, "human_operator"⟩) "t1" none,
    .service (.requestRetry ⟨"a", "retry", "call", some 10, none, none⟩ "reserve"
      ⟨.system, "executor"⟩) "t2" none]

/-- The usage goes over the reservation. -/
def exceededRun : List BudgetStep :=
  grantedRun ++ [.service (.settle ⟨"retry", 12, none⟩ "settle" ⟨.system, "executor"⟩) "t3" none]

/-- Another retry of the same call. -/
def retryAgain : List BudgetStep :=
  [.service (.requestRetry ⟨"a", "again", "call", some 1, none, none⟩ "again"
    ⟨.system, "executor"⟩) "t4" none]

theorem budgetRun_balanced_granted : ∃ budget, (budgetRun "task" .empty grantedRun).budget =
    some budget ∧ budget.ledger.retryTokensReserved = 10 ∧ budget.Balanced := by
  have stored : ((budgetRun "task" .empty grantedRun).budget.map
      (·.ledger.retryTokensReserved)) = some 10 := by decide
  obtain ⟨budget, found, reserved⟩ := Option.map_eq_some_iff.mp stored
  exact ⟨budget, found, reserved, (budgetRun_balanced "task" grantedRun budget found).1⟩

theorem automaticRetries_bounded_exceeded :
    (∃ budget, (budgetRun "task" .empty grantedRun).budget = some budget ∧
      budget.automaticIds = ["retry"] ∧ budget.WithinPolicy) ∧
    ∃ later, (budgetRun "task" .empty (exceededRun ++ retryAgain)).budget = some later ∧
      later.ledger.frozen = true ∧ ∀ attemptId ∈ later.automaticIds, attemptId = "retry" := by
  obtain ⟨within, frozen⟩ := automaticRetries_bounded "task"
  constructor
  · have stored : ((budgetRun "task" .empty grantedRun).budget.map
        fun budget => (budget.automaticIds, budget.ledger.frozen)) = some (["retry"], false) := by
      decide
    obtain ⟨budget, found, facts⟩ := Option.map_eq_some_iff.mp stored
    obtain ⟨automatic, thawed⟩ := Prod.mk.inj facts
    refine ⟨budget, found, automatic, within grantedRun ?_ budget found thawed⟩
    refine ⟨trivial, trivial, trivial, fun _ => ?_, trivial, trivial⟩
    rintro ⟨⟩
  · have stored : ((budgetRun "task" .empty exceededRun).budget.map
        fun budget => (budget.automaticIds, budget.ledger.frozen)) = some (["retry"], true) := by
      decide
    obtain ⟨budget, found, facts⟩ := Option.map_eq_some_iff.mp stored
    obtain ⟨automatic, exceeded⟩ := Prod.mk.inj facts
    obtain ⟨later, kept, still, subset⟩ :=
      frozen exceededRun retryAgain (by decide) budget found exceeded
    refine ⟨later, kept, still, fun attemptId member => ?_⟩
    have earlier := subset attemptId member
    rw [automatic] at earlier
    exact List.mem_singleton.mp earlier

end DesignHarness
