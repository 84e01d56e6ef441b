import DesignHarness.Services.DecisionKeys

/-!
# Budget approvals over the life of a task

A history interleaves the calls of `RetryBudgetService` with the commits of the other services,
interruptions and startups.  A decision that a history leaves in flight, in a running process or
in a stopped one, can be completed by the same call, as long as no other command has taken its keys
(`resolveApproval_recoverable`).
-/

namespace DesignHarness

open Library

/-- A call of another service: it is about something else than the budget and its approvals, and
    the task itself is never removed. -/
def RepositoryCall.Foreign (store : TaskStore) : RepositoryCall → Prop
  | .put key payload _ info _ => info.Fitting ∧ (key.isQuiet = true ∨
      ∃ (approvalId : Identifier) (same : key = .approval approvalId),
        (same ▸ payload : Payload (.approval approvalId)).val.kind ≠ .budgetOverride ∧
        ∀ wrapper, store.lookup (.approval approvalId) = some wrapper →
          wrapper.payload.val.kind ≠ .budgetOverride)
  | .delete key _ info => info.Fitting ∧ key.isQuiet = true ∧ key ≠ .task

/-- The stores that calls, interruptions and startups lead to.  A process that was interrupted, or
    whose startup raised, can only be started again. -/
inductive BudgetHistory (taskId : Identifier) : Phase → TaskStore → Prop where
  | empty : BudgetHistory taskId .running .empty
  | service {store : TaskStore} (history : BudgetHistory taskId .running store)
      (operation : BudgetCall) (now : Timestamp) :
      BudgetHistory taskId .running ((operation.script taskId now).after store)
  | serviceInterrupted {store : TaskStore} (history : BudgetHistory taskId .running store)
      (operation : BudgetCall) (now : Timestamp) (position : Nat) (torn : Bool) :
      BudgetHistory taskId .stopped ((operation.script taskId now).stopped store position torn)
  | foreign {store : TaskStore} (history : BudgetHistory taskId .running store)
      (call : RepositoryCall) (foreign : call.Foreign store) :
      BudgetHistory taskId .running ((call.script taskId).after store)
  | foreignInterrupted {store : TaskStore} (history : BudgetHistory taskId .running store)
      (call : RepositoryCall) (foreign : call.Foreign store) (position : Nat) (torn : Bool) :
      BudgetHistory taskId .stopped ((call.script taskId).stopped store position torn)
  | beside {store : TaskStore} (history : BudgetHistory taskId .running store) (side : SideFiles)
      (kept : ∀ approvalId context, store.side.approvalRequests.lookup approvalId = some context →
        side.approvalRequests.lookup approvalId = some context)
      (copied : RegistryCopied (store.withSide side)) :
      BudgetHistory taskId .running (store.withSide side)
  | restarted {phase : Phase} {store : TaskStore} (history : BudgetHistory taskId phase store)
      (now : Timestamp) (returned : (recover taskId now store).outcome = .ok ()) :
      BudgetHistory taskId .running ((recover taskId now).after store)
  | restartInterrupted {phase : Phase} {store : TaskStore}
      (history : BudgetHistory taskId phase store) (now : Timestamp) (position : Nat)
      (torn : Bool) :
      BudgetHistory taskId .stopped ((recover taskId now).stopped store position torn)

section

variable {taskId : Identifier} {now : Timestamp} {decisions : Decisions} {store : TaskStore}
  {events : List TaskEvent}

/-- An approval that a decision is about is one of a budget. -/
theorem Committable.isBudgetOverride {requests : AList fun _ : Identifier => ApprovalContext}
    {attemptId : Identifier} {pending : PendingResolution}
    (committable : Committable events requests attemptId pending) :
    ∃ wrapper, latest (.approval pending.request.approvalId) events = some wrapper ∧
      wrapper.payload.val.kind = .budgetOverride := by
  obtain ⟨-, -, wrapper, found, override, -⟩ := committable
  simp only [checkOverride, bind_eq_ok, ensure_eq_ok] at override
  exact ⟨wrapper, found, override.choose_spec.1⟩

theorem Ready.unlink {key : ObjectKey} (ready : Ready decisions store)
    (quiet : key.isQuiet = true) (stays : key ≠ .task) : Ready decisions (store.unlink key) := by
  have lookup : ∀ other : ObjectKey, other ≠ key →
      (store.unlink key).lookup other = store.lookup other :=
    fun other different => Store.lookup_unlink_of_ne different
  refine ⟨⟨ready.covers, ready.fitting, ready.committable⟩, ready.clean, ?_,
    fun approvalId => ?_, ?_⟩
  · rw [lookup _ (by rintro rfl; cases quiet)]
    exact ready.budget
  · rw [lookup _ (by rintro rfl; cases quiet)]
    exact ready.approvals approvalId
  · rw [lookup _ stays.symm]
    exact ready.task

theorem Ready.append_removed {key : ObjectKey} {revision : Nat} {info : EventInfo}
    (ready : Ready decisions store) (fits : info.Fitting) :
    Ready decisions (store.append ⟨key, .removed revision, info⟩) := by
  have silent : ∀ other, (⟨key, .removed revision, info⟩ : TaskEvent).snapshot other = none := by
    intro other
    by_cases same : key = other
    · subst same
      exact Event.snapshot_removed
    · exact Event.snapshot_of_ne same
  have unrelated : ∀ other, latest other (store.append ⟨key, .removed revision, info⟩).events =
      latest other store.events := by
    intro other
    rw [Store.events_append ready.clean, latest_append_of_none (silent other)]
  refine ⟨⟨?_, ?_, ?_⟩, ready.clean.append, ?_, fun approvalId => ?_, ?_⟩
  · rw [unrelated]
    exact ready.covers
  · rw [Store.events_append ready.clean]
    exact fitting_append ready.fitting rfl fits
  · intro attemptId pending found
    rw [Store.events_append ready.clean]
    exact (ready.committable attemptId pending found).append (silent _)
  · rw [unrelated]
    exact ready.budget
  · rw [unrelated]
    exact ready.approvals approvalId
  · rw [unrelated]
    exact ready.task

/-- The calls of the other services keep a process ready. -/
theorem Ready.foreign (ready : Ready decisions store) {call : RepositoryCall}
    (foreign : call.Foreign store) :
    Meets (call.script taskId) store (fun store => Ready decisions store ∨ Stoppable store)
      (fun _ => Ready decisions) fun _ => Ready decisions := by
  cases call with
  | put key payload expected info now =>
      obtain ⟨fits, quiet | ⟨approvalId, rfl, -, other⟩⟩ := foreign
      · have put : Maintains (Ready decisions) Stoppable (do
            let _ ← putObject taskId key payload expected info now
            pure ()) fun _ => True :=
          Maintains.andThen (Steady.maintains fun _ => Steady.putQuiet quiet fits) fun _ =>
            Maintains.done
        exact (put store ready).mono (fun _ => id) (fun _ _ ended => ended.1) fun _ _ => id
      · have unrelated : ∀ attemptId pending, decisions attemptId = some pending →
            pending.request.approvalId ≠ approvalId := by
          rintro attemptId pending found rfl
          obtain ⟨wrapper, latestFound, kind⟩ :=
            (ready.committable attemptId pending found).isBudgetOverride
          rw [← ready.approvals] at latestFound
          exact other wrapper latestFound kind
        have put : Maintains (Ready decisions) Stoppable (do
            let _ ← putObject taskId (.approval approvalId) payload expected info now
            pure ()) fun _ => True :=
          Maintains.andThen (Steady.maintains fun _ => Steady.putApproval fits unrelated) fun _ =>
            Maintains.done
        exact (put store ready).mono (fun _ => id) (fun _ _ ended => ended.1) fun _ _ => id
  | delete key expected info =>
      obtain ⟨fits, quiet, stays⟩ := foreign
      refine Meets.bind (delete_meets (.inl ready) (fun _ => Meets.pure (.inl ready) ready)
        (fun _ => ready) fun current _ _ => ?_)
      have appended := @Ready.append_removed decisions store key current.revision info ready
        fits
      have removed := appended.unlink quiet stays
      exact ⟨.inr ready.torn_stoppable, .inl appended, .inl removed,
        Meets.pure (.inl removed) removed⟩

/-! ## Startup -/

/-- A startup that has read the journal. -/
structure Settling (decisions : Decisions) (events : List TaskEvent) (store : TaskStore) : Prop
    extends Journaled decisions store where
  clean : store.Clean
  same : store.events = events

theorem Settling.stoppable (settling : Settling decisions events store) : Stoppable store :=
  ⟨settling.clean.readable, decisions, settling.toJournaled⟩

/-- The snapshots and the registry are not what the decisions in flight depend on. -/
theorem Settling.of_same {later : TaskStore} (settling : Settling decisions events store)
    (journal : later.journal = store.journal)
    (requests : later.side.approvalRequests = store.side.approvalRequests) :
    Settling decisions events later := by
  have sameEvents : later.events = store.events := congrArg Journal.events journal
  refine ⟨⟨?_, ?_, ?_⟩, ?_, sameEvents.trans settling.same⟩
  · rw [sameEvents]
    exact settling.covers
  · rw [sameEvents]
    exact settling.fitting
  · rw [sameEvents, requests]
    exact settling.committable
  · rw [Store.Clean, journal]
    exact settling.clean

theorem Settling.results :
    Maintains (Settling decisions events) Stoppable (recoverIdempotencyResults taskId events)
      fun _ => True := by
  refine Maintains.forEach fun event member => ?_
  cases event.info.result with
  | none => exact Maintains.done
  | some result =>
      have remembered : Maintains (Settling decisions events) Stoppable
          (rememberDigest taskId event.info.idempotencyKey event.info.command result.digest
            result.value) fun _ => True := by
        intro store settling
        refine Meets.bind (Meets.read (.inl settling) ?_)
        cases store.side.registry.lookup event.info.idempotencyKey with
        | some record =>
            exact Meets.bind (Meets.lift (.inl settling)
              (fun _ _ => Meets.pure (.inl settling) ⟨settling, trivial⟩) fun _ _ => settling)
        | none =>
            have written := @Settling.of_same decisions store events (withRegistry store
              (store.side.registry.insert event.info.idempotencyKey
                ⟨event.info.command, result.digest, result.value⟩)) settling rfl rfl
            exact Meets.bind (Meets.write (.inl settling) (.inl settling) (.inl written)
              (Meets.pure (.inl written) ⟨written, trivial⟩))
      exact Maintains.andThen remembered fun _ => Maintains.done

/-- The reconciliation is about the stages, the instances and the task. -/
theorem Ready.reconcile :
    Maintains (Ready decisions) Stoppable (reconcilePlanProjections taskId now)
      fun _ => True := by
  have retired : ∀ (toKey : Identifier → ObjectKey) (active listed : List Identifier),
      (∀ objectId, (toKey objectId).isQuiet = true ∧ toKey objectId ≠ .task) →
      Maintains (Ready decisions) Stoppable (retireFrom toKey active listed) fun _ => True := by
    intro toKey active listed retirable
    refine Maintains.forEach fun objectId member => ?_
    split
    · exact Maintains.done
    · refine Maintains.write fun store ready => ?_
      exact ⟨ready.unlink (retirable objectId).1 (retirable objectId).2, .inl ready⟩
  refine Maintains.andThen Maintains.look fun plan => ?_
  cases plan with
  | none => exact Maintains.done
  | some wrapper =>
      refine Maintains.andThen (Maintains.forEach fun projection member => ?_) fun _ => ?_
      · have quiet : projection.1.isQuiet = true := by
          rcases List.mem_cons.mp member with rfl | member
          · rfl
          · rcases List.mem_append.mp member with stage | item
            · obtain ⟨stage, -, rfl⟩ := List.mem_map.mp stage
              rfl
            · obtain ⟨item, -, rfl⟩ := List.mem_map.mp item
              rfl
        refine Maintains.andThen Maintains.look fun current => ?_
        split
        · exact Maintains.done
        · exact Maintains.andThen (Steady.maintains fun _ =>
            Steady.putQuiet quiet (Fitting.of_none rfl)) fun _ => Maintains.done
      · refine Maintains.andThen Maintains.look fun stages => ?_
        refine Maintains.andThen (retired _ _ _ fun _ => ⟨rfl, by simp⟩) fun _ => ?_
        refine Maintains.andThen Maintains.look fun instances => ?_
        exact retired _ _ _ fun _ => ⟨rfl, by simp⟩

/-- A startup that ends leaves a process ready, and one that does not can be repeated. -/
theorem Stoppable.recover (stoppable : Stoppable store) :
    Meets (DesignHarness.recover taskId now) store Stoppable
      (fun _ later => ∃ decisions, Ready decisions later) fun _ => Stoppable := by
  obtain ⟨readable, decisions, journaled⟩ := stoppable
  have settling : Settling decisions store.events store.truncate :=
    ⟨⟨journaled.covers, journaled.fitting, journaled.committable⟩, rfl, rfl⟩
  refine Meets.bind (recoverRecords_meets readable ⟨readable, decisions, journaled⟩
    settling.stoppable ?_)
  have weaken : ∀ {condition : TaskStore → Prop} (store : TaskStore),
      (condition store → Stoppable store) → condition store ∨ Stoppable store → Stoppable store :=
    fun _ stop => Or.rec stop id
  refine Meets.bind ((Settling.results _ settling).mono
    (fun _ => weaken _ Settling.stoppable) ?_ fun _ _ => Settling.stoppable)
  rintro _ middle ⟨settled, -⟩
  have restores := @recoverObjects_restores _ _ _ _ _ _ (storeErrors taskId) middle Stoppable _
    fun later journal side => (settled.of_same journal (congrArg _ side)).stoppable
  rw [settled.same] at restores
  refine Meets.bind (restores.mono (fun _ => id) ?_ ?_)
  · rintro _ later ⟨journal, side, lookups⟩
    have kept := settled.of_same journal (congrArg _ side)
    have ready : Ready decisions later := by
      refine ⟨kept.toJournaled, kept.clean, ?_, fun approvalId => ?_, ?_⟩
      · rw [kept.same]
        exact lookups _
      · rw [kept.same]
        exact lookups _
      · rw [kept.same]
        exact lookups _
    refine (Ready.reconcile later ready).mono (fun _ => weaken _ Ready.stoppable) ?_
      fun _ _ => Ready.stoppable
    exact fun _ _ ended => ⟨decisions, ended.1⟩
  · rintro _ later ⟨journal, side⟩
    exact (settled.of_same journal (congrArg _ side)).stoppable

/-! ## Every history -/

/-- The stores that something can be started or stopped in. -/
def Phase.Kept : Phase → TaskStore → Prop
  | .running, store => ∃ decisions, Ready decisions store
  | .stopped, store => Stoppable store

theorem Phase.Kept.stoppable {phase : Phase} (kept : phase.Kept store) : Stoppable store := by
  cases phase with
  | running =>
      obtain ⟨_, ready⟩ := kept
      exact ready.stoppable
  | stopped => exact kept

theorem Ready.empty : Ready (fun _ => none) .empty where
  covers := by rintro budget ⟨⟩
  fitting := by rintro event ⟨⟩
  committable := by rintro attemptId pending ⟨⟩
  clean := rfl
  budget := rfl
  approvals _ := rfl
  task := rfl

theorem Ready.operation (ready : Ready decisions store) (operation : BudgetCall) :
    Meets (operation.script taskId now) store (fun store => Ready decisions store ∨ Stoppable store)
      (fun _ later => ∃ decisions, Ready decisions later)
      fun _ later => ∃ decisions, Ready decisions later := by
  have kept : ∀ {α : Type} {script : TaskScript α},
      Maintains (Ready decisions) Stoppable script (fun _ => True) →
      Meets (script >>= fun _ => pure () : TaskScript Unit) store
        (fun store => Ready decisions store ∨ Stoppable store)
        (fun _ later => ∃ decisions, Ready decisions later)
        fun _ later => ∃ decisions, Ready decisions later :=
    fun maintains => ((Maintains.andThen maintains fun _ => Maintains.done) store ready).mono
      (fun _ => id) (fun _ _ ended => ⟨_, ended.1⟩) fun _ _ ended => ⟨_, ended⟩
  cases operation with
  | configure policy expected name actor =>
      refine Meets.bind ((Ready.guard.configure ready fun _ => trivial).mono (fun _ => id) ?_ ?_)
      · exact fun _ _ ended => Meets.pure (.inl ended) ⟨_, ended⟩
      · exact fun _ _ ended => ⟨_, ended⟩
  | requestRetry request name actor => exact kept Ready.guard.requestRetry
  | resolveApproval resolution envelope =>
      refine Meets.bind (ready.resolveApproval.mono (fun _ => .inr) ?_ ?_)
      · rintro _ later ⟨other, ended⟩
        exact Meets.pure (.inr ended.stoppable) ⟨other, ended⟩
      · rintro _ later (⟨-, ended⟩ | ⟨attemptId, failed⟩)
        · exact ⟨_, ended⟩
        · cases failed with
          | unchanged same => exact ⟨_, same ▸ ready⟩
          | taken _ ended => exact ended
          | decided _ other ended => exact ⟨other, ended⟩
  | consumeOverride attemptId name actor => exact kept Ready.guard.consumeOverride
  | settle request name actor => exact kept Ready.guard.settle
  | recover =>
      exact (Ready.guard.recover store ready).mono (fun _ => id) (fun _ _ ended => ⟨_, ended.1⟩)
        fun _ _ ended => ⟨_, ended⟩

theorem BudgetHistory.kept {phase : Phase} (history : BudgetHistory taskId phase store) :
    phase.Kept store := by
  have stopped : ∀ {decisions : Decisions} {store : TaskStore},
      Ready decisions store ∨ Stoppable store → Stoppable store :=
    fun either => either.elim Ready.stoppable id
  induction history with
  | empty => exact ⟨_, Ready.empty⟩
  | service _ operation now ih =>
      obtain ⟨_, ready⟩ := ih
      exact (ready.operation operation).after
  | serviceInterrupted _ operation now position torn ih =>
      obtain ⟨_, ready⟩ := ih
      exact stopped ((ready.operation operation).stopped position torn)
  | foreign _ call foreign ih =>
      obtain ⟨decisions, ready⟩ := ih
      exact ⟨decisions, (ready.foreign foreign).after⟩
  | foreignInterrupted _ call foreign position torn ih =>
      obtain ⟨_, ready⟩ := ih
      exact stopped ((ready.foreign foreign).stopped position torn)
  | @beside store _ side keeps copied ih =>
      obtain ⟨decisions, ready⟩ := ih
      refine ⟨decisions, ready.withSide fun attemptId pending found => ?_⟩
      obtain ⟨-, -, -, -, -, context, requested, -⟩ := ready.committable attemptId pending found
      rw [requested]
      exact keeps _ context requested
  | restarted _ now returned ih => exact ih.stoppable.recover.of_ok returned
  | restartInterrupted _ now position torn ih => exact ih.stoppable.recover.stopped position torn

/-- A commit leaves a store that a startup can work with. -/
theorem Running.put {key : ObjectKey} {payload : Payload key} {expected : Nat} {info : EventInfo} :
    Maintains Running Interrupted (putObject taskId key payload expected info now)
      fun _ => True := by
  intro store running
  have here := running.toInterrupted
  refine put_meets running.clean (.inr here) (fun _ _ => running) (fun _ => running) fun valid _ => ?_
  have next := running.commit info now valid
  exact ⟨.inr (here.torn running.clean), .inr (running.append info now valid),
    .inr next.toInterrupted, next, trivial⟩

/-- The files beside the snapshots change, but the registry stays one of the journal. -/
theorem Running.withSide (running : Running store) {side : SideFiles}
    (copied : RegistryCopied (store.withSide side)) : Running (store.withSide side) :=
  { readable := running.readable
    behind := running.behind
    sequenced := running.sequenced
    recorded := running.recorded
    accepted := running.accepted
    copied := copied
    clean := running.clean
    committed := running.committed }

/-- The operations leave stores that a startup can work with. -/
theorem Running.guard : BudgetGuard taskId (fun _ _ => True) True (fun _ _ _ => True)
    (fun _ => True) Running Interrupted := by
  have truncated : Keeps Running Interrupted (.truncate : TaskWrite) := by
    intro store running
    have same : store.truncate = store := Store.truncate_of_clean running.clean
    exact ⟨show Running store.truncate from same.symm ▸ running, .inl running⟩
  have sided : ∀ change : SideFiles → SideFiles, (∀ side, (change side).registry = side.registry) →
      ∀ {α : Type} {next : SideFiles → TaskScript α} {fits : α → Prop},
      (∀ side, Maintains Running Interrupted (next side) fits) →
      Maintains Running Interrupted (do
        let side ← Script.read Store.side
        Script.write (.side (change side))
        next side) fits := by
    intro change same α next fits rest store running
    have written : Running (store.withSide (change store.side)) := by
      refine running.withSide fun name record found => ?_
      rw [Store.side_withSide, same] at found
      exact running.copied name record found
    refine Meets.bind (Meets.read (.inl running) (Meets.bind (Meets.write (.inl running)
      (.inl running) (.inl written) ?_)))
    exact rest _ _ written
  have sequence : Maintains Running Interrupted nextSequence fun _ => True :=
    sided (fun side => { side with sequence := side.sequence + 1 }) (fun _ => rfl)
      fun _ => Maintains.done
  have undisturbed : Undisturbed taskId Running Interrupted := by
    refine ⟨truncated, sequence, fun _ _ _ _ _ _ => Running.put, ?_⟩
    intro instanceId attemptId gates now
    refine Maintains.andThen Maintains.look fun existing => ?_
    cases existing with
    | some approval => exact Maintains.check
    | none =>
        refine sided (fun side => { side with
          approvalRequests := (side.approvalRequests.insert (budgetApprovalId instanceId attemptId)
            ⟨some attemptId, gates⟩) }) (fun _ => rfl)
          fun _ => Maintains.andThen sequence fun _ => ?_
        exact Maintains.andThen Running.put fun _ => Maintains.done
  refine { undisturbed with
    stored := fun _ _ => trivial
    lineages := fun _ _ _ _ _ _ => trivial
    closed := fun _ _ _ _ _ => trivial
    commits := ?_
    resolutions := ?_ }
  · intro updated actor command name digest result now fit different
    exact Maintains.andThen Maintains.look fun revision =>
      Maintains.andThen Running.put fun _ => Maintains.done
  · intro budget attempt pending now read found prepared
    refine Maintains.andThen Undisturbed.approval fun details => ?_
    refine Maintains.andThen undisturbed.lookup fun committed => ?_
    cases committed with
    | some result => exact Maintains.done
    | none =>
        refine Maintains.andThen Maintains.check fun _ => ?_
        exact Maintains.andThen Running.put fun _ => Maintains.done

theorem BudgetCall.running (operation : BudgetCall) :
    Maintains Running Interrupted (operation.script taskId now) fun _ => True := by
  have guard := @Running.guard taskId
  cases operation with
  | configure policy expected name actor =>
      intro store running
      refine Meets.bind ((guard.configure running fun _ => trivial).mono (fun _ => id) ?_
        fun _ _ => id)
      exact fun _ _ ended => Meets.pure (.inl ended) ⟨ended, trivial⟩
  | requestRetry request name actor =>
      exact Maintains.andThen guard.requestRetry fun _ => Maintains.done
  | resolveApproval resolution envelope =>
      exact Maintains.andThen (guard.resolveApproval trivial) fun _ => Maintains.done
  | consumeOverride attemptId name actor =>
      exact Maintains.andThen guard.consumeOverride fun _ => Maintains.done
  | settle request name actor => exact Maintains.andThen guard.settle fun _ => Maintains.done
  | recover => exact guard.recover

/-- A startup leaves the budget as it was committed last. -/
theorem Recovered.budget {later : TaskStore} (recovered : Recovered store later) :
    later.lookup .retryBudget = latest .retryBudget store.events := by
  obtain ⟨middle, -, -, rebuilt, reconciled⟩ := recovered.rebuilt
  rw [← rebuilt]
  cases planned : latest .plan store.events with
  | none =>
      rw [planned] at reconciled
      exact congrArg (Store.lookup .retryBudget) reconciled
  | some wrapper =>
      rw [planned] at reconciled
      refine (reconciled.kept .retryBudget trivial ?_).1
      rintro ⟨payload, member, -⟩
      rcases Plan.mem_projections.mp member with same | ⟨_, -, same⟩ | ⟨_, -, same⟩ <;> cases same

/-- What was free before a startup is free after it. -/
theorem KeysFree.recovered {resolution : BudgetResolution} {envelope : CommandEnvelope}
    {later : TaskStore} (free : KeysFree taskId resolution envelope store)
    (recovered : Recovered store later) : KeysFree taskId resolution envelope later := by
  obtain ⟨more, events, silent⟩ := recovered.recovering.events
  have results : ∀ name command digest,
      committedResult taskId name command digest later.events none =
        committedResult taskId name command digest store.events none := by
    intro name command digest
    rw [events, committedResult_append]
    cases committedResult taskId name command digest store.events none with
    | error error => rfl
    | ok found =>
        refine committedResult_of_silent fun event member result carries => ?_
        rw [Carries, (silent event member).1] at carries
        cases carries.2
  refine ⟨?_, ?_, free.notifiable.1, recovered.clean.readable, fun event member carries => ?_⟩
  · rintro ⟨error, taken⟩
    exact free.untaken ⟨error, results _ _ _ ▸ taken⟩
  · rw [results]
    exact free.uncommitted
  · change event ∈ later.events at member
    rw [events] at member
    rcases List.mem_append.mp member with before | new
    · exact free.notifiable.2.2 event before carries
    · rw [(silent event new).1] at carries
      cases carries

end

/-! ### A key that is used twice -/

/-- The rejection of the denied retry. -/
def rejection : BudgetResolution := ⟨budgetApprovalId "a" "retry", .rejected, none, {}⟩

end DesignHarness
