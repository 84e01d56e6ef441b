import DesignHarness.Services.BudgetRuns

/-!
# Decisions in flight

`resolve_approval` commits a decision in two steps: the budget records it as pending, then the
approval is resolved and the budget takes the decision over.  `Ready` says what the journal holds
for every decision in flight: its approval is still open, or resolved by just this decision.
-/

namespace DesignHarness

open Library

/-- The decisions in flight, by attempt. -/
abbrev Decisions := Identifier → Option PendingResolution

/-- The budget has no decision pending but these, each about the approval of its attempt. -/
def Covers (decisions : Decisions) (current : Option RetryBudget) : Prop :=
  ∀ budget, current = some budget → ∀ attempt pending,
    budget.attempt attempt.attemptId = .ok attempt → attempt.pendingResolution = some pending →
    decisions attempt.attemptId = some pending ∧
      attempt.approvalId = some pending.request.approvalId

/-- The event resolves the approval by the decision. -/
def Decides (event : TaskEvent) (pending : PendingResolution) : Prop :=
  ∃ value, Carries event pending.envelope.idempotencyKey
    ⟨.resolveApproval pending.request.approvalId pending.request.decision, value⟩

/-- The decision can be committed: its actor has an inbox, and its approval is open for it, or
    resolved by it. -/
structure Committable (events : List TaskEvent)
    (requests : AList fun _ : Identifier => ApprovalContext) (attemptId : Identifier)
    (pending : PendingResolution) : Prop where
  task : (latest ObjectKey.task events).isSome = true
  inbox : pending.envelope.actorType.inboxOwner.isSome = true
  approval : ∃ wrapper, latest (.approval pending.request.approvalId) events = some wrapper ∧
    checkOverride wrapper.payload.val pending.request = .ok () ∧
    ∃ context, requests.lookup pending.request.approvalId = some context ∧
      context.attemptId = some attemptId ∧
      (checkResolution ⟨wrapper.payload, wrapper.revision, context⟩ pending.envelope = .ok () ∨
        ∃ event ∈ events, Decides event pending)

/-- A resolved approval is what the result of `resolve_approval` carries. -/
def EventInfo.Fitting (info : EventInfo) : Prop :=
  ∀ result, info.result = some result → ∀ approvalId decision,
    result.digest = .resolveApproval approvalId decision →
    ∃ approval revision, result.value = .approval approval revision

/-- What the journal and the approval requests hold for the decisions. -/
structure Journaled (decisions : Decisions) (store : TaskStore) : Prop where
  covers : Covers decisions ((latest ObjectKey.retryBudget store.events).map Wrapper.payload)
  fitting : ∀ event ∈ store.events, event.info.Fitting
  committable : ∀ attemptId pending, decisions attemptId = some pending →
    Committable store.events store.side.approvalRequests attemptId pending

/-- A running process: the journal verifies, and the snapshots are those of the journal. -/
structure Ready (decisions : Decisions) (store : TaskStore) : Prop
    extends Journaled decisions store where
  clean : store.Clean
  budget : store.lookup ObjectKey.retryBudget = latest ObjectKey.retryBudget store.events
  approvals : ∀ approvalId, store.lookup (.approval approvalId) =
    latest (.approval approvalId) store.events
  task : store.lookup ObjectKey.task = latest ObjectKey.task store.events

/-- A running process whose stored budget is known. -/
structure Steady (decisions : Decisions) (current : Option RetryBudget) (store : TaskStore) : Prop
    extends Ready decisions store where
  stored : store.budget = current

/-- A process that was stopped somewhere: a startup can read what it needs. -/
def Stoppable (store : TaskStore) : Prop :=
  store.Readable ∧ ∃ decisions, Journaled decisions store

section

variable {taskId : Identifier} {now : Timestamp} {decisions other : Decisions}
  {store : TaskStore} {events : List TaskEvent} {event : TaskEvent}
  {requests : AList fun _ : Identifier => ApprovalContext} {attemptId approvalId : Identifier}
  {pending : PendingResolution} {current : Option RetryBudget} {key : ObjectKey} {payload : Payload key} {info : EventInfo}

/-- An event that is not about its approval leaves a decision committable. -/
theorem Committable.append (committable : Committable events requests attemptId pending)
    (silent : event.snapshot (.approval pending.request.approvalId) = none) :
    Committable (events ++ [event]) requests attemptId pending := by
  obtain ⟨task, inbox, wrapper, found, override, context, stored, same, decided⟩ := committable
  refine ⟨?_, inbox, wrapper, ?_, override, context, stored, same, ?_⟩
  · obtain ⟨before, earlier⟩ := Option.isSome_iff_exists.mp task
    obtain ⟨after, later, -⟩ := latest_append_grows event earlier
    rw [later]
    rfl
  · rw [latest_append_of_none silent]
    exact found
  · refine decided.imp_right fun ⟨other, member, decides⟩ => ?_
    exact ⟨other, List.mem_append_left _ member, decides⟩

theorem fitting_append {infoOf : EventInfo} (fitting : ∀ event ∈ events, event.info.Fitting)
    (same : event.info = infoOf) (fits : infoOf.Fitting) :
    ∀ later ∈ events ++ [event], later.info.Fitting := by
  intro later member
  rcases List.mem_append.mp member with before | last
  · exact fitting later before
  · rw [List.mem_singleton.mp last, same]
    exact fits

theorem Fitting.of_none (silent : info.result = none) : info.Fitting := by
  intro result carried
  rw [silent] at carried
  cases carried

theorem Fitting.of_digest {digest : Request} {value : ServiceResult}
    (carried : info.result = some ⟨digest, value⟩)
    (different : ∀ approvalId decision, digest ≠ .resolveApproval approvalId decision) :
    info.Fitting := by
  intro result carries approvalId decision same
  rw [carried] at carries
  obtain rfl := Option.some.inj carries
  exact absurd same (different approvalId decision)

theorem Ready.stoppable (ready : Ready decisions store) : Stoppable store :=
  ⟨ready.clean.readable, decisions, ready.toJournaled⟩

theorem Ready.torn_stoppable (ready : Ready decisions store) : Stoppable store.torn := by
  refine ⟨ready.clean.torn_readable, decisions, ?_, ?_, ?_⟩
  · rw [Store.events_torn]
    exact ready.covers
  · rw [Store.events_torn]
    exact ready.fitting
  · rw [Store.events_torn]
    exact ready.committable

/-- Where the commit of an object is interrupted after its event. -/
theorem Ready.append_stoppable (clean : store.Clean)
    (ready : Ready decisions (store.commit key payload info now)) :
    Stoppable (store.append (store.commitEvent key payload info now)) :=
  ⟨clean.append.readable, decisions, ready.covers, ready.fitting, ready.committable⟩

/-! ## Commits -/

/-- A commit past the snapshot of the journal is the latest one. -/
theorem latest_commit (same : store.lookup key = latest key store.events) (clean : store.Clean) :
    (store.commit key payload info now).lookup key =
      latest key (store.commit key payload info now).events := by
  have newest : (latest key store.events).elim 0 Wrapper.revision < store.nextRevision key := by
    unfold Store.nextRevision
    cases found : store.lookup key with
    | none => exact Nat.lt_succ_of_le (maxRevision_eq _ store.events).ge
    | some snapshot =>
        rw [← same, found]
        exact Nat.lt_succ_self _
  rw [Store.lookup_commit_self, Store.events_commit clean, Store.commitEvent]
  exact (latest_append_newest newest).symm

/-- The objects that the decisions are not about. -/
def ObjectKey.isQuiet : ObjectKey → Bool
  | .retryBudget | .approval _ => false
  | _ => true

theorem Ready.commit_quiet (ready : Ready decisions store) (quiet : key.isQuiet = true)
    (fits : info.Fitting) : Ready decisions (store.commit key payload info now) := by
  have notBudget : key ≠ .retryBudget := by
    rintro rfl
    cases quiet
  have notApproval : ∀ approvalId, key ≠ .approval approvalId := by
    rintro approvalId rfl
    cases quiet
  have unrelated : ∀ other, key ≠ other →
      latest other (store.commit key payload info now).events = latest other store.events := by
    intro other different
    rw [Store.events_commit ready.clean]
    exact latest_append_of_none (Event.snapshot_of_ne different)
  refine ⟨⟨?_, ?_, ?_⟩, ready.clean.commit, ?_, ?_, ?_⟩
  · rw [unrelated _ notBudget]
    exact ready.covers
  · rw [Store.events_commit ready.clean]
    exact fitting_append ready.fitting rfl fits
  · intro attemptId pending found
    rw [Store.events_commit ready.clean]
    exact (ready.committable attemptId pending found).append
      (Event.snapshot_of_ne (notApproval _))
  · rw [Store.lookup_commit_of_ne notBudget.symm, unrelated _ notBudget]
    exact ready.budget
  · intro approvalId
    rw [Store.lookup_commit_of_ne (notApproval approvalId).symm, unrelated _ (notApproval _)]
    exact ready.approvals approvalId
  · by_cases same : key = .task
    · subst same
      exact latest_commit ready.task ready.clean
    · rw [Store.lookup_commit_of_ne (Ne.symm same), unrelated _ same]
      exact ready.task

/-- The commit of a budget; its decisions may differ from those before. -/
theorem Ready.commit_budget {updated : RetryBudget} (ready : Ready decisions store)
    (covers : Covers other (some updated)) (fits : info.Fitting)
    (committable : ∀ attemptId pending, other attemptId = some pending →
      Committable store.events store.side.approvalRequests attemptId pending) :
    Ready other (store.commit ObjectKey.retryBudget updated info now) := by
  have same := @latest_commit now store .retryBudget updated info ready.budget ready.clean
  have unrelated : ∀ other, ObjectKey.retryBudget ≠ other →
      latest other (store.commit ObjectKey.retryBudget updated info now).events =
        latest other store.events := by
    intro other different
    rw [Store.events_commit ready.clean]
    exact latest_append_of_none (Event.snapshot_of_ne different)
  refine ⟨⟨?_, ?_, ?_⟩, ready.clean.commit, same, ?_, ?_⟩
  · rw [← same, Store.lookup_commit_self]
    exact covers
  · rw [Store.events_commit ready.clean]
    exact fitting_append ready.fitting rfl fits
  · intro attemptId pending found
    rw [Store.events_commit ready.clean]
    exact (committable attemptId pending found).append (Event.snapshot_of_ne (by simp [Store.commitEvent]))
  · intro approvalId
    rw [Store.lookup_commit_of_ne (by simp), unrelated _ (by simp)]
    exact ready.approvals approvalId
  · rw [Store.lookup_commit_of_ne (by simp), unrelated _ (by simp)]
    exact ready.task

/-- The commit of an approval that keeps the decisions about it committable. -/
theorem Ready.commit_approval {updated : Payload (.approval approvalId)}
    (ready : Ready decisions store) (fits : info.Fitting)
    (committable : ∀ attemptId pending, decisions attemptId = some pending →
      pending.request.approvalId = approvalId →
      Committable (store.commit (.approval approvalId) updated info now).events
        store.side.approvalRequests attemptId pending) :
    Ready decisions (store.commit (.approval approvalId) updated info now) := by
  have unrelated : ∀ other, ObjectKey.approval approvalId ≠ other →
      latest other (store.commit (.approval approvalId) updated info now).events =
        latest other store.events := by
    intro other different
    rw [Store.events_commit ready.clean]
    exact latest_append_of_none (Event.snapshot_of_ne different)
  refine ⟨⟨?_, ?_, ?_⟩, ready.clean.commit, ?_, ?_, ?_⟩
  · rw [unrelated _ (by simp)]
    exact ready.covers
  · rw [Store.events_commit ready.clean]
    exact fitting_append ready.fitting rfl fits
  · intro attemptId pending found
    by_cases same : pending.request.approvalId = approvalId
    · exact committable attemptId pending found same
    · rw [Store.events_commit ready.clean]
      exact (ready.committable attemptId pending found).append
        (Event.snapshot_of_ne fun equal => same (ObjectKey.approval.inj equal).symm)
  · rw [Store.lookup_commit_of_ne (by simp), unrelated _ (by simp)]
    exact ready.budget
  · intro another
    by_cases same : another = approvalId
    · subst same
      exact latest_commit (ready.approvals another) ready.clean
    · have different : ObjectKey.approval approvalId ≠ .approval another := fun equal =>
        same (ObjectKey.approval.inj equal).symm
      rw [Store.lookup_commit_of_ne different.symm, unrelated _ different]
      exact ready.approvals another
  · rw [Store.lookup_commit_of_ne (by simp), unrelated _ (by simp)]
    exact ready.task

/-- A commit that leaves a process ready, as a script. -/
theorem Ready.put_meets {expected : Nat} {returns : Wrapper (Payload key) → TaskStore → Prop}
    {raises : Raised → TaskStore → Prop} (ready : Ready decisions store)
    (rejected : ∀ error, validatePayload key payload = .error error → raises error store)
    (conflicting : expected ≠ store.revision key → raises (revisionConflict expected
      (store.revision key) key.objectType (key.objectId taskId)) store)
    (commits : Ready other (store.commit key payload info now))
    (returned : expected = store.revision key → returns (store.nextSnapshot key payload now)
      (store.commit key payload info now)) :
    Meets (putObject taskId key payload expected info now) store Stoppable returns raises := by
  refine Library.put_meets ready.clean ready.stoppable rejected conflicting fun _ current => ?_
  exact ⟨ready.torn_stoppable, commits.append_stoppable ready.clean, commits.stoppable,
    returned current⟩

/-- What is kept whatever budget is stored. -/
theorem Steady.maintains {α : Type} {script : TaskScript α} {fits : α → Prop}
    (maintains : ∀ current, Maintains (Steady decisions current) Stoppable script fits) :
    Maintains (Ready decisions) Stoppable script fits := by
  intro store ready
  refine (maintains store.budget store ⟨ready, rfl⟩).mono ?_ ?_ ?_
  · exact fun _ => Or.imp_left Steady.toReady
  · exact fun _ _ ended => ⟨ended.1.toReady, ended.2⟩
  · exact fun _ _ => Steady.toReady

theorem Steady.truncated : Keeps (Steady decisions current) Stoppable (.truncate : TaskWrite) := by
  intro store steady
  refine ⟨?_, .inl steady⟩
  change Steady decisions current store.truncate
  rw [Store.truncate_of_clean steady.clean]
  exact steady

/-- A commit that leaves a process steady, as a script. -/
theorem Steady.put {expected : Nat} (different : key ≠ .retryBudget)
    (steady : Steady decisions current store)
    (commits : Ready decisions (store.commit key payload info now)) :
    Meets (putObject taskId key payload expected info now) store
      (fun store => Steady decisions current store ∨ Stoppable store)
      (fun _ later => Steady decisions current later ∧ True)
      fun _ => Steady decisions current := by
  have kept : Steady decisions current (store.commit key payload info now) := by
    refine ⟨commits, ?_⟩
    rw [TaskStore.budget, Store.payload, Store.lookup_commit_of_ne different.symm]
    exact steady.stored
  have meets : Meets (putObject taskId key payload expected info now) store Stoppable
      (fun _ later => Steady decisions current later ∧ True) fun _ => Steady decisions current :=
    steady.put_meets (fun _ _ => steady) (fun _ => steady) commits fun _ => ⟨kept, trivial⟩
  exact meets.mono (fun _ => Or.inr) (fun _ _ => id) fun _ _ => id

theorem Steady.putQuiet {expected : Nat} (quiet : key.isQuiet = true) (fits : info.Fitting) :
    Maintains (Steady decisions current) Stoppable
      (putObject taskId key payload expected info now) fun _ => True := by
  intro store steady
  refine Steady.put ?_ steady (steady.commit_quiet quiet fits)
  rintro rfl
  cases quiet

/-- The files beside the snapshots change, but not the request of a decision. -/
theorem Ready.withSide {side : SideFiles} (ready : Ready decisions store)
    (kept : ∀ attemptId pending, decisions attemptId = some pending →
      side.approvalRequests.lookup pending.request.approvalId =
        store.side.approvalRequests.lookup pending.request.approvalId) :
    Ready decisions (store.withSide side) := by
  refine ⟨⟨ready.covers, ready.fitting, ?_⟩, ready.clean, ready.budget, ready.approvals, ready.task⟩
  intro attemptId pending found
  obtain ⟨task, inbox, wrapper, latest, override, context, stored, rest⟩ :=
    ready.committable attemptId pending found
  exact ⟨task, inbox, wrapper, latest, override, context,
    (kept attemptId pending found).trans stored, rest⟩

/-- The script of the activity sequence, from a store in which the next number is written. -/
theorem nextSequence_meets {condition : TaskStore → Prop} {returns : Nat → TaskStore → Prop}
    {raises : Raised → TaskStore → Prop} (before : condition store)
    (counted : condition (store.withSide { store.side with sequence := store.side.sequence + 1 }))
    (returned : returns (store.side.sequence + 1)
      (store.withSide { store.side with sequence := store.side.sequence + 1 })) :
    Meets nextSequence store condition returns raises :=
  Meets.bind (Meets.read before (Meets.bind (Meets.write before before counted
    (Meets.pure counted returned))))

theorem Steady.sequence :
    Maintains (Steady decisions current) Stoppable nextSequence fun _ => True := by
  intro store steady
  have counted := @Ready.withSide decisions store
    { store.side with sequence := store.side.sequence + 1 } steady.toReady fun _ _ _ => rfl
  have kept : Steady decisions current _ := ⟨counted, steady.stored⟩
  exact nextSequence_meets (.inl steady) (.inl kept) ⟨kept, trivial⟩

/-- An approval that no decision is about may be created or changed. -/
theorem Steady.putApproval {updated : Payload (.approval approvalId)} {expected : Nat}
    (fits : info.Fitting) (unrelated : ∀ attemptId pending, decisions attemptId = some pending →
      pending.request.approvalId ≠ approvalId) :
    Maintains (Steady decisions current) Stoppable
      (putObject taskId (.approval approvalId) updated expected info now) fun _ => True := by
  intro store steady
  refine Steady.put (by simp) steady (steady.commit_approval fits ?_)
  exact fun attemptId pending found same => absurd same (unrelated attemptId pending found)

/-- Nothing is decided about an approval that is not stored. -/
theorem Ready.unrelated_of_absent (ready : Ready decisions store)
    (absent : store.lookup (.approval approvalId) = none) :
    ∀ attemptId pending, decisions attemptId = some pending →
      pending.request.approvalId ≠ approvalId := by
  rintro attemptId pending found rfl
  obtain ⟨-, -, wrapper, latest, -⟩ := ready.committable attemptId pending found
  rw [← ready.approvals, absent] at latest
  cases latest

theorem Steady.records {instanceId : Identifier} {gates : List Gate} :
    Maintains (Steady decisions current) Stoppable
      (ensureBudgetRecord taskId instanceId attemptId gates now) fun _ => True := by
  intro store steady
  refine Meets.bind (Meets.read (.inl steady) ?_)
  cases existing : store.payload (.approval (budgetApprovalId instanceId attemptId)) with
  | some approval =>
      exact Meets.lift (.inl steady) (fun _ _ => ⟨steady, trivial⟩) fun _ _ => steady
  | none =>
      have unrelated := steady.unrelated_of_absent (Option.map_eq_none_iff.mp existing)
      have written := @Ready.withSide decisions store { store.side with
        approvalRequests := store.side.approvalRequests.insert
          (budgetApprovalId instanceId attemptId) ⟨some attemptId, gates⟩ } steady.toReady
        fun other pending found => AList.lookup_insert_ne (unrelated other pending found)
      have kept : Steady decisions current _ := ⟨written, steady.stored⟩
      refine Meets.bind (Meets.read (.inl steady) ?_)
      refine Meets.bind (Meets.write (.inl steady) (.inl steady) (.inl kept) ?_)
      refine Meets.bind ((Steady.sequence _ kept).mono (fun _ => id) ?_ fun _ _ => id)
      intro sequence later counted
      have put : Maintains (Steady decisions current) Stoppable (putObject taskId
          (.approval (budgetApprovalId instanceId attemptId))
          ⟨budgetApproval taskId instanceId attemptId sequence now, rfl⟩ 0
          ⟨⟨.system, "retry_budget_gate"⟩, "ensure_budget_approval",
            "ensure-" ++ budgetApprovalId instanceId attemptId, none⟩ now) fun _ => True :=
        Steady.putApproval (Fitting.of_none rfl) unrelated
      exact (Maintains.andThen put fun _ => Maintains.done) later counted.1

theorem Steady.undisturbed : Undisturbed taskId (Steady decisions current) Stoppable where
  truncated := Steady.truncated
  sequence := Steady.sequence
  inboxes inboxId payload expected info now digests := by
    refine Steady.putQuiet rfl fun result carried approvalId decision same => ?_
    obtain ⟨target, digest⟩ := digests result carried
    rw [digest] at same
    cases same
  records _ _ _ _ := Steady.records

/-! ### The approval of a decision -/

theorem getApproval_meets {condition : TaskStore → Prop} (holds : condition store) :
    Meets (getApproval approvalId) store condition
      (fun details later => later = store ∧
        (∃ committedAt, store.lookup (.approval approvalId) =
          some ⟨details.approvalRevision, details.approval, committedAt⟩) ∧
        store.side.approvalRequests.lookup approvalId = some details.payload)
      fun _ later => later = store ∧ (store.lookup (.approval approvalId) = none ∨
        store.side.approvalRequests.lookup approvalId = none) := by
  refine Meets.bind (Meets.bind (Meets.read holds ?_))
  cases found : store.lookup (.approval approvalId) with
  | none => exact Meets.raise holds ⟨rfl, .inl rfl⟩
  | some wrapper =>
      refine Meets.pure holds (Meets.bind (Meets.read holds ?_))
      cases stored : store.side.approvalRequests.lookup approvalId with
      | none => exact Meets.raise holds ⟨rfl, .inr rfl⟩
      | some payload => exact Meets.pure holds ⟨rfl, ⟨wrapper.committedAt, rfl⟩, rfl⟩

/-- A lookup in a journal that verifies. -/
theorem lookupCommitted_clean {condition : TaskStore → Prop} {name command : String}
    {digest : Request} (clean : store.Clean) (holds : condition store) :
    Meets (lookupCommitted taskId name command digest) store condition
      (fun found later => later = store ∧
        committedResult taskId name command digest store.events none = .ok found)
      fun error later => later = store ∧
        committedResult taskId name command digest store.events none = .error error := by
  have same := Store.truncate_of_clean clean
  refine lookupCommitted_meets clean.readable holds (by rwa [same]) ?_ ?_
  · exact fun found returned => ⟨same, returned⟩
  · exact fun error raised => ⟨same, raised⟩

/-- The resolved approval still carries the decision, and the journal says so. -/
theorem Committable.decided {wrapper : Wrapper (Payload (.approval pending.request.approvalId))}
    (committable : Committable store.events store.side.approvalRequests attemptId pending)
    (ready : Ready decisions store)
    (stored : store.lookup (.approval pending.request.approvalId) = some wrapper)
    {updated : Payload (.approval pending.request.approvalId)} (kind : updated.val.kind =
      wrapper.payload.val.kind) {value : ServiceResult}
    (name : info.idempotencyKey = pending.envelope.idempotencyKey)
    (carried : info.result = some ⟨.resolveApproval pending.request.approvalId
      pending.request.decision, value⟩) :
    Committable (store.commit (.approval pending.request.approvalId) updated info now).events
      store.side.approvalRequests attemptId pending := by
  obtain ⟨task, inbox, before, found, override, context, requested, same, -⟩ := committable
  rw [← ready.approvals, stored] at found
  obtain rfl := Option.some.inj found
  have newest := @latest_commit now store (.approval pending.request.approvalId) updated info
    (ready.approvals _) ready.clean
  rw [Store.lookup_commit_self] at newest
  refine ⟨?_, inbox, _, newest.symm, ?_, context, requested, same,
    .inr ⟨store.commitEvent _ updated info now, ?_, value, name, carried⟩⟩
  · rw [Store.events_commit ready.clean, latest_append_of_none
      (Event.snapshot_of_ne (by simp [Store.commitEvent]))]
    exact task
  · rw [← override]
    simp only [checkOverride, Store.nextSnapshot, kind]
  · rw [Store.events_commit ready.clean]
    exact List.mem_append_right _ (List.mem_singleton_self _)

/-- What a decision in flight commits about its approval. -/
theorem Ready.commit_decided (ready : Ready decisions store)
    (found : decisions attemptId = some pending)
    {wrapper : Wrapper (Payload (.approval pending.request.approvalId))}
    (stored : store.lookup (.approval pending.request.approvalId) = some wrapper)
    {updated : Payload (.approval pending.request.approvalId)} (kind : updated.val.kind =
      wrapper.payload.val.kind) {approval : Approval} {revision : Nat}
    (name : info.idempotencyKey = pending.envelope.idempotencyKey)
    (carried : info.result = some ⟨.resolveApproval pending.request.approvalId
      pending.request.decision, .approval approval revision⟩) :
    Ready decisions (store.commit (.approval pending.request.approvalId) updated info now) := by
  refine ready.commit_approval ?_ fun another other foundOther same => ?_
  · intro result carries approvalId decision _
    rw [carried] at carries
    obtain rfl := Option.some.inj carries
    exact ⟨approval, revision, rfl⟩
  · -- The request of an approval names one attempt, and an attempt has one decision in flight.
    have committable := ready.committable attemptId pending found
    have committableOther := ready.committable another other foundOther
    obtain ⟨-, -, -, -, -, context, requested, owner, -⟩ := committable
    obtain ⟨-, -, -, -, -, contextOther, requestedOther, ownerOther, -⟩ := committableOther
    rw [same, requested] at requestedOther
    obtain rfl := Option.some.inj requestedOther
    rw [owner] at ownerOther
    obtain rfl := Option.some.inj ownerOther
    rw [found] at foundOther
    obtain rfl := Option.some.inj foundOther
    exact (ready.committable attemptId pending found).decided ready stored kind name carried

/-- The lookup of the decision under the caller's key. -/
abbrev Refused (taskId : Identifier) (pending : PendingResolution) (store : TaskStore) : Prop :=
  ∃ error, committedResult taskId pending.envelope.idempotencyKey "resolve_approval"
    (.resolveApproval pending.request.approvalId pending.request.decision) store.events none =
      .error error

/-- A decision in flight resolves its approval under its key, unless the key is taken. -/
theorem Steady.commitResolution (steady : Steady decisions current store)
    (found : decisions attemptId = some pending) :
    Meets (commitResolution taskId pending.request.approvalId pending.request.decision
        pending.envelope now) store Stoppable
      (fun result later => Steady decisions current later ∧
        (∃ approval revision, result = .approval approval revision) ∧
        ∃ more, later.events = store.events ++ more ∧
          ∀ event ∈ more, event.info.idempotencyKey = pending.envelope.idempotencyKey)
      fun _ later => later = store ∧ Refused taskId pending store := by
  have holds := steady.stoppable
  have committable := steady.committable attemptId pending found
  obtain ⟨-, -, wrapper, latestFound, -, context, requested, -, decided⟩ := committable
  rw [← steady.approvals] at latestFound
  refine Meets.bind ((getApproval_meets holds).mono (fun _ => id) ?_ ?_)
  · rintro ⟨approval, revision, payload⟩ _ ⟨rfl, ⟨committedAt, stored⟩, asked⟩
    rw [latestFound] at stored
    obtain rfl := Option.some.inj stored
    rw [requested] at asked
    obtain rfl := Option.some.inj asked
    refine Meets.bind ((lookupCommitted_clean steady.clean holds).mono (fun _ => id) ?_ ?_)
    · rintro committed _ ⟨rfl, returned⟩
      obtain ⟨-, ⟨rfl, silent⟩ | ⟨event, member, result, carries, rfl⟩⟩ :=
        committedResult_eq_ok returned
      · -- Nothing is committed under the key, so the approval is still open for the decision.
        have opened : checkResolution ⟨approval, revision, context⟩ pending.envelope = .ok () := by
          refine decided.resolve_right ?_
          rintro ⟨event, member, value, carries⟩
          exact silent event member _ carries
        refine Meets.bind (Meets.lift holds (fun _ _ => ?_) fun error raised => ?_)
        · have commits := @Ready.commit_decided now decisions _ attemptId pending
            ⟨pending.envelope.actor, "resolve_approval", pending.envelope.idempotencyKey,
              some ⟨.resolveApproval pending.request.approvalId pending.request.decision,
                .approval (approval.val.resolved pending.request.decision pending.envelope now)
                  (revision + 1)⟩⟩ steady.toReady found _ latestFound
            ⟨approval.val.resolved pending.request.decision pending.envelope now,
              approval.property⟩ rfl _ _ rfl rfl
          refine Meets.bind (steady.put_meets (fun _ rejected => by cases rejected)
            (fun stale => absurd ?_ stale) commits fun _ => ?_)
          · rw [Store.revision, latestFound]
            rfl
          · have kept : Steady decisions current _ := ⟨commits, by
              rw [TaskStore.budget, Store.payload, Store.lookup_commit_of_ne (by simp)]
              exact steady.stored⟩
            refine Meets.pure commits.stoppable
              ⟨kept, ⟨_, _, rfl⟩, _, Store.events_commit steady.clean, ?_⟩
            intro event member
            rw [List.mem_singleton.mp member]
            rfl
        · rw [opened] at raised
          cases raised
      · refine Meets.pure holds ⟨steady, ?_, [], by simp, by simp⟩
        have same := (committedResult_eq_ok returned).1 event member result carries
        exact steady.fitting event member result carries.2 _ _ same.2
    · rintro error _ ⟨rfl, raised⟩
      exact ⟨rfl, error, raised⟩
  · rintro error _ ⟨-, absent | absent⟩
    · rw [latestFound] at absent
      cases absent
    · rw [requested] at absent
      cases absent

/-- The decision in flight of a stored budget. -/
theorem Ready.decision {budget : RetryBudget} {attempt : RetryAttempt}
    (ready : Ready decisions store) (stored : store.budget = some budget)
    (found : budget.attempt attempt.attemptId = .ok attempt)
    (prepared : attempt.pendingResolution = some pending) :
    decisions attempt.attemptId = some pending ∧
      attempt.approvalId = some pending.request.approvalId := by
  have covers := ready.covers
  rw [← ready.budget] at covers
  exact covers budget stored attempt pending found prepared

end

end DesignHarness
