import DesignHarness.Services.ResolveApproval

/-!
# The keys of a decision

`resolve_approval` commits under three keys that it derives from the caller's, and the startup that
follows an interruption raises where one of them carries a result of another request.  From a
journal in which no key does and these are left to the decision, it stays so wherever the call is
stopped (`resolveApproval_agrees`).
-/

namespace DesignHarness

open Library

/-- The request behind the results that a decision commits under the key. -/
def decisionRequest (resolution : BudgetResolution) (name key : String) : Option Request :=
  if key = name then
    some (.resolveApproval resolution.approvalId resolution.decision)
  else if key = "budget-" ++ name ∨ key = "budget-prepare-" ++ name then
    some (.resolveBudgetApproval resolution)
  else
    none

/-- The keys of the decision carry no result of another request, and that of its notification
    carries none. -/
structure KeysLeft (resolution : BudgetResolution) (envelope : CommandEnvelope)
    (events : List TaskEvent) : Prop where
  decision : ∀ event ∈ events, ∀ key result request, Carries event key result →
    decisionRequest resolution envelope.idempotencyKey key = some request →
    result.digest = request
  notification : ∀ event ∈ events, event.info.result.isSome →
    event.info.idempotencyKey ≠ envelope.handling.idempotencyKey

/-- A running process whose journal has results of one request under each key. -/
structure Agreeing (resolution : BudgetResolution) (envelope : CommandEnvelope)
    (store : TaskStore) : Prop where
  clean : store.Clean
  agree : ResultsAgree store.events
  left : KeysLeft resolution envelope store.events

/-- The results in the journal agree. -/
abbrev JournalAgrees (store : TaskStore) : Prop := ResultsAgree store.events

section

variable {taskId : Identifier} {now : Timestamp} {resolution : BudgetResolution}
  {envelope : CommandEnvelope} {store : TaskStore} {attemptId : Identifier}
  {events : List TaskEvent} {event : TaskEvent} {digest : Request} {value : ServiceResult}

theorem commitKey_ne {name : String} : "budget-" ++ name ≠ name := by
  intro same
  have length := congrArg String.length same
  rw [String.length_append] at length
  have positive : "budget-".length = 7 := rfl
  omega

theorem decisionRequest_own : decisionRequest resolution envelope.idempotencyKey
    envelope.idempotencyKey =
      some (.resolveApproval resolution.approvalId resolution.decision) := if_pos rfl

theorem decisionRequest_commit : decisionRequest resolution envelope.idempotencyKey
    ("budget-" ++ envelope.idempotencyKey) = some (.resolveBudgetApproval resolution) := by
  rw [decisionRequest, if_neg commitKey_ne, if_pos (.inl rfl)]

theorem decisionRequest_cases {name : String}
    (own : decisionRequest resolution envelope.idempotencyKey name = some digest) :
    name = envelope.idempotencyKey ∨ name = "budget-" ++ envelope.idempotencyKey ∨
      name = "budget-prepare-" ++ envelope.idempotencyKey := by
  unfold decisionRequest at own
  split at own
  · exact .inl ‹_›
  · split at own
    · exact .inr ‹_›
    · cases own

/-- A result of the decision under one of its keys contradicts nothing. -/
theorem KeysLeft.append (left : KeysLeft resolution envelope events) (agree : ResultsAgree events)
    (own : decisionRequest resolution envelope.idempotencyKey event.info.idempotencyKey =
      some digest)
    (carried : event.info.result = some ⟨digest, value⟩) :
    ResultsAgree (events ++ [event]) ∧ KeysLeft resolution envelope (events ++ [event]) := by
  refine ⟨agree.append_result fun result carries other member earlier carries' => ?_,
    fun other member key result request carries asked => ?_, fun other member carries => ?_⟩
  · rw [carried] at carries
    obtain rfl := Option.some.inj carries
    exact left.decision other member _ earlier digest carries' own
  · rcases List.mem_append.mp member with before | last
    · exact left.decision other before key result request carries asked
    · rw [List.mem_singleton.mp last] at carries
      obtain ⟨rfl, carries⟩ := carries
      rw [own] at asked
      rw [carried] at carries
      obtain rfl := Option.some.inj carries
      exact Option.some.inj asked
  · rcases List.mem_append.mp member with before | last
    · exact left.notification other before carries
    · rw [List.mem_singleton.mp last]
      exact handlingKey_ne (decisionRequest_cases own)

theorem Agreeing.truncated :
    Keeps (Agreeing resolution envelope) JournalAgrees (.truncate : TaskWrite) := by
  intro store agreeing
  have same : store.truncate = store := Store.truncate_of_clean agreeing.clean
  exact ⟨show Agreeing resolution envelope store.truncate from same.symm ▸ agreeing,
    .inl agreeing⟩

theorem Agreeing.lookup {name command : String} {request : Request} :
    Maintains (Agreeing resolution envelope) JournalAgrees
      (lookupCommitted taskId name command request) fun _ => True :=
  Maintains.andThen (recoverRecords_maintains Agreeing.truncated) fun _ => Maintains.check

/-- What the decision commits under its keys. -/
theorem Agreeing.put {key : ObjectKey} {payload : Payload key} {expected : Nat} {actor : Actor}
    {command name : String}
    (own : decisionRequest resolution envelope.idempotencyKey name = some digest) :
    Maintains (Agreeing resolution envelope) JournalAgrees
      (putObject taskId key payload expected ⟨actor, command, name, some ⟨digest, value⟩⟩ now)
      fun _ => True := by
  intro store agreeing
  refine put_meets agreeing.clean (.inl agreeing) (fun _ _ => agreeing) (fun _ => agreeing)
    fun _ _ => ?_
  have committed : (store.commit key payload ⟨actor, command, name, some ⟨digest, value⟩⟩
      now).events = store.events ++ [store.commitEvent key payload
        ⟨actor, command, name, some ⟨digest, value⟩⟩ now] := Store.events_commit agreeing.clean
  obtain ⟨agree, left⟩ := @KeysLeft.append resolution envelope store.events (store.commitEvent key
    payload ⟨actor, command, name, some ⟨digest, value⟩⟩ now) digest value agreeing.left
    agreeing.agree own rfl
  rw [← committed] at agree left
  refine ⟨.inr ?_, .inr ?_, .inl ⟨agreeing.clean.commit, agree, left⟩,
    ⟨agreeing.clean.commit, agree, left⟩, trivial⟩
  · rw [JournalAgrees, Store.events_torn]
    exact agreeing.agree
  · exact agree

/-- The notification of a decision is handled under a key that carries no result. -/
theorem Agreeing.handled (agreeing : Agreeing resolution envelope store)
    {approvalId : Identifier} {other : CommandEnvelope}
    (same : other.idempotencyKey = envelope.idempotencyKey) :
    Meets (handleResolutionNotification taskId approvalId other now) store JournalAgrees
      (fun _ => JournalAgrees) fun _ => JournalAgrees := by
  have agree : JournalAgrees store := agreeing.agree
  unfold handleResolutionNotification handleApprovalNotification
  cases other.actor.actorType.inboxOwner with
  | none => exact Meets.raise agree agree
  | some owner =>
      refine Meets.bind (Meets.read agree ?_)
      cases (listInbox owner 200 store).find? (·.1.approvalId = some approvalId) with
      | none => exact Meets.pure agree agree
      | some entry =>
          dsimp only
          split
          · exact Meets.pure agree agree
          refine Meets.guarded agree (fun built valid => ?_) fun _ _ => agree
          obtain rfl := CommandEnvelope.eq_of_validate valid
          suffices updated : Meets (updateInboxStatus taskId entry.1.inboxId .handled
              ⟨"handle-budget-" ++ other.idempotencyKey, other.actor.actorType,
                other.actor.actorId, entry.2⟩ now) store JournalAgrees (fun _ => JournalAgrees)
              fun _ => JournalAgrees from
            Meets.bind (updated.mono (fun _ => id) (fun _ _ kept => Meets.pure kept kept)
              fun _ _ => id)
          refine Meets.bind (Meets.bind (Meets.read agree ?_))
          cases found : store.lookup (.inbox entry.1.inboxId) with
          | none => exact Meets.raise agree agree
          | some stored =>
              refine Meets.pure agree (Meets.bind ((lookupCommitted_clean agreeing.clean agree).mono
                (fun _ => id) ?_ ?_))
              · rintro committed store ⟨rfl, -⟩
                cases committed with
                | some result => exact Meets.pure agree agree
                | none =>
                    refine Meets.guarded agree (fun _ _ => ?_) fun _ _ => agree
                    have committed : ∀ {payload : Payload (.inbox entry.1.inboxId)}
                        {info : EventInfo} {now : Timestamp},
                        info.idempotencyKey = "handle-budget-" ++ other.idempotencyKey →
                        JournalAgrees (store.commit (.inbox entry.1.inboxId) payload info now) := by
                      intro payload info now named
                      rw [JournalAgrees, Store.events_commit agreeing.clean]
                      refine agreeing.agree.append_result fun _ _ earlier member _ carries => ?_
                      have unused := agreeing.left.notification earlier member
                        (by rw [carries.2]; rfl)
                      exact absurd (carries.1.trans (named.trans (congrArg _ same))) unused
                    refine Meets.bind (put_meets agreeing.clean agree (fun _ _ => agree)
                      (fun _ => agree) fun _ _ => ?_)
                    refine ⟨?_, committed rfl, committed rfl,
                      Meets.pure (committed rfl) (committed rfl)⟩
                    rw [JournalAgrees, Store.events_torn]
                    exact agree
              · rintro _ _ ⟨rfl, -⟩
                exact agree

/-- Every stop of a decision in flight leaves a journal that agrees. -/
theorem Agreeing.finish {budget : RetryBudget} {attempt : RetryAttempt}
    {pending : PendingResolution} (agreeing : Agreeing resolution envelope store)
    (prepared : attempt.pendingResolution = some pending) (asked : pending.request = resolution)
    (same : pending.envelope.idempotencyKey = envelope.idempotencyKey) :
    Meets (finishPendingResolution taskId budget attempt now) store JournalAgrees
      (fun _ => JournalAgrees) fun _ => JournalAgrees := by
  have stops : ∀ store, Agreeing resolution envelope store ∨ JournalAgrees store →
      JournalAgrees store := fun _ => Or.rec Agreeing.agree id
  have resolves : Maintains (Agreeing resolution envelope) JournalAgrees
      (commitResolution taskId pending.request.approvalId pending.request.decision
        pending.envelope now) fun _ => True := by
    refine Maintains.andThen Undisturbed.approval fun details => ?_
    refine Maintains.andThen Agreeing.lookup fun committed => ?_
    cases committed with
    | some result => exact Maintains.done
    | none =>
        refine Maintains.andThen Maintains.check fun _ => ?_
        refine Maintains.andThen (Agreeing.put ?_) fun _ => Maintains.done
        rw [same, asked]
        exact decisionRequest_own
  unfold finishPendingResolution
  rw [prepared]
  refine Meets.bind ((resolves store agreeing).mono stops ?_ fun _ _ => Agreeing.agree)
  rintro committed later ⟨kept, -⟩
  refine Meets.guarded kept.agree (fun result _ => ?_) fun _ _ => kept.agree
  have commits : Maintains (Agreeing resolution envelope) JournalAgrees
      (putBudget taskId (budget.withAttempt (attempt.resolved pending now) budget.ledger now)
        pending.envelope.actor "resolve_budget_approval"
        ("budget-" ++ pending.envelope.idempotencyKey) (.resolveBudgetApproval pending.request)
        result now) fun _ => True := by
    refine Maintains.andThen Maintains.look fun revision => ?_
    refine Maintains.andThen (Agreeing.put ?_) fun _ => Maintains.done
    rw [same, asked]
    exact decisionRequest_commit
  refine Meets.bind ((commits later kept).mono stops ?_ fun _ _ => Agreeing.agree)
  rintro _ final ⟨decided, -⟩
  refine Meets.bind ((decided.handled same).mono (fun _ => id) ?_ fun _ _ => id)
  exact fun _ _ agree => Meets.pure agree agree

end

end DesignHarness
