import DesignHarness.Services.BudgetRuns
import Mathlib.Data.List.Perm.Subperm

/-!
# The lineage of a retry

`RetryLineageAuthority` (`retry_lineage.py`) reads the root of a retry off the attempt that it
repeats.  A lineage is `Rooted` when every attempt carries the root, the instance and the retry
group of its parent, and the parents end at a registered model call that is no retry itself.
Every snapshot that the service ever stores is rooted.
-/

namespace DesignHarness

open Library

/-- The entries of an attempt that its lineage is read from.  An attempt of an older version has
    no root. -/
structure StoredAttempt where
  attemptId : Identifier
  retryOfAttemptId : Identifier
  instanceId : Identifier
  retryGroupId : Identifier
  rootAttemptId : Option Identifier
  rootInstanceId : Option Identifier
  deriving DecidableEq, Repr

def RetryAttempt.stored (attempt : RetryAttempt) : StoredAttempt where
  attemptId := attempt.attemptId
  retryOfAttemptId := attempt.retryOfAttemptId
  instanceId := attempt.instanceId
  retryGroupId := attempt.retryGroupId
  rootAttemptId := some attempt.rootAttemptId
  rootInstanceId := some attempt.rootInstanceId

/-- `_lineage_root` (`retry_lineage.py:63-91`).  The fuel counts the rounds of the loop. -/
def lineageRoot (attempts : List StoredAttempt) :
    Nat → List Identifier → StoredAttempt → Outcome (Identifier × Identifier)
  | 0, _, _ => raiseHarness .validationError "The registered retry lineage contains a cycle."
  | fuel + 1, visited, current =>
      if current.attemptId ∈ visited then
        raiseHarness .validationError "The registered retry lineage contains a cycle."
      else
        match current.rootAttemptId, current.rootInstanceId with
        | some rootAttemptId, some rootInstanceId => .ok (rootAttemptId, rootInstanceId)
        | none, none =>
            match dictGet StoredAttempt.attemptId attempts current.retryOfAttemptId with
            | none => .ok (current.retryOfAttemptId, current.instanceId)
            | some predecessor =>
                lineageRoot attempts fuel (current.attemptId :: visited) predecessor
        | _, _ => raiseHarness .validationError
            "The registered retry lineage has an invalid root binding."

/-- `RetryLineageAuthority.resolve` (`retry_lineage.py:26-54`). -/
def resolveStored (attempts : List StoredAttempt)
    (modelCalls : AList fun _ : Identifier => Identifier) (instanceId retryOfAttemptId : Identifier) : Outcome RetryLineage := do
  match dictGet StoredAttempt.attemptId attempts retryOfAttemptId with
  | none => do
      requireRegisteredRoot modelCalls instanceId retryOfAttemptId
      return ⟨retryOfAttemptId, instanceId, retryGroupId retryOfAttemptId⟩
  | some parent => do
      let (rootAttemptId, rootInstanceId) ← lineageRoot attempts (attempts.length + 1) [] parent
      requireRegisteredRoot modelCalls rootInstanceId rootAttemptId
      ensure (parent.retryGroupId = retryGroupId rootAttemptId) (.harness
        ⟨.validationError, "The registered retry lineage has an invalid retry group.", []⟩)
      return ⟨rootAttemptId, rootInstanceId, retryGroupId rootAttemptId⟩

section

variable {attempts : List StoredAttempt} {visited : List Identifier} {current : StoredAttempt}

/-- The loop ends before its fuel does, since it meets no attempt twice. -/
theorem lineageRoot_fuel {fuel : Nat} (more : Nat) (distinct : visited.Nodup)
    (met : visited ⊆ attempts.map StoredAttempt.attemptId)
    (known : current.attemptId ∈ attempts.map StoredAttempt.attemptId)
    (enough : attempts.length < fuel + visited.length) :
    lineageRoot attempts (fuel + more) visited current =
      lineageRoot attempts fuel visited current := by
  have few : visited.length ≤ attempts.length := by
    have bound := (List.subperm_of_subset distinct met).length_le
    rwa [List.length_map] at bound
  induction fuel generalizing visited current with
  | zero => omega
  | succ fuel ih =>
      rw [Nat.add_right_comm]
      unfold lineageRoot
      by_cases again : current.attemptId ∈ visited
      · rw [if_pos again, if_pos again]
      · rw [if_neg again, if_neg again]
        cases found : dictGet StoredAttempt.attemptId attempts current.retryOfAttemptId with
        | none => rfl
        | some predecessor =>
            have member := mem_of_dictGet found
            have distinct' : (current.attemptId :: visited).Nodup :=
              List.nodup_cons.mpr ⟨again, distinct⟩
            have met' : current.attemptId :: visited ⊆ attempts.map StoredAttempt.attemptId :=
              List.cons_subset.mpr ⟨known, met⟩
            have bound := (List.subperm_of_subset distinct' met').length_le
            rw [List.length_map] at bound
            have same := ih distinct' met' (List.mem_map_of_mem member.1)
              (by rw [List.length_cons]; omega) bound
            simp only [same]

/-- The attempts of the service all have a root, so that the loop ends in its first round. -/
theorem resolveStored_eq (budget : RetryBudget)
    (modelCalls : AList fun _ : Identifier => Identifier)
    (instanceId retryOfAttemptId : Identifier) :
    resolveStored (budget.attempts.map RetryAttempt.stored) modelCalls instanceId
        retryOfAttemptId = resolveLineage budget modelCalls instanceId retryOfAttemptId := by
  have looked : dictGet StoredAttempt.attemptId (budget.attempts.map RetryAttempt.stored)
      retryOfAttemptId =
        (dictGet RetryAttempt.attemptId budget.attempts retryOfAttemptId).map
          RetryAttempt.stored := by
    induction budget.attempts with
    | nil => rfl
    | cons item rest ih =>
        simp only [List.map_cons, dictGet, ih]
        cases dictGet RetryAttempt.attemptId rest retryOfAttemptId with
        | some found => rfl
        | none => by_cases same : item.attemptId = retryOfAttemptId <;> simp [RetryAttempt.stored, same]
  unfold resolveStored resolveLineage
  rw [looked]
  cases dictGet RetryAttempt.attemptId budget.attempts retryOfAttemptId with
  | none => rfl
  | some parent => rfl

end

/-! ## Rooted lineages -/

/-- Following the parents of an attempt ends at an id that is no retry attempt. -/
inductive Retries (attempts : List StoredAttempt) : Identifier → Identifier → Prop
  | ends {attemptId : Identifier} (outside : ∀ item ∈ attempts, item.attemptId ≠ attemptId) :
      Retries attempts attemptId attemptId
  | parent {item : StoredAttempt} {last : Identifier} (member : item ∈ attempts)
      (rest : Retries attempts item.retryOfAttemptId last) :
      Retries attempts item.attemptId last

/-- The lineage of an attempt: a registered model call that is no retry attempt, at which the
    parents of the attempt end, and the retry group of that model call. -/
structure StoredAttempt.Lineage (attempts : List StoredAttempt)
    (modelCalls : AList fun _ : Identifier => Identifier) (item : StoredAttempt)
    (root owner : Identifier) : Prop where
  attempt : item.rootAttemptId = some root
  instances : item.rootInstanceId = some owner
  group : item.retryGroupId = DesignHarness.retryGroupId root
  registered : modelCalls.lookup root = some owner
  apart : ∀ other ∈ attempts, other.attemptId ≠ root
  retries : Retries attempts item.attemptId root

/-- The attempts keep to the lineages of their parents. -/
structure Rooted (modelCalls : AList fun _ : Identifier => Identifier)
    (attempts : List StoredAttempt) : Prop where
  distinct : (attempts.map StoredAttempt.attemptId).Nodup
  inherited : ∀ item ∈ attempts, ∀ parent ∈ attempts, parent.attemptId = item.retryOfAttemptId →
    item.rootAttemptId = parent.rootAttemptId ∧ item.rootInstanceId = parent.rootInstanceId ∧
      item.retryGroupId = parent.retryGroupId
  founded : ∀ item ∈ attempts, (∀ parent ∈ attempts, parent.attemptId ≠ item.retryOfAttemptId) →
    item.rootAttemptId = some item.retryOfAttemptId ∧ item.rootInstanceId = some item.instanceId
  lineage : ∀ item ∈ attempts, ∃ root owner, item.Lineage attempts modelCalls root owner

section

variable {attempts : List StoredAttempt} {modelCalls later : AList fun _ : Identifier => Identifier}
  {added item : StoredAttempt} {attemptId root owner last : Identifier}

theorem Retries.append (retries : Retries attempts attemptId last)
    (other : added.attemptId ≠ last) : Retries (attempts ++ [added]) attemptId last := by
  induction retries with
  | ends outside =>
      refine .ends fun item member => ?_
      rcases List.mem_append.mp member with before | here
      · exact outside item before
      · obtain rfl := List.mem_singleton.mp here
        exact other
  | parent member rest ih => exact .parent (List.mem_append_left _ member) (ih other)

theorem StoredAttempt.Lineage.append (lineage : item.Lineage attempts modelCalls root owner)
    (unregistered : modelCalls.lookup added.attemptId = none) :
    item.Lineage (attempts ++ [added]) modelCalls root owner := by
  have other : added.attemptId ≠ root := by
    intro same
    rw [same, lineage.registered] at unregistered
    cases unregistered
  refine ⟨lineage.attempt, lineage.instances, lineage.group, lineage.registered, ?_,
    lineage.retries.append other⟩
  intro item member
  rcases List.mem_append.mp member with before | here
  · exact lineage.apart item before
  · obtain rfl := List.mem_singleton.mp here
    exact other

/-- More model calls may be registered. -/
theorem Rooted.mono (rooted : Rooted modelCalls attempts)
    (grows : ∀ attemptId owner, modelCalls.lookup attemptId = some owner →
      later.lookup attemptId = some owner) : Rooted later attempts := by
  refine ⟨rooted.distinct, rooted.inherited, rooted.founded, fun item member => ?_⟩
  obtain ⟨root, owner, lineage⟩ := rooted.lineage item member
  exact ⟨root, owner, lineage.attempt, lineage.instances, lineage.group,
    grows root owner lineage.registered, lineage.apart, lineage.retries⟩

/-- The parent of a stored attempt is no new attempt. -/
theorem Rooted.parent_ne (rooted : Rooted modelCalls attempts) (member : item ∈ attempts)
    (unused : ∀ other ∈ attempts, other.attemptId ≠ added.attemptId)
    (unregistered : modelCalls.lookup added.attemptId = none) :
    added.attemptId ≠ item.retryOfAttemptId := by
  intro same
  obtain ⟨root, owner, lineage⟩ := rooted.lineage item member
  obtain ⟨founded, -⟩ := rooted.founded item member fun parent found =>
    same ▸ unused parent found
  obtain rfl : root = item.retryOfAttemptId :=
    Option.some.inj (lineage.attempt.symm.trans founded)
  rw [same, lineage.registered] at unregistered
  cases unregistered

/-- An attempt that founds a lineage at a registered model call, or joins that of its parent. -/
theorem Rooted.append (rooted : Rooted modelCalls attempts)
    (unused : ∀ other ∈ attempts, other.attemptId ≠ added.attemptId)
    (unregistered : modelCalls.lookup added.attemptId = none)
    (ways : ((∀ parent ∈ attempts, parent.attemptId ≠ added.retryOfAttemptId) ∧
        added.rootAttemptId = some added.retryOfAttemptId ∧
        added.rootInstanceId = some added.instanceId ∧
        added.retryGroupId = retryGroupId added.retryOfAttemptId ∧
        modelCalls.lookup added.retryOfAttemptId = some added.instanceId) ∨
      ∃ parent ∈ attempts, parent.attemptId = added.retryOfAttemptId ∧
        added.rootAttemptId = parent.rootAttemptId ∧
        added.rootInstanceId = parent.rootInstanceId ∧
        added.retryGroupId = parent.retryGroupId) : Rooted modelCalls (attempts ++ [added]) := by
  have loopless : added.attemptId ≠ added.retryOfAttemptId := by
    intro same
    rcases ways with ⟨-, -, -, -, registered⟩ | ⟨parent, member, named, -⟩
    · rw [← same, unregistered] at registered
      cases registered
    · exact unused parent member (named.trans same.symm)
  have cases_of : ∀ {item}, item ∈ attempts ++ [added] → item ∈ attempts ∨ item = added := by
    intro item member
    exact (List.mem_append.mp member).imp_right List.mem_singleton.mp
  refine ⟨?_, ?_, ?_, ?_⟩
  · rw [List.map_append, List.nodup_append]
    refine ⟨rooted.distinct, List.nodup_singleton _, ?_⟩
    intro first before second here
    obtain ⟨item, member, rfl⟩ := List.mem_map.mp before
    obtain rfl := List.mem_singleton.mp here
    exact unused item member
  · intro item found parent found' named
    rcases cases_of found with member | rfl
    · rcases cases_of found' with member' | rfl
      · exact rooted.inherited item member parent member' named
      · exact absurd named (rooted.parent_ne member unused unregistered)
    · rcases cases_of found' with member' | rfl
      · rcases ways with ⟨outside, -⟩ | ⟨first, member, named', same⟩
        · exact absurd named (outside parent member')
        · obtain rfl := List.inj_on_of_nodup_map rooted.distinct member member'
            (named'.trans named.symm)
          exact same
      · exact absurd named loopless
  · intro item found outside
    have before : ∀ parent ∈ attempts, parent.attemptId ≠ item.retryOfAttemptId :=
      fun parent member => outside parent (List.mem_append_left _ member)
    rcases cases_of found with member | rfl
    · exact rooted.founded item member before
    · rcases ways with ⟨-, root, owner, -⟩ | ⟨parent, member, named, -⟩
      · exact ⟨root, owner⟩
      · exact absurd named (before parent member)
  · intro item found
    rcases cases_of found with member | rfl
    · obtain ⟨root, owner, lineage⟩ := rooted.lineage item member
      exact ⟨root, owner, lineage.append unregistered⟩
    · rcases ways with ⟨outside, root, owner, group, registered⟩ | ⟨parent, member, named, same⟩
      · have apart : ∀ other ∈ attempts ++ [item], other.attemptId ≠ item.retryOfAttemptId := by
          intro other found
          rcases cases_of found with member | rfl
          · exact outside other member
          · exact loopless
        exact ⟨_, _, root, owner, group, registered, apart, .parent found (.ends apart)⟩
      · obtain ⟨root, owner, lineage⟩ := rooted.lineage parent member
        have joined := lineage.append unregistered
        refine ⟨root, owner, same.1.trans joined.attempt, same.2.1.trans joined.instances,
          same.2.2.trans joined.group, joined.registered, joined.apart, .parent found ?_⟩
        rw [← named]
        exact joined.retries

/-- There is one id at which the parents of an attempt end. -/
theorem Retries.unique (distinct : (attempts.map StoredAttempt.attemptId).Nodup) {last' : Identifier}
    (retries : Retries attempts attemptId last) (retries' : Retries attempts attemptId last') :
    last = last' := by
  induction retries generalizing last' with
  | ends outside =>
      cases retries' with
      | ends outside' => rfl
      | parent member rest => exact absurd rfl (outside _ member)
  | @parent item last member rest ih =>
      generalize named : item.attemptId = start at retries'
      cases retries' with
      | ends outside' => exact absurd named (outside' item member)
      | parent member' rest' =>
          obtain rfl := List.inj_on_of_nodup_map distinct member member' named
          exact ih rest'

/-- Attempts whose parents end at the same model call share its retry group. -/
theorem Rooted.group_eq (rooted : Rooted modelCalls attempts) (member : item ∈ attempts)
    (member' : added ∈ attempts) (retries : Retries attempts item.attemptId last)
    (retries' : Retries attempts added.attemptId last) :
    item.retryGroupId = added.retryGroupId := by
  obtain ⟨root, owner, lineage⟩ := rooted.lineage item member
  obtain ⟨root', owner', lineage'⟩ := rooted.lineage added member'
  have same : root = last := lineage.retries.unique rooted.distinct retries
  have same' : root' = last := lineage'.retries.unique rooted.distinct retries'
  rw [lineage.group, lineage'.group, same, same']

/-- A root that is registered is one of the instance. -/
theorem requireRegisteredRoot_eq_ok {u : Unit} :
    requireRegisteredRoot modelCalls owner root = .ok u ↔ modelCalls.lookup root = some owner := by
  unfold requireRegisteredRoot
  cases modelCalls.lookup root with
  | none => simp [raiseHarness]
  | some found => simp

/-- The lineage of a request: that of its parent, or a new one at a registered model call. -/
theorem resolveLineage_cases {budget : RetryBudget} {instanceId retryOfAttemptId : Identifier}
    {lineage : RetryLineage}
    (resolved : resolveLineage budget modelCalls instanceId retryOfAttemptId = .ok lineage) :
    ((∀ item ∈ budget.attempts, item.attemptId ≠ retryOfAttemptId) ∧
        modelCalls.lookup retryOfAttemptId = some instanceId ∧
        lineage = ⟨retryOfAttemptId, instanceId, retryGroupId retryOfAttemptId⟩) ∨
      ∃ parent ∈ budget.attempts, parent.attemptId = retryOfAttemptId ∧
        lineage = ⟨parent.rootAttemptId, parent.rootInstanceId, parent.retryGroupId⟩ := by
  unfold resolveLineage at resolved
  cases found : dictGet RetryAttempt.attemptId budget.attempts retryOfAttemptId with
  | none =>
      simp only [found, bind_eq_ok, requireRegisteredRoot_eq_ok, pure_eq_ok,
        Except.ok.injEq] at resolved
      obtain ⟨-, registered, rfl⟩ := resolved
      refine .inl ⟨fun item member same => ?_, registered, rfl⟩
      exact dictGet_eq_none_iff.mp found (List.mem_map.mpr ⟨item, member, same⟩)
  | some parent =>
      simp only [found, bind_eq_ok, ensure_eq_ok, pure_eq_ok, Except.ok.injEq] at resolved
      obtain ⟨-, -, -, group, rfl⟩ := resolved
      have member := mem_of_dictGet found
      exact .inr ⟨parent, member.1, member.2, by rw [group]⟩

/-- A granted or denied request adds an attempt that keeps to the lineage of its parent. -/
theorem Rooted.requested {budget : RetryBudget} {request : RetryRequest} {lineage : RetryLineage}
    {agentType : AgentType} {tokens : Option Nat} {gates : List Gate} {now : Timestamp}
    (rooted : Rooted modelCalls (budget.attempts.map RetryAttempt.stored))
    (checked : checkRetry budget modelCalls request = .ok lineage) :
    Rooted modelCalls (budget.attempts.map RetryAttempt.stored ++
      [(request.attempt lineage agentType tokens gates now).stored]) := by
  generalize newest : (request.attempt lineage agentType tokens gates now).stored = added
  have named : added.attemptId = request.attemptId := by rw [← newest]; rfl
  have repeats : added.retryOfAttemptId = request.retryOfAttemptId := by rw [← newest]; rfl
  have unused : ∀ other ∈ budget.attempts.map RetryAttempt.stored,
      other.attemptId ≠ added.attemptId := by
    rw [named]
    intro other member
    obtain ⟨item, stored, rfl⟩ := List.mem_map.mp member
    exact checkRetry_unused checked item stored
  simp only [checkRetry, bind_eq_ok, ensure_eq_ok, Option.isNone_iff_eq_none] at checked
  obtain ⟨-, -, -, unregistered, resolved⟩ := checked
  rw [← named] at unregistered
  -- The two ways to a lineage, as facts about the new attempt.
  have ways : ((∀ parent ∈ budget.attempts.map RetryAttempt.stored,
        parent.attemptId ≠ added.retryOfAttemptId) ∧
      added.rootAttemptId = some added.retryOfAttemptId ∧
      added.rootInstanceId = some added.instanceId ∧
      added.retryGroupId = retryGroupId added.retryOfAttemptId ∧
      modelCalls.lookup added.retryOfAttemptId = some added.instanceId) ∨
    ∃ parent ∈ budget.attempts.map RetryAttempt.stored,
      parent.attemptId = added.retryOfAttemptId ∧ added.rootAttemptId = parent.rootAttemptId ∧
        added.rootInstanceId = parent.rootInstanceId ∧
        added.retryGroupId = parent.retryGroupId := by
    subst newest
    rcases resolveLineage_cases resolved with ⟨outside, registered, rfl⟩ | ⟨parent, member, same, rfl⟩
    · refine .inl ⟨fun parent member => ?_, rfl, rfl, rfl, registered⟩
      obtain ⟨item, stored, rfl⟩ := List.mem_map.mp member
      exact outside item stored
    · exact .inr ⟨parent.stored, List.mem_map_of_mem member, same, rfl, rfl, rfl⟩
  exact rooted.append unused unregistered ways

end

/-! ## The registered model calls -/

/-- The model calls that are registered. -/
def CallsAre (modelCalls : AList fun _ : Identifier => Identifier) (store : TaskStore) : Prop :=
  store.side.modelCalls = modelCalls

section

variable {taskId : Identifier} {now : Timestamp} {condition other : TaskStore → Prop}
  {modelCalls : AList fun _ : Identifier => Identifier}

theorem keeps_callsAre {write : TaskWrite}
    (same : ∀ side, write = .side side → side.modelCalls = modelCalls) :
    Keeps (CallsAre modelCalls) Nowhere write := by
  intro store calls
  cases write with
  | side value => exact ⟨same value rfl, .inl calls⟩
  | append event => exact ⟨calls, .inl calls⟩
  | truncate => exact ⟨calls, .inl calls⟩
  | replace key snapshot => exact ⟨calls, .inl calls⟩
  | unlink key => exact ⟨calls, .inl calls⟩

theorem putObject_callsAre {key : ObjectKey} {payload : Payload key} {expected : Nat}
    {info : EventInfo} :
    Maintains (CallsAre modelCalls) Nowhere (putObject taskId key payload expected info now)
      fun _ => True :=
  put_maintains (keeps_callsAre (by simp)) (fun _ => keeps_callsAre (by simp))
    fun _ => keeps_callsAre (by simp)

/-- The side files are read and written back with other entries changed. -/
theorem readSide_callsAre :
    Maintains (CallsAre modelCalls) Nowhere (Script.read Store.side : TaskScript SideFiles)
      fun side => side.modelCalls = modelCalls :=
  Maintains.read fun _ calls => calls

theorem writeSide_callsAre {side : SideFiles} (same : side.modelCalls = modelCalls) :
    Maintains (CallsAre modelCalls) Nowhere (Script.write (.side side) : TaskScript Unit)
      fun _ => True := by
  refine Maintains.write (keeps_callsAre fun written found => ?_)
  injection found with found
  exact found ▸ same

theorem CallsAre.undisturbed : Undisturbed taskId (CallsAre modelCalls) Nowhere := by
  have sequence : Maintains (CallsAre modelCalls) Nowhere nextSequence fun _ => True := by
    refine Maintains.bind readSide_callsAre fun side same => ?_
    exact Maintains.andThen (writeSide_callsAre same) fun _ => Maintains.done
  refine ⟨keeps_callsAre (by simp), sequence, fun _ _ _ _ _ _ => putObject_callsAre, ?_⟩
  intro instanceId attemptId gates now
  refine Maintains.andThen Maintains.look fun existing => ?_
  cases existing with
  | some approval => exact Maintains.check
  | none =>
      refine Maintains.bind readSide_callsAre fun side same => ?_
      refine Maintains.andThen (writeSide_callsAre same) fun _ => ?_
      refine Maintains.andThen sequence fun sequence => ?_
      exact Maintains.andThen putObject_callsAre fun _ => Maintains.done

theorem CallsAre.resolution {approvalId : Identifier} {decision : Verdict}
    {envelope : CommandEnvelope} :
    Maintains (CallsAre modelCalls) Nowhere
      (commitResolution taskId approvalId decision envelope now) fun _ => True := by
  refine Maintains.andThen Undisturbed.approval fun details => ?_
  refine Maintains.andThen CallsAre.undisturbed.lookup fun found => ?_
  cases found with
  | some result => exact Maintains.done
  | none =>
      refine Maintains.andThen Maintains.check fun _ => ?_
      exact Maintains.andThen putObject_callsAre fun _ => Maintains.done

/-- A startup registers no model call. -/
theorem recover_callsAre :
    Maintains (CallsAre modelCalls) Nowhere (recover taskId now) fun _ => True := by
  have replaced : ∀ key (committed : Wrapper (Payload key)), Maintains (CallsAre modelCalls) Nowhere
      (Script.write (.replace key committed) : TaskScript Unit) fun _ => True :=
    fun key committed => Maintains.write (keeps_callsAre (by simp))
  have retired : ∀ (toKey : Identifier → ObjectKey) (active listed : List Identifier),
      Maintains (CallsAre modelCalls) Nowhere (retireFrom toKey active listed) fun _ => True := by
    intro toKey active listed
    refine Maintains.forEach fun objectId member => ?_
    split
    · exact Maintains.done
    · exact Maintains.write (keeps_callsAre (by simp))
  refine Maintains.andThen (recoverRecords_maintains (keeps_callsAre (by simp))) fun events => ?_
  refine Maintains.andThen (Maintains.forEach fun event member => ?_) fun _ => ?_
  · cases event.info.result with
    | none => exact Maintains.done
    | some result =>
        refine Maintains.andThen (Maintains.bind readSide_callsAre fun side same => ?_) fun _ =>
          Maintains.done
        cases side.registry.lookup event.info.idempotencyKey with
        | some record => exact Maintains.andThen Maintains.check fun _ => Maintains.done
        | none => exact Maintains.andThen (writeSide_callsAre same) fun _ => Maintains.done
  refine Maintains.andThen (Maintains.andThen (Maintains.forEach fun key member => ?_) fun _ => ?_)
    fun _ => ?_
  · cases latest key events with
    | none => exact Maintains.done
    | some committed =>
        refine Maintains.andThen Maintains.look fun current => ?_
        cases current with
        | none => exact replaced key committed
        | some current =>
            dsimp only
            split
            · exact replaced key committed
            · split
              · exact Maintains.raise
              · split
                · exact replaced key committed
                · exact Maintains.done
  · refine Maintains.andThen Maintains.look fun keys => ?_
    exact Maintains.forEach fun key member => Maintains.check
  · refine Maintains.andThen Maintains.look fun plan => ?_
    cases plan with
    | none => exact Maintains.done
    | some wrapper =>
        refine Maintains.andThen (Maintains.forEach fun projection member => ?_) fun _ => ?_
        · refine Maintains.andThen Maintains.look fun current => ?_
          split
          · exact Maintains.done
          · exact Maintains.andThen putObject_callsAre fun _ => Maintains.done
        · refine Maintains.andThen Maintains.look fun stages => ?_
          refine Maintains.andThen (retired _ _ _) fun _ => ?_
          refine Maintains.andThen Maintains.look fun instances => ?_
          exact retired _ _ _

end

/-- A budget whose attempts keep to their lineages. -/
def RootedBudget (modelCalls : AList fun _ : Identifier => Identifier)
    (current : Option RetryBudget) : Prop :=
  ∀ budget, current = some budget → Rooted modelCalls (budget.attempts.map RetryAttempt.stored)

/-- The stored budget and the one that a startup restores are rooted in the model calls. -/
def RootedStore (modelCalls : AList fun _ : Identifier => Identifier) (store : TaskStore) : Prop :=
  Budgets (OfBudget (RootedBudget modelCalls)) store ∧ CallsAre modelCalls store

/-- The lineage that a request has under the registered model calls. -/
abbrev ResolvesUnder (modelCalls : AList fun _ : Identifier => Identifier) (budget : RetryBudget)
    (request : RetryRequest) (lineage : RetryLineage) : Prop :=
  checkRetry budget modelCalls request = .ok lineage

section

variable {taskId : Identifier} {now : Timestamp} {condition other : TaskStore → Prop}
  {modelCalls later : AList fun _ : Identifier => Identifier} {store : TaskStore}
  {allowed : RetryBudget → RetryPolicy → Prop} {decides : Prop} {old new : RetryBudget}
  {attempt updated : RetryAttempt} {ledger : RetryLedger}

theorem Rooted.empty : Rooted modelCalls [] := by
  constructor <;> simp

/-- An attempt that changes in place keeps its lineage. -/
theorem stored_withAttempt (found : old.attempt attempt.attemptId = .ok attempt)
    (same : updated.stored = attempt.stored) :
    (old.withAttempt updated ledger now).attempts.map RetryAttempt.stored =
      old.attempts.map RetryAttempt.stored := by
  have named : updated.attemptId = attempt.attemptId := congrArg StoredAttempt.attemptId same
  rw [← named] at found
  exact map_replaceFirst_of_same (RetryBudget.attempt_eq_ok.mp found) same

theorem stored_resolved {pending : PendingResolution} :
    (attempt.resolved pending now).stored = attempt.stored := by
  unfold RetryAttempt.resolved
  split <;> rfl

theorem BudgetMove.rooted
    (move : BudgetMove allowed decides (ResolvesUnder modelCalls) old new)
    (rooted : Rooted modelCalls (old.attempts.map RetryAttempt.stored)) :
    Rooted modelCalls (new.attempts.map RetryAttempt.stored) := by
  cases move with
  | configured policy now permitted => exact rooted
  | requested request agentType lineage tokens now unused resolved denied =>
      change Rooted modelCalls ((old.attempts ++ [_]).map RetryAttempt.stored)
      rw [List.map_append]
      exact rooted.requested resolved
  | granted request agentType lineage tokens now unused resolved passed =>
      change Rooted modelCalls ((old.attempts ++ [_]).map RetryAttempt.stored)
      rw [List.map_append]
      exact rooted.requested resolved
  | prepared attempt resolution envelope now found pending permitted =>
      have same : (attempt.prepared ⟨resolution, envelope, now⟩).stored = attempt.stored := rfl
      rw [prepareResolution, stored_withAttempt found same]
      exact rooted
  | resolved attempt pending now found prepared =>
      rw [stored_withAttempt found stored_resolved]
      exact rooted
  | consumed attempt tokens now found authorized bounded =>
      have same : (attempt.consumed now).stored = attempt.stored := rfl
      rw [stored_withAttempt found same]
      exact rooted
  | settled attempt tokens request now found reserved bounded =>
      have same : (attempt.settled tokens request now).stored = attempt.stored := rfl
      rw [stored_withAttempt found same]
      exact rooted

/-- Two conditions that nothing else touches. -/
theorem Undisturbed.and (first : Undisturbed taskId condition Nowhere)
    (second : Undisturbed taskId other Nowhere) :
    Undisturbed taskId (fun store => condition store ∧ other store) Nowhere where
  truncated store holds := by
    obtain ⟨cut, torn⟩ := first.truncated store holds.1
    obtain ⟨cut', torn'⟩ := second.truncated store holds.2
    exact ⟨⟨cut, cut'⟩, .inl ⟨torn.resolve_right id, torn'.resolve_right id⟩⟩
  sequence := (first.sequence.and (fun _ => id) second.sequence).mono fun _ _ => trivial
  inboxes inboxId payload expected info now digests :=
    ((first.inboxes inboxId payload expected info now digests).and (fun _ => id)
      (second.inboxes inboxId payload expected info now digests)).mono fun _ _ => trivial
  records instanceId attemptId gates now :=
    ((first.records instanceId attemptId gates now).and (fun _ => id)
      (second.records instanceId attemptId gates now)).mono fun _ _ => trivial

/-- Every operation keeps the lineages. -/
theorem RootedStore.guard :
    BudgetGuard taskId (fun _ _ => True) True (ResolvesUnder modelCalls) (RootedBudget modelCalls)
      (RootedStore modelCalls) Nowhere where
  toUndisturbed := Budgets.about.undisturbed.and CallsAre.undisturbed
  stored store holds := holds.1.stored
  lineages store budget request lineage holds checked := by
    rw [show store.side.modelCalls = modelCalls from holds.2] at checked
    exact checked
  closed current new now fit move := by
    rintro budget ⟨⟩
    refine move.rooted ?_
    cases current with
    | none => exact Rooted.empty
    | some old => exact fit old rfl
  commits updated actor command name digest result now fit different := by
    have kept : Maintains (CallsAre modelCalls) Nowhere
        (putBudget taskId updated actor command name digest result now) fun _ => True := by
      refine Maintains.andThen Maintains.look fun revision => ?_
      exact Maintains.andThen putObject_callsAre fun _ => Maintains.done
    exact ((putBudget_maintains fun _ => fit).and (fun _ => id) kept).mono fun _ _ => trivial
  resolutions budget attempt pending now read found prepared :=
    (Budgets.about.resolution.and (fun _ => id) CallsAre.resolution).mono fun _ _ => trivial

/-! ## Runs -/

/-- `begin_model_call` (`supervisor_lifecycle.py:187-220`), once the instance has a ready process:
    a record is written once and stays with its instance. -/
def beginModelCall (instanceId attemptId : Identifier) : TaskScript Unit := do
  let side ← Script.read Store.side
  match side.modelCalls.lookup attemptId with
  | some owner => Script.lift (ensure (owner = instanceId) (.harness ⟨.idempotencyConflict,
      "The attempt id was reused for another model call.", []⟩))
  | none => Script.write (.side
      { side with modelCalls := side.modelCalls.insert attemptId instanceId })

theorem TaskWrite.about_side (side : SideFiles) :
    TaskWrite.about (.side side) ≠ some .retryBudget := by
  simp [TaskWrite.about]

/-- A write of another service leaves the records of the model calls alone. -/
def BudgetStep.leavingCalls (store : TaskStore) : BudgetStep → BudgetStep
  | .other ⟨.side side, _⟩ torn =>
      .other ⟨.side { side with modelCalls := store.side.modelCalls }, TaskWrite.about_side _⟩ torn
  | step => step

/-- One step of a run: a call of the service or of another one, or a model call that begins. -/
inductive LineageStep where
  | budget (step : BudgetStep)
  | modelCall (instanceId attemptId : Identifier)

def LineageStep.next (taskId : Identifier) (store : TaskStore) : LineageStep → TaskStore
  | .budget step => (step.leavingCalls store).next taskId store
  | .modelCall instanceId attemptId => (beginModelCall instanceId attemptId).after store

def lineageStep (taskId : Identifier) (store : TaskStore) (step : LineageStep) :
    Except Empty TaskStore :=
  .ok (step.next taskId store)

/-- The store that a run makes of an empty one. -/
def lineageRun (taskId : Identifier) (steps : List LineageStep) : TaskStore :=
  runFrom (lineageStep taskId) .empty steps

/-- The attempts of the stored snapshot; there are none before the first one. -/
def TaskStore.attempts (store : TaskStore) : List StoredAttempt :=
  (store.budget.elim [] RetryBudget.attempts).map RetryAttempt.stored

theorem RootedStore.mono (rooted : RootedStore modelCalls store) {next : TaskStore}
    (grows : ∀ attemptId owner, modelCalls.lookup attemptId = some owner →
      later.lookup attemptId = some owner)
    (stored : next.lookup ObjectKey.retryBudget = store.lookup ObjectKey.retryBudget)
    (restored : next.events = store.events) (calls : CallsAre later next) :
    RootedStore later next := by
  refine ⟨⟨?_, ?_⟩, calls⟩
  · rw [stored]
    exact fun budget found => (rooted.1.stored budget found).mono grows
  · rw [restored]
    exact fun budget found => (rooted.1.restored budget found).mono grows

theorem leavingCalls_other (store : TaskStore) (write : OtherWrite) (torn : Bool) :
    ∃ changed : OtherWrite, (BudgetStep.other write torn).leavingCalls store = .other changed torn ∧
      ∀ side, changed.val = .side side → side.modelCalls = store.side.modelCalls := by
  obtain ⟨write, about⟩ := write
  cases write with
  | side side =>
      refine ⟨_, rfl, fun written found => ?_⟩
      injection found with found
      rw [← found]
  | append event => exact ⟨⟨.append event, about⟩, rfl, by simp⟩
  | truncate => exact ⟨⟨.truncate, about⟩, rfl, by simp⟩
  | replace key snapshot => exact ⟨⟨.replace key snapshot, about⟩, rfl, by simp⟩
  | unlink key => exact ⟨⟨.unlink key, about⟩, rfl, by simp⟩

/-- A step keeps the lineages, under the model calls that are registered after it. -/
theorem RootedStore.next (rooted : RootedStore store.side.modelCalls store) (step : LineageStep) :
    RootedStore (step.next taskId store).side.modelCalls (step.next taskId store) := by
  have settled : ∀ {later : TaskStore}, RootedStore store.side.modelCalls later →
      RootedStore later.side.modelCalls later := by
    intro later rooted
    rw [show later.side.modelCalls = store.side.modelCalls from rooted.2]
    exact rooted
  have stopped : ∀ {script : TaskScript Unit} (stop : Option Stop),
      Meets script store (fun later => RootedStore store.side.modelCalls later ∨ Nowhere later)
        (fun _ => RootedStore store.side.modelCalls)
        (fun _ => RootedStore store.side.modelCalls) →
      RootedStore store.side.modelCalls (ranTo script stop store) := by
    intro script stop meets
    cases stop with
    | none => exact meets.after
    | some stop => exact (meets.stopped stop.1 stop.2).resolve_right id
  cases step with
  | budget step =>
      refine settled ?_
      cases step with
      | service operation now stop =>
          have configures : Configures taskId (fun _ _ => True) store (.service operation now none) :=
            Configures.anything
          exact stopped stop (RootedStore.guard.operation configures rooted)
      | startup now stop =>
          refine stopped stop ?_
          have kept : Maintains (RootedStore store.side.modelCalls) Nowhere (recover taskId now)
              fun _ => True :=
            (recover_maintains.and (fun _ => id) recover_callsAre).mono fun _ _ => trivial
          exact (kept store rooted).mono (fun _ => id) (fun _ _ ended => ended.1) fun _ _ => id
      | other write torn =>
          obtain ⟨changed, same, calls⟩ := leavingCalls_other store write torn
          obtain ⟨budgets, torn_budgets⟩ := keeps_other changed.property store rooted.1
          obtain ⟨kept, torn_kept⟩ := keeps_callsAre calls store rooted.2
          rw [LineageStep.next, same]
          cases torn with
          | false => exact ⟨budgets, kept⟩
          | true => exact ⟨torn_budgets.resolve_right id, torn_kept.resolve_right id⟩
  | modelCall instanceId attemptId =>
      change RootedStore ((beginModelCall instanceId attemptId).after store).side.modelCalls
        ((beginModelCall instanceId attemptId).after store)
      cases known : store.side.modelCalls.lookup attemptId with
      | some owner =>
          have idle : (beginModelCall instanceId attemptId).after store = store := by
            simp only [beginModelCall, Script.after, Script.run_read, known]
            rfl
          rw [idle]
          exact rooted
      | none =>
          have begun : (beginModelCall instanceId attemptId).after store =
              store.withSide { store.side with
                modelCalls := store.side.modelCalls.insert attemptId instanceId } := by
            simp only [beginModelCall, Script.after, Script.run_read, known]
            rfl
          rw [begun]
          refine rooted.mono (fun other owner found => ?_) rfl rfl rfl
          have different : other ≠ attemptId := by
            rintro rfl
            rw [known] at found
            cases found
          change (store.side.modelCalls.insert attemptId instanceId).lookup other = some owner
          rw [AList.lookup_insert_ne different]
          exact found

theorem lineageRun_rooted (taskId : Identifier) (steps : List LineageStep) :
    Rooted (lineageRun taskId steps).side.modelCalls (lineageRun taskId steps).attempts := by
  have start : RootedStore (TaskStore.empty.side.modelCalls) .empty := by
    refine ⟨⟨?_, ?_⟩, rfl⟩
    · rintro budget ⟨⟩
    · rintro budget ⟨⟩
  have kept : ∀ store step next, RootedStore store.side.modelCalls store →
      lineageStep taskId store step = .ok next → RootedStore next.side.modelCalls next := by
    rintro store step _ rooted ⟨⟩
    exact rooted.next step
  have rooted : RootedStore (lineageRun taskId steps).side.modelCalls (lineageRun taskId steps) :=
    @runFrom_invariant _ _ _ (lineageStep taskId) TaskStore.empty
      (fun store => RootedStore store.side.modelCalls store) start kept steps
  cases stored : (lineageRun taskId steps).budget with
  | none =>
      rw [TaskStore.attempts, stored]
      exact Rooted.empty
  | some budget =>
      rw [TaskStore.attempts, stored]
      exact rooted.1.stored budget stored

/-- Whatever is requested in whatever order, wherever calls stop and whichever model calls begin
    in between, every attempt of the stored snapshot carries the root, the instance and the retry
    group of its parent, the first of a lineage those of the registered model call that it
    repeats, and its parents end at that model call, which is no retry attempt.  All attempts that
    go back to one model call share its retry group. -/
theorem retries_keep_lineage (taskId : Identifier) (steps : List LineageStep) :
    Rooted (lineageRun taskId steps).side.modelCalls (lineageRun taskId steps).attempts ∧
      ∀ item ∈ (lineageRun taskId steps).attempts, ∀ other ∈ (lineageRun taskId steps).attempts,
        ∀ root, Retries (lineageRun taskId steps).attempts item.attemptId root →
          Retries (lineageRun taskId steps).attempts other.attemptId root →
          item.retryGroupId = other.retryGroupId := by
  have rooted := lineageRun_rooted taskId steps
  exact ⟨rooted, fun item member other member' root => rooted.group_eq member member'⟩

end

end DesignHarness
