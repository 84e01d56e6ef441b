import DesignHarness.Domain.Decisions

/-!
# Merging into a plan

`_normalize_merge` (`service.py:1117-1232`) takes newer task cards for instances that have not
started and leaves everything else as it landed.
-/

namespace DesignHarness

open Library

/-- The instance still waits for its start, so its card may be revised. -/
def InstanceStatus.awaitsStart : InstanceStatus → Bool
  | ready | unavailable => true
  | _ => false

/-- What becomes of a landed card. -/
structure CardMerged (instances : List AgentInstance) (landed merged : TaskCard) : Prop where
  cardId : merged.cardId = landed.cardId
  instanceId : merged.instanceId = landed.instanceId
  revision : landed.revision ≤ merged.revision
  started : ∀ item ∈ instances, item.instanceId = landed.instanceId →
    item.status.awaitsStart = false → merged = landed

/-- What a merge leaves. -/
structure Merged (existing merged : Plan) : Prop where
  stages : merged.stages = existing.stages
  instances : merged.instances = existing.instances
  taskCards : List.Forall₂ (CardMerged existing.instances) existing.taskCards merged.taskCards
  valid : PlanValid merged

section

variable {task : MainTask} {existing merged : Plan} {planRevision : Nat} {payload : PlanPayload}
  {now : Timestamp}

theorem mergeCard_merged {landed card : TaskCard}
    (distinct : (existing.instances.map AgentInstance.instanceId).Nodup)
    (h : mergeCard task existing payload now landed = .ok card) :
    CardMerged existing.instances landed card := by
  obtain ⟨raw, found, h⟩ := bind_eq_ok.mp h
  obtain ⟨_, sameInstance, h⟩ := bind_eq_ok.mp h
  obtain ⟨item, looked, h⟩ := bind_eq_ok.mp h
  have rawId : raw.cardId = landed.cardId := by
    cases listed : dictGet CardPayload.cardId payload.taskCards landed.cardId with
    | none => rw [listed] at found; cases found
    | some other =>
        rw [listed] at found
        obtain rfl := Except.ok.inj found
        exact (mem_of_dictGet listed).2
  have stored : dictGet AgentInstance.instanceId existing.instances landed.instanceId =
      some item := by
    unfold instanceById at looked
    split at looked
    · rename_i other listed
      rw [listed, Except.ok.inj looked]
    · cases looked
  obtain ⟨member, itemId⟩ := mem_of_dictGet stored
  by_cases waiting : item.status = .ready ∨ item.status = .unavailable
  · rw [if_pos waiting] at h
    obtain ⟨_, newer, h⟩ := bind_eq_ok.mp h
    have revision : landed.revision ≤ raw.revision := ensure_eq_ok.mp newer
    have notStarted : ∀ other ∈ existing.instances, other.instanceId = landed.instanceId →
        other.status.awaitsStart = false → card = landed := by
      intro other otherMember otherId started
      obtain rfl := List.inj_on_of_nodup_map distinct otherMember member
        (otherId.trans itemId.symm)
      rcases waiting with ready | unavailable
      · rw [ready] at started
        cases started
      · rw [unavailable] at started
        cases started
    by_cases same : raw.revision = landed.revision
    · rw [if_pos same] at h
      obtain rfl := Except.ok.inj h
      exact ⟨rfl, rfl, le_refl _, fun _ _ _ _ => rfl⟩
    · rw [if_neg same] at h
      obtain rfl := Except.ok.inj h
      exact ⟨rawId, ensure_eq_ok.mp sameInstance, revision, notStarted⟩
  · rw [if_neg waiting] at h
    obtain rfl := Except.ok.inj h
    exact ⟨rfl, rfl, le_refl _, fun _ _ _ _ => rfl⟩

theorem normalizeMerge_merged
    (h : normalizeMerge task existing planRevision payload now = .ok merged) :
    Merged existing merged := by
  simp only [normalizeMerge, bind_eq_ok, pure_eq_ok, validatePlan_eq_ok, Except.ok.injEq] at h
  obtain ⟨-, -, -, -, -, -, -, -, -, -, cards, ran, -, valid, rfl⟩ := h
  refine ⟨rfl, rfl, ?_, valid⟩
  exact (mapM_eq_ok.mp ran).imp fun landed card => mergeCard_merged valid.instanceIdsDistinct

end

end DesignHarness
