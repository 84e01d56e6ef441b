import DesignHarness.Domain.PlanProposals

/-!
# What `validate_plan_proposal` accepts

`ProposalValid` has one field for each check of a proposal (`validatePlanProposal_eq_ok`).  The
visit of the dependencies is left as it is; `checkCycles_of_rank` says that it passes when every
item has a higher rank than what it depends on.
-/

namespace DesignHarness

open Library

/-! ## The loops -/

theorem checkProposalStage_eq_ok {stages : List ProposalStage} {stage : ProposalStage} {u : Unit} :
    checkProposalStage stages stage = .ok u ↔
      (∀ key ∈ stage.dependsOn,
        key ∈ (stages.map ProposalStage.stageId).take (stage.position - 1)) ∧
      ∀ key ∈ stage.dependsOn, ∃ dependency,
        dictGet ProposalStage.stageId stages key = some dependency ∧
          dependency.type = .image ∧ stage.type = .ppt := by
  simp only [checkProposalStage, bind_eq_ok, ensure_eq_ok, checkEach_eq_ok, exists_const]
  refine and_congr_right fun _ => forall₂_congr fun key _ => ?_
  cases found : dictGet ProposalStage.stageId stages key <;> simp

/-- A work item that the loop over the items lets through. -/
structure ItemPlaced (taskId : Identifier) (stages : List ProposalStage) (items : List WorkItem)
    (item : WorkItem) : Prop where
  inTask : item.taskId = taskId
  inStage : ∃ stage, dictGet ProposalStage.stageId stages item.stageId = some stage ∧
    item.agentType = stage.type
  current : ∃ current, item.currentInstanceId = some current ∧
    (∀ key ∈ item.instanceIds, key = current) ∧ current ∈ item.instanceIds
  independent : item.workItemId ∉ item.dependsOn
  dependenciesExist : ∀ key ∈ item.dependsOn, key ∈ items.map WorkItem.workItemId

theorem checkWorkItem_eq_ok {taskId : Identifier} {stages : List ProposalStage}
    {items : List WorkItem} {item : WorkItem} {u : Unit} :
    checkWorkItem taskId stages items item = .ok u ↔ ItemPlaced taskId stages items item := by
  simp only [checkWorkItem, bind_eq_ok, ensure_eq_ok, exists_const]
  constructor
  · rintro ⟨inTask, h⟩
    cases found : dictGet ProposalStage.stageId stages item.stageId with
    | none => simp [found] at h
    | some stage =>
        simp only [found, bind_eq_ok, ensure_eq_ok, exists_const] at h
        obtain ⟨typed, h⟩ := h
        cases current : item.currentInstanceId with
        | none => simp [current] at h
        | some current' =>
            simp only [current, bind_eq_ok, ensure_eq_ok, exists_const] at h
            obtain ⟨only, independent, exist⟩ := h
            exact ⟨inTask, ⟨stage, found, typed⟩, ⟨current', current, only⟩, independent, exist⟩
  · rintro ⟨inTask, ⟨stage, found, typed⟩, ⟨current, known, only⟩, independent, exist⟩
    refine ⟨inTask, ?_⟩
    simp only [found, known, bind_eq_ok, ensure_eq_ok, exists_const]
    exact ⟨typed, only, independent, exist⟩

/-- The one card of a work item. -/
structure ItemCard (taskId : Identifier) (cards : List ExecutionCard) (item : WorkItem)
    (card : ExecutionCard) : Prop where
  listed : item.taskCardIds = [card.cardId]
  found : dictGet ExecutionCard.cardId cards card.cardId = some card
  inTask : card.taskId = taskId
  stageId : card.stageId = item.stageId
  agentType : card.agentType = item.agentType
  instanceId : some card.instanceId = item.currentInstanceId

theorem checkItemCards_eq_ok {taskId : Identifier} {cards : List ExecutionCard} {u : Unit}
    {seen : List Identifier} {items : List WorkItem} :
    checkItemCards taskId cards seen items = .ok u ↔
      (∀ item ∈ items, ∃ card, ItemCard taskId cards item card) ∧
      (items.map WorkItem.currentInstanceId).Nodup ∧
      ∀ item ∈ items, ∀ key ∈ seen, item.currentInstanceId ≠ some key := by
  induction items generalizing seen with
  | nil => simp [checkItemCards]
  | cons item rest ih =>
      simp only [List.map_cons, List.nodup_cons, List.forall_mem_cons]
      constructor
      · intro h
        unfold checkItemCards at h
        split at h
        · rename_i cardId listed
          split at h
          · cases h
          · rename_i card found
            simp only [bind_eq_ok, ensure_eq_ok, exists_const, ih] at h
            obtain ⟨⟨inTask, stageId, agentType, instanceId⟩, unseen, carded, distinct, later⟩ := h
            obtain rfl := (mem_of_dictGet found).2
            refine ⟨⟨⟨card, listed, found, inTask, stageId, agentType, instanceId⟩, carded⟩,
              ⟨?_, distinct⟩, ?_, ?_⟩
            · intro member
              obtain ⟨other, otherMember, same⟩ := List.mem_map.mp member
              exact later other otherMember card.instanceId List.mem_cons_self
                (same.trans instanceId.symm)
            · intro key seen' same
              rw [← instanceId, Option.some.injEq] at same
              exact unseen (same ▸ seen')
            · exact fun other member key seen' => later other member key (List.mem_cons_of_mem _ seen')
        · cases h
      · rintro ⟨⟨⟨card, listed, found, inTask, stageId, agentType, instanceId⟩, carded⟩,
          ⟨notLater, distinct⟩, unseen, restUnseen⟩
        unfold checkItemCards
        simp only [listed, found, bind_eq_ok, ensure_eq_ok, exists_const, ih]
        refine ⟨⟨inTask, stageId, agentType, instanceId⟩, ?_, carded, distinct, ?_⟩
        · exact fun seen' => unseen card.instanceId seen' instanceId.symm
        · intro other member key known same
          rcases List.mem_cons.mp known with rfl | known
          · exact notLater (List.mem_map.mpr ⟨other, member, same.trans instanceId⟩)
          · exact restUnseen other member key known same

section

variable {items : List WorkItem} {rank : Identifier → Nat}

/-- Every dependency is an item of lower rank. -/
def Ranked (items : List WorkItem) (rank : Identifier → Nat) : Prop :=
  ∀ item ∈ items, ∀ key ∈ item.dependsOn,
    key ∈ items.map WorkItem.workItemId ∧ rank key < rank item.workItemId

/-- A visit passes while the fuel exceeds the rank of its item and what is being visited is of
    higher rank. -/
theorem visitItem_of_rank (ranked : Ranked items rank) {fuel : Nat} :
    ∀ (visiting visited : List Identifier) {itemId : Identifier},
      itemId ∈ items.map WorkItem.workItemId → rank itemId < fuel →
      (∀ key ∈ visiting, rank itemId < rank key) →
      ∃ later, visitItem items fuel visiting visited itemId = .ok later := by
  induction fuel with
  | zero =>
      intro visiting visited itemId known bound
      omega
  | succ fuel ih =>
      intro visiting visited itemId known bound above
      have unvisiting : itemId ∉ visiting := fun inside => absurd (above itemId inside) (by omega)
      by_cases seen : itemId ∈ visited
      · exact ⟨visited, by rw [visitItem, if_neg unvisiting, if_pos seen]⟩
      · obtain ⟨item, found⟩ := Option.isSome_iff_exists.mp (dictGet_isSome_iff.mpr known)
        obtain ⟨member, rfl⟩ := mem_of_dictGet found
        -- The dependencies are visited one after the other, each below the item.
        have loop : ∀ (keys : List Identifier) (visited : List Identifier),
            (∀ key ∈ keys, key ∈ item.dependsOn) →
            ∃ later, keys.foldlM (visitItem items fuel (item.workItemId :: visiting)) visited =
              .ok later := by
          intro keys
          induction keys with
          | nil => exact fun visited _ => ⟨visited, rfl⟩
          | cons key rest next =>
              intro visited inside
              obtain ⟨listed, lower⟩ := ranked item member key (inside key List.mem_cons_self)
              obtain ⟨between, visits⟩ := ih (item.workItemId :: visiting) visited listed
                (by omega) (by
                  intro other inPath
                  rcases List.mem_cons.mp inPath with rfl | inPath
                  · exact lower
                  · exact lower.trans (above other inPath))
              obtain ⟨later, visitsRest⟩ := next between fun other inRest =>
                inside other (List.mem_cons_of_mem _ inRest)
              exact ⟨later, by rw [List.foldlM_cons, visits, ok_bind, visitsRest]⟩
        obtain ⟨later, visits⟩ := loop item.dependsOn visited fun key inside => inside
        refine ⟨item.workItemId :: later, ?_⟩
        rw [visitItem, if_neg unvisiting, if_neg seen, found]
        simp only [visits, ok_bind, pure_eq_ok]

/-- Ranked items have no cycle. -/
theorem checkCycles_of_rank (rank : Identifier → Nat) (ranked : Ranked items rank)
    (bounded : ∀ key ∈ items.map WorkItem.workItemId, rank key ≤ items.length) :
    checkCycles items = .ok () := by
  have loop : ∀ (keys visited : List Identifier),
      (∀ key ∈ keys, key ∈ items.map WorkItem.workItemId) →
      ∃ later, keys.foldlM (visitItem items (items.length + 1) []) visited = .ok later := by
    intro keys
    induction keys with
    | nil => exact fun visited _ => ⟨visited, rfl⟩
    | cons key rest next =>
        intro visited inside
        have known := inside key List.mem_cons_self
        have bound := bounded key known
        obtain ⟨between, visits⟩ := visitItem_of_rank ranked [] visited known
          (show rank key < items.length + 1 by omega) (by simp)
        obtain ⟨later, visitsRest⟩ := next between fun other inRest =>
          inside other (List.mem_cons_of_mem _ inRest)
        exact ⟨later, by rw [List.foldlM_cons, visits, ok_bind, visitsRest]⟩
  obtain ⟨later, visits⟩ := loop (items.map WorkItem.workItemId) [] fun key inside => inside
  rw [checkCycles, visits, ok_bind, pure_eq_ok]

end

/-- The proposals that `validate_plan_proposal` accepts, one field for each of its checks. -/
structure ProposalValid (credentialSafe : String → Bool) (proposal : PlanProposal)
    (taskId : Identifier) (expectedRevision : Nat) : Prop where
  accepted : proposal.accepted credentialSafe = true
  inTask : proposal.taskId = taskId
  nextRevision : proposal.revision = expectedRevision
  pending : proposal.status = .pendingConfirmation ∧ proposal.confirmedAt = none
  stageIdsDistinct : ((sortedStages proposal.stages).map ProposalStage.stageId).Nodup
  positions : (sortedStages proposal.stages).map ProposalStage.position =
    List.range' 1 (sortedStages proposal.stages).length
  dependenciesEarlier : ∀ stage ∈ sortedStages proposal.stages, ∀ key ∈ stage.dependsOn,
    key ∈ ((sortedStages proposal.stages).map ProposalStage.stageId).take (stage.position - 1)
  dependenciesImageToPpt : ∀ stage ∈ sortedStages proposal.stages, ∀ key ∈ stage.dependsOn,
    ∃ dependency, dictGet ProposalStage.stageId (sortedStages proposal.stages) key =
      some dependency ∧ dependency.type = .image ∧ stage.type = .ppt
  itemIdsDistinct : (proposal.workItems.map WorkItem.workItemId).Nodup
  itemsPlaced : ∀ item ∈ proposal.workItems,
    ItemPlaced taskId (sortedStages proposal.stages) proposal.workItems item
  acyclic : checkCycles proposal.workItems = .ok ()
  cardIdsDistinct : (proposal.executionCards.map ExecutionCard.cardId).Nodup
  referencedDistinct : (proposal.workItems.flatMap WorkItem.taskCardIds).Nodup
  referencedExist : ∀ key ∈ proposal.workItems.flatMap WorkItem.taskCardIds,
    key ∈ proposal.executionCards.map ExecutionCard.cardId
  cardsReferenced : ∀ key ∈ proposal.executionCards.map ExecutionCard.cardId,
    key ∈ proposal.workItems.flatMap WorkItem.taskCardIds
  itemsCarded : ∀ item ∈ proposal.workItems, ∃ card,
    ItemCard taskId proposal.executionCards item card
  currentDistinct : (proposal.workItems.map WorkItem.currentInstanceId).Nodup

theorem validatePlanProposal_eq_ok {credentialSafe : String → Bool} {proposal : PlanProposal}
    {taskId : Identifier} {expectedRevision : Nat} {u : Unit} :
    validatePlanProposal credentialSafe proposal taskId expectedRevision = .ok u ↔
      ProposalValid credentialSafe proposal taskId expectedRevision := by
  simp only [validatePlanProposal, bind_eq_ok, ensure_eq_ok, validateContract_eq_ok,
    checkEach_eq_ok, checkProposalStage_eq_ok, checkWorkItem_eq_ok, checkItemCards_eq_ok,
    exists_const]
  constructor
  · rintro ⟨accepted, inTask, next, pending, ⟨stageIds, positions⟩, stages, itemIds, placed,
      ⟨⟩, acyclic, cardIds, ⟨distinct, exist, referenced⟩, carded, current, -⟩
    exact ⟨accepted, inTask, next, pending, stageIds, positions,
      fun stage member => (stages stage member).1, fun stage member => (stages stage member).2,
      itemIds, placed, acyclic, cardIds, distinct, exist, referenced, carded, current⟩
  · intro valid
    exact ⟨valid.accepted, valid.inTask, valid.nextRevision, valid.pending,
      ⟨valid.stageIdsDistinct, valid.positions⟩,
      fun stage member => ⟨valid.dependenciesEarlier stage member,
        valid.dependenciesImageToPpt stage member⟩,
      valid.itemIdsDistinct, valid.itemsPlaced, (), valid.acyclic, valid.cardIdsDistinct,
      ⟨valid.referencedDistinct, valid.referencedExist, valid.cardsReferenced⟩,
      valid.itemsCarded, valid.currentDistinct, by simp⟩

end DesignHarness
