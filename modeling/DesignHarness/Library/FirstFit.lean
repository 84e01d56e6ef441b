import Mathlib.Data.List.FinRange
import Mathlib.Data.List.Perm.Subperm

/-!
# First fit

`firstFit` serves a list of requests one after another, each with the first offer that is left and
fits it.  `Assignable` says that all requests can be served at once, and `CrowdedOut` that the
offers of one request can all go to other ones.  First fit serves every order of an assignable list
exactly when no request can be crowded out (`firstFit_orderless`).
-/

namespace DesignHarness.Library

universe u v

variable {α : Type u} {β : Type v}

/-- The first offer that fits goes to the request, and is gone for the later ones. -/
def firstFit (fits : α → β → Bool) : List α → List β → Option (List β)
  | [], _ => some []
  | request :: requests, offers =>
      match offers.find? (fits request) with
      | none => none
      | some offer =>
          (firstFit fits requests (offers.eraseP (fits request))).map (offer :: ·)

/-- Every request has an offer of its own that fits it. -/
def Assignable (fits : α → β → Bool) (requests : List α) (offers : List β) : Prop :=
  ∃ assign : Fin requests.length → Fin offers.length, Function.Injective assign ∧
    ∀ i, fits requests[i] offers[assign i] = true

/-- The offers that fit some request can all be given to other requests. -/
def CrowdedOut (fits : α → β → Bool) (requests : List α) (offers : List β) : Prop :=
  ∃ request others, requests.Perm (request :: others) ∧
    Assignable (fun offer other => fits other offer) (offers.filter (fits request)) others

variable {fits : α → β → Bool} {requests others : List α} {offers chosen : List β} {request : α}

/-- An assignment lists the offers that it gives. -/
theorem assignable_iff : Assignable fits requests offers ↔
    ∃ chosen, List.Forall₂ (fun request offer => fits request offer = true) requests chosen ∧
      chosen.Subperm offers := by
  constructor
  · rintro ⟨assign, injective, fit⟩
    refine ⟨(List.ofFn assign).map offers.get, ?_, ?_⟩
    · rw [List.forall₂_iff_get]
      refine ⟨by simp, fun i first second => ?_⟩
      simpa using fit ⟨i, first⟩
    · have distinct : (List.ofFn assign).Nodup := List.nodup_ofFn.mpr injective
      have among : (List.ofFn assign).Subperm (List.finRange offers.length) :=
        distinct.subperm fun i _ => List.mem_finRange i
      obtain ⟨listed, same, within⟩ := among
      refine ⟨listed.map offers.get, same.map offers.get, ?_⟩
      have given : (listed.map offers.get).Sublist ((List.finRange offers.length).map offers.get) :=
        within.map offers.get
      rwa [← List.ofFn_eq_map, List.ofFn_get] at given
  · classical
    rintro ⟨chosen, fit, among⟩
    obtain ⟨length, fit⟩ := List.forall₂_iff_get.mp fit
    refine ⟨fun i => among.idxInj ⟨i, length ▸ i.2⟩, fun i j same => ?_, fun i => ?_⟩
    · have equal := among.idxInj_injective same
      exact Fin.ext (Fin.mk.inj equal)
    · have served := fit i i.2 (length ▸ i.2)
      have found : offers[(among.idxInj ⟨i, length ▸ i.2⟩ : Nat)] = chosen.get ⟨i, length ▸ i.2⟩ :=
        among.getElem_idxInj_eq_getElem
      simpa [found] using served

theorem Assignable.perm {requests' : List α} {offers' : List β}
    (assignable : Assignable fits requests offers) (requestsPerm : requests.Perm requests')
    (offersPerm : offers.Perm offers') : Assignable fits requests' offers' := by
  rw [assignable_iff] at assignable ⊢
  obtain ⟨chosen, fit, among⟩ := assignable
  obtain ⟨chosen', fit', same⟩ := List.perm_comp_forall₂ requestsPerm.symm fit
  exact ⟨chosen', fit', (same.subperm.trans among).trans offersPerm.subperm⟩

theorem perm_cons_eraseP {offer : β} (found : offers.find? (fits request) = some offer) :
    (offer :: offers.eraseP (fits request)).Perm offers := by
  induction offers with
  | nil => cases found
  | cons first rest ih =>
      by_cases fit : fits request first = true
      · rw [List.find?_cons_of_pos fit] at found
        obtain rfl := Option.some.inj found
        rw [List.eraseP_cons_of_pos fit]
      · rw [List.find?_cons_of_neg fit] at found
        rw [List.eraseP_cons_of_neg fit]
        exact (List.Perm.swap _ _ _).trans ((ih found).cons first)

/-- What first fit returns is an assignment. -/
theorem firstFit_sound (served : firstFit fits requests offers = some chosen) :
    List.Forall₂ (fun request offer => fits request offer = true) requests chosen ∧
      chosen.Subperm offers := by
  induction requests generalizing offers chosen with
  | nil =>
      obtain rfl := Option.some.inj served
      exact ⟨.nil, List.nil_subperm⟩
  | cons request requests ih =>
      unfold firstFit at served
      cases found : offers.find? (fits request) with
      | none =>
          rw [found] at served
          cases served
      | some offer =>
          rw [found] at served
          obtain ⟨later, rest, rfl⟩ := Option.map_eq_some_iff.mp served
          obtain ⟨fit, among⟩ := ih rest
          refine ⟨.cons (by simpa using List.find?_some found) fit, ?_⟩
          exact ((List.subperm_cons offer).mpr among).trans (perm_cons_eraseP found).subperm

theorem assignable_of_firstFit (served : (firstFit fits requests offers).isSome = true) :
    Assignable fits requests offers := by
  obtain ⟨chosen, served⟩ := Option.isSome_iff_exists.mp served
  exact assignable_iff.mpr ⟨chosen, firstFit_sound served⟩

/-- Where first fit gives up, the earlier requests have taken every offer of one request. -/
theorem exists_of_firstFit_none (failed : firstFit fits requests offers = none) :
    ∃ earlier request later chosen left, requests = earlier ++ request :: later ∧
      List.Forall₂ (fun request offer => fits request offer = true) earlier chosen ∧
      (chosen ++ left).Perm offers ∧ ∀ offer ∈ left, fits request offer = false := by
  induction requests generalizing offers with
  | nil => cases failed
  | cons request requests ih =>
      unfold firstFit at failed
      cases found : offers.find? (fits request) with
      | none =>
          refine ⟨[], request, requests, [], offers, rfl, .nil, .rfl, fun offer member => ?_⟩
          simpa using List.find?_eq_none.mp found offer member
      | some offer =>
          rw [found, Option.map_eq_none_iff] at failed
          obtain ⟨earlier, refused, later, chosen, left, rfl, fit, parts, none⟩ := ih failed
          refine ⟨request :: earlier, refused, later, offer :: chosen, left, rfl,
            .cons (by simpa using List.find?_some found) fit, ?_, none⟩
          exact (parts.cons offer).trans (perm_cons_eraseP found)

/-- A list of offers, each of which fits the request at its place, is given out in its order. -/
theorem firstFit_append {later : List α} {left : List β}
    (fit : List.Forall₂ (fun offer request => fits request offer = true) offers requests) :
    firstFit fits (requests ++ later) (offers ++ left) =
      (firstFit fits later left).map (offers ++ ·) := by
  induction fit with
  | nil => simp
  | cons first rest ih =>
      simp only [List.cons_append, firstFit, List.find?_cons_of_pos first,
        List.eraseP_cons_of_pos first, ih, Option.map_map]
      rfl

/-! ## First fit in every order -/

/-- First fit serves an assignable list whose requests cannot be crowded out. -/
theorem isSome_firstFit (roomy : ¬ CrowdedOut fits requests offers) :
    (firstFit fits requests offers).isSome = true := by
  by_contra failed
  have failed : firstFit fits requests offers = none := by simpa using failed
  obtain ⟨earlier, request, later, chosen, left, rfl, fit, parts, none⟩ :=
    exists_of_firstFit_none failed
  refine roomy ⟨request, earlier ++ later, List.perm_middle, ?_⟩
  -- What is left has nothing for the request, so the earlier requests hold all its offers.
  have taken : (chosen.filter (fits request)).Perm (offers.filter (fits request)) := by
    have nothing : left.filter (fits request) = [] := by
      rw [List.filter_eq_nil_iff]
      intro offer member
      rw [none offer member]
      decide
    have parts := parts.filter (fits request)
    rwa [List.filter_append, nothing, List.append_nil] at parts
  have back : Assignable (fun offer other => fits other offer) chosen (earlier ++ later) :=
    assignable_iff.mpr ⟨earlier, fit.flip, (List.sublist_append_left earlier later).subperm⟩
  obtain ⟨holders, held, among⟩ := assignable_iff.mp back
  obtain ⟨kept, heldKept, keptAmong⟩ : ∃ kept,
      List.Forall₂ (fun offer other => fits other offer = true) (chosen.filter (fits request))
        kept ∧ kept.Sublist holders := by
    clear back among taken fit parts none failed
    induction held with
    | nil => exact ⟨[], .nil, List.Sublist.refl _⟩
    | @cons offer holder offers holders first rest ih =>
        obtain ⟨kept, fit, among⟩ := ih
        by_cases wanted : fits request offer = true
        · exact ⟨holder :: kept, by rw [List.filter_cons_of_pos wanted]; exact .cons first fit,
            among.cons_cons holder⟩
        · exact ⟨kept, by rw [List.filter_cons_of_neg wanted]; exact fit, among.cons holder⟩
  have assigned : Assignable (fun offer other => fits other offer)
      (chosen.filter (fits request)) (earlier ++ later) :=
    assignable_iff.mpr ⟨kept, heldKept, keptAmong.subperm.trans among⟩
  exact assigned.perm taken .rfl

/-- A request that can be crowded out is, in some order. -/
theorem exists_perm_of_crowdedOut (crowded : CrowdedOut fits requests offers) :
    ∃ requests' offers', requests'.Perm requests ∧ offers'.Perm offers ∧
      firstFit fits requests' offers' = none := by
  obtain ⟨request, others, split, assigned⟩ := crowded
  obtain ⟨holders, held, among⟩ := assignable_iff.mp assigned
  obtain ⟨rest, parts⟩ : ∃ rest, (holders ++ rest).Perm others := by
    obtain ⟨listed, same, within⟩ := among
    obtain ⟨rest, parts⟩ := within.exists_perm_append
    exact ⟨rest, (same.symm.append_right rest).trans parts.symm⟩
  refine ⟨holders ++ request :: rest,
    offers.filter (fits request) ++ offers.filter fun offer => !fits request offer,
    (List.perm_middle.trans (parts.cons request)).trans split.symm,
    List.filter_append_perm _ _, ?_⟩
  rw [firstFit_append held]
  have nothing : (offers.filter fun offer => !fits request offer).find? (fits request) = none := by
    rw [List.find?_eq_none]
    intro offer member
    simpa using (List.mem_filter.mp member).2
  simp [firstFit, nothing]

/-- First fit decides every order of the requests and offers exactly when there is no assignment or
    no request can be crowded out. -/
theorem firstFit_orderless :
    (∀ requests' offers', requests'.Perm requests → offers'.Perm offers →
      ((firstFit fits requests' offers').isSome = true ↔ Assignable fits requests' offers')) ↔
    (Assignable fits requests offers → ¬ CrowdedOut fits requests offers) := by
  constructor
  · intro decides assignable crowded
    obtain ⟨requests', offers', requestsPerm, offersPerm, failed⟩ :=
      exists_perm_of_crowdedOut crowded
    have served := (decides requests' offers' requestsPerm offersPerm).mpr
      (assignable.perm requestsPerm.symm offersPerm.symm)
    rw [failed] at served
    cases served
  · intro roomy requests' offers' requestsPerm offersPerm
    refine ⟨assignable_of_firstFit, fun assignable => isSome_firstFit ?_⟩
    rintro ⟨request, others, split, assigned⟩
    refine roomy (assignable.perm requestsPerm offersPerm)
      ⟨request, others, requestsPerm.symm.trans split, ?_⟩
    exact assigned.perm (offersPerm.filter _) .rfl

end DesignHarness.Library
