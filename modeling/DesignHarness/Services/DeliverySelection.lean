import DesignHarness.Contracts.Records
import DesignHarness.Library.FirstFit

/-!
# The deliveries that a task card requires

`_required_delivery_selection` (`application_delivery.py:1721-1747`) decides whether an instance has
delivered what its card asks for: it gives every required expectation the first candidate that is
left and matches it.  Two expectations that accept overlapping mime types can compete, so the answer
depends on the order of both lists.
-/

namespace DesignHarness

open Library

/-- What the selection reads of the manifest of a candidate. -/
structure DeliveryCandidate where
  assetId : Identifier
  kind : DeliveryKind
  role : String
  mimeType : String
  deriving DecidableEq, Repr

/-- `_delivery_matches` (`application_delivery.py:1773-1779`). -/
def deliveryMatches (candidate : DeliveryCandidate) (expected : ExpectedDelivery) : Bool :=
  candidate.role = expected.role && candidate.kind = expected.kind &&
    expected.acceptedMimeTypes.contains candidate.mimeType

/-- The loop of `_required_delivery_selection` over the `expected_deliveries` of a card, with the
    candidates that remain. -/
def requiredDeliverySelection :
    List ExpectedDelivery → List DeliveryCandidate → Option (List DeliveryCandidate)
  | [], _ => some []
  | expected :: rest, remaining =>
      if expected.required = false then
        requiredDeliverySelection rest remaining
      else
        match remaining.find? (deliveryMatches · expected) with
        | none => none
        | some candidate =>
            (requiredDeliverySelection rest (remaining.eraseP (deliveryMatches · expected))).map
              (candidate :: ·)

/-! ## When a card is satisfied -/

section

variable (card : List ExpectedDelivery) (candidates : List DeliveryCandidate)

/-- The required expectations of a card. -/
def requiredDeliveries : List ExpectedDelivery := card.filter (·.required)

/-- Every required expectation has a candidate of its own that matches it. -/
def DeliverySatisfiable : Prop :=
  Assignable (fun expected candidate => deliveryMatches candidate expected)
    (requiredDeliveries card) candidates

/-- The candidates of some required expectation can all be taken by other required ones. -/
def DeliveryContended : Prop :=
  CrowdedOut (fun expected candidate => deliveryMatches candidate expected)
    (requiredDeliveries card) candidates

/-- The selection answers whether the card can be satisfied, in whatever order the expectations and
    the candidates come. -/
def SelectionDecides : Prop :=
  ∀ card' candidates', card'.Perm card → candidates'.Perm candidates →
    ((requiredDeliverySelection card' candidates').isSome = true ↔
      DeliverySatisfiable card' candidates')

end

variable {card : List ExpectedDelivery} {candidates : List DeliveryCandidate}

/-- The selection is first fit over the required expectations. -/
theorem requiredDeliverySelection_eq :
    requiredDeliverySelection card candidates =
      firstFit (fun expected candidate => deliveryMatches candidate expected)
        (requiredDeliveries card) candidates := by
  unfold requiredDeliveries
  induction card generalizing candidates with
  | nil => rfl
  | cons expected rest ih =>
      unfold requiredDeliverySelection
      by_cases needed : expected.required = true
      · rw [if_neg (by simp [needed]), List.filter_cons_of_pos needed, firstFit]
        simp only [ih]
        cases candidates.find? (deliveryMatches · expected) <;> rfl
      · rw [if_pos (by simpa using needed), List.filter_cons_of_neg needed, ih]

/-- What is returned is one candidate for each required expectation, in their order. -/
theorem requiredDeliverySelection_sound {selected : List DeliveryCandidate}
    (returned : requiredDeliverySelection card candidates = some selected) :
    List.Forall₂ (fun expected candidate => deliveryMatches candidate expected = true)
      (requiredDeliveries card) selected ∧ selected.Subperm candidates := by
  rw [requiredDeliverySelection_eq] at returned
  exact firstFit_sound returned

/-- An order of the required expectations is that of some order of the card. -/
theorem exists_card_of_perm {required : List ExpectedDelivery}
    (order : required.Perm (requiredDeliveries card)) :
    ∃ card', card'.Perm card ∧ requiredDeliveries card' = required := by
  refine ⟨required ++ card.filter fun expected => !expected.required, ?_, ?_⟩
  · exact (order.append_right _).trans (List.filter_append_perm _ card)
  · have needed : required.filter (·.required) = required := by
      rw [List.filter_eq_self]
      intro expected member
      exact (List.mem_filter.mp (order.subset member)).2
    have optional : (card.filter fun expected => !expected.required).filter (·.required) = [] := by
      rw [List.filter_eq_nil_iff]
      intro expected member
      simpa using (List.mem_filter.mp member).2
    rw [requiredDeliveries, List.filter_append, needed, optional, List.append_nil]

/-- The selection decides a card and its candidates in every order exactly when the card cannot be
    satisfied, or when none of its required expectations is contended. -/
theorem selectionDecides_iff (card : List ExpectedDelivery) (candidates : List DeliveryCandidate) :
    SelectionDecides card candidates ↔
      (DeliverySatisfiable card candidates → ¬ DeliveryContended card candidates) := by
  unfold DeliverySatisfiable DeliveryContended
  rw [← firstFit_orderless]
  constructor
  · intro decides required candidates' order candidatesOrder
    obtain ⟨card', cardOrder, rfl⟩ := exists_card_of_perm order
    have answer := decides card' candidates' cardOrder candidatesOrder
    rwa [requiredDeliverySelection_eq] at answer
  · intro decides card' candidates' cardOrder candidatesOrder
    rw [requiredDeliverySelection_eq]
    exact decides (requiredDeliveries card') candidates' (cardOrder.filter _) candidatesOrder

/-- A card that asks for a cover in any format and for a cover as PNG. -/
def contendedCard : List ExpectedDelivery :=
  [⟨.image, "cover", true, ["image/png", "image/jpeg"]⟩, ⟨.image, "cover", true, ["image/png"]⟩]

/-- A PNG and a JPEG cover. -/
def coverCandidates : List DeliveryCandidate :=
  [⟨"asset_1", .image, "cover", "image/png"⟩, ⟨"asset_2", .image, "cover", "image/jpeg"⟩]

/-- The first expectation takes the PNG, and the second one finds none; in the other order of the
    card both are served. -/
theorem requiredDeliverySelection_misses :
    requiredDeliverySelection contendedCard coverCandidates = none ∧
      DeliverySatisfiable contendedCard coverCandidates ∧
      requiredDeliverySelection contendedCard.reverse coverCandidates = some coverCandidates ∧
      ¬ SelectionDecides contendedCard coverCandidates := by
  have missed : requiredDeliverySelection contendedCard coverCandidates = none := by decide
  have satisfiable : DeliverySatisfiable contendedCard coverCandidates :=
    ⟨Fin.rev, Fin.rev_injective, by decide⟩
  refine ⟨missed, satisfiable, by decide, fun decides => ?_⟩
  have served := (decides contendedCard coverCandidates .rfl .rfl).mpr satisfiable
  rw [missed] at served
  cases served

end DesignHarness
