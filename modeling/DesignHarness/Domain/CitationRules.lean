import DesignHarness.Domain.Citations
import Mathlib.Data.List.Dedup

/-!
# What the citation pattern finds

The backtracking of `_SOURCE_CITATION` never shortens a number or an id, so the pattern finds exactly
the readable references, from left to right.  A card's other references are checked only as far as a
citation that is read implies them.
-/

namespace DesignHarness

open Library Library.Regex

/-! ## Matches at a place -/

theorem results_notAhead {accepts more : Char → Bool} (includes : ∀ c, more c = true → accepts c = true)
    (place : Place) (goes : place.rest.head?.any more = true) :
    (notAhead accepts).results place = [] := by
  have refused : place.rest.head?.any accepts = true := by
    cases held : place.rest.head? with
    | none =>
        rw [held] at goes
        cases goes
    | some c =>
        rw [held] at goes
        exact includes c goes
  rw [results, if_pos refused]

theorem isCitationChar_of_identifier (c : Char) (inside : isIdentifierChar c = true) :
    isCitationChar c = true := by
  simp [isCitationChar, inside]

theorem isCitationChar_of_digit (c : Char) (digit : c.isDigit = true) :
    isCitationChar c = true := by
  simp [isCitationChar, isIdentifierChar, Char.isAlphanum, digit]

theorem advance_word {place : Place} {first more : Char → Bool} {most : Option Nat}
    {found : List Char × List Char} (word : wordAt first more most place.rest = some found) :
    (place.advance found.1.length).rest = found.2 := by
  change place.rest.drop found.1.length = found.2
  rw [wordAt_append word, List.drop_left]

/-- Behind an asset id and a slash, the pattern finds the page or the block with its longest name. -/
theorem results_word_ahead (text : List Char) {name : String} {first more : Char → Bool}
    {most : Option Nat} (includes : ∀ c, more c = true → isCitationChar c = true) (place : Place) :
    ((seq (seq (literal text) (word name first more most)) (notAhead isCitationChar)).results
        place).map (fun found => (found.1.rest, found.2)) =
      if text.isPrefixOf place.rest then
        ((wordAt first more most (place.rest.drop text.length)).filter fun found =>
          !found.2.head?.any isCitationChar).toList.map fun found => (found.2, [(name, found.1)])
      else [] := by
  rw [results_seq_assoc, results_literal_seq]
  split
  next =>
    rw [results_word_seq (results_notAhead includes)]
    have passed : (place.advance text.length).rest = place.rest.drop text.length := rfl
    rw [passed]
    cases held : wordAt first more most (place.rest.drop text.length) with
    | none => rfl
    | some found =>
        have behind : ((place.advance text.length).advance found.1.length).rest = found.2 :=
          advance_word held
        rw [Option.elim_some, results, behind]
        by_cases goes : found.2.head?.any isCitationChar = true
        · simp [goes, Option.filter]
        · simp [goes, Option.filter, behind]
  next => rfl

/-- A number that does not begin with a zero. -/
theorem wordAt_pageStart (text : List Char) :
    wordAt isPageStart Char.isDigit none text =
      (wordAt Char.isDigit Char.isDigit none text).filter fun found =>
        found.1.head?.any isPageStart := by
  cases text with
  | nil => rfl
  | cons c rest =>
      by_cases digit : c.isDigit = true
      · by_cases starts : isPageStart c = true
        · simp [wordAt, digit, starts, Option.filter]
        · simp [wordAt, digit, starts, Option.filter]
      · have other : isPageStart c = false := by simp [isPageStart, digit]
        simp [wordAt, digit, other, Option.filter]

/-- The pages and blocks that the pattern finds behind an asset id and a slash. -/
theorem results_source (place : Place) :
    ((seq (alt pagePattern blockPattern) (notAhead isCitationChar)).results place).map
        (fun found => (found.1.rest, found.2)) =
      (if ['p', 'a', 'g', 'e', '/'].isPrefixOf place.rest then
        ((wordAt isPageStart Char.isDigit none (place.rest.drop 5)).filter fun found =>
          !found.2.head?.any isCitationChar).toList.map fun found => (found.2, [("page", found.1)])
      else []) ++
      if ['b', 'l', 'o', 'c', 'k', '/'].isPrefixOf place.rest then
        ((wordAt Char.isAlpha isIdentifierChar (some 127) (place.rest.drop 6)).filter fun found =>
          !found.2.head?.any isCitationChar).toList.map fun found =>
            (found.2, [("block_id", found.1)])
      else [] := by
  rw [results_alt_seq, List.map_append, pagePattern, blockPattern, identifierWord,
    results_word_ahead _ isCitationChar_of_digit, results_word_ahead _ isCitationChar_of_identifier]
  rfl

theorem not_block_of_page {text : List Char} (page : ['p', 'a', 'g', 'e', '/'].isPrefixOf text = true) :
    ¬ ['b', 'l', 'o', 'c', 'k', '/'].isPrefixOf text = true := by
  cases text with
  | nil => cases page
  | cons c rest =>
      intro block
      simp only [List.isPrefixOf, Bool.and_eq_true, beq_iff_eq] at page block
      rw [← page.1] at block
      exact absurd block.1 (by decide)

theorem not_slash_of_identifier {place : Place} {second : Regex}
    (inside : place.rest.head?.any isIdentifierChar = true) :
    (seq (literal ['/']) second).results place = [] := by
  rw [results_literal_seq, if_neg]
  intro slash
  cases held : place.rest with
  | nil =>
      rw [held] at inside
      cases inside
  | cons c rest =>
      rw [held] at inside slash
      simp only [List.isPrefixOf, Bool.and_eq_true, beq_iff_eq] at slash
      have outside : isIdentifierChar '/' = false := by decide
      rw [← slash.1, List.head?_cons, Option.any_some, outside] at inside
      cases inside

theorem citationOf_page (assetId number after : List Char) :
    citationOf [("asset_id", assetId), ("page", number)] =
      Reference.citation ⟨assetId, true, number, after⟩ := rfl

theorem citationOf_block (assetId blockId after : List Char) :
    citationOf [("asset_id", assetId), ("block_id", blockId)] =
      Reference.citation ⟨assetId, false, blockId, after⟩ := rfl

/-- At a place the pattern finds the reference there, if it is readable. -/
theorem results_sourceCitation (place : Place) :
    (sourceCitation.results place).map (fun found => (found.1.rest, citationOf found.2)) =
      ((referenceAt place).filter (Reference.readable place.passed)).toList.map fun reference =>
        (reference.after, reference.citation) := by
  rw [sourceCitation, results_notBehind_seq]
  by_cases behind : place.passed.head?.any isCitationChar = true
  · rw [if_pos behind]
    cases referenceAt place with
    | none => rfl
    | some reference => simp [Option.filter, Reference.readable, behind]
  · have free : ¬ place.passed.head?.any isIdentifierChar = true := by
      intro inside
      apply behind
      cases held : place.passed.head? with
      | none =>
          rw [held] at inside
          cases inside
      | some c =>
          rw [held] at inside
          exact isCitationChar_of_identifier c inside
    rw [if_neg behind, identifierWord, results_word_seq fun place => not_slash_of_identifier,
      referenceAt, if_neg free]
    cases held : wordAt Char.isAlpha isIdentifierChar (some 127) place.rest with
    | none => rfl
    | some asset =>
        rw [Option.elim_some, Option.bind_some, results_literal_seq, advance_word held, sourceAt]
        by_cases slash : ['/'].isPrefixOf asset.2 = true
        · rw [if_pos slash, if_pos slash]
          have source := results_source ((place.advance asset.1.length).advance 1)
          have rest : ((place.advance asset.1.length).advance 1).rest = asset.2.drop 1 := by
            change (place.advance asset.1.length).rest.drop 1 = asset.2.drop 1
            rw [advance_word held]
          rw [rest] at source
          have named := congrArg (List.map fun found : List Char × Groups =>
            (found.1, citationOf (("asset_id", asset.1) :: found.2))) source
          rw [List.map_map] at named ⊢
          refine named.trans ?_
          by_cases page : ['p', 'a', 'g', 'e', '/'].isPrefixOf (asset.2.drop 1) = true
          · rw [if_pos page, if_pos page, if_neg (not_block_of_page page), List.append_nil,
              wordAt_pageStart]
            cases wordAt Char.isDigit Char.isDigit none ((asset.2.drop 1).drop 5) with
            | none => rfl
            | some number =>
                by_cases starts : number.1.head?.any isPageStart = true
                · by_cases ahead : number.2.head?.any isCitationChar = true
                  · simp [Option.filter, Reference.readable, starts, ahead]
                  · simp [Option.filter, Reference.readable, starts, ahead, behind,
                      citationOf_page _ _ number.2]
                · simp [Option.filter, Reference.readable, starts]
          · rw [if_neg page, if_neg page, List.nil_append]
            by_cases block : ['b', 'l', 'o', 'c', 'k', '/'].isPrefixOf (asset.2.drop 1) = true
            · rw [if_pos block, if_pos block]
              cases wordAt Char.isAlpha isIdentifierChar (some 127) ((asset.2.drop 1).drop 6) with
              | none => rfl
              | some name =>
                  by_cases ahead : name.2.head?.any isCitationChar = true
                  · simp [Option.filter, Reference.readable, ahead]
                  · simp [Option.filter, Reference.readable, ahead, behind,
                      citationOf_block _ _ name.2]
            · rw [if_neg block, if_neg block]
              rfl
        · rw [if_neg slash, if_neg slash]
          rfl

/-- The match that the pattern takes at a place. -/
theorem head_sourceCitation (place : Place) :
    ((sourceCitation.results place).head?).map (fun found => (found.1.rest, citationOf found.2)) =
      ((referenceAt place).filter (Reference.readable place.passed)).map fun reference =>
        (reference.after, reference.citation) := by
  rw [← List.head?_map, results_sourceCitation]
  cases (referenceAt place).filter (Reference.readable place.passed) with
  | none => rfl
  | some reference => rfl

/-- Scanning a text finds the readable references from left to right. -/
theorem matchesFrom_sourceCitation (skip : Nat) (passed text : List Char) :
    (sourceCitation.matchesFrom skip passed text).map citationOf =
      (readReferences skip passed text).map Reference.citation := by
  induction text generalizing skip passed with
  | nil =>
      rw [matchesFrom, readReferences]
      rfl
  | cons c rest ih =>
      cases skip with
      | succ skip =>
          rw [matchesFrom, readReferences]
          exact ih skip (c :: passed)
      | zero =>
          have head := head_sourceCitation ⟨passed, c :: rest⟩
          rw [matchesFrom, readReferences]
          cases held : (referenceAt ⟨passed, c :: rest⟩).filter (Reference.readable passed) with
          | none =>
              rw [held, Option.map_none, Option.map_eq_none_iff] at head
              rw [head]
              exact ih 0 (c :: passed)
          | some reference =>
              rw [held, Option.map_some] at head
              obtain ⟨⟨place, groups⟩, found, same⟩ := Option.map_eq_some_iff.mp head
              obtain ⟨behind, cited⟩ := Prod.mk.inj same
              rw [found]
              simp only [List.map_cons]
              rw [ih, cited, behind]

/-- The citations of a text are its readable references from left to right. -/
theorem citations_eq (text : List Char) :
    citations text = (readReferences 0 [] text).map Reference.citation :=
  matchesFrom_sourceCitation 0 [] text

/-- What the check of a citation asks of the index of its asset. -/
def AssetSourceIndex.Admits (index : AssetSourceIndex) : CitedSource → Prop
  | .page number => ∃ count, index.pageCount = some count ∧ number ≤ count
  | .block blockId => blockId ∈ index.blockIds

/-- The index has the page or the block. -/
def AssetSourceIndex.Has (index : AssetSourceIndex) : CitedSource → Prop
  | .page number => ∃ count, index.pageCount = some count ∧ 1 ≤ number ∧ number ≤ count
  | .block blockId => blockId ∈ index.blockIds

theorem checkCitation_eq_ok {index : AssetSourceIndex} {citation : Citation} :
    checkCitation index citation = .ok () ↔ index.Admits citation.source := by
  unfold checkCitation AssetSourceIndex.Admits
  cases citation.source with
  | page number =>
      rw [ensure_eq_ok]
      cases index.pageCount with
      | none => simp
      | some count => simp
  | block blockId => exact ensure_eq_ok

theorem checkAssetCitations_eq_ok {sourceIndexes : Identifier → Option AssetSourceIndex}
    {found : List Citation} {assetId : Identifier} :
    checkAssetCitations sourceIndexes found assetId = .ok () ↔
      (∃ citation ∈ found, citation.assetId = assetId) ∧
      ∃ index, sourceIndexes assetId = some index ∧
        ∀ citation ∈ found, citation.assetId = assetId → index.Admits citation.source := by
  unfold checkAssetCitations
  simp only [bind_eq_ok, ensure_eq_ok, exists_const]
  refine and_congr ?_ ?_
  · rw [Ne, List.filter_eq_nil_iff]
    simp
  · cases sourceIndexes assetId with
    | none => simp
    | some index =>
        rw [checkEach_eq_ok]
        simp only [checkCitation_eq_ok, Option.some.injEq, exists_eq_left', List.mem_filter,
          decide_eq_true_eq, and_imp]

/-- An accepted card: what is cited is declared, and what is declared is cited and there. -/
theorem checkCardCitations_eq_ok {sourceIndexes : Identifier → Option AssetSourceIndex}
    {card : ExecutionCard} : checkCardCitations sourceIndexes card = .ok () ↔
      (∀ citation ∈ citations (instructionText card.instructions),
        citation.assetId ∈ card.inputAssets.map AssetReference.assetId) ∧
      ∀ assetId ∈ card.inputAssets.map AssetReference.assetId,
        (∃ citation ∈ citations (instructionText card.instructions), citation.assetId = assetId) ∧
        ∃ index, sourceIndexes assetId = some index ∧
          ∀ citation ∈ citations (instructionText card.instructions),
            citation.assetId = assetId → index.Admits citation.source := by
  simp only [checkCardCitations, bind_eq_ok, checkEach_eq_ok, ensure_eq_ok, exists_const,
    checkAssetCitations_eq_ok, List.mem_dedup]

/-- The citations that are read in instructions. -/
def readCitations (instructions : List String) : List Citation :=
  (readReferences 0 [] (instructionText instructions)).map Reference.citation

/-- Every reference of a card is to a declared asset, and to a page or a block that it has. -/
def ReferencesExist (sourceIndexes : Identifier → Option AssetSourceIndex) (card : ExecutionCard) :
    Prop :=
  ∀ reference ∈ references [] (instructionText card.instructions),
    reference.citation.assetId ∈ card.inputAssets.map AssetReference.assetId ∧
    ∃ index, sourceIndexes reference.citation.assetId = some index ∧
      index.Has reference.citation.source

/-- The citations that are read imply a reference: the same card cites its asset, and some card its
    block, or a page of it that is not before the one referred to. -/
def Covered (texts : List (List String)) (instructions : List String) (citation : Citation) : Prop :=
  (∃ read ∈ readCitations instructions, read.assetId = citation.assetId) ∧
  match citation.source with
  | .page number => 1 ≤ number ∧ ∃ other ∈ texts, ∃ read ∈ readCitations other,
      read.assetId = citation.assetId ∧ ∃ further, number ≤ further ∧ read.source = .page further
  | .block _ => ∃ other ∈ texts, citation ∈ readCitations other

/-- An accepted proposal declares and has whatever its citations imply. -/
theorem referencesExist_of_covered {proposal : PlanProposal}
    {sourceIndexes : Identifier → Option AssetSourceIndex}
    (accepted : validateSourceCitations proposal sourceIndexes = .ok ())
    {card : ExecutionCard} (member : card ∈ proposal.executionCards)
    (covered : ∀ reference ∈ references [] (instructionText card.instructions),
      Covered (proposal.executionCards.map ExecutionCard.instructions) card.instructions
        reference.citation) : ReferencesExist sourceIndexes card := by
  have cards : ∀ card ∈ proposal.executionCards,
      (∀ citation ∈ readCitations card.instructions,
        citation.assetId ∈ card.inputAssets.map AssetReference.assetId) ∧
      ∀ citation ∈ readCitations card.instructions,
        ∃ index, sourceIndexes citation.assetId = some index ∧ index.Admits citation.source := by
    intro card member
    have checked := checkCardCitations_eq_ok.mp (checkEach_eq_ok.mp accepted card member)
    rw [citations_eq] at checked
    refine ⟨checked.1, fun citation cited => ?_⟩
    obtain ⟨-, index, found, admits⟩ := checked.2 citation.assetId (checked.1 citation cited)
    exact ⟨index, found, admits citation cited rfl⟩
  intro reference listed
  obtain ⟨⟨read, among, sameAsset⟩, source⟩ := covered reference listed
  refine ⟨sameAsset ▸ (cards card member).1 read among, ?_⟩
  unfold AssetSourceIndex.Has
  cases kind : reference.citation.source with
  | page number =>
      rw [kind] at source
      obtain ⟨positive, instructions, texts, cited, among, sameAsset, further, after, page⟩ := source
      obtain ⟨other, member, rfl⟩ := List.mem_map.mp texts
      obtain ⟨index, found, admits⟩ := (cards other member).2 cited among
      rw [page] at admits
      obtain ⟨count, known, within⟩ := admits
      exact ⟨index, sameAsset ▸ found, count, known, positive, Nat.le_trans after within⟩
  | block blockId =>
      rw [kind] at source
      obtain ⟨instructions, texts, among⟩ := source
      obtain ⟨other, member, rfl⟩ := List.mem_map.mp texts
      obtain ⟨index, found, admits⟩ := (cards other member).2 _ among
      rw [kind] at admits
      exact ⟨index, found, admits⟩

/-! ## A proposal that has only what it cites -/

/-- A card whose input assets are the cited ones. -/
def citingCard (instructions : List String) : ExecutionCard where
  cardId := "card"
  revision := 1
  taskId := "task"
  stageId := "stage"
  instanceId := "instance"
  agentType := .general
  objective := "Use the cited sources."
  instructions := instructions
  inputAssets := (readCitations instructions).map fun citation =>
    ⟨citation.assetId, "inputs/manifests/" ++ citation.assetId ++ ".json"⟩
  expectedDeliveries := [⟨.document, "notes", true, ["text/plain"]⟩]
  parameters := {}
  createdAt := "2026-01-01T00:00:00Z"

def citingProposal (texts : List (List String)) : PlanProposal where
  proposalId := "proposal"
  taskId := "task"
  revision := 1
  status := .pendingConfirmation
  stages := []
  workItems := []
  executionCards := texts.map citingCard
  createdAt := "2026-01-01T00:00:00Z"
  updatedAt := "2026-01-01T00:00:00Z"
  confirmedAt := none

/-- The page that a citation names. -/
def CitedSource.page? : CitedSource → Option Nat
  | .page number => some number
  | .block _ => none

def CitedSource.block? : CitedSource → Option String
  | .page _ => none
  | .block blockId => some blockId

/-- The cited sources of an asset in all texts. -/
def citedSources (texts : List (List String)) (assetId : Identifier) : List CitedSource :=
  (texts.flatMap readCitations).filterMap fun citation =>
    if citation.assetId = assetId then some citation.source else none

/-- As many pages as are cited, and no other blocks than these. -/
def citedIndex (texts : List (List String)) (assetId : Identifier) : Option AssetSourceIndex :=
  some ⟨some (((citedSources texts assetId).filterMap CitedSource.page?).foldr max 0),
    (citedSources texts assetId).filterMap CitedSource.block?⟩

theorem le_foldr_max {number : Nat} {numbers : List Nat} (member : number ∈ numbers) :
    number ≤ numbers.foldr max 0 := by
  induction numbers with
  | nil => cases member
  | cons first rest ih =>
      rcases List.mem_cons.mp member with rfl | later
      · exact Nat.le_max_left _ _
      · exact Nat.le_trans (ih later) (Nat.le_max_right _ _)

theorem exists_of_le_foldr_max {number : Nat} (positive : 1 ≤ number) {numbers : List Nat}
    (bounded : number ≤ numbers.foldr max 0) : ∃ further ∈ numbers, number ≤ further := by
  induction numbers with
  | nil =>
      rw [List.foldr_nil] at bounded
      omega
  | cons first rest ih =>
      rw [List.foldr_cons] at bounded
      by_cases here : number ≤ first
      · exact ⟨first, List.mem_cons_self, here⟩
      · obtain ⟨further, member, after⟩ := ih (by omega)
        exact ⟨further, List.mem_cons_of_mem first member, after⟩

theorem mem_citedSources {texts : List (List String)} {assetId : Identifier}
    {source : CitedSource} : source ∈ citedSources texts assetId ↔
      ∃ other ∈ texts, (⟨assetId, source⟩ : Citation) ∈ readCitations other := by
  unfold citedSources
  rw [List.mem_filterMap]
  constructor
  · rintro ⟨citation, listed, kept⟩
    obtain ⟨other, member, among⟩ := List.mem_flatMap.mp listed
    split at kept
    next same =>
      cases kept
      subst same
      exact ⟨other, member, among⟩
    next => cases kept
  · rintro ⟨other, member, among⟩
    exact ⟨⟨assetId, source⟩, List.mem_flatMap.mpr ⟨other, member, among⟩, by simp⟩

/-- The proposal is accepted with the index of what it cites. -/
theorem citingProposal_accepted (texts : List (List String)) :
    validateSourceCitations (citingProposal texts) (citedIndex texts) = .ok () := by
  refine checkEach_eq_ok.mpr fun card member => ?_
  obtain ⟨instructions, listed, rfl⟩ := List.mem_map.mp member
  have assets : (citingCard instructions).inputAssets.map AssetReference.assetId =
      (readCitations instructions).map Citation.assetId := by
    simp only [citingCard, List.map_map]
    rfl
  rw [checkCardCitations_eq_ok, assets, citations_eq]
  refine ⟨fun citation cited => List.mem_map_of_mem cited, fun assetId declared => ?_⟩
  obtain ⟨citation, cited, named⟩ := List.mem_map.mp declared
  refine ⟨⟨citation, cited, named⟩, _, rfl, fun other among same => ?_⟩
  subst same
  have source : other.source ∈ citedSources texts other.assetId :=
    mem_citedSources.mpr ⟨instructions, listed, among⟩
  unfold AssetSourceIndex.Admits
  cases kind : other.source with
  | page number =>
      rw [kind] at source
      exact ⟨_, rfl, le_foldr_max (List.mem_filterMap.mpr ⟨_, source, rfl⟩)⟩
  | block blockId =>
      rw [kind] at source
      exact List.mem_filterMap.mpr ⟨_, source, rfl⟩

/-- What is checked in texts is exactly what their readable references imply: whatever proposal has
    these texts and whatever indexes accept it, every reference is to a declared asset and to a page
    or block that it has, if and only if the citations that are read cover every reference. -/
theorem references_exist_iff (texts : List (List String)) :
    (∀ proposal sourceIndexes, proposal.executionCards.map ExecutionCard.instructions = texts →
      validateSourceCitations proposal sourceIndexes = .ok () →
      ∀ card ∈ proposal.executionCards, ReferencesExist sourceIndexes card) ↔
    ∀ instructions ∈ texts, ∀ reference ∈ references [] (instructionText instructions),
      Covered texts instructions reference.citation := by
  constructor
  · intro complete instructions listed reference member
    have same : (citingProposal texts).executionCards.map ExecutionCard.instructions = texts := by
      simp only [citingProposal, List.map_map]
      exact List.map_id texts
    obtain ⟨declared, index, found, has⟩ := complete (citingProposal texts) (citedIndex texts) same
      (citingProposal_accepted texts) (citingCard instructions) (List.mem_map_of_mem listed)
      reference member
    cases found
    constructor
    · obtain ⟨asset, among, named⟩ := List.mem_map.mp declared
      obtain ⟨citation, cited, rfl⟩ := List.mem_map.mp among
      exact ⟨citation, cited, named⟩
    · cases kind : reference.citation.source with
      | page number =>
          rw [kind] at has
          obtain ⟨count, known, positive, within⟩ := has
          cases known
          obtain ⟨further, among, after⟩ := exists_of_le_foldr_max positive within
          obtain ⟨source, cited, page⟩ := List.mem_filterMap.mp among
          obtain ⟨other, member, read⟩ := mem_citedSources.mp cited
          cases source with
          | page further' =>
              cases page
              exact ⟨positive, other, member, _, read, rfl, further, after, rfl⟩
          | block blockId => cases page
      | block blockId =>
          rw [kind] at has
          obtain ⟨source, cited, block⟩ := List.mem_filterMap.mp has
          obtain ⟨other, member, read⟩ := mem_citedSources.mp cited
          cases source with
          | page further => cases block
          | block blockId' =>
              cases block
              refine ⟨other, member, ?_⟩
              have whole : reference.citation = ⟨reference.citation.assetId, .block blockId⟩ := by
                rw [← kind]
              rw [whole]
              exact read
  · rintro covered proposal sourceIndexes rfl accepted card member
    exact referencesExist_of_covered accepted member
      (covered card.instructions (List.mem_map_of_mem member))

/-- A reference before a full stop escapes: the second page of a guide of one page. -/
theorem page_before_full_stop_escapes :
    ¬ ∀ proposal sourceIndexes, validateSourceCitations proposal sourceIndexes = .ok () →
      ∀ card ∈ proposal.executionCards, ReferencesExist sourceIndexes card := by
  intro complete
  have accepted : validateSourceCitations
      (citingProposal [["Use asset_brand_guide/page/1 and asset_brand_guide/page/2."]])
      (fun _ => some ⟨some 1, []⟩) = .ok () := by decide +kernel
  have exist := complete _ _ accepted _ (List.mem_singleton_self _)
    ⟨"asset_brand_guide".toList, true, ['2'], ['.']⟩ (by decide +kernel)
  obtain ⟨-, index, found, count, known, -, within⟩ := exist
  cases found
  cases known
  exact absurd within (by decide)

end DesignHarness
