import DesignHarness.Domain.PlanProposals
import DesignHarness.Library.Regex

/-!
# Citations of source assets

`validate_source_citations` (`master.py:128-166`) reads the citations of a card's instructions with
`_SOURCE_CITATION` and checks them against the pages and blocks of the input assets.  Below the model
stands what a text refers to, read off its characters, and which of these references the pattern
finds.
-/

namespace DesignHarness

open Library

/-- `[A-Za-z0-9_-]`. -/
def isIdentifierChar (c : Char) : Bool := c.isAlphanum || c == '_' || c == '-'

/-- `[A-Za-z0-9_.-]`. -/
def isCitationChar (c : Char) : Bool := isIdentifierChar c || c == '.'

/-- `[1-9]`. -/
def isPageStart (c : Char) : Bool := c.isDigit && c != '0'

/-- `(?P<name>[A-Za-z][A-Za-z0-9_-]{0,127})`. -/
def identifierWord (name : String) : Regex :=
  .word name Char.isAlpha isIdentifierChar (some 127)

/-- `page/(?P<page>[1-9][0-9]*)`. -/
def pagePattern : Regex :=
  .seq (.literal ['p', 'a', 'g', 'e', '/']) (.word "page" isPageStart Char.isDigit none)

/-- `block/(?P<block_id>[A-Za-z][A-Za-z0-9_-]{0,127})`. -/
def blockPattern : Regex :=
  .seq (.literal ['b', 'l', 'o', 'c', 'k', '/']) (identifierWord "block_id")

/-- `_SOURCE_CITATION` (`master.py:14-20`). -/
def sourceCitation : Regex :=
  .seq (.notBehind isCitationChar)
    (.seq (identifierWord "asset_id")
      (.seq (.literal ['/']) (.seq (.alt pagePattern blockPattern) (.notAhead isCitationChar))))

/-! ## `validate_source_citations` -/

inductive CitedSource where
  | page (number : Nat)
  | block (blockId : String)
  deriving DecidableEq, Repr

structure Citation where
  assetId : Identifier
  source : CitedSource
  deriving DecidableEq, Repr

/-- `AssetSourceIndex`. -/
structure AssetSourceIndex where
  pageCount : Option Nat
  blockIds : List String
  deriving DecidableEq, Repr

/-- The text of a group; a group that did not take part has none. -/
def groupText (groups : Groups) (name : String) : Option (List Char) := groups.lookup name

/-- The groups of a match. -/
def citationOf (groups : Groups) : Citation where
  assetId := String.ofList ((groupText groups "asset_id").getD [])
  source :=
    match groupText groups "page" with
    | some page => .page (Nat.ofDigitChars 10 page 0)
    | none => .block (String.ofList ((groupText groups "block_id").getD []))

/-- `_SOURCE_CITATION.finditer(text)`. -/
def citations (text : List Char) : List Citation :=
  (sourceCitation.finditer text).map citationOf

/-- `"\n".join(card["instructions"])`. -/
def instructionText (instructions : List String) : List Char :=
  (String.intercalate "\n" instructions).toList

/-- The checks of one citation (`master.py:154-166`). -/
def checkCitation (index : AssetSourceIndex) (citation : Citation) : Outcome Unit :=
  match citation.source with
  | .page number => ensure (index.pageCount.any (number ≤ ·))
      (invalidPlan "A source citation references a page that does not exist.")
  | .block blockId => ensure (blockId ∈ index.blockIds)
      (invalidPlan "A source citation references a block that does not exist.")

/-- The checks of the citations of one input asset (`master.py:145-166`). -/
def checkAssetCitations (sourceIndexes : Identifier → Option AssetSourceIndex)
    (found : List Citation) (assetId : Identifier) : Outcome Unit := do
  let cited := found.filter fun citation => citation.assetId = assetId
  ensure (cited ≠ []) (invalidPlan
    "Every input asset in a Master execution card requires an asset_id/page or asset_id/block source citation.")
  match sourceIndexes assetId with
  | none => .error (invalidPlan "A cited input asset has no persisted source understanding.")
  | some index => checkEach (checkCitation index) cited

/-- The round of the loop for one card. -/
def checkCardCitations (sourceIndexes : Identifier → Option AssetSourceIndex)
    (card : ExecutionCard) : Outcome Unit := do
  let inputAssetIds := (card.inputAssets.map AssetReference.assetId).dedup
  let found := citations (instructionText card.instructions)
  checkEach (fun citation => ensure (citation.assetId ∈ inputAssetIds)
    (invalidPlan "A source citation references an undeclared input asset.")) found
  checkEach (checkAssetCitations sourceIndexes found) inputAssetIds

/-- `validate_source_citations` (`master.py:128-166`). -/
def validateSourceCitations (proposal : PlanProposal)
    (sourceIndexes : Identifier → Option AssetSourceIndex) : Outcome Unit :=
  checkEach (checkCardCitations sourceIndexes) proposal.executionCards

/-- A reference in a text: the asset, the digits of a page or the id of a block, and what follows
    them. -/
structure Reference where
  assetId : List Char
  onPage : Bool
  name : List Char
  after : List Char
  deriving DecidableEq, Repr

def Reference.citation (reference : Reference) : Citation where
  assetId := String.ofList reference.assetId
  source :=
    if reference.onPage then .page (Nat.ofDigitChars 10 reference.name 0)
    else .block (String.ofList reference.name)

/-- What follows an asset id: a slash, and a page with its longest number or a block with its longest
    id. -/
def sourceAt (assetId rest : List Char) : Option Reference :=
  if ['/'].isPrefixOf rest then
    if ['p', 'a', 'g', 'e', '/'].isPrefixOf (rest.drop 1) then
      (Regex.wordAt Char.isDigit Char.isDigit none ((rest.drop 1).drop 5)).map fun number =>
        ⟨assetId, true, number.1, number.2⟩
    else if ['b', 'l', 'o', 'c', 'k', '/'].isPrefixOf (rest.drop 1) then
      (Regex.wordAt Char.isAlpha isIdentifierChar (some 127) ((rest.drop 1).drop 6)).map fun block =>
        ⟨assetId, false, block.1, block.2⟩
    else none
  else none

/-- The reference at a place: its asset id does not start inside a longer identifier. -/
def referenceAt (place : Place) : Option Reference :=
  if place.passed.head?.any isIdentifierChar then none
  else (Regex.wordAt Char.isAlpha isIdentifierChar (some 127) place.rest).bind fun word =>
    sourceAt word.1 word.2

/-- All references of a text. -/
def references : List Char → List Char → List Reference
  | _, [] => []
  | passed, c :: rest => (referenceAt ⟨passed, c :: rest⟩).toList ++ references (c :: passed) rest

/-- A reference that the pattern matches: no full stop stands before it, no character of an
    identifier and no full stop behind it, and its page number does not begin with a zero. -/
def Reference.readable (passed : List Char) (reference : Reference) : Bool :=
  !passed.head?.any isCitationChar && !reference.after.head?.any isCitationChar &&
    (!reference.onPage || reference.name.head?.any isPageStart)

/-- The readable references from left to right, without those that begin inside one that was read
    before; `skip` characters still belong to the last one. -/
def readReferences : Nat → List Char → List Char → List Reference
  | _, _, [] => []
  | skip + 1, passed, c :: rest => readReferences skip (c :: passed) rest
  | 0, passed, c :: rest =>
      match (referenceAt ⟨passed, c :: rest⟩).filter (Reference.readable passed) with
      | some reference => reference ::
          readReferences (rest.length - reference.after.length) (c :: passed) rest
      | none => readReferences 0 (c :: passed) rest

end DesignHarness
