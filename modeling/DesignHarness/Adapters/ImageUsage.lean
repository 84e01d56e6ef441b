import DesignHarness.Core.Errors
import DesignHarness.Library.Except
import DesignHarness.Library.Json
import DesignHarness.Services.Usage

/-!
# Usage observations of the Image Agent

`image_usage.py` maps pages of the usage log of an Image Agent to usage events, and `collect_usage`
(`image.py:1151-1180`) reads page after page.  The position in the log is part of the event ids: the
cursor of the next read is the id of the last stored event.

SHA-256 and `datetime.fromisoformat` are parameters of the mapping.
-/

namespace DesignHarness

open Library

namespace ImageUsage

/-- A value of a page as `json.loads` gives it; a float is given by its `repr`, and a dictionary by
    its items. -/
inductive Wire where
  | null
  | flag (value : Bool)
  | int (value : Int)
  | float (text : String)
  | text (value : String)
  | list (items : List Wire)
  | dict (members : List (String × Wire))

/-- `members.get(key)`. -/
def get (members : List (String × Wire)) (key : String) : Wire :=
  (members.lookup key).getD .null

/-- `set(members) == set(keys)`. -/
def hasKeys (members : List (String × Wire)) (keys : List String) : Bool :=
  members.all (fun member => keys.contains member.1) &&
    keys.all fun key => members.any fun member => member.1 == key

/-- `_protocol_error`. -/
def protocolError (message : String) : Raised := .harness ⟨.validationError, message, []⟩

/-! ## Safe JSON -/

mutual

/-- `json.dumps(value, ensure_ascii=False, allow_nan=False)`; `none` for a number that is not
    finite. -/
def Wire.dumps : Wire → Option (List Char)
  | .null => some "null".toList
  | .flag true => some "true".toList
  | .flag false => some "false".toList
  | .int value => some (toString value).toList
  | .float text => if text = "nan" ∨ text = "inf" ∨ text = "-inf" then none else some text.toList
  | .text value => some (quote value)
  | .list items => (dumpItems items).map fun inner => '[' :: (inner ++ [']'])
  | .dict members => (dumpMembers members).map fun inner => '{' :: (inner ++ ['}'])

def dumpItems : List Wire → Option (List Char)
  | [] => some []
  | item :: [] => item.dumps
  | item :: other :: rest => do
      let first ← item.dumps
      let others ← dumpItems (other :: rest)
      return first ++ ", ".toList ++ others

def dumpMembers : List (String × Wire) → Option (List Char)
  | [] => some []
  | (key, value) :: [] => do
      let text ← value.dumps
      return quote key ++ ": ".toList ++ text
  | (key, value) :: other :: rest => do
      let text ← value.dumps
      let others ← dumpMembers (other :: rest)
      return quote key ++ ": ".toList ++ text ++ ", ".toList ++ others

end

/-- The lower-case letter of a character that has an ASCII one: besides the capitals the Kelvin
    sign. -/
def lowerChar (c : Char) : Char := if c = '\u212a' then 'k' else c.toLower

/-- The letter that a character matches under `re.IGNORECASE`: `lowerChar`, and the long s. -/
def foldChar (c : Char) : Char := if c = '\u017f' then 's' else lowerChar c

/-- `_SENSITIVE_KEYS`. -/
def sensitiveKeys : List String :=
  ["api_key", "apikey", "authorization", "access_token", "secret", "cookie"]

/-- `any(word in str(key).lower() for word in _SENSITIVE_KEYS)`. -/
def isSensitiveKey (key : String) : Bool :=
  sensitiveKeys.any fun word => (key.toList.map lowerChar).tails.any (word.toList.isPrefixOf ·)

/-- `\s`. -/
def isSpace (c : Char) : Bool :=
  (9 ≤ c.toNat && c.toNat ≤ 13) || (0x1c ≤ c.toNat && c.toNat ≤ 0x20) || c.toNat == 0x85 ||
    c.toNat == 0xa0 || c.toNat == 0x1680 || (0x2000 ≤ c.toNat && c.toNat ≤ 0x200a) ||
    c.toNat == 0x2028 || c.toNat == 0x2029 || c.toNat == 0x202f || c.toNat == 0x205f ||
    c.toNat == 0x3000

/-- `[A-Za-z0-9]` under `re.IGNORECASE`, which adds the two i and the letters of `foldChar`. -/
def isFoldedAlphanum (c : Char) : Bool :=
  (foldChar c).isAlphanum || c == '\u0130' || c == '\u0131'

/-- At least eight characters of a kind. -/
def eightOf (kind : Char → Bool) (text : List Char) : Bool := 8 ≤ (text.takeWhile kind).length

/-- What follows `prefix`, whatever the case of its letters. -/
def dropFolded : List Char → List Char → Option (List Char)
  | [], text => some text
  | letter :: letters, c :: text => if foldChar c = letter then dropFolded letters text else none
  | _ :: _, [] => none

/-- `_SENSITIVE_VALUE.match`. -/
def sensitiveAt (text : List Char) : Bool :=
  (dropFolded "bearer".toList text).any (fun rest =>
      rest.head?.any isSpace && !(rest.dropWhile isSpace).isEmpty) ||
    (dropFolded "sk-".toList text).any
      (eightOf fun c => isFoldedAlphanum c || c == '_' || c == '-') ||
    "pousr".toList.any fun letter =>
      (dropFolded ['g', 'h', letter, '_'] text).any (eightOf isFoldedAlphanum)

mutual

/-- `contains_sensitive_key`. -/
def Wire.containsSensitive : Wire → Bool
  | .text value => value.toList.tails.any sensitiveAt
  | .list items => itemsSensitive items
  | .dict members => membersSensitive members
  | _ => false

def itemsSensitive : List Wire → Bool
  | [] => false
  | item :: rest => item.containsSensitive || itemsSensitive rest

def membersSensitive : List (String × Wire) → Bool
  | [] => false
  | (key, value) :: rest =>
      isSensitiveKey key || value.containsSensitive || membersSensitive rest

end

/-- `_safe_json`. -/
def safeJson (members : List (String × Wire)) : Bool :=
  match (Wire.dict members).dumps with
  | none => false
  | some encoded => (String.ofList encoded).utf8ByteSize ≤ 16 * 1024 &&
      !(Wire.dict members).containsSensitive

/-! ## Observations -/

/-- `validate_identifier(value, "usage_id")`. -/
def validateUsageId (value : String) : Outcome Unit :=
  ensure (isIdentifier value = true)
    (.harness ⟨.validationError, "Invalid usage_id.", [("field", .text "usage_id")]⟩)

def usageIdOf : Wire → Outcome String
  | .text value => .ok value
  | _ => .error (protocolError "The Image usage id is malformed.")

/-- A text of a length from 1 to `bound`. -/
def boundedText (value : Wire) (bound : Nat) (message : String) : Outcome String :=
  match value with
  | .text text =>
      if 1 ≤ text.length ∧ text.length ≤ bound then .ok text else .error (protocolError message)
  | _ => .error (protocolError message)

def callTypeOf : Wire → Option ModelCallType
  | .text "reasoning_llm" => some .reasoningLlm
  | .text "vision_language_model" => some .visionLanguageModel
  | .text "text_to_image_model" => some .textToImageModel
  | _ => none

def usageBasisOf : Wire → Option UsageBasis
  | .text "tokens" => some .tokens
  | .text "image_units" => some .imageUnits
  | .text "mixed" => some .mixed
  | _ => none

def providerRequestIdOf : Wire → Outcome (Option String)
  | .null => .ok none
  | value => (boundedText value 256 "The Image provider request id is malformed.").map some

/-- A value that a frozen set cannot be asked for. -/
def unhashable : Wire → Bool
  | .list _ => true
  | .dict _ => true
  | _ => false

/-- `call_type not in _CALL_TYPES or usage_basis not in _USAGE_BASES` is refused. -/
def accountingType (callType basis : Wire) : Outcome (ModelCallType × UsageBasis) :=
  let malformed := protocolError "The Image usage accounting type is malformed."
  if unhashable callType then .error .typeError
  else
    match callTypeOf callType with
    | none => .error malformed
    | some known =>
        if unhashable basis then .error .typeError
        else
          match usageBasisOf basis with
          | none => .error malformed
          | some counted => .ok (known, counted)

structure TokenUsage where
  inputTokens : Nat := 0
  outputTokens : Nat := 0
  cachedInputTokens : Nat := 0
  reasoningTokens : Nat := 0
  totalTokens : Nat := 0
  deriving DecidableEq, Repr

/-- An integer that is not negative. -/
def counter : Wire → Option Nat
  | .int value => if 0 ≤ value then some value.toNat else none
  | _ => none

/-- `_token_usage` (`image_usage.py:181-193`). -/
def tokenUsage (value : Wire) : Outcome (Option TokenUsage) :=
  let malformed := protocolError "The Image token usage observation is malformed."
  match value with
  | .null => .ok none
  | .dict members =>
      if hasKeys members ["input_tokens", "output_tokens", "cached_input_tokens",
          "reasoning_tokens", "total_tokens"] then
        match counter (get members "input_tokens"), counter (get members "output_tokens"),
          counter (get members "cached_input_tokens"), counter (get members "reasoning_tokens"),
          counter (get members "total_tokens") with
        | some input, some output, some cached, some reasoning, some total => do
            ensure (total = input + output)
              (protocolError "The Image token totals are inconsistent.")
            ensure (cached ≤ input)
              (protocolError "The Image cached token count is inconsistent.")
            ensure (reasoning ≤ output)
              (protocolError "The Image reasoning token count is inconsistent.")
            return some ⟨input, output, cached, reasoning, total⟩
        | _, _, _, _, _ => .error malformed
      else .error malformed
  | _ => .error malformed

/-- An entry of `billing_units`; its attributes are kept as their text. -/
def billingUnitOf (value : Wire) : Option BillingUnit :=
  match value with
  | .dict members =>
      match get members "unit", get members "quantity", get members "attributes" with
      | .text unit, .int quantity, .dict attributes =>
          if hasKeys members ["unit", "quantity", "attributes"] ∧ 1 ≤ unit.length ∧
              unit.length ≤ 64 ∧ 1 ≤ quantity ∧ safeJson members then
            some ⟨unit, quantity.toNat,
              String.ofList (((Wire.dict attributes).dumps).getD [])⟩
          else none
      | _, _, _ => none
  | _ => none

/-- `_billing_units` (`image_usage.py:196-213`). -/
def billingUnits (value : Wire) : Outcome (List BillingUnit) :=
  let malformed := protocolError "The Image billing units are malformed."
  match value with
  | .list items =>
      if items.length ≤ 64 then
        match items.mapM billingUnitOf with
        | some units => .ok units
        | none => .error malformed
      else .error malformed
  | _ => .error malformed

/-- `_RAW_USAGE_COUNTERS`. -/
def rawUsageCounters : List String :=
  ["accepted_prediction_tokens", "audio_tokens", "cache_creation_input_tokens",
    "cache_read_input_tokens", "cached_input_tokens", "cached_tokens", "completion_tokens",
    "image_tokens", "input_tokens", "output_tokens", "prompt_tokens", "reasoning_tokens",
    "rejected_prediction_tokens", "text_tokens", "total_tokens"]

/-- `_RAW_USAGE_DETAIL_OBJECTS`. -/
def rawUsageDetailObjects : List String :=
  ["completion_tokens_details", "input_tokens_details", "output_tokens_details",
    "prompt_tokens_details"]

/-- `_RAW_USAGE_DETAIL_COUNTERS`. -/
def rawUsageDetailCounters : List String :=
  ["accepted_prediction_tokens", "audio_tokens", "cached_tokens", "image_tokens",
    "reasoning_tokens", "rejected_prediction_tokens", "text_tokens"]

/-- A member that `_raw_usage` accepts. -/
def rawUsageMember (member : String × Wire) : Bool :=
  if rawUsageCounters.contains member.1 then (counter member.2).isSome
  else
    match member.2 with
    | .dict details => rawUsageDetailObjects.contains member.1 &&
        details.all fun detail =>
          rawUsageDetailCounters.contains detail.1 && (counter detail.2).isSome
    | _ => false

/-- `_raw_usage` (`image_usage.py:216-241`); the accepted object is kept as its text. -/
def rawUsage (value : Wire) : Outcome String :=
  match value with
  | .dict members =>
      if members.all rawUsageMember then
        .ok (String.ofList (((Wire.dict members).dumps).getD []))
      else .error (protocolError "The Image raw usage observation is malformed.")
  | _ => .error (protocolError "The Image raw usage observation is malformed.")

/-- The consistency of `usage_basis` with what was counted. -/
def checkBasis (basis : UsageBasis) (tokens : Option TokenUsage) (units : List BillingUnit) :
    Outcome Unit :=
  match basis with
  | .tokens => ensure (tokens.isSome ∧ units = [])
      (protocolError "The Image token usage basis is inconsistent.")
  | .imageUnits => ensure (tokens = none ∧ units ≠ [])
      (protocolError "The Image billing-unit usage basis is inconsistent.")
  | .mixed => ensure (tokens.isSome ∧ units ≠ [])
      (protocolError "The Image mixed usage basis is inconsistent.")

/-- `[0-9a-f]`. -/
def isHexDigit (c : Char) : Bool := c.isDigit || ('a' ≤ c && c ≤ 'f')

/-- What the mapping takes from elsewhere: `digest_json([instance_id, usage_id])[:16]`, which are 16
    hexadecimal digits, and `_utc_timestamp` of a text, without a value where it is malformed. -/
structure Primitives where
  digest : Identifier → String → List Char
  digest_length : ∀ instanceId usageId, (digest instanceId usageId).length = 16
  digest_hex : ∀ instanceId usageId, (digest instanceId usageId).all isHexDigit = true
  utcTimestamp : String → Option Timestamp

/-- `_utc_timestamp`. -/
def utcTimestamp (primitives : Primitives) (value : Wire) : Outcome Timestamp :=
  let malformed := protocolError "The Image usage timestamp is malformed."
  match value with
  | .text text =>
      match primitives.utcTimestamp text with
      | some instant => .ok instant
      | none => .error malformed
  | _ => .error malformed

/-- `f"usage_{sequence}_{digest}"`. -/
def eventId (sequence : Nat) (digest : List Char) : String :=
  String.ofList ("usage_".toList ++ (Nat.toDigits 10 sequence ++ '_' :: digest))

section

variable (primitives : Primitives) (taskId instanceId : Identifier)

/-- `_map_usage_item` (`image_usage.py:117-178`), once `sequence` is known to be positive. -/
def mapUsageItem (item : List (String × Wire)) (sequence : Nat) : Outcome UsageEvent := do
  let usageId ← usageIdOf (get item "usage_id")
  validateUsageId usageId
  let requestId ← boundedText (get item "request_id") 256 "The Image usage request id is malformed."
  let providerRequestId ← providerRequestIdOf (get item "provider_request_id")
  let provider ← boundedText (get item "provider") 128 "The Image usage provider is malformed."
  let model ← boundedText (get item "model") 256 "The Image usage model is malformed."
  let (callType, basis) ← accountingType (get item "call_type") (get item "usage_basis")
  let tokens ← tokenUsage (get item "token_usage")
  let units ← billingUnits (get item "billing_units")
  let raw ← rawUsage (get item "raw_usage")
  checkBasis basis tokens units
  let counted := tokens.getD {}
  let occurredAt ← utcTimestamp primitives (get item "timestamp")
  return {
    eventId := eventId sequence (primitives.digest instanceId usageId)
    taskId := taskId
    instanceId := instanceId
    agentType := .agent .image
    requestId := requestId
    model := model
    inputTokens := counted.inputTokens
    outputTokens := counted.outputTokens
    cachedInputTokens := counted.cachedInputTokens
    reasoningTokens := counted.reasoningTokens
    totalTokens := counted.totalTokens
    occurredAt := occurredAt
    details := some ⟨providerRequestId, provider, callType, basis, units, raw⟩ }

/-- The loop over the items: their events, and the sequence of the last one. -/
def mapItems : Int → List Wire → Outcome (List UsageEvent × Int)
  | sequence, [] => .ok ([], sequence)
  | sequence, .dict item :: rest =>
      match get item "sequence" with
      | .int current => do
          ensure (sequence < current) (protocolError "The Image usage sequence is malformed.")
          let event ← mapUsageItem primitives taskId instanceId item current.toNat
          let (events, last) ← mapItems current rest
          return (event :: events, last)
      | _ => .error (protocolError "The Image usage sequence is malformed.")
  | _, _ :: _ => .error (protocolError "The Image usage observation is malformed.")

/-- `map_usage_page` (`image_usage.py:74-114`): the events, the next cursor, and whether there is
    more. -/
def mapUsagePage (page : List (String × Wire)) (previous : Nat) :
    Outcome (List UsageEvent × Nat × Bool) :=
  match get page "items", get page "next_cursor", get page "has_more" with
  | .list items, .int nextCursor, .flag hasMore => do
      ensure (¬ (nextCursor < previous) ∧ items.length ≤ 500)
        (protocolError "The Image usage page is malformed.")
      let (events, sequence) ← mapItems primitives taskId instanceId previous items
      ensure (¬ ((items ≠ [] ∧ nextCursor ≠ sequence) ∨ (items = [] ∧ nextCursor ≠ previous)))
        (protocolError "The Image usage cursor is inconsistent.")
      ensure (¬ (hasMore = true ∧ (items = [] ∨ nextCursor ≤ previous)))
        (protocolError "The Image usage cursor did not advance.")
      return (events, nextCursor.toNat, hasMore)
  | _, _, _ => .error (protocolError "The Image usage page is malformed.")

end

/-- What follows `usage_`. -/
def afterUsage : List Char → Option (List Char)
  | 'u' :: 's' :: 'a' :: 'g' :: 'e' :: '_' :: rest => some rest
  | _ => none

/-- `_CURSOR.fullmatch` and its group: the digits up to the next underscore, which are followed by
    16 hexadecimal ones. -/
def cursorDigits (cursor : List Char) : Option (List Char) :=
  match afterUsage cursor with
  | none => none
  | some rest =>
      match rest.takeWhile Char.isDigit, rest.dropWhile Char.isDigit with
      | first :: digits, '_' :: digest =>
          if first ≠ '0' ∧ digest.length = 16 ∧ digest.all isHexDigit then some (first :: digits)
          else none
      | _, _ => none

/-- `usage_cursor` (`image_usage.py:65-71`). -/
def usageCursor : Option String → Outcome Nat
  | none => .ok 0
  | some cursor =>
      match cursorDigits cursor.toList with
      | some digits => .ok (Nat.ofDigitChars 10 digits 0)
      | none => .error (protocolError "The Image usage cursor is malformed.")

/-- The loop of `collect_usage` (`image.py:1161-1180`): `answer` is the page that the Agent serves
    for each round and position; the fuel bounds the number of pages. -/
def collectPages (primitives : Primitives) (taskId instanceId : Identifier)
    (answer : Nat → Nat → List (String × Wire)) :
    Nat → Nat → Nat → List UsageEvent → Option (Outcome (List UsageEvent))
  | 0, _, _, _ => none
  | fuel + 1, round, previous, events =>
      match mapUsagePage primitives taskId instanceId (answer round previous) previous with
      | .error raised => some (.error raised)
      | .ok (mapped, next, hasMore) =>
          if 10000 < (events ++ mapped).length then
            some (.error (protocolError "Image Agent returned too many usage observations."))
          else if hasMore then
            collectPages primitives taskId instanceId answer fuel (round + 1) next (events ++ mapped)
          else some (.ok (events ++ mapped))

/-- `collect_usage` (`image.py:1151-1180`). -/
def collectUsage (primitives : Primitives) (taskId instanceId : Identifier)
    (answer : Nat → Nat → List (String × Wire)) (fuel : Nat) (cursor : Option String) :
    Option (Outcome (List UsageEvent)) :=
  match usageCursor cursor with
  | .error raised => some (.error raised)
  | .ok previous => collectPages primitives taskId instanceId answer fuel 0 previous []

end ImageUsage

end DesignHarness
