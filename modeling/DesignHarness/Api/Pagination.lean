import DesignHarness.Library.Base64
import DesignHarness.Library.JsonAscii
import DesignHarness.Library.Keyset
import Mathlib.Data.List.Lex
import Mathlib.Data.Sum.Order

/-!
# Opaque keyset pagination

The list endpoints return pages (`api/pagination.py:15-99`): the items in the order of some of their
fields, from behind a cursor on.  A cursor is the key of the last item of a page, with the list and
the order it belongs to, as JSON in Base64.  The fields of an item are JSON values.
-/

namespace DesignHarness.Pagination

open Library

/-- A value of a pagination key. -/
inductive KeyPart where
  | number (value : Int)
  | text (value : String)
  deriving Repr

def KeyPart.ranked : KeyPart → Int ⊕ₗ String
  | number value => toLex (.inl value)
  | text value => toLex (.inr value)

theorem KeyPart.ranked_injective : Function.Injective KeyPart.ranked := by
  intro first second same
  have plain : ofLex first.ranked = ofLex second.ranked := congrArg ofLex same
  cases first <;> cases second <;> simp_all [KeyPart.ranked]

/-- Numbers are compared with numbers and texts with texts; `comparable` excludes the rest. -/
instance : LinearOrder KeyPart := LinearOrder.lift' KeyPart.ranked KeyPart.ranked_injective

def KeyPart.sameKind : KeyPart → KeyPart → Bool
  | number _, number _ | text _, text _ => true
  | _, _ => false

abbrev Key := List KeyPart

/-- The comparison of the keys raises no `TypeError`. -/
def comparable : Key → Key → Bool
  | part :: rest, other :: rest' =>
      if part = other then comparable rest rest' else part.sameKind other
  | _, _ => true

/-! ## Numbers in JSON -/

/-- `str(value)`. -/
def integerText (value : Int) : List Char :=
  if value < 0 then '-' :: Nat.toDigits 10 value.natAbs else Nat.toDigits 10 value.natAbs

/-- The `int` of a number literal, if it is not a float. -/
def integerOf : List Char → Option Int
  | [] => none
  | c :: digits =>
      if c = '-' then
        if isDigits digits then some (-(Nat.ofDigitChars 10 digits 0 : Int)) else none
      else if isDigits (c :: digits) then some (Nat.ofDigitChars 10 (c :: digits) 0 : Int)
      else none

section

variable {n : Nat} {value : Int}

theorem isDigits_toDigits (n : Nat) : isDigits (Nat.toDigits 10 n) = true := by
  have each : ∀ c ∈ Nat.toDigits 10 n, c.isDigit = true :=
    fun c member => Nat.isDigit_of_mem_toDigits (by decide) (by decide) member
  simp only [isDigits, Bool.and_eq_true, Bool.not_eq_true', List.isEmpty_eq_false_iff,
    List.all_eq_true]
  exact ⟨Nat.toDigits_ne_nil, each⟩

/-- No number but zero starts with a zero. -/
theorem toDigits_head {c : Char} {rest : List Char} (digits : Nat.toDigits 10 n = c :: rest) :
    c = '0' → rest = [] := by
  induction n using Nat.strong_induction_on generalizing rest with
  | _ n ih =>
      by_cases small : n < 10
      · rw [Nat.toDigits_of_lt_base small] at digits
        exact fun _ => (List.cons.inj digits).2.symm
      · rw [Nat.toDigits_of_base_le (by decide) (by omega)] at digits
        intro zero
        exfalso
        cases front : Nat.toDigits 10 (n / 10) with
        | nil => exact Nat.toDigits_ne_nil front
        | cons d others =>
            rw [front, List.cons_append] at digits
            obtain ⟨rfl, -⟩ := List.cons.inj digits
            have alone := ih (n / 10) (by omega) front zero
            subst zero
            subst alone
            have whole := congrArg (Nat.ofDigitChars 10 · 0) front
            simp only [Nat.ofDigitChars_ten_toDigits] at whole
            have none : Nat.ofDigitChars 10 ['0'] 0 = 0 := by decide
            omega

theorem isUnsigned_toDigits (n : Nat) : isUnsigned (Nat.toDigits 10 n) = true := by
  cases digits : Nat.toDigits 10 n with
  | nil => exact absurd digits Nat.toDigits_ne_nil
  | cons c rest =>
      have each : ∀ d ∈ c :: rest, d.isDigit = true := by
        rw [← digits]
        exact fun d member => Nat.isDigit_of_mem_toDigits (by decide) (by decide) member
      obtain ⟨first, others⟩ := List.forall_mem_cons.mp each
      rw [isUnsigned]
      split
      · rename_i zero
        rw [toDigits_head digits zero]
        rfl
      · have rest' : rest.dropWhile Char.isDigit = [] := by
          rw [List.dropWhile_eq_nil_iff]
          exact others
        rw [first, rest']
        rfl

theorem digit_ne_minus {c : Char} (digit : c.isDigit = true) : c ≠ '-' := by
  rintro rfl
  cases digit

theorem toDigits_cons (n : Nat) : ∃ c rest, Nat.toDigits 10 n = c :: rest ∧ c ≠ '-' := by
  cases digits : Nat.toDigits 10 n with
  | nil => exact absurd digits Nat.toDigits_ne_nil
  | cons c rest =>
      have digit : c.isDigit = true :=
        Nat.isDigit_of_mem_toDigits (by decide) (by decide) (digits ▸ List.mem_cons_self)
      exact ⟨c, rest, rfl, digit_ne_minus digit⟩

theorem integerText_grammar (value : Int) : isNumber (integerText value) = true := by
  unfold integerText
  split
  · exact isUnsigned_toDigits _
  · obtain ⟨c, rest, digits, plain⟩ := toDigits_cons value.natAbs
    have unsigned := isUnsigned_toDigits value.natAbs
    rw [digits] at unsigned ⊢
    rw [isNumber, if_neg plain]
    exact unsigned

theorem integerText_mem (value : Int) : ∀ c ∈ integerText value, c = '-' ∨ c.isDigit = true := by
  have digits : ∀ c ∈ Nat.toDigits 10 value.natAbs, c.isDigit = true :=
    fun c member => Nat.isDigit_of_mem_toDigits (by decide) (by decide) member
  unfold integerText
  split
  · exact List.forall_mem_cons.mpr ⟨.inl rfl, fun c member => .inr (digits c member)⟩
  · exact fun c member => .inr (digits c member)

theorem integerText_marks (value : Int) : ∀ c ∈ integerText value, isNumberMark c = true := by
  intro c member
  obtain rfl | digit := integerText_mem value c member
  · decide
  · simp [isNumberMark, digit]

theorem digit_ascii {c : Char} (digit : c.isDigit = true) : c.toNat < 128 := by
  simp only [Char.isDigit, Bool.and_eq_true, decide_eq_true_eq] at digit
  have small : c.val.toNat ≤ 57 := digit.2
  exact Nat.lt_of_le_of_lt small (by decide)

theorem integerText_ascii (value : Int) : IsAscii (integerText value) := by
  intro c member
  obtain rfl | digit := integerText_mem value c member
  · decide
  · exact digit_ascii digit

def integerLiteral (value : Int) : NumberLiteral :=
  ⟨integerText value, integerText_marks value, integerText_grammar value⟩

theorem integerOf_text (value : Int) : integerOf (integerText value) = some value := by
  unfold integerText
  split
  · rename_i negative
    rw [integerOf, if_pos rfl, if_pos (isDigits_toDigits _), Nat.ofDigitChars_ten_toDigits]
    exact congrArg some (by omega)
  · rename_i positive
    obtain ⟨c, rest, digits, plain⟩ := toDigits_cons value.natAbs
    have all := isDigits_toDigits value.natAbs
    have whole := @Nat.ofDigitChars_ten_toDigits value.natAbs
    rw [digits] at all whole ⊢
    rw [integerOf, if_neg plain, if_pos all, whole]
    exact congrArg some (by omega)

end

abbrev Item := List (String × Json)

/-- A `str` or an `int`, and no `bool`. -/
def partOf : Json → Option KeyPart
  | .string value => some (.text value)
  | .number value => (integerOf value.text).map .number
  | _ => none

def KeyPart.json : KeyPart → Json
  | number value => .number (integerLiteral value)
  | text value => .string value

def KeyPart.written : KeyPart → List Char
  | number value => integerText value
  | text value => quoteAscii value

/-- `_key`. -/
def keyOf (fields : List String) (item : Item) : Option Key :=
  fields.mapM fun field => (item.lookup field).bind partOf

theorem partOf_json (part : KeyPart) : partOf part.json = some part := by
  cases part with
  | number value =>
      have read := integerOf_text value
      simp [partOf, KeyPart.json, integerLiteral, read]
  | text value => rfl

theorem KeyPart.reads (part : KeyPart) : Reads part.written part.json := by
  cases part with
  | number value => exact Reads.number (integerLiteral value)
  | text value => exact Reads.string value

theorem KeyPart.written_ascii (part : KeyPart) : IsAscii part.written := by
  cases part with
  | number value => exact integerText_ascii value
  | text value => exact quoteAscii_ascii value

inductive SortOrder where
  | asc
  | desc
  deriving DecidableEq, Repr

def SortOrder.name : SortOrder → String
  | asc => "asc"
  | desc => "desc"

/-- What `paginate` raises. -/
inductive PaginationError where
  | invalidParameters
  | missingKey
  | invalidCursor
  /-- The keys of the items and of the cursor cannot be compared. -/
  | typeError
  deriving DecidableEq, Repr

/-- The code and the message of the `HarnessError`; the last one is no `HarnessError`. -/
def PaginationError.raised : PaginationError → Option (String × String)
  | invalidParameters => some ("VALIDATION_ERROR", "The pagination parameters are invalid.")
  | missingKey => some ("INTERNAL_ERROR", "A list item is missing its stable pagination key.")
  | invalidCursor => some ("VALIDATION_ERROR", "The pagination cursor is invalid.")
  | typeError => none

/-- `json.dumps({"v": 1, "scope": .., "order": .., "key": ..})`. -/
def cursorText (scope : String) (order : SortOrder) (key : Key) : List Char :=
  objectText [("v", integerText 1), ("scope", quoteAscii scope), ("order", quoteAscii order.name),
    ("key", arrayText (key.map KeyPart.written))]

/-- `_encode_cursor`. -/
def encodeCursor (scope : String) (order : SortOrder) (key : Key) : String :=
  String.ofList (base64Encode ((cursorText scope order key).map Char.toNat))

/-- What is equal to `1`, floats apart. -/
def isOne : Json → Bool
  | .bool true => true
  | .number value => integerOf value.text = some 1
  | _ => false

/-- The JSON value in a cursor. -/
def cursorPayload (value : String) : Option Json := do
  let octets ← base64Decode value.toList
  if octets.all (· < 128) then readText (octets.map Char.ofNat) else none

/-- The key of a payload that was made for the list and the order. -/
def acceptedKey (scope : String) (order : SortOrder) (keyLength : Nat) : Json → Option Key
  | .object members =>
      match members.lookup "v", members.lookup "scope", members.lookup "order",
        members.lookup "key" with
      | some version, some (.string scope'), some (.string order'), some (.array items) =>
          if isOne version = true ∧ scope' = scope ∧ order' = order.name ∧
              items.length = keyLength then items.mapM partOf
          else none
      | _, _, _, _ => none
  | _ => none

/-- `_decode_cursor`. -/
def decodeCursor (value scope : String) (order : SortOrder) (keyLength : Nat) :
    Except PaginationError Key :=
  if value = "" ∨ 2048 < value.length then .error .invalidCursor
  else
    match (cursorPayload value).bind (acceptedKey scope order keyLength) with
    | some key => .ok key
    | none => .error .invalidCursor

/-- Keys in the direction of the order. -/
def Ranked (_ : SortOrder) : Type := Key

instance (order : SortOrder) : LinearOrder (Ranked order) :=
  match order with
  | .asc => inferInstanceAs (LinearOrder Key)
  | .desc => inferInstanceAs (LinearOrder Keyᵒᵈ)

/-- An item with its key. -/
abbrev Entry := Key × Item

def rankOf (order : SortOrder) (key : Key) : Ranked order := key

def rank (order : SortOrder) (entry : Entry) : Ranked order := rankOf order entry.1

structure Page where
  items : List Item
  limit : Int
  order : SortOrder
  hasMore : Bool
  nextCursor : Option String

def keyed (fields : List String) (item : Item) : Except PaginationError Entry :=
  match keyOf fields item with
  | some key => .ok (key, item)
  | none => .error .missingKey

def readCursor (scope : String) (order : SortOrder) (keyLength : Nat) :
    Option String → Except PaginationError (Option Key)
  | none => .ok none
  | some value => (decodeCursor value scope order keyLength).map some

/-- The page behind a key. -/
def pageBehind (scope : String) (limit : Int) (order : SortOrder) (last : Option Key)
    (entries : List Entry) : Page :=
  let listed := Keyset.page (rank order) limit.toNat (last.map (rankOf order)) entries
  let more := Keyset.hasMore (rank order) limit.toNat (last.map (rankOf order)) entries
  ⟨listed.map Prod.snd, limit, order, more,
    if more then listed.getLast?.map fun entry => encodeCursor scope order entry.1 else none⟩

/-- `sorted` compares neighbours at least, so it raises a `TypeError` if any two keys would. -/
def uniform (entries : List Entry) : Bool :=
  entries.all fun entry => entries.all fun other => comparable entry.1 other.1

/-- `paginate`. -/
def paginate (items : List Item) (scope : String) (fields : List String) (limit : Int)
    (cursor : Option String) (order : SortOrder) : Except PaginationError Page :=
  if fields = [] ∨ limit < 1 ∨ 200 < limit then .error .invalidParameters
  else do
    let entries ← items.mapM (keyed fields)
    if uniform entries then do
      let last ← readCursor scope order fields.length cursor
      if entries.all fun entry => last.all (comparable entry.1) then
        return pageBehind scope limit order last entries
      else .error .typeError
    else .error .typeError

end DesignHarness.Pagination
