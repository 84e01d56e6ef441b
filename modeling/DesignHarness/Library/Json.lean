import Mathlib.Data.List.TakeWhile
import Mathlib.Data.String.Basic

/-!
# JSON texts

Values as `json.dumps` writes them with sorted keys and without blanks, and as `json.loads` reads
them.  A dict is the list of its items in the order of their keys, so equal dicts are equal lists.
A number is its literal: floats are neither computed nor rounded.  `read_write` is the round trip.
-/

namespace DesignHarness.Library

abbrev Bytes := List UInt8

/-- The characters of number literals. -/
def isNumberMark (c : Char) : Bool :=
  c.isDigit || c = '-' || c = '+' || c = '.' || c = 'e' || c = 'E'

/-- `[0-9]+`. -/
def isDigits (text : List Char) : Bool := !text.isEmpty && text.all Char.isDigit

/-- `([eE][-+]?[0-9]+)?`. -/
def isExponent : List Char → Bool
  | [] => true
  | e :: rest =>
      (e = 'e' || e = 'E') &&
        match rest with
        | [] => false
        | sign :: digits =>
            if sign = '-' ∨ sign = '+' then isDigits digits else isDigits (sign :: digits)

/-- `(\.[0-9]+)?([eE][-+]?[0-9]+)?`. -/
def isFraction : List Char → Bool
  | [] => true
  | c :: rest =>
      if c = '.' then
        isDigits (rest.takeWhile Char.isDigit) && isExponent (rest.dropWhile Char.isDigit)
      else
        isExponent (c :: rest)

/-- `(?:0|[1-9][0-9]*)(\.[0-9]+)?([eE][-+]?[0-9]+)?`. -/
def isUnsigned : List Char → Bool
  | [] => false
  | c :: rest =>
      if c = '0' then isFraction rest
      else c.isDigit && isFraction (rest.dropWhile Char.isDigit)

/-- `-?(?:0|[1-9][0-9]*)(\.[0-9]+)?([eE][-+]?[0-9]+)?`. -/
def isNumber : List Char → Bool
  | [] => false
  | c :: rest => if c = '-' then isUnsigned rest else isUnsigned (c :: rest)

/-- A number literal. -/
structure NumberLiteral where
  text : List Char
  marks : ∀ c ∈ text, isNumberMark c = true
  grammar : isNumber text = true

inductive Json where
  | null
  | bool (value : Bool)
  | number (value : NumberLiteral)
  | string (value : String)
  | array (items : List Json)
  | object (members : List (String × Json))

def hexDigit (n : Nat) : Char := if n < 10 then Char.ofNat (0x30 + n) else Char.ofNat (0x57 + n)

/-- `ESCAPE_DCT` of `json.encoder`, with `ensure_ascii=False`. -/
def escapeChar (c : Char) : List Char :=
  if c = '"' then ['\\', '"']
  else if c = '\\' then ['\\', '\\']
  else if c = '\n' then ['\\', 'n']
  else if c = '\r' then ['\\', 'r']
  else if c = '\t' then ['\\', 't']
  else if c.toNat = 0x08 then ['\\', 'b']
  else if c.toNat = 0x0C then ['\\', 'f']
  else if c.toNat < 0x20 then ['\\', 'u', '0', '0', hexDigit (c.toNat / 16), hexDigit (c.toNat % 16)]
  else [c]

def quote (value : String) : List Char := '"' :: (value.toList.flatMap escapeChar ++ ['"'])

mutual

/-- `json.dumps(value, ensure_ascii=False, sort_keys=True, separators=(",", ":"))`. -/
def Json.write : Json → List Char
  | .null => ['n', 'u', 'l', 'l']
  | .bool true => ['t', 'r', 'u', 'e']
  | .bool false => ['f', 'a', 'l', 's', 'e']
  | .number value => value.text
  | .string value => quote value
  | .array [] => ['[', ']']
  | .array (item :: items) => '[' :: (item.write ++ writeItems items)
  | .object [] => ['{', '}']
  | .object ((key, value) :: members) =>
      '{' :: (quote key ++ ':' :: (value.write ++ writeMembers members))

/-- What follows an item. -/
def writeItems : List Json → List Char
  | [] => [']']
  | item :: items => ',' :: (item.write ++ writeItems items)

/-- What follows a member. -/
def writeMembers : List (String × Json) → List Char
  | [] => ['}']
  | (key, value) :: members =>
      ',' :: (quote key ++ ':' :: (value.write ++ writeMembers members))

end

/-! ## Reading -/

def isBlank (c : Char) : Bool := c = ' ' || c = '\t' || c = '\n' || c = '\r'

def skipBlanks (text : List Char) : List Char := text.dropWhile isBlank

def hexValue (c : Char) : Option Nat :=
  if 0x30 ≤ c.toNat ∧ c.toNat ≤ 0x39 then some (c.toNat - 0x30)
  else if 0x61 ≤ c.toNat ∧ c.toNat ≤ 0x66 then some (c.toNat - 0x57)
  else if 0x41 ≤ c.toNat ∧ c.toNat ≤ 0x46 then some (c.toNat - 0x37)
  else none

/-- The four digits of a `\u` escape. -/
def hexUnit (a b c d : Char) : Option Nat := do
  let a ← hexValue a
  let b ← hexValue b
  let c ← hexValue c
  let d ← hexValue d
  return ((a * 16 + b) * 16 + c) * 16 + d

/-- The `BACKSLASH` table of `json.decoder`. -/
def unescape (c : Char) : Option Nat :=
  if c = '"' then some 0x22
  else if c = '\\' then some 0x5C
  else if c = '/' then some 0x2F
  else if c = 'b' then some 0x08
  else if c = 'f' then some 0x0C
  else if c = 'n' then some 0x0A
  else if c = 'r' then some 0x0D
  else if c = 't' then some 0x09
  else none

/-- The code units of a string, up to its closing quote. -/
def readUnits : List Char → Option (List Nat × List Char)
  | [] => none
  | c :: rest =>
      if c = '"' then some ([], rest)
      else if c = '\\' then
        match rest with
        | [] => none
        | e :: rest =>
            if e = 'u' then
              match rest with
              | a :: b :: c :: d :: rest => do
                  let unit ← hexUnit a b c d
                  let (units, rest) ← readUnits rest
                  return (unit :: units, rest)
              | _ => none
            else do
              let unit ← unescape e
              let (units, rest) ← readUnits rest
              return (unit :: units, rest)
      else if c.toNat < 0x20 then none
      else do
        let (units, rest) ← readUnits rest
        return (c.toNat :: units, rest)

/-- Surrogates are joined in pairs.  A string with a lone surrogate is not in UTF-8. -/
def joinUnits : List Nat → Option (List Char)
  | [] => some []
  | unit :: units =>
      if 0xD800 ≤ unit ∧ unit < 0xDC00 then
        match units with
        | [] => none
        | low :: units =>
            if 0xDC00 ≤ low ∧ low < 0xE000 then do
              let chars ← joinUnits units
              return Char.ofNat (0x10000 + (unit - 0xD800) * 0x400 + (low - 0xDC00)) :: chars
            else none
      else if 0xDC00 ≤ unit ∧ unit < 0xE000 then none
      else do
        let chars ← joinUnits units
        return Char.ofNat unit :: chars

/-- A string after its opening quote. -/
def readString (text : List Char) : Option (String × List Char) := do
  let (units, rest) ← readUnits text
  let chars ← joinUnits units
  return (String.ofList chars, rest)

/-- A number, up to the first character that is in no number. -/
def readNumber (text : List Char) : Option (NumberLiteral × List Char) :=
  if grammar : isNumber (text.takeWhile isNumberMark) = true then
    some (⟨text.takeWhile isNumberMark, fun _ marked => List.mem_takeWhile_imp marked, grammar⟩,
      text.dropWhile isNumberMark)
  else
    none

/-- `dict[key] = value`. -/
def insertMember (key : String) (value : Json) : List (String × Json) → List (String × Json)
  | [] => [(key, value)]
  | (other, held) :: members =>
      if key = other then (key, value) :: members
      else if key < other then (key, value) :: (other, held) :: members
      else (other, held) :: insertMember key value members

/-- `dict(pairs)`. -/
def dictOf (pairs : List (String × Json)) : List (String × Json) :=
  pairs.foldl (fun members pair => insertMember pair.1 pair.2 members) []

mutual

/-- `scan_once`; the fuel bounds the nesting and the number of items. -/
def readValue : Nat → List Char → Option (Json × List Char)
  | 0, _ => none
  | fuel + 1, text =>
      match text with
      | [] => none
      | c :: rest =>
          if c = '"' then do
            let (value, rest) ← readString rest
            return (.string value, rest)
          else if c = '{' then
            match skipBlanks rest with
            | [] => none
            | c :: rest =>
                if c = '}' then some (.object [], rest)
                else if c = '"' then do
                  let (members, rest) ← readMembers fuel rest
                  return (.object (dictOf members), rest)
                else none
          else if c = '[' then
            match skipBlanks rest with
            | [] => none
            | c :: rest' =>
                if c = ']' then some (.array [], rest')
                else do
                  let (items, rest) ← readItems fuel (c :: rest')
                  return (.array items, rest)
          else if c = 'n' then
            if rest.take 3 = ['u', 'l', 'l'] then some (.null, rest.drop 3) else none
          else if c = 't' then
            if rest.take 3 = ['r', 'u', 'e'] then some (.bool true, rest.drop 3) else none
          else if c = 'f' then
            if rest.take 4 = ['a', 'l', 's', 'e'] then some (.bool false, rest.drop 4) else none
          else do
            let (value, rest) ← readNumber (c :: rest)
            return (.number value, rest)

/-- The items from a value on, up to the closing bracket. -/
def readItems : Nat → List Char → Option (List Json × List Char)
  | 0, _ => none
  | fuel + 1, text => do
      let (item, rest) ← readValue fuel text
      match skipBlanks rest with
      | [] => none
      | c :: rest =>
          if c = ']' then return ([item], rest)
          else if c = ',' then do
            let (items, rest) ← readItems fuel (skipBlanks rest)
            return (item :: items, rest)
          else none

/-- The members from a key on, after its opening quote, up to the closing brace. -/
def readMembers : Nat → List Char → Option (List (String × Json) × List Char)
  | 0, _ => none
  | fuel + 1, text => do
      let (key, rest) ← readString text
      match skipBlanks rest with
      | [] => none
      | colon :: rest =>
          if colon = ':' then do
            let (value, rest) ← readValue fuel (skipBlanks rest)
            match skipBlanks rest with
            | [] => none
            | c :: rest =>
                if c = '}' then return ([(key, value)], rest)
                else if c = ',' then
                  match skipBlanks rest with
                  | [] => none
                  | c :: rest =>
                      if c = '"' then do
                        let (members, rest) ← readMembers fuel rest
                        return ((key, value) :: members, rest)
                      else none
                else none
          else none

end

/-- `json.loads(text)`. -/
def readText (text : List Char) : Option Json := do
  let (value, rest) ← readValue text.length (skipBlanks text)
  if skipBlanks rest = [] then some value else none

/-- `value.encode("utf-8")` of what `json.dumps` writes. -/
def Json.encode (value : Json) : Bytes := value.write.flatMap String.utf8EncodeChar

/-- `json.loads(raw)`. -/
def Json.decode (raw : Bytes) : Option Json := do
  let text ← raw.toByteArray.utf8Decode?
  readText text.toList

theorem hexValue_hexDigit : ∀ n < 16, hexValue (hexDigit n) = some n := by decide

section

variable {c e : Char} {unit : Nat} {rest : List Char}

theorem readUnits_quote : readUnits ('"' :: rest) = some ([], rest) := by
  rw [readUnits.eq_def]
  rfl

theorem readUnits_plain (open_ : c ≠ '"') (plain : c ≠ '\\') (printed : ¬ c.toNat < 0x20) :
    readUnits (c :: rest) = (readUnits rest).map fun found => (c.toNat :: found.1, found.2) := by
  rw [readUnits.eq_def]
  cases found : readUnits rest <;> simp [open_, plain, printed, found]

theorem readUnits_short (short : unescape e = some unit) :
    readUnits ('\\' :: e :: rest) =
      (readUnits rest).map fun found => (unit :: found.1, found.2) := by
  have other : e ≠ 'u' := by
    rintro rfl
    cases short
  rw [readUnits.eq_def]
  cases found : readUnits rest <;> simp [other, short, found]

theorem readUnits_long {a b d : Char} (long : hexUnit a b c d = some unit) :
    readUnits ('\\' :: 'u' :: a :: b :: c :: d :: rest) =
      (readUnits rest).map fun found => (unit :: found.1, found.2) := by
  rw [readUnits.eq_def]
  cases found : readUnits rest <;> simp [long, found]

end

/-- The character that a code unit stands for is read again. -/
theorem readUnits_escapeChar (c : Char) (rest : List Char) :
    readUnits (escapeChar c ++ rest) =
      (readUnits rest).map fun found => (c.toNat :: found.1, found.2) := by
  unfold escapeChar
  split
  · subst c
    exact readUnits_short rfl
  split
  · subst c
    exact readUnits_short rfl
  split
  · subst c
    exact readUnits_short rfl
  split
  · subst c
    exact readUnits_short rfl
  split
  · subst c
    exact readUnits_short rfl
  split
  · rename_i same
    rw [same]
    exact readUnits_short rfl
  split
  · rename_i same
    rw [same]
    exact readUnits_short rfl
  split
  · rename_i control
    have high := hexValue_hexDigit (c.toNat / 16) (by omega)
    have low := hexValue_hexDigit (c.toNat % 16) (by omega)
    have zero : hexValue '0' = some 0 := by decide
    have long : hexUnit '0' '0' (hexDigit (c.toNat / 16)) (hexDigit (c.toNat % 16)) =
        some c.toNat := by
      have unit : (c.toNat / 16) * 16 + c.toNat % 16 = c.toNat := by omega
      simp [hexUnit, zero, high, low, unit]
    exact readUnits_long long
  · rename_i quoted escaped _ _ _ _ _ printed
    exact readUnits_plain quoted escaped printed

theorem readUnits_escaped (chars : List Char) (rest : List Char) :
    readUnits (chars.flatMap escapeChar ++ '"' :: rest) = some (chars.map Char.toNat, rest) := by
  induction chars with
  | nil => exact readUnits_quote
  | cons c chars ih =>
      rw [List.flatMap_cons, List.append_assoc, readUnits_escapeChar, ih]
      rfl

/-- No character is a surrogate. -/
theorem joinUnits_map (chars : List Char) : joinUnits (chars.map Char.toNat) = some chars := by
  induction chars with
  | nil => rfl
  | cons c chars ih =>
      have valid := c.valid
      have scalar : c.toNat < 0xD800 ∨ 0xDFFF < c.toNat := by
        rcases valid with low | ⟨high, -⟩
        · exact .inl low
        · exact .inr high
      rw [List.map_cons, joinUnits.eq_def]
      simp only
      rw [if_neg (by omega), if_neg (by omega), ih]
      simp [Char.ofNat_toNat]

theorem readString_escaped (value : String) (rest : List Char) :
    readString (value.toList.flatMap escapeChar ++ '"' :: rest) = some (value, rest) := by
  unfold readString
  rw [readUnits_escaped]
  simp [joinUnits_map]

/-- The text does not go on with a character of a number. -/
def Delimited (rest : List Char) : Prop := ∀ c ∈ rest.head?, isNumberMark c = false

theorem Delimited.cons {c : Char} {rest : List Char} (other : isNumberMark c = false) :
    Delimited (c :: rest) := by
  intro first found
  obtain rfl := Option.some.inj found
  exact other

theorem readNumber_text (value : NumberLiteral) {rest : List Char} (delimited : Delimited rest) :
    readNumber (value.text ++ rest) = some (value, rest) := by
  have stops : rest.takeWhile isNumberMark = [] ∧ rest.dropWhile isNumberMark = rest := by
    cases rest with
    | nil => simp
    | cons c rest =>
        have other := delimited c rfl
        simp [other]
  have taken : (value.text ++ rest).takeWhile isNumberMark = value.text := by
    rw [List.takeWhile_append_of_pos value.marks, stops.1, List.append_nil]
  have dropped : (value.text ++ rest).dropWhile isNumberMark = rest := by
    rw [List.dropWhile_append_of_pos value.marks, stops.2]
  unfold readNumber
  simp only [taken, dropped, value.grammar, dif_pos]

theorem NumberLiteral.head (value : NumberLiteral) :
    ∃ c rest, value.text = c :: rest ∧ isNumberMark c = true := by
  cases text : value.text with
  | nil =>
      have grammar := value.grammar
      rw [text] at grammar
      cases grammar
  | cons c rest => exact ⟨c, rest, rfl, value.marks c (by simp [text])⟩

/-! ## Values -/

mutual

/-- The keys of every dict are in order. -/
def Json.Canonical : Json → Prop
  | .array items => CanonicalItems items
  | .object members => (members.map Prod.fst).Pairwise (· < ·) ∧ CanonicalMembers members
  | _ => True

def CanonicalItems : List Json → Prop
  | [] => True
  | item :: items => item.Canonical ∧ CanonicalItems items

def CanonicalMembers : List (String × Json) → Prop
  | [] => True
  | (_, value) :: members => value.Canonical ∧ CanonicalMembers members

end

/-- A key after all others is inserted at the end. -/
theorem insertMember_last {key : String} {value : Json} {members : List (String × Json)}
    (before : ∀ member ∈ members, member.1 < key) :
    insertMember key value members = members ++ [(key, value)] := by
  induction members with
  | nil => rfl
  | cons member members ih =>
      have first : member.1 < key := before member (by simp)
      rw [insertMember, if_neg first.ne', if_neg (not_lt_of_gt first),
        ih fun other later => before other (by simp [later])]
      rfl

theorem dictOf_sorted {members : List (String × Json)}
    (sorted : (members.map Prod.fst).Pairwise (· < ·)) : dictOf members = members := by
  suffices rule : ∀ rest done : List (String × Json),
      ((done ++ rest).map Prod.fst).Pairwise (· < ·) →
      rest.foldl (fun members pair => insertMember pair.1 pair.2 members) done = done ++ rest from
    rule members [] sorted
  intro rest
  induction rest with
  | nil => simp
  | cons pair rest ih =>
      intro done sorted
      have before : ∀ member ∈ done, member.1 < pair.1 := by
        intro member among
        rw [List.map_append, List.pairwise_append] at sorted
        exact sorted.2.2 _ (List.mem_map_of_mem among) _ (by simp)
      rw [List.foldl_cons, insertMember_last before, ih (done ++ [pair]) (by simpa using sorted)]
      simp

theorem canonicalMembers_iff {members : List (String × Json)} :
    CanonicalMembers members ↔ ∀ member ∈ members, member.2.Canonical := by
  induction members with
  | nil => simp [CanonicalMembers]
  | cons member members ih => simp [CanonicalMembers, ih]

section

variable {key : String} {value : Json} {members : List (String × Json)}

theorem mem_insertMember {member : String × Json}
    (among : member ∈ insertMember key value members) :
    member = (key, value) ∨ member ∈ members := by
  induction members with
  | nil => exact .inl (List.mem_singleton.mp among)
  | cons held members ih =>
      rw [insertMember] at among
      split at among
      · rcases List.mem_cons.mp among with rfl | later
        · exact .inl rfl
        · exact .inr (List.mem_cons_of_mem _ later)
      · split at among
        · exact List.mem_cons.mp among
        · rcases List.mem_cons.mp among with rfl | later
          · exact .inr List.mem_cons_self
          · exact (ih later).imp_right (List.mem_cons_of_mem _)

theorem insertMember_sorted (sorted : (members.map Prod.fst).Pairwise (· < ·)) :
    ((insertMember key value members).map Prod.fst).Pairwise (· < ·) := by
  induction members with
  | nil => simp [insertMember]
  | cons held members ih =>
      rw [List.map_cons, List.pairwise_cons] at sorted
      obtain ⟨first, rest⟩ := sorted
      rw [insertMember]
      split
      · rename_i same
        rw [List.map_cons, List.pairwise_cons, same]
        exact ⟨first, rest⟩
      · rename_i different
        split
        · rename_i before
          simp only [List.map_cons, List.pairwise_cons, List.mem_cons]
          refine ⟨?_, first, rest⟩
          rintro other (rfl | later)
          · exact before
          · exact before.trans (first other later)
        · rename_i after
          rw [List.map_cons, List.pairwise_cons]
          refine ⟨fun other among => ?_, ih rest⟩
          obtain ⟨member, inserted, rfl⟩ := List.mem_map.mp among
          rcases mem_insertMember inserted with rfl | later
          · exact lt_of_le_of_ne (not_lt.mp after) fun same => different same.symm
          · exact first _ (List.mem_map_of_mem later)

theorem lookup_insertMember : (insertMember key value members).lookup key = some value := by
  induction members with
  | nil => simp [insertMember]
  | cons held members ih =>
      rw [insertMember]
      split
      · simp
      · rename_i different
        split
        · simp
        · have other : (key == held.1) = false := beq_eq_false_iff_ne.mpr different
          rw [List.lookup_cons, other]
          exact ih

/-- Without its key the dict is as it was. -/
theorem filter_insertMember (new : ∀ member ∈ members, member.1 ≠ key) :
    (insertMember key value members).filter (fun member => member.1 ≠ key) = members := by
  induction members with
  | nil => simp [insertMember]
  | cons held members ih =>
      have first : held.1 ≠ key := new held (by simp)
      have rest : ∀ member ∈ members, member.1 ≠ key := fun member later =>
        new member (by simp [later])
      have kept : members.filter (fun member => member.1 ≠ key) = members :=
        List.filter_eq_self.mpr fun member later => by simpa using rest member later
      rw [insertMember, if_neg fun same => first same.symm]
      split
      · simp only [ne_eq, decide_not] at kept
        simp [first, kept]
      · have later := ih rest
        simp only [ne_eq, decide_not] at later
        simp [first, later]

theorem Json.Canonical.insertMember (canonical : (Json.object members).Canonical)
    (value_ : value.Canonical) : (Json.object (insertMember key value members)).Canonical := by
  rw [Json.Canonical] at canonical ⊢
  refine ⟨insertMember_sorted canonical.1, canonicalMembers_iff.mpr fun member among => ?_⟩
  rcases mem_insertMember among with rfl | held
  · exact value_
  · exact canonicalMembers_iff.mp canonical.2 member held

theorem Json.Canonical.filter (canonical : (Json.object members).Canonical)
    (keep : String × Json → Bool) : (Json.object (members.filter keep)).Canonical := by
  rw [Json.Canonical] at canonical ⊢
  refine ⟨?_, canonicalMembers_iff.mpr fun member among => ?_⟩
  · exact canonical.1.sublist (List.filter_sublist.map Prod.fst)
  · exact canonicalMembers_iff.mp canonical.2 member (List.mem_of_mem_filter among)

end

/-- A value starts with a character that is no blank and closes no list. -/
theorem Json.write_head (value : Json) :
    ∃ c rest, value.write = c :: rest ∧ isBlank c = false ∧ c ≠ ']' := by
  have mark : ∀ c, isNumberMark c = true → isBlank c = false ∧ c ≠ ']' := by
    intro c marked
    constructor
    · unfold isBlank
      simp only [Bool.or_eq_false_iff, decide_eq_false_iff_not]
      refine ⟨⟨⟨?_, ?_⟩, ?_⟩, ?_⟩
      all_goals
        rintro rfl
        revert marked
        decide
    · rintro rfl
      revert marked
      decide
  cases value with
  | null => exact ⟨_, _, rfl, by decide, by decide⟩
  | bool value => cases value <;> exact ⟨_, _, rfl, by decide, by decide⟩
  | number value =>
      obtain ⟨c, rest, text, marked⟩ := value.head
      exact ⟨c, rest, text, mark c marked⟩
  | string value => exact ⟨_, _, rfl, by decide, by decide⟩
  | array items =>
      cases items with
      | nil => exact ⟨_, _, rfl, by decide, by decide⟩
      | cons item items => exact ⟨_, _, rfl, by decide, by decide⟩
  | object members =>
      cases members with
      | nil => exact ⟨_, _, rfl, by decide, by decide⟩
      | cons member members => exact ⟨_, _, rfl, by decide, by decide⟩

theorem skipBlanks_cons {c : Char} {rest : List Char} (solid : isBlank c = false) :
    skipBlanks (c :: rest) = c :: rest := by
  simp [skipBlanks, solid]

theorem skipBlanks_write (value : Json) (rest : List Char) :
    skipBlanks (value.write ++ rest) = value.write ++ rest := by
  obtain ⟨c, text, written, solid, -⟩ := value.write_head
  rw [written, List.cons_append, skipBlanks_cons solid]

theorem writeItems_delimited (items : List Json) (rest : List Char) :
    Delimited (writeItems items ++ rest) := by
  cases items with
  | nil => exact .cons (by decide)
  | cons item items => exact .cons (by decide)

theorem writeMembers_delimited (members : List (String × Json)) (rest : List Char) :
    Delimited (writeMembers members ++ rest) := by
  cases members with
  | nil => exact .cons (by decide)
  | cons member members => exact .cons (by decide)

/-! ## The round trip -/

theorem readValue_string {fuel : Nat} (value : String) (rest : List Char) :
    readValue (fuel + 1) (quote value ++ rest) = some (.string value, rest) := by
  have text : quote value ++ rest = '"' :: (value.toList.flatMap escapeChar ++ '"' :: rest) := by
    simp [quote]
  rw [text, readValue.eq_def]
  simp [readString_escaped]

theorem readValue_number {fuel : Nat} (value : NumberLiteral) {rest : List Char}
    (delimited : Delimited rest) :
    readValue (fuel + 1) (value.text ++ rest) = some (.number value, rest) := by
  obtain ⟨c, text, same, marked⟩ := value.head
  have other : ∀ d : Char, isNumberMark d = false → c ≠ d := by
    rintro d unmarked rfl
    rw [marked] at unmarked
    cases unmarked
  have whole := readNumber_text value delimited
  rw [same, List.cons_append] at whole
  rw [same, List.cons_append, readValue.eq_def]
  simp only
  rw [if_neg (other _ (by decide)), if_neg (other _ (by decide)), if_neg (other _ (by decide)),
    if_neg (other _ (by decide)), if_neg (other _ (by decide)), if_neg (other _ (by decide)), whole]
  rfl

mutual

/-- A written value is read again; the text before it is fuel enough. -/
theorem readValue_write : ∀ (value : Json) (fuel : Nat) (rest : List Char), value.Canonical →
    value.write.length ≤ fuel → Delimited rest →
    readValue fuel (value.write ++ rest) = some (value, rest)
  | value, 0, rest, _, enough, _ => by
      obtain ⟨c, text, written, -⟩ := value.write_head
      rw [written] at enough
      simp at enough
  | .null, fuel + 1, rest, _, _, _ => by
      rw [Json.write, readValue.eq_def]
      simp
  | .bool true, fuel + 1, rest, _, _, _ => by
      rw [Json.write, readValue.eq_def]
      simp
  | .bool false, fuel + 1, rest, _, _, _ => by
      rw [Json.write, readValue.eq_def]
      simp
  | .number value, fuel + 1, rest, _, _, delimited => by
      rw [Json.write]
      exact readValue_number value delimited
  | .string value, fuel + 1, rest, _, _, _ => by
      rw [Json.write]
      exact readValue_string value rest
  | .array [], fuel + 1, rest, _, _, _ => by
      rw [Json.write, readValue.eq_def]
      simp [skipBlanks, isBlank]
  | .array (item :: items), fuel + 1, rest, canonical, enough, _ => by
      rw [Json.Canonical] at canonical
      rw [Json.write, List.length_cons] at enough
      have all := readItems_write item items fuel rest canonical (by omega)
      obtain ⟨c, text, written, solid, opens⟩ := item.write_head
      have skipped := skipBlanks_write item (writeItems items ++ rest)
      rw [Json.write, readValue.eq_def]
      simp only [List.cons_append, List.append_assoc, skipped]
      rw [written, List.cons_append] at all ⊢
      simp [opens, all]
  | .object [], fuel + 1, rest, _, _, _ => by
      rw [Json.write, readValue.eq_def]
      simp [skipBlanks, isBlank]
  | .object ((key, value) :: members), fuel + 1, rest, canonical, enough, _ => by
      rw [Json.Canonical] at canonical
      rw [Json.write] at enough
      simp only [List.length_cons, List.length_append] at enough
      have all := readMembers_write key value members fuel rest canonical.2
        (by rw [List.length_append]; omega)
      have skipped : skipBlanks ('"' :: (key.toList.flatMap escapeChar ++
          '"' :: ':' :: (value.write ++ (writeMembers members ++ rest)))) = _ :=
        skipBlanks_cons (by decide)
      rw [Json.write, readValue.eq_def]
      simp only [quote, List.cons_append, List.append_assoc, List.nil_append, skipped]
      simp [all, dictOf_sorted canonical.1]

theorem readItems_write : ∀ (item : Json) (items : List Json) (fuel : Nat) (rest : List Char),
    CanonicalItems (item :: items) → (item.write ++ writeItems items).length ≤ fuel →
    readItems fuel (item.write ++ (writeItems items ++ rest)) = some (item :: items, rest)
  | item, items, 0, rest, _, enough => by
      obtain ⟨c, text, written, -⟩ := item.write_head
      rw [written] at enough
      simp at enough
  | item, [], fuel + 1, rest, canonical, enough => by
      rw [CanonicalItems] at canonical
      rw [writeItems, List.length_append, List.length_singleton] at enough
      have first := readValue_write item fuel (writeItems [] ++ rest) canonical.1 (by omega)
        (writeItems_delimited [] rest)
      rw [readItems, first]
      simp [writeItems, skipBlanks, isBlank]
  | item, next :: items, fuel + 1, rest, canonical, enough => by
      rw [CanonicalItems] at canonical
      rw [writeItems, List.length_append, List.length_cons] at enough
      have first := readValue_write item fuel (writeItems (next :: items) ++ rest) canonical.1
        (by omega) (writeItems_delimited (next :: items) rest)
      have others := readItems_write next items fuel rest canonical.2 (by omega)
      have skipped := skipBlanks_write next (writeItems items ++ rest)
      have comma : skipBlanks (',' :: (next.write ++ (writeItems items ++ rest))) = _ :=
        skipBlanks_cons (by decide)
      rw [readItems, first]
      simp only [writeItems, List.cons_append, List.append_assoc, Option.bind_eq_bind,
        Option.bind_some, comma]
      simp [skipped, others]

theorem readMembers_write : ∀ (key : String) (value : Json) (members : List (String × Json))
    (fuel : Nat) (rest : List Char), CanonicalMembers ((key, value) :: members) →
    (value.write ++ writeMembers members).length ≤ fuel →
    readMembers fuel (key.toList.flatMap escapeChar ++
        '"' :: ':' :: (value.write ++ (writeMembers members ++ rest))) =
      some ((key, value) :: members, rest)
  | key, value, members, 0, rest, _, enough => by
      obtain ⟨c, text, written, -⟩ := value.write_head
      rw [written] at enough
      simp at enough
  | key, value, [], fuel + 1, rest, canonical, enough => by
      rw [CanonicalMembers] at canonical
      rw [writeMembers, List.length_append, List.length_singleton] at enough
      have first := readValue_write value fuel (writeMembers [] ++ rest) canonical.1 (by omega)
        (writeMembers_delimited [] rest)
      have skipped := skipBlanks_write value (writeMembers [] ++ rest)
      have colon : skipBlanks (':' :: (value.write ++ (writeMembers [] ++ rest))) = _ :=
        skipBlanks_cons (by decide)
      rw [readMembers, readString_escaped]
      simp only [Option.bind_eq_bind, Option.bind_some, colon, skipped, first, if_true]
      simp [writeMembers, skipBlanks, isBlank]
  | key, value, (next, held) :: members, fuel + 1, rest, canonical, enough => by
      rw [CanonicalMembers] at canonical
      rw [writeMembers] at enough
      simp only [List.length_cons, List.length_append] at enough
      have first := readValue_write value fuel (writeMembers ((next, held) :: members) ++ rest)
        canonical.1 (by omega) (writeMembers_delimited ((next, held) :: members) rest)
      have others := readMembers_write next held members fuel rest canonical.2
        (by rw [List.length_append]; omega)
      have skipped := skipBlanks_write value (writeMembers ((next, held) :: members) ++ rest)
      have colon : skipBlanks
          (':' :: (value.write ++ (writeMembers ((next, held) :: members) ++ rest))) = _ :=
        skipBlanks_cons (by decide)
      have quoted : skipBlanks ('"' :: (next.toList.flatMap escapeChar ++
          '"' :: ':' :: (held.write ++ (writeMembers members ++ rest)))) = _ :=
        skipBlanks_cons (by decide)
      have comma : ∀ text, skipBlanks (',' :: text) = ',' :: text := fun text =>
        skipBlanks_cons (by decide)
      rw [readMembers, readString_escaped]
      simp only [Option.bind_eq_bind, Option.bind_some, colon, skipped, first, if_true]
      simp only [writeMembers, quote, List.cons_append, List.append_assoc, List.nil_append, comma,
        quoted]
      simp [others]

end

/-- What `json.dumps` writes, `json.loads` reads. -/
theorem read_write {value : Json} (canonical : value.Canonical) :
    readText value.write = some value := by
  have skipped := skipBlanks_write value []
  have ends : Delimited [] := by
    intro c found
    cases found
  have read := readValue_write value value.write.length [] canonical (Nat.le_refl _) ends
  rw [List.append_nil] at skipped read
  unfold readText
  rw [skipped, read]
  rfl

theorem decode_encode {value : Json} (canonical : value.Canonical) :
    Json.decode value.encode = some value := by
  have text : value.encode.toByteArray.utf8Decode? = some value.write.toArray :=
    List.utf8Decode?_utf8Encode
  unfold Json.decode
  rw [text]
  simpa using read_write canonical

end DesignHarness.Library
