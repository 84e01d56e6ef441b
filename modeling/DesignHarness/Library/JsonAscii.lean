import DesignHarness.Library.Json
import Mathlib.Data.List.Forall2

/-!
# JSON texts in ASCII

What `json.dumps` writes by default: every character outside of ASCII is escaped, and the members
of a dict stay in the order in which they are given.  `Reads text value` says that `json.loads`
reads the value from the text; it holds of a list or a dict when it holds of the parts.
-/

namespace DesignHarness.Library

/-! ## Strings -/

/-- The code units of a character in UTF-16. -/
def utf16 (c : Char) : List Nat :=
  if c.toNat < 0x10000 then [c.toNat]
  else [0xD800 + (c.toNat - 0x10000) / 0x400, 0xDC00 + (c.toNat - 0x10000) % 0x400]

/-- The `\u` escape of a code unit. -/
def unitEscape (unit : Nat) : List Char :=
  ['\\', 'u', hexDigit (unit / 4096), hexDigit (unit / 256 % 16), hexDigit (unit / 16 % 16),
    hexDigit (unit % 16)]

/-- `ESCAPE_DCT` of `json.encoder`, with `ensure_ascii=True`. -/
def escapeAscii (c : Char) : List Char :=
  if c.toNat < 0x7F then escapeChar c else (utf16 c).flatMap unitEscape

def quoteAscii (value : String) : List Char :=
  '"' :: (value.toList.flatMap escapeAscii ++ ['"'])

section

variable {c : Char} {rest : List Char}

theorem readUnits_unitEscape {unit : Nat} (small : unit < 0x10000) :
    readUnits (unitEscape unit ++ rest) =
      (readUnits rest).map fun found => (unit :: found.1, found.2) := by
  have first := hexValue_hexDigit (unit / 4096) (by omega)
  have second := hexValue_hexDigit (unit / 256 % 16) (by omega)
  have third := hexValue_hexDigit (unit / 16 % 16) (by omega)
  have fourth := hexValue_hexDigit (unit % 16) (by omega)
  have sum : ((unit / 4096 * 16 + unit / 256 % 16) * 16 + unit / 16 % 16) * 16 + unit % 16 =
      unit := by omega
  have long : hexUnit (hexDigit (unit / 4096)) (hexDigit (unit / 256 % 16))
      (hexDigit (unit / 16 % 16)) (hexDigit (unit % 16)) = some unit := by
    simp [hexUnit, first, second, third, fourth, sum]
  exact readUnits_long long

theorem toNat_lt (c : Char) : c.toNat < 0x110000 := by
  rcases c.valid with low | ⟨-, high⟩
  · exact Nat.lt_trans low (by decide)
  · exact high

theorem utf16_lt : ∀ unit ∈ utf16 c, unit < 0x10000 := by
  have bound := toNat_lt c
  unfold utf16
  split
  · simp only [List.mem_singleton]
    omega
  · simp only [List.mem_cons, List.not_mem_nil, or_false]
    omega

theorem readUnits_units {units : List Nat} (small : ∀ unit ∈ units, unit < 0x10000) :
    readUnits (units.flatMap unitEscape ++ rest) =
      (readUnits rest).map fun found => (units ++ found.1, found.2) := by
  induction units with
  | nil => cases found : readUnits rest <;> simp [found]
  | cons unit units ih =>
      have others := ih fun other member => small other (List.mem_cons_of_mem _ member)
      rw [List.flatMap_cons, List.append_assoc,
        readUnits_unitEscape (small unit List.mem_cons_self), others]
      cases found : readUnits rest <;> simp

theorem readUnits_escapeAscii :
    readUnits (escapeAscii c ++ rest) =
      (readUnits rest).map fun found => (utf16 c ++ found.1, found.2) := by
  unfold escapeAscii
  split
  · rename_i small
    have alone : utf16 c = [c.toNat] := if_pos (by omega)
    rw [alone, readUnits_escapeChar]
    rfl
  · exact readUnits_units utf16_lt

theorem readUnits_ascii (chars : List Char) :
    readUnits (chars.flatMap escapeAscii ++ '"' :: rest) = some (chars.flatMap utf16, rest) := by
  induction chars with
  | nil => exact readUnits_quote
  | cons c chars ih =>
      rw [List.flatMap_cons, List.append_assoc, readUnits_escapeAscii, ih]
      rfl

theorem joinUnits_utf16 (chars : List Char) : joinUnits (chars.flatMap utf16) = some chars := by
  induction chars with
  | nil => rfl
  | cons c chars ih =>
      have bound := toNat_lt c
      rw [List.flatMap_cons, utf16]
      split
      · have scalar : c.toNat < 0xD800 ∨ 0xDFFF < c.toNat := by
          rcases c.valid with low | ⟨high, -⟩
          · exact .inl low
          · exact .inr high
        rw [List.singleton_append, joinUnits.eq_def]
        simp only
        rw [if_neg (by omega), if_neg (by omega), ih]
        simp [Char.ofNat_toNat]
      · have whole : 0x10000 + (0xD800 + (c.toNat - 0x10000) / 0x400 - 0xD800) * 0x400 +
            (0xDC00 + (c.toNat - 0x10000) % 0x400 - 0xDC00) = c.toNat := by omega
        rw [List.cons_append, List.singleton_append, joinUnits.eq_def]
        simp only
        rw [if_pos (by omega), if_pos (by omega), ih, whole]
        simp [Char.ofNat_toNat]

theorem readString_ascii (value : String) :
    readString (value.toList.flatMap escapeAscii ++ '"' :: rest) = some (value, rest) := by
  unfold readString
  rw [readUnits_ascii]
  simp [joinUnits_utf16]

end

/-! ## Texts of values -/

/-- The value is read from the text, whatever delimits it. -/
structure Reads (text : List Char) (value : Json) : Prop where
  head : ∃ c rest, text = c :: rest ∧ isBlank c = false ∧ c ≠ ']'
  read : ∀ fuel rest, text.length ≤ fuel → Delimited rest →
    readValue fuel (text ++ rest) = some (value, rest)

def itemsText : List (List Char) → List Char
  | [] => [']']
  | text :: texts => ',' :: (text ++ itemsText texts)

/-- A list of texts of values. -/
def arrayText : List (List Char) → List Char
  | [] => ['[', ']']
  | text :: texts => '[' :: (text ++ itemsText texts)

def membersText : List (String × List Char) → List Char
  | [] => ['}']
  | (key, text) :: members => ',' :: (quoteAscii key ++ ':' :: (text ++ membersText members))

/-- A dict of texts of values. -/
def objectText : List (String × List Char) → List Char
  | [] => ['{', '}']
  | (key, text) :: members => '{' :: (quoteAscii key ++ ':' :: (text ++ membersText members))

section

variable {text rest : List Char} {value : Json}

theorem Reads.skipBlanks (reads : Reads text value) : skipBlanks (text ++ rest) = text ++ rest := by
  obtain ⟨c, tail, rfl, solid, -⟩ := reads.head
  rw [List.cons_append, skipBlanks_cons solid]

theorem Reads.string (value : String) : Reads (quoteAscii value) (.string value) := by
  refine ⟨⟨_, _, rfl, by decide, by decide⟩, fun fuel rest enough _ => ?_⟩
  cases fuel with
  | zero => simp [quoteAscii] at enough
  | succ fuel =>
      have text : quoteAscii value ++ rest =
          '"' :: (value.toList.flatMap escapeAscii ++ '"' :: rest) := by simp [quoteAscii]
      rw [text, readValue.eq_def]
      simp [readString_ascii]

theorem Reads.number (value : NumberLiteral) : Reads value.text (.number value) := by
  refine ⟨?_, fun fuel rest enough delimited => ?_⟩
  · obtain ⟨c, tail, same, solid, opens⟩ := Json.write_head (.number value)
    exact ⟨c, tail, same, solid, opens⟩
  · cases fuel with
    | zero =>
        obtain ⟨c, tail, same, -⟩ := value.head
        rw [same] at enough
        simp at enough
    | succ fuel => exact readValue_number value delimited

theorem itemsText_delimited (texts : List (List Char)) (rest : List Char) :
    Delimited (itemsText texts ++ rest) := by
  cases texts with
  | nil => exact .cons (by decide)
  | cons text texts => exact .cons (by decide)

theorem membersText_delimited (members : List (String × List Char)) (rest : List Char) :
    Delimited (membersText members ++ rest) := by
  cases members with
  | nil => exact .cons (by decide)
  | cons member members => exact .cons (by decide)

theorem readItems_texts {texts : List (List Char)} {values : List Json}
    (reads : Reads text value) (each : List.Forall₂ Reads texts values) (fuel : Nat)
    (enough : (text ++ itemsText texts).length ≤ fuel) :
    readItems fuel (text ++ (itemsText texts ++ rest)) = some (value :: values, rest) := by
  induction each generalizing text value fuel with
  | nil =>
      cases fuel with
      | zero =>
          obtain ⟨c, tail, rfl, -⟩ := reads.head
          simp at enough
      | succ fuel =>
          rw [itemsText, List.length_append, List.length_singleton] at enough
          have first := reads.read fuel (itemsText [] ++ rest) (by omega)
            (itemsText_delimited [] rest)
          rw [readItems, first]
          simp [itemsText, Library.skipBlanks, isBlank]
  | @cons next held texts values readsNext others ih =>
      cases fuel with
      | zero =>
          obtain ⟨c, tail, rfl, -⟩ := reads.head
          simp at enough
      | succ fuel =>
          rw [itemsText, List.length_append, List.length_cons] at enough
          have first := reads.read fuel (itemsText (next :: texts) ++ rest) (by omega)
            (itemsText_delimited (next :: texts) rest)
          have tail := ih readsNext fuel (by omega)
          have skipped := @Reads.skipBlanks next (itemsText texts ++ rest) held readsNext
          have comma : Library.skipBlanks (',' :: (next ++ (itemsText texts ++ rest))) = _ :=
            skipBlanks_cons (by decide)
          rw [readItems, first]
          simp only [itemsText, List.cons_append, List.append_assoc, Option.bind_eq_bind,
            Option.bind_some, comma]
          simp [skipped, tail]

theorem Reads.array {texts : List (List Char)} {values : List Json}
    (each : List.Forall₂ Reads texts values) : Reads (arrayText texts) (.array values) := by
  cases each with
  | nil =>
      refine ⟨⟨_, _, rfl, by decide, by decide⟩, fun fuel rest enough _ => ?_⟩
      cases fuel with
      | zero => simp [arrayText] at enough
      | succ fuel =>
          rw [arrayText, readValue.eq_def]
          simp [Library.skipBlanks, isBlank]
  | @cons text value texts values reads others =>
      refine ⟨⟨_, _, rfl, by decide, by decide⟩, fun fuel rest enough _ => ?_⟩
      cases fuel with
      | zero => simp [arrayText] at enough
      | succ fuel =>
          rw [arrayText, List.length_cons] at enough
          have all := @readItems_texts text rest value texts values reads others fuel (by omega)
          have skipped := @Reads.skipBlanks text (itemsText texts ++ rest) value reads
          obtain ⟨c, tail, rfl, solid, opens⟩ := reads.head
          rw [arrayText, readValue.eq_def]
          simp only [List.cons_append, List.append_assoc] at all skipped ⊢
          simp [skipped, opens, all]

theorem readMembers_texts {key : String} {members : List (String × List Char)}
    {values : List (String × Json)} (reads : Reads text value)
    (each : List.Forall₂ (fun member held => member.1 = held.1 ∧ Reads member.2 held.2) members
      values) (fuel : Nat) (enough : (text ++ membersText members).length ≤ fuel) :
    readMembers fuel (key.toList.flatMap escapeAscii ++
        '"' :: ':' :: (text ++ (membersText members ++ rest))) =
      some ((key, value) :: values, rest) := by
  induction each generalizing key text value fuel with
  | nil =>
      cases fuel with
      | zero =>
          obtain ⟨c, tail, rfl, -⟩ := reads.head
          simp at enough
      | succ fuel =>
          rw [membersText, List.length_append, List.length_singleton] at enough
          have first := reads.read fuel (membersText [] ++ rest) (by omega)
            (membersText_delimited [] rest)
          have skipped := @Reads.skipBlanks text (membersText [] ++ rest) value reads
          have colon : Library.skipBlanks (':' :: (text ++ (membersText [] ++ rest))) = _ :=
            skipBlanks_cons (by decide)
          rw [readMembers, readString_ascii]
          simp only [Option.bind_eq_bind, Option.bind_some, colon, skipped, first, if_true]
          simp [membersText, Library.skipBlanks, isBlank]
  | @cons member held members values both others ih =>
      obtain ⟨next, nextText⟩ := member
      obtain ⟨name, nextValue⟩ := held
      obtain ⟨rfl, readsNext⟩ : next = name ∧ Reads nextText nextValue := both
      cases fuel with
      | zero =>
          obtain ⟨c, tail, rfl, -⟩ := reads.head
          simp at enough
      | succ fuel =>
          rw [membersText] at enough
          simp only [List.length_cons, List.length_append] at enough
          have first := reads.read fuel (membersText ((next, nextText) :: members) ++ rest)
            (by omega) (membersText_delimited ((next, nextText) :: members) rest)
          have tail := @ih nextText nextValue next readsNext fuel
            (by rw [List.length_append]; omega)
          have skipped := @Reads.skipBlanks text
            (membersText ((next, nextText) :: members) ++ rest) value reads
          have colon : Library.skipBlanks
              (':' :: (text ++ (membersText ((next, nextText) :: members) ++ rest))) = _ :=
            skipBlanks_cons (by decide)
          have quoted : Library.skipBlanks ('"' :: (next.toList.flatMap escapeAscii ++
              '"' :: ':' :: (nextText ++ (membersText members ++ rest)))) = _ :=
            skipBlanks_cons (by decide)
          have comma : ∀ text, Library.skipBlanks (',' :: text) = ',' :: text := fun text =>
            skipBlanks_cons (by decide)
          rw [readMembers, readString_ascii]
          simp only [Option.bind_eq_bind, Option.bind_some, colon, skipped, first, if_true]
          simp only [membersText, quoteAscii, List.cons_append, List.append_assoc,
            List.nil_append, comma, quoted]
          simp [tail]

theorem Reads.object {key : String} {members : List (String × List Char)}
    {values : List (String × Json)} (reads : Reads text value)
    (each : List.Forall₂ (fun member held => member.1 = held.1 ∧ Reads member.2 held.2) members
      values) :
    Reads (objectText ((key, text) :: members)) (.object (dictOf ((key, value) :: values))) := by
  refine ⟨⟨_, _, rfl, by decide, by decide⟩, fun fuel rest enough _ => ?_⟩
  cases fuel with
  | zero => simp [objectText] at enough
  | succ fuel =>
      rw [objectText] at enough
      simp only [List.length_cons, List.length_append] at enough
      have all := @readMembers_texts text rest value key members values reads each fuel
        (by rw [List.length_append]; omega)
      have skipped : Library.skipBlanks ('"' :: (key.toList.flatMap escapeAscii ++
          '"' :: ':' :: (text ++ (membersText members ++ rest)))) = _ :=
        skipBlanks_cons (by decide)
      rw [objectText, readValue.eq_def]
      simp only [quoteAscii, List.cons_append, List.append_assoc, List.nil_append, skipped]
      simp [all]

/-- `json.loads` reads the whole text. -/
theorem Reads.readText (reads : Reads text value) : readText text = some value := by
  have ends : Delimited [] := by
    intro c found
    cases found
  have skipped := @Reads.skipBlanks text [] value reads
  have read := reads.read text.length [] (Nat.le_refl _) ends
  rw [List.append_nil] at skipped read
  unfold Library.readText
  rw [skipped, read]
  rfl

end

def IsAscii (text : List Char) : Prop := ∀ c ∈ text, c.toNat < 128

theorem IsAscii.nil : IsAscii [] := fun _ member => absurd member List.not_mem_nil

theorem IsAscii.append {text other : List Char} (first : IsAscii text) (second : IsAscii other) :
    IsAscii (text ++ other) :=
  fun c member => (List.mem_append.mp member).elim (first c) (second c)

theorem IsAscii.cons {c : Char} {text : List Char} (small : c.toNat < 128) (rest : IsAscii text) :
    IsAscii (c :: text) :=
  List.forall_mem_cons.mpr ⟨small, rest⟩

theorem IsAscii.pair {c d : Char} (first : c.toNat < 128) (second : d.toNat < 128) :
    IsAscii [c, d] :=
  .cons first (.cons second .nil)

theorem hexDigit_ascii : ∀ n < 16, (hexDigit n).toNat < 128 := by decide

theorem escapeChar_ascii {c : Char} (small : c.toNat < 128) : IsAscii (escapeChar c) := by
  have high := hexDigit_ascii (c.toNat / 16 % 16) (by omega)
  have low := hexDigit_ascii (c.toNat % 16) (by omega)
  unfold escapeChar
  split_ifs with _ _ _ _ _ _ _ control
  · exact .pair (by decide) (by decide)
  · exact .pair (by decide) (by decide)
  · exact .pair (by decide) (by decide)
  · exact .pair (by decide) (by decide)
  · exact .pair (by decide) (by decide)
  · exact .pair (by decide) (by decide)
  · exact .pair (by decide) (by decide)
  · rw [Nat.mod_eq_of_lt (by omega)] at high
    intro d member
    simp only [List.mem_cons, List.not_mem_nil, or_false] at member
    obtain rfl | rfl | rfl | rfl | rfl | rfl := member
    · decide
    · decide
    · decide
    · decide
    · exact high
    · exact low
  · intro d member
    obtain rfl := List.mem_singleton.mp member
    exact small

theorem unitEscape_ascii {unit : Nat} (small : unit < 0x10000) : IsAscii (unitEscape unit) := by
  have first := hexDigit_ascii (unit / 4096) (by omega)
  have second := hexDigit_ascii (unit / 256 % 16) (by omega)
  have third := hexDigit_ascii (unit / 16 % 16) (by omega)
  have fourth := hexDigit_ascii (unit % 16) (by omega)
  exact .cons (by decide) (.cons (by decide) (.cons first (.cons second (.cons third
    (.cons fourth .nil)))))

theorem quoteAscii_ascii (value : String) : IsAscii (quoteAscii value) := by
  have escaped : ∀ c, IsAscii (escapeAscii c) := by
    intro c
    unfold escapeAscii
    split
    · exact escapeChar_ascii (by omega)
    · intro d member
      obtain ⟨unit, among, listed⟩ := List.mem_flatMap.mp member
      exact unitEscape_ascii (utf16_lt unit among) d listed
  have inner : IsAscii (value.toList.flatMap escapeAscii) := by
    intro d member
    obtain ⟨c, -, listed⟩ := List.mem_flatMap.mp member
    exact escaped c d listed
  exact .cons (by decide) (inner.append (.cons (by decide) .nil))

theorem itemsText_ascii {texts : List (List Char)} (each : ∀ text ∈ texts, IsAscii text) :
    IsAscii (itemsText texts) := by
  induction texts with
  | nil => exact .cons (by decide) .nil
  | cons text texts ih =>
      obtain ⟨first, others⟩ := List.forall_mem_cons.mp each
      exact .cons (by decide) (first.append (ih others))

theorem arrayText_ascii {texts : List (List Char)} (each : ∀ text ∈ texts, IsAscii text) :
    IsAscii (arrayText texts) := by
  cases texts with
  | nil => exact .cons (by decide) (.cons (by decide) .nil)
  | cons text texts =>
      obtain ⟨first, others⟩ := List.forall_mem_cons.mp each
      exact .cons (by decide) (first.append (itemsText_ascii others))

theorem membersText_ascii {members : List (String × List Char)}
    (each : ∀ member ∈ members, IsAscii member.2) : IsAscii (membersText members) := by
  induction members with
  | nil => exact .cons (by decide) .nil
  | cons member members ih =>
      obtain ⟨first, others⟩ := List.forall_mem_cons.mp each
      exact .cons (by decide) ((quoteAscii_ascii member.1).append
        (.cons (by decide) (first.append (ih others))))

theorem objectText_ascii {members : List (String × List Char)}
    (each : ∀ member ∈ members, IsAscii member.2) : IsAscii (objectText members) := by
  cases members with
  | nil => exact .cons (by decide) (.cons (by decide) .nil)
  | cons member members =>
      obtain ⟨first, others⟩ := List.forall_mem_cons.mp each
      exact .cons (by decide) ((quoteAscii_ascii member.1).append
        (.cons (by decide) (first.append (membersText_ascii others))))

end DesignHarness.Library
