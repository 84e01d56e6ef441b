import DesignHarness.Library.Json

/-!
# Texts cut short

A text that starts with a brace and goes on with a whole object is no JSON text, wherever its first
part was cut.  `scan` follows strings and brackets through a text, byte by byte; `readText` accepts
a text only where the scan ends outside of them (`scan_of_readText`), and over a whole object the
scan ends where it began: inside a string or outside, at the same depth.
-/

namespace DesignHarness.Library

/-- Where a scan stands in the text of an object; the depth counts the brackets around the outer
    one. -/
inductive Scan where
  | start
  | outside (depth : Nat)
  | inside (depth : Nat)
  | escaped (depth : Nat)
  | done
  | failed
  deriving DecidableEq, Repr

namespace Scan

/-- The scan after a closing bracket. -/
def close : Nat → Scan
  | 0 => .done
  | depth + 1 => .outside depth

/-- One code: a byte, or the code point of a character. -/
def step : Scan → Nat → Scan
  | .start, code => if code = 0x7B then .outside 0 else .failed
  | .outside depth, code =>
      if code = 0x22 then .inside depth
      else if code = 0x5C then .failed
      else if code = 0x7B ∨ code = 0x5B then .outside (depth + 1)
      else if code = 0x7D ∨ code = 0x5D then close depth
      else .outside depth
  | .inside depth, code =>
      if code = 0x22 then .outside depth
      else if code = 0x5C then .escaped depth
      else .inside depth
  | .escaped depth, _ => .inside depth
  | .done, code =>
      if code = 0x20 ∨ code = 0x09 ∨ code = 0x0A ∨ code = 0x0D then .done else .failed
  | .failed, _ => .failed

end Scan

def scan (state : Scan) (codes : List Nat) : Scan := codes.foldl Scan.step state

/-- The codes of a text. -/
def codesOf (text : List Char) : List Nat := text.map Char.toNat

section

variable {state : Scan} {codes more : List Nat} {code depth : Nat} {c : Char}
  {text rest other : List Char}

@[simp] theorem scan_cons : scan state (code :: codes) = scan (state.step code) codes := rfl

theorem scan_append : scan state (codes ++ more) = scan (scan state codes) more :=
  List.foldl_append

@[simp] theorem scan_failed : scan .failed codes = .failed := by
  induction codes with
  | nil => rfl
  | cons code codes ih => exact ih

@[simp] theorem codesOf_cons : codesOf (c :: text) = c.toNat :: codesOf text := rfl

@[simp] theorem codesOf_append : codesOf (text ++ other) = codesOf text ++ codesOf other :=
  List.map_append

/-! ## What is read -/

/-- The scan passes over the text. -/
def Neutral (text : List Char) : Prop :=
  ∀ depth, scan (.outside depth) (codesOf text) = .outside depth

/-- A character that the scan passes over outside of strings. -/
def isPlain (c : Char) : Bool :=
  c ≠ '"' && c ≠ '\\' && c ≠ '{' && c ≠ '[' && c ≠ '}' && c ≠ ']'

theorem step_plain (plain : isPlain c = true) :
    (Scan.outside depth).step c.toNat = .outside depth := by
  have other : ∀ d : Char, isPlain d = false → c.toNat ≠ d.toNat := by
    intro d marked same
    have equal : c = d := Char.toNat_inj.mp same
    rw [← equal, plain] at marked
    cases marked
  have quoted : c.toNat ≠ 0x22 := other '"' (by decide)
  have slash : c.toNat ≠ 0x5C := other '\\' (by decide)
  have brace : c.toNat ≠ 0x7B := other '{' (by decide)
  have bracket : c.toNat ≠ 0x5B := other '[' (by decide)
  have closed : c.toNat ≠ 0x7D := other '}' (by decide)
  have ended : c.toNat ≠ 0x5D := other ']' (by decide)
  simp only [Scan.step]
  rw [if_neg quoted, if_neg slash, if_neg (not_or.mpr ⟨brace, bracket⟩),
    if_neg (not_or.mpr ⟨closed, ended⟩)]

theorem Neutral.of_plain (plain : ∀ c ∈ text, isPlain c = true) : Neutral text := by
  intro depth
  induction text with
  | nil => rfl
  | cons c text ih =>
      rw [codesOf_cons, scan_cons, step_plain (plain c (by simp))]
      exact ih fun other later => plain other (by simp [later])

theorem Neutral.append (first : Neutral text) (second : Neutral other) :
    Neutral (text ++ other) := by
  intro depth
  rw [codesOf_append, scan_append, first, second]

theorem plain_of_blank (blank : isBlank c = true) : isPlain c = true := by
  unfold isBlank at blank
  simp only [Bool.or_eq_true, decide_eq_true_eq] at blank
  rcases blank with ((rfl | rfl) | rfl) | rfl <;> decide

theorem plain_of_mark (mark : isNumberMark c = true) : isPlain c = true := by
  unfold isPlain
  simp only [Bool.and_eq_true, decide_eq_true_eq]
  refine ⟨⟨⟨⟨⟨?_, ?_⟩, ?_⟩, ?_⟩, ?_⟩, ?_⟩
  all_goals
    rintro rfl
    revert mark
    decide

/-- The blanks that are skipped. -/
theorem skipBlanks_split (text : List Char) :
    ∃ blanks, text = blanks ++ skipBlanks text ∧ ∀ c ∈ blanks, isBlank c = true :=
  ⟨text.takeWhile isBlank, (List.takeWhile_append_dropWhile).symm,
    fun _ member => List.mem_takeWhile_imp member⟩

theorem skipBlanks_neutral (text : List Char) :
    ∃ blanks, text = blanks ++ skipBlanks text ∧ Neutral blanks := by
  obtain ⟨blanks, split, blank⟩ := skipBlanks_split text
  exact ⟨blanks, split, .of_plain fun c member => plain_of_blank (blank c member)⟩

theorem plain_of_hex {value : Nat} (digit : hexValue c = some value) :
    c.toNat ≠ 0x22 ∧ c.toNat ≠ 0x5C := by
  unfold hexValue at digit
  split at digit
  · omega
  · split at digit
    · omega
    · split at digit
      · omega
      · cases digit

theorem step_inside (quoted : c.toNat ≠ 0x22) (slash : c.toNat ≠ 0x5C) :
    (Scan.inside depth).step c.toNat = .inside depth := by
  simp [Scan.step, quoted, slash]

/-- A string is read up to the quote that ends it for the scan. -/
theorem scan_of_readUnits {units : List Nat} (read : readUnits text = some (units, rest)) :
    ∃ used, text = used ++ rest ∧
      ∀ depth, scan (.inside depth) (codesOf used) = .outside depth := by
  induction text using readUnits.induct generalizing units with
  | case1 => cases read
  | case2 text =>
      rw [readUnits_quote] at read
      obtain ⟨-, rfl⟩ := Prod.ext_iff.mp (Option.some.inj read)
      exact ⟨[ '"'], rfl, fun _ => rfl⟩
  | case3 =>
      rw [readUnits.eq_def] at read
      cases read
  | case4 a b c d text _ ih =>
      rw [readUnits.eq_def] at read
      simp [Option.bind_eq_some_iff] at read
      obtain ⟨unit, long, later, found, -⟩ := read
      obtain ⟨used, rfl, scanned⟩ := ih found
      simp only [hexUnit, Option.bind_eq_bind, Option.bind_eq_some_iff] at long
      obtain ⟨_, first, _, second, _, third, _, fourth, -⟩ := long
      refine ⟨'\\' :: 'u' :: a :: b :: c :: d :: used, rfl, fun depth => ?_⟩
      have escape : ((Scan.inside depth).step '\\'.toNat).step 'u'.toNat = .inside depth := rfl
      simp only [codesOf_cons, scan_cons, escape]
      rw [step_inside (plain_of_hex first).1 (plain_of_hex first).2,
        step_inside (plain_of_hex second).1 (plain_of_hex second).2,
        step_inside (plain_of_hex third).1 (plain_of_hex third).2,
        step_inside (plain_of_hex fourth).1 (plain_of_hex fourth).2, scanned]
  | case5 text short =>
      rw [readUnits.eq_def] at read
      simp only [if_true] at read
      rw [if_neg (by decide)] at read
      cases read
  | case6 e text other _ ih =>
      rw [readUnits.eq_def] at read
      simp [other, Option.bind_eq_some_iff] at read
      obtain ⟨unit, -, later, found, -⟩ := read
      obtain ⟨used, rfl, scanned⟩ := ih found
      refine ⟨'\\' :: e :: used, rfl, fun depth => ?_⟩
      have escape : ((Scan.inside depth).step '\\'.toNat).step e.toNat = .inside depth := rfl
      simp only [codesOf_cons, scan_cons, escape, scanned]
  | case7 c text quoted slash control =>
      rw [readUnits.eq_def] at read
      simp [quoted, slash, control] at read
  | case8 c text quoted slash printed ih =>
      rw [readUnits_plain quoted slash printed, Option.map_eq_some_iff] at read
      obtain ⟨⟨later, ended⟩, found, same⟩ := read
      obtain ⟨-, rfl⟩ := Prod.ext_iff.mp same
      obtain ⟨used, rfl, scanned⟩ := ih found
      refine ⟨c :: used, rfl, fun depth => ?_⟩
      have quoted' : c.toNat ≠ 0x22 := fun same => quoted (Char.toNat_inj.mp same)
      have slash' : c.toNat ≠ 0x5C := fun same => slash (Char.toNat_inj.mp same)
      rw [codesOf_cons, scan_cons, step_inside quoted' slash', scanned]

/-- A string, from its opening quote on. -/
theorem scan_of_readString {value : String} (read : readString text = some (value, rest)) :
    ∃ used, text = used ++ rest ∧
      ∀ depth, scan (.inside depth) (codesOf used) = .outside depth := by
  unfold readString at read
  simp [Option.bind_eq_some_iff] at read
  obtain ⟨units, found, -⟩ := read
  exact scan_of_readUnits found

/-- The scan leaves the bracket that is open. -/
def Closes (text : List Char) : Prop :=
  ∀ depth, scan (.outside depth) (codesOf text) = Scan.close depth

theorem Neutral.closes (first : Neutral text) (second : Closes other) : Closes (text ++ other) := by
  intro depth
  rw [codesOf_append, scan_append, first, second]

theorem Closes.brace : Closes ['}'] := fun _ => rfl

theorem Closes.bracket : Closes [']'] := fun _ => rfl

theorem Neutral.of_braces (closes : Closes text) : Neutral ('{' :: text) := by
  intro depth
  have opened : (Scan.outside depth).step '{'.toNat = .outside (depth + 1) := rfl
  rw [codesOf_cons, scan_cons, opened, closes]
  rfl

theorem Neutral.of_brackets (closes : Closes text) : Neutral ('[' :: text) := by
  intro depth
  have opened : (Scan.outside depth).step '['.toNat = .outside (depth + 1) := rfl
  rw [codesOf_cons, scan_cons, opened, closes]
  rfl

theorem Neutral.of_quoted
    (scanned : ∀ depth, scan (.inside depth) (codesOf text) = .outside depth) :
    Neutral ('"' :: text) := by
  intro depth
  have opened : (Scan.outside depth).step '"'.toNat = .inside depth := rfl
  rw [codesOf_cons, scan_cons, opened, scanned]

theorem Neutral.comma : Neutral [','] := fun _ => rfl

theorem Neutral.colon : Neutral [':'] := fun _ => rfl

/-- What follows a first character that was met after blanks. -/
theorem skipped_split (met : skipBlanks text = c :: rest) :
    ∃ blanks, text = blanks ++ c :: rest ∧ Neutral blanks := by
  obtain ⟨blanks, split, neutral⟩ := skipBlanks_neutral text
  rw [met] at split
  exact ⟨blanks, split, neutral⟩

end

/-- What the readers read with some fuel, the scan passes over. -/
structure Scanned (fuel : Nat) : Prop where
  value : ∀ text value rest, readValue fuel text = some (value, rest) →
    ∃ used, text = used ++ rest ∧ Neutral used
  items : ∀ text items rest, readItems fuel text = some (items, rest) →
    ∃ used, text = used ++ rest ∧ Closes used
  members : ∀ text members rest, readMembers fuel text = some (members, rest) →
    ∃ used, text = used ++ rest ∧ Closes ('"' :: used)

section

variable {fuel : Nat} {text rest : List Char}

/-- After its opening brace. -/
theorem scan_of_object (inner : Scanned fuel) {value : Json}
    (read : readValue (fuel + 1) ('{' :: text) = some (value, rest)) :
    ∃ used, text = used ++ rest ∧ Closes used := by
  rw [readValue.eq_def] at read
  simp only at read
  rw [if_neg (by decide), if_pos trivial] at read
  cases met : skipBlanks text with
  | nil => simp [met] at read
  | cons c later =>
      obtain ⟨blanks, rfl, neutral⟩ := skipped_split met
      simp only [met] at read
      by_cases closed : c = '}'
      · subst closed
        simp at read
        obtain ⟨-, rfl⟩ := read
        exact ⟨blanks ++ ['}'], by simp, neutral.closes .brace⟩
      · by_cases quoted : c = '"'
        · subst quoted
          simp [Option.bind_eq_some_iff] at read
          obtain ⟨members, found, -⟩ := read
          obtain ⟨used, rfl, closes⟩ := inner.members _ _ _ found
          exact ⟨blanks ++ '"' :: used, by simp, neutral.closes closes⟩
        · simp [closed, quoted] at read

theorem scan_of_array (inner : Scanned fuel) {value : Json}
    (read : readValue (fuel + 1) ('[' :: text) = some (value, rest)) :
    ∃ used, text = used ++ rest ∧ Closes used := by
  rw [readValue.eq_def] at read
  simp only at read
  rw [if_neg (by decide), if_neg (by decide), if_pos trivial] at read
  cases met : skipBlanks text with
  | nil => simp [met] at read
  | cons c later =>
      obtain ⟨blanks, rfl, neutral⟩ := skipped_split met
      simp only [met] at read
      by_cases closed : c = ']'
      · subst closed
        simp at read
        obtain ⟨-, rfl⟩ := read
        exact ⟨blanks ++ [']'], by simp, neutral.closes .bracket⟩
      · simp [closed, Option.bind_eq_some_iff] at read
        obtain ⟨items, found, -⟩ := read
        obtain ⟨used, split, closes⟩ := inner.items _ _ _ found
        exact ⟨blanks ++ used, by rw [split, List.append_assoc], neutral.closes closes⟩

theorem scan_of_word {word : List Char} {n : Nat} (same : text.take n = word)
    (plain : ∀ c ∈ word, isPlain c = true) :
    ∃ used, text = used ++ text.drop n ∧ Neutral used :=
  ⟨word, by rw [← same, List.take_append_drop], .of_plain plain⟩

theorem scan_of_value (inner : Scanned fuel) {value : Json}
    (read : readValue (fuel + 1) text = some (value, rest)) :
    ∃ used, text = used ++ rest ∧ Neutral used := by
  cases text with
  | nil => cases read
  | cons c text =>
      by_cases quoted : c = '"'
      · subst quoted
        rw [readValue.eq_def] at read
        simp [Option.bind_eq_some_iff] at read
        obtain ⟨string, found, -⟩ := read
        obtain ⟨used, rfl, scanned⟩ := scan_of_readString found
        exact ⟨'"' :: used, rfl, .of_quoted scanned⟩
      by_cases brace : c = '{'
      · subst brace
        obtain ⟨used, rfl, closes⟩ := scan_of_object inner read
        exact ⟨'{' :: used, rfl, .of_braces closes⟩
      by_cases bracket : c = '['
      · subst bracket
        obtain ⟨used, rfl, closes⟩ := scan_of_array inner read
        exact ⟨'[' :: used, rfl, .of_brackets closes⟩
      rw [readValue.eq_def] at read
      simp only [if_neg quoted, if_neg brace, if_neg bracket] at read
      have word : ∀ {n : Nat} {letters : List Char}, isPlain c = true → text.take n = letters →
          (∀ c ∈ letters, isPlain c = true) → rest = text.drop n →
          ∃ used, c :: text = used ++ rest ∧ Neutral used := by
        rintro n letters plain same letters_plain rfl
        obtain ⟨used, split, neutral⟩ := scan_of_word same letters_plain
        refine ⟨c :: used, congrArg (c :: ·) split, ?_⟩
        have letter : Neutral [c] := .of_plain (by simpa using plain)
        exact letter.append neutral
      by_cases null : c = 'n'
      · subst null
        rw [if_pos rfl] at read
        split at read
        · rename_i same
          exact word (by decide) same (List.all_eq_true.mp (by decide))
            (Prod.ext_iff.mp (Option.some.inj read)).2.symm
        · cases read
      by_cases true_ : c = 't'
      · subst true_
        rw [if_neg null, if_pos rfl] at read
        split at read
        · rename_i same
          exact word (by decide) same (List.all_eq_true.mp (by decide))
            (Prod.ext_iff.mp (Option.some.inj read)).2.symm
        · cases read
      by_cases false_ : c = 'f'
      · subst false_
        rw [if_neg null, if_neg true_, if_pos rfl] at read
        split at read
        · rename_i same
          exact word (by decide) same (List.all_eq_true.mp (by decide))
            (Prod.ext_iff.mp (Option.some.inj read)).2.symm
        · cases read
      rw [if_neg null, if_neg true_, if_neg false_] at read
      unfold readNumber at read
      split at read
      · simp at read
        obtain ⟨-, rfl⟩ := read
        refine ⟨(c :: text).takeWhile isNumberMark, (List.takeWhile_append_dropWhile).symm, ?_⟩
        exact .of_plain fun d marked => plain_of_mark (List.mem_takeWhile_imp marked)
      · cases read

theorem scan_of_items (inner : Scanned fuel) {items : List Json}
    (read : readItems (fuel + 1) text = some (items, rest)) :
    ∃ used, text = used ++ rest ∧ Closes used := by
  rw [readItems, Option.bind_eq_bind, Option.bind_eq_some_iff] at read
  obtain ⟨⟨item, after⟩, found, read⟩ := read
  obtain ⟨first, rfl, neutral⟩ := inner.value _ _ _ found
  cases met : skipBlanks after with
  | nil => simp [met] at read
  | cons c later =>
      obtain ⟨blanks, rfl, skipped⟩ := skipped_split met
      simp only [met] at read
      by_cases closed : c = ']'
      · subst closed
        simp at read
        obtain ⟨-, rfl⟩ := read
        exact ⟨first ++ (blanks ++ [']']), by simp, neutral.closes (skipped.closes .bracket)⟩
      · by_cases comma : c = ','
        · subst comma
          simp [Option.bind_eq_some_iff] at read
          obtain ⟨others, found, -⟩ := read
          obtain ⟨used, split, closes⟩ := inner.items _ _ _ found
          obtain ⟨more, whole, passed⟩ := skipBlanks_neutral later
          rw [split] at whole
          subst whole
          refine ⟨first ++ (blanks ++ ([','] ++ (more ++ used))), by simp, ?_⟩
          exact neutral.closes (skipped.closes (Neutral.comma.closes (passed.closes closes)))
        · simp [closed, comma] at read

theorem scan_of_members (inner : Scanned fuel) {members : List (String × Json)}
    (read : readMembers (fuel + 1) text = some (members, rest)) :
    ∃ used, text = used ++ rest ∧ Closes ('"' :: used) := by
  rw [readMembers, Option.bind_eq_bind, Option.bind_eq_some_iff] at read
  obtain ⟨⟨key, after⟩, found, read⟩ := read
  obtain ⟨first, rfl, scanned⟩ := scan_of_readString found
  have quoted : Neutral ('"' :: first) := .of_quoted scanned
  cases met : skipBlanks after with
  | nil => simp [met] at read
  | cons c later =>
      obtain ⟨blanks, rfl, skipped⟩ := skipped_split met
      simp only [met] at read
      by_cases colon : c = ':'
      · subst colon
        rw [if_pos rfl, Option.bind_eq_bind, Option.bind_eq_some_iff] at read
        obtain ⟨⟨value, after⟩, held, read⟩ := read
        obtain ⟨used, split, neutral⟩ := inner.value _ _ _ held
        obtain ⟨gap, whole, passed⟩ := skipBlanks_neutral later
        rw [split] at whole
        subst whole
        -- The member up to its value, whatever follows.
        have member : Neutral ('"' :: (first ++ (blanks ++ ([':'] ++ (gap ++ used))))) :=
          quoted.append (skipped.append (Neutral.colon.append (passed.append neutral)))
        cases next : skipBlanks after with
        | nil => simp [next] at read
        | cons d later =>
            obtain ⟨space, rfl, spaced⟩ := skipped_split next
            simp only [next] at read
            by_cases closed : d = '}'
            · subst closed
              simp at read
              obtain ⟨-, rfl⟩ := read
              refine ⟨first ++ (blanks ++ ([':'] ++ (gap ++ used))) ++ (space ++ ['}']), by simp, ?_⟩
              exact member.closes (spaced.closes .brace)
            · by_cases comma : d = ','
              · subst comma
                simp at read
                cases opened : skipBlanks later with
                | nil => simp [opened] at read
                | cons e later =>
                    obtain ⟨room, rfl, roomy⟩ := skipped_split opened
                    simp only [opened] at read
                    by_cases quote : e = '"'
                    · subst quote
                      simp [Option.bind_eq_some_iff] at read
                      obtain ⟨others, found, -⟩ := read
                      obtain ⟨tail, rfl, closes⟩ := inner.members _ _ _ found
                      refine ⟨first ++ (blanks ++ ([':'] ++ (gap ++ used))) ++
                        (space ++ ([','] ++ (room ++ '"' :: tail))), by simp, ?_⟩
                      exact member.closes (spaced.closes (Neutral.comma.closes (roomy.closes closes)))
                    · simp [quote] at read
              · simp [closed, comma] at read
      · simp [colon] at read

end

theorem scanned (fuel : Nat) : Scanned fuel := by
  induction fuel with
  | zero =>
      constructor
      · intro text value rest read
        cases read
      · intro text items rest read
        cases read
      · intro text members rest read
        cases read
  | succ fuel ih =>
      exact ⟨fun _ _ _ => scan_of_value ih, fun _ _ _ => scan_of_items ih,
        fun _ _ _ => scan_of_members ih⟩

/-- The text of an object is read only where its scan ends after its last bracket. -/
theorem scan_of_readText {text : List Char} {value : Json}
    (read : readText ('{' :: text) = some value) :
    scan .start (codesOf ('{' :: text)) = .done := by
  unfold readText at read
  rw [skipBlanks_cons (by decide)] at read
  simp only [List.length_cons, Option.bind_eq_bind, Option.bind_eq_some_iff] at read
  obtain ⟨⟨found, rest⟩, first, last⟩ := read
  obtain ⟨used, rfl, closes⟩ := scan_of_object (scanned _) first
  obtain ⟨blanks, split, blank⟩ := skipBlanks_split rest
  have ended : skipBlanks rest = [] := by
    by_contra more
    simp [more] at last
  have opened : Scan.start.step '{'.toNat = .outside 0 := rfl
  rw [codesOf_cons, scan_cons, opened, codesOf_append, scan_append, closes, split, ended,
    List.append_nil]
  clear split
  induction blanks with
  | nil => rfl
  | cons c blanks ih =>
      have first : isBlank c = true := blank c (by simp)
      have stays : Scan.done.step c.toNat = .done := by
        unfold isBlank at first
        simp only [Bool.or_eq_true, decide_eq_true_eq] at first
        rcases first with ((rfl | rfl) | rfl) | rfl <;> rfl
      rw [codesOf_cons, scan_cons]
      change scan (Scan.done.step c.toNat) _ = _
      rw [stays]
      exact ih fun other later => blank other (by simp [later])

/-! ## What is written -/

/-- From inside a string the scan of the text ends inside one again, or fails: what is outside of
    the strings of the text is taken for their contents, and their contents for what is outside. -/
def Flips (text : List Char) : Prop :=
  ∀ depth, (∃ later, scan (.inside depth) (codesOf text) = .inside later) ∨
    scan (.inside depth) (codesOf text) = .failed

/-- A text without line breaks that flips. -/
structure Written (text : List Char) : Prop where
  flips : Flips text
  printed : ∀ c ∈ text, 0x20 ≤ c.toNat

section

variable {text other : List Char} {c : Char}

theorem Flips.append (first : Flips text) (second : Flips other) : Flips (text ++ other) := by
  intro depth
  rw [codesOf_append, scan_append]
  rcases first depth with ⟨later, inside⟩ | failed
  · rw [inside]
    exact second later
  · rw [failed, scan_failed]
    exact .inr rfl

theorem Written.append (first : Written text) (second : Written other) :
    Written (text ++ other) := by
  refine ⟨first.flips.append second.flips, fun c member => ?_⟩
  rcases List.mem_append.mp member with before | after
  · exact first.printed c before
  · exact second.printed c after

/-- Characters other than quotes and backslashes. -/
theorem Written.of_plain
    (plain : ∀ c ∈ text, 0x20 ≤ c.toNat ∧ c.toNat ≠ 0x22 ∧ c.toNat ≠ 0x5C) : Written text := by
  refine ⟨fun depth => .inl ⟨depth, ?_⟩, fun c member => (plain c member).1⟩
  induction text with
  | nil => rfl
  | cons c text ih =>
      obtain ⟨-, quoted, slash⟩ := plain c (by simp)
      rw [codesOf_cons, scan_cons, step_inside quoted slash]
      exact ih fun other later => plain other (by simp [later])

theorem Written.cons (plain : 0x20 ≤ c.toNat ∧ c.toNat ≠ 0x22 ∧ c.toNat ≠ 0x5C)
    (rest : Written text) : Written (c :: text) := by
  have letter : Written [c] := .of_plain (by simpa using plain)
  exact letter.append rest

/-- The scan is outside of strings, for good or not. -/
def Scan.isLoose : Scan → Bool
  | .outside _ | .done | .failed => true
  | _ => false

theorem step_loose {state : Scan} (loose : state.isLoose = true) (quoted : c.toNat ≠ 0x22) :
    (state.step c.toNat).isLoose = true := by
  cases state with
  | outside depth =>
      simp only [Scan.step, if_neg quoted]
      repeat' split
      · rfl
      · rfl
      · cases depth <;> rfl
      · rfl
  | done =>
      simp only [Scan.step]
      split <;> rfl
  | failed => rfl
  | start => cases loose
  | inside depth => cases loose
  | escaped depth => cases loose

/-- The contents of a string neither open nor close one, unless the scan fails. -/
theorem scan_escapeChar {state : Scan} (loose : state.isLoose = true) :
    (scan state (codesOf (escapeChar c))).isLoose = true := by
  have slash : ∀ more : List Char, (scan state (codesOf ('\\' :: more))).isLoose = true := by
    intro more
    have fails : state.step '\\'.toNat = .failed := by
      cases state with
      | outside depth => rfl
      | done => rfl
      | failed => rfl
      | start => cases loose
      | inside depth => cases loose
      | escaped depth => cases loose
    rw [codesOf_cons, scan_cons, fails, scan_failed]
    rfl
  unfold escapeChar
  split
  · exact slash _
  · rename_i quoted
    repeat'
      split
      · exact slash _
    have other : c.toNat ≠ 0x22 := fun same => quoted (Char.toNat_inj.mp same)
    exact step_loose loose other

theorem scan_escaped {state : Scan} (loose : state.isLoose = true) (chars : List Char) :
    (scan state (codesOf (chars.flatMap escapeChar))).isLoose = true := by
  induction chars generalizing state with
  | nil => exact loose
  | cons c chars ih =>
      rw [List.flatMap_cons, codesOf_append, scan_append]
      exact ih (scan_escapeChar loose)

theorem hexDigit_printed : ∀ n < 16, 0x20 ≤ (hexDigit n).toNat := by decide

theorem escapeChar_printed : ∀ d ∈ escapeChar c, 0x20 ≤ d.toNat := by
  unfold escapeChar
  split
  · simp
  split
  · simp
  split
  · simp
  split
  · simp
  split
  · simp
  split
  · simp
  split
  · simp
  split
  · rename_i control
    have high := hexDigit_printed (c.toNat / 16) (by omega)
    have low := hexDigit_printed (c.toNat % 16) (by omega)
    simp only [List.mem_cons, List.not_mem_nil, or_false]
    rintro d (rfl | rfl | rfl | rfl | rfl | rfl)
    · simp
    · simp
    · simp
    · simp
    · exact high
    · exact low
  · rename_i printed
    simpa using printed

theorem Written.quote (value : String) : Written (quote value) := by
  refine ⟨fun depth => ?_, fun c member => ?_⟩
  · have opened : (Scan.inside depth).step '"'.toNat = .outside depth := rfl
    have contents := scan_escaped (show (Scan.outside depth).isLoose = true from rfl) value.toList
    unfold Library.quote
    rw [codesOf_cons, scan_cons, opened, codesOf_append, scan_append]
    cases ended : scan (.outside depth) (codesOf (value.toList.flatMap escapeChar)) with
    | outside later => exact .inl ⟨later, rfl⟩
    | done => exact .inr rfl
    | failed => exact .inr rfl
    | start => rw [ended] at contents; cases contents
    | inside later => rw [ended] at contents; cases contents
    | escaped later => rw [ended] at contents; cases contents
  · unfold Library.quote at member
    simp only [List.mem_cons, List.mem_append, List.mem_flatMap, List.not_mem_nil, or_false]
      at member
    rcases member with rfl | ⟨d, -, among⟩ | rfl
    · simp
    · exact escapeChar_printed c among
    · simp

theorem printed_of_mark (mark : isNumberMark c = true) :
    0x20 ≤ c.toNat ∧ c.toNat ≠ 0x22 ∧ c.toNat ≠ 0x5C := by
  unfold isNumberMark Char.isDigit at mark
  simp only [Bool.or_eq_true, Bool.and_eq_true, decide_eq_true_eq] at mark
  rcases mark with ((((⟨low, high⟩ | rfl) | rfl) | rfl) | rfl) | rfl
  · have low : 48 ≤ c.toNat := low
    have high : c.toNat ≤ 57 := high
    omega
  all_goals decide

end

mutual

theorem Json.write_written : ∀ value : Json, Written value.write
  | .null => .of_plain (by simp [Json.write])
  | .bool true => .of_plain (by simp [Json.write])
  | .bool false => .of_plain (by simp [Json.write])
  | .number value => .of_plain fun c member => printed_of_mark (value.marks c member)
  | .string value => .quote value
  | .array [] => .of_plain (by simp [Json.write])
  | .array (item :: items) => .cons (by decide) (item.write_written.append (writeItems_written items))
  | .object [] => .of_plain (by simp [Json.write])
  | .object ((key, value) :: members) =>
      .cons (by decide) ((Written.quote key).append
        (.cons (by decide) (value.write_written.append (writeMembers_written members))))

theorem writeItems_written : ∀ items : List Json, Written (writeItems items)
  | [] => .of_plain (by simp [writeItems])
  | item :: items => .cons (by decide) (item.write_written.append (writeItems_written items))

theorem writeMembers_written : ∀ members : List (String × Json), Written (writeMembers members)
  | [] => .of_plain (by simp [writeMembers])
  | (key, value) :: members =>
      .cons (by decide) ((Written.quote key).append
        (.cons (by decide) (value.write_written.append (writeMembers_written members))))

end

/-! ## Bytes -/

def codesOfBytes (bytes : Bytes) : List Nat := bytes.map UInt8.toNat

/-- The bytes of a character outside of ASCII are outside of ASCII. -/
theorem utf8_codes (c : Char) : codesOfBytes (String.utf8EncodeChar c) = [c.toNat] ∨
    (128 ≤ c.toNat ∧ codesOfBytes (String.utf8EncodeChar c) ≠ [] ∧
      ∀ code ∈ codesOfBytes (String.utf8EncodeChar c), 128 ≤ code) := by
  have value : c.val.toNat = c.toNat := rfl
  unfold codesOfBytes String.utf8EncodeChar
  simp only [value]
  split
  · refine .inl ?_
    simp only [List.map_cons, List.map_nil, UInt8.toNat_ofNat']
    rw [Nat.mod_eq_of_lt (by omega)]
  · refine .inr ⟨by omega, ?_⟩
    split
    · simp only [List.map_cons, List.map_nil, UInt8.toNat_ofNat', List.mem_cons, List.not_mem_nil,
        or_false, ne_eq, reduceCtorEq, not_false_eq_true, true_and]
      rintro code (rfl | rfl) <;> omega
    · split
      · simp only [List.map_cons, List.map_nil, UInt8.toNat_ofNat', List.mem_cons,
          List.not_mem_nil, or_false, ne_eq, reduceCtorEq, not_false_eq_true, true_and]
        rintro code (rfl | rfl | rfl) <;> omega
      · simp only [List.map_cons, List.map_nil, UInt8.toNat_ofNat', List.mem_cons,
          List.not_mem_nil, or_false, ne_eq, reduceCtorEq, not_false_eq_true, true_and]
        rintro code (rfl | rfl | rfl | rfl) <;> omega

theorem step_high {state : Scan} {code : Nat} (high : 128 ≤ code) :
    state.step code = state.step 128 := by
  cases state with
  | start =>
      have brace : code ≠ 0x7B := by omega
      simp [Scan.step, brace]
  | outside depth =>
      have special : code ≠ 0x22 ∧ code ≠ 0x5C ∧ code ≠ 0x7B ∧ code ≠ 0x5B ∧ code ≠ 0x7D ∧
        code ≠ 0x5D := by omega
      obtain ⟨quoted, slash, brace, bracket, closed, ended⟩ := special
      simp [Scan.step, quoted, slash, brace, bracket, closed, ended]
  | inside depth =>
      have special : code ≠ 0x22 ∧ code ≠ 0x5C := by omega
      simp [Scan.step, special.1, special.2]
  | escaped depth => rfl
  | done =>
      have special : code ≠ 0x20 ∧ code ≠ 0x09 ∧ code ≠ 0x0A ∧ code ≠ 0x0D := by omega
      obtain ⟨space, tab, feed, carriage⟩ := special
      simp [Scan.step, space, tab, feed, carriage]
  | failed => rfl

theorem scan_high {state : Scan} {code : Nat} {codes : List Nat}
    (high : ∀ other ∈ code :: codes, 128 ≤ other) :
    scan state (code :: codes) = state.step 128 := by
  have again : ∀ state : Scan, (state.step 128).step 128 = state.step 128 := by
    intro state
    cases state <;> rfl
  induction codes generalizing state code with
  | nil => exact step_high (high code (by simp))
  | cons other codes ih =>
      have later : scan (state.step code) (other :: codes) = (state.step code).step 128 :=
        ih fun among member => high among (List.mem_cons_of_mem _ member)
      rw [scan_cons, later, step_high (high code (by simp)), again]

/-- A scan goes over the bytes of a character as over the character. -/
theorem scan_utf8 (state : Scan) (c : Char) :
    scan state (codesOfBytes (String.utf8EncodeChar c)) = state.step c.toNat := by
  rcases utf8_codes c with same | ⟨high, some_, all⟩
  · rw [same]
    rfl
  · cases codes : codesOfBytes (String.utf8EncodeChar c) with
    | nil => exact absurd codes some_
    | cons code rest =>
        rw [codes] at all
        rw [scan_high all, step_high high]

theorem scan_encoded (state : Scan) (text : List Char) :
    scan state (codesOfBytes (text.flatMap String.utf8EncodeChar)) =
      scan state (codesOf text) := by
  induction text generalizing state with
  | nil => rfl
  | cons c text ih =>
      have split : codesOfBytes ((c :: text).flatMap String.utf8EncodeChar) =
          codesOfBytes (String.utf8EncodeChar c) ++
            codesOfBytes (text.flatMap String.utf8EncodeChar) := by
        rw [List.flatMap_cons]
        exact List.map_append
      rw [split, scan_append, scan_utf8, ih]
      rfl

/-- What is written takes one line. -/
theorem Json.encode_printed (value : Json) : ∀ byte ∈ value.encode, 0x20 ≤ byte.toNat := by
  intro byte member
  obtain ⟨c, among, member⟩ := List.mem_flatMap.mp member
  have code : byte.toNat ∈ codesOfBytes (String.utf8EncodeChar c) := List.mem_map_of_mem member
  rcases utf8_codes c with same | ⟨-, -, high⟩
  · rw [same, List.mem_singleton] at code
    rw [code]
    exact value.write_written.printed c among
  · have := high _ code
    omega

/-- The object of the members. -/
theorem Json.write_object (members : List (String × Json)) :
    ∃ text, (Json.object members).write = '{' :: text := by
  cases members with
  | nil => exact ⟨_, rfl⟩
  | cons member members => exact ⟨_, rfl⟩

theorem Json.encode_object (members : List (String × Json)) :
    ∃ rest, (Json.object members).encode = 0x7B :: rest := by
  obtain ⟨text, written⟩ := Json.write_object members
  unfold Json.encode
  rw [written]
  exact ⟨_, rfl⟩

theorem scan_begun {state : Scan} {codes : List Nat} (begun : state ≠ .start) :
    scan state codes ≠ .start := by
  induction codes generalizing state with
  | nil => exact begun
  | cons code codes ih =>
      refine ih ?_
      cases state with
      | start => exact absurd rfl begun
      | outside depth =>
          simp only [Scan.step]
          repeat' split
          · simp
          · simp
          · simp
          · cases depth <;> simp [Scan.close]
          · simp
      | inside depth =>
          simp only [Scan.step]
          repeat' split
          all_goals simp
      | escaped depth => simp [Scan.step]
      | done =>
          simp only [Scan.step]
          split <;> simp
      | failed => simp [Scan.step]

/-- No scan of an object that was already begun ends after it. -/
theorem scan_object {members : List (String × Json)}
    (canonical : (Json.object members).Canonical) {state : Scan} (begun : state ≠ .start) :
    scan state (codesOf (Json.object members).write) ≠ .done := by
  obtain ⟨text, written⟩ := Json.write_object members
  have ends : Delimited [] := by
    intro c found
    cases found
  have whole : readValue (Json.object members).write.length ((Json.object members).write ++ []) =
      some (Json.object members, []) := readValue_write _ _ _ canonical (Nat.le_refl _) ends
  rw [List.append_nil] at whole
  obtain ⟨used, split, neutral⟩ := (scanned _).value _ _ _ whole
  rw [List.append_nil] at split
  subst split
  have inside : ∀ depth, scan (.inside depth) (codesOf (Json.object members).write) ≠ .done := by
    intro depth ended
    rcases (Json.object members).write_written.flips depth with ⟨later, stays⟩ | fails
    · rw [stays] at ended
      cases ended
    · rw [fails] at ended
      cases ended
  cases state with
  | start => exact absurd rfl begun
  | outside depth =>
      rw [neutral]
      simp
  | inside depth => exact inside depth
  | escaped depth =>
      -- An escape takes the brace as the string itself would.
      have same : (Scan.escaped depth).step '{'.toNat = (Scan.inside depth).step '{'.toNat := rfl
      have passed := inside depth
      rw [written, codesOf_cons, scan_cons] at passed ⊢
      rwa [same]
  | done =>
      have fails : Scan.done.step '{'.toNat = .failed := rfl
      rw [written, codesOf_cons, scan_cons, fails, scan_failed]
      simp
  | failed =>
      rw [scan_failed]
      simp

theorem char_of_brace {c : Char} {rest more : Bytes}
    (same : String.utf8EncodeChar c ++ rest = 0x7B :: more) : c = '{' := by
  have codes := congrArg codesOfBytes same
  unfold codesOfBytes at codes
  rw [List.map_append, List.map_cons] at codes
  rcases utf8_codes c with ascii | ⟨-, some_, high⟩
  · unfold codesOfBytes at ascii
    rw [ascii] at codes
    have code : c.toNat = 0x7B := (List.cons.inj codes).1
    exact Char.toNat_inj.mp code
  · unfold codesOfBytes at some_ high
    cases found : (String.utf8EncodeChar c).map UInt8.toNat with
    | nil => exact absurd found some_
    | cons code others =>
        rw [found] at codes high
        have first : code = 0x7B := (List.cons.inj codes).1
        have := high code (by simp)
        omega

/-- The bytes that are read are those of a text. -/
theorem Json.decode_text {raw : Bytes} {value : Json} (read : Json.decode raw = some value) :
    ∃ text, raw = text.flatMap String.utf8EncodeChar ∧ readText text = some value := by
  unfold Json.decode at read
  rw [Option.bind_eq_bind, Option.bind_eq_some_iff] at read
  obtain ⟨chars, decoded, read⟩ := read
  have valid : raw.toByteArray.utf8Decode?.isSome = true := by
    rw [decoded]
    rfl
  obtain ⟨text, encoded⟩ := ByteArray.isSome_utf8Decode?_iff.mp valid
  rw [encoded, List.utf8Decode?_utf8Encode] at decoded
  obtain rfl := Option.some.inj decoded
  refine ⟨text, ?_, read⟩
  exact List.toByteArray_inj.mp encoded

/-- An object after the beginning of another one is not read. -/
theorem decode_cut {members : List (String × Json)} (canonical : (Json.object members).Canonical)
    (cut : Bytes) : Json.decode (0x7B :: (cut ++ (Json.object members).encode)) = none := by
  by_contra readable
  obtain ⟨value, found⟩ := Option.ne_none_iff_exists'.mp readable
  obtain ⟨text, bytes, read⟩ := Json.decode_text found
  cases text with
  | nil => cases bytes
  | cons c text =>
      obtain rfl := char_of_brace bytes.symm
      have ended := scan_of_readText read
      rw [← scan_encoded, ← bytes] at ended
      have split : codesOfBytes (0x7B :: (cut ++ (Json.object members).encode)) =
          0x7B :: codesOfBytes cut ++ codesOfBytes (Json.object members).encode := by
        simp [codesOfBytes]
      rw [split, scan_append] at ended
      unfold Json.encode at ended
      rw [scan_encoded] at ended
      refine scan_object canonical ?_ ended
      have opened : Scan.start.step 0x7B = .outside 0 := rfl
      rw [scan_cons, opened]
      exact scan_begun (by simp)

end DesignHarness.Library
