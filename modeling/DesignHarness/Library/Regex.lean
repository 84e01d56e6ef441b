import Mathlib.Data.List.Basic

/-!
# Backtracking regular expressions

A matcher for regular expressions over characters as Python's `re` has them: repetition is greedy,
of alternatives the first is tried first, and a later failure goes back to the next choice.  The
matches at a place are listed in the order in which they are tried, so the match that is found is
the first of them.
-/

namespace DesignHarness.Library

/-- A place in a text: what precedes it, last character first, and what follows. -/
structure Place where
  passed : List Char
  rest : List Char
  deriving DecidableEq, Repr

/-- The place so many characters on. -/
def Place.advance (place : Place) (count : Nat) : Place :=
  ⟨(place.rest.take count).reverse ++ place.passed, place.rest.drop count⟩

/-- The texts of named groups. -/
abbrev Groups := List (String × List Char)

inductive Regex where
  /-- One character of a class. -/
  | one (accepts : Char → Bool)
  | literal (text : List Char)
  | seq (first second : Regex)
  | alt (first second : Regex)
  /-- Characters of a class, at most so many. -/
  | many (accepts : Char → Bool) (most : Option Nat)
  | group (name : String) (inner : Regex)
  /-- The character before the place, if there is one, is not of the class. -/
  | notBehind (accepts : Char → Bool)
  /-- The character at the place, if there is one, is not of the class. -/
  | notAhead (accepts : Char → Bool)

namespace Regex

/-- As many characters of a class as follow, at most so many. -/
def longest (accepts : Char → Bool) (most : Option Nat) (rest : List Char) : Nat :=
  most.elim (rest.takeWhile accepts).length (min (rest.takeWhile accepts).length)

/-- The matches at a place, in the order in which they are tried. -/
def results : Regex → Place → List (Place × Groups)
  | one accepts, place =>
      if place.rest.head?.any accepts then [(place.advance 1, [])] else []
  | literal text, place =>
      if text.isPrefixOf place.rest then [(place.advance text.length, [])] else []
  | seq first second, place =>
      (first.results place).flatMap fun found =>
        (second.results found.1).map fun further => (further.1, found.2 ++ further.2)
  | alt first second, place => first.results place ++ second.results place
  | many accepts most, place =>
      (List.range (longest accepts most place.rest + 1)).reverse.map fun count =>
        (place.advance count, [])
  | group name inner, place =>
      (inner.results place).map fun found =>
        (found.1, (name, place.rest.take (place.rest.length - found.1.rest.length)) :: found.2)
  | notBehind accepts, place => if place.passed.head?.any accepts then [] else [(place, [])]
  | notAhead accepts, place => if place.rest.head?.any accepts then [] else [(place, [])]

/-- `finditer` for a regular expression without empty matches: the groups of the matches from left
    to right, each behind the one before; `skip` characters still belong to the last match. -/
def matchesFrom (regex : Regex) : Nat → List Char → List Char → List Groups
  | _, _, [] => []
  | skip + 1, passed, c :: rest => matchesFrom regex skip (c :: passed) rest
  | 0, passed, c :: rest =>
      match (regex.results ⟨passed, c :: rest⟩).head? with
      | some (place, groups) =>
          groups :: matchesFrom regex (rest.length - place.rest.length) (c :: passed) rest
      | none => matchesFrom regex 0 (c :: passed) rest

/-- The texts of the groups of all matches in a text. -/
def finditer (regex : Regex) (text : List Char) : List Groups := regex.matchesFrom 0 [] text

theorem results_seq (first second : Regex) (place : Place) :
    (seq first second).results place = (first.results place).flatMap fun found =>
      (second.results found.1).map fun further => (further.1, found.2 ++ further.2) := rfl

theorem results_seq_assoc (first second third : Regex) (place : Place) :
    (seq (seq first second) third).results place =
      (seq first (seq second third)).results place := by
  simp only [results_seq, List.flatMap_assoc, List.flatMap_map, List.map_flatMap, List.map_map]
  refine List.flatMap_congr fun found _ => List.flatMap_congr fun further _ => ?_
  refine List.map_congr_left fun last _ => ?_
  simp [List.append_assoc]

theorem results_alt_seq (first second third : Regex) (place : Place) :
    (seq (alt first second) third).results place =
      (seq first third).results place ++ (seq second third).results place :=
  List.flatMap_append

/-- What is tried after a check that consumes nothing. -/
theorem results_notBehind_seq (accepts : Char → Bool) (second : Regex) (place : Place) :
    (seq (notBehind accepts) second).results place =
      if place.passed.head?.any accepts then [] else second.results place := by
  rw [results_seq, results]
  split
  · rfl
  · simp

theorem results_literal_seq (text : List Char) (second : Regex) (place : Place) :
    (seq (literal text) second).results place =
      if text.isPrefixOf place.rest then second.results (place.advance text.length) else [] := by
  rw [results_seq, results]
  split
  · simp
  · rfl

/-! ## Words -/

/-- A named word: a character of one class and as many of another as there are, at most so many. -/
def word (name : String) (first more : Char → Bool) (most : Option Nat) : Regex :=
  group name (seq (one first) (many more most))

/-- The longest word at the beginning of a text, and what follows it. -/
def wordAt (first more : Char → Bool) (most : Option Nat) :
    List Char → Option (List Char × List Char)
  | [] => none
  | c :: rest =>
      if first c then some (c :: rest.take (longest more most rest), rest.drop (longest more most rest))
      else none

theorem longest_le (accepts : Char → Bool) (most : Option Nat) (rest : List Char) :
    longest accepts most rest ≤ (rest.takeWhile accepts).length := by
  cases most with
  | none => exact Nat.le_refl _
  | some most => exact Nat.min_le_left _ _

theorem head_drop_of_lt {accepts : Char → Bool} {rest : List Char} {count : Nat}
    (within : count < (rest.takeWhile accepts).length) :
    (rest.drop count).head?.any accepts = true := by
  induction rest generalizing count with
  | nil => cases within
  | cons c rest ih =>
      by_cases accepted : accepts c = true
      · cases count with
        | zero => simpa using accepted
        | succ count =>
            rw [List.takeWhile_cons_of_pos accepted, List.length_cons] at within
            exact ih (Nat.lt_of_succ_lt_succ within)
      · rw [List.takeWhile_cons_of_neg accepted] at within
        cases within

/-- The choices for a word, the longest first. -/
theorem results_word {name : String} {first more : Char → Bool} {most : Option Nat}
    (passed : List Char) (c : Char) (rest : List Char) :
    (word name first more most).results ⟨passed, c :: rest⟩ =
      if first c then
        (List.range (longest more most rest + 1)).reverse.map fun count =>
          (Place.advance ⟨passed, c :: rest⟩ (count + 1), [(name, c :: rest.take count)])
      else [] := by
  rw [word, results, results_seq, results]
  by_cases starts : first c = true
  · have single : (Place.advance ⟨passed, c :: rest⟩ 1) = ⟨c :: passed, rest⟩ := rfl
    simp only [List.head?_cons, Option.any_some, starts, if_true, List.flatMap_cons,
      List.flatMap_nil, List.append_nil, single, results, List.map_map, List.nil_append]
    refine List.map_congr_left fun count member => ?_
    have within : count ≤ rest.length := by
      have bound := longest_le more most rest
      have shorter := (List.takeWhile_prefix more (l := rest)).length_le
      have listed := List.mem_range.mp (List.mem_reverse.mp member)
      omega
    have taken : (c :: rest).length - (rest.drop count).length = count + 1 := by
      rw [List.length_drop, List.length_cons]
      omega
    simp only [Function.comp_apply, Place.advance, taken, List.take_succ_cons,
      List.reverse_cons, List.drop_succ_cons, List.append_assoc, List.singleton_append]
  · simp [starts]

theorem wordAt_append {first more : Char → Bool} {most : Option Nat} {text : List Char}
    {found : List Char × List Char} (held : wordAt first more most text = some found) :
    text = found.1 ++ found.2 := by
  cases text with
  | nil => cases held
  | cons c rest =>
      by_cases starts : first c = true
      · rw [wordAt, if_pos starts] at held
        cases held
        simp
      · rw [wordAt, if_neg starts] at held
        cases held

/-- Before something that fails on every character that the word could go on with, only the longest
    word is left of the choices. -/
theorem results_word_seq {name : String} {first more : Char → Bool} {most : Option Nat}
    {second : Regex}
    (fails : ∀ place : Place, place.rest.head?.any more = true → second.results place = [])
    (place : Place) :
    (seq (word name first more most) second).results place =
      (wordAt first more most place.rest).elim [] fun found =>
        (second.results (place.advance found.1.length)).map fun further =>
          (further.1, (name, found.1) :: further.2) := by
  obtain ⟨passed, text⟩ := place
  cases text with
  | nil => simp [word, results, wordAt]
  | cons c rest =>
      rw [results_seq, results_word, wordAt]
      split
      next starts =>
        have shorter : ((List.range (longest more most rest)).reverse.map fun count =>
              (Place.advance ⟨passed, c :: rest⟩ (count + 1),
                [(name, c :: rest.take count)])).flatMap
            (fun found => (second.results found.1).map fun further =>
              (further.1, found.2 ++ further.2)) = [] := by
          refine List.flatMap_eq_nil_iff.mpr fun found member => ?_
          obtain ⟨count, listed, rfl⟩ := List.mem_map.mp member
          have before := List.mem_range.mp (List.mem_reverse.mp listed)
          have within : count < (rest.takeWhile more).length :=
            Nat.lt_of_lt_of_le before (longest_le more most rest)
          rw [fails _ (head_drop_of_lt within), List.map_nil]
        have size : (c :: rest.take (longest more most rest)).length =
            longest more most rest + 1 := by
          have bound := longest_le more most rest
          have within := (List.takeWhile_prefix more (l := rest)).length_le
          rw [List.length_cons, List.length_take]
          omega
        rw [List.range_succ, List.reverse_append, List.reverse_singleton, List.singleton_append,
          List.map_cons, List.flatMap_cons, shorter, List.append_nil, Option.elim_some, size]
        simp
      next => rfl

end Regex

end DesignHarness.Library
