import DesignHarness.Domain.PlanProposals

/-!
# The patterns of identifiers and paths

An identifier is a word, possibly with one newline behind it, since `$` matches there.  A path that
is put together from plain segments is a `relativePath`, with a newline behind its last segment as
well, and with one anywhere else it is not.
-/

namespace DesignHarness

theorem matchesLine_iff {accepts : List Char → Bool} {value : String} :
    matchesLine accepts value = true ↔
      accepts value.toList = true ∨
        ∃ body, value.toList = body ++ ['\n'] ∧ accepts body = true := by
  simp only [matchesLine, Bool.or_eq_true, Bool.and_eq_true, beq_iff_eq]
  refine or_congr Iff.rfl ⟨?_, ?_⟩
  · rintro ⟨last, accepted⟩
    exact ⟨_, (List.dropLast_append_getLast? '\n' last).symm, accepted⟩
  · rintro ⟨body, spelled, accepted⟩
    simp [spelled, accepted]

/-- `[A-Za-z0-9_-]`. -/
def isWordChar (c : Char) : Bool := c.isAlphanum || c == '_' || c == '-'

/-- `[A-Za-z][A-Za-z0-9_-]{0,127}`. -/
structure IsWord (text : List Char) : Prop where
  head : ∃ first rest, text = first :: rest ∧ first.isAlpha = true
  chars : ∀ c ∈ text, isWordChar c = true
  short : text.length ≤ 128

theorem isWord_iff {text : List Char} :
    (text.head?.any Char.isAlpha && decide (text.tail.length ≤ 127) &&
      text.tail.all fun c => c.isAlphanum || c == '_' || c == '-') = true ↔ IsWord text := by
  cases text with
  | nil =>
      constructor
      · intro accepted
        cases accepted
      · intro word
        obtain ⟨first, rest, same, -⟩ := word.head
        cases same
  | cons first rest =>
      show (first.isAlpha && decide (rest.length ≤ 127) &&
        rest.all fun c => c.isAlphanum || c == '_' || c == '-') = true ↔ _
      simp only [Bool.and_eq_true, decide_eq_true_eq, List.all_eq_true]
      constructor
      · rintro ⟨⟨alpha, short⟩, chars⟩
        refine ⟨⟨first, rest, rfl, alpha⟩, ?_, ?_⟩
        · intro c member
          rcases List.mem_cons.mp member with rfl | member
          · simp [isWordChar, Char.isAlphanum, alpha]
          · exact chars c member
        · rw [List.length_cons]
          omega
      · intro word
        obtain ⟨_, _, same, alpha⟩ := word.head
        obtain ⟨rfl, rfl⟩ := List.cons.inj same
        have short := word.short
        rw [List.length_cons] at short
        refine ⟨⟨alpha, by omega⟩, ?_⟩
        exact fun c member => word.chars c (List.mem_cons_of_mem _ member)

theorem identifierAccepted_iff {value : String} :
    identifierAccepted value = true ↔
      IsWord value.toList ∨ ∃ body, value.toList = body ++ ['\n'] ∧ IsWord body := by
  rw [identifierAccepted, matchesLine_iff]
  refine or_congr ?_ (exists_congr fun body => and_congr_right fun _ => ?_)
  · rw [← isWord_iff]
    cases value.toList <;> rfl
  · rw [← isWord_iff]
    cases body <;> rfl

/-- `IDENTIFIER.fullmatch` does not accept the newline. -/
theorem isIdentifier_iff_plain {value : String} (accepted : identifierAccepted value = true) :
    isIdentifier value = true ↔ '\n' ∉ value.toList := by
  have word : isIdentifier value = true ↔ IsWord value.toList := by
    rw [isIdentifier, ← isWord_iff]
    cases value.toList <;> rfl
  have plain : ∀ {text : List Char}, IsWord text → '\n' ∉ text := by
    intro text isWord inside
    have wordChar := isWord.chars _ inside
    revert wordChar
    decide
  rw [word]
  refine ⟨plain, fun free => ?_⟩
  rcases identifierAccepted_iff.mp accepted with isWord | ⟨body, spelled, -⟩
  · exact isWord
  · exact absurd (by simp [spelled]) free

/-! ## Paths -/

/-- A segment of a path that no rule of `relativePath` is about. -/
structure IsSegment (segment : List Char) : Prop where
  some : segment ≠ []
  named : segment ≠ ['.'] ∧ segment ≠ ['.', '.']
  chars : ∀ c ∈ segment, c ≠ '/' ∧ c ≠ '\\' ∧ c ≠ '\n'

theorem IsWord.segment {text : List Char} (word : IsWord text) : IsSegment text := by
  obtain ⟨first, rest, rfl, alpha⟩ := word.head
  have dotless : first ≠ '.' := by
    rintro rfl
    revert alpha
    decide
  refine ⟨by simp, ⟨?_, ?_⟩, fun c member => ?_⟩
  · intro same
    exact dotless (List.cons.inj same).1
  · intro same
    exact dotless (List.cons.inj same).1
  · have plain := word.chars c member
    refine ⟨?_, ?_, ?_⟩ <;>
      · rintro rfl
        revert plain
        decide

theorem mem_intercalate_cases {c separator : Char} {segments : List (List Char)}
    (member : c ∈ [separator].intercalate segments) :
    c = separator ∨ ∃ segment ∈ segments, c ∈ segment := by
  induction segments with
  | nil => simp at member
  | cons segment rest ih =>
      by_cases last : rest = []
      · subst last
        simp only [List.intercalate_singleton] at member
        exact .inr ⟨segment, List.mem_cons_self, member⟩
      · rw [List.intercalate_cons_of_ne_nil last, List.mem_append, List.mem_append] at member
        rcases member with (inside | same) | later
        · exact .inr ⟨segment, List.mem_cons_self, inside⟩
        · exact .inl (List.mem_singleton.mp same)
        · rcases ih later with same | ⟨other, otherMember, inside⟩
          · exact .inl same
          · exact .inr ⟨other, List.mem_cons_of_mem _ otherMember, inside⟩

/-- A path of plain segments, without or with a newline behind it. -/
theorem relativePathAccepted_of {value : String} (segments : List (List Char))
    (spelled : value.toList = ['/'].intercalate segments ∨
      value.toList = ['/'].intercalate segments ++ ['\n'])
    (some : segments ≠ []) (plain : ∀ segment ∈ segments, IsSegment segment)
    (short : value.toList.length ≤ 1024) : relativePathAccepted value = true := by
  have chars : ∀ c ∈ ['/'].intercalate segments, c ≠ '\\' ∧ c ≠ '\n' := by
    intro c member
    rcases mem_intercalate_cases member with rfl | ⟨segment, segmentMember, inside⟩
    · decide
    · exact ((plain segment segmentMember).chars c inside).2
  have split : (['/'].intercalate segments).splitOn '/' = segments :=
    List.splitOn_intercalate '/'
      (fun segment member slash => ((plain segment member).chars '/' slash).1 rfl) some
  obtain ⟨first, rest, whole, notSlash⟩ : ∃ first rest,
      ['/'].intercalate segments = first :: rest ∧ first ≠ '/' := by
    obtain ⟨segment, others, rfl⟩ := List.exists_cons_of_ne_nil some
    have head := plain segment List.mem_cons_self
    obtain ⟨first, tail, rfl⟩ := List.exists_cons_of_ne_nil head.some
    refine ⟨first, tail ++ (['/'].intercalate ((first :: tail) :: others)).drop (tail.length + 1), ?_,
      (head.chars first List.mem_cons_self).1⟩
    by_cases last : others = []
    · subst last
      simp
    · rw [List.intercalate_cons_of_ne_nil last]
      simp
  have text : (!(['/'].intercalate segments).isEmpty &&
      (['/'].intercalate segments).head? != Option.some '/' &&
      !(['/'].intercalate segments).contains '\\' && !(['/'].intercalate segments).contains '\n' &&
      ((['/'].intercalate segments).splitOn '/').dropLast.all (!·.isEmpty) &&
      ((['/'].intercalate segments).splitOn '/').all
        fun segment => segment != ['.'] && segment != ['.', '.']) = true := by
    rw [split]
    simp only [Bool.and_eq_true, List.all_eq_true, bne_iff_ne, Bool.not_eq_true',
      List.isEmpty_eq_false_iff, List.contains_eq_mem, decide_eq_false_iff_not]
    refine ⟨⟨⟨⟨⟨?_, ?_⟩, ?_⟩, ?_⟩, ?_⟩, ?_⟩
    · rw [whole]
      exact List.cons_ne_nil _ _
    · rw [whole]
      simpa using notSlash
    · exact fun member => (chars _ member).1 rfl
    · exact fun member => (chars _ member).2 rfl
    · exact fun segment member => 
        (plain segment ((List.dropLast_sublist _).subset member)).some
    · exact fun segment member => (plain segment member).named
  have length : textWithin 1024 value = true := by
    simp only [textWithin, Bool.and_eq_true, decide_eq_true_eq, ← String.length_toList]
    refine ⟨?_, short⟩
    rcases spelled with same | same
    · rw [same, whole]
      simp
    · rw [same]
      simp
  rw [relativePathAccepted, length, Bool.true_and, matchesLine_iff]
  rcases spelled with same | same
  · left
    rw [same]
    exact text
  · exact .inr ⟨_, same, text⟩

/-- A newline is accepted at the end only. -/
theorem relativePathAccepted_of_newline {value : String} (before behind : List Char)
    (spelled : value.toList = before ++ '\n' :: behind) (more : behind ≠ []) :
    relativePathAccepted value = false := by
  rw [Bool.eq_false_iff]
  intro accepted
  rw [relativePathAccepted, Bool.and_eq_true, matchesLine_iff] at accepted
  rcases accepted.2 with whole | ⟨body, same, whole⟩
  · rw [spelled] at whole
    simp at whole
  · have inside : '\n' ∈ body := by
      rw [same] at spelled
      have front := congrArg List.dropLast spelled
      rw [List.dropLast_concat, List.dropLast_append_of_ne_nil (List.cons_ne_nil _ _),
        List.dropLast_cons_of_ne_nil more] at front
      rw [front]
      simp
    simp [inside] at whole

end DesignHarness
