import Mathlib.Data.List.Sort

/-!
# Keyset pagination

A list is read in pages: each page holds the items behind the last key of the page before, in the
order of their keys, up to a limit.  Between two pages the list may change.
-/

namespace DesignHarness.Library.Keyset

universe u v

variable {α : Type u} {κ : Type v} [LinearOrder κ]

/-- The items in the order of their keys. -/
def ordered (key : α → κ) (items : List α) : List α :=
  items.insertionSort fun first second => key first ≤ key second

/-- The items behind the cursor. -/
def after (key : α → κ) (cursor : Option κ) (items : List α) : List α :=
  (ordered key items).filter fun item => cursor.all fun last => decide (last < key item)

def page (key : α → κ) (limit : Nat) (cursor : Option κ) (items : List α) : List α :=
  (after key cursor items).take limit

def hasMore (key : α → κ) (limit : Nat) (cursor : Option κ) (items : List α) : Bool :=
  decide (limit < (after key cursor items).length)

/-- The pages from a cursor to the end, each of the list as it is then, and all they return. -/
inductive Reading (key : α → κ) (limit : Nat) : Option κ → List (List α) → List α → Prop where
  | last {cursor : Option κ} {items : List α} (ends : hasMore key limit cursor items = false) :
      Reading key limit cursor [items] (page key limit cursor items)
  | more {cursor : Option κ} {items : List α} {later : List (List α)} {rest : List α} {last : α}
      (goes : hasMore key limit cursor items = true)
      (ends : (page key limit cursor items).getLast? = some last)
      (next : Reading key limit (some (key last)) later rest) :
      Reading key limit cursor (items :: later) (page key limit cursor items ++ rest)

section

variable {key : α → κ} {limit : Nat} {cursor : Option κ} {items returned : List α}
  {snapshots : List (List α)} {item last : α}

theorem mem_after : item ∈ after key cursor items ↔
    item ∈ items ∧ ∀ last ∈ cursor, last < key item := by
  have perm := List.perm_insertionSort (fun first second => key first ≤ key second) items
  simp only [after, ordered, List.mem_filter, perm.mem_iff, Option.all_eq_true,
    decide_eq_true_eq, Option.mem_def]

theorem after_none_perm (key : α → κ) (items : List α) : (after key none items).Perm items := by
  have perm := List.perm_insertionSort (fun first second => key first ≤ key second) items
  have whole : after key none items = ordered key items := by simp [after]
  rw [whole]
  exact perm

theorem mem_of_mem_page (member : item ∈ page key limit cursor items) :
    item ∈ items ∧ ∀ last ∈ cursor, last < key item :=
  mem_after.mp (List.mem_of_mem_take member)

theorem after_ordered : (after key cursor items).Pairwise (fun first second =>
    key first ≤ key second) := by
  have : Std.Total fun first second : α => key first ≤ key second :=
    ⟨fun first second => le_total (key first) (key second)⟩
  have : IsTrans α fun first second => key first ≤ key second :=
    ⟨fun _ _ _ one other => le_trans one other⟩
  exact (List.pairwise_insertionSort _ items).filter _

/-- Items with different keys are in strict order. -/
theorem after_strict (distinct : (items.map key).Nodup) :
    (after key cursor items).Pairwise (fun first second => key first < key second) := by
  have perm := List.perm_insertionSort (fun first second => key first ≤ key second) items
  have different : ((ordered key items).map key).Nodup := (perm.map key).nodup_iff.mpr distinct
  have apart : (after key cursor items).Pairwise fun first second => key first ≠ key second :=
    (List.pairwise_map.mp different).filter _
  exact (after_ordered.and apart).imp fun both => lt_of_le_of_ne both.1 both.2

/-- What lies behind the cursor is on the page or behind its last item. -/
theorem mem_page_or_behind (member : item ∈ items) (above : ∀ last ∈ cursor, last < key item)
    (ends : (page key limit cursor items).getLast? = some last) :
    item ∈ page key limit cursor items ∨ key last ≤ key item := by
  have listed : item ∈ after key cursor items := mem_after.mpr ⟨member, above⟩
  rw [← List.take_append_drop limit (after key cursor items)] at listed
  obtain here | behind := List.mem_append.mp listed
  · exact .inl here
  · have order := @after_ordered α κ _ key cursor items
    rw [← List.take_append_drop limit (after key cursor items)] at order
    exact .inr ((List.pairwise_append.mp order).2.2 last (List.mem_of_getLast? ends) item behind)

theorem page_whole (ends : hasMore key limit cursor items = false) :
    page key limit cursor items = after key cursor items := by
  have short : (after key cursor items).length ≤ limit := by simpa [hasMore] using ends
  exact List.take_of_length_le short

/-- The list from a page on is the list behind its last item. -/
theorem after_last (distinct : (items.map key).Nodup)
    (ends : (page key limit cursor items).getLast? = some last) :
    after key (some (key last)) items = (after key cursor items).drop limit := by
  have strict := @after_strict α κ _ key cursor items distinct
  have whole := List.take_append_drop limit (after key cursor items)
  have again : after key (some (key last)) items =
      (after key cursor items).filter fun item => decide (key last < key item) := by
    have above := (mem_of_mem_page (List.mem_of_getLast? ends)).2
    simp only [after, List.filter_filter, Option.all_some]
    refine List.filter_congr fun item _ => ?_
    by_cases behind : key last < key item
    · have all : (cursor.all fun last => decide (last < key item)) = true := by
        rw [Option.all_eq_true]
        intro before held
        exact decide_eq_true (lt_trans (above before held) behind)
      simp [behind, all]
    · simp [behind]
  rw [again]
  rw [← whole] at strict
  obtain ⟨-, -, apart⟩ := List.pairwise_append.mp strict
  conv_lhs => rw [← whole, List.filter_append]
  have dropped : ((after key cursor items).take limit).filter
      (fun item => decide (key last < key item)) = [] := by
    rw [List.filter_eq_nil_iff]
    intro item member
    have final : key item ≤ key last := by
      obtain ⟨front, same⟩ := List.getLast?_eq_some_iff.mp ends
      have pairs := (@after_ordered α κ _ key cursor items).sublist (List.take_sublist limit _)
      rw [show (after key cursor items).take limit = front ++ [last] from same] at pairs member
      obtain here | rfl := (List.mem_append.mp member).imp_right List.mem_singleton.mp
      · exact (List.pairwise_append.mp pairs).2.2 item here last List.mem_cons_self
      · exact le_rfl
    simpa using final
  have kept : ((after key cursor items).drop limit).filter
      (fun item => decide (key last < key item)) = (after key cursor items).drop limit := by
    rw [List.filter_eq_self]
    intro item member
    exact decide_eq_true (apart last (List.mem_of_getLast? ends) item member)
  rw [dropped, kept, List.nil_append]

/-! ## Whole readings -/

/-- All that is returned lies behind the cursor, and was in the list. -/
theorem Reading.above (reading : Reading key limit cursor snapshots returned)
    (member : item ∈ returned) :
    (∃ items ∈ snapshots, item ∈ items) ∧ ∀ last ∈ cursor, last < key item := by
  induction reading with
  | last ends =>
      obtain ⟨listed, behind⟩ := mem_of_mem_page member
      exact ⟨⟨_, List.mem_cons_self, listed⟩, behind⟩
  | @more cursor items later rest last goes ends next ih =>
      obtain here | there := List.mem_append.mp member
      · obtain ⟨listed, behind⟩ := mem_of_mem_page here
        exact ⟨⟨items, List.mem_cons_self, listed⟩, behind⟩
      · obtain ⟨⟨snapshot, among, listed⟩, behind⟩ := ih there
        refine ⟨⟨snapshot, List.mem_cons_of_mem _ among, listed⟩, fun before held => ?_⟩
        have final := (mem_of_mem_page (List.mem_of_getLast? ends)).2 before held
        exact lt_trans final (behind (key last) rfl)

/-- The keys of all that is returned are in strict order. -/
theorem Reading.sorted (reading : Reading key limit cursor snapshots returned)
    (distinct : ∀ items ∈ snapshots, (items.map key).Nodup) :
    returned.Pairwise fun first second => key first < key second := by
  induction reading with
  | last ends => exact (after_strict (distinct _ List.mem_cons_self)).sublist (List.take_sublist ..)
  | @more cursor items later rest last goes ends next ih =>
      have strict : (page key limit cursor items).Pairwise fun first second =>
          key first < key second :=
        (after_strict (distinct _ List.mem_cons_self)).sublist (List.take_sublist ..)
      have others := ih fun items member => distinct items (List.mem_cons_of_mem _ member)
      refine List.pairwise_append.mpr ⟨strict, others, fun first here second there => ?_⟩
      have behind := (next.above there).2 (key last) rfl
      obtain ⟨front, same⟩ := List.getLast?_eq_some_iff.mp ends
      rw [same] at strict here
      obtain among | rfl := (List.mem_append.mp here).imp_right List.mem_singleton.mp
      · exact lt_trans ((List.pairwise_append.mp strict).2.2 first among last List.mem_cons_self)
          behind
      · exact behind

/-- A key that the list has all the time is returned. -/
theorem Reading.covers (reading : Reading key limit cursor snapshots returned) {k : κ}
    (above : ∀ last ∈ cursor, last < k)
    (held : ∀ items ∈ snapshots, ∃ item ∈ items, key item = k) :
    ∃ item ∈ returned, key item = k := by
  induction reading with
  | @last cursor items ends =>
      obtain ⟨item, member, rfl⟩ := held items List.mem_cons_self
      refine ⟨item, ?_, rfl⟩
      rw [page_whole ends]
      exact mem_after.mpr ⟨member, above⟩
  | @more cursor items later rest last goes ends next ih =>
      obtain ⟨item, member, rfl⟩ := held items List.mem_cons_self
      obtain here | behind := mem_page_or_behind member above ends
      · exact ⟨item, List.mem_append_left _ here, rfl⟩
      · obtain same | before := behind.eq_or_lt
        · exact ⟨last, List.mem_append_left _ (List.mem_of_getLast? ends), same⟩
        · have later := ih (by rintro _ ⟨⟩; exact before) fun items member =>
            held items (List.mem_cons_of_mem _ member)
          obtain ⟨found, among, same⟩ := later
          exact ⟨found, List.mem_append_right _ among, same⟩

/-- A list that does not change is read to its end. -/
theorem exists_reading (positive : 0 < limit) (distinct : (items.map key).Nodup) :
    ∃ pages, Reading key limit cursor (List.replicate pages items) (after key cursor items) := by
  induction size : (after key cursor items).length using Nat.strong_induction_on
    generalizing cursor with
  | _ size ih =>
      subst size
      cases goes : hasMore key limit cursor items with
      | false =>
          refine ⟨1, ?_⟩
          rw [← page_whole goes]
          exact .last goes
      | true =>
          have long : limit < (after key cursor items).length := by simpa [hasMore] using goes
          have filled : page key limit cursor items ≠ [] := by
            intro empty
            have length := congrArg List.length empty
            simp only [page, List.length_take, List.length_nil] at length
            omega
          obtain ⟨last, ends⟩ := Option.ne_none_iff_exists'.mp
            (fun none => filled (List.getLast?_eq_none_iff.mp none))
          have behind := after_last distinct ends
          have shorter : (after key (some (key last)) items).length <
              (after key cursor items).length := by
            rw [behind, List.length_drop]
            omega
          obtain ⟨pages, reading⟩ := ih _ shorter rfl
          refine ⟨pages + 1, ?_⟩
          have whole := Reading.more goes ends reading
          rw [behind] at whole
          simpa [List.replicate_succ, page] using whole

end

end DesignHarness.Library.Keyset
