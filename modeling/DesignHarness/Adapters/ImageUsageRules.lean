import DesignHarness.Adapters.ImageUsage
import Mathlib.Data.List.Infix

/-!
# A usage log is read once, whatever its pages

The position in the log that an event id carries is the one that `usage_cursor` reads off it.  So a
read that goes on after the last stored event goes on where it stopped, and page after page gives
the rest of the log.
-/

namespace DesignHarness

open Library

namespace ImageUsage

theorem head_toDigits {n : Nat} (positive : 0 < n) :
    ∃ first rest, Nat.toDigits 10 n = first :: rest ∧ first ≠ '0' := by
  induction n using Nat.strongRecOn with
  | ind n ih =>
      by_cases small : n < 10
      · refine ⟨n.digitChar, [], Nat.toDigits_of_lt_base small, ?_⟩
        have digits : ∀ digit < 10, 0 < digit → digit.digitChar ≠ '0' := by decide
        exact digits n small positive
      · obtain ⟨first, rest, found, nonzero⟩ := ih (n / 10) (by omega) (by omega)
        refine ⟨first, rest ++ [(n % 10).digitChar], ?_, nonzero⟩
        rw [Nat.toDigits_of_base_le (by decide) (by omega), found]
        rfl

theorem afterUsage_append (rest : List Char) :
    afterUsage ("usage_".toList ++ rest) = some rest := by
  have usage : "usage_".toList = ['u', 's', 'a', 'g', 'e', '_'] := by simp
  rw [usage]
  rfl

theorem eventId_toList (sequence : Nat) (digest : List Char) :
    (eventId sequence digest).toList =
      "usage_".toList ++ (Nat.toDigits 10 sequence ++ '_' :: digest) :=
  String.toList_ofList

/-- `usage_cursor` reads the sequence off an event id. -/
theorem usageCursor_eventId {sequence : Nat} (positive : 0 < sequence) {digest : List Char}
    (size : digest.length = 16) (hex : digest.all isHexDigit = true) :
    usageCursor (some (eventId sequence digest)) = .ok sequence := by
  obtain ⟨first, rest, digits, nonzero⟩ := head_toDigits positive
  have isDigit : ∀ c ∈ Nat.toDigits 10 sequence, c.isDigit = true := fun c member =>
    Nat.isDigit_of_mem_toDigits (by decide) (by decide) member
  have underscore : ¬ Char.isDigit '_' = true := by decide
  have taken : (Nat.toDigits 10 sequence ++ '_' :: digest).takeWhile Char.isDigit =
      Nat.toDigits 10 sequence := by
    rw [List.takeWhile_append_of_pos isDigit, List.takeWhile_cons_of_neg underscore,
      List.append_nil]
  have dropped : (Nat.toDigits 10 sequence ++ '_' :: digest).dropWhile Char.isDigit =
      '_' :: digest := by
    rw [List.dropWhile_append_of_pos isDigit, List.dropWhile_cons_of_neg underscore]
  have found : cursorDigits (eventId sequence digest).toList = some (Nat.toDigits 10 sequence) := by
    unfold cursorDigits
    rw [eventId_toList, afterUsage_append]
    simp only [taken, dropped]
    rw [digits]
    simp [nonzero, size, hex]
  rw [usageCursor, found]
  exact congrArg Except.ok (Nat.ofDigitChars_toDigits (by decide) (by decide))

/-- Ids of different positions differ. -/
theorem eventId_ne {one other : Nat} (positive : 0 < one) (positive' : 0 < other)
    {digest digest' : List Char} (size : digest.length = 16) (hex : digest.all isHexDigit = true)
    (size' : digest'.length = 16) (hex' : digest'.all isHexDigit = true) (different : one ≠ other) :
    eventId one digest ≠ eventId other digest' := by
  intro same
  have cursor := usageCursor_eventId positive size hex
  rw [same, usageCursor_eventId positive' size' hex'] at cursor
  exact different (Except.ok.inj cursor).symm

/-- An observation of the log. -/
abbrev Observation := List (String × Wire)

/-- Its position, which is positive. -/
def sequenceOf (item : Observation) : Nat :=
  match get item "sequence" with
  | .int sequence => sequence.toNat
  | _ => 0

theorem get_sequence {item : Observation} (positive : 0 < sequenceOf item) :
    get item "sequence" = .int (sequenceOf item) := by
  unfold sequenceOf at positive ⊢
  split at positive
  next sequence held =>
    rw [Int.toNat_of_nonneg (by omega), held]
  next => cases positive

/-- A log: the positions are positive and increase. -/
structure Increasing (log : List Observation) : Prop where
  positive : ∀ item ∈ log, 0 < sequenceOf item
  ordered : log.Pairwise fun item later => sequenceOf item < sequenceOf later

/-- The last position of a log; 0 is before every position. -/
def lastSequence (log : List Observation) : Nat := log.getLast?.elim 0 sequenceOf

/-- What a log has after a position. -/
def remaining (log : List Observation) (after : Nat) : List Observation :=
  log.filter fun item => after < sequenceOf item

/-- An answer of the producer to a request for what comes after a position: it has cut `items` off
    what remains, and `rest` is left. -/
structure Serves (log : List Observation) (after : Nat) (page : List (String × Wire))
    (items rest : List Observation) (more : Bool) : Prop where
  cut : remaining log after = items ++ rest
  size : items.length ≤ 500
  served : get page "items" = .list (items.map Wire.dict)
  cursor : get page "next_cursor" =
    .int (if items = [] then after else lastSequence items : Nat)
  hasMore : get page "has_more" = .flag more
  ends : more = false → rest = []
  advances : more = true → items ≠ []

section

variable (primitives : Primitives) (taskId instanceId : Identifier) (log : List Observation)

/-- The events of observations, each the one that `_map_usage_item` makes of it. -/
def Events : List Observation → List UsageEvent → Prop :=
  List.Forall₂ fun item event =>
    mapUsageItem primitives taskId instanceId item (sequenceOf item) = .ok event

/-- The states of reading a log: the events that are stored, the cursor, and whether there is more.
    A page extends them.  A read can break off at any point and be taken up again after the last
    event that was kept. -/
inductive Reading : List UsageEvent → Nat → Bool → Prop
  | start : Reading [] 0 true
  | page {stored mapped : List UsageEvent} {previous next : Nat} {more : Bool}
      {page : List (String × Wire)} {items rest : List Observation} {served : Bool}
      (reading : Reading stored previous true) (serves : Serves log previous page items rest served)
      (read : mapUsagePage primitives taskId instanceId page previous = .ok (mapped, next, more)) :
      Reading (stored ++ mapped) next more
  | restart {stored kept : List UsageEvent} {previous cursor : Nat} {more : Bool}
      (reading : Reading stored previous more) (part : kept <+: stored)
      (taken : usageCursor (kept.getLast?.map UsageEvent.eventId) = .ok cursor) :
      Reading kept cursor true

variable {primitives taskId instanceId log}

theorem mapUsageItem_eventId {item : List (String × Wire)} {sequence : Nat} {event : UsageEvent}
    (mapped : mapUsageItem primitives taskId instanceId item sequence = .ok event) :
    ∃ usageId, event.eventId = eventId sequence (primitives.digest instanceId usageId) := by
  unfold mapUsageItem at mapped
  obtain ⟨usageId, -, mapped⟩ := bind_eq_ok.mp mapped
  obtain ⟨-, -, mapped⟩ := bind_eq_ok.mp mapped
  obtain ⟨requestId, -, mapped⟩ := bind_eq_ok.mp mapped
  obtain ⟨providerRequestId, -, mapped⟩ := bind_eq_ok.mp mapped
  obtain ⟨provider, -, mapped⟩ := bind_eq_ok.mp mapped
  obtain ⟨model, -, mapped⟩ := bind_eq_ok.mp mapped
  obtain ⟨⟨callType, basis⟩, -, mapped⟩ := bind_eq_ok.mp mapped
  obtain ⟨tokens, -, mapped⟩ := bind_eq_ok.mp mapped
  obtain ⟨units, -, mapped⟩ := bind_eq_ok.mp mapped
  obtain ⟨raw, -, mapped⟩ := bind_eq_ok.mp mapped
  obtain ⟨-, -, mapped⟩ := bind_eq_ok.mp mapped
  obtain ⟨occurredAt, -, mapped⟩ := bind_eq_ok.mp mapped
  cases mapped
  exact ⟨usageId, rfl⟩

theorem Increasing.append_left {done rest : List Observation}
    (increasing : Increasing (done ++ rest)) : Increasing done :=
  ⟨fun item member => increasing.positive item (List.mem_append_left rest member),
    (List.pairwise_append.mp increasing.ordered).1⟩

theorem lastSequence_append {done items : List Observation} :
    lastSequence (done ++ items) = if items = [] then lastSequence done else lastSequence items := by
  cases items with
  | nil => simp
  | cons item items => simp [lastSequence, List.getLast?_cons]

/-- What is read lies at or before the last position. -/
theorem Increasing.le_last {done : List Observation} (increasing : Increasing done)
    {item : Observation} (member : item ∈ done) : sequenceOf item ≤ lastSequence done := by
  induction done using List.reverseRecOn with
  | nil => cases member
  | append_singleton before last _ =>
      simp only [lastSequence, List.getLast?_concat, Option.elim_some]
      rcases List.mem_append.mp member with earlier | same
      · have before := (List.pairwise_append.mp increasing.ordered).2.2 item earlier last
          (List.mem_singleton_self last)
        omega
      · rw [List.mem_singleton.mp same]

/-- After the last position of what is read, the rest remains. -/
theorem remaining_last {done rest : List Observation} (increasing : Increasing (done ++ rest)) :
    remaining (done ++ rest) (lastSequence done) = rest := by
  unfold remaining
  rw [List.filter_append]
  have behind : done.filter (fun item => lastSequence done < sequenceOf item) = [] := by
    refine List.filter_eq_nil_iff.mpr fun item member => ?_
    have bounded := increasing.append_left.le_last member
    simpa using bounded
  have ahead : rest.filter (fun item => lastSequence done < sequenceOf item) = rest := by
    refine List.filter_eq_self.mpr fun item member => ?_
    have positive := increasing.positive item (List.mem_append_right done member)
    rw [decide_eq_true_eq]
    cases held : done.getLast? with
    | none => simpa [lastSequence, held] using positive
    | some last =>
        have inside : last ∈ done := List.mem_of_getLast? held
        have before := (List.pairwise_append.mp increasing.ordered).2.2 last inside item member
        simpa [lastSequence, held] using before
  rw [behind, ahead, List.nil_append]

/-- The loop over the items of a page gives their events. -/
theorem mapItems_of_events {items : List Observation} {events : List UsageEvent}
    (mapped : Events primitives taskId instanceId items events) {previous : Nat}
    (ordered : items.Pairwise fun item later => sequenceOf item < sequenceOf later)
    (ahead : ∀ item ∈ items, previous < sequenceOf item) :
    mapItems primitives taskId instanceId previous (items.map Wire.dict) =
      .ok (events, ((if items = [] then previous else lastSequence items : Nat) : Int)) := by
  induction mapped generalizing previous with
  | nil => rfl
  | @cons item event items events made _ ih =>
      have positive : 0 < sequenceOf item := Nat.zero_lt_of_lt (ahead item List.mem_cons_self)
      obtain ⟨before, ordered⟩ := List.pairwise_cons.mp ordered
      have last : lastSequence (item :: items) =
          if items = [] then sequenceOf item else lastSequence items := by
        cases items with
        | nil => rfl
        | cons next items => simp [lastSequence, List.getLast?_cons]
      have advances : (previous : Int) < (sequenceOf item : Int) := by
        exact_mod_cast ahead item List.mem_cons_self
      rw [List.map_cons, mapItems, get_sequence positive]
      simp only [ensure_of advances, Int.toNat_natCast, made, ih ordered before, ok_bind]
      rw [if_neg (List.cons_ne_nil item items), last]
      rfl

/-- A served page is accepted, whatever its cut. -/
theorem mapUsagePage_of_serves {done rest items later : List Observation} {more : Bool}
    (increasing : Increasing (done ++ rest)) {page : List (String × Wire)}
    (serves : Serves (done ++ rest) (lastSequence done) page items later more)
    {mapped : List UsageEvent} (made : Events primitives taskId instanceId items mapped) :
    rest = items ++ later ∧ mapUsagePage primitives taskId instanceId page (lastSequence done) =
      .ok (mapped, lastSequence (done ++ items), more) := by
  have cut : rest = items ++ later := by
    rw [← remaining_last increasing]
    exact serves.cut
  subst cut
  have ordered := (List.pairwise_append.mp increasing.ordered).2.1
  have ahead : ∀ item ∈ items, lastSequence done < sequenceOf item := by
    intro item member
    have left : item ∈ remaining (done ++ (items ++ later)) (lastSequence done) := by
      rw [serves.cut]
      exact List.mem_append_left later member
    simpa using (List.mem_filter.mp left).2
  have read := mapItems_of_events made (List.pairwise_append.mp ordered).1 ahead
  refine ⟨rfl, ?_⟩
  rw [lastSequence_append, mapUsagePage, serves.served, serves.cursor, serves.hasMore]
  by_cases empty : items = []
  · subst empty
    have stays : more = false := by
      by_contra further
      exact serves.advances (by simpa using further) rfl
    subst stays
    rw [List.map_nil, if_pos rfl] at read
    simp [ensure_of, read]
  · have last : lastSequence done < lastSequence items := by
      cases held : items.getLast? with
      | none => exact (empty (List.getLast?_eq_none_iff.mp held)).elim
      | some item =>
          simpa [lastSequence, held] using ahead item (List.mem_of_getLast? held)
    have size := serves.size
    simp only [if_neg empty] at read
    have forward : ¬ ((lastSequence items : Int) < lastSequence done) ∧
        (items.map Wire.dict).length ≤ 500 := by
      rw [List.length_map]
      omega
    have apart : items.map Wire.dict ≠ [] := mt List.map_eq_nil_iff.mp empty
    simp only [if_neg empty, ensure_of forward, read, ok_bind]
    have consistent : ¬ ((items.map Wire.dict ≠ [] ∧
        (lastSequence items : Int) ≠ (lastSequence items : Int)) ∨
        (items.map Wire.dict = [] ∧ (lastSequence items : Int) ≠ (lastSequence done : Int))) := by
      rintro (⟨-, other⟩ | ⟨none, -⟩)
      · exact other rfl
      · exact apart none
    have advanced : ¬ (more = true ∧
        (items.map Wire.dict = [] ∨ (lastSequence items : Int) ≤ (lastSequence done : Int))) := by
      rintro ⟨-, none | behind⟩
      · exact apart none
      · omega
    rw [ensure_of consistent, ok_bind, ensure_of advanced, ok_bind, Int.toNat_natCast]
    rfl

/-! ## Splitting what is read -/

theorem Events.split {first second : List Observation} {events : List UsageEvent}
    (made : Events primitives taskId instanceId (first ++ second) events) :
    ∃ events' events'', events = events' ++ events'' ∧
      Events primitives taskId instanceId first events' ∧
      Events primitives taskId instanceId second events'' := by
  induction first generalizing events with
  | nil => exact ⟨[], events, rfl, .nil, made⟩
  | cons item first ih =>
      cases made with
      | @cons _ event _ rest this others =>
          obtain ⟨events', events'', rfl, left, right⟩ := ih others
          exact ⟨event :: events', events'', rfl, .cons this left, right⟩

theorem Events.split_events {items : List Observation} {first second : List UsageEvent}
    (made : Events primitives taskId instanceId items (first ++ second)) :
    ∃ items' items'', items = items' ++ items'' ∧
      Events primitives taskId instanceId items' first ∧
      Events primitives taskId instanceId items'' second := by
  induction first generalizing items with
  | nil => exact ⟨[], items, rfl, .nil, made⟩
  | cons event first ih =>
      cases made with
      | @cons item _ rest _ this others =>
          obtain ⟨items', items'', rfl, left, right⟩ := ih others
          exact ⟨item :: items', items'', rfl, .cons this left, right⟩

theorem Events.append {first second : List Observation} {events events' : List UsageEvent}
    (left : Events primitives taskId instanceId first events)
    (right : Events primitives taskId instanceId second events') :
    Events primitives taskId instanceId (first ++ second) (events ++ events') :=
  List.rel_append left right

theorem Events.unique {items : List Observation} {events events' : List UsageEvent}
    (made : Events primitives taskId instanceId items events)
    (made' : Events primitives taskId instanceId items events') : events = events' := by
  induction made generalizing events' with
  | nil =>
      cases made'
      rfl
  | cons this _ ih =>
      cases made' with
      | cons this' others' =>
          rw [this] at this'
          cases this'
          rw [ih others']

/-- The cursor after stored events is the last position of what was read. -/
theorem Events.cursor {done : List Observation} (increasing : Increasing done)
    {stored : List UsageEvent} (made : Events primitives taskId instanceId done stored) :
    usageCursor (stored.getLast?.map UsageEvent.eventId) = .ok (lastSequence done) := by
  cases done using List.reverseRecOn with
  | nil =>
      cases made
      rfl
  | append_singleton before last =>
      obtain ⟨events, events', rfl, -, this⟩ := made.split
      cases this with
      | @cons _ event _ _ mapped others =>
          cases others
          obtain ⟨usageId, named⟩ := mapUsageItem_eventId mapped
          have positive := increasing.positive last (by simp)
          rw [List.getLast?_concat, Option.map_some, named,
            usageCursor_eventId positive (primitives.digest_length _ _) (primitives.digest_hex _ _)]
          simp [lastSequence]

/-- Different observations have different event ids. -/
theorem Events.distinct {items : List Observation} (increasing : Increasing items)
    {events : List UsageEvent} (made : Events primitives taskId instanceId items events) :
    (events.map UsageEvent.eventId).Nodup := by
  induction made with
  | nil => exact List.nodup_nil
  | @cons item event items events this others ih =>
      have split := List.pairwise_cons.mp increasing.ordered
      have later : Increasing items :=
        ⟨fun other member => increasing.positive other (List.mem_cons_of_mem item member), split.2⟩
      refine List.nodup_cons.mpr ⟨fun listed => ?_, ih later⟩
      obtain ⟨event', member', same⟩ := List.mem_map.mp listed
      obtain ⟨item', member, mapped⟩ : ∃ item' ∈ items,
          mapUsageItem primitives taskId instanceId item' (sequenceOf item') = .ok event' := by
        obtain ⟨before, after, rfl⟩ := List.append_of_mem member'
        have rest : Events primitives taskId instanceId items (before ++ event' :: after) := others
        obtain ⟨items', items'', rfl, -, right⟩ := rest.split_events
        cases right with
        | @cons item' _ rest _ this' _ => exact ⟨item', by simp, this'⟩
      obtain ⟨usageId, named⟩ := mapUsageItem_eventId this
      obtain ⟨usageId', named'⟩ := mapUsageItem_eventId mapped
      rw [named, named'] at same
      have different : sequenceOf item' ≠ sequenceOf item := Nat.ne_of_gt (split.1 item' member)
      exact eventId_ne (later.positive item' member) (increasing.positive item List.mem_cons_self)
        (primitives.digest_length _ _) (primitives.digest_hex _ _) (primitives.digest_length _ _)
        (primitives.digest_hex _ _) different same

/-! ## Reading -/

/-- What is stored are the events of the observations up to the cursor. -/
theorem Reading.position (increasing : Increasing log) {events : List UsageEvent}
    (all : Events primitives taskId instanceId log events) {stored : List UsageEvent}
    {previous : Nat} {more : Bool}
    (reading : Reading primitives taskId instanceId log stored previous more) :
    ∃ done rest, log = done ++ rest ∧ Events primitives taskId instanceId done stored ∧
      previous = lastSequence done ∧ (more = false → rest = []) := by
  induction reading with
  | start => exact ⟨[], log, rfl, .nil, rfl, fun ends => Bool.noConfusion ends⟩
  | @page stored mapped previous next more page items later served _ serves read ih =>
      obtain ⟨done, rest, rfl, made, rfl, -⟩ := ih
      have cut : rest = items ++ later := by
        rw [← remaining_last increasing]
        exact serves.cut
      subst cut
      obtain ⟨_, events', rfl, -, right⟩ := all.split
      obtain ⟨mapped', _, rfl, these, -⟩ := right.split
      obtain ⟨-, accepted⟩ := mapUsagePage_of_serves increasing serves these
      rw [accepted] at read
      cases read
      exact ⟨done ++ items, later, (List.append_assoc _ _ _).symm, made.append these, rfl,
        serves.ends⟩
  | @restart stored kept previous cursor more _ part taken ih =>
      obtain ⟨done, rest, rfl, made, rfl, -⟩ := ih
      obtain ⟨others, rfl⟩ := part
      obtain ⟨done', dropped, rfl, made', -⟩ := made.split_events
      rw [made'.cursor increasing.append_left.append_left] at taken
      cases taken
      exact ⟨done', dropped ++ rest, List.append_assoc _ _ _, made', rfl, fun ends => Bool.noConfusion ends⟩

/-- Collecting from a position gives the events of what remains, however the producer cuts its
    answers, in at most one page more than observations remain; too many of them are refused. -/
theorem collectPages_of_position {done rest : List Observation}
    (increasing : Increasing (done ++ rest)) {events : List UsageEvent}
    (made : Events primitives taskId instanceId rest events)
    {answer : Nat → Nat → List (String × Wire)}
    (serves : ∀ round after, ∃ items later more,
      Serves (done ++ rest) after (answer round after) items later more)
    {fuel : Nat} (enough : rest.length < fuel) (round : Nat) (collected : List UsageEvent) :
    collectPages primitives taskId instanceId answer fuel round (lastSequence done) collected =
      some (if (collected ++ events).length ≤ 10000 then .ok (collected ++ events)
        else .error (protocolError "Image Agent returned too many usage observations.")) := by
  induction fuel generalizing done rest events round collected with
  | zero => cases enough
  | succ fuel ih =>
      obtain ⟨items, later, more, page⟩ := serves round (lastSequence done)
      have cut : rest = items ++ later := by
        rw [← remaining_last increasing]
        exact page.cut
      subst cut
      obtain ⟨mapped, events, rfl, these, others⟩ := made.split
      obtain ⟨-, accepted⟩ := mapUsagePage_of_serves increasing page these
      rw [collectPages, accepted]
      simp only
      by_cases tooMany : 10000 < (collected ++ mapped).length
      · have beyond : ¬ (collected ++ (mapped ++ events)).length ≤ 10000 := by
          simp only [List.length_append] at tooMany ⊢
          omega
        rw [if_pos tooMany, if_neg beyond]
      · rw [if_neg tooMany]
        cases more with
        | false =>
            have finished := page.ends rfl
            subst finished
            cases others
            have within : (collected ++ (mapped ++ [])).length ≤ 10000 := by
              rw [List.append_nil]
              omega
            rw [if_pos within, List.append_nil]
            rfl
        | true =>
            have advanced := List.length_pos_iff.mpr (page.advances rfl)
            have shorter : later.length < fuel := by
              rw [List.length_append] at enough
              omega
            have next := ih (List.append_assoc done items later ▸ increasing) others
              (by simpa only [List.append_assoc] using serves) shorter (round + 1)
              (collected ++ mapped)
            rw [if_pos rfl, next, List.append_assoc]

/-- In every state of reading a log, a prefix of its events is stored. -/
theorem Reading.stored_prefix (increasing : Increasing log) {events : List UsageEvent}
    (all : Events primitives taskId instanceId log events) {stored : List UsageEvent}
    {previous : Nat} {more : Bool}
    (reading : Reading primitives taskId instanceId log stored previous more) :
    stored <+: events := by
  obtain ⟨done, rest, rfl, made, -, -⟩ := reading.position increasing all
  obtain ⟨stored', others, rfl, made', -⟩ := all.split
  rw [made.unique made']
  exact List.prefix_append stored' others

/-- When nothing more is left, all events are stored and the cursor is the last position. -/
theorem Reading.finished (increasing : Increasing log) {events : List UsageEvent}
    (all : Events primitives taskId instanceId log events) {stored : List UsageEvent}
    {previous : Nat}
    (reading : Reading primitives taskId instanceId log stored previous false) :
    stored = events ∧ previous = lastSequence log := by
  obtain ⟨done, rest, rfl, made, rfl, ends⟩ := reading.position increasing all
  have finished := ends rfl
  subst finished
  rw [List.append_nil] at all ⊢
  exact ⟨made.unique all, rfl⟩

/-- In every state of reading a log, the next page is accepted, and brings events or ends the
    read. -/
theorem Reading.next (increasing : Increasing log) {events : List UsageEvent}
    (all : Events primitives taskId instanceId log events) {stored : List UsageEvent}
    {previous : Nat}
    (reading : Reading primitives taskId instanceId log stored previous true)
    {page : List (String × Wire)} {items rest : List Observation} {more : Bool}
    (serves : Serves log previous page items rest more) :
    ∃ mapped next, mapUsagePage primitives taskId instanceId page previous =
      .ok (mapped, next, more) ∧ (more = true → mapped ≠ []) := by
  obtain ⟨done, left, rfl, -, rfl, -⟩ := reading.position increasing all
  have cut : left = items ++ rest := by
    rw [← remaining_last increasing]
    exact serves.cut
  subst cut
  obtain ⟨_, events', rfl, -, right⟩ := all.split
  obtain ⟨mapped, _, rfl, these, -⟩ := right.split
  obtain ⟨-, accepted⟩ := mapUsagePage_of_serves increasing serves these
  refine ⟨mapped, _, accepted, fun goes => ?_⟩
  rintro rfl
  cases these
  exact serves.advances goes rfl

/-- A read that is taken up after the kept events collects the others. -/
theorem collectUsage_of_kept (increasing : Increasing log) {kept others : List UsageEvent}
    (all : Events primitives taskId instanceId log (kept ++ others))
    {answer : Nat → Nat → List (String × Wire)}
    (serves : ∀ round after, ∃ items later more,
      Serves log after (answer round after) items later more)
    {fuel : Nat} (enough : log.length < fuel) :
    collectUsage primitives taskId instanceId answer fuel
        (kept.getLast?.map UsageEvent.eventId) =
      some (if others.length ≤ 10000 then .ok others
        else .error (protocolError "Image Agent returned too many usage observations.")) := by
  obtain ⟨done, rest, rfl, made, made'⟩ := all.split_events
  have shorter : rest.length < fuel := by
    rw [List.length_append] at enough
    omega
  rw [collectUsage, made.cursor increasing.append_left]
  exact collectPages_of_position increasing made' serves shorter 0 []

theorem Events.of_accepted {items : List Observation}
    (accepted : ∀ item ∈ items, ∃ event,
      mapUsageItem primitives taskId instanceId item (sequenceOf item) = .ok event) :
    ∃ events, Events primitives taskId instanceId items events := by
  induction items with
  | nil => exact ⟨[], .nil⟩
  | cons item items ih =>
      obtain ⟨event, this⟩ := accepted item List.mem_cons_self
      obtain ⟨events, others⟩ := ih fun other member =>
        accepted other (List.mem_cons_of_mem item member)
      exact ⟨event :: events, .cons this others⟩

end

/-- A log of acceptable observations has one event for each, with ids that differ, and these are
    read in their order, each once, however the pages are cut and wherever the read is taken up
    again: what is stored is always a prefix of them, and all of them when the read ends, with the
    cursor at the last position; no page is refused; and what is collected after a stored event are
    the events behind it, as long as one call may collect that many. -/
theorem usage_read_once (primitives : Primitives) (taskId instanceId : Identifier)
    (log : List Observation) (increasing : Increasing log)
    (accepted : ∀ item ∈ log, ∃ event,
      mapUsageItem primitives taskId instanceId item (sequenceOf item) = .ok event) :
    ∃ events, Events primitives taskId instanceId log events ∧
      (events.map UsageEvent.eventId).Nodup ∧
      (∀ stored previous more, Reading primitives taskId instanceId log stored previous more →
        stored <+: events ∧
        (more = false → stored = events ∧ previous = lastSequence log) ∧
        (more = true → ∀ page items rest served, Serves log previous page items rest served →
          ∃ mapped next, mapUsagePage primitives taskId instanceId page previous =
            .ok (mapped, next, served) ∧ (served = true → mapped ≠ []))) ∧
      ∀ kept others, events = kept ++ others → ∀ answer : Nat → Nat → List (String × Wire),
        (∀ round after, ∃ items rest more,
          Serves log after (answer round after) items rest more) →
        ∀ fuel, log.length < fuel →
          collectUsage primitives taskId instanceId answer fuel
              (kept.getLast?.map UsageEvent.eventId) =
            some (if others.length ≤ 10000 then .ok others
              else .error
                (protocolError "Image Agent returned too many usage observations.")) := by
  obtain ⟨events, all⟩ := Events.of_accepted accepted
  refine ⟨events, all, all.distinct increasing, fun stored previous more reading => ?_, ?_⟩
  · refine ⟨reading.stored_prefix increasing all, ?_, ?_⟩
    · rintro rfl
      exact reading.finished increasing all
    · rintro rfl page items rest served serves
      exact reading.next increasing all serves
  · rintro kept others rfl answer serves fuel enough
    exact collectUsage_of_kept increasing all serves enough

/-- An observation of an image generation that was billed by one image. -/
def imageObservation (sequence : Int) : Observation :=
  [("sequence", .int sequence), ("usage_id", .text "u1"), ("request_id", .text "r1"),
    ("provider", .text "ark"), ("model", .text "seedream"),
    ("call_type", .text "text_to_image_model"), ("usage_basis", .text "image_units"),
    ("billing_units", .list [.dict [("unit", .text "image"), ("quantity", .int 1),
      ("attributes", .dict [])]]), ("raw_usage", .dict []),
    ("timestamp", .text "2026-01-01T00:00:00.000000Z")]

/-- A digest of sixteen zeros, and time stamps that are in their form already. -/
def plainPrimitives : Primitives where
  digest _ _ := List.replicate 16 '0'
  digest_length _ _ := List.length_replicate
  digest_hex _ _ := by decide
  utcTimestamp instant := some instant

/-- Two images, at the positions 1 and 3. -/
theorem usage_read_once_images :
    ∃ events, Events plainPrimitives "task" "image" [imageObservation 1, imageObservation 3] events ∧
      ∀ stored previous, Reading plainPrimitives "task" "image"
          [imageObservation 1, imageObservation 3] stored previous false →
        stored = events ∧ previous = 3 := by
  have accepted : ∀ item ∈ [imageObservation 1, imageObservation 3],
      (mapUsageItem plainPrimitives "task" "image" item (sequenceOf item)).isOk = true := by
    decide +kernel
  obtain ⟨events, all, -, states, -⟩ := usage_read_once plainPrimitives "task" "image"
    [imageObservation 1, imageObservation 3] ⟨by decide, by decide⟩ fun item member => by
      cases held : mapUsageItem plainPrimitives "task" "image" item (sequenceOf item) with
      | ok event => exact ⟨event, rfl⟩
      | error raised =>
          have ok := accepted item member
          rw [held] at ok
          cases ok
  exact ⟨events, all, fun stored previous reading => (states stored previous false reading).2.1 rfl⟩

end ImageUsage

end DesignHarness
