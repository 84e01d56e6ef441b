import DesignHarness.Library.EventStore
import Mathlib.Data.List.Induction

/-!
# Rules for an event store

What the journal says after an append, the two relations between journal and snapshots
(`Store.Behind`, `Store.Committed`), and a `Meets` rule for each program of the store.
-/

namespace DesignHarness.Library

variable {κ : Type} [DecidableEq κ] {P : κ → Type} {μ ξ : Type}

/-! ## The journal -/

section

variable {key other : κ} {snapshot : Wrapper (P key)} {info : μ} {events : List (Event κ P μ)}
  {event : Event κ P μ}

@[simp] theorem Event.outcome_committed :
    Event.outcome key (⟨key, .committed snapshot, info⟩ : Event κ P μ) = some (some snapshot) := by
  simp [Event.outcome]

@[simp] theorem Event.outcome_removed {revision : Nat} :
    Event.outcome key (⟨key, .removed revision, info⟩ : Event κ P μ) = some none := by
  simp [Event.outcome]

theorem Event.outcome_of_ne (different : event.key ≠ key) : event.outcome key = none := by
  simp [Event.outcome, different]

@[simp] theorem Event.snapshot_committed :
    Event.snapshot key (⟨key, .committed snapshot, info⟩ : Event κ P μ) = some snapshot := by
  simp [Event.snapshot]

@[simp] theorem Event.snapshot_removed {revision : Nat} :
    Event.snapshot key (⟨other, .removed revision, info⟩ : Event κ P μ) = none := by
  by_cases same : other = key
  · subst same
    simp [Event.snapshot]
  · simp [Event.snapshot, Event.outcome, same]

theorem Event.snapshot_of_ne (different : event.key ≠ key) : event.snapshot key = none := by
  simp [Event.snapshot, Event.outcome_of_ne different]

theorem lastSnapshot_append : lastSnapshot key (events ++ [event]) =
    (event.outcome key).getD (lastSnapshot key events) := by
  rw [lastSnapshot, List.foldl_append]
  rfl

@[simp] theorem lastSnapshot_append_committed :
    lastSnapshot key (events ++ [⟨key, .committed snapshot, info⟩]) = some snapshot := by
  rw [lastSnapshot_append, Event.outcome_committed]
  rfl

@[simp] theorem lastSnapshot_append_removed {revision : Nat} :
    lastSnapshot key (events ++ [⟨key, .removed revision, info⟩]) = none := by
  rw [lastSnapshot_append, Event.outcome_removed]
  rfl

theorem lastSnapshot_append_of_ne (different : event.key ≠ key) :
    lastSnapshot key (events ++ [event]) = lastSnapshot key events := by
  rw [lastSnapshot_append, Event.outcome_of_ne different]
  rfl

theorem latest_append : latest key (events ++ [event]) =
    newer (latest key events) (event.snapshot key) := by
  rw [latest, List.foldl_append]
  rfl

theorem latest_append_of_none (silent : event.snapshot key = none) :
    latest key (events ++ [event]) = latest key events := by
  rw [latest_append, silent]
  cases latest key events <;> rfl

theorem latest_append_of_silent {more : List (Event κ P μ)}
    (others : ∀ event ∈ more, event.key ≠ key) : latest key (events ++ more) = latest key events := by
  induction more using List.reverseRecOn with
  | nil => rw [List.append_nil]
  | append_singleton more event ih =>
      rw [← List.append_assoc,
        latest_append_of_none (Event.snapshot_of_ne (others event (by simp)))]
      exact ih fun other member => others other (List.mem_append_left _ member)

theorem maxRevision_append : maxRevision key (events ++ [event]) =
    (event.snapshot key).elim (maxRevision key events) fun snapshot =>
      max (maxRevision key events) snapshot.revision := by
  rw [maxRevision, List.foldl_append]
  rfl

/-- The highest revision is that of the latest snapshot. -/
theorem maxRevision_eq (key : κ) (events : List (Event κ P μ)) :
    maxRevision key events = (latest key events).elim 0 Wrapper.revision := by
  induction events using List.reverseRecOn with
  | nil => rfl
  | append_singleton events event ih =>
      rw [maxRevision_append, latest_append, ih]
      cases latest key events with
      | none => cases event.snapshot key <;> simp [newer]
      | some best =>
          cases event.snapshot key with
          | none => simp [newer]
          | some snapshot =>
              by_cases later : best.revision < snapshot.revision
              · simp [newer, later, Nat.max_eq_right (Nat.le_of_lt later)]
              · simp [newer, later, Nat.max_eq_left (Nat.le_of_not_lt later)]

/-- A commit past every earlier revision is the latest one. -/
theorem latest_append_newest (newest : (latest key events).elim 0 Wrapper.revision <
      snapshot.revision) :
    latest key (events ++ [⟨key, .committed snapshot, info⟩]) = some snapshot := by
  rw [latest_append, Event.snapshot_committed]
  cases best : latest key events with
  | none => rfl
  | some before =>
      rw [best] at newest
      exact if_pos newest

/-- An event either becomes the latest one or changes nothing. -/
theorem latest_append_cases (events : List (Event κ P μ)) (event : Event κ P μ) :
    latest key (events ++ [event]) = latest key events ∨
      ∃ snapshot, event.snapshot key = some snapshot ∧
        latest key (events ++ [event]) = some snapshot := by
  rw [latest_append]
  cases event.snapshot key with
  | none =>
      refine .inl ?_
      cases latest key events <;> rfl
  | some next =>
      cases latest key events with
      | none => exact .inr ⟨next, rfl, rfl⟩
      | some best =>
          by_cases later : best.revision < next.revision
          · exact .inr ⟨next, rfl, if_pos later⟩
          · exact .inl (if_neg later)

theorem latest_append_eq_some (found : latest key (events ++ [event]) = some snapshot) :
    latest key events = some snapshot ∨ event.snapshot key = some snapshot := by
  rcases latest_append_cases events event with same | ⟨next, committed, later⟩
  · exact .inl (same ▸ found)
  · rw [later] at found
    exact .inr (found ▸ committed)

/-- An append never lowers the latest revision. -/
theorem latest_append_grows (event : Event κ P μ) {before : Wrapper (P key)}
    (found : latest key events = some before) :
    ∃ after, latest key (events ++ [event]) = some after ∧ before.revision ≤ after.revision := by
  rw [latest_append, found]
  cases event.snapshot key with
  | none => exact ⟨before, rfl, le_rfl⟩
  | some snapshot =>
      by_cases later : before.revision < snapshot.revision
      · exact ⟨snapshot, if_pos later, Nat.le_of_lt later⟩
      · exact ⟨before, if_neg later, le_rfl⟩

/-- The latest revision is at least that of the snapshot committed last. -/
theorem latest_append_committed (events : List (Event κ P μ)) (snapshot : Wrapper (P key))
    (info : μ) :
    ∃ after, latest key (events ++ [⟨key, .committed snapshot, info⟩]) = some after ∧
      snapshot.revision ≤ after.revision := by
  rw [latest_append, Event.snapshot_committed]
  cases latest key events with
  | none => exact ⟨snapshot, rfl, le_rfl⟩
  | some before =>
      by_cases later : before.revision < snapshot.revision
      · exact ⟨snapshot, if_pos later, le_rfl⟩
      · exact ⟨before, if_neg later, Nat.le_of_not_lt later⟩

theorem newer_isSome {α : Type} {best next : Option (Wrapper α)} :
    (newer best next).isSome = (best.isSome || next.isSome) := by
  cases best with
  | none => cases next <;> rfl
  | some before =>
      cases next with
      | none => rfl
      | some after =>
          rw [newer]
          split <;> rfl

theorem latest_isSome_iff : (latest key events).isSome = true ↔
    ∃ event ∈ events, (event.snapshot key).isSome = true := by
  induction events using List.reverseRecOn with
  | nil => simp [latest]
  | append_singleton events event ih =>
      rw [latest_append, newer_isSome, Bool.or_eq_true, ih]
      simp [or_and_right, exists_or]

/-- The loop of the recovery visits exactly the objects that have a committed event. -/
theorem mem_committedKeys : key ∈ committedKeys events ↔ (latest key events).isSome = true := by
  rw [committedKeys, List.mem_eraseDups, List.mem_filterMap, latest_isSome_iff]
  constructor
  · rintro ⟨event, member, found⟩
    obtain ⟨snapshot, committed, rfl⟩ := Option.map_eq_some_iff.mp found
    exact ⟨event, member, by rw [committed]; rfl⟩
  · rintro ⟨event, member, some⟩
    have same : event.key = key := by
      by_contra different
      rw [Event.snapshot_of_ne different] at some
      cases some
    subst same
    obtain ⟨snapshot, committed⟩ := Option.isSome_iff_exists.mp some
    exact ⟨event, member, by rw [committed]; rfl⟩

end

/-! ## The store -/

namespace Store

variable {store : Store κ P μ ξ} {key other : κ} {snapshot : Wrapper (P key)}
  {event : Event κ P μ} {side : ξ}

/-- The events that can be read. -/
def events (store : Store κ P μ ξ) : List (Event κ P μ) := store.journal.events

/-- The last line of the journal verifies. -/
def Clean (store : Store κ P μ ξ) : Prop := store.journal.tail = .clean

@[simp] theorem lookup_append : (store.append event).lookup key = store.lookup key := rfl

@[simp] theorem lookup_torn : store.torn.lookup key = store.lookup key := rfl

@[simp] theorem lookup_truncate : store.truncate.lookup key = store.lookup key := rfl

@[simp] theorem lookup_replace_self : (store.replace key snapshot).lookup key = some snapshot :=
  AList.lookup_insert _

theorem lookup_replace_of_ne (different : other ≠ key) :
    (store.replace key snapshot).lookup other = store.lookup other :=
  AList.lookup_insert_ne different

@[simp] theorem lookup_unlink_self : (store.unlink key).lookup key = none := AList.lookup_erase ..

theorem lookup_unlink_of_ne (different : other ≠ key) :
    (store.unlink key).lookup other = store.lookup other :=
  AList.lookup_erase_ne different

@[simp] theorem events_replace : (store.replace key snapshot).events = store.events := rfl

@[simp] theorem events_unlink : (store.unlink key).events = store.events := rfl

@[simp] theorem events_torn : store.torn.events = store.events := by
  unfold events torn Journal.tear
  dsimp only
  split <;> rfl

theorem events_append (clean : store.Clean) :
    (store.append event).events = store.events ++ [event] := by
  unfold Clean at clean
  simp [events, append, Journal.append, clean]

/-- An append leaves the journal alone or adds its event. -/
theorem events_append_cases (event : Event κ P μ) (store : Store κ P μ ξ) :
    (store.append event).events = store.events ∨
      (store.append event).events = store.events ++ [event] := by
  by_cases clean : store.Clean
  · exact .inr (events_append clean)
  · refine .inl ?_
    unfold Clean at clean
    unfold append Journal.append events
    dsimp only
    split
    · contradiction
    all_goals rfl

theorem Clean.append (clean : store.Clean) : (store.append event).Clean := by
  unfold Clean at clean ⊢
  simp [Store.append, Journal.append, clean]

@[simp] theorem clean_replace : (store.replace key snapshot).Clean ↔ store.Clean := Iff.rfl

@[simp] theorem clean_truncate : store.truncate.Clean := rfl

/-- A journal that verifies has nothing to be cut off. -/
theorem truncate_of_clean (clean : store.Clean) : store.truncate = store := by
  rcases store with ⟨⟨events, tail⟩, snapshots, side⟩
  obtain rfl : tail = .clean := clean
  rfl

@[simp] theorem side_withSide : (store.withSide side).side = side := rfl

/-- No snapshot is ahead of the journal. -/
def Behind (store : Store κ P μ ξ) : Prop :=
  ∀ key snapshot, store.lookup key = some snapshot → ∃ committed,
    latest key store.events = some committed ∧ snapshot.revision ≤ committed.revision

/-- Every snapshot is the latest committed one of its object. -/
def Committed (store : Store κ P μ ξ) : Prop :=
  ∀ key snapshot, store.lookup key = some snapshot → latest key store.events = some snapshot

theorem Committed.behind (committed : store.Committed) : store.Behind :=
  fun key snapshot found => ⟨snapshot, committed key snapshot found, le_rfl⟩

/-- The next revision of an object is past all that were committed. -/
theorem Committed.nextRevision_eq (committed : store.Committed) (key : κ) :
    store.nextRevision key = (latest key store.events).elim 0 Wrapper.revision + 1 := by
  unfold nextRevision
  cases found : store.lookup key with
  | none =>
      rw [← maxRevision_eq]
      rfl
  | some snapshot =>
      rw [committed key snapshot found]
      rfl

/-- The snapshot that a commit makes. -/
def nextSnapshot (key : κ) (payload : P key) (now : String) (store : Store κ P μ ξ) :
    Wrapper (P key) :=
  ⟨store.nextRevision key, payload, now⟩

/-- The event of a commit. -/
def commitEvent (key : κ) (payload : P key) (info : μ) (now : String) (store : Store κ P μ ξ) :
    Event κ P μ :=
  ⟨key, .committed (store.nextSnapshot key payload now), info⟩

/-- The store after a commit. -/
def commit (key : κ) (payload : P key) (info : μ) (now : String) (store : Store κ P μ ξ) :
    Store κ P μ ξ :=
  (store.append (store.commitEvent key payload info now)).replace key
    (store.nextSnapshot key payload now)

section

variable {payload : P key} {info : μ} {now : String}

@[simp] theorem lookup_commit_self :
    (store.commit key payload info now).lookup key = some (store.nextSnapshot key payload now) :=
  lookup_replace_self

theorem lookup_commit_of_ne (different : other ≠ key) :
    (store.commit key payload info now).lookup other = store.lookup other := by
  rw [commit, lookup_replace_of_ne different, lookup_append]

theorem events_commit (clean : store.Clean) :
    (store.commit key payload info now).events =
      store.events ++ [store.commitEvent key payload info now] := by
  rw [commit, events_replace, events_append clean]

theorem Clean.commit (clean : store.Clean) : (store.commit key payload info now).Clean :=
  clean_replace.mpr clean.append

theorem latest_commitEvent_self (committed : store.Committed) :
    latest key (store.events ++ [store.commitEvent key payload info now]) =
      some (store.nextSnapshot key payload now) := by
  refine latest_append_newest ?_
  rw [nextSnapshot, committed.nextRevision_eq]
  exact Nat.lt_succ_self _

theorem latest_commitEvent_of_ne (different : other ≠ key) :
    latest other (store.events ++ [store.commitEvent key payload info now]) =
      latest other store.events :=
  latest_append_of_none (Event.snapshot_of_ne different.symm)

theorem Behind.append (behind : store.Behind) (clean : store.Clean) :
    (store.append event).Behind := by
  intro other snapshot found
  rw [lookup_append] at found
  rw [events_append clean]
  obtain ⟨before, latestBefore, order⟩ := behind other snapshot found
  obtain ⟨after, latestAfter, grown⟩ := latest_append_grows event latestBefore
  exact ⟨after, latestAfter, Nat.le_trans order grown⟩

/-- A commit leaves no snapshot ahead of the journal. -/
theorem Behind.commit (behind : store.Behind) (clean : store.Clean) :
    (store.commit key payload info now).Behind := by
  intro other snapshot found
  by_cases same : other = key
  · subst same
    rw [lookup_commit_self] at found
    obtain rfl := Option.some.inj found
    rw [events_commit clean]
    exact latest_append_committed store.events _ info
  · rw [lookup_commit_of_ne same] at found
    rw [Store.commit, events_replace]
    exact behind.append clean other snapshot found

/-- A finished commit leaves every snapshot the latest one. -/
theorem Committed.commit (committed : store.Committed) (clean : store.Clean) :
    (store.commit key payload info now).Committed := by
  intro other snapshot found
  rw [events_commit clean]
  by_cases same : other = key
  · subst same
    rw [lookup_commit_self] at found
    rw [latest_commitEvent_self committed]
    exact found
  · rw [lookup_commit_of_ne same] at found
    rw [latest_commitEvent_of_ne same]
    exact committed other snapshot found

end

theorem Committed.unlink (committed : store.Committed) : (store.unlink key).Committed := by
  intro other snapshot found
  by_cases same : other = key
  · subst same
    rw [lookup_unlink_self] at found
    cases found
  · rw [lookup_unlink_of_ne same] at found
    exact committed other snapshot found

theorem Behind.torn (behind : store.Behind) : store.torn.Behind := by
  intro key snapshot found
  rw [events_torn]
  exact behind key snapshot found

theorem Behind.unlink (behind : store.Behind) : (store.unlink key).Behind := by
  intro other snapshot found
  by_cases same : other = key
  · subst same
    rw [lookup_unlink_self] at found
    cases found
  · rw [lookup_unlink_of_ne same] at found
    exact behind other snapshot found

/-- Where the last event of an object is a commit, it is the latest one. -/
def Sequenced (store : Store κ P μ ξ) : Prop :=
  ∀ key snapshot, lastSnapshot key store.events = some snapshot →
    latest key store.events = some snapshot

theorem Sequenced.append_commit {payload : P key} {info : μ} {now : String}
    (sequenced : store.Sequenced) (committed : store.Committed) (clean : store.Clean) :
    (store.append (store.commitEvent key payload info now)).Sequenced := by
  intro other snapshot found
  rw [events_append clean] at found ⊢
  by_cases same : other = key
  · subst same
    rw [commitEvent, lastSnapshot_append_committed] at found
    rw [latest_commitEvent_self committed, found]
  · rw [lastSnapshot_append_of_ne (Ne.symm same)] at found
    rw [latest_commitEvent_of_ne same]
    exact sequenced other snapshot found

theorem Sequenced.append_removed {revision : Nat} {info : μ} (sequenced : store.Sequenced)
    (clean : store.Clean) : (store.append ⟨key, .removed revision, info⟩).Sequenced := by
  intro other snapshot found
  rw [events_append clean] at found ⊢
  rw [latest_append_of_none Event.snapshot_removed]
  by_cases same : other = key
  · subst same
    rw [lastSnapshot_append_removed] at found
    cases found
  · rw [lastSnapshot_append_of_ne (Ne.symm same)] at found
    exact sequenced other snapshot found

theorem Sequenced.of_events {other : Store κ P μ ξ} (sequenced : store.Sequenced)
    (same : other.events = store.events) : other.Sequenced := by
  intro key snapshot found
  rw [same] at found ⊢
  exact sequenced key snapshot found

/-- Every object with an event was committed at some time. -/
def Recorded (store : Store κ P μ ξ) : Prop :=
  ∀ event ∈ store.events, (latest event.key store.events).isSome = true

theorem Recorded.append (recorded : store.Recorded) (clean : store.Clean)
    (known : (latest event.key (store.events ++ [event])).isSome = true) :
    (store.append event).Recorded := by
  intro other member
  rw [events_append clean] at member ⊢
  rcases List.mem_append.mp member with before | last
  · obtain ⟨snapshot, found⟩ := Option.isSome_iff_exists.mp (recorded other before)
    obtain ⟨after, grown, -⟩ := latest_append_grows event found
    rw [grown]
    rfl
  · obtain rfl := List.mem_singleton.mp last
    exact known

theorem Recorded.append_commit {payload : P key} {info : μ} {now : String}
    (recorded : store.Recorded) (clean : store.Clean) :
    (store.append (store.commitEvent key payload info now)).Recorded := by
  refine recorded.append clean ?_
  obtain ⟨after, found, -⟩ := latest_append_committed store.events
    (store.nextSnapshot key payload now) info
  exact Option.isSome_iff_exists.mpr ⟨after, found⟩

theorem Recorded.append_removed {revision : Nat} {info : μ} {snapshot : Wrapper (P key)}
    (recorded : store.Recorded) (clean : store.Clean)
    (found : latest key store.events = some snapshot) :
    (store.append ⟨key, .removed revision, info⟩).Recorded := by
  refine recorded.append clean ?_
  rw [latest_append_of_none Event.snapshot_removed, found]
  rfl

theorem Recorded.of_events {other : Store κ P μ ξ} (recorded : store.Recorded)
    (same : other.events = store.events) : other.Recorded := by
  intro event member
  rw [same] at member ⊢
  exact recorded event member

/-- At most the last line does not verify, so the journal can be read. -/
def Readable (store : Store κ P μ ξ) : Prop := store.journal.tail ≠ .corrupt

theorem Clean.readable (clean : store.Clean) : store.Readable := by
  rw [Readable, clean]
  nofun

theorem Clean.torn_readable (clean : store.Clean) : store.torn.Readable := by
  unfold Clean at clean
  simp [Readable, torn, Journal.tear, clean]

end Store

section

variable {ε : Type} {errors : StoreErrors κ ε} {store : Store κ P μ ξ}
  {condition between : Store κ P μ ξ → Prop}

/-- Reading the journal leaves it verified. -/
theorem recoverRecords_meets {returns : List (Event κ P μ) → Store κ P μ ξ → Prop}
    {raises : ε → Store κ P μ ξ → Prop} (readable : store.Readable) (before : condition store)
    (truncated : condition store.truncate) (returned : returns store.events store.truncate) :
    Meets (recoverRecords errors : StoreScript κ P μ ξ ε _) store condition returns raises := by
  refine Meets.bind (Meets.read before ?_)
  cases tail : store.journal.tail with
  | clean =>
      rw [Store.truncate_of_clean tail] at returned
      exact Meets.pure before returned
  | torn => exact Meets.bind (Meets.write before before truncated (Meets.pure truncated returned))
  | garbled =>
      exact Meets.bind (Meets.write before before truncated (Meets.pure truncated returned))
  | corrupt => exact absurd tail readable

/-- The rule for a commit: it is refused and changes nothing, or it appends its event and then
    replaces the snapshot. -/
theorem put_meets {validate : Except ε Unit} {key : κ} {payload : P key} {expected : Nat}
    {info : μ} {now : String} {returns : Wrapper (P key) → Store κ P μ ξ → Prop}
    {raises : ε → Store κ P μ ξ → Prop} (clean : store.Clean) (before : condition store)
    (rejected : ∀ error, validate = .error error → raises error store)
    (conflicting : expected ≠ store.revision key →
      raises (errors.conflict key expected (store.revision key)) store)
    (commits : validate = .ok () → expected = store.revision key →
      condition store.torn ∧
      condition (store.append (store.commitEvent key payload info now)) ∧
      condition (store.commit key payload info now) ∧
      returns (store.nextSnapshot key payload now) (store.commit key payload info now)) :
    Meets (put errors validate key payload expected info now) store condition returns raises := by
  refine Meets.bind (Meets.lift before (fun _ accepted => ?_) rejected)
  refine Meets.bind (Meets.read before ?_)
  refine Meets.bind (Meets.lift before (fun _ current => ?_) fun error conflict => ?_)
  · obtain ⟨torn, appended, written, returned⟩ := commits accepted (ensure_eq_ok.mp current)
    have finish : Meets (do
        Script.write (.append (store.commitEvent key payload info now))
        Script.write (.replace key (store.nextSnapshot key payload now))
        Pure.pure (store.nextSnapshot key payload now)) store condition returns raises :=
      Meets.bind (Meets.write before torn appended
        (Meets.bind (Meets.write appended appended written (Meets.pure written returned))))
    unfold Store.commitEvent Store.nextSnapshot Store.nextRevision at finish
    cases found : store.lookup key with
    | some snapshot =>
        rw [found] at finish
        exact Meets.bind (Meets.pure before finish)
    | none =>
        rw [found] at finish
        have same := Store.truncate_of_clean clean
        refine Meets.bind (recoverRecords_meets clean.readable before (by rwa [same]) ?_)
        rw [same]
        exact Meets.bind (Meets.pure before finish)
  · obtain ⟨stale, rfl⟩ := ensure_eq_error.mp conflict
    exact conflicting stale

/-- The rule for a removal. -/
theorem delete_meets {key : κ} {expected : Nat} {info : μ}
    {returns : Bool → Store κ P μ ξ → Prop} {raises : ε → Store κ P μ ξ → Prop}
    (before : condition store) (absent : store.lookup key = none → returns false store)
    (conflicting : expected ≠ store.revision key →
      raises (errors.conflict key expected (store.revision key)) store)
    (removes : ∀ current, store.lookup key = some current → expected = current.revision →
      condition store.torn ∧
      condition (store.append ⟨key, .removed current.revision, info⟩) ∧
      condition ((store.append ⟨key, .removed current.revision, info⟩).unlink key) ∧
      returns true ((store.append ⟨key, .removed current.revision, info⟩).unlink key)) :
    Meets (delete errors key expected info) store condition returns raises := by
  refine Meets.bind (Meets.read before ?_)
  cases found : store.lookup key with
  | none => exact Meets.pure before (absent found)
  | some current =>
      have actual : store.revision key = current.revision := by
        rw [Store.revision, found]
        rfl
      refine Meets.bind (Meets.lift before (fun _ same => ?_) fun error conflict => ?_)
      · obtain ⟨torn, appended, unlinked, returned⟩ :=
          removes current found (ensure_eq_ok.mp same)
        exact Meets.bind (Meets.write before torn appended
          (Meets.bind (Meets.write appended appended unlinked (Meets.pure unlinked returned))))
      · obtain ⟨stale, rfl⟩ := ensure_eq_error.mp conflict
        rw [← actual] at stale ⊢
        exact conflicting stale

theorem recoverRecords_maintains (truncated : Keeps condition between (.truncate : Write κ P μ ξ)) :
    Maintains condition between (recoverRecords errors : StoreScript κ P μ ξ ε _) fun _ => True := by
  refine Maintains.andThen Maintains.look fun journal => ?_
  cases tail : journal.tail with
  | clean => exact Maintains.done
  | torn | garbled => exact Maintains.andThen (Maintains.write truncated) fun _ => Maintains.done
  | corrupt => exact Maintains.raise

/-- A commit keeps what its event and its snapshot keep. -/
theorem put_maintains {validate : Except ε Unit} {key : κ} {payload : P key} {expected : Nat}
    {info : μ} {now : String} (truncated : Keeps condition between (.truncate : Write κ P μ ξ))
    (appended : ∀ revision, Keeps condition between
      (.append ⟨key, .committed ⟨revision, payload, now⟩, info⟩ : Write κ P μ ξ))
    (replaced : ∀ revision, Keeps condition between
      (.replace key ⟨revision, payload, now⟩ : Write κ P μ ξ)) :
    Maintains condition between (put errors validate key payload expected info now) fun _ => True := by
  refine Maintains.andThen Maintains.check fun _ => ?_
  refine Maintains.andThen Maintains.look fun current => ?_
  refine Maintains.andThen Maintains.check fun _ => ?_
  have finish : ∀ base, Maintains condition between (do
      Script.write (.append ⟨key, .committed ⟨base + 1, payload, now⟩, info⟩)
      Script.write (.replace key ⟨base + 1, payload, now⟩)
      Pure.pure ⟨base + 1, payload, now⟩ : StoreScript κ P μ ξ ε (Wrapper (P key)))
      fun _ => True := by
    intro base
    refine Maintains.andThen (Maintains.write (appended _)) fun _ => ?_
    exact Maintains.andThen (Maintains.write (replaced _)) fun _ => Maintains.done
  cases current with
  | some snapshot => exact Maintains.andThen Maintains.done fun base => finish base
  | none =>
      refine Maintains.andThen (recoverRecords_maintains truncated) fun _ => ?_
      exact Maintains.andThen Maintains.done fun base => finish base

/-! ## Recovery -/

/-- What the recovery of the objects has reached: the journal and the other files are as they
    were, and each object in the list has its latest snapshot. -/
structure Rebuilt (start : Store κ P μ ξ) (done : List κ) (store : Store κ P μ ξ) : Prop where
  journal : store.journal = start.journal
  side : store.side = start.side
  rebuilt : ∀ key ∈ done, store.lookup key = latest key start.events
  others : ∀ key, store.lookup key = start.lookup key ∨ store.lookup key = latest key start.events

theorem Rebuilt.replace {start : Store κ P μ ξ} {done : List κ} (rebuilt : Rebuilt start done store)
    {key : κ} {committed : Wrapper (P key)} (found : latest key start.events = some committed) :
    Rebuilt start (done ++ [key]) (store.replace key committed) := by
  have lookup : ∀ other, (store.replace key committed).lookup other =
      if other = key then latest other start.events else store.lookup other := by
    intro other
    by_cases same : other = key
    · subst same
      rw [if_pos rfl, found, Store.lookup_replace_self]
    · rw [if_neg same, Store.lookup_replace_of_ne same]
  refine ⟨rebuilt.journal, rebuilt.side, fun other member => ?_, fun other => ?_⟩
  · rw [lookup]
    split
    · rfl
    · rename_i different
      refine rebuilt.rebuilt other ?_
      simpa [different] using member
  · rw [lookup]
    split
    · exact .inr rfl
    · exact rebuilt.others other

theorem Rebuilt.keep {start : Store κ P μ ξ} {done : List κ} (rebuilt : Rebuilt start done store)
    {key : κ} (found : store.lookup key = latest key start.events) :
    Rebuilt start (done ++ [key]) store := by
  refine ⟨rebuilt.journal, rebuilt.side, fun other member => ?_, rebuilt.others⟩
  rcases List.mem_append.mp member with before | last
  · exact rebuilt.rebuilt other before
  · obtain rfl := List.mem_singleton.mp last
    exact found

/-- What the recovery of the objects has made of a store from any state: the objects in the list
    are those of the journal, the others are as they were. -/
structure Restored (start : Store κ P μ ξ) (done : List κ) (store : Store κ P μ ξ) : Prop where
  journal : store.journal = start.journal
  side : store.side = start.side
  restored : ∀ key ∈ done, store.lookup key = latest key start.events
  others : ∀ key, key ∉ done → store.lookup key = start.lookup key

theorem Restored.replace {start : Store κ P μ ξ} {done : List κ} {key : κ}
    {committed : Wrapper (P key)} (restored : Restored start done store)
    (found : latest key start.events = some committed) :
    Restored start (done ++ [key]) (store.replace key committed) := by
  refine ⟨restored.journal, restored.side, fun other member => ?_, fun other absent => ?_⟩
  · by_cases same : other = key
    · subst same
      rw [Store.lookup_replace_self, found]
    · rw [Store.lookup_replace_of_ne same]
      rcases List.mem_append.mp member with before | last
      · exact restored.restored other before
      · exact absurd (List.mem_singleton.mp last) same
  · have different : other ≠ key := fun same =>
      absent (List.mem_append_right _ (List.mem_singleton.mpr same))
    rw [Store.lookup_replace_of_ne different]
    exact restored.others other fun before => absent (List.mem_append_left _ before)

theorem Restored.keep {start : Store κ P μ ξ} {done : List κ} {key : κ}
    (restored : Restored start done store) (here : store.lookup key = latest key start.events) :
    Restored start (done ++ [key]) store := by
  refine ⟨restored.journal, restored.side, fun other member => ?_, fun other absent => ?_⟩
  · rcases List.mem_append.mp member with before | last
    · exact restored.restored other before
    · rw [List.mem_singleton.mp last]
      exact here
  · exact restored.others other fun before => absent (List.mem_append_left _ before)

variable [∀ key, DecidableEq (P key)]

theorem recoverObject_meets {start : Store κ P μ ξ} {done : List κ} {key : κ}
    {committed : Wrapper (P key)} {raises : ε → Store κ P μ ξ → Prop} (behind : start.Behind)
    (found : latest key start.events = some committed) (rebuilt : Rebuilt start done store) :
    Meets (recoverObject errors key committed) store (Rebuilt start done)
      (fun _ => Rebuilt start (done ++ [key])) raises := by
  have weaken : ∀ {next}, Rebuilt start (done ++ [key]) next → Rebuilt start done next :=
    fun next => ⟨next.journal, next.side,
      fun other member => next.rebuilt other (List.mem_append_left _ member), next.others⟩
  have replaces : Meets (Script.write (.replace key committed) : StoreScript κ P μ ξ ε Unit)
      store (Rebuilt start done) (fun _ => Rebuilt start (done ++ [key])) raises :=
    Meets.write rebuilt rebuilt (weaken (rebuilt.replace found)) (rebuilt.replace found)
  refine Meets.bind (Meets.read rebuilt ?_)
  cases current : store.lookup key with
  | none => exact replaces
  | some snapshot =>
      have order : snapshot.revision ≤ committed.revision := by
        rcases rebuilt.others key with kept | done
        · obtain ⟨newest, latestFound, order⟩ := behind key snapshot (kept ▸ current)
          rw [found] at latestFound
          obtain rfl := Option.some.inj latestFound
          exact order
        · rw [current, found] at done
          obtain rfl := Option.some.inj done
          exact le_rfl
      dsimp only
      rcases Nat.lt_or_eq_of_le order with earlier | level
      · rw [if_pos earlier]
        exact replaces
      · rw [if_neg (level ▸ Nat.lt_irrefl _), if_neg (level ▸ Nat.lt_irrefl _)]
        by_cases same : snapshot = committed
        · subst same
          rw [if_neg (not_not.mpr rfl)]
          exact Meets.pure rebuilt (rebuilt.keep (current.trans found.symm))
        · rw [if_pos same]
          exact replaces

/-- Recovery rebuilds every snapshot from the journal and changes nothing else. -/
theorem recoverObjects_meets {raises : ε → Store κ P μ ξ → Prop} (behind : store.Behind) :
    Meets (recoverObjects errors store.events) store (Rebuilt store [])
      (fun _ next => next.journal = store.journal ∧ next.side = store.side ∧
        ∀ key, next.lookup key = latest key store.events) raises := by
  have start : Rebuilt store [] store := ⟨rfl, rfl, nofun, fun _ => .inl rfl⟩
  have weaken : ∀ {done next}, Rebuilt store done next → Rebuilt store [] next :=
    fun next => ⟨next.journal, next.side, nofun, next.others⟩
  refine Meets.bind (Meets.forEach (motive := Rebuilt store) ?_ (fun _ _ => weaken) start ?_)
  · intro done key rest next split rebuilt
    have member : key ∈ committedKeys store.events := by simp [split]
    obtain ⟨committed, found⟩ := Option.isSome_iff_exists.mp (mem_committedKeys.mp member)
    rw [found]
    exact (recoverObject_meets behind found rebuilt).mono (fun _ => weaken) (fun _ _ => id)
      fun _ _ => id
  · intro next rebuilt
    have all : ∀ key, next.lookup key = latest key store.events := by
      intro key
      by_cases member : key ∈ committedKeys store.events
      · exact rebuilt.rebuilt key member
      · have none : latest key store.events = none := by
          rw [mem_committedKeys, Bool.not_eq_true, Option.isSome_eq_false_iff,
            Option.isNone_iff_eq_none] at member
          exact member
        rcases rebuilt.others key with kept | same
        · rw [kept, none]
          cases found : store.lookup key with
          | none => rfl
          | some snapshot =>
              obtain ⟨committed, latestFound, -⟩ := behind key snapshot found
              rw [none] at latestFound
              cases latestFound
        · exact same
    refine Meets.bind (Meets.read (weaken rebuilt) ?_)
    refine Meets.forEach (motive := fun _ other => other = next) ?_ ?_ rfl ?_
    · rintro done key rest other split rfl
      have listed : key ∈ other.snapshots := by
        rw [AList.mem_keys, split]
        simp
      have present : (latest key store.events).isSome = true := by
        rw [← all key]
        exact AList.lookup_isSome.mpr listed
      refine Meets.lift (weaken rebuilt) (fun _ _ => rfl) fun error failed => ?_
      exact absurd present (ensure_eq_error.mp failed).1
    · rintro _ _ rfl
      exact weaken rebuilt
    · rintro _ rfl
      exact ⟨rebuilt.journal, rebuilt.side, all⟩

/-- A recovery of the objects that ends leaves every object as the journal has it, from whatever
    the snapshots were. -/
theorem recoverObjects_restores (kept : ∀ later : Store κ P μ ξ, later.journal = store.journal →
      later.side = store.side → condition later) :
    Meets (recoverObjects errors store.events) store condition
      (fun _ later => later.journal = store.journal ∧ later.side = store.side ∧
        ∀ key, later.lookup key = latest key store.events)
      fun _ later => later.journal = store.journal ∧ later.side = store.side := by
  have holds : ∀ {done : List κ} {later : Store κ P μ ξ}, Restored store done later →
      condition later := fun restored => kept _ restored.journal restored.side
  refine Meets.bind (Meets.forEach
    (motive := fun done later => Restored store done later) ?_ (fun _ _ => holds)
    ⟨rfl, rfl, by simp, fun _ _ => rfl⟩ ?_)
  · intro done key rest later split restored
    cases found : latest key store.events with
    | none =>
        -- Every key of the loop has a committed event.
        have listed : key ∈ committedKeys store.events := by
          rw [split]
          simp
        rw [mem_committedKeys, found] at listed
        cases listed
    | some committed =>
        have replaced := restored.replace found
        have written : Meets (Script.write (.replace key committed) : StoreScript κ P μ ξ ε Unit)
            later condition (fun _ later => Restored store (done ++ [key]) later)
            fun _ later => later.journal = store.journal ∧ later.side = store.side :=
          Meets.write (holds restored) (holds restored) (holds replaced) replaced
        refine Meets.bind (Meets.read (holds restored) ?_)
        cases current : later.lookup key with
        | none => exact written
        | some snapshot =>
            dsimp only
            split
            · exact written
            · split
              · exact Meets.raise (holds restored) ⟨restored.journal, restored.side⟩
              · split
                · exact written
                · rename_i same
                  refine Meets.pure (holds restored) (restored.keep ?_)
                  rw [current, found, not_not.mp same]
  · intro later restored
    refine Meets.bind (Meets.read (holds restored) ?_)
    refine Meets.forEach (motive := fun done final => final = later ∧
      ∀ key ∈ done, (latest key store.events).isSome = true) ?_ ?_ ⟨rfl, by simp⟩ ?_
    · rintro done key rest _ - ⟨rfl, checked⟩
      refine Meets.lift (holds restored) (fun _ passed => ?_) fun _ _ =>
        ⟨restored.journal, restored.side⟩
      refine ⟨rfl, fun other member => ?_⟩
      rcases List.mem_append.mp member with before | last
      · exact checked other before
      · rw [List.mem_singleton.mp last]
        exact ensure_eq_ok.mp passed
    · rintro _ _ ⟨rfl, -⟩
      exact holds restored
    · rintro later ⟨rfl, checked⟩
      refine ⟨restored.journal, restored.side, fun key => ?_⟩
      by_cases listed : key ∈ committedKeys store.events
      · exact restored.restored key listed
      · rw [mem_committedKeys, Bool.not_eq_true, Option.isSome_eq_false_iff,
          Option.isNone_iff_eq_none] at listed
        rw [listed]
        by_contra present
        have member : key ∈ later.snapshots.keys := by
          rw [← AList.mem_keys, ← AList.lookup_isSome]
          exact Option.isSome_iff_ne_none.mpr present
        have contradicts := checked key member
        rw [listed] at contradicts
        cases contradicts

end

end DesignHarness.Library
