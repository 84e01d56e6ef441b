import DesignHarness.Library.EventStoreRules

/-!
# Revisions of an event store

Revision 0 stands for an object that was never committed.  `Counted` says that no snapshot and no
event has it; every program of the store keeps that, wherever it is stopped.
-/

namespace DesignHarness.Library

variable {κ : Type} [DecidableEq κ] {P : κ → Type} {μ ξ : Type}

/-- The snapshot that the journal has for an object is that of an event. -/
theorem mem_of_latest {key : κ} {events : List (Event κ P μ)} {snapshot : Wrapper (P key)}
    (found : latest key events = some snapshot) :
    ∃ event ∈ events, event.snapshot key = some snapshot := by
  induction events using List.reverseRecOn with
  | nil => cases found
  | append_singleton events event ih =>
      rcases latest_append_eq_some found with before | last
      · obtain ⟨earlier, member, committed⟩ := ih before
        exact ⟨earlier, List.mem_append_left _ member, committed⟩
      · exact ⟨event, by simp, last⟩

namespace Store

/-- The revisions of snapshots start at 1. -/
structure Counted (store : Store κ P μ ξ) : Prop where
  events : ∀ event ∈ store.events, ∀ key snapshot, event.snapshot key = some snapshot →
    0 < snapshot.revision
  snapshots : ∀ key snapshot, store.lookup key = some snapshot → 0 < snapshot.revision

variable {store : Store κ P μ ξ} {key : κ}

theorem Counted.latest (counted : store.Counted) {snapshot : Wrapper (P key)}
    (found : latest key store.events = some snapshot) : 0 < snapshot.revision := by
  obtain ⟨event, member, committed⟩ := mem_of_latest found
  exact counted.events event member key snapshot committed

theorem Counted.of_journal {other : Store κ P μ ξ} (counted : store.Counted)
    (events : other.events = store.events) (snapshots : other.snapshots = store.snapshots) :
    other.Counted := by
  refine ⟨fun event member => ?_, fun key snapshot found => ?_⟩
  · rw [events] at member
    exact counted.events event member
  · rw [lookup, snapshots] at found
    exact counted.snapshots key snapshot found

end Store

/-! ## Programs -/

section

variable {ε : Type} {errors : StoreErrors κ ε} {key : κ}

/-- A condition that is never left half done. -/
abbrev Always (condition : Store κ P μ ξ → Prop) (w : Write κ P μ ξ) : Prop :=
  Keeps condition (fun _ => False) w

/-- An event whose snapshot counts from 1 may be appended. -/
theorem append_counted {event : Event κ P μ}
    (positive : ∀ key snapshot, event.snapshot key = some snapshot → 0 < snapshot.revision) :
    Always Store.Counted (.append event : Write κ P μ ξ) := by
  intro store counted
  refine ⟨⟨fun other member => ?_, counted.snapshots⟩, .inl ?_⟩
  · change other ∈ (store.append event).events at member
    rcases Store.events_append_cases event store with same | added
    · rw [same] at member
      exact counted.events other member
    · rw [added] at member
      rcases List.mem_append.mp member with before | last
      · exact counted.events other before
      · obtain rfl := List.mem_singleton.mp last
        exact positive
  · exact counted.of_journal Store.events_torn rfl

theorem replace_counted {snapshot : Wrapper (P key)} (positive : 0 < snapshot.revision) :
    Always Store.Counted (.replace key snapshot : Write κ P μ ξ) := by
  intro store counted
  refine ⟨⟨counted.events, fun other found lookup => ?_⟩, .inl counted⟩
  change (store.replace key snapshot).lookup other = some found at lookup
  by_cases same : other = key
  · subst same
    rw [Store.lookup_replace_self] at lookup
    rwa [← Option.some.inj lookup]
  · rw [Store.lookup_replace_of_ne same] at lookup
    exact counted.snapshots other found lookup

theorem unlink_counted : Always Store.Counted (.unlink key : Write κ P μ ξ) := by
  intro store counted
  refine ⟨⟨counted.events, fun other found lookup => ?_⟩, .inl counted⟩
  change (store.unlink key).lookup other = some found at lookup
  by_cases same : other = key
  · subst same
    rw [Store.lookup_unlink_self] at lookup
    cases lookup
  · rw [Store.lookup_unlink_of_ne same] at lookup
    exact counted.snapshots other found lookup

theorem truncate_counted : Always Store.Counted (.truncate : Write κ P μ ξ) :=
  fun _ counted => ⟨counted.of_journal rfl rfl, .inl counted⟩

theorem side_counted {side : ξ} : Always Store.Counted (.side side : Write κ P μ ξ) :=
  fun _ counted => ⟨counted.of_journal rfl rfl, .inl counted⟩

/-- Whatever the script returns, revisions still start at 1. -/
abbrev Counts {α : Type} (script : StoreScript κ P μ ξ ε α) : Prop :=
  Maintains Store.Counted (fun _ => False) script fun _ => True

/-- Wherever the script is stopped, revisions start at 1. -/
theorem counted_stopped {α : Type} {script : StoreScript κ P μ ξ ε α} {store : Store κ P μ ξ}
    (counts : Counts script) (counted : store.Counted) (position : Nat) (torn : Bool) :
    (script.stopped store position torn).Counted :=
  (counts.stopped counted position torn).resolve_right id

/-- What is read from the journal counts from 1 as well. -/
theorem recoverRecords_counted : Maintains Store.Counted (fun _ => False)
    (recoverRecords errors : StoreScript κ P μ ξ ε _) fun events =>
      ∀ key (snapshot : Wrapper (P key)), latest key events = some snapshot →
        0 < snapshot.revision := by
  have read : Maintains Store.Counted (fun _ => False)
      (Script.read Store.journal : StoreScript κ P μ ξ ε _) fun journal =>
        ∀ key (snapshot : Wrapper (P key)), latest key journal.events = some snapshot →
          0 < snapshot.revision :=
    Maintains.read fun _ counted _ _ found => counted.latest found
  refine Maintains.bind read fun journal positive => ?_
  cases tail : journal.tail with
  | clean => exact Maintains.pure positive
  | torn | garbled =>
      exact Maintains.andThen (Maintains.write truncate_counted) fun _ => Maintains.pure positive
  | corrupt => exact Maintains.raise

/-- A commit follows a revision, whatever that is. -/
theorem put_counted {validate : Except ε Unit} {payload : P key} {expected : Nat} {info : μ}
    {now : String} :
    Counts (put errors validate key payload expected info now : StoreScript κ P μ ξ ε _) := by
  refine Maintains.andThen Maintains.check fun _ => ?_
  refine Maintains.andThen Maintains.look fun current => ?_
  refine Maintains.andThen Maintains.check fun _ => ?_
  have finish : ∀ base : Nat, Counts (do
      Script.write (.append ⟨key, .committed ⟨base + 1, payload, now⟩, info⟩)
      Script.write (.replace key ⟨base + 1, payload, now⟩)
      Pure.pure ⟨base + 1, payload, now⟩ : StoreScript κ P μ ξ ε (Wrapper (P key))) := by
    intro base
    refine Maintains.andThen (Maintains.write (append_counted fun other snapshot found => ?_))
      fun _ => Maintains.andThen (Maintains.write (replace_counted (Nat.succ_pos base)))
        fun _ => Maintains.done
    by_cases same : key = other
    · subst same
      rw [Event.snapshot_committed] at found
      rw [← Option.some.inj found]
      exact Nat.succ_pos base
    · rw [Event.snapshot_of_ne same] at found
      cases found
  cases current with
  | some snapshot => exact Maintains.andThen Maintains.done fun base => finish base
  | none =>
      refine Maintains.andThen (recoverRecords_counted.mono fun _ _ => trivial) fun _ => ?_
      exact Maintains.andThen Maintains.done fun base => finish base

/-- A removal commits no snapshot. -/
theorem delete_counted {expected : Nat} {info : μ} :
    Counts (delete errors key expected info : StoreScript κ P μ ξ ε _) := by
  refine Maintains.andThen Maintains.look fun current => ?_
  cases current with
  | none => exact Maintains.done
  | some current =>
      refine Maintains.andThen Maintains.check fun _ => ?_
      refine Maintains.andThen (Maintains.write (append_counted fun other snapshot found => ?_))
        fun _ => Maintains.andThen (Maintains.write unlink_counted) fun _ => Maintains.done
      rw [Event.snapshot_removed] at found
      cases found

variable [∀ key, DecidableEq (P key)]

/-- The startup takes its snapshots from the journal. -/
theorem recoverObjects_counted {events : List (Event κ P μ)}
    (positive : ∀ key snapshot, latest key events = some snapshot → 0 < snapshot.revision) :
    Counts (recoverObjects errors events : StoreScript κ P μ ξ ε Unit) := by
  refine Maintains.andThen (Maintains.forEach fun key _ => ?_) fun _ => ?_
  · cases found : latest key events with
    | none => exact Maintains.done
    | some committed =>
        have written : Counts (Script.write (.replace key committed) :
            StoreScript κ P μ ξ ε Unit) :=
          Maintains.write (replace_counted (positive key committed found))
        refine Maintains.andThen Maintains.look fun current => ?_
        cases current with
        | none => exact written
        | some current =>
            dsimp only
            split
            · exact written
            · split
              · exact Maintains.raise
              · split
                · exact written
                · exact Maintains.done
  · exact Maintains.andThen Maintains.look fun keys => Maintains.forEach fun key _ =>
      Maintains.check

end

end DesignHarness.Library
