import DesignHarness.Library.Script
import Mathlib.Data.List.AList

/-!
# Write-once revisions behind a pointer

A directory of numbered revisions, each written once, and a pointer to the current one that is
replaced atomically.  A document of an older format may stand for the first revision.  A revision
is published before the pointer moves to it, so a program that is stopped in between leaves a
revision that nothing points to; its number is then taken (`Revisions.Open`).
-/

namespace DesignHarness.Library

/-- The number a revision carries, the number of its parent, and where a pointer points. -/
class Revised (ρ θ : Type) where
  number : ρ → Nat
  parent : ρ → Option Nat
  pointer : θ → Nat

structure Revisions (ρ θ : Type) where
  legacy : Option (θ × ρ) := none
  state : Option θ := none
  slots : AList fun _ : Nat => ρ := ∅

/-- The writes of the directory. -/
inductive RevisionWrite (ρ θ : Type) where
  | publish (number : Nat) (revision : ρ)
  | point (state : θ)

section

variable {ρ θ : Type}

namespace Revisions

def publish (number : Nat) (revision : ρ) (files : Revisions ρ θ) : Revisions ρ θ :=
  { files with slots := files.slots.insert number revision }

def point (state : θ) (files : Revisions ρ θ) : Revisions ρ θ := { files with state := some state }

end Revisions

/-- Both files are replaced atomically. -/
instance : Disk (Revisions ρ θ) (RevisionWrite ρ θ) where
  apply files
    | .publish number revision => files.publish number revision
    | .point state => files.point state
  tear files _ := files

namespace Revisions

/-- The document under a number; the one of the older format is the first. -/
def document (number : Nat) (files : Revisions ρ θ) : Option ρ :=
  match files.slots.lookup number with
  | some revision => some revision
  | none => if number = 1 then files.legacy.map Prod.snd else none

/-- The number is free, or the very revision stands there. -/
def Open (number : Nat) (revision : ρ) (files : Revisions ρ θ) : Prop :=
  ∀ stored, files.slots.lookup number = some stored → stored = revision

instance [DecidableEq ρ] {number : Nat} {revision : ρ} {files : Revisions ρ θ} :
    Decidable (files.Open number revision) :=
  match found : files.slots.lookup number with
  | none => .isTrue fun _ stored => by rw [found] at stored; cases stored
  | some stored =>
      if same : stored = revision then
        .isTrue fun _ other => (Option.some.inj (found.symm.trans other)) ▸ same
      else
        .isFalse fun all => same (all stored found)

/-- The directory when the revision has been published once. -/
def fill (number : Nat) (revision : ρ) (files : Revisions ρ θ) : Revisions ρ θ :=
  match files.slots.lookup number with
  | some _ => files
  | none => files.publish number revision

end Revisions

/-- Write a revision under a number that is free, or verify the one that stands there. -/
def publishOnce {ε : Type} [DecidableEq ρ] (reused : ε) (number : Nat) (revision : ρ) :
    Script (Revisions ρ θ) (RevisionWrite ρ θ) ε Unit := do
  match ← Script.read fun files => files.slots.lookup number with
  | some stored => Script.lift (ensure (stored = revision) reused)
  | none => Script.write (.publish number revision)

variable {files : Revisions ρ θ} {slot other : Nat} {revision : ρ} {state : θ}

namespace Revisions

@[simp] theorem fill_state : (files.fill slot revision).state = files.state := by
  unfold fill
  split <;> rfl

@[simp] theorem fill_legacy : (files.fill slot revision).legacy = files.legacy := by
  unfold fill
  split <;> rfl

theorem fill_lookup_other (different : other ≠ slot) :
    (files.fill slot revision).slots.lookup other = files.slots.lookup other := by
  unfold fill
  split
  · rfl
  · exact AList.lookup_insert_ne different

theorem Open.fill_lookup (isOpen : files.Open slot revision) :
    (files.fill slot revision).slots.lookup slot = some revision := by
  unfold fill
  cases found : files.slots.lookup slot with
  | some stored =>
      dsimp only
      rw [found, isOpen stored found]
  | none => exact AList.lookup_insert _

/-- Nothing is published over another revision. -/
theorem fill_of_not_open (taken : ¬ files.Open slot revision) :
    files.fill slot revision = files := by
  unfold fill
  cases found : files.slots.lookup slot with
  | some stored => rfl
  | none =>
      refine absurd ?_ taken
      intro stored present
      rw [found] at present
      cases present

theorem document_fill_other (different : other ≠ slot) :
    (files.fill slot revision).document other = files.document other := by
  simp only [document, fill_lookup_other different, fill_legacy]

theorem Open.document_fill (isOpen : files.Open slot revision) :
    (files.fill slot revision).document slot = some revision := by
  simp only [document, isOpen.fill_lookup]

/-- A number is beyond the legacy document when the legacy document is not the one it names. -/
def Beyond (slot : Nat) (files : Revisions ρ θ) : Prop := slot = 1 → files.legacy = none

/-- What is published is a document that was missing. -/
theorem Beyond.document (beyond : files.Beyond slot) (free : files.slots.lookup slot = none) :
    files.document slot = none := by
  simp only [Revisions.document, free]
  split
  · next first => rw [beyond first]; rfl
  · rfl

/-- Publishing keeps every document. -/
theorem Beyond.fill_document (beyond : files.Beyond slot) {stored : ρ}
    (found : files.document other = some stored) :
    (files.fill slot revision).document other = some stored := by
  by_cases same : other = slot
  · subst same
    cases taken : files.slots.lookup other with
    | none =>
        rw [beyond.document taken] at found
        cases found
    | some present =>
        have kept : files.fill other revision = files := by
          unfold fill
          rw [taken]
        rwa [kept]
  · rwa [document_fill_other same]

@[simp] theorem document_point : (files.point state).document slot = files.document slot := rfl

end Revisions

/-- Publishing succeeds exactly when the number is open. -/
theorem publishOnce_meets {ε : Type} [DecidableEq ρ] {reused : ε}
    {condition : Revisions ρ θ → Prop} (unchanged : condition files)
    (published : condition (files.fill slot revision)) :
    Meets (publishOnce reused slot revision) files condition
      (fun _ later => files.Open slot revision ∧ later = files.fill slot revision)
      fun error later => ¬ files.Open slot revision ∧ error = reused ∧ later = files := by
  unfold publishOnce
  refine Meets.bind (Meets.read unchanged ?_)
  cases found : files.slots.lookup slot with
  | some stored =>
      have kept : files.fill slot revision = files := by
        unfold Revisions.fill
        rw [found]
      refine Meets.lift unchanged ?_ ?_
      · intro _ passed
        have same := ensure_eq_ok.mp passed
        refine ⟨?_, kept.symm⟩
        intro other present
        rw [found] at present
        exact (Option.some.inj present) ▸ same
      · intro error failed
        obtain ⟨different, rfl⟩ := ensure_eq_error.mp failed
        exact ⟨fun isOpen => different (isOpen stored found), rfl, rfl⟩
  | none =>
      have filled : files.fill slot revision = files.publish slot revision := by
        unfold Revisions.fill
        rw [found]
      rw [filled] at published ⊢
      refine Meets.write unchanged unchanged published ⟨?_, rfl⟩
      intro other present
      rw [found] at present
      cases present

/-! ## Directories that can be read -/

variable [Revised ρ θ]

open Revised

namespace Revisions

/-- The current state and its revision. -/
def pair (files : Revisions ρ θ) : Option (θ × ρ) :=
  match files.state with
  | none => files.legacy
  | some state => (files.document (pointer ρ state)).map fun revision => (state, revision)

/-- The pointer points to a stored revision that fits, and every revision carries its own number
    and has a stored parent with a smaller one. -/
structure Consistent (fits : θ → ρ → Prop) (files : Revisions ρ θ) : Prop where
  current : ∀ state, files.state = some state →
    ∃ revision, files.document (pointer ρ state) = some revision ∧ fits state revision
  numbered : ∀ n revision, files.document n = some revision → number θ revision = n ∧ 0 < n
  ancestry : ∀ n revision p, files.document n = some revision → parent θ revision = some p →
    p < n ∧ (files.document p).isSome
  legacy : ∀ pair, files.legacy = some pair →
    pointer ρ pair.1 = 1 ∧ files.document 1 = some pair.2 ∧ fits pair.1 pair.2

/-- The number after the current one. -/
def next (files : Revisions ρ θ) : Nat := files.pair.elim 1 fun pair => number θ pair.2 + 1

/-- No revision stands beyond the current one. -/
def Settled (files : Revisions ρ θ) : Prop :=
  ∀ n, (files.slots.lookup n).isSome → n < files.next

theorem Settled.open (settled : files.Settled) : files.Open files.next revision := by
  intro stored found
  have before := settled files.next (by rw [found]; rfl)
  omega

variable {fits : θ → ρ → Prop}

namespace Consistent

theorem pair_fits (inv : files.Consistent fits) {current : θ × ρ}
    (found : files.pair = some current) : fits current.1 current.2 := by
  unfold pair at found
  cases stored : files.state with
  | none =>
      rw [stored] at found
      exact (inv.legacy current found).2.2
  | some state =>
      rw [stored] at found
      obtain ⟨revision, read, same⟩ := inv.current state stored
      simp only [read, Option.map_some, Option.some.injEq] at found
      subst found
      exact same

theorem pair_document (inv : files.Consistent fits) {current : θ × ρ}
    (found : files.pair = some current) :
    files.document (pointer ρ current.1) = some current.2 := by
  unfold pair at found
  cases stored : files.state with
  | none =>
      rw [stored] at found
      obtain ⟨first, present, -⟩ := inv.legacy current found
      rw [first, present]
  | some state =>
      rw [stored] at found
      obtain ⟨revision, read, -⟩ := inv.current state stored
      simp only [read, Option.map_some, Option.some.injEq] at found
      subst found
      exact read

theorem pair_pointer (inv : files.Consistent fits) {current : θ × ρ}
    (found : files.pair = some current) :
    number θ current.2 = pointer ρ current.1 ∧ 0 < number θ current.2 := by
  obtain ⟨named, positive⟩ := inv.numbered _ _ (inv.pair_document found)
  exact ⟨named, named ▸ positive⟩

/-- The current revision stands under its own number. -/
theorem pair_revision (inv : files.Consistent fits) {current : θ × ρ}
    (found : files.pair = some current) :
    files.document (number θ current.2) = some current.2 := by
  rw [(inv.pair_pointer found).1]
  exact inv.pair_document found

theorem fill (inv : files.Consistent fits) {n : Nat} (beyond : files.Beyond n)
    (named : number θ revision = n) (positive : 0 < n)
    (parents : ∀ p, parent θ revision = some p → p < n ∧ (files.document p).isSome) :
    (files.fill n revision).Consistent fits := by
  have kept : ∀ {k : Nat}, (files.document k).isSome →
      ((files.fill n revision).document k).isSome := by
    intro k present
    obtain ⟨stored, found⟩ := Option.isSome_iff_exists.mp present
    rw [beyond.fill_document found]
    rfl
  have before : ∀ {k : Nat} {stored : ρ}, (files.fill n revision).document k = some stored →
      files.document k = some stored ∨ k = n ∧ stored = revision := by
    intro k stored found
    by_cases same : k = n
    · subst same
      cases taken : files.slots.lookup k with
      | some present =>
          unfold Revisions.fill at found
          rw [taken] at found
          exact .inl found
      | none =>
          have isOpen : files.Open k revision := by
            intro other present
            rw [taken] at present
            cases present
          rw [isOpen.document_fill] at found
          exact .inr ⟨rfl, (Option.some.inj found).symm⟩
    · rw [document_fill_other same] at found
      exact .inl found
  constructor
  case current =>
    intro state stored
    rw [fill_state] at stored
    obtain ⟨target, found, same⟩ := inv.current state stored
    exact ⟨target, beyond.fill_document found, same⟩
  case numbered =>
    intro k stored found
    obtain old | ⟨rfl, rfl⟩ := before found
    · exact inv.numbered k stored old
    · exact ⟨named, positive⟩
  case ancestry =>
    intro k stored p found parented
    obtain old | ⟨rfl, rfl⟩ := before found
    · obtain ⟨smaller, present⟩ := inv.ancestry k stored p old parented
      exact ⟨smaller, kept present⟩
    · obtain ⟨smaller, present⟩ := parents p parented
      exact ⟨smaller, kept present⟩
  case legacy =>
    intro current found
    rw [fill_legacy] at found
    obtain ⟨first, present, same⟩ := inv.legacy current found
    exact ⟨first, beyond.fill_document present, same⟩

theorem point (inv : files.Consistent fits) {target : ρ}
    (found : files.document (pointer ρ state) = some target) (same : fits state target) :
    (files.point state).Consistent fits where
  current := by
    intro other stored
    obtain rfl := Option.some.inj stored
    exact ⟨target, found, same⟩
  numbered := inv.numbered
  ancestry := inv.ancestry
  legacy := inv.legacy

end Consistent

/-- Publishing another revision leaves the current one alone. -/
theorem Consistent.pair_fill (inv : files.Consistent fits) {n : Nat} (beyond : files.Beyond n) :
    (files.fill n revision).pair = files.pair := by
  unfold pair
  rw [fill_state, fill_legacy]
  cases stored : files.state with
  | none => rfl
  | some state =>
      obtain ⟨target, found, -⟩ := inv.current state stored
      simp only [found, beyond.fill_document found]

theorem pair_point {target : ρ} (found : files.document (pointer ρ state) = some target) :
    (files.point state).pair = some (state, target) := by
  change ((files.point state).document (pointer ρ state)).map _ = _
  rw [document_point, found]
  rfl

/-- The next number is never the one of the legacy document. -/
theorem Consistent.beyond_next (inv : files.Consistent fits) : files.Beyond files.next := by
  intro first
  unfold next at first
  cases found : files.pair with
  | none =>
      unfold pair at found
      cases stored : files.state with
      | none => rwa [stored] at found
      | some state =>
          obtain ⟨target, read, -⟩ := inv.current state stored
          simp [stored, read] at found
  | some current =>
      have positive := (inv.pair_pointer found).2
      rw [found] at first
      dsimp only [Option.elim_some] at first
      omega

end Revisions

end

end DesignHarness.Library
