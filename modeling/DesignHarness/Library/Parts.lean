import DesignHarness.Library.Script
import Mathlib.Logic.Function.Basic

/-!
# A disk of independent parts

A family of disks is one disk: a write names its part and leaves the others alone.  A script over
one part runs on the whole (`Script.on`), and meets there what it meets on the part
(`Meets.on`).
-/

namespace DesignHarness.Library

section

variable {κ : Type} {σ ω : κ → Type} {ε α : Type} {part : κ} {disk : (part : κ) → σ part}
  {script : Script (σ part) (ω part) ε α}

/-- A write of a part. -/
abbrev PartWrite (ω : κ → Type) : Type := Σ part, ω part

/-- A script over one part, run on all of them. -/
def Script.on (part : κ) (script : Script (σ part) (ω part) ε α) :
    Script ((part : κ) → σ part) (PartWrite ω) ε α := fun disk =>
  match script (disk part) with
  | ⟨writes, outcome⟩ => ⟨writes.map (Sigma.mk part), outcome⟩

theorem Script.on_quiet {value : α} (quiet : script (disk part) = ⟨[], .ok value⟩) :
    script.on part disk = ⟨[], .ok value⟩ := by
  unfold Script.on
  rw [quiet]
  rfl

variable [DecidableEq κ] [∀ part, Disk (σ part) (ω part)]

instance : Disk ((part : κ) → σ part) (PartWrite ω) where
  apply disk write :=
    Function.update disk write.1 (Disk.apply (disk write.1) write.2)
  tear disk write :=
    Function.update disk write.1 (Disk.tear (disk write.1) write.2)

theorem apply_part (write : ω part) :
    Disk.apply disk (⟨part, write⟩ : PartWrite ω) =
      Function.update disk part (Disk.apply (disk part) write) := rfl

theorem applyAll_part (writes : List (ω part)) :
    applyAll disk (writes.map (Sigma.mk part)) =
      Function.update disk part (applyAll (disk part) writes) := by
  induction writes generalizing disk with
  | nil => exact (Function.update_eq_self part disk).symm
  | cons write writes ih =>
      have step : applyAll disk ((write :: writes).map (Sigma.mk part)) =
          applyAll (Disk.apply disk (⟨part, write⟩ : PartWrite ω))
            (writes.map (Sigma.mk part)) := rfl
      rw [step, ih, apply_part, Function.update_self, Function.update_idem]
      rfl

theorem Script.on_after :
    (script.on part).after disk = Function.update disk part (script.after (disk part)) :=
  applyAll_part _

theorem Throughout.on {condition : ((part : κ) → σ part) → Prop} {writes : List (ω part)}
    (throughout : Throughout (fun inner => condition (Function.update disk part inner))
      (disk part) writes) :
    Throughout condition disk (writes.map (Sigma.mk part)) := by
  induction writes generalizing disk with
  | nil =>
      have start := throughout.start
      rw [Function.update_eq_self] at start
      exact start
  | cons write writes ih =>
      obtain ⟨before, torn, rest⟩ := throughout
      rw [Function.update_eq_self] at before
      refine ⟨before, torn, ih ?_⟩
      rw [apply_part, Function.update_self]
      exact rest.mono fun inner holds => by rwa [Function.update_idem]

/-- What a script meets on its part it meets on the whole. -/
theorem Meets.on {condition : ((part : κ) → σ part) → Prop}
    {returns : α → ((part : κ) → σ part) → Prop} {raises : ε → ((part : κ) → σ part) → Prop}
    (meets : Meets script (disk part) (fun inner => condition (Function.update disk part inner))
      (fun value inner => returns value (Function.update disk part inner))
      fun error inner => raises error (Function.update disk part inner)) :
    Meets (script.on part) disk condition returns raises := by
  refine ⟨meets.throughout.on, ?_⟩
  rw [Script.on_after]
  exact meets.ends

/-- A script over one part keeps what holds of every part. -/
theorem Meets.onPart {holds : (part : κ) → σ part → Prop} {returns : α → σ part → Prop}
    {raises : ε → σ part → Prop} (all : ∀ part, holds part (disk part))
    (meets : Meets script (disk part) (holds part) returns raises) :
    Meets (script.on part) disk (fun disk => ∀ part, holds part (disk part))
      (fun value disk => returns value (disk part)) fun error disk => raises error (disk part) := by
  refine Meets.on (meets.mono ?_ ?_ ?_)
  · intro inner held other
    by_cases same : other = part
    · subst same
      rw [Function.update_self]
      exact held
    · rw [Function.update_of_ne same]
      exact all other
  · intro value inner returned
    rw [Function.update_self]
    exact returned
  · intro error inner raised
    rw [Function.update_self]
    exact raised

/-- A script over one part that keeps a condition of the part keeps it of every part. -/
theorem Maintains.on {holds : (part : κ) → σ part → Prop} {fits : α → Prop}
    (maintains : Maintains (holds part) (fun _ => False) script fits) :
    Maintains (fun disk : (part : κ) → σ part => ∀ part, holds part (disk part))
      (fun _ => False) (script.on part) fits := by
  intro disk all
  have inner := (maintains (disk part) (all part)).mono (fun _ held => held.resolve_right id)
    (fun _ _ returned => returned.2) fun _ _ _ => trivial
  have outer := (Meets.onPart all inner).kept
  exact outer.mono (fun _ => Or.inl) (fun _ _ ended => ⟨ended.2, ended.1⟩) fun _ _ ended => ended.2

end

end DesignHarness.Library
