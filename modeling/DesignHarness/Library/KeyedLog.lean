import Mathlib.Data.List.Nodup
import Mathlib.Data.List.Perm.Lattice

/-!
# Logs that hold a key once

A batch of items goes to a log if it does not use a key again for another item, and then adds the
items with new keys (`newItems`).  An append may be cut short.  When what was cut short has been
completed, the log is the one of the run in which nothing was cut short, up to its order
(`runBatches_completed`).
-/

namespace DesignHarness.Library

variable {α κ : Type*}

/-- No key of the batch stands for another item, in the log or in the batch. -/
def Agree (key : α → κ) (log batch : List α) : Prop :=
  ∀ item ∈ batch, ∀ other ∈ log ++ batch, key other = key item → other = item

section

variable {key : α → κ} {log batch other : List α} {item : α}

theorem Agree.tail {rest : List α} (agree : Agree key log (item :: rest)) :
    Agree key log rest := by
  intro one among other found same
  refine agree one (List.mem_cons_of_mem _ among) other ?_ same
  simp only [List.mem_append, List.mem_cons] at found ⊢
  tauto

/-- A batch may use the keys of the log for the items that stand there. -/
theorem agree_cons_known {rest : List α} (keyed : (log.map key).Nodup) (member : item ∈ log) :
    Agree key log (item :: rest) ↔ Agree key log rest := by
  refine ⟨Agree.tail, ?_⟩
  intro agree one among other found same
  have known : ∀ later, later ∈ log ∨ later ∈ rest → key later = key item → later = item := by
    intro later held equal
    obtain old | new := held
    · exact List.inj_on_of_nodup_map keyed old member equal
    · exact (agree later new item (List.mem_append_left _ member) equal.symm).symm
  have found : other = item ∨ other ∈ log ∨ other ∈ rest := by
    simp only [List.mem_append, List.mem_cons] at found
    tauto
  obtain first | later := List.mem_cons.mp among
  · subst first
    obtain self | held := found
    · exact self
    · exact known other held same
  · obtain self | held := found
    · subst self
      exact (known one (.inr later) same.symm).symm
    · exact agree one later other (List.mem_append.mpr held) same

/-- A new item joins the log before the rest of its batch. -/
theorem agree_cons_new {rest : List α} (new : key item ∉ log.map key) :
    Agree key log (item :: rest) ↔ Agree key (log ++ [item]) rest := by
  have together : log ++ item :: rest = log ++ [item] ++ rest := by simp
  constructor
  · intro agree one among other found same
    rw [← together] at found
    exact agree one (List.mem_cons_of_mem _ among) other found same
  · intro agree one among other found same
    obtain rfl | among := List.mem_cons.mp among
    · obtain old | later := List.mem_append.mp found
      · exact absurd (List.mem_map.mpr ⟨other, old, same⟩) new
      · obtain rfl | later := List.mem_cons.mp later
        · rfl
        · exact (agree other later one (by simp) same.symm).symm
    · rw [together] at found
      exact agree one among other found same

/-- A batch of items that a log with distinct keys holds agrees with every part of it. -/
theorem agree_of_subset (keyed : (other.map key).Nodup) (held : log ⊆ other)
    (among : batch ⊆ other) : Agree key log batch := by
  intro item member one found same
  refine List.inj_on_of_nodup_map keyed ?_ (among member) same
  obtain old | new := List.mem_append.mp found
  · exact held old
  · exact among new

theorem Agree.mono (agree : Agree key other batch) (held : log ⊆ other) : Agree key log batch := by
  intro item member one found same
  refine agree item member one ?_ same
  obtain old | new := List.mem_append.mp found
  · exact List.mem_append_left _ (held old)
  · exact List.mem_append_right _ new

end

variable [DecidableEq κ] (key : α → κ)

/-- The items of a batch whose keys the log does not hold, each key once. -/
def newItems : List α → List α → List α
  | _, [] => []
  | log, item :: rest =>
      if key item ∈ log.map key then newItems log rest
      else item :: newItems (log ++ [item]) rest

variable {key} {log batch other : List α} {item : α}

theorem newItems_subset : newItems key log batch ⊆ batch := by
  induction batch generalizing log with
  | nil => exact List.Subset.refl []
  | cons item rest ih =>
      rw [newItems]
      split
      · exact List.subset_cons_of_subset item ih
      · exact List.cons_subset_cons item ih

theorem nodup_append_newItems (keyed : (log.map key).Nodup) :
    ((log ++ newItems key log batch).map key).Nodup := by
  induction batch generalizing log with
  | nil => simpa [newItems] using keyed
  | cons item rest ih =>
      rw [newItems]
      split
      · exact ih keyed
      · next new =>
          have longer : ((log ++ [item]).map key).Nodup := by
            rw [List.map_append]
            refine List.nodup_append.mpr ⟨keyed, by simp, ?_⟩
            intro k held k' single same
            obtain rfl := List.mem_singleton.mp single
            exact new (same ▸ held)
          simpa using ih longer

/-- After a batch that agrees, the log holds its items. -/
theorem Agree.mem_append_newItems (agree : Agree key log batch) {a : α} :
    a ∈ log ++ newItems key log batch ↔ a ∈ log ∨ a ∈ batch := by
  induction batch generalizing log with
  | nil => simp [newItems]
  | cons item rest ih =>
      rw [newItems]
      split
      · next held =>
          obtain ⟨stored, member, same⟩ := List.mem_map.mp held
          have known : stored = item :=
            agree item List.mem_cons_self stored (List.mem_append_left _ member) same
          subst known
          rw [ih agree.tail, List.mem_cons]
          constructor
          · rintro (old | later)
            · exact .inl old
            · exact .inr (.inr later)
          · rintro (old | rfl | later)
            · exact .inl old
            · exact .inl member
            · exact .inr later
      · next new =>
          have longer := ih ((agree_cons_new new).mp agree)
          rw [List.append_assoc, List.singleton_append] at longer
          rw [longer, List.mem_append, List.mem_singleton, List.mem_cons, or_assoc]

variable [DecidableEq α] (key)

instance (log batch : List α) : Decidable (Agree key log batch) :=
  inferInstanceAs (Decidable (∀ item ∈ batch, ∀ other ∈ log ++ batch, _))

inductive BatchStep (α : Type*) where
  | whole (batch : List α)
  | cut (batch : List α) (kept : Nat)
  | idle

namespace BatchStep

/-- The log after a step. -/
def run (log : List α) : BatchStep α → List α
  | .whole batch => if Agree key log batch then log ++ newItems key log batch else log
  | .cut batch kept =>
      if Agree key log batch then log ++ (newItems key log batch).take kept else log
  | .idle => log

/-- The step as it would have been without the interruption. -/
def completed : BatchStep α → BatchStep α
  | .cut batch _ => .whole batch
  | step => step

end BatchStep

/-- The log after a run. -/
def runBatches (log : List α) (steps : List (BatchStep α)) : List α :=
  steps.foldl (BatchStep.run key) log

variable {key}

namespace BatchStep

variable {step : BatchStep α} {kept : Nat}

theorem run_whole : (whole batch).run key log =
    if Agree key log batch then log ++ newItems key log batch else log := rfl

theorem run_cut : (cut batch kept).run key log =
    if Agree key log batch then log ++ (newItems key log batch).take kept else log := rfl

theorem run_grows : log <+: step.run key log := by
  cases step with
  | whole batch =>
      rw [run_whole]
      split
      · exact List.prefix_append _ _
      · exact List.prefix_rfl
  | cut batch kept =>
      rw [run_cut]
      split
      · exact List.prefix_append _ _
      · exact List.prefix_rfl
  | idle => exact List.prefix_rfl

theorem run_nodup (keyed : (log.map key).Nodup) : ((step.run key log).map key).Nodup := by
  cases step with
  | whole batch =>
      rw [run_whole]
      split
      · exact nodup_append_newItems keyed
      · exact keyed
  | cut batch kept =>
      rw [run_cut]
      split
      · have all : ((log ++ newItems key log batch).map key).Nodup := nodup_append_newItems keyed
        refine all.sublist (List.Sublist.map _ ?_)
        exact List.Sublist.append_left (List.take_sublist _ _) _
      · exact keyed
  | idle => exact keyed

end BatchStep

section

variable {steps before after : List (BatchStep α)}

theorem runBatches_grows : log <+: runBatches key log steps := by
  induction steps generalizing log with
  | nil => exact List.prefix_rfl
  | cons step steps ih => exact BatchStep.run_grows.trans ih

theorem runBatches_nodup (keyed : (log.map key).Nodup) :
    ((runBatches key log steps).map key).Nodup := by
  induction steps generalizing log with
  | nil => exact keyed
  | cons step steps ih => exact ih (BatchStep.run_nodup keyed)

end

/-! ## Completing what was cut short -/

/-- Every batch that was cut short is in the log in the end. -/
def Resumed (key : α → κ) : List α → List (BatchStep α) → Prop
  | _, [] => True
  | log, step :: steps =>
      (match step with
        | .cut batch _ => Agree key log batch → batch ⊆ runBatches key (step.run key log) steps
        | _ => True) ∧ Resumed key (step.run key log) steps

/-- An interrupted run and the uninterrupted one, between which there are the items that are still
    to be completed. -/
theorem runBatches_between {steps : List (BatchStep α)} {full : List α}
    (keyed : ((runBatches key log steps).map key).Nodup) (resumed : Resumed key log steps)
    (more : log ⊆ full) (less : full ⊆ runBatches key log steps) :
    runBatches key log steps ⊆ runBatches key full (steps.map BatchStep.completed) ∧
      runBatches key full (steps.map BatchStep.completed) ⊆ runBatches key log steps := by
  induction steps generalizing log full with
  | nil => exact ⟨more, less⟩
  | cons step steps ih =>
      obtain ⟨here, later⟩ := resumed
      have final : step.run key log ⊆ runBatches key (step.run key log) steps :=
        runBatches_grows.subset
      -- The batch is added to both logs, or to none of them.
      have added : ∀ batch, (Agree key log batch → batch ⊆ runBatches key (step.run key log) steps) →
          (∀ item ∈ step.run key log, item ∈ log ∨ Agree key log batch ∧ item ∈ batch) →
          step.completed = .whole batch →
          step.run key log ⊆ step.completed.run key full ∧
            step.completed.run key full ⊆ runBatches key (step.run key log) steps := by
        intro batch completes grown same
        rw [same, BatchStep.run_whole]
        by_cases agree : Agree key log batch
        · have joined : Agree key full batch := agree_of_subset keyed less (completes agree)
          rw [if_pos joined]
          constructor
          · intro item member
            obtain old | ⟨-, new⟩ := grown item member
            · exact joined.mem_append_newItems.mpr (.inl (more old))
            · exact joined.mem_append_newItems.mpr (.inr new)
          · intro item member
            obtain old | new := joined.mem_append_newItems.mp member
            · exact less old
            · exact completes agree new
        · have disagree : ¬ Agree key full batch := fun joined => agree (joined.mono more)
          rw [if_neg disagree]
          refine ⟨?_, less⟩
          intro item member
          obtain old | ⟨agrees, -⟩ := grown item member
          · exact more old
          · exact absurd agrees agree
      cases step with
      | whole batch =>
          have grown : ∀ item ∈ BatchStep.run key log (.whole batch),
              item ∈ log ∨ Agree key log batch ∧ item ∈ batch := by
            intro item member
            rw [BatchStep.run_whole] at member
            split at member
            · next agree =>
                exact (agree.mem_append_newItems.mp member).imp_right fun new => ⟨agree, new⟩
            · exact .inl member
          have whole : Agree key log batch →
              batch ⊆ runBatches key (BatchStep.run key log (.whole batch)) steps := by
            intro agree item member
            refine final ?_
            rw [BatchStep.run_whole, if_pos agree]
            exact agree.mem_append_newItems.mpr (.inr member)
          obtain ⟨bigger, smaller⟩ := added batch whole grown rfl
          exact ih keyed later bigger smaller
      | cut batch kept =>
          have grown : ∀ item ∈ BatchStep.run key log (.cut batch kept),
              item ∈ log ∨ Agree key log batch ∧ item ∈ batch := by
            intro item member
            rw [BatchStep.run_cut] at member
            split at member
            · next agree =>
                refine (List.mem_append.mp member).imp_right fun new => ⟨agree, ?_⟩
                exact newItems_subset (List.mem_of_mem_take new)
            · exact .inl member
          obtain ⟨bigger, smaller⟩ := added batch here grown rfl
          exact ih keyed later bigger smaller
      | idle => exact ih keyed later more less

/-- Once everything is completed, the log is that of the uninterrupted run up to its order. -/
theorem runBatches_completed {steps : List (BatchStep α)} (keyed : (log.map key).Nodup)
    (resumed : Resumed key log steps) :
    (runBatches key log steps).Perm (runBatches key log (steps.map BatchStep.completed)) := by
  have distinct : ((runBatches key log steps).map key).Nodup := runBatches_nodup keyed
  have other : ((runBatches key log (steps.map BatchStep.completed)).map key).Nodup :=
    runBatches_nodup keyed
  obtain ⟨less, more⟩ := runBatches_between distinct resumed (List.Subset.refl log)
    runBatches_grows.subset
  rw [List.perm_ext_iff_of_nodup (List.Nodup.of_map key distinct) (List.Nodup.of_map key other)]
  exact fun item => ⟨fun member => less member, fun member => more member⟩

end DesignHarness.Library
