import DesignHarness.Domain.History
import DesignHarness.Library.Sorting

/-!
# Appending to a plan

What `_normalize_append` (`service.py:1010-1115`) makes of a landed plan and a payload, and what
several appends in a row make of it: the landed objects followed by those of the payloads, as if
the payloads had been one.
-/

namespace DesignHarness

open Library

/-- The stage behind the stages of another payload. -/
def StagePayload.shift (offset : Nat) (raw : StagePayload) : StagePayload :=
  { raw with position := offset + raw.position }

/-- Two payloads as one. -/
def PlanPayload.followedBy (first second : PlanPayload) : PlanPayload where
  stages := first.stages ++ second.stages.map (StagePayload.shift first.stages.length)
  instances := first.instances ++ second.instances
  taskCards := first.taskCards ++ second.taskCards

/-- The concatenation of payloads, with shifted positions. -/
def concatenation (payloads : List PlanPayload) : PlanPayload :=
  payloads.foldr PlanPayload.followedBy ⟨[], [], []⟩

/-- The stages that a payload adds behind `offset` landed ones. -/
def PlanPayload.appendedStages (taskId : Identifier) (offset : Nat) (payload : PlanPayload) :
    List Stage :=
  (sortedPayload payload.stages).map fun raw => (raw.shift offset).normalize taskId

/-- The positions of a payload count from one. -/
def PlanPayload.Contiguous (payload : PlanPayload) : Prop :=
  (sortedPayload payload.stages).map StagePayload.position =
    List.range' 1 (sortedPayload payload.stages).length

theorem length_sortedPayload (stages : List StagePayload) :
    (sortedPayload stages).length = stages.length :=
  (List.perm_insertionSort _ stages).length_eq

theorem PlanPayload.Contiguous.position_le {payload : PlanPayload} (contiguous : payload.Contiguous)
    {raw : StagePayload} (member : raw ∈ payload.stages) :
    raw.position ≤ payload.stages.length := by
  have sorted : raw ∈ sortedPayload payload.stages :=
    (List.perm_insertionSort _ payload.stages).mem_iff.mpr member
  have listed : raw.position ∈ List.range' 1 (sortedPayload payload.stages).length :=
    contiguous ▸ List.mem_map_of_mem sorted
  rw [List.mem_range'_1, length_sortedPayload] at listed
  omega

theorem sortedPayload_shift (offset : Nat) (stages : List StagePayload) :
    sortedPayload (stages.map (StagePayload.shift offset)) =
      (sortedPayload stages).map (StagePayload.shift offset) := by
  refine (List.map_insertionSort _ _ (StagePayload.shift offset) stages ?_).symm
  intro first _ second _
  simp only [StagePayload.shift]
  omega

/-- The stages of two payloads in a row are those of the two as one. -/
theorem PlanPayload.appendedStages_followedBy {first second : PlanPayload}
    (contiguous : first.Contiguous) (taskId : Identifier) (offset : Nat) :
    (first.followedBy second).appendedStages taskId offset =
      first.appendedStages taskId offset ++
        second.appendedStages taskId (offset + first.stages.length) := by
  have before : ∀ earlier ∈ first.stages,
      ∀ later ∈ second.stages.map (StagePayload.shift first.stages.length),
        earlier.position ≤ later.position := by
    intro earlier earlierMember later laterMember
    obtain ⟨raw, -, rfl⟩ := List.mem_map.mp laterMember
    have within := contiguous.position_le earlierMember
    simp only [StagePayload.shift]
    omega
  have sorted : sortedPayload (first.followedBy second).stages = sortedPayload first.stages ++
      (sortedPayload second.stages).map (StagePayload.shift first.stages.length) := by
    rw [← sortedPayload_shift]
    exact insertionSort_append before
  rw [PlanPayload.appendedStages, sorted, List.map_append, List.map_map]
  refine congrArg (first.appendedStages taskId offset ++ ·) (List.map_congr_left fun raw _ => ?_)
  simp only [Function.comp_apply, StagePayload.shift, Nat.add_assoc]

/-- A stage without its aggregated status. -/
def Stage.unaggregated (stage : Stage) : Stage := { stage with status := .pending }

/-- An instance without the time of its creation. -/
def AgentInstance.undated (item : AgentInstance) : AgentInstance := { item with createdAt := "" }

/-- A task card without the time of its creation. -/
def TaskCard.undated (card : TaskCard) : TaskCard := { card with createdAt := "" }

/-- The plan that an append re-aggregates. -/
def Plan.withPayload (existing : Plan) (task : MainTask) (planRevision : Nat)
    (payload : PlanPayload) (now : Timestamp) : Plan where
  task := { task with planRevision := planRevision, updatedAt := now }
  stages := existing.stages ++ payload.appendedStages task.taskId existing.stages.length
  instances := existing.instances ++
    payload.instances.map (InstancePayload.normalize task.taskId now)
  taskCards := existing.taskCards ++ payload.taskCards.map (CardPayload.normalize task.taskId now)

/-- The payload names only objects that are not in the plan. -/
structure PlanPayload.FreshFor (payload : PlanPayload) (existing : Plan) : Prop where
  stages : ∀ raw ∈ payload.stages, raw.stageId ∉ existing.stages.map Stage.stageId
  instances : ∀ raw ∈ payload.instances,
    raw.instanceId ∉ existing.instances.map AgentInstance.instanceId
  taskCards : ∀ raw ∈ payload.taskCards, raw.cardId ∉ existing.taskCards.map TaskCard.cardId

section

variable {task : MainTask} {existing merged : Plan} {planRevision : Nat} {payload : PlanPayload}
  {now : Timestamp}

theorem normalizeAppend_eq_ok :
    normalizeAppend task existing planRevision payload now = .ok merged ↔
      payload.FreshFor existing ∧ payload.Contiguous ∧
      refreshStages (existing.withPayload task planRevision payload now) now false = .ok merged ∧
      PlanValid merged := by
  simp only [normalizeAppend, bind_eq_ok, checkEach_eq_ok, ensure_eq_ok, validatePlan_eq_ok,
    pure_eq_ok, Except.ok.injEq]
  constructor
  · rintro ⟨-, stages, -, instances, -, cards, -, contiguous, plan, refreshed, -, valid, rfl⟩
    exact ⟨⟨stages, instances, cards⟩, contiguous, refreshed, valid⟩
  · rintro ⟨fresh, contiguous, refreshed, valid⟩
    exact ⟨(), fresh.stages, (), fresh.instances, (), fresh.taskCards, (), contiguous, merged,
      refreshed, (), valid, rfl⟩

/-- Behind landed stages in their order, the plan is in the order of its positions. -/
theorem Plan.withPayload_sorted (landed : PlanValid existing) (contiguous : payload.Contiguous) :
    sortedByPosition (existing.withPayload task planRevision payload now).stages =
      (existing.withPayload task planRevision payload now).stages := by
  have positions : (existing.withPayload task planRevision payload now).stages.map
      Stage.position = List.range' 1 (existing.stages.length + payload.stages.length) := by
    have shifted : (payload.appendedStages task.taskId existing.stages.length).map Stage.position =
        List.range' (1 + existing.stages.length) payload.stages.length := by
      have moved : (payload.appendedStages task.taskId existing.stages.length).map
          Stage.position = ((sortedPayload payload.stages).map StagePayload.position).map
            (existing.stages.length + ·) := by
        rw [PlanPayload.appendedStages, List.map_map, List.map_map]
        rfl
      rw [moved, contiguous, length_sortedPayload, List.map_add_range', Nat.add_comm]
    rw [Plan.withPayload, List.map_append, landed.positions, shifted, List.range'_append_1]
  have ordered : ((existing.withPayload task planRevision payload now).stages.map
      Stage.position).Pairwise (· ≤ ·) := by
    rw [positions]
    exact List.pairwise_le_range'
  exact (List.pairwise_map.mp ordered).insertionSort_eq

/-- Without activation a re-aggregation writes nothing but statuses. -/
theorem Stage.refreshed_unaggregated (stages : List Stage) (instances : List AgentInstance)
    (stage : Stage) : (stage.refreshed now false stages instances).unaggregated =
      stage.unaggregated := rfl

theorem Plan.refreshed_instances (plan : Plan) :
    (plan.refreshed now false).instances = plan.instances := by
  have none_activate : plan.stages.filter
      (Stage.activatesOnRefresh false plan.stages plan.instances) = [] :=
    List.filter_eq_nil_iff.mpr fun stage _ => by simp [Stage.activatesOnRefresh]
  rw [Plan.refreshed, activatedKeys, none_activate]
  exact activateAll_nil now plan.instances

/-- What an append leaves: the landed objects, and behind them those of the payload. -/
structure Appended (existing : Plan) (task : MainTask) (payload : PlanPayload) (now : Timestamp)
    (merged : Plan) : Prop where
  stages : merged.stages.map Stage.unaggregated =
    (existing.stages ++ payload.appendedStages task.taskId existing.stages.length).map
      Stage.unaggregated
  instances : merged.instances =
    existing.instances ++ payload.instances.map (InstancePayload.normalize task.taskId now)
  taskCards : merged.taskCards =
    existing.taskCards ++ payload.taskCards.map (CardPayload.normalize task.taskId now)
  positions : merged.stages.map Stage.position = List.range' 1 merged.stages.length
  valid : PlanValid merged

theorem normalizeAppend_appended (landed : PlanValid existing)
    (appended : normalizeAppend task existing planRevision payload now = .ok merged) :
    Appended existing task payload now merged := by
  obtain ⟨-, contiguous, refreshed, valid⟩ := normalizeAppend_eq_ok.mp appended
  obtain ⟨-, -, same⟩ := refreshStages_of_wired refreshed valid.wired
  rw [Plan.withPayload_sorted landed contiguous] at same
  refine ⟨?_, ?_, ?_, valid.positions, valid⟩
  · rw [same, Plan.refreshed, List.map_map]
    exact List.map_congr_left fun stage _ => Stage.refreshed_unaggregated _ _ stage
  · rw [same, Plan.refreshed_instances]
    rfl
  · rw [same]
    rfl

end

/-! ## Appends in a row -/

/-- One call of `_normalize_append`. -/
structure PlanAppend where
  task : MainTask
  planRevision : Nat
  payload : PlanPayload
  now : Timestamp
  deriving DecidableEq, Repr

def PlanAppend.run (existing : Plan) (append : PlanAppend) : Outcome Plan :=
  normalizeAppend append.task existing append.planRevision append.payload append.now

/-- Every append extends the plan that the one before it has left. -/
def appendAll (existing : Plan) (appends : List PlanAppend) : Outcome Plan :=
  appends.foldlM PlanAppend.run existing

/-- The payloads of the appends, as one payload. -/
def appendedPayload (appends : List PlanAppend) : PlanPayload :=
  concatenation (appends.map PlanAppend.payload)

/-- What appends in a row leave: the landed objects, and behind them those of the concatenation. -/
structure AppendedAll (existing : Plan) (appends : List PlanAppend) (last : Plan) : Prop where
  stages : last.stages.map Stage.unaggregated =
    (existing.stages ++ (appendedPayload appends).appendedStages existing.task.taskId
      existing.stages.length).map Stage.unaggregated
  instances : last.instances = existing.instances ++ appends.flatMap fun append =>
    append.payload.instances.map (InstancePayload.normalize existing.task.taskId append.now)
  taskCards : last.taskCards = existing.taskCards ++ appends.flatMap fun append =>
    append.payload.taskCards.map (CardPayload.normalize existing.task.taskId append.now)
  positions : last.stages.map Stage.position = List.range' 1 last.stages.length
  valid : PlanValid last

/-- The same stages up to their aggregated status, the same instances and task cards up to the
    time of their creation. -/
structure SameObjects (plan other : Plan) : Prop where
  stages : plan.stages.map Stage.unaggregated = other.stages.map Stage.unaggregated
  instances : plan.instances.map AgentInstance.undated = other.instances.map AgentInstance.undated
  taskCards : plan.taskCards.map TaskCard.undated = other.taskCards.map TaskCard.undated

section

variable {existing : Plan}

/-- An append goes to the task of the plan. -/
theorem PlanAppend.taskId_eq {append : PlanAppend} {merged : Plan} (landed : PlanValid existing)
    (ran : append.run existing = .ok merged) :
    append.task.taskId = existing.task.taskId ∧ merged.task.taskId = existing.task.taskId := by
  have appended := normalizeAppend_appended landed ran
  obtain ⟨-, -, refreshed, -⟩ := normalizeAppend_eq_ok.mp ran
  have task : merged.task.taskId = append.task.taskId := by rw [refreshStages_task refreshed]; rfl
  obtain ⟨stage, member⟩ : ∃ stage, stage ∈ existing.stages := by
    have accepted := landed.accepted
    simp only [Plan.accepted, Bool.and_eq_true] at accepted
    exact List.exists_mem_of_ne_nil _ (by simpa using accepted.1.1.1.1.1.2)
  have kept : stage.unaggregated ∈ merged.stages.map Stage.unaggregated := by
    rw [appended.stages]
    exact List.mem_map_of_mem (List.mem_append_left _ member)
  obtain ⟨other, otherMember, same⟩ := List.mem_map.mp kept
  have ids : other.taskId = stage.taskId := by
    change other.unaggregated.taskId = stage.unaggregated.taskId
    rw [same]
  have whole : merged.task.taskId = existing.task.taskId := by
    rw [← landed.stagesInTask stage member, ← ids, appended.valid.stagesInTask other otherMember]
  exact ⟨task.symm.trans whole, whole⟩

theorem appendAll_appended (landed : PlanValid existing) {appends : List PlanAppend} {last : Plan}
    (ran : appendAll existing appends = .ok last) : AppendedAll existing appends last := by
  induction appends generalizing existing with
  | nil =>
      obtain rfl := Except.ok.inj ran
      have empty : (appendedPayload []).appendedStages existing.task.taskId
          existing.stages.length = [] := rfl
      refine ⟨by rw [empty, List.append_nil], by simp, by simp, landed.positions, landed⟩
  | cons append appends ih =>
      obtain ⟨middle, first, rest⟩ := bind_eq_ok.mp ran
      have appended := normalizeAppend_appended landed first
      obtain ⟨task, whole⟩ := PlanAppend.taskId_eq landed first
      obtain ⟨-, contiguous, -, -⟩ := normalizeAppend_eq_ok.mp first
      have later := ih appended.valid rest
      have lengths : middle.stages.length =
          existing.stages.length + append.payload.stages.length := by
        have lengths := congrArg List.length appended.stages
        rw [List.length_map, List.length_map, List.length_append, PlanPayload.appendedStages,
          List.length_map, length_sortedPayload] at lengths
        exact lengths
      have parts : appendedPayload (append :: appends) =
          append.payload.followedBy (appendedPayload appends) := rfl
      refine ⟨?_, ?_, ?_, later.positions, later.valid⟩
      · rw [later.stages, List.map_append, appended.stages, parts,
          PlanPayload.appendedStages_followedBy contiguous, whole, task, lengths,
          List.map_append, List.map_append, List.map_append, List.append_assoc]
      · rw [later.instances, appended.instances, List.flatMap_cons, whole, task, List.append_assoc]
      · rw [later.taskCards, appended.taskCards, List.flatMap_cons, whole, task, List.append_assoc]

theorem appendedPayload_instances (appends : List PlanAppend) :
    (appendedPayload appends).instances =
      appends.flatMap fun append => append.payload.instances := by
  induction appends with
  | nil => rfl
  | cons append appends ih => rw [List.flatMap_cons, ← ih]; rfl

theorem appendedPayload_taskCards (appends : List PlanAppend) :
    (appendedPayload appends).taskCards =
      appends.flatMap fun append => append.payload.taskCards := by
  induction appends with
  | nil => rfl
  | cons append appends ih => rw [List.flatMap_cons, ← ih]; rfl

/-- The appends and one append of their concatenation leave the same objects. -/
theorem AppendedAll.same {appends : List PlanAppend} {last single : Plan} {append : PlanAppend}
    (all : AppendedAll existing appends last) (landed : PlanValid existing)
    (payload : append.payload = appendedPayload appends)
    (ran : append.run existing = .ok single) : SameObjects last single := by
  have one := normalizeAppend_appended landed ran
  obtain ⟨task, -⟩ := PlanAppend.taskId_eq landed ran
  refine ⟨?_, ?_, ?_⟩
  · rw [all.stages, one.stages, payload, task]
  · rw [all.instances, one.instances, payload, task, appendedPayload_instances]
    simp only [List.map_append, List.map_flatMap, List.map_map]
    rfl
  · rw [all.taskCards, one.taskCards, payload, task, appendedPayload_taskCards]
    simp only [List.map_append, List.map_flatMap, List.map_map]
    rfl

/-- An append leaves the landed objects and adds those of its payload, and appends in a row leave
    what one append of the concatenation leaves. -/
theorem appends_extend_plan (landed : PlanValid existing) :
    (∀ append merged, PlanAppend.run existing append = .ok merged →
      Appended existing append.task append.payload append.now merged) ∧
    ∀ appends last, appendAll existing appends = .ok last →
      AppendedAll existing appends last ∧
        ∀ append single, append.payload = appendedPayload appends →
          PlanAppend.run existing append = .ok single → SameObjects last single := by
  refine ⟨fun append merged ran => normalizeAppend_appended landed ran, ?_⟩
  intro appends last ran
  have all := appendAll_appended landed ran
  exact ⟨all, fun append single payload single_ => all.same landed payload single_⟩

end

/-- An optional PPT stage behind an Image stage. -/
def gatedPayload : PlanPayload where
  stages := [sampleStage "s1" .image 1 ["i"], sampleStage "s2" .ppt 2 ["p"] false ["s1"]]
  instances := [sampleInstance "i" "s1" .image, sampleInstance "p" "s2" .ppt false]
  taskCards := [sampleCard "i" "s1" .image, sampleCard "p" "s2" .ppt]

/-- The PPT instance is cancelled, and then the Image instance is marked finished. -/
def gatedCalls : List Call :=
  samplePlanned .auto gatedPayload ++
    [sampleCall 2 (.transitionInstance "p" .cancelled),
      sampleCall 3 (.setManualFinished "i" true)]

def generalPayload : PlanPayload where
  stages := [sampleStage "s3" .general 1 ["g"]]
  instances := [sampleInstance "g" "s3" .general]
  taskCards := [sampleCard "g" "s3" .general]

def imagePayload : PlanPayload where
  stages := [sampleStage "s4" .image 1 ["j"]]
  instances := [sampleInstance "j" "s4" .image]
  taskCards := [sampleCard "j" "s4" .image]

/-- The statuses of the stages after appends to the plan of the run. -/
def appendedStatuses (calls : List Call) (payloads : List PlanPayload) :
    Option (List StageStatus) := do
  let task ← (runOf calls).task
  let existing ← (runOf calls).plan
  let appends := payloads.map fun payload => PlanAppend.mk task 2 payload "t2"
  let last ← (appendAll existing appends).toOption
  return last.stages.map Stage.status

/-- The first of two appends still finds the PPT gate open and skips the PPT stage for good; one
    append of both payloads finds it closed and leaves the stage `PENDING`. -/
theorem appends_differ_in_status :
    appendedStatuses gatedCalls [generalPayload, imagePayload] =
        some [.ready, .skipped, .ready, .ready] ∧
      appendedStatuses gatedCalls [concatenation [generalPayload, imagePayload]] =
        some [.ready, .pending, .ready, .ready] := by
  decide +kernel

/-- The appends of the example. -/
def sampleAppends : List PlanAppend :=
  [⟨{ sampleTask with status := .running }, 2, generalPayload, "t2"⟩,
    ⟨{ sampleTask with status := .running }, 3, imagePayload, "t3"⟩]

theorem appends_extend_plan_sample : ∃ existing last,
    (runOf gatedCalls).plan = some existing ∧ appendAll existing sampleAppends = .ok last ∧
      AppendedAll existing sampleAppends last := by
  obtain ⟨existing, stored⟩ := Option.isSome_iff_exists.mp
    (show (runOf gatedCalls).plan.isSome = true by decide +kernel)
  have ran : ((runOf gatedCalls).plan.bind fun existing =>
      (appendAll existing sampleAppends).toOption).isSome = true := by decide +kernel
  rw [stored] at ran
  obtain ⟨last, found⟩ := Option.isSome_iff_exists.mp ran
  have appended : appendAll existing sampleAppends = .ok last := toOption_eq_some.mp found
  have landed : PlanValid existing := ((runOf_invariant gatedCalls).plan existing stored).valid
  exact ⟨existing, last, stored, appended,
    ((appends_extend_plan landed).2 sampleAppends last appended).1⟩

end DesignHarness
