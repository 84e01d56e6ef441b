import DesignHarness.Library.KeyedLog
import DesignHarness.Library.Sums
import DesignHarness.Services.Usage

/-!
# What the usage log keeps

The calls of `UsageService` may be interrupted before any of their writes.  On the log of a task
such a call is a batch that is added as a whole or cut short (`UsageStep.batch`), and the rules of
`Library.KeyedLog` apply: the log holds an event id once, and once the interrupted batches have
been ingested again it is the log of the uninterrupted run up to its order.
-/

namespace DesignHarness

open Library UsageService

/-- A call that ingests a batch. -/
inductive UsageCall where
  | ingest (call : IngestCall)
  | ingestMaster (taskId : Identifier) (events : List UsageEvent)
  deriving DecidableEq, Repr

namespace UsageCall

def taskId : UsageCall → Identifier
  | .ingest call => call.taskId
  | .ingestMaster taskId _ => taskId

def events : UsageCall → List UsageEvent
  | .ingest call => call.events
  | .ingestMaster _ events => events

def script (world : UsageWorld) : UsageCall → UsageScript IngestResult
  | .ingest call => UsageService.ingest world call
  | .ingestMaster taskId events => UsageService.ingestMaster world taskId events

/-- The checks of a call that do not look at the log pass. -/
def admitted (world : UsageWorld) : UsageCall → Bool
  | .ingest call => decide (call.source ≠ .recovery) && decide (call.events.length ≤ 10000) &&
      match findInstance world call.taskId call.instanceId with
      | .ok target => call.events.all fun event => (validateEvent call.taskId target event).isOk
      | .error _ => false
  | .ingestMaster taskId events => world.hasTask taskId &&
      events.all fun event => (validateMasterEvent taskId event).isOk

end UsageCall

/-- A call that returns or raises, or is stopped before one of its writes. -/
inductive UsageAction where
  | ingest (call : UsageCall) (stop : Option Nat)
  | recover (stop : Option Nat)

structure UsageStep where
  world : UsageWorld
  action : UsageAction

namespace UsageStep

def run (disk : UsageDisk) (step : UsageStep) : UsageDisk :=
  match step.action with
  | .ingest call stop => (call.script step.world).upTo (stop.map fun n => (n, false)) disk
  | .recover stop => (recover step.world).upTo (stop.map fun n => (n, false)) disk

/-- The step without the interruption. -/
def completed (step : UsageStep) : UsageStep :=
  match step.action with
  | .ingest call _ => ⟨step.world, .ingest call none⟩
  | .recover _ => ⟨step.world, .recover none⟩

/-- What the step is for the log of a task. -/
def batch (taskId : Identifier) (step : UsageStep) : BatchStep UsageEvent :=
  match step.action with
  | .recover _ => .idle
  | .ingest call stop =>
      if call.taskId = taskId ∧ call.admitted step.world then
        match stop with
        | none => .whole call.events
        | some n => .cut call.events n
      else .idle

end UsageStep

def UsageDisk.empty : UsageDisk := ⟨fun _ => [], fun _ => none⟩

def runUsage (disk : UsageDisk) (steps : List UsageStep) : UsageDisk :=
  steps.foldl UsageStep.run disk

/-- A later call with the same batch returns. -/
def ReturnsLater (call : UsageCall) (disk : UsageDisk) (steps : List UsageStep) : Prop :=
  ∃ before world again after,
    steps = before ++ ⟨world, .ingest again none⟩ :: after ∧ again.taskId = call.taskId ∧
      again.events = call.events ∧ (again.script world (runUsage disk before)).outcome.isOk

/-- Every call that was interrupted in its writes is made again later, and then returns. -/
def Reingested : UsageDisk → List UsageStep → Prop
  | _, [] => True
  | disk, step :: steps =>
      (∀ call n, step.action = .ingest call (some n) →
        (call.script step.world disk).outcome.isOk → ReturnsLater call (step.run disk) steps) ∧
      Reingested (step.run disk) steps

section

variable {validate : UsageEvent → Outcome Unit} {existing staged events : List UsageEvent}
  {duplicates : Nat}

/-- A batch is staged exactly if its events are valid and use no id again for other data; what is
    staged are its new events. -/
theorem stage_eq_ok (keyed : ((existing ++ staged).map UsageEvent.eventId).Nodup)
    {result : List UsageEvent} :
    (stage validate existing staged duplicates events).map Prod.fst = .ok result ↔
      (∀ event ∈ events, validate event = .ok ()) ∧
        Agree UsageEvent.eventId (existing ++ staged) events ∧
        result = staged ++ newItems UsageEvent.eventId (existing ++ staged) events := by
  induction events generalizing staged duplicates with
  | nil =>
      have agree : Agree UsageEvent.eventId (existing ++ staged) [] := by simp [Agree]
      simp [stage, newItems, agree, Except.map, eq_comm]
  | cons event rest ih =>
      rw [stage]
      cases valid : validate event with
      | error error => simp [Except.map, valid]
      | ok _ =>
          simp only [ok_bind]
          cases found : dictGet UsageEvent.eventId staged event.eventId <|>
              dictGet UsageEvent.eventId existing event.eventId with
          | none =>
              obtain ⟨unstaged, unknown⟩ : dictGet UsageEvent.eventId staged event.eventId = none ∧
                  dictGet UsageEvent.eventId existing event.eventId = none := by
                simpa using found
              have new : event.eventId ∉ (existing ++ staged).map UsageEvent.eventId := by
                rw [List.map_append, List.mem_append, not_or]
                exact ⟨dictGet_eq_none_iff.mp unknown, dictGet_eq_none_iff.mp unstaged⟩
              have together : existing ++ (staged ++ [event]) = existing ++ staged ++ [event] := by
                simp
              have longer : ((existing ++ (staged ++ [event])).map UsageEvent.eventId).Nodup := by
                rw [together, List.map_append]
                refine List.nodup_append.mpr ⟨keyed, by simp, ?_⟩
                intro k held k' single same
                obtain rfl := List.mem_singleton.mp single
                exact new (same ▸ held)
              simp only
              rw [ih longer, together, newItems, if_neg new, agree_cons_new new]
              simp [valid]
          | some previous =>
              have held : previous ∈ existing ++ staged ∧ previous.eventId = event.eventId := by
                cases first : dictGet UsageEvent.eventId staged event.eventId with
                | some stored =>
                    rw [first] at found
                    obtain rfl := Option.some.inj found
                    obtain ⟨member, same⟩ := mem_of_dictGet first
                    exact ⟨List.mem_append_right _ member, same⟩
                | none =>
                    rw [first] at found
                    obtain ⟨member, same⟩ := mem_of_dictGet found
                    exact ⟨List.mem_append_left _ member, same⟩
              obtain ⟨member, same⟩ := held
              simp only
              by_cases equal : previous = event
              · subst equal
                have known : previous.eventId ∈ (existing ++ staged).map UsageEvent.eventId :=
                  List.mem_map.mpr ⟨previous, member, rfl⟩
                rw [ensure_of rfl, ok_bind, ih keyed, newItems, if_pos known,
                  agree_cons_known keyed member]
                simp [valid]
              · rw [ensure_of_not equal]
                constructor
                · intro staged
                  cases staged
                · rintro ⟨-, agree, -⟩
                  exact absurd (agree event List.mem_cons_self previous
                    (List.mem_append_left _ member) same) equal

end

section

variable {taskId : Identifier} {disk : UsageDisk} {staged : List UsageEvent} {vanished : String}

theorem logs_append {event : UsageEvent} :
    (Disk.apply disk (UsageWrite.append taskId event)).logs taskId =
      disk.logs taskId ++ [event] := Function.update_self ..

theorem append_ran {event : UsageEvent} (contract : event.meetsContract = true)
    (new : event.eventId ∉ (disk.logs taskId).map UsageEvent.eventId) :
    append taskId event disk = ⟨[.append taskId event], .ok true⟩ := by
  have unknown : (disk.logs taskId).any (·.eventId == event.eventId) = false := by
    rw [List.any_eq_false]
    intro other member same
    exact new (List.mem_map.mpr ⟨other, member, by simpa using same⟩)
  unfold append
  rw [validateContract, ensure_of contract, Script.run_lift, Script.run_read, unknown]
  rfl

/-- Staged events are new, so each of them is appended. -/
theorem appendStaged_ran (contracts : ∀ event ∈ staged, event.meetsContract = true)
    (keyed : ((disk.logs taskId ++ staged).map UsageEvent.eventId).Nodup) :
    appendStaged taskId vanished staged disk =
      ⟨staged.map (UsageWrite.append taskId), .ok ()⟩ := by
  induction staged generalizing disk with
  | nil => rfl
  | cons event rest ih =>
      have new : event.eventId ∉ (disk.logs taskId).map UsageEvent.eventId := by
        intro held
        rw [List.map_append, List.nodup_append] at keyed
        exact keyed.2.2 _ held event.eventId (by simp) rfl
      have later : (((Disk.apply disk (UsageWrite.append taskId event)).logs taskId ++ rest).map
          UsageEvent.eventId).Nodup := by
        rw [logs_append]
        simpa using keyed
      have first : (do
          let new ← append taskId event
          Script.lift (ensure (new = true) (.runtimeError vanished)) : UsageScript Unit) disk =
            ⟨[.append taskId event], .ok ()⟩ :=
        Script.run_bind (append_ran (contracts event List.mem_cons_self) new)
      have others := ih (fun other member => contracts other (List.mem_cons_of_mem _ member)) later
      unfold appendStaged at others ⊢
      rw [Script.forEach, Script.run_bind first]
      have longer : applyAll disk [UsageWrite.append taskId event] =
          Disk.apply disk (UsageWrite.append taskId event) := rfl
      rw [longer, others]
      rfl

/-- The log after some of the writes of an ingestion. -/
theorem logs_ingested {state : UsageState} {n : Nat} :
    (applyAll disk ((staged.map (UsageWrite.append taskId) ++
        [UsageWrite.state taskId state]).take n)).logs =
      Function.update disk.logs taskId (disk.logs taskId ++ staged.take n) := by
  induction staged generalizing disk n with
  | nil =>
      cases n with
      | zero => simp [applyAll]
      | succ n =>
          rw [List.map_nil, List.nil_append, List.take_succ_cons, List.take_nil, List.take_nil,
            List.append_nil, Function.update_eq_self]
          rfl
  | cons event rest ih =>
      cases n with
      | zero => simp [applyAll]
      | succ n =>
          rw [List.map_cons, List.cons_append, List.take_succ_cons, List.take_succ_cons]
          change (applyAll (Disk.apply disk (UsageWrite.append taskId event)) _).logs = _
          rw [ih, logs_append, List.append_assoc, List.singleton_append]
          exact Function.update_idem ..

end

/-! ## What a call does -/

section

variable {validate : UsageEvent → Outcome Unit} {existing events : List UsageEvent}

/-- Every event of the batch is valid, and none uses an id again for other data. -/
def Ingestible (validate : UsageEvent → Outcome Unit) (existing events : List UsageEvent) : Prop :=
  (∀ event ∈ events, validate event = .ok ()) ∧ Agree UsageEvent.eventId existing events

theorem Ingestible.staged (keyed : (existing.map UsageEvent.eventId).Nodup)
    (ingestible : Ingestible validate existing events) : ∃ duplicates,
    stage validate existing [] 0 events =
      .ok (newItems UsageEvent.eventId existing events, duplicates) := by
  have accepted : (stage validate existing [] 0 events).map Prod.fst =
      .ok (newItems UsageEvent.eventId existing events) := by
    rw [stage_eq_ok (by simpa using keyed), List.append_nil]
    exact ⟨ingestible.1, ingestible.2, rfl⟩
  cases ran : stage validate existing [] 0 events with
  | error error =>
      rw [ran] at accepted
      cases accepted
  | ok result =>
      rw [ran] at accepted
      obtain ⟨staged, duplicates⟩ := result
      obtain rfl : staged = _ := Except.ok.inj accepted
      exact ⟨duplicates, rfl⟩

theorem not_staged (keyed : (existing.map UsageEvent.eventId).Nodup)
    (refused : ¬ Ingestible validate existing events) :
    ∃ error, stage validate existing [] 0 events = .error error := by
  cases ran : stage validate existing [] 0 events with
  | error error => exact ⟨error, rfl⟩
  | ok result =>
      have accepted : (stage validate existing [] 0 events).map Prod.fst = .ok result.1 := by
        rw [ran]
        rfl
      rw [stage_eq_ok (by simpa using keyed), List.append_nil] at accepted
      exact absurd ⟨accepted.1, accepted.2.1⟩ refused

theorem validateEvent_contract {taskId : Identifier} {target : UsageInstance} {event : UsageEvent}
    (valid : validateEvent taskId target event = .ok ()) : event.meetsContract = true := by
  obtain ⟨_, contract, -⟩ := bind_eq_ok.mp valid
  exact validateContract_eq_ok.mp contract

theorem validateMasterEvent_contract {taskId : Identifier} {event : UsageEvent}
    (valid : validateMasterEvent taskId event = .ok ()) : event.meetsContract = true := by
  obtain ⟨_, contract, -⟩ := bind_eq_ok.mp valid
  exact validateContract_eq_ok.mp contract

end

section

variable {taskId : Identifier} {disk : UsageDisk} {world : UsageWorld}

/-- The call appended the new events of its batch, and then replaced the state. -/
def BatchAppended (taskId : Identifier) (events : List UsageEvent) (disk : UsageDisk)
    (ran : Ran UsageWrite Raised IngestResult) : Prop :=
  ∃ state result, ran =
    ⟨(newItems UsageEvent.eventId (disk.logs taskId) events).map (UsageWrite.append taskId) ++
      [UsageWrite.state taskId state], .ok result⟩

/-- The end of an ingestion, when the batch is staged. -/
theorem appended_of_staged {events : List UsageEvent} {vanished : String}
    {next : UsageState → UsageScript IngestResult}
    (keyed : ((disk.logs taskId).map UsageEvent.eventId).Nodup)
    (contracts : ∀ event ∈ events, event.meetsContract = true)
    (ends : ∀ state later, ∃ written result,
      next state later = ⟨[UsageWrite.state taskId written], .ok result⟩) :
    BatchAppended taskId events disk ((do
      appendStaged taskId vanished (newItems UsageEvent.eventId (disk.logs taskId) events)
      let state ← Script.read (readState world.now taskId)
      next state : UsageScript IngestResult) disk) := by
  have staged : appendStaged taskId vanished
      (newItems UsageEvent.eventId (disk.logs taskId) events) disk =
        ⟨(newItems UsageEvent.eventId (disk.logs taskId) events).map (UsageWrite.append taskId),
          .ok ()⟩ :=
    appendStaged_ran (fun event member => contracts event (newItems_subset member))
      (nodup_append_newItems keyed)
  rw [Script.run_bind staged, Script.run_read]
  obtain ⟨written, result, ended⟩ := ends (readState world.now taskId _) (applyAll disk _)
  rw [ended]
  exact ⟨written, result, rfl⟩

/-- The loop over the events passes exactly if every event is valid. -/
theorem all_valid {validate : UsageEvent → Outcome Unit} {events : List UsageEvent} :
    (events.all fun event => (validate event).isOk) = true ↔
      ∀ event ∈ events, validate event = .ok () := by
  rw [List.all_eq_true]
  refine forall_congr' fun event => imp_congr_right fun _ => ?_
  cases validate event <;> simp [Except.isOk, Except.toBool]

theorem ingest_appends {call : IngestCall}
    (keyed : ((disk.logs call.taskId).map UsageEvent.eventId).Nodup)
    (admitted : (UsageCall.ingest call).admitted world = true)
    (agree : Agree UsageEvent.eventId (disk.logs call.taskId) call.events) :
    BatchAppended call.taskId call.events disk (UsageService.ingest world call disk) := by
  unfold UsageCall.admitted at admitted
  simp only [Bool.and_eq_true, decide_eq_true_eq] at admitted
  obtain ⟨⟨source, size⟩, found⟩ := admitted
  unfold UsageService.ingest
  rw [ensure_of source, Script.run_lift, ensure_of size, Script.run_lift]
  cases looked : findInstance world call.taskId call.instanceId with
  | error error =>
      rw [looked] at found
      cases found
  | ok target =>
      rw [looked] at found
      have valid := all_valid.mp found
      obtain ⟨duplicates, staged⟩ := Ingestible.staged keyed ⟨valid, agree⟩
      rw [Script.run_lift, Script.run_read, staged, Script.run_lift]
      refine appended_of_staged keyed ?_ fun _ _ => ⟨_, _, rfl⟩
      exact fun event member => validateEvent_contract (valid event member)

theorem ingestMaster_appends {events : List UsageEvent}
    (keyed : ((disk.logs taskId).map UsageEvent.eventId).Nodup)
    (admitted : (UsageCall.ingestMaster taskId events).admitted world = true)
    (agree : Agree UsageEvent.eventId (disk.logs taskId) events) :
    BatchAppended taskId events disk (UsageService.ingestMaster world taskId events disk) := by
  unfold UsageCall.admitted at admitted
  obtain ⟨exists_, found⟩ := (Bool.and_eq_true _ _).mp admitted
  have valid := all_valid.mp found
  unfold UsageService.ingestMaster
  rw [ensure_of exists_, Script.run_lift, Script.run_read]
  obtain ⟨duplicates, staged⟩ := Ingestible.staged keyed ⟨valid, agree⟩
  rw [staged, Script.run_lift]
  refine appended_of_staged keyed ?_ fun _ _ => ⟨_, _, rfl⟩
  exact fun event member => validateMasterEvent_contract (valid event member)

theorem ingest_refuses {call : IngestCall}
    (keyed : ((disk.logs call.taskId).map UsageEvent.eventId).Nodup)
    (refused : ¬ ((UsageCall.ingest call).admitted world = true ∧
      Agree UsageEvent.eventId (disk.logs call.taskId) call.events)) :
    ∃ error, UsageService.ingest world call disk = ⟨[], .error error⟩ := by
  unfold UsageCall.admitted at refused
  simp only [Bool.and_eq_true, decide_eq_true_eq] at refused
  unfold UsageService.ingest
  by_cases source : call.source ≠ .recovery
  · rw [ensure_of source, Script.run_lift]
    by_cases size : call.events.length ≤ 10000
    · rw [ensure_of size, Script.run_lift]
      cases looked : findInstance world call.taskId call.instanceId with
      | error error => exact ⟨error, rfl⟩
      | ok target =>
          rw [looked] at refused
          rw [Script.run_lift, Script.run_read]
          have unfit : ¬ Ingestible (validateEvent call.taskId target) (disk.logs call.taskId)
              call.events := by
            intro ingestible
            exact refused ⟨⟨⟨source, size⟩, all_valid.mpr ingestible.1⟩, ingestible.2⟩
          obtain ⟨error, ran⟩ := not_staged keyed unfit
          rw [ran]
          exact ⟨error, rfl⟩
    · rw [ensure_of_not size]
      exact ⟨_, rfl⟩
  · rw [ensure_of_not source]
    exact ⟨_, rfl⟩

theorem ingestMaster_refuses {events : List UsageEvent}
    (keyed : ((disk.logs taskId).map UsageEvent.eventId).Nodup)
    (refused : ¬ ((UsageCall.ingestMaster taskId events).admitted world = true ∧
      Agree UsageEvent.eventId (disk.logs taskId) events)) :
    ∃ error, UsageService.ingestMaster world taskId events disk = ⟨[], .error error⟩ := by
  unfold UsageCall.admitted at refused
  rw [Bool.and_eq_true] at refused
  unfold UsageService.ingestMaster
  by_cases present : world.hasTask taskId = true
  · rw [ensure_of present, Script.run_lift, Script.run_read]
    have unfit : ¬ Ingestible (validateMasterEvent taskId) (disk.logs taskId) events := by
      intro ingestible
      exact refused ⟨⟨present, all_valid.mpr ingestible.1⟩, ingestible.2⟩
    obtain ⟨error, ran⟩ := not_staged keyed unfit
    rw [ran]
    exact ⟨error, rfl⟩
  · rw [ensure_of_not present]
    exact ⟨_, rfl⟩

/-- A call appends the new events of its batch, or it raises before its first write. -/
theorem call_ran (world : UsageWorld) (call : UsageCall)
    (keyed : ((disk.logs call.taskId).map UsageEvent.eventId).Nodup) :
    if call.admitted world = true ∧
        Agree UsageEvent.eventId (disk.logs call.taskId) call.events then
      BatchAppended call.taskId call.events disk (call.script world disk)
    else ∃ error, call.script world disk = ⟨[], .error error⟩ := by
  split
  · next accepted =>
      cases call with
      | ingest call => exact ingest_appends keyed accepted.1 accepted.2
      | ingestMaster taskId events => exact ingestMaster_appends keyed accepted.1 accepted.2
  · next refused =>
      cases call with
      | ingest call => exact ingest_refuses keyed refused
      | ingestMaster taskId events => exact ingestMaster_refuses keyed refused

end

/-! ## The log under a step -/

section

variable {taskId : Identifier} {disk : UsageDisk} {world : UsageWorld} {step : UsageStep}

/-- Recovery changes collection states only. -/
theorem recoverTask_logs (taskId : Identifier) {logs : Identifier → List UsageEvent}
    (same : disk.logs = logs) :
    Meets (recoverTask world taskId) disk (fun later => later.logs = logs)
      (fun _ later => later.logs = logs) fun _ later => later.logs = logs := by
  unfold recoverTask
  refine Meets.looked rfl (Meets.looked rfl ?_)
  split
  · exact Meets.pure same same
  · refine Meets.looked rfl (Meets.guarded same (fun repaired _ => ?_) fun _ _ => same)
    obtain ⟨instances, changed⟩ := repaired
    simp only
    split
    · exact Meets.write same same same same
    · exact Meets.pure same same

theorem recover_logs (world : UsageWorld) (disk : UsageDisk) :
    Meets (recover world) disk (fun later => later.logs = disk.logs)
      (fun _ later => later.logs = disk.logs) fun _ later => later.logs = disk.logs := by
  unfold recover
  refine Meets.forEach (motive := fun _ later => later.logs = disk.logs) ?_ (fun _ _ => id) rfl
    fun _ => id
  exact fun _ other _ later _ same => recoverTask_logs other same

/-- The disk when a script was stopped before a write, or not at all. -/
theorem upTo_writes {α : Type} {script : UsageScript α} {stop : Option Nat} :
    script.upTo (stop.map fun n => (n, false)) disk =
      applyAll disk ((script disk).writes.take (stop.getD (script disk).writes.length)) := by
  cases stop with
  | none =>
      rw [Option.getD_none, List.take_length]
      rfl
  | some n => rfl

/-- On the log of a task a step is what `UsageStep.batch` says. -/
theorem run_batch (keyed : ∀ taskId, ((disk.logs taskId).map UsageEvent.eventId).Nodup) :
    (step.run disk).logs taskId =
      (step.batch taskId).run UsageEvent.eventId (disk.logs taskId) := by
  obtain ⟨world, action⟩ := step
  cases action with
  | recover stop =>
      have kept := (recover_logs world disk).upTo (stop.map fun n => (n, false))
      exact congrFun kept taskId
  | ingest call stop =>
      have ran := call_ran world call (keyed call.taskId)
      unfold UsageStep.run UsageStep.batch
      simp only
      rw [upTo_writes]
      split at ran
      · next accepted =>
          obtain ⟨state, result, ran⟩ := ran
          rw [ran]
          simp only
          rw [logs_ingested]
          by_cases mine : call.taskId = taskId
          · subst mine
            rw [Function.update_self, if_pos ⟨rfl, accepted.1⟩]
            cases stop with
            | none =>
                rw [Option.getD_none, BatchStep.run_whole, if_pos accepted.2]
                rw [List.take_of_length_le (by simp)]
            | some n => rw [Option.getD_some, BatchStep.run_cut, if_pos accepted.2]
          · rw [Function.update_of_ne (Ne.symm mine), if_neg fun both => mine both.1]
            rfl
      · next refused =>
          obtain ⟨error, ran⟩ := ran
          rw [ran]
          simp only [List.take_nil]
          by_cases mine : call.taskId = taskId ∧ call.admitted world = true
          · obtain ⟨rfl, admitted⟩ := mine
            have clashes : ¬ Agree UsageEvent.eventId (disk.logs call.taskId) call.events :=
              fun agree => refused ⟨admitted, agree⟩
            rw [if_pos ⟨rfl, admitted⟩]
            cases stop with
            | none =>
                rw [BatchStep.run_whole, if_neg clashes]
                rfl
            | some n =>
                rw [BatchStep.run_cut, if_neg clashes]
                rfl
          · rw [if_neg mine]
            rfl

/-- Whether a call returns depends on its batch, the records it reads and the log alone. -/
theorem returns_iff {call : UsageCall}
    (keyed : ((disk.logs call.taskId).map UsageEvent.eventId).Nodup) :
    (call.script world disk).outcome.isOk = true ↔ call.admitted world = true ∧
      Agree UsageEvent.eventId (disk.logs call.taskId) call.events := by
  have ran := call_ran world call keyed
  split at ran
  · next accepted =>
      obtain ⟨state, result, ran⟩ := ran
      rw [ran]
      exact ⟨fun _ => accepted, fun _ => rfl⟩
  · next refused =>
      obtain ⟨error, ran⟩ := ran
      rw [ran]
      refine ⟨?_, fun accepted => absurd accepted refused⟩
      intro returned
      cases returned

end

section

variable {disk : UsageDisk} {steps before after : List UsageStep}

theorem runUsage_append :
    runUsage disk (before ++ after) = runUsage (runUsage disk before) after := List.foldl_append

/-- The logs hold an event id once. -/
def Keyed (disk : UsageDisk) : Prop :=
  ∀ taskId, ((disk.logs taskId).map UsageEvent.eventId).Nodup

theorem Keyed.step (keyed : Keyed disk) (step : UsageStep) : Keyed (step.run disk) := by
  intro taskId
  rw [run_batch keyed]
  exact BatchStep.run_nodup (keyed taskId)

theorem Keyed.run (keyed : Keyed disk) (steps : List UsageStep) : Keyed (runUsage disk steps) := by
  induction steps generalizing disk with
  | nil => exact keyed
  | cons step steps ih => exact ih (keyed.step step)

theorem Keyed.empty : Keyed .empty := fun _ => List.nodup_nil

/-- A run on the log of a task is a run of batches. -/
theorem runUsage_logs (keyed : Keyed disk) (taskId : Identifier) :
    (runUsage disk steps).logs taskId =
      runBatches UsageEvent.eventId (disk.logs taskId) (steps.map (UsageStep.batch taskId)) := by
  induction steps generalizing disk with
  | nil => rfl
  | cons step steps ih =>
      rw [List.map_cons]
      change (runUsage (step.run disk) steps).logs taskId = runBatches _ (BatchStep.run _ _ _) _
      rw [ih (keyed.step step), run_batch keyed]

theorem runUsage_grows (keyed : Keyed disk) (taskId : Identifier) :
    disk.logs taskId <+: (runUsage disk steps).logs taskId := by
  rw [runUsage_logs keyed]
  exact runBatches_grows

/-- What a call that returned was given is in the log for good. -/
theorem returned_subset {world : UsageWorld} {call : UsageCall} (keyed : Keyed disk)
    (returned : (call.script world disk).outcome.isOk = true) :
    call.events ⊆ (runUsage disk (⟨world, .ingest call none⟩ :: steps)).logs call.taskId := by
  obtain ⟨admitted, agree⟩ := (returns_iff (keyed call.taskId)).mp returned
  have whole : (UsageStep.mk world (.ingest call none)).batch call.taskId =
      .whole call.events := if_pos ⟨rfl, admitted⟩
  intro event member
  refine (runUsage_grows (keyed.step ⟨world, .ingest call none⟩) call.taskId).subset ?_
  rw [run_batch keyed, whole, BatchStep.run_whole, if_pos agree]
  exact agree.mem_append_newItems.mpr (.inr member)

/-- The batches of calls that are made again are resumed. -/
theorem Reingested.resumed (keyed : Keyed disk) (again : Reingested disk steps)
    (taskId : Identifier) :
    Resumed UsageEvent.eventId (disk.logs taskId) (steps.map (UsageStep.batch taskId)) := by
  induction steps generalizing disk with
  | nil => trivial
  | cons step steps ih =>
      obtain ⟨here, later⟩ := again
      have kept := keyed.step step
      have rest := ih kept later
      rw [run_batch keyed] at rest
      refine ⟨?_, rest⟩
      obtain ⟨world, action⟩ := step
      cases action with
      | recover stop => trivial
      | ingest call stop =>
          rw [← run_batch keyed, ← runUsage_logs kept]
          by_cases mine : call.taskId = taskId ∧ call.admitted world = true
          · obtain ⟨rfl, admitted⟩ := mine
            cases stop with
            | none =>
                have whole : (UsageStep.mk world (.ingest call none)).batch call.taskId =
                    .whole call.events := if_pos ⟨rfl, admitted⟩
                rw [whole]
                trivial
            | some n =>
                have cut : (UsageStep.mk world (.ingest call (some n))).batch call.taskId =
                    .cut call.events n := if_pos ⟨rfl, admitted⟩
                rw [cut]
                intro agree
                have returned := (returns_iff (keyed call.taskId)).mpr ⟨admitted, agree⟩
                obtain ⟨before, other, call', after, rfl, task, events, returns⟩ :=
                  here call n rfl returned
                rw [← task, ← events, runUsage_append]
                exact returned_subset (kept.run before) returns
          · have idle : (UsageStep.mk world (.ingest call stop)).batch taskId = .idle :=
              if_neg mine
            rw [idle]
            trivial

theorem completed_batch {step : UsageStep} {taskId : Identifier} :
    step.completed.batch taskId = (step.batch taskId).completed := by
  obtain ⟨world, action⟩ := step
  cases action with
  | recover stop => rfl
  | ingest call stop =>
      unfold UsageStep.completed UsageStep.batch
      simp only
      split
      · cases stop <;> rfl
      · rfl

end

section

variable {events : List UsageEvent} {field : TokenField}

theorem groupedBy_tokens {key : UsageEvent → String} :
    ((groupedBy key events).map fun group => tokenTotals group.2 field).sum =
      tokenTotals events field := by
  have distinct : ((events.map key).dedup.insertionSort (· ≤ ·)).Nodup :=
    (List.perm_insertionSort _ _).nodup_iff.mpr (List.nodup_dedup _)
  have covered : ∀ event ∈ events, key event ∈ (events.map key).dedup.insertionSort (· ≤ ·) := by
    intro event member
    rw [List.mem_insertionSort, List.mem_dedup]
    exact List.mem_map_of_mem member
  unfold groupedBy
  rw [List.map_map]
  exact sum_total_groups distinct covered

end

/-! ## Usage counted once -/

/-- What a run of the usage service, from empty logs, leaves behind. -/
structure UsageKept (steps : List UsageStep) : Prop where
  /-- No event id stands in a log twice. -/
  once : ∀ taskId, (((runUsage .empty steps).logs taskId).map UsageEvent.eventId).Nodup
  /-- An event stays in the log as it was first written. -/
  first : ∀ before after taskId, steps = before ++ after →
    (runUsage .empty before).logs taskId <+: (runUsage .empty steps).logs taskId
  /-- The log holds the events of every call that returned. -/
  accepted : ∀ before world call after, steps = before ++ ⟨world, .ingest call none⟩ :: after →
    (call.script world (runUsage .empty before)).outcome.isOk →
      call.events ⊆ (runUsage .empty steps).logs call.taskId
  /-- A batch that uses an id again for other data is refused, and nothing is written. -/
  reused : ∀ world call event other, event ∈ call.events →
    other ∈ (runUsage .empty steps).logs call.taskId ++ call.events →
      other.eventId = event.eventId → other ≠ event →
        (call.script world (runUsage .empty steps)).outcome.isOk = false ∧
          ∀ stop, (UsageStep.mk world (.ingest call stop)).run (runUsage .empty steps) =
            runUsage .empty steps
  /-- A call that was stopped in its writes returns when it is made again after a recovery. -/
  again : ∀ world (call : UsageCall) n stop, (call.script world (runUsage .empty steps)).outcome.isOk →
    (call.script world (runUsage .empty
      (steps ++ [⟨world, .ingest call (some n)⟩, ⟨world, .recover stop⟩]))).outcome.isOk
  /-- Once the batches that were interrupted have been ingested again, the logs are those of the
      uninterrupted run up to their order. -/
  uninterrupted : Reingested .empty steps → ∀ taskId,
    ((runUsage .empty steps).logs taskId).Perm
      ((runUsage .empty (steps.map UsageStep.completed)).logs taskId)
  /-- The totals of the models, and those of the hours, add up to the total. -/
  totals : ∀ world taskId instanceId result field,
    summary world taskId instanceId (runUsage .empty steps) = .ok result →
      (result.models.map fun row => row.tokens field).sum = result.tokens field ∧
        (result.timeBuckets.map fun row => row.tokens field).sum = result.tokens field

theorem summary_totals {world : UsageWorld} {taskId : Identifier} {instanceId : Option Identifier}
    {disk : UsageDisk} {result : UsageSummary}
    (returned : summary world taskId instanceId disk = .ok result) (field : TokenField) :
    (result.models.map fun row => row.tokens field).sum = result.tokens field ∧
      (result.timeBuckets.map fun row => row.tokens field).sum = result.tokens field := by
  unfold summary at returned
  obtain ⟨_, -, returned⟩ := bind_eq_ok.mp returned
  obtain ⟨_, -, returned⟩ := bind_eq_ok.mp returned
  obtain rfl := Except.ok.inj returned
  simp only [List.map_map]
  exact ⟨groupedBy_tokens, groupedBy_tokens⟩

/-- The call is stopped, the service recovers, and the same call returns. -/
theorem again_returns {disk : UsageDisk} {world : UsageWorld} {call : UsageCall} {n : Nat}
    {stop : Option Nat} (keyed : Keyed disk)
    (returned : (call.script world disk).outcome.isOk = true) :
    (call.script world (runUsage disk
      [⟨world, .ingest call (some n)⟩, ⟨world, .recover stop⟩])).outcome.isOk = true := by
  obtain ⟨admitted, agree⟩ := (returns_iff (keyed call.taskId)).mp returned
  refine (returns_iff (keyed.run _ call.taskId)).mpr ⟨admitted, ?_⟩
  have cut : (UsageStep.mk world (.ingest call (some n))).batch call.taskId =
      .cut call.events n := if_pos ⟨rfl, admitted⟩
  -- What stands in the log is known or belongs to the batch itself.
  have whole : ((disk.logs call.taskId ++
      newItems UsageEvent.eventId (disk.logs call.taskId) call.events).map
        UsageEvent.eventId).Nodup := nodup_append_newItems (keyed call.taskId)
  refine agree_of_subset whole ?_ fun event member => agree.mem_append_newItems.mpr (.inr member)
  rw [runUsage_logs keyed, List.map_cons, List.map_cons, cut]
  change (BatchStep.cut call.events n).run UsageEvent.eventId (disk.logs call.taskId) ⊆ _
  rw [BatchStep.run_cut, if_pos agree]
  exact (List.Sublist.append_left (List.take_sublist _ _) _).subset

/-- Whatever the batches share and wherever a call is interrupted, every accepted event is in the
    log once. -/
theorem usage_kept (steps : List UsageStep) : UsageKept steps := by
  have keyed : Keyed (runUsage .empty steps) := Keyed.empty.run steps
  constructor
  case once => exact keyed
  case first =>
    rintro before after taskId rfl
    rw [runUsage_append]
    exact runUsage_grows (Keyed.empty.run before) taskId
  case accepted =>
    rintro before world call after rfl returned
    rw [runUsage_append]
    exact returned_subset (Keyed.empty.run before) returned
  case reused =>
    intro world call event other member among same different
    have clashes : ¬ Agree UsageEvent.eventId ((runUsage .empty steps).logs call.taskId)
        call.events := fun agree => different (agree event member other among same)
    have ran := call_ran world call (keyed call.taskId)
    rw [if_neg fun both => clashes both.2] at ran
    obtain ⟨error, ran⟩ := ran
    refine ⟨by rw [ran]; rfl, ?_⟩
    intro stop
    unfold UsageStep.run
    simp only
    rw [upTo_writes, ran, List.take_nil]
    rfl
  case again =>
    intro world call n stop returned
    rw [runUsage_append]
    exact again_returns keyed returned
  case uninterrupted =>
    intro again taskId
    have resumed := again.resumed Keyed.empty taskId
    have same : (steps.map UsageStep.completed).map (UsageStep.batch taskId) =
        (steps.map (UsageStep.batch taskId)).map BatchStep.completed := by
      rw [List.map_map, List.map_map]
      exact List.map_congr_left fun step _ => completed_batch
    rw [runUsage_logs Keyed.empty, runUsage_logs Keyed.empty, same]
    exact runBatches_completed List.nodup_nil resumed
  case totals => exact fun world taskId instanceId result field returned =>
    summary_totals returned field

/-! A batch that shares an event with another one and is interrupted after its first append. -/

def sampleUsage (eventId : Identifier) (tokens : Nat) : UsageEvent where
  eventId := eventId
  taskId := "task_1"
  instanceId := "image_1"
  agentType := .agent .image
  requestId := "request_" ++ eventId
  model := "image-model"
  inputTokens := tokens
  outputTokens := 5
  cachedInputTokens := 2
  reasoningTokens := 1
  totalTokens := tokens + 5
  occurredAt := "2026-08-21T02:00:00Z"

def usageWorld : UsageWorld where
  now := "2026-08-21T02:01:00.000000Z"
  hasTask _ := true
  findInstance taskId instanceId :=
    if taskId = "task_1" ∧ instanceId = "image_1" then
      some ⟨taskId, instanceId, .agent .image, .running⟩
    else none
  plan _ := none
  taskDirectories := ["task_1"]

def usageBatch (events : List UsageEvent) : UsageCall :=
  .ingest ⟨"task_1", "image_1", events, .internal, none, none⟩

/-- The first batch is stopped after one append, and made again after the second one. -/
def interruptedUsage : List UsageStep :=
  let first := usageBatch [sampleUsage "usage_1" 10, sampleUsage "usage_2" 20]
  let second := usageBatch [sampleUsage "usage_3" 30, sampleUsage "usage_1" 10]
  [⟨usageWorld, .ingest first (some 1)⟩, ⟨usageWorld, .recover none⟩,
    ⟨usageWorld, .ingest second none⟩, ⟨usageWorld, .ingest first none⟩]

theorem interruptedUsage_reingested : Reingested .empty interruptedUsage := by
  refine ⟨?_, ?_, ?_, ?_, trivial⟩
  · intro call n interrupted _
    cases interrupted
    exact ⟨[_, _], usageWorld, _, [], rfl, rfl, rfl, by decide +kernel⟩
  · intro call n interrupted
    cases interrupted
  · intro call n interrupted
    cases interrupted
  · intro call n interrupted
    cases interrupted

/-- The interrupted run has the events of the uninterrupted one, in another order. -/
theorem usage_kept_interrupted :
    (((runUsage .empty interruptedUsage).logs "task_1").map UsageEvent.eventId =
        ["usage_1", "usage_3", "usage_2"]) ∧
      ((runUsage .empty interruptedUsage).logs "task_1").Perm
        ((runUsage .empty (interruptedUsage.map UsageStep.completed)).logs "task_1") :=
  ⟨by decide +kernel,
    (usage_kept interruptedUsage).uninterrupted interruptedUsage_reingested "task_1"⟩

end DesignHarness
