import DesignHarness.Library.EventStoreRules
import DesignHarness.Storage.Store

/-!
# Rules for the projections of a plan

What the loops that write the projections of a plan reach (`Written`), and the states in between
(`Growth`).  `Agrees` says that the task, the stages and the instances are those of the stored
plan; reconciling establishes it and, where it holds, writes nothing.
-/

namespace DesignHarness

open Library

/-- The states in the course of commits that carry no result and leave the plan alone: their events
    follow those of the start, and the relations of the snapshots to the journal are kept. -/
structure Growth (start store : TaskStore) : Prop where
  readable : store.Readable
  side : store.side = start.side
  events : ∃ more, store.events = start.events ++ more ∧
    ∀ event ∈ more, event.info.result = none ∧ event.key ≠ .plan
  behind : start.Behind → store.Behind
  sequenced : start.Committed → start.Sequenced → store.Sequenced
  recorded : start.Recorded → store.Recorded

namespace Growth

variable {start store : TaskStore} {key : ObjectKey} {payload : Payload key} {info : EventInfo}
  {now : Timestamp}

theorem refl (clean : store.Clean) : Growth store store :=
  ⟨clean.readable, rfl, ⟨[], by simp, by simp⟩, id, fun _ => id, id⟩

theorem torn (growth : Growth start store) (clean : store.Clean) : Growth start store.torn where
  readable := clean.torn_readable
  side := growth.side
  events := by simpa using growth.events
  behind behind := (growth.behind behind).torn
  sequenced committed sequenced :=
    (growth.sequenced committed sequenced).of_events Store.events_torn
  recorded recorded := (growth.recorded recorded).of_events Store.events_torn

theorem append (growth : Growth start store) (payload : Payload key) (now : Timestamp)
    (clean : store.Clean)
    (committed : start.Committed → store.Committed) (noResult : info.result = none)
    (other : key ≠ .plan) :
    Growth start (store.append (store.commitEvent key payload info now)) where
  readable := clean.append.readable
  side := growth.side
  events := by
    obtain ⟨more, same, silent⟩ := growth.events
    refine ⟨more ++ [store.commitEvent key payload info now], ?_, fun event member => ?_⟩
    · rw [Store.events_append clean, same, List.append_assoc]
    · rcases List.mem_append.mp member with before | last
      · exact silent event before
      · obtain rfl := List.mem_singleton.mp last
        exact ⟨noResult, other⟩
  behind behind := (growth.behind behind).append clean
  sequenced start sequenced :=
    (growth.sequenced start sequenced).append_commit (committed start) clean
  recorded recorded := (growth.recorded recorded).append_commit clean

theorem commit (growth : Growth start store) (payload : Payload key) (now : Timestamp)
    (clean : store.Clean)
    (committed : start.Committed → store.Committed) (noResult : info.result = none)
    (other : key ≠ .plan) : Growth start (store.commit key payload info now) :=
  let appended := growth.append payload now clean committed noResult other
  { readable := clean.commit.readable
    side := growth.side
    events := appended.events
    behind := fun behind => (growth.behind behind).commit clean
    sequenced := fun start sequenced => (appended.sequenced start sequenced).of_events rfl
    recorded := fun recorded => (appended.recorded recorded).of_events rfl }

theorem trans {next : TaskStore} (first : Growth start store) (second : Growth store next)
    (committed : start.Committed → store.Committed) : Growth start next where
  readable := second.readable
  side := second.side.trans first.side
  events := by
    obtain ⟨more, same, silent⟩ := first.events
    obtain ⟨after, same', silent'⟩ := second.events
    refine ⟨more ++ after, by rw [same', same, List.append_assoc], fun event member => ?_⟩
    rcases List.mem_append.mp member with before | later
    · exact silent event before
    · exact silent' event later
  behind behind := second.behind (first.behind behind)
  sequenced start sequenced := second.sequenced (committed start) (first.sequenced start sequenced)
  recorded recorded := second.recorded (first.recorded recorded)

end Growth

/-- The loop has written the object: one of its projections is not skipped. -/
def Touches (skipUnchanged : Bool) (start : TaskStore) (done : List Projection) (key : ObjectKey) :
    Prop :=
  ∃ payload, ⟨key, payload⟩ ∈ done ∧ ¬(skipUnchanged = true ∧ start.payload key = some payload)

/-- What the loop over the projections has reached. -/
structure Written (skipUnchanged : Bool) (start : TaskStore) (done : List Projection)
    (store : TaskStore) : Prop where
  clean : store.Clean
  growth : Growth start store
  committed : start.Committed → store.Committed
  kept : ∀ key, ¬Touches skipUnchanged start done key →
    store.lookup key = start.lookup key ∧
      lastSnapshot key store.events = lastSnapshot key start.events
  moved : ∀ key, Touches skipUnchanged start done key →
    store.lookup key = lastSnapshot key store.events ∧ (store.lookup key).isSome
  finished : ∀ key payload, ⟨key, payload⟩ ∈ done →
    (∀ other, ⟨key, other⟩ ∈ done → other = payload) → store.payload key = some payload

namespace Written

variable {skipUnchanged : Bool} {start store : TaskStore} {done : List Projection}
  {key : ObjectKey} {payload : Payload key} {info : EventInfo} {now : Timestamp}

theorem refl (clean : start.Clean) : Written skipUnchanged start [] start where
  clean := clean
  growth := .refl clean
  committed := id
  kept _ _ := ⟨rfl, rfl⟩
  moved _ touched := nomatch touched.choose_spec.1
  finished _ _ member := nomatch member

/-- A projection that is skipped is the stored one. -/
theorem skip (written : Written skipUnchanged start done store) (skips : skipUnchanged = true)
    (same : store.payload key = some payload) :
    Written skipUnchanged start (done ++ [⟨key, payload⟩]) store := by
  have touched : ∀ other, Touches skipUnchanged start (done ++ [⟨key, payload⟩]) other →
      Touches skipUnchanged start done other := by
    rintro other ⟨found, member, differs⟩
    rcases List.mem_append.mp member with before | last
    · exact ⟨found, before, differs⟩
    · cases List.mem_singleton.mp last
      by_contra untouched
      refine differs ⟨skips, ?_⟩
      rw [← same, Store.payload, Store.payload, (written.kept _ untouched).1]
  refine ⟨written.clean, written.growth, written.committed, fun other untouched => ?_,
    fun other moved => written.moved other (touched other moved), ?_⟩
  · exact written.kept other fun ⟨found, member, differs⟩ =>
      untouched ⟨found, List.mem_append_left _ member, differs⟩
  · intro other found member unique
    rcases List.mem_append.mp member with before | last
    · exact written.finished other found before fun next member =>
        unique next (List.mem_append_left _ member)
    · cases List.mem_singleton.mp last
      exact same

/-- A projection that is committed. -/
theorem commit (written : Written skipUnchanged start done store) (now : Timestamp)
    (differs : ¬(skipUnchanged = true ∧ store.payload key = some payload))
    (noResult : info.result = none) (other : key ≠ .plan) :
    Written skipUnchanged start (done ++ [⟨key, payload⟩]) (store.commit key payload info now) := by
  have written' : (store.commit key payload info now).payload key = some payload := by
    rw [Store.payload, Store.lookup_commit_self]
    rfl
  refine ⟨written.clean.commit, written.growth.commit payload now written.clean written.committed noResult other,
    fun start => (written.committed start).commit written.clean, fun next untouched => ?_,
    fun next touched => ?_, fun next found member unique => ?_⟩
  · have before : ¬Touches skipUnchanged start done next := fun ⟨found, member, differs⟩ =>
      untouched ⟨found, List.mem_append_left _ member, differs⟩
    have kept := written.kept next before
    have different : next ≠ key := by
      rintro rfl
      refine untouched ⟨payload, List.mem_append_right _ (List.mem_singleton.mpr rfl), ?_⟩
      rintro ⟨skips, same⟩
      exact differs ⟨skips, by rw [Store.payload, kept.1, ← same, Store.payload]⟩
    rw [Store.lookup_commit_of_ne different, Store.events_commit written.clean,
      lastSnapshot_append_of_ne (Ne.symm different)]
    exact kept
  · rw [Store.events_commit written.clean]
    by_cases same : next = key
    · subst same
      rw [Store.lookup_commit_self, Store.commitEvent, lastSnapshot_append_committed]
      exact ⟨rfl, rfl⟩
    · rw [Store.lookup_commit_of_ne same, lastSnapshot_append_of_ne (Ne.symm same)]
      obtain ⟨found, member, differs⟩ := touched
      refine written.moved next ⟨found, ?_, differs⟩
      simpa [same] using member
  · by_cases same : next = key
    · subst same
      obtain rfl := unique payload (List.mem_append_right _ (List.mem_singleton.mpr rfl))
      exact written'
    · rw [Store.payload, Store.lookup_commit_of_ne same]
      refine written.finished next found (by simpa [same] using member) fun other member => ?_
      exact unique other (List.mem_append_left _ member)

end Written

section

variable {taskId : Identifier} {skipUnchanged : Bool} {start store : TaskStore}
  {done : List Projection} {now : Timestamp} {raises : Raised → TaskStore → Prop}

theorem writeProjection_meets {projection : Projection} {info : EventInfo}
    (written : Written skipUnchanged start done store)
    (valid : validatePayload projection.1 projection.2 = .ok ())
    (noResult : info.result = none) (other : projection.1 ≠ .plan) :
    Meets (writeProjection taskId skipUnchanged info now projection) store (Growth start)
      (fun _ => Written skipUnchanged start (done ++ [projection])) raises := by
  refine Meets.bind (Meets.read written.growth ?_)
  by_cases same : skipUnchanged = true ∧ store.payload projection.1 = some projection.2
  · rw [if_pos (by exact same)]
    exact Meets.pure written.growth (written.skip same.1 same.2)
  · rw [if_neg (by exact same)]
    have next := written.commit now same noResult other
    refine Meets.bind (put_meets written.clean written.growth (fun error rejected => ?_)
      (fun stale => absurd rfl stale) fun _ _ => ?_)
    · rw [valid] at rejected
      cases rejected
    · exact ⟨written.growth.torn written.clean,
        written.growth.append _ now written.clean written.committed noResult other, next.growth,
        Meets.pure next.growth next⟩

/-- The rule for the loops over projections. -/
theorem writeProjections_meets (skipUnchanged : Bool) {body : Projection → TaskScript Unit}
    {projections : List Projection} (clean : start.Clean)
    (bodies : ∀ projection, ∃ info, info.result = none ∧
      body projection = writeProjection taskId skipUnchanged info now projection)
    (valid : ∀ projection ∈ projections, validatePayload projection.1 projection.2 = .ok ())
    (others : ∀ projection ∈ projections, projection.1 ≠ .plan) :
    Meets (Script.forEach body projections) start (Growth start)
      (fun _ => Written skipUnchanged start projections) raises := by
  refine Meets.forEach (motive := Written skipUnchanged start) ?_ (fun _ _ w => w.growth)
    (.refl clean) fun _ => id
  intro done projection rest store split written
  obtain ⟨info, noResult, same⟩ := bodies projection
  have member : projection ∈ projections := by simp [split]
  rw [same]
  exact writeProjection_meets written (valid projection member) noResult (others projection member)

end

/-! ## Retiring projections -/

/-- The plan keeps the object: only stages and instances are retired. -/
def Plan.holds (plan : Plan) : ObjectKey → Prop
  | .stage stageId => stageId ∈ plan.stages.map Stage.stageId
  | .agentInstance instanceId => instanceId ∈ plan.instances.map AgentInstance.instanceId
  | _ => True

instance (plan : Plan) (key : ObjectKey) : Decidable (plan.holds key) := by
  unfold Plan.holds
  split <;> infer_instance

theorem mem_listIds {select : ObjectKey → Option Identifier} {store : TaskStore}
    {toKey : Identifier → ObjectKey} (inverse : ∀ key objectId,
      select key = some objectId ↔ key = toKey objectId) {objectId : Identifier} :
    objectId ∈ listIds select store ↔ (store.lookup (toKey objectId)).isSome := by
  rw [listIds, List.mem_insertionSort, List.mem_filterMap, Store.lookup, AList.lookup_isSome,
    AList.mem_keys]
  constructor
  · rintro ⟨key, member, found⟩
    rwa [← (inverse key objectId).mp found]
  · exact fun member => ⟨toKey objectId, member, (inverse _ _).mpr rfl⟩

theorem mem_listIds_stage {store : TaskStore} {stageId : Identifier} :
    stageId ∈ listIds ObjectKey.stageId? store ↔ (store.lookup (.stage stageId)).isSome :=
  mem_listIds fun key _ => by cases key <;> simp [ObjectKey.stageId?]

theorem mem_listIds_instance {store : TaskStore} {instanceId : Identifier} :
    instanceId ∈ listIds ObjectKey.instanceId? store ↔
      (store.lookup (.agentInstance instanceId)).isSome :=
  mem_listIds fun key _ => by cases key <;> simp [ObjectKey.instanceId?]

section

variable {start store : TaskStore} {raises : Raised → TaskStore → Prop}

/-- What a loop over the listed ids has removed. -/
structure Retired (toKey : Identifier → ObjectKey) (active : List Identifier)
    (start : TaskStore) (done : List Identifier) (store : TaskStore) : Prop where
  journal : store.journal = start.journal
  side : store.side = start.side
  lookup : ∀ key, store.lookup key =
    if ∃ objectId ∈ done, objectId ∉ active ∧ key = toKey objectId then none
    else start.lookup key

theorem retireFrom_meets (toKey : Identifier → ObjectKey) {active listed : List Identifier} :
    Meets (retireFrom toKey active listed) start (fun next => ∃ done,
      Retired toKey active start done next) (fun _ => Retired toKey active start listed)
      raises := by
  refine Meets.forEach (motive := Retired toKey active start) ?_ (fun done _ => fun r => ⟨done, r⟩)
    ⟨rfl, rfl, by simp⟩ fun _ => id
  intro done objectId rest next split retired
  by_cases kept : objectId ∈ active
  · rw [if_pos kept]
    have same : Retired toKey active start (done ++ [objectId]) next := by
      refine ⟨retired.journal, retired.side, fun key => ?_⟩
      rw [retired.lookup]
      simp [or_and_right, exists_or, kept]
    exact Meets.pure ⟨done, retired⟩ same
  · rw [if_neg kept]
    have removed : Retired toKey active start (done ++ [objectId])
        (Disk.apply next (.unlink (toKey objectId))) := by
      refine ⟨retired.journal, retired.side, fun key => ?_⟩
      change (next.unlink (toKey objectId)).lookup key = _
      by_cases same : key = toKey objectId
      · subst same
        rw [Store.lookup_unlink_self, if_pos ⟨objectId, by simp, kept, rfl⟩]
      · rw [Store.lookup_unlink_of_ne same, retired.lookup]
        simp [or_and_right, exists_or, same]
    exact Meets.write ⟨done, retired⟩ ⟨done, retired⟩ ⟨_, removed⟩ removed

/-- A store from which only snapshots were removed. -/
structure Trimmed (start store : TaskStore) : Prop where
  journal : store.journal = start.journal
  side : store.side = start.side
  lookup : ∀ key, store.lookup key = none ∨ store.lookup key = start.lookup key

theorem Retired.trimmed {toKey : Identifier → ObjectKey} {active done : List Identifier}
    (retired : Retired toKey active start done store) : Trimmed start store := by
  refine ⟨retired.journal, retired.side, fun key => ?_⟩
  rw [retired.lookup]
  split
  · exact .inl rfl
  · exact .inr rfl

theorem Trimmed.trans {next : TaskStore} (first : Trimmed start store)
    (second : Trimmed store next) : Trimmed start next := by
  refine ⟨second.journal.trans first.journal, second.side.trans first.side, fun key => ?_⟩
  rcases second.lookup key with none | same
  · exact .inl none
  · rw [same]
    exact first.lookup key

theorem Trimmed.committed (trimmed : Trimmed start store) (committed : start.Committed) :
    store.Committed := by
  intro key snapshot found
  rcases trimmed.lookup key with none | same
  · rw [none] at found
    cases found
  · rw [same] at found
    rw [Store.events, trimmed.journal]
    exact committed key snapshot found

theorem Trimmed.growth (trimmed : Trimmed start store) (readable : start.Readable) :
    Growth start store where
  readable := by rwa [Store.Readable, trimmed.journal]
  side := trimmed.side
  events := ⟨[], by rw [Store.events, trimmed.journal, List.append_nil, Store.events], by simp⟩
  behind behind := by
    intro key snapshot found
    rcases trimmed.lookup key with none | same
    · rw [none] at found
      cases found
    · rw [same] at found
      rw [Store.events, trimmed.journal]
      exact behind key snapshot found
  sequenced _ sequenced := sequenced.of_events (by rw [Store.events, trimmed.journal, Store.events])
  recorded recorded := recorded.of_events (by rw [Store.events, trimmed.journal, Store.events])

/-- One object of a retired kind: what is not held is removed if it was there. -/
theorem retired_eq {α : Type} {toKey : Identifier → ObjectKey} {active listed : List Identifier}
    {objectId : Identifier} {found : Option α}
    (injective : ∀ other, toKey objectId = toKey other ↔ objectId = other)
    (present : objectId ∈ listed ↔ found.isSome = true) :
    (if ∃ other ∈ listed, other ∉ active ∧ toKey objectId = toKey other then none else found) =
      if objectId ∈ active then found else none := by
  by_cases held : objectId ∈ active
  · rw [if_pos held, if_neg]
    rintro ⟨other, -, inactive, same⟩
    exact inactive ((injective other).mp same ▸ held)
  · rw [if_neg held]
    cases found with
    | none => exact ite_self none
    | some value => exact if_pos ⟨objectId, present.mpr rfl, held, rfl⟩

/-- Retiring removes exactly the stages and instances that the plan does not hold. -/
theorem retirePlanProjections_meets {plan : Plan} :
    Meets (retirePlanProjections plan) start (Trimmed start)
      (fun _ next => Trimmed start next ∧
        ∀ key, next.lookup key = if plan.holds key then start.lookup key else none) raises := by
  have here : Trimmed start start := ⟨rfl, rfl, fun _ => .inr rfl⟩
  refine Meets.bind (Meets.read here (Meets.bind ((retireFrom_meets .stage).mono
    (fun _ ⟨_, retired⟩ => retired.trimmed) ?_ fun _ _ => id)))
  rintro - middle stages
  refine Meets.bind (Meets.read stages.trimmed ((retireFrom_meets .agentInstance).mono
    (fun _ ⟨_, retired⟩ => stages.trimmed.trans retired.trimmed) ?_ fun _ _ => id))
  rintro - final instances
  refine ⟨stages.trimmed.trans instances.trimmed, fun key => ?_⟩
  rw [instances.lookup]
  cases key with
  | stage stageId =>
      rw [if_neg (by simp), stages.lookup]
      exact retired_eq (by simp) mem_listIds_stage
  | agentInstance instanceId =>
      have same : middle.lookup (.agentInstance instanceId) =
          start.lookup (.agentInstance instanceId) := by
        rw [stages.lookup, if_neg (by simp)]
      have listed : instanceId ∈ listIds ObjectKey.instanceId? middle ↔ _ := mem_listIds_instance
      rw [same] at listed ⊢
      exact retired_eq (by simp) listed
  | _ => simp [stages.lookup, Plan.holds]

end

/-! ## The projections of a plan -/

/-- No two stages and no two instances of the plan share an id. -/
def Plan.Distinct (plan : Plan) : Prop :=
  (plan.stages.map Stage.stageId).Nodup ∧ (plan.instances.map AgentInstance.instanceId).Nodup

theorem PlanValid.distinct {plan : Plan} (valid : PlanValid plan) : plan.Distinct :=
  ⟨valid.stageIdsDistinct, valid.instanceIdsDistinct⟩

section

variable {plan : Plan} {key : ObjectKey} {payload other : Payload key}

theorem Plan.mem_projections {projection : Projection} :
    projection ∈ plan.projections ↔ projection = ⟨.task, plan.task⟩ ∨
      (∃ stage ∈ plan.stages, projection = stage.projection) ∨
      ∃ item ∈ plan.instances, projection = item.projection := by
  simp only [Plan.projections, List.mem_cons, List.mem_append, List.mem_map]
  simp only [eq_comm (b := projection)]

theorem Plan.projections_ne_plan {projection : Projection}
    (member : projection ∈ plan.projections) : projection.1 ≠ .plan := by
  rcases Plan.mem_projections.mp member with rfl | ⟨stage, -, rfl⟩ | ⟨item, -, rfl⟩ <;> nofun

/-- The contract of a plan covers its projections. -/
theorem Plan.projections_valid (accepted : plan.accepted = true) {projection : Projection}
    (member : projection ∈ plan.projections) :
    validatePayload projection.1 projection.2 = .ok () := by
  simp only [Plan.accepted, Bool.and_eq_true, List.all_eq_true] at accepted
  obtain ⟨⟨⟨⟨⟨⟨task, -⟩, stages⟩, -⟩, instances⟩, -⟩, -⟩ := accepted
  rcases Plan.mem_projections.mp member with rfl | ⟨stage, stored, rfl⟩ | ⟨item, stored, rfl⟩
  · exact validateContract_eq_ok.mpr task
  · exact validateContract_eq_ok.mpr (stages stage stored)
  · exact validateContract_eq_ok.mpr (instances item stored)

theorem Plan.holds_of_mem (member : ⟨key, payload⟩ ∈ plan.projections) : plan.holds key := by
  rcases Plan.mem_projections.mp member with h | ⟨stage, stored, h⟩ | ⟨item, stored, h⟩
  · cases h
    trivial
  · cases h
    exact List.mem_map_of_mem stored
  · cases h
    exact List.mem_map_of_mem stored

/-- The projections of one object are the same. -/
theorem Plan.Distinct.unique (distinct : plan.Distinct)
    (first : ⟨key, payload⟩ ∈ plan.projections) (second : ⟨key, other⟩ ∈ plan.projections) :
    other = payload := by
  rcases Plan.mem_projections.mp first with h | ⟨stage, stored, h⟩ | ⟨item, stored, h⟩
  · cases h
    rcases Plan.mem_projections.mp second with h | ⟨_, _, h⟩ | ⟨_, _, h⟩ <;> cases h
    rfl
  · cases h
    rcases Plan.mem_projections.mp second with h | ⟨stage', stored', h⟩ | ⟨_, _, h⟩
    · cases h
    · have ids : stage.stageId = stage'.stageId := by simpa [Stage.projection] using congrArg Sigma.fst h
      obtain rfl := List.inj_on_of_nodup_map distinct.1 stored stored' ids
      cases h
      rfl
    · cases h
  · cases h
    rcases Plan.mem_projections.mp second with h | ⟨_, _, h⟩ | ⟨item', stored', h⟩
    · cases h
    · cases h
    · have ids : item.instanceId = item'.instanceId := by
        simpa [AgentInstance.projection] using congrArg Sigma.fst h
      obtain rfl := List.inj_on_of_nodup_map distinct.2 stored stored' ids
      cases h
      rfl

end

/-- The task, the stages and the instances are those of the plan. -/
structure AgreesWith (store : TaskStore) (plan : Plan) : Prop where
  projected : ∀ key payload, ⟨key, payload⟩ ∈ plan.projections → store.payload key = some payload
  retired : ∀ key, ¬plan.holds key → store.lookup key = none

/-- The task, the stages and the instances are those of the stored plan. -/
def TaskStore.Agrees (store : TaskStore) : Prop :=
  ∀ plan, store.payload .plan = some plan → AgreesWith store plan

/-- What reconciling the projections of a plan reaches. -/
structure Reconciled (start : TaskStore) (plan : Plan) (store : TaskStore) : Prop where
  clean : store.Clean
  growth : Growth start store
  committed : start.Committed → store.Committed
  sourced : store.lookup .plan = start.lookup .plan
  kept : ∀ key, plan.holds key → ¬Touches true start plan.projections key →
    store.lookup key = start.lookup key ∧
      lastSnapshot key store.events = lastSnapshot key start.events
  moved : ∀ key, Touches true start plan.projections key →
    store.lookup key = lastSnapshot key store.events ∧ (store.lookup key).isSome
  retired : ∀ key, ¬plan.holds key → store.lookup key = none ∧
    lastSnapshot key store.events = lastSnapshot key start.events
  agrees : plan.Distinct → AgreesWith store plan

section

variable {taskId : Identifier} {start middle store : TaskStore} {now : Timestamp}
  {raises : Raised → TaskStore → Prop}

theorem Touches.holds {skipUnchanged : Bool} {plan : Plan} {key : ObjectKey}
    (touched : Touches skipUnchanged start plan.projections key) : plan.holds key :=
  Plan.holds_of_mem touched.choose_spec.1

/-- Once written and retired, the projections are those of the plan. -/
theorem Written.agrees {skipUnchanged : Bool} {plan : Plan}
    (written : Written skipUnchanged start plan.projections middle)
    (lookup : ∀ key, store.lookup key = if plan.holds key then middle.lookup key else none)
    (distinct : plan.Distinct) : AgreesWith store plan where
  projected key payload member := by
    rw [Store.payload, lookup, if_pos (Plan.holds_of_mem member)]
    exact written.finished key payload member fun other => distinct.unique member
  retired key absent := by rw [lookup, if_neg absent]

theorem Written.reconciled {plan : Plan} (written : Written true start plan.projections middle)
    (trimmed : Trimmed middle store)
    (lookup : ∀ key, store.lookup key = if plan.holds key then middle.lookup key else none) :
    Reconciled start plan store where
  clean := by
    have clean := written.clean
    rwa [Store.Clean, ← trimmed.journal] at clean
  growth := written.growth.trans (trimmed.growth written.clean.readable) written.committed
  committed start := trimmed.committed (written.committed start)
  sourced := by
    rw [lookup, if_pos (show plan.holds .plan from trivial)]
    exact (written.kept .plan fun ⟨_, member, _⟩ => Plan.projections_ne_plan member rfl).1
  kept key held untouched := by
    rw [lookup, if_pos held, Store.events, trimmed.journal]
    exact written.kept key untouched
  moved key touched := by
    rw [lookup, if_pos touched.holds, Store.events, trimmed.journal]
    exact written.moved key touched
  retired key absent := by
    rw [lookup, if_neg absent, Store.events, trimmed.journal]
    exact ⟨rfl, (written.kept key fun touched => absent touched.holds).2⟩
  agrees := written.agrees lookup

/-- Reconciling a plan that passed its contract never raises. -/
theorem reconcilePlanProjections_meets {wrapper : Wrapper Plan} (clean : start.Clean)
    (stored : start.lookup .plan = some wrapper) (accepted : wrapper.payload.accepted = true) :
    Meets (reconcilePlanProjections taskId now) start (Growth start)
      (fun _ => Reconciled start wrapper.payload) raises := by
  refine Meets.bind (Meets.read (.refl clean) ?_)
  rw [stored]
  refine Meets.bind ((writeProjections_meets true clean
    (fun projection => ⟨_, rfl, rfl⟩) (fun _ => Plan.projections_valid accepted)
    fun _ => Plan.projections_ne_plan).mono (fun _ => id) (fun _ middle written => ?_) fun _ _ => id)
  refine retirePlanProjections_meets.mono (fun next trimmed => ?_) (fun _ next trimmed => ?_)
    fun _ _ => id
  · exact written.growth.trans (trimmed.growth written.clean.readable) written.committed
  · exact written.reconciled trimmed.1 trimmed.2

end

end DesignHarness
