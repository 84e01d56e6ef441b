import DesignHarness.Storage.Projections

/-!
# Rules for command results and the recovery

The results in the journal are found again through their idempotency keys, and the startup copies
them into the registry; that fails exactly where two of them contradict each other
(`ResultsAgree`, `RegistryAgrees`).  `recover_meets` is the whole recovery.
-/

namespace DesignHarness

open Library

abbrev Registry := AList fun _ : String => IdempotencyRecord

/-- The event carries a result under the idempotency key. -/
def Carries (event : TaskEvent) (key : String) (result : CommittedResult) : Prop :=
  event.info.idempotencyKey = key ∧ event.info.result = some result

/-- No two results under one key are of different requests. -/
def ResultsAgree (events : List TaskEvent) : Prop :=
  ∀ first ∈ events, ∀ second ∈ events, ∀ key result other, Carries first key result →
    Carries second key other → result.digest = other.digest

/-- The registry has no record of a different request under the key of a result. -/
def RegistryAgrees (registry : Registry) (events : List TaskEvent) : Prop :=
  ∀ event ∈ events, ∀ key result record, Carries event key result →
    registry.lookup key = some record → record.digest = result.digest

/-- The record that the registry makes of an event. -/
def recordOf (key : String) (event : TaskEvent) : Option IdempotencyRecord :=
  if event.info.idempotencyKey = key then
    event.info.result.map fun result => ⟨event.info.command, result.digest, result.value⟩
  else
    none

/-- The record of the first result under the key. -/
def firstRecord (key : String) (events : List TaskEvent) : Option IdempotencyRecord :=
  events.findSome? (recordOf key)

section

variable {taskId : Identifier} {key command : String} {digest : Request}
  {events more : List TaskEvent} {event : TaskEvent} {committed found : Option ServiceResult}

theorem recordOf_eq_some {record : IdempotencyRecord} :
    recordOf key event = some record ↔ ∃ result, Carries event key result ∧
      record = ⟨event.info.command, result.digest, result.value⟩ := by
  unfold recordOf Carries
  split
  · rename_i same
    simp [same, eq_comm]
  · rename_i different
    simp [different]

theorem recordOf_eq_none : recordOf key event = none ↔ ∀ result, ¬Carries event key result := by
  unfold recordOf Carries
  split
  · rename_i same
    cases event.info.result <;> simp [same]
  · rename_i different
    simp [different]

theorem firstRecord_append : firstRecord key (events ++ [event]) =
    (firstRecord key events).or (recordOf key event) := by
  rw [firstRecord, List.findSome?_append, List.findSome?_singleton]
  rfl

theorem carries_of_firstRecord {record : IdempotencyRecord}
    (found : firstRecord key events = some record) :
    ∃ event ∈ events, ∃ result, Carries event key result ∧
      record = ⟨event.info.command, result.digest, result.value⟩ := by
  obtain ⟨event, member, recorded⟩ := List.exists_of_findSome?_eq_some found
  exact ⟨event, member, recordOf_eq_some.mp recorded⟩

theorem firstRecord_eq_none :
    firstRecord key events = none ↔ ∀ event ∈ events, ∀ result, ¬Carries event key result := by
  rw [firstRecord, List.findSome?_eq_none_iff]
  simp only [recordOf_eq_none]

theorem carries_of_mem_append {other : String} {result : CommittedResult}
    (silent : ∀ event ∈ more, event.info.result = none) (member : event ∈ events ++ more)
    (carries : Carries event other result) : event ∈ events := by
  rcases List.mem_append.mp member with before | later
  · exact before
  · rw [Carries, silent event later] at carries
    cases carries.2

/-- A result contradicts nothing when the earlier ones under its key are of its request. -/
theorem ResultsAgree.append_result (agree : ResultsAgree events)
    (same : ∀ result, event.info.result = some result → ∀ other ∈ events, ∀ earlier,
      Carries other event.info.idempotencyKey earlier → earlier.digest = result.digest) :
    ResultsAgree (events ++ [event]) := by
  intro first member second member' key result other carries carries'
  rcases List.mem_append.mp member with before | last
  · rcases List.mem_append.mp member' with before' | last'
    · exact agree first before second before' key result other carries carries'
    · obtain rfl := List.mem_singleton.mp last'
      obtain ⟨rfl, carried⟩ := carries'
      exact same other carried first before result carries
  · obtain rfl := List.mem_singleton.mp last
    obtain ⟨rfl, carried⟩ := carries
    rcases List.mem_append.mp member' with before' | last'
    · exact (same result carried second before' other carries').symm
    · obtain rfl := List.mem_singleton.mp last'
      rw [carries'.2] at carried
      rw [Option.some.inj carried]

theorem committedResult_append : committedResult taskId key command digest (events ++ more)
    committed = (committedResult taskId key command digest events committed >>=
      committedResult taskId key command digest more) := by
  induction events generalizing committed with
  | nil => rfl
  | cons event rest ih =>
      simp only [List.cons_append, committedResult]
      split
      · exact ih
      · split
        · exact ih
        · split
          · rfl
          · exact ih

theorem committedResult_of_silent
    (silent : ∀ event ∈ events, ∀ result, ¬Carries event key result) :
    committedResult taskId key command digest events committed = .ok committed := by
  induction events with
  | nil => rfl
  | cons event rest ih =>
      have head := silent event List.mem_cons_self
      rw [committedResult]
      split
      · exact ih fun other member => silent other (List.mem_cons_of_mem _ member)
      · rename_i result carried
        rw [if_pos fun same => head result ⟨same, carried⟩]
        exact ih fun other member => silent other (List.mem_cons_of_mem _ member)

/-- A lookup that does not raise found only results of the same request. -/
theorem committedResult_eq_ok
    (returned : committedResult taskId key command digest events committed = .ok found) :
    (∀ event ∈ events, ∀ result, Carries event key result →
      event.info.command = command ∧ result.digest = digest) ∧
    (found = committed ∧ (∀ event ∈ events, ∀ result, ¬Carries event key result) ∨
      ∃ event ∈ events, ∃ result, Carries event key result ∧ found = some result.value) := by
  induction events generalizing committed with
  | nil =>
      cases returned
      exact ⟨by simp, .inl ⟨rfl, by simp⟩⟩
  | cons event rest ih =>
      rw [committedResult] at returned
      simp only [List.forall_mem_cons, List.exists_mem_cons_iff]
      split at returned
      · rename_i absent
        have head : ∀ result, ¬Carries event key result := by
          rintro result ⟨-, carried⟩
          rw [absent] at carried
          cases carried
        obtain ⟨same, kept | later⟩ := ih returned
        · exact ⟨⟨fun result carries => absurd carries (head result), same⟩,
            .inl ⟨kept.1, head, kept.2⟩⟩
        · exact ⟨⟨fun result carries => absurd carries (head result), same⟩, .inr (.inr later)⟩
      · rename_i result carried
        split at returned
        · rename_i different
          have head : ∀ result, ¬Carries event key result := fun _ carries => different carries.1
          obtain ⟨same, kept | later⟩ := ih returned
          · exact ⟨⟨fun result carries => absurd carries (head result), same⟩,
              .inl ⟨kept.1, head, kept.2⟩⟩
          · exact ⟨⟨fun result carries => absurd carries (head result), same⟩, .inr (.inr later)⟩
        · rename_i sameKey
          split at returned
          · cases returned
          · rename_i matched
            rw [not_or, not_not, not_not] at matched
            obtain ⟨same, kept | later⟩ := ih returned
            · refine ⟨⟨?_, same⟩, .inr (.inl ⟨result, ⟨not_not.mp sameKey, carried⟩, kept.1⟩)⟩
              rintro other ⟨-, carried'⟩
              rw [carried] at carried'
              cases carried'
              exact matched
            · refine ⟨⟨?_, same⟩, .inr (.inr later)⟩
              rintro other ⟨-, carried'⟩
              rw [carried] at carried'
              cases carried'
              exact matched

/-- The lookup after a commit finds its result. -/
theorem committedResult_append_carried {result : CommittedResult}
    (silent : ∀ event ∈ events, ∀ result, ¬Carries event key result)
    (carries : Carries event key result) (sameCommand : event.info.command = command)
    (sameDigest : result.digest = digest) :
    committedResult taskId key command digest (events ++ [event]) none =
      .ok (some result.value) := by
  rw [committedResult_append, committedResult_of_silent silent, ok_bind]
  simp [committedResult, carries.1, carries.2, sameCommand, sameDigest]

end

section

variable {taskId : Identifier} {key command : String} {digest : Request}
  {start store : TaskStore} {condition : TaskStore → Prop}

/-- Looking a result up reads the journal and changes nothing in it. -/
theorem lookupCommitted_meets {returns : Option ServiceResult → TaskStore → Prop}
    {raises : Raised → TaskStore → Prop} (readable : store.Readable) (before : condition store)
    (truncated : condition store.truncate)
    (returned : ∀ found, committedResult taskId key command digest store.events none = .ok found →
      returns found store.truncate)
    (raised : ∀ error, committedResult taskId key command digest store.events none =
      .error error → raises error store.truncate) :
    Meets (lookupCommitted taskId key command digest) store condition returns raises :=
  Meets.bind (recoverRecords_meets readable before truncated
    (Meets.lift truncated returned raised))

/-! ## The registry -/

/-- The store with another registry. -/
def withRegistry (store : TaskStore) (registry : Registry) : TaskStore :=
  store.withSide { store.side with registry := registry }

/-- The registry after the results of a list of events were copied to it. -/
structure Materialized (start : TaskStore) (done : List TaskEvent) (store : TaskStore) : Prop where
  shape : store = withRegistry start store.side.registry
  registry : ∀ key, store.side.registry.lookup key =
    (start.side.registry.lookup key).or (firstRecord key done)
  agrees : ∀ event ∈ done, ∀ key result, Carries event key result →
    ∃ record, store.side.registry.lookup key = some record ∧ record.digest = result.digest

theorem Materialized.skip {done : List TaskEvent} {event : TaskEvent}
    (materialized : Materialized start done store)
    (known : ∀ key result, Carries event key result →
      ∃ record, store.side.registry.lookup key = some record ∧ record.digest = result.digest) :
    Materialized start (done ++ [event]) store := by
  refine ⟨materialized.shape, fun key => ?_, fun other member key result carries => ?_⟩
  rotate_left
  · rcases List.mem_append.mp member with before | last
    · exact materialized.agrees other before key result carries
    · obtain rfl := List.mem_singleton.mp last
      exact known key result carries
  have here := materialized.registry key
  rw [firstRecord_append, ← Option.or_assoc, ← here]
  cases recorded : recordOf key event with
  | none => rw [Option.or_none]
  | some record =>
      obtain ⟨result, carries, -⟩ := recordOf_eq_some.mp recorded
      obtain ⟨found, present, -⟩ := known key result carries
      rw [present]
      rfl

theorem Materialized.insert {done : List TaskEvent} {event : TaskEvent} {result : CommittedResult}
    (materialized : Materialized start done store) (carries : Carries event key result)
    (absent : store.side.registry.lookup key = none) :
    Materialized start (done ++ [event]) (withRegistry store (store.side.registry.insert key
      ⟨event.info.command, result.digest, result.value⟩)) := by
  refine ⟨?_, fun other => ?_, fun other member name value carries' => ?_⟩
  · conv_lhs => rw [materialized.shape]
    rfl
  rotate_left
  · change ∃ record, AList.lookup name (AList.insert key _ store.side.registry) = some record ∧ _
    rcases List.mem_append.mp member with before | last
    · obtain ⟨record, found, same⟩ := materialized.agrees other before name value carries'
      have different : name ≠ key := by
        rintro rfl
        rw [absent] at found
        cases found
      exact ⟨record, by rw [AList.lookup_insert_ne different, found], same⟩
    · obtain rfl := List.mem_singleton.mp last
      obtain rfl : key = name := carries.1.symm.trans carries'.1
      obtain rfl := Option.some.inj (carries.2.symm.trans carries'.2)
      exact ⟨_, AList.lookup_insert _, rfl⟩
  · change AList.lookup other (AList.insert key _ store.side.registry) = _
    rw [firstRecord_append, ← Option.or_assoc, ← materialized.registry other]
    by_cases same : other = key
    · subst same
      rw [AList.lookup_insert, absent, recordOf_eq_some.mpr ⟨result, carries, rfl⟩]
      rfl
    · rw [AList.lookup_insert_ne same, recordOf_eq_none.mpr, Option.or_none]
      exact fun _ other => same (other.1.symm.trans carries.1)

/-- Once all results are copied, no two of them contradict each other. -/
theorem Materialized.agree {events : List TaskEvent} (materialized : Materialized start events store) :
    ResultsAgree events ∧ RegistryAgrees start.side.registry events := by
  constructor
  · intro first member second member' key result other carries carries'
    obtain ⟨record, found, same⟩ := materialized.agrees first member key result carries
    obtain ⟨record', found', same'⟩ := materialized.agrees second member' key other carries'
    obtain rfl := Option.some.inj (found.symm.trans found')
    exact same.symm.trans same'
  · intro event member key result record carries stored
    obtain ⟨copied, found, same⟩ := materialized.agrees event member key result carries
    rw [materialized.registry, stored] at found
    obtain rfl := Option.some.inj found
    exact same

/-- The startup copies the results of the journal, unless two of them contradict each other. -/
theorem recoverIdempotencyResults_meets {events : List TaskEvent} :
    Meets (recoverIdempotencyResults taskId events) start
      (fun next => ∃ done more, events = done ++ more ∧ Materialized start done next)
      (fun _ => Materialized start events)
      (fun _ _ => ¬(ResultsAgree events ∧ RegistryAgrees start.side.registry events)) := by
  refine Meets.forEach (motive := fun done next => (∃ more, events = done ++ more) ∧
    Materialized start done next) ?_ (fun done _ ⟨⟨more, split⟩, m⟩ => ⟨done, more, split, m⟩)
    ⟨⟨events, rfl⟩, rfl, fun key => (Option.or_none).symm, by simp⟩ fun _ h => h.2
  rintro done event rest next split ⟨-, materialized⟩
  have here : ∃ done more, events = done ++ more ∧ Materialized start done next :=
    ⟨done, _, split, materialized⟩
  have nextSplit : ∃ more, events = (done ++ [event]) ++ more := ⟨rest, by simpa using split⟩
  cases carried : event.info.result with
  | none =>
      refine Meets.pure here ⟨nextSplit, materialized.skip fun key result carries => ?_⟩
      rw [Carries, carried] at carries
      cases carries.2
  | some result =>
      have carries : Carries event event.info.idempotencyKey result := ⟨rfl, carried⟩
      refine Meets.bind (Meets.bind (Meets.read here ?_))
      cases found : next.side.registry.lookup event.info.idempotencyKey with
      | none =>
          have inserted := materialized.insert carries found
          exact Meets.bind (Meets.write here here ⟨_, _, nextSplit.choose_spec, inserted⟩
            (Meets.pure ⟨_, _, nextSplit.choose_spec, inserted⟩
              (Meets.pure ⟨_, _, nextSplit.choose_spec, inserted⟩ ⟨nextSplit, inserted⟩)))
      | some record =>
          refine Meets.bind (Meets.lift here (fun _ same => ?_) fun error failed => ?_)
          · refine Meets.pure here (Meets.pure here ⟨nextSplit, materialized.skip ?_⟩)
            rintro key other ⟨rfl, carried'⟩
            obtain rfl := Option.some.inj (carried.symm.trans carried')
            exact ⟨record, found, ensure_eq_ok.mp same⟩
          · rintro ⟨agree, registry⟩
            refine (ensure_eq_error.mp failed).1 ?_
            rw [materialized.registry] at found
            have member : event ∈ events := by simp [split]
            cases stored : start.side.registry.lookup event.info.idempotencyKey with
            | some old =>
                rw [stored] at found
                cases found
                exact registry event member _ result _ carries stored
            | none =>
                rw [stored] at found
                obtain ⟨first, before, other, carries', rfl⟩ := carries_of_firstRecord found
                exact agree first (by simp [split, before]) event member _ other result carries'
                  carries

/-! ## The recovery -/

/-- The states of a recovery: events without a result may have been added, and records of the
    journal. -/
structure Recovering (start store : TaskStore) : Prop where
  readable : store.Readable
  behind : store.Behind
  sequenced : start.Sequenced → store.Sequenced
  recorded : start.Recorded → store.Recorded
  events : ∃ more, store.events = start.events ++ more ∧
    ∀ event ∈ more, event.info.result = none ∧ event.key ≠ .plan
  registry : ∀ key record, store.side.registry.lookup key = some record →
    start.side.registry.lookup key = some record ∨
      ∃ event ∈ start.events, ∃ result, Carries event key result ∧
        record = ⟨event.info.command, result.digest, result.value⟩

/-- What a recovery that returns has reached: the rebuilt snapshots, and over them the
    projections of the plan. -/
structure Recovered (start store : TaskStore) : Prop where
  recovering : Recovering start store
  clean : store.Clean
  committed : store.Committed
  registry : ∀ key, store.side.registry.lookup key =
    (start.side.registry.lookup key).or (firstRecord key start.events)
  agree : ResultsAgree start.events ∧ RegistryAgrees start.side.registry start.events
  plan : store.lookup .plan = latest .plan start.events
  rebuilt : ∃ middle : TaskStore, middle.Clean ∧ middle.events = start.events ∧
    (∀ key, middle.lookup key = latest key start.events) ∧
    match latest .plan start.events with
    | none => store = middle
    | some wrapper => Reconciled middle wrapper.payload store

/-- The plan of the journal passed its contract. -/
def PlanAccepted (store : TaskStore) : Prop :=
  ∀ wrapper, latest .plan store.events = some wrapper → Plan.accepted wrapper.payload = true

/-- Before the projections are reconciled, only side files and snapshots have changed. -/
theorem Recovering.of_rebuilt (behind : start.Behind) (readable : store.Readable)
    (events : store.events = start.events)
    (registry : ∀ key record, store.side.registry.lookup key = some record →
      start.side.registry.lookup key = some record ∨ firstRecord key start.events = some record)
    (snapshots : ∀ key, store.lookup key = start.lookup key ∨
      store.lookup key = latest key start.events) : Recovering start store := by
  refine ⟨readable, fun key snapshot found => ?_, fun s => s.of_events events,
    fun r => r.of_events events, ⟨[], by rw [events, List.append_nil], by simp⟩,
    fun key record found => ?_⟩
  · rw [events]
    rcases snapshots key with same | same
    · rw [same] at found
      exact behind key snapshot found
    · rw [same] at found
      exact ⟨snapshot, found, Nat.le_refl _⟩
  · rcases registry key record found with kept | copied
    · exact .inl kept
    · exact .inr (carries_of_firstRecord copied)

/-- The plan of the journal stays the same. -/
theorem Recovering.latest_plan (recovering : Recovering start store) :
    latest .plan store.events = latest .plan start.events := by
  obtain ⟨more, same, silent⟩ := recovering.events
  rw [same]
  exact latest_append_of_silent fun event member => (silent event member).2

theorem Recovering.growth {middle : TaskStore} (recovering : Recovering start middle)
    (events : middle.events = start.events) (committed : middle.Committed)
    (growth : Growth middle store) : Recovering start store where
  readable := growth.readable
  behind := growth.behind committed.behind
  sequenced sequenced := growth.sequenced committed (recovering.sequenced sequenced)
  recorded recorded := growth.recorded (recovering.recorded recorded)
  events := by
    rw [← events]
    exact growth.events
  registry key record found := by
    rw [growth.side] at found
    exact recovering.registry key record found

theorem firstRecord_of_append {events more : List TaskEvent} {record : IdempotencyRecord}
    (found : firstRecord key events = some record) :
    firstRecord key (events ++ more) = some record := by
  rw [firstRecord, List.findSome?_append]
  rw [firstRecord] at found
  rw [found]
  rfl

/-- The recovery of a store whose snapshots are not ahead of its journal returns, unless two
    results contradict each other. -/
theorem recover_meets (taskId : Identifier) (now : Timestamp) (readable : start.Readable) (behind : start.Behind)
    (accepted : PlanAccepted start) :
    Meets (recover taskId now) start (Recovering start) (fun _ => Recovered start)
      (fun _ _ => ¬(ResultsAgree start.events ∧
        RegistryAgrees start.side.registry start.events)) := by
  have truncated : Recovering start start.truncate :=
    .of_rebuilt behind Store.clean_truncate.readable rfl (fun _ _ => .inl) fun _ => .inl rfl
  refine Meets.bind (recoverRecords_meets readable
    (.of_rebuilt behind readable rfl (fun _ _ => .inl) fun _ => .inl rfl) truncated ?_)
  refine Meets.bind (recoverIdempotencyResults_meets.mono ?_ ?_ fun _ _ => id)
  · rintro next ⟨done, more, split, materialized⟩
    rw [materialized.shape]
    refine .of_rebuilt behind truncated.readable rfl (fun key record found => ?_) fun _ => .inl rfl
    have copied := (materialized.registry key).symm.trans found
    change (start.side.registry.lookup key).or (firstRecord key done) = some record at copied
    cases stored : start.side.registry.lookup key with
    | some old =>
        rw [stored] at copied
        exact .inl copied
    | none =>
        rw [stored] at copied
        rw [split]
        exact .inr (firstRecord_of_append copied)
  rintro - copied materialized
  have registry : ∀ key, copied.side.registry.lookup key =
      (start.side.registry.lookup key).or (firstRecord key start.events) := materialized.registry
  have clean : copied.Clean := by
    rw [materialized.shape]
    exact Store.clean_truncate
  have events : copied.events = start.events := by
    rw [materialized.shape]
    rfl
  have lookups : ∀ key, copied.lookup key = start.lookup key := by
    intro key
    rw [materialized.shape]
    rfl
  have fromStart : ∀ next : TaskStore, next.journal = copied.journal → next.side = copied.side →
      (∀ key, next.lookup key = copied.lookup key ∨
        next.lookup key = latest key copied.events) → Recovering start next := by
    intro next journal side snapshots
    refine .of_rebuilt behind ?_ ?_ (fun key record found => ?_) fun key => ?_
    · rw [Store.Readable, journal]
      exact clean.readable
    · rw [Store.events, journal]
      exact events
    · rw [side, registry] at found
      cases stored : start.side.registry.lookup key with
      | some old =>
          rw [stored] at found
          exact .inl found
      | none =>
          rw [stored] at found
          exact .inr found
    · rw [← lookups, ← events]
      exact snapshots key
  have copiedBehind : copied.Behind := by
    intro key snapshot found
    rw [events]
    exact behind key snapshot (lookups key ▸ found)
  change Meets (do
    recoverObjects (storeErrors taskId) start.events
    reconcilePlanProjections taskId now) _ _ _ _
  rw [← events]
  refine Meets.bind ((recoverObjects_meets copiedBehind).mono (fun next rebuilt => ?_) ?_
    fun _ _ => id)
  · exact fromStart next rebuilt.journal rebuilt.side rebuilt.others
  rintro - middle ⟨journal, side, rebuilt⟩
  have middleEvents : middle.events = start.events := by
    rw [Store.events, journal]
    exact events
  have middleClean : middle.Clean := by rwa [Store.Clean, journal]
  have middleCommitted : middle.Committed := by
    intro key snapshot found
    rw [Store.events, journal]
    exact (rebuilt key).symm.trans found
  have recovering := fromStart middle journal side fun key => .inr (rebuilt key)
  have middleRegistry : ∀ key, middle.side.registry.lookup key =
      (start.side.registry.lookup key).or (firstRecord key start.events) := by
    intro key
    rw [side]
    exact registry key
  rw [events] at rebuilt
  cases planned : latest .plan start.events with
  | none =>
      refine Meets.bind (Meets.read recovering ?_)
      rw [rebuilt, planned]
      refine Meets.pure recovering ⟨recovering, middleClean, middleCommitted, middleRegistry,
        materialized.agree, rebuilt .plan, middle, middleClean, middleEvents, rebuilt, ?_⟩
      rw [planned]
  | some wrapper =>
      have stored := (rebuilt .plan).trans planned
      refine (reconcilePlanProjections_meets middleClean stored (accepted wrapper planned)).mono
        (fun next growth => recovering.growth middleEvents middleCommitted growth)
        (fun _ next reconciled => ?_) fun _ _ => id
      refine ⟨recovering.growth middleEvents middleCommitted reconciled.growth, reconciled.clean,
        reconciled.committed middleCommitted, ?_, materialized.agree,
        reconciled.sourced.trans (rebuilt .plan), middle, middleClean, middleEvents, rebuilt, ?_⟩
      · rw [reconciled.growth.side]
        exact middleRegistry
      · rw [planned]
        exact reconciled

end

end DesignHarness
