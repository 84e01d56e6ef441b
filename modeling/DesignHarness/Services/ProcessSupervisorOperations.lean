import DesignHarness.Services.ProcessSupervisorSteps

/-!
# The operations of the supervisor

Every operation on an instance leaves the claims and the launches of the instance consistent,
however it ends and whatever happens beside it (`SupervisorCall.meets`).
-/

namespace DesignHarness

open Library
open Supervised

section

variable {owner : Identifier → InstanceKey} {mine : InstanceKey → Prop} {alone : Prop}
  {scope : Supervised.Scope} {id : Identifier} {focus : Focus} {state later : Supervised}
  {record : LaunchRecord} {raises : Fault → Supervised → Prop}

/-- The later record of a launch. -/
structure NextRecord (record value : LaunchRecord) : Prop where
  launchId : value.launchId = record.launchId
  rewrites : Rewrites record value
  active : record.state.isActive = true → value.state.isActive = true

theorem NextRecord.refl : NextRecord record record :=
  ⟨rfl, ⟨rfl, rfl, rfl, fun active => active⟩, fun active => active⟩

/-- The focus of a launch that has ended is done. -/
theorem Focus.Done.of_ended {old ended : LaunchRecord} (inactive : ended.state.isActive = false)
    (only : ∀ port, focus.ports port → port = old.port) :
    ((focus.withRecord ended).without old.port).Done where
  ports port claims := absurd (only port claims.2) claims.1
  held record recorded active := by
    obtain rfl := Option.some.inj recorded
    rw [inactive] at active
    cases active

theorem exitLaunch_meets (focus : Focus) {reason : String} (within : scope.Mine owner mine)
    (owned : mine (owner record.launchId)) (known : focus.record = some record)
    (only : ∀ port, focus.ports port → port = record.port)
    (unread : ∀ other ∈ scope.read, other.launchId ≠ record.launchId) :
    (supervising owner mine alone).Meets (At owner scope record.launchId focus)
      (Supervisor.exitLaunch record reason) (fun _ => Consistent owner scope)
      fun _ => Consistent owner scope := by
  let exited : LaunchRecord := { record with state := .exited, exitReason := some reason }
  have rewrites : Rewrites record exited := ⟨rfl, rfl, rfl, fun active => by cases active⟩
  have done : ((focus.withRecord exited).without record.port).Done := .of_ended rfl only
  unfold Supervisor.exitLaunch
  refine Conduct.Meets.bind (terminate_meets within owned) fun _ => ?_
  refine Conduct.Meets.bind (rewrite_meets exited within owned known rewrites)
    fun _ => ?_
  refine Conduct.Meets.bind (release_meets record.port within owned ?_) fun _ => ?_
  · intro current recorded active
    obtain rfl := Option.some.inj recorded
    cases active
  have leave : ∀ state : Supervised, state.At owner scope record.launchId
      ((focus.withRecord exited).without record.port) → state.Consistent owner scope :=
    fun state holds => holds.leave done unread
  refine Conduct.Meets.bind ((writeProcessProjection_harmless.at_meets within owned).mono
    (fun _ holds => holds) (fun _ => leave) fun _ => leave) fun _ => ?_
  exact Conduct.Meets.pure (stable_consistent within) fun _ holds => holds

theorem recordExit_harmless {key : InstanceKey} {launchId : Identifier} {reason : String} :
    Harmless (Supervisor.recordExit key launchId reason) := by
  refine Harmless.bind interruptModelCalls_harmless fun _ => ?_
  refine Harmless.bind requireInstance_harmless fun item => ?_
  cases Supervisor.statusAfterExit item.status with
  | some exit => exact transition_harmless
  | none => exact Harmless.pure

theorem handleUnexpectedExit_meets (focus : Focus) {reason : String}
    (within : scope.Mine owner mine)
    (owned : mine (owner record.launchId)) (known : focus.record = some record)
    (only : ∀ port, focus.ports port → port = record.port)
    (unread : ∀ other ∈ scope.read, other.launchId ≠ record.launchId) :
    (supervising owner mine alone).Meets (At owner scope record.launchId focus)
      (Supervisor.handleUnexpectedExit record reason) (fun _ => Consistent owner scope)
      fun _ => Consistent owner scope := by
  refine Conduct.Meets.bind (exitLaunch_meets focus within owned known only unread) fun _ => ?_
  exact recordExit_harmless (stable_consistent within) fun same holds =>
    ⟨holds.1.same same, holds.2.same same⟩

/-- A read at a launch, and what is learnt by it. -/
theorem read_meets {α : Type} {body : Surroundings → Supervised → Except Fault α}
    {next : α → Focus} (within : scope.Mine owner mine) (owned : mine (owner id))
    (learns : ∀ answer {state : Supervised} value, state.At owner scope id focus →
      body answer state = .ok value → state.At owner scope id (next value)) :
    (supervising owner mine alone).Meets (At owner scope id focus) (Thread.read body)
      (fun value => At owner scope id (next value)) fun _ => At owner scope id focus := by
  refine Conduct.Meets.atomically (stable_at within owned) ?_ ?_ ?_
    (fun _ => stable_at within owned) fun _ => stable_at within owned
  · exact fun _ _ _ => (SameLaunches.mk rfl rfl rfl).promised
  · exact fun answer state value holds returned => learns answer value holds returned
  · exact fun _ _ _ holds _ => holds

/-- A read that raises nothing, at a launch. -/
theorem lookAt_meets {α : Type} {look : Surroundings → Supervised → α}
    (within : scope.Mine owner mine) (owned : mine (owner id)) :
    (supervising owner mine alone).Meets (At owner scope id focus)
      (Thread.read fun answer state => .ok (look answer state))
      (fun _ => At owner scope id focus) raises := by
  intro before holds later between answer
  refine ⟨(SameLaunches.mk rfl rfl rfl).promised, fun final further => ?_⟩
  exact stable_at within owned further (stable_at within owned between holds)

/-- What is known of a launch of an instance that is consistent, from its record. -/
def Focus.of (record : LaunchRecord) : Focus where
  record := some record
  ports port := record.state.isActive = true ∧ port = record.port
  claimed := if record.state.isActive = true then some record.port else none
  places _ := True
  dead := False
  others _ := True

theorem Focus.of_done : (Focus.of record).Done where
  ports port claims := ⟨record, rfl, claims.1, claims.2.symm⟩
  held recorded same active := by
    obtain rfl := Option.some.inj same
    exact if_pos active

theorem Focus.of_withRecord {value : LaunchRecord}
    (active : value.state.isActive = record.state.isActive) (port : value.port = record.port) :
    (Focus.of record).withRecord value = Focus.of value := by
  simp only [Focus.of, Focus.withRecord, active, port]

/-- What is known of a launch without a record. -/
def Focus.absent : Focus where
  record := none
  ports _ := False
  claimed := none
  places _ := False
  dead := False
  others _ := True

/-- The operation turns to a launch with a record. -/
theorem Supervised.Consistent.enter (holds : state.Consistent owner scope)
    (claims : scope.claims id) (held : scope.held id)
    (found : state.launches.lookup id = some record) :
    state.At owner scope id (.of record) where
  sound := holds.1
  agree := holds.2.except
  knows := by
    refine ⟨found, fun {port claim} present same => ?_, fun {port} claimed => ?_,
      fun _ _ => trivial, fun dead => dead.elim, fun _ _ _ => trivial⟩
    · subst same
      obtain ⟨filed, lookup, active, at'⟩ := holds.2.claims present claims
      obtain rfl := Option.some.inj (found.symm.trans lookup)
      exact ⟨active, at'.symm⟩
    · simp only [Focus.of] at claimed
      split at claimed
      · rename_i active
        obtain rfl := Option.some.inj claimed
        exact holds.2.held held found active
      · cases claimed

/-- The operation turns to a launch without a record. -/
theorem Supervised.Consistent.enterAbsent (holds : state.Consistent owner scope)
    (claims : scope.claims id) (missing : state.launches.lookup id = none) :
    state.At owner scope id .absent where
  sound := holds.1
  agree := holds.2.except
  knows := by
    refine ⟨missing, fun {port claim} present same => ?_, fun claimed => (by cases claimed),
      fun {index process} found same => ?_, fun dead => dead.elim, fun _ _ _ => trivial⟩
    · subst same
      obtain ⟨filed, lookup, -⟩ := holds.2.claims present claims
      rw [missing] at lookup
      cases lookup
    · subst same
      obtain ⟨filed, lookup, -⟩ := holds.1.filedProcess (List.mem_of_getElem? found)
      rw [missing] at lookup
      cases lookup

theorem mem_launchRecords (sound : state.Sound owner) :
    record ∈ state.launchRecords ↔ state.launches.lookup record.launchId = some record := by
  simp only [launchRecords, List.mem_mergeSort, List.mem_map]
  constructor
  · rintro ⟨⟨id, filed⟩, member, rfl⟩
    have found : state.launches.lookup id = some filed := AList.mem_lookup_iff.mpr member
    rw [sound.filed found]
    exact found
  · intro found
    exact ⟨⟨record.launchId, record⟩, AList.mem_lookup_iff.mp found, rfl⟩

theorem mem_launchesForInstance {key : InstanceKey} (sound : state.Sound owner) :
    record ∈ state.launchesForInstance key ↔
      state.launches.lookup record.launchId = some record ∧ owner record.launchId = key := by
  simp only [launchesForInstance, List.mem_filter, mem_launchRecords sound, decide_eq_true_eq]
  refine and_congr_right fun found => ?_
  rw [sound.owned found]

theorem activeLaunch_of_some {key : InstanceKey} (sound : state.Sound owner)
    (found : state.activeLaunchForInstance key = some record) :
    state.launches.lookup record.launchId = some record ∧ owner record.launchId = key ∧
      record.state.isActive = true := by
  have member := List.mem_reverse.mp (List.mem_of_find?_eq_some found)
  obtain ⟨lookup, owned⟩ := (mem_launchesForInstance sound).mp member
  exact ⟨lookup, owned, List.find?_some (p := fun item : LaunchRecord => item.state.isActive) found⟩

theorem inactive_of_none {key : InstanceKey} (sound : state.Sound owner)
    (none : state.activeLaunchForInstance key = none)
    (found : state.launches.lookup id = some record) (owned : owner id = key) :
    record.state.isActive = false := by
  obtain rfl := sound.filed found
  have member := (mem_launchesForInstance sound).mpr ⟨found, owned⟩
  have skipped := List.find?_eq_none.mp none record (List.mem_reverse.mpr member)
  simpa using skipped

/-! ## Starting a process -/

theorem hydrateLaunchIdentity_meets (within : scope.Mine owner mine)
    (owned : mine (owner record.launchId)) (known : focus.record = some record) :
    (supervising owner mine alone).Meets (At owner scope record.launchId focus)
      (Supervisor.hydrateLaunchIdentity record)
      (fun value state => NextRecord record value ∧
        state.At owner scope record.launchId (focus.withRecord value)) raises := by
  have same : focus.withRecord record = focus := by rw [Focus.withRecord, ← known]
  have unchanged : ∀ state : Supervised, state.At owner scope record.launchId focus →
      NextRecord record record ∧ state.At owner scope record.launchId (focus.withRecord record) :=
    fun state holds => ⟨.refl, by rw [same]; exact holds⟩
  unfold Supervisor.hydrateLaunchIdentity
  split
  · exact Conduct.Meets.pure (stable_at within owned) unchanged
  · rename_i unadopted
    have prepared : record.state = .prepared := by
      by_contra other
      exact unadopted (.inr other)
    refine Conduct.Meets.bind (lookAt_meets within owned) fun adoptable => ?_
    cases adoptable with
    | none => exact Conduct.Meets.pure (stable_at within owned) unchanged
    | some process =>
        let adopted : LaunchRecord := { record with
          state := .starting, process := some process, child := some process
          startedAt := some record.preparedAt }
        have follows : NextRecord record adopted :=
          ⟨rfl, ⟨rfl, rfl, rfl, fun _ => by rw [prepared]; rfl⟩, fun _ => rfl⟩
        refine Conduct.Meets.bind
          (rewrite_meets adopted within owned known follows.rewrites) fun _ => ?_
        exact Conduct.Meets.pure (stable_at within owned) fun _ holds => ⟨follows, holds⟩

/-- The `except` block: the port is given up once the process has ended. -/
theorem startFailed_meets {old : LaunchRecord} {process : Option Nat}
    {preserveBusinessState : Bool} {fault : Fault} {returns : LaunchRecord → Supervised → Prop}
    (within : scope.Mine owner mine)
    (owned : mine (owner record.launchId)) (known : focus.record = some old)
    (follows : NextRecord old record) (only : ∀ port, focus.ports port → port = record.port)
    (places : ∀ index, focus.places index → process = some index)
    (unread : ∀ other ∈ scope.read, other.launchId ≠ record.launchId) :
    (supervising owner mine alone).Meets (At owner scope record.launchId focus)
      (Supervisor.startFailed record process preserveBusinessState fault) returns
      fun _ => Consistent owner scope := by
  let failed : LaunchRecord := { record with state := .failedToStart }
  have rewrites : Rewrites old failed :=
    ⟨follows.rewrites.key, follows.rewrites.port, follows.rewrites.code,
      fun active => by cases active⟩
  have done : ((focus.ended.without record.port).withRecord failed).Done :=
    ⟨fun port claims => absurd (only port claims.2) claims.1, fun current recorded active => by
      obtain rfl := Option.some.inj recorded
      cases active⟩
  have leave : ∀ state : Supervised, state.At owner scope record.launchId
      ((focus.ended.without record.port).withRecord failed) → state.Consistent owner scope :=
    fun state holds => holds.leave done unread
  have leaves {α : Type} {operation : Supervising α} (quiet : Harmless operation) :
      (supervising owner mine alone).Meets (At owner scope record.launchId
        ((focus.ended.without record.port).withRecord failed)) operation
        (fun _ => At owner scope record.launchId
          ((focus.ended.without record.port).withRecord failed)) fun _ => Consistent owner scope :=
    (quiet.at_meets within owned).mono (fun _ holds => holds) (fun _ _ holds => holds)
      fun _ => leave
  unfold Supervisor.startFailed
  refine Conduct.Meets.bind (terminateLast_meets within owned places) fun _ => ?_
  refine Conduct.Meets.bind (release_meets record.port within owned
    fun _ _ _ => trivial) fun _ => ?_
  refine Conduct.Meets.bind (rewrite_meets failed within owned known rewrites)
    fun _ => ?_
  refine Conduct.Meets.bind (leaves writeProcessProjection_harmless) fun _ => ?_
  refine Conduct.Meets.bind (leaves transition_harmless) fun _ => ?_
  exact Conduct.Meets.raise (stable_at within owned) leave

/-- A part of the `try` block, with what the `except` block relies on when it raises. -/
theorem guarded_meets {α : Type} (focus : Focus) (returned : α → Supervised → Prop)
    {old : LaunchRecord} {process : Option Nat}
    {preserveBusinessState : Bool} {part : Supervising α} {next : α → Supervising LaunchRecord}
    {condition : Supervised → Prop}
    (meets : (supervising owner mine alone).Meets condition part returned
      fun _ => At owner scope record.launchId focus)
    (rest : ∀ value, (supervising owner mine alone).Meets (returned value) (next value)
      (fun _ => Consistent owner scope) fun _ => Consistent owner scope)
    (within : scope.Mine owner mine) (owned : mine (owner record.launchId))
    (known : focus.record = some old) (follows : NextRecord old record)
    (only : ∀ port, focus.ports port → port = record.port)
    (places : ∀ index, focus.places index → process = some index)
    (unread : ∀ other ∈ scope.read, other.launchId ≠ record.launchId) :
    (supervising owner mine alone).Meets condition
      (Supervisor.guarded record process preserveBusinessState part next)
      (fun _ => Consistent owner scope) fun _ => Consistent owner scope := by
  refine Conduct.Meets.bind meets.attempt fun outcome => ?_
  cases outcome with
  | ok value => exact rest value
  | error fault => exact startFailed_meets within owned known follows only places unread

/-- What is known of a launch whose process is not started yet. -/
def Focus.beforeProcess (record : LaunchRecord) : Focus where
  record := some record
  ports := (· = record.port)
  claimed := some record.port
  places _ := False
  dead := False
  others _ := True

theorem Focus.beforeProcess_done (active : record.state.isActive = true) :
    (Focus.beforeProcess record).Done where
  ports port claims := ⟨record, rfl, active, claims.symm⟩
  held recorded same _ := by
    obtain rfl := Option.some.inj same
    rfl

/-- The same, once it is started. -/
def Focus.withProcess (record : LaunchRecord) (process : Nat) : Focus where
  record := some record
  ports := (· = record.port)
  claimed := some record.port
  places := (· = process)
  dead := False
  others _ := True

theorem Focus.withProcess_done {process : Nat} (active : record.state.isActive = true) :
    (Focus.withProcess record process).Done where
  ports port claims := ⟨record, rfl, active, claims.symm⟩
  held recorded same _ := by
    obtain rfl := Option.some.inj same
    rfl

theorem launchProcess_meets (prepared : LaunchRecord) {preserveBusinessState : Bool}
    (within : scope.Mine owner mine) (owned : mine (owner prepared.launchId))
    (active : prepared.state = .prepared)
    (unread : ∀ other ∈ scope.read, other.launchId ≠ prepared.launchId) :
    (supervising owner mine alone).Meets
      (At owner scope prepared.launchId (.beforeProcess prepared))
      (Supervisor.launchProcess prepared preserveBusinessState) (fun _ => Consistent owner scope)
      fun _ => Consistent owner scope := by
  have prepares : prepared.state.isActive = true := by rw [active]; rfl
  unfold Supervisor.launchProcess
  refine guarded_meets (.beforeProcess prepared)
    (fun process => At owner scope prepared.launchId (.withProcess prepared process))
    (spawn_meets within owned rfl rfl fun _ impossible => impossible) (fun process => ?_)
    within owned rfl .refl (fun _ same => same) (fun _ impossible => impossible.elim) unread
  refine guarded_meets (.withProcess prepared process)
    (fun _ => At owner scope prepared.launchId (.withProcess prepared process))
    (Harmless.at_meets Harmless.read within owned) (fun startedAt => ?_)
    within owned rfl .refl (fun _ same => same) (fun _ same => congrArg some same.symm) unread
  let started : LaunchRecord := { prepared with
    state := .starting, process := some process, startedAt := some startedAt }
  have recordsIdentity : (supervising owner mine alone).Meets
      (At owner scope prepared.launchId (.withProcess prepared process))
      (Supervisor.recordIdentity started)
      (fun _ => At owner scope prepared.launchId (.withProcess started process))
      fun _ => At owner scope prepared.launchId (.withProcess started process) := by
    refine Conduct.Meets.bind (rewrite_meets started within owned rfl
      ⟨rfl, rfl, rfl, fun _ => prepares⟩) fun _ => ?_
    refine Conduct.Meets.bind (writeProcessProjection_harmless.at_meets within owned) fun _ => ?_
    exact Harmless.at_meets Harmless.read within owned
  refine guarded_meets _ _ recordsIdentity (fun child => ?_) within owned rfl .refl
    (fun _ same => same) (fun _ same => congrArg some same.symm) unread
  let known : LaunchRecord := { started with child }
  have becomesReady : (supervising owner mine alone).Meets
      (At owner scope prepared.launchId (.withProcess started process))
      (Supervisor.becomeReady known process)
      (fun _ => At owner scope prepared.launchId (.withProcess known process))
      fun _ => At owner scope prepared.launchId (.withProcess known process) := by
    refine Conduct.Meets.bind (rewrite_meets known within owned rfl
      ⟨rfl, rfl, rfl, fun _ => rfl⟩) fun _ => ?_
    exact Harmless.at_meets Harmless.read within owned
  refine guarded_meets _ _ becomesReady (fun _ => ?_) within owned rfl .refl
    (fun _ same => same) (fun _ same => congrArg some same.symm) unread
  let running : LaunchRecord := { known with state := .running }
  have recordsRunning : (supervising owner mine alone).Meets
      (At owner scope prepared.launchId (.withProcess known process))
      (Supervisor.recordRunning running preserveBusinessState)
      (fun _ => At owner scope prepared.launchId (.withProcess running process))
      fun _ => At owner scope prepared.launchId (.withProcess running process) := by
    refine Conduct.Meets.bind (rewrite_meets running within owned rfl
      ⟨rfl, rfl, rfl, fun _ => rfl⟩) fun _ => ?_
    refine Conduct.Meets.bind (writeProcessProjection_harmless.at_meets within owned) fun _ => ?_
    cases preserveBusinessState with
    | true => exact Conduct.Meets.pure (stable_at within owned) fun _ holds => holds
    | false =>
        refine Conduct.Meets.bind (transition_harmless.at_meets within owned) fun _ => ?_
        exact Conduct.Meets.pure (stable_at within owned) fun _ holds => holds
  refine guarded_meets _ _ recordsRunning (fun _ => ?_) within owned rfl .refl
    (fun _ same => same) (fun _ same => congrArg some same.symm) unread
  exact Conduct.Meets.pure (stable_at within owned) fun _ holds =>
    holds.leave (Focus.withProcess_done rfl) unread

end

/-- What an operation on the instance expects and promises. -/
abbrev supervisingOne (owner : Identifier → InstanceKey) (key : InstanceKey) : Conduct Supervised :=
  supervising owner (· = key) False

/-- The operation leaves the instance settled, however it ends. -/
def Settles {α : Type} (owner : Identifier → InstanceKey) (key : InstanceKey)
    (operation : Supervising α) : Prop :=
  (supervisingOne owner key).Meets (Settled owner key) operation (fun _ => Settled owner key)
    fun _ => Settled owner key

section

variable {owner : Identifier → InstanceKey} {key : InstanceKey} {id : Identifier}
  {state : Supervised} {record : LaunchRecord} {α β : Type}

theorem Supervised.Scope.ofInstance_mine : (Supervised.Scope.ofInstance owner key).Mine owner (· = key) :=
  ⟨fun known => known, fun known => known, fun record member => by cases member⟩

theorem stable_settled : (supervisingOne owner key).Stable (Settled owner key) :=
  stable_consistent Supervised.Scope.ofInstance_mine

theorem Supervised.Settled.same {later : Supervised} (settled : state.Settled owner key)
    (same : SameLaunches state later) : later.Settled owner key :=
  ⟨settled.1.same same, settled.2.same same⟩

theorem Harmless.settles {operation : Supervising α} (quiet : Harmless operation) :
    Settles owner key operation :=
  quiet stable_settled fun same settled => settled.same same

theorem Settles.pure {value : α} : Settles owner key (Pure.pure value) := Harmless.pure.settles

theorem Settles.bind {operation : Supervising α} {next : α → Supervising β}
    (first : Settles owner key operation) (rest : ∀ value, Settles owner key (next value)) :
    Settles owner key (operation >>= next) :=
  Conduct.Meets.bind first rest

/-- An operation that begins with a read of the launches. -/
theorem Settles.look (body : Supervised → β) (learns : β → Supervised → Prop)
    {next : β → Supervising α}
    (lasting : ∀ value, (supervisingOne owner key).Stable fun state =>
      state.Settled owner key ∧ learns value state)
    (learnt : ∀ {state : Supervised}, state.Settled owner key → learns (body state) state)
    (rest : ∀ value, (supervisingOne owner key).Meets
      (fun state => state.Settled owner key ∧ learns value state) (next value)
      (fun _ => Settled owner key) fun _ => Settled owner key) :
    Settles owner key (Thread.read (fun _ state => .ok (body state)) >>= next) := by
  have reads : (supervisingOne owner key).Meets (Settled owner key)
      (Thread.read fun _ state => .ok (body state) : Supervising β)
      (fun value state => state.Settled owner key ∧ learns value state)
      fun _ => Settled owner key := by
    intro before holds later between answer
    refine ⟨(SameLaunches.mk rfl rfl rfl).promised, fun final further => ?_⟩
    have settled := stable_settled between holds
    exact lasting _ further ⟨settled, learnt settled⟩
  exact Conduct.Meets.bind reads rest

/-- The record of a launch of the instance, as it was read. -/
theorem stable_found (found : Option LaunchRecord) (owned : owner id = key) :
    (supervisingOne owner key).Stable fun state => state.Settled owner key ∧
      state.launches.lookup id = found :=
  Conduct.Stable.and stable_settled (stable_lookup owned)

theorem Harmless.found_meets {operation : Supervising α} {found : Option LaunchRecord}
    (quiet : Harmless operation) (owned : owner id = key) :
    (supervisingOne owner key).Meets (fun state => state.Settled owner key ∧
        state.launches.lookup id = found) operation
      (fun _ state => state.Settled owner key ∧ state.launches.lookup id = found)
      fun _ => Settled owner key := by
  have meets := quiet (stable_found found owned) fun same holds =>
    ⟨holds.1.same same, by rw [same.launches]; exact holds.2⟩
  exact meets.mono (fun _ holds => holds) (fun _ _ holds => holds) fun _ _ holds => holds.1

/-- What an active launch that was read is. -/
def ActiveIs (owner : Identifier → InstanceKey) (key : InstanceKey) (found : Option LaunchRecord)
    (state : Supervised) : Prop :=
  ∀ record, found = some record → state.launches.lookup record.launchId = some record ∧
    owner record.launchId = key ∧ record.state.isActive = true

theorem stable_activeIs {found : Option LaunchRecord} :
    (supervisingOne owner key).Stable fun state => state.Settled owner key ∧
      ActiveIs owner key found state := by
  rintro state later between ⟨settled, active⟩
  refine ⟨stable_settled between settled, fun record same => ?_⟩
  obtain ⟨lookup, owned, running⟩ := active record same
  exact ⟨stable_lookup owned between lookup, owned, running⟩

theorem activeIs_read (settled : state.Settled owner key) :
    ActiveIs owner key (state.activeLaunchForInstance key) state :=
  fun _ found => activeLaunch_of_some settled.1 found

theorem stopLaunch_meets {reason : String} (owned : owner record.launchId = key) :
    (supervisingOne owner key).Meets (fun state => state.Settled owner key ∧
        state.launches.lookup record.launchId = some record)
      (Supervisor.stopLaunch record reason) (fun _ => Settled owner key)
      fun _ => Settled owner key :=
  (exitLaunch_meets (.of record) Supervised.Scope.ofInstance_mine owned rfl (fun _ at' => at'.2)
    fun _ member => by cases member).strengthen
    fun _ holds => holds.1.enter owned owned holds.2

theorem handleUnexpectedExit_settles {reason : String} (owned : owner record.launchId = key) :
    (supervisingOne owner key).Meets (fun state => state.Settled owner key ∧
        state.launches.lookup record.launchId = some record)
      (Supervisor.handleUnexpectedExit record reason) (fun _ => Settled owner key)
      fun _ => Settled owner key :=
  (handleUnexpectedExit_meets (.of record) Supervised.Scope.ofInstance_mine owned rfl
    (fun _ at' => at'.2) fun _ member => by cases member).strengthen
    fun _ holds => holds.1.enter owned owned holds.2

/-! ### Starting -/

theorem reuseLaunch_settles {request : Supervisor.StartRequest} {codeIdentity : String}
    (owned : owner record.launchId = key) :
    (supervisingOne owner key).Meets (fun state => state.Settled owner key ∧
        state.launches.lookup record.launchId = some record)
      (Supervisor.reuseLaunch record request codeIdentity) (fun _ => Settled owner key)
      fun _ => Settled owner key := by
  have within : (Supervised.Scope.ofInstance owner key).Mine owner (· = key) := Supervised.Scope.ofInstance_mine
  have enters : ∀ state : Supervised, state.Settled owner key ∧
      state.launches.lookup record.launchId = some record →
      state.At owner (.ofInstance owner key) record.launchId (.of record) :=
    fun state holds => holds.1.enter owned owned holds.2
  refine Conduct.Meets.bind (Conduct.Meets.lift (stable_found _ owned) (fun _ _ _ holds => holds)
    fun _ _ _ holds => holds.1) fun _ => ?_
  refine ((hydrateLaunchIdentity_meets within owned rfl).strengthen enters).mono
    (fun _ holds => holds) (fun value later => ?_) fun _ _ never => never
  rintro ⟨follows, holds⟩
  have active : value.state.isActive = record.state.isActive := by
    cases known : record.state.isActive with
    | true => exact follows.active known
    | false =>
        by_contra other
        rw [follows.rewrites.active (Bool.eq_true_of_not_eq_false other)] at known
        cases known
  rw [Focus.of_withRecord active follows.rewrites.port] at holds
  exact holds.leave Focus.of_done fun _ member => by cases member

/-- The focus of a launch without a record, once something is known of the other launches. -/
def Focus.absentAmong (others : LaunchRecord → Prop) : Focus := { Focus.absent with others }

theorem Focus.absentAmong_done {others : LaunchRecord → Prop} : (Focus.absentAmong others).Done :=
  ⟨fun _ impossible => impossible.elim, fun _ missing => by cases missing⟩

/-- Once the record is written, the other launches no longer matter. -/
theorem Supervised.At.beforeProcess {scope : Supervised.Scope} {others : LaunchRecord → Prop}
    (holds : state.At owner scope record.launchId
      (((Focus.absentAmong others).claiming record.port).withRecord record)) :
    state.At owner scope record.launchId (.beforeProcess record) :=
  ⟨holds.sound, holds.agree, holds.knows.record, holds.knows.ports, holds.knows.claimed,
    holds.knows.places, holds.knows.dead, fun _ _ _ => trivial⟩

/-- The other launches of the instance are not active, and run the same code. -/
def Joinable (codeIdentity : String) (other : LaunchRecord) : Prop :=
  other.state.isActive = false ∧ (other.codeIdentity ≠ "" → other.codeIdentity = codeIdentity)

theorem enforceCodeIdentity_ok {codeIdentity : String} (sound : state.Sound owner)
    (passes : (((state.launchesForInstance key).map (·.codeIdentity)).filter (· ≠ "")).all
      (· = codeIdentity) = true)
    (found : state.launches.lookup id = some record) (owned : owner id = key)
    (coded : record.codeIdentity ≠ "") : record.codeIdentity = codeIdentity := by
  obtain rfl := sound.filed found
  have member := (mem_launchesForInstance sound).mpr ⟨found, owned⟩
  have listed : record.codeIdentity ∈
      ((state.launchesForInstance key).map (·.codeIdentity)).filter (· ≠ "") :=
    List.mem_filter.mpr ⟨List.mem_map_of_mem member, decide_eq_true coded⟩
  exact of_decide_eq_true (List.all_eq_true.mp passes _ listed)

/-- A start that finds no active launch knows that the other launches of the instance are not
    active. -/
theorem activeLaunch_meets (owned : owner id = key) :
    (supervisingOne owner key).Meets
      (At owner (.ofInstance owner key) id (.absentAmong fun _ => True))
      (Thread.read fun _ state => .ok (state.activeLaunchForInstance key) :
        Supervising (Option LaunchRecord))
      (fun found => At owner (.ofInstance owner key) id
        (.absentAmong fun other => found = none → other.state.isActive = false))
      fun _ => At owner (.ofInstance owner key) id (.absentAmong fun _ => True) := by
  refine read_meets Supervised.Scope.ofInstance_mine owned fun answer state found holds same => ?_
  obtain rfl := Except.ok.inj same
  refine ⟨holds.sound, holds.agree, { holds.knows with others := ?_ }⟩
  intro other record differs sameKey found none
  exact inactive_of_none holds.sound none found (sameKey.trans owned)

theorem enforceCodeIdentity_meets {codeIdentity : String} {others : LaunchRecord → Prop}
    (owned : owner id = key)
    (inactive : ∀ other, others other → other.state.isActive = false) :
    (supervisingOne owner key).Meets (At owner (.ofInstance owner key) id (.absentAmong others))
      (Supervisor.enforceCodeIdentity key codeIdentity)
      (fun _ => At owner (.ofInstance owner key) id (.absentAmong (Joinable codeIdentity)))
      fun _ => At owner (.ofInstance owner key) id (.absentAmong others) := by
  refine read_meets Supervised.Scope.ofInstance_mine owned fun answer state _ holds passes => ?_
  split at passes
  · rename_i all
    refine ⟨holds.sound, holds.agree, { holds.knows with others := ?_ }⟩
    intro other record differs sameKey found
    exact ⟨inactive record (holds.knows.others differs sameKey found),
      enforceCodeIdentity_ok holds.sound all found (sameKey.trans owned)⟩
  · cases passes

theorem startNew_settles {request : Supervisor.StartRequest} {codeIdentity : String}
    {preserveBusinessState : Bool} (owned : owner request.launchId = request.key) :
    (supervisingOne owner request.key).Meets (fun state => state.Settled owner request.key ∧
        state.launches.lookup request.launchId = none)
      (Supervisor.startNew request codeIdentity preserveBusinessState)
      (fun _ => Settled owner request.key) fun _ => Settled owner request.key := by
  have within : (Supervised.Scope.ofInstance owner request.key).Mine owner (· = request.key) :=
    Supervised.Scope.ofInstance_mine
  have unread : ∀ other ∈ (Supervised.Scope.ofInstance owner request.key).read,
      other.launchId ≠ request.launchId := fun _ member => by cases member
  have leaves {others : LaunchRecord → Prop} : ∀ state : Supervised,
      state.At owner (.ofInstance owner request.key) request.launchId (.absentAmong others) →
      state.Settled owner request.key :=
    fun state holds => holds.leave Focus.absentAmong_done unread
  have quietly {others : LaunchRecord → Prop} {γ : Type} {operation : Supervising γ}
      (quiet : Harmless operation) : (supervisingOne owner request.key).Meets
        (At owner (.ofInstance owner request.key) request.launchId (.absentAmong others))
        operation
        (fun _ => At owner (.ofInstance owner request.key) request.launchId (.absentAmong others))
        fun _ => Settled owner request.key :=
    (quiet.at_meets within owned).mono (fun _ holds => holds) (fun _ _ holds => holds)
      fun _ => leaves
  unfold Supervisor.startNew
  have enters : ∀ state : Supervised, state.Settled owner request.key ∧
      state.launches.lookup request.launchId = none →
      state.At owner (.ofInstance owner request.key) request.launchId
        (.absentAmong fun _ => True) :=
    fun state holds => holds.1.enterAbsent owned holds.2
  have looks := (activeLaunch_meets owned).mono (fun _ holds => holds) (fun _ _ holds => holds)
    fun _ => leaves
  refine Conduct.Meets.bind (looks.strengthen enters) fun active => ?_
  cases active with
  | some active => exact Conduct.Meets.raise (stable_at within owned) leaves
  | none =>
      refine Conduct.Meets.bind (quietly requireInstance_harmless) fun item => ?_
      refine Conduct.Meets.bind (quietly Harmless.read) fun _ => ?_
      refine Conduct.Meets.bind (quietly Harmless.read) fun settings => ?_
      have inactive : ∀ other : LaunchRecord, ((none : Option LaunchRecord) = none →
          other.state.isActive = false) → other.state.isActive = false := fun _ known => known rfl
      refine Conduct.Meets.bind ((enforceCodeIdentity_meets owned inactive).mono
        (fun _ holds => holds) (fun _ _ holds => holds) fun _ => leaves) fun _ => ?_
      have allocates : (supervisingOne owner request.key).Meets
          (At owner (.ofInstance owner request.key) request.launchId
            (.absentAmong (Joinable codeIdentity)))
          (Supervisor.allocate request.key request.launchId settings.portRangeStart
            settings.portRangeEnd)
          (fun port => At owner (.ofInstance owner request.key) request.launchId
            ((Focus.absentAmong (Joinable codeIdentity)).claiming port))
          fun _ => Settled owner request.key := by
        have unclaimed : ∀ port, ¬(Focus.absentAmong (Joinable codeIdentity)).ports port :=
          fun _ impossible => impossible
        have meets : (supervisingOne owner request.key).Meets _ (Supervisor.allocate
            (owner request.launchId) request.launchId settings.portRangeStart
            settings.portRangeEnd) _ _ := allocate_meets within owned unclaimed
        rw [owned] at meets
        exact meets.mono (fun _ holds => holds) (fun _ _ holds => holds) fun _ => leaves
      refine Conduct.Meets.bind allocates fun port => ?_
      refine Conduct.Meets.bind (lookAt_meets within owned) fun now => ?_
      let prepared := Supervisor.preparedRecord request codeIdentity settings port now
      have writes : (supervisingOne owner request.key).Meets
          (At owner (.ofInstance owner request.key) request.launchId
            ((Focus.absentAmong (Joinable codeIdentity)).claiming port))
          (Supervisor.writeLaunch prepared)
          (fun _ => At owner (.ofInstance owner request.key) request.launchId
            (.beforeProcess prepared)) fun _ => Settled owner request.key :=
        (writeNew_meets prepared within owned rfl owned.symm
          fun other joinable => joinable).mono (fun _ holds => holds)
          (fun _ _ holds => holds.beforeProcess) fun _ _ never => never
      refine Conduct.Meets.bind writes fun _ => ?_
      have launches : (supervisingOne owner request.key).Meets
          (At owner (.ofInstance owner request.key) request.launchId (.beforeProcess prepared))
          (Supervisor.launchProcess prepared preserveBusinessState)
          (fun _ => Settled owner request.key) fun _ => Settled owner request.key :=
        launchProcess_meets prepared within owned rfl unread
      cases preserveBusinessState with
      | true => exact launches
      | false =>
          refine Conduct.Meets.bind ((transition_harmless.at_meets within owned).mono
            (fun _ holds => holds) (fun _ _ holds => holds) fun _ _ holds =>
              holds.leave (Focus.beforeProcess_done rfl) unread) fun _ => launches

/-- A read of the record of a launch of the instance, and what follows it. -/
theorem Settles.lookup {next : Option LaunchRecord → Supervising α} (owned : owner id = key)
    (rest : ∀ found, (supervisingOne owner key).Meets
      (fun state => state.Settled owner key ∧ state.launches.lookup id = found) (next found)
      (fun _ => Settled owner key) fun _ => Settled owner key) :
    Settles owner key (Thread.read (fun _ state => .ok (state.launches.lookup id)) >>= next) :=
  Settles.look (fun state => state.launches.lookup id)
    (fun found state => state.launches.lookup id = found) (fun found => stable_found found owned)
    (fun _ => rfl) rest

/-- A read of the active launch of the instance, and what follows it. -/
theorem Settles.active {next : Option LaunchRecord → Supervising α}
    (none : Settles owner key (next none))
    (some : ∀ active, owner active.launchId = key → (supervisingOne owner key).Meets
      (fun state => state.Settled owner key ∧
        state.launches.lookup active.launchId = some active) (next (some active))
      (fun _ => Settled owner key) fun _ => Settled owner key) :
    Settles owner key
      (Thread.read (fun _ state => .ok (state.activeLaunchForInstance key)) >>= next) := by
  refine Settles.look (fun state => state.activeLaunchForInstance key) (ActiveIs owner key)
    (fun _ => stable_activeIs) activeIs_read fun found => ?_
  cases found with
  | none => exact none.strengthen fun _ holds => holds.1
  | some active =>
      intro state holds
      obtain ⟨lookup, owned, -⟩ := holds.2 active rfl
      exact some active owned state ⟨holds.1, lookup⟩

theorem start_settles {request : Supervisor.StartRequest} {codeIdentity : String}
    {preserveBusinessState : Bool} (owned : owner request.launchId = request.key) :
    Settles owner request.key (Supervisor.start request codeIdentity preserveBusinessState) := by
  refine Settles.lookup owned fun found => ?_
  cases found with
  | none => exact startNew_settles owned
  | some existing =>
      intro state holds
      have same : existing.launchId = request.launchId := holds.1.1.filed holds.2
      rw [← same] at holds owned
      exact reuseLaunch_settles owned state holds

theorem startInstance_settles {request : Supervisor.StartRequest}
    (owned : owner request.launchId = request.key) :
    Settles owner request.key (Supervisor.startInstance request) :=
  Settles.bind Harmless.read.settles fun _ => start_settles owned

theorem replaceActive_settles {request : Supervisor.StartRequest} {codeIdentity reason : String}
    {preserveBusinessState : Bool} (owned : owner request.launchId = request.key) :
    Settles owner request.key
      (Supervisor.replaceActive request codeIdentity reason preserveBusinessState) := by
  refine Settles.active (start_settles owned) fun current mine => ?_
  refine Conduct.Meets.bind (interruptModelCalls_harmless.found_meets mine) fun _ => ?_
  exact Conduct.Meets.bind (stopLaunch_meets mine) fun _ => start_settles owned

theorem replaceLaunch_settles {request : Supervisor.StartRequest} {reason : String}
    {preserveBusinessState : Bool} (owned : owner request.launchId = request.key) :
    Settles owner request.key
      (Supervisor.replaceLaunch request reason preserveBusinessState) := by
  refine Settles.bind Harmless.read.settles fun codeIdentity => ?_
  refine Settles.bind Harmless.read.settles fun _ => ?_
  refine Settles.lookup owned fun found => ?_
  cases found with
  | some existing =>
      intro state holds
      have same : existing.launchId = request.launchId := holds.1.1.filed holds.2
      rw [← same] at holds owned
      exact reuseLaunch_settles owned state holds
  | none => exact (replaceActive_settles owned).strengthen fun _ holds => holds.1

theorem restartInstance_settles {request : Supervisor.StartRequest}
    (owned : owner request.launchId = request.key) :
    Settles owner request.key (Supervisor.restartInstance request) :=
  Settles.bind requireInstance_harmless.settles fun _ => replaceLaunch_settles owned

theorem resumeInstance_settles {request : Supervisor.StartRequest}
    (owned : owner request.launchId = request.key) :
    Settles owner request.key (Supervisor.resumeInstance request) := by
  refine Settles.bind requireInstance_harmless.settles fun item => ?_
  split
  · exact replaceLaunch_settles owned
  · exact Harmless.raise.settles

/-! ### Watching and ending -/

/-- A record that is written again, with the same port and as active as it was. -/
theorem writeAgain_meets {value : LaunchRecord} (owned : owner record.launchId = key)
    (follows : NextRecord record value) :
    (supervisingOne owner key).Meets (fun state => state.Settled owner key ∧
        state.launches.lookup record.launchId = some record)
      (Supervisor.writeLaunch value) (fun _ state => state.Settled owner key ∧
        state.launches.lookup value.launchId = some value)
      fun _ => Settled owner key := by
  have within : (Supervised.Scope.ofInstance owner key).Mine owner (· = key) := Supervised.Scope.ofInstance_mine
  have active : value.state.isActive = record.state.isActive := by
    cases known : record.state.isActive with
    | true => exact follows.active known
    | false =>
        by_contra other
        rw [follows.rewrites.active (Bool.eq_true_of_not_eq_false other)] at known
        cases known
  have enters : ∀ state : Supervised, state.Settled owner key ∧
      state.launches.lookup record.launchId = some record →
      state.At owner (.ofInstance owner key) value.launchId (.of record) := by
    rintro state ⟨settled, found⟩
    rw [follows.launchId]
    exact settled.enter owned owned found
  have mine : owner value.launchId = key := by rw [follows.launchId]; exact owned
  refine ((rewrite_meets value within mine rfl follows.rewrites).strengthen enters).mono
    (fun _ holds => holds) (fun _ later holds => ?_) fun _ _ never => never
  rw [Focus.of_withRecord active follows.rewrites.port] at holds
  exact ⟨holds.leave Focus.of_done fun _ member => (by cases member), holds.knows.record⟩

/-- What follows a record that was read, when it does not need it. -/
theorem Settles.forget {operation : Supervising α} (settles : Settles owner key operation)
    {fact : Supervised → Prop} : (supervisingOne owner key).Meets
      (fun state => state.Settled owner key ∧ fact state) operation (fun _ => Settled owner key)
      fun _ => Settled owner key :=
  settles.strengthen fun _ holds => holds.1

theorem promoteReady_settles (owned : owner record.launchId = key)
    (active : record.state.isActive = true) :
    (supervisingOne owner key).Meets (fun state => state.Settled owner key ∧
        state.launches.lookup record.launchId = some record)
      (Supervisor.promoteReady record) (fun _ => Settled owner key)
      fun _ => Settled owner key := by
  let running : LaunchRecord := { record with state := .running, healthFailures := 0 }
  have follows : NextRecord record running := ⟨rfl, ⟨rfl, rfl, rfl, fun _ => active⟩, fun _ => rfl⟩
  refine Conduct.Meets.bind (writeAgain_meets owned follows) fun _ => Settles.forget ?_
  refine Settles.bind writeProcessProjection_harmless.settles fun _ => ?_
  refine Settles.bind requireInstance_harmless.settles fun item => ?_
  split
  · exact transition_harmless.settles
  · exact Settles.pure

theorem checkHealth_settles (owned : owner record.launchId = key) :
    (supervisingOne owner key).Meets (fun state => state.Settled owner key ∧
        state.launches.lookup record.launchId = some record)
      (Supervisor.checkHealth record) (fun _ => Settled owner key)
      fun _ => Settled owner key := by
  refine Conduct.Meets.bind (Harmless.read.found_meets owned) fun healthy => ?_
  split
  · split
    · exact Settles.pure.forget
    · have follows : NextRecord record { record with healthFailures := 0 } :=
        ⟨rfl, ⟨rfl, rfl, rfl, fun active => active⟩, fun active => active⟩
      exact (writeAgain_meets owned follows).mono (fun _ holds => holds)
        (fun _ _ holds => holds.1) fun _ _ settled => settled
  · let failing : LaunchRecord := { record with healthFailures := record.healthFailures + 1 }
    have follows : NextRecord record failing :=
      ⟨rfl, ⟨rfl, rfl, rfl, fun active => active⟩, fun active => active⟩
    refine Conduct.Meets.bind (writeAgain_meets owned follows) fun _ => ?_
    split
    · exact Settles.pure.forget
    · exact handleUnexpectedExit_settles owned

theorem monitorRecord_settles (owned : owner record.launchId = key)
    (active : record.state.isActive = true) :
    (supervisingOne owner key).Meets (fun state => state.Settled owner key ∧
        state.launches.lookup record.launchId = some record)
      (Supervisor.monitorRecord record) (fun _ => Settled owner key)
      fun _ => Settled owner key := by
  refine Conduct.Meets.bind (Harmless.read.found_meets owned) fun alive => ?_
  split
  · split
    · refine Conduct.Meets.bind (Harmless.read.found_meets owned) fun ready => ?_
      split
      · exact promoteReady_settles owned active
      · exact Settles.pure.forget
    · exact checkHealth_settles owned
  · exact handleUnexpectedExit_settles owned

theorem monitorLaunch_settles (owned : owner id = key) :
    Settles owner key (Supervisor.monitorLaunch id) := by
  refine Settles.lookup owned fun found => ?_
  cases found with
  | none => exact Settles.pure.forget
  | some record =>
      cases watched : (some record).filter
          fun record => record.state = .starting ∨ record.state = .running with
      | none => exact Settles.pure.forget
      | some current =>
          obtain ⟨same, state⟩ := Option.filter_eq_some_iff.mp watched
          obtain rfl := Option.some.inj same
          have active : record.state.isActive = true := by
            rcases of_decide_eq_true state with starting | running
            · rw [starting]; rfl
            · rw [running]; rfl
          intro state holds
          have filed : record.launchId = id := holds.1.1.filed holds.2
          rw [← filed] at holds owned
          exact monitorRecord_settles owned active state holds

theorem stopActive_settles {interrupting : Option String} {reason : String} :
    Settles owner key (Supervisor.stopActive key interrupting reason) := by
  refine Settles.active Settles.pure fun active mine => ?_
  refine Conduct.Meets.bind (interruptFor_harmless.found_meets mine) fun _ => ?_
  refine Conduct.Meets.bind (stopLaunch_meets mine) fun _ => ?_
  exact Settles.pure

theorem cancelInstance_settles {idempotencyKey : Option String} :
    Settles owner key (Supervisor.cancelInstance key idempotencyKey) := by
  refine Settles.bind requireInstance_harmless.settles fun _ => ?_
  exact Settles.bind stopActive_settles fun _ => transition_harmless.settles

theorem suspendInstance_settles {idempotencyKey : Option String} :
    Settles owner key (Supervisor.suspendInstance key idempotencyKey) := by
  refine Settles.bind requireInstance_harmless.settles fun item => ?_
  refine Settles.bind stopActive_settles fun _ => ?_
  split
  · exact Settles.pure
  · exact transition_harmless.settles

theorem archiveInstance_settles {idempotencyKey : Option String} :
    Settles owner key (Supervisor.archiveInstance key idempotencyKey) :=
  Settles.bind stopActive_settles fun _ => transition_harmless.settles

theorem beginModelCall_harmless {attemptId : Identifier} {requestId : String} :
    Harmless (Supervisor.beginModelCall key attemptId requestId) := by
  unfold Supervisor.beginModelCall
  split
  · exact Harmless.raise
  · refine Harmless.bind Harmless.read fun active => ?_
    split
    · exact Harmless.raise
    · refine Harmless.atomically fun answer state => ?_
      split
      · split <;> exact ⟨rfl, rfl, rfl⟩
      · exact ⟨rfl, rfl, rfl⟩

end

end DesignHarness
