import DesignHarness.Services.ProcessSupervisorOperations

/-!
# The supervisor after a crash

`reconcile` runs alone.  When it returns, every claim belongs to an active launch, every active
launch holds its port (`reconcile_consistent`), and an instance that is said to start or to run has
an active launch (`reconcile_accounts`).
-/

namespace DesignHarness

open Library
open Supervised

/-! ## Ports -/

/-- What `reconcile` expects and promises: it runs alone. -/
abbrev recoveringConduct (owner : Identifier → InstanceKey) : Conduct Supervised :=
  supervising owner (fun _ => True) True

/-- The launches while `reconcile` still has to look at some of them. -/
def Supervised.Scope.remaining (rest : List LaunchRecord) : Scope :=
  ⟨fun _ => True, fun id => id ∉ rest.map (·.launchId), rest⟩

section

variable {owner : Identifier → InstanceKey} {id : Identifier} {state later : Supervised}
  {record : LaunchRecord} {rest : List LaunchRecord} {scope : Supervised.Scope} {focus : Focus}

theorem Supervised.Scope.mine_all : scope.Mine owner fun _ => True :=
  ⟨fun _ => trivial, fun _ => trivial, fun _ _ => trivial⟩

/-- The records of launches that are still to be looked at. -/
structure PendingRecords (rest : List LaunchRecord) : Prop where
  distinct : (rest.map (·.launchId)).Nodup
  active : ∀ record ∈ rest, record.state.isActive = true

theorem PendingRecords.tail (pending : PendingRecords (record :: rest)) : PendingRecords rest :=
  ⟨(List.nodup_cons.mp pending.distinct).2,
    fun other member => pending.active other (List.mem_cons_of_mem _ member)⟩

theorem PendingRecords.unread (pending : PendingRecords (record :: rest)) :
    ∀ other ∈ (Supervised.Scope.remaining rest).read, other.launchId ≠ record.launchId := by
  intro other member same
  have fresh := (List.nodup_cons.mp pending.distinct).1
  exact fresh (List.mem_map.mpr ⟨other, member, same⟩)

/-- What is known of the launch that `reconcile` looks at. -/
def Focus.recovering (record : LaunchRecord) : Focus where
  record := some record
  ports := (· = record.port)
  claimed := none
  places _ := True
  dead := False
  others _ := True

theorem enter_recovering (holds : state.Consistent owner (.remaining (record :: rest))) :
    state.At owner (.remaining rest) record.launchId (.recovering record) where
  sound := holds.1
  agree := by
    refine ⟨fun found _ => holds.2.claims found trivial, fun {id filed} known found active => ?_,
      fun other member => ?_⟩
    · refine holds.2.held ?_ found active
      rintro member
      rcases List.mem_cons.mp member with same | later
      · exact known.1 same
      · exact known.2 later
    · exact holds.2.read other (List.mem_cons_of_mem _ (List.mem_filter.mp member).1)
  knows := by
    refine ⟨holds.2.read record List.mem_cons_self, fun {port claim} present same => ?_,
      fun claimed => (by cases claimed), fun _ _ => trivial, fun dead => dead.elim,
      fun _ _ _ => trivial⟩
    obtain ⟨filed, lookup, -, at'⟩ := holds.2.claims present trivial
    rw [same, holds.2.read record List.mem_cons_self] at lookup
    obtain rfl := Option.some.inj lookup
    exact at'.symm

theorem promoteReady_meets {mine : InstanceKey → Prop} {alone : Prop}
    (within : scope.Mine owner mine) (owned : mine (owner record.launchId))
    (known : focus.record = some record) (active : record.state.isActive = true)
    (only : ∀ port, focus.ports port → port = record.port)
    (claimed : focus.claimed = some record.port)
    (unread : ∀ other ∈ scope.read, other.launchId ≠ record.launchId) :
    (supervising owner mine alone).Meets (At owner scope record.launchId focus)
      (Supervisor.promoteReady record) (fun _ => Consistent owner scope)
      fun _ => Consistent owner scope := by
  let running : LaunchRecord := { record with state := .running, healthFailures := 0 }
  have done : (focus.withRecord running).Done :=
    ⟨fun port claims => ⟨running, rfl, rfl, (only port claims).symm⟩, fun current same _ => by
      obtain rfl := Option.some.inj same
      exact claimed⟩
  refine Conduct.Meets.bind ((rewrite_meets running within owned known
    ⟨rfl, rfl, rfl, fun _ => active⟩).mono (fun _ holds => holds)
    (fun _ _ holds => holds.leave done unread) fun _ _ never => never) fun _ => ?_
  have rest : Harmless (do
      Supervisor.writeProcessProjection running .running
      let item ← Supervisor.requireInstance record.key
      if item.status = .starting then
        Supervisor.transition record.key .running (record.launchId ++ "-running-recovered")
      else return ()) := by
    refine Harmless.bind writeProcessProjection_harmless fun _ => ?_
    refine Harmless.bind requireInstance_harmless fun item => ?_
    split
    · exact transition_harmless
    · exact Harmless.pure
  exact rest (stable_consistent within) fun same holds => ⟨holds.1.same same, holds.2.same same⟩

theorem becameReady_harmless : Harmless (Supervisor.becameReady record) := by
  unfold Supervisor.becameReady
  split
  · exact Harmless.read
  · exact Harmless.pure

theorem reconcileLaunch_meets (pending : PendingRecords (record :: rest)) :
    (recoveringConduct owner).Meets (Consistent owner (.remaining (record :: rest)))
      (Supervisor.reconcileLaunch record) (fun _ => Consistent owner (.remaining rest))
      fun _ => Sound owner := by
  have within : (Supervised.Scope.remaining rest).Mine owner fun _ => True := Supervised.Scope.mine_all
  have active := pending.active record List.mem_cons_self
  have enters : ∀ state : Supervised, state.Consistent owner (.remaining (record :: rest)) →
      record.key = owner record.launchId ∧
        state.At owner (.remaining rest) record.launchId (.recovering record) :=
    fun state holds => ⟨holds.1.owned (holds.2.read record List.mem_cons_self),
      enter_recovering holds⟩
  rintro state holds
  obtain ⟨keyed, entered⟩ := enters state holds
  clear holds enters
  revert state
  change (recoveringConduct owner).Meets (At owner (.remaining rest) record.launchId
    (.recovering record)) _ _ _
  refine Conduct.Meets.bind (hydrateLaunchIdentity_meets within trivial rfl) fun hydrated => ?_
  intro state both
  obtain ⟨follows, holds⟩ := both
  revert state
  change (recoveringConduct owner).Meets (At owner (.remaining rest) record.launchId
    ((Focus.recovering record).withRecord hydrated)) _ _ _
  rw [← follows.launchId]
  have unread : ∀ other ∈ (Supervised.Scope.remaining rest).read, other.launchId ≠ hydrated.launchId := by
    rw [follows.launchId]
    exact pending.unread
  have only : ∀ port, ((Focus.recovering record).withRecord hydrated).ports port →
      port = hydrated.port := fun _ same => same.trans follows.rewrites.port.symm
  have sound : ∀ {scope : Supervised.Scope} {state : Supervised}, state.Consistent owner scope →
      state.Sound owner := fun holds => holds.1
  refine Conduct.Meets.bind ((Harmless.read.at_meets within trivial).mono (fun _ holds => holds)
    (fun _ _ holds => holds) fun _ _ holds => holds.sound) fun alive => ?_
  split
  · have mineKey : hydrated.key = owner hydrated.launchId := by
      rw [follows.rewrites.key, keyed, follows.launchId]
    rw [mineKey]
    refine Conduct.Meets.bind ((restore_meets within trivial only).mono (fun _ holds => holds)
      (fun _ _ holds => holds) fun _ _ holds => holds.sound) fun _ => ?_
    refine Conduct.Meets.bind ((becameReady_harmless.at_meets within trivial).mono
      (fun _ holds => holds) (fun _ _ holds => holds) fun _ _ holds => holds.sound) fun ready => ?_
    split
    · exact (promoteReady_meets within trivial rfl (follows.active active) (fun _ same => same) rfl
        unread).mono (fun _ holds => holds) (fun _ _ holds => holds) fun _ _ => sound
    · refine (writeProcessProjection_harmless.at_meets within trivial).mono (fun _ holds => holds)
        (fun _ _ holds => holds.leave ⟨fun port same => ⟨hydrated, rfl, follows.active active,
          same.symm⟩, fun current same _ => ?_⟩ unread) fun _ _ holds => holds.sound
      obtain rfl := Option.some.inj same
      rfl
  · exact (handleUnexpectedExit_meets _ within trivial rfl only unread).mono
      (fun _ holds => holds) (fun _ _ holds => holds) fun _ _ => sound

/-- The records as they are when `reconcile` reads them. -/
structure AllRead (records : List LaunchRecord) (state : Supervised) : Prop where
  distinct : (records.map (·.launchId)).Nodup
  read : ∀ {record}, record ∈ records ↔ state.launches.lookup record.launchId = some record

theorem allRead_launchRecords (sound : state.Sound owner) : AllRead state.launchRecords state where
  distinct := by
    have sorted : (state.launchRecords).Perm (state.launches.entries.map Sigma.snd) :=
      List.mergeSort_perm _ _
    rw [(sorted.map _).nodup_iff, List.map_map]
    have keys : state.launches.entries.map ((fun record : LaunchRecord => record.launchId) ∘
        Sigma.snd) = state.launches.entries.map Sigma.fst := by
      refine List.map_congr_left fun entry member => ?_
      exact sound.filed (AList.mem_lookup_iff.mpr member)
    rw [keys]
    exact state.launches.nodupKeys
  read := mem_launchRecords sound

theorem stable_allRead {records : List LaunchRecord} :
    (recoveringConduct owner).Stable (AllRead records) := by
  intro state later between holds
  refine ⟨holds.distinct, fun {record} => ?_⟩
  rw [(between.2.1 _ trivial).launches rfl]
  exact holds.read

/-- The records of active launches, as they are read. -/
def activeRecords (records : List LaunchRecord) : List LaunchRecord :=
  records.filter (·.state.isActive)

theorem AllRead.pending {records : List LaunchRecord} (all : AllRead records state) :
    PendingRecords (activeRecords records) where
  distinct := all.distinct.sublist (List.filter_sublist.map _)
  active _ member := (List.mem_filter.mp member).2

theorem retained_eq_some {active : List LaunchRecord} {claims : Nat → Option PortClaim}
    {port : Nat} {claim : PortClaim} :
    Supervisor.retained active claims port = some claim ↔ claims port = some claim ∧
      ∃ record ∈ active, record.launchId = claim.launchId ∧ record.port = port := by
  simp only [Supervisor.retained, Option.filter_eq_some_iff, List.any_eq_true, decide_eq_true_eq]

theorem Supervised.Sound.retain {records : List LaunchRecord} (sound : state.Sound owner)
    (all : AllRead records state) :
    ({ state with claims := Supervisor.retained (activeRecords records) state.claims } :
      Supervised).Consistent owner (.remaining (activeRecords records)) := by
  have listed : ∀ {id record}, state.launches.lookup id = some record →
      record.state.isActive = true → record ∈ activeRecords records := by
    intro id record found active
    refine List.mem_filter.mpr ⟨all.read.mpr ?_, active⟩
    rw [sound.filed found]
    exact found
  refine ⟨⟨sound.filed, sound.owned, ?_, sound.single, sound.onceEach, sound.filedProcess,
    sound.oneCode⟩, ?_, ?_, ?_⟩
  · intro id record found active lives
    refine retained_eq_some.mpr ⟨sound.claimed found active lives, record, listed found active, ?_⟩
    exact ⟨sound.filed found, rfl⟩
  · intro port claim found _
    obtain ⟨-, record, member, same, at'⟩ := retained_eq_some.mp found
    obtain ⟨read, active⟩ := List.mem_filter.mp member
    refine ⟨record, ?_, active, at'⟩
    rw [← same]
    exact all.read.mp read
  · intro id record known found active
    refine absurd (List.mem_map.mpr ⟨record, listed found active, ?_⟩) known
    exact sound.filed found
  · intro record member
    exact all.read.mp (List.mem_filter.mp member).1

/-- The ports once `reconcile` has returned: claims and active launches agree. -/
theorem reconcile_consistent : (recoveringConduct owner).Meets (Sound owner)
    Supervisor.reconcile (fun _ => Consistent owner (.remaining [])) fun _ => Sound owner := by
  have reads : (recoveringConduct owner).Meets (Sound owner)
      (Thread.read fun _ state => .ok state.launchRecords : Supervising (List LaunchRecord))
      (fun records state => state.Sound owner ∧ AllRead records state) fun _ => Sound owner := by
    intro before holds later between answer
    refine ⟨(SameLaunches.mk rfl rfl rfl).promised, fun final further => ?_⟩
    have sound := stable_sound between holds
    exact ⟨stable_sound further sound, stable_allRead further (allRead_launchRecords sound)⟩
  refine Conduct.Meets.bind reads fun records => ?_
  rintro state ⟨sound, all⟩
  have pending := all.pending
  revert state
  suffices meets : (recoveringConduct owner).Meets
      (fun state => state.Sound owner ∧ AllRead records state) (do
        Supervisor.reconcilePorts (activeRecords records)
        Thread.forEach Supervisor.reconcileLaunch (activeRecords records)
        let instances ← Thread.read fun _ state => .ok state.instances
        Thread.forEach (Supervisor.reconcileInstance ((activeRecords records).map (·.key)))
          instances) (fun _ => Consistent owner (.remaining [])) fun _ => Sound owner from
    fun state sound all => meets state ⟨sound, all⟩
  have stable {rest : List LaunchRecord} :
      (recoveringConduct owner).Stable (Consistent owner (.remaining rest)) :=
    stable_consistent Supervised.Scope.mine_all
  have ports : (recoveringConduct owner).Meets
      (fun state => state.Sound owner ∧ AllRead records state)
      (Supervisor.reconcilePorts (activeRecords records))
      (fun _ => Consistent owner (.remaining (activeRecords records))) fun _ => Sound owner := by
    refine Conduct.Meets.change (Conduct.Stable.and stable_sound stable_allRead) ?_ ?_ stable
    · exact fun _ state holds => ⟨fun _ => (holds.1.retain holds.2).1,
        fun _ nobody => absurd trivial nobody⟩
    · exact fun _ state holds => holds.1.retain holds.2
  refine Conduct.Meets.bind ports fun _ => ?_
  have loop : ∀ rest, PendingRecords rest → (recoveringConduct owner).Meets
      (Consistent owner (.remaining rest)) (Thread.forEach Supervisor.reconcileLaunch rest)
      (fun _ => Consistent owner (.remaining [])) fun _ => Sound owner := by
    intro rest pending
    induction rest with
    | nil => exact Conduct.Meets.pure stable fun _ holds => holds
    | cons record rest ih =>
        exact Conduct.Meets.bind (reconcileLaunch_meets pending) fun _ => ih pending.tail
  refine Conduct.Meets.bind (loop _ pending) fun _ => ?_
  have settles : Harmless (do
      let instances ← Thread.read fun _ state => .ok state.instances
      Thread.forEach (Supervisor.reconcileInstance ((activeRecords records).map (·.key)))
        instances) := by
    refine Harmless.bind Harmless.read fun instances => Harmless.forEach fun item => ?_
    unfold Supervisor.reconcileInstance
    split
    · exact Harmless.bind interruptModelCalls_harmless fun _ => transition_harmless
    · exact Harmless.pure
  exact (settles stable fun same holds => ⟨holds.1.same same, holds.2.same same⟩).mono
    (fun _ holds => holds) (fun _ _ holds => holds) fun _ _ holds => holds.1

end

/-! ## Instances -/

namespace Supervised

def status? (state : Supervised) (key : InstanceKey) : Option InstanceStatus :=
  (state.instance? key).map (·.status)

/-- The instance is said to start or to run. -/
def Executing (state : Supervised) (key : InstanceKey) : Prop :=
  ∃ status, state.status? key = some status ∧ status.isExecuting = true

/-- The instance has an active launch. -/
def HasLaunch (state : Supervised) (key : InstanceKey) : Prop :=
  ∃ id record, state.launches.lookup id = some record ∧ record.state.isActive = true ∧
    record.key = key

/-- The instance has a record of the launch. -/
def HasRecord (state : Supervised) (key : InstanceKey) (launchId : Identifier) : Prop :=
  ∃ record, state.launches.lookup launchId = some record ∧ record.key = key

/-- The transition by which `reconcile` ends the instance was done before, under the same key. -/
def Replayed (state : Supervised) (key : InstanceKey) : Prop :=
  state.commands key.taskId (Supervisor.reconcileKey key.instanceId) =
      some (.transitionInstance key.instanceId .crashed) ∨
    ∃ launchId status target suffix, state.HasRecord key launchId ∧
      Supervisor.statusAfterExit status = some (target, suffix) ∧
      state.commands key.taskId (launchId ++ suffix) =
        some (.transitionInstance key.instanceId target)

/-- The instances among the given ones that are executing have an active launch, or were ended
    before. -/
def Accounted (among : InstanceKey → Prop) (state : Supervised) : Prop :=
  ∀ key, among key → state.Executing key → state.HasLaunch key ∨ state.Replayed key

/-- The records of the list are stored. -/
def Stored (records : List LaunchRecord) (state : Supervised) : Prop :=
  ∀ record ∈ records, state.launches.lookup record.launchId = some record

/-- Nothing but ports, processes, model calls and projections differ. -/
structure SameStanding (state later : Supervised) : Prop where
  launches : later.launches = state.launches
  commands : later.commands = state.commands
  status : ∀ key, later.status? key = state.status? key

section

variable {state later : Supervised} {key : InstanceKey} {among : InstanceKey → Prop}
  {update : AgentInstance → AgentInstance}

theorem instance?_updateInstance
    (keeps : ∀ item, (update item).taskId = item.taskId ∧
      (update item).instanceId = item.instanceId)
    (other : InstanceKey) :
    (state.updateInstance key update).instance? other = (state.instance? other).map fun item =>
      if item.taskId = key.taskId ∧ item.instanceId = key.instanceId then update item
      else item := by
  rw [instance?, updateInstance, List.find?_map]
  refine congrArg _ (congrArg (fun p => List.find? p state.instances) ?_)
  funext item
  simp only [Function.comp]
  split <;> simp [keeps item]

theorem instance?_key {item : AgentInstance} (found : state.instance? key = some item) :
    item.taskId = key.taskId ∧ item.instanceId = key.instanceId := by
  have same := List.find?_some found
  simpa only [Bool.decide_and, Bool.and_eq_true, decide_eq_true_eq] using same

theorem status?_setStatus_ne {target : InstanceStatus} {other : InstanceKey}
    (differs : other ≠ key) : (state.setStatus key target).status? other = state.status? other := by
  have keeps : ∀ item : AgentInstance, ({ item with status := target } : AgentInstance).taskId =
      item.taskId ∧ ({ item with status := target } : AgentInstance).instanceId =
        item.instanceId := fun _ => ⟨rfl, rfl⟩
  rw [status?, setStatus, instance?_updateInstance keeps, status?, Option.map_map]
  cases found : state.instance? other with
  | none => rfl
  | some item =>
      have apart : ¬(item.taskId = key.taskId ∧ item.instanceId = key.instanceId) := by
        rintro ⟨task, instance'⟩
        obtain ⟨task', instance''⟩ := instance?_key found
        apply differs
        cases other
        cases key
        exact congrArg₂ InstanceKey.mk (task'.symm.trans task) (instance''.symm.trans instance')
      simp [apart]

theorem status?_setStatus {target : InstanceStatus} {item : AgentInstance}
    (found : state.instance? key = some item) :
    (state.setStatus key target).status? key = some target := by
  have keeps : ∀ item : AgentInstance, ({ item with status := target } : AgentInstance).taskId =
      item.taskId ∧ ({ item with status := target } : AgentInstance).instanceId =
        item.instanceId := fun _ => ⟨rfl, rfl⟩
  rw [status?, setStatus, instance?_updateInstance keeps, found]
  simp [instance?_key found]

theorem SameStanding.refl : SameStanding state state := ⟨rfl, rfl, fun _ => rfl⟩

theorem SameStanding.executing (same : SameStanding state later) :
    later.Executing key ↔ state.Executing key := by
  simp only [Executing, same.status]

theorem SameStanding.hasLaunch (same : SameStanding state later) :
    later.HasLaunch key ↔ state.HasLaunch key := by
  simp only [HasLaunch, same.launches]

theorem SameStanding.replayed (same : SameStanding state later) :
    later.Replayed key ↔ state.Replayed key := by
  simp only [Replayed, HasRecord, same.launches, same.commands]

theorem SameStanding.accounted (same : SameStanding state later) (holds : state.Accounted among) :
    later.Accounted among := by
  intro key member executing
  rw [same.hasLaunch, same.replayed]
  exact holds key member (same.executing.mp executing)

theorem Replayed.mono (replayed : state.Replayed key)
    (records : ∀ launchId, state.HasRecord key launchId → later.HasRecord key launchId)
    (commands : ∀ taskId idempotencyKey command,
      state.commands taskId idempotencyKey = some command →
        later.commands taskId idempotencyKey = some command) : later.Replayed key := by
  obtain kept | ⟨launchId, status, target, suffix, recorded, exits, kept⟩ := replayed
  · exact .inl (commands _ _ _ kept)
  · exact .inr ⟨launchId, status, target, suffix, records launchId recorded, exits,
      commands _ _ _ kept⟩

/-- What was kept under a key is kept when another command is done. -/
theorem keepCommand_kept {taskId other : Identifier} {idempotencyKey key' : String}
    {command kept : KeptCommand} (free : state.commands taskId idempotencyKey = none)
    (found : state.commands other key' = some kept) :
    (state.keepCommand taskId idempotencyKey command).commands other key' = some kept := by
  change Function.update state.commands taskId
    (Function.update (state.commands taskId) idempotencyKey (some command)) other key' = some kept
  by_cases task : other = taskId
  · subst task
    rw [Function.update_self]
    by_cases same : key' = idempotencyKey
    · subst same
      rw [free] at found
      cases found
    · rwa [Function.update_of_ne same]
  · rwa [Function.update_of_ne task]

theorem SameStanding.project {record : LaunchRecord} {process : ProcessState} :
    SameStanding state
      (state.updateInstance key (Supervisor.processProjection record process)) where
  launches := rfl
  commands := rfl
  status other := by
    have keeps : ∀ item, (Supervisor.processProjection record process item).taskId = item.taskId ∧
        (Supervisor.processProjection record process item).instanceId = item.instanceId :=
      fun _ => ⟨rfl, rfl⟩
    rw [status?, instance?_updateInstance keeps, status?, Option.map_map]
    refine congrArg (fun f => Option.map f (state.instance? other)) ?_
    funext item
    simp only [Function.comp]
    split <;> rfl

end

end Supervised

/-- What is expected while `reconcile` runs, and nothing promised. -/
def watching (owner : Identifier → InstanceKey) : Conduct Supervised where
  rely := (recoveringConduct owner).rely
  guarantee _ _ := True
  refl := (recoveringConduct owner).refl
  trans := (recoveringConduct owner).trans

/-- The operation leaves launches and statuses alone. -/
def Still {α : Type} (operation : Supervising α) : Prop :=
  ∀ {owner : Identifier → InstanceKey} {condition : Supervised → Prop},
    (watching owner).Stable condition →
    (∀ {state later}, SameStanding state later → condition state → condition later) →
    (watching owner).Meets condition operation (fun _ => condition) fun _ _ => True

section

variable {owner : Identifier → InstanceKey} {state later : Supervised} {α β : Type}

theorem Still.atomically {body : Surroundings → Supervised → Except Fault α × Supervised}
    (same : ∀ answer state, SameStanding state (body answer state).2) :
    Still (Thread.atomically body) := by
  intro owner condition stable blind
  refine Conduct.Meets.atomically stable (fun _ _ _ => trivial) ?_ (fun _ _ _ _ _ => trivial)
    (fun _ => stable) fun _ => Conduct.Stable.always
  exact fun answer state _ holds _ => blind (same answer state) holds

theorem Still.read {body : Surroundings → Supervised → Except Fault α} : Still (Thread.read body) :=
  Still.atomically fun _ _ => .refl

theorem Still.pure {value : α} : Still (Pure.pure value) :=
  fun stable _ => Conduct.Meets.pure stable fun _ holds => holds

theorem Still.bind {operation : Supervising α} {next : α → Supervising β} (first : Still operation)
    (rest : ∀ value, Still (next value)) : Still (operation >>= next) :=
  fun stable blind => Conduct.Meets.bind (first stable blind) fun value => rest value stable blind

theorem terminateIf_still {condition : Supervised → Bool} {process : Option Nat} :
    Still (Supervisor.terminateIf condition process) := by
  refine Still.atomically fun _ state => ?_
  cases process with
  | none => exact .refl
  | some process =>
      simp only
      split <;> exact ⟨rfl, rfl, fun _ => rfl⟩

theorem release_still {launchId : Identifier} {port : Nat} :
    Still (Supervisor.release launchId port) := by
  refine Still.atomically fun _ state => ?_
  simp only
  split <;> exact ⟨rfl, rfl, fun _ => rfl⟩

theorem restore_still {key : InstanceKey} {launchId : Identifier} {port : Nat} :
    Still (Supervisor.restore key launchId port) := by
  refine Still.atomically fun _ state => ?_
  cases state.claims port with
  | none => exact ⟨rfl, rfl, fun _ => rfl⟩
  | some claim =>
      simp only
      split <;> exact ⟨rfl, rfl, fun _ => rfl⟩

theorem reconcilePorts_still {active : List LaunchRecord} :
    Still (Supervisor.reconcilePorts active) :=
  Still.atomically fun _ _ => ⟨rfl, rfl, fun _ => rfl⟩

theorem writeProcessProjection_still {record : LaunchRecord} {process : ProcessState} :
    Still (Supervisor.writeProcessProjection record process) := by
  refine Still.atomically fun answer state => ?_
  split
  · exact .refl
  · exact .project

theorem interruptModelCalls_still {key : InstanceKey} {reason : String} :
    Still (Supervisor.interruptModelCalls key reason) := by
  refine Still.bind Still.read fun calls => ?_
  intro owner condition stable blind
  refine Conduct.Meets.forEach (fun _ => condition) (fun _ => stable) fun call _ => ?_
  exact Still.atomically (fun _ _ => ⟨rfl, rfl, fun _ => rfl⟩) stable blind

theorem becameReady_still {record : LaunchRecord} : Still (Supervisor.becameReady record) := by
  unfold Supervisor.becameReady
  split
  · exact Still.read
  · exact Still.pure

variable {among : InstanceKey → Prop} {record : LaunchRecord} {rest : List LaunchRecord}
  {key : InstanceKey}

theorem stable_unchanged {condition : Supervised → Prop}
    (blind : ∀ {state later : Supervised},
      (∀ id, later.launches.lookup id = state.launches.lookup id) →
      later.instances = state.instances → later.commands = state.commands →
        condition state → condition later) :
    (watching owner).Stable condition := by
  intro state later between
  obtain ⟨instances, commands⟩ := between.2.2 trivial
  exact blind (fun _ => (between.2.1 _ trivial).launches rfl) instances commands

/-- The stored records of launches that are still to be looked at, and the accounts. -/
def Watched (among : InstanceKey → Prop) (records : List LaunchRecord) (state : Supervised) :
    Prop :=
  state.Stored records ∧ state.Accounted among

theorem stable_watched {records : List LaunchRecord} :
    (watching owner).Stable (Watched among records) := by
  refine stable_unchanged fun {state later} launches instances commands holds => ⟨?_, ?_⟩
  · intro record member
    rw [launches]
    exact holds.1 record member
  · intro key member executing
    have before : state.Executing key := by
      simpa only [Executing, status?, instance?, instances] using executing
    obtain ⟨id, record, found, active⟩ | replayed := holds.2 key member before
    · exact .inl ⟨id, record, by rw [launches, found], active⟩
    · refine .inr (replayed.mono (fun launchId recorded => ?_) fun _ _ _ kept => ?_)
      · obtain ⟨record, found, keyed⟩ := recorded
        exact ⟨record, by rw [launches, found], keyed⟩
      · rwa [commands]

theorem Watched.mono {among' : InstanceKey → Prop} (holds : Watched among rest state)
    (narrower : ∀ key, among' key → among key) : Watched among' rest state :=
  ⟨holds.1, fun key member => holds.2 key (narrower key member)⟩

theorem Watched.same {records : List LaunchRecord} (holds : Watched among records state)
    (same : SameStanding state later) : Watched among records later :=
  ⟨fun record member => by rw [same.launches]; exact holds.1 record member,
    same.accounted holds.2⟩

theorem Still.watched_meets {operation : Supervising α} {records : List LaunchRecord}
    (still : Still operation) : (watching owner).Meets (Watched among records) operation
      (fun _ => Watched among records) fun _ _ => True :=
  still stable_watched fun same holds => holds.same same

/-- A record is written again: the launches keep their instances. -/
theorem Supervised.HasRecord.writeLaunch {value : LaunchRecord} {launchId : Identifier}
    (recorded : state.HasRecord key launchId)
    (follows : ∀ record, state.launches.lookup value.launchId = some record →
      value.key = record.key) : (state.writeLaunch value).HasRecord key launchId := by
  obtain ⟨record, found, keyed⟩ := recorded
  by_cases same : launchId = value.launchId
  · subst same
    exact ⟨value, lookup_writeLaunch, (follows record found).trans keyed⟩
  · exact ⟨record, by rw [lookup_writeLaunch_ne same, found], keyed⟩

/-- A stored record that is written again keeps the launches of the instances when it is as active
    as it was. -/
theorem writeAgain_watched {value : LaunchRecord} (follows : NextRecord record value)
    (fresh : ∀ other ∈ rest, other.launchId ≠ record.launchId) :
    (watching owner).Meets (Watched among (record :: rest)) (Supervisor.writeLaunch value)
      (fun _ => Watched among (value :: rest)) fun _ _ => True := by
  refine Conduct.Meets.change stable_watched (fun _ _ _ => trivial) ?_ stable_watched
  intro _ state holds
  have found := holds.1 record List.mem_cons_self
  refine ⟨fun other member => ?_, fun key member executing => ?_⟩
  · rcases List.mem_cons.mp member with rfl | later
    · exact lookup_writeLaunch
    · rw [lookup_writeLaunch_ne (by rw [follows.launchId]; exact fresh other later)]
      exact holds.1 other (List.mem_cons_of_mem _ later)
  · obtain ⟨id, active, lookup, isActive, keyed⟩ | replayed := holds.2 key member executing
    · left
      by_cases same : id = value.launchId
      · subst same
        rw [follows.launchId, found] at lookup
        obtain rfl := Option.some.inj lookup
        exact ⟨value.launchId, value, lookup_writeLaunch, follows.active isActive,
          follows.rewrites.key.trans keyed⟩
      · exact ⟨id, active, by rw [lookup_writeLaunch_ne same, lookup], isActive, keyed⟩
    · refine .inr (replayed.mono (fun _ recorded => ?_) fun _ _ _ kept => kept)
      refine recorded.writeLaunch fun stored lookup => ?_
      rw [follows.launchId, found] at lookup
      obtain rfl := Option.some.inj lookup
      exact follows.rewrites.key

/-- What is said of an instance with a launch does not matter, and a command that is done is kept. -/
theorem Watched.transitioned {target : InstanceStatus} {idempotencyKey : String}
    {records : List LaunchRecord} (moved : Transitioned key target idempotencyKey state later)
    (holds : Watched (fun other => among other ∧ other ≠ key) records state) :
    Watched (fun other => among other ∧ other ≠ key) records later := by
  refine ⟨fun record member => ?_, fun other member executing => ?_⟩
  · rw [moved.sameLaunches.launches]
    exact holds.1 record member
  · have before : state.Executing other := by
      obtain ⟨status, known, isExecuting⟩ := executing
      refine ⟨status, ?_, isExecuting⟩
      cases moved with
      | replayed _ same => rwa [same] at known
      | commanded _ moved =>
          rw [moved] at known
          change (state.setStatus key target).status? other = some status at known
          rwa [status?_setStatus_ne member.2] at known
      | written moved => rwa [moved, status?_setStatus_ne member.2] at known
    obtain ⟨id, record, found, active⟩ | replayed := holds.2 other member before
    · exact .inl ⟨id, record, by rw [moved.sameLaunches.launches, found], active⟩
    · refine .inr (replayed.mono (fun _ recorded => ?_) fun _ _ _ kept => ?_)
      · simpa only [HasRecord, moved.sameLaunches.launches] using recorded
      · cases moved with
        | replayed _ same => rwa [same]
        | commanded free moved =>
            rw [moved]
            exact keepCommand_kept free kept
        | written moved => rwa [moved]

/-- The status of an instance with an active launch may become anything. -/
theorem transition_watched {target : InstanceStatus} {idempotencyKey : String}
    {records : List LaunchRecord}
    (accounted : ∀ state : Supervised, Watched among records state → state.HasLaunch key) :
    (watching owner).Meets (Watched among records)
      (Supervisor.transition key target idempotencyKey) (fun _ => Watched among records)
      fun _ _ => True := by
  refine Conduct.Meets.atomically stable_watched (fun _ _ _ => trivial) ?_
    (fun _ _ _ _ _ => trivial)
    (fun _ => stable_watched) fun _ => Conduct.Stable.always
  intro answer state _ holds returned
  cases found : state.instance? key with
  | none =>
      simp only [found] at returned
      cases returned
  | some item =>
      simp only [found] at returned ⊢
      split
      · exact holds
      · split
        · exact holds
        · next done =>
            have moved := Supervised.transitioned done
            have others := Watched.transitioned moved (holds.mono fun _ member => member.1)
            refine ⟨others.1, fun other member executing => ?_⟩
            by_cases same : other = key
            · subst same
              obtain ⟨id, record, lookup, active⟩ := accounted state holds
              exact .inl ⟨id, record, by rw [moved.sameLaunches.launches, lookup], active⟩
            · exact others.2 other ⟨member, same⟩ executing

/-- A launch that is promoted: its instance still has it. -/
theorem promoteReady_watched (fresh : ∀ other ∈ rest, other.launchId ≠ record.launchId)
    (active : record.state.isActive = true) :
    (watching owner).Meets (Watched among (record :: rest)) (Supervisor.promoteReady record)
      (fun _ => Watched among rest) fun _ _ => True := by
  let running : LaunchRecord := { record with state := .running, healthFailures := 0 }
  have follows : NextRecord record running := ⟨rfl, ⟨rfl, rfl, rfl, fun _ => active⟩, fun _ => rfl⟩
  have drop : ∀ state : Supervised,
      Watched among (running :: rest) state → Watched among rest state :=
    fun state holds => ⟨fun other member => holds.1 other (List.mem_cons_of_mem _ member), holds.2⟩
  have dropped {operation : Supervising Unit} (meets : (watching owner).Meets
      (Watched among (running :: rest)) operation (fun _ => Watched among (running :: rest))
      fun _ _ => True) : (watching owner).Meets (Watched among (running :: rest)) operation
        (fun _ => Watched among rest) fun _ _ => True :=
    meets.mono (fun _ holds => holds) (fun _ => drop) fun _ _ _ => trivial
  refine Conduct.Meets.bind (writeAgain_watched follows fresh) fun _ => ?_
  refine Conduct.Meets.bind writeProcessProjection_still.watched_meets fun _ => ?_
  refine Conduct.Meets.bind (Still.watched_meets Still.read) fun item => ?_
  split
  · refine dropped (transition_watched fun state holds => ?_)
    exact ⟨running.launchId, running, holds.1 running List.mem_cons_self, rfl, rfl⟩
  · exact dropped (Still.watched_meets Still.pure)

/-- The instances but one are accounted for, and the launch is recorded for that one. -/
def Ending (among : InstanceKey → Prop) (records : List LaunchRecord) (key : InstanceKey)
    (launchId : Identifier) (state : Supervised) : Prop :=
  Watched (fun other => among other ∧ other ≠ key) records state ∧ state.HasRecord key launchId

theorem stable_ending {records : List LaunchRecord} {launchId : Identifier} :
    (watching owner).Stable (Ending among records key launchId) := by
  intro state later between holds
  refine ⟨stable_watched between holds.1, ?_⟩
  obtain ⟨record, found, keyed⟩ := holds.2
  exact ⟨record, by rw [(between.2.1 _ trivial).launches rfl, found], keyed⟩

theorem Still.ending_meets {operation : Supervising α} {records : List LaunchRecord}
    {launchId : Identifier} (still : Still operation) :
    (watching owner).Meets (Ending among records key launchId) operation
      (fun _ => Ending among records key launchId) fun _ _ => True := by
  refine still stable_ending fun same holds => ⟨holds.1.same same, ?_⟩
  simpa only [HasRecord, same.launches] using holds.2

/-- A launch that ends: its instance is no longer accounted for. -/
theorem exitLaunch_watched {reason : String}
    (fresh : ∀ other ∈ rest, other.launchId ≠ record.launchId) :
    (watching owner).Meets (Watched among (record :: rest)) (Supervisor.exitLaunch record reason)
      (fun _ => Ending among rest record.key record.launchId) fun _ _ => True := by
  let exited : LaunchRecord := { record with state := .exited, exitReason := some reason }
  have writes : (watching owner).Meets (Watched among (record :: rest))
      (Supervisor.writeLaunch exited)
      (fun _ => Ending among rest record.key record.launchId) fun _ _ => True := by
    refine Conduct.Meets.change stable_watched (fun _ _ _ => trivial) ?_ stable_ending
    intro _ state holds
    have found := holds.1 record List.mem_cons_self
    refine ⟨⟨fun other member => ?_, fun key member executing => ?_⟩, ?_⟩
    · have differs : other.launchId ≠ exited.launchId := fresh other member
      rw [lookup_writeLaunch_ne differs]
      exact holds.1 other (List.mem_cons_of_mem _ member)
    · obtain ⟨id, active, lookup, isActive, keyed⟩ | replayed := holds.2 key member.1 executing
      · refine .inl ⟨id, active, ?_, isActive, keyed⟩
        rw [lookup_writeLaunch_ne, lookup]
        rintro rfl
        obtain rfl := Option.some.inj (found.symm.trans lookup)
        exact member.2 keyed.symm
      · refine .inr (replayed.mono (fun _ recorded => ?_) fun _ _ _ kept => kept)
        refine recorded.writeLaunch fun stored lookup => ?_
        obtain rfl := Option.some.inj (found.symm.trans lookup)
        rfl
    · exact ⟨exited, lookup_writeLaunch, rfl⟩
  refine Conduct.Meets.bind terminateIf_still.watched_meets fun _ => ?_
  refine Conduct.Meets.bind writes fun _ => ?_
  refine Conduct.Meets.bind release_still.ending_meets fun _ => ?_
  refine Conduct.Meets.bind writeProcessProjection_still.ending_meets fun _ => ?_
  exact Conduct.Meets.pure stable_ending fun _ holds => holds

theorem statusAfterExit_not_executing {status target : InstanceStatus} {suffix : String}
    (becomes : Supervisor.statusAfterExit status = some (target, suffix)) :
    target.isExecuting = false := by
  cases status <;> cases becomes <;> rfl

theorem statusAfterExit_none {status : InstanceStatus}
    (stays : Supervisor.statusAfterExit status = none) : status.isExecuting = false := by
  cases status <;> first | rfl | cases stays

/-- An instance that is not executing, or was ended before, is accounted for. -/
theorem Watched.include (holds : Watched (fun other => among other ∧ other ≠ key) rest state)
    (idle : state.Executing key → state.Replayed key) : Watched among rest state := by
  refine ⟨holds.1, fun other member executing => ?_⟩
  by_cases same : other = key
  · subst same
    exact .inr (idle executing)
  · exact holds.2 other ⟨member, same⟩ executing

/-- The instance is said to be idle after a transition to such a status, unless the transition is a
    replay. -/
theorem transition_idle {target : InstanceStatus} {idempotencyKey : String}
    {condition : Supervised → Prop} (stable : (watching owner).Stable condition)
    (watches : ∀ state, condition state →
      Watched (fun other => among other ∧ other ≠ key) rest state)
    (replays : ∀ state, condition state → state.commands key.taskId idempotencyKey =
      some (.transitionInstance key.instanceId target) → state.Replayed key)
    (idle : target.isExecuting = false) :
    (watching owner).Meets condition (Supervisor.transition key target idempotencyKey)
      (fun _ => Watched among rest) fun _ _ => True := by
  refine Conduct.Meets.atomically stable (fun _ _ _ => trivial) ?_
    (fun _ _ _ _ _ => trivial)
    (fun _ => stable_watched) fun _ => Conduct.Stable.always
  intro answer state _ holds returned
  cases found : state.instance? key with
  | none =>
      simp only [found] at returned
      cases returned
  | some item =>
      simp only [found] at returned ⊢
      split
      · rename_i same
        refine (watches state holds).include ?_
        rintro ⟨status, known, executing⟩
        rw [status?, found] at known
        obtain rfl := Option.some.inj known
        change item.status.isExecuting = true at executing
        rw [same, idle] at executing
        cases executing
      · rename_i differs
        simp only [if_neg differs] at returned
        split at returned
        · cases returned
        · next later done =>
            have moved := Supervised.transitioned done
            have ended : ∀ {after : Supervised}, after.status? key = some target →
                ¬after.Executing key := by
              rintro after known ⟨status, known', executing⟩
              obtain rfl := Option.some.inj (known.symm.trans known')
              rw [idle] at executing
              cases executing
            refine (Watched.transitioned moved (watches state holds)).include fun executing => ?_
            cases moved with
            | replayed kept same =>
                subst same
                exact replays later holds kept
            | commanded free moved =>
                subst moved
                have known : (state.setStatus key target).status? key = some target :=
                  status?_setStatus found
                exact absurd executing (ended known)
            | written moved =>
                subst moved
                exact absurd executing (ended (status?_setStatus found))

theorem recordExit_watched {launchId : Identifier} {reason : String} :
    (watching owner).Meets (Ending among rest key launchId)
      (Supervisor.recordExit key launchId reason) (fun _ => Watched among rest)
      fun _ _ => True := by
  refine Conduct.Meets.bind interruptModelCalls_still.ending_meets fun _ => ?_
  have stable : ∀ item : AgentInstance, (watching owner).Stable fun state =>
      Ending among rest key launchId state ∧ state.instance? key = some item := by
    rintro item state later between ⟨ending, found⟩
    have instances : later.instances = state.instances := (between.2.2 trivial).1
    refine ⟨stable_ending between ending, ?_⟩
    simpa only [instance?, instances] using found
  have requires : (watching owner).Meets (Ending among rest key launchId)
      (Supervisor.requireInstance key)
      (fun item state => Ending among rest key launchId state ∧
        state.instance? key = some item) fun _ _ => True := by
    refine Conduct.Meets.atomically stable_ending (fun _ _ _ => trivial) ?_
      (fun _ _ _ _ _ => trivial) stable fun _ => Conduct.Stable.always
    intro answer state item holds returned
    refine ⟨holds, ?_⟩
    cases found : state.instance? key with
    | none =>
        simp only [found] at returned
        cases returned
    | some other =>
        simp only [found] at returned
        exact congrArg some (Except.ok.inj returned)
  refine Conduct.Meets.bind requires fun item => ?_
  cases becomes : Supervisor.statusAfterExit item.status with
  | some exit =>
      obtain ⟨target, suffix⟩ := exit
      refine transition_idle (stable item) (fun _ holds => holds.1.1) (fun state holds kept => ?_)
        (statusAfterExit_not_executing becomes)
      exact .inr ⟨launchId, item.status, target, suffix, holds.1.2, becomes, kept⟩
  | none =>
      refine Conduct.Meets.pure (stable item) fun state holds => holds.1.1.include ?_
      rintro ⟨status, known, executing⟩
      rw [status?, holds.2] at known
      obtain rfl := Option.some.inj known
      change item.status.isExecuting = true at executing
      rw [statusAfterExit_none becomes] at executing
      cases executing

theorem reconcileLaunch_watched (pending : PendingRecords (record :: rest)) :
    (watching owner).Meets (Watched among (record :: rest)) (Supervisor.reconcileLaunch record)
      (fun _ => Watched among rest) fun _ _ => True := by
  have hydrates : (watching owner).Meets (Watched among (record :: rest))
      (Supervisor.hydrateLaunchIdentity record)
      (fun hydrated state => NextRecord record hydrated ∧ Watched among (hydrated :: rest) state)
      fun _ _ => True := by
    unfold Supervisor.hydrateLaunchIdentity
    split
    · exact Conduct.Meets.pure stable_watched fun _ holds => ⟨.refl, holds⟩
    · rename_i unadopted
      have prepared : record.state = .prepared := by
        by_contra other
        exact unadopted (.inr other)
      refine Conduct.Meets.bind (Still.watched_meets Still.read) fun adoptable => ?_
      cases adoptable with
      | none => exact Conduct.Meets.pure stable_watched fun _ holds => ⟨.refl, holds⟩
      | some process =>
          have follows : NextRecord record { record with
              state := .starting, process := some process, child := some process
              startedAt := some record.preparedAt } :=
            ⟨rfl, ⟨rfl, rfl, rfl, fun _ => by rw [prepared]; rfl⟩, fun _ => rfl⟩
          refine Conduct.Meets.bind (writeAgain_watched follows pending.unread) fun _ => ?_
          exact Conduct.Meets.pure stable_watched fun _ holds => ⟨follows, holds⟩
  refine Conduct.Meets.bind hydrates fun hydrated => ?_
  rintro state ⟨follows, holds⟩
  revert state
  change (watching owner).Meets (Watched among (hydrated :: rest)) _ _ _
  have fresh : ∀ other ∈ rest, other.launchId ≠ hydrated.launchId := by
    rw [follows.launchId]
    exact pending.unread
  have drop : ∀ state : Supervised, Watched among (hydrated :: rest) state →
      Watched among rest state :=
    fun state holds => ⟨fun other member => holds.1 other (List.mem_cons_of_mem _ member), holds.2⟩
  refine Conduct.Meets.bind (Still.watched_meets Still.read) fun alive => ?_
  split
  · refine Conduct.Meets.bind restore_still.watched_meets fun _ => ?_
    refine Conduct.Meets.bind becameReady_still.watched_meets fun ready => ?_
    split
    · exact promoteReady_watched fresh
        (follows.active (pending.active record List.mem_cons_self))
    · exact writeProcessProjection_still.watched_meets.mono (fun _ holds => holds)
        (fun _ => drop) fun _ _ _ => trivial
  · exact Conduct.Meets.bind (exitLaunch_watched fresh) fun _ => recordExit_watched

/-- The instance that a stored record is about. -/
def AgentInstance.instanceKey (item : AgentInstance) : InstanceKey := ⟨item.taskId, item.instanceId⟩

/-- The instances that have been looked at: there was an active launch, or nothing is left that says
    it is executing. -/
def Visited (keys : List InstanceKey) (items : List AgentInstance) (key : InstanceKey) : Prop :=
  key ∈ keys ∨ ∀ item ∈ items, item.instanceKey = key → item.status.isExecuting = false

theorem reconcileInstance_watched {keys : List InstanceKey} {item : AgentInstance}
    {items : List AgentInstance} :
    (watching owner).Meets (Watched (Visited keys (item :: items)) [])
      (Supervisor.reconcileInstance keys item) (fun _ => Watched (Visited keys items) [])
      fun _ _ => True := by
  unfold Supervisor.reconcileInstance
  split
  · have crashes : (watching owner).Meets
        (Watched (fun other => Visited keys items other ∧ other ≠ item.instanceKey) [])
        (Supervisor.transition item.instanceKey .crashed
          (Supervisor.reconcileKey item.instanceId))
        (fun _ => Watched (Visited keys items) []) fun _ _ => True :=
      transition_idle stable_watched (fun _ holds => holds) (fun _ _ kept => .inl kept) rfl
    refine Conduct.Meets.bind (interruptModelCalls_still.watched_meets.strengthen
      fun _ holds => holds.mono fun key looked => ?_) fun _ => crashes
    rcases looked.1 with active | visited
    · exact .inl active
    · refine .inr fun other member same => ?_
      rcases List.mem_cons.mp member with rfl | later
      · exact absurd same.symm looked.2
      · exact visited other later same
  · rename_i skipped
    refine Conduct.Meets.pure stable_watched fun _ holds => holds.mono fun key looked => ?_
    rcases looked with active | visited
    · exact .inl active
    · by_cases active : key ∈ keys
      · exact .inl active
      · refine .inr fun other member same => ?_
        rcases List.mem_cons.mp member with rfl | later
        · cases executing : other.status.isExecuting with
          | false => rfl
          | true =>
              refine absurd ⟨?_, ?_⟩ skipped
              · revert executing
                cases other.status <;> simp [InstanceStatus.isExecuting]
              · rw [← same] at active
                exact active
        · exact visited other later same

/-- Once `reconcile` has returned, every instance that is said to start or to run has an active
    launch. -/
theorem reconcile_accounts : (watching owner).Meets (Sound owner) Supervisor.reconcile
    (fun _ => Accounted fun _ => True) fun _ _ => True := by
  have reads : (watching owner).Meets (Sound owner)
      (Thread.read fun _ state => .ok state.launchRecords : Supervising (List LaunchRecord))
      (fun records => AllRead records) fun _ _ => True := by
    intro before holds later between answer
    refine ⟨trivial, fun final further => ?_⟩
    exact stable_allRead further (allRead_launchRecords (between.1 holds))
  refine Conduct.Meets.bind reads fun records => ?_
  intro state all
  have pending := all.pending
  revert state
  let keys := (activeRecords records).map (·.key)
  have starts : ∀ state : Supervised, AllRead records state →
      Watched (· ∈ keys) (activeRecords records) state := by
    intro state all
    refine ⟨fun record member => all.read.mp (List.mem_filter.mp member).1, fun key member _ => ?_⟩
    obtain ⟨record, listed, rfl⟩ := List.mem_map.mp member
    obtain ⟨read, active⟩ := List.mem_filter.mp listed
    exact .inl ⟨record.launchId, record, all.read.mp read, active, rfl⟩
  refine Conduct.Meets.bind (reconcilePorts_still.watched_meets.strengthen starts) fun _ => ?_
  have loop : ∀ rest, PendingRecords rest → (watching owner).Meets (Watched (· ∈ keys) rest)
      (Thread.forEach Supervisor.reconcileLaunch rest) (fun _ => Watched (· ∈ keys) [])
      fun _ _ => True := by
    intro rest pending
    induction rest with
    | nil => exact Conduct.Meets.pure stable_watched fun _ holds => holds
    | cons record rest ih =>
        exact Conduct.Meets.bind (reconcileLaunch_watched pending) fun _ => ih pending.tail
  refine Conduct.Meets.bind (loop _ pending) fun _ => ?_
  have lists : (watching owner).Meets (Watched (· ∈ keys) [])
      (Thread.read fun _ state => .ok state.instances : Supervising (List AgentInstance))
      (fun items => Watched (Visited keys items) []) fun _ _ => True := by
    refine Conduct.Meets.atomically stable_watched (fun _ _ _ => trivial) ?_
      (fun _ _ _ _ _ => trivial) (fun _ => stable_watched) fun _ => Conduct.Stable.always
    intro answer state items holds returned
    obtain rfl := Except.ok.inj returned
    refine ⟨holds.1, fun key looked executing => ?_⟩
    rcases looked with active | visited
    · exact holds.2 key active executing
    · obtain ⟨status, known, isExecuting⟩ := executing
      obtain ⟨item, found, rfl⟩ := Option.map_eq_some_iff.mp known
      obtain ⟨task, named⟩ := instance?_key found
      have same : item.instanceKey = key := congrArg₂ InstanceKey.mk task named
      rw [visited item (List.mem_of_find?_eq_some found) same] at isExecuting
      cases isExecuting
  refine Conduct.Meets.bind lists fun items => ?_
  refine (Conduct.Meets.forEach (fun rest => Watched (Visited keys rest) [])
    (fun _ => stable_watched) fun item rest => reconcileInstance_watched).mono
      (fun _ holds => holds) (fun _ state holds => ?_) fun _ _ _ => trivial
  refine fun key _ => holds.2 key (.inr fun item member => ?_)
  cases member

end

end DesignHarness
