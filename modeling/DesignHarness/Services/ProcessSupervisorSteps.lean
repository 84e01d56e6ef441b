import DesignHarness.Services.ProcessSupervisorRules

/-!
# What the operations of the supervisor keep

An operation works on one launch at a time.  `Focus` is what it knows of this launch: its record,
the ports of its claims, its processes.  Every step of an operation changes the focus in one
place (`write_meets`, `release_meets`, `spawn_meets` and so on); an operation on an instance that is
settled leaves it settled, however it ends (`start_settles` and the theorems after it).
-/

namespace DesignHarness

open Library

/-- What is known of a launch while an operation is at it. -/
structure Focus where
  record : Option LaunchRecord
  /-- Its claims are at these ports. -/
  ports : Nat → Prop
  /-- It claims this port. -/
  claimed : Option Nat
  /-- Its processes are at these places. -/
  places : Nat → Prop
  /-- None of its processes lives. -/
  dead : Prop
  /-- Holds of the other records of the instance. -/
  others : LaunchRecord → Prop

namespace Supervised

variable (owner : Identifier → InstanceKey)

structure Knows (id : Identifier) (focus : Focus) (state : Supervised) : Prop where
  record : state.launches.lookup id = focus.record
  ports : ∀ {port claim}, state.claims port = some claim → claim.launchId = id → focus.ports port
  claimed : ∀ {port}, focus.claimed = some port → state.claims port = some ⟨owner id, id⟩
  places : ∀ {index process}, state.processes[index]? = some process →
    AgentProcess.launchId process = id → focus.places index
  dead : focus.dead → ¬state.Lives id
  others : ∀ {other record}, other ≠ id → owner other = owner id →
    state.launches.lookup other = some record → focus.others record

/-- The operation is at the launch. -/
structure At (scope : Scope) (id : Identifier) (focus : Focus) (state : Supervised) : Prop where
  sound : state.Sound owner
  agree : state.Agree owner (scope.except id)
  knows : state.Knows owner id focus

end Supervised

open Supervised

section

variable {owner : Identifier → InstanceKey} {mine : InstanceKey → Prop} {alone : Prop}
  {scope : Supervised.Scope} {id : Identifier} {focus : Focus} {state later : Supervised}

theorem Supervised.Knows.same (knows : state.Knows owner id focus)
    (same : SameLaunches state later) : later.Knows owner id focus := by
  obtain ⟨launches, claims, processes⟩ := same
  refine ⟨?_, ?_, ?_, ?_, ?_, ?_⟩
  · rw [launches]; exact knows.record
  · rw [claims]; exact knows.ports
  · rw [claims]; exact knows.claimed
  · rw [processes]; exact knows.places
  · rw [Lives, processes]; exact knows.dead
  · rw [launches]; exact knows.others

theorem Supervised.At.same (at' : state.At owner scope id focus) (same : SameLaunches state later) :
    later.At owner scope id focus :=
  ⟨at'.sound.same same, at'.agree.same same, at'.knows.same same⟩

theorem stable_knows (owned : mine (owner id)) :
    (supervising owner mine alone).Stable fun state => state.Knows owner id focus := by
  intro state later between knows
  refine ⟨stable_lookup owned between knows.record, ?_, ?_, ?_, ?_, ?_⟩
  · intro port claim found same
    exact stable_claims owned between (fun _ _ => knows.ports) port claim found same
  · intro port claimed
    have lasting : (supervising owner mine alone).Stable fun state =>
        state.claims port = some ⟨owner id, id⟩ := stable_claim owned
    exact lasting between (knows.claimed claimed)
  · intro index process found same
    exact stable_processes owned between (fun _ _ => knows.places) index process found same
  · exact fun dead => stable_dead owned between (knows.dead dead)
  · intro other record differs same found
    rw [(between.2.1 _ owned).launches same] at found
    exact knows.others differs same found

theorem Supervised.Scope.Mine.except (within : scope.Mine owner mine) :
    (scope.except id).Mine owner mine :=
  ⟨fun known => within.claims known.2, fun known => within.held known.2,
    fun record member => within.read record (List.mem_filter.mp member).1⟩

theorem stable_at (within : scope.Mine owner mine) (owned : mine (owner id)) :
    (supervising owner mine alone).Stable fun state => state.At owner scope id focus :=
  fun between holds => ⟨stable_sound between holds.sound,
    stable_agree within.except between holds.agree, stable_knows owned between holds.knows⟩

/-- The operation leaves alone everything but the instances and the model calls. -/
def Harmless {α : Type} (operation : Supervising α) : Prop :=
  ∀ {owner : Identifier → InstanceKey} {mine : InstanceKey → Prop} {alone : Prop}
    {condition : Supervised → Prop}, (supervising owner mine alone).Stable condition →
    (∀ {state later}, SameLaunches state later → condition state → condition later) →
    (supervising owner mine alone).Meets condition operation (fun _ => condition)
      fun _ => condition

theorem Supervised.SameLaunches.promised (same : SameLaunches state later) :
    (supervising owner mine alone).guarantee state later :=
  ⟨fun sound => sound.same same, fun _ _ => same.undisturbed⟩

namespace Harmless

variable {α β : Type}

theorem atomically {body : Surroundings → Supervised → Except Fault α × Supervised}
    (same : ∀ answer state, SameLaunches state (body answer state).2) :
    Harmless (Thread.atomically body) := by
  intro owner mine alone condition stable blind
  refine Conduct.Meets.atomically stable ?_ ?_ ?_ (fun _ => stable) fun _ => stable
  · exact fun answer state _ => (same answer state).promised
  · exact fun answer state _ holds _ => blind (same answer state) holds
  · exact fun answer state _ holds _ => blind (same answer state) holds

theorem read {body : Surroundings → Supervised → Except Fault α} : Harmless (Thread.read body) :=
  Harmless.atomically fun _ _ => ⟨rfl, rfl, rfl⟩

theorem pure {value : α} : Harmless (Pure.pure value) :=
  fun stable _ => Conduct.Meets.pure stable fun _ holds => holds

theorem raise {fault : Fault} : Harmless (Thread.raise fault : Supervising α) :=
  fun stable _ => Conduct.Meets.raise stable fun _ holds => holds

theorem bind {operation : Supervising α} {next : α → Supervising β} (first : Harmless operation)
    (rest : ∀ value, Harmless (next value)) : Harmless (operation >>= next) :=
  fun stable blind => Conduct.Meets.bind (first stable blind) fun value => rest value stable blind

theorem forEach {items : List α} {body : α → Supervising Unit}
    (each : ∀ item, Harmless (body item)) : Harmless (Thread.forEach body items) := by
  intro owner mine alone condition stable blind
  exact Conduct.Meets.forEach (fun _ => condition) (fun _ => stable) fun item _ =>
    each item stable blind

/-- A quiet operation at a launch. -/
theorem at_meets {operation : Supervising α} (quiet : Harmless operation)
    (within : scope.Mine owner mine) (owned : mine (owner id)) :
    (supervising owner mine alone).Meets (At owner scope id focus) operation
      (fun _ => At owner scope id focus) fun _ => At owner scope id focus :=
  quiet (stable_at within owned) fun same holds => holds.same same

end Harmless

theorem requireInstance_harmless {key : InstanceKey} : Harmless (Supervisor.requireInstance key) :=
  Harmless.read

theorem transition_harmless {key : InstanceKey} {target : InstanceStatus}
    {idempotencyKey : String} :
    Harmless (Supervisor.transition key target idempotencyKey) := by
  refine Harmless.atomically fun answer state => ?_
  cases state.instance? key with
  | none => exact ⟨rfl, rfl, rfl⟩
  | some item =>
      simp only
      split
      · exact ⟨rfl, rfl, rfl⟩
      · split
        · exact ⟨rfl, rfl, rfl⟩
        · next done => exact (transitioned done).sameLaunches

theorem writeProcessProjection_harmless {record : LaunchRecord} {process : ProcessState} :
    Harmless (Supervisor.writeProcessProjection record process) := by
  refine Harmless.atomically fun answer state => ?_
  split <;> exact ⟨rfl, rfl, rfl⟩

theorem interruptModelCalls_harmless {key : InstanceKey} {reason : String} :
    Harmless (Supervisor.interruptModelCalls key reason) :=
  Harmless.bind Harmless.read fun _ => Harmless.forEach fun _ =>
    Harmless.atomically fun _ _ => ⟨rfl, rfl, rfl⟩

theorem interruptFor_harmless {key : InstanceKey} {reason : Option String} :
    Harmless (Supervisor.interruptFor key reason) := by
  cases reason with
  | none => exact Harmless.pure
  | some reason => exact interruptModelCalls_harmless

/-! ## Steps at a launch -/

variable {raises : Fault → Supervised → Prop}

/-- A step from a launch in one focus to the launch in another. -/
theorem change_meets {act : Surroundings → Supervised → Supervised} {next : Focus}
    (within : scope.Mine owner mine) (owned : mine (owner id))
    (moves : ∀ answer {state}, state.At owner scope id focus →
      (act answer state).At owner scope id next)
    (apart : ∀ answer {state}, state.At owner scope id focus → ∀ key, key ≠ owner id →
      Undisturbed owner key state (act answer state)) :
    (supervising owner mine alone).Meets (At owner scope id focus) (Thread.change act)
      (fun _ => At owner scope id next) raises := by
  refine Conduct.Meets.change (stable_at within owned) ?_ ?_ (stable_at within owned)
  · refine fun answer state holds => ⟨fun _ => (moves answer holds).sound, fun key other => ?_⟩
    exact apart answer holds key fun same => other (same ▸ owned)
  · exact fun answer state holds => moves answer holds

/-- The focus once the launch has this record. -/
def Focus.withRecord (focus : Focus) (record : LaunchRecord) : Focus :=
  { focus with record := some record }

variable {record old : LaunchRecord}

theorem Supervised.Knows.writeLaunch (knows : state.Knows owner record.launchId focus) :
    (state.writeLaunch record).Knows owner record.launchId (focus.withRecord record) where
  record := lookup_writeLaunch
  ports := knows.ports
  claimed := knows.claimed
  places := knows.places
  dead := knows.dead
  others differs same found := by
    rw [lookup_writeLaunch_ne differs] at found
    exact knows.others differs same found

/-- A record is written again: what stays of it, and that it does not become active. -/
structure Rewrites (old record : LaunchRecord) : Prop where
  key : record.key = old.key
  port : record.port = old.port
  code : record.codeIdentity = old.codeIdentity
  active : record.state.isActive = true → old.state.isActive = true

theorem rewrite_meets (record : LaunchRecord) (within : scope.Mine owner mine)
    (owned : mine (owner record.launchId))
    (known : focus.record = some old) (rewrites : Rewrites old record) :
    (supervising owner mine alone).Meets (At owner scope record.launchId focus)
      (Supervisor.writeLaunch record)
      (fun _ => At owner scope record.launchId (focus.withRecord record)) raises := by
  refine change_meets within owned (fun _ state holds => ?_) fun _ state holds key apart =>
    Undisturbed.writeLaunch apart
  have found := holds.knows.record.trans known
  exact ⟨holds.sound.rewrite found rewrites.key rewrites.port rewrites.code rewrites.active,
    holds.agree.writeLaunch, holds.knows.writeLaunch⟩

/-- The first record of a launch. -/
theorem writeNew_meets (record : LaunchRecord) (within : scope.Mine owner mine)
    (owned : mine (owner record.launchId))
    (absent : focus.record = none) (keyed : record.key = owner record.launchId)
    (vacant : ∀ other, focus.others other → other.state.isActive = false ∧
      (other.codeIdentity ≠ "" → other.codeIdentity = record.codeIdentity)) :
    (supervising owner mine alone).Meets (At owner scope record.launchId focus)
      (Supervisor.writeLaunch record)
      (fun _ => At owner scope record.launchId (focus.withRecord record)) raises := by
  refine change_meets within owned (fun _ state holds => ?_) fun _ state holds key apart =>
    Undisturbed.writeLaunch apart
  have missing := holds.knows.record.trans absent
  have each : ∀ id other, owner id = owner record.launchId →
      state.launches.lookup id = some other → focus.others other := by
    intro id other same found
    refine holds.knows.others ?_ same found
    rintro rfl
    rw [missing] at found
    cases found
  exact ⟨holds.sound.writeNew missing keyed
      (fun id other same found => (vacant other (each id other same found)).1)
      (fun id other same found => (vacant other (each id other same found)).2),
    holds.agree.writeLaunch, holds.knows.writeLaunch⟩

/-- The focus once the launch has given up a port. -/
def Focus.without (focus : Focus) (port : Nat) : Focus :=
  { focus with ports := fun other => other ≠ port ∧ focus.ports other, claimed := none }

theorem claim_of_any {port : Nat}
    (released : (state.claims port).any (fun claim => claim.launchId = id) = true) :
    ∃ claim, state.claims port = some claim ∧ claim.launchId = id := by
  cases found : state.claims port with
  | none => simp [found] at released
  | some claim => exact ⟨claim, rfl, by simpa [found] using released⟩

/-- A launch gives up a port once its record is not active, or its processes have ended. -/
theorem release_meets (port : Nat) (within : scope.Mine owner mine) (owned : mine (owner id))
    (ended : ∀ record, focus.record = some record → record.state.isActive = true → focus.dead) :
    (supervising owner mine alone).Meets (At owner scope id focus)
      (Supervisor.release id port) (fun _ => At owner scope id (focus.without port)) raises := by
  refine change_meets within owned (fun _ state holds => ?_) fun _ state holds key apart => ?_
  · obtain ⟨sound, agree, knows⟩ := holds
    split
    · rename_i released
      obtain ⟨claim, found, rfl⟩ := claim_of_any released
      refine ⟨sound.release found fun record lookup active =>
        knows.dead (ended record (knows.record.symm.trans lookup) active), agree.release found,
        knows.record, ?_, fun claimed => (by cases claimed), knows.places, knows.dead, knows.others⟩
      intro other claim' present of
      by_cases same : other = port
      · subst same
        have gone : (state.setClaim other none).claims other = none := setClaim_at
        change (state.setClaim other none).claims other = _ at present
        rw [gone] at present
        cases present
      · change (state.setClaim port none).claims other = _ at present
        rw [setClaim_ne same] at present
        exact ⟨same, knows.ports present of⟩
    · rename_i kept
      refine ⟨sound, agree, knows.record, ?_, fun claimed => (by cases claimed), knows.places,
        knows.dead, knows.others⟩
      intro other claim present of
      refine ⟨?_, knows.ports present of⟩
      rintro rfl
      rw [present] at kept
      simp [of] at kept
  · split
    · rename_i released
      obtain ⟨claim, found, rfl⟩ := claim_of_any released
      exact Undisturbed.release apart found
    · exact .refl

/-- The focus with every process of the launch ended. -/
def Focus.ended (focus : Focus) : Focus := { focus with dead := True }

theorem Supervised.Knows.terminate (knows : state.Knows owner id focus) (process : Nat) :
    (state.terminate process).Knows owner id focus where
  record := knows.record
  ports := knows.ports
  claimed := knows.claimed
  places found of := by
    obtain ⟨before, foundBefore, same, -, -⟩ := terminate_processes found
    exact knows.places foundBefore (same.trans of)
  dead dead lives := by
    refine knows.dead dead ?_
    obtain ⟨process, member, of, alive⟩ := lives
    obtain ⟨index, found⟩ := List.getElem?_of_mem member
    obtain ⟨before, foundBefore, same, -, lived⟩ := terminate_processes found
    exact ⟨before, List.mem_of_getElem? foundBefore, same.trans of, (lived alive).1⟩
  others := knows.others

theorem Supervised.At.terminateIf (holds : state.At owner scope id focus)
    (condition : Supervised → Bool) (process : Option Nat) :
    (match process with
      | some process => if condition state then state.terminate process else state
      | none => state).At owner scope id focus := by
  cases process with
  | none => exact holds
  | some process =>
      simp only
      split
      · exact ⟨holds.sound.terminate process, ⟨holds.agree.claims, holds.agree.held,
          holds.agree.read⟩, holds.knows.terminate process⟩
      · exact holds

theorem Supervised.Undisturbed.terminateIf {key : InstanceKey} (condition : Supervised → Bool)
    (process : Option Nat) : Undisturbed owner key state (match process with
      | some process => if condition state then state.terminate process else state
      | none => state) := by
  cases process with
  | none => exact .refl
  | some process =>
      simp only
      split
      · exact .terminate process
      · exact .refl

theorem terminate_meets {condition : Supervised → Bool} {process : Option Nat}
    (within : scope.Mine owner mine) (owned : mine (owner id)) :
    (supervising owner mine alone).Meets (At owner scope id focus)
      (Supervisor.terminateIf condition process) (fun _ => At owner scope id focus) raises :=
  change_meets within owned (fun _ _ holds => holds.terminateIf condition process)
    fun _ _ _ _ _ => .terminateIf condition process

/-- The one process of the launch is terminated, when it still lives. -/
theorem terminateLast_meets {process : Option Nat} (within : scope.Mine owner mine)
    (owned : mine (owner id)) (only : ∀ index, focus.places index → process = some index) :
    (supervising owner mine alone).Meets (At owner scope id focus)
      (Supervisor.terminateIf (fun state => process.any state.isAlive) process)
      (fun _ => At owner scope id focus.ended) raises := by
  refine change_meets within owned (fun _ state holds => ?_)
    fun _ _ _ _ _ => .terminateIf (fun state => process.any state.isAlive) process
  have kept := holds.terminateIf (fun state => process.any state.isAlive) process
  refine ⟨kept.sound, kept.agree, { kept.knows with dead := fun _ lives => ?_ }⟩
  obtain ⟨found, member, of, alive⟩ := lives
  obtain ⟨index, lookup⟩ := List.getElem?_of_mem member
  obtain rfl := only index (kept.knows.places lookup of)
  simp only [Option.any_some] at lookup
  split at lookup
  · obtain ⟨before, -, -, -, lived⟩ := terminate_processes lookup
    exact (lived alive).2 rfl
  · rename_i ended
    simp [isAlive, lookup, alive] at ended

/-! ### Ports -/

/-- The focus once the launch claims the port. -/
def Focus.claiming (focus : Focus) (port : Nat) : Focus :=
  { focus with ports := (· = port), claimed := some port }

theorem Supervised.At.claim {port : Nat} (holds : state.At owner scope id focus)
    (free : state.claims port = none) (only : ∀ other, focus.ports other → other = port) :
    (state.setClaim port (some ⟨owner id, id⟩)).At owner scope id (focus.claiming port) where
  sound := holds.sound.claim free _
  agree := Agree.claim ⟨owner id, id⟩ holds.agree free
  knows := by
    refine ⟨holds.knows.record, fun {other claim} present of => ?_, fun {other} same => ?_,
      holds.knows.places, holds.knows.dead, holds.knows.others⟩
    · by_cases same : other = port
      · exact same
      · rw [setClaim_ne same] at present
        exact only other (holds.knows.ports present of)
    · obtain rfl := Option.some.inj same
      exact setClaim_at

theorem allocate_meets {start stop : Nat} (within : scope.Mine owner mine)
    (owned : mine (owner id)) (unclaimed : ∀ port, ¬focus.ports port) :
    (supervising owner mine alone).Meets (At owner scope id focus)
      (Supervisor.allocate (owner id) id start stop)
      (fun port => At owner scope id (focus.claiming port)) fun _ => At owner scope id focus := by
  refine Conduct.Meets.atomically (stable_at within owned) ?_ ?_ ?_
    (fun _ => stable_at within owned) fun _ => stable_at within owned
  · intro answer state holds
    split
    · rename_i port found
      have free : state.claims port = none := by
        have chosen := List.find?_some found
        simp only [Bool.and_eq_true, Option.isNone_iff_eq_none] at chosen
        exact chosen.1
      have moved := holds.claim free fun other claims => absurd claims (unclaimed other)
      refine ⟨fun _ => moved.sound, fun key apart => ?_⟩
      exact Undisturbed.claim ⟨owner id, id⟩ (fun same => apart (same ▸ owned)) free
    · exact (SameLaunches.mk rfl rfl rfl).promised
  · intro answer state value holds returned
    split at returned
    · rename_i port found
      simp only
      obtain rfl := Except.ok.inj returned
      have free : state.claims port = none := by
        have chosen := List.find?_some found
        simp only [Bool.and_eq_true, Option.isNone_iff_eq_none] at chosen
        exact chosen.1
      exact holds.claim free fun other claims => absurd claims (unclaimed other)
    · cases returned
  · intro answer state fault holds raised
    split at raised
    · cases raised
    · exact holds

theorem restore_meets {port : Nat} (within : scope.Mine owner mine) (owned : mine (owner id))
    (only : ∀ other, focus.ports other → other = port) :
    (supervising owner mine alone).Meets (At owner scope id focus)
      (Supervisor.restore (owner id) id port)
      (fun _ => At owner scope id (focus.claiming port)) fun _ => At owner scope id focus := by
  have moves : ∀ {state : Supervised}, state.At owner scope id focus →
      state.claims port = some ⟨owner id, id⟩ → state.At owner scope id (focus.claiming port) := by
    intro state holds claimed
    refine ⟨holds.sound, holds.agree, holds.knows.record,
      fun present of => only _ (holds.knows.ports present of), fun same => ?_,
      holds.knows.places, holds.knows.dead, holds.knows.others⟩
    obtain rfl := Option.some.inj same
    exact claimed
  refine Conduct.Meets.atomically (stable_at within owned) ?_ ?_ ?_
    (fun _ => stable_at within owned) fun _ => stable_at within owned
  · intro answer state holds
    cases found : state.claims port with
    | some claim =>
        simp only
        split <;> exact (SameLaunches.mk rfl rfl rfl).promised
    | none =>
        have moved := holds.claim found only
        refine ⟨fun _ => moved.sound, fun key apart => ?_⟩
        exact Undisturbed.claim ⟨owner id, id⟩ (fun same => apart (same ▸ owned)) found
  · intro answer state value holds returned
    cases found : state.claims port with
    | some claim =>
        simp only [found] at returned ⊢
        split at returned
        · rename_i same
          rw [if_pos same]
          exact moves holds (found.trans (congrArg some same))
        · cases returned
    | none => exact holds.claim found only
  · intro answer state fault holds raised
    cases found : state.claims port with
    | some claim =>
        simp only [found] at raised ⊢
        split <;> exact holds
    | none =>
        simp only [found] at raised
        cases raised

/-- The focus once a process was started for the launch. -/
def Focus.spawned (focus : Focus) (process : Nat) : Focus :=
  { focus with places := (· = process), dead := False }

theorem spawn_meets (within : scope.Mine owner mine) (owned : mine (owner record.launchId))
    (known : focus.record = some record) (claimed : focus.claimed = some record.port)
    (unstarted : ∀ index, ¬focus.places index) :
    (supervising owner mine alone).Meets (At owner scope record.launchId focus)
      (Supervisor.spawn record)
      (fun process => At owner scope record.launchId (focus.spawned process))
      fun _ => At owner scope record.launchId focus := by
  have moves : ∀ {state : Supervised}, state.At owner scope record.launchId focus →
      (state.spawn record.launchId record.port).At owner scope record.launchId
        (focus.spawned state.processes.length) := by
    intro state holds
    have none : ∀ process ∈ state.processes, process.launchId ≠ record.launchId := by
      intro process member of
      obtain ⟨index, found⟩ := List.getElem?_of_mem member
      exact unstarted index (holds.knows.places found of)
    refine ⟨holds.sound.spawn (holds.knows.record.trans known) rfl (holds.knows.claimed claimed)
      none, ⟨holds.agree.claims, holds.agree.held, holds.agree.read⟩, holds.knows.record,
      holds.knows.ports, holds.knows.claimed, fun found of => ?_, fun dead => dead.elim,
      holds.knows.others⟩
    rcases spawn_processes found with before | ⟨place, -, -⟩
    · exact absurd of (none _ (List.mem_of_getElem? before))
    · exact place
  refine Conduct.Meets.atomically (stable_at within owned) ?_ ?_ ?_
    (fun _ => stable_at within owned) fun _ => stable_at within owned
  · intro answer state holds
    split
    · exact (SameLaunches.mk rfl rfl rfl).promised
    · refine ⟨fun _ => (moves holds).sound, fun key apart => ?_⟩
      exact Undisturbed.spawn fun same => apart (same ▸ owned)
  · intro answer state value holds returned
    split at returned
    · cases returned
    · obtain rfl := Except.ok.inj returned
      exact moves holds
  · intro answer state fault holds raised
    split at raised
    · exact holds
    · cases raised

theorem stable_consistent (within : scope.Mine owner mine) :
    (supervising owner mine alone).Stable (Consistent owner scope) :=
  Conduct.Stable.and stable_sound (stable_agree within)

/-- The operation is done with the launch: it is active and claims its port, or has no claim. -/
structure Focus.Done (focus : Focus) : Prop where
  ports : ∀ port, focus.ports port → ∃ record, focus.record = some record ∧
    record.state.isActive = true ∧ record.port = port
  held : ∀ record, focus.record = some record → record.state.isActive = true →
    focus.claimed = some record.port

theorem Supervised.At.leave (holds : state.At owner scope id focus) (done : focus.Done)
    (unread : ∀ record ∈ scope.read, record.launchId ≠ id) : state.Consistent owner scope := by
  refine ⟨holds.sound, fun {port claim} found known => ?_, fun {other record} known found active =>
    ?_, fun record member => ?_⟩
  · by_cases same : claim.launchId = id
    · obtain ⟨record, recorded, active, at'⟩ := done.ports port (holds.knows.ports found same)
      exact ⟨record, by rw [same, holds.knows.record, recorded], active, at'⟩
    · exact holds.agree.claims found ⟨same, known⟩
  · by_cases same : other = id
    · subst same
      have recorded := holds.knows.record.symm.trans found
      exact holds.knows.claimed (done.held record recorded active)
    · exact holds.agree.held ⟨same, known⟩ found active
  · refine holds.agree.read record (List.mem_filter.mpr ⟨member, ?_⟩)
    exact decide_eq_true (unread record member)

theorem Supervised.Agree.except (agree : state.Agree owner scope) :
    state.Agree owner (scope.except id) :=
  ⟨fun found known => agree.claims found known.2, fun known => agree.held known.2,
    fun record member => agree.read record (List.mem_filter.mp member).1⟩

end

end DesignHarness
