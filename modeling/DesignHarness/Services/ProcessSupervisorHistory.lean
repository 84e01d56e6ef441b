import DesignHarness.Services.ProcessSupervisorRecovery

/-!
# Runs of the supervisor

The supervisor is a service: `reconcile` is its recovery, an operation on an instance is a call
under the instance, and calls on different instances, other services and the machine interleave at
every step.  The control plane can stop at every step.
-/

namespace DesignHarness

open Library
open Supervised

/-- What happens to a process by itself. -/
inductive ProcessEvent where
  | ends
  | agentEnds
  | handshakes
  deriving DecidableEq, Repr

def ProcessEvent.apply : ProcessEvent → AgentProcess → AgentProcess
  | ends, process => { process with alive := false, childAlive := false }
  | agentEnds, process => { process with childAlive := false }
  | handshakes, process => { process with handshake := true }

/-- What the machine does beside the supervisor. -/
def MachineStep (state later : Supervised) : Prop :=
  ∃ (event : ProcessEvent) (place : Nat),
    later = { state with processes := state.processes.modify place event.apply }

/-- A call of the supervisor, or what other services do to the stored instances and which commands
    they do. -/
inductive SupervisorCall where
  | start (request : Supervisor.StartRequest)
  | restart (request : Supervisor.StartRequest)
  | resume (request : Supervisor.StartRequest)
  | cancel (key : InstanceKey) (idempotencyKey : Option String)
  | suspend (key : InstanceKey) (idempotencyKey : Option String)
  | archive (key : InstanceKey) (idempotencyKey : Option String)
  | monitor (launchId : Identifier)
  | beginModelCall (key : InstanceKey) (attemptId : Identifier) (requestId : String)
  | completeModelCall (taskId attemptId : Identifier)
  | other (instances : List AgentInstance → List AgentInstance)
      (commands : Identifier → String → Option KeptCommand)

namespace SupervisorCall

variable (owner : Identifier → InstanceKey)

/-- The instance whose lock is held. -/
def key : SupervisorCall → Option InstanceKey
  | start request | restart request | resume request => some request.key
  | cancel key _ | suspend key _ | archive key _ | beginModelCall key _ _ => some key
  | monitor launchId => some (owner launchId)
  | completeModelCall _ _ | other _ _ => none

/-- A launch id is derived from the instance it is for. -/
def Allowed : SupervisorCall → Prop
  | start request | restart request | resume request => owner request.launchId = request.key
  | _ => True

def thread : SupervisorCall → Supervising Unit
  | start request => Supervisor.startInstance request >>= fun _ => pure ()
  | restart request => Supervisor.restartInstance request >>= fun _ => pure ()
  | resume request => Supervisor.resumeInstance request >>= fun _ => pure ()
  | cancel key idempotencyKey => Supervisor.cancelInstance key idempotencyKey
  | suspend key idempotencyKey => Supervisor.suspendInstance key idempotencyKey
  | archive key idempotencyKey => Supervisor.archiveInstance key idempotencyKey
  | monitor launchId => Supervisor.monitorLaunch launchId
  | beginModelCall key attemptId requestId =>
      Supervisor.beginModelCall key attemptId requestId >>= fun _ => pure ()
  | completeModelCall taskId attemptId => Supervisor.completeModelCall taskId attemptId
  | other instances commands => Thread.change fun _ state =>
      { state with
        instances := instances state.instances
        commands := fun taskId idempotencyKey =>
          (state.commands taskId idempotencyKey).or (commands taskId idempotencyKey) }

end SupervisorCall

/-- The supervisor as a service. -/
def supervisor (owner : Identifier → InstanceKey) :
    Service (Option InstanceKey) Surroundings Supervised Fault Unit where
  outside := MachineStep
  offered key thread := ∃ call : SupervisorCall, call.Allowed owner ∧ call.key owner = key ∧
    call.thread = thread
  recovery := Supervisor.reconcile

section

variable {owner : Identifier → InstanceKey} {state later : Supervised} {key : InstanceKey}

theorem ProcessEvent.keeps (event : ProcessEvent) (process : AgentProcess) :
    (event.apply process).launchId = process.launchId ∧
      (event.apply process).port = process.port ∧
      ((event.apply process).alive = true → process.alive = true) := by
  cases event with
  | ends => exact ⟨rfl, rfl, fun alive => by cases alive⟩
  | agentEnds => exact ⟨rfl, rfl, fun alive => alive⟩
  | handshakes => exact ⟨rfl, rfl, fun alive => alive⟩

theorem MachineStep.process (happens : MachineStep state later) {index : Nat}
    {process : AgentProcess} (found : later.processes[index]? = some process) :
    ∃ before, state.processes[index]? = some before ∧ before.launchId = process.launchId ∧
      before.port = process.port ∧ (process.alive = true → before.alive = true) := by
  obtain ⟨event, place, rfl⟩ := happens
  simp only [List.getElem?_modify, Option.map_eq_map, Option.map_eq_some_iff] at found
  obtain ⟨before, foundBefore, rfl⟩ := found
  refine ⟨before, foundBefore, ?_⟩
  split
  · obtain ⟨launchId, port, alive⟩ := event.keeps before
    exact ⟨launchId.symm, port.symm, alive⟩
  · exact ⟨rfl, rfl, fun alive => alive⟩

theorem MachineStep.lives (happens : MachineStep state later) {id : Identifier}
    (lives : later.Lives id) : state.Lives id := by
  obtain ⟨process, member, of, alive⟩ := lives
  obtain ⟨index, found⟩ := List.getElem?_of_mem member
  obtain ⟨before, foundBefore, same, -, alive'⟩ := happens.process found
  exact ⟨before, List.mem_of_getElem? foundBefore, same.trans of, alive' alive⟩

theorem MachineStep.rest (happens : MachineStep state later) : later.launches = state.launches ∧
    later.claims = state.claims ∧ later.instances = state.instances ∧
      later.commands = state.commands := by
  obtain ⟨event, place, rfl⟩ := happens
  exact ⟨rfl, rfl, rfl, rfl⟩

theorem MachineStep.sound (happens : MachineStep state later) (sound : state.Sound owner) :
    later.Sound owner := by
  obtain ⟨launches, claims, -⟩ := happens.rest
  refine ⟨?_, ?_, ?_, ?_, ?_, ?_, ?_⟩
  · rw [launches]; exact sound.filed
  · rw [launches]; exact sound.owned
  · rw [launches, claims]
    exact fun found active lives => sound.claimed found active (happens.lives lives)
  · rw [launches]; exact sound.single
  · intro index index' process process' found found' same
    obtain ⟨before, foundBefore, of, -⟩ := happens.process found
    obtain ⟨before', foundBefore', of', -⟩ := happens.process found'
    exact sound.onceEach foundBefore foundBefore' (of.trans (same.trans of'.symm))
  · intro process member
    obtain ⟨index, found⟩ := List.getElem?_of_mem member
    obtain ⟨before, foundBefore, of, port, -⟩ := happens.process found
    obtain ⟨record, filed, same⟩ := sound.filedProcess (List.mem_of_getElem? foundBefore)
    rw [of] at filed
    exact ⟨record, by rw [launches]; exact filed, same.trans port⟩
  · rw [launches]; exact sound.oneCode

theorem MachineStep.undisturbed (happens : MachineStep state later) :
    Undisturbed owner key state later := by
  obtain ⟨launches, claims, -⟩ := happens.rest
  refine ⟨fun _ => by rw [launches], fun _ => by rw [claims], fun found _ => ?_⟩
  obtain ⟨before, foundBefore, of, -, alive⟩ := happens.process found
  exact ⟨before, foundBefore, of, alive⟩

theorem MachineStep.expected {mine : InstanceKey → Prop} {alone : Prop}
    (happens : MachineStep state later) : (supervising owner mine alone).rely state later :=
  ⟨happens.sound, fun _ _ => happens.undisturbed, fun _ => happens.rest.2.2⟩

/-! ## The calls keep to their conduct -/

/-- Other services expect nothing, and leave the launches alone. -/
def besideSupervisor : Conduct Supervised where
  rely _ _ := True
  guarantee := SameLaunches
  refl _ := trivial
  trans _ _ := trivial

def conductUnder (owner : Identifier → InstanceKey) : Option InstanceKey → Conduct Supervised
  | some key => supervisingOne owner key
  | none => besideSupervisor

def settledUnder (owner : Identifier → InstanceKey) : Option InstanceKey → Supervised → Prop
  | some key => Settled owner key
  | none => fun _ => True

theorem settles_discard {α : Type} {operation : Supervising α}
    (settles : Settles owner key operation) :
    Settles owner key (operation >>= fun _ => pure ()) :=
  Settles.bind settles fun _ => Settles.pure

theorem SupervisorCall.settles {call : SupervisorCall} (allowed : call.Allowed owner)
    (under : call.key owner = some key) : Settles owner key call.thread := by
  cases call with
  | start request =>
      obtain rfl := Option.some.inj under
      exact settles_discard (startInstance_settles allowed)
  | restart request =>
      obtain rfl := Option.some.inj under
      exact settles_discard (restartInstance_settles allowed)
  | resume request =>
      obtain rfl := Option.some.inj under
      exact settles_discard (resumeInstance_settles allowed)
  | cancel other idempotencyKey =>
      obtain rfl := Option.some.inj under
      exact cancelInstance_settles
  | suspend other idempotencyKey =>
      obtain rfl := Option.some.inj under
      exact suspendInstance_settles
  | archive other idempotencyKey =>
      obtain rfl := Option.some.inj under
      exact archiveInstance_settles
  | monitor launchId => exact monitorLaunch_settles (Option.some.inj under)
  | beginModelCall other attemptId requestId =>
      exact settles_discard beginModelCall_harmless.settles
  | completeModelCall taskId attemptId => cases under
  | other instances commands => cases under

/-- A call of another service that is one step leaves the launches alone. -/
theorem SupervisorCall.beside {call : SupervisorCall} (under : call.key owner = none) :
    besideSupervisor.Within (fun _ _ => True) call.thread state := by
  cases call with
  | completeModelCall taskId attemptId =>
      intro later _ answer
      refine ⟨?_, fun _ _ => trivial⟩
      simp only
      split <;> exact ⟨rfl, rfl, rfl⟩
  | other instances commands => exact fun later _ answer => ⟨⟨rfl, rfl, rfl⟩, fun _ _ => trivial⟩
  | start request => cases under
  | restart request => cases under
  | resume request => cases under
  | cancel other idempotencyKey => cases under
  | suspend other idempotencyKey => cases under
  | archive other idempotencyKey => cases under
  | monitor launchId => cases under
  | beginModelCall other attemptId requestId => cases under

/-- What holds once `reconcile` has returned. -/
structure SupervisorReconciled (owner : Identifier → InstanceKey) (state : Supervised) : Prop where
  consistent : state.Consistent owner (.remaining [])
  accounted : state.Accounted fun _ => True

theorem SupervisorReconciled.settled (reconciled : SupervisorReconciled owner state)
    (key : InstanceKey) :
    state.Settled owner key := by
  obtain ⟨⟨sound, agree⟩, -⟩ := reconciled
  refine ⟨sound, fun found _ => agree.claims found trivial, fun _ found active => ?_,
    fun record member => by cases member⟩
  exact agree.held (by rintro ⟨⟩) found active

theorem watching_expects {state later : Supervised}
    (expected : (recoveringConduct owner).rely state later) : (watching owner).rely state later :=
  expected

theorem supervisor_verified (owner : Identifier → InstanceKey) :
    (supervisor owner).Verified (Sound owner) (settledUnder owner) (SupervisorReconciled owner)
      (conductUnder owner) (recoveringConduct owner) where
  apart {key other state later} differs sound promised := by
    cases other with
    | none => trivial
    | some other =>
        cases key with
        | none =>
            have same : SameLaunches state later := promised
            exact ⟨fun sound => sound.same same, fun _ _ => same.undisturbed,
              fun impossible => impossible.elim⟩
        | some key =>
            refine ⟨promised.1, fun mine owned => promised.2 mine ?_,
              fun impossible => impossible.elim⟩
            rintro same
            exact differs (congrArg some (same.symm.trans owned))
  aside key state later sound happens := by
    cases key with
    | none => trivial
    | some key => exact MachineStep.expected happens
  asideRecovering _ happens := MachineStep.expected happens
  soundOutside happens sound := MachineStep.sound happens sound
  soundStep {key state later} promised sound := by
    cases key with
    | none => exact sound.same promised
    | some key => exact promised.1 sound
  soundRecovering promised sound := promised.1 sound
  stable key := by
    cases key with
    | none => exact fun _ _ => trivial
    | some key => exact stable_settled
  calls {key thread} offers state sound settled := by
    obtain ⟨call, allowed, under, rfl⟩ := offers
    cases key with
    | none => exact SupervisorCall.beside under
    | some key =>
        have within := SupervisorCall.settles allowed under state settled
        refine within.mono fun outcome later ends => ?_
        cases outcome with
        | ok value => exact ends
        | error fault => exact ends
  recovers {state} sound := by
    have ports : (recoveringConduct owner).Within _ Supervisor.reconcile state :=
      reconcile_consistent state sound
    have accounts : (watching owner).Within _ Supervisor.reconcile state :=
      reconcile_accounts state sound
    refine (ports.and watching_expects accounts).mono fun outcome later ends => ?_
    cases outcome with
    | ok value => exact ⟨ends.1, ends.2⟩
    | error fault => trivial
  settles reconciled key := by
    cases key with
    | none => trivial
    | some key => exact reconciled.settled key

theorem sound_empty : Supervised.empty.Sound owner where
  filed found := by cases found
  owned found := by cases found
  claimed found := by cases found
  single found := by cases found
  onceEach found := by cases found
  filedProcess member := by cases member
  oneCode found := by cases found

/-- The stages of the supervisor from an empty machine on. -/
abbrev SupervisorReaches (owner : Identifier → InstanceKey)
    (stage : Service.Stage (Option InstanceKey) Surroundings Supervised Fault Unit) : Prop :=
  (supervisor owner).Reaches .empty stage

theorem SupervisorReaches.sound
    {stage : Service.Stage (Option InstanceKey) Surroundings Supervised Fault Unit}
    (reached : SupervisorReaches owner stage) : stage.shared.Sound owner := by
  have holds := (supervisor_verified owner).reaches sound_empty reached
  cases stage with
  | stopped shared => exact holds
  | recovering thread shared => exact holds.1
  | serving pool => exact holds.1

def runningInstance (instanceId : Identifier) : AgentInstance :=
  { deckInstance none with instanceId, status := .running }

/-- Everything that is asked for succeeds. -/
def kindSurroundings : Surroundings where
  now := "t9"
  bindable _ := true
  probe _ _ := true
  pinned := .ok "code"
  plan := some ⟨sampleTask, [], [runningInstance "a", runningInstance "b"], []⟩
  revision := 1
  launchConfig := .ok ⟨4000, 4009, 3⟩
  spawning := .ok ()
  commanded := .ok ()
  projected := .ok ()

def sampleKey (instanceId : Identifier) : InstanceKey := ⟨"task", instanceId⟩

def sampleOwner (launchId : Identifier) : InstanceKey :=
  sampleKey (if launchId = "lb" then "b" else "a")

/-- A new launch of an instance that is said to run. -/
def sampleRestart (instanceId launchId : Identifier) : SupervisorCall :=
  .restart ⟨sampleKey instanceId, launchId, "attempt", "spec", "/health", "/ready", "/"⟩

/-- What a call leaves when nothing else happens. -/
def SupervisorCall.after (call : SupervisorCall) (state : Supervised) : Supervised :=
  (call.thread.alone kindSurroundings state).2

def bootedMachine : Supervised := (Supervisor.reconcile.alone kindSurroundings .empty).2

/-- Two instances are said to run, and the first is launched. -/
def oneLaunched : Supervised :=
  (sampleRestart "a" "la").after
    ((SupervisorCall.other (fun _ => [runningInstance "a", runningInstance "b"])
      fun _ _ => none).after bootedMachine)

def twoLaunched : Supervised := (sampleRestart "b" "lb").after oneLaunched

theorem SupervisorReaches.called {state : Supervised}
    (reached : SupervisorReaches owner (.serving (.idle state))) (call : SupervisorCall)
    (allowed : call.Allowed owner) :
    SupervisorReaches owner (.serving (.idle (call.after state))) :=
  Service.Reaches.calls reached ⟨call, allowed, rfl, rfl⟩ kindSurroundings rfl

theorem SupervisorReaches.reconciles
    {stage : Service.Stage (Option InstanceKey) Surroundings Supervised Fault Unit}
    (reached : SupervisorReaches owner stage)
    (returns : (Supervisor.reconcile.alone kindSurroundings stage.shared).1 = .ok ()) :
    SupervisorReaches owner (.recovering (.done (.ok ()))
      (Supervisor.reconcile.alone kindSurroundings stage.shared).2) := by
  have started := (reached.next (.stop stage)).next (.start stage.shared)
  exact Service.Reaches.recovers started kindSurroundings (Prod.ext returns rfl)

theorem oneLaunched_reached : SupervisorReaches sampleOwner (.serving (.idle oneLaunched)) := by
  have booted : SupervisorReaches sampleOwner (.serving (.idle bootedMachine)) :=
    (SupervisorReaches.reconciles .first (by decide +kernel)).next .serve
  exact (booted.called (.other _ _) trivial).called (sampleRestart "a" "la")
    (show sampleOwner "la" = sampleKey "a" by decide)

theorem twoLaunched_reached : SupervisorReaches sampleOwner (.serving (.idle twoLaunched)) :=
  oneLaunched_reached.called (sampleRestart "b" "lb")
    (show sampleOwner "lb" = sampleKey "b" by decide)

/-! ## What holds in every run -/

/-- Two processes of active launches that live never have the same port, at whatever step the
    operations are and wherever the control plane stopped. -/
theorem ports_exclusive
    {stage : Service.Stage (Option InstanceKey) Surroundings Supervised Fault Unit}
    (reached : SupervisorReaches owner stage) {place place' : Nat}
    {process process' : AgentProcess} {record record' : LaunchRecord}
    (found : stage.shared.processes[place]? = some process)
    (found' : stage.shared.processes[place']? = some process')
    (filed : stage.shared.launches.lookup process.launchId = some record)
    (filed' : stage.shared.launches.lookup process'.launchId = some record')
    (active : record.state.isActive = true) (active' : record'.state.isActive = true)
    (alive : process.alive = true) (alive' : process'.alive = true) (differs : place ≠ place') :
    process.port ≠ process'.port := by
  intro samePort
  have sound := reached.sound
  have member := List.mem_of_getElem? found
  have member' := List.mem_of_getElem? found'
  obtain ⟨known, lookup, port⟩ := sound.filedProcess member
  obtain ⟨known', lookup', port'⟩ := sound.filedProcess member'
  obtain rfl := Option.some.inj (filed.symm.trans lookup)
  obtain rfl := Option.some.inj (filed'.symm.trans lookup')
  have claim := sound.claimed filed active ⟨process, member, rfl, alive⟩
  have claim' := sound.claimed filed' active' ⟨process', member', rfl, alive'⟩
  rw [port, samePort] at claim
  rw [port', claim] at claim'
  have same : process.launchId = process'.launchId :=
    congrArg PortClaim.launchId (Option.some.inj claim')
  exact differs (sound.onceEach found found' same)

/-- Two instances that are launched one after the other. -/
theorem ports_exclusive_sample :
    twoLaunched.processes = [⟨"la", 4000, true, true, false⟩, ⟨"lb", 4001, true, true, false⟩] ∧
      (4000 : Nat) ≠ 4001 := by
  have processes : twoLaunched.processes =
      [⟨"la", 4000, true, true, false⟩, ⟨"lb", 4001, true, true, false⟩] := by decide +kernel
  have filed : ∀ id ∈ ["la", "lb"], ∃ record, twoLaunched.launches.lookup id = some record ∧
      record.state.isActive = true := by decide +kernel
  obtain ⟨record, found, active⟩ := filed "la" (by decide)
  obtain ⟨record', found', active'⟩ := filed "lb" (by decide)
  exact ⟨processes, ports_exclusive twoLaunched_reached (congrArg (·[0]?) processes)
    (congrArg (·[1]?) processes) found found' active active' rfl rfl (by decide)⟩

/-- In every state an instance has one active launch at most and all its launches run the same
    code, and a launch starts one process at most, at the port of its record. -/
theorem launches_single
    {stage : Service.Stage (Option InstanceKey) Surroundings Supervised Fault Unit}
    (reached : SupervisorReaches owner stage) :
    (∀ {id id' record record'}, stage.shared.launches.lookup id = some record →
      stage.shared.launches.lookup id' = some record' → record.key = record'.key →
      (record.state.isActive = true → record'.state.isActive = true → id = id') ∧
        (record.codeIdentity ≠ "" → record'.codeIdentity ≠ "" →
          record.codeIdentity = record'.codeIdentity)) ∧
      ∀ {place : Nat} {process}, stage.shared.processes[place]? = some process →
        (∃ record, stage.shared.launches.lookup process.launchId = some record ∧
          record.port = process.port) ∧
        ∀ {place' : Nat} {process'}, stage.shared.processes[place']? = some process' →
          process.launchId = process'.launchId → place = place' := by
  have sound := reached.sound
  refine ⟨fun {id id' record record'} found found' same => ?_, fun {place process} found => ?_⟩
  · rw [sound.owned found, sound.owned found'] at same
    exact ⟨fun active active' => sound.single found found' active active' same,
      fun coded coded' => sound.oneCode found found' same coded coded'⟩
  · exact ⟨sound.filedProcess (List.mem_of_getElem? found),
      fun found' same => sound.onceEach found found' same⟩

theorem launches_single_sample :
    twoLaunched.processes[1]? = some ⟨"lb", 4001, true, true, false⟩ ∧
      ∃ record, twoLaunched.launches.lookup "lb" = some record ∧ record.port = 4001 := by
  have found : twoLaunched.processes[1]? = some ⟨"lb", 4001, true, true, false⟩ := by
    decide +kernel
  exact ⟨found, ((launches_single twoLaunched_reached).2 found).1⟩

/-- While no operation on an instance is under way, its claims are the ports of its active
    launch. -/
theorem idle_claims {pool : Pool (Option InstanceKey) Surroundings Supervised Fault Unit}
    (reached : SupervisorReaches owner (.serving pool)) (idle : pool.calls (some key) = none)
    {port : Nat} {id : Identifier} (owned : owner id = key) :
    pool.shared.claims port = some ⟨key, id⟩ ↔
      ∃ record, pool.shared.launches.lookup id = some record ∧ record.state.isActive = true ∧
        record.port = port := by
  have holds := ((supervisor_verified owner).reaches sound_empty reached).2 (some key)
  rw [idle] at holds
  obtain ⟨sound, agree⟩ : pool.shared.Settled owner key := holds
  constructor
  · exact fun claimed => agree.claims claimed owned
  · rintro ⟨record, found, active, rfl⟩
    rw [← owned]
    exact agree.held owned found active

theorem idle_claims_sample : twoLaunched.claims 4001 = some ⟨sampleKey "b", "lb"⟩ := by
  have launched : ∃ record, twoLaunched.launches.lookup "lb" = some record ∧
      record.state.isActive = true ∧ record.port = 4001 := by decide +kernel
  have owned : sampleOwner "lb" = sampleKey "b" := by decide
  exact (idle_claims twoLaunched_reached rfl owned).mpr launched

end

end DesignHarness
