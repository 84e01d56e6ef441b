import DesignHarness.Services.ProcessSupervisor

/-!
# Launches, ports and processes

What holds of the records of launches, of the port claims and of the processes in every state
(`Supervised.Sound`), and what holds besides of an instance when no operation on it is under way
(`Supervised.Settled`): its claims are those of its active launches.  `owner` names the instance
that a launch id is derived from.
-/

namespace DesignHarness

open Library

namespace Supervised

/-- A process of the launch lives. -/
def Lives (state : Supervised) (launchId : Identifier) : Prop :=
  ∃ process ∈ state.processes, process.launchId = launchId ∧ process.alive = true

variable (owner : Identifier → InstanceKey)

/-- The invariant of the supervisor. -/
structure Sound (state : Supervised) : Prop where
  filed : ∀ {id record}, state.launches.lookup id = some record → record.launchId = id
  owned : ∀ {id record}, state.launches.lookup id = some record → record.key = owner id
  /-- The port of an active launch whose process lives is claimed by it. -/
  claimed : ∀ {id record}, state.launches.lookup id = some record → record.state.isActive = true →
    state.Lives id → state.claims record.port = some ⟨owner id, id⟩
  /-- An instance has one active launch at most. -/
  single : ∀ {id id' record record'}, state.launches.lookup id = some record →
    state.launches.lookup id' = some record' → record.state.isActive = true →
    record'.state.isActive = true → owner id = owner id' → id = id'
  /-- A launch has one process at most. -/
  onceEach : ∀ {index index' : Nat} {process process' : AgentProcess},
    state.processes[index]? = some process →
    state.processes[index']? = some process' → process.launchId = process'.launchId →
    index = index'
  /-- A process runs at the port of its launch. -/
  filedProcess : ∀ {process : AgentProcess}, process ∈ state.processes →
    ∃ record, state.launches.lookup process.launchId = some record ∧ record.port = process.port
  /-- The code of an instance never changes. -/
  oneCode : ∀ {id id' record record'}, state.launches.lookup id = some record →
    state.launches.lookup id' = some record' → owner id = owner id' → record.codeIdentity ≠ "" →
    record'.codeIdentity ≠ "" → record.codeIdentity = record'.codeIdentity

/-- What belongs to the instance is as it was, except that its processes may have ended. -/
structure Undisturbed (key : InstanceKey) (state later : Supervised) : Prop where
  launches : ∀ {id}, owner id = key → later.launches.lookup id = state.launches.lookup id
  claims : ∀ {port : Nat} {claim : PortClaim}, owner claim.launchId = key →
    (later.claims port = some claim ↔ state.claims port = some claim)
  processes : ∀ {index : Nat} {process : AgentProcess}, later.processes[index]? = some process →
    owner process.launchId = key → ∃ before, state.processes[index]? = some before ∧
      before.launchId = process.launchId ∧ (process.alive = true → before.alive = true)

/-- The launches about which something is known: whose claims, whose active records, and which
    records are as they were read. -/
structure Scope where
  claims : Identifier → Prop
  held : Identifier → Prop
  read : List LaunchRecord

/-- Within the scope, claims belong to active launches, which hold their ports. -/
structure Agree (scope : Scope) (state : Supervised) : Prop where
  claims : ∀ {port : Nat} {claim : PortClaim}, state.claims port = some claim →
    scope.claims claim.launchId →
    ∃ record, state.launches.lookup claim.launchId = some record ∧
      record.state.isActive = true ∧ record.port = port
  held : ∀ {id record}, scope.held id → state.launches.lookup id = some record →
    record.state.isActive = true → state.claims record.port = some ⟨owner id, id⟩
  read : ∀ record ∈ scope.read, state.launches.lookup record.launchId = some record

/-- All launches of the instance. -/
def Scope.ofInstance (key : InstanceKey) : Scope := ⟨(owner · = key), (owner · = key), []⟩

/-- The launches of the scope other than one. -/
def Scope.except (scope : Scope) (id : Identifier) : Scope :=
  ⟨fun other => other ≠ id ∧ scope.claims other, fun other => other ≠ id ∧ scope.held other,
    scope.read.filter (·.launchId ≠ id)⟩

/-- The invariant, and the agreement of claims and launches within the scope. -/
def Consistent (scope : Scope) (state : Supervised) : Prop :=
  state.Sound owner ∧ state.Agree owner scope

/-- What holds of an instance when no operation on it is under way. -/
def Settled (key : InstanceKey) (state : Supervised) : Prop :=
  state.Consistent owner (.ofInstance owner key)

section

variable {owner} {key : InstanceKey} {state later final : Supervised}

theorem Undisturbed.refl : Undisturbed owner key state state :=
  ⟨fun _ => rfl, fun _ => Iff.rfl, fun found _ => ⟨_, found, rfl, id⟩⟩

theorem Undisturbed.trans (first : Undisturbed owner key state later)
    (second : Undisturbed owner key later final) : Undisturbed owner key state final where
  launches owned := (second.launches owned).trans (first.launches owned)
  claims owned := (second.claims owned).trans (first.claims owned)
  processes found owned := by
    obtain ⟨between, foundBetween, same, alive⟩ := second.processes found owned
    rw [← same] at owned
    obtain ⟨before, foundBefore, same', alive'⟩ := first.processes foundBetween owned
    exact ⟨before, foundBefore, same'.trans same, alive' ∘ alive⟩

/-- Nothing but the instances, the commands and the model calls differ. -/
structure SameLaunches (state later : Supervised) : Prop where
  launches : later.launches = state.launches
  claims : later.claims = state.claims
  processes : later.processes = state.processes

theorem SameLaunches.undisturbed (same : SameLaunches state later) :
    Undisturbed owner key state later := by
  obtain ⟨launches, claims, processes⟩ := same
  refine ⟨fun _ => by rw [launches], fun _ => by rw [claims], fun found _ => ?_⟩
  rw [processes] at found
  exact ⟨_, found, rfl, id⟩

/-- What a transition does: a command that was done before under its key changes nothing. -/
inductive Transitioned (key : InstanceKey) (target : InstanceStatus) (idempotencyKey : String)
    (state later : Supervised) : Prop where
  | replayed (kept : state.commands key.taskId idempotencyKey =
        some (.transitionInstance key.instanceId target)) (same : later = state)
  | commanded (free : state.commands key.taskId idempotencyKey = none)
      (moved : later = (state.setStatus key target).keepCommand key.taskId idempotencyKey
        (.transitionInstance key.instanceId target))
  | written (moved : later = state.setStatus key target)

theorem transitioned {answer : Surroundings} {current target : InstanceStatus}
    {idempotencyKey : String}
    (done : (if Supervisor.isPlanned answer.plan key
      then Supervisor.commandTransition answer state key current target idempotencyKey
      else Supervisor.putTransition answer state key current target) = .ok later) :
    Transitioned key target idempotencyKey state later := by
  split at done
  · obtain ⟨envelope, valid, done⟩ := bind_eq_ok.mp done
    obtain rfl := CommandEnvelope.eq_of_validate valid
    cases kept : state.commands key.taskId idempotencyKey with
    | some command =>
        simp only [kept] at done
        obtain ⟨_, same, returned⟩ := bind_eq_ok.mp done
        obtain rfl := ensure_eq_ok.mp same
        exact .replayed kept (Except.ok.inj returned).symm
    | none =>
        simp only [kept] at done
        obtain ⟨_, -, done⟩ := bind_eq_ok.mp done
        obtain ⟨_, -, returned⟩ := bind_eq_ok.mp done
        exact .commanded kept (Except.ok.inj returned).symm
  · obtain ⟨_, -, done⟩ := bind_eq_ok.mp done
    obtain ⟨_, -, returned⟩ := bind_eq_ok.mp done
    exact .written (Except.ok.inj returned).symm

theorem Transitioned.sameLaunches {target : InstanceStatus} {idempotencyKey : String}
    (moved : Transitioned key target idempotencyKey state later) : SameLaunches state later := by
  cases moved with
  | replayed _ same => subst same; exact ⟨rfl, rfl, rfl⟩
  | commanded _ moved => subst moved; exact ⟨rfl, rfl, rfl⟩
  | written moved => subst moved; exact ⟨rfl, rfl, rfl⟩

theorem Undisturbed.lives (undisturbed : Undisturbed owner key state later) {id : Identifier}
    (owned : owner id = key) (lives : later.Lives id) : state.Lives id := by
  obtain ⟨process, member, same, alive⟩ := lives
  obtain ⟨index, found⟩ := List.getElem?_of_mem member
  obtain ⟨before, foundBefore, same', alive'⟩ := undisturbed.processes found (by rw [same, owned])
  exact ⟨before, List.mem_of_getElem? foundBefore, same'.trans same, alive' alive⟩

end

section

variable {owner} {key : InstanceKey} {state later : Supervised} {scope : Scope} {id : Identifier}
  {record old : LaunchRecord} {port : Nat}

theorem Sound.same (sound : state.Sound owner) (same : SameLaunches state later) :
    later.Sound owner := by
  obtain ⟨launches, claims, processes⟩ := same
  refine ⟨?_, ?_, ?_, ?_, ?_, ?_, ?_⟩
  · rw [launches]; exact sound.filed
  · rw [launches]; exact sound.owned
  · rw [launches, claims]
    intro id record found active lives
    rw [Lives, processes] at lives
    exact sound.claimed found active lives
  · rw [launches]; exact sound.single
  · rw [processes]; exact sound.onceEach
  · rw [launches, processes]; exact sound.filedProcess
  · rw [launches]; exact sound.oneCode

theorem Agree.same (agree : state.Agree owner scope) (same : SameLaunches state later) :
    later.Agree owner scope := by
  obtain ⟨launches, claims, -⟩ := same
  refine ⟨?_, ?_, ?_⟩
  · rw [launches, claims]; exact agree.claims
  · rw [launches, claims]; exact agree.held
  · rw [launches]; exact agree.read

/-! ### Records -/

theorem lookup_writeLaunch :
    (state.writeLaunch record).launches.lookup record.launchId = some record :=
  AList.lookup_insert _

theorem lookup_writeLaunch_ne (differs : id ≠ record.launchId) :
    (state.writeLaunch record).launches.lookup id = state.launches.lookup id :=
  AList.lookup_insert_ne differs

/-- What is found after a record was written: it, or what was there. -/
theorem lookup_written {found : LaunchRecord}
    (lookup : (state.writeLaunch record).launches.lookup id = some found) :
    id = record.launchId ∧ found = record ∨
      id ≠ record.launchId ∧ state.launches.lookup id = some found := by
  by_cases same : id = record.launchId
  · subst same
    rw [lookup_writeLaunch] at lookup
    exact .inl ⟨rfl, (Option.some.inj lookup).symm⟩
  · rw [lookup_writeLaunch_ne same] at lookup
    exact .inr ⟨same, lookup⟩

/-- A record is written again, in another state. -/
theorem Sound.rewrite (sound : state.Sound owner)
    (found : state.launches.lookup record.launchId = some old) (sameKey : record.key = old.key)
    (samePort : record.port = old.port) (sameCode : record.codeIdentity = old.codeIdentity)
    (active : record.state.isActive = true → old.state.isActive = true) :
    (state.writeLaunch record).Sound owner where
  filed lookup := by
    rcases lookup_written lookup with ⟨same, rfl⟩ | ⟨-, before⟩
    · exact same.symm
    · exact sound.filed before
  owned lookup := by
    rcases lookup_written lookup with ⟨rfl, rfl⟩ | ⟨-, before⟩
    · exact sameKey.trans (sound.owned found)
    · exact sound.owned before
  claimed lookup running lives := by
    rcases lookup_written lookup with ⟨rfl, rfl⟩ | ⟨-, before⟩
    · rw [samePort]
      exact sound.claimed found (active running) lives
    · exact sound.claimed before running lives
  single first second running running' same := by
    rcases lookup_written first with ⟨rfl, rfl⟩ | ⟨differs, before⟩ <;>
      rcases lookup_written second with ⟨rfl, rfl⟩ | ⟨differs', before'⟩
    · rfl
    · exact sound.single found before' (active running) running' same
    · exact sound.single before found running (active running') same
    · exact sound.single before before' running running' same
  onceEach := sound.onceEach
  filedProcess {process} member := by
    obtain ⟨filed, lookup, port⟩ := sound.filedProcess member
    by_cases same : process.launchId = record.launchId
    · rw [same] at lookup ⊢
      obtain rfl := Option.some.inj (found.symm.trans lookup)
      exact ⟨record, lookup_writeLaunch, samePort.trans port⟩
    · exact ⟨filed, by rw [lookup_writeLaunch_ne same, lookup], port⟩
  oneCode first second same coded coded' := by
    rcases lookup_written first with ⟨rfl, rfl⟩ | ⟨-, before⟩ <;>
      rcases lookup_written second with ⟨rfl, rfl⟩ | ⟨-, before'⟩
    · rfl
    · rw [sameCode] at coded ⊢
      exact sound.oneCode found before' same coded coded'
    · rw [sameCode] at coded' ⊢
      exact sound.oneCode before found same coded coded'
    · exact sound.oneCode before before' same coded coded'

/-- The first record of a launch: no other launch of the instance is active, and their code is the
    same. -/
theorem Sound.writeNew (sound : state.Sound owner)
    (absent : state.launches.lookup record.launchId = none)
    (owned : record.key = owner record.launchId)
    (vacant : ∀ id other, owner id = owner record.launchId →
      state.launches.lookup id = some other → other.state.isActive = false)
    (coded : ∀ id other, owner id = owner record.launchId →
      state.launches.lookup id = some other → other.codeIdentity ≠ "" →
      other.codeIdentity = record.codeIdentity) :
    (state.writeLaunch record).Sound owner where
  filed lookup := by
    rcases lookup_written lookup with ⟨same, rfl⟩ | ⟨-, before⟩
    · exact same.symm
    · exact sound.filed before
  owned lookup := by
    rcases lookup_written lookup with ⟨rfl, rfl⟩ | ⟨-, before⟩
    · exact owned
    · exact sound.owned before
  claimed lookup running lives := by
    rcases lookup_written lookup with ⟨rfl, rfl⟩ | ⟨-, before⟩
    · obtain ⟨process, member, same, -⟩ := lives
      obtain ⟨filed, present, -⟩ := sound.filedProcess member
      rw [same, absent] at present
      cases present
    · exact sound.claimed before running lives
  single first second running running' same := by
    rcases lookup_written first with ⟨rfl, rfl⟩ | ⟨-, before⟩ <;>
      rcases lookup_written second with ⟨rfl, rfl⟩ | ⟨-, before'⟩
    · rfl
    · rw [vacant _ _ same.symm before'] at running'
      cases running'
    · rw [vacant _ _ same before] at running
      cases running
    · exact sound.single before before' running running' same
  onceEach := sound.onceEach
  filedProcess member := by
    obtain ⟨filed, lookup, port⟩ := sound.filedProcess member
    refine ⟨filed, ?_, port⟩
    rw [lookup_writeLaunch_ne, lookup]
    rintro same
    rw [same, absent] at lookup
    cases lookup
  oneCode first second same code code' := by
    rcases lookup_written first with ⟨rfl, rfl⟩ | ⟨-, before⟩ <;>
      rcases lookup_written second with ⟨rfl, rfl⟩ | ⟨-, before'⟩
    · rfl
    · exact (coded _ _ same.symm before' code').symm
    · exact coded _ _ same before code
    · exact sound.oneCode before before' same code code'

theorem Undisturbed.writeLaunch (apart : key ≠ owner record.launchId) :
    Undisturbed owner key state (state.writeLaunch record) where
  launches owned := by
    rw [lookup_writeLaunch_ne]
    rintro rfl
    exact apart owned.symm
  claims _ := Iff.rfl
  processes found _ := ⟨_, found, rfl, fun alive => alive⟩

theorem Agree.writeLaunch (agree : state.Agree owner (scope.except record.launchId)) :
    (state.writeLaunch record).Agree owner (scope.except record.launchId) where
  claims found known := by
    obtain ⟨filed, lookup, active⟩ := agree.claims found known
    exact ⟨filed, by rw [lookup_writeLaunch_ne known.1, lookup], active⟩
  held known lookup active := by
    rw [lookup_writeLaunch_ne known.1] at lookup
    exact agree.held known lookup active
  read other member := by
    have differs : other.launchId ≠ record.launchId := by
      simpa using (List.mem_filter.mp member).2
    rw [lookup_writeLaunch_ne differs]
    exact agree.read other member

/-! ### Claims -/

/-- The state with another claim at the port, or none. -/
def setClaim (state : Supervised) (port : Nat) (claim : Option PortClaim) : Supervised :=
  { state with claims := Function.update state.claims port claim }

theorem setClaim_at {claim : Option PortClaim} :
    (state.setClaim port claim).claims port = claim :=
  Function.update_self ..

theorem setClaim_ne {claim : Option PortClaim} {other : Nat} (differs : other ≠ port) :
    (state.setClaim port claim).claims other = state.claims other :=
  Function.update_of_ne differs ..

/-- A free port is claimed. -/
theorem Sound.claim (sound : state.Sound owner) (free : state.claims port = none)
    (claim : PortClaim) : (state.setClaim port (some claim)).Sound owner where
  filed := sound.filed
  owned := sound.owned
  claimed lookup active lives := by
    have before := sound.claimed lookup active lives
    rw [setClaim_ne, before]
    rintro same
    rw [same, free] at before
    cases before
  single := sound.single
  onceEach := sound.onceEach
  filedProcess := sound.filedProcess
  oneCode := sound.oneCode

/-- A port is given up by a launch that is not active, or whose processes have ended. -/
theorem Sound.release {claim : PortClaim} (sound : state.Sound owner)
    (found : state.claims port = some claim)
    (ended : ∀ record, state.launches.lookup claim.launchId = some record →
      record.state.isActive = true → ¬state.Lives claim.launchId) :
    (state.setClaim port none).Sound owner where
  filed := sound.filed
  owned := sound.owned
  claimed lookup active lives := by
    have before := sound.claimed lookup active lives
    rw [setClaim_ne, before]
    rintro same
    rw [same, found] at before
    obtain rfl := Option.some.inj before
    exact ended _ lookup active lives
  single := sound.single
  onceEach := sound.onceEach
  filedProcess := sound.filedProcess
  oneCode := sound.oneCode

theorem Undisturbed.claim (claim : PortClaim) (apart : key ≠ owner claim.launchId)
    (free : state.claims port = none) :
    Undisturbed owner key state (state.setClaim port (some claim)) where
  launches _ := rfl
  claims {other owned} of := by
    by_cases same : other = port
    · subst same
      rw [setClaim_at, free]
      refine ⟨fun found => ?_, fun found => by cases found⟩
      obtain rfl := Option.some.inj found
      exact absurd of.symm apart
    · rw [setClaim_ne same]
  processes found _ := ⟨_, found, rfl, fun alive => alive⟩

theorem Undisturbed.release {claim : PortClaim} (apart : key ≠ owner claim.launchId)
    (found : state.claims port = some claim) :
    Undisturbed owner key state (state.setClaim port none) where
  launches _ := rfl
  claims {other owned} of := by
    by_cases same : other = port
    · subst same
      rw [setClaim_at, found]
      refine ⟨fun absent => (by cases absent), fun present => ?_⟩
      obtain rfl := Option.some.inj present
      exact absurd of.symm apart
    · rw [setClaim_ne same]
  processes found _ := ⟨_, found, rfl, fun alive => alive⟩

theorem Agree.claim (claim : PortClaim) (agree : state.Agree owner (scope.except claim.launchId))
    (free : state.claims port = none) :
    (state.setClaim port (some claim)).Agree owner (scope.except claim.launchId) where
  claims {other owned} found known := by
    by_cases same : other = port
    · subst same
      rw [setClaim_at] at found
      obtain rfl := Option.some.inj found
      exact absurd rfl known.1
    · rw [setClaim_ne same] at found
      exact agree.claims found known
  held known lookup active := by
    have before := agree.held known lookup active
    rw [setClaim_ne, before]
    rintro same
    rw [same, free] at before
    cases before
  read := agree.read

theorem Agree.release {claim : PortClaim}
    (agree : state.Agree owner (scope.except claim.launchId))
    (found : state.claims port = some claim) :
    (state.setClaim port none).Agree owner (scope.except claim.launchId) where
  claims {other owned} present known := by
    by_cases same : other = port
    · subst same
      rw [setClaim_at] at present
      cases present
    · rw [setClaim_ne same] at present
      exact agree.claims present known
  held known lookup active := by
    have before := agree.held known lookup active
    rw [setClaim_ne, before]
    rintro same
    rw [same, found] at before
    obtain rfl := Option.some.inj before
    exact absurd rfl known.1
  read := agree.read

/-- The state with a process of the launch more. -/
def spawn (state : Supervised) (launchId : Identifier) (port : Nat) : Supervised :=
  { state with processes := state.processes ++ [⟨launchId, port, true, true, false⟩] }

theorem spawn_processes {index : Nat} {process : AgentProcess}
    (found : (state.spawn id port).processes[index]? = some process) :
    state.processes[index]? = some process ∨
      index = state.processes.length ∧ process.launchId = id ∧ process.port = port := by
  rw [spawn, List.getElem?_append] at found
  split at found
  · exact .inl found
  · rw [List.getElem?_singleton] at found
    split at found
    · obtain rfl := Option.some.inj found
      exact .inr ⟨by omega, rfl, rfl⟩
    · cases found

/-- The first process of a launch that has its port. -/
theorem Sound.spawn (sound : state.Sound owner)
    (found : state.launches.lookup id = some record) (samePort : record.port = port)
    (claimed : state.claims record.port = some ⟨owner id, id⟩)
    (none : ∀ process ∈ state.processes, process.launchId ≠ id) :
    (state.spawn id port).Sound owner where
  filed := sound.filed
  owned := sound.owned
  claimed {other} {filed} lookup active lives := by
    by_cases same : other = id
    · subst same
      obtain rfl := Option.some.inj (found.symm.trans lookup)
      exact claimed
    · refine sound.claimed lookup active ?_
      obtain ⟨process, member, of, alive⟩ := lives
      rcases List.mem_append.mp member with before | new
      · exact ⟨process, before, of, alive⟩
      · obtain rfl := List.mem_singleton.mp new
        exact absurd of.symm same
  single := sound.single
  onceEach first second same := by
    rcases spawn_processes first with before | ⟨rfl, of, -⟩ <;>
      rcases spawn_processes second with before' | ⟨rfl, of', -⟩
    · exact sound.onceEach before before' same
    · exact absurd (same.trans of') (none _ (List.mem_of_getElem? before))
    · exact absurd (same.symm.trans of) (none _ (List.mem_of_getElem? before'))
    · rfl
  filedProcess member := by
    rcases List.mem_append.mp member with before | new
    · exact sound.filedProcess before
    · obtain rfl := List.mem_singleton.mp new
      exact ⟨record, found, samePort⟩
  oneCode := sound.oneCode

theorem Undisturbed.spawn (apart : key ≠ owner id) :
    Undisturbed owner key state (state.spawn id port) where
  launches _ := rfl
  claims _ := Iff.rfl
  processes found owned := by
    rcases spawn_processes found with before | ⟨-, of, -⟩
    · exact ⟨_, before, rfl, fun alive => alive⟩
    · rw [of] at owned
      exact absurd owned.symm apart

theorem terminate_processes {ended index : Nat} {process : AgentProcess}
    (found : (state.terminate ended).processes[index]? = some process) :
    ∃ before, state.processes[index]? = some before ∧ before.launchId = process.launchId ∧
      before.port = process.port ∧
      (process.alive = true → before.alive = true ∧ index ≠ ended) := by
  simp only [terminate, List.getElem?_modify, Option.map_eq_map, Option.map_eq_some_iff] at found
  obtain ⟨before, foundBefore, rfl⟩ := found
  refine ⟨before, foundBefore, ?_⟩
  by_cases same : ended = index
  · simp [same]
  · simp [same, Ne.symm same]

theorem Sound.terminate (sound : state.Sound owner) (process : Nat) :
    (state.terminate process).Sound owner where
  filed := sound.filed
  owned := sound.owned
  claimed lookup active lives := by
    refine sound.claimed lookup active ?_
    obtain ⟨found, member, of, alive⟩ := lives
    obtain ⟨index, lookup⟩ := List.getElem?_of_mem member
    obtain ⟨before, foundBefore, same, -, lived⟩ := terminate_processes lookup
    exact ⟨before, List.mem_of_getElem? foundBefore, same.trans of, (lived alive).1⟩
  single := sound.single
  onceEach first second same := by
    obtain ⟨before, found, of, -, -⟩ := terminate_processes first
    obtain ⟨before', found', of', -, -⟩ := terminate_processes second
    exact sound.onceEach found found' (of.trans (same.trans of'.symm))
  filedProcess member := by
    obtain ⟨index, lookup⟩ := List.getElem?_of_mem member
    obtain ⟨before, found, of, port, -⟩ := terminate_processes lookup
    obtain ⟨record, filed, same⟩ := sound.filedProcess (List.mem_of_getElem? found)
    rw [of] at filed
    exact ⟨record, filed, same.trans port⟩
  oneCode := sound.oneCode

theorem Undisturbed.terminate (process : Nat) :
    Undisturbed owner key state (state.terminate process) where
  launches _ := rfl
  claims _ := Iff.rfl
  processes found _ := by
    obtain ⟨before, foundBefore, of, -, lived⟩ := terminate_processes found
    exact ⟨before, foundBefore, of, fun alive => (lived alive).1⟩

end

end Supervised

/-- An operation over the launches of some instances: what belongs to these instances is left to
    it, and it leaves what belongs to the others.  The recovery runs alone, so the stored instances
    and the commands too stay as they are. -/
def supervising (owner : Identifier → InstanceKey) (mine : InstanceKey → Prop) (alone : Prop) :
    Conduct Supervised where
  rely state later := (state.Sound owner → later.Sound owner) ∧
    (∀ key, mine key → Supervised.Undisturbed owner key state later) ∧
    (alone → later.instances = state.instances ∧ later.commands = state.commands)
  guarantee state later := (state.Sound owner → later.Sound owner) ∧
    ∀ key, ¬mine key → Supervised.Undisturbed owner key state later
  refl _ := ⟨id, fun _ _ => .refl, fun _ => ⟨rfl, rfl⟩⟩
  trans first second := ⟨second.1 ∘ first.1,
    fun key owned => (first.2.1 key owned).trans (second.2.1 key owned),
    fun only => ⟨(second.2.2 only).1.trans (first.2.2 only).1,
      (second.2.2 only).2.trans (first.2.2 only).2⟩⟩

section

open Supervised

variable {owner : Identifier → InstanceKey} {mine : InstanceKey → Prop} {alone : Prop}

theorem stable_sound : (supervising owner mine alone).Stable (Sound owner) :=
  fun between => between.1

theorem stable_lookup {id : Identifier} {found : Option LaunchRecord} (owned : mine (owner id)) :
    (supervising owner mine alone).Stable fun state => state.launches.lookup id = found := by
  intro state later between holds
  rw [(between.2.1 _ owned).launches rfl]
  exact holds

theorem stable_claim {port : Nat} {claim : PortClaim} (owned : mine (owner claim.launchId)) :
    (supervising owner mine alone).Stable fun state => state.claims port = some claim :=
  fun between holds => ((between.2.1 _ owned).claims rfl).mpr holds

/-- The claims of the launch are all at the given ports. -/
theorem stable_claims {id : Identifier} {ports : Nat → Prop} (owned : mine (owner id)) :
    (supervising owner mine alone).Stable fun state =>
      ∀ port claim, state.claims port = some claim → claim.launchId = id → ports port := by
  intro state later between holds port claim found same
  exact holds port claim (((between.2.1 _ owned).claims (by rw [same])).mp found) same

theorem stable_dead {id : Identifier} (owned : mine (owner id)) :
    (supervising owner mine alone).Stable fun state => ¬state.Lives id :=
  fun between dead lives => dead ((between.2.1 _ owned).lives rfl lives)

/-- The processes of the launch are all at the given indices. -/
theorem stable_processes {id : Identifier} {indices : Nat → Prop} (owned : mine (owner id)) :
    (supervising owner mine alone).Stable fun state =>
      ∀ index process, state.processes[index]? = some process → process.launchId = id →
        indices index := by
  intro state later between holds index process found same
  obtain ⟨before, foundBefore, same', -⟩ :=
    (between.2.1 _ owned).processes found (by rw [same])
  exact holds index before foundBefore (same'.trans same)

/-- The scope lies within the instances of the operation. -/
structure Supervised.Scope.Mine (owner : Identifier → InstanceKey) (mine : InstanceKey → Prop)
    (scope : Scope) : Prop where
  claims : ∀ {id}, scope.claims id → mine (owner id)
  held : ∀ {id}, scope.held id → mine (owner id)
  read : ∀ record ∈ scope.read, mine (owner record.launchId)

theorem stable_agree {scope : Supervised.Scope} (within : scope.Mine owner mine) :
    (supervising owner mine alone).Stable (Agree owner scope) := by
  intro state later between agree
  refine ⟨fun {port claim} found known => ?_, fun {id record} known found active => ?_,
    fun record member => ?_⟩
  · have undisturbed := between.2.1 _ (within.claims known)
    rw [undisturbed.launches rfl]
    exact agree.claims ((undisturbed.claims rfl).mp found) known
  · have undisturbed := between.2.1 _ (within.held known)
    rw [undisturbed.launches rfl] at found
    have claimed : state.claims record.port = some ⟨owner id, id⟩ := agree.held known found active
    have lasting : (supervising owner mine alone).Stable fun state =>
        state.claims record.port = some ⟨owner id, id⟩ := stable_claim (within.held known)
    exact lasting between claimed
  · rw [(between.2.1 _ (within.read record member)).launches rfl]
    exact agree.read record member

end

end DesignHarness
