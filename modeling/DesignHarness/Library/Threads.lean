import Mathlib.Logic.Function.Basic
import Mathlib.Logic.Relation

/-!
# Programs that run beside each other

A thread makes its steps between those of other threads.  Each step reads the shared state and what
its surroundings answer, and changes the state.  A conduct says what a thread expects of the others
(`rely`) and what it promises them (`guarantee`); `Conduct.Within` is the specification of a thread
that keeps to it, with one rule for each way of building a thread.

A service serves calls under keys, one call at a time under each key, and calls under different keys
run beside each other.  It can stop at every step; before it serves again, its recovery runs alone.
`Service.Verified` lists what is to be shown of the calls and of the recovery, and
`Verified.reaches` says what then holds in every state the service reaches.
-/

namespace DesignHarness.Library

/-- A program over a shared state `σ`, with answers `ι` from outside. -/
inductive Thread (ι σ ε α : Type) where
  | done (outcome : Except ε α)
  | step (act : ι → σ → σ) (next : ι → σ → Thread ι σ ε α)

variable {ι σ ε α β : Type}

namespace Thread

def pure (value : α) : Thread ι σ ε α := .done (.ok value)

def raise (error : ε) : Thread ι σ ε α := .done (.error error)

def lift (outcome : Except ε α) : Thread ι σ ε α := .done outcome

/-- One step that reads, changes the state and returns or raises. -/
def atomically (body : ι → σ → Except ε α × σ) : Thread ι σ ε α :=
  .step (fun answer state => (body answer state).2) fun answer state =>
    .done (body answer state).1

/-- A step that reads, and returns or raises. -/
def read (body : ι → σ → Except ε α) : Thread ι σ ε α :=
  atomically fun answer state => (body answer state, state)

/-- A step that changes the state. -/
def change (act : ι → σ → σ) : Thread ι σ ε Unit :=
  atomically fun answer state => (.ok (), act answer state)

def bind : Thread ι σ ε α → (α → Thread ι σ ε β) → Thread ι σ ε β
  | .done (.ok value), next => next value
  | .done (.error error), _ => .done (.error error)
  | .step act rest, next => .step act fun answer state => bind (rest answer state) next

/-- `try: thread`, with what it raised as a value. -/
def attempt : Thread ι σ ε α → Thread ι σ ε (Except ε α)
  | .done outcome => .done (.ok outcome)
  | .step act rest => .step act fun answer state => attempt (rest answer state)

instance : Monad (Thread ι σ ε) where
  pure := Thread.pure
  bind := Thread.bind

/-- `for item in items: body(item)`. -/
def forEach (body : α → Thread ι σ ε Unit) : List α → Thread ι σ ε Unit
  | [] => Thread.pure ()
  | item :: rest => Thread.bind (body item) fun _ => forEach body rest

/-- What a thread does when nothing happens between its steps and it is always answered the
    same. -/
def alone (answer : ι) : Thread ι σ ε α → σ → Except ε α × σ
  | .done outcome, state => (outcome, state)
  | .step act next, state => alone answer (next answer state) (act answer state)

end Thread

/-! ## What a thread expects and promises -/

/-- `rely` is what happens between two steps of the thread, `guarantee` what each of its steps
    does. -/
structure Conduct (σ : Type) where
  rely : σ → σ → Prop
  guarantee : σ → σ → Prop
  refl : ∀ state, rely state state
  trans : ∀ {first second third}, rely first second → rely second third → rely first third

namespace Conduct

/-- What others do does not end the condition. -/
def Stable (conduct : Conduct σ) (condition : σ → Prop) : Prop :=
  ∀ {state later}, conduct.rely state later → condition state → condition later

section

variable {conduct : Conduct σ} {first second : σ → Prop}

theorem Stable.and (one : conduct.Stable first) (other : conduct.Stable second) :
    conduct.Stable fun state => first state ∧ second state :=
  fun between holds => ⟨one between holds.1, other between holds.2⟩

theorem Stable.always {fact : Prop} : conduct.Stable fun _ => fact := fun _ holds => holds

end

/-- From the state on, every step of the thread is as promised, and it ends as described. -/
def Within (conduct : Conduct σ) (ends : Except ε α → σ → Prop) : Thread ι σ ε α → σ → Prop
  | .done outcome, state => ∀ later, conduct.rely state later → ends outcome later
  | .step act next, state => ∀ later, conduct.rely state later → ∀ answer,
      conduct.guarantee later (act answer later) ∧
        conduct.Within ends (next answer later) (act answer later)

variable {conduct : Conduct σ} {ends : Except ε α → σ → Prop}

theorem Within.shift {thread : Thread ι σ ε α} {state later : σ}
    (within : conduct.Within ends thread state) (between : conduct.rely state later) :
    conduct.Within ends thread later := by
  cases thread with
  | done outcome => exact fun other further => within other (conduct.trans between further)
  | step act next => exact fun other further => within other (conduct.trans between further)

theorem Within.mono {ends' : Except ε α → σ → Prop} {thread : Thread ι σ ε α} {state : σ}
    (within : conduct.Within ends thread state)
    (weaker : ∀ outcome state, ends outcome state → ends' outcome state) :
    conduct.Within ends' thread state := by
  induction thread generalizing state with
  | done outcome => exact fun later between => weaker outcome later (within later between)
  | step act next ih =>
      intro later between answer
      obtain ⟨promised, rest⟩ := within later between answer
      exact ⟨promised, ih answer later rest⟩

/-- What another conduct that expects no more says of the end holds as well. -/
theorem Within.and {other : Conduct σ} {ends' : Except ε α → σ → Prop} {thread : Thread ι σ ε α}
    {state : σ} (expects : ∀ {state later}, conduct.rely state later → other.rely state later)
    (first : conduct.Within ends thread state) (second : other.Within ends' thread state) :
    conduct.Within (fun outcome state => ends outcome state ∧ ends' outcome state) thread
      state := by
  induction thread generalizing state with
  | done outcome =>
      exact fun later between => ⟨first later between, second later (expects between)⟩
  | step act next ih =>
      intro later between answer
      obtain ⟨promised, rest⟩ := first later between answer
      exact ⟨promised, ih answer later rest (second later (expects between) answer).2⟩

/-- A condition that neither the others nor the thread end holds at the end. -/
theorem Within.keeps {condition : σ → Prop} {thread : Thread ι σ ε α} {state : σ}
    (within : conduct.Within ends thread state) (stable : conduct.Stable condition)
    (kept : ∀ {state later}, conduct.guarantee state later → condition state → condition later)
    (holds : condition state) :
    conduct.Within (fun outcome state => ends outcome state ∧ condition state) thread state := by
  induction thread generalizing state with
  | done outcome =>
      exact fun later between => ⟨within later between, stable between holds⟩
  | step act next ih =>
      intro later between answer
      obtain ⟨promised, rest⟩ := within later between answer
      exact ⟨promised, ih answer later rest (kept promised (stable between holds))⟩

/-- How a thread ends, by what it returns or raises. -/
def Ends (returns : α → σ → Prop) (raises : ε → σ → Prop) : Except ε α → σ → Prop
  | .ok value => returns value
  | .error error => raises error

/-- Where the condition holds, the thread keeps to the conduct and ends as described. -/
def Meets (conduct : Conduct σ) (condition : σ → Prop) (thread : Thread ι σ ε α)
    (returns : α → σ → Prop) (raises : ε → σ → Prop) : Prop :=
  ∀ state, condition state → conduct.Within (Ends returns raises) thread state

namespace Meets

variable {condition : σ → Prop} {thread : Thread ι σ ε α} {returns : α → σ → Prop}
  {raises : ε → σ → Prop}

theorem mono {condition' : σ → Prop} {returns' : α → σ → Prop} {raises' : ε → σ → Prop}
    (meets : conduct.Meets condition thread returns raises)
    (stronger : ∀ state, condition' state → condition state)
    (returned : ∀ value state, returns value state → returns' value state)
    (raised : ∀ error state, raises error state → raises' error state) :
    conduct.Meets condition' thread returns' raises' := by
  intro state holds
  refine (meets state (stronger state holds)).mono ?_
  intro outcome later
  cases outcome with
  | ok value => exact returned value later
  | error error => exact raised error later

theorem strengthen {condition' : σ → Prop} (meets : conduct.Meets condition thread returns raises)
    (stronger : ∀ state, condition' state → condition state) :
    conduct.Meets condition' thread returns raises :=
  fun state holds => meets state (stronger state holds)

theorem pure {value : α} (stable : conduct.Stable condition)
    (holds : ∀ state, condition state → returns value state) :
    conduct.Meets condition (Pure.pure value : Thread ι σ ε α) returns raises :=
  fun _ before _ between => holds _ (stable between before)

theorem raise {error : ε} (stable : conduct.Stable condition)
    (holds : ∀ state, condition state → raises error state) :
    conduct.Meets condition (Thread.raise error : Thread ι σ ε α) returns raises :=
  fun _ before _ between => holds _ (stable between before)

theorem lift {outcome : Except ε α} (stable : conduct.Stable condition)
    (returned : ∀ value, outcome = .ok value → ∀ state, condition state → returns value state)
    (raised : ∀ error, outcome = .error error → ∀ state, condition state → raises error state) :
    conduct.Meets condition (Thread.lift outcome : Thread ι σ ε α) returns raises := by
  intro state before later between
  have holds := stable between before
  cases outcome with
  | ok value => exact returned value rfl later holds
  | error error => exact raised error rfl later holds

theorem bind {returned : α → σ → Prop} {next : α → Thread ι σ ε β} {returns : β → σ → Prop}
    (first : conduct.Meets condition thread returned raises)
    (rest : ∀ value, conduct.Meets (returned value) (next value) returns raises) :
    conduct.Meets condition (thread >>= next) returns raises := by
  intro state holds
  have within := first state holds
  clear holds first
  change conduct.Within _ (Thread.bind thread next) state
  induction thread generalizing state with
  | done outcome =>
      cases outcome with
      | ok value =>
          have now := within state (conduct.refl state)
          exact rest value state now
      | error error => exact fun later between => within later between
  | step act inner ih =>
      intro later between answer
      obtain ⟨promised, further⟩ := within later between answer
      exact ⟨promised, ih answer later _ further⟩

theorem attempt (meets : conduct.Meets condition thread returns raises) {never : ε → σ → Prop} :
    conduct.Meets condition thread.attempt (fun outcome => Ends returns raises outcome) never := by
  intro state holds
  have within := meets state holds
  clear holds meets
  induction thread generalizing state with
  | done outcome => exact fun later between => within later between
  | step act inner ih =>
      intro later between answer
      obtain ⟨promised, further⟩ := within later between answer
      exact ⟨promised, ih answer later _ further⟩

theorem atomically {body : ι → σ → Except ε α × σ} (stable : conduct.Stable condition)
    (promised : ∀ answer state, condition state →
      conduct.guarantee state (body answer state).2)
    (returned : ∀ answer state value, condition state → (body answer state).1 = .ok value →
      returns value (body answer state).2)
    (raised : ∀ answer state error, condition state → (body answer state).1 = .error error →
      raises error (body answer state).2)
    (lastingReturns : ∀ value, conduct.Stable (returns value))
    (lastingRaises : ∀ error, conduct.Stable (raises error)) :
    conduct.Meets condition (Thread.atomically body) returns raises := by
  intro state before later between answer
  have holds := stable between before
  refine ⟨promised answer later holds, fun final further => ?_⟩
  cases ended : (body answer later).1 with
  | ok value => exact lastingReturns value further (returned answer later value holds ended)
  | error error => exact lastingRaises error further (raised answer later error holds ended)

/-- A step that changes the state raises nothing. -/
theorem change {act : ι → σ → σ} {returned : Unit → σ → Prop} (stable : conduct.Stable condition)
    (promised : ∀ answer state, condition state → conduct.guarantee state (act answer state))
    (changed : ∀ answer state, condition state → returned () (act answer state))
    (lasting : conduct.Stable (returned ())) :
    conduct.Meets condition (Thread.change act) returned raises := by
  intro state before later between answer
  have holds := stable between before
  exact ⟨promised answer later holds, fun final further =>
    lasting further (changed answer later holds)⟩

theorem forEach {items : List α} {body : α → Thread ι σ ε Unit} (invariant : List α → σ → Prop)
    {raises : ε → σ → Prop} (stable : ∀ remaining, conduct.Stable (invariant remaining))
    (turn : ∀ item remaining, conduct.Meets (invariant (item :: remaining)) (body item)
      (fun _ => invariant remaining) raises) :
    conduct.Meets (invariant items) (Thread.forEach body items) (fun _ => invariant []) raises := by
  induction items with
  | nil => exact Meets.pure (stable []) fun _ holds => holds
  | cons item rest ih => exact Meets.bind (turn item rest) fun _ => ih

end Meets

end Conduct

/-! ## Calls beside each other -/

/-- The calls under way, at most one under each key, and the state they share. -/
structure Pool (κ ι σ ε α : Type) where
  shared : σ
  calls : κ → Option (Thread ι σ ε α)

section

variable {κ : Type} [DecidableEq κ]

/-- No call is under way. -/
def Pool.idle (shared : σ) : Pool κ ι σ ε α := ⟨shared, fun _ => none⟩

/-- One call is under way. -/
def Pool.only (shared : σ) (key : κ) (thread : Thread ι σ ε α) : Pool κ ι σ ε α :=
  ⟨shared, Function.update (fun _ => none) key (some thread)⟩

theorem Pool.only_calls {shared : σ} {key : κ} {thread : Thread ι σ ε α} :
    (Pool.only shared key thread).calls key = some thread := by
  simp only [Pool.only, Function.update_self]

/-- A call is made or answered, makes a step, or something happens outside. -/
inductive Pool.Step (outside : σ → σ → Prop) (offered : κ → Thread ι σ ε α → Prop) :
    Pool κ ι σ ε α → Pool κ ι σ ε α → Prop where
  | outside {pool : Pool κ ι σ ε α} {later : σ} (happens : outside pool.shared later) :
      Step outside offered pool { pool with shared := later }
  | call {pool : Pool κ ι σ ε α} {key : κ} {thread : Thread ι σ ε α}
      (free : pool.calls key = none) (offers : offered key thread) :
      Step outside offered pool { pool with calls := Function.update pool.calls key (some thread) }
  | step {pool : Pool κ ι σ ε α} {key : κ} {act : ι → σ → σ} {next : ι → σ → Thread ι σ ε α}
      (running : pool.calls key = some (.step act next)) (answer : ι) :
      Step outside offered pool
        ⟨act answer pool.shared,
          Function.update pool.calls key (some (next answer pool.shared))⟩
  | answer {pool : Pool κ ι σ ε α} {key : κ} {outcome : Except ε α}
      (running : pool.calls key = some (.done outcome)) :
      Step outside offered pool { pool with calls := Function.update pool.calls key none }

/-- Steps during which a call under the key is under way. -/
inductive Pool.During (outside : σ → σ → Prop) (offered : κ → Thread ι σ ε α → Prop) (key : κ)
    (pool : Pool κ ι σ ε α) : Pool κ ι σ ε α → Prop where
  | first : During outside offered key pool pool
  | next {middle later : Pool κ ι σ ε α} (before : During outside offered key pool middle)
      (steps : Pool.Step outside offered middle later) (under : (later.calls key).isSome = true) :
      During outside offered key pool later

/-- The only call under way is made to its end. -/
theorem Pool.During.completes {outside : σ → σ → Prop} {offered : κ → Thread ι σ ε α → Prop}
    {key : κ} {start : Pool κ ι σ ε α} {shared later : σ} {thread : Thread ι σ ε α}
    {outcome : Except ε α}
    (before : Pool.During outside offered key start (.only shared key thread)) (answer : ι)
    (alone : thread.alone answer shared = (outcome, later)) :
    Pool.During outside offered key start (.only later key (.done outcome)) := by
  induction thread generalizing shared with
  | done outcome =>
      obtain ⟨rfl, rfl⟩ := Prod.mk.inj alone
      exact before
  | step act next ih =>
      have stepped := before.next (.step Pool.only_calls answer) (by simp)
      simp only [Pool.only, Function.update_idem] at stepped
      exact ih answer shared stepped alone

/-- A service with a recovery. -/
structure Service (κ ι σ ε α : Type) where
  outside : σ → σ → Prop
  offered : κ → Thread ι σ ε α → Prop
  recovery : Thread ι σ ε α

namespace Service

/-- Where a service is in its life. -/
inductive Stage (κ ι σ ε α : Type) where
  | stopped (shared : σ)
  | recovering (thread : Thread ι σ ε α) (shared : σ)
  | serving (pool : Pool κ ι σ ε α)

def Stage.shared : Stage κ ι σ ε α → σ
  | stopped shared => shared
  | recovering _ shared => shared
  | serving pool => pool.shared

/-- One step of the life of a service.  A recovery that raises is left by a stop. -/
inductive Step (service : Service κ ι σ ε α) : Stage κ ι σ ε α → Stage κ ι σ ε α → Prop where
  | stop (stage : Stage κ ι σ ε α) : Step service stage (.stopped stage.shared)
  | aside {shared later : σ} (happens : service.outside shared later) :
      Step service (.stopped shared) (.stopped later)
  | start (shared : σ) : Step service (.stopped shared) (.recovering service.recovery shared)
  | outside {thread : Thread ι σ ε α} {shared later : σ} (happens : service.outside shared later) :
      Step service (.recovering thread shared) (.recovering thread later)
  | recover {act : ι → σ → σ} {next : ι → σ → Thread ι σ ε α} {shared : σ} (answer : ι) :
      Step service (.recovering (.step act next) shared)
        (.recovering (next answer shared) (act answer shared))
  | serve {value : α} {shared : σ} :
      Step service (.recovering (.done (.ok value)) shared) (.serving (.idle shared))
  | pool {pool next : Pool κ ι σ ε α}
      (steps : Pool.Step service.outside service.offered pool next) :
      Step service (.serving pool) (.serving next)

/-- The stages that a service goes through from a first state. -/
inductive Reaches (service : Service κ ι σ ε α) (first : σ) : Stage κ ι σ ε α → Prop where
  | first : Reaches service first (.stopped first)
  | next {stage later : Stage κ ι σ ε α} (reached : Reaches service first stage)
      (steps : service.Step stage later) : Reaches service first later

section

variable {service : Service κ ι σ ε α} {first shared later : σ} {thread : Thread ι σ ε α}
  {outcome : Except ε α}

theorem Reaches.recovers (reached : service.Reaches first (.recovering thread shared)) (answer : ι)
    (alone : thread.alone answer shared = (outcome, later)) :
    service.Reaches first (.recovering (.done outcome) later) := by
  induction thread generalizing shared with
  | done outcome =>
      obtain ⟨rfl, rfl⟩ := Prod.mk.inj alone
      exact reached
  | step act next ih => exact ih answer shared (.next reached (.recover answer)) alone

/-- The only call under way is made to its end, and answered. -/
theorem Reaches.completes {key : κ} (reached : service.Reaches first
      (.serving (.only shared key thread))) (answer : ι)
    (alone : thread.alone answer shared = (outcome, later)) :
    service.Reaches first (.serving (.idle later)) := by
  induction thread generalizing shared with
  | done outcome =>
      obtain ⟨rfl, rfl⟩ := Prod.mk.inj alone
      have answered := reached.next (.pool (.answer Pool.only_calls))
      simpa only [Pool.only, Pool.idle, Function.update_idem, Function.update_eq_self]
        using answered
  | step act next ih =>
      have stepped := reached.next (.pool (.step Pool.only_calls answer))
      simp only [Pool.only, Function.update_idem] at stepped
      exact ih answer shared stepped alone

/-- A call is made and answered while no other is under way. -/
theorem Reaches.calls {key : κ} (reached : service.Reaches first (.serving (.idle shared)))
    (offers : service.offered key thread) (answer : ι)
    (alone : thread.alone answer shared = (outcome, later)) :
    service.Reaches first (.serving (.idle later)) :=
  Reaches.completes (reached.next (.pool (.call rfl offers))) answer alone

end

/-- What is to be shown of a service: `sound` is to hold always, `recovered` when its recovery has
    returned, and `settled key` whenever it serves and no call under the key is under way. -/
structure Verified (service : Service κ ι σ ε α) (sound : σ → Prop) (settled : κ → σ → Prop)
    (recovered : σ → Prop) (conduct : κ → Conduct σ) (recovering : Conduct σ) : Prop where
  apart : ∀ {key other state later}, key ≠ other → sound state →
    (conduct key).guarantee state later → (conduct other).rely state later
  aside : ∀ key {state later}, sound state → service.outside state later →
    (conduct key).rely state later
  asideRecovering : ∀ {state later}, sound state → service.outside state later →
    recovering.rely state later
  soundOutside : ∀ {state later}, service.outside state later → sound state → sound later
  soundStep : ∀ {key state later}, (conduct key).guarantee state later → sound state → sound later
  soundRecovering : ∀ {state later}, recovering.guarantee state later → sound state → sound later
  stable : ∀ key, (conduct key).Stable (settled key)
  calls : ∀ {key thread}, service.offered key thread → ∀ {state}, sound state →
    settled key state → (conduct key).Within (fun _ => settled key) thread state
  recovers : ∀ {state}, sound state →
    recovering.Within (Conduct.Ends (fun _ => recovered) fun _ _ => True) service.recovery state
  settles : ∀ {state}, recovered state → ∀ key, settled key state

/-- What holds of a key: it is settled, or the call under it keeps to its conduct. -/
def Underway (settled : σ → Prop) (conduct : Conduct σ) :
    Option (Thread ι σ ε α) → σ → Prop
  | none, state => settled state
  | some thread, state => conduct.Within (fun _ => settled) thread state

/-- What holds at a stage. -/
def Holds (sound : σ → Prop) (settled : κ → σ → Prop) (recovered : σ → Prop)
    (conduct : κ → Conduct σ) (recovering : Conduct σ) : Stage κ ι σ ε α → Prop
  | .stopped shared => sound shared
  | .recovering thread shared => sound shared ∧
      recovering.Within (Conduct.Ends (fun _ => recovered) fun _ _ => True) thread shared
  | .serving pool => sound pool.shared ∧ ∀ key,
      Underway (settled key) (conduct key) (pool.calls key) pool.shared

namespace Verified

variable {service : Service κ ι σ ε α} {sound : σ → Prop} {settled : κ → σ → Prop}
  {recovered : σ → Prop} {conduct : κ → Conduct σ} {recovering : Conduct σ}

omit [DecidableEq κ] in
/-- What holds of a key still holds after something that its conduct expects. -/
theorem carries (verified : service.Verified sound settled recovered conduct recovering)
    {calls : Option (Thread ι σ ε α)} {key : κ} {state later : σ}
    (between : (conduct key).rely state later)
    (holds : Underway (settled key) (conduct key) calls state) :
    Underway (settled key) (conduct key) calls later := by
  cases calls with
  | none => exact verified.stable key between holds
  | some thread => exact Conduct.Within.shift holds between

theorem pool_step (verified : service.Verified sound settled recovered conduct recovering)
    {pool next : Pool κ ι σ ε α} (steps : Pool.Step service.outside service.offered pool next)
    (holds : Holds sound settled recovered conduct recovering (.serving pool)) :
    Holds sound settled recovered conduct recovering (.serving next) := by
  obtain ⟨sound, every⟩ := holds
  cases steps with
  | @outside later happens =>
      refine ⟨verified.soundOutside happens sound, fun key => ?_⟩
      exact verified.carries (verified.aside key sound happens) (every key)
  | @call key thread free offers =>
      refine ⟨sound, fun other => ?_⟩
      by_cases same : other = key
      · subst same
        have idle := every other
        rw [free] at idle
        simp only [Function.update_self]
        exact verified.calls offers sound idle
      · simp only [Function.update_of_ne same]
        exact every other
  | @step key act following running answer =>
      have mine := every key
      rw [running] at mine
      obtain ⟨promised, rest⟩ := mine pool.shared ((conduct key).refl _) answer
      refine ⟨verified.soundStep promised sound, fun other => ?_⟩
      by_cases same : other = key
      · subst same
        simp only [Function.update_self]
        exact rest
      · simp only [Function.update_of_ne same]
        have between := verified.apart (Ne.symm same) sound promised
        exact verified.carries between (every other)
  | @answer key outcome running =>
      refine ⟨sound, fun other => ?_⟩
      by_cases same : other = key
      · subst same
        have mine := every other
        rw [running] at mine
        simp only [Function.update_self]
        exact mine pool.shared ((conduct other).refl _)
      · simp only [Function.update_of_ne same]
        exact every other

theorem step (verified : service.Verified sound settled recovered conduct recovering)
    {stage later : Stage κ ι σ ε α} (steps : service.Step stage later)
    (holds : Holds sound settled recovered conduct recovering stage) :
    Holds sound settled recovered conduct recovering later := by
  cases steps with
  | stop =>
      cases stage with
      | stopped shared => exact holds
      | recovering thread shared => exact holds.1
      | serving pool => exact holds.1
  | aside happens => exact verified.soundOutside happens holds
  | start shared => exact ⟨holds, verified.recovers holds⟩
  | outside happens =>
      exact ⟨verified.soundOutside happens holds.1,
        holds.2.shift (verified.asideRecovering holds.1 happens)⟩
  | @recover act next shared answer =>
      obtain ⟨promised, rest⟩ := holds.2 shared (recovering.refl _) answer
      exact ⟨verified.soundRecovering promised holds.1, rest⟩
  | serve => exact ⟨holds.1, verified.settles (holds.2 _ (recovering.refl _))⟩
  | pool steps => exact verified.pool_step steps holds

/-- In every state the service reaches, it is sound; a key without a call is settled, and a call
    under way keeps to its conduct. -/
theorem reaches (verified : service.Verified sound settled recovered conduct recovering) {first : σ}
    (begins : sound first) {stage : Stage κ ι σ ε α} (reached : service.Reaches first stage) :
    Holds sound settled recovered conduct recovering stage := by
  induction reached with
  | first => exact begins
  | next _ steps ih => exact verified.step steps ih

/-- A relation that every step of the service keeps holds between a stage and each later one. -/
theorem ordered (verified : service.Verified sound settled recovered conduct recovering)
    {relates : σ → σ → Prop} (refl : ∀ state, relates state state)
    (trans : ∀ {first second third}, relates first second → relates second third →
      relates first third)
    (outside : ∀ {state later}, service.outside state later → relates state later)
    (calls : ∀ {key state later}, (conduct key).guarantee state later → relates state later)
    (recovers : ∀ {state later}, recovering.guarantee state later → relates state later)
    {stage later : Stage κ ι σ ε α}
    (holds : Holds sound settled recovered conduct recovering stage)
    (steps : Relation.ReflTransGen service.Step stage later) :
    relates stage.shared later.shared := by
  suffices both : relates stage.shared later.shared ∧
      Holds sound settled recovered conduct recovering later from both.1
  induction steps with
  | refl => exact ⟨refl _, holds⟩
  | @tail middle later _ one ih =>
      obtain ⟨before, holds⟩ := ih
      refine ⟨trans before ?_, verified.step one holds⟩
      cases one with
      | stop => exact refl _
      | aside happens => exact outside happens
      | start shared => exact refl _
      | outside happens => exact outside happens
      | @recover act next shared answer =>
          exact recovers (holds.2 shared (recovering.refl _) answer).1
      | serve => exact refl _
      | pool steps =>
          cases steps with
          | outside happens => exact outside happens
          | call => exact refl _
          | @step key act next running answer =>
              have mine := holds.2 key
              rw [running] at mine
              exact calls (mine _ ((conduct key).refl _) answer).1
          | answer => exact refl _

/-- A call that is under way all the time ends as its specification says. -/
theorem during (verified : service.Verified sound settled recovered conduct recovering)
    {ends : Except ε α → σ → Prop} {key : κ} {pool later : Pool κ ι σ ε α}
    {thread : Thread ι σ ε α}
    (holds : Holds sound settled recovered conduct recovering (.serving pool))
    (running : pool.calls key = some thread) (within : (conduct key).Within ends thread pool.shared)
    (during : Pool.During service.outside service.offered key pool later) :
    Holds sound settled recovered conduct recovering (.serving later) ∧
      ∃ thread, later.calls key = some thread ∧ (conduct key).Within ends thread later.shared := by
  induction during with
  | first => exact ⟨holds, thread, running, within⟩
  | @next middle later _ steps under ih =>
      obtain ⟨holds, thread, running, within⟩ := ih
      refine ⟨verified.pool_step steps holds, ?_⟩
      cases steps with
      | outside happens =>
          exact ⟨thread, running, within.shift (verified.aside key holds.1 happens)⟩
      | @call other called free offers =>
          have differs : key ≠ other := by
            rintro rfl
            cases running.symm.trans free
          exact ⟨thread, by simp only [Function.update_of_ne differs, running], within⟩
      | @step other act next going answer =>
          by_cases same : key = other
          · subst same
            obtain rfl := Option.some.inj (running.symm.trans going)
            have rest := (within middle.shared ((conduct key).refl _) answer).2
            exact ⟨_, Function.update_self .., rest⟩
          · have theirs := holds.2 other
            rw [going] at theirs
            obtain ⟨promised, -⟩ := theirs middle.shared ((conduct other).refl _) answer
            have between := verified.apart (Ne.symm same) holds.1 promised
            exact ⟨thread, by simp only [Function.update_of_ne same, running],
              within.shift between⟩
      | @answer other outcome ended =>
          by_cases same : key = other
          · subst same
            simp only [Function.update_self] at under
            cases under
          · exact ⟨thread, by simp only [Function.update_of_ne same, running], within⟩

end Verified

end Service

end

end DesignHarness.Library
