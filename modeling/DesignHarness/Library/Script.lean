import DesignHarness.Library.Except

/-!
# Programs that write to a disk

A script reads the disk, makes writes one after another and returns or raises.  `Meets` is its
specification: what holds in every state that the disk goes through, an interrupted write
included, and what holds at the end.  Each way of building a script has one rule, named
`Meets.pure`, `Meets.bind` and so on.
-/

namespace DesignHarness.Library

/-- A disk and the writes that change it; `tear` is what an interrupted write leaves. -/
class Disk (σ : Type) (ω : outParam Type) where
  apply : σ → ω → σ
  tear : σ → ω → σ

/-- The writes of a script and how it ended. -/
structure Ran (ω ε α : Type) where
  writes : List ω
  outcome : Except ε α

/-- A program over the disk. -/
def Script (σ ω ε α : Type) : Type := σ → Ran ω ε α

section

variable {σ ω ε α β : Type} [Disk σ ω]

/-- The disk after a list of writes. -/
def applyAll (disk : σ) (writes : List ω) : σ := writes.foldl Disk.apply disk

namespace Script

def pure (value : α) : Script σ ω ε α := fun _ => ⟨[], .ok value⟩

def raise (error : ε) : Script σ ω ε α := fun _ => ⟨[], .error error⟩

def read (f : σ → α) : Script σ ω ε α := fun disk => ⟨[], .ok (f disk)⟩

def write (w : ω) : Script σ ω ε Unit := fun _ => ⟨[w], .ok ()⟩

def lift (outcome : Except ε α) : Script σ ω ε α := fun _ => ⟨[], outcome⟩

def bind (first : Script σ ω ε α) (next : α → Script σ ω ε β) : Script σ ω ε β := fun disk =>
  match first disk with
  | ⟨writes, .error error⟩ => ⟨writes, .error error⟩
  | ⟨writes, .ok value⟩ =>
      match next value (applyAll disk writes) with
      | ⟨more, outcome⟩ => ⟨writes ++ more, outcome⟩

/-- `try: script except: handler(error)`. -/
def rescue (script : Script σ ω ε α) (handler : ε → Script σ ω ε α) : Script σ ω ε α := fun disk =>
  match script disk with
  | ⟨writes, .ok value⟩ => ⟨writes, .ok value⟩
  | ⟨writes, .error error⟩ =>
      match handler error (applyAll disk writes) with
      | ⟨more, outcome⟩ => ⟨writes ++ more, outcome⟩

instance : Monad (Script σ ω ε) where
  pure := Script.pure
  bind := Script.bind

instance : MonadLift (Except ε) (Script σ ω ε) where
  monadLift := Script.lift

/-- `for item in items: body(item)`. -/
def forEach (body : α → Script σ ω ε Unit) : List α → Script σ ω ε Unit
  | [] => Script.pure ()
  | item :: rest => do
      body item
      forEach body rest

/-- The disk when the script has ended. -/
def after (script : Script σ ω ε α) (disk : σ) : σ := applyAll disk (script disk).writes

/-- The disk when the script was stopped before a write, or in the middle of it. -/
def stopped (script : Script σ ω ε α) (disk : σ) (position : Nat) (torn : Bool) : σ :=
  let before := applyAll disk ((script disk).writes.take position)
  match torn, (script disk).writes[position]? with
  | true, some write => Disk.tear before write
  | _, _ => before

/-- The disk when the script has ended, or was stopped at a write. -/
def upTo (script : Script σ ω ε α) (stop : Option (Nat × Bool)) (disk : σ) : σ :=
  match stop with
  | none => script.after disk
  | some (position, torn) => script.stopped disk position torn

/-! What a script does at its first statement. -/

theorem run_read {f : σ → α} {next : α → Script σ ω ε β} {disk : σ} :
    (Script.read f >>= next) disk = next (f disk) disk := rfl

theorem run_lift {value : α} {next : α → Script σ ω ε β} {disk : σ} :
    (Script.lift (.ok value) >>= next) disk = next value disk := rfl

theorem run_bind {script : Script σ ω ε α} {writes : List ω} {value : α}
    {next : α → Script σ ω ε β} {disk : σ} (ran : script disk = ⟨writes, .ok value⟩) :
    (script >>= next) disk =
      ⟨writes ++ (next value (applyAll disk writes)).writes,
        (next value (applyAll disk writes)).outcome⟩ := by
  change Script.bind script next disk = _
  unfold Script.bind
  rw [ran]

theorem run_quiet {script : Script σ ω ε α} {value : α} {next : α → Script σ ω ε β} {disk : σ}
    (quiet : script disk = ⟨[], .ok value⟩) : (script >>= next) disk = next value disk :=
  run_bind quiet

theorem run_raised {script : Script σ ω ε α} {writes : List ω} {error : ε}
    {next : α → Script σ ω ε β} {disk : σ} (raised : script disk = ⟨writes, .error error⟩) :
    (script >>= next) disk = ⟨writes, .error error⟩ := by
  change Script.bind script next disk = _
  unfold Script.bind
  rw [raised]

/-- What is done with the value of a script at its end changes nothing on the disk. -/
theorem after_bind_pure {script : Script σ ω ε α} {value : β} {disk : σ} :
    (script >>= fun _ => (Pure.pure value : Script σ ω ε β)).after disk = script.after disk := by
  unfold after
  rcases ran : script disk with ⟨writes, outcome⟩
  cases outcome with
  | error error => rw [run_raised ran]
  | ok first =>
      rw [run_bind ran]
      exact congrArg (applyAll disk) (List.append_nil writes)

/-- A loop whose body never writes. -/
theorem forEach_quiet {body : α → Script σ ω ε Unit} {items : List α} {disk : σ}
    (quiet : ∀ item ∈ items, body item disk = ⟨[], .ok ()⟩) :
    forEach body items disk = ⟨[], .ok ()⟩ := by
  induction items with
  | nil => rfl
  | cons item rest ih =>
      have first : body item disk = ⟨[], .ok ()⟩ := quiet item List.mem_cons_self
      refine (run_quiet first).trans (ih ?_)
      exact fun other later => quiet other (List.mem_cons_of_mem _ later)

/-! What a script that returned went through. -/

theorem bind_ok {script : Script σ ω ε α} {next : α → Script σ ω ε β} {disk : σ} {value : β}
    (returned : ((script >>= next) disk).outcome = .ok value) :
    ∃ first, (script disk).outcome = .ok first ∧
      (next first (script.after disk)).outcome = .ok value := by
  change (Script.bind script next disk).outcome = .ok value at returned
  unfold Script.bind at returned
  rcases ran : script disk with ⟨writes, outcome⟩
  simp only [ran] at returned
  cases outcome with
  | error error => cases returned
  | ok first =>
      refine ⟨first, rfl, ?_⟩
      rw [Script.after, ran]
      exact returned

theorem lift_ok {outcome : Except ε α} {next : α → Script σ ω ε β} {disk : σ} {value : β}
    (returned : ((Script.lift outcome >>= next) disk).outcome = .ok value) :
    ∃ passed, outcome = .ok passed ∧ (next passed disk).outcome = .ok value := by
  cases outcome with
  | error error => cases returned
  | ok passed => exact ⟨passed, rfl, returned⟩

end Script

/-! ## Specifications -/

/-- The condition holds before, between and after the writes, and where one is interrupted. -/
def Throughout (condition : σ → Prop) : σ → List ω → Prop
  | disk, [] => condition disk
  | disk, write :: writes =>
      condition disk ∧ condition (Disk.tear disk write) ∧
        Throughout condition (Disk.apply disk write) writes

variable {condition : σ → Prop} {disk : σ}

theorem Throughout.start {writes : List ω} (h : Throughout condition disk writes) :
    condition disk := by
  cases writes with
  | nil => exact h
  | cons write writes => exact h.1

theorem Throughout.append {writes more : List ω} (first : Throughout condition disk writes)
    (second : Throughout condition (applyAll disk writes) more) :
    Throughout condition disk (writes ++ more) := by
  induction writes generalizing disk with
  | nil => exact second
  | cons write writes ih =>
      obtain ⟨before, torn, rest⟩ := first
      exact ⟨before, torn, ih rest second⟩

theorem Throughout.mono {other : σ → Prop} {writes : List ω}
    (h : Throughout condition disk writes) (weaker : ∀ disk, condition disk → other disk) :
    Throughout other disk writes := by
  induction writes generalizing disk with
  | nil => exact weaker disk h
  | cons write writes ih =>
      obtain ⟨before, torn, rest⟩ := h
      exact ⟨weaker _ before, weaker _ torn, ih rest⟩

theorem Throughout.and {other : σ → Prop} {writes : List ω} (first : Throughout condition disk writes)
    (second : Throughout other disk writes) :
    Throughout (fun disk => condition disk ∧ other disk) disk writes := by
  induction writes generalizing disk with
  | nil => exact ⟨first, second⟩
  | cons write writes ih =>
      obtain ⟨before, torn, later⟩ := first
      obtain ⟨before', torn', later'⟩ := second
      exact ⟨⟨before, before'⟩, ⟨torn, torn'⟩, ih later later'⟩

theorem Throughout.take {writes : List ω} (h : Throughout condition disk writes) (position : Nat) :
    condition (applyAll disk (writes.take position)) := by
  induction writes generalizing disk position with
  | nil =>
      rw [List.take_nil]
      exact h
  | cons write writes ih =>
      cases position with
      | zero => exact h.1
      | succ position => exact ih h.2.2 position

theorem Throughout.final {writes : List ω} (h : Throughout condition disk writes) :
    condition (applyAll disk writes) := by
  have all := h.take writes.length
  rwa [List.take_length] at all

theorem Throughout.tear {writes : List ω} (h : Throughout condition disk writes) {position : Nat}
    {write : ω} (found : writes[position]? = some write) :
    condition (Disk.tear (applyAll disk (writes.take position)) write) := by
  induction writes generalizing disk position with
  | nil => cases found
  | cons first writes ih =>
      cases position with
      | zero =>
          obtain rfl := Option.some.inj found
          exact h.2.1
      | succ position => exact ih h.2.2 found

/-- From the disk, the condition holds throughout the script, which ends as described. -/
structure Meets (script : Script σ ω ε α) (disk : σ) (condition : σ → Prop)
    (returns : α → σ → Prop) (raises : ε → σ → Prop) : Prop where
  throughout : Throughout condition disk (script disk).writes
  ends : match (script disk).outcome with
    | .ok value => returns value (script.after disk)
    | .error error => raises error (script.after disk)

namespace Meets

variable {returns : α → σ → Prop} {raises : ε → σ → Prop} {script : Script σ ω ε α}

/-- Where a script that meets a specification can be stopped, its condition holds. -/
theorem stopped (meets : Meets script disk condition returns raises) (position : Nat)
    (torn : Bool) : condition (script.stopped disk position torn) := by
  unfold Script.stopped
  cases torn with
  | false => exact meets.throughout.take position
  | true =>
      cases found : (script disk).writes[position]? with
      | none => exact meets.throughout.take position
      | some write => exact meets.throughout.tear found

theorem upTo (meets : Meets script disk condition returns raises) (stop : Option (Nat × Bool)) :
    condition (script.upTo stop disk) := by
  cases stop with
  | none => exact meets.throughout.final
  | some stop => exact meets.stopped stop.1 stop.2

theorem of_ok (meets : Meets script disk condition returns raises) {value : α}
    (returned : (script disk).outcome = .ok value) : returns value (script.after disk) := by
  have ends := meets.ends
  rw [returned] at ends
  exact ends

theorem of_error (meets : Meets script disk condition returns raises) {error : ε}
    (raised : (script disk).outcome = .error error) : raises error (script.after disk) := by
  have ends := meets.ends
  rw [raised] at ends
  exact ends

/-- What holds however the script ends. -/
theorem after {final : σ → Prop}
    (meets : Meets script disk condition (fun _ => final) fun _ => final) :
    final (script.after disk) := by
  have ends := meets.ends
  revert ends
  cases (script disk).outcome <;> exact id

theorem mono {other : σ → Prop} {returns' : α → σ → Prop} {raises' : ε → σ → Prop}
    (meets : Meets script disk condition returns raises)
    (weaker : ∀ disk, condition disk → other disk)
    (returned : ∀ value disk, returns value disk → returns' value disk)
    (raised : ∀ error disk, raises error disk → raises' error disk) :
    Meets script disk other returns' raises' := by
  refine ⟨meets.throughout.mono weaker, ?_⟩
  have ends := meets.ends
  revert ends
  cases (script disk).outcome with
  | ok value => exact returned value _
  | error error => exact raised error _

/-- The condition holds at the end as well. -/
theorem kept (meets : Meets script disk condition returns raises) :
    Meets script disk condition (fun value disk => returns value disk ∧ condition disk)
      fun error disk => raises error disk ∧ condition disk := by
  refine ⟨meets.throughout, ?_⟩
  have ends := meets.ends
  have final : condition (script.after disk) := meets.throughout.final
  revert ends
  cases (script disk).outcome with
  | ok value => exact fun returned => ⟨returned, final⟩
  | error error => exact fun raised => ⟨raised, final⟩

/-- Two specifications of one script hold together. -/
theorem and {other : σ → Prop} {returns' : α → σ → Prop} {raises' : ε → σ → Prop}
    (first : Meets script disk condition returns raises)
    (second : Meets script disk other returns' raises') :
    Meets script disk (fun disk => condition disk ∧ other disk)
      (fun value disk => returns value disk ∧ returns' value disk)
      fun error disk => raises error disk ∧ raises' error disk := by
  refine ⟨first.throughout.and second.throughout, ?_⟩
  have ends := first.ends
  have ends' := second.ends
  revert ends ends'
  cases (script disk).outcome with
  | ok value => exact fun returned returned' => ⟨returned, returned'⟩
  | error error => exact fun raised raised' => ⟨raised, raised'⟩

theorem pure {value : α} (holds : condition disk) (returned : returns value disk) :
    Meets (Pure.pure value : Script σ ω ε α) disk condition returns raises := ⟨holds, returned⟩

theorem raise {error : ε} (holds : condition disk) (raised : raises error disk) :
    Meets (Script.raise error) disk condition returns raises := ⟨holds, raised⟩

theorem read {f : σ → α} (holds : condition disk) (returned : returns (f disk) disk) :
    Meets (Script.read f : Script σ ω ε α) disk condition returns raises := ⟨holds, returned⟩

theorem lift {outcome : Except ε α} (holds : condition disk)
    (returned : ∀ value, outcome = .ok value → returns value disk)
    (raised : ∀ error, outcome = .error error → raises error disk) :
    Meets (Script.lift outcome : Script σ ω ε α) disk condition returns raises := by
  refine ⟨holds, ?_⟩
  cases outcome with
  | ok value => exact returned value rfl
  | error error => exact raised error rfl

theorem write {w : ω} {returns : Unit → σ → Prop} (before : condition disk)
    (torn : condition (Disk.tear disk w)) (written : condition (Disk.apply disk w))
    (returned : returns () (Disk.apply disk w)) :
    Meets (Script.write w : Script σ ω ε Unit) disk condition returns raises :=
  ⟨⟨before, torn, written⟩, returned⟩

theorem bind {next : α → Script σ ω ε β} {returns : β → σ → Prop}
    (first : Meets script disk condition
      (fun value disk => Meets (next value) disk condition returns raises) raises) :
    Meets (script >>= next) disk condition returns raises := by
  obtain ⟨throughout, ends⟩ := first
  change Meets (Script.bind script next) disk condition returns raises
  unfold Script.bind
  rcases ran : script disk with ⟨writes, outcome⟩
  rw [Script.after, ran] at ends
  rw [ran] at throughout
  cases outcome with
  | error error =>
      constructor
      · simp only [ran]
        exact throughout
      · simp only [Script.after, ran]
        exact ends
  | ok value =>
      obtain ⟨later, ends⟩ := ends
      rcases continued : next value (applyAll disk writes) with ⟨more, outcome⟩
      rw [Script.after, continued] at ends
      rw [continued] at later
      constructor
      · simp only [ran, continued]
        exact throughout.append later
      · simp only [Script.after, ran, continued]
        rw [applyAll, List.foldl_append]
        exact ends

/-- A check passes or raises. -/
theorem guarded {outcome : Except ε α} {next : α → Script σ ω ε β} {returns : β → σ → Prop}
    (holds : condition disk)
    (passes : ∀ value, outcome = .ok value → Meets (next value) disk condition returns raises)
    (fails : ∀ error, outcome = .error error → raises error disk) :
    Meets (Script.lift outcome >>= next) disk condition returns raises :=
  Meets.bind (Meets.lift holds passes fails)

/-- A check that passes is skipped. -/
theorem checked {outcome : Except ε α} {value : α} {next : α → Script σ ω ε β}
    {returns : β → σ → Prop} (passes : outcome = .ok value)
    (rest : Meets (next value) disk condition returns raises) :
    Meets (Script.lift outcome >>= next) disk condition returns raises := by
  refine Meets.bind (Meets.lift rest.throughout.start ?_ ?_)
  · intro other passed
    obtain rfl := Except.ok.inj (passes.symm.trans passed)
    exact rest
  · intro error failed
    rw [passes] at failed
    cases failed

/-- What a read finds is known. -/
theorem looked {f : σ → α} {value : α} {next : α → Script σ ω ε β} {returns : β → σ → Prop}
    (found : f disk = value) (rest : Meets (next value) disk condition returns raises) :
    Meets (Script.read f >>= next) disk condition returns raises := by
  refine Meets.bind (Meets.read rest.throughout.start ?_)
  rw [found]
  exact rest

/-- A script that returns without a write is skipped. -/
theorem quiet {value : α} {next : α → Script σ ω ε β} {returns : β → σ → Prop}
    (quiet : script disk = ⟨[], .ok value⟩)
    (rest : Meets (next value) disk condition returns raises) :
    Meets (script >>= next) disk condition returns raises := by
  have same : (script >>= next) disk = next value disk := Script.run_quiet quiet
  obtain ⟨throughout, ends⟩ := rest
  constructor
  · rw [same]
    exact throughout
  · rw [Script.after, same]
    exact ends

theorem rescue {handler : ε → Script σ ω ε α}
    (attempt : Meets script disk condition returns
      fun error disk => Meets (handler error) disk condition returns raises) :
    Meets (script.rescue handler) disk condition returns raises := by
  obtain ⟨throughout, ends⟩ := attempt
  unfold Script.rescue
  rcases ran : script disk with ⟨writes, outcome⟩
  rw [Script.after, ran] at ends
  rw [ran] at throughout
  cases outcome with
  | ok value =>
      constructor
      · simp only [ran]
        exact throughout
      · simp only [Script.after, ran]
        exact ends
  | error error =>
      obtain ⟨later, ends⟩ := ends
      rcases continued : handler error (applyAll disk writes) with ⟨more, outcome⟩
      rw [Script.after, continued] at ends
      rw [continued] at later
      constructor
      · simp only [ran, continued]
        exact throughout.append later
      · simp only [Script.after, ran, continued]
        rw [applyAll, List.foldl_append]
        exact ends

/-- The rule for a loop: what holds of the items done so far, and of the disk. -/
theorem forEach {body : α → Script σ ω ε Unit} {motive : List α → σ → Prop}
    {returns : Unit → σ → Prop} {items : List α}
    (step : ∀ done item rest disk, items = done ++ item :: rest → motive done disk →
      Meets (body item) disk condition (fun _ => motive (done ++ [item])) raises)
    (holds : ∀ done disk, motive done disk → condition disk)
    (start : motive [] disk) (finish : ∀ disk, motive items disk → returns () disk) :
    Meets (Script.forEach body items) disk condition returns raises := by
  suffices rule : ∀ done rest disk, items = done ++ rest → motive done disk →
      Meets (Script.forEach body rest) disk condition returns raises from
    rule [] items disk rfl start
  intro done rest
  induction rest generalizing done with
  | nil =>
      intro disk split inv
      rw [List.append_nil] at split
      subst split
      exact Meets.pure (holds items disk inv) (finish disk inv)
  | cons item rest ih =>
      intro disk split inv
      refine Meets.bind ((step done item rest disk split inv).mono (fun _ => id) ?_ fun _ _ => id)
      intro _ disk inv
      exact ih (done ++ [item]) disk (by simpa using split) inv

/-- A loop by what is left of it. -/
theorem forEachRest {body : α → Script σ ω ε Unit} {motive : List α → σ → Prop}
    {returns : Unit → σ → Prop} {items : List α}
    (step : ∀ item rest disk, motive (item :: rest) disk →
      Meets (body item) disk condition (fun _ => motive rest) raises)
    (holds : ∀ rest disk, motive rest disk → condition disk)
    (start : motive items disk) (finish : ∀ disk, motive [] disk → returns () disk) :
    Meets (Script.forEach body items) disk condition returns raises := by
  induction items generalizing disk with
  | nil => exact Meets.pure (holds [] disk start) (finish disk start)
  | cons item rest ih =>
      exact Meets.bind ((step item rest disk start).mono (fun _ => id) (fun _ _ => ih) fun _ _ => id)

end Meets

/-! ## Invariants -/

/-- The write keeps a condition; interrupted it may leave what is allowed in between. -/
def Keeps (condition between : σ → Prop) (w : ω) : Prop :=
  ∀ disk, condition disk → condition (Disk.apply disk w) ∧
    (condition (Disk.tear disk w) ∨ between (Disk.tear disk w))

/-- Wherever the condition holds the script keeps it, up to what is allowed in between where it is
    stopped, and returns only values that fit. -/
def Maintains (condition between : σ → Prop) (script : Script σ ω ε α) (fits : α → Prop) : Prop :=
  ∀ disk, condition disk → Meets script disk (fun disk => condition disk ∨ between disk)
    (fun value disk => condition disk ∧ fits value) fun _ => condition

namespace Maintains

variable {between : σ → Prop} {script : Script σ ω ε α} {fits : α → Prop}

theorem stopped (maintains : Maintains condition between script fits) (holds : condition disk)
    (position : Nat) (torn : Bool) :
    condition (script.stopped disk position torn) ∨
      between (script.stopped disk position torn) :=
  (maintains disk holds).stopped position torn

theorem after (maintains : Maintains condition between script fits) (holds : condition disk) :
    condition (script.after disk) :=
  ((maintains disk holds).mono (fun _ => id) (fun _ _ h => h.1) fun _ _ => id).after

theorem mono {other : α → Prop} (maintains : Maintains condition between script fits)
    (weaker : ∀ value, fits value → other value) : Maintains condition between script other :=
  fun disk holds => (maintains disk holds).mono (fun _ => id)
    (fun value _ h => ⟨h.1, weaker value h.2⟩) fun _ _ => id

/-- Two conditions that are never left half done are kept together. -/
theorem and {other : σ → Prop} {more : α → Prop} (never : ∀ disk, ¬ between disk)
    (first : Maintains condition between script fits)
    (second : Maintains other between script more) :
    Maintains (fun disk => condition disk ∧ other disk) between script fun value =>
      fits value ∧ more value := by
  intro disk ⟨holds, holds'⟩
  have left := first disk holds
  have right := second disk holds'
  refine ⟨(left.throughout.and right.throughout).mono ?_, ?_⟩
  · rintro disk ⟨here, here'⟩
    exact .inl ⟨here.resolve_right (never disk), here'.resolve_right (never disk)⟩
  · have ends := left.ends
    have ends' := right.ends
    revert ends ends'
    cases (script disk).outcome with
    | ok value => exact fun ended ended' => ⟨⟨ended.1, ended'.1⟩, ended.2, ended'.2⟩
    | error error => exact fun ended ended' => ⟨ended, ended'⟩

theorem pure {value : α} (fit : fits value) :
    Maintains condition between (Pure.pure value : Script σ ω ε α) fits :=
  fun _ holds => Meets.pure (.inl holds) ⟨holds, fit⟩

theorem raise {error : ε} : Maintains condition between (Script.raise error : Script σ ω ε α) fits :=
  fun _ holds => Meets.raise (.inl holds) holds

theorem lift {outcome : Except ε α} (fit : ∀ value, outcome = .ok value → fits value) :
    Maintains condition between (Script.lift outcome : Script σ ω ε α) fits :=
  fun _ holds => Meets.lift (.inl holds) (fun value returned => ⟨holds, fit value returned⟩)
    fun _ _ => holds

theorem read {f : σ → α} (fit : ∀ disk, condition disk → fits (f disk)) :
    Maintains condition between (Script.read f : Script σ ω ε α) fits :=
  fun disk holds => Meets.read (.inl holds) ⟨holds, fit disk holds⟩

theorem write {w : ω} (keeps : Keeps condition between w) :
    Maintains condition between (Script.write w : Script σ ω ε Unit) fun _ => True :=
  fun disk holds =>
    Meets.write (.inl holds) (keeps disk holds).2 (.inl (keeps disk holds).1)
      ⟨(keeps disk holds).1, trivial⟩

theorem bind {next : α → Script σ ω ε β} {results : β → Prop}
    (first : Maintains condition between script fits)
    (second : ∀ value, fits value → Maintains condition between (next value) results) :
    Maintains condition between (script >>= next) results := by
  intro disk holds
  refine Meets.bind ((first disk holds).mono (fun _ => id) ?_ fun _ _ => id)
  intro value disk ⟨holds, fit⟩
  exact second value fit disk holds

/-- A condition that every write keeps is kept by every script. -/
theorem always (keeps : ∀ w, Keeps condition between w) (script : Script σ ω ε α) :
    Maintains condition between script fun _ => True := by
  intro disk holds
  suffices rule : ∀ (writes : List ω) (disk : σ), condition disk →
      Throughout (fun disk => condition disk ∨ between disk) disk writes ∧
        condition (applyAll disk writes) by
    obtain ⟨throughout, final⟩ := rule (script disk).writes disk holds
    refine ⟨throughout, ?_⟩
    cases (script disk).outcome with
    | ok value => exact ⟨final, trivial⟩
    | error error => exact final
  intro writes
  induction writes with
  | nil => exact fun disk holds => ⟨.inl holds, holds⟩
  | cons first rest ih =>
      intro disk holds
      obtain ⟨written, torn⟩ := keeps first disk holds
      obtain ⟨throughout, final⟩ := ih _ written
      exact ⟨⟨.inl holds, torn, throughout⟩, final⟩

/-! What the values are often does not matter. -/

theorem done {value : α} :
    Maintains condition between (Pure.pure value : Script σ ω ε α) fun _ => True :=
  Maintains.pure trivial

theorem check {outcome : Except ε α} :
    Maintains condition between (Script.lift outcome : Script σ ω ε α) fun _ => True :=
  Maintains.lift fun _ _ => trivial

theorem look {f : σ → α} : Maintains condition between (Script.read f : Script σ ω ε α) fun _ => True :=
  Maintains.read fun _ _ => trivial

theorem andThen {next : α → Script σ ω ε β} {results : β → Prop}
    (first : Maintains condition between script fun _ => True)
    (second : ∀ value, Maintains condition between (next value) results) :
    Maintains condition between (script >>= next) results :=
  Maintains.bind first fun value _ => second value

theorem forEach {body : α → Script σ ω ε Unit} {items : List α}
    (each : ∀ item ∈ items, Maintains condition between (body item) fun _ => True) :
    Maintains condition between (Script.forEach body items) fun _ => True := by
  induction items with
  | nil => exact done
  | cons item rest ih =>
      refine andThen (each item List.mem_cons_self) fun _ => ?_
      exact ih fun other later => each other (List.mem_cons_of_mem _ later)

end Maintains

end

section

variable {σ ω ε α : Type}

namespace Script

/-- Every write that the script can make is allowed. -/
def WritesOnly (allowed : ω → Prop) (script : Script σ ω ε α) : Prop :=
  ∀ disk, ∀ w ∈ (script disk).writes, allowed w

namespace WritesOnly

variable {allowed other : ω → Prop} {script : Script σ ω ε α}

theorem raise {error : ε} : WritesOnly allowed (Script.raise error : Script σ ω ε α) :=
  fun _ _ member => absurd member List.not_mem_nil

theorem lift {outcome : Except ε α} :
    WritesOnly allowed (Script.lift outcome : Script σ ω ε α) :=
  fun _ _ member => absurd member List.not_mem_nil

theorem read {f : σ → α} : WritesOnly allowed (Script.read f : Script σ ω ε α) :=
  fun _ _ member => absurd member List.not_mem_nil

theorem write {w : ω} (fine : allowed w) :
    WritesOnly allowed (Script.write w : Script σ ω ε Unit) := by
  intro disk other member
  obtain rfl := List.mem_singleton.mp member
  exact fine

theorem mono (writes : WritesOnly allowed script) (weaker : ∀ w, allowed w → other w) :
    WritesOnly other script := fun disk w member => weaker w (writes disk w member)

end WritesOnly

end Script

end

section

variable {σ ω ε α β : Type} [Disk σ ω]

namespace Script.WritesOnly

variable {allowed other : ω → Prop} {script : Script σ ω ε α} {next : α → Script σ ω ε β}

theorem pure {value : α} : WritesOnly allowed (Pure.pure value : Script σ ω ε α) :=
  fun _ _ member => absurd member List.not_mem_nil

theorem bind (first : WritesOnly allowed script) (rest : ∀ value, WritesOnly allowed (next value)) :
    WritesOnly allowed (script >>= next) := by
  intro disk w member
  change w ∈ (Script.bind script next disk).writes at member
  unfold Script.bind at member
  have before := first disk w
  rcases ran : script disk with ⟨writes, outcome⟩
  rw [ran] at before
  simp only [ran] at member
  cases outcome with
  | error error => exact before member
  | ok value =>
      obtain early | late := List.mem_append.mp member
      · exact before early
      · exact rest value _ w late

theorem look {f : σ → α} (rest : ∀ value, WritesOnly allowed (next value)) :
    WritesOnly allowed (Script.read f >>= next) := read.bind rest

theorem check {outcome : Except ε α} (rest : ∀ value, WritesOnly allowed (next value)) :
    WritesOnly allowed (Script.lift outcome >>= next) := lift.bind rest

theorem forEach {body : α → Script σ ω ε Unit} {items : List α}
    (each : ∀ item ∈ items, WritesOnly allowed (body item)) :
    WritesOnly allowed (Script.forEach body items) := by
  induction items with
  | nil => exact pure
  | cons item rest ih =>
      refine bind (each item List.mem_cons_self) fun _ => ?_
      exact ih fun other later => each other (List.mem_cons_of_mem _ later)

theorem rescue {handler : ε → Script σ ω ε α} (attempt : WritesOnly allowed script)
    (handled : ∀ error, WritesOnly allowed (handler error)) :
    WritesOnly allowed (script.rescue handler) := by
  intro disk w member
  unfold Script.rescue at member
  have before := attempt disk w
  rcases ran : script disk with ⟨writes, outcome⟩
  rw [ran] at before
  simp only [ran] at member
  cases outcome with
  | ok value => exact before member
  | error error =>
      obtain early | late := List.mem_append.mp member
      · exact before early
      · exact handled error _ w late

/-- What every allowed write keeps, the script keeps. -/
theorem maintains {condition between : σ → Prop} (writes : WritesOnly allowed script)
    (keeps : ∀ w, allowed w → Keeps condition between w) :
    Maintains condition between script fun _ => True := by
  intro disk holds
  suffices rule : ∀ (list : List ω) (disk : σ), (∀ w ∈ list, allowed w) → condition disk →
      Throughout (fun disk => condition disk ∨ between disk) disk list ∧
        condition (applyAll disk list) by
    obtain ⟨throughout, final⟩ := rule (script disk).writes disk (writes disk) holds
    refine ⟨throughout, ?_⟩
    cases (script disk).outcome with
    | ok value => exact ⟨final, trivial⟩
    | error error => exact final
  intro list
  induction list with
  | nil => exact fun disk _ holds => ⟨.inl holds, holds⟩
  | cons first rest ih =>
      intro disk fine holds
      obtain ⟨written, torn⟩ := keeps first (fine first List.mem_cons_self) disk holds
      obtain ⟨throughout, final⟩ := ih _ (fun w later => fine w (List.mem_cons_of_mem _ later))
        written
      exact ⟨⟨.inl holds, torn, throughout⟩, final⟩

end Script.WritesOnly

end

end DesignHarness.Library
