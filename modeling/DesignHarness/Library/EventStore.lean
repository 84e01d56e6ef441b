import DesignHarness.Library.Script
import Mathlib.Data.List.AList

/-!
# Revisioned snapshots behind an event journal

A store keeps one snapshot for each object and an append-only journal.  A commit appends the event
with the new snapshot first and replaces the snapshot then, so the journal is never behind
(`Store.Behind`), and recovery rebuilds every snapshot from the journal (`recoverObjects_meets`).
The last line of the journal may be torn; it is cut off when the journal is next read.
-/

namespace DesignHarness.Library

/-- A snapshot with its revision. -/
structure Wrapper (α : Type) where
  revision : Nat
  payload : α
  committedAt : String
  deriving DecidableEq, Repr

/-- What an event did to its object. -/
inductive Change (α : Type) where
  | committed (snapshot : Wrapper α)
  | removed (revision : Nat)
  deriving DecidableEq, Repr

/-- A line of the journal: the object, the change, and what else was recorded about it. -/
structure Event (κ : Type) (P : κ → Type) (μ : Type) where
  key : κ
  change : Change (P key)
  info : μ

/-- The state of the last line of a journal: verified, cut short, complete but unverifiable
    (a record appended to a line that was cut short), or followed by another line. -/
inductive Tail where
  | clean
  | torn
  | garbled
  | corrupt
  deriving DecidableEq, Repr

structure Journal (κ : Type) (P : κ → Type) (μ : Type) where
  events : List (Event κ P μ)
  tail : Tail

/-- The journal and the snapshots of a set of objects, and the files kept beside them. -/
structure Store (κ : Type) [DecidableEq κ] (P : κ → Type) (μ ξ : Type) where
  journal : Journal κ P μ
  snapshots : AList fun key => Wrapper (P key)
  side : ξ

/-- The writes of a store. -/
inductive Write (κ : Type) (P : κ → Type) (μ ξ : Type) where
  | append (event : Event κ P μ)
  | truncate
  | replace (key : κ) (snapshot : Wrapper (P key))
  | unlink (key : κ)
  | side (value : ξ)

/-- The errors of the store's own programs. -/
structure StoreErrors (κ ε : Type) where
  conflict : κ → Nat → Nat → ε
  corrupted : ε
  uncommitted : κ → ε
  ghost : κ → ε

section

variable {κ : Type} [DecidableEq κ] {P : κ → Type} {μ ξ : Type}

def Journal.append (event : Event κ P μ) (journal : Journal κ P μ) : Journal κ P μ :=
  match journal.tail with
  | .clean => { journal with events := journal.events ++ [event] }
  | .torn => { journal with tail := .garbled }
  | .garbled | .corrupt => { journal with tail := .corrupt }

/-- An append that was interrupted. -/
def Journal.tear (journal : Journal κ P μ) : Journal κ P μ :=
  match journal.tail with
  | .clean | .torn => { journal with tail := .torn }
  | .garbled | .corrupt => { journal with tail := .corrupt }

namespace Store

def append (event : Event κ P μ) (store : Store κ P μ ξ) : Store κ P μ ξ :=
  { store with journal := store.journal.append event }

def truncate (store : Store κ P μ ξ) : Store κ P μ ξ :=
  { store with journal := { store.journal with tail := .clean } }

def replace (key : κ) (snapshot : Wrapper (P key)) (store : Store κ P μ ξ) : Store κ P μ ξ :=
  { store with snapshots := store.snapshots.insert key snapshot }

def unlink (key : κ) (store : Store κ P μ ξ) : Store κ P μ ξ :=
  { store with snapshots := store.snapshots.erase key }

def withSide (side : ξ) (store : Store κ P μ ξ) : Store κ P μ ξ := { store with side := side }

/-- A store whose last append was interrupted. -/
def torn (store : Store κ P μ ξ) : Store κ P μ ξ :=
  { store with journal := store.journal.tear }

end Store

/-- Replacing and removing a file is atomic; only an append leaves something half done. -/
instance : Disk (Store κ P μ ξ) (Write κ P μ ξ) where
  apply store
    | .append event => store.append event
    | .truncate => store.truncate
    | .replace key snapshot => store.replace key snapshot
    | .unlink key => store.unlink key
    | .side value => store.withSide value
  tear store
    | .append _ => store.torn
    | _ => store

/-- What the event made of the object: a snapshot or nothing, if it is about the object. -/
def Event.outcome (key : κ) (event : Event κ P μ) : Option (Option (Wrapper (P key))) :=
  if same : event.key = key then
    match same ▸ event.change with
    | .committed snapshot => some (some snapshot)
    | .removed _ => some none
  else
    none

/-- The snapshot of the object that the event committed. -/
def Event.snapshot (key : κ) (event : Event κ P μ) : Option (Wrapper (P key)) :=
  (event.outcome key).join

/-- What the last event about the object made of it. -/
def lastSnapshot (key : κ) (events : List (Event κ P μ)) : Option (Wrapper (P key)) :=
  events.foldl (fun current event => (event.outcome key).getD current) none

/-- The later revision of two; the first of equal ones. -/
def newer {α : Type} : Option (Wrapper α) → Option (Wrapper α) → Option (Wrapper α)
  | best, none => best
  | none, some snapshot => some snapshot
  | some best, some snapshot =>
      if best.revision < snapshot.revision then some snapshot else some best

/-- The committed snapshot of the object with the highest revision. -/
def latest (key : κ) (events : List (Event κ P μ)) : Option (Wrapper (P key)) :=
  events.foldl (fun best event => newer best (event.snapshot key)) none

/-- The highest committed revision of the object, 0 when there is none. -/
def maxRevision (key : κ) (events : List (Event κ P μ)) : Nat :=
  events.foldl (fun highest event => (event.snapshot key).elim highest fun snapshot =>
    max highest snapshot.revision) 0

/-- The objects with a committed event, in the order of their first one. -/
def committedKeys (events : List (Event κ P μ)) : List κ :=
  (events.filterMap fun event => (event.snapshot event.key).map fun _ => event.key).eraseDups

namespace Store

def lookup (key : κ) (store : Store κ P μ ξ) : Option (Wrapper (P key)) :=
  store.snapshots.lookup key

def payload (key : κ) (store : Store κ P μ ξ) : Option (P key) :=
  (store.lookup key).map Wrapper.payload

def revision (key : κ) (store : Store κ P μ ξ) : Nat :=
  (store.lookup key).elim 0 Wrapper.revision

/-- The revision of the next commit: past the snapshot, or past the journal without one. -/
def nextRevision (key : κ) (store : Store κ P μ ξ) : Nat :=
  match store.lookup key with
  | some snapshot => snapshot.revision + 1
  | none => maxRevision key store.journal.events + 1

end Store

/-! ## Programs -/

section

variable {ε : Type}

/-- A program over a store. -/
abbrev StoreScript (κ : Type) [DecidableEq κ] (P : κ → Type) (μ ξ ε α : Type) : Type :=
  Script (Store κ P μ ξ) (Write κ P μ ξ) ε α

variable (errors : StoreErrors κ ε)

/-- Read the journal and cut off a last line that does not verify. -/
def recoverRecords : StoreScript κ P μ ξ ε (List (Event κ P μ)) := do
  let journal ← Script.read Store.journal
  match journal.tail with
  | .clean => return journal.events
  | .torn | .garbled => do
      Script.write .truncate
      return journal.events
  | .corrupt => Script.raise errors.corrupted

/-- Commit a payload at the expected revision. -/
def put (validate : Except ε Unit) (key : κ) (payload : P key) (expected : Nat) (info : μ)
    (now : String) : StoreScript κ P μ ξ ε (Wrapper (P key)) := do
  Script.lift validate
  let current ← Script.read (Store.lookup key)
  let actual := current.elim 0 Wrapper.revision
  Script.lift (ensure (expected = actual) (errors.conflict key expected actual))
  let base ← match current with
    | some _ => pure actual
    | none => do
        let events ← recoverRecords errors
        pure (maxRevision key events)
  let snapshot : Wrapper (P key) := ⟨base + 1, payload, now⟩
  Script.write (.append ⟨key, .committed snapshot, info⟩)
  Script.write (.replace key snapshot)
  return snapshot

/-- Remove the snapshot of an object; an object without one is left alone. -/
def delete (key : κ) (expected : Nat) (info : μ) : StoreScript κ P μ ξ ε Bool := do
  match ← Script.read (Store.lookup key) with
  | none => return false
  | some current => do
      Script.lift (ensure (expected = current.revision)
        (errors.conflict key expected current.revision))
      Script.write (.append ⟨key, .removed current.revision, info⟩)
      Script.write (.unlink key)
      return true

variable [∀ key, DecidableEq (P key)]

/-- Bring one snapshot in line with the journal. -/
def recoverObject (key : κ) (committed : Wrapper (P key)) : StoreScript κ P μ ξ ε Unit := do
  match ← Script.read (Store.lookup key) with
  | none => Script.write (.replace key committed)
  | some current => do
      if current.revision < committed.revision then
        Script.write (.replace key committed)
      else if committed.revision < current.revision then
        Script.raise (errors.uncommitted key)
      else if current ≠ committed then
        Script.write (.replace key committed)

/-- Bring every snapshot in line with the journal; a snapshot that no event committed is an
    error. -/
def recoverObjects (events : List (Event κ P μ)) : StoreScript κ P μ ξ ε Unit := do
  Script.forEach (fun key =>
      match latest key events with
      | some committed => recoverObject errors key committed
      | none => pure ()) (committedKeys events)
  let keys ← Script.read fun store : Store κ P μ ξ => store.snapshots.keys
  Script.forEach (fun key => Script.lift (ensure (latest key events).isSome
    (errors.ghost key))) keys

end

end

end DesignHarness.Library
