import Mathlib.Data.List.AList

/-!
# Mappings

Dictionaries with text keys: when two are equal, building one from a list of keys, and loops over
the items of one dictionary that change another at one key at a time.
-/

namespace DesignHarness.Library

/-- A dictionary whose keys are texts. -/
abbrev Mapping (α : Type) := AList fun _ : String => α

variable {α β : Type}

theorem Mapping.mem_keys_of_lookup {mapping : Mapping α} {key : String} {value : α}
    (held : mapping.lookup key = some value) : key ∈ mapping.keys := by
  have present : (mapping.lookup key).isSome := by simp [held]
  exact AList.mem_keys.mp (AList.lookup_isSome.mp present)

theorem Mapping.lookup_of_mem_keys {mapping : Mapping α} {key : String}
    (member : key ∈ mapping.keys) : ∃ value, mapping.lookup key = some value :=
  Option.isSome_iff_exists.mp (AList.lookup_isSome.mpr (AList.mem_keys.mpr member))

theorem Mapping.keys_eq_nil_iff {members : Mapping α} :
    members.keys = [] ↔ ∀ key, members.lookup key = none := by
  constructor
  · intro empty key
    refine AList.lookup_eq_none.mpr fun present => ?_
    rw [AList.mem_keys, empty] at present
    cases present
  · intro missing
    refine List.eq_nil_iff_forall_not_mem.mpr fun key member => ?_
    exact AList.lookup_eq_none.mp (missing key) (AList.mem_keys.mpr member)

/-! ## Equality -/

/-- Dictionaries of one size in which every key has the same value; the order does not matter. -/
def Mapping.equal (same : α → α → Bool) (one other : Mapping α) : Bool :=
  one.keys.length == other.keys.length &&
    one.keys.all fun key =>
      match one.lookup key, other.lookup key with
      | some value, some value' => same value value'
      | _, _ => false

/-- Two lookups that find the same. -/
def SameFound (same : α → α → Bool) : Option α → Option α → Prop
  | none, none => True
  | some value, some value' => same value value' = true
  | _, _ => False

theorem SameFound.refl {same : α → α → Bool} (reflexive : ∀ value, same value value = true) :
    ∀ found : Option α, SameFound same found found
  | none => trivial
  | some value => reflexive value

theorem Mapping.equal_iff {same : α → α → Bool} {one other : Mapping α} :
    one.equal same other = true ↔ ∀ key, SameFound same (one.lookup key) (other.lookup key) := by
  constructor
  · intro equal key
    obtain ⟨size, values⟩ := Bool.and_eq_true_iff.mp equal
    have size' : one.keys.length = other.keys.length := by simpa using size
    have there : ∀ key ∈ one.keys,
        ∃ value value', one.lookup key = some value ∧ other.lookup key = some value' ∧
          same value value' = true := by
      intro key member
      have found := List.all_eq_true.mp values key member
      cases held : one.lookup key with
      | none =>
          rw [held] at found
          cases found
      | some value =>
          cases held' : other.lookup key with
          | none =>
              rw [held, held'] at found
              cases found
          | some value' =>
              rw [held, held'] at found
              exact ⟨value, value', rfl, rfl, found⟩
    have subset : one.keys ⊆ other.keys := by
      intro key member
      obtain ⟨_, value', _, found, _⟩ := there key member
      exact mem_keys_of_lookup found
    -- As many keys as `other` has, all of them keys of `other`: there are no further ones.
    have back : other.keys ⊆ one.keys :=
      ((List.subperm_of_subset one.keys_nodup subset).perm_of_length_le
        (Nat.le_of_eq size'.symm)).symm.subset
    by_cases member : key ∈ one.keys
    · obtain ⟨value, value', found, found', alike⟩ := there key member
      rw [found, found']
      exact alike
    · have missing : one.lookup key = none :=
        AList.lookup_eq_none.mpr fun present => member (AList.mem_keys.mp present)
      have missing' : other.lookup key = none :=
        AList.lookup_eq_none.mpr fun present => member (back (AList.mem_keys.mp present))
      rw [missing, missing']
      trivial
  · intro alike
    have keys : ∀ key, key ∈ one.keys ↔ key ∈ other.keys := by
      intro key
      rw [← AList.mem_keys, ← AList.mem_keys, ← AList.lookup_isSome, ← AList.lookup_isSome]
      have found := alike key
      cases held : one.lookup key with
      | none =>
          cases held' : other.lookup key with
          | none => simp
          | some value' =>
              rw [held, held'] at found
              exact found.elim
      | some value =>
          cases held' : other.lookup key with
          | none =>
              rw [held, held'] at found
              exact found.elim
          | some value' => simp
    have size : one.keys.length = other.keys.length :=
      ((List.perm_ext_iff_of_nodup one.keys_nodup other.keys_nodup).mpr keys).length_eq
    refine Bool.and_eq_true_iff.mpr ⟨by simpa using size, List.all_eq_true.mpr ?_⟩
    intro key member
    have found := alike key
    obtain ⟨value, held⟩ := lookup_of_mem_keys member
    cases held' : other.lookup key with
    | none =>
        rw [held, held'] at found
        exact found.elim
    | some value' =>
        rw [held, held'] at found
        rw [held]
        exact found

/-- The dictionary of the keys for which there is a value. -/
def Mapping.collect (keys : List String) (value : String → Option α) : Mapping α :=
  keys.foldl (fun built key =>
    match value key with
    | some found => built.insert key found
    | none => built) ∅

theorem Mapping.lookup_collect (keys : List String) (value : String → Option α) (key : String) :
    (Mapping.collect keys value).lookup key = if key ∈ keys then value key else none := by
  suffices collected : ∀ built : Mapping α,
      (keys.foldl (fun built key =>
        match value key with
        | some found => built.insert key found
        | none => built) built).lookup key =
      if key ∈ keys then (value key).or (built.lookup key) else built.lookup key by
    simpa [Mapping.collect] using collected ∅
  induction keys with
  | nil =>
      intro built
      simp
  | cons first rest ih =>
      intro built
      rw [List.foldl_cons, ih]
      by_cases here : key = first
      · subst here
        cases found : value key with
        | none => simp
        | some held => simp
      · cases found : value first with
        | none => simp [here]
        | some held => simp [here, AList.lookup_insert_ne here]

/-- A loop over items with distinct keys, each of which changes the value at its own key from what
    it was at the start. -/
theorem foldlM_lookup {step : Mapping β → (Σ _ : String, α) → Option (Mapping β)}
    {change : String → α → Option β → Option β} {items : List (Σ _ : String, α)}
    (distinct : items.NodupKeys) {start : Mapping β}
    (steps : ∀ item ∈ items, ∀ built : Mapping β, built.lookup item.1 = start.lookup item.1 →
      ∃ next, step built item = some next ∧ ∀ key, next.lookup key =
        if key = item.1 then change key item.2 (start.lookup key) else built.lookup key) :
    ∃ result, items.foldlM step start = some result ∧ ∀ key, result.lookup key =
      (items.dlookup key).elim (start.lookup key) fun value =>
        change key value (start.lookup key) := by
  induction items generalizing start with
  | nil => exact ⟨start, rfl, fun key => rfl⟩
  | cons item rest ih =>
      obtain ⟨apart, distinct⟩ := List.nodupKeys_cons.mp distinct
      obtain ⟨next, stepped, changed⟩ := steps item List.mem_cons_self start rfl
      have same : ∀ key, key ≠ item.1 → next.lookup key = start.lookup key := by
        intro key other
        rw [changed, if_neg other]
      have different : ∀ other ∈ rest, other.1 ≠ item.1 := by
        intro other member named
        exact apart (named ▸ List.mem_keys_of_mem member)
      have later : ∀ other ∈ rest, ∀ built : Mapping β,
          built.lookup other.1 = next.lookup other.1 →
          ∃ next', step built other = some next' ∧ ∀ key, next'.lookup key =
            if key = other.1 then change key other.2 (next.lookup key) else built.lookup key := by
        intro other member built held
        have kept := same other.1 (different other member)
        obtain ⟨next', stepped', changed'⟩ :=
          steps other (List.mem_cons_of_mem item member) built (held.trans kept)
        refine ⟨next', stepped', fun key => ?_⟩
        rw [changed']
        by_cases here : key = other.1
        · subst here
          rw [if_pos rfl, if_pos rfl, kept]
        · rw [if_neg here, if_neg here]
      obtain ⟨result, ran, found⟩ := ih distinct later
      refine ⟨result, ?_, fun key => ?_⟩
      · rw [List.foldlM_cons, stepped]
        exact ran
      · rw [found]
        by_cases here : key = item.1
        · subst here
          have missing : rest.dlookup item.1 = none := List.dlookup_eq_none.mpr apart
          rw [missing, List.dlookup_cons_eq, Option.elim_none, Option.elim_some, changed,
            if_pos rfl]
        · rw [List.dlookup_cons_ne _ _ here, same key here]

/-- The same for steps that always succeed. -/
theorem foldl_lookup {step : Mapping β → (Σ _ : String, α) → Mapping β}
    {change : String → α → Option β → Option β}
    (steps : ∀ built item key, (step built item).lookup key =
      if key = item.1 then change key item.2 (built.lookup key) else built.lookup key)
    (items : Mapping α) (start : Mapping β) (key : String) :
    (items.entries.foldl step start).lookup key =
      (items.lookup key).elim (start.lookup key) fun value =>
        change key value (start.lookup key) := by
  have each : ∀ item ∈ items.entries, ∀ built : Mapping β,
      built.lookup item.1 = start.lookup item.1 →
      ∃ next, some (step built item) = some next ∧ ∀ key, next.lookup key =
        if key = item.1 then change key item.2 (start.lookup key) else built.lookup key := by
    intro item _ built held
    refine ⟨step built item, rfl, fun key => ?_⟩
    rw [steps]
    by_cases here : key = item.1
    · subst here
      rw [if_pos rfl, if_pos rfl, held]
    · rw [if_neg here, if_neg here]
  obtain ⟨result, ran, found⟩ := @foldlM_lookup _ _ (fun built item => some (step built item))
    change items.entries items.nodupKeys start each
  have total : items.entries.foldlM (fun built item => some (step built item)) start =
      some (items.entries.foldl step start) := List.foldlM_pure
  rw [total] at ran
  cases ran
  exact found key

end DesignHarness.Library
