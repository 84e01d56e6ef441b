import DesignHarness.Services.AgentConfig
import DesignHarness.Library.Mapping
import Mathlib.Data.String.Basic

/-!
# Override documents

The overrides of an instance as the JSON objects that are merged and compared:
`merge_overrides` (`agent_config_materialization.py:419-446`), the shape check of a patch
(`instance_runtime_settings.py:1672-1706`), and `_replacement_patch`, which the instance settings
(`instance_runtime_settings.py:1286-1305`) and the system settings (`system_settings.py:523-542`)
each compute for themselves.
-/

namespace DesignHarness

open Library

namespace OverrideDocuments

/-- A value that is no object. -/
inductive Leaf where
  | null
  | text (value : String)
  | number (value : Int)
  | flag (value : Bool)
  deriving DecidableEq, Repr

/-- Python's `==`, for which `True` is 1 and `False` is 0. -/
def Leaf.same : Leaf → Leaf → Bool
  | .null, .null => true
  | .text value, .text value' => value == value'
  | .number value, .number value' => value == value'
  | .flag value, .flag value' => value == value'
  | .number value, .flag set => value == set.toInt
  | .flag set, .number value => set.toInt == value
  | _, _ => false

/-- What `or {}` keeps. -/
def Leaf.truthy : Leaf → Bool
  | .null => false
  | .text value => value != ""
  | .number value => value != 0
  | .flag set => set

inductive Setting where
  | leaf (value : Leaf)
  | object (members : Mapping Leaf)

def Setting.same : Setting → Setting → Bool
  | .leaf value, .leaf value' => value.same value'
  | .object members, .object members' => members.equal Leaf.same members'
  | _, _ => false

/-- `isinstance(value, dict)`. -/
def Setting.isObject : Setting → Bool
  | .leaf _ => false
  | .object _ => true

/-- `value if isinstance(value, dict) else {}`. -/
def Setting.members : Setting → Mapping Leaf
  | .leaf _ => ∅
  | .object members => members

/-- Overrides of an instance, or a patch of them. -/
abbrev Document := Mapping Setting

/-- `document.get(field)`. -/
def Document.get (document : Document) (field : String) : Setting :=
  (document.lookup field).getD (.leaf .null)

def libraryReleaseFields : List String := ["category_constraint", "style_direction"]

/-- `RUNTIME_SETTING_FIELDS`. -/
def runtimeSettingFields : List String :=
  ["question_preference", "max_auto_questions", "clarification_total_budget"] ++
    libraryReleaseFields ++
    ["candidate_concurrency", "default_output_size", "response_format", "watermark", "self_check",
      "advanced_model_overrides"]

/-- The fields that are objects. -/
def nestedFields : List String :=
  libraryReleaseFields ++ ["self_check", "advanced_model_overrides"]

/-- The fields that an object may have. -/
def nestedKeys (field : String) : List String :=
  if field = "self_check" then
    ["termination", "fixed_rounds", "max_rounds", "stop_early_on_pass"]
  else if field = "advanced_model_overrides" then
    stateRoutes.map fun route => route.state.name
  else ["release"]

/-- The loop over `value.items()`. -/
def mergeNested (nested changes : Mapping Leaf) : Mapping Leaf :=
  changes.entries.foldl (fun nested change =>
    match change.2 with
    | .null => nested.erase change.1
    | value => nested.insert change.1 value) nested

/-- `dict(merged.get(field_name) or {})`; `dict` of another value raises. -/
def nestedMembers : Option Setting → Option (Mapping Leaf)
  | none => some ∅
  | some (.object members) => some members
  | some (.leaf value) => if value.truthy then none else some ∅

/-- One round of the loop over `patch.items()`; `none` is a Python exception: a nested field that is
    set to something without `items`. -/
def mergeField (merged : Document) (change : Σ _ : String, Setting) : Option Document :=
  if change.1 ∈ nestedFields then
    match change.2 with
    | .leaf .null => some (merged.erase change.1)
    | .leaf _ => none
    | .object changes =>
        (nestedMembers (merged.lookup change.1)).map fun members =>
          let nested := mergeNested members changes
          if nested.keys = [] then merged.erase change.1
          else merged.insert change.1 (.object nested)
  else
    match change.2 with
    | .leaf .null => some (merged.erase change.1)
    | value => some (merged.insert change.1 value)

/-- `merge_overrides` (`agent_config_materialization.py:419-446`). -/
def mergeOverrides (current patch : Document) : Option Document :=
  patch.entries.foldlM mergeField current

/-- What `_replacement_patch` sets a field to. -/
def replacement (before after : Setting) : Option Setting :=
  if before.same after then none
  else if before.isObject || after.isObject then
    some <| .object <| Mapping.collect (before.members.keys ++ after.members.keys) fun key =>
      some ((after.members.lookup key).getD .null)
  else some after

/-- The text that both `_replacement_patch` share. -/
def replacementPatch (current target : Document) : Document :=
  Mapping.collect runtimeSettingFields fun field =>
    replacement (current.get field) (target.get field)

/-- `value is not None and not isinstance(value, dict)` is refused. -/
def validateNested (patch : Document) (nested : String) : Outcome Unit :=
  match patch.get nested with
  | .leaf value => ensure (value = .null) (invalidSetting (nested ++ " must be an object or null."))
  | .object _ => .ok ()

/-- `_validate_patch_shape` (`instance_runtime_settings.py:1672-1706`). -/
def validatePatchShape (patch : Document) : Outcome Unit := do
  let unknown := patch.keys.filter (· ∉ runtimeSettingFields)
  ensure (unknown = []) (.harness ⟨.fieldNotEditable,
    "The runtime settings patch contains a non-editable field.",
    [("fields", .texts (unknown.mergeSort))]⟩)
  checkEach (validateNested patch) nestedFields
  let unknown := nestedFields.flatMap fun nested =>
    (patch.get nested).members.keys.filter (· ∉ nestedKeys nested)
  ensure (unknown = []) (.harness ⟨.fieldNotEditable,
    "The runtime settings patch contains a non-editable nested field.",
    [("fields", .texts (unknown.dedup.mergeSort))]⟩)

end OverrideDocuments

/-- `InstanceRuntimeSettingsService._replacement_patch`
    (`instance_runtime_settings.py:1286-1305`). -/
def InstanceRuntimeSettings.replacementPatch (current target : OverrideDocuments.Document) :
    OverrideDocuments.Document :=
  OverrideDocuments.replacementPatch current target

/-- `SystemSettingsService._replacement_patch` (`system_settings.py:523-542`). -/
def SystemSettings.replacementPatch (current target : OverrideDocuments.Document) :
    OverrideDocuments.Document :=
  OverrideDocuments.replacementPatch current target

namespace OverrideDocuments

/-- A value of a document in normal form: a flat field holds a value, an object has known fields and
    a value for at least one of them. -/
def Setting.Normal (field : String) : Setting → Prop
  | .leaf value => field ∉ nestedFields ∧ value ≠ .null
  | .object members => field ∈ nestedFields ∧ members.keys ≠ [] ∧
      ∀ item ∈ members.entries, item.1 ∈ nestedKeys field ∧ item.2 ≠ .null

instance (field : String) : (value : Setting) → Decidable (value.Normal field)
  | .leaf value => inferInstanceAs (Decidable (field ∉ nestedFields ∧ value ≠ .null))
  | .object members => inferInstanceAs (Decidable (field ∈ nestedFields ∧ members.keys ≠ [] ∧
      ∀ item ∈ members.entries, item.1 ∈ nestedKeys field ∧ item.2 ≠ .null))

/-- Overrides with known fields only, without null and without an empty object. -/
def NormalForm (document : Document) : Prop :=
  ∀ item ∈ document.entries, item.1 ∈ runtimeSettingFields ∧ item.2.Normal item.1

instance (document : Document) : Decidable (NormalForm document) :=
  inferInstanceAs (Decidable (∀ item ∈ document.entries, _))

/-- A patch of the shape that a proposal checks and whose flat fields are set to values. -/
structure ValidPatch (patch : Document) : Prop where
  shape : validatePatchShape patch = .ok ()
  flat : ∀ item ∈ patch.entries, item.1 ∉ nestedFields → item.2.isObject = false

theorem Leaf.same_refl (value : Leaf) : value.same value = true := by
  cases value <;> simp [Leaf.same]

theorem Setting.same_refl (value : Setting) : value.same value = true := by
  cases value with
  | leaf value => exact value.same_refl
  | object members =>
      exact Mapping.equal_iff.mpr fun key => SameFound.refl Leaf.same_refl _

theorem Document.equal_of_lookup {one other : Document}
    (alike : ∀ field, SameFound Setting.same (one.lookup field) (other.lookup field)) :
    one.equal Setting.same other = true :=
  Mapping.equal_iff.mpr alike

/-! ## The merged value of a field -/

/-- The value that a patch sets a field to; null removes the field. -/
def Leaf.kept : Leaf → Option Leaf
  | .null => none
  | value => some value

theorem Leaf.kept_of_ne {value : Leaf} (present : value ≠ .null) : value.kept = some value := by
  cases value with
  | null => exact (present rfl).elim
  | text value => rfl
  | number value => rfl
  | flag set => rfl

theorem Leaf.kept_ne {value kept : Leaf} (h : value.kept = some kept) : kept ≠ .null := by
  cases value <;> cases h <;> simp

theorem lookup_mergeNested (nested changes : Mapping Leaf) (key : String) :
    (mergeNested nested changes).lookup key =
      (changes.lookup key).elim (nested.lookup key) Leaf.kept := by
  unfold mergeNested
  refine @foldl_lookup _ _ _ (fun _ value _ => value.kept) (fun built item key => ?_) changes
    nested key
  by_cases here : key = item.1
  · subst here
    rw [if_pos rfl]
    cases item.2 with
    | null => exact AList.lookup_erase _ _
    | text value => exact AList.lookup_insert _
    | number value => exact AList.lookup_insert _
    | flag set => exact AList.lookup_insert _
  · rw [if_neg here]
    cases item.2 with
    | null => exact AList.lookup_erase_ne here
    | text value => exact AList.lookup_insert_ne here
    | number value => exact AList.lookup_insert_ne here
    | flag set => exact AList.lookup_insert_ne here

/-- An object, unless it is empty. -/
def objectOf (members : Mapping Leaf) : Option Setting :=
  if members.keys = [] then none else some (.object members)

/-- A field after `merge_overrides`: what the patch makes of what was there. -/
def merged (field : String) (change : Setting) (before : Option Setting) : Option Setting :=
  match change with
  | .leaf value => if field ∈ nestedFields then none else value.kept.map .leaf
  | .object changes => objectOf (mergeNested (before.getD (.leaf .null)).members changes)

/-- An item of a patch that merges. -/
def Merges (change : Σ _ : String, Setting) : Prop :=
  match change.2 with
  | .leaf value => change.1 ∈ nestedFields → value = .null
  | .object _ => change.1 ∈ nestedFields

/-- A document whose nested fields are objects. -/
def Nested (document : Document) : Prop :=
  ∀ field ∈ nestedFields, ∀ value, document.lookup field = some value → ∃ members,
    value = .object members

theorem nestedMembers_of_nested {document : Document} (nested : Nested document) {field : String}
    (member : field ∈ nestedFields) :
    nestedMembers (document.lookup field) = some (document.get field).members := by
  unfold Document.get
  cases held : document.lookup field with
  | none => rfl
  | some value =>
      obtain ⟨members, rfl⟩ := nested field member value held
      rfl

theorem mergeField_some {current built : Document} (nested : Nested current)
    {change : Σ _ : String, Setting} (merges : Merges change)
    (held : built.lookup change.1 = current.lookup change.1) :
    ∃ next, mergeField built change = some next ∧ ∀ field, next.lookup field =
      if field = change.1 then merged field change.2 (current.lookup field)
      else built.lookup field := by
  obtain ⟨name, value⟩ := change
  have erased : ∀ field, (built.erase name).lookup field =
      if field = name then none else built.lookup field := by
    intro field
    by_cases here : field = name
    · subst here
      simp
    · rw [if_neg here, AList.lookup_erase_ne here]
  have inserted : ∀ value field, (built.insert name value).lookup field =
      if field = name then some value else built.lookup field := by
    intro value field
    by_cases here : field = name
    · subst here
      simp
    · rw [if_neg here, AList.lookup_insert_ne here]
  have settle : ∀ next found, mergeField built ⟨name, value⟩ = some next →
      (∀ field, next.lookup field = if field = name then found else built.lookup field) →
      found = merged name value (current.lookup name) →
      ∃ next, mergeField built ⟨name, value⟩ = some next ∧ ∀ field, next.lookup field =
        if field = name then merged field value (current.lookup field)
        else built.lookup field := by
    rintro next found ran changed rfl
    refine ⟨next, ran, fun field => ?_⟩
    rw [changed]
    by_cases here : field = name
    · subst here
      rfl
    · rw [if_neg here, if_neg here]
  by_cases member : name ∈ nestedFields
  · cases value with
    | leaf leaf =>
        have null : leaf = .null := merges member
        subst null
        refine settle (built.erase name) none ?_ erased ?_
        · simp [mergeField, member]
        · simp [merged, member]
    | object changes =>
        have members : nestedMembers (built.lookup name) = some (current.get name).members :=
          held ▸ nestedMembers_of_nested nested member
        by_cases empty : (mergeNested (current.get name).members changes).keys = []
        · refine settle (built.erase name) none ?_ erased ?_
          · simp [mergeField, member, members, empty]
          · exact (if_pos empty).symm
        · refine settle (built.insert name (.object (mergeNested (current.get name).members changes)))
            _ ?_ (inserted _) ?_
          · simp [mergeField, member, members, empty]
          · exact (if_neg empty).symm
  · cases value with
    | leaf leaf =>
        by_cases null : leaf = .null
        · subst null
          refine settle (built.erase name) none ?_ erased ?_
          · simp [mergeField, member]
          · simp [merged, member, Leaf.kept]
        · refine settle (built.insert name (.leaf leaf)) _ ?_ (inserted _) ?_
          · cases leaf with
            | null => exact (null rfl).elim
            | text value => simp [mergeField, member]
            | number value => simp [mergeField, member]
            | flag set => simp [mergeField, member]
          · simp [merged, member, Leaf.kept_of_ne null]
    | object changes => exact (member merges).elim

/-- Merging changes each field that the patch names, from what the field was. -/
theorem mergeOverrides_some {current patch : Document} (nested : Nested current)
    (merges : ∀ change ∈ patch.entries, Merges change) :
    ∃ result, mergeOverrides current patch = some result ∧ ∀ field, result.lookup field =
      (patch.lookup field).elim (current.lookup field) fun change =>
        merged field change (current.lookup field) :=
  foldlM_lookup patch.nodupKeys fun change member _ held =>
    mergeField_some nested (merges change member) held

theorem NormalForm.field {document : Document} (normal : NormalForm document) {field : String}
    {value : Setting} (held : document.lookup field = some value) :
    field ∈ runtimeSettingFields ∧ value.Normal field :=
  normal _ (AList.mem_lookup_iff.mp held)

theorem NormalForm.nested {document : Document} (normal : NormalForm document) :
    Nested document := by
  intro field member value held
  obtain ⟨-, shaped⟩ := normal.field held
  cases value with
  | leaf value => exact (shaped.1 member).elim
  | object members => exact ⟨members, rfl⟩

theorem validateNested_eq_ok {patch : Document} {nested : String} :
    validateNested patch nested = .ok () ↔
      ∀ value, patch.get nested = .leaf value → value = .null := by
  unfold validateNested
  cases patch.get nested with
  | leaf value => simp
  | object members => simp

/-- What the shape check asks of a patch. -/
theorem validatePatchShape_iff {patch : Document} : validatePatchShape patch = .ok () ↔
    (∀ field ∈ patch.keys, field ∈ runtimeSettingFields) ∧
    (∀ field ∈ nestedFields, ∀ value, patch.get field = .leaf value → value = .null) ∧
    ∀ field ∈ nestedFields, ∀ key ∈ (patch.get field).members.keys, key ∈ nestedKeys field := by
  simp only [validatePatchShape, bind_eq_ok, ensure_eq_ok, checkEach_eq_ok, validateNested_eq_ok,
    List.filter_eq_nil_iff, decide_eq_true_eq, not_not, List.flatMap_eq_nil_iff, exists_const]

theorem get_of_lookup {document : Document} {field : String} {value : Setting}
    (held : document.lookup field = some value) : document.get field = value := by
  rw [Document.get, held]
  rfl

theorem ValidPatch.merges {patch : Document} (valid : ValidPatch patch) :
    ∀ change ∈ patch.entries, Merges change := by
  rintro ⟨field, value⟩ member
  have held : patch.lookup field = some value := AList.mem_lookup_iff.mpr member
  obtain ⟨-, objects, -⟩ := validatePatchShape_iff.mp valid.shape
  cases value with
  | leaf value => exact fun nested => objects field nested value (get_of_lookup held)
  | object members =>
      by_contra flat
      have leaf := valid.flat _ member flat
      cases leaf

theorem objectOf_same {members members' : Mapping Leaf}
    (alike : ∀ key, members.lookup key = members'.lookup key) :
    SameFound Setting.same (objectOf members) (objectOf members') := by
  unfold objectOf
  by_cases empty : members.keys = []
  · have empty' : members'.keys = [] := by
      rw [Mapping.keys_eq_nil_iff] at empty ⊢
      intro key
      rw [← alike, empty]
    rw [if_pos empty, if_pos empty']
    trivial
  · have filled : members'.keys ≠ [] := by
      intro empty'
      rw [Mapping.keys_eq_nil_iff] at empty empty'
      exact empty fun key => (alike key).trans (empty' key)
    rw [if_neg empty, if_neg filled]
    refine Mapping.equal_iff.mpr fun key => ?_
    rw [alike]
    exact SameFound.refl Leaf.same_refl _

theorem members_objectOf (members : Mapping Leaf) (key : String) :
    ((objectOf members).getD (.leaf .null)).members.lookup key = members.lookup key := by
  unfold objectOf
  by_cases empty : members.keys = []
  · rw [if_pos empty]
    exact (Mapping.keys_eq_nil_iff.mp empty key).symm
  · rw [if_neg empty]
    rfl

/-! ## The laws of one field -/

/-- Merging a change again changes nothing. -/
theorem merged_merged (field : String) (change : Setting) (before : Option Setting) :
    SameFound Setting.same (merged field change (merged field change before))
      (merged field change before) := by
  cases change with
  | leaf value => exact SameFound.refl Setting.same_refl _
  | object changes =>
      refine objectOf_same fun key => ?_
      rw [lookup_mergeNested, merged, members_objectOf, lookup_mergeNested]
      cases changes.lookup key with
      | none => rfl
      | some value => rfl

/-- The change that replaces one object by another sets each field to what the other has. -/
theorem lookup_mergeNested_replacement (before : Mapping Leaf) {after : Mapping Leaf}
    (filled : ∀ key value, after.lookup key = some value → value ≠ .null) (key : String) :
    (mergeNested before (Mapping.collect (before.keys ++ after.keys) fun key =>
      some ((after.lookup key).getD .null))).lookup key = after.lookup key := by
  rw [lookup_mergeNested, Mapping.lookup_collect]
  by_cases member : key ∈ before.keys ++ after.keys
  · rw [if_pos member, Option.elim_some]
    cases held : after.lookup key with
    | none => rfl
    | some value => exact Leaf.kept_of_ne (filled key value held)
  · rw [if_neg member, Option.elim_none]
    obtain ⟨outside, outside'⟩ := not_or.mp (mt List.mem_append.mpr member)
    rw [AList.lookup_eq_none.mpr (mt AList.mem_keys.mp outside),
      AList.lookup_eq_none.mpr (mt AList.mem_keys.mp outside')]

/-- A value of a nested field in normal form is an object of its members. -/
theorem objectOf_members {field : String} (member : field ∈ nestedFields) {found : Option Setting}
    (normal : ∀ value, found = some value → value.Normal field) :
    objectOf (found.getD (.leaf .null)).members = found := by
  cases found with
  | none => rfl
  | some value =>
      cases value with
      | leaf value => exact ((normal _ rfl).1 member).elim
      | object members => exact if_neg (normal _ rfl).2.1

theorem members_filled {field : String} {found : Option Setting}
    (normal : ∀ value, found = some value → value.Normal field) {key : String} {value : Leaf}
    (held : (found.getD (.leaf .null)).members.lookup key = some value) :
    key ∈ nestedKeys field ∧ value ≠ .null := by
  cases found with
  | none => cases held
  | some setting =>
      cases setting with
      | leaf other => cases held
      | object members => exact (normal _ rfl).2.2 _ (AList.mem_lookup_iff.mp held)

/-- Merging the replacement of a field by another value leaves that value. -/
theorem merged_replacement {field : String} {before after : Option Setting}
    (normal : ∀ value, before = some value → value.Normal field)
    (normal' : ∀ value, after = some value → value.Normal field) :
    SameFound Setting.same
      ((replacement (before.getD (.leaf .null)) (after.getD (.leaf .null))).elim before
        fun change => merged field change before) after := by
  by_cases same : (before.getD (.leaf .null)).same (after.getD (.leaf .null)) = true
  · have unchanged : replacement (before.getD (.leaf .null)) (after.getD (.leaf .null)) = none :=
      if_pos same
    rw [unchanged, Option.elim_none]
    cases before with
    | none =>
        cases after with
        | none => trivial
        | some value =>
            -- Only null equals a missing field.
            cases value with
            | leaf value =>
                cases value with
                | null => exact (normal' _ rfl).2 rfl
                | text value => cases same
                | number value => cases same
                | flag set => cases same
            | object members => cases same
    | some value =>
        cases after with
        | none =>
            cases value with
            | leaf value =>
                cases value with
                | null => exact (normal _ rfl).2 rfl
                | text value => cases same
                | number value => cases same
                | flag set => cases same
            | object members => cases same
        | some value' => exact same
  · by_cases member : field ∈ nestedFields
    · have replaced : replacement (before.getD (.leaf .null)) (after.getD (.leaf .null)) =
          some (.object (Mapping.collect ((before.getD (.leaf .null)).members.keys ++
            (after.getD (.leaf .null)).members.keys) fun key =>
              some (((after.getD (.leaf .null)).members.lookup key).getD .null))) := by
        have objects : ((before.getD (.leaf .null)).isObject ||
            (after.getD (.leaf .null)).isObject) = true := by
          cases before with
          | none =>
              cases after with
              | none => exact (same rfl).elim
              | some value' =>
                  cases value' with
                  | leaf value' => exact ((normal' _ rfl).1 member).elim
                  | object members' => rfl
          | some value =>
              cases value with
              | leaf value => exact ((normal _ rfl).1 member).elim
              | object members => rfl
        rw [replacement, if_neg same, if_pos objects]
      rw [replaced, Option.elim_some, merged]
      have alike := objectOf_same (lookup_mergeNested_replacement (before.getD (.leaf .null)).members
        fun key value held => (members_filled normal' held).2)
      rw [objectOf_members member normal'] at alike
      exact alike
    · have leafOf : ∀ found : Option Setting,
          (∀ value, found = some value → value.Normal field) →
          ∃ leaf, found.getD (.leaf .null) = .leaf leaf ∧ leaf.kept.map .leaf = found := by
        rintro (_ | value) shaped
        · exact ⟨.null, rfl, rfl⟩
        · cases value with
          | leaf value =>
              exact ⟨value, rfl, by rw [Leaf.kept_of_ne (shaped _ rfl).2]; rfl⟩
          | object members => exact (member (shaped _ rfl).1).elim
      obtain ⟨leaf, held, -⟩ := leafOf before normal
      obtain ⟨leaf', held', found⟩ := leafOf after normal'
      have flat : ¬ ((before.getD (.leaf .null)).isObject ||
          (after.getD (.leaf .null)).isObject) = true := by
        rw [held, held']
        simp [Setting.isObject]
      rw [replacement, if_neg same, if_neg flat, held', Option.elim_some, merged, if_neg member,
        found]
      exact SameFound.refl Setting.same_refl _

/-- A change of a shape that the patch may have leaves a value in normal form. -/
theorem merged_normal {field : String} {change : Setting} {before : Option Setting}
    (normal : ∀ value, before = some value → value.Normal field)
    (merges : Merges ⟨field, change⟩)
    (known : ∀ key ∈ change.members.keys, key ∈ nestedKeys field) {value : Setting}
    (found : merged field change before = some value) : value.Normal field := by
  cases change with
  | leaf leaf =>
      by_cases member : field ∈ nestedFields
      · rw [merged, if_pos member] at found
        cases found
      · rw [merged, if_neg member] at found
        obtain ⟨kept, held, rfl⟩ := Option.map_eq_some_iff.mp found
        exact ⟨member, Leaf.kept_ne held⟩
  | object changes =>
      have member : field ∈ nestedFields := merges
      rw [merged, objectOf] at found
      split at found
      next empty => cases found
      next filled =>
        cases found
        refine ⟨member, filled, ?_⟩
        rintro ⟨key, value⟩ listed
        have held := AList.mem_lookup_iff.mpr listed
        rw [Option.mem_def, lookup_mergeNested] at held
        cases changed : changes.lookup key with
        | none =>
            rw [changed] at held
            exact members_filled normal held
        | some set =>
            rw [changed] at held
            exact ⟨known key (Mapping.mem_keys_of_lookup changed), Leaf.kept_ne held⟩

/-! ## The laws of documents -/

/-- A valid patch merges into a document in normal form, field by field, and leaves it in normal
    form. -/
theorem mergeOverrides_of_valid {current patch : Document} (normal : NormalForm current)
    (valid : ValidPatch patch) :
    ∃ result, mergeOverrides current patch = some result ∧ NormalForm result ∧
      ∀ field, result.lookup field = (patch.lookup field).elim (current.lookup field) fun change =>
        merged field change (current.lookup field) := by
  obtain ⟨result, ran, found⟩ := mergeOverrides_some normal.nested valid.merges
  refine ⟨result, ran, ?_, found⟩
  rintro ⟨field, value⟩ listed
  have held := AList.mem_lookup_iff.mpr listed
  rw [Option.mem_def, found] at held
  obtain ⟨fields, -, keys⟩ := validatePatchShape_iff.mp valid.shape
  cases changed : patch.lookup field with
  | none =>
      rw [changed] at held
      exact normal.field held
  | some change =>
      rw [changed] at held
      have merges := valid.merges _ (AList.mem_lookup_iff.mp changed)
      refine ⟨fields field (Mapping.mem_keys_of_lookup changed),
        merged_normal (fun value held => (normal.field held).2) merges ?_ held⟩
      intro key member
      cases change with
      | leaf leaf => cases member
      | object changes => exact keys field merges key (by rwa [get_of_lookup changed])

theorem ValidPatch.of_items {patch : Document}
    (items : ∀ field value, patch.lookup field = some value → field ∈ runtimeSettingFields ∧
      Merges ⟨field, value⟩ ∧ ∀ key ∈ value.members.keys, key ∈ nestedKeys field) :
    ValidPatch patch := by
  refine ⟨validatePatchShape_iff.mpr ⟨?_, ?_, ?_⟩, ?_⟩
  · intro field member
    obtain ⟨value, held⟩ := Mapping.lookup_of_mem_keys member
    exact (items field value held).1
  · intro field member value found
    unfold Document.get at found
    cases held : patch.lookup field with
    | none =>
        rw [held] at found
        cases found
        rfl
    | some setting =>
        rw [held] at found
        cases found
        exact (items field _ held).2.1 member
  · intro field _ key member
    unfold Document.get at member
    cases held : patch.lookup field with
    | none =>
        rw [held] at member
        cases member
    | some setting =>
        rw [held] at member
        exact (items field setting held).2.2 key member
  · rintro ⟨field, value⟩ listed flat
    have merges := (items field value (AList.mem_lookup_iff.mpr listed)).2.1
    cases value with
    | leaf value => rfl
    | object members => exact (flat merges).elim

/-- What replaces a value in normal form by another is a change that a patch may have. -/
theorem replacement_shape {field : String} {before after : Option Setting}
    (normal : ∀ value, before = some value → value.Normal field)
    (normal' : ∀ value, after = some value → value.Normal field) {change : Setting}
    (found : replacement (before.getD (.leaf .null)) (after.getD (.leaf .null)) = some change) :
    Merges ⟨field, change⟩ ∧ ∀ key ∈ change.members.keys, key ∈ nestedKeys field := by
  have keyOf : ∀ setting : Option Setting,
      (∀ value, setting = some value → value.Normal field) →
      ∀ key ∈ (setting.getD (.leaf .null)).members.keys, key ∈ nestedKeys field := by
    intro setting shaped key member
    obtain ⟨value, held⟩ := Mapping.lookup_of_mem_keys member
    exact (members_filled shaped held).1
  have objectOf : ∀ setting : Option Setting,
      (∀ value, setting = some value → value.Normal field) →
      (setting.getD (.leaf .null)).isObject = true → field ∈ nestedFields := by
    rintro (_ | value) shaped object
    · cases object
    · cases value with
      | leaf value => cases object
      | object members => exact (shaped _ rfl).1
  unfold replacement at found
  split at found
  next same => cases found
  next different =>
    split at found
    next object =>
      cases found
      refine ⟨?_, fun key member => ?_⟩
      · rcases Bool.or_eq_true_iff.mp object with held | held
        · exact objectOf before normal held
        · exact objectOf after normal' held
      · obtain ⟨value, held⟩ := Mapping.lookup_of_mem_keys member
        have listed : key ∈ (before.getD (.leaf .null)).members.keys ++
            (after.getD (.leaf .null)).members.keys := by
          by_contra outside
          rw [Setting.members, Mapping.lookup_collect, if_neg outside] at held
          cases held
        rcases List.mem_append.mp listed with member | member
        · exact keyOf before normal key member
        · exact keyOf after normal' key member
    next flat =>
      cases found
      cases after with
      | none => exact ⟨fun _ => rfl, fun key member => (List.not_mem_nil member).elim⟩
      | some value =>
          cases value with
          | leaf value =>
              exact ⟨fun member => ((normal' _ rfl).1 member).elim,
                fun key member => (List.not_mem_nil member).elim⟩
          | object members => exact (flat (by simp [Setting.isObject])).elim

theorem lookup_replacementPatch (current target : Document) (field : String) :
    (replacementPatch current target).lookup field =
      if field ∈ runtimeSettingFields then replacement (current.get field) (target.get field)
      else none :=
  Mapping.lookup_collect _ _ _

theorem replacementPatch_valid {current target : Document} (normal : NormalForm current)
    (normal' : NormalForm target) : ValidPatch (replacementPatch current target) := by
  refine ValidPatch.of_items fun field change found => ?_
  rw [lookup_replacementPatch] at found
  split at found
  next member =>
    exact ⟨member, replacement_shape (fun value held => (normal.field held).2)
      (fun value held => (normal'.field held).2) found⟩
  next outside => cases found

/-- Merging the replacement patch into what it was computed from gives its target. -/
theorem merge_replacementPatch {current target : Document} (normal : NormalForm current)
    (normal' : NormalForm target) :
    ∃ result, mergeOverrides current (replacementPatch current target) = some result ∧
      result.equal Setting.same target = true := by
  obtain ⟨result, ran, -, found⟩ :=
    mergeOverrides_of_valid normal (replacementPatch_valid normal normal')
  refine ⟨result, ran, Document.equal_of_lookup fun field => ?_⟩
  rw [found, lookup_replacementPatch]
  split
  next member =>
    exact merged_replacement (fun value held => (normal.field held).2)
      fun value held => (normal'.field held).2
  next outside =>
    have missing : ∀ document : Document, NormalForm document → document.lookup field = none := by
      intro document shaped
      cases held : document.lookup field with
      | none => rfl
      | some value => exact (outside (shaped.field held).1).elim
    rw [Option.elim_none, missing current normal, missing target normal']
    trivial

/-- Merging a valid patch twice is merging it once. -/
theorem mergeOverrides_twice {current patch : Document} (normal : NormalForm current)
    (valid : ValidPatch patch) :
    ∃ once twice, mergeOverrides current patch = some once ∧
      mergeOverrides once patch = some twice ∧ twice.equal Setting.same once = true ∧
      NormalForm once := by
  obtain ⟨once, ran, shaped, found⟩ := mergeOverrides_of_valid normal valid
  obtain ⟨twice, ran', -, found'⟩ := mergeOverrides_of_valid shaped valid
  refine ⟨once, twice, ran, ran', Document.equal_of_lookup fun field => ?_, shaped⟩
  rw [found', found]
  cases patch.lookup field with
  | none => exact SameFound.refl Setting.same_refl _
  | some change => exact merged_merged field change _

theorem replacementPatch_equal (current target : Document) :
    (InstanceRuntimeSettings.replacementPatch current target).equal Setting.same
      (SystemSettings.replacementPatch current target) = true :=
  Document.equal_of_lookup fun _ => SameFound.refl Setting.same_refl _

/-- Both services compute the same patch from one document in normal form to another; merging it
    gives the other.  Merging a patch twice is merging it once, and leaves a document in normal
    form. -/
theorem patches_restore_overrides (current target patch : Document) (normal : NormalForm current)
    (normal' : NormalForm target) (valid : ValidPatch patch) :
    (InstanceRuntimeSettings.replacementPatch current target).equal Setting.same
      (SystemSettings.replacementPatch current target) = true ∧
    (∀ replaces ∈ [InstanceRuntimeSettings.replacementPatch current target,
        SystemSettings.replacementPatch current target],
      ValidPatch replaces ∧ ∃ result, mergeOverrides current replaces = some result ∧
        result.equal Setting.same target = true) ∧
    ∃ once twice, mergeOverrides current patch = some once ∧
      mergeOverrides once patch = some twice ∧ twice.equal Setting.same once = true ∧
      NormalForm once := by
  refine ⟨replacementPatch_equal current target, ?_, mergeOverrides_twice normal valid⟩
  have restored := merge_replacementPatch normal normal'
  have shaped := replacementPatch_valid normal normal'
  intro replaces member
  rcases List.mem_cons.mp member with rfl | member
  · exact ⟨shaped, restored⟩
  · rw [List.mem_singleton] at member
    subst member
    exact ⟨shaped, restored⟩

/-- Self-check rounds, as overrides or as a patch of them. -/
def selfCheckRounds (field : String) (rounds : Int) : Document :=
  [⟨"self_check", .object [⟨field, .number rounds⟩].toAList⟩].toAList

/-- From two fixed rounds to at most five, and a patch that sets three fixed rounds. -/
theorem patches_restore_self_check :
    (InstanceRuntimeSettings.replacementPatch (selfCheckRounds "fixed_rounds" 2)
        (selfCheckRounds "max_rounds" 5)).equal Setting.same
      (SystemSettings.replacementPatch (selfCheckRounds "fixed_rounds" 2)
        (selfCheckRounds "max_rounds" 5)) = true ∧
    (∀ replaces ∈ [InstanceRuntimeSettings.replacementPatch (selfCheckRounds "fixed_rounds" 2)
          (selfCheckRounds "max_rounds" 5),
        SystemSettings.replacementPatch (selfCheckRounds "fixed_rounds" 2)
          (selfCheckRounds "max_rounds" 5)],
      ValidPatch replaces ∧ ∃ result,
        mergeOverrides (selfCheckRounds "fixed_rounds" 2) replaces = some result ∧
        result.equal Setting.same (selfCheckRounds "max_rounds" 5) = true) ∧
    ∃ once twice,
      mergeOverrides (selfCheckRounds "fixed_rounds" 2) (selfCheckRounds "fixed_rounds" 3) =
        some once ∧
      mergeOverrides once (selfCheckRounds "fixed_rounds" 3) = some twice ∧
      twice.equal Setting.same once = true ∧ NormalForm once :=
  patches_restore_overrides (selfCheckRounds "fixed_rounds" 2) (selfCheckRounds "max_rounds" 5)
    (selfCheckRounds "fixed_rounds" 3) (by decide) (by decide) ⟨by decide, by decide⟩

end OverrideDocuments

end DesignHarness
