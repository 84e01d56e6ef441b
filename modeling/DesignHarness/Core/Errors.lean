import DesignHarness.Library.Except

/-!
# Control-plane errors

`HarnessError` (`core/errors.py:39-47`) carries a code of the error catalog, a message and a
dictionary of details.  The handlers can also leave through a Python exception that is not a
`HarnessError`; `Raised` is the sum of what a call can raise.
-/

namespace DesignHarness

/-- The codes of `contracts/v1/catalogs/error-codes.json` that the modelled services raise. -/
inductive ErrorCode where
  | validationError
  | revisionConflict
  | invalidStateTransition
  | taskNotFound
  | instanceNotFound
  | taskArchived
  | idempotencyConflict
  | budgetGateDenied
  | settingsRevisionConflict
  | configIntegrityFailed
  | instanceConfigLocked
  | modelNotApproved
  | modelProviderNotAuthorized
  | assetValidationFailed
  | assetCorrupted
  | pathOutsideTaskRoot
  | fieldNotEditable
  | syncScopeChanged
  | safeCheckpointUnavailable
  | processStartFailed
  | controlPlaneNotReady
  | archiveDrainTimeout
  | archiveDrainUnknown
  | adapterUnavailable
  deriving DecidableEq, Repr

/-- The code as it is written in the catalog. -/
def ErrorCode.name : ErrorCode → String
  | .validationError => "VALIDATION_ERROR"
  | .revisionConflict => "REVISION_CONFLICT"
  | .invalidStateTransition => "INVALID_STATE_TRANSITION"
  | .taskNotFound => "TASK_NOT_FOUND"
  | .instanceNotFound => "INSTANCE_NOT_FOUND"
  | .taskArchived => "TASK_ARCHIVED"
  | .idempotencyConflict => "IDEMPOTENCY_CONFLICT"
  | .budgetGateDenied => "BUDGET_GATE_DENIED"
  | .settingsRevisionConflict => "SETTINGS_REVISION_CONFLICT"
  | .configIntegrityFailed => "CONFIG_INTEGRITY_FAILED"
  | .instanceConfigLocked => "INSTANCE_CONFIG_LOCKED"
  | .modelNotApproved => "MODEL_NOT_APPROVED"
  | .modelProviderNotAuthorized => "MODEL_PROVIDER_NOT_AUTHORIZED"
  | .assetValidationFailed => "ASSET_VALIDATION_FAILED"
  | .assetCorrupted => "ASSET_CORRUPTED"
  | .pathOutsideTaskRoot => "PATH_OUTSIDE_TASK_ROOT"
  | .fieldNotEditable => "FIELD_NOT_EDITABLE"
  | .syncScopeChanged => "SYNC_SCOPE_CHANGED"
  | .safeCheckpointUnavailable => "SAFE_CHECKPOINT_UNAVAILABLE"
  | .processStartFailed => "PROCESS_START_FAILED"
  | .controlPlaneNotReady => "CONTROL_PLANE_NOT_READY"
  | .archiveDrainTimeout => "ARCHIVE_DRAIN_TIMEOUT"
  | .archiveDrainUnknown => "ARCHIVE_DRAIN_UNKNOWN"
  | .adapterUnavailable => "ADAPTER_UNAVAILABLE"

/-- A gate that an automatic retry did not pass (`_gates` of `retry_budget.py`). -/
inductive Gate where
  | retryCount (used requested limit : Nat)
  | tokenBoundUnknown (used reserved limit : Nat)
  | tokenLimit (used reserved requested limit : Nat)
  | costUnknown (used : Option Nat) (reserved : Nat) (requested : Option Nat) (limit : Nat)
      (priceCatalogRevision : Option String)
  | costLimit (used reserved requested limit : Nat) (priceCatalogRevision : Option String)
  | ledgerFrozen (reason : Option String)
  deriving DecidableEq, Repr

/-- A value in the `details` of an error. -/
inductive Detail where
  | null
  | text (value : String)
  | texts (values : List String)
  | number (value : Nat)
  | gates (denied : List Gate)
  deriving DecidableEq, Repr

/-- `HarnessError`, without the trace id that the API layer fills in. -/
structure HarnessError where
  code : ErrorCode
  message : String
  details : List (String × Detail) := []
  deriving DecidableEq, Repr

/-- Everything a modelled call can raise. -/
inductive Raised where
  | harness (error : HarnessError)
  | keyError (key : String)
  | stopIteration
  | valueError (message : String)
  /-- Of a Pydantic model. -/
  | validationError (model : String)
  | typeError
  | runtimeError (message : String)
  | assertionError
  | osError (path : String)
  deriving DecidableEq, Repr

/-- The call raised `HarnessError("INVALID_STATE_TRANSITION", ..)`. -/
def Raised.isInvalidTransition : Raised → Bool
  | .harness error => error.code = .invalidStateTransition
  | _ => false

/-- A computation of the modelled services. -/
abbrev Outcome := Except Raised

def Outcome.raisesInvalidTransition {α : Type} : Outcome α → Bool
  | .error error => error.isInvalidTransition
  | .ok _ => false

/-- `raise HarnessError(code, message, details)`. -/
def raiseHarness {α : Type} (code : ErrorCode) (message : String)
    (details : List (String × Detail) := []) : Outcome α :=
  .error (.harness ⟨code, message, details⟩)

end DesignHarness
