import VmCell.Core.Provider

/-! Errors of the state store and of the engine, with their texts. -/

set_option autoImplicit false
namespace VmCell

inductive StateError where
  | io (path : PathBuf) (source : String)
  | notFound (path : PathBuf)
  | alreadyExists (path : PathBuf)
  | mutationBusy
  | unsafeRuntimePath (path : PathBuf)
  | identityMismatch (kind : String) (path : PathBuf) (expected : String)
  | unsupportedSchema (kind : String) (path : PathBuf) (expected actual : Nat)
  | upgradeRequired (kind : String) (supported actual : Nat)
  | artifactIntegrity (path : PathBuf) (reason : String)
  | guestOperationIntegrity (path : PathBuf) (reason : String)
  | jobCorrelationIntegrity (path : PathBuf) (reason : String)
  deriving DecidableEq

def StateError.display : StateError → String
  | .io path source => "state I/O failed for " ++ path.display ++ ": " ++ source
  | .notFound path => "state object not found: " ++ path.display
  | .alreadyExists path => "state object already exists: " ++ path.display
  | .mutationBusy => "another vmcell mutation is active"
  | .unsafeRuntimePath path => "refusing unsafe runtime path: " ++ path.display
  | .identityMismatch kind path expected =>
      "persisted " ++ kind ++ " identity in " ++ path.display ++
        " does not match requested id " ++ expected
  | .unsupportedSchema kind path expected actual =>
      "unsupported " ++ kind ++ " schema version in " ++ path.display ++ ": expected " ++
        toString expected ++ ", found " ++ toString actual
  | .upgradeRequired kind supported actual =>
      "durable " ++ kind ++ " schema requires a different vmcell version: supported " ++
        toString supported ++ ", found " ++ toString actual
  | .artifactIntegrity path reason =>
      "artifact integrity check failed for " ++ path.display ++ ": " ++ reason
  | .guestOperationIntegrity path reason =>
      "guest operation integrity check failed for " ++ path.display ++ ": " ++ reason
  | .jobCorrelationIntegrity path reason =>
      "job correlation integrity check failed for " ++ path.display ++ ": " ++ reason

/-- What a failing disk or a replaced path makes a state access report. -/
def StateError.isFault : StateError → Bool
  | .io .. | .unsafeRuntimePath _ => true
  | _ => false

inductive RunSelectionError where
  | unsupportedHost
  | unsupportedHostArchitecture
  | ambiguous
  | incompatibleImageVariant
  | providerUnavailable
  | acceleratorUnavailable
  | architectureMismatch
  | unsupportedGuestTransport
  | contradictoryCapabilityEvidence
  | undocumentedCombination
  | unsupportedCombination
  | tcgRequiresExplicitOptIn
  | impossibleProviderAccelerator
  | planDrift
  deriving DecidableEq

def RunSelectionError.code : RunSelectionError → String
  | .unsupportedHost | .unsupportedHostArchitecture => "vmcell.run_plan.host_unsupported"
  | .ambiguous => "vmcell.run_plan.ambiguous"
  | .incompatibleImageVariant => "vmcell.run_plan.incompatible_image_variant"
  | .providerUnavailable => "vmcell.run_plan.provider_unavailable"
  | .acceleratorUnavailable => "vmcell.run_plan.accelerator_unavailable"
  | .architectureMismatch => "vmcell.run_plan.architecture_mismatch"
  | .unsupportedGuestTransport => "vmcell.run_plan.guest_transport_unsupported"
  | .contradictoryCapabilityEvidence => "vmcell.run_plan.capability_conflict"
  | .undocumentedCombination => "vmcell.run_plan.undocumented_combination"
  | .unsupportedCombination => "vmcell.run_plan.unsupported_combination"
  | .tcgRequiresExplicitOptIn => "vmcell.run_plan.tcg_requires_explicit_opt_in"
  | .impossibleProviderAccelerator => "vmcell.run_plan.impossible_provider_accelerator"
  | .planDrift => "vmcell.run_plan.drift"

inductive EngineError where
  | state (error : StateError)
  | provider (error : ProviderError)
  | runSelection (error : RunSelectionError)
  | unsupportedProvider (name : String)
  | providerUnavailable (detail : String)
  | invalidImage (reason : String)
  | imageIntegrity (reason : String)
  | imageConflict (image : ImageId)
  | imageInUse (image : ImageId) (blockingCells : Nat)
  | invalidCellRequest (reason : String)
  | lifecycleConflict (reason : String)
  | integrity (reason : String)
  | ownershipNotProven (reason : String)
  | providerDrift (reason : String)
  | unexpectedPowerState (state : ProviderPowerState)
  | guest (error : GuestIoError)
  deriving DecidableEq

section Display

def ProviderError.display : ProviderError → String
  | .unsupported provider operation =>
      "provider " ++ provider ++ " does not support " ++ operation
  | .command detail => "provider command failed: " ++ detail
  | .timeout detail => "provider operation timed out: " ++ detail
  | .outputLimit detail => "provider output exceeded its limit: " ++ detail
  | .invalidResponse detail => "provider returned invalid data: " ++ detail
  | .notFound detail => "provider object not found: " ++ detail
  | .collision detail => "provider object collision: " ++ detail
  | .ownershipChanged detail => "provider ownership precondition changed: " ++ detail
  | .authority detail => "provider mutation authority rejected: " ++ detail

def GuestIoError.display : GuestIoError → String
  | .notImplemented name => "guest transport is not implemented: " ++ name
  | .invalidRequest reason => "invalid guest operation: " ++ reason
  | .pathViolation => "guest path violates the CellId-scoped workspace policy"
  | .ownershipChanged => "guest ownership precondition changed"
  | .guestNotReady => "guest is not ready for PowerShell Direct"
  | .authenticationFailed => "guest authentication failed"
  | .sessionFailed => "guest session failed"
  | .timeout => "guest transport timed out; guest side effects are unknown"
  | .outputLimit => "guest output exceeded the configured limit"
  | .invalidResponse => "guest transport returned invalid structured data"
  | .partialCopy => "guest copy was interrupted; destination state is not assumed"
  | .transport => "guest transport failed with a redacted error"

def RunSelectionError.display : RunSelectionError → String
  | .unsupportedHost =>
      "the current host operating system is not modeled for run selection"
  | .unsupportedHostArchitecture =>
      "the current host architecture is not modeled for run selection"
  | .ambiguous => "more than one equally preferred execution path is compatible"
  | .incompatibleImageVariant => "the logical image has no compatible provider variant"
  | .providerUnavailable => "the selected provider is unavailable"
  | .acceleratorUnavailable => "the required accelerator is unavailable"
  | .architectureMismatch =>
      "the image architecture does not match the selected native path"
  | .unsupportedGuestTransport =>
      "the required guest transport is unsupported or unavailable"
  | .contradictoryCapabilityEvidence => "provider capability evidence is contradictory"
  | .undocumentedCombination =>
      "the execution combination is absent from the support contract"
  | .unsupportedCombination => "the execution combination is declared unsupported"
  | .tcgRequiresExplicitOptIn =>
      "TCG requires explicit --accelerator tcg and --allow-tcg together"
  | .impossibleProviderAccelerator =>
      "the explicit provider and accelerator cannot be combined"
  | .planDrift => "the execution plan no longer matches current read-only evidence"

/-- A string as it appears in a debug rendering. -/
def quoted (text : String) : String :=
  "\"" ++ String.ofList (text.toList.flatMap fun letter =>
    if letter = '"' ∨ letter = '\\' then ['\\', letter] else [letter]) ++ "\""

def ProviderPowerState.debug : ProviderPowerState → String
  | .off => "Off"
  | .running => "Running"
  | .paused => "Paused"
  | .saved => "Saved"
  | .other name => "Other(" ++ quoted name ++ ")"

def EngineError.display : EngineError → String
  | .state error => error.display
  | .provider error => error.display
  | .runSelection error => error.display
  | .unsupportedProvider name => "unsupported local provider: " ++ name
  | .providerUnavailable detail => "selected provider is unavailable: " ++ detail
  | .invalidImage reason => "invalid image: " ++ reason
  | .imageIntegrity reason => "registered image integrity check failed: " ++ reason
  | .imageConflict image =>
      "image id is already registered with different identity: " ++ image.text
  | .imageInUse image blockingCells =>
      "image " ++ image.text ++ " is still referenced by " ++ toString blockingCells ++
        " non-destroyed cell(s)"
  | .invalidCellRequest reason => "invalid cell request: " ++ reason
  | .lifecycleConflict reason =>
      "cell lifecycle conflicts with the requested operation: " ++ reason
  | .integrity reason => "persisted cell integrity check failed: " ++ reason
  | .ownershipNotProven reason => "ownership is not proven: " ++ reason
  | .providerDrift reason => "provider object drift: " ++ reason
  | .unexpectedPowerState power => "unexpected provider power state: " ++ power.debug
  | .guest error => error.display

end Display

/-- The code that `fail_record` stores in place of the message. -/
def durableErrorCode : EngineError → String
  | .state _ => "vmcell.state.failed"
  | .provider (.timeout _) => "vmcell.provider.timeout"
  | .provider (.outputLimit _) => "vmcell.provider.output_limit"
  | .provider _ => "vmcell.provider.failed"
  | .runSelection error => error.code
  | .unsupportedProvider _ => "vmcell.provider.unsupported"
  | .providerUnavailable _ => "vmcell.provider.unavailable"
  | .invalidImage _ => "vmcell.image.invalid"
  | .imageIntegrity _ => "vmcell.image.integrity"
  | .imageConflict _ => "vmcell.image.conflict"
  | .imageInUse .. => "vmcell.image.in_use"
  | .invalidCellRequest _ => "vmcell.request.invalid"
  | .lifecycleConflict _ => "vmcell.lifecycle.conflict"
  | .integrity _ => "vmcell.state.integrity"
  | .ownershipNotProven _ => "vmcell.ownership.not_proven"
  | .providerDrift _ => "vmcell.ownership.drift"
  | .unexpectedPowerState _ => "vmcell.lifecycle.power_state"
  | .guest .timeout => "vmcell.guest.timeout"
  | .guest .outputLimit => "vmcell.guest.output_limit"
  | .guest _ => "vmcell.guest.failed"

/-- The class recorded for a failed guest operation, and whether the operation
ends with it. -/
def guestFailureClass : EngineError → GuestFailureClass × Bool
  | .guest .guestNotReady => (.guestNotReady, true)
  | .guest .authenticationFailed => (.authentication, true)
  | .guest .sessionFailed => (.session, true)
  | .guest .ownershipChanged | .ownershipNotProven _ | .providerDrift _ =>
      (.ownershipChanged, true)
  | .guest .pathViolation | .guest (.invalidRequest _) => (.pathViolation, true)
  | .guest .timeout => (.timeout, false)
  | .guest .outputLimit => (.outputLimit, false)
  | .guest .partialCopy => (.partialCopy, false)
  | .guest .invalidResponse => (.invalidEncoding, false)
  | _ => (.unknown, false)

/-- A failure that ends an operation always has a class of its own. -/
theorem guestFailureClass_terminal_ne_unknown {error : EngineError}
    (terminal : (guestFailureClass error).2 = true) : (guestFailureClass error).1 ≠ .unknown := by
  unfold guestFailureClass at terminal ⊢
  split <;> simp_all

end VmCell
