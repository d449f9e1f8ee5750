import VmCell.Core.Records
import VmCell.Encoding.Text

/-! Values exchanged with the virtual machine provider and the guest transport. -/

set_option autoImplicit false
namespace VmCell

section Provider

inductive ProviderPowerState where
  | off
  | running
  | paused
  | saved
  | other (name : String)
  deriving DecidableEq

structure ProviderVm where
  id : String
  name : String
  powerState : ProviderPowerState
  ownershipMarker : String
  configurationPath : PathBuf
  attachedDisks : List PathBuf
  networkAdapterCount : Nat
  cpuCount : Nat
  memoryMib : Nat
  deriving DecidableEq

structure ProviderVmIdentity where
  id : String
  name : String
  deriving DecidableEq

inductive VmLookup where
  | id (id : String)
  | name (name : String)
  deriving DecidableEq

structure ProviderImageInfo where
  path : PathBuf
  diskFormat : String
  diskType : String
  parentPath : Option PathBuf
  fileSize : Nat
  virtualSize : Nat
  deriving DecidableEq

structure CreateOverlayRequest where
  parentPath : PathBuf
  overlayPath : PathBuf
  deriving DecidableEq

structure CreateVmRequest where
  name : String
  configurationPath : PathBuf
  overlayPath : PathBuf
  parentPath : PathBuf
  memoryMib : Nat
  cpuCount : Nat
  accelerator : Option String
  allowTcg : Bool
  deriving DecidableEq

structure ClaimVmRequest where
  expected : ProviderVm
  ownershipMarker : String
  deriving DecidableEq

structure ConfigureVmRequest where
  expected : ProviderVm
  cpuCount : Nat
  deriving DecidableEq

inductive ProviderProbeStatus where
  | ready
  | unsupportedHost
  | unavailable
  | probeFailed
  deriving DecidableEq

def automationSchemaVersion : Nat := 1

structure ProviderCapabilities where
  schemaVersion : Nat
  fullSystemVm : Bool
  cowOverlay : Bool
  hardwareAcceleration : Bool
  accelerators : List String
  guestOs : List String
  guestArch : List String
  guestTransports : List String
  networklessGuestExec : Bool
  deriving DecidableEq

def ProviderCapabilities.unavailable : ProviderCapabilities where
  schemaVersion := automationSchemaVersion
  fullSystemVm := false
  cowOverlay := false
  hardwareAcceleration := false
  accelerators := []
  guestOs := []
  guestArch := []
  guestTransports := []
  networklessGuestExec := false

structure ProviderProbe where
  name : String
  status : ProviderProbeStatus
  available : Bool
  detail : String
  capabilities : ProviderCapabilities
  deriving DecidableEq

/-- Readiness is derived from the probe state and the lifecycle capabilities,
not from the duplicated `available` field. -/
def ProviderProbe.normalized (probe : ProviderProbe) : ProviderProbe :=
  let usable := probe.capabilities.schemaVersion == automationSchemaVersion &&
    probe.capabilities.fullSystemVm && probe.capabilities.cowOverlay
  let probe :=
    if probe.status = .ready ∧ usable = false then
      { probe with
        status := .probeFailed
        detail := "provider readiness response omitted required lifecycle capabilities" }
    else probe
  let available := decide (probe.status = .ready)
  { probe with
    available := available
    capabilities := if available then probe.capabilities else .unavailable }

inductive ProviderError where
  | unsupported (provider operation : String)
  | command (detail : String)
  | timeout (detail : String)
  | outputLimit (detail : String)
  | invalidResponse (detail : String)
  | notFound (detail : String)
  | collision (detail : String)
  | ownershipChanged (detail : String)
  | authority (detail : String)
  deriving DecidableEq

end Provider

section Guest

def maxActionTimeoutSeconds : Nat := 3600
def maxOutputBytes : Nat := 16777216
def maxCopyBytes : Nat := 67108864

inductive OverwritePolicy where
  | deny
  | replace
  deriving DecidableEq

structure ReadinessPolicy where
  timeout : Duration
  pollInterval : Duration
  deriving DecidableEq

inductive GuestReadiness where
  | ready
  | guestNotReady
  | authenticationFailed
  | sessionFailed
  deriving DecidableEq

inductive GuestIoError where
  | notImplemented (transport : String)
  | invalidRequest (reason : String)
  | pathViolation
  | ownershipChanged
  | guestNotReady
  | authenticationFailed
  | sessionFailed
  | timeout
  | outputLimit
  | invalidResponse
  | partialCopy
  | transport
  deriving DecidableEq

structure GuestCommand where
  program : String
  args : List String
  timeout : Duration
  maxOutputBytes : Nat
  deriving DecidableEq

def containsNul (text : String) : Bool := text.toList.contains (Char.ofNat 0)

/-- `GuestCommand::validate`; a program of white space alone is empty. -/
def GuestCommand.validate (command : GuestCommand) : Except GuestIoError Unit :=
  if Text.isBlank command.program || containsNul command.program ||
      command.args.any containsNul then
    .error (.invalidRequest "guest program and arguments must contain no NUL")
  else if command.timeout = 0 ∨ command.timeout > maxActionTimeoutSeconds * nanosPerSecond then
    .error (.invalidRequest "guest action timeout is outside the supported bounds")
  else if command.maxOutputBytes = 0 ∨ command.maxOutputBytes > VmCell.maxOutputBytes then
    .error (.invalidRequest "guest output limit is outside the supported bounds")
  else .ok ()

structure GuestCommandResult where
  exitCode : Int
  stdout : String
  stderr : String
  encoding : String
  stdoutBytes : Nat
  stderrBytes : Nat
  truncated : Bool
  deriving DecidableEq

/-- The selected transport: its name and the provider and guest systems it
serves. What its actions do is not fixed here. -/
structure GuestTransport where
  name : String
  supports : String → GuestOs → Bool

end Guest

end VmCell
