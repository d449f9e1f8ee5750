import VmCell.Guest.Agent
import VmCell.Provider.Authority

/-! The configuration file of a QEMU virtual machine.

One file holds the definition of the machine, the intent of a launch and the
receipt of the process that came of it. It is checked each time it is read.
-/

set_option autoImplicit false
namespace VmCell

open Interaction
open Text (isControl)

section Host

/-- The systems the sources tell apart. -/
inductive HostOs where
  | linux
  | windows
  | macos
  | other
  deriving DecidableEq

def HostOs.platform : HostOs → Platform
  | .windows => .windows
  | _ => .unix

def hostAccelerator : HostOs → String
  | .windows => "whpx"
  | .linux => "kvm"
  | .macos => "hvf"
  | .other => ""

def stripPrefix (start text : String) : Option String :=
  if start.toList.isPrefixOf text.toList then
    some (String.ofList (text.toList.drop start.toList.length))
  else none

end Host

inductive ControlEndpoint where
  | unix (path : PathBuf)
  | windowsPipe (path : String)
  deriving DecidableEq

namespace ControlEndpoint

/-- The pipe of the machine on Windows, a socket beside its configuration elsewhere. -/
def named (host : HostOs) (configurationPath : PathBuf) (id pipe socket : String) :
    ControlEndpoint :=
  match host with
  | .windows => .windowsPipe ("\\\\.\\pipe\\" ++ pipe ++ id)
  | _ => .unix (configurationPath.join socket)

def qmp (host : HostOs) (configurationPath : PathBuf) (id : String) : ControlEndpoint :=
  named host configurationPath id "vmcell-qmp-" "qmp.sock"

def qga (host : HostOs) (configurationPath : PathBuf) (id : String) : ControlEndpoint :=
  named host configurationPath id "vmcell-qga-" "qga.sock"

def qemuArgument : ControlEndpoint → String
  | .unix path => "unix:" ++ path.display ++ ",server=on,wait=off"
  | .windowsPipe path =>
      "pipe:" ++ (stripPrefix "\\\\.\\pipe\\" path).getD path ++ ",server=on,wait=off"

end ControlEndpoint

structure QemuVmConfig where
  schemaVersion : Nat
  id : String
  name : String
  ownershipMarker : String
  configurationPath : PathBuf
  overlayPath : PathBuf
  parentPath : PathBuf
  cpuCount : Nat
  memoryMib : Nat
  accelerator : String
  qmp : ControlEndpoint
  qga : ControlEndpoint
  commandSha256 : String
  spawnPending : Bool
  processId : Option Nat
  processStartToken : Option Nat
  processExecutableSha256 : Option String
  processJobName : Option String
  deriving DecidableEq

def qemuConfigSchema : Nat := 2
def qemuLegacyConfigSchema : Nat := 1
def qemuConfigMaxBytes : Nat := 256 * 1024
def unixControlEndpointLimit : Nat := 96

/-- The libraries that hash and that write JSON. -/
structure Encoders where
  /-- `format!("{:x}", Sha256::digest(bytes))`. -/
  sha256 : Bytes → String
  toVecPretty : QemuVmConfig → Bytes

section Launch
variable (encoders : Encoders)

def launchArgs (config : QemuVmConfig) : List String :=
  ["-S", "-nodefaults", "-display", "none", "-serial", "none", "-monitor", "none", "-no-reboot",
    "-nic", "none", "-name", config.name, "-uuid", config.id,
    "-machine", "accel=" ++ config.accelerator, "-m", toString config.memoryMib,
    "-smp", toString config.cpuCount,
    "-drive", "file=" ++ config.overlayPath.display ++ ",if=virtio,format=qcow2,cache=none",
    "-qmp", config.qmp.qemuArgument,
    "-chardev", "socket,id=qga0," ++ config.qga.qemuArgument,
    "-device", "virtio-serial",
    "-device", "virtserialport,chardev=qga0,name=org.qemu.guest_agent.0"]

/-- `(value as u64).to_le_bytes()`. -/
def littleEndian (value : Nat) : Bytes :=
  (List.range 8).map fun place => UInt8.ofNat (value / 256 ^ place)

def argumentDigest (args : List String) : String :=
  encoders.sha256 (args.flatMap fun argument =>
    let bytes := argument.toUTF8.toList
    littleEndian bytes.length ++ bytes)

def launchDigest (config : QemuVmConfig) : String := argumentDigest encoders (launchArgs config)

end Launch

section Safety
variable (host : HostOs)

def qemuArgumentPathIsSafe (path : PathBuf) : Bool :=
  !(path.display.toList.any fun letter =>
      letter = ',' || letter = '\n' || letter = '\r' || letter = Char.ofNat 0) &&
    !windowsPathHasStreamOrDeviceAmbiguity host.platform path

def unixControlEndpointIsSafe (path : PathBuf) : Bool :=
  match host.platform with
  | .unix =>
      qemuArgumentPathIsSafe host path && path.display ≠ "" &&
        utf8Length path.display.toList ≤ unixControlEndpointLimit
  | .windows => qemuArgumentPathIsSafe host path

def controlEndpointIsSafe : ControlEndpoint → Bool
  | .unix path => unixControlEndpointIsSafe host path
  | .windowsPipe value =>
      "\\\\.\\pipe\\vmcell-".toList.isPrefixOf value.toList && utf8Length value.toList ≤ 256 &&
        !value.toList.any isControl

end Safety

/-- `new_qemu_job_name` with the identifier it draws. -/
def newQemuJobName (host : HostOs) (value : Uuid) : Option String :=
  match host with
  | .windows => some ("Local\\vmcell-qemu-" ++ value.toText)
  | _ => none

namespace QemuVmConfig
variable (host : HostOs) (encoders : Encoders) (config : QemuVmConfig)

def qemuJobReceiptIsValid : Bool :=
  match host with
  | .windows =>
      if config.schemaVersion = qemuLegacyConfigSchema then config.processJobName.isNone
      else
        config.processJobName.isSome == (config.spawnPending || config.processId.isSome) &&
          config.processJobName.all fun name =>
            ((stripPrefix "Local\\vmcell-qemu-" name).bind Uuid.parseStr).isSome
  | _ => config.processJobName.isNone

def configPath (configurationPath : PathBuf) : PathBuf := configurationPath.join "vm.json"

/-- The definition of the machine, without its launch. -/
def definitionIsValid (path : PathBuf) : Bool :=
  (config.schemaVersion = qemuLegacyConfigSchema || config.schemaVersion = qemuConfigSchema) &&
    (Uuid.parseStr config.id).isSome && config.name = "vmcell-" ++ config.id &&
    path = configPath config.configurationPath &&
    config.overlayPath.parent = config.configurationPath.parent &&
    config.qmp = ControlEndpoint.qmp host config.configurationPath config.id &&
    config.qga = ControlEndpoint.qga host config.configurationPath config.id &&
    config.cpuCount ≠ 0 && config.memoryMib ≠ 0 &&
    ["whpx", "kvm", "hvf", "tcg"].contains config.accelerator &&
    qemuArgumentPathIsSafe host config.configurationPath &&
    qemuArgumentPathIsSafe host config.overlayPath &&
    qemuArgumentPathIsSafe host config.parentPath &&
    controlEndpointIsSafe host config.qmp && controlEndpointIsSafe host config.qga &&
    config.commandSha256 = launchDigest encoders config

def isHexDigest (value : String) : Bool :=
  value.toList.length = 64 && value.toList.all fun letter => (Uuid.hexValue letter).isSome

/-- The receipt of a launch. -/
def receiptIsValid : Bool :=
  config.processId.isSome == config.processStartToken.isSome &&
    config.processId.isSome == config.processExecutableSha256.isSome &&
    !(config.schemaVersion = qemuLegacyConfigSchema && config.processJobName.isSome) &&
    config.qemuJobReceiptIsValid host && config.processStartToken ≠ some 0 &&
    config.processExecutableSha256.all isHexDigest

def validate (path : PathBuf) : Except ProviderError Unit :=
  if config.definitionIsValid host encoders path && config.receiptIsValid host then .ok ()
  else .error (.invalidResponse "QEMU configuration invariants failed")

def snapshot (powerState : ProviderPowerState) : ProviderVm where
  id := config.id
  name := config.name
  powerState := powerState
  ownershipMarker := config.ownershipMarker
  configurationPath := config.configurationPath
  attachedDisks := [config.overlayPath]
  networkAdapterCount := 0
  cpuCount := config.cpuCount
  memoryMib := config.memoryMib

/-- Process id and start token, when both are recorded. -/
def process : Option (Nat × Nat) :=
  match config.processId, config.processStartToken with
  | some processId, some startToken => some (processId, startToken)
  | _, _ => none

def validateConfigSnapshot (expected : ProviderVm) (requireMarker : Bool) :
    Except ProviderError Unit :=
  if config.id ≠ expected.id || config.name ≠ expected.name ||
      config.configurationPath ≠ expected.configurationPath ||
      expected.attachedDisks ≠ [config.overlayPath] || config.cpuCount ≠ expected.cpuCount ||
      config.memoryMib ≠ expected.memoryMib || expected.networkAdapterCount ≠ 0 ||
      (requireMarker && config.ownershipMarker ≠ expected.ownershipMarker) ||
      (!requireMarker && config.ownershipMarker ≠ "" &&
        config.ownershipMarker ≠ expected.ownershipMarker) then
    .error (.ownershipChanged "QEMU configuration no longer matches the expected snapshot")
  else .ok ()

end QemuVmConfig

section Documents
variable (host : HostOs) (encoders : Encoders)

/-- The bytes of a file and the value that the JSON library reads from them. -/
structure Document where
  text : Bytes
  value : Option QemuVmConfig

/-- The file that a configuration is written to. -/
def Document.of (config : QemuVmConfig) : Document := ⟨encoders.toVecPretty config, some config⟩

def oversizedConfig : ProviderError :=
  .invalidResponse "QEMU configuration exceeds the maximum size"

/-- `read_qemu_config_bytes` and `decode_qemu_config`. -/
def decodeQemuConfig (path : PathBuf) (document : Document) :
    Except ProviderError QemuVmConfig := do
  if document.text.length > qemuConfigMaxBytes then throw oversizedConfig
  match document.value with
  | none => throw (.invalidResponse "QEMU configuration JSON is invalid")
  | some config =>
      config.validate host encoders path
      pure config

theorem decodeQemuConfig_ok {host : HostOs} {encoders : Encoders} {path : PathBuf}
    {document : Document} {config : QemuVmConfig} :
    decodeQemuConfig host encoders path document = .ok config ↔
      document.text.length ≤ qemuConfigMaxBytes ∧ document.value = some config ∧
        config.definitionIsValid host encoders path = true ∧ config.receiptIsValid host = true := by
  unfold decodeQemuConfig
  by_cases large : document.text.length > qemuConfigMaxBytes
  · rw [if_pos large]
    have small : ¬document.text.length ≤ qemuConfigMaxBytes := Nat.not_le.mpr large
    simp [small, bind, Except.bind, throw, throwThe, MonadExceptOf.throw]
  · rw [if_neg large]
    have small : document.text.length ≤ qemuConfigMaxBytes := Nat.not_lt.mp large
    cases value : document.value with
    | none => simp [throw, throwThe, MonadExceptOf.throw]
    | some stored =>
        simp only [QemuVmConfig.validate, small, true_and, Option.some.injEq]
        by_cases valid : (stored.definitionIsValid host encoders path &&
            stored.receiptIsValid host) = true
        · rw [if_pos valid]
          have both := Bool.and_eq_true_iff.mp valid
          constructor
          · intro done
            obtain rfl := Except.ok.inj done
            exact ⟨rfl, both⟩
          · rintro ⟨rfl, _⟩
            rfl
        · rw [if_neg valid]
          constructor
          · intro done
            cases done
          · rintro ⟨rfl, both⟩
            exact absurd (Bool.and_eq_true_iff.mpr both) valid

/-- What is read of a file that the program wrote is what it wrote. -/
theorem decode_of {host : HostOs} {encoders : Encoders} {path : PathBuf}
    {config decoded : QemuVmConfig}
    (reads : decodeQemuConfig host encoders path (.of encoders config) = .ok decoded) :
    decoded = config := (Option.some.inj (decodeQemuConfig_ok.mp reads).2.1).symm

end Documents

section Definition

/-- `validate_qemu_definition` on the definition of a configuration. -/
def ProviderMutationAuthority.validateQemuDefinition (platform : Platform) (fs : Filesystem)
    (authority : ProviderMutationAuthority) (config : QemuVmConfig) (requireMarker : Bool) :
    Except ProviderError Unit := do
  authority.validateCommon platform fs
  let acceleratorMatches : Bool :=
    match authority.record.spec.accelerator with
    | some value =>
        if value ≠ "auto" then value = config.accelerator
        else ["whpx", "kvm", "hvf"].contains config.accelerator ||
          (config.accelerator = "tcg" && authority.record.spec.allowTcg)
    | none =>
        ["whpx", "kvm", "hvf"].contains config.accelerator ||
          (config.accelerator = "tcg" && authority.record.spec.allowTcg)
  let markerMatches : Bool := config.ownershipMarker = authority.record.ownership.providerMarker ||
    (!requireMarker && config.ownershipMarker = "")
  ProviderMutationAuthority.authorize (authority.record.provider = "qemu" &&
      (authority.record.providerObject.map (·.id)) = some config.id &&
      config.name = providerObjectName authority.record.id && markerMatches &&
      providerPathsEqual platform fs config.configurationPath
        authority.record.ownership.configurationPath &&
      providerPathsEqual platform fs config.overlayPath authority.record.ownership.overlayPath &&
      providerPathsEqual platform fs config.parentPath authority.record.image.path &&
      config.cpuCount = authority.record.spec.cpuCount &&
      config.memoryMib = authority.record.spec.memoryMib && acceleratorMatches)
    "QEMU definition does not match the engine-issued provider authority"

end Definition

end VmCell
