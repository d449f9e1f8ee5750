import Mathlib
import VmCell.Encoding.OptionStrings
import VmCell.Provider.QemuConfig

/-! What an emulator makes of the arguments that a valid configuration is launched with.

The agent socket is never attached: its option carries a character device of the older
notation where the newer one wants a path. Everything else comes through as configured.
-/

set_option autoImplicit false
namespace VmCell

open OptionStrings

/-- What a configuration that passes its check says about the launch. -/
structure QemuVmConfig.Launchable (host : HostOs) (encoders : Encoders)
    (config : QemuVmConfig) : Prop where
  id : (Uuid.parseStr config.id).isSome = true
  name : config.name = "vmcell-" ++ config.id
  qmp : config.qmp = ControlEndpoint.qmp host config.configurationPath config.id
  qga : config.qga = ControlEndpoint.qga host config.configurationPath config.id
  accelerator : ["whpx", "kvm", "hvf", "tcg"].contains config.accelerator = true
  overlay : qemuArgumentPathIsSafe host config.overlayPath = true
  qmpSafe : controlEndpointIsSafe host config.qmp = true
  qgaSafe : controlEndpointIsSafe host config.qga = true
  digest : config.commandSha256 = launchDigest encoders config

theorem QemuVmConfig.Launchable.of_validate {host : HostOs} {encoders : Encoders}
    {config : QemuVmConfig} {path : PathBuf}
    (valid : config.validate host encoders path = .ok ()) :
    config.Launchable host encoders := by
  have both : config.definitionIsValid host encoders path = true := by
    unfold QemuVmConfig.validate at valid
    split at valid
    · rename_i both
      exact (Bool.and_eq_true_iff.mp both).1
    · cases valid
  simp only [QemuVmConfig.definitionIsValid, Bool.and_eq_true, decide_eq_true_eq] at both
  obtain ⟨⟨⟨⟨⟨⟨⟨⟨⟨⟨⟨⟨⟨⟨⟨_, id⟩, name⟩, _⟩, _⟩, qmp⟩, qga⟩, _⟩, _⟩, accelerator⟩, _⟩, overlay⟩, _⟩,
    qmpSafe⟩, qgaSafe⟩, digest⟩ := both
  exact ⟨id, name, qmp, qga, accelerator, overlay, qmpSafe, qgaSafe, digest⟩

section Meaning

/-- The options of the emulator that the program uses, by whether they take a value. -/
def emulatorSwitches : List String := ["-S", "-nodefaults", "-no-reboot"]

def emulatorOptions : List String :=
  ["-display", "-serial", "-monitor", "-nic", "-name", "-uuid", "-machine", "-m", "-smp",
    "-drive", "-qmp", "-chardev", "-device"]

structure CharacterDevice where
  backend : String
  options : List (String × String)

/-- The older notation, `unix:PATH,...` or `pipe:PATH,...`. -/
def legacyDevice (text : String) : Option CharacterDevice :=
  match stripPrefix "unix:" text, stripPrefix "pipe:" text with
  | some rest, _ => some ⟨"socket", optionsAfter "path" rest⟩
  | none, some rest => some ⟨"pipe", optionsAfter "path" rest⟩
  | none, none => none

/-- The newer one, a backend and its options. -/
def characterDevice (text : String) : Option CharacterDevice :=
  match optionsAfter "backend" text with
  | ("backend", backend) :: rest => some ⟨backend, rest⟩
  | _ => none

def ControlEndpoint.backend : ControlEndpoint → String
  | .unix _ => "socket"
  | .windowsPipe _ => "pipe"

/-- The path that the backend of the endpoint is given. -/
def ControlEndpoint.backendPath : ControlEndpoint → String
  | .unix path => path.display
  | .windowsPipe path => (stripPrefix "\\\\.\\pipe\\" path).getD path

/-- A device that waits for connections at the endpoint and has no option but these. -/
structure CharacterDevice.Listens (device : CharacterDevice) (endpoint : ControlEndpoint) :
    Prop where
  backend : device.backend = endpoint.backend
  path : device.options.lookup "path" = some endpoint.backendPath
  server : device.options.lookup "server" = some "on"
  known : ∀ option ∈ device.options, option.1 ∈ ["id", "path", "server", "wait"]

/-- One disk, and it is the overlay. -/
def OneDrive (config : QemuVmConfig) (line : List (String × Option String)) : Prop :=
  (valuesOf "-drive" line).map options =
    [[("file", config.overlayPath.display), ("if", "virtio"), ("format", "qcow2"),
      ("cache", "none")]]

def OneMonitor (config : QemuVmConfig) (line : List (String × Option String)) : Prop :=
  ∃ device, (valuesOf "-qmp" line).map legacyDevice = [some device] ∧
    device.Listens config.qmp

def OneAgent (config : QemuVmConfig) (line : List (String × Option String)) : Prop :=
  ∃ device, (valuesOf "-chardev" line).map characterDevice = [some device] ∧
    device.options.lookup "id" = some "qga0" ∧ device.Listens config.qga

/-- No card: the only devices are the serial bus and the port of the agent. -/
def NoNetwork (line : List (String × Option String)) : Prop :=
  valuesOf "-nic" line = ["none"] ∧
    (valuesOf "-device" line).map (optionsAfter "driver") =
      [[("driver", "virtio-serial")],
        [("driver", "virtserialport"), ("chardev", "qga0"),
          ("name", "org.qemu.guest_agent.0")]]

/-- The arguments mean what the configuration says. -/
def FaithfulLaunch (config : QemuVmConfig) (arguments : List String) : Prop :=
  ∃ line, readOptions emulatorSwitches emulatorOptions arguments = some line ∧
    OneDrive config line ∧ OneMonitor config line ∧ OneAgent config line ∧ NoNetwork line

end Meaning

section Reading
variable {host : HostOs} {encoders : Encoders} {config : QemuVmConfig} {path : PathBuf}

/-- The options of the launch, whatever their values hold. -/
def launchLine (config : QemuVmConfig) : List (String × Option String) :=
  [("-S", none), ("-nodefaults", none), ("-display", some "none"), ("-serial", some "none"),
    ("-monitor", some "none"), ("-no-reboot", none), ("-nic", some "none"),
    ("-name", some config.name), ("-uuid", some config.id),
    ("-machine", some ("accel=" ++ config.accelerator)),
    ("-m", some (toString config.memoryMib)), ("-smp", some (toString config.cpuCount)),
    ("-drive",
      some ("file=" ++ config.overlayPath.display ++ ",if=virtio,format=qcow2,cache=none")),
    ("-qmp", some config.qmp.qemuArgument),
    ("-chardev", some ("socket,id=qga0," ++ config.qga.qemuArgument)),
    ("-device", some "virtio-serial"),
    ("-device", some "virtserialport,chardev=qga0,name=org.qemu.guest_agent.0")]

theorem readOptions_launchArgs (config : QemuVmConfig) :
    readOptions emulatorSwitches emulatorOptions (launchArgs config) =
      some (launchLine config) := rfl

theorem comma_of_safe (safe : qemuArgumentPathIsSafe host path = true) :
    ',' ∉ path.display.toList := by
  simp only [qemuArgumentPathIsSafe, Bool.and_eq_true, Bool.not_eq_true', List.any_eq_false,
    Bool.or_eq_true, decide_eq_true_eq] at safe
  intro comma
  exact safe.1 _ comma (.inl (.inl (.inl rfl)))

theorem path_safe_of_endpoint (safe : controlEndpointIsSafe host (.unix path) = true) :
    qemuArgumentPathIsSafe host path = true := by
  simp only [controlEndpointIsSafe, unixControlEndpointIsSafe] at safe
  split at safe
  · simp only [Bool.and_eq_true] at safe
    exact safe.1.1
  · exact safe

/-- The drive is the overlay, with nothing added by its name. -/
theorem drive_options (safe : qemuArgumentPathIsSafe host path = true) :
    options ("file=" ++ path.display ++ ",if=virtio,format=qcow2,cache=none") =
      [("file", path.display), ("if", "virtio"), ("format", "qcow2"), ("cache", "none")] := by
  have clean : ',' ∉ "file=".toList ++ path.display.toList := by
    simp [comma_of_safe safe]
  have cut : ("file=" ++ path.display ++ ",if=virtio,format=qcow2,cache=none").toList =
      ("file=".toList ++ path.display.toList) ++
        ',' :: "if=virtio,format=qcow2,cache=none".toList := by
    simp [String.toList_append]
  have file : item ("file=".toList ++ path.display.toList) = ("file", path.display) := by
    have assigned := @item_assignment "file".toList path.display.toList (by decide)
    simpa using assigned
  rw [options, cut, items_append clean (by decide), List.map_cons, file]
  rfl

theorem toList_stripPrefix (start : String) (rest : String) :
    stripPrefix start (start ++ rest) = some rest := by
  simp [stripPrefix, String.toList_append]

/-- A socket path without `=` is read as the implied path of the older notation. -/
theorem legacyDevice_unix (safe : qemuArgumentPathIsSafe host path = true)
    (plain : '=' ∉ path.display.toList) :
    legacyDevice (ControlEndpoint.unix path).qemuArgument =
      some ⟨"socket", [("path", path.display), ("server", "on"), ("wait", "off")]⟩ := by
  have text : (ControlEndpoint.unix path).qemuArgument =
      "unix:" ++ (path.display ++ ",server=on,wait=off") := by
    simp [ControlEndpoint.qemuArgument, String.append_assoc]
  have cut : (path.display ++ ",server=on,wait=off").toList =
      path.display.toList ++ ',' :: "server=on,wait=off".toList := by
    simp [String.toList_append]
  have read : optionsAfter "path" (path.display ++ ",server=on,wait=off") =
      [("path", path.display), ("server", "on"), ("wait", "off")] := by
    have single : "server=on,wait=off".toList.head? ≠ some ',' := by decide
    rw [optionsAfter, cut, items_append (comma_of_safe safe) single]
    simp only [firstItem, if_neg plain, String.ofList_toList]
    rfl
  rw [text, legacyDevice, toList_stripPrefix]
  simp only [read]

/-- The agent option: a socket whose third item is the older notation, or what is not a pipe. -/
theorem characterDevice_agent (endpoint : ControlEndpoint) :
    characterDevice ("socket,id=qga0," ++ endpoint.qemuArgument) =
      some ⟨"socket", ("id", "qga0") :: options endpoint.qemuArgument⟩ := by
  have cut : ("socket,id=qga0," ++ endpoint.qemuArgument).toList =
      "socket".toList ++ ',' :: ("id=qga0".toList ++ ',' :: endpoint.qemuArgument.toList) := by
    simp [String.toList_append]
  have single : endpoint.qemuArgument.toList.head? ≠ some ',' := by
    cases endpoint <;> simp [ControlEndpoint.qemuArgument, String.toList_append]
  have read : optionsAfter "backend" ("socket,id=qga0," ++ endpoint.qemuArgument) =
      ("backend", "socket") :: ("id", "qga0") :: options endpoint.qemuArgument := by
    simp only [optionsAfter, cut]
    rw [items_append (by decide) (by simp), items_append (by decide) single]
    rfl
  rw [characterDevice, read]
  rfl

theorem options_unix (safe : qemuArgumentPathIsSafe host path = true) :
    options (ControlEndpoint.unix path).qemuArgument =
      [item ("unix:".toList ++ path.display.toList), ("server", "on"), ("wait", "off")] := by
  have clean : ',' ∉ "unix:".toList ++ path.display.toList := by
    simp [comma_of_safe safe]
  have cut : (ControlEndpoint.unix path).qemuArgument.toList =
      ("unix:".toList ++ path.display.toList) ++ ',' :: "server=on,wait=off".toList := by
    simp [ControlEndpoint.qemuArgument, String.toList_append]
  rw [options, cut, items_append clean (by decide), List.map_cons]
  rfl

/-- No item of the option is a path. -/
theorem agent_has_no_path (safe : qemuArgumentPathIsSafe host path = true) :
    (("id", "qga0") :: options (ControlEndpoint.unix path).qemuArgument).lookup "path" =
      none := by
  have other : (item ("unix:".toList ++ path.display.toList)).1 ≠ "path" := by
    intro same
    have head := @head?_item ("unix:".toList ++ path.display.toList) (by simp) (by simp)
    rw [same] at head
    exact absurd head (by simp)
  rw [options_unix safe]
  generalize item ("unix:".toList ++ path.display.toList) = third at other
  have unequal : ("path" == third.1) = false := beq_eq_false_iff_ne.mpr (Ne.symm other)
  simp [List.lookup, unequal]

/-- Whatever the configuration, its agent listens nowhere. -/
theorem not_oneAgent (launchable : config.Launchable host encoders) :
    ¬ OneAgent config (launchLine config) := by
  rintro ⟨device, only, -, listens⟩
  have read : (valuesOf "-chardev" (launchLine config)).map characterDevice =
      [characterDevice ("socket,id=qga0," ++ config.qga.qemuArgument)] := rfl
  rw [read, characterDevice_agent] at only
  obtain rfl := Option.some.inj (List.singleton_inj.mp only)
  cases endpoint : config.qga with
  | windowsPipe text =>
      have backend : "socket" = config.qga.backend := listens.backend
      rw [endpoint] at backend
      change "socket" = "pipe" at backend
      exact absurd backend (by decide)
  | unix path =>
      have safe := path_safe_of_endpoint (endpoint ▸ launchable.qgaSafe)
      have found := listens.path
      rw [endpoint] at found
      simp only [agent_has_no_path safe] at found
      exact absurd found nofun

theorem oneDrive_launchLine (launchable : config.Launchable host encoders) :
    OneDrive config (launchLine config) := by
  have read : (valuesOf "-drive" (launchLine config)).map options =
      [options ("file=" ++ config.overlayPath.display ++
        ",if=virtio,format=qcow2,cache=none")] := rfl
  rw [OneDrive, read, drive_options launchable.overlay]

theorem oneMonitor_launchLine {socket : PathBuf} (launchable : config.Launchable host encoders)
    (endpoint : config.qmp = .unix socket) (plain : '=' ∉ socket.display.toList) :
    OneMonitor config (launchLine config) := by
  have safe := path_safe_of_endpoint (endpoint ▸ launchable.qmpSafe)
  have read : (valuesOf "-qmp" (launchLine config)).map legacyDevice =
      [legacyDevice config.qmp.qemuArgument] := rfl
  rw [endpoint, legacyDevice_unix safe plain] at read
  refine ⟨_, read, ?_⟩
  rw [endpoint]
  exact ⟨rfl, rfl, rfl, by simp⟩

theorem noNetwork_launchLine (config : QemuVmConfig) : NoNetwork (launchLine config) := by
  have devices : valuesOf "-device" (launchLine config) =
      ["virtio-serial", "virtserialport,chardev=qga0,name=org.qemu.guest_agent.0"] := rfl
  rw [NoNetwork, devices]
  exact ⟨rfl, by decide⟩

/-- No valid configuration has arguments that mean what it says: the agent is missing. The
disk and the network are as configured, and so is the monitor behind a socket path that the
older notation can carry. -/
theorem launch_arguments_lose_the_agent
    (valid : config.validate host encoders path = .ok ()) :
    ¬ FaithfulLaunch config (launchArgs config) ∧
      ∃ line, readOptions emulatorSwitches emulatorOptions (launchArgs config) = some line ∧
        ¬ OneAgent config line ∧ OneDrive config line ∧ NoNetwork line ∧
        ∀ socket, config.qmp = .unix socket → '=' ∉ socket.display.toList →
          OneMonitor config line := by
  have launchable := QemuVmConfig.Launchable.of_validate valid
  have missing := not_oneAgent launchable
  refine ⟨?_, launchLine config, readOptions_launchArgs config, missing,
    oneDrive_launchLine launchable, noNetwork_launchLine config, fun socket endpoint plain =>
      oneMonitor_launchLine launchable endpoint plain⟩
  rintro ⟨line, read, -, -, agent, -⟩
  rw [readOptions_launchArgs] at read
  obtain rfl := Option.some.inj read
  exact missing agent

end Reading

section Signing
variable {host : HostOs} {encoders : Encoders} {unsigned : QemuVmConfig} {path : PathBuf}

/-- The digest is no argument, so that a machine can be given the digest of its own launch. -/
theorem validate_signed
    (valid : unsigned.validate host ⟨fun _ => unsigned.commandSha256, fun _ => []⟩ path = .ok ()) :
    ({ unsigned with commandSha256 := launchDigest encoders unsigned } : QemuVmConfig).validate
      host encoders path = .ok () := by
  unfold QemuVmConfig.validate at valid ⊢
  split at valid
  · rename_i parts
    obtain ⟨definition, receipt⟩ := Bool.and_eq_true_iff.mp parts
    refine if_pos (Bool.and_eq_true_iff.mpr ⟨?_, receipt⟩)
    exact Bool.and_eq_true_iff.mpr
      ⟨(Bool.and_eq_true_iff.mp definition).1, decide_eq_true (Eq.refl (launchDigest encoders _))⟩
  · cases valid

end Signing

namespace Exemplar

/-- Hashes every text to itself. -/
def plainEncoders : Encoders :=
  ⟨fun bytes => String.ofList (bytes.map fun byte => Char.ofNat byte.toNat), fun _ => []⟩

def machineId : String := "00000000-0000-4000-8000-000000000009"

def unsignedConfig : QemuVmConfig where
  schemaVersion := qemuConfigSchema
  id := machineId
  name := "vmcell-" ++ machineId
  ownershipMarker := ""
  configurationPath := ⟨"/", ["vms", "cell"]⟩
  overlayPath := ⟨"/", ["vms", "cell.qcow2"]⟩
  parentPath := ⟨"/", ["images", "base.qcow2"]⟩
  cpuCount := 2
  memoryMib := 2048
  accelerator := "kvm"
  qmp := .unix ⟨"/", ["vms", "cell", "qmp.sock"]⟩
  qga := .unix ⟨"/", ["vms", "cell", "qga.sock"]⟩
  commandSha256 := ""
  spawnPending := false
  processId := none
  processStartToken := none
  processExecutableSha256 := none
  processJobName := none

def machineConfig : QemuVmConfig :=
  { unsignedConfig with commandSha256 := launchDigest plainEncoders unsignedConfig }

theorem machineConfig_valid :
    machineConfig.validate .linux plainEncoders ⟨"/", ["vms", "cell", "vm.json"]⟩ = .ok () :=
  validate_signed (by decide +kernel)

end Exemplar

theorem launch_arguments_lose_the_agent_for_machine :
    ¬ FaithfulLaunch Exemplar.machineConfig (launchArgs Exemplar.machineConfig) :=
  (launch_arguments_lose_the_agent Exemplar.machineConfig_valid).1

/-- A valid configuration of the exemplary machine is launched without its agent. -/
theorem some_launch_is_unfaithful :
    ¬ ∀ host encoders config path, QemuVmConfig.validate host encoders config path = .ok () →
      FaithfulLaunch config (launchArgs config) := by
  intro faithful
  obtain ⟨line, read, -, -, agent, -⟩ := faithful _ _ _ _ Exemplar.machineConfig_valid
  rw [readOptions_launchArgs] at read
  obtain rfl := Option.some.inj read
  exact not_oneAgent (QemuVmConfig.Launchable.of_validate Exemplar.machineConfig_valid) agent

end VmCell
