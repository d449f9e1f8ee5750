import VmCell.Provider.QemuConfig

/-! The QEMU provider.

Every verb is a program over what the provider asks of the host: its files, its
processes, the control channel of a machine and the clock. A launch writes its
intent before the process exists and its receipt before the process runs.
-/

set_option autoImplicit false
namespace VmCell

open Interaction

structure QemuSpawnReceipt where
  processId : Nat
  processStartToken : Nat
  executableSha256 : String
  commandSha256 : String
  deriving DecidableEq

structure QemuImgInfo where
  format : String
  virtualSize : Nat
  backingFilename : Option PathBuf
  fullBackingFilename : Option PathBuf
  fileSize : Nat

/-- What `symlink_metadata` or a look at a pipe finds. -/
inductive Presence where
  | present
  | absent
  | unknown (error : String)
  deriving DecidableEq

section Requests

inductive QemuOp where
  /-- What the path checks of an authority see. -/
  | filesystem
  | createOrdinaryDirectory (path : PathBuf)
  | configExists (path : PathBuf)
  | metadata (path : PathBuf)
  | readFile (path : PathBuf)
  | writeConfigNew (path : PathBuf) (config : QemuVmConfig)
  /-- The replacement, written under a temporary name. -/
  | stage (path : PathBuf) (config : QemuVmConfig)
  /-- The file of a snapshot, read again through its handle. -/
  | readPinned (path : PathBuf)
  | checkStaged (path : PathBuf) (config : QemuVmConfig)
  | replaceFileAtomic (path : PathBuf) (config : QemuVmConfig)
  | removeExactFile (path : PathBuf)
  | syncParentDirectory (path : PathBuf)
  | accelerators
  | newUuid
  | qemuImgInfo (path : PathBuf)
  | endpointPresence (endpoint : ControlEndpoint)
  /-- The configuration for which the process is started comes first. -/
  | spawnVm (path : PathBuf) (program : String) (args : List String) (jobName : Option String)
      (commandSha256 : String)
  | activateVm (receipt : QemuSpawnReceipt)
  | processMatches (processId startToken : Nat) (program commandSha256 executableSha256 : String)
      (jobName : Option String)
  | processAbsenceProven (processId startToken : Nat)
  | processTreeAbsenceProven (process : Option (Nat × Nat)) (jobName : Option String)
  | processTreeOwnedNonempty (jobName : Option String)
  | terminateProcessTree (jobName : Option String)
  | connectQmp (endpoint : ControlEndpoint) (timeout : Duration)
  | negotiate
  | execute (command : String)
  | deadlinePassed

def QemuOp.Reply : QemuOp → Type
  | .filesystem => Filesystem
  | .configExists _ | .processMatches .. | .processAbsenceProven ..
  | .processTreeAbsenceProven .. | .processTreeOwnedNonempty _ | .deadlinePassed => Bool
  | .metadata _ | .endpointPresence _ => Presence
  | .readFile _ | .readPinned _ => Except ProviderError Document
  | .accelerators => Except ProviderError (List String)
  | .newUuid => Uuid
  | .qemuImgInfo _ => Except ProviderError QemuImgInfo
  | .spawnVm .. => Except ProviderError QemuSpawnReceipt
  | .execute _ => Except ProviderError Json
  | .createOrdinaryDirectory _ | .writeConfigNew .. | .stage .. | .checkStaged ..
  | .replaceFileAtomic .. | .removeExactFile _ | .syncParentDirectory _ | .activateVm _
  | .terminateProcessTree _ | .connectQmp .. | .negotiate => Except ProviderError Unit

def qemuSignature : Signature := ⟨QemuOp, QemuOp.Reply⟩

abbrev Qemu := Fallible qemuSignature ProviderError

end Requests

structure QemuProvider where
  host : HostOs
  encoders : Encoders
  runtimeRoot : PathBuf
  systemBinary : String

structure QemuConfigSnapshot where
  config : QemuVmConfig
  bytesSha256 : String

namespace QemuProvider
variable (provider : QemuProvider)

open Fallible

/-- A request whose reply is a result. -/
def ask {A : Type} (op : QemuOp) (read : op.Reply → Except ProviderError A) : Qemu A :=
  effect (I := qemuSignature) op read

/-- A request whose reply is a value. -/
def look (op : QemuOp) : Qemu op.Reply := effect (I := qemuSignature) op fun reply => .ok reply

section Files

def readConfigSnapshot (path : PathBuf) : Qemu QemuConfigSnapshot := do
  let document : Document ← ask (.readFile path) id
  let config ← lift (decodeQemuConfig provider.host provider.encoders path document)
  pure ⟨config, provider.encoders.sha256 document.text⟩

def readConfig (path : PathBuf) : Qemu QemuVmConfig := do
  let snapshot ← provider.readConfigSnapshot path
  pure snapshot.config

def validatePinnedConfigSnapshot (path : PathBuf) (snapshot : QemuConfigSnapshot) : Qemu Unit := do
  let document : Document ← ask (.readPinned path) id
  ensure (document.text.length ≤ qemuConfigMaxBytes) oversizedConfig
  ensure (provider.encoders.sha256 document.text = snapshot.bytesSha256)
    (.ownershipChanged "QEMU configuration changed while it was pinned")
  let _ ← lift (decodeQemuConfig provider.host provider.encoders path document)
  pure ()

def replaceConfig (path : PathBuf) (snapshot : QemuConfigSnapshot) (config : QemuVmConfig) :
    Qemu Unit := do
  ask (.stage path config) id
  provider.validatePinnedConfigSnapshot path snapshot
  ask (.checkStaged path config) id
  ask (.replaceFileAtomic path config) id
  let written ← provider.readConfigSnapshot path
  ensure (written.bytesSha256 = provider.encoders.sha256 (provider.encoders.toVecPretty config))
    (.ownershipChanged "QEMU configuration replacement did not bind the intended bytes")

end Files

section Checks

def authorizeConfig (authority : ProviderMutationAuthority) (config : QemuVmConfig)
    (requireMarker : Bool) : Qemu Unit := do
  let fs : Filesystem ← look .filesystem
  lift (authority.validateQemuDefinition provider.host.platform fs config requireMarker)

/-- A check of the authority on the request itself. -/
def authorized (check : Platform → Filesystem → Except ProviderError Unit) : Qemu Unit := do
  let fs : Filesystem ← look .filesystem
  lift (check provider.host.platform fs)

def ensureControlEndpointAbsent (endpoint : ControlEndpoint) : Qemu Unit := do
  let presence : Presence ← look (.endpointPresence endpoint)
  match endpoint, presence with
  | _, .absent => pure ()
  | .unix _, .present => fail (.ownershipChanged ("QEMU control endpoint path already exists; " ++
      "stale or foreign state requires manual review"))
  | .unix _, .unknown _ =>
      fail (.ownershipChanged "QEMU control endpoint absence could not be proven")
  | .windowsPipe _, _ => fail (.ownershipChanged
      "QEMU named-pipe control endpoint is live or its absence cannot be proven")

def ensureControlEndpointsAbsent (config : QemuVmConfig) : Qemu Unit := do
  ensureControlEndpointAbsent config.qmp
  ensureControlEndpointAbsent config.qga

def providerPathEqual (fs : Filesystem) (left right : PathBuf) : Bool :=
  match provider.host with
  | .windows => eqIgnoreAsciiCase (fs.canonical left).display (fs.canonical right).display
  | _ => fs.canonical left = fs.canonical right

def inspectImage (path : PathBuf) : Qemu ProviderImageInfo := do
  ensure (qemuArgumentPathIsSafe provider.host path = true)
    (.authority "QEMU image path contains an unsafe argument or Windows alias")
  let info : QemuImgInfo ← ask (.qemuImgInfo path) id
  pure
    { path := path
      diskFormat := info.format
      diskType := if info.backingFilename.isSome then "overlay" else "base"
      parentPath := info.fullBackingFilename.or info.backingFilename
      fileSize := info.fileSize
      virtualSize := info.virtualSize }

def validateOverlayChain (config : QemuVmConfig) : Qemu Unit := do
  let overlay ← provider.inspectImage config.overlayPath
  let base ← provider.inspectImage config.parentPath
  let fs : Filesystem ← look .filesystem
  ensure (overlay.diskFormat = "qcow2" ∧ overlay.diskType = "overlay" ∧
      (overlay.parentPath.any fun path =>
        provider.providerPathEqual fs path config.parentPath) = true ∧
      base.diskFormat = "qcow2" ∧ base.parentPath = none)
    (.ownershipChanged
      "QEMU QCOW2 backing chain is not exactly one overlay over the immutable base")

def selectAccelerator (request : CreateVmRequest) : Qemu String := do
  let available : List String ← ask .accelerators id
  let requested := request.accelerator.getD "auto"
  let hardware := hostAccelerator provider.host
  if requested = "auto" then
    if available.contains hardware then pure hardware
    else fail (.unsupported "qemu" "hardware_acceleration_or_explicit_tcg")
  else if requested = "tcg" ∧ request.allowTcg = true ∧ available.contains "tcg" = true then
    pure "tcg"
  else if requested = hardware ∧ available.contains requested = true then pure requested
  else fail (.command
    "requested QEMU accelerator is unavailable or TCG was not explicitly allowed")

end Checks

section Control

def controlTimeout : Duration := 5 * nanosPerSecond

def asArray : Json → Option (List Json)
  | .array items => some items
  | _ => none

def asStr : Json → Option String
  | .string value => some value
  | _ => none

def pathOf (text : String) : PathBuf :=
  ⟨if text.toList.head? = some '/' then "/" else "", splitComponents (· == '/') text.toList []⟩

/-- `validate_qmp_identity`, with how the text of an attached file is read as a path. -/
def validateQmpIdentity (config : QemuVmConfig) : Qemu Unit := do
  let uuid : Json ← ask (.execute "query-uuid") id
  let name : Json ← ask (.execute "query-name") id
  ensure ((uuid.get "UUID").bind asStr = some config.id ∧
      (name.get "name").bind asStr = some config.name)
    (.ownershipChanged "QMP UUID/name identity changed")
  let cpus : Json ← ask (.execute "query-cpus-fast") id
  let memory : Json ← ask (.execute "query-memory-size-summary") id
  let network : Json ← ask (.execute "query-rx-filter") id
  let blocks : Json ← ask (.execute "query-block") id
  let fs : Filesystem ← look .filesystem
  let block := (asArray blocks).bind fun items => if items.length = 1 then items.head? else none
  let inserted := block.bind (Json.get "inserted")
  let attachedPath := ((inserted.bind (Json.get "file")).bind asStr).map pathOf
  ensure ((asArray cpus).map List.length = some config.cpuCount ∧
      (memory.get "base-memory").bind Json.asU64 =
        some (config.memoryMib * 1024 * 1024 % 2 ^ 64) ∧
      (asArray network).any List.isEmpty = true ∧
      (inserted.bind (Json.get "drv")).bind asStr = some "qcow2" ∧
      (inserted.bind (Json.get "backing_file_depth")).bind Json.asU64 = some 1 ∧
      (attachedPath.any fun path =>
        provider.providerPathEqual fs path config.overlayPath) = true)
    (.ownershipChanged "QMP CPU, memory, network, or disk definition changed")

/-- A connected control channel is negotiated within its deadline and identified. -/
def negotiateQmp (config : QemuVmConfig) : Qemu Unit := do
  let passed : Bool ← look .deadlinePassed
  ensure (passed = false) (.timeout "QEMU operation exceeded its deadline")
  ask .negotiate id
  provider.validateQmpIdentity config

def qmpStatus : Qemu (Option String) := do
  let status : Json ← ask (.execute "query-status") id
  pure ((status.get "status").bind asStr)

def validateLiveProcessReceipt (config : QemuVmConfig) : Qemu (Nat × Nat) := do
  ensure (config.spawnPending = false)
    (.ownershipChanged "QEMU launch intent has no durable process receipt")
  match config.process with
  | none => fail (.ownershipChanged "QEMU control requires a durable process receipt")
  | some (processId, startToken) =>
      match config.processExecutableSha256 with
      | none => fail (.ownershipChanged "QEMU control requires a durable executable receipt")
      | some executable =>
          let matched : Bool ← look (.processMatches processId startToken provider.systemBinary
            config.commandSha256 executable config.processJobName)
          ensure (matched = true)
            (.ownershipChanged "QEMU process identity drifted from its durable receipt")
          pure (processId, startToken)

end Control

section Inspection

/-- The state of a machine whose recorded process is the live one. -/
def inspectLive (config : QemuVmConfig) : Qemu ProviderVm := do
  let connected ← attempt (ask (.connectQmp config.qmp (millis 100)) id : Qemu Unit)
  match connected with
  | .error _ => fail (.ownershipChanged
      "recorded QEMU process is alive but its QMP identity is unavailable")
  | .ok () =>
      provider.negotiateQmp config
      match ← qmpStatus with
      | some "running" => pure (config.snapshot .running)
      | some "paused" | some "prelaunch" | some "inmigrate" => pure (config.snapshot .paused)
      | some value => pure (config.snapshot (.other value))
      | none => fail (.invalidResponse "QMP status response was invalid")

/-- The state of a machine whose recorded process does not match any more. -/
def inspectGone (config : QemuVmConfig) (processId startToken : Nat) : Qemu ProviderVm := do
  let absent : Bool ← look (.processAbsenceProven processId startToken)
  ensure (absent = true)
    (.ownershipChanged "recorded QEMU process absence cannot be proven")
  let empty : Bool ←
    look (.processTreeAbsenceProven (some (processId, startToken)) config.processJobName)
  if empty = true then
    ensureControlEndpointsAbsent config
    pure (config.snapshot .off)
  else
    let owned : Bool ← look (.processTreeOwnedNonempty config.processJobName)
    if owned = true then pure (config.snapshot .running)
    else fail (.ownershipChanged
      "recorded QEMU process tree is not provably empty or exact-owned nonempty")

def inspectConfig (config : QemuVmConfig) : Qemu ProviderVm := do
  if config.spawnPending = true then
    let empty : Bool ← look (.processTreeAbsenceProven none config.processJobName)
    ensure (empty = true) (.ownershipChanged
      "QEMU launch may have started and its exact contained tree is not proven empty")
    ensureControlEndpointsAbsent config
    pure (config.snapshot .off)
  else
    match config.process, config.processExecutableSha256 with
    | some (processId, startToken), some executable =>
        let matched : Bool ← look (.processMatches processId startToken provider.systemBinary
          config.commandSha256 executable config.processJobName)
        if matched = true then provider.inspectLive config
        else inspectGone config processId startToken
    | _, _ =>
        ensureControlEndpointsAbsent config
        pure (config.snapshot .off)

/-- The file that a lookup leads to. -/
def lookupPath (lookup : VmLookup) : Option PathBuf :=
  let id :=
    match lookup with
    | .id id => Uuid.parseStr id
    | .name name => (stripPrefix "vmcell-" name).bind Uuid.parseStr
  id.map fun id => ((provider.runtimeRoot.join id.toText).join "qemu").join "vm.json"

def lookupMatches (config : QemuVmConfig) : VmLookup → Bool
  | .id value => Uuid.parseStr value = Uuid.parseStr config.id
  | .name value => value = config.name

def configForLookup (lookup : VmLookup) : Qemu (Option QemuVmConfig) := do
  match provider.lookupPath lookup with
  | none => pure none
  | some path =>
      let presence : Presence ← look (.metadata path)
      match presence with
      | .present =>
          let config ← provider.readConfig path
          pure (if lookupMatches config lookup then some config else none)
      | .absent => pure none
      | .unknown error =>
          fail (.command ("failed to read QEMU configuration: " ++ error))

def inspectVm (lookup : VmLookup) : Qemu (Option ProviderVm) := do
  match ← provider.configForLookup lookup with
  | none => pure none
  | some config =>
      let vm ← provider.inspectConfig config
      pure (some vm)

end Inspection

section Creation

/-- The configuration of a new machine. -/
def newConfig (request : CreateVmRequest) (id accelerator : String) : QemuVmConfig :=
  let config : QemuVmConfig :=
    { schemaVersion := qemuConfigSchema
      id := id
      name := request.name
      ownershipMarker := ""
      configurationPath := request.configurationPath
      overlayPath := request.overlayPath
      parentPath := request.parentPath
      cpuCount := request.cpuCount
      memoryMib := request.memoryMib
      accelerator := accelerator
      qmp := .qmp provider.host request.configurationPath id
      qga := .qga provider.host request.configurationPath id
      commandSha256 := ""
      spawnPending := false
      processId := none
      processStartToken := none
      processExecutableSha256 := none
      processJobName := none }
  { config with commandSha256 := launchDigest provider.encoders config }

def createVm (authority : ProviderMutationAuthority) (request : CreateVmRequest) :
    Qemu ProviderVmIdentity := do
  provider.authorized fun platform fs => authority.validateCreateRequest platform fs request
  match (stripPrefix "vmcell-" request.name).bind Uuid.parseStr with
  | none => fail (.authority "QEMU VM name did not contain its CellId")
  | some value =>
      ask (.createOrdinaryDirectory request.configurationPath) id
      let path := QemuVmConfig.configPath request.configurationPath
      let taken : Bool ← look (.configExists path)
      ensure (taken = false) (.collision "QEMU provider configuration already exists")
      let accelerator ← provider.selectAccelerator request
      let config := provider.newConfig request value.toText accelerator
      lift (config.validate provider.host provider.encoders path)
      ask (.writeConfigNew path config) id
      pure ⟨value.toText, request.name⟩

def claimVm (authority : ProviderMutationAuthority) (request : ClaimVmRequest) :
    Qemu ProviderVm := do
  provider.authorized fun platform fs => authority.validateClaimRequest platform fs request
  let path := QemuVmConfig.configPath request.expected.configurationPath
  let snapshot ← provider.readConfigSnapshot path
  let config := snapshot.config
  provider.authorizeConfig authority config false
  lift (config.validateConfigSnapshot request.expected false)
  ensure (config.ownershipMarker = "" ∨ config.ownershipMarker = request.ownershipMarker)
    (.ownershipChanged "QEMU configuration marker changed")
  let config := { config with ownershipMarker := request.ownershipMarker }
  provider.replaceConfig path snapshot config
  provider.inspectConfig config

def configureVm (authority : ProviderMutationAuthority) (request : ConfigureVmRequest) :
    Qemu ProviderVm := do
  provider.authorized fun platform fs => authority.validateConfigureRequest platform fs request
  let path := QemuVmConfig.configPath request.expected.configurationPath
  let snapshot ← provider.readConfigSnapshot path
  let config := snapshot.config
  provider.authorizeConfig authority config true
  lift (config.validateConfigSnapshot request.expected true)
  let config := { config with cpuCount := request.cpuCount }
  let config := { config with commandSha256 := launchDigest provider.encoders config }
  provider.replaceConfig path snapshot config
  provider.inspectConfig config

end Creation

section Launching

/-- The configuration that records the intent of a launch. -/
def launchIntent (config : QemuVmConfig) (jobName : Option String) : QemuVmConfig :=
  { config with
    schemaVersion := qemuConfigSchema
    processId := none
    processStartToken := none
    processExecutableSha256 := none
    processJobName := jobName
    spawnPending := true }

def launchReceipt (config : QemuVmConfig) (receipt : QemuSpawnReceipt) : QemuVmConfig :=
  { config with
    processId := some receipt.processId
    processStartToken := some receipt.processStartToken
    processExecutableSha256 := some receipt.executableSha256
    spawnPending := false }

/-- No process of an earlier launch is left. -/
def proveNothingLaunched (config : QemuVmConfig) : Qemu Unit := do
  if config.spawnPending = true then
    let empty : Bool ← look (.processTreeAbsenceProven none config.processJobName)
    ensure (empty = true) (.ownershipChanged "prior QEMU launch intent is not proven empty")
  else
    match config.process with
    | none => pure ()
    | some (processId, startToken) =>
        let absent : Bool ← look (.processAbsenceProven processId startToken)
        ensure (absent = true)
          (.ownershipChanged "prior QEMU launch receipt is not proven empty")
        let empty : Bool ← look
          (.processTreeAbsenceProven (some (processId, startToken)) config.processJobName)
        ensure (empty = true)
          (.ownershipChanged "prior QEMU launch receipt is not proven empty")

/-- The launch itself: intent, process, receipt, activation. -/
def launch (path : PathBuf) (snapshot : QemuConfigSnapshot) (config : QemuVmConfig) :
    Qemu QemuVmConfig := do
  let value : Uuid ← look .newUuid
  let config := launchIntent config (newQemuJobName provider.host value)
  provider.replaceConfig path snapshot config
  let receipt : QemuSpawnReceipt ← ask (.spawnVm path provider.systemBinary (launchArgs config)
    config.processJobName config.commandSha256) id
  let snapshot ← provider.readConfigSnapshot path
  ensure ((provider.encoders.toVecPretty config).length ≤ qemuConfigMaxBytes) oversizedConfig
  ensure (snapshot.bytesSha256 = provider.encoders.sha256 (provider.encoders.toVecPretty config))
    (.ownershipChanged "QEMU launch intent changed before its process receipt was recorded")
  ensure (receipt.commandSha256 = config.commandSha256) (.ownershipChanged
    "QEMU suspended launch receipt drifted from the durable launch digest")
  let config := launchReceipt config receipt
  provider.replaceConfig path snapshot config
  ask (.activateVm receipt) id
  pure config

/-- The machine is let run through its control channel. -/
def continueVm (config : QemuVmConfig) : Qemu Unit := do
  let _ ← provider.validateLiveProcessReceipt config
  ask (.connectQmp config.qmp controlTimeout) id
  provider.negotiateQmp config
  let _ : Json ← ask (.execute "cont") id
  let status ← qmpStatus
  ensure (status = some "running") (.invalidResponse "QEMU did not enter running state")

def startVm (authority : ProviderMutationAuthority) (expected : ProviderVm) : Qemu Unit := do
  provider.authorized fun platform fs => authority.validateVm platform fs expected
  let path := QemuVmConfig.configPath expected.configurationPath
  let snapshot ← provider.readConfigSnapshot path
  let config := snapshot.config
  provider.authorizeConfig authority config true
  lift (config.validateConfigSnapshot expected true)
  provider.validateOverlayChain config
  ensure (config.commandSha256 = launchDigest provider.encoders config)
    (.ownershipChanged "QEMU launch configuration digest changed")
  if expected.powerState = .off then
    ensureControlEndpointsAbsent config
    proveNothingLaunched config
    let config ← provider.launch path snapshot config
    provider.continueVm config
  else
    ensure (expected.powerState = .paused)
      (.ownershipChanged "QEMU start expected an off or prelaunch VM")
    provider.continueVm config

end Launching

section Stopping

def withoutReceipt (config : QemuVmConfig) : QemuVmConfig :=
  { config with
    processId := none
    processStartToken := none
    processExecutableSha256 := none
    processJobName := none
    spawnPending := false }

/-- The control channel is closed and the process is gone. -/
def processExited (connected : Except ProviderError Unit) (processId startToken : Nat) :
    Qemu Bool :=
  match connected with
  | .ok () => pure false
  | .error _ => look (.processAbsenceProven processId startToken)

/-- The wait for the end of the process, cut at some number of rounds. -/
def awaitExit (path : PathBuf) (snapshot : QemuConfigSnapshot) (config : QemuVmConfig)
    (processId startToken : Nat) : Nat → Bool → Qemu Unit
  | 0, _ => hang
  | rounds + 1, forced => do
      let connected ← attempt (ask (.connectQmp config.qmp (millis 25)) id : Qemu Unit)
      let gone ← processExited connected processId startToken
      if gone = true then
        let empty : Bool ←
          look (.processTreeAbsenceProven (some (processId, startToken)) config.processJobName)
        if empty = true then
          ensureControlEndpointsAbsent config
          provider.replaceConfig path snapshot (withoutReceipt config)
        else if config.processJobName = none ∨ forced = true then
          fail (.ownershipChanged
            "QEMU leader exited while its exact owned process tree remained live")
        else
          ask (.terminateProcessTree config.processJobName) id
          awaitExit path snapshot config processId startToken rounds true
      else
        let passed : Bool ← look .deadlinePassed
        if passed = true then
          if config.processJobName.isSome = true ∧ forced = false then
            ask (.terminateProcessTree config.processJobName) id
            awaitExit path snapshot config processId startToken rounds true
          else fail (.timeout "QEMU did not terminate within the bounded stop window")
        else awaitExit path snapshot config processId startToken rounds forced

/-- Whether only the tree of an exited leader is left to be stopped. -/
def recoveringExactTree (config : QemuVmConfig) (processId startToken : Nat) : Qemu Bool := do
  match ← attempt (provider.validateLiveProcessReceipt config) with
  | .ok _ => pure false
  | .error error =>
      let absent : Bool ← look (.processAbsenceProven processId startToken)
      if absent = true then
        let owned : Bool ← look (.processTreeOwnedNonempty config.processJobName)
        if owned = true then pure true else fail error
      else fail error

def stopVm (rounds : Nat) (authority : ProviderMutationAuthority) (expected : ProviderVm) :
    Qemu Unit := do
  provider.authorized fun platform fs => authority.validateVm platform fs expected
  let path := QemuVmConfig.configPath expected.configurationPath
  let snapshot ← provider.readConfigSnapshot path
  let config := snapshot.config
  provider.authorizeConfig authority config true
  lift (config.validateConfigSnapshot expected true)
  match config.process with
  | none => fail (.ownershipChanged "QEMU stop requires a complete process receipt")
  | some (processId, startToken) =>
      let recovering ← provider.recoveringExactTree config processId startToken
      if recovering = true then
        ask (.terminateProcessTree config.processJobName) id
      else
        ask (.connectQmp config.qmp controlTimeout) id
        provider.negotiateQmp config
        let _ : Json ← ask (.execute "quit") id
      provider.awaitExit path snapshot config processId startToken rounds recovering

end Stopping

section Removal

/-- The recorded process is gone, with everything it started. -/
def proveReceiptGone (config : QemuVmConfig) : Qemu Unit := do
  match config.process with
  | none => pure ()
  | some (processId, startToken) =>
      let matched : Bool ← look (.processMatches processId startToken provider.systemBinary
        config.commandSha256 (config.processExecutableSha256.getD "") config.processJobName)
      ensure (matched = false) (.ownershipChanged "QEMU process is still live")
      let absent : Bool ← look (.processAbsenceProven processId startToken)
      ensure (absent = true) (.ownershipChanged "QEMU process absence cannot be proven")
      let empty : Bool ← look
        (.processTreeAbsenceProven (some (processId, startToken)) config.processJobName)
      ensure (empty = true)
        (.ownershipChanged "QEMU process tree is still live or unprovable")

def proveIntentEmpty (config : QemuVmConfig) : Qemu Unit := do
  if config.spawnPending = true then
    let empty : Bool ← look (.processTreeAbsenceProven none config.processJobName)
    ensure (empty = true)
      (.ownershipChanged "QEMU launch intent has no durable empty-tree proof")

def removeVm (authority : ProviderMutationAuthority) (expected : ProviderVm) : Qemu Unit := do
  provider.authorized fun platform fs => authority.validateVm platform fs expected
  ensure (expected.powerState = .off) (.ownershipChanged "QEMU remove expected an off VM")
  let path := QemuVmConfig.configPath expected.configurationPath
  let snapshot ← provider.readConfigSnapshot path
  let config := snapshot.config
  provider.authorizeConfig authority config true
  lift (config.validateConfigSnapshot expected true)
  proveIntentEmpty config
  let connected ← attempt (ask (.connectQmp config.qmp (millis 50)) id : Qemu Unit)
  match connected with
  | .ok () => fail (.ownershipChanged "QEMU control endpoint is still live")
  | .error _ =>
      provider.proveReceiptGone config
      ensureControlEndpointsAbsent config
      provider.validatePinnedConfigSnapshot path snapshot
      ask (.removeExactFile path) id
      ask (.syncParentDirectory path) id

end Removal

end QemuProvider

section Verbs

/-- What the engine asks of the provider. The wait of a stop is cut at some number
of rounds. -/
inductive QemuVerb where
  | createVm (authority : ProviderMutationAuthority) (request : CreateVmRequest)
  | claimVm (authority : ProviderMutationAuthority) (request : ClaimVmRequest)
  | configureVm (authority : ProviderMutationAuthority) (request : ConfigureVmRequest)
  | inspectVm (lookup : VmLookup)
  | startVm (authority : ProviderMutationAuthority) (expected : ProviderVm)
  | stopVm (rounds : Nat) (authority : ProviderMutationAuthority) (expected : ProviderVm)
  | removeVm (authority : ProviderMutationAuthority) (expected : ProviderVm)

inductive QemuOutcome where
  | created (identity : ProviderVmIdentity)
  | inspected (vm : ProviderVm)
  | notFound
  | completed

/-- A verb and what it returns. -/
def QemuProvider.perform (provider : QemuProvider) : QemuVerb → Qemu QemuOutcome
  | .createVm authority request => do
      let identity ← provider.createVm authority request
      pure (.created identity)
  | .claimVm authority request => do
      let vm ← provider.claimVm authority request
      pure (.inspected vm)
  | .configureVm authority request => do
      let vm ← provider.configureVm authority request
      pure (.inspected vm)
  | .inspectVm lookup => do
      match ← provider.inspectVm lookup with
      | some vm => pure (.inspected vm)
      | none => pure .notFound
  | .startVm authority expected => do
      provider.startVm authority expected
      pure .completed
  | .stopVm rounds authority expected => do
      provider.stopVm rounds authority expected
      pure .completed
  | .removeVm authority expected => do
      provider.removeVm authority expected
      pure .completed

end Verbs

end VmCell
