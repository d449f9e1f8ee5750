import VmCell.Engine.Ownership

/-! The life of a cell: creation, start, stop and the checks they share. -/

set_option autoImplicit false
namespace VmCell

open Interaction

section Requests

def maxCpuCount : Nat := 64
def minMemoryMib : Nat := 512
def maxMemoryMib : Nat := 1048576
def minTtlSeconds : Nat := 1
def maxTtlSeconds : Nat := 31536000

def validateCellResources (cpuCount memoryMib : Nat) (ttlSeconds : Option Nat) :
    Except EngineError Unit := do
  require (1 ≤ cpuCount && cpuCount ≤ maxCpuCount)
    (.invalidCellRequest ("cpu_count must be between 1 and " ++ toString maxCpuCount))
  require (minMemoryMib ≤ memoryMib && memoryMib ≤ maxMemoryMib)
    (.invalidCellRequest ("memory_mib must be between " ++ toString minMemoryMib ++ " and " ++
      toString maxMemoryMib))
  require (ttlSeconds.all fun seconds => minTtlSeconds ≤ seconds && seconds ≤ maxTtlSeconds)
    (.invalidCellRequest ("ttl_seconds must be between " ++ toString minTtlSeconds ++ " and " ++
      toString maxTtlSeconds))

def isLocalProvider (provider : String) : Bool := provider == "hyperv" || provider == "qemu"

def validateCellSpec (spec : CellSpec) (provider : String) : Except EngineError Unit := do
  require (isLocalProvider provider && spec.provider = some provider)
    (.unsupportedProvider (spec.provider.getD "<missing>"))
  require (!(provider = "hyperv" && (spec.accelerator.isSome || spec.allowTcg)))
    (.invalidCellRequest "QEMU accelerator policy cannot be applied to Hyper-V")
  require (spec.accelerator.all (["auto", "whpx", "kvm", "hvf", "tcg"].contains ·))
    (.invalidCellRequest "accelerator must be auto, whpx, kvm, hvf, or tcg")
  require (spec.allowTcg == (spec.accelerator == some "tcg"))
    (.invalidCellRequest "TCG requires exact accelerator=tcg and allow_tcg opt-in together")
  validateCellResources spec.cpuCount spec.memoryMib spec.ttlSeconds

def requireLifecycleState (record : CellRecord) (operation : String) (allowed : List CellState) :
    Except EngineError Unit :=
  require (allowed.contains record.state) (.lifecycleConflict
    ("cannot " ++ operation ++ " cell in " ++ record.state.debug ++ " state"))

end Requests

section Images

def providerImageFormat (provider : String) : Except EngineError String :=
  if provider = "hyperv" then .ok "vhdx"
  else if provider = "qemu" then .ok "qcow2"
  else .error (.unsupportedProvider provider)

def validateBaseImage (platform : Platform) (provider : String) (expectedPath : PathBuf)
    (fileSize : Nat) (info : ProviderImageInfo) : Except EngineError Unit := do
  let expectedFormat ← providerImageFormat provider
  require (pathsEqual platform expectedPath info.path)
    (.invalidImage "provider reported a different base image path")
  require (eqIgnoreAsciiCase info.diskFormat expectedFormat)
    (.invalidImage ("provider image format is not " ++ expectedFormat))
  require (info.parentPath.isNone && !eqIgnoreAsciiCase info.diskType "differencing")
    (.invalidImage "a registered base image cannot itself be differencing")
  require (info.fileSize = fileSize)
    (.invalidImage "filesystem and provider image sizes disagree")

def validateOverlay (platform : Platform) (record : CellRecord) (info : ProviderImageInfo) :
    Except EngineError Unit :=
  require (pathsEqual platform record.ownership.overlayPath info.path &&
    eqIgnoreAsciiCase info.diskFormat record.image.diskFormat &&
    (eqIgnoreAsciiCase info.diskType "differencing" || eqIgnoreAsciiCase info.diskType "overlay") &&
    info.parentPath.any (pathsEqual platform · record.image.path))
    (.providerDrift "created overlay did not match the requested immutable parent/path")

def providerVariant (image : ImageRecord) (provider : String) : Except EngineError ImageVariant :=
  match image.variants.filter (fun variant => variant.provider = provider) with
  | [] => .error (.imageIntegrity ("image has no " ++ provider ++ " variant"))
  | [variant] => .ok variant
  | _ => .error (.imageIntegrity ("image has more than one " ++ provider ++ " variant"))

def asImageIntegrity : EngineError → EngineError
  | .invalidImage reason => .imageIntegrity reason
  | error => error

def inspectImage (path : PathBuf) : Engine ProviderImageInfo := do
  let answer : Except ProviderError ProviderImageInfo ← observe (.inspectImage path)
  Fallible.lift (answer.mapError .provider)

def validatePathIdentity (path : PathBuf) : Engine Unit := do
  let answer : Except EngineError Unit ← observe (.validatePathIdentity path)
  Fallible.lift answer

/-- The opened parent image, known by its canonical path. -/
def verifyRegisteredImage (site : Site) (provider : String) (variant : ImageVariant) :
    Engine PathBuf := do
  let resolved : Except EngineError PathBuf ← observe (.canonicalImagePath variant.path)
  let canonical ← Fallible.lift (resolved.mapError asImageIntegrity)
  Fallible.lift (require (pathsEqual site.platform canonical variant.path)
    (.imageIntegrity "registered image path no longer resolves to the same file"))
  let opened : Except EngineError Unit ← observe (.openImmutableParent canonical)
  Fallible.lift (opened.mapError asImageIntegrity)
  validatePathIdentity canonical
  let measured : Except String Nat ← observe (.fileSize canonical)
  let fileSize ← Fallible.lift (measured.mapError .imageIntegrity)
  Fallible.lift (require (fileSize = variant.fileSize)
    (.imageIntegrity "registered image size changed"))
  let info ← inspectImage canonical
  validatePathIdentity canonical
  Fallible.lift ((validateBaseImage site.platform provider canonical fileSize info).mapError
    asImageIntegrity)
  let hashed : Except EngineError String ← observe (.sha256File canonical)
  let sha256 ← Fallible.lift (hashed.mapError asImageIntegrity)
  validatePathIdentity canonical
  Fallible.lift (require (sha256 = variant.sha256)
    (.imageIntegrity "registered image SHA-256 changed"))
  pure canonical

end Images

structure OperationReport where
  cellId : CellId
  state : CellState
  changed : Bool
  deriving DecidableEq

def operationReport (record : CellRecord) (changed : Bool) : OperationReport :=
  ⟨record.id, record.state, changed⟩

section Lifecycle
variable (site : Site) (provider : String)

def requireProvider : Engine Unit :=
  Fallible.lift (require (isLocalProvider provider) (.unsupportedProvider provider))

def requireProviderAvailable : Engine Unit := do
  requireProvider provider
  let probe : ProviderProbe ← observe .probe
  Fallible.lift (require probe.normalized.available
    (.providerUnavailable probe.normalized.detail))

def validateLocalOwnership (record : CellRecord) : Engine Unit := do
  let installation : InstallationRecord ← query .loadInstallation
  Fallible.lift (validateLocalOwnershipRecord site provider record installation.installId)

def validateLocalOwnershipAgainst (record : CellRecord) (installation : InstallationRecord) :
    Engine Unit :=
  Fallible.lift (validateLocalOwnershipRecord site provider record installation.installId)

def recordedIdentity (record : CellRecord) : Except EngineError ProviderObjectIdentity :=
  match record.providerObject with
  | none => .error (.ownershipNotProven "provider object id is not recorded")
  | some identity => .ok identity

def presentVm (found : Option ProviderVm) (absent : EngineError) : Except EngineError ProviderVm :=
  match found with
  | none => .error absent
  | some vm => .ok vm

def exactOwnedVm (record : CellRecord) : Engine ProviderVm := do
  Fallible.lift (require (record.state ≠ .destroyed)
    (.ownershipNotProven "cell is already destroyed"))
  validateLocalOwnership site provider record
  let identity ← Fallible.lift (recordedIdentity record)
  let found ← inspectVm (.id identity.id)
  let vm ← Fallible.lift (presentVm found
    (.ownershipNotProven "recorded provider object is absent"))
  Fallible.lift (proveOwnership site.platform record vm)
  pure vm

section Creation

/-- Keeps a failed creation as a record of its error code. -/
def failRecord {A : Type} (record : CellRecord) (error : EngineError) : Engine A := do
  let time ← now
  mutate (.saveCell { record with
    state := .failed
    updatedAt := time
    lastError := some (durableErrorCode error) })
  Fallible.fail error

def orFail {A : Type} (record : CellRecord) (step : Engine A) : Engine A :=
  Fallible.handle step (failRecord record)

def expiresAt (now : DateTime) (ttlSeconds : Option Nat) : Option DateTime :=
  ttlSeconds.map fun seconds => now + ((min seconds (2 ^ 63 - 1) * nanosPerSecond : Nat) : Int)

def intentRecord (spec : CellSpec) (cellId : CellId) (job : Option JobCorrelation)
    (image : ImageRecord) (variant : ImageVariant) (installId operationId : Uuid)
    (now : DateTime) : CellRecord where
  schemaVersion := CellRecord.schemaVersionForJob job
  id := cellId
  provider := provider
  spec := spec
  image := .fromVariant image.id image.guestOs variant
  ownership := .new installId cellId operationId (site.cellConfigurationPathFor cellId provider)
    (site.cellOverlayPathFor cellId variant.diskFormat)
  providerObject := none
  state := .creating
  phase := .intentRecorded
  createdAt := now
  updatedAt := now
  expiresAt := expiresAt now spec.ttlSeconds
  lastError := none
  job := job

structure CellIntent where
  installation : InstallationRecord
  record : CellRecord
  parent : PathBuf

def recordCellIntent (spec : CellSpec) (cellId : CellId) (job : Option JobCorrelation) :
    Engine CellIntent := do
  let image : ImageRecord ← query (.loadImage spec.image)
  let variant ← Fallible.lift (providerVariant image provider)
  let parent ← verifyRegisteredImage site provider variant
  let fresh ← newUuid
  let installation : InstallationRecord ← mutate (.installation fresh)
  let authority : InstallationRecord ← query .acquireInstallationAuthority
  Fallible.lift (require (installation = authority)
    (.ownershipNotProven "installation identity changed while creating a cell"))
  let time ← now
  let operationId ← newUuid
  let record := intentRecord site provider spec cellId job image variant installation.installId
    operationId time
  mutate (.saveCell record)
  pure ⟨installation, record, parent⟩

def requireNameUnused (record : CellRecord) : Engine Unit := do
  let existing ← inspectVm (.name record.ownership.providerObjectName)
  match existing with
  | none => pure ()
  | some vm => failRecord record (.ownershipNotProven
      ("VM name collision with provider id " ++ vm.id))

/-- Saves a record that has reached a new phase. -/
def savePhase (record : CellRecord) (phase : CellPhase) : Engine CellRecord := do
  let time ← now
  mutate (.saveCell { record with phase := phase, updatedAt := time })
  pure { record with phase := phase, updatedAt := time }

def provisionOverlay (authority : ProviderMutationAuthority) : Engine CellRecord := do
  let record := authority.record
  orFail record (validatePathIdentity record.image.path)
  let overlay : ProviderImageInfo ← orFail record (callProvider authority
    (.createOverlay ⟨record.image.path, record.ownership.overlayPath⟩))
  orFail record (validatePathIdentity record.image.path)
  orFail record (Fallible.lift (validateOverlay site.platform record overlay))
  savePhase record .overlayCreated

def createRequest (record : CellRecord) : CreateVmRequest where
  name := record.ownership.providerObjectName
  configurationPath := record.ownership.configurationPath
  overlayPath := record.ownership.overlayPath
  parentPath := record.image.path
  memoryMib := record.spec.memoryMib
  cpuCount := record.spec.cpuCount
  accelerator := record.spec.accelerator
  allowTcg := record.spec.allowTcg

def normalizeProviderIdentity (record : CellRecord) (identity : ProviderVmIdentity) :
    Except EngineError ProviderObjectIdentity :=
  match Uuid.parseStr identity.id with
  | none => .error (.providerDrift
      "provider create response did not contain a GUID provider id")
  | some id =>
      if identity.name ≠ record.ownership.providerObjectName then
        .error (.providerDrift
          "provider create response name did not match the requested CellId name")
      else .ok ⟨id.toText, identity.name⟩

def provisionVm (authority : ProviderMutationAuthority) : Engine CellRecord := do
  let record := authority.record
  let created : ProviderVmIdentity ← orFail record (callProvider authority
    (.createVm (createRequest record)))
  let identity ← orFail record (Fallible.lift (normalizeProviderIdentity record created))
  savePhase { record with providerObject := some identity } .providerObjectCreated

structure ClaimedCell where
  record : CellRecord
  vm : ProviderVm

def claimNewVm (authority : ProviderMutationAuthority) : Engine ClaimedCell := do
  let record := authority.record
  let identity ← Fallible.lift (recordedIdentity record)
  let found ← inspectVm (.id identity.id)
  let vm ← orFail record (Fallible.lift (presentVm found
    (.providerDrift "new provider object disappeared after its id was persisted")))
  orFail record (Fallible.lift (proveCreationIdentity site.platform record vm false))
  orFail record (Fallible.lift (require (vm.powerState = .off)
    (.unexpectedPowerState vm.powerState)))
  let claimed : ProviderVm ← orFail record (callProvider authority
    (.claimVm ⟨vm, record.ownership.providerMarker⟩))
  orFail record (Fallible.lift (proveCreationIdentity site.platform record claimed true))
  let record ← savePhase record .providerObjectClaimed
  pure ⟨record, claimed⟩

def configureNewVm (authority : ProviderMutationAuthority) (claimed : ProviderVm) :
    Engine CellRecord := do
  let record := authority.record
  let vm : ProviderVm ← orFail record (callProvider authority
    (.configureVm ⟨claimed, record.spec.cpuCount⟩))
  orFail record (Fallible.lift (proveOwnership site.platform record vm))
  savePhase { record with state := .stopped } .ready

def createCellLocked (spec : CellSpec) (cellId : CellId) (job : Option JobCorrelation) :
    Engine CellRecord := do
  let intent ← recordCellIntent site provider spec cellId job
  let record := intent.record
  let runtime : CellRuntimeGuard ← orFail record (mutate (.prepareCellRuntimeFor cellId
    record.ownership.configurationPath record.ownership.overlayPath))
  requireNameUnused record
  let record ← provisionOverlay site ⟨record, intent.installation, runtime⟩
  let record ← provisionVm ⟨record, intent.installation, runtime⟩
  let claimed ← claimNewVm site ⟨record, intent.installation, runtime⟩
  configureNewVm site ⟨claimed.record, intent.installation, runtime⟩ claimed.vm

def createCellWithId (spec : CellSpec) (cellId : CellId) (job : Option JobCorrelation) :
    Engine CellRecord := do
  requireProviderAvailable provider
  Fallible.lift (validateCellSpec spec provider)
  mutationLocked (createCellLocked site provider spec cellId job)

def createCell (spec : CellSpec) : Engine CellRecord := do
  let cellId ← newUuid
  createCellWithId site provider spec ⟨cellId⟩ none

end Creation

section Power

/-- The record of a ready cell in the observed power state. -/
def settleReady (record : CellRecord) (state : CellState) (changed : Bool) :
    Engine OperationReport := do
  let time ← now
  let record := { record with state := state, phase := .ready, updatedAt := time }
  mutate (.saveCell record)
  pure (operationReport record changed)

/-- One proven power action and the proof of its outcome. -/
def changePower (record : CellRecord) (action : ProviderAction) (power : ProviderPowerState)
    (state : CellState) : Engine OperationReport := do
  let installation : InstallationRecord ← query .acquireInstallationAuthority
  validateLocalOwnershipAgainst site provider record installation
  let runtime : CellRuntimeGuard ← query (.pinCellRuntimeFor record.id
    record.ownership.configurationPath record.ownership.overlayPath)
  let _ ← callProvider ⟨record, installation, runtime⟩ action
  let after ← exactOwnedVm site provider record
  Fallible.lift (require (after.powerState = power) (.unexpectedPowerState after.powerState))
  settleReady record state true

def startOwnedVm (record : CellRecord) (before : ProviderVm) : Engine OperationReport :=
  match before.powerState with
  | .running => settleReady record .running (record.state ≠ .running)
  | .off =>
      if record.state = .destroyed then Fallible.fail (.unexpectedPowerState .off)
      else if record.provider = "qemu" then do
        let _ ← verifyRegisteredImage site provider record.image.toVariant
        changePower site provider record (.startVm before) .running .running
      else changePower site provider record (.startVm before) .running .running
  | .paused =>
      if record.provider = "qemu" ∧ record.state ≠ .destroyed then do
        let _ ← verifyRegisteredImage site provider record.image.toVariant
        changePower site provider record (.startVm before) .running .running
      else Fallible.fail (.unexpectedPowerState .paused)
  | state => Fallible.fail (.unexpectedPowerState state)

def startCellLocked (cellId : CellId) : Engine OperationReport := do
  let record : CellRecord ← query (.loadCell cellId)
  Fallible.lift (requireLifecycleState record "start" [.stopped, .running])
  let before ← exactOwnedVm site provider record
  startOwnedVm site provider record before

def startCell (cellId : CellId) : Engine OperationReport := do
  requireProvider provider
  mutationLocked (startCellLocked site provider cellId)

def stopOwnedVm (record : CellRecord) (before : ProviderVm) : Engine OperationReport :=
  match before.powerState with
  | .off => settleReady record .stopped (record.state ≠ .stopped)
  | .running => changePower site provider record (.stopVm before) .off .stopped
  | state => Fallible.fail (.unexpectedPowerState state)

def stopCellLocked (cellId : CellId) : Engine OperationReport := do
  let record : CellRecord ← query (.loadCell cellId)
  Fallible.lift (requireLifecycleState record "stop" [.stopped, .running])
  let before ← exactOwnedVm site provider record
  stopOwnedVm site provider record before

def stopCell (cellId : CellId) : Engine OperationReport := do
  requireProvider provider
  mutationLocked (stopCellLocked site provider cellId)

end Power

end Lifecycle

end VmCell
