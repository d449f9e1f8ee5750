import VmCell.Core.Uuid
import VmCell.Core.Path

/-! The durable records of the manager and the values they are made of.

Times are nanoseconds on the UTC axis. Sizes and counters are natural numbers;
where the source checks an overflow the bound is written at the check.
-/

set_option autoImplicit false
namespace VmCell

abbrev DateTime := Int
abbrev Duration := Nat
abbrev Bytes := List UInt8

def nanosPerSecond : Nat := 1000000000

structure CellId where
  value : Uuid
  deriving DecidableEq

structure GuestOperationId where
  value : Uuid
  deriving DecidableEq

structure JobId where
  value : Uuid
  deriving DecidableEq

def CellId.toText (id : CellId) : String := id.value.toText
def GuestOperationId.toText (id : GuestOperationId) : String := id.value.toText

section Images

/-- What `ImageId::parse` accepts. -/
def ImageId.wellFormed (text : String) : Bool :=
  text.toList ≠ [] && text.utf8ByteSize ≤ 128 &&
    text.toList.all (fun letter => letter.isAlphanum || letter == '-' || letter == '_' ||
      letter == '.') &&
    text ≠ "." && text ≠ ".."

structure ImageId where
  text : String
  valid : ImageId.wellFormed text = true
  deriving DecidableEq

inductive GuestOs where
  | windows
  | linux
  | macos
  deriving DecidableEq

inductive Architecture where
  | x86_64
  | aarch64
  deriving DecidableEq

structure ImageVariant where
  provider : String
  diskFormat : String
  path : PathBuf
  sha256 : String
  fileSize : Nat
  deriving DecidableEq

structure ImageRecord where
  schemaVersion : Nat
  id : ImageId
  guestOs : GuestOs
  guestArch : Architecture
  variants : List ImageVariant
  registeredAt : DateTime
  deriving DecidableEq

def imageSchemaVersion : Nat := 1

structure ImageBinding where
  imageId : ImageId
  guestOs : Option GuestOs
  provider : String
  diskFormat : String
  path : PathBuf
  sha256 : String
  fileSize : Nat
  deriving DecidableEq

def ImageBinding.fromVariant (imageId : ImageId) (guestOs : GuestOs) (variant : ImageVariant) :
    ImageBinding where
  imageId := imageId
  guestOs := some guestOs
  provider := variant.provider
  diskFormat := variant.diskFormat
  path := variant.path
  sha256 := variant.sha256
  fileSize := variant.fileSize

/-- The variant a binding was taken from. -/
def ImageBinding.toVariant (binding : ImageBinding) : ImageVariant where
  provider := binding.provider
  diskFormat := binding.diskFormat
  path := binding.path
  sha256 := binding.sha256
  fileSize := binding.fileSize

end Images

section Jobs

structure JobCorrelation where
  jobId : JobId
  jobSpecSha256 : String
  startedAt : DateTime
  deriving DecidableEq

def isLowercaseSha256 (text : String) : Bool :=
  text.utf8ByteSize == 64 && text.toList.all fun letter =>
    letter.isDigit || ('a'.toNat ≤ letter.toNat && letter.toNat ≤ 'f'.toNat)

def JobCorrelation.hasValidSpecDigest (correlation : JobCorrelation) : Bool :=
  isLowercaseSha256 correlation.jobSpecSha256

end Jobs

section Cells

def cellSchemaVersion : Nat := 1
def jobCorrelatedCellSchemaVersion : Nat := 2
def ownershipMarkerSchema : Nat := 1

inductive CellState where
  | creating
  | stopped
  | running
  | destroying
  | destroyed
  | failed
  deriving DecidableEq

/-- The name of a state in a message. -/
def CellState.debug : CellState → String
  | .creating => "Creating"
  | .stopped => "Stopped"
  | .running => "Running"
  | .destroying => "Destroying"
  | .destroyed => "Destroyed"
  | .failed => "Failed"

inductive LifecycleError where
  | invalidTransition (source target : CellState)
  deriving DecidableEq

/-- The published lifecycle; the engine does not consult it. -/
def validateTransition (source target : CellState) : Except LifecycleError Unit :=
  match source, target with
  | .creating, .stopped | .creating, .failed | .stopped, .running | .stopped, .destroying
  | .running, .stopped | .running, .destroying | .running, .failed | .failed, .destroying
  | .destroying, .destroyed | .destroying, .failed => .ok ()
  | _, _ => .error (.invalidTransition source target)

inductive CellPhase where
  | intentRecorded
  | overlayCreated
  | providerObjectCreated
  | providerObjectClaimed
  | ready
  | destroying
  | destroyingProvisioning
  | destroyed
  deriving DecidableEq

/-- The name of a phase in a message. -/
def CellPhase.debug : CellPhase → String
  | .intentRecorded => "IntentRecorded"
  | .overlayCreated => "OverlayCreated"
  | .providerObjectCreated => "ProviderObjectCreated"
  | .providerObjectClaimed => "ProviderObjectClaimed"
  | .ready => "Ready"
  | .destroying => "Destroying"
  | .destroyingProvisioning => "DestroyingProvisioning"
  | .destroyed => "Destroyed"

structure CellSpec where
  image : ImageId
  provider : Option String
  cpuCount : Nat
  memoryMib : Nat
  ttlSeconds : Option Nat
  accelerator : Option String
  allowTcg : Bool
  deriving DecidableEq

structure CellOwnership where
  schemaVersion : Nat
  installId : Uuid
  operationId : Uuid
  providerObjectName : String
  providerMarker : String
  configurationPath : PathBuf
  overlayPath : PathBuf
  deriving DecidableEq

/-- `vmcell-<CellId>`. -/
def providerObjectName (cellId : CellId) : String := "vmcell-" ++ cellId.toText

def providerMarker (installId : Uuid) (cellId : CellId) (operationId : Uuid) : String :=
  "vmcell:v" ++ toString ownershipMarkerSchema ++ ":" ++ installId.toText ++ ":" ++
    cellId.toText ++ ":" ++ operationId.toText

def CellOwnership.new (installId : Uuid) (cellId : CellId) (operationId : Uuid)
    (configurationPath overlayPath : PathBuf) : CellOwnership where
  schemaVersion := ownershipMarkerSchema
  installId := installId
  operationId := operationId
  providerObjectName := VmCell.providerObjectName cellId
  providerMarker := VmCell.providerMarker installId cellId operationId
  configurationPath := configurationPath
  overlayPath := overlayPath

structure ProviderObjectIdentity where
  id : String
  name : String
  deriving DecidableEq

structure CellRecord where
  schemaVersion : Nat
  id : CellId
  provider : String
  spec : CellSpec
  image : ImageBinding
  ownership : CellOwnership
  providerObject : Option ProviderObjectIdentity
  state : CellState
  phase : CellPhase
  createdAt : DateTime
  updatedAt : DateTime
  expiresAt : Option DateTime
  lastError : Option String
  job : Option JobCorrelation
  deriving DecidableEq

def CellRecord.schemaVersionForJob (job : Option JobCorrelation) : Nat :=
  if job.isSome then jobCorrelatedCellSchemaVersion else cellSchemaVersion

end Cells

section GuestOperations

def guestOperationSchemaVersion : Nat := 1
def jobCorrelatedGuestOperationSchemaVersion : Nat := 2
def artifactSchemaVersion : Nat := 1
def jobCorrelatedArtifactSchemaVersion : Nat := 2
def maxArtifactFiles : Nat := 16
def maxArtifactFileBytes : Nat := 64 * 1024 * 1024
def maxArtifactTotalBytes : Nat := 1024 * 1024 * 1024

inductive GuestOperationKind where
  | exec
  | copyIn
  | copyOut
  | artifactCollect
  deriving DecidableEq

inductive GuestOperationPhase where
  | intentRecorded
  | transportActive
  | artifactCommitted
  | completed
  | failed
  deriving DecidableEq

def GuestOperationPhase.isTerminal : GuestOperationPhase → Bool
  | .completed | .failed => true
  | _ => false

inductive GuestFailureClass where
  | interrupted
  | guestNotReady
  | authentication
  | session
  | timeout
  | outputLimit
  | invalidEncoding
  | pathViolation
  | partialCopy
  | ownershipChanged
  | unknown
  deriving DecidableEq

structure GuestOperationRecord where
  schemaVersion : Nat
  id : GuestOperationId
  cellId : CellId
  kind : GuestOperationKind
  phase : GuestOperationPhase
  createdAt : DateTime
  updatedAt : DateTime
  completedAt : Option DateTime
  failure : Option GuestFailureClass
  exitCode : Option Int
  stdoutBytes : Option Nat
  stderrBytes : Option Nat
  artifactId : Option GuestOperationId
  artifactPrunedAt : Option DateTime
  jobId : Option JobId
  deriving DecidableEq

def GuestOperationRecord.schemaVersionForJob (jobId : Option JobId) : Nat :=
  if jobId.isSome then jobCorrelatedGuestOperationSchemaVersion else guestOperationSchemaVersion

def GuestOperationRecord.intentWithJob (id : GuestOperationId) (cellId : CellId)
    (kind : GuestOperationKind) (now : DateTime) (jobId : Option JobId) :
    GuestOperationRecord where
  schemaVersion := GuestOperationRecord.schemaVersionForJob jobId
  id := id
  cellId := cellId
  kind := kind
  phase := .intentRecorded
  createdAt := now
  updatedAt := now
  completedAt := none
  failure := none
  exitCode := none
  stdoutBytes := none
  stderrBytes := none
  artifactId := none
  artifactPrunedAt := none
  jobId := jobId

structure GuestPath where
  text : String
  deriving DecidableEq

structure ArtifactEntry where
  guestPath : String
  hostRelativePath : String
  sha256 : String
  size : Nat
  deriving DecidableEq

structure ArtifactRecord where
  schemaVersion : Nat
  id : GuestOperationId
  cellId : CellId
  createdAt : DateTime
  entries : List ArtifactEntry
  jobId : Option JobId
  deriving DecidableEq

def ArtifactRecord.schemaVersionForJob (jobId : Option JobId) : Nat :=
  if jobId.isSome then jobCorrelatedArtifactSchemaVersion else artifactSchemaVersion

end GuestOperations

structure InstallationRecord where
  schemaVersion : Nat
  installId : Uuid
  deriving DecidableEq

def installSchemaVersion : Nat := 1

end VmCell
