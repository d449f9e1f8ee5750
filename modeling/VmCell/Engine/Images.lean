import VmCell.Engine.Lifecycle

/-! Registration, validation and removal of images. -/

set_option autoImplicit false
namespace VmCell

open Interaction

section Validation

inductive ImageValidationIssue where
  | unsupportedExtension
  | pathUnavailableOrUnsafe
  | contentReadFailed
  | providerPathMismatch
  | providerFormatMismatch
  | backingParentPresent
  | differencingBase
  | providerSizeMismatch
  | registeredPathDrift
  | registeredFormatDrift
  | registeredSizeDrift
  | registeredHashDrift
  | registeredVariantMissing
  deriving DecidableEq

def ImageValidationIssue.text : ImageValidationIssue → String
  | .unsupportedExtension => "unsupported_extension"
  | .pathUnavailableOrUnsafe => "path_unavailable_or_unsafe"
  | .contentReadFailed => "content_read_failed"
  | .providerPathMismatch => "provider_path_mismatch"
  | .providerFormatMismatch => "provider_format_mismatch"
  | .backingParentPresent => "backing_parent_present"
  | .differencingBase => "differencing_base"
  | .providerSizeMismatch => "provider_size_mismatch"
  | .registeredPathDrift => "registered_path_drift"
  | .registeredFormatDrift => "registered_format_drift"
  | .registeredSizeDrift => "registered_size_drift"
  | .registeredHashDrift => "registered_hash_drift"
  | .registeredVariantMissing => "registered_variant_missing"

structure ImageValidationReport where
  path : PathBuf
  expectedFormat : String
  observedFormat : Option String
  diskType : Option String
  parentPath : Option PathBuf
  fileSize : Option Nat
  virtualSize : Option Nat
  sha256 : Option String
  registeredSha256 : Option String
  usable : Bool
  issues : List ImageValidationIssue

def issueIf (present : Bool) (issue : ImageValidationIssue) : List ImageValidationIssue :=
  if present then [issue] else []

variable (site : Site) (provider : String)

/-- What the provider reports about the opened file. -/
def providerIssues (canonical : PathBuf) (expectedFormat : String) (fileSize : Nat)
    (info : ProviderImageInfo) : List ImageValidationIssue :=
  issueIf (!pathsEqual site.platform canonical info.path) .providerPathMismatch ++
  issueIf (!eqIgnoreAsciiCase info.diskFormat expectedFormat) .providerFormatMismatch ++
  issueIf info.parentPath.isSome .backingParentPresent ++
  issueIf (eqIgnoreAsciiCase info.diskType "differencing" ||
    eqIgnoreAsciiCase info.diskType "overlay") .differencingBase ++
  issueIf (info.fileSize ≠ fileSize) .providerSizeMismatch

def registeredIssues (canonical : PathBuf) (fileSize : Nat) (info : ProviderImageInfo)
    (sha256 : Option String) (variant : ImageVariant) : List ImageValidationIssue :=
  issueIf (!pathsEqual site.platform canonical variant.path) .registeredPathDrift ++
  issueIf (!eqIgnoreAsciiCase info.diskFormat variant.diskFormat) .registeredFormatDrift ++
  issueIf (fileSize ≠ variant.fileSize) .registeredSizeDrift ++
  issueIf (sha256 ≠ some variant.sha256) .registeredHashDrift

/-- The opened file, measured, inspected and hashed. -/
def validateOpened (report : ImageValidationReport) (canonical : PathBuf) (fileSize : Nat)
    (registered : Option ImageVariant) : Engine ImageValidationReport := do
  let info ← inspectImage canonical
  let hashed : Except EngineError String ← observe (.sha256File canonical)
  let sha256 := hashed.toOption
  let issues := report.issues ++
    providerIssues site canonical report.expectedFormat fileSize info ++
    issueIf sha256.isNone .contentReadFailed ++
    registered.elim [] (registeredIssues site canonical fileSize info sha256)
  pure { report with
    observedFormat := some info.diskFormat
    diskType := some info.diskType
    parentPath := info.parentPath
    fileSize := some fileSize
    virtualSize := some info.virtualSize
    sha256 := sha256
    usable := issues = []
    issues := issues }

def validateImagePath (path : PathBuf) (registered : Option ImageVariant) :
    Engine ImageValidationReport := do
  let expectedFormat ← Fallible.lift (providerImageFormat provider)
  let report : ImageValidationReport := ⟨path, expectedFormat, none, none, none, none, none, none,
    registered.map (·.sha256), false, []⟩
  if path.extension.any (eqIgnoreAsciiCase · expectedFormat) = false then
    pure { report with issues := [.unsupportedExtension] }
  else do
    let resolved : Except EngineError PathBuf ← observe (.canonicalImagePath path)
    match resolved with
    | .error _ => pure { report with issues := [.pathUnavailableOrUnsafe] }
    | .ok canonical => do
        let opened : Except EngineError Unit ← observe (.openImmutableParent canonical)
        match opened with
        | .error _ => pure { report with path := canonical, issues := [.pathUnavailableOrUnsafe] }
        | .ok () => do
            let measured : Except String Nat ← observe (.fileSize canonical)
            match measured with
            | .error _ => pure { report with path := canonical, issues := [.contentReadFailed] }
            | .ok fileSize =>
                validateOpened site { report with path := canonical } canonical fileSize registered

end Validation

section Registration

structure RegisterImageRequest where
  id : ImageId
  guestOs : GuestOs
  guestArch : Architecture
  path : PathBuf

def sameImageIdentity (left right : ImageRecord) : Bool :=
  left.id = right.id && left.guestOs = right.guestOs && left.guestArch = right.guestArch &&
    left.variants = right.variants

def unproven {A : Type} (value : Option A) (reason : String) : Except EngineError A :=
  match value with
  | none => .error (.invalidImage reason)
  | some value => .ok value

def registeredVariant (provider : String) (report : ImageValidationReport) :
    Except EngineError ImageVariant := do
  require report.usable (.invalidImage ("image validation failed: " ++
    String.intercalate "," (report.issues.map (·.text))))
  let diskFormat ← unproven report.observedFormat "image format was not proven"
  let sha256 ← unproven report.sha256 "image hash was not proven"
  let fileSize ← unproven report.fileSize "image size was not proven"
  pure ⟨provider, diskFormat, report.path, sha256, fileSize⟩

variable (site : Site) (provider : String)

/-- An existing registration is kept; only a missing one is written. -/
def settleRegistration (record : ImageRecord) : Engine ImageRecord := do
  let existing : Except EngineError ImageRecord ← Fallible.attempt (query (.loadImage record.id))
  match existing with
  | .ok existing =>
      if sameImageIdentity existing record then pure existing
      else Fallible.fail (.imageConflict record.id)
  | .error (.state (.notFound _)) => do
      mutate (.saveImageNew record)
      pure record
  | .error error => Fallible.fail error

def registerImageLocked (request : RegisterImageRequest) : Engine ImageRecord := do
  let report ← validateImagePath site provider request.path none
  let variant ← Fallible.lift (registeredVariant provider report)
  let time ← now
  settleRegistration
    ⟨imageSchemaVersion, request.id, request.guestOs, request.guestArch, [variant], time⟩

def registerImage (request : RegisterImageRequest) : Engine ImageRecord := do
  requireProviderAvailable provider
  mutationLocked (registerImageLocked site provider request)

end Registration

section Removal

structure ImageDependency where
  cellId : CellId
  state : CellState
  phase : CellPhase
  blocking : Bool
  deriving DecidableEq

structure ImageUnregisterReport where
  imageId : ImageId
  metadataRemoved : Bool
  bytesDeleted : Bool
  destroyedReferences : List ImageDependency

def imageDependency (cell : CellRecord) : ImageDependency :=
  ⟨cell.id, cell.state, cell.phase, cell.state ≠ .destroyed || cell.phase ≠ .destroyed⟩

def dependencyOrder (first second : ImageDependency) : Prop :=
  first.cellId.toText ≤ second.cellId.toText

instance : DecidableRel dependencyOrder := fun first second =>
  inferInstanceAs (Decidable (first.cellId.toText ≤ second.cellId.toText))

def requireConsistentImages (cells : List CellRecord) : Except EngineError Unit :=
  cells.forM fun cell => require (cell.spec.image = cell.image.imageId)
    (.integrity ("cell " ++ cell.id.toText ++ " has inconsistent image dependency identity"))

def collectImageDependencies (imageId : ImageId) : Engine (List ImageDependency) := do
  let cells : List CellRecord ← query .listCells
  Fallible.lift (requireConsistentImages cells)
  pure (((cells.filter fun cell => cell.image.imageId = imageId).map
    imageDependency).insertionSort dependencyOrder)

/-- Whether the image is registered; other failures are passed on. -/
def imageRegistered (imageId : ImageId) : Engine Bool := do
  let existing : Except EngineError ImageRecord ← Fallible.attempt (query (.loadImage imageId))
  match existing with
  | .ok _ => pure true
  | .error (.state (.notFound _)) => pure false
  | .error error => Fallible.fail error

def removeRegistered (imageId : ImageId) (registered : Bool) : Engine Bool :=
  if registered then mutate (.removeImageRecord imageId) else pure false

def unregisterImageLocked (imageId : ImageId) : Engine ImageUnregisterReport := do
  let dependencies ← collectImageDependencies imageId
  Fallible.lift (require ((dependencies.filter (·.blocking)).length = 0)
    (.imageInUse imageId (dependencies.filter (·.blocking)).length))
  let registered ← imageRegistered imageId
  let metadataRemoved ← removeRegistered imageId registered
  pure ⟨imageId, metadataRemoved, false, dependencies⟩

def unregisterImage (imageId : ImageId) : Engine ImageUnregisterReport :=
  mutationLocked (unregisterImageLocked imageId)

end Removal

end VmCell
