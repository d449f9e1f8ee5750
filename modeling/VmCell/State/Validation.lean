import VmCell.Core.Errors

/-! Where the state store keeps a record, and what it accepts as one. -/

set_option autoImplicit false
namespace VmCell

/-- The host a state root lives on. -/
structure Site where
  platform : Platform
  root : PathBuf
  sha256 : Bytes → String

namespace Site
variable (site : Site)

def imagePath (id : ImageId) : PathBuf := (site.root.join "images").join (id.text ++ ".json")
def cellPath (id : CellId) : PathBuf := (site.root.join "cells").join (id.toText ++ ".json")

def guestOperationPath (id : GuestOperationId) : PathBuf :=
  (site.root.join "operations").join (id.toText ++ ".json")

def installationPath : PathBuf := site.root.join "installation.json"

def artifactRoot (cellId : CellId) (operationId : GuestOperationId) : PathBuf :=
  ((site.root.join "artifacts").join cellId.toText).join operationId.toText

def cellRuntimeRoot (cellId : CellId) : PathBuf := (site.root.join "runtime").join cellId.toText

def cellOverlayPathFor (cellId : CellId) (diskFormat : String) : PathBuf :=
  (site.cellRuntimeRoot cellId).join ("cell." ++ diskFormat)

def cellConfigurationPathFor (cellId : CellId) (provider : String) : PathBuf :=
  (site.cellRuntimeRoot cellId).join provider

end Site

def ensureSchema (path : PathBuf) (kind : String) (actual expected : Nat) :
    Except StateError Unit :=
  if actual = expected then .ok () else .error (.unsupportedSchema kind path expected actual)

def ensureSchemaOneOf (path : PathBuf) (kind : String) (actual : Nat) (supported : List Nat)
    (highestSupported : Nat) : Except StateError Unit :=
  if actual ∈ supported then .ok ()
  else .error (.unsupportedSchema kind path highestSupported actual)

/-- The file stem of a record has to be the identity inside the record. -/
def ensureIdentity {K : Type} [DecidableEq K] (kind : String) (path : PathBuf) (expected : String)
    (key actual : K) : Except StateError Unit :=
  if key = actual then .ok () else .error (.identityMismatch kind path expected)

/-- Schema 1 carries no job correlation and schema 2 requires one. -/
def ensureJobSchema {J : Type} (kind : String) (path : PathBuf) (schemaVersion : Nat)
    (job : Option J) : Except StateError Unit :=
  if schemaVersion = 1 ∧ job.isSome then
    .error (.jobCorrelationIntegrity path (kind ++ " schema v1 must not carry job correlation"))
  else if schemaVersion = 2 ∧ job.isNone then
    .error (.jobCorrelationIntegrity path (kind ++ " schema v2 requires job correlation"))
  else .ok ()

def validateImageSchema (site : Site) (key : ImageId) (record : ImageRecord) :
    Except StateError Unit := do
  ensureSchema (site.imagePath key) "image record" record.schemaVersion imageSchemaVersion
  ensureIdentity "image record" (site.imagePath key) key.text key record.id

section Cells

def validateJobCorrelation (path : PathBuf) (correlation : JobCorrelation) :
    Except StateError Unit :=
  if correlation.jobId.value.isNil then
    .error (.jobCorrelationIntegrity path "job id must not be nil")
  else if correlation.hasValidSpecDigest = false then
    .error (.jobCorrelationIntegrity path "job specification digest is not canonical SHA-256")
  else .ok ()

def validateCellSchema (site : Site) (key : CellId) (record : CellRecord) :
    Except StateError Unit := do
  ensureSchemaOneOf (site.cellPath key) "cell record" record.schemaVersion
    [cellSchemaVersion, jobCorrelatedCellSchemaVersion] jobCorrelatedCellSchemaVersion
  ensureSchema (site.cellPath key) "cell ownership" record.ownership.schemaVersion
    ownershipMarkerSchema
  ensureIdentity "cell record" (site.cellPath key) key.toText key record.id
  ensureJobSchema "cell" (site.cellPath key) record.schemaVersion record.job
  match record.job with
  | some job => validateJobCorrelation (site.cellPath key) job
  | none => .ok ()

def validateUniqueCellJobIdsFrom (path : PathBuf) :
    List (JobId × CellId) → List CellRecord → Except StateError Unit
  | _, [] => .ok ()
  | seen, cell :: rest =>
      match cell.job with
      | none => validateUniqueCellJobIdsFrom path seen rest
      | some job =>
          match seen.lookup job.jobId with
          | none => validateUniqueCellJobIdsFrom path ((job.jobId, cell.id) :: seen) rest
          | some other =>
              .error (.jobCorrelationIntegrity path
                (if other = cell.id then "cell job correlation is not unique"
                else "job id is already bound to a different cell"))

def validateUniqueCellJobIdsForPath (path : PathBuf) (cells : List CellRecord) :
    Except StateError Unit :=
  validateUniqueCellJobIdsFrom path [] cells

def redactedLegacyErrorCode : String := "vmcell.legacy.redacted"

def isSafeDiagnostic (text : String) : Bool :=
  text.utf8ByteSize ≤ 128 && "vmcell.".toList.isPrefixOf text.toList &&
    text.toList.all fun letter =>
      letter.isLower || letter.isDigit || letter == '.' || letter == '_' || letter == '-'

/-- A diagnostic that is not one of the program's own codes is replaced. -/
def redactCellDiagnostic (record : CellRecord) : CellRecord :=
  if record.lastError.all isSafeDiagnostic then record
  else { record with lastError := some redactedLegacyErrorCode }

end Cells

section GuestOperations

def GuestOperationKind.collectsArtifact : GuestOperationKind → Bool
  | .copyOut | .artifactCollect => true
  | _ => false

/-- No exit code and no byte counts. -/
def GuestOperationRecord.withoutResult (record : GuestOperationRecord) : Bool :=
  record.exitCode.isNone && record.stdoutBytes.isNone && record.stderrBytes.isNone

/-- The optional fields that each phase permits. -/
def fieldsAreValid (record : GuestOperationRecord) : Bool :=
  match record.phase with
  | .intentRecorded =>
      record.completedAt.isNone && record.failure.isNone && record.artifactId.isNone &&
        record.artifactPrunedAt.isNone && record.withoutResult
  | .transportActive =>
      record.completedAt.isNone && record.artifactId.isNone &&
        record.artifactPrunedAt.isNone && record.withoutResult
  | .artifactCommitted =>
      record.completedAt.isNone && record.failure.isNone &&
        record.artifactId == some record.id && record.kind.collectsArtifact &&
        record.artifactPrunedAt.isNone && record.withoutResult
  | .completed =>
      record.completedAt.isSome && record.failure.isNone &&
        record.artifactId.all (· == record.id) &&
        record.artifactId.all (fun _ => record.kind.collectsArtifact) &&
        record.artifactPrunedAt.all fun _ =>
          record.artifactId == some record.id && record.kind.collectsArtifact &&
            record.withoutResult
  | .failed =>
      record.completedAt.isSome && record.failure.any (· ≠ .unknown) &&
        record.artifactId.isNone && record.artifactPrunedAt.isNone && record.withoutResult

/-- The order of the recorded times. -/
def timesAreValid (record : GuestOperationRecord) : Bool :=
  decide (record.createdAt ≤ record.updatedAt) &&
    record.completedAt.all (fun completedAt => decide (record.createdAt ≤ completedAt)) &&
    match record.artifactPrunedAt with
    | some prunedAt =>
        record.completedAt.any (fun completedAt => decide (completedAt ≤ prunedAt)) &&
          prunedAt == record.updatedAt
    | none => record.completedAt.all (· == record.updatedAt)

def validateGuestOperationSchema (site : Site) (key : GuestOperationId)
    (record : GuestOperationRecord) : Except StateError Unit := do
  ensureSchemaOneOf (site.guestOperationPath key) "guest operation record" record.schemaVersion
    [guestOperationSchemaVersion, jobCorrelatedGuestOperationSchemaVersion]
    jobCorrelatedGuestOperationSchemaVersion
  ensureIdentity "guest operation record" (site.guestOperationPath key) key.toText key record.id
  ensureJobSchema "guest operation" (site.guestOperationPath key) record.schemaVersion record.jobId
  if fieldsAreValid record && timesAreValid record then .ok ()
  else .error (.guestOperationIntegrity (site.guestOperationPath key)
    "phase and durable fields are inconsistent")

def validateOperationJobBinding (path : PathBuf) (cell : CellRecord)
    (operation : GuestOperationRecord) : Except StateError Unit :=
  match operation.jobId with
  | none => .ok ()
  | some jobId =>
      if cell.job.map (·.jobId) = some jobId then .ok ()
      else .error (.jobCorrelationIntegrity path "guest operation job id does not match its cell")

end GuestOperations

section Artifacts

def validateArtifactJobBinding (path : PathBuf) (operation : GuestOperationRecord)
    (artifact : ArtifactRecord) : Except StateError Unit :=
  if artifact.cellId ≠ operation.cellId then
    .error (.jobCorrelationIntegrity path "artifact cell id does not match its guest operation")
  else if artifact.jobId ≠ operation.jobId then
    .error (.jobCorrelationIntegrity path "artifact job id does not match its guest operation")
  else .ok ()

def checkedTotal (sizes : List Nat) : Option Nat :=
  sizes.foldl (fun total size => total.bind fun total =>
    if total + size < 2 ^ 64 then some (total + size) else none) (some 0)

def validateArtifactSchema (path : PathBuf) (record : ArtifactRecord) :
    Except StateError Unit := do
  ensureSchemaOneOf path "artifact record" record.schemaVersion
    [artifactSchemaVersion, jobCorrelatedArtifactSchemaVersion] jobCorrelatedArtifactSchemaVersion
  ensureJobSchema "artifact" path record.schemaVersion record.jobId
  if record.entries = [] ∨ record.entries.length > maxArtifactFiles then
    .error (.artifactIntegrity path "artifact file count is outside the bounded policy")
  else if record.entries.any (fun entry => decide (entry.size > maxArtifactFileBytes)) then
    .error (.artifactIntegrity path "artifact file size exceeds the bounded policy")
  else if (checkedTotal (record.entries.map (·.size))).all
      (fun total => decide (total > maxArtifactTotalBytes)) then
    .error (.artifactIntegrity path "artifact total size exceeds the bounded policy")
  else .ok ()

/-- The path of an artifact file below the state root. -/
def hostRelativePath (cellId : CellId) (operationId : GuestOperationId) (name : String) : String :=
  "artifacts/" ++ cellId.toText ++ "/" ++ operationId.toText ++ "/files/" ++ name

def isDirectArtifactPath (cellId : CellId) (operationId : GuestOperationId) (path : String) :
    Bool :=
  let stem := (hostRelativePath cellId operationId "").toList
  stem.isPrefixOf path.toList && !(path.toList.drop stem.length).contains '/'

end Artifacts

end VmCell
