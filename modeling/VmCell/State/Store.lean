import Mathlib.Data.List.AList
import Mathlib.Data.List.Sort
import VmCell.State.Validation

/-! The durable state below a state root and the store's operations on it.

A directory of records is a finite map from file stems to records. Reads and
writes are the functions of the state store in the order of their checks; the
locks, handles and identity checks that detect a replaced path belong to the
environment, which may fail any access.
-/

set_option autoImplicit false
namespace VmCell

abbrev Directory (K V : Type) := AList fun _ : K => V

inductive EntryKind where
  | file
  | directory
  deriving DecidableEq

/-- The entries below a cell's runtime root, by their path from it. -/
abbrev RuntimeTree := Directory (List String) EntryKind

structure ArtifactDirectory where
  /-- The `files` directory, when it is there. -/
  files : Option (Directory String Bytes)
  manifest : Option ArtifactRecord

structure Store where
  installation : Option InstallationRecord
  images : Directory ImageId ImageRecord
  cells : Directory CellId CellRecord
  operations : Directory GuestOperationId GuestOperationRecord
  artifacts : Directory (CellId × GuestOperationId) ArtifactDirectory
  runtime : Directory CellId RuntimeTree
  /-- What the transport has returned for each operation so far. No function
  of the program reads it. -/
  copied : GuestOperationId → List (GuestPath × Bytes)

def Store.empty : Store where
  installation := none
  images := ∅
  cells := ∅
  operations := ∅
  artifacts := ∅
  runtime := ∅
  copied := fun _ => []

def notFoundSource : String := "No such file or directory (os error 2)"
def notDirectorySource : String := "Not a directory (os error 20)"

section Records
variable {K V : Type}

def byName (name : K → String) (first second : Sigma fun _ : K => V) : Prop :=
  name first.1 ≤ name second.1

instance (name : K → String) : DecidableRel (byName (V := V) name) :=
  fun first second => inferInstanceAs (Decidable (name first.1 ≤ name second.1))

/-- Every record of a directory, by file name, validated. -/
def readJsonDirectory (name : K → String) (validate : K → V → Except StateError Unit)
    (directory : Directory K V) : Except StateError (List V) :=
  (directory.entries.insertionSort (byName name)).mapM fun entry => do
    validate entry.1 entry.2
    pure entry.2

end Records

namespace Store
variable (site : Site) (store : Store)

section Installation

def loadInstallation : Except StateError InstallationRecord :=
  match store.installation with
  | none => .error (.notFound site.installationPath)
  | some record => do
      ensureSchema site.installationPath "installation record" record.schemaVersion
        installSchemaVersion
      pure record

/-- Loads the installation identity, or creates it with a fresh identifier. -/
def installationWithMutation (fresh : Uuid) : Except StateError (InstallationRecord × Store) :=
  match store.installation with
  | some _ => do
      let record ← loadInstallation site store
      pure (record, store)
  | none =>
      let record : InstallationRecord := ⟨installSchemaVersion, fresh⟩
      .ok (record, { store with installation := some record })

end Installation

section Images

def loadImage (id : ImageId) : Except StateError ImageRecord :=
  match store.images.lookup id with
  | none => .error (.notFound (site.imagePath id))
  | some record => do
      validateImageSchema site id record
      pure record

def listImages : Except StateError (List ImageRecord) :=
  readJsonDirectory (fun id => id.text ++ ".json") (validateImageSchema site) store.images

def saveImageNew (record : ImageRecord) : Except StateError Store := do
  validateImageSchema site record.id record
  match store.images.lookup record.id with
  | some _ => .error (.alreadyExists (site.imagePath record.id))
  | none => .ok { store with images := store.images.insert record.id record }

/-- Each variant has to be an absolute native image path distinct from the
manifest. That the variant's file is another file than the manifest is left to
the environment. -/
def validateImageRecordForMetadataRemoval (manifestPath : PathBuf) (record : ImageRecord) :
    Except StateError Unit :=
  if record.variants = [] then .error (.unsafeRuntimePath manifestPath)
  else if record.variants.all (fun variant =>
      match (if variant.provider = "hyperv" then some "vhdx"
        else if variant.provider = "qemu" then some "qcow2" else none) with
      | none => false
      | some expectedFormat =>
          variant.path.isAbsolute && eqIgnoreAsciiCase variant.diskFormat expectedFormat &&
            variant.path.extension.any (eqIgnoreAsciiCase · expectedFormat) &&
            !removablePathsEqual site.platform variant.path manifestPath &&
            !windowsPathHasStreamOrDeviceAmbiguity site.platform variant.path) then .ok ()
  else .error (.unsafeRuntimePath manifestPath)

/-- Retires the manifest under a name that no reader looks at. -/
def removeImageRecord (id : ImageId) : Except StateError (Bool × Store) :=
  match store.images.lookup id with
  | none => .ok (false, store)
  | some record => do
      validateImageSchema site id record
      validateImageRecordForMetadataRemoval site (site.imagePath id) record
      pure (true, { store with images := store.images.erase id })

end Images

section Cells

def readCells : Except StateError (List CellRecord) :=
  readJsonDirectory CellId.toText (validateCellSchema site) store.cells

def validateUniqueCellJobId (path : PathBuf) (record : CellRecord) : Except StateError Unit := do
  let cells ← readCells site store
  validateUniqueCellJobIdsForPath path (cells.filter (fun cell => cell.id ≠ record.id) ++ [record])

def loadCell (id : CellId) : Except StateError CellRecord :=
  match store.cells.lookup id with
  | none => .error (.notFound (site.cellPath id))
  | some stored => do
      validateCellSchema site id stored
      let record := redactCellDiagnostic stored
      validateUniqueCellJobId site store (site.cellPath id) record
      pure record

def listCells : Except StateError (List CellRecord) := do
  let records ← readCells site store
  validateUniqueCellJobIdsForPath (site.root.join "cells") records
  pure (records.map redactCellDiagnostic)

/-- A stored cell keeps its job correlation. -/
def ensureJobKept (record : CellRecord) : Except StateError Unit :=
  match loadCell site store record.id with
  | .ok existing =>
      if existing.job = record.job then .ok ()
      else .error (.jobCorrelationIntegrity (site.cellPath record.id)
        "cell job correlation is immutable")
  | .error (.notFound _) => .ok ()
  | .error error => .error error

def saveCell (record : CellRecord) : Except StateError Store := do
  let record := redactCellDiagnostic record
  validateCellSchema site record.id record
  ensureJobKept site store record
  validateUniqueCellJobId site store (site.cellPath record.id) record
  pure { store with cells := store.cells.insert record.id record }

end Cells

section GuestOperations

/-- Reading tolerates an uncorrelated operation whose cell is gone. -/
def validateOperationParentBinding (path : PathBuf) (operation : GuestOperationRecord) :
    Except StateError Unit :=
  match loadCell site store operation.cellId with
  | .ok cell => validateOperationJobBinding path cell operation
  | .error (.notFound _) =>
      if operation.jobId.isNone then .ok ()
      else .error (.jobCorrelationIntegrity path "guest operation references a missing cell")
  | .error error => .error error

/-- Writing requires the parent cell. -/
def validateOperationParentBindingForWrite (path : PathBuf) (operation : GuestOperationRecord) :
    Except StateError Unit :=
  match loadCell site store operation.cellId with
  | .ok cell => validateOperationJobBinding path cell operation
  | .error (.notFound _) =>
      .error (.jobCorrelationIntegrity path "guest operation references a missing cell")
  | .error error => .error error

def requireGuestOperationParentForMutation (operation : GuestOperationRecord) :
    Except StateError Unit :=
  validateOperationParentBindingForWrite site store (site.guestOperationPath operation.id) operation

def loadGuestOperation (id : GuestOperationId) : Except StateError GuestOperationRecord :=
  match store.operations.lookup id with
  | none => .error (.notFound (site.guestOperationPath id))
  | some record => do
      validateGuestOperationSchema site id record
      validateOperationParentBinding site store (site.guestOperationPath id) record
      pure record

def listGuestOperations : Except StateError (List GuestOperationRecord) := do
  let records ← readJsonDirectory GuestOperationId.toText (validateGuestOperationSchema site)
    store.operations
  records.forM fun record =>
    validateOperationParentBinding site store (site.guestOperationPath record.id) record
  pure records

def ensureOperationJobKept (record : GuestOperationRecord) : Except StateError Unit :=
  match loadGuestOperation site store record.id with
  | .ok existing =>
      if existing.jobId = record.jobId then .ok ()
      else .error (.jobCorrelationIntegrity (site.guestOperationPath record.id)
        "guest operation job correlation is immutable")
  | .error (.notFound _) => .ok ()
  | .error error => .error error

def saveGuestOperation (record : GuestOperationRecord) : Except StateError Store := do
  validateGuestOperationSchema site record.id record
  ensureOperationJobKept site store record
  requireGuestOperationParentForMutation site store record
  pure { store with operations := store.operations.insert record.id record }

end GuestOperations

section Artifacts

/-- The store with another artifact directory. -/
def putArtifact (cellId : CellId) (operationId : GuestOperationId) (found : ArtifactDirectory) :
    Store :=
  { store with artifacts := store.artifacts.insert (cellId, operationId) found }

def prepareArtifactRoot (cellId : CellId) (operationId : GuestOperationId) : Store :=
  let found := (store.artifacts.lookup (cellId, operationId)).getD ⟨none, none⟩
  store.putArtifact cellId operationId { found with files := some (found.files.getD ∅) }

def filesRoot (cellId : CellId) (operationId : GuestOperationId) : PathBuf :=
  (site.artifactRoot cellId operationId).join "files"

def writeArtifactFile (cellId : CellId) (operationId : GuestOperationId) (index : Nat)
    (bytes : Bytes) : Except StateError (String × Store) :=
  match store.artifacts.lookup (cellId, operationId) with
  | none => .error (.io (site.artifactRoot cellId operationId) notFoundSource)
  | some found =>
      match found.files with
      | none => .error (.io (filesRoot site cellId operationId) notFoundSource)
      | some files =>
          let name := artifactFileName index
          match files.lookup name with
          | some _ => .error (.alreadyExists ((filesRoot site cellId operationId).join name))
          | none =>
              .ok (hostRelativePath cellId operationId name,
                store.putArtifact cellId operationId
                  { found with files := some (files.insert name bytes) })

/-- One manifest entry against the file with its index. -/
def validateArtifactEntry (files : Directory String Bytes) (record : ArtifactRecord)
    (entry : ArtifactEntry) (index : Nat) : Except StateError Unit :=
  let name := artifactFileName index
  let path := (filesRoot site record.cellId record.id).join name
  if entry.hostRelativePath ≠ hostRelativePath record.cellId record.id name then
    .error (.artifactIntegrity ((site.artifactRoot record.cellId record.id).join "manifest.json")
      "manifest path is not operation-bound")
  else
    match files.lookup name with
    | none => .error (.notFound path)
    | some bytes =>
        if bytes.length ≠ entry.size then
          .error (.artifactIntegrity path "file size does not match manifest")
        else if site.sha256 bytes ≠ entry.sha256 then
          .error (.artifactIntegrity path "file hash does not match manifest")
        else .ok ()

def validateArtifactFiles (found : ArtifactDirectory) (record : ArtifactRecord) :
    Except StateError Unit :=
  match found.files with
  | none => .error (.io (filesRoot site record.cellId record.id) notFoundSource)
  | some files =>
      let expected := (List.range record.entries.length).map artifactFileName
      if files.keys.all (· ∈ expected) && expected.all (· ∈ files.keys) then
        record.entries.zipIdx.forM fun (entry, index) =>
          validateArtifactEntry site files record entry index
      else
        .error (.artifactIntegrity (filesRoot site record.cellId record.id)
          "artifact file set does not exactly match manifest")

def openArtifactRoot (cellId : CellId) (operationId : GuestOperationId) :
    Except StateError ArtifactDirectory :=
  match store.artifacts.lookup (cellId, operationId) with
  | none => .error (.io (site.artifactRoot cellId operationId) notFoundSource)
  | some found => .ok found

def manifestPath (cellId : CellId) (operationId : GuestOperationId) : PathBuf :=
  (site.artifactRoot cellId operationId).join "manifest.json"

def ensureArtifactIdentity (cellId : CellId) (operationId : GuestOperationId)
    (record : ArtifactRecord) : Except StateError Unit :=
  if record.id = operationId ∧ record.cellId = cellId then .ok ()
  else .error (.identityMismatch "artifact record" (manifestPath site cellId operationId)
    (cellId.toText ++ "/" ++ operationId.toText))

def ensureDirectArtifactPaths (cellId : CellId) (operationId : GuestOperationId)
    (record : ArtifactRecord) : Except StateError Unit :=
  if record.entries.all (fun entry =>
      isDirectArtifactPath cellId operationId entry.hostRelativePath) then .ok ()
  else .error (.unsafeRuntimePath (manifestPath site cellId operationId))

def ensureNoManifest (cellId : CellId) (operationId : GuestOperationId)
    (found : ArtifactDirectory) : Except StateError Unit :=
  match found.manifest with
  | some _ => .error (.alreadyExists (manifestPath site cellId operationId))
  | none => .ok ()

def saveArtifactNew (cellId : CellId) (operationId : GuestOperationId) (record : ArtifactRecord) :
    Except StateError Store := do
  let found ← openArtifactRoot site store cellId operationId
  validateArtifactSchema (manifestPath site cellId operationId) record
  ensureArtifactIdentity site cellId operationId record
  let operation ← loadGuestOperation site store record.id
  requireGuestOperationParentForMutation site store operation
  validateArtifactJobBinding (manifestPath site cellId operationId) operation record
  ensureDirectArtifactPaths site cellId operationId record
  validateArtifactFiles site found record
  ensureNoManifest site cellId operationId found
  pure (store.putArtifact cellId operationId { found with manifest := some record })

def readManifest (cellId : CellId) (operationId : GuestOperationId) (found : ArtifactDirectory) :
    Except StateError ArtifactRecord :=
  match found.manifest with
  | none => .error (.notFound (manifestPath site cellId operationId))
  | some record => .ok record

def loadArtifact (cellId : CellId) (operationId : GuestOperationId) :
    Except StateError ArtifactRecord := do
  let found ← openArtifactRoot site store cellId operationId
  let record ← readManifest site cellId operationId found
  validateArtifactSchema (manifestPath site cellId operationId) record
  ensureArtifactIdentity site cellId operationId record
  let operation ← loadGuestOperation site store operationId
  validateArtifactJobBinding (manifestPath site cellId operationId) operation record
  validateArtifactFiles site found record
  pure record

def removeArtifactRoot (cellId : CellId) (operationId : GuestOperationId) : Bool × Store :=
  match store.artifacts.lookup (cellId, operationId) with
  | none => (false, store)
  | some _ => (true, { store with artifacts := store.artifacts.erase (cellId, operationId) })

def artifactRootExists (cellId : CellId) (operationId : GuestOperationId) : Bool :=
  (store.artifacts.lookup (cellId, operationId)).isSome

end Artifacts

end Store

end VmCell
