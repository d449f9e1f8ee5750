import VmCell.State.Store

/-! Cell runtime directories, and the check of a whole state root. -/

set_option autoImplicit false
namespace VmCell

/-- Proof that a runtime directory was pinned: the cell and its two paths. -/
structure CellRuntimeGuard where
  cellId : CellId
  configurationPath : PathBuf
  overlayPath : PathBuf
  deriving DecidableEq

namespace Store
variable (site : Site) (store : Store)

/-- The path of an entry from the cell's runtime root. -/
def runtimeEntry (cellId : CellId) (path : PathBuf) : List String :=
  path.components.drop (site.cellRuntimeRoot cellId).components.length

/-- Both paths are direct children of the cell's runtime root. -/
def ensureRuntimeChildren (cellId : CellId) (configurationPath overlayPath : PathBuf) :
    Except StateError Unit :=
  if configurationPath.parent = some (site.cellRuntimeRoot cellId) ∧
      overlayPath.parent = some (site.cellRuntimeRoot cellId) then .ok ()
  else .error (.unsafeRuntimePath (site.cellRuntimeRoot cellId))

/-- Opening something that is no directory fails at once on Unix and after
reading its attributes on Windows. -/
def notDirectory (path : PathBuf) : StateError :=
  match site.platform with
  | .unix => .io path notDirectorySource
  | .windows => .unsafeRuntimePath path

def prepareCellRuntimeFor (cellId : CellId) (configurationPath overlayPath : PathBuf) :
    Except StateError (CellRuntimeGuard × Store) := do
  ensureRuntimeChildren site cellId configurationPath overlayPath
  let tree := (store.runtime.lookup cellId).getD ∅
  match tree.lookup (runtimeEntry site cellId configurationPath) with
  | some .file => .error (.unsafeRuntimePath configurationPath)
  | _ =>
      let tree := tree.insert (runtimeEntry site cellId configurationPath) .directory
      pure (⟨cellId, configurationPath, overlayPath⟩,
        { store with runtime := store.runtime.insert cellId tree })

def openConfiguration (cellId : CellId) (configurationPath : PathBuf) : Except StateError Unit :=
  match store.runtime.lookup cellId with
  | none => .error (.io (site.cellRuntimeRoot cellId) notFoundSource)
  | some tree =>
      match tree.lookup (runtimeEntry site cellId configurationPath) with
      | none => .error (.io configurationPath notFoundSource)
      | some .file => .error (notDirectory site configurationPath)
      | some .directory => .ok ()

def pinCellRuntimeFor (cellId : CellId) (configurationPath overlayPath : PathBuf) :
    Except StateError CellRuntimeGuard := do
  ensureRuntimeChildren site cellId configurationPath overlayPath
  openConfiguration site store cellId configurationPath
  pure ⟨cellId, configurationPath, overlayPath⟩

def runtimeEntryExists (cellId : CellId) : Bool := (store.runtime.lookup cellId).isSome

def ensureGuardOf (cellId : CellId) (guard : CellRuntimeGuard) : Except StateError Unit :=
  if guard.cellId = cellId then .ok ()
  else .error (.unsafeRuntimePath (site.cellRuntimeRoot cellId))

def removeCellRuntime (cellId : CellId) (guard : CellRuntimeGuard) : Except StateError Store := do
  ensureGuardOf site cellId guard
  openConfiguration site store cellId guard.configurationPath
  pure { store with runtime := store.runtime.erase cellId }

section Compatibility

inductive CompatibilityStatus where
  | empty
  | compatible
  deriving DecidableEq

structure CompatibilityCounts where
  installations : Nat
  images : Nat
  cells : Nat
  guestOperations : Nat
  artifacts : Nat
  deriving DecidableEq

structure CompatibilityReport where
  durableStateFormatVersion : Nat
  status : CompatibilityStatus
  counts : CompatibilityCounts
  deriving DecidableEq

def asUpgradeRequired {A : Type} : Except StateError A → Except StateError A
  | .error (.unsupportedSchema kind _ expected actual) =>
      .error (.upgradeRequired kind expected actual)
  | other => other

def validateJobOperationBindings (cells : List CellRecord)
    (operations : List GuestOperationRecord) : Except StateError Unit :=
  operations.forM fun operation =>
    match cells.reverse.find? (fun cell => cell.id = operation.cellId) with
    | some cell => validateOperationJobBinding (site.guestOperationPath operation.id) cell operation
    | none =>
        if operation.jobId.isNone then .ok ()
        else .error (.jobCorrelationIntegrity (site.guestOperationPath operation.id)
          "guest operation references a missing cell")

/-- The unpruned artifact of an operation, when it has one. -/
def compatibleArtifact (operation : GuestOperationRecord) :
    Except StateError (Option ArtifactRecord) :=
  if operation.artifactId = some operation.id ∧ operation.artifactPrunedAt.isNone then do
    let artifact ← asUpgradeRequired (loadArtifact site store operation.cellId operation.id)
    asUpgradeRequired (validateArtifactJobBinding
      (manifestPath site operation.cellId operation.id) operation artifact)
    pure (some artifact)
  else .ok none

def countInstallations : Except StateError Nat :=
  match store.installation with
  | none => .ok 0
  | some _ => (asUpgradeRequired (loadInstallation site store)).map fun _ => 1

/-- Validates every active durable record and changes nothing. -/
def checkCompatibility : Except StateError CompatibilityReport := do
  let installations ← countInstallations site store
  let images ← asUpgradeRequired (listImages site store)
  let cells ← asUpgradeRequired (listCells site store)
  asUpgradeRequired (validateUniqueCellJobIdsForPath (site.root.join "cells") cells)
  let operations ← asUpgradeRequired (listGuestOperations site store)
  asUpgradeRequired (validateJobOperationBindings site cells operations)
  let artifacts ← operations.mapM (compatibleArtifact site store)
  let artifacts := artifacts.filterMap id
  let versions := cells.map (·.schemaVersion) ++ operations.map (·.schemaVersion)
  let counts : CompatibilityCounts :=
    ⟨installations, images.length, cells.length, operations.length, artifacts.length⟩
  pure {
    durableStateFormatVersion :=
      ((if versions = [] then [1] else versions) ++ artifacts.map (·.schemaVersion)).foldl max 0
    status := if counts = ⟨0, 0, 0, 0, 0⟩ then .empty else .compatible
    counts := counts }

end Compatibility

end Store

end VmCell
