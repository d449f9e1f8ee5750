import VmCell.Engine.Environment
import VmCell.Engine.Ownership
import VmCell.Engine.Recovery

/-! When the engine may perform an effect.

This is the contract between the engine's programs and the invariants of the
state root: what every program does at each of its effects is said here once, by
the record that is on disk at that moment. The programs are shown to keep it, and
every property of whole runs is derived from it.
-/

set_option autoImplicit false
namespace VmCell

open Interaction

section Cells

/-- Two records of one cell: everything that never changes agrees. -/
structure SameCell (old new : CellRecord) : Prop where
  schemaVersion : new.schemaVersion = old.schemaVersion
  id : new.id = old.id
  provider : new.provider = old.provider
  spec : new.spec = old.spec
  image : new.image = old.image
  ownership : new.ownership = old.ownership
  createdAt : new.createdAt = old.createdAt
  expiresAt : new.expiresAt = old.expiresAt
  job : new.job = old.job

/-- The phases of a creation that has not finished. -/
def CellPhase.isProvisioning : CellPhase → Bool
  | .intentRecorded | .overlayCreated | .providerObjectCreated | .providerObjectClaimed => true
  | _ => false

/-- The changes of phase, state and provider object between two writes. -/
inductive CellStep (old new : CellRecord) : Prop where
  | overlay : old.phase = .intentRecorded → old.state = .creating → new.phase = .overlayCreated →
      new.state = .creating → new.providerObject = old.providerObject → CellStep old new
  | created (identity : ProviderObjectIdentity) : old.phase = .overlayCreated →
      old.state = .creating → old.providerObject = none → new.phase = .providerObjectCreated →
      new.state = .creating → new.providerObject = some identity → CellStep old new
  | claimed : old.phase = .providerObjectCreated → new.phase = .providerObjectClaimed →
      new.state = old.state → new.providerObject = old.providerObject → CellStep old new
  | ready : old.phase = .providerObjectClaimed → old.state = .creating → new.phase = .ready →
      new.state = .stopped → new.providerObject = old.providerObject → CellStep old new
  | failed : old.phase.isProvisioning = true → old.state = .creating → new.phase = old.phase →
      new.state = .failed → new.providerObject = old.providerObject → CellStep old new
  | power : old.state = .stopped ∨ old.state = .running → new.phase = .ready →
      new.state = .stopped ∨ new.state = .running → new.providerObject = old.providerObject →
      CellStep old new
  | destroying : old.phase = .ready ∨ old.phase = .destroying → new.phase = .destroying →
      new.state = .destroying → new.providerObject = old.providerObject → CellStep old new
  | destroyingProvisioning :
      old.phase = .providerObjectClaimed ∨ old.phase = .destroyingProvisioning →
      new.phase = .destroyingProvisioning → new.state = .destroying →
      new.providerObject = old.providerObject → CellStep old new
  | destroyed : old.state ≠ .destroyed → old.providerObject.isSome = true →
      new.phase = .destroyed → new.state = .destroyed →
      new.providerObject = old.providerObject → CellStep old new

/-- The first record of a cell, bound to a registered image. -/
structure CellIntended (env : Environment) (i : Pid) (store : Store) (record : CellRecord) :
    Prop where
  absent : store.cells.lookup record.id = none
  owned : env.owner record.id.value = i
  phase : record.phase = .intentRecorded
  state : record.state = .creating
  object : record.providerObject = none
  image : ∃ image variant, store.images.lookup record.spec.image = some image ∧
    image.id = record.spec.image ∧ providerVariant image record.provider = .ok variant ∧
    record.image = .fromVariant image.id image.guestOs variant

def CellWrite (env : Environment) (i : Pid) (store : Store) (record : CellRecord) : Prop :=
  CellIntended env i store record ∨
    ∃ old, store.cells.lookup record.id = some old ∧ SameCell old record ∧ CellStep old record

/-- The snapshot is of the virtual machine that the record on disk owns. An
object that is still to be claimed may carry no marker. -/
def OwnedSnapshot (site : Site) (store : Store) (cellId : CellId) (unclaimed : Prop)
    (vm : ProviderVm) : Prop :=
  ∃ record installation, store.cells.lookup cellId = some record ∧
    store.installation = some installation ∧
    record.ownership.installId = installation.installId ∧
    record.providerObject = some ⟨vm.id, vm.name⟩ ∧
    vm.name = providerObjectName cellId ∧
    pathsEqual site.platform vm.configurationPath
      (site.cellConfigurationPathFor cellId record.provider) = true ∧
    (∃ disk, vm.attachedDisks = [disk] ∧ pathsEqual site.platform disk
      (site.cellOverlayPathFor cellId record.image.diskFormat) = true) ∧
    vm.memoryMib = record.spec.memoryMib ∧
    (vm.ownershipMarker = record.ownership.providerMarker ∨
      unclaimed ∧ vm.ownershipMarker = "")

/-- Whether the action may meet an unclaimed object. -/
def ProviderAction.claims : ProviderAction → Bool
  | .claimVm _ => true
  | _ => false

def ProviderPermitted (site : Site) (store : Store) (authority : ProviderMutationAuthority)
    (action : ProviderAction) : Prop :=
  ∀ vm, action.expected = some vm →
    OwnedSnapshot site store authority.record.id (action.claims = true) vm

end Cells

section GuestOperations

structure SameOperation (old new : GuestOperationRecord) : Prop where
  schemaVersion : new.schemaVersion = old.schemaVersion
  id : new.id = old.id
  cellId : new.cellId = old.cellId
  kind : new.kind = old.kind
  createdAt : new.createdAt = old.createdAt
  jobId : new.jobId = old.jobId

/-- The files and the manifest of an artifact are what the transport returned. -/
def ArtifactComplete (site : Site) (store : Store) (operation : GuestOperationRecord) : Prop :=
  ∃ found files record, store.artifacts.lookup (operation.cellId, operation.id) = some found ∧
    found.files = some files ∧ found.manifest = some record ∧
    record.id = operation.id ∧ record.cellId = operation.cellId ∧
    record.jobId = operation.jobId ∧
    validateArtifactSchema (Store.manifestPath site operation.cellId operation.id) record = .ok () ∧
    Store.validateArtifactFiles site found record = .ok () ∧
    record.entries.map (·.guestPath) = (store.copied operation.id).map (·.1.text) ∧
    ∀ index copy, (store.copied operation.id)[index]? = some copy →
      files.lookup (artifactFileName index) = some copy.2

/-- The changes between two writes of one operation. -/
inductive OperationStep (site : Site) (store : Store) (old new : GuestOperationRecord) :
    Prop where
  | active : old.phase = .intentRecorded ∨ old.phase = .transportActive →
      new.phase = .transportActive → new.artifactPrunedAt = old.artifactPrunedAt →
      OperationStep site store old new
  /-- A failure before the transport was activated; the store refuses it. -/
  | undecided : old.phase = .intentRecorded → new.phase = .intentRecorded →
      new.failure.isSome = true → new.artifactPrunedAt = old.artifactPrunedAt →
      OperationStep site store old new
  | failed : old.phase = .intentRecorded ∨ old.phase = .transportActive →
      new.phase = .failed → new.artifactPrunedAt = old.artifactPrunedAt →
      OperationStep site store old new
  | completed : old.phase = .transportActive → new.phase = .completed →
      new.artifactId = none → new.artifactPrunedAt = old.artifactPrunedAt →
      OperationStep site store old new
  | committed : old.phase = .transportActive → new.phase = .artifactCommitted →
      new.artifactId = some old.id → new.artifactPrunedAt = old.artifactPrunedAt →
      ArtifactComplete site store old → OperationStep site store old new
  | finished (time : DateTime) : old.phase = .artifactCommitted →
      new = recoveredOperation old time → OperationStep site store old new
  | pruned (time : DateTime) : old.phase = .completed → old.artifactId = some old.id →
      old.artifactPrunedAt = none → new = tombstoned old time → OperationStep site store old new

/-- Every operation of the cell has ended. -/
def Quiescent (store : Store) (cellId : CellId) : Prop :=
  ∀ id operation, store.operations.lookup id = some operation → operation.cellId = cellId →
    operation.phase.isTerminal = true

def OperationWrite (site : Site) (store : Store) (record : GuestOperationRecord) : Prop :=
  (store.operations.lookup record.id = none ∧ record.phase = .intentRecorded ∧
      Quiescent store record.cellId) ∨
    ∃ old, store.operations.lookup record.id = some old ∧ SameOperation old record ∧
      OperationStep site store old record

/-- The operation is durably active. -/
def OperationActive (store : Store) (cellId : CellId) (operationId : GuestOperationId) : Prop :=
  ∃ operation, store.operations.lookup operationId = some operation ∧
    operation.cellId = cellId ∧ operation.phase = .transportActive

/-- The operation carries a tombstone. -/
def OperationPruned (store : Store) (cellId : CellId) (operationId : GuestOperationId) : Prop :=
  ∃ operation, store.operations.lookup operationId = some operation ∧
    operation.cellId = cellId ∧ operation.artifactPrunedAt.isSome = true

end GuestOperations

section Rules
variable (env : Environment) (i : Pid)

def MutationPermitted (store : Store) : Mutation → Prop
  | .installation _ | .saveImageNew _ => True
  | .removeImageRecord id => ∀ cellId cell, store.cells.lookup cellId = some cell →
      cell.image.imageId = id → cell.state = .destroyed ∧ cell.phase = .destroyed
  | .saveCell record => CellWrite env i store record
  | .saveGuestOperation record => OperationWrite env.site store record
  | .prepareArtifactRoot cellId operationId | .writeArtifactFile cellId operationId _ _
  | .saveArtifactNew cellId operationId _ => OperationActive store cellId operationId
  | .removeArtifactRoot cellId operationId => OperationPruned store cellId operationId
  | .prepareCellRuntimeFor cellId _ _ => ∃ record, store.cells.lookup cellId = some record ∧
      record.phase = .intentRecorded
  | .removeCellRuntime cellId _ => ∃ record, store.cells.lookup cellId = some record ∧
      record.providerObject.isSome = true ∧ record.state ≠ .destroyed

def Allowed : Op → Store → Prop
  | .query _, _ | .observe _, _ | .newUuid, _ => True
  | .mutate m, store => MutationPermitted env i store m
  | .provider authority action, store => ProviderPermitted env.site store authority action
  | .transport authority operationId _, store =>
      OperationActive store authority.record.id operationId

/-- Effects that need no lock. -/
def Free : Op → Prop
  | .query _ | .observe _ | .newUuid => True
  | _ => False

/-- A process relies on the cells it alone may create. -/
def Rely (store next : Store) : Prop :=
  ∀ cellId : CellId, env.owner cellId.value = i → store.cells.lookup cellId = none →
    next.cells.lookup cellId = none

end Rules

end VmCell
