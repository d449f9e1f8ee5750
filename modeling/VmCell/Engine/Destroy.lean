import VmCell.Engine.Lifecycle

/-! Reconciliation of a record with the provider, destruction of a cell, and the
collection of expired cells. -/

set_option autoImplicit false
namespace VmCell

open Interaction

section Reconciliation

inductive ReconciliationStatus where
  | exactOwned
  | manifestOnly
  | providerMissing
  | unprovenProviderObject (id : String)
  | ownershipMismatch (reasons : List String)
  | stateDrift (manifestState : CellState) (providerState : ProviderPowerState)
  | provisioning (phase : CellPhase)
  | destroyed
  deriving DecidableEq

/-- The debug rendering that a tombstone that does not reconcile reports. -/
def ReconciliationStatus.debug : ReconciliationStatus → String
  | .exactOwned => "ExactOwned"
  | .manifestOnly => "ManifestOnly"
  | .providerMissing => "ProviderMissing"
  | .unprovenProviderObject id => "UnprovenProviderObject \x7b id: " ++ quoted id ++ " \x7d"
  | .ownershipMismatch reasons =>
      "OwnershipMismatch \x7b reasons: [" ++ String.intercalate ", " (reasons.map quoted) ++
        "] \x7d"
  | .stateDrift manifestState providerState =>
      "StateDrift \x7b manifest_state: " ++ manifestState.debug ++ ", provider_state: " ++
        providerState.debug ++ " \x7d"
  | .provisioning phase => "Provisioning \x7b phase: " ++ phase.debug ++ " \x7d"
  | .destroyed => "Destroyed"

structure Reconciliation where
  vm : Option ProviderVm
  status : ReconciliationStatus
  deriving DecidableEq

def powerStateMatches : CellState → ProviderPowerState → Bool
  | .stopped, .off | .running, .running | .creating, _ | .destroying, _ | .failed, _ => true
  | _, _ => false

/-- The classification of a snapshot found under the recorded id. -/
def classifyVm (platform : Platform) (record : CellRecord) (vm : ProviderVm) :
    ReconciliationStatus :=
  let reasons := ownershipDrift platform record vm
  if (record.phase = .providerObjectCreated ∨ record.phase = .providerObjectClaimed) ∧
      proveCreationIdentity platform record vm (record.phase = .providerObjectClaimed ∨
        vm.ownershipMarker = record.ownership.providerMarker) = .ok () then
    .provisioning record.phase
  else if record.phase = .destroyingProvisioning ∧
      proveDestroyIdentity platform record vm = .ok () then .provisioning record.phase
  else if reasons ≠ [] then .ownershipMismatch reasons
  else if powerStateMatches record.state vm.powerState then .exactOwned
  else .stateDrift record.state vm.powerState

variable (site : Site) (provider : String)

def inspectRecorded (record : CellRecord) : Engine (Option ProviderVm) :=
  match record.providerObject with
  | none => pure none
  | some identity => inspectVm (.id identity.id)

/-- A tombstone reconciles when neither the object nor its name nor its runtime
is there any more. -/
def reconcileTombstone (record : CellRecord) : Engine Reconciliation := do
  let byId ← inspectRecorded record
  match byId with
  | some vm => pure ⟨some vm, .ownershipMismatch
      ["provider object exists after the cell was tombstoned"]⟩
  | none => do
      let byName ← inspectVm (.name record.ownership.providerObjectName)
      match byName with
      | some vm => pure ⟨some vm, .ownershipMismatch
          ["provider name is occupied after the cell was tombstoned"]⟩
      | none => do
          let entry : Bool ← query (.runtimeEntryExists record.id)
          if entry then pure ⟨none, .ownershipMismatch
            ["runtime entry exists after the cell was tombstoned"]⟩
          else pure ⟨none, .destroyed⟩

def reconcileUnrecorded (record : CellRecord) : Engine Reconciliation := do
  let found ← inspectVm (.name record.ownership.providerObjectName)
  match found with
  | some vm => pure ⟨some vm, .unprovenProviderObject vm.id⟩
  | none => pure ⟨none, .manifestOnly⟩

def reconcileRecorded (record : CellRecord) (identity : ProviderObjectIdentity) :
    Engine Reconciliation := do
  let found ← inspectVm (.id identity.id)
  match found with
  | some vm => pure ⟨some vm, classifyVm site.platform record vm⟩
  | none => pure ⟨none, .providerMissing⟩

def reconcileRecord (record : CellRecord) : Engine Reconciliation := do
  let owned : Except EngineError Unit ←
    Fallible.attempt (validateLocalOwnership site provider record)
  match owned with
  | .error error => pure ⟨none, .ownershipMismatch [error.display]⟩
  | .ok () =>
      if record.state = .destroyed then reconcileTombstone record
      else
        match record.providerObject with
        | none => reconcileUnrecorded record
        | some identity => reconcileRecorded site record identity

structure CellInspection where
  cell : CellRecord
  reconciliation : Reconciliation

def inspectCell (cellId : CellId) : Engine CellInspection := do
  let record : CellRecord ← query (.loadCell cellId)
  let reconciliation ← reconcileRecord site provider record
  pure ⟨record, reconciliation⟩

end Reconciliation

section Destruction
variable (site : Site) (provider : String)

def confirmDestroyed (record : CellRecord) : Engine OperationReport := do
  let reconciliation ← reconcileRecord site provider record
  if reconciliation.status = .destroyed then pure (operationReport record false)
  else Fallible.fail (.providerDrift
    ("destroyed tombstone does not reconcile: " ++ reconciliation.status.debug))

/-- A cell without a recorded provider id is never destroyed. -/
def refuseUnrecorded {A : Type} (record : CellRecord) : Engine A := do
  let found ← inspectVm (.name record.ownership.providerObjectName)
  match found with
  | some vm => Fallible.fail (.ownershipNotProven
      ("provider object " ++ vm.id ++ " exists but its id was never recorded"))
  | none => Fallible.fail (.ownershipNotProven
      "provider id was never durably recorded; pre-id runtime remains quarantined")

/-- A proven cell about to be destroyed. -/
structure DestroyProof where
  record : CellRecord
  vm : ProviderVm
  provisioning : Bool

/-- Each phase calls for its own proof; an unclaimed object is claimed first. -/
def proveForDestroy (authority : ProviderMutationAuthority) (vm : ProviderVm) :
    Engine DestroyProof :=
  let record := authority.record
  match record.phase with
  | .providerObjectCreated => do
      Fallible.lift (proveCreationIdentity site.platform record vm false)
      let claimed : ProviderVm ← callProvider authority
        (.claimVm ⟨vm, record.ownership.providerMarker⟩)
      Fallible.lift (proveCreationIdentity site.platform record claimed true)
      let record ← savePhase record .providerObjectClaimed
      pure ⟨record, claimed, true⟩
  | .providerObjectClaimed => do
      Fallible.lift (proveCreationIdentity site.platform record vm true)
      pure ⟨record, vm, true⟩
  | .destroyingProvisioning => do
      Fallible.lift (proveDestroyIdentity site.platform record vm)
      pure ⟨record, vm, true⟩
  | .ready | .destroying => do
      Fallible.lift (proveOwnership site.platform record vm)
      pure ⟨record, vm, false⟩
  | phase => Fallible.fail (.ownershipNotProven
      ("provider id is incompatible with persisted phase " ++ phase.debug))

def saveDestroying (proof : DestroyProof) : Engine CellRecord :=
  savePhase { proof.record with state := .destroying }
    (if proof.provisioning then .destroyingProvisioning else .destroying)

/-- Stops the object and proves it again. -/
def stopForDestroy (authority : ProviderMutationAuthority) (vm : ProviderVm) :
    Engine ProviderVm :=
  if vm.powerState = .off then pure vm
  else do
    validateLocalOwnershipAgainst site provider authority.record authority.installation
    let _ ← callProvider authority (.stopVm vm)
    let found ← inspectVm (.id vm.id)
    let stopped ← Fallible.lift (presentVm found
      (.providerDrift "provider object disappeared while stopping"))
    Fallible.lift (proveDestroyIdentity site.platform authority.record stopped)
    Fallible.lift (require (stopped.powerState = .off)
      (.unexpectedPowerState stopped.powerState))
    pure stopped

def removeProven (authority : ProviderMutationAuthority) (vm : ProviderVm) : Engine Unit := do
  validateLocalOwnershipAgainst site provider authority.record authority.installation
  Fallible.lift (proveDestroyIdentity site.platform authority.record vm)
  let _ ← callProvider authority (.removeVm vm)
  let byId ← inspectVm (.id vm.id)
  Fallible.lift (require byId.isNone (.providerDrift "provider object still exists after remove"))
  let byName ← inspectVm (.name authority.record.ownership.providerObjectName)
  Fallible.lift (require byName.isNone (.ownershipNotProven
    "provider name became occupied after removing the recorded id"))

def destroyPresent (record : CellRecord) (installation : InstallationRecord) (vm : ProviderVm) :
    Engine CellRecord := do
  let runtime : CellRuntimeGuard ← query (.pinCellRuntimeFor record.id
    record.ownership.configurationPath record.ownership.overlayPath)
  let proof ← proveForDestroy site ⟨record, installation, runtime⟩ vm
  let record ← saveDestroying proof
  let vm ← stopForDestroy site provider ⟨record, installation, runtime⟩ proof.vm
  removeProven site provider ⟨record, installation, runtime⟩ vm
  validateLocalOwnershipAgainst site provider record installation
  mutate (.removeCellRuntime record.id runtime)
  pure record

def destroyAbsent (record : CellRecord) (installation : InstallationRecord) :
    Engine CellRecord := do
  let byName ← inspectVm (.name record.ownership.providerObjectName)
  Fallible.lift (require byName.isNone (.ownershipNotProven
    "recorded provider id is absent but the name is occupied"))
  let entry : Bool ← query (.runtimeEntryExists record.id)
  if entry then do
    let runtime : CellRuntimeGuard ← query (.pinCellRuntimeFor record.id
      record.ownership.configurationPath record.ownership.overlayPath)
    validateLocalOwnershipAgainst site provider record installation
    mutate (.removeCellRuntime record.id runtime)
    pure record
  else pure record

def finishDestroy (record : CellRecord) (installation : InstallationRecord) :
    Engine OperationReport := do
  validateLocalOwnershipAgainst site provider record installation
  let record ← savePhase { record with state := .destroyed } .destroyed
  pure (operationReport record true)

def destroyFound (record : CellRecord) (installation : InstallationRecord) :
    Option ProviderVm → Engine CellRecord
  | some vm => destroyPresent site provider record installation vm
  | none => destroyAbsent site provider record installation

def destroyRecorded (record : CellRecord) (installation : InstallationRecord)
    (identity : ProviderObjectIdentity) : Engine OperationReport := do
  let found ← inspectVm (.id identity.id)
  let record ← destroyFound site provider record installation found
  finishDestroy site provider record installation

def destroyLive (record : CellRecord) : Engine OperationReport := do
  let installation : InstallationRecord ← query .acquireInstallationAuthority
  validateLocalOwnershipAgainst site provider record installation
  match record.providerObject with
  | none => refuseUnrecorded record
  | some identity => destroyRecorded site provider record installation identity

def destroyCellLocked (cellId : CellId) : Engine OperationReport := do
  let record : CellRecord ← query (.loadCell cellId)
  if record.state = .destroyed then confirmDestroyed site provider record
  else destroyLive site provider record

def destroyCell (cellId : CellId) : Engine OperationReport := do
  requireProvider provider
  mutationLocked (destroyCellLocked site provider cellId)

/-- An operation of the cell that has not ended. -/
def hasOpenOperation (operations : List GuestOperationRecord) (cellId : CellId) : Bool :=
  operations.any fun operation => operation.cellId = cellId && !operation.phase.isTerminal

def destroyCellForRunLocked (cellId : CellId) : Engine OperationReport := do
  let operations : List GuestOperationRecord ← query .listGuestOperations
  Fallible.lift (require (!hasOpenOperation operations cellId) (.integrity
    "automatic run cleanup is blocked by a nonterminal guest operation"))
  destroyCellLocked site provider cellId

def destroyCellForRun (cellId : CellId) : Engine OperationReport := do
  requireProvider provider
  mutationLocked (destroyCellForRunLocked site provider cellId)

end Destruction

section Collection

inductive GcDisposition where
  | noTtl
  | notExpired
  | inFlightGuestOperation
  | destroyed
  | alreadyDestroyed
  | ownershipMismatch
  | failed
  deriving DecidableEq

structure GcEntry where
  cellId : CellId
  expiresAt : Option DateTime
  disposition : GcDisposition
  deriving DecidableEq

structure GcReport where
  evaluatedAt : DateTime
  entries : List GcEntry
  deriving DecidableEq

def destroyDisposition : Except EngineError OperationReport → GcDisposition
  | .ok report => if report.changed then .destroyed else .alreadyDestroyed
  | .error (.ownershipNotProven _) | .error (.providerDrift _) | .error (.unexpectedPowerState _) =>
      .ownershipMismatch
  | .error _ => .failed

variable (site : Site) (provider : String) (evaluatedAt : DateTime)
  (operations : List GuestOperationRecord)

def gcCell (record : CellRecord) : Engine GcDisposition :=
  match record.expiresAt with
  | none => pure .noTtl
  | some expiresAt =>
      if expiresAt > evaluatedAt then pure .notExpired
      else if hasOpenOperation operations record.id then pure .inFlightGuestOperation
      else do
        let result : Except EngineError OperationReport ←
          Fallible.attempt (destroyCellLocked site provider record.id)
        pure (destroyDisposition result)

def gcCells : List CellRecord → Engine (List GcEntry)
  | [] => pure []
  | record :: rest =>
      if record.provider ≠ provider then gcCells rest
      else do
        let disposition ← gcCell site provider evaluatedAt operations record
        let entries ← gcCells rest
        pure (⟨record.id, record.expiresAt, disposition⟩ :: entries)

def gcExpiredLocked : Engine GcReport := do
  let operations : List GuestOperationRecord ← query .listGuestOperations
  let cells : List CellRecord ← query .listCells
  let entries ← gcCells site provider evaluatedAt operations cells
  pure ⟨evaluatedAt, entries⟩

def gcExpiredAt : Engine GcReport := do
  requireProvider provider
  mutationLocked (gcExpiredLocked site provider evaluatedAt)

def gcExpired : Engine GcReport := do
  let evaluatedAt ← now
  gcExpiredAt site provider evaluatedAt

end Collection

end VmCell
