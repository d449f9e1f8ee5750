import VmCell.Engine.Guest

/-! Guest operations after the fact: inspection, reconciliation of interrupted
operations, and pruning of expired artifacts. -/

set_option autoImplicit false
namespace VmCell

open Interaction

section Inspection

def refusePruned (site : Site) (operation : GuestOperationRecord) : Except EngineError Unit :=
  if operation.artifactPrunedAt.isSome then
    .error (.state (.notFound (site.artifactRoot operation.cellId operation.id)))
  else .ok ()

def inspectArtifact (site : Site) (cellId : CellId) (operationId : GuestOperationId) :
    Engine ArtifactRecord := do
  let operation : GuestOperationRecord ← query (.loadGuestOperation operationId)
  Fallible.lift (require (operation.cellId = cellId)
    (.integrity "artifact operation is bound to a different cell"))
  Fallible.lift (refusePruned site operation)
  query (.loadArtifact cellId operationId)

end Inspection

section Reconciliation

inductive GuestOperationRecoveryDisposition where
  | alreadyTerminal
  | interruptedBeforeTransport
  | artifactCompletionRecovered
  | recoveryRequired
  deriving DecidableEq

inductive RequiredAction where
  | none
  | retryLifecycle
  | recoveryRequired
  | manualReview
  deriving DecidableEq

def GuestOperationRecoveryDisposition.requiredAction :
    GuestOperationRecoveryDisposition → RequiredAction
  | .recoveryRequired => .manualReview
  | _ => .none

structure GuestOperationRecoveryReport where
  operation : GuestOperationRecord
  disposition : GuestOperationRecoveryDisposition
  requiredAction : RequiredAction
  changed : Bool

def recoveryReport (operation : GuestOperationRecord)
    (disposition : GuestOperationRecoveryDisposition) (changed : Bool) :
    GuestOperationRecoveryReport :=
  ⟨operation, disposition, disposition.requiredAction, changed⟩

def requireOwnArtifact (operation : GuestOperationRecord) : Except EngineError Unit :=
  match operation.artifactId with
  | none => .error (.integrity "artifact-committed operation is missing its artifact id")
  | some artifactId =>
      require (artifactId = operation.id) (.integrity "artifact id does not match its operation id")

def interruptedOperation (operation : GuestOperationRecord) (time : DateTime) :
    GuestOperationRecord :=
  { operation with
    phase := .failed
    failure := some .interrupted
    updatedAt := time
    completedAt := some time }

def recoveredOperation (operation : GuestOperationRecord) (time : DateTime) :
    GuestOperationRecord :=
  { operation with
    phase := .completed
    updatedAt := time
    completedAt := some time }

/-- The operation as it is found under the lock. -/
def reconcileLoaded (operation : GuestOperationRecord) : Engine GuestOperationRecoveryReport :=
  match operation.phase with
  | .completed | .failed => pure (recoveryReport operation .alreadyTerminal false)
  | .transportActive => pure (recoveryReport operation .recoveryRequired false)
  | .intentRecorded => do
      let time ← now
      mutate (.saveGuestOperation (interruptedOperation operation time))
      pure (recoveryReport (interruptedOperation operation time) .interruptedBeforeTransport true)
  | .artifactCommitted => do
      Fallible.lift (requireOwnArtifact operation)
      let _ ← query (.loadArtifact operation.cellId operation.id)
      let time ← now
      mutate (.saveGuestOperation (recoveredOperation operation time))
      pure (recoveryReport (recoveredOperation operation time) .artifactCompletionRecovered true)

def reconcileGuestOperationLocked (operationId : GuestOperationId) :
    Engine GuestOperationRecoveryReport := do
  let operation : GuestOperationRecord ← query (.loadGuestOperation operationId)
  query (.requireGuestOperationParent operation)
  reconcileLoaded operation

def reconcileGuestOperation (operationId : GuestOperationId) :
    Engine GuestOperationRecoveryReport := do
  let operation : GuestOperationRecord ← query (.loadGuestOperation operationId)
  query (.requireGuestOperationParent operation)
  match operation.phase with
  | .completed | .failed => pure (recoveryReport operation .alreadyTerminal false)
  | .transportActive => pure (recoveryReport operation .recoveryRequired false)
  | .intentRecorded | .artifactCommitted =>
      mutationLocked (reconcileGuestOperationLocked operationId)

end Reconciliation

section Pruning

def maxArtifactRetentionSeconds : Nat := 31536000
def maxArtifactPruneBatch : Nat := 256

structure ArtifactPruneRequest where
  olderThan : Duration
  maxArtifacts : Nat
  dryRun : Bool

inductive ArtifactPruneDisposition where
  | eligible
  | pruned
  | recoveryCompleted
  deriving DecidableEq

structure ArtifactPruneEntry where
  cellId : CellId
  operationId : GuestOperationId
  bytes : Nat
  disposition : ArtifactPruneDisposition
  deriving DecidableEq

structure ArtifactPruneReport where
  evaluatedAt : DateTime
  cutoff : DateTime
  dryRun : Bool
  entries : List ArtifactPruneEntry

def validatePruneRequest (request : ArtifactPruneRequest) : Except EngineError Unit := do
  require (request.maxArtifacts ≠ 0 && request.maxArtifacts ≤ maxArtifactPruneBatch)
    (.invalidCellRequest ("artifact prune batch must be between 1 and " ++
      toString maxArtifactPruneBatch))
  require (request.olderThan / nanosPerSecond ≤ maxArtifactRetentionSeconds)
    (.invalidCellRequest ("artifact retention must not exceed " ++
      toString maxArtifactRetentionSeconds ++ " seconds"))

/-- `sort_by_key` on the time of the last update and the identifier's text. -/
def pruneOrder (first second : GuestOperationRecord) : Prop :=
  first.updatedAt < second.updatedAt ∨
    first.updatedAt = second.updatedAt ∧ first.id.toText ≤ second.id.toText

instance : DecidableRel pruneOrder := fun first second =>
  inferInstanceAs (Decidable (first.updatedAt < second.updatedAt ∨
    first.updatedAt = second.updatedAt ∧ first.id.toText ≤ second.id.toText))

def isRecovery (operation : GuestOperationRecord) : Bool := operation.artifactPrunedAt.isSome

def isExpiredArtifact (cutoff : DateTime) (operation : GuestOperationRecord) : Bool :=
  operation.phase = .completed && operation.artifactId = some operation.id &&
    operation.artifactPrunedAt.isNone && operation.completedAt.any (· ≤ cutoff)

def artifactBytes (artifact : ArtifactRecord) : Except EngineError Nat :=
  match checkedTotal (artifact.entries.map (·.size)) with
  | none => .error (.integrity "artifact size overflow")
  | some total => .ok total

def pruneBytes (operation : GuestOperationRecord) : Engine Nat := do
  let artifactExists : Bool ← query (.artifactRootExists operation.cellId operation.id)
  if isRecovery operation then pure 0
  else if artifactExists then do
    let artifact : ArtifactRecord ← query (.loadArtifact operation.cellId operation.id)
    Fallible.lift (artifactBytes artifact)
  else Fallible.fail (.integrity "completed artifact operation is missing its artifact root")

def tombstoned (operation : GuestOperationRecord) (evaluatedAt : DateTime) :
    GuestOperationRecord :=
  { operation with updatedAt := evaluatedAt, artifactPrunedAt := some evaluatedAt }

/-- The tombstone is written before the directory goes. -/
def pruneArtifact (evaluatedAt : DateTime) (operation : GuestOperationRecord) :
    Engine ArtifactPruneDisposition :=
  if isRecovery operation then do
    let _ ← mutate (.removeArtifactRoot operation.cellId operation.id)
    pure .recoveryCompleted
  else do
    mutate (.saveGuestOperation (tombstoned operation evaluatedAt))
    let _ ← mutate (.removeArtifactRoot operation.cellId operation.id)
    pure .pruned

def pruneDisposition (dryRun : Bool) (evaluatedAt : DateTime) (operation : GuestOperationRecord) :
    Engine ArtifactPruneDisposition :=
  if dryRun then pure .eligible else pruneArtifact evaluatedAt operation

def pruneOperation (dryRun : Bool) (evaluatedAt : DateTime) (operation : GuestOperationRecord) :
    Engine ArtifactPruneEntry := do
  query (.requireGuestOperationParent operation)
  let bytes ← pruneBytes operation
  let disposition ← pruneDisposition dryRun evaluatedAt operation
  pure ⟨operation.cellId, operation.id, bytes, disposition⟩

def pruneOperations (request : ArtifactPruneRequest) (evaluatedAt cutoff : DateTime) :
    List GuestOperationRecord → List ArtifactPruneEntry → Engine (List ArtifactPruneEntry)
  | [], entries => pure entries
  | operation :: rest, entries =>
      if (isRecovery operation || isExpiredArtifact cutoff operation) = false then
        pruneOperations request evaluatedAt cutoff rest entries
      else if entries.length = request.maxArtifacts then pure entries
      else do
        let entry ← pruneOperation request.dryRun evaluatedAt operation
        pruneOperations request evaluatedAt cutoff rest (entries ++ [entry])

def pruneArtifactsLocked (request : ArtifactPruneRequest) (evaluatedAt cutoff : DateTime) :
    Engine ArtifactPruneReport := do
  let operations : List GuestOperationRecord ← query .listGuestOperations
  let entries ← pruneOperations request evaluatedAt cutoff (operations.insertionSort pruneOrder) []
  pure ⟨evaluatedAt, cutoff, request.dryRun, entries⟩

def pruneArtifacts (request : ArtifactPruneRequest) : Engine ArtifactPruneReport := do
  Fallible.lift (validatePruneRequest request)
  let evaluatedAt ← now
  mutationLocked (pruneArtifactsLocked request evaluatedAt (evaluatedAt - request.olderThan))

end Pruning

end VmCell
