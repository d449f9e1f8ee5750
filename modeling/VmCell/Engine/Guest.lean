import VmCell.Engine.Destroy

/-! Guest operations: the state machine that runs one, the four kinds of action,
reconciliation after an interruption, and the pruning of artifacts. -/

set_option autoImplicit false
namespace VmCell

open Interaction

section Requests

def validateReadinessPolicy (policy : ReadinessPolicy) : Except EngineError Unit :=
  require (policy.timeout ≠ 0 && policy.timeout ≤ maxActionTimeoutSeconds * nanosPerSecond &&
    policy.pollInterval ≤ policy.timeout)
    (.invalidCellRequest "readiness timeout/poll interval is outside the supported bounds")

def validateGuestTimeoutAndSize (timeout : Duration) (maxBytes : Nat) :
    Except EngineError Unit := do
  require (timeout ≠ 0 && timeout ≤ maxActionTimeoutSeconds * nanosPerSecond)
    (.invalidCellRequest "guest copy timeout is outside the supported bounds")
  require (maxBytes ≠ 0 && maxBytes ≤ maxCopyBytes)
    (.invalidCellRequest ("guest copy size must be between 1 and " ++ toString maxCopyBytes ++
      " bytes"))

def validateGuestCommandResult (command : GuestCommand) (result : GuestCommandResult) :
    Except EngineError Unit :=
  require (result.encoding = "utf-8" && result.stdoutBytes = result.stdout.utf8ByteSize &&
    result.stderrBytes = result.stderr.utf8ByteSize &&
    min (result.stdout.utf8ByteSize + result.stderr.utf8ByteSize) (2 ^ 64 - 1) ≤
      command.maxOutputBytes && !result.truncated)
    (.guest .invalidResponse)

def guestDiskMatches (record : CellRecord) (expected : ProviderVm) : Bool :=
  match expected.attachedDisks with
  | [disk] => pathIdentityEqual disk record.ownership.overlayPath
  | _ => false

/-- `GuestActionAuthority::new`: the snapshot against the record once more. -/
def GuestActionAuthority.new (record : CellRecord) (expected : ProviderVm)
    (installation : InstallationRecord) (runtime : CellRuntimeGuard) :
    Except EngineError GuestActionAuthority :=
  match record.providerObject with
  | none => .error (.guest .ownershipChanged)
  | some identity =>
      if record.ownership.installId = installation.installId ∧ record.id = runtime.cellId ∧
          isLocalProvider record.provider ∧ expected.id = identity.id ∧
          expected.name = record.ownership.providerObjectName ∧
          expected.ownershipMarker = record.ownership.providerMarker ∧
          pathIdentityEqual expected.configurationPath record.ownership.configurationPath ∧
          guestDiskMatches record expected ∧
          expected.networkAdapterCount = 0 ∧ expected.cpuCount = record.spec.cpuCount ∧
          expected.memoryMib = record.spec.memoryMib ∧ expected.powerState = .running then
        .ok ⟨record, expected, installation, runtime⟩
      else .error (.guest .ownershipChanged)

end Requests

section Readiness

def readinessError : GuestReadiness → GuestIoError
  | .authenticationFailed => .authenticationFailed
  | .sessionFailed => .sessionFailed
  | _ => .guestNotReady

/-- The polling loop, cut off after the given number of rounds. -/
def pollGuestReady (authority : GuestActionAuthority) (operationId : GuestOperationId)
    (policy : ReadinessPolicy) (deadline : Nat) : Nat → GuestReadiness → Engine Unit
  | 0, _ => Fallible.hang
  | rounds + 1, last => do
      let instant : Nat ← observe .instant
      if deadline - instant = 0 then Fallible.fail (.guest (readinessError last))
      else do
        let status : GuestReadiness ← callTransport authority operationId
          (.probeReady (min (deadline - instant) (15 * nanosPerSecond)))
        match status with
        | .ready => pure ()
        | .authenticationFailed => Fallible.fail (.guest .authenticationFailed)
        | status => do
            let instant : Nat ← observe .instant
            observe (.sleep (min policy.pollInterval (deadline - instant)))
            pollGuestReady authority operationId policy deadline rounds status

def waitForGuestReady (rounds : Nat) (authority : GuestActionAuthority)
    (operationId : GuestOperationId) (policy : ReadinessPolicy) : Engine Unit := do
  Fallible.lift ((validateReadinessPolicy policy).mapError fun _ =>
    .guest (.invalidRequest "readiness policy is outside the supported bounds"))
  let instant : Nat ← observe .instant
  pollGuestReady authority operationId policy (instant + policy.timeout) rounds .guestNotReady

end Readiness

section Running
variable (site : Site) (provider : String) (transport : GuestTransport)

structure GuestCompletion where
  exitCode : Option Int
  stdoutBytes : Option Nat
  stderrBytes : Option Nat
  artifactId : Option GuestOperationId

def GuestCompletion.none : GuestCompletion := ⟨.none, .none, .none, .none⟩

structure GuestOperationDispatch where
  cellId : CellId
  jobId : Option JobId
  kind : GuestOperationKind
  readiness : ReadinessPolicy

/-- An operation that may go on: its cell, the proven snapshot and its record. -/
structure AdmittedOperation where
  cell : CellRecord
  expected : ProviderVm
  operation : GuestOperationRecord

def requireGuestOs (record : CellRecord) : Except EngineError GuestOs :=
  match record.image.guestOs with
  | some guestOs => .ok guestOs
  | none => .error (.integrity "guest operations require a cell with a persisted guest OS")

/-- Everything up to the durable intent. -/
def admitGuestOperation (dispatch : GuestOperationDispatch) : Engine AdmittedOperation := do
  let record : CellRecord ← query (.loadCell dispatch.cellId)
  Fallible.lift (requireLifecycleState record "run a guest operation on" [.running])
  Fallible.lift (require (record.phase = .ready)
    (.lifecycleConflict "guest operations require a ready cell"))
  let operations : List GuestOperationRecord ← query .listGuestOperations
  Fallible.lift (require (!hasOpenOperation operations dispatch.cellId) (.lifecycleConflict
    ("guest operations require all earlier operations to be terminal; " ++
      "reconcile the cell operation history first")))
  let guestOs ← Fallible.lift (requireGuestOs record)
  Fallible.lift (require (transport.supports record.provider guestOs) (.invalidCellRequest
    "selected guest transport is incompatible with the provider/guest OS"))
  let expected ← exactOwnedVm site provider record
  Fallible.lift (require (expected.powerState = .running)
    (.unexpectedPowerState expected.powerState))
  let time ← now
  let id ← newUuid
  let operation := GuestOperationRecord.intentWithJob ⟨id⟩ dispatch.cellId dispatch.kind time
    dispatch.jobId
  mutate (.saveGuestOperation operation)
  pure ⟨record, expected, operation⟩

def authorizeGuestOperation (admitted : AdmittedOperation) : Engine GuestActionAuthority := do
  let record := admitted.cell
  let installation : InstallationRecord ← query .acquireInstallationAuthority
  validateLocalOwnershipAgainst site provider record installation
  let runtime : CellRuntimeGuard ← query (.pinCellRuntimeFor record.id
    record.ownership.configurationPath record.ownership.overlayPath)
  Fallible.lift (GuestActionAuthority.new record admitted.expected installation runtime)

/-- What an operation does once the guest is ready. -/
abbrev GuestAction (A : Type) :=
  GuestActionAuthority → GuestOperationId → Engine (A × GuestCompletion)

/-- How the closure of an operation ended: the operation record as the closure
left it, whether the action was begun, and the result. -/
structure Execution (A : Type) where
  operation : GuestOperationRecord
  begun : Bool
  result : Except EngineError (A × GuestCompletion)

def activatedOperation (operation : GuestOperationRecord) (time : DateTime) :
    GuestOperationRecord :=
  { operation with phase := .transportActive, updatedAt := time }

/-- The closure assigns to the operation record before it saves it. -/
def executeGuestOperation {A : Type} (rounds : Nat) (readiness : ReadinessPolicy)
    (admitted : AdmittedOperation) (action : GuestAction A) : Engine (Execution A) := do
  let authorized : Except EngineError GuestActionAuthority ←
    Fallible.attempt (authorizeGuestOperation site provider admitted)
  match authorized with
  | .error error => pure ⟨admitted.operation, false, .error error⟩
  | .ok authority => do
      let time ← now
      let operation := activatedOperation admitted.operation time
      let ready : Except EngineError Unit ← Fallible.attempt do
        mutate (.saveGuestOperation operation)
        waitForGuestReady rounds authority operation.id readiness
      match ready with
      | .error error => pure ⟨operation, false, .error error⟩
      | .ok () => do
          let result : Except EngineError (A × GuestCompletion) ←
            Fallible.attempt (action authority operation.id)
          pure ⟨operation, true, result⟩

def finishGuestOperation {A : Type} (operation : GuestOperationRecord) (value : A) :
    Engine A := do
  mutate (.saveGuestOperation { operation with completedAt := some operation.updatedAt })
  pure value

def completeGuestOperation {A : Type} (operation : GuestOperationRecord) (value : A)
    (completion : GuestCompletion) : Engine A := do
  let time ← now
  let operation := { operation with
    phase := if completion.artifactId.isSome then .artifactCommitted else .completed
    updatedAt := time
    exitCode := completion.exitCode
    stdoutBytes := completion.stdoutBytes
    stderrBytes := completion.stderrBytes
    artifactId := completion.artifactId }
  if completion.artifactId.isSome then do
    mutate (.saveGuestOperation operation)
    let time ← now
    finishGuestOperation { operation with phase := .completed, updatedAt := time } value
  else finishGuestOperation operation value

def failedOperation (operation : GuestOperationRecord) (error : EngineError) (time : DateTime) :
    GuestOperationRecord :=
  let failure := guestFailureClass error
  { operation with
    failure := some failure.1
    updatedAt := time
    phase := if failure.2 then .failed else operation.phase
    completedAt := if failure.2 then some time else operation.completedAt }

def settleGuestOperation {A : Type} (execution : Execution A) : Engine A :=
  match execution.result with
  | .ok (value, completion) => completeGuestOperation execution.operation value completion
  | .error error => do
      let time ← now
      mutate (.saveGuestOperation (failedOperation execution.operation error time))
      Fallible.fail error

/-- The outcome of an operation with what its callbacks learned: the recorded
identity and whether the guest became ready. -/
structure TrackedOutcome (A : Type) where
  recorded : Option GuestOperationId
  begun : Bool
  result : Except EngineError A

def runGuestOperationLocked {A : Type} (rounds : Nat) (dispatch : GuestOperationDispatch)
    (action : GuestAction A) : Engine (TrackedOutcome A) := do
  let admitted : Except EngineError AdmittedOperation ←
    Fallible.attempt (admitGuestOperation site provider transport dispatch)
  match admitted with
  | .error error => pure ⟨none, false, .error error⟩
  | .ok admitted => do
      let execution ← executeGuestOperation site provider rounds dispatch.readiness admitted action
      let result : Except EngineError A ← Fallible.attempt (settleGuestOperation execution)
      pure ⟨some admitted.operation.id, execution.begun, result⟩

def runGuestOperationTracked {A : Type} (rounds : Nat) (dispatch : GuestOperationDispatch)
    (action : GuestAction A) : Engine (TrackedOutcome A) := do
  requireProvider provider
  mutationLocked (runGuestOperationLocked site provider transport rounds dispatch action)

def runGuestOperation {A : Type} (rounds : Nat) (dispatch : GuestOperationDispatch)
    (action : GuestAction A) : Engine A := do
  let outcome ← runGuestOperationTracked site provider transport rounds dispatch action
  Fallible.lift outcome.result

end Running

section Actions
variable (site : Site) (provider : String) (transport : GuestTransport) (rounds : Nat)

structure GuestExecRequest where
  cellId : CellId
  command : GuestCommand
  readiness : ReadinessPolicy

structure GuestExecReport where
  operationId : GuestOperationId
  cellId : CellId
  result : GuestCommandResult

def execAction (cellId : CellId) (command : GuestCommand) (onReady : Engine Unit) :
    GuestAction GuestExecReport := fun authority operationId => do
  onReady
  let result : GuestCommandResult ← callTransport authority operationId (.exec command)
  Fallible.lift (validateGuestCommandResult command result)
  pure (⟨operationId, cellId, result⟩,
    ⟨some result.exitCode, some result.stdoutBytes, some result.stderrBytes, none⟩)

def execGuestWithReadyCallback (request : GuestExecRequest) (jobId : Option JobId)
    (onReady : Engine Unit) : Engine (TrackedOutcome GuestExecReport) := do
  Fallible.lift (request.command.validate.mapError .guest)
  Fallible.lift (validateReadinessPolicy request.readiness)
  runGuestOperationTracked site provider transport rounds
    ⟨request.cellId, jobId, .exec, request.readiness⟩
    (execAction request.cellId request.command onReady)

def execGuest (request : GuestExecRequest) : Engine GuestExecReport := do
  let outcome ← execGuestWithReadyCallback site provider transport rounds request none (pure ())
  Fallible.lift outcome.result

structure GuestCopyInRequest where
  cellId : CellId
  source : PathBuf
  destination : GuestPath
  overwrite : OverwritePolicy
  timeout : Duration
  maxBytes : Nat
  readiness : ReadinessPolicy

structure JobCopySourceBinding where
  root : PathBuf
  sha256 : String
  size : Nat

structure GuestCopyInReport where
  operationId : GuestOperationId
  cellId : CellId
  guestPath : GuestPath
  size : Nat
  overwrite : OverwritePolicy

def readCopySource (request : GuestCopyInRequest) (binding : Option JobCopySourceBinding) :
    Engine Bytes :=
  match binding with
  | some binding => do
      let answer : Except EngineError Bytes ← observe (.readJobCopySource binding.root
        request.source request.maxBytes binding.sha256 binding.size)
      Fallible.lift answer
  | none => do
      let answer : Except EngineError Bytes ←
        observe (.readOrdinaryCopySource request.source request.maxBytes)
      Fallible.lift answer

def copyInAction (request : GuestCopyInRequest) (content : Bytes) :
    GuestAction GuestCopyInReport := fun authority operationId => do
  let _ ← callTransport authority operationId
    (.copyIn request.destination content request.overwrite request.timeout)
  pure (⟨operationId, request.cellId, request.destination, content.length, request.overwrite⟩,
    GuestCompletion.none)

def copyIntoGuestWithJob (request : GuestCopyInRequest) (binding : Option JobCopySourceBinding)
    (jobId : Option JobId) : Engine (TrackedOutcome GuestCopyInReport) := do
  Fallible.lift (validateGuestTimeoutAndSize request.timeout request.maxBytes)
  Fallible.lift (validateReadinessPolicy request.readiness)
  let content ← readCopySource request binding
  runGuestOperationTracked site provider transport rounds
    ⟨request.cellId, jobId, .copyIn, request.readiness⟩ (copyInAction request content)

def copyIntoGuest (request : GuestCopyInRequest) : Engine GuestCopyInReport := do
  let outcome ← copyIntoGuestWithJob site provider transport rounds request none none
  Fallible.lift outcome.result

structure ArtifactCollectRequest where
  cellId : CellId
  sources : List GuestPath
  timeout : Duration
  maxBytesPerFile : Nat
  readiness : ReadinessPolicy

structure ArtifactReport where
  operationId : GuestOperationId
  cellId : CellId
  artifact : ArtifactRecord

/-- One source: fetched, bounded, written under its index, and described. -/
def collectArtifact (request : ArtifactCollectRequest) (authority : GuestActionAuthority)
    (operationId : GuestOperationId) (index : Nat) (source : GuestPath) :
    Engine ArtifactEntry := do
  let bytes : Bytes ← callTransport authority operationId
    (.copyOut source request.maxBytesPerFile request.timeout)
  Fallible.lift (require (bytes.length ≤ request.maxBytesPerFile) (.guest .invalidResponse))
  let path : String ← mutate (.writeArtifactFile request.cellId operationId index bytes)
  pure ⟨source.text, path, site.sha256 bytes, bytes.length⟩

def collectArtifactsFrom (request : ArtifactCollectRequest) (authority : GuestActionAuthority)
    (operationId : GuestOperationId) : Nat → List GuestPath → Engine (List ArtifactEntry)
  | _, [] => pure []
  | index, source :: rest => do
      let entry ← collectArtifact site request authority operationId index source
      let entries ← collectArtifactsFrom request authority operationId (index + 1) rest
      pure (entry :: entries)

def collectAction (request : ArtifactCollectRequest) (jobId : Option JobId) :
    GuestAction ArtifactReport := fun authority operationId => do
  mutate (.prepareArtifactRoot request.cellId operationId)
  let entries ← collectArtifactsFrom site request authority operationId 0 request.sources
  let time ← now
  let artifact : ArtifactRecord :=
    ⟨ArtifactRecord.schemaVersionForJob jobId, operationId, request.cellId, time, entries, jobId⟩
  mutate (.saveArtifactNew request.cellId operationId artifact)
  pure (⟨operationId, request.cellId, artifact⟩, ⟨none, none, none, some operationId⟩)

def validateCollectRequest (request : ArtifactCollectRequest) : Except EngineError Unit := do
  validateGuestTimeoutAndSize request.timeout request.maxBytesPerFile
  validateReadinessPolicy request.readiness
  require (request.sources ≠ [] && request.sources.length ≤ maxArtifactFiles)
    (.invalidCellRequest ("artifact collection requires between 1 and " ++
      toString maxArtifactFiles ++ " guest files"))
  require (request.maxBytesPerFile * request.sources.length < 2 ^ 64)
    (.invalidCellRequest "artifact collection size overflow")
  require (request.maxBytesPerFile * request.sources.length ≤ maxArtifactTotalBytes)
    (.invalidCellRequest ("artifact collection maximum exceeds " ++
      toString maxArtifactTotalBytes ++ " bytes"))

def collectArtifactsWithKind (request : ArtifactCollectRequest) (kind : GuestOperationKind)
    (jobId : Option JobId) : Engine (TrackedOutcome ArtifactReport) := do
  Fallible.lift (validateCollectRequest request)
  runGuestOperationTracked site provider transport rounds
    ⟨request.cellId, jobId, kind, request.readiness⟩ (collectAction site request jobId)

def collectArtifacts (request : ArtifactCollectRequest) : Engine ArtifactReport := do
  let outcome ←
    collectArtifactsWithKind site provider transport rounds request .artifactCollect none
  Fallible.lift outcome.result

structure GuestCopyOutRequest where
  cellId : CellId
  source : GuestPath
  timeout : Duration
  maxBytes : Nat
  readiness : ReadinessPolicy

def copyOutOfGuest (request : GuestCopyOutRequest) : Engine ArtifactReport := do
  let outcome ← collectArtifactsWithKind site provider transport rounds
    ⟨request.cellId, [request.source], request.timeout, request.maxBytes, request.readiness⟩
    .copyOut none
  Fallible.lift outcome.result

end Actions

end VmCell
