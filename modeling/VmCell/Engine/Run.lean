import VmCell.Core.RunSelection
import VmCell.Engine.Recovery

/-! The whole life of a cell as one command: create, start, copy in, execute,
collect, and destroy or keep. -/

set_option autoImplicit false
namespace VmCell

open Interaction

section Requests

structure RunCleanupPolicy where
  keep : Bool
  keepOnFailure : Bool
  deriving DecidableEq

structure RunCellRequest where
  plan : RunExecutionPlan
  spec : CellSpec
  command : GuestCommand
  readiness : ReadinessPolicy
  cleanup : RunCleanupPolicy

structure JobCopyInAction where
  source : PathBuf
  sourceRoot : PathBuf
  sourceSha256 : String
  sourceSize : Nat
  destination : GuestPath
  overwrite : OverwritePolicy
  timeout : Duration
  maxBytes : Nat

structure JobArtifactAction where
  sources : List GuestPath
  timeout : Duration
  maxBytesPerFile : Nat

structure JobRunActions where
  copyIn : List JobCopyInAction
  artifacts : Option JobArtifactAction

inductive RunStage where
  | requestValidation
  | imageValidation
  | cellCreation
  | providerStart
  | guestReadiness
  | guestCopyIn
  | guestExecution
  | artifactCollection
  | cleanup
  | interrupted
  deriving DecidableEq

inductive RunOutcome where
  | success
  | guestNonZero
  deriving DecidableEq

structure JobCopyInSummary where
  operationId : GuestOperationId
  size : Nat

structure JobArtifactSummary where
  operationId : GuestOperationId
  fileCount : Nat
  totalBytes : Nat

structure JobOperationManifest where
  copyIn : List JobCopyInSummary
  commandOperationId : Option GuestOperationId
  artifacts : List JobArtifactSummary

def JobOperationManifest.new : JobOperationManifest := ⟨[], none, []⟩

def JobOperationManifest.recordCopyIn (manifest : JobOperationManifest)
    (report : GuestCopyInReport) : JobOperationManifest :=
  { manifest with copyIn := manifest.copyIn ++ [⟨report.operationId, report.size⟩] }

def saturatingTotal (sizes : List Nat) : Nat :=
  sizes.foldl (fun total size => min (total + size) (2 ^ 64 - 1)) 0

def JobOperationManifest.recordArtifact (manifest : JobOperationManifest)
    (report : ArtifactReport) : JobOperationManifest :=
  { manifest with artifacts := manifest.artifacts ++
      [⟨report.operationId, report.artifact.entries.length % 2 ^ 32,
        saturatingTotal (report.artifact.entries.map (·.size))⟩] }

structure RunCellReport where
  plan : RunExecutionPlan
  jobId : Option JobId
  jobOperations : Option JobOperationManifest
  cellId : CellId
  operationId : GuestOperationId
  outcome : RunOutcome
  result : GuestCommandResult
  cleanup : RunCleanupDisposition

structure RunFailureReport where
  plan : RunExecutionPlan
  jobId : Option JobId
  jobOperations : Option JobOperationManifest
  cellId : Option CellId
  operationId : Option GuestOperationId
  stage : RunStage
  cleanup : RunCleanupDisposition
  errorCode : String
  cleanupErrorCode : Option String
  result : Option GuestCommandResult
  source : EngineError

end Requests

section Cleanup
variable (site : Site) (provider : String)

def cleanupFailureDisposition : EngineError → RunCleanupDisposition
  | .ownershipNotProven _ | .providerDrift _ | .integrity _ | .imageIntegrity _
  | .unexpectedPowerState _ | .guest .ownershipChanged => .refusedAmbiguous
  | _ => .failed

def notify (event : RunProgressEvent) : Engine Unit := do
  let _ ← observe (.progress event)

/-- Whether the observer asks to stop. -/
def cancelled (event : RunProgressEvent) : Engine Bool := do
  let control : RunControl ← observe (.progress event)
  pure (control = .cancel)

/-- The second of two checkpoints is not reached when the first one stops. -/
def cancelledUnless (already : Bool) (event : RunProgressEvent) : Engine Bool :=
  if already then pure true else cancelled event

structure CleanupResult where
  disposition : RunCleanupDisposition
  error : Option EngineError

def notifyRefused (cellId : CellId) (disposition : RunCleanupDisposition) : Engine Unit :=
  if disposition = .refusedAmbiguous then notify (.cleanupRefused cellId) else pure ()

def destroyForCleanup (cellId : CellId) : Engine CleanupResult := do
  notify (.cleanupStarted cellId)
  let destroyed : Except EngineError OperationReport ←
    Fallible.attempt (destroyCellForRun site provider cellId)
  match destroyed with
  | .ok _ => do
      notify (.cellDestroyed cellId)
      pure ⟨.destroyed, none⟩
  | .error error => do
      notifyRefused cellId (cleanupFailureDisposition error)
      pure ⟨cleanupFailureDisposition error, some error⟩

def retained (policy : RunCleanupPolicy) (failed : Bool) : Option RunCleanupDisposition :=
  if policy.keep then some .retainedByRequest
  else if failed && policy.keepOnFailure then some .retainedOnFailure
  else none

def cleanupFailedRun (cellId : CellId) (policy : RunCleanupPolicy) (ambiguous : Bool) :
    Engine CleanupResult := do
  let found : Except EngineError CellRecord ← Fallible.attempt (query (.loadCell cellId))
  match found with
  | .error (.state (.notFound _)) => pure ⟨.nothingCreated, none⟩
  | .error error => pure ⟨.failed, some error⟩
  | .ok _ =>
      match retained policy true with
      | some disposition => do
          notify (.cellRetained cellId disposition)
          pure ⟨disposition, none⟩
      | none =>
          if ambiguous then do
            notify (.cleanupRefused cellId)
            pure ⟨.refusedAmbiguous, none⟩
          else destroyForCleanup site provider cellId

end Cleanup

section Run
variable (site : Site) (provider : String) (transport : GuestTransport) (rounds : Nat)
  (revalidate : RunExecutionPlan → ImageRecord → ProviderProbe → Except RunSelectionError Unit)

/-- A run ends with its report or with a failure report; neither is an error of
the engine program itself. -/
abbrev RunResult := Except RunFailureReport RunCellReport

/-- What a failure report needs to know about the run so far. -/
structure RunContext where
  request : RunCellRequest
  job : Option JobCorrelation
  cellId : CellId
  jobOperations : Option JobOperationManifest

def RunContext.failure (context : RunContext) (operationId : Option GuestOperationId)
    (stage : RunStage) (cleanup : CleanupResult) (error : EngineError)
    (result : Option GuestCommandResult) : RunFailureReport where
  plan := context.request.plan
  jobId := context.job.map (·.jobId)
  jobOperations := context.jobOperations
  cellId := some context.cellId
  operationId := operationId
  stage := stage
  cleanup := cleanup.disposition
  errorCode := durableErrorCode error
  cleanupErrorCode := cleanup.error.map durableErrorCode
  result := result
  source := error

def failRun (context : RunContext) (operationId : Option GuestOperationId) (stage : RunStage)
    (ambiguous : Bool) (error : EngineError) (result : Option GuestCommandResult) :
    Engine RunResult := do
  let cleanup ← cleanupFailedRun site provider context.cellId context.request.cleanup ambiguous
  pure (.error (context.failure operationId stage cleanup error result))

def interruptRun (context : RunContext) (operationId : Option GuestOperationId)
    (result : Option GuestCommandResult) : Engine RunResult :=
  failRun site provider context operationId .interrupted false
    (.lifecycleConflict "run interrupted at a safe checkpoint") result

def revalidateRunRequest (request : RunCellRequest) : Engine Unit := do
  let plan := request.plan
  let acceleratorMatches := match plan.provider with
    | .hyperv => request.spec.accelerator.isNone && !request.spec.allowTcg
    | .qemu => request.spec.accelerator == some plan.accelerator.asStr &&
        request.spec.allowTcg == decide (plan.accelerator = .tcg)
  Fallible.lift (require (request.spec.image = plan.image &&
    request.spec.provider = some plan.provider.asStr && provider = plan.provider.asStr &&
    acceleratorMatches && transport.name = plan.guestTransport.asStr &&
    transport.supports plan.provider.asStr plan.guestOs) (.runSelection .planDrift))
  let image : ImageRecord ← query (.loadImage plan.image)
  let probe : ProviderProbe ← observe .probe
  Fallible.lift ((revalidate plan image probe).mapError .runSelection)

def validateRunRequest (request : RunCellRequest) : Engine Unit := do
  Fallible.lift (request.command.validate.mapError .guest)
  Fallible.lift (validateReadinessPolicy request.readiness)
  Fallible.lift (validateCellSpec request.spec provider)
  revalidateRunRequest provider transport revalidate request

def creationStage : EngineError → RunStage
  | .invalidImage _ | .imageIntegrity _ | .imageConflict _ | .state (.notFound _) =>
      .imageValidation
  | _ => .cellCreation

/-- The outcome of a guest action whose section may have been refused. -/
def flatten {A : Type} : Except EngineError (TrackedOutcome A) → TrackedOutcome A
  | .ok outcome => outcome
  | .error error => ⟨none, false, .error error⟩

def copyInRequest (context : RunContext) (action : JobCopyInAction) : GuestCopyInRequest :=
  ⟨context.cellId, action.source, action.destination, action.overwrite, action.timeout,
    action.maxBytes, context.request.readiness⟩

/-- The remaining copies, and the command after them. -/
def runCopies (context : RunContext) (command : RunContext → Engine RunResult) :
    List JobCopyInAction → Engine RunResult
  | [] => command context
  | action :: rest => do
      let attempted : Except EngineError (TrackedOutcome GuestCopyInReport) ←
        Fallible.attempt (copyIntoGuestWithJob site provider transport rounds
          (copyInRequest context action)
          (some ⟨action.sourceRoot, action.sourceSha256, action.sourceSize⟩)
          (context.job.map (·.jobId)))
      let outcome := flatten attempted
      match outcome.result with
      | .error error =>
          failRun site provider context outcome.recorded .guestCopyIn
            (outcome.recorded.isSome && !(guestFailureClass error).2) error none
      | .ok report => do
          let context := { context with
            jobOperations := context.jobOperations.map (·.recordCopyIn report) }
          let cancel ← cancelled
            (.copyInCompleted context.cellId report.operationId report.size)
          if cancel then interruptRun site provider context (some report.operationId) none
          else runCopies context command rest

def interruptedAfterReadiness : EngineError :=
  .lifecycleConflict "run interrupted after guest readiness"

def observeReady (cellId : CellId) : Engine Unit := do
  let cancel ← cancelled (.guestReady cellId)
  Fallible.lift (require (!cancel) interruptedAfterReadiness)

/-- Cleanup of a run whose command completed. -/
def finishRun (context : RunContext) (execution : GuestExecReport) : Engine RunResult := do
  let outcome := if execution.result.exitCode = 0 then RunOutcome.success else .guestNonZero
  let report (cleanup : RunCleanupDisposition) : RunCellReport :=
    ⟨context.request.plan, context.job.map (·.jobId), context.jobOperations, context.cellId,
      execution.operationId, outcome, execution.result, cleanup⟩
  match retained context.request.cleanup (outcome = .guestNonZero) with
  | some disposition => do
      notify (.cellRetained context.cellId disposition)
      pure (.ok (report disposition))
  | none => do
      let cleanup ← destroyForCleanup site provider context.cellId
      match cleanup.error with
      | none => pure (.ok (report cleanup.disposition))
      | some error => pure (.error (context.failure (some execution.operationId) .cleanup
          ⟨cleanup.disposition, none⟩ error (some execution.result)))

def runArtifacts (context : RunContext) (execution : GuestExecReport)
    (artifacts : Option JobArtifactAction) : Engine RunResult :=
  match artifacts with
  | none => finishRun site provider context execution
  | some action => do
      let attempted : Except EngineError (TrackedOutcome ArtifactReport) ←
        Fallible.attempt (collectArtifactsWithKind site provider transport rounds
          ⟨context.cellId, action.sources, action.timeout, action.maxBytesPerFile,
            context.request.readiness⟩
          .artifactCollect (context.job.map (·.jobId)))
      let outcome := flatten attempted
      match outcome.result with
      | .error error =>
          failRun site provider context outcome.recorded .artifactCollection
            (outcome.recorded.isSome && !(guestFailureClass error).2) error (some execution.result)
      | .ok report => do
          let context := { context with
            jobOperations := context.jobOperations.map (·.recordArtifact report) }
          let cancel ← cancelled (.artifactCollected context.cellId report.operationId
            (report.artifact.entries.length % 2 ^ 32))
          if cancel then
            interruptRun site provider context (some report.operationId) (some execution.result)
          else finishRun site provider context execution

def runCommand (artifacts : Option JobArtifactAction) (context : RunContext) :
    Engine RunResult := do
  let attempted : Except EngineError (TrackedOutcome GuestExecReport) ←
    Fallible.attempt (execGuestWithReadyCallback site provider transport rounds
      ⟨context.cellId, context.request.command, context.request.readiness⟩
      (context.job.map (·.jobId)) (observeReady context.cellId))
  let outcome := flatten attempted
  match outcome.result with
  | .error error =>
      let stage := if error = interruptedAfterReadiness then RunStage.interrupted
        else if outcome.begun then .guestExecution else .guestReadiness
      failRun site provider context outcome.recorded stage (!(guestFailureClass error).2) error none
  | .ok execution => do
      let context := { context with
        jobOperations := context.jobOperations.map fun manifest =>
          { manifest with commandOperationId := some execution.operationId } }
      let cancel ← cancelled (.commandCompleted context.cellId execution.operationId
        execution.result.exitCode)
      if cancel then
        interruptRun site provider context (some execution.operationId) (some execution.result)
      else runArtifacts site provider transport rounds context execution artifacts

def runStarted (actions : JobRunActions) (context : RunContext) : Engine RunResult := do
  let cancel ← cancelled (.providerStarted context.cellId)
  if cancel then
    interruptRun site provider { context with jobOperations := none } none none
  else
    runCopies site provider transport rounds context
      (runCommand site provider transport rounds actions.artifacts) actions.copyIn

def runCreated (actions : JobRunActions) (context : RunContext) (cell : CellRecord) :
    Engine RunResult := do
  let verified ← cancelled (.imageVerified cell.image.imageId)
  let created ← cancelledUnless verified (.cellCreated context.cellId)
  if created then interruptRun site provider { context with jobOperations := none } none none
  else do
    let started : Except EngineError OperationReport ←
      Fallible.attempt (startCell site provider context.cellId)
    match started with
    | .error error =>
        failRun site provider { context with jobOperations := none } none .providerStart false error
          none
    | .ok _ => runStarted site provider transport rounds actions context

/-- `run_cell_observed_with_job`. -/
def runCell (request : RunCellRequest) (job : Option JobCorrelation) (actions : JobRunActions) :
    Engine RunResult := do
  let valid : Except EngineError Unit ←
    Fallible.attempt (validateRunRequest provider transport revalidate request)
  match valid with
  | .error error =>
      pure (.error ⟨request.plan, job.map (·.jobId), none, none, none, .requestValidation,
        .nothingCreated, durableErrorCode error, none, none, error⟩)
  | .ok () => do
      let id ← newUuid
      let cellId : CellId := ⟨id⟩
      let created : Except EngineError CellRecord ←
        Fallible.attempt (createCellWithId site provider request.spec cellId job)
      match created with
      | .error error =>
          failRun site provider ⟨request, job, cellId, none⟩ none (creationStage error) false error
            none
      | .ok cell =>
          runCreated site provider transport rounds actions
            ⟨request, job, cellId, job.map fun _ => .new⟩ cell

end Run

end VmCell
