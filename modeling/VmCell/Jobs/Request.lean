import VmCell.Engine.Run
import VmCell.Jobs.Plan

/-! A run request made from a specification: bound to it, and checked against it again
before it is run. -/

set_option autoImplicit false
namespace VmCell

open FileTree (Path Tree canonicalize)

section Contexts

inductive JobRunContextError where
  | invalidJobId
  | invalidSpecDigest
  deriving DecidableEq

/-- `JobCorrelation::new`. -/
def JobCorrelation.new (jobId : JobId) (jobSpecSha256 : String) (startedAt : DateTime) :
    Except JobRunContextError JobCorrelation :=
  if jobId.value.isNil then .error .invalidJobId
  else if !isLowercaseSha256 jobSpecSha256 then .error .invalidSpecDigest
  else .ok ⟨jobId, jobSpecSha256, startedAt⟩

structure JobRunContext where
  jobId : JobId
  jobSpecSha256 : String
  startedAt : DateTime
  deriving DecidableEq

/-- The identifier is fresh. -/
def JobRunContext.new (fresh : JobId) (jobSpecSha256 : String) (startedAt : DateTime) :
    Except JobRunContextError JobRunContext :=
  if isLowercaseSha256 jobSpecSha256 then .ok ⟨fresh, jobSpecSha256, startedAt⟩
  else .error .invalidSpecDigest

def JobRunContext.correlation (context : JobRunContext) : JobCorrelation :=
  ⟨context.jobId, context.jobSpecSha256, context.startedAt⟩

end Contexts

section Requests

deriving instance DecidableEq for RunCellRequest
deriving instance DecidableEq for JobCopyInAction
deriving instance DecidableEq for JobArtifactAction
deriving instance DecidableEq for JobRunActions

structure JobRunRequestBinding where
  request : RunCellRequest
  job : JobRunContext
  actions : JobRunActions
  deriving DecidableEq

structure JobRunRequest where
  request : RunCellRequest
  job : JobRunContext
  actions : JobRunActions
  binding : JobRunRequestBinding

def JobRunRequest.newWithActions (request : RunCellRequest) (job : JobRunContext)
    (actions : JobRunActions) : JobRunRequest :=
  ⟨request, job, actions, ⟨request, job, actions⟩⟩

def JobRunRequest.intoParts (own : JobRunRequest) :
    Except EngineError (RunCellRequest × JobRunContext × JobRunActions) :=
  if own.request ≠ own.binding.request ∨ own.job ≠ own.binding.job ∨
      own.actions ≠ own.binding.actions then
    .error (.integrity
      "job execution request no longer matches its validated specification binding")
  else .ok (own.request, own.job, own.actions)

end Requests

section Building
variable (sha256 : Bytes → String) (tree : Tree)

/-- The host path with the given segments. -/
def hostPath (path : Path) : PathBuf := ⟨"/", (FileTree.components path).map String.ofList⟩

def bindCopyIn (sourceRoot : Path) (input : JobCopyInSpec) :
    Except EngineError JobCopyInAction := do
  let (source, sourceSha256, sourceSize) ←
    bindJobCopySource sha256 tree sourceRoot input.source input.maxBytes
  .ok {
    source := hostPath source
    sourceRoot := hostPath sourceRoot
    sourceSha256 := sourceSha256
    sourceSize := sourceSize
    destination := input.destination
    overwrite := input.overwrite
    timeout := seconds input.timeoutSeconds
    maxBytes := input.maxBytes }

def JobSpec.artifactAction (spec : JobSpec) : Option JobArtifactAction :=
  if spec.artifacts.sources.isEmpty then none
  else some ⟨spec.artifacts.sources, seconds spec.artifacts.timeoutSeconds,
    spec.artifacts.maxBytesPerFile⟩

def JobSpec.runCellRequest (spec : JobSpec) (plan : RunExecutionPlan) : RunCellRequest where
  plan := plan
  spec := {
    image := spec.image
    provider := some plan.provider.asStr
    cpuCount := spec.cpuCount
    memoryMib := spec.memoryMib
    ttlSeconds := spec.ttlSeconds
    accelerator := if plan.provider = .qemu then some plan.accelerator.asStr else none
    allowTcg := plan.accelerator = .tcg }
  command := spec.guestCommand
  readiness :=
    let timeout := seconds spec.readinessTimeoutSeconds
    ⟨timeout, min (seconds 2) timeout⟩
  cleanup := ⟨spec.cleanup.keep, spec.cleanup.keepOnFailure⟩

def buildJobRunRequest (fresh : JobId) (now : DateTime) (loaded : LoadedJobSpec)
    (host : HostPlatform) (image : ImageRecord) (probes : List ProviderProbe) :
    Except EngineError (ResolvedJobPlan × JobRunRequest) := do
  let spec := loaded.spec
  let plan ← (resolveJobPlan loaded host image probes).mapError .runSelection
  require (!(plan.execution.authorizing || plan.execution.image ≠ spec.image))
    (.integrity "resolved job plan is not bound to the validated job specification")
  match (FileTree.ancestors loaded.path)[1]? with
  | none => .error (.integrity "validated job specification path has no parent directory")
  | some parent =>
      match canonicalize tree maxLinks parent with
      | none => .error (.integrity "validated job specification parent is no longer available")
      | some sourceRoot => do
          let copyIn ← spec.copyIn.mapM (bindCopyIn sha256 tree sourceRoot)
          let job ← (JobRunContext.new fresh loaded.sourceSha256 now).mapError fun _ =>
            .integrity "validated job specification digest is malformed"
          .ok (plan, .newWithActions (spec.runCellRequest plan.execution) job
            ⟨copyIn, spec.artifactAction⟩)

end Building

end VmCell
