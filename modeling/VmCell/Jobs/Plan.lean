import VmCell.Core.RunSelection
import VmCell.Jobs.CopySources

/-! The plan of a job, resolved from its specification without any authority. -/

set_option autoImplicit false
namespace VmCell

def jobPlanSchemaVersion : Nat := 1
def jobPlanContract : String := "vmcell.job-plan.v1"

/-- A specification with the file it was read from. -/
structure LoadedJobSpec where
  path : FileTree.Path
  sourceSha256 : String
  spec : JobSpec

structure JobResourcePlan where
  cpuCount : Nat
  memoryMib : Nat
  ttlSeconds : Option Nat

structure JobTimeoutPlan where
  readinessTimeoutSeconds : Nat
  actionTimeoutSeconds : Nat
  maxOutputBytes : Nat

structure JobCleanupPlan where
  keep : Bool
  keepOnFailure : Bool

structure ResolvedJobPlan where
  schemaVersion : Nat
  contract : String
  authorizing : Bool
  jobSpecContract : String
  jobSpecSchemaVersion : Nat
  jobSpecSha256 : String
  execution : RunExecutionPlan
  resources : JobResourcePlan
  timeouts : JobTimeoutPlan
  cleanup : JobCleanupPlan
  declaredCopyInCount : Nat
  declaredArtifactCount : Nat

def requestedAccelerator : JobAccelerator → RequestedAccelerator
  | .whpx => .whpx
  | .kvm => .kvm
  | .hvf => .hvf
  | .tcg => .tcg

/-- A document does not inherit the preference of a user. -/
def JobSpec.intent (spec : JobSpec) : RunSelectionIntent where
  explicitProvider := spec.provider
  configProviderPreference := none
  explicitAccelerator := spec.accelerator.map requestedAccelerator
  allowTcg := spec.allowTcg

def resolveJobPlan (loaded : LoadedJobSpec) (host : HostPlatform) (image : ImageRecord)
    (probes : List ProviderProbe) : Except RunSelectionError ResolvedJobPlan := do
  let spec := loaded.spec
  let execution ← resolveRunExecutionPlan host image probes spec.intent
  .ok {
    schemaVersion := jobPlanSchemaVersion
    contract := jobPlanContract
    authorizing := false
    jobSpecContract := jobSpecContract
    jobSpecSchemaVersion := spec.schemaVersion
    jobSpecSha256 := loaded.sourceSha256
    execution := execution
    resources := ⟨spec.cpuCount, spec.memoryMib, spec.ttlSeconds⟩
    timeouts := ⟨spec.readinessTimeoutSeconds, spec.actionTimeoutSeconds, spec.maxOutputBytes⟩
    cleanup := ⟨spec.cleanup.keep, spec.cleanup.keepOnFailure⟩
    declaredCopyInCount := spec.copyIn.length
    declaredArtifactCount := spec.artifacts.sources.length }

end VmCell
