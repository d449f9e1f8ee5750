import VmCell.Core.Support
import VmCell.Engine.Lifecycle
import VmCell.Guest.Agent
import VmCell.Guest.Path

/-! Job specifications: the document, the defaults of what it leaves out, and the checks
that make it a specification.

The library that reads TOML gives the fields of the document; where a field may be left
out it gives none.
-/

set_option autoImplicit false
namespace VmCell

section Specifications

inductive JobAccelerator where
  | whpx
  | kvm
  | hvf
  | tcg
  deriving DecidableEq

structure JobCommandSpec where
  program : String
  args : List String

structure JobCleanupPolicy where
  keep : Bool
  keepOnFailure : Bool

structure JobCopyInSpec where
  source : String
  destination : GuestPath
  overwrite : OverwritePolicy
  timeoutSeconds : Nat
  maxBytes : Nat

structure JobArtifactSpec where
  sources : List GuestPath
  timeoutSeconds : Nat
  maxBytesPerFile : Nat

structure JobSpec where
  schemaVersion : Nat
  image : ImageId
  cpuCount : Nat
  memoryMib : Nat
  ttlSeconds : Option Nat
  provider : Option ProviderId
  accelerator : Option JobAccelerator
  allowTcg : Bool
  command : JobCommandSpec
  readinessTimeoutSeconds : Nat
  actionTimeoutSeconds : Nat
  maxOutputBytes : Nat
  cleanup : JobCleanupPolicy
  copyIn : List JobCopyInSpec
  artifacts : JobArtifactSpec

inductive JobSpecError where
  | notFound
  | unsafePath
  | tooLarge
  | invalidEncoding
  | toml
  | unsupportedSchema (expected actual : Nat)
  | invalidValue (reason : String)
  | io
  deriving DecidableEq

def JobSpecError.code : JobSpecError → String
  | .notFound => "vmcell.job_spec.not_found"
  | .unsafePath => "vmcell.job_spec.unsafe_path"
  | .tooLarge => "vmcell.job_spec.too_large"
  | .invalidEncoding | .toml => "vmcell.job_spec.invalid_document"
  | .unsupportedSchema .. => "vmcell.job_spec.unsupported_schema"
  | .invalidValue _ => "vmcell.job_spec.invalid_value"
  | .io => "vmcell.job_spec.io"

end Specifications

section Constants

def jobSpecSchemaVersion : Nat := 1
def jobSpecContract : String := "vmcell.job-spec.v1"
def maxJobCopyInFiles : Nat := 16
def JobSpec.minTtlSeconds : Nat := 1
def JobSpec.maxTtlSeconds : Nat := 31536000

def defaultReadinessTimeoutSeconds : Nat := 120
def defaultActionTimeoutSeconds : Nat := 300
def defaultMaxOutputBytes : Nat := 1048576
def defaultMaxCopyBytes : Nat := maxCopyBytes
def defaultMaxArtifactFileBytes : Nat := maxArtifactFileBytes
def defaultOverwritePolicy : OverwritePolicy := .deny

end Constants

section Documents

structure RawJobCommandSpec where
  program : String
  args : Option (List String)

structure RawJobCleanupPolicy where
  keep : Option Bool
  keepOnFailure : Option Bool

structure RawJobCopyInSpec where
  source : String
  destination : String
  overwrite : Option OverwritePolicy
  timeoutSeconds : Option Nat
  maxBytes : Option Nat

structure RawJobArtifactSpec where
  sources : Option (List String)
  timeoutSeconds : Option Nat
  maxBytesPerFile : Option Nat

def RawJobArtifactSpec.default : RawJobArtifactSpec := ⟨none, none, none⟩

structure RawJobSpec where
  schemaVersion : Nat
  image : ImageId
  cpuCount : Nat
  memoryMib : Nat
  ttlSeconds : Option Nat
  provider : Option ProviderId
  accelerator : Option JobAccelerator
  allowTcg : Option Bool
  command : RawJobCommandSpec
  readinessTimeoutSeconds : Option Nat
  actionTimeoutSeconds : Option Nat
  maxOutputBytes : Option Nat
  cleanup : RawJobCleanupPolicy
  copyIn : Option (List RawJobCopyInSpec)
  artifacts : Option RawJobArtifactSpec

end Documents

section Checks

def demand (condition : Bool) (reason : String) : Except JobSpecError Unit :=
  if condition then .ok () else .error (.invalidValue reason)

def validateTimeout (value : Nat) (message : String) : Except JobSpecError Unit :=
  demand (1 ≤ value && value ≤ maxActionTimeoutSeconds) message

def validateAcceleratorIntent (provider : Option ProviderId)
    (accelerator : Option JobAccelerator) (allowTcg : Bool) : Except JobSpecError Unit := do
  demand (!(provider = some .hyperv && accelerator.isSome))
    "accelerator may be selected only with the qemu provider"
  demand (decide (accelerator = some .tcg) == allowTcg)
    "TCG requires accelerator = tcg and allow_tcg = true together"

/-- The segments of a path. -/
def pathSegments (path : String) : List (List Char) := path.toList.splitOn '/'

/-- Other components than plain ones: a dot counts at the start only, dots anywhere. -/
def hasSpecialComponent (segments : List (List Char)) : Bool :=
  segments.head? = some ['.'] || segments.contains ['.', '.']

def validateRelativeInputPath (path : String) : Except JobSpecError Unit :=
  demand (!(path.toList.isEmpty || path.toList.head? = some '/' || path.toList.contains '\\' ||
      path.toList.contains ':' || hasSpecialComponent (pathSegments path)))
    "copy_in source must be a non-empty relative path without dot segments"

/-- A guest path that is not among those before it. -/
def uniqueGuestPath (value : String) (seen : List GuestPath) (invalid repeated : String) :
    Except JobSpecError GuestPath :=
  match GuestPath.parse value with
  | .error _ => .error (.invalidValue invalid)
  | .ok path => do
      demand (!(seen.map GuestPath.asStr).contains path.asStr) repeated
      .ok path

def JobCopyInSpec.tryFrom (seen : List GuestPath) (raw : RawJobCopyInSpec) :
    Except JobSpecError JobCopyInSpec := do
  let timeoutSeconds := raw.timeoutSeconds.getD defaultActionTimeoutSeconds
  let maxBytes := raw.maxBytes.getD defaultMaxCopyBytes
  validateRelativeInputPath raw.source
  validateTimeout timeoutSeconds "copy_in timeout_seconds is outside the engine-supported range"
  demand (!(maxBytes = 0 || maxCopyBytes < maxBytes))
    "copy_in max_bytes is outside the engine-supported range"
  let destination ← uniqueGuestPath raw.destination seen
    "copy_in destination is outside the supported policy" "copy_in destinations must be unique"
  .ok ⟨raw.source, destination, raw.overwrite.getD defaultOverwritePolicy, timeoutSeconds,
    maxBytes⟩

def copyInFrom (seen : List GuestPath) :
    List RawJobCopyInSpec → Except JobSpecError (List JobCopyInSpec)
  | [] => .ok []
  | raw :: rest => do
      let input ← JobCopyInSpec.tryFrom seen raw
      let inputs ← copyInFrom (input.destination :: seen) rest
      .ok (input :: inputs)

def artifactSourcesFrom (seen : List GuestPath) :
    List String → Except JobSpecError (List GuestPath)
  | [] => .ok []
  | value :: rest => do
      let source ← uniqueGuestPath value seen
        "artifact source is outside the supported policy" "artifact sources must be unique"
      let sources ← artifactSourcesFrom (source :: seen) rest
      .ok (source :: sources)

def JobArtifactSpec.tryFrom (raw : RawJobArtifactSpec) : Except JobSpecError JobArtifactSpec := do
  let values := raw.sources.getD []
  let timeoutSeconds := raw.timeoutSeconds.getD defaultActionTimeoutSeconds
  let maxBytesPerFile := raw.maxBytesPerFile.getD defaultMaxArtifactFileBytes
  demand (values.length ≤ maxArtifactFiles)
    "artifact sources exceed the engine-supported file count"
  validateTimeout timeoutSeconds "artifacts timeout_seconds is outside the engine-supported range"
  demand (!(maxBytesPerFile = 0 || maxArtifactFileBytes < maxBytesPerFile))
    "artifacts max_bytes_per_file is outside the engine-supported range"
  demand (values.length * maxBytesPerFile < 2 ^ 64) "artifact size calculation overflow"
  demand (values.length * maxBytesPerFile ≤ maxArtifactTotalBytes)
    "artifact total size exceeds the engine-supported range"
  let sources ← artifactSourcesFrom [] values
  .ok ⟨sources, timeoutSeconds, maxBytesPerFile⟩

end Checks

section Parsing

def JobSpec.tryFrom (raw : RawJobSpec) : Except JobSpecError JobSpec := do
  let allowTcg := raw.allowTcg.getD false
  let readinessTimeoutSeconds :=
    raw.readinessTimeoutSeconds.getD defaultReadinessTimeoutSeconds
  let actionTimeoutSeconds := raw.actionTimeoutSeconds.getD defaultActionTimeoutSeconds
  let maxOutput := raw.maxOutputBytes.getD defaultMaxOutputBytes
  let copies := raw.copyIn.getD []
  if raw.schemaVersion ≠ jobSpecSchemaVersion then
    .error (.unsupportedSchema jobSpecSchemaVersion raw.schemaVersion)
  else do
    demand (1 ≤ raw.cpuCount && raw.cpuCount ≤ maxCpuCount)
      "cpu_count is outside the engine-supported range"
    demand (minMemoryMib ≤ raw.memoryMib && raw.memoryMib ≤ maxMemoryMib)
      "memory_mib is outside the engine-supported range"
    demand (raw.ttlSeconds.all fun ttl => minTtlSeconds ≤ ttl && ttl ≤ maxTtlSeconds)
      "ttl_seconds is outside the engine-supported range"
    validateTimeout readinessTimeoutSeconds
      "readiness_timeout_seconds is outside the engine-supported range"
    validateTimeout actionTimeoutSeconds
      "action_timeout_seconds is outside the engine-supported range"
    demand (!(maxOutput = 0 || VmCell.maxOutputBytes < maxOutput))
      "max_output_bytes is outside the engine-supported range"
    validateAcceleratorIntent raw.provider raw.accelerator allowTcg
    let command : JobCommandSpec := ⟨raw.command.program, raw.command.args.getD []⟩
    (GuestCommand.validate ⟨command.program, command.args, seconds actionTimeoutSeconds,
      maxOutput⟩).mapError fun _ => .invalidValue "command is outside the engine-supported range"
    demand (copies.length ≤ maxJobCopyInFiles) "copy_in exceeds the engine-supported file count"
    let copyIn ← copyInFrom [] copies
    let artifacts ← JobArtifactSpec.tryFrom (raw.artifacts.getD .default)
    .ok ⟨raw.schemaVersion, raw.image, raw.cpuCount, raw.memoryMib, raw.ttlSeconds, raw.provider,
      raw.accelerator, allowTcg, command, readinessTimeoutSeconds, actionTimeoutSeconds, maxOutput,
      ⟨raw.cleanup.keep.getD false, raw.cleanup.keepOnFailure.getD false⟩, copyIn, artifacts⟩

/-- `readToml` is `toml::from_str`. -/
def parseJobSpec (readToml : String → Option RawJobSpec) (input : String) :
    Except JobSpecError JobSpec :=
  match readToml input with
  | none => .error .toml
  | some raw => JobSpec.tryFrom raw

def JobSpec.guestCommand (spec : JobSpec) : GuestCommand :=
  ⟨spec.command.program, spec.command.args, seconds spec.actionTimeoutSeconds,
    spec.maxOutputBytes⟩

end Parsing

end VmCell
