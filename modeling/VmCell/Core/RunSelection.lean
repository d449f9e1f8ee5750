import VmCell.Core.Errors
import VmCell.Core.Support

/-! The choice of the provider that runs an image, and the check of a choice made before.

Variants of the image are candidates when the host, the probe of their provider and
the support contract agree. The candidate of the best rank is taken if it is the only
one of that rank. -/

set_option autoImplicit false
namespace VmCell

section Plans

def runPlanSchemaVersion : Nat := 1
def runPlanContract : String := "vmcell.run-plan.v1"

structure HostPlatform where
  os : Support.HostOs
  architecture : Architecture
  deriving DecidableEq

def HostPlatform.current (os arch : String) : Except RunSelectionError HostPlatform := do
  let os ← match os with
    | "windows" => .ok Support.HostOs.windows
    | "linux" => .ok .linux
    | "macos" => .ok .macos
    | _ => .error .unsupportedHost
  let architecture ← match arch with
    | "x86_64" => .ok Architecture.x86_64
    | "aarch64" => .ok .aarch64
    | _ => .error .unsupportedHostArchitecture
  .ok ⟨os, architecture⟩

inductive RequestedAccelerator where
  | auto
  | whpx
  | kvm
  | hvf
  | tcg
  deriving DecidableEq

def RequestedAccelerator.exact : RequestedAccelerator → Option Accelerator
  | .auto => none
  | .whpx => some .whpx
  | .kvm => some .kvm
  | .hvf => some .hvf
  | .tcg => some .tcg

structure RunSelectionIntent where
  explicitProvider : Option ProviderId
  configProviderPreference : Option ProviderId
  explicitAccelerator : Option RequestedAccelerator
  allowTcg : Bool
  deriving DecidableEq

inductive RunSelectionSource where
  | explicitCli
  | configPreference
  | nativeDefault
  deriving DecidableEq

structure RunExecutionPlan where
  schemaVersion : Nat
  contract : String
  image : ImageId
  hostOs : Support.HostOs
  hostArchitecture : Architecture
  guestOs : GuestOs
  guestArchitecture : Architecture
  provider : ProviderId
  accelerator : Accelerator
  guestTransport : GuestTransportId
  supportStatus : SupportStatus
  selectionSource : RunSelectionSource
  authorizing : Bool
  deriving DecidableEq

def RunExecutionPlan.key (plan : RunExecutionPlan) : SupportKey :=
  ⟨plan.hostOs, plan.hostArchitecture, plan.provider, plan.accelerator, plan.guestOs,
    plan.guestArchitecture, plan.guestTransport⟩

end Plans

section Names

def nativeQemuAccelerator : Support.HostOs → Accelerator
  | .windows => .whpx
  | .linux => .kvm
  | .macos => .hvf

def nativeProviderRank : Support.HostOs → ProviderId → Nat
  | .windows, .hyperv => 0
  | .windows, .qemu => 1
  | _, .qemu => 0
  | _, .hyperv => 1

def providerId : String → Option ProviderId
  | "hyperv" => some .hyperv
  | "qemu" => some .qemu
  | _ => none

def guestOsName : GuestOs → String
  | .windows => "windows"
  | .linux => "linux"
  | .macos => "macos"

def architectureName : Architecture → String
  | .x86_64 => "x86_64"
  | .aarch64 => "aarch64"

end Names

section Evidence

def hasDuplicates (values : List String) : Bool := !decide values.Nodup

def acceleratorNames : List String := ["hyper-v", "whpx", "kvm", "hvf", "tcg"]
def hardwareNames : List String := ["hyper-v", "whpx", "kvm", "hvf"]
def guestOsNames : List String := ["windows", "linux", "macos"]
def guestArchNames : List String := ["x86_64", "aarch64"]
def guestTransportNames : List String := ["powershell-direct", "qga", "ssh"]

/-- Whether the capabilities of a ready provider contradict each other. -/
def capabilitiesContradict (provider : ProviderId) (capabilities : ProviderCapabilities) : Bool :=
  let hardware := capabilities.accelerators.any (hardwareNames.contains ·)
  let acceleratorsMatchProvider := match provider with
    | .hyperv => capabilities.accelerators == ["hyper-v"] && capabilities.hardwareAcceleration
    | .qemu => !capabilities.accelerators.any (· == "hyper-v") &&
        capabilities.hardwareAcceleration == hardware
  capabilities.schemaVersion != automationSchemaVersion || !capabilities.fullSystemVm ||
    !capabilities.cowOverlay || hasDuplicates capabilities.accelerators ||
    hasDuplicates capabilities.guestOs || hasDuplicates capabilities.guestArch ||
    hasDuplicates capabilities.guestTransports ||
    capabilities.accelerators.any (!acceleratorNames.contains ·) ||
    capabilities.guestOs.any (!guestOsNames.contains ·) ||
    capabilities.guestArch.any (!guestArchNames.contains ·) ||
    capabilities.guestTransports.any (!guestTransportNames.contains ·) ||
    !acceleratorsMatchProvider

/-- One probe, behind those of the providers seen. -/
def validateProbeSnapshot (providers : List ProviderId) (probe : ProviderProbe) :
    Except RunSelectionError (List ProviderId) :=
  match providerId probe.name with
  | none => .error .contradictoryCapabilityEvidence
  | some provider =>
      if providers.contains provider || probe.available != decide (probe.status = .ready) then
        .error .contradictoryCapabilityEvidence
      else if probe.status ≠ .ready then
        if probe.capabilities ≠ .unavailable then .error .contradictoryCapabilityEvidence
        else .ok (provider :: providers)
      else if capabilitiesContradict provider probe.capabilities then
        .error .contradictoryCapabilityEvidence
      else .ok (provider :: providers)

def validateProbeSnapshots (probes : List ProviderProbe) : Except RunSelectionError Unit := do
  let _ ← probes.foldlM validateProbeSnapshot []
  .ok ()

def validateTcgIntent (intent : RunSelectionIntent) : Except RunSelectionError Unit :=
  if decide (intent.explicitAccelerator = some .tcg) != intent.allowTcg then
    .error .tcgRequiresExplicitOptIn
  else .ok ()

end Evidence

section Resolution

/-- The reasons for which variants are no candidates. -/
structure Rejections where
  providerUnavailable : Bool
  acceleratorUnavailable : Bool
  architectureMismatch : Bool
  transportUnsupported : Bool
  undocumented : Bool
  unsupported : Bool
  deriving DecidableEq

def Rejections.none : Rejections := ⟨false, false, false, false, false, false⟩

def rejectionError (rejected : Rejections) : RunSelectionError :=
  if rejected.architectureMismatch then .architectureMismatch
  else if rejected.providerUnavailable then .providerUnavailable
  else if rejected.acceleratorUnavailable then .acceleratorUnavailable
  else if rejected.transportUnsupported then .unsupportedGuestTransport
  else if rejected.unsupported then .unsupportedCombination
  else if rejected.undocumented then .undocumentedCombination
  else .incompatibleImageVariant

structure Selection where
  candidates : List (Nat × RunExecutionPlan)
  rejected : Rejections
  selectableRow : Bool

/-- One variant, behind those of the providers seen. -/
def distinctVariant (providers : List ProviderId) (variant : ImageVariant) :
    Except RunSelectionError (List ProviderId) :=
  match providerId variant.provider with
  | none => .error .incompatibleImageVariant
  | some provider =>
      if providers.contains provider then .error .ambiguous else .ok (provider :: providers)

variable (host : HostPlatform) (image : ImageRecord) (probes : List ProviderProbe)
  (intent : RunSelectionIntent) (matrix : List SupportMatrixEntry)

def selectedProvider : Option ProviderId :=
  (intent.explicitProvider.or (intent.explicitAccelerator.map fun _ => .qemu)).or
    intent.configProviderPreference

def selectionSource : RunSelectionSource :=
  if intent.explicitProvider.isSome || intent.explicitAccelerator.isSome then .explicitCli
  else if intent.configProviderPreference.isSome then .configPreference
  else .nativeDefault

def acceleratorFor : ProviderId → Accelerator
  | .hyperv => .hyperV
  | .qemu => (intent.explicitAccelerator.bind RequestedAccelerator.exact).getD
      (nativeQemuAccelerator host.os)

def matchesRow (provider : ProviderId) (entry : SupportMatrixEntry) : Bool :=
  entry.key.hostOs = host.os && entry.key.hostArchitecture = host.architecture &&
    entry.key.provider = provider && entry.key.accelerator = acceleratorFor host intent provider &&
    entry.key.guestOs = image.guestOs && entry.key.guestArchitecture = image.guestArch

def candidate (provider : ProviderId) (entry : SupportMatrixEntry) : Nat × RunExecutionPlan :=
  (nativeProviderRank host.os provider, {
    schemaVersion := runPlanSchemaVersion
    contract := runPlanContract
    image := image.id
    hostOs := host.os
    hostArchitecture := host.architecture
    guestOs := image.guestOs
    guestArchitecture := image.guestArch
    provider := provider
    accelerator := acceleratorFor host intent provider
    guestTransport := entry.key.guestTransport
    supportStatus := entry.status
    selectionSource := selectionSource intent
    authorizing := false })

/-- One row of the contract that matches a variant. -/
def considerRow (provider : ProviderId) (probe : ProviderProbe) (state : Selection)
    (entry : SupportMatrixEntry) : Selection :=
  if entry.status = .unsupported then
    { state with rejected := { state.rejected with unsupported := true } }
  else if !probe.capabilities.guestTransports.any (· == entry.key.guestTransport.asStr) ||
      !probe.capabilities.networklessGuestExec then
    { state with
      rejected := { state.rejected with transportUnsupported := true }
      selectableRow := true }
  else { state with
    candidates := state.candidates ++ [candidate host image intent provider entry]
    selectableRow := true }

/-- The rows that match a variant whose provider is ready for it. -/
def considerRows (provider : ProviderId) (probe : ProviderProbe) (state : Selection) : Selection :=
  let matchingRows := matrix.filter (matchesRow host image intent provider)
  if matchingRows = [] then { state with rejected := { state.rejected with undocumented := true } }
  else
    let state := matchingRows.foldl (considerRow host image intent provider probe)
      { state with selectableRow := false }
    if state.selectableRow && state.candidates.isEmpty then
      { state with rejected := { state.rejected with transportUnsupported := true } }
    else state

/-- One variant of the image. -/
def considerVariant (state : Selection) (variant : ImageVariant) :
    Except RunSelectionError Selection :=
  match providerId variant.provider with
  | none => .error .incompatibleImageVariant
  | some provider =>
      if (selectedProvider intent).any (· != provider) then .ok state
      else if image.guestArch ≠ host.architecture then
        .ok { state with rejected := { state.rejected with architectureMismatch := true } }
      else match probes.find? (·.name == provider.asStr) with
        | none => .ok { state with rejected := { state.rejected with providerUnavailable := true } }
        | some probe =>
            if probe.status ≠ .ready || !probe.available then
              .ok { state with rejected := { state.rejected with providerUnavailable := true } }
            else if !probe.capabilities.guestOs.any (· == guestOsName image.guestOs) then .ok state
            else if !probe.capabilities.guestArch.any (· == architectureName image.guestArch) then
              .ok { state with rejected := { state.rejected with architectureMismatch := true } }
            else if !probe.capabilities.accelerators.any
                (· == (acceleratorFor host intent provider).asStr) then
              .ok { state with rejected := { state.rejected with acceleratorUnavailable := true } }
            else .ok (considerRows host image intent matrix provider probe state)

/-- The candidate of the best rank, if it is the only one. -/
def choose (rejected : Rejections) (candidates : List (Nat × RunExecutionPlan)) :
    Except RunSelectionError RunExecutionPlan :=
  match candidates.mergeSort fun first second => first.1 ≤ second.1 with
  | [] => .error (rejectionError rejected)
  | best :: others =>
      if ((best :: others).filter fun other => other.1 = best.1).length ≠ 1 then .error .ambiguous
      else .ok best.2

/-- No variant is of the selected provider. -/
def variantMissing : Bool :=
  image.variants.isEmpty || (selectedProvider intent).any fun provider =>
    !image.variants.any fun variant => providerId variant.provider = some provider

/-- `resolve_run_execution_plan_with_matrix`. -/
def resolveRunExecutionPlanWithMatrix : Except RunSelectionError RunExecutionPlan := do
  validateProbeSnapshots probes
  validateTcgIntent intent
  if intent.explicitProvider = some .hyperv ∧ intent.explicitAccelerator.isSome then
    .error .impossibleProviderAccelerator
  else do
    let _ ← image.variants.foldlM distinctVariant []
    if variantMissing image intent then .error .incompatibleImageVariant
    else do
      let selection ← image.variants.foldlM (considerVariant host image probes intent matrix)
        ⟨[], .none, false⟩
      choose selection.rejected selection.candidates

def resolveRunExecutionPlan : Except RunSelectionError RunExecutionPlan :=
  resolveRunExecutionPlanWithMatrix host image probes intent supportMatrix

end Resolution

section Revalidation

/-- Whether the plan, the host and the image are still the same. -/
def planDrifts (plan : RunExecutionPlan) (host : HostPlatform) (image : ImageRecord)
    (probe : ProviderProbe) : Bool :=
  plan.schemaVersion != runPlanSchemaVersion || plan.contract != runPlanContract ||
    plan.authorizing || plan.hostOs ≠ host.os || plan.hostArchitecture ≠ host.architecture ||
    plan.image ≠ image.id || plan.guestOs ≠ image.guestOs ||
    plan.guestArchitecture ≠ image.guestArch || probe.name != plan.provider.asStr ||
    (image.variants.filter fun variant =>
      providerId variant.provider = some plan.provider).length != 1

def revalidateRunExecutionPlan (plan : RunExecutionPlan) (host : HostPlatform)
    (image : ImageRecord) (probe : ProviderProbe) : Except RunSelectionError Unit :=
  if planDrifts plan host image probe then .error .planDrift
  else do
    validateProbeSnapshots [probe]
    if probe.status ≠ .ready || !probe.available then .error .providerUnavailable
    else if !probe.capabilities.accelerators.any (· == plan.accelerator.asStr) then
      .error .acceleratorUnavailable
    else if !probe.capabilities.guestArch.any (· == architectureName plan.guestArchitecture) then
      .error .architectureMismatch
    else if !probe.capabilities.guestOs.any (· == guestOsName plan.guestOs) ||
        !probe.capabilities.guestTransports.any (· == plan.guestTransport.asStr) ||
        !probe.capabilities.networklessGuestExec then
      .error .unsupportedGuestTransport
    else match supportFor plan.key with
      | none => .error .undocumentedCombination
      | some entry =>
          if entry.status = .unsupported then .error .unsupportedCombination
          else if entry.status ≠ plan.supportStatus then .error .planDrift
          else .ok ()

end Revalidation

end VmCell
