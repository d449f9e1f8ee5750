import Mathlib.Data.List.Nodup
import VmCell.Core.Records

/-! The combinations of host, provider and guest that the support contract names. -/

set_option autoImplicit false
namespace VmCell

section Vocabulary

/-- The host systems of the contract. -/
inductive Support.HostOs where
  | windows
  | linux
  | macos
  deriving DecidableEq

inductive ProviderId where
  | hyperv
  | qemu
  deriving DecidableEq

inductive Accelerator where
  | hyperV
  | whpx
  | kvm
  | hvf
  | tcg
  deriving DecidableEq

inductive GuestTransportId where
  | powerShellDirect
  | qga
  | ssh
  deriving DecidableEq

inductive SupportStatus where
  | supported
  | experimental
  | developmentOnly
  | untested
  | unsupported
  deriving DecidableEq

def ProviderId.asStr : ProviderId → String
  | .hyperv => "hyperv"
  | .qemu => "qemu"

def Accelerator.asStr : Accelerator → String
  | .hyperV => "hyper-v"
  | .whpx => "whpx"
  | .kvm => "kvm"
  | .hvf => "hvf"
  | .tcg => "tcg"

def GuestTransportId.asStr : GuestTransportId → String
  | .powerShellDirect => "powershell-direct"
  | .qga => "qga"
  | .ssh => "ssh"

end Vocabulary

section Matrix

structure SupportKey where
  hostOs : Support.HostOs
  hostArchitecture : Architecture
  provider : ProviderId
  accelerator : Accelerator
  guestOs : GuestOs
  guestArchitecture : Architecture
  guestTransport : GuestTransportId
  deriving DecidableEq

structure SupportMatrixEntry where
  key : SupportKey
  status : SupportStatus
  deriving DecidableEq

def supportMatrix : List SupportMatrixEntry := [
  ⟨⟨.windows, .x86_64, .hyperv, .hyperV, .windows, .x86_64, .powerShellDirect⟩, .untested⟩,
  ⟨⟨.windows, .x86_64, .hyperv, .whpx, .windows, .x86_64, .powerShellDirect⟩, .unsupported⟩,
  ⟨⟨.windows, .x86_64, .qemu, .whpx, .windows, .x86_64, .qga⟩, .unsupported⟩,
  ⟨⟨.windows, .x86_64, .qemu, .whpx, .linux, .x86_64, .qga⟩, .untested⟩,
  ⟨⟨.windows, .x86_64, .qemu, .whpx, .linux, .x86_64, .ssh⟩, .unsupported⟩,
  ⟨⟨.windows, .x86_64, .qemu, .tcg, .linux, .x86_64, .qga⟩, .developmentOnly⟩,
  ⟨⟨.linux, .x86_64, .qemu, .kvm, .windows, .x86_64, .qga⟩, .unsupported⟩,
  ⟨⟨.linux, .x86_64, .qemu, .kvm, .linux, .x86_64, .qga⟩, .untested⟩,
  ⟨⟨.linux, .x86_64, .qemu, .kvm, .linux, .x86_64, .ssh⟩, .unsupported⟩,
  ⟨⟨.linux, .x86_64, .qemu, .tcg, .linux, .x86_64, .qga⟩, .developmentOnly⟩]

/-- No key has two rows. -/
theorem supportMatrix_nodup : (supportMatrix.map (·.key)).Nodup := by decide

def supportFor (key : SupportKey) : Option SupportMatrixEntry :=
  supportMatrix.find? fun entry => entry.key = key

theorem supportFor_of_mem {entry : SupportMatrixEntry} (member : entry ∈ supportMatrix) :
    supportFor entry.key = some entry := by
  unfold supportFor
  cases found : supportMatrix.find? fun other => other.key = entry.key with
  | none =>
      have none := List.find?_eq_none.mp found entry member
      simp at none
  | some other =>
      have same : other.key = entry.key := by simpa using List.find?_some found
      have equal := List.inj_on_of_nodup_map supportMatrix_nodup (List.mem_of_find?_eq_some found)
        member same
      rw [equal]

end Matrix

end VmCell
