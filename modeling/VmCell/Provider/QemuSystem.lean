import VmCell.Interaction.Progress
import VmCell.Provider.QemuHost

/-! The system executor of the QEMU provider.

What it can prove of processes differs from host to host: a process group by its
leader on Linux, a job by its name on Windows, nothing elsewhere.
-/

set_option autoImplicit false
namespace VmCell

open Interaction QemuHost

section Executor
variable (host : HostOs) (s : QemuHost)

def processAbsenceProven (processId startToken : Nat) : Bool :=
  match host with
  | .linux | .windows => startToken ≠ 0 &&
      !s.live.any fun p => p.processId = processId && p.startToken = startToken
  | _ => false

def processGroupAbsenceProven (processGroupId : Nat) : Bool :=
  processGroupId ≠ 0 && !s.live.any fun p => p.group = processGroupId

def jobIsEmptyOrMissing (jobName : String) : Bool := !s.live.any fun p => p.job = some jobName

def processTreeAbsenceProven (process : Option (Nat × Nat)) (jobName : Option String) : Bool :=
  match host with
  | .windows =>
      match jobName with
      | none => false
      | some name =>
          (process.all fun receipt => processAbsenceProven host s receipt.1 receipt.2) &&
            jobIsEmptyOrMissing s name
  | .linux =>
      match process with
      | none => false
      | some (processId, _) => jobName.isNone && processGroupAbsenceProven s processId
  | _ => false

theorem processAbsenceProven_absent {host : HostOs} {s : QemuHost} {processId startToken : Nat}
    {p : QemuProcess} (proven : processAbsenceProven host s processId startToken = true)
    (alive : p ∈ s.live) : ¬(p.processId = processId ∧ p.startToken = startToken) := by
  have absent : (!s.live.any fun p => p.processId = processId && p.startToken = startToken) =
      true := by
    unfold processAbsenceProven at proven
    split at proven
    · exact (Bool.and_eq_true_iff.mp proven).2
    · exact (Bool.and_eq_true_iff.mp proven).2
    · cases proven
  simp only [Bool.not_eq_true', List.any_eq_false, Bool.and_eq_true, decide_eq_true_eq] at absent
  exact absent p alive

theorem processTreeAbsenceProven_empty {host : HostOs} {s : QemuHost}
    {process : Option (Nat × Nat)} {jobName : Option String}
    (proven : processTreeAbsenceProven host s process jobName = true) :
    s.TreeEmpty process jobName := by
  unfold processTreeAbsenceProven at proven
  split at proven
  · split at proven
    · cases proven
    · rename_i name
      refine Or.inr ⟨name, rfl, fun p alive same => ?_⟩
      have empty := (Bool.and_eq_true_iff.mp proven).2
      simp only [jobIsEmptyOrMissing, Bool.not_eq_true', List.any_eq_false, decide_eq_true_eq]
        at empty
      exact empty p alive same
  · split at proven
    · cases proven
    · rename_i processId startToken
      refine Or.inl ⟨processId, startToken, rfl, fun p alive same => ?_⟩
      have empty := (Bool.and_eq_true_iff.mp proven).2
      simp only [processGroupAbsenceProven, Bool.and_eq_true, Bool.not_eq_true',
        List.any_eq_false, decide_eq_true_eq] at empty
      exact empty.2 p alive same
  · cases proven

/-- Without a receipt only a job can be shown to be empty. -/
theorem processTreeAbsenceProven_none {host : HostOs} {s : QemuHost} {jobName : Option String} :
    processTreeAbsenceProven host s none jobName = true ↔
      host = .windows ∧ ∃ name, jobName = some name ∧ jobIsEmptyOrMissing s name = true := by
  cases host <;> cases jobName <;> simp [processTreeAbsenceProven]

end Executor

/-- A host in order: files are read and written, nothing answers at a control
endpoint, and what else the provider is told is fixed. -/
structure QemuScene where
  filesystem : Filesystem
  accelerators : Except ProviderError (List String)
  newUuid : Uuid
  imageInfo : PathBuf → Except ProviderError QemuImgInfo
  spawn : Except ProviderError QemuSpawnReceipt

namespace QemuScene
variable (scene : QemuScene) (provider : QemuProvider)

def missingFile : ProviderError := .command "failed to read QEMU configuration: not found"

def unanswered : ProviderError := .timeout "QEMU control endpoint connection timed out"

/-- The process that a spawn leaves. -/
def leader (path : PathBuf) (jobName : Option String) (receipt : QemuSpawnReceipt) : QemuProcess :=
  ⟨path, receipt.processId, receipt.processStartToken, receipt.processId, jobName⟩

def readFrom (s : QemuHost) (path : PathBuf) : Except ProviderError Document :=
  match s.files path with
  | some document => .ok document
  | none => .error missingFile

def sized (config : QemuVmConfig) : Except ProviderError Unit :=
  if (provider.encoders.toVecPretty config).length ≤ qemuConfigMaxBytes then .ok ()
  else .error oversizedConfig

def answer : (op : QemuOp) → QemuHost → op.Reply × QemuHost
  | .filesystem, s => (scene.filesystem, s)
  | .createOrdinaryDirectory _, s => (.ok (), s)
  | .configExists path, s => ((s.files path).isSome, s)
  | .metadata path, s => (if (s.files path).isSome then .present else .absent, s)
  | .readFile path, s | .readPinned path, s => (readFrom s path, s)
  | .writeConfigNew path config, s =>
      match s.files path, sized provider config with
      | none, .ok () => (.ok (), { s with
          files := Function.update s.files path (some (.of provider.encoders config)) })
      | none, .error error => (.error error, s)
      | some _, _ => (.error (.command "failed to create QEMU configuration: exists"), s)
  | .stage _ config, s => (sized provider config, s)
  | .checkStaged .., s => (.ok (), s)
  | .replaceFileAtomic path config, s => (.ok (), { s with
      files := Function.update s.files path (some (.of provider.encoders config)) })
  | .removeExactFile path, s => (.ok (), { s with files := Function.update s.files path none })
  | .syncParentDirectory _, s => (.ok (), s)
  | .accelerators, s => (scene.accelerators, s)
  | .newUuid, s => (scene.newUuid, s)
  | .qemuImgInfo path, s => (scene.imageInfo path, s)
  | .endpointPresence _, s => (.absent, s)
  | .spawnVm path _ _ jobName _, s =>
      match scene.spawn with
      | .error error => (.error error, s)
      | .ok receipt => (.ok receipt, { s with live := leader path jobName receipt :: s.live })
  | .activateVm _, s => (.ok (), s)
  | .processMatches processId startToken .., s => (s.live.any fun p =>
      p.processId = processId && p.startToken = startToken, s)
  | .processAbsenceProven processId startToken, s =>
      (processAbsenceProven provider.host s processId startToken, s)
  | .processTreeAbsenceProven process jobName, s =>
      (processTreeAbsenceProven provider.host s process jobName, s)
  | .processTreeOwnedNonempty jobName, s =>
      (provider.host = .windows && jobName.any fun name => !jobIsEmptyOrMissing s name, s)
  | .terminateProcessTree jobName, s => (.ok (), { s with
      live := s.live.filter fun p => p.job ≠ jobName })
  | .connectQmp .., s => (.error unanswered, s)
  | .negotiate, s => (.error unanswered, s)
  | .execute _, s => (.error unanswered, s)
  | .deadlinePassed, s => (true, s)

/-- The scene as an environment that determines every answer. -/
def handler : Handler qemuSignature QemuHost := scene.answer provider

variable {scene provider}

theorem quiet_refl (s : QemuHost) : Quiet s s := ⟨rfl, Evolves.refl _⟩

/-- A host in order is a host, and its executor is truthful. -/
theorem truthful (op : QemuOp) (s : QemuHost) :
    QemuHost.truthful provider.encoders op s (scene.answer provider op s).1
      (scene.answer provider op s).2 := by
  have read : ∀ path document, readFrom s path = .ok document → s.files path = some document := by
    intro path document found
    unfold readFrom at found
    split at found
    · rename_i stored
      rw [stored, Except.ok.inj found]
    · cases found
  have small : ∀ config, sized provider config = .ok () →
      (provider.encoders.toVecPretty config).length ≤ qemuConfigMaxBytes := by
    intro config fits
    unfold sized at fits
    split at fits
    · assumption
    · cases fits
  cases op
  case readFile path => exact ⟨⟨quiet_refl s, read path⟩, trivial⟩
  case readPinned path => exact ⟨⟨quiet_refl s, read path⟩, trivial⟩
  case stage path config => exact ⟨⟨quiet_refl s, small config⟩, trivial⟩
  case writeConfigNew path config =>
      refine ⟨?_, trivial⟩
      simp only [answer]
      split
      · rename_i absent fits
        exact Or.inr ⟨absent, _, ⟨rfl, Evolves.refl _⟩, fun _ => ⟨rfl, small config fits⟩⟩
      · exact Or.inl ⟨⟨_, rfl⟩, quiet_refl s⟩
      · exact Or.inl ⟨⟨_, rfl⟩, quiet_refl s⟩
  case replaceFileAtomic path config =>
      exact ⟨Or.inr ⟨rfl, Evolves.refl _⟩, trivial⟩
  case removeExactFile path => exact ⟨Or.inr ⟨rfl, Evolves.refl _⟩, trivial⟩
  case spawnVm path program args jobName digest =>
      simp only [answer]
      split
      · rename_i error _
        refine ⟨⟨rfl, ⟨path, 0, 0, 0, jobName⟩, rfl, rfl, rfl, ?_, ?_⟩, fun _ => quiet_refl s⟩
        · exact fun p alive => ⟨p, List.mem_cons_of_mem _ alive, rfl, rfl, rfl⟩
        · intro receipt found
          cases found
      · rename_i receipt _
        refine ⟨⟨rfl, leader path jobName receipt, rfl, rfl, rfl, Evolves.refl _, ?_⟩, ?_⟩
        · rintro _ ⟨⟩
          exact ⟨rfl, rfl⟩
        · rintro ⟨error, failed⟩
          cases failed
  case processAbsenceProven processId startToken =>
      exact ⟨quiet_refl s, fun proven p alive => processAbsenceProven_absent proven alive⟩
  case processTreeAbsenceProven process jobName =>
      exact ⟨quiet_refl s, fun proven => processTreeAbsenceProven_empty proven⟩
  case terminateProcessTree jobName =>
      refine ⟨⟨rfl, fun p alive => ⟨p, List.mem_of_mem_filter alive, rfl, rfl, rfl⟩⟩, trivial⟩
  all_goals exact ⟨quiet_refl s, trivial⟩

end QemuScene

end VmCell
