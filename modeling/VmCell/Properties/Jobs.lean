import VmCell.Interaction.Results
import VmCell.Jobs.Request
import VmCell.Properties.CopySources
import VmCell.Properties.Selection

/-! A job that is accepted can be run: its request passes every check that the engine makes
of it later.

The bounds of the specification and those of the engine are written in different places and
in different units; what an accepted specification keeps to is stated once.
-/

set_option autoImplicit false
namespace VmCell

open Interaction

section Accepting
variable {raw : RawJobSpec} {spec : JobSpec} {condition : Bool} {reason : String}

@[simp] theorem demand_ok : demand condition reason = .ok () ↔ condition = true := by
  unfold demand
  split <;> simp_all

/-- A number of seconds that the engine waits at most. -/
def Waitable (count : Nat) : Prop := 1 ≤ count ∧ count ≤ maxActionTimeoutSeconds

/-- What the checks of a specification leave. -/
structure JobSpec.Accepted (spec : JobSpec) : Prop where
  cpuCount : 1 ≤ spec.cpuCount ∧ spec.cpuCount ≤ maxCpuCount
  memoryMib : minMemoryMib ≤ spec.memoryMib ∧ spec.memoryMib ≤ maxMemoryMib
  ttlSeconds : ∀ ttl, spec.ttlSeconds = some ttl →
    VmCell.minTtlSeconds ≤ ttl ∧ ttl ≤ VmCell.maxTtlSeconds
  readiness : Waitable spec.readinessTimeoutSeconds
  command : spec.guestCommand.validate = .ok ()
  copies : spec.copyIn.length ≤ maxJobCopyInFiles
  copyIn : ∀ input ∈ spec.copyIn, validateRelativeInputPath input.source = .ok () ∧
    Waitable input.timeoutSeconds ∧ input.maxBytes ≠ 0 ∧ input.maxBytes ≤ maxCopyBytes
  artifactTime : Waitable spec.artifacts.timeoutSeconds
  artifactSize : spec.artifacts.maxBytesPerFile ≠ 0 ∧
    spec.artifacts.maxBytesPerFile ≤ maxArtifactFileBytes
  artifactCount : spec.artifacts.sources.length ≤ maxArtifactFiles
  artifactTotal : spec.artifacts.sources.length * spec.artifacts.maxBytesPerFile ≤
    maxArtifactTotalBytes

theorem validateTimeout_ok {value : Nat} :
    validateTimeout value reason = .ok () ↔ Waitable value := by
  simp [validateTimeout, Waitable]

theorem copyInFrom_ok {seen : List GuestPath} {inputs : List RawJobCopyInSpec}
    {copies : List JobCopyInSpec} (read : copyInFrom seen inputs = .ok copies) :
    copies.length = inputs.length ∧ ∀ input ∈ copies,
      validateRelativeInputPath input.source = .ok () ∧ Waitable input.timeoutSeconds ∧
        input.maxBytes ≠ 0 ∧ input.maxBytes ≤ maxCopyBytes := by
  induction inputs generalizing seen copies with
  | nil =>
      obtain rfl := Except.ok.inj read
      simp
  | cons raw rest ih =>
      obtain ⟨input, own, read⟩ := bind_ok.mp read
      obtain ⟨others, later, done⟩ := bind_ok.mp read
      obtain rfl := Except.ok.inj done
      obtain ⟨relative, own⟩ := bind_unit_ok.mp own
      obtain ⟨waitable, own⟩ := bind_unit_ok.mp own
      obtain ⟨sized, own⟩ := bind_unit_ok.mp own
      obtain ⟨destination, -, own⟩ := bind_ok.mp own
      obtain rfl := Except.ok.inj own
      obtain ⟨length, each⟩ := ih later
      refine ⟨by simp [length], fun input member => ?_⟩
      rcases List.mem_cons.mp member with rfl | inside
      · simp only [demand_ok, Bool.not_eq_true', Bool.or_eq_false_iff, decide_eq_false_iff_not,
          Nat.not_lt] at sized
        exact ⟨relative, validateTimeout_ok.mp waitable, sized⟩
      · exact each input inside

theorem artifactSourcesFrom_length {seen sources : List GuestPath} {values : List String}
    (read : artifactSourcesFrom seen values = .ok sources) : sources.length = values.length := by
  induction values generalizing seen sources with
  | nil =>
      obtain rfl := Except.ok.inj read
      rfl
  | cons value rest ih =>
      obtain ⟨source, -, read⟩ := bind_ok.mp read
      obtain ⟨others, later, done⟩ := bind_ok.mp read
      obtain rfl := Except.ok.inj done
      simp [ih later]

theorem JobArtifactSpec.tryFrom_ok {raw : RawJobArtifactSpec} {artifacts : JobArtifactSpec}
    (read : JobArtifactSpec.tryFrom raw = .ok artifacts) :
    artifacts.sources.length ≤ maxArtifactFiles ∧ Waitable artifacts.timeoutSeconds ∧
      (artifacts.maxBytesPerFile ≠ 0 ∧ artifacts.maxBytesPerFile ≤ maxArtifactFileBytes) ∧
      artifacts.sources.length * artifacts.maxBytesPerFile ≤ maxArtifactTotalBytes := by
  obtain ⟨count, read⟩ := bind_unit_ok.mp read
  obtain ⟨waitable, read⟩ := bind_unit_ok.mp read
  obtain ⟨sized, read⟩ := bind_unit_ok.mp read
  obtain ⟨-, read⟩ := bind_unit_ok.mp read
  obtain ⟨total, read⟩ := bind_unit_ok.mp read
  obtain ⟨sources, parsed, done⟩ := bind_ok.mp read
  obtain rfl := Except.ok.inj done
  have length := artifactSourcesFrom_length parsed
  simp only [demand_ok, decide_eq_true_eq, Bool.not_eq_true', Bool.or_eq_false_iff,
    decide_eq_false_iff_not, Nat.not_lt] at count sized total
  exact ⟨length ▸ count, validateTimeout_ok.mp waitable, sized, length ▸ total⟩

theorem JobSpec.accepted_of_tryFrom (read : JobSpec.tryFrom raw = .ok spec) : spec.Accepted := by
  unfold JobSpec.tryFrom at read
  split at read
  · cases read
  obtain ⟨cpuCount, read⟩ := bind_unit_ok.mp read
  obtain ⟨memoryMib, read⟩ := bind_unit_ok.mp read
  obtain ⟨ttlSeconds, read⟩ := bind_unit_ok.mp read
  obtain ⟨readiness, read⟩ := bind_unit_ok.mp read
  obtain ⟨-, read⟩ := bind_unit_ok.mp read
  obtain ⟨-, read⟩ := bind_unit_ok.mp read
  obtain ⟨-, read⟩ := bind_unit_ok.mp read
  obtain ⟨command, read⟩ := bind_unit_ok.mp read
  obtain ⟨copies, read⟩ := bind_unit_ok.mp read
  obtain ⟨copyIn, copied, read⟩ := bind_ok.mp read
  obtain ⟨artifacts, collected, done⟩ := bind_ok.mp read
  obtain rfl := Except.ok.inj done
  obtain ⟨length, each⟩ := copyInFrom_ok copied
  obtain ⟨count, waitable, sized, total⟩ := JobArtifactSpec.tryFrom_ok collected
  simp only [demand_ok, Bool.and_eq_true, decide_eq_true_eq] at cpuCount memoryMib copies
  refine {
    cpuCount := cpuCount
    memoryMib := memoryMib
    ttlSeconds := fun ttl given => ?_
    readiness := validateTimeout_ok.mp readiness
    command := ?_
    copies := length ▸ copies
    copyIn := each
    artifactTime := waitable
    artifactSize := sized
    artifactCount := count
    artifactTotal := total }
  · rw [demand_ok, show raw.ttlSeconds = some ttl from given] at ttlSeconds
    simp only [Option.all_some, Bool.and_eq_true, decide_eq_true_eq] at ttlSeconds
    exact ttlSeconds
  · unfold Except.mapError at command
    split at command
    · cases command
    · rename_i valid
      exact valid

end Accepting

section Executing
variable {spec : JobSpec} {plan : RunExecutionPlan} {host : HostPlatform} {image : ImageRecord}
  {probes : List ProviderProbe} {intent : RunSelectionIntent}

/-- What the engine compares of a plan and the specification of its cell. -/
structure PlanAgrees (request : RunCellRequest) : Prop where
  image : request.spec.image = request.plan.image
  provider : request.spec.provider = some request.plan.provider.asStr
  accelerator : match request.plan.provider with
    | .hyperv => request.spec.accelerator = none ∧ request.spec.allowTcg = false
    | .qemu => request.spec.accelerator = some request.plan.accelerator.asStr ∧
        request.spec.allowTcg = decide (request.plan.accelerator = .tcg)

/-- A request with actions that no check of the engine refuses for what it is. -/
structure Runnable (request : RunCellRequest) (actions : JobRunActions) : Prop where
  command : request.command.validate = .ok ()
  readiness : validateReadinessPolicy request.readiness = .ok ()
  cell : validateCellSpec request.spec request.plan.provider.asStr = .ok ()
  agrees : PlanAgrees request
  copyIn : ∀ action ∈ actions.copyIn,
    validateGuestTimeoutAndSize action.timeout action.maxBytes = .ok ()
  collects : ∀ action, actions.artifacts = some action → ∀ cellId,
    validateCollectRequest ⟨cellId, action.sources, action.timeout, action.maxBytesPerFile,
      request.readiness⟩ = .ok ()
  storable : ∀ action, actions.artifacts = some action →
    ∀ path operationId cellId time jobId (entries : List ArtifactEntry),
      entries.length = action.sources.length →
      (∀ entry ∈ entries, entry.size ≤ action.maxBytesPerFile) →
      validateArtifactSchema path ⟨ArtifactRecord.schemaVersionForJob jobId, operationId, cellId,
        time, entries, jobId⟩ = .ok ()

/-- Nothing is left of the engine's checks but what depends on the store and the provider. -/
structure Unhindered (request : RunCellRequest) (actions : JobRunActions) : Prop where
  validation : ∀ transport revalidate, transport.name = request.plan.guestTransport.asStr →
    transport.supports request.plan.provider.asStr request.plan.guestOs = true →
    validateRunRequest request.plan.provider.asStr transport revalidate request = (do
      let image : ImageRecord ← query (.loadImage request.plan.image)
      let probe : ProviderProbe ← observe .probe
      Fallible.lift ((revalidate request.plan image probe).mapError .runSelection))
  copyIn : ∀ action ∈ actions.copyIn, ∀ site provider transport rounds context binding jobId,
    context.request = request →
    copyIntoGuestWithJob site provider transport rounds (copyInRequest context action) binding
      jobId = (do
        let content ← readCopySource (copyInRequest context action) binding
        runGuestOperationTracked site provider transport rounds
          ⟨context.cellId, jobId, .copyIn, request.readiness⟩
          (copyInAction (copyInRequest context action) content))
  command : ∀ site provider transport rounds cellId jobId onReady,
    execGuestWithReadyCallback site provider transport rounds
      ⟨cellId, request.command, request.readiness⟩ jobId onReady =
        runGuestOperationTracked site provider transport rounds
          ⟨cellId, jobId, .exec, request.readiness⟩ (execAction cellId request.command onReady)
  collects : ∀ action, actions.artifacts = some action →
    ∀ site provider transport rounds cellId kind jobId,
      let collect : ArtifactCollectRequest :=
        ⟨cellId, action.sources, action.timeout, action.maxBytesPerFile, request.readiness⟩
      collectArtifactsWithKind site provider transport rounds collect kind jobId =
        runGuestOperationTracked site provider transport rounds
          ⟨cellId, jobId, kind, request.readiness⟩ (collectAction site collect jobId)

theorem Runnable.unhindered {request : RunCellRequest} {actions : JobRunActions}
    (runnable : Runnable request actions) : Unhindered request actions where
  validation := by
    intro transport revalidate named serves
    unfold validateRunRequest revalidateRunRequest
    rw [runnable.command, runnable.readiness, runnable.cell]
    change ((Fallible.lift (require _ _) : Engine Unit) >>= fun _ => _) = _
    rw [require_ok.mpr]
    · rfl
    · obtain ⟨image, provider, accelerator⟩ := runnable.agrees
      cases which : request.plan.provider with
      | hyperv =>
          rw [which] at accelerator provider serves
          simp [image, provider, named, serves, accelerator.1, accelerator.2]
      | qemu =>
          rw [which] at accelerator provider serves
          simp [image, provider, named, serves, accelerator.1, accelerator.2]
  copyIn := by
    rintro action member site provider transport rounds context binding jobId rfl
    unfold copyIntoGuestWithJob
    rw [show validateGuestTimeoutAndSize (copyInRequest context action).timeout
        (copyInRequest context action).maxBytes = .ok () from runnable.copyIn action member,
      show validateReadinessPolicy (copyInRequest context action).readiness = .ok () from
        runnable.readiness]
    rfl
  command := by
    intro site provider transport rounds cellId jobId onReady
    unfold execGuestWithReadyCallback
    rw [runnable.command, runnable.readiness]
    rfl
  collects := by
    intro action given site provider transport rounds cellId kind jobId
    simp only [collectArtifactsWithKind]
    rw [runnable.collects action given cellId]
    rfl

theorem waitable_seconds {count : Nat} (waitable : Waitable count) :
    seconds count ≠ 0 ∧ seconds count ≤ maxActionTimeoutSeconds * nanosPerSecond := by
  have unit : 0 < nanosPerSecond := by decide
  refine ⟨?_, Nat.mul_le_mul_right _ waitable.2⟩
  exact Nat.mul_ne_zero (Nat.one_le_iff_ne_zero.mp waitable.1) (Nat.ne_of_gt unit)

theorem validateGuestTimeoutAndSize_of_waitable {count maxBytes : Nat} (waitable : Waitable count)
    (sized : maxBytes ≠ 0 ∧ maxBytes ≤ maxCopyBytes) :
    validateGuestTimeoutAndSize (seconds count) maxBytes = .ok () := by
  obtain ⟨positive, bounded⟩ := waitable_seconds waitable
  refine bind_unit_ok.mpr ⟨?_, ?_⟩
  · simp [positive, bounded]
  · simp [sized]

/-- Any interval between two looks is shorter than the time that there is for all of them. -/
theorem validateReadinessPolicy_of_waitable {count : Nat} {interval : Duration}
    (waitable : Waitable count) :
    validateReadinessPolicy ⟨seconds count, min interval (seconds count)⟩ = .ok () := by
  obtain ⟨positive, bounded⟩ := waitable_seconds waitable
  simp [validateReadinessPolicy, positive, bounded]

theorem foldl_checked {bound total : Nat} {sizes : List Nat}
    (each : ∀ size ∈ sizes, size ≤ bound) (room : total + sizes.length * bound < 2 ^ 64) :
    ∃ sum ≤ total + sizes.length * bound, sizes.foldl (fun total size => total.bind fun total =>
      if total + size < 2 ^ 64 then some (total + size) else none) (some total) = some sum := by
  induction sizes generalizing total with
  | nil => exact ⟨total, by simp, rfl⟩
  | cons size rest ih =>
      have own : size ≤ bound := each size List.mem_cons_self
      have spread : (size :: rest).length * bound = rest.length * bound + bound := by
        rw [List.length_cons, Nat.succ_mul]
      obtain ⟨sum, below, found⟩ := @ih (total + size)
        (fun other inside => each other (List.mem_cons_of_mem _ inside)) (by omega)
      refine ⟨sum, by omega, ?_⟩
      rw [List.foldl_cons, Option.bind_some, if_pos (by omega)]
      exact found

theorem checkedTotal_of_bounded {bound : Nat} {sizes : List Nat}
    (each : ∀ size ∈ sizes, size ≤ bound) (room : sizes.length * bound < 2 ^ 64) :
    ∃ sum ≤ sizes.length * bound, checkedTotal sizes = some sum := by
  have := @foldl_checked bound 0 sizes each (by omega)
  simpa [checkedTotal] using this

/-- The accelerator of a plan is one that the provider of the plan has. -/
theorem plan_accelerator (resolved : resolveRunExecutionPlan host image probes intent = .ok plan) :
    match plan.provider with
    | .hyperv => plan.accelerator ≠ .tcg
    | .qemu => plan.accelerator ≠ .hyperV := by
  obtain ⟨provider, probe, entry, grounds⟩ := resolve_grounds resolved
  rw [grounds.provider_eq, grounds.accelerator_eq]
  cases provider with
  | hyperv => simp [acceleratorFor]
  | qemu =>
      cases requested : intent.explicitAccelerator with
      | none =>
          cases native : host.os <;>
            simp [acceleratorFor, requested, native, nativeQemuAccelerator]
      | some choice =>
          cases choice <;> cases native : host.os <;>
            simp [acceleratorFor, requested, native, nativeQemuAccelerator,
              RequestedAccelerator.exact]

theorem JobSpec.Accepted.cellSpec (accepted : spec.Accepted)
    (possible : match plan.provider with
      | .hyperv => plan.accelerator ≠ .tcg
      | .qemu => plan.accelerator ≠ .hyperV) :
    validateCellSpec (spec.runCellRequest plan).spec plan.provider.asStr = .ok () := by
  have resources : validateCellResources spec.cpuCount spec.memoryMib spec.ttlSeconds = .ok () := by
    refine bind_unit_ok.mpr ⟨by simp [accepted.cpuCount], ?_⟩
    refine bind_unit_ok.mpr ⟨by simp [accepted.memoryMib], ?_⟩
    rw [require_ok]
    cases ttl : spec.ttlSeconds with
    | none => rfl
    | some seconds => simpa using accepted.ttlSeconds seconds ttl
  unfold validateCellSpec JobSpec.runCellRequest
  cases provider : plan.provider with
  | hyperv =>
      rw [provider] at possible
      simpa [bind_unit_ok, isLocalProvider, ProviderId.asStr, possible] using resources
  | qemu =>
      rw [provider] at possible
      cases accelerator : plan.accelerator with
      | hyperV => exact absurd accelerator possible
      | whpx | kvm | hvf | tcg =>
          simpa [bind_unit_ok, isLocalProvider, ProviderId.asStr, Accelerator.asStr] using resources

theorem JobSpec.Accepted.agrees (possible : match plan.provider with
      | .hyperv => plan.accelerator ≠ .tcg
      | .qemu => plan.accelerator ≠ .hyperV) (same : plan.image = spec.image) :
    PlanAgrees (spec.runCellRequest plan) where
  image := same.symm
  provider := rfl
  accelerator := by
    unfold JobSpec.runCellRequest
    cases provider : plan.provider with
    | hyperv =>
        rw [provider] at possible
        simpa [provider] using possible
    | qemu => simp

theorem artifactAction_eq_some {action : JobArtifactAction}
    (given : spec.artifactAction = some action) : spec.artifacts.sources ≠ [] ∧
      action = ⟨spec.artifacts.sources, seconds spec.artifacts.timeoutSeconds,
        spec.artifacts.maxBytesPerFile⟩ := by
  unfold JobSpec.artifactAction at given
  split at given
  · cases given
  · rename_i full
    exact ⟨by simpa using full, (Option.some.inj given).symm⟩

theorem JobSpec.Accepted.runnable {copyIn : List JobCopyInAction} (accepted : spec.Accepted)
    (possible : match plan.provider with
      | .hyperv => plan.accelerator ≠ .tcg
      | .qemu => plan.accelerator ≠ .hyperV) (same : plan.image = spec.image)
    (copies : ∀ action ∈ copyIn, ∃ input ∈ spec.copyIn,
      action.timeout = seconds input.timeoutSeconds ∧ action.maxBytes = input.maxBytes) :
    Runnable (spec.runCellRequest plan) ⟨copyIn, spec.artifactAction⟩ where
  command := accepted.command
  readiness := validateReadinessPolicy_of_waitable accepted.readiness
  cell := accepted.cellSpec possible
  agrees := JobSpec.Accepted.agrees possible same
  copyIn := by
    intro action member
    obtain ⟨input, listed, timeout, size⟩ := copies action member
    obtain ⟨-, waitable, sized⟩ := accepted.copyIn input listed
    rw [timeout, size]
    exact validateGuestTimeoutAndSize_of_waitable waitable sized
  collects := by
    intro action given cellId
    obtain ⟨some_, rfl⟩ := artifactAction_eq_some given
    have sized : spec.artifacts.maxBytesPerFile ≤ maxCopyBytes := accepted.artifactSize.2
    have total := accepted.artifactTotal
    rw [Nat.mul_comm] at total
    have room := Nat.lt_of_le_of_lt total (show maxArtifactTotalBytes < 2 ^ 64 by decide)
    refine bind_unit_ok.mpr ⟨validateGuestTimeoutAndSize_of_waitable accepted.artifactTime
      ⟨accepted.artifactSize.1, sized⟩, ?_⟩
    refine bind_unit_ok.mpr ⟨validateReadinessPolicy_of_waitable accepted.readiness, ?_⟩
    simpa [bind_unit_ok, some_, accepted.artifactCount, total] using room
  storable := by
    intro action given path operationId cellId time jobId entries length each
    obtain ⟨some_, rfl⟩ := artifactAction_eq_some given
    have total := length ▸ accepted.artifactTotal
    obtain ⟨sum, below, found⟩ := @checkedTotal_of_bounded spec.artifacts.maxBytesPerFile
      (entries.map (·.size)) (by simpa using each)
      (by simpa using Nat.lt_of_le_of_lt total (show maxArtifactTotalBytes < 2 ^ 64 by decide))
    rw [List.length_map] at below
    refine bind_unit_ok.mpr ⟨?_, bind_unit_ok.mpr ⟨?_, ?_⟩⟩
    · cases jobId <;> rfl
    · cases jobId <;> rfl
    · rw [if_neg, if_neg, if_neg]
      · simp only [found, Option.all_some, decide_eq_true_eq, Nat.not_lt]
        exact Nat.le_trans below total
      · simp only [List.any_eq_true, decide_eq_true_eq, not_exists, not_and, Nat.not_lt]
        exact fun entry inside => Nat.le_trans (each entry inside) accepted.artifactSize.2
      · rintro (none | many)
        · exact some_ (List.eq_nil_of_length_eq_zero (length ▸ List.length_eq_zero_iff.mpr none))
        · exact absurd accepted.artifactCount (Nat.not_le.mpr (length ▸ many))

end Executing

section Building
variable {sha256 : Bytes → String} {tree : FileTree.Tree} {loaded : LoadedJobSpec}
  {host : HostPlatform} {image : ImageRecord} {probes : List ProviderProbe} {fresh : JobId}
  {now : DateTime} {plan : ResolvedJobPlan} {job : JobRunRequest}

/-- What a request is built from. -/
theorem buildJobRunRequest_ok
    (built : buildJobRunRequest sha256 tree fresh now loaded host image probes = .ok (plan, job)) :
    ∃ copyIn context, resolveRunExecutionPlan host image probes loaded.spec.intent =
        .ok plan.execution ∧ plan.execution.image = loaded.spec.image ∧
      (∀ action ∈ copyIn, ∃ input ∈ loaded.spec.copyIn,
        action.timeout = seconds input.timeoutSeconds ∧ action.maxBytes = input.maxBytes) ∧
      job = .newWithActions (loaded.spec.runCellRequest plan.execution) context
        ⟨copyIn, loaded.spec.artifactAction⟩ := by
  obtain ⟨found, resolved, rest⟩ := bind_ok.mp built
  obtain ⟨bound, rest⟩ := bind_unit_ok.mp rest
  split at rest
  · cases rest
  split at rest
  · cases rest
  obtain ⟨copyIn, copied, rest⟩ := bind_ok.mp rest
  obtain ⟨context, -, done⟩ := bind_ok.mp rest
  obtain ⟨rfl, rfl⟩ := Except.ok.inj done
  refine ⟨copyIn, context, ?_, ?_, fun action member => ?_, rfl⟩
  · unfold Except.mapError at resolved
    split at resolved
    · cases resolved
    · rename_i chosen
      obtain rfl := Except.ok.inj resolved
      obtain ⟨execution, resolves, done⟩ := bind_ok.mp chosen
      obtain rfl := Except.ok.inj done
      exact resolves
  · simp only [require_ok, Bool.not_eq_true', Bool.or_eq_false_iff, decide_eq_false_iff_not,
      Decidable.not_not] at bound
    exact bound.2
  · obtain ⟨input, listed, made⟩ := mapM_mem copied member
    obtain ⟨source, -, done⟩ := bind_ok.mp made
    obtain rfl := Except.ok.inj done
    exact ⟨input, listed, rfl, rfl⟩

def simpleJob : String :=
  "schema_version = 1\nimage = \"base\"\ncpu_count = 2\nmemory_mib = 2048\n" ++
    "[command]\nprogram = \"/usr/bin/wc\"\nargs = [\"a\"]\n[cleanup]\n" ++
    "[[copy_in]]\nsource = \"in/a\"\ndestination = \"a\"\n[artifacts]\nsources = [\"out\"]\n"

theorem wellFormed_base : ImageId.wellFormed "base" = true := by decide

def readSimpleJob (_ : String) : Option RawJobSpec := some {
  schemaVersion := 1
  image := ⟨"base", wellFormed_base⟩
  cpuCount := 2
  memoryMib := 2048
  ttlSeconds := none
  provider := none
  accelerator := none
  allowTcg := none
  command := ⟨"/usr/bin/wc", some ["a"]⟩
  readinessTimeoutSeconds := none
  actionTimeoutSeconds := none
  maxOutputBytes := none
  cleanup := ⟨none, none⟩
  copyIn := some [⟨"in/a", "a", none, none, none⟩]
  artifacts := some ⟨some ["out"], none, none⟩ }

def simpleSpec : JobSpec where
  schemaVersion := 1
  image := ⟨"base", wellFormed_base⟩
  cpuCount := 2
  memoryMib := 2048
  ttlSeconds := none
  provider := none
  accelerator := none
  allowTcg := false
  command := ⟨"/usr/bin/wc", ["a"]⟩
  readinessTimeoutSeconds := 120
  actionTimeoutSeconds := 300
  maxOutputBytes := 1048576
  cleanup := ⟨false, false⟩
  copyIn := [⟨"in/a", ⟨"a"⟩, .deny, 300, 67108864⟩]
  artifacts := ⟨[⟨"out"⟩], 300, 67108864⟩

def buildSimpleJob : Except EngineError (ResolvedJobPlan × JobRunRequest) :=
  buildJobRunRequest digestOfHi jobTree ⟨⟨List.replicate 32 1, rfl⟩⟩ 7
    ⟨["job".toList, "spec.toml".toList], digestOfHi [], simpleSpec⟩ ⟨.linux, .x86_64⟩
    ⟨imageSchemaVersion, ⟨"base", wellFormed_base⟩, .linux, .x86_64,
      [⟨"qemu", "qcow2", ⟨"/", ["base.qcow2"]⟩, "", 1⟩], 5⟩
    [⟨"qemu", .ready, true, "", ⟨automationSchemaVersion, true, true, true, ["kvm"], ["linux"],
      ["x86_64"], ["qga"], true⟩⟩]

end Building

end VmCell
