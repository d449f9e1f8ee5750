import VmCell.Engine.Processes
import VmCell.Interaction.Hearing

/-! A tombstone is written only for an object that is gone.

Whoever saves the record of a destroyed cell has asked the provider for the
recorded object in the same section and has been told that there is none.
-/

set_option autoImplicit false
namespace VmCell

open Interaction Fallible

section Rule

/-- The answer that there is no object with the recorded identifier. -/
def absence (identity : ProviderObjectIdentity) : Answer signature :=
  ⟨.observe (.inspectVm (.id identity.id)), .ok none⟩

/-- The recorded object has been reported absent. -/
def Missing (told : Answer signature → Prop) (record : CellRecord) : Prop :=
  ∃ identity, record.providerObject = some identity ∧ told (absence identity)

/-- A tombstone calls for the answer that the recorded object is absent. -/
def Warranted (told : Answer signature → Prop) : Op → Prop
  | .mutate (.saveCell record) =>
      record.state = .destroyed → record.phase = .destroyed → Missing told record
  | _ => True

/-- Effects that write no tombstone. -/
def Spares : Op → Prop
  | .mutate (.saveCell record) => record.state ≠ .destroyed ∨ record.phase ≠ .destroyed
  | _ => True

theorem Spares.warranted {told : Answer signature → Prop} {op : Op} (spares : Spares op) :
    Warranted told op := by
  cases op with
  | mutate m =>
      cases m with
      | saveCell record =>
          intro destroyed tombstone
          rcases spares with state | phase
          · exact absurd destroyed state
          · exact absurd tombstone phase
      | _ => trivial
  | _ => trivial

theorem Free.spares {op : Op} (free : Free op) : Spares op := by
  cases op with
  | mutate m => exact free.elim
  | _ => trivial

variable {A : Type}

/-- Code that looks. -/
theorem spares_passive {p : Engine A} (passive : Passive (I := signature) Free p) :
    Passive (I := signature) Spares p := passive.mono fun _ free => free.spares

theorem spares_query {q : Query} : Passive (I := signature) Spares (query q) := .effect trivial

theorem spares_now : Passive (I := signature) Spares now := spares_passive passive_now

theorem spares_provider {authority : ProviderMutationAuthority} {action : ProviderAction} :
    Passive (I := signature) Spares (callProvider authority action) := .effect trivial

theorem spares_transport {authority : GuestActionAuthority} {operationId : GuestOperationId}
    {action : TransportAction} :
    Passive (I := signature) Spares (callTransport authority operationId action) :=
  .effect trivial

end Rule

section Cells
variable {site : Site} {provider : String} {A : Type}

theorem spares_saveCell {record : CellRecord}
    (live : record.state ≠ .destroyed ∨ record.phase ≠ .destroyed) :
    Passive (I := signature) Spares (mutate (.saveCell record)) := .effect live

theorem spares_savePhase {record : CellRecord} {phase : CellPhase} (live : phase ≠ .destroyed) :
    Passive (I := signature) Spares (savePhase record phase) :=
  spares_now.bind fun _ => (spares_saveCell (Or.inr live)).bind fun _ => .pure

theorem spares_failRecord {record : CellRecord} {error : EngineError} :
    Passive (I := signature) Spares (failRecord record error : Engine A) :=
  spares_now.bind fun _ => (spares_saveCell (Or.inl (by simp))).bind fun _ => .fail

theorem spares_orFail {record : CellRecord} {step : Engine A}
    (first : Passive (I := signature) Spares step) :
    Passive (I := signature) Spares (orFail record step) :=
  first.handle fun _ => spares_failRecord

/-- A step of a creation that only looks. -/
theorem spares_orFail_passive {record : CellRecord} {step : Engine A}
    (passive : Passive (I := signature) Free step) :
    Passive (I := signature) Spares (orFail record step) := spares_orFail (spares_passive passive)

theorem spares_recordCellIntent {spec : CellSpec} {cellId : CellId} {job : Option JobCorrelation} :
    Passive (I := signature) Spares (recordCellIntent site provider spec cellId job) := by
  unfold recordCellIntent
  refine spares_query.bind fun image => Passive.lift.bind fun variant => ?_
  refine (spares_passive passive_verifyRegisteredImage).bind fun parent => ?_
  refine (spares_passive passive_newUuid).bind fun fresh => ?_
  refine Passive.bind (.effect trivial) fun installation => spares_query.bind fun authority => ?_
  refine Passive.lift.bind fun _ => spares_now.bind fun time => ?_
  refine (spares_passive passive_newUuid).bind fun operationId => ?_
  exact (spares_saveCell (Or.inl (by simp [intentRecord]))).bind fun _ => .pure

theorem spares_requireNameUnused {record : CellRecord} :
    Passive (I := signature) Spares (requireNameUnused record) := by
  refine (spares_passive passive_inspectVm).bind ?_
  rintro (_ | vm)
  · exact .pure
  · exact spares_failRecord

theorem spares_provisionOverlay {authority : ProviderMutationAuthority} :
    Passive (I := signature) Spares (provisionOverlay site authority) := by
  refine (spares_orFail_passive passive_validatePathIdentity).bind fun _ => ?_
  refine (spares_orFail spares_provider).bind fun overlay => ?_
  refine (spares_orFail_passive passive_validatePathIdentity).bind fun _ => ?_
  exact (spares_orFail_passive .lift).bind fun _ => spares_savePhase (by decide)

theorem spares_provisionVm {authority : ProviderMutationAuthority} :
    Passive (I := signature) Spares (provisionVm authority) := by
  refine (spares_orFail spares_provider).bind fun created => ?_
  exact (spares_orFail_passive .lift).bind fun identity => spares_savePhase (by decide)

theorem spares_claimNewVm {authority : ProviderMutationAuthority} :
    Passive (I := signature) Spares (claimNewVm site authority) := by
  refine Passive.lift.bind fun identity => (spares_passive passive_inspectVm).bind fun found => ?_
  refine (spares_orFail_passive .lift).bind fun vm => ?_
  refine (spares_orFail_passive .lift).bind fun _ => ?_
  refine (spares_orFail_passive .lift).bind fun _ => ?_
  refine (spares_orFail spares_provider).bind fun claimed => ?_
  refine (spares_orFail_passive .lift).bind fun _ => ?_
  exact (spares_savePhase (by decide)).bind fun _ => .pure

theorem spares_configureNewVm {authority : ProviderMutationAuthority} {claimed : ProviderVm} :
    Passive (I := signature) Spares (configureNewVm site authority claimed) := by
  refine (spares_orFail spares_provider).bind fun vm => ?_
  exact (spares_orFail_passive .lift).bind fun _ => spares_savePhase (by decide)

theorem spares_createCellLocked {spec : CellSpec} {cellId : CellId} {job : Option JobCorrelation} :
    Passive (I := signature) Spares (createCellLocked site provider spec cellId job) := by
  refine spares_recordCellIntent.bind fun intent => ?_
  refine Passive.bind (spares_orFail (.effect trivial)) fun runtime => ?_
  refine spares_requireNameUnused.bind fun _ => spares_provisionOverlay.bind fun record => ?_
  refine spares_provisionVm.bind fun record => spares_claimNewVm.bind fun claimed => ?_
  exact spares_configureNewVm

theorem spares_settleReady {record : CellRecord} {state : CellState} {changed : Bool} :
    Passive (I := signature) Spares (settleReady record state changed) :=
  spares_now.bind fun _ => (spares_saveCell (Or.inr (by simp))).bind fun _ => .pure

theorem spares_changePower {record : CellRecord} {action : ProviderAction}
    {power : ProviderPowerState} {state : CellState} :
    Passive (I := signature) Spares (changePower site provider record action power state) := by
  refine spares_query.bind fun installation => Passive.lift.bind fun _ => ?_
  refine spares_query.bind fun runtime => spares_provider.bind fun _ => ?_
  refine (spares_passive passive_exactOwnedVm).bind fun after => Passive.lift.bind fun _ => ?_
  exact spares_settleReady

theorem spares_startOwnedVm {record : CellRecord} {before : ProviderVm} :
    Passive (I := signature) Spares (startOwnedVm site provider record before) := by
  have verified : Passive (I := signature) Spares
      (verifyRegisteredImage site provider record.image.toVariant >>= fun _ =>
        changePower site provider record (.startVm before) .running .running :
          Engine OperationReport) :=
    (spares_passive passive_verifyRegisteredImage).bind fun _ => spares_changePower
  unfold startOwnedVm
  split
  · exact spares_settleReady
  · exact .ite .fail (.ite verified spares_changePower)
  · exact .ite verified .fail
  · exact .fail

theorem spares_startCellLocked {cellId : CellId} :
    Passive (I := signature) Spares (startCellLocked site provider cellId) :=
  spares_query.bind fun _ => Passive.lift.bind fun _ =>
    (spares_passive passive_exactOwnedVm).bind fun _ => spares_startOwnedVm

theorem spares_stopOwnedVm {record : CellRecord} {before : ProviderVm} :
    Passive (I := signature) Spares (stopOwnedVm site provider record before) := by
  unfold stopOwnedVm
  split
  · exact spares_settleReady
  · exact spares_changePower
  · exact .fail

theorem spares_stopCellLocked {cellId : CellId} :
    Passive (I := signature) Spares (stopCellLocked site provider cellId) :=
  spares_query.bind fun _ => Passive.lift.bind fun _ =>
    (spares_passive passive_exactOwnedVm).bind fun _ => spares_stopOwnedVm

end Cells

section Guests
variable {site : Site} {provider : String} {transport : GuestTransport} {rounds : Nat} {A : Type}

theorem spares_saveGuestOperation {operation : GuestOperationRecord} :
    Passive (I := signature) Spares (mutate (.saveGuestOperation operation)) := .effect trivial

theorem spares_admitGuestOperation {dispatch : GuestOperationDispatch} :
    Passive (I := signature) Spares (admitGuestOperation site provider transport dispatch) := by
  unfold admitGuestOperation
  refine spares_query.bind fun record => Passive.lift.bind fun _ => Passive.lift.bind fun _ => ?_
  refine spares_query.bind fun operations => Passive.lift.bind fun _ => ?_
  refine Passive.lift.bind fun guestOs => Passive.lift.bind fun _ => ?_
  refine (spares_passive passive_exactOwnedVm).bind fun expected => Passive.lift.bind fun _ => ?_
  refine spares_now.bind fun time => (spares_passive passive_newUuid).bind fun id => ?_
  exact spares_saveGuestOperation.bind fun _ => .pure

theorem spares_authorizeGuestOperation {admitted : AdmittedOperation} :
    Passive (I := signature) Spares (authorizeGuestOperation site provider admitted) :=
  spares_query.bind fun _ => Passive.lift.bind fun _ => spares_query.bind fun _ => .lift

theorem spares_observe {o : Observation} : Passive (I := signature) Spares (observe o) :=
  .effect trivial

theorem spares_pollGuestReady {authority : GuestActionAuthority} {operationId : GuestOperationId}
    {policy : ReadinessPolicy} {deadline : Nat} {last : GuestReadiness} :
    Passive (I := signature) Spares
      (pollGuestReady authority operationId policy deadline rounds last) := by
  induction rounds generalizing last with
  | zero => trivial
  | succ rounds ih =>
      refine spares_observe.bind fun (instant : Nat) => .ite .fail ?_
      refine spares_transport.bind fun (status : GuestReadiness) => ?_
      have again : Passive (I := signature) Spares (do
          let instant : Nat ← observe .instant
          observe (.sleep (min policy.pollInterval (deadline - instant)))
          pollGuestReady authority operationId policy deadline rounds status : Engine Unit) :=
        spares_observe.bind fun _ => spares_observe.bind fun _ => ih
      cases status with
      | ready => exact .pure
      | authenticationFailed => exact .fail
      | guestNotReady => exact again
      | sessionFailed => exact again

theorem spares_waitForGuestReady {authority : GuestActionAuthority}
    {operationId : GuestOperationId} {policy : ReadinessPolicy} :
    Passive (I := signature) Spares (waitForGuestReady rounds authority operationId policy) :=
  Passive.lift.bind fun _ => spares_observe.bind fun _ => spares_pollGuestReady

theorem spares_executeGuestOperation {admitted : AdmittedOperation} {readiness : ReadinessPolicy}
    {action : GuestAction A}
    (spares : ∀ authority id, Passive (I := signature) Spares (action authority id)) :
    Passive (I := signature) Spares
      (executeGuestOperation site provider rounds readiness admitted action) := by
  refine spares_authorizeGuestOperation.attempt.bind ?_
  rintro (error | authority)
  · exact .pure
  · refine spares_now.bind fun time => ?_
    refine (Passive.bind spares_saveGuestOperation
      fun _ => spares_waitForGuestReady).attempt.bind ?_
    rintro (error | _)
    · exact .pure
    · exact (spares _ _).attempt.bind fun _ => .pure

theorem spares_settleGuestOperation {execution : Execution A} :
    Passive (I := signature) Spares (settleGuestOperation execution) := by
  unfold settleGuestOperation
  split
  · refine spares_now.bind fun time => .ite ?_ ?_
    · refine spares_saveGuestOperation.bind fun _ => spares_now.bind fun later => ?_
      exact spares_saveGuestOperation.bind fun _ => .pure
    · exact spares_saveGuestOperation.bind fun _ => .pure
  · exact spares_now.bind fun _ => spares_saveGuestOperation.bind fun _ => .fail

theorem spares_runGuestOperationLocked {dispatch : GuestOperationDispatch} {action : GuestAction A}
    (spares : ∀ authority id, Passive (I := signature) Spares (action authority id)) :
    Passive (I := signature) Spares
      (runGuestOperationLocked site provider transport rounds dispatch action) := by
  refine spares_admitGuestOperation.attempt.bind ?_
  rintro (error | admitted)
  · exact .pure
  · refine (spares_executeGuestOperation spares).bind fun execution => ?_
    exact spares_settleGuestOperation.attempt.bind fun _ => .pure

theorem spares_execAction {cellId : CellId} {command : GuestCommand} {onReady : Engine Unit}
    (ready : Passive (I := signature) Free onReady) (authority : GuestActionAuthority)
    (id : GuestOperationId) :
    Passive (I := signature) Spares (execAction cellId command onReady authority id) :=
  (spares_passive ready).bind fun _ => spares_transport.bind fun _ =>
    Passive.lift.bind fun _ => .pure

theorem spares_copyInAction {request : GuestCopyInRequest} {content : Bytes}
    (authority : GuestActionAuthority) (id : GuestOperationId) :
    Passive (I := signature) Spares (copyInAction request content authority id) :=
  spares_transport.bind fun _ => .pure

theorem spares_collectArtifactsFrom {request : ArtifactCollectRequest}
    {authority : GuestActionAuthority} {id : GuestOperationId} {index : Nat}
    {sources : List GuestPath} :
    Passive (I := signature) Spares
      (collectArtifactsFrom site request authority id index sources) := by
  induction sources generalizing index with
  | nil => exact .pure
  | cons source rest ih =>
      have one : Passive (I := signature) Spares
          (collectArtifact site request authority id index source) :=
        spares_transport.bind fun _ => Passive.lift.bind fun _ =>
          Passive.bind (.effect trivial) fun _ => .pure
      exact one.bind fun _ => ih.bind fun _ => .pure

theorem spares_collectAction {request : ArtifactCollectRequest} {jobId : Option JobId}
    (authority : GuestActionAuthority) (id : GuestOperationId) :
    Passive (I := signature) Spares (collectAction site request jobId authority id) := by
  refine Passive.bind (.effect trivial) fun _ => ?_
  refine spares_collectArtifactsFrom.bind fun entries => spares_now.bind fun time => ?_
  exact Passive.bind (.effect trivial) fun _ => .pure

theorem spares_reconcileGuestOperationLocked {operationId : GuestOperationId} :
    Passive (I := signature) Spares (reconcileGuestOperationLocked operationId) := by
  refine spares_query.bind fun operation => spares_query.bind fun _ => ?_
  unfold reconcileLoaded
  split
  · exact .pure
  · exact .pure
  · exact .pure
  · exact spares_now.bind fun _ => spares_saveGuestOperation.bind fun _ => .pure
  · refine Passive.lift.bind fun _ => spares_query.bind fun _ => spares_now.bind fun time => ?_
    exact spares_saveGuestOperation.bind fun _ => .pure

theorem spares_pruneOperation {dryRun : Bool} {evaluatedAt : DateTime}
    {operation : GuestOperationRecord} :
    Passive (I := signature) Spares (pruneOperation dryRun evaluatedAt operation) := by
  have prune : Passive (I := signature) Spares (pruneArtifact evaluatedAt operation) :=
    .ite (Passive.bind (.effect trivial) fun _ => .pure)
      (spares_saveGuestOperation.bind fun _ => Passive.bind (.effect trivial) fun _ => .pure)
  refine spares_query.bind fun _ => (spares_passive passive_pruneBytes).bind fun bytes => ?_
  exact Passive.bind (.ite .pure prune) fun _ => .pure

theorem spares_pruneOperations {request : ArtifactPruneRequest} {evaluatedAt cutoff : DateTime}
    {operations : List GuestOperationRecord} {entries : List ArtifactPruneEntry} :
    Passive (I := signature) Spares
      (pruneOperations request evaluatedAt cutoff operations entries) := by
  induction operations generalizing entries with
  | nil => exact .pure
  | cons operation rest ih =>
      exact .ite ih (.ite .pure (spares_pruneOperation.bind fun _ => ih))

theorem spares_pruneArtifactsLocked {request : ArtifactPruneRequest}
    {evaluatedAt cutoff : DateTime} :
    Passive (I := signature) Spares (pruneArtifactsLocked request evaluatedAt cutoff) :=
  spares_query.bind fun _ => spares_pruneOperations.bind fun _ => .pure

end Guests

section Images
variable {site : Site} {provider : String}

theorem spares_registerImageLocked {request : RegisterImageRequest} :
    Passive (I := signature) Spares (registerImageLocked site provider request) := by
  refine (spares_passive passive_validateImagePath).bind fun report => ?_
  refine Passive.lift.bind fun variant => spares_now.bind fun time => ?_
  unfold settleRegistration
  refine spares_query.attempt.bind fun existing => ?_
  split
  · exact .ite .pure .fail
  · exact Passive.bind (.effect trivial) fun _ => .pure
  · exact .fail

theorem spares_unregisterImageLocked {imageId : ImageId} :
    Passive (I := signature) Spares (unregisterImageLocked imageId) := by
  have registered : Passive (I := signature) Spares (imageRegistered imageId) := by
    unfold imageRegistered
    refine spares_query.attempt.bind fun existing => ?_
    split
    · exact .pure
    · exact .pure
    · exact .fail
  refine Passive.bind (spares_query.bind fun _ => Passive.lift.bind fun _ => .pure)
    fun dependencies => Passive.lift.bind fun _ => registered.bind fun present => ?_
  exact Passive.bind (.ite (.effect trivial) .pure) fun _ => .pure

end Images

section Destruction
variable {site : Site} {provider : String} {i : Pid} {told : Answer signature → Prop} {A : Type}

/-- The discipline of tombstones. -/
abbrev wary : Discipline signature (Answer signature → Prop) := hearing Free Warranted

/-- Code that writes a tombstone only where it is warranted. -/
abbrev Wary (i : Pid) (good : A → (Answer signature → Prop) → Prop) (p : Engine A)
    (told : Answer signature → Prop) : Prop :=
  Within (wary.effects i) (wary.allowed i) good (fun _ _ => True) p told

theorem wary_spares {p : Engine A} {good : A → (Answer signature → Prop) → Prop}
    (spares : Passive (I := signature) Spares p) (ok : ∀ a, good a told) : Wary i good p told :=
  spares.within (fun _ harmless => harmless.warranted) (fun _ step => step.2) ok fun _ => trivial

theorem wary_query {q : Query} {good : q.Answer → (Answer signature → Prop) → Prop}
    (ok : ∀ answer, good answer told) : Wary i good (query q) told := wary_spares spares_query ok

theorem wary_lift {result : Except EngineError A} {good : A → (Answer signature → Prop) → Prop}
    (ok : ∀ a, result = .ok a → good a told) : Wary i good (lift result) told :=
  Within.lift ok fun _ _ => trivial

theorem wary_inspectVm {lookup : VmLookup}
    {good : Option ProviderVm → (Answer signature → Prop) → Prop}
    (ok : ∀ found, good found told) : Wary i good (inspectVm lookup) told :=
  wary_spares (spares_passive passive_inspectVm) ok

/-- An inspection that finds nothing tells that the object is absent. -/
theorem wary_inspectId (identity : ProviderObjectIdentity)
    {good : Option ProviderVm → (Answer signature → Prop) → Prop}
    (ok : ∀ found, (found = none → told (absence identity)) → good found told) :
    Wary i good (inspectVm (.id identity.id)) told := by
  refine Within.bind (Within.effect (I := signature) trivial ?_)
  rintro answer later ⟨heard, rfl⟩
  refine wary_lift fun found mapped => ok found ?_
  rintro rfl
  cases answer with
  | error failure => cases mapped
  | ok reported =>
      obtain rfl : reported = none := Except.ok.inj mapped
      exact heard

/-- The proven object is the recorded one, and it is looked for after its removal. -/
theorem wary_removeProven {authority : ProviderMutationAuthority} {vm : ProviderVm}
    {good : Unit → (Answer signature → Prop) → Prop}
    (ok : Missing told authority.record → good () told) :
    Wary i good (removeProven site provider authority vm) told := by
  refine Within.bind (wary_lift fun _ _ => ?_)
  refine Within.bind (wary_lift fun _ proven => ?_)
  -- the proof says that the object is the recorded one
  obtain ⟨identified, _⟩ := proveDestroyIdentity_ok.mp proven
  refine Within.bind (wary_spares spares_provider fun _ => ?_)
  refine Within.bind (wary_inspectId ⟨vm.id, vm.name⟩ fun byId absent => ?_)
  refine Within.bind (wary_lift fun _ gone => ?_)
  have missing : byId = none := Option.isNone_iff_eq_none.mp (require_ok.mp gone)
  refine Within.bind (wary_inspectVm fun byName => wary_lift fun _ _ => ok ?_)
  exact ⟨_, identified.recorded, absent missing⟩

theorem spares_proveForDestroy {authority : ProviderMutationAuthority} {vm : ProviderVm} :
    Passive (I := signature) Spares (proveForDestroy site authority vm) := by
  unfold proveForDestroy
  simp only
  split
  · refine Passive.lift.bind fun _ => spares_provider.bind fun claimed => ?_
    exact Passive.lift.bind fun _ => (spares_savePhase (by decide)).bind fun _ => .pure
  · exact Passive.lift.bind fun _ => .pure
  · exact Passive.lift.bind fun _ => .pure
  · exact Passive.lift.bind fun _ => .pure
  · exact Passive.lift.bind fun _ => .pure
  · exact .fail

theorem spares_saveDestroying {proof : DestroyProof} :
    Passive (I := signature) Spares (saveDestroying proof) := by
  refine spares_savePhase ?_
  split
  · decide
  · decide

theorem spares_stopForDestroy {authority : ProviderMutationAuthority} {vm : ProviderVm} :
    Passive (I := signature) Spares (stopForDestroy site provider authority vm) := by
  refine .ite .pure ?_
  refine Passive.lift.bind fun _ => spares_provider.bind fun _ => ?_
  refine (spares_passive passive_inspectVm).bind fun found => Passive.lift.bind fun stopped => ?_
  exact Passive.lift.bind fun _ => Passive.lift.bind fun _ => .pure

theorem wary_removeRuntime {cellId : CellId} {guard : CellRuntimeGuard}
    {good : Unit → (Answer signature → Prop) → Prop} (ok : good () told) :
    Wary i good (mutate (.removeCellRuntime cellId guard)) told :=
  wary_spares (.effect trivial) fun _ => ok

theorem wary_destroyPresent {record : CellRecord} {installation : InstallationRecord}
    {vm : ProviderVm} {good : CellRecord → (Answer signature → Prop) → Prop}
    (ok : ∀ record, Missing told record → good record told) :
    Wary i good (destroyPresent site provider record installation vm) told := by
  refine Within.bind (wary_query fun runtime => ?_)
  refine Within.bind (wary_spares spares_proveForDestroy fun proof => ?_)
  refine Within.bind (wary_spares spares_saveDestroying fun record => ?_)
  refine Within.bind (wary_spares spares_stopForDestroy fun vm => ?_)
  refine Within.bind (wary_removeProven fun missing => ?_)
  refine Within.bind (wary_lift fun _ _ => ?_)
  exact Within.bind (wary_removeRuntime (ok record missing))

theorem wary_destroyAbsent {record : CellRecord} {installation : InstallationRecord}
    {good : CellRecord → (Answer signature → Prop) → Prop} (ok : good record told) :
    Wary i good (destroyAbsent site provider record installation) told := by
  refine Within.bind (wary_inspectVm fun byName => ?_)
  refine Within.bind (wary_lift fun _ _ => ?_)
  refine Within.bind (wary_query fun (entry : Bool) => ?_)
  refine Within.ite (fun _ => ?_) fun _ => ok
  refine Within.bind (wary_query fun runtime => ?_)
  refine Within.bind (wary_lift fun _ _ => ?_)
  exact Within.bind (wary_removeRuntime ok)

theorem wary_finishDestroy {record : CellRecord} {installation : InstallationRecord}
    (missing : Missing told record) :
    Wary i (fun _ _ => True) (finishDestroy site provider record installation) told := by
  refine Within.bind (wary_lift fun _ _ => ?_)
  refine Within.bind (Within.bind (wary_spares spares_now fun time => ?_))
  refine Within.bind (Within.effect (I := signature) (fun _ _ => missing) ?_)
  rintro (error | _) later ⟨_, rfl⟩
  · trivial
  · trivial

/-- Either way of destruction ends with the answer that the object is absent. -/
theorem wary_destroyCellLocked {cellId : CellId} :
    Wary i (fun _ _ => True) (destroyCellLocked site provider cellId) told := by
  refine Within.bind (wary_query fun record => ?_)
  refine Within.ite (fun _ => ?_) fun _ => ?_
  · -- a tombstone is confirmed and not written again
    refine Within.bind (wary_spares (spares_passive passive_reconcileRecord) fun _ => ?_)
    exact Within.ite (fun _ => trivial) fun _ => trivial
  · refine Within.bind (wary_query fun installation => ?_)
    refine Within.bind (wary_lift fun _ _ => ?_)
    cases object : record.providerObject with
    | none =>
        refine Within.bind (wary_inspectVm fun found => ?_)
        cases found with
        | none => trivial
        | some vm => trivial
    | some identity =>
        -- the first inspection may be the answer, or the one after the removal
        refine Within.bind (wary_inspectId _ fun found absent => ?_)
        refine Within.bind ?_
        cases found with
        | none => exact wary_destroyAbsent (wary_finishDestroy ⟨identity, object, absent rfl⟩)
        | some vm => exact wary_destroyPresent fun _ missing => wary_finishDestroy missing

theorem wary_destroyCellForRunLocked {cellId : CellId} :
    Wary i (fun _ _ => True) (destroyCellForRunLocked site provider cellId) told :=
  Within.bind (wary_query fun _ => Within.bind (wary_lift fun _ _ => wary_destroyCellLocked))

theorem wary_gcCell {evaluatedAt : DateTime} {operations : List GuestOperationRecord}
    {record : CellRecord} :
    Wary i (fun _ _ => True) (gcCell site provider evaluatedAt operations record) told := by
  unfold gcCell
  split
  · trivial
  · refine Within.ite (fun _ => trivial) fun _ => Within.ite (fun _ => trivial) fun _ => ?_
    exact Within.bind (Within.attempt (wary_destroyCellLocked.weaken (fun _ _ _ => trivial)
      fun _ _ _ => trivial))

theorem wary_gcCells {evaluatedAt : DateTime} {operations : List GuestOperationRecord}
    {cells : List CellRecord} :
    Wary i (fun _ _ => True) (gcCells site provider evaluatedAt operations cells) told := by
  induction cells generalizing told with
  | nil => trivial
  | cons record rest ih =>
      refine Within.ite (fun _ => ih) fun _ => ?_
      refine Within.bind (wary_gcCell.weaken (fun _ _ _ => ?_) fun _ _ _ => trivial)
      exact Within.bind (ih.weaken (fun _ _ _ => trivial) fun _ _ _ => trivial)

theorem wary_gcExpiredLocked {evaluatedAt : DateTime} :
    Wary i (fun _ _ => True) (gcExpiredLocked site provider evaluatedAt) told :=
  Within.bind (wary_query fun _ => Within.bind (wary_query fun _ =>
    Within.bind (wary_gcCells.weaken (fun _ _ _ => trivial) fun _ _ _ => trivial)))

end Destruction

theorem sections_wary (site : Site) : Sections wary site (fun _ _ _ => True) where
  looks := fun free => free
  draws := fun _ => trivial
  lasts := fun _ _ => trivial
  create := fun _ => wary_spares spares_createCellLocked fun _ => trivial
  start := wary_spares spares_startCellLocked fun _ => trivial
  stop := wary_spares spares_stopCellLocked fun _ => trivial
  destroy := wary_destroyCellLocked
  destroyForRun := wary_destroyCellForRunLocked
  gc := wary_gcExpiredLocked
  exec := fun ready =>
    wary_spares (spares_runGuestOperationLocked (spares_execAction ready)) fun _ => trivial
  copyIn := wary_spares (spares_runGuestOperationLocked spares_copyInAction) fun _ => trivial
  collect := wary_spares (spares_runGuestOperationLocked spares_collectAction) fun _ => trivial
  reconcile := wary_spares spares_reconcileGuestOperationLocked fun _ => trivial
  prune := wary_spares spares_pruneArtifactsLocked fun _ => trivial
  register := wary_spares spares_registerImageLocked fun _ => trivial
  unregister := wary_spares spares_unregisterImageLocked fun _ => trivial

namespace Manager
variable {env : Environment} {i : Pid} {c d e : Manager}
  {heard : Pid → List (Answer signature)}

/-- A run of the manager, with what every process has been answered since it last
took the lock. -/
abbrev Recounts (env : Environment) (c : Manager) (heard : Pid → List (Answer signature))
    (d : Manager) : Prop :=
  Config.Recounts env.effects (Programs env.site) c heard d

/-- A tombstone is written by a process that has been told, since it took the lock,
that the recorded object is absent. -/
theorem warranted {op : Op} {reply : op.Reply} (idle : c.Idle) (recounts : Recounts env c heard d)
    (step : Effect env d i op reply e) : Warranted (· ∈ heard i) op := by
  have justified := Config.Recounts.justifies
    (fun _ command i told => (sections_wary env.site).safe command i told) idle recounts step
  rcases justified with free | warranted
  · exact free.spares.warranted
  · exact warranted

end Manager

end VmCell
