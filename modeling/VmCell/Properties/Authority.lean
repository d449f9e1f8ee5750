import VmCell.Engine.Rehearsal
import VmCell.Provider.Authority
import VmCell.State.Integrity

/-! The engine's proofs against the provider's checks.

Every provider call of a section is one that the provider's check accepts, for
every record, snapshot and answer, as long as the snapshot of one object changes
only in its power state.
-/

set_option autoImplicit false
namespace VmCell

open Interaction Fallible

section Answers
variable (site : Site) (snapshot : String → ProviderVm)

/-- Answers of a host on which nothing but power changes. The store answers from
any state it may be in, and everything else is free. -/
def Steady : (op : Op) → op.Reply → Prop
  | .query q, reply => ∃ s, reply = q.eval site s
  | .mutate m, reply => ∀ answer, reply = .ok answer → ∃ s t, m.apply site s = .ok (answer, t)
  | .observe (.inspectVm (.id id)), reply =>
      ∀ vm : ProviderVm, reply = .ok (some vm) →
        vm = { snapshot id with powerState := vm.powerState }
  | _, _ => True

def steadyEffects : Effects signature Unit := fun op _ reply _ => Steady site snapshot op reply

/-- A provider call is made only if the provider's check accepts it. -/
def Accepted (fs : Filesystem) (op : Op) (_ : Unit) : Prop :=
  ∀ authority action, op = .provider authority action →
    authority.validateAction site.platform fs action = .ok ()

/-- Code whose provider calls are all accepted. -/
def Obeys (fs : Filesystem) {A : Type} (good : A → Prop) (p : Engine A) : Prop :=
  Within (steadyEffects site snapshot) (Accepted site fs) (fun a _ => good a) (fun _ _ => True) p ()

end Answers

section Rules
variable {site : Site} {snapshot : String → ProviderVm} {fs : Filesystem} {A B : Type}
  {good : A → Prop}

theorem accepted_of_free {op : Op} (free : Free op) : Accepted site fs op () := by
  rintro authority action rfl
  exact free.elim

theorem accepted_mutate {m : Mutation} : Accepted site fs (.mutate m) () :=
  fun _ _ same => nomatch same

theorem Obeys.pure {a : A} (holds : good a) : Obeys site snapshot fs good (pure a) := holds

theorem Obeys.fail {error : EngineError} : Obeys site snapshot fs good (fail error) := trivial

theorem Obeys.bind {p : Engine B} {f : B → Engine A}
    (first : Obeys site snapshot fs (fun b => Obeys site snapshot fs good (f b)) p) :
    Obeys site snapshot fs good (p >>= f : Engine A) := Within.bind first

theorem Obeys.weaken {p : Engine A} {other : A → Prop} (first : Obeys site snapshot fs good p)
    (ok : ∀ a, good a → other a) : Obeys site snapshot fs other p :=
  Within.weaken first (fun a _ => ok a) fun _ _ _ => trivial

theorem Obeys.lift {result : Except EngineError A} (ok : ∀ a, result = .ok a → good a) :
    Obeys site snapshot fs good (Fallible.lift result) :=
  Within.lift ok fun _ _ => trivial

theorem Obeys.ite {condition : Prop} [Decidable condition] {p q : Engine A}
    (yes : condition → Obeys site snapshot fs good p)
    (no : ¬condition → Obeys site snapshot fs good q) :
    Obeys site snapshot fs good (if condition then p else q) := Within.ite yes no

/-- Code that only looks. -/
theorem Obeys.passive {p : Engine A} (passive : Passive (I := signature) Free p)
    (ok : ∀ a, good a) : Obeys site snapshot fs good p := by
  refine Within.weaken (passive.permits.permit ?_) (fun a _ _ => ok a) fun _ _ _ => trivial
  exact fun op _ free => accepted_of_free free

theorem obeys_query {q : Query} {good : q.Answer → Prop}
    (ok : ∀ answer s, q.eval site s = .ok answer → good answer) :
    Obeys site snapshot fs good (query q) := by
  refine Within.effect (I := signature) (accepted_of_free trivial) ?_
  rintro reply _ ⟨s, answered⟩
  cases reply with
  | ok answer => exact ok answer s answered.symm
  | error failure => trivial

theorem obeys_mutate {m : Mutation} {good : m.Answer → Prop}
    (ok : ∀ answer s t, m.apply site s = .ok (answer, t) → good answer) :
    Obeys site snapshot fs good (mutate m) := by
  refine Within.effect (I := signature) accepted_mutate ?_
  intro reply _ steady
  cases reply with
  | ok answer =>
      obtain ⟨s, t, applied⟩ := steady answer rfl
      exact ok answer s t applied
  | error failure => trivial

theorem obeys_inspectId {id : String} {good : Option ProviderVm → Prop}
    (ok : ∀ found, (∀ vm, found = some vm → vm = { snapshot id with powerState := vm.powerState }) →
      good found) : Obeys site snapshot fs good (inspectVm (.id id)) := by
  refine Obeys.bind (Within.effect (I := signature) (accepted_of_free trivial) ?_)
  intro reply _ steady
  refine Obeys.lift fun found answered => ok found ?_
  rintro vm rfl
  refine steady vm ?_
  cases reply with
  | ok found => exact congrArg _ (Except.ok.inj answered)
  | error failure => cases answered

theorem obeys_provider {authority : ProviderMutationAuthority} {action : ProviderAction}
    {good : action.Answer → Prop}
    (accepted : authority.validateAction site.platform fs action = .ok ())
    (ok : ∀ answer, good answer) :
    Obeys site snapshot fs good (callProvider authority action) := by
  refine Within.effect (I := signature) ?_ ?_
  · rintro other request ⟨⟩
    exact accepted
  · intro reply _ _
    cases reply with
    | ok answer => exact ok answer
    | error failure => trivial

theorem obeys_savePhase {record : CellRecord} {phase : CellPhase} {good : CellRecord → Prop}
    (ok : ∀ time, good { record with phase := phase, updatedAt := time }) :
    Obeys site snapshot fs good (savePhase record phase) := by
  refine Obeys.bind (Obeys.passive passive_now fun time => ?_)
  exact Obeys.bind (obeys_mutate fun _ _ _ _ => Obeys.pure (ok time))

theorem obeys_failRecord {record : CellRecord} {error : EngineError} :
    Obeys site snapshot fs good (failRecord record error) := by
  refine Obeys.bind (Obeys.passive passive_now fun time => ?_)
  exact Obeys.bind (obeys_mutate fun _ _ _ _ => Obeys.fail)

theorem obeys_orFail {record : CellRecord} {step : Engine A}
    (first : Obeys site snapshot fs good step) :
    Obeys site snapshot fs good (orFail record step) :=
  Within.handle (Within.weaken first (fun _ _ holds => holds) fun _ _ _ => obeys_failRecord)

end Rules

section Sections
variable {site : Site} {provider : String} {snapshot : String → ProviderVm} {fs : Filesystem}

theorem Issued.of_same {authority : ProviderMutationAuthority} {new : CellRecord}
    (issued : Issued site provider authority) (same : SameCell authority.record new)
    (object : new.providerObject = authority.record.providerObject) :
    Issued site provider ⟨new, authority.installation, authority.runtime⟩ where
  named := issued.named
  owned := issued.owned.of_same same object
  runtime := by rw [same.id, same.ownership]; exact issued.runtime

theorem pinCellRuntimeFor_guard {s : Store} {cellId : CellId} {configuration overlay : PathBuf}
    {guard : CellRuntimeGuard}
    (pinned : s.pinCellRuntimeFor site cellId configuration overlay = .ok guard) :
    guard = ⟨cellId, configuration, overlay⟩ := by
  obtain ⟨_, rest⟩ := bind_unit_ok.mp pinned
  obtain ⟨_, same⟩ := bind_unit_ok.mp rest
  exact (Except.ok.inj same).symm

theorem prepareCellRuntimeFor_guard {s t : Store} {cellId : CellId}
    {configuration overlay : PathBuf} {guard : CellRuntimeGuard}
    (prepared : s.prepareCellRuntimeFor site cellId configuration overlay = .ok (guard, t)) :
    guard = ⟨cellId, configuration, overlay⟩ := by
  obtain ⟨_, rest⟩ := bind_unit_ok.mp prepared
  simp only at rest
  split at rest
  · cases rest
  · exact (congrArg Prod.fst (Except.ok.inj rest)).symm

section Creation

/-- A new record is owned by the installation it names. -/
theorem intentRecord_owned {spec : CellSpec} {cellId : CellId} {job : Option JobCorrelation}
    {image : ImageRecord} {variant : ImageVariant} {installId operationId : Uuid} {time : DateTime}
    (selected : providerVariant image provider = .ok variant) (known : image.id = spec.image)
    (specified : spec.provider = some provider) :
    LocallyOwned site provider (intentRecord site provider spec cellId job image variant installId
      operationId time) installId := by
  have own : variant.provider = provider := by
    unfold providerVariant at selected
    split at selected
    · cases selected
    · rename_i single only
      have member : single ∈ image.variants.filter fun other => other.provider = provider := by
        rw [only]
        exact List.mem_singleton.mpr rfl
      rw [← Except.ok.inj selected]
      exact of_decide_eq_true (List.mem_filter.mp member).2
    · cases selected
  exact ⟨rfl, rfl, specified, own, known.symm, rfl, rfl, rfl, rfl, pathsEqual_refl _ _,
    pathsEqual_refl _ _⟩

theorem obeys_recordCellIntent {spec : CellSpec} {cellId : CellId} {job : Option JobCorrelation}
    (specified : spec.provider = some provider) :
    Obeys site snapshot fs (fun intent => intent.record.id = cellId ∧
        LocallyOwned site provider intent.record intent.installation.installId)
      (recordCellIntent site provider spec cellId job) := by
  refine Obeys.bind (obeys_query fun image s loaded => ?_)
  obtain ⟨_, valid⟩ := Store.loadImage_ok loaded
  refine Obeys.bind (Obeys.lift fun variant selected => ?_)
  refine Obeys.bind (Obeys.passive passive_verifyRegisteredImage fun parent => ?_)
  refine Obeys.bind (Obeys.passive passive_newUuid fun fresh => ?_)
  refine Obeys.bind (obeys_mutate fun installation _ _ _ => ?_)
  refine Obeys.bind (obeys_query fun authority _ _ => ?_)
  refine Obeys.bind (Obeys.lift fun _ _ => ?_)
  refine Obeys.bind (Obeys.passive passive_now fun time => ?_)
  refine Obeys.bind (Obeys.passive passive_newUuid fun operationId => ?_)
  refine Obeys.bind (obeys_mutate fun _ _ _ _ => Obeys.pure ⟨rfl, ?_⟩)
  exact intentRecord_owned selected (validateImageSchema_id valid) specified

theorem obeys_requireNameUnused {record : CellRecord} :
    Obeys site snapshot fs (fun _ => True) (requireNameUnused record) := by
  refine Obeys.bind (Obeys.passive passive_inspectVm fun existing => ?_)
  cases existing with
  | none => exact Obeys.pure trivial
  | some vm => exact obeys_failRecord

variable {authority : ProviderMutationAuthority}

theorem obeys_provisionOverlay (issued : Issued site provider authority) (unchanged : fs.Unchanged) :
    Obeys site snapshot fs
      (fun record => Issued site provider ⟨record, authority.installation, authority.runtime⟩)
      (provisionOverlay site authority) := by
  refine Obeys.bind (obeys_orFail (Obeys.passive passive_validatePathIdentity fun _ => ?_))
  refine Obeys.bind (obeys_orFail (obeys_provider (issued.overlay unchanged) fun overlay => ?_))
  refine Obeys.bind (obeys_orFail (Obeys.passive passive_validatePathIdentity fun _ => ?_))
  refine Obeys.bind (obeys_orFail (Obeys.lift fun _ _ => ?_))
  exact obeys_savePhase fun time =>
    issued.of_same ⟨rfl, rfl, rfl, rfl, rfl, rfl, rfl, rfl, rfl⟩ rfl

theorem Issued.create (issued : Issued site provider authority) (unchanged : fs.Unchanged) :
    authority.validateCreateRequest site.platform fs (createRequest authority.record) = .ok () := by
  simp [ProviderMutationAuthority.validateCreateRequest, bind_unit_ok, issued.common unchanged,
    createRequest, providerPathsEqual_refl, issued.owned.name]

/-- The identity that a creation records is canonical. -/
theorem Issued.recorded {created : ProviderVmIdentity} {identity : ProviderObjectIdentity}
    {time : DateTime} {phase : CellPhase} (issued : Issued site provider authority)
    (normalized : normalizeProviderIdentity authority.record created = .ok identity) :
    Issued site provider ⟨{ authority.record with
      providerObject := some identity, phase := phase, updatedAt := time }, authority.installation,
      authority.runtime⟩ := by
  have object : validateProviderObject { authority.record with
      providerObject := some identity, phase := phase, updatedAt := time } = .ok () := by
    unfold normalizeProviderIdentity at normalized
    split at normalized
    · cases normalized
    · rename_i id _
      split at normalized
      · cases normalized
      · rename_i named
        obtain rfl := Except.ok.inj normalized
        simp only [validateProviderObject, Uuid.parseStr_toText]
        simp [not_not.mp named]
  have owned := issued.owned
  exact ⟨issued.named, ⟨owned.installed, owned.selected, owned.specProvider, owned.imageProvider,
    owned.image, owned.name, object, owned.schema, owned.marker, owned.configuration,
    owned.overlay⟩, issued.runtime⟩

theorem obeys_provisionVm (issued : Issued site provider authority) (unchanged : fs.Unchanged) :
    Obeys site snapshot fs
      (fun record => Issued site provider ⟨record, authority.installation, authority.runtime⟩)
      (provisionVm authority) := by
  refine Obeys.bind (obeys_orFail (obeys_provider (issued.create unchanged) fun created => ?_))
  refine Obeys.bind (obeys_orFail (Obeys.lift fun identity normalized => ?_))
  exact obeys_savePhase fun time => issued.recorded normalized

theorem obeys_claimNewVm (issued : Issued site provider authority) (unchanged : fs.Unchanged) :
    Obeys site snapshot fs
      (fun claimed => Issued site provider
          ⟨claimed.record, authority.installation, authority.runtime⟩ ∧
        proveCreationIdentity site.platform claimed.record claimed.vm true = .ok ())
      (claimNewVm site authority) := by
  refine Obeys.bind (Obeys.lift fun identity _ => ?_)
  refine Obeys.bind (Obeys.passive passive_inspectVm fun found => ?_)
  refine Obeys.bind (obeys_orFail (Obeys.lift fun vm _ => ?_))
  refine Obeys.bind (obeys_orFail (Obeys.lift fun _ unclaimed => ?_))
  refine Obeys.bind (obeys_orFail (Obeys.lift fun _ _ => ?_))
  refine Obeys.bind (obeys_orFail (obeys_provider (issued.claim unchanged unclaimed)
    fun claimed => ?_))
  refine Obeys.bind (obeys_orFail (Obeys.lift fun _ proof => ?_))
  refine Obeys.bind (obeys_savePhase fun time => Obeys.pure ⟨?_, proof⟩)
  exact issued.of_same ⟨rfl, rfl, rfl, rfl, rfl, rfl, rfl, rfl, rfl⟩ rfl

theorem obeys_configureNewVm {claimed : ProviderVm} (issued : Issued site provider authority)
    (unchanged : fs.Unchanged)
    (proof : proveCreationIdentity site.platform authority.record claimed true = .ok ()) :
    Obeys site snapshot fs (fun _ => True) (configureNewVm site authority claimed) := by
  refine Obeys.bind (obeys_orFail (obeys_provider (issued.configure unchanged proof) fun vm => ?_))
  refine Obeys.bind (obeys_orFail (Obeys.lift fun _ _ => ?_))
  exact obeys_savePhase fun _ => trivial

theorem obeys_createCellLocked {spec : CellSpec} {cellId : CellId} {job : Option JobCorrelation}
    (named : provider ≠ "") (specified : spec.provider = some provider)
    (unchanged : fs.Unchanged) :
    Obeys site snapshot fs (fun _ => True) (createCellLocked site provider spec cellId job) := by
  refine Obeys.bind ((obeys_recordCellIntent specified).weaken fun intent known => ?_)
  obtain ⟨rfl, owned⟩ := known
  refine Obeys.bind (obeys_orFail (obeys_mutate fun runtime s t prepared => ?_))
  have issued : Issued site provider ⟨intent.record, intent.installation, runtime⟩ :=
    ⟨named, owned, prepareCellRuntimeFor_guard prepared⟩
  refine Obeys.bind (obeys_requireNameUnused.weaken fun _ _ => ?_)
  refine Obeys.bind ((obeys_provisionOverlay issued unchanged).weaken fun _ issued => ?_)
  refine Obeys.bind ((obeys_provisionVm issued unchanged).weaken fun _ issued => ?_)
  refine Obeys.bind ((obeys_claimNewVm issued unchanged).weaken fun claimed known => ?_)
  exact obeys_configureNewVm known.1 unchanged known.2

end Creation

section Power

theorem obeys_exactOwnedVm {record : CellRecord} :
    Obeys site snapshot fs (fun vm => proveOwnership site.platform record vm = .ok ())
      (exactOwnedVm site provider record) := by
  refine Obeys.bind (Obeys.lift fun _ _ => ?_)
  refine Obeys.bind (Obeys.passive passive_validateLocalOwnership fun _ => ?_)
  refine Obeys.bind (Obeys.lift fun identity _ => ?_)
  refine Obeys.bind (Obeys.passive passive_inspectVm fun found => ?_)
  refine Obeys.bind (Obeys.lift fun vm _ => ?_)
  exact Obeys.bind (Obeys.lift fun _ proof => Obeys.pure proof)

theorem obeys_settleReady {record : CellRecord} {state : CellState} {changed : Bool} :
    Obeys site snapshot fs (fun _ => True) (settleReady record state changed) := by
  refine Obeys.bind (Obeys.passive passive_now fun time => ?_)
  exact Obeys.bind (obeys_mutate fun _ _ _ _ => Obeys.pure trivial)

theorem obeys_changePower {record : CellRecord} {action : ProviderAction}
    {power : ProviderPowerState} {state : CellState} (named : provider ≠ "")
    (accepted : ∀ authority, authority.record = record → Issued site provider authority →
      authority.validateAction site.platform fs action = .ok ()) :
    Obeys site snapshot fs (fun _ => True)
      (changePower site provider record action power state) := by
  refine Obeys.bind (obeys_query fun installation _ _ => ?_)
  refine Obeys.bind (Obeys.lift fun _ valid => ?_)
  refine Obeys.bind (obeys_query fun runtime s pinned => ?_)
  have issued : Issued site provider ⟨record, installation, runtime⟩ :=
    ⟨named, validateLocalOwnershipRecord_ok.mp valid, pinCellRuntimeFor_guard pinned⟩
  refine Obeys.bind (obeys_provider (accepted _ rfl issued) fun _ => ?_)
  refine Obeys.bind (obeys_exactOwnedVm.weaken fun after _ => ?_)
  exact Obeys.bind (Obeys.lift fun _ _ => obeys_settleReady)

theorem obeys_startCellLocked {cellId : CellId} (named : provider ≠ "")
    (unchanged : fs.Unchanged) :
    Obeys site snapshot fs (fun _ => True) (startCellLocked site provider cellId) := by
  refine Obeys.bind (obeys_query fun record _ _ => ?_)
  refine Obeys.bind (Obeys.lift fun _ _ => ?_)
  refine Obeys.bind (obeys_exactOwnedVm.weaken fun before proof => ?_)
  have changes : Obeys site snapshot fs (fun _ => True)
      (changePower site provider record (.startVm before) .running .running) := by
    refine obeys_changePower named ?_
    rintro authority rfl issued
    exact issued.owned_vm unchanged proof
  have verified : Obeys site snapshot fs (fun _ => True) (do
      let _ ← verifyRegisteredImage site provider record.image.toVariant
      changePower site provider record (.startVm before) .running .running) :=
    Obeys.bind (Obeys.passive passive_verifyRegisteredImage fun _ => changes)
  unfold startOwnedVm
  split
  · exact obeys_settleReady
  · exact Obeys.ite (fun _ => Obeys.fail) fun _ => Obeys.ite (fun _ => verified) fun _ => changes
  · exact Obeys.ite (fun _ => verified) fun _ => Obeys.fail
  · exact Obeys.fail

theorem obeys_stopCellLocked {cellId : CellId} (named : provider ≠ "")
    (unchanged : fs.Unchanged) :
    Obeys site snapshot fs (fun _ => True) (stopCellLocked site provider cellId) := by
  refine Obeys.bind (obeys_query fun record _ _ => ?_)
  refine Obeys.bind (Obeys.lift fun _ _ => ?_)
  refine Obeys.bind (obeys_exactOwnedVm.weaken fun before proof => ?_)
  unfold stopOwnedVm
  split
  · exact obeys_settleReady
  · refine obeys_changePower named ?_
    rintro authority rfl issued
    exact issued.owned_vm unchanged proof
  · exact Obeys.fail

end Power

section Destruction

/-- What is known of an object about to be destroyed: beyond its identity, that it
is as specified where the provider asks for that, and that it is the snapshot of
its id unless it is off. -/
structure Destructible (snapshot : String → ProviderVm) (proof : DestroyProof) : Prop where
  specified : proof.provisioning = false →
    proof.vm.networkAdapterCount = 0 ∧ proof.vm.cpuCount = proof.record.spec.cpuCount
  steady : proof.vm.powerState ≠ .off →
    proof.vm = { snapshot proof.vm.id with powerState := proof.vm.powerState }

theorem Destructible.of_off {proof : DestroyProof} (provisioning : proof.provisioning = true)
    (off : proof.vm.powerState = .off) : Destructible snapshot proof where
  specified full := by rw [provisioning] at full; cases full
  steady powered := absurd off powered

theorem obeys_proveForDestroy {authority : ProviderMutationAuthority} {vm : ProviderVm}
    (issued : Issued site provider authority) (unchanged : fs.Unchanged)
    (steady : ∀ identity, authority.record.providerObject = some identity →
      vm = { snapshot identity.id with powerState := vm.powerState }) :
    Obeys site snapshot fs
      (fun proof => Issued site provider
          ⟨proof.record, authority.installation, authority.runtime⟩ ∧
        proveDestroyIdentity site.platform proof.record proof.vm = .ok () ∧
        Destructible snapshot proof)
      (proveForDestroy site authority vm) := by
  have identified : ∀ {record vm}, proveCreationIdentity site.platform record vm true = .ok () →
      proveDestroyIdentity site.platform record vm = .ok () := by
    intro record vm proof
    obtain ⟨identified, marker, _⟩ := proveCreationIdentity_ok.mp proof
    exact proveDestroyIdentity_ok.mpr
      ⟨identified, marker.resolve_right fun optional => by cases optional.1⟩
  have off : ∀ {record vm required},
      proveCreationIdentity site.platform record vm required = .ok () → vm.powerState = .off :=
    fun proof => (proveCreationIdentity_ok.mp proof).2.2.2
  have full : Obeys site snapshot fs
      (fun proof => Issued site provider
          ⟨proof.record, authority.installation, authority.runtime⟩ ∧
        proveDestroyIdentity site.platform proof.record proof.vm = .ok () ∧
        Destructible snapshot proof) (do
      Fallible.lift (proveOwnership site.platform authority.record vm)
      pure ⟨authority.record, vm, false⟩ : Engine DestroyProof) := by
    refine Obeys.bind (Obeys.lift fun _ proof => ?_)
    obtain ⟨identified, marker, network, cpu⟩ := proveOwnership_ok.mp proof
    exact Obeys.pure ⟨issued, proveDestroyIdentity_ok.mpr ⟨identified, marker⟩,
      fun _ => ⟨network, cpu⟩, fun _ => steady _ identified.recorded⟩
  unfold proveForDestroy
  cases phase : authority.record.phase with
  | providerObjectCreated =>
      simp only [phase]
      refine Obeys.bind (Obeys.lift fun _ unclaimed => ?_)
      refine Obeys.bind (obeys_provider (issued.claim unchanged unclaimed) fun claimed => ?_)
      refine Obeys.bind (Obeys.lift fun _ proof => ?_)
      refine Obeys.bind (obeys_savePhase fun time => Obeys.pure ⟨?_, identified proof, ?_⟩)
      · exact issued.of_same ⟨rfl, rfl, rfl, rfl, rfl, rfl, rfl, rfl, rfl⟩ rfl
      · exact .of_off rfl (off proof)
  | providerObjectClaimed =>
      simp only [phase]
      refine Obeys.bind (Obeys.lift fun _ proof => Obeys.pure ⟨issued, identified proof, ?_⟩)
      exact .of_off rfl (off proof)
  | destroyingProvisioning =>
      simp only [phase]
      refine Obeys.bind (Obeys.lift fun _ proof => Obeys.pure ⟨issued, proof, ?_, fun _ => ?_⟩)
      · intro full
        cases full
      · exact steady _ (proveDestroyIdentity_ok.mp proof).1.recorded
  | ready =>
      simp only [phase]
      exact full
  | destroying =>
      simp only [phase]
      exact full
  | intentRecorded =>
      simp only [phase]
      exact Obeys.fail
  | overlayCreated =>
      simp only [phase]
      exact Obeys.fail
  | destroyed =>
      simp only [phase]
      exact Obeys.fail

/-- The phase under which an object is stopped and removed. -/
theorem Destructible.permits {proof : DestroyProof} {record : CellRecord}
    (destructible : Destructible snapshot proof)
    (phase : record.phase = if proof.provisioning then .destroyingProvisioning else .destroying)
    (spec : record.spec = proof.record.spec) : Specified record proof.vm := by
  intro powered
  rw [spec]
  refine destructible.specified ?_
  cases provisioning : proof.provisioning with
  | false => rfl
  | true =>
      rw [phase, provisioning] at powered
      rcases powered with ready | destroying
      · cases ready
      · cases destroying

variable {authority : ProviderMutationAuthority}

theorem obeys_stopForDestroy {vm : ProviderVm} (issued : Issued site provider authority)
    (unchanged : fs.Unchanged)
    (proven : proveDestroyIdentity site.platform authority.record vm = .ok ())
    (specified : Specified authority.record vm)
    (steady : vm.powerState ≠ .off → vm = { snapshot vm.id with powerState := vm.powerState }) :
    Obeys site snapshot fs (fun stopped => Specified authority.record stopped)
      (stopForDestroy site provider authority vm) := by
  refine Obeys.ite (fun _ => Obeys.pure specified) fun powered => ?_
  refine Obeys.bind (Obeys.lift fun _ _ => ?_)
  refine Obeys.bind (obeys_provider (issued.present unchanged proven specified) fun _ => ?_)
  refine Obeys.bind (obeys_inspectId fun found same => ?_)
  refine Obeys.bind (Obeys.lift fun stopped present => ?_)
  refine Obeys.bind (Obeys.lift fun _ _ => ?_)
  refine Obeys.bind (Obeys.lift fun _ _ => Obeys.pure fun phase => ?_)
  -- the second snapshot differs from the first in nothing that is asked for
  have again : stopped = { snapshot vm.id with powerState := stopped.powerState } := by
    refine same stopped ?_
    unfold presentVm at present
    split at present
    · cases present
    · exact congrArg _ (Except.ok.inj present)
  obtain ⟨network, cpu⟩ := specified phase
  rw [steady powered] at network cpu
  rw [again]
  exact ⟨network, cpu⟩

theorem obeys_removeProven {vm : ProviderVm} (issued : Issued site provider authority)
    (unchanged : fs.Unchanged) (specified : Specified authority.record vm) :
    Obeys site snapshot fs (fun _ => True) (removeProven site provider authority vm) := by
  refine Obeys.bind (Obeys.lift fun _ _ => ?_)
  refine Obeys.bind (Obeys.lift fun _ proven => ?_)
  refine Obeys.bind (obeys_provider (issued.present unchanged proven specified) fun _ => ?_)
  refine Obeys.bind (Obeys.passive passive_inspectVm fun _ => ?_)
  refine Obeys.bind (Obeys.lift fun _ _ => ?_)
  refine Obeys.bind (Obeys.passive passive_inspectVm fun _ => ?_)
  exact Obeys.lift fun _ _ => trivial

theorem obeys_destroyPresent {record : CellRecord} {installation : InstallationRecord}
    {vm : ProviderVm} (named : provider ≠ "")
    (owned : LocallyOwned site provider record installation.installId) (unchanged : fs.Unchanged)
    (steady : ∀ identity, record.providerObject = some identity →
      vm = { snapshot identity.id with powerState := vm.powerState }) :
    Obeys site snapshot fs (fun _ => True)
      (destroyPresent site provider record installation vm) := by
  refine Obeys.bind (obeys_query fun runtime s pinned => ?_)
  have issued : Issued site provider ⟨record, installation, runtime⟩ :=
    ⟨named, owned, pinCellRuntimeFor_guard pinned⟩
  refine Obeys.bind ((obeys_proveForDestroy issued unchanged steady).weaken fun proof known => ?_)
  obtain ⟨issued, proven, destructible⟩ := known
  refine Obeys.bind (obeys_savePhase fun time => ?_)
  have later : Issued site provider ⟨{ proof.record with
      state := .destroying
      phase := if proof.provisioning then .destroyingProvisioning else .destroying
      updatedAt := time }, installation, runtime⟩ :=
    issued.of_same ⟨rfl, rfl, rfl, rfl, rfl, rfl, rfl, rfl, rfl⟩ rfl
  have identified := proveDestroyIdentity_ok.mp proven
  refine Obeys.bind ((obeys_stopForDestroy later unchanged
    (proveDestroyIdentity_ok.mpr ⟨identified.1.of_same rfl rfl rfl, identified.2⟩)
    (destructible.permits rfl rfl) destructible.steady).weaken fun stopped specified => ?_)
  refine Obeys.bind ((obeys_removeProven later unchanged specified).weaken fun _ _ => ?_)
  refine Obeys.bind (Obeys.lift fun _ _ => ?_)
  exact Obeys.bind (obeys_mutate fun _ _ _ _ => Obeys.pure trivial)

theorem obeys_destroyAbsent {record : CellRecord} {installation : InstallationRecord} :
    Obeys site snapshot fs (fun _ => True) (destroyAbsent site provider record installation) := by
  refine Obeys.bind (Obeys.passive passive_inspectVm fun _ => ?_)
  refine Obeys.bind (Obeys.lift fun _ _ => ?_)
  refine Obeys.bind (obeys_query fun (entry : Bool) _ _ => ?_)
  refine Obeys.ite (fun _ => ?_) fun _ => Obeys.pure trivial
  refine Obeys.bind (obeys_query fun runtime _ _ => ?_)
  refine Obeys.bind (Obeys.lift fun _ _ => ?_)
  exact Obeys.bind (obeys_mutate fun _ _ _ _ => Obeys.pure trivial)

theorem obeys_destroyCellLocked {cellId : CellId} (named : provider ≠ "")
    (unchanged : fs.Unchanged) :
    Obeys site snapshot fs (fun _ => True) (destroyCellLocked site provider cellId) := by
  refine Obeys.bind (obeys_query fun record _ _ => ?_)
  refine Obeys.ite (fun _ => ?_) fun _ => ?_
  · refine Obeys.bind (Obeys.passive passive_reconcileRecord fun reconciliation => ?_)
    exact Obeys.ite (fun _ => Obeys.pure trivial) fun _ => Obeys.fail
  · refine Obeys.bind (obeys_query fun installation _ _ => ?_)
    refine Obeys.bind (Obeys.lift fun _ valid => ?_)
    have owned := validateLocalOwnershipRecord_ok.mp valid
    cases object : record.providerObject with
    | none =>
        refine Obeys.bind (Obeys.passive passive_inspectVm fun found => ?_)
        cases found <;> exact Obeys.fail
    | some identity =>
        refine Obeys.bind (obeys_inspectId fun found same => ?_)
        have last : Obeys site snapshot fs (fun _ => True)
            (destroyFound site provider record installation found) := by
          cases found with
          | none => exact obeys_destroyAbsent
          | some vm =>
              refine obeys_destroyPresent named owned unchanged ?_
              intro recorded known
              obtain rfl := Option.some.inj (object.symm.trans known)
              exact same vm rfl
        refine Obeys.bind (last.weaken fun final _ => ?_)
        refine Obeys.bind (Obeys.lift fun _ _ => ?_)
        exact Obeys.bind (obeys_savePhase fun _ => Obeys.pure trivial)

theorem obeys_destroyCellForRunLocked {cellId : CellId} (named : provider ≠ "")
    (unchanged : fs.Unchanged) :
    Obeys site snapshot fs (fun _ => True) (destroyCellForRunLocked site provider cellId) := by
  refine Obeys.bind (obeys_query fun operations _ _ => ?_)
  exact Obeys.bind (Obeys.lift fun _ _ => obeys_destroyCellLocked named unchanged)

theorem obeys_gcCell {evaluatedAt : DateTime} {operations : List GuestOperationRecord}
    {record : CellRecord} (named : provider ≠ "") (unchanged : fs.Unchanged) :
    Obeys site snapshot fs (fun _ => True)
      (gcCell site provider evaluatedAt operations record) := by
  unfold gcCell
  split
  · exact Obeys.pure trivial
  · refine Obeys.ite (fun _ => Obeys.pure trivial) fun _ => ?_
    refine Obeys.ite (fun _ => Obeys.pure trivial) fun _ => ?_
    refine Obeys.bind (Within.attempt ?_)
    exact Within.weaken (obeys_destroyCellLocked named unchanged) (fun _ _ _ => trivial)
      fun _ _ _ => trivial

theorem obeys_gcCells {evaluatedAt : DateTime} {operations : List GuestOperationRecord}
    {cells : List CellRecord} (named : provider ≠ "") (unchanged : fs.Unchanged) :
    Obeys site snapshot fs (fun _ => True)
      (gcCells site provider evaluatedAt operations cells) := by
  induction cells with
  | nil => exact Obeys.pure trivial
  | cons record rest ih =>
      refine Obeys.ite (fun _ => ih) fun _ => ?_
      refine Obeys.bind ((obeys_gcCell named unchanged).weaken fun disposition _ => ?_)
      exact Obeys.bind (ih.weaken fun entries _ => Obeys.pure trivial)

theorem obeys_gcExpiredLocked {evaluatedAt : DateTime} (named : provider ≠ "")
    (unchanged : fs.Unchanged) :
    Obeys site snapshot fs (fun _ => True) (gcExpiredLocked site provider evaluatedAt) := by
  refine Obeys.bind (obeys_query fun operations _ _ => ?_)
  refine Obeys.bind (obeys_query fun cells _ _ => ?_)
  exact Obeys.bind ((obeys_gcCells named unchanged).weaken fun entries _ => Obeys.pure trivial)

end Destruction

end Sections

section Agreement
variable {site : Site} {provider : String} {fs : Filesystem}

theorem isLocalProvider_ne (supported : isLocalProvider provider = true) : provider ≠ "" := by
  rintro rfl
  exact absurd supported (by decide)

/-- A request that is carried out names the provider. -/
theorem validateCellSpec_provider {spec : CellSpec}
    (valid : validateCellSpec spec provider = .ok ()) : spec.provider = some provider := by
  obtain ⟨named, _⟩ := bind_unit_ok.mp valid
  simp only [require_ok, Bool.and_eq_true, decide_eq_true_eq] at named
  exact named.2

/-- The proofs of the engine and the checks of the provider agree: no section makes
a call that is refused, each proof is enough for its check, and the check of an
existing object recognises only what destruction does. -/
theorem provider_checks_agree (supported : isLocalProvider provider = true)
    (unchanged : fs.Unchanged) :
    (∀ snapshot : String → ProviderVm,
      (∀ spec cellId job, validateCellSpec spec provider = .ok () →
        Obeys site snapshot fs (fun _ => True)
          (createCellLocked site provider spec cellId job)) ∧
      (∀ cellId, Obeys site snapshot fs (fun _ => True) (startCellLocked site provider cellId)) ∧
      (∀ cellId, Obeys site snapshot fs (fun _ => True) (stopCellLocked site provider cellId)) ∧
      (∀ cellId, Obeys site snapshot fs (fun _ => True) (destroyCellLocked site provider cellId)) ∧
      (∀ cellId, Obeys site snapshot fs (fun _ => True)
        (destroyCellForRunLocked site provider cellId)) ∧
      (∀ evaluatedAt, Obeys site snapshot fs (fun _ => True)
        (gcExpiredLocked site provider evaluatedAt))) ∧
    ∀ (authority : ProviderMutationAuthority) (vm : ProviderVm),
      validateLocalOwnershipRecord site provider authority.record
          authority.installation.installId = .ok () →
      authority.runtime = ⟨authority.record.id, authority.record.ownership.configurationPath,
        authority.record.ownership.overlayPath⟩ →
      (proveCreationIdentity site.platform authority.record vm false = .ok () →
        authority.validateClaimRequest site.platform fs
          ⟨vm, authority.record.ownership.providerMarker⟩ = .ok ()) ∧
      (proveCreationIdentity site.platform authority.record vm true = .ok () →
        authority.validateConfigureRequest site.platform fs
          ⟨vm, authority.record.spec.cpuCount⟩ = .ok ()) ∧
      (authority.record.phase = .ready ∨ authority.record.phase = .destroying →
        proveOwnership site.platform authority.record vm = .ok () →
        authority.validateVm site.platform fs vm = .ok ()) ∧
      (authority.record.phase = .destroyingProvisioning →
        proveDestroyIdentity site.platform authority.record vm = .ok () →
        authority.validateVm site.platform fs vm = .ok ()) ∧
      (fs.Direct authority.record vm → authority.validateVm site.platform fs vm = .ok () →
        Recognised site.platform authority.record vm) := by
  have named := isLocalProvider_ne supported
  refine ⟨fun snapshot => ⟨?_, ?_, ?_, ?_, ?_, ?_⟩, ?_⟩
  · intro spec cellId job valid
    exact obeys_createCellLocked named (validateCellSpec_provider valid) unchanged
  · exact fun cellId => obeys_startCellLocked named unchanged
  · exact fun cellId => obeys_stopCellLocked named unchanged
  · exact fun cellId => obeys_destroyCellLocked named unchanged
  · exact fun cellId => obeys_destroyCellForRunLocked named unchanged
  · exact fun evaluatedAt => obeys_gcExpiredLocked named unchanged
  · intro authority vm valid runtime
    have issued : Issued site provider authority :=
      ⟨named, validateLocalOwnershipRecord_ok.mp valid, runtime⟩
    refine ⟨issued.claim unchanged, issued.configure unchanged, ?_, ?_, issued.recognised⟩
    · exact fun _ proven => issued.owned_vm unchanged proven
    · intro provisioning proven
      refine issued.present unchanged proven ?_
      -- nothing beyond the identity is asked for in this phase
      rintro (ready | destroying)
      · exact absurd (provisioning.symm.trans ready) (by decide)
      · exact absurd (provisioning.symm.trans destroying) (by decide)

end Agreement

namespace Exemplar

/-- The image of the exemplary host as it is registered. -/
def variant : ImageVariant := ⟨"qemu", "qcow2", ⟨"/", ["images", "base.qcow2"]⟩, digest, 1⟩

/-- The authority over a ready cell of that image. -/
def authority : ProviderMutationAuthority :=
  let intent := intentRecord site "qemu" ⟨image, some "qemu", 1, 1024, some 1, none, false⟩ cellId
    none ⟨imageSchemaVersion, image, .linux, .x86_64, [variant], 5⟩ variant (uuid 2) (uuid 3) 5
  let record := { intent with
    providerObject := some ⟨(uuid 9).toText, providerObjectName cellId⟩
    state := .stopped
    phase := .ready }
  ⟨record, ⟨installSchemaVersion, uuid 2⟩, ⟨cellId, record.ownership.configurationPath,
    record.ownership.overlayPath⟩⟩

def machine : ProviderVm :=
  idealVm authority.record ⟨(uuid 9).toText, providerObjectName cellId⟩ ∅

/-- A file system without links. -/
def directory : Filesystem := ⟨some, true, true⟩

end Exemplar

theorem provider_checks_agree_for_ready_cell :
    proveOwnership Exemplar.site.platform Exemplar.authority.record Exemplar.machine = .ok () ∧
      Exemplar.authority.validateVm Exemplar.site.platform Exemplar.directory Exemplar.machine =
        .ok () ∧
      Recognised Exemplar.site.platform Exemplar.authority.record Exemplar.machine := by
  have supported : isLocalProvider "qemu" = true := by decide
  have unchanged : Exemplar.directory.Unchanged := ⟨rfl, rfl⟩
  have agreed := (@provider_checks_agree Exemplar.site _ _ supported unchanged).2
    Exemplar.authority Exemplar.machine (by decide +kernel) rfl
  obtain ⟨_, _, owned, _, recognised⟩ := agreed
  have proven : proveOwnership Exemplar.site.platform Exemplar.authority.record
      Exemplar.machine = .ok () := by decide +kernel
  have accepted := owned (Or.inl rfl) proven
  refine ⟨proven, accepted, recognised ⟨?_, ?_, ?_, ?_⟩ accepted⟩
  · exact Or.inr rfl
  · exact Or.inr rfl
  · exact Or.inr rfl
  · exact fun _ _ => Or.inr rfl

end VmCell
