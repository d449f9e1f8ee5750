import VmCell.Engine.Lifecycle
import VmCell.Engine.Rules

/-! Creation and power changes keep the discipline. -/

set_option autoImplicit false
namespace VmCell

open Interaction Fallible

section Checks
variable {site : Site} {provider : String}

theorem passive_inspectImage {path : PathBuf} : Passive (I := signature) Free (inspectImage path) :=
  passive_observe.bind fun _ => .lift

theorem passive_validatePathIdentity {path : PathBuf} :
    Passive (I := signature) Free (validatePathIdentity path) :=
  passive_observe.bind fun _ => .lift

theorem passive_verifyRegisteredImage {variant : ImageVariant} :
    Passive (I := signature) Free (verifyRegisteredImage site provider variant) := by
  unfold verifyRegisteredImage
  refine passive_observe.bind fun _ => Passive.lift.bind fun _ => Passive.lift.bind fun _ => ?_
  refine passive_observe.bind fun _ => Passive.lift.bind fun _ => ?_
  refine passive_validatePathIdentity.bind fun _ => passive_observe.bind fun _ => ?_
  refine Passive.lift.bind fun _ => Passive.lift.bind fun _ => ?_
  refine passive_inspectImage.bind fun _ => passive_validatePathIdentity.bind fun _ => ?_
  refine Passive.lift.bind fun _ => passive_observe.bind fun _ => Passive.lift.bind fun _ => ?_
  exact passive_validatePathIdentity.bind fun _ => Passive.lift.bind fun _ => .pure

theorem passive_requireProvider : Passive (I := signature) Free (requireProvider provider) := .lift

theorem passive_requireProviderAvailable :
    Passive (I := signature) Free (requireProviderAvailable provider) :=
  passive_requireProvider.bind fun _ => passive_observe.bind fun _ => .lift

theorem passive_validateLocalOwnership {record : CellRecord} :
    Passive (I := signature) Free (validateLocalOwnership site provider record) :=
  passive_query.bind fun _ => .lift

theorem passive_exactOwnedVm {record : CellRecord} :
    Passive (I := signature) Free (exactOwnedVm site provider record) := by
  unfold exactOwnedVm
  refine Passive.lift.bind fun _ => passive_validateLocalOwnership.bind fun _ => ?_
  refine Passive.lift.bind fun _ => passive_inspectVm.bind fun _ => Passive.lift.bind fun _ => ?_
  exact Passive.lift.bind fun _ => .pure

end Checks

section Proofs
variable {env : Environment} {i : Pid} {s : Store} {provider : String}
  {bad : EngineError → Store → Prop}

theorem within_validateLocalOwnershipAgainst {record : CellRecord}
    {installation : InstallationRecord} {allowed : Op → Store → Prop} {good : Unit → Store → Prop}
    (ok : LocallyOwned env.site provider record installation.installId → good () s)
    (error : ∀ error, bad error s) :
    Within (env.effects i) allowed good bad
      (validateLocalOwnershipAgainst env.site provider record installation) s :=
  Within.lift (fun _ valid => ok (validateLocalOwnershipRecord_ok.mp valid)) fun e _ => error e

/-- A proven snapshot, and the installation it was proven under. -/
theorem within_exactOwnedVm {record : CellRecord} {good : ProviderVm → Store → Prop}
    (ok : ∀ vm installation, s.installation = some installation →
      LocallyOwned env.site provider record installation.installId →
      proveOwnership env.site.platform record vm = .ok () → good vm s)
    (error : ∀ error, bad error s) :
    Within (env.effects i) (Allowed env i) good bad (exactOwnedVm env.site provider record) s := by
  unfold exactOwnedVm validateLocalOwnership
  refine Within.bind (Within.lift (fun _ _ => ?_) fun _ _ => error _)
  refine Within.bind (Within.bind (within_query trivial (fun installation loaded => ?_)
    fun _ => error _))
  refine within_validateLocalOwnershipAgainst (fun owned => ?_) error
  refine Within.bind (Within.lift (fun identity _ => ?_) fun _ _ => error _)
  refine Within.bind (within_inspectVm trivial (fun found => ?_) fun _ => error _)
  refine Within.bind (Within.lift (fun vm _ => ?_) fun _ _ => error _)
  refine Within.bind (Within.lift (fun _ proof => ?_) fun _ _ => error _)
  exact Within.pure (ok vm installation (Store.loadInstallation_ok loaded) owned proof)

/-- One save of a record in its next phase. -/
theorem within_savePhase {record : CellRecord} {phase : CellPhase} {allowed : Op → Store → Prop}
    {good : CellRecord → Store → Prop} (clock : allowed (.observe .now) s)
    (permitted : ∀ time, allowed (.mutate (.saveCell
      { record with phase := phase, updatedAt := time })) s)
    (ok : ∀ time t, s.saveCell env.site { record with phase := phase, updatedAt := time } = .ok t →
      good { record with phase := phase, updatedAt := time } t)
    (error : ∀ time e t, t = s ∨ s.saveCell env.site
      { record with phase := phase, updatedAt := time } = .ok t → bad e t) :
    Within (env.effects i) allowed good bad (savePhase record phase) s := by
  unfold savePhase
  refine Within.bind (within_now clock fun time => ?_)
  refine Within.bind (within_mutate (permitted time) (fun _ t applied => ?_) fun e t left => ?_)
  · exact Within.pure (ok time t (written_ok.mp applied))
  · exact error time _ t (disturbed_saveCell left)

end Proofs

section Creation
variable {env : Environment} {i : Pid} {s : Store} {provider : String} {A : Type}

/-- What a creation knows between two of its steps. -/
structure Provisioning (site : Site) (s : Store) (record : CellRecord)
    (installation : InstallationRecord) : Prop where
  holding : Holding site s record installation
  phase : record.phase.isProvisioning = true
  state : record.state = .creating

theorem Provisioning.runtimeChanged {record : CellRecord} {installation : InstallationRecord}
    {cellId : CellId} {t : Store} (known : Provisioning env.site s record installation)
    (changed : RuntimeChanged cellId s t) : Provisioning env.site t record installation :=
  ⟨known.holding.runtimeChanged changed, known.phase, known.state⟩

theorem Provisioning.save {record new : CellRecord} {installation : InstallationRecord}
    {t : Store} (known : Provisioning env.site s record installation) (same : SameCell record new)
    (phase : new.phase.isProvisioning = true) (state : new.state = .creating)
    (saved : s.saveCell env.site new = .ok t) : Provisioning env.site t new installation :=
  ⟨known.holding.save same saved, phase, state⟩

theorem within_failRecord {record : CellRecord} {installation : InstallationRecord}
    {error : EngineError} {good : A → Store → Prop}
    (known : Provisioning env.site s record installation) :
    Within (env.effects i) (Allowed env i) good (fun _ _ => True) (failRecord record error) s := by
  unfold failRecord
  refine Within.bind (within_now trivial fun time => ?_)
  refine Within.bind (within_mutate ?_ (fun _ _ _ => Within.fail trivial) fun _ _ _ => trivial)
  refine known.holding.onDisk.write ⟨rfl, rfl, rfl, rfl, rfl, rfl, rfl, rfl, rfl⟩ ?_
  intro stored phase state object
  exact .failed (by rw [phase]; exact known.phase) (state.trans known.state) phase.symm rfl
    object.symm

/-- A step of a creation whose failure is recorded. -/
theorem within_orFail {record : CellRecord} {installation : InstallationRecord} {step : Engine A}
    {good : A → Store → Prop}
    (first : Within (env.effects i) (Allowed env i) good
      (fun _ t => Provisioning env.site t record installation) step s) :
    Within (env.effects i) (Allowed env i) good (fun _ _ => True) (orFail record step) s :=
  Within.handle (first.weaken (fun _ _ holds => holds) fun _ _ known => within_failRecord known)

theorem within_orFail_lift {record : CellRecord} {installation : InstallationRecord}
    {result : Except EngineError A} {good : A → Store → Prop}
    (known : Provisioning env.site s record installation)
    (ok : ∀ a, result = .ok a → good a s) :
    Within (env.effects i) (Allowed env i) good (fun _ _ => True)
      (orFail record (Fallible.lift result)) s :=
  within_orFail (Within.lift ok fun _ _ => known)

theorem within_orFail_passive {record : CellRecord} {installation : InstallationRecord}
    {step : Engine A} {good : A → Store → Prop}
    (known : Provisioning env.site s record installation)
    (passive : Passive (I := signature) Free step) (ok : ∀ a, good a s) :
    Within (env.effects i) (Allowed env i) good (fun _ _ => True) (orFail record step) s :=
  within_orFail (within_passive passive (fun _ free => free.allowed) ok fun _ => known)

theorem within_orFail_provider {authority : ProviderMutationAuthority} {action : ProviderAction}
    {good : action.Answer → Store → Prop}
    (known : Provisioning env.site s authority.record authority.installation)
    (permitted : ProviderPermitted env.site s authority action)
    (ok : ∀ answer t, Provisioning env.site t authority.record authority.installation →
      good answer t) :
    Within (env.effects i) (Allowed env i) good (fun _ _ => True)
      (orFail authority.record (callProvider authority action)) s :=
  within_orFail (within_provider permitted
    (fun answer t changed => ok answer t (known.runtimeChanged changed))
    fun _ _ changed => known.runtimeChanged changed)

/-- Creating asks for no proof: there is nothing yet to be foreign. -/
theorem permitted_of_expected_none {site : Site} {authority : ProviderMutationAuthority}
    {action : ProviderAction} (none : action.expected = none) :
    ProviderPermitted site s authority action := by
  intro vm expected
  rw [none] at expected
  cases expected

theorem within_recordCellIntent {spec : CellSpec} {cellId : CellId} {job : Option JobCorrelation}
    {good : CellIntent → Store → Prop} (absent : s.cells.lookup cellId = none)
    (owned : env.owner cellId.value = i)
    (ok : ∀ intent t, Provisioning env.site t intent.record intent.installation →
      intent.record.id = cellId → intent.record.phase = .intentRecorded →
      intent.record.providerObject = none → good intent t) :
    Within (env.effects i) (Allowed env i) good (fun _ _ => True)
      (recordCellIntent env.site provider spec cellId job) s := by
  unfold recordCellIntent
  refine Within.bind (within_query trivial (fun image loaded => ?_) fun _ => trivial)
  obtain ⟨registered, valid⟩ := Store.loadImage_ok loaded
  refine Within.bind (Within.lift (fun variant selected => ?_) fun _ _ => trivial)
  refine Within.bind (within_passive passive_verifyRegisteredImage (fun _ free => free.allowed)
    (fun parent => ?_) fun _ => trivial)
  refine Within.bind (within_newUuid trivial fun fresh _ _ => ?_)
  refine Within.bind (within_mutate trivial (fun installation t applied => ?_) fun _ _ _ => trivial)
  obtain ⟨rfl, _⟩ := Store.installationWithMutation_ok applied
  refine Within.bind (within_query trivial (fun authority _ => ?_) fun _ => trivial)
  refine Within.bind (Within.lift (fun _ _ => ?_) fun _ _ => trivial)
  refine Within.bind (within_now trivial fun time => ?_)
  refine Within.bind (within_newUuid trivial fun operationId _ _ => ?_)
  have intended : CellIntended env i { s with installation := some installation }
      (intentRecord env.site provider spec cellId job image variant installation.installId
        operationId time) :=
    ⟨absent, owned, rfl, rfl, rfl, image, variant, registered, validateImageSchema_id valid,
      selected, rfl⟩
  refine Within.bind (within_mutate (Or.inl intended) (fun _ u saved => ?_) fun _ _ _ => trivial)
  refine Within.pure (ok _ u ⟨⟨.of_save (written_ok.mp saved), ?_, ?_, rfl⟩, rfl, rfl⟩ rfl rfl rfl)
  · exact ⟨rfl, pathsEqual_refl _ _, pathsEqual_refl _ _⟩
  · obtain ⟨_, _, _, rfl⟩ := Store.saveCell_ok (written_ok.mp saved)
    rfl

theorem within_requireNameUnused {record : CellRecord} {installation : InstallationRecord}
    {good : Unit → Store → Prop} (known : Provisioning env.site s record installation)
    (ok : good () s) :
    Within (env.effects i) (Allowed env i) good (fun _ _ => True) (requireNameUnused record) s := by
  unfold requireNameUnused
  refine Within.bind (within_inspectVm trivial (fun existing => ?_) fun _ => trivial)
  cases existing with
  | none => exact Within.pure ok
  | some vm => exact within_failRecord known

theorem within_provisionOverlay {authority : ProviderMutationAuthority}
    {good : CellRecord → Store → Prop}
    (known : Provisioning env.site s authority.record authority.installation)
    (phase : authority.record.phase = .intentRecorded)
    (ok : ∀ record t, Provisioning env.site t record authority.installation →
      record.phase = .overlayCreated → record.providerObject = authority.record.providerObject →
      good record t) :
    Within (env.effects i) (Allowed env i) good (fun _ _ => True)
      (provisionOverlay env.site authority) s := by
  unfold provisionOverlay
  refine Within.bind (within_orFail_passive known passive_validatePathIdentity fun _ => ?_)
  refine Within.bind (within_orFail_provider known (permitted_of_expected_none rfl)
    fun overlay t known => ?_)
  refine Within.bind (within_orFail_passive known passive_validatePathIdentity fun _ => ?_)
  refine Within.bind (within_orFail_lift known fun _ _ => ?_)
  refine within_savePhase trivial (fun time => ?_) (fun time u saved => ?_) fun _ _ _ _ => trivial
  · refine known.holding.onDisk.write ⟨rfl, rfl, rfl, rfl, rfl, rfl, rfl, rfl, rfl⟩ ?_
    intro stored before state object
    exact .overlay (before.trans phase) (state.trans known.state) rfl known.state object.symm
  · exact ok _ u (known.save ⟨rfl, rfl, rfl, rfl, rfl, rfl, rfl, rfl, rfl⟩ rfl known.state saved)
      rfl rfl

theorem within_provisionVm {authority : ProviderMutationAuthority}
    {good : CellRecord → Store → Prop}
    (known : Provisioning env.site s authority.record authority.installation)
    (phase : authority.record.phase = .overlayCreated)
    (object : authority.record.providerObject = none)
    (ok : ∀ record t, Provisioning env.site t record authority.installation →
      record.phase = .providerObjectCreated → good record t) :
    Within (env.effects i) (Allowed env i) good (fun _ _ => True) (provisionVm authority) s := by
  unfold provisionVm
  refine Within.bind (within_orFail_provider known (permitted_of_expected_none rfl)
    fun created t known => ?_)
  refine Within.bind (within_orFail_lift known fun identity _ => ?_)
  refine within_savePhase trivial (fun time => ?_) (fun time u saved => ?_) fun _ _ _ _ => trivial
  · refine known.holding.onDisk.write ⟨rfl, rfl, rfl, rfl, rfl, rfl, rfl, rfl, rfl⟩ ?_
    intro stored before state recorded
    exact .created identity (before.trans phase) (state.trans known.state) (recorded.trans object)
      rfl known.state rfl
  · exact ok _ u (known.save ⟨rfl, rfl, rfl, rfl, rfl, rfl, rfl, rfl, rfl⟩ rfl known.state saved)
      rfl

theorem within_claimNewVm {authority : ProviderMutationAuthority}
    {good : ClaimedCell → Store → Prop}
    (known : Provisioning env.site s authority.record authority.installation)
    (phase : authority.record.phase = .providerObjectCreated)
    (ok : ∀ claimed t, Provisioning env.site t claimed.record authority.installation →
      claimed.record.phase = .providerObjectClaimed →
      proveCreationIdentity env.site.platform claimed.record claimed.vm true = .ok () →
      good claimed t) :
    Within (env.effects i) (Allowed env i) good (fun _ _ => True)
      (claimNewVm env.site authority) s := by
  unfold claimNewVm
  refine Within.bind (Within.lift (fun identity _ => ?_) fun _ _ => trivial)
  refine Within.bind (within_inspectVm trivial (fun found => ?_) fun _ => trivial)
  refine Within.bind (within_orFail_lift known fun vm _ => ?_)
  refine Within.bind (within_orFail_lift known fun _ unclaimed => ?_)
  refine Within.bind (within_orFail_lift known fun _ _ => ?_)
  have permitted : ProviderPermitted env.site s authority
      (.claimVm ⟨vm, authority.record.ownership.providerMarker⟩) := by
    rintro _ ⟨⟩
    obtain ⟨identified, marker, _⟩ := proveCreationIdentity_ok.mp unclaimed
    exact known.holding.snapshot identified (marker.imp id fun empty => ⟨rfl, empty.2⟩)
  refine Within.bind (within_orFail_provider known permitted fun claimed t known => ?_)
  refine Within.bind (within_orFail_lift known fun _ proof => ?_)
  refine Within.bind (within_savePhase trivial (fun time => ?_) (fun time u saved => ?_)
    fun _ _ _ _ => trivial)
  · refine known.holding.onDisk.write ⟨rfl, rfl, rfl, rfl, rfl, rfl, rfl, rfl, rfl⟩ ?_
    intro stored before state object
    exact .claimed (before.trans phase) rfl state.symm object.symm
  · refine Within.pure (ok _ u (known.save ⟨rfl, rfl, rfl, rfl, rfl, rfl, rfl, rfl, rfl⟩ rfl
      known.state saved) rfl ?_)
    exact proof

theorem within_configureNewVm {authority : ProviderMutationAuthority} {claimed : ProviderVm}
    {good : CellRecord → Store → Prop}
    (known : Provisioning env.site s authority.record authority.installation)
    (phase : authority.record.phase = .providerObjectClaimed)
    (proof : proveCreationIdentity env.site.platform authority.record claimed true = .ok ())
    (ok : ∀ record t, good record t) :
    Within (env.effects i) (Allowed env i) good (fun _ _ => True)
      (configureNewVm env.site authority claimed) s := by
  unfold configureNewVm
  have permitted : ProviderPermitted env.site s authority
      (.configureVm ⟨claimed, authority.record.spec.cpuCount⟩) := by
    rintro _ ⟨⟩
    obtain ⟨identified, marker, _⟩ := proveCreationIdentity_ok.mp proof
    exact known.holding.snapshot identified (marker.imp id fun empty => by cases empty.1)
  refine Within.bind (within_orFail_provider known permitted fun vm t known => ?_)
  refine Within.bind (within_orFail_lift known fun _ _ => ?_)
  refine within_savePhase trivial (fun time => ?_) (fun _ u _ => ok _ u) fun _ _ _ _ => trivial
  refine known.holding.onDisk.write ⟨rfl, rfl, rfl, rfl, rfl, rfl, rfl, rfl, rfl⟩ ?_
  intro stored before state object
  exact .ready (before.trans phase) (state.trans known.state) rfl rfl object.symm

theorem within_createCellLocked {spec : CellSpec} {cellId : CellId} {job : Option JobCorrelation}
    (absent : s.cells.lookup cellId = none) (owned : env.owner cellId.value = i) :
    Within (env.effects i) (Allowed env i) (fun _ _ => True) (fun _ _ => True)
      (createCellLocked env.site provider spec cellId job) s := by
  unfold createCellLocked
  refine Within.bind (within_recordCellIntent absent owned fun intent t known same phase object => ?_)
  have permitted : Allowed env i (.mutate (.prepareCellRuntimeFor cellId
      intent.record.ownership.configurationPath intent.record.ownership.overlayPath)) t := by
    obtain ⟨stored, found, _, before, _⟩ := known.holding.onDisk
    exact ⟨stored, same ▸ found, before.trans phase⟩
  have prepared : ∀ u, Change env.site t (.mutate (.prepareCellRuntimeFor cellId
      intent.record.ownership.configurationPath intent.record.ownership.overlayPath)) u →
      Provisioning env.site u intent.record intent.installation := fun u change =>
    known.runtimeChanged (change.runtimeChanged rfl)
  have step : Within (env.effects i) (Allowed env i)
      (fun _ u => Provisioning env.site u intent.record intent.installation)
      (fun _ u => Provisioning env.site u intent.record intent.installation)
      (mutate (.prepareCellRuntimeFor cellId intent.record.ownership.configurationPath
        intent.record.ownership.overlayPath)) t :=
    within_mutate permitted (fun _ u applied => prepared u (change_of_apply applied))
      fun _ u left => prepared u (change_of_disturbed left)
  refine Within.bind ((within_orFail step).weaken (fun runtime u known => ?_) fun _ _ _ => trivial)
  refine Within.bind (within_requireNameUnused known ?_)
  refine Within.bind (within_provisionOverlay known phase fun overlaid v known phase kept => ?_)
  refine Within.bind (within_provisionVm known phase (kept.trans object)
    fun created w known phase => ?_)
  refine Within.bind (within_claimNewVm known phase fun claimed x known phase proof => ?_)
  exact within_configureNewVm known phase proof fun _ _ => trivial

end Creation

section Power
variable {env : Environment} {i : Pid} {s : Store} {provider : String}

/-- The record of a section that changes the power state. -/
def Powered (record : CellRecord) : Prop := record.state = .stopped ∨ record.state = .running

theorem powered_of_required {record : CellRecord} {operation : String} {answer : Unit}
    (required : requireLifecycleState record operation [.stopped, .running] = .ok answer) :
    Powered record := by
  have listed := require_ok.mp required
  unfold Powered
  cases state : record.state <;> simp [state] at listed <;> simp

theorem within_settleReady {record : CellRecord} {state : CellState} {changed : Bool}
    (disk : OnDisk s record) (powered : Powered record) (target : state = .stopped ∨ state = .running) :
    Within (env.effects i) (Allowed env i) (fun _ _ => True) (fun _ _ => True)
      (settleReady record state changed) s := by
  unfold settleReady
  refine Within.bind (within_now trivial fun time => ?_)
  refine Within.bind (within_mutate ?_ (fun _ _ _ => Within.pure trivial) fun _ _ _ => trivial)
  refine disk.write ⟨rfl, rfl, rfl, rfl, rfl, rfl, rfl, rfl, rfl⟩ ?_
  intro stored _ before object
  exact .power (by rw [before]; exact powered) rfl target object.symm

theorem within_changePower {record : CellRecord} {vm : ProviderVm} {action : ProviderAction}
    {power : ProviderPowerState} {state : CellState} (disk : OnDisk s record)
    (powered : Powered record) (target : state = .stopped ∨ state = .running)
    (proof : proveOwnership env.site.platform record vm = .ok ())
    (expected : action.expected = some vm) :
    Within (env.effects i) (Allowed env i) (fun _ _ => True) (fun _ _ => True)
      (changePower env.site provider record action power state) s := by
  unfold changePower
  refine Within.bind (within_query trivial (fun installation loaded => ?_) fun _ => trivial)
  refine Within.bind (within_validateLocalOwnershipAgainst (fun owned => ?_) fun _ => trivial)
  refine Within.bind (within_query trivial (fun runtime _ => ?_) fun _ => trivial)
  have holding : Holding env.site s record installation :=
    ⟨disk, owned.bound, Store.loadInstallation_ok loaded, owned.installed⟩
  have permitted : ProviderPermitted env.site s ⟨record, installation, runtime⟩ action := by
    intro other same
    obtain rfl := Option.some.inj (expected.symm.trans same)
    obtain ⟨identified, marker, _⟩ := proveOwnership_ok.mp proof
    exact holding.snapshot identified (Or.inl marker)
  refine Within.bind (within_provider permitted (fun _ t changed => ?_) fun _ _ _ => trivial)
  have after := holding.runtimeChanged changed
  refine Within.bind (within_passive passive_exactOwnedVm (fun _ free => free.allowed)
    (fun vm => ?_) fun _ => trivial)
  refine Within.bind (Within.lift (fun _ _ => ?_) fun _ _ => trivial)
  exact within_settleReady after.onDisk powered target

theorem within_startOwnedVm {record : CellRecord} {before : ProviderVm} (disk : OnDisk s record)
    (powered : Powered record)
    (proof : proveOwnership env.site.platform record before = .ok ()) :
    Within (env.effects i) (Allowed env i) (fun _ _ => True) (fun _ _ => True)
      (startOwnedVm env.site provider record before) s := by
  have change : Within (env.effects i) (Allowed env i) (fun _ _ => True) (fun _ _ => True)
      (changePower env.site provider record (.startVm before) .running .running) s :=
    within_changePower disk powered (Or.inr rfl) proof rfl
  have verified : Within (env.effects i) (Allowed env i) (fun _ _ => True) (fun _ _ => True)
      (do
        let _ ← verifyRegisteredImage env.site provider record.image.toVariant
        changePower env.site provider record (.startVm before) .running .running) s :=
    Within.bind (within_passive passive_verifyRegisteredImage (fun _ free => free.allowed)
      (fun _ => change) fun _ => trivial)
  unfold startOwnedVm
  split
  · exact within_settleReady disk powered (Or.inr rfl)
  · exact Within.ite (fun _ => Within.fail trivial)
      fun _ => Within.ite (fun _ => verified) fun _ => change
  · exact Within.ite (fun _ => verified) fun _ => Within.fail trivial
  · exact Within.fail trivial

theorem within_startCellLocked {cellId : CellId} :
    Within (env.effects i) (Allowed env i) (fun _ _ => True) (fun _ _ => True)
      (startCellLocked env.site provider cellId) s := by
  unfold startCellLocked
  refine Within.bind (within_query trivial (fun record loaded => ?_) fun _ => trivial)
  refine Within.bind (Within.lift (fun _ required => ?_) fun _ _ => trivial)
  refine Within.bind (within_exactOwnedVm (fun vm _ _ _ proof => ?_) fun _ => trivial)
  exact within_startOwnedVm (.of_load loaded) (powered_of_required required) proof

theorem within_stopCellLocked {cellId : CellId} :
    Within (env.effects i) (Allowed env i) (fun _ _ => True) (fun _ _ => True)
      (stopCellLocked env.site provider cellId) s := by
  unfold stopCellLocked
  refine Within.bind (within_query trivial (fun record loaded => ?_) fun _ => trivial)
  refine Within.bind (Within.lift (fun _ required => ?_) fun _ _ => trivial)
  refine Within.bind (within_exactOwnedVm (fun vm _ _ _ proof => ?_) fun _ => trivial)
  have powered := powered_of_required required
  unfold stopOwnedVm
  split
  · exact within_settleReady (.of_load loaded) powered (Or.inl rfl)
  · exact within_changePower (.of_load loaded) powered (Or.inl rfl) proof rfl
  · exact Within.fail trivial

end Power

end VmCell
