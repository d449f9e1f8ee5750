import VmCell.Engine.Destroy
import VmCell.Engine.Sections.Lifecycle

/-! Destruction keeps the discipline and touches nothing but its own cell. -/

set_option autoImplicit false
namespace VmCell

open Interaction Fallible

/-- Effects that concern one cell, or change nothing. -/
def Concerns (cellId : CellId) : Op → Prop
  | .query _ | .observe _ | .newUuid => True
  | .mutate (.saveCell record) => record.id = cellId
  | .mutate (.removeCellRuntime other _) => other = cellId
  | .provider authority _ => authority.record.id = cellId
  | _ => False

/-- The cell that an effect changes the record, the virtual machine or the runtime of. -/
def Op.touches : Op → Option CellId
  | .mutate (.saveCell record) => some record.id
  | .mutate (.prepareCellRuntimeFor cellId _ _) | .mutate (.removeCellRuntime cellId _) =>
      some cellId
  | .provider authority _ => some authority.record.id
  | _ => none

theorem Free.untouched {op : Op} {cellId : CellId} (free : Free op) : op.touches ≠ some cellId := by
  cases op with
  | mutate m => exact free.elim
  | provider authority action => exact free.elim
  | _ => exact fun touched => by cases touched

theorem Concerns.touches {cellId : CellId} {op : Op} (concerns : Concerns cellId op) :
    Free op ∨ op.touches = some cellId := by
  cases op with
  | query q => exact Or.inl trivial
  | observe o => exact Or.inl trivial
  | newUuid => exact Or.inl trivial
  | provider authority action => exact Or.inr (congrArg some concerns)
  | transport authority operationId action => exact concerns.elim
  | mutate m =>
      cases m with
      | saveCell record => exact Or.inr (congrArg some concerns)
      | removeCellRuntime other guard => exact Or.inr (congrArg some concerns)
      | _ => exact concerns.elim

/-- The effects of a destruction. -/
def Destroys (env : Environment) (i : Pid) (cellId : CellId) (op : Op) (s : Store) : Prop :=
  Allowed env i op s ∧ Concerns cellId op

theorem Free.destroys {env : Environment} {i : Pid} {cellId : CellId} {op : Op} {s : Store}
    (free : Free op) : Destroys env i cellId op s := by
  refine ⟨free.allowed, ?_⟩
  cases op with
  | query q => trivial
  | observe o => trivial
  | newUuid => trivial
  | mutate m => exact free.elim
  | provider authority action => exact free.elim
  | transport authority operationId action => exact free.elim

section Reconciliation
variable {site : Site} {provider : String}

theorem passive_inspectRecorded {record : CellRecord} :
    Passive (I := signature) Free (inspectRecorded record) := by
  unfold inspectRecorded
  split
  · exact .pure
  · exact passive_inspectVm

theorem passive_reconcileTombstone {record : CellRecord} :
    Passive (I := signature) Free (reconcileTombstone record) := by
  unfold reconcileTombstone
  refine passive_inspectRecorded.bind ?_
  rintro (_ | vm)
  · refine passive_inspectVm.bind ?_
    rintro (_ | vm)
    · exact passive_query.bind fun (entry : Bool) => .ite .pure .pure
    · exact .pure
  · exact .pure

theorem passive_reconcileUnrecorded {record : CellRecord} :
    Passive (I := signature) Free (reconcileUnrecorded record) := by
  refine passive_inspectVm.bind ?_
  rintro (_ | vm)
  · exact .pure
  · exact .pure

theorem passive_reconcileRecorded {record : CellRecord} {identity : ProviderObjectIdentity} :
    Passive (I := signature) Free (reconcileRecorded site record identity) := by
  refine passive_inspectVm.bind ?_
  rintro (_ | vm)
  · exact .pure
  · exact .pure

theorem passive_reconcileRecord {record : CellRecord} :
    Passive (I := signature) Free (reconcileRecord site provider record) := by
  unfold reconcileRecord
  refine passive_validateLocalOwnership.attempt.bind ?_
  rintro (error | _)
  · exact .pure
  · refine Passive.ite passive_reconcileTombstone ?_
    split
    · exact passive_reconcileUnrecorded
    · exact passive_reconcileRecorded

theorem passive_inspectCell {cellId : CellId} :
    Passive (I := signature) Free (inspectCell site provider cellId) :=
  passive_query.bind fun _ => passive_reconcileRecord.bind fun _ => .pure

end Reconciliation

section Destruction
variable {env : Environment} {i : Pid} {s : Store} {provider : String}

/-- What a destruction knows between two of its steps. -/
structure Condemned (site : Site) (s : Store) (record : CellRecord)
    (installation : InstallationRecord) (cellId : CellId) : Prop where
  holding : Holding site s record installation
  same : record.id = cellId
  object : record.providerObject.isSome = true
  live : record.state ≠ .destroyed

theorem Condemned.runtimeChanged {record : CellRecord} {installation : InstallationRecord}
    {cellId other : CellId} {t : Store} (known : Condemned env.site s record installation cellId)
    (changed : RuntimeChanged other s t) : Condemned env.site t record installation cellId :=
  ⟨known.holding.runtimeChanged changed, known.same, known.object, known.live⟩

theorem Condemned.save {record new : CellRecord} {installation : InstallationRecord}
    {cellId : CellId} {t : Store} (known : Condemned env.site s record installation cellId)
    (same : SameCell record new) (object : new.providerObject = record.providerObject)
    (live : new.state ≠ .destroyed) (saved : s.saveCell env.site new = .ok t) :
    Condemned env.site t new installation cellId :=
  ⟨known.holding.save same saved, same.id.trans known.same, by rw [object]; exact known.object, live⟩

/-- A save of the condemned cell. -/
theorem Condemned.write {record new : CellRecord} {installation : InstallationRecord}
    {cellId : CellId} (known : Condemned env.site s record installation cellId)
    (same : SameCell record new)
    (step : ∀ stored : CellRecord, stored.phase = record.phase → stored.state = record.state →
      stored.providerObject = record.providerObject → CellStep stored new) :
    Destroys env i cellId (.mutate (.saveCell new)) s :=
  ⟨known.holding.onDisk.write same step, same.id.trans known.same⟩

theorem Condemned.act {authority : ProviderMutationAuthority} {cellId : CellId} {vm : ProviderVm}
    (action : ProviderAction)
    (known : Condemned env.site s authority.record authority.installation cellId)
    (identified : Identified env.site.platform authority.record vm)
    (marker : vm.ownershipMarker = authority.record.ownership.providerMarker ∨
      action.claims = true ∧ vm.ownershipMarker = "") (expected : action.expected = some vm) :
    Destroys env i cellId (.provider authority action) s := by
  refine ⟨?_, known.same⟩
  intro other same
  obtain rfl := Option.some.inj (expected.symm.trans same)
  exact known.holding.snapshot identified marker

/-- The phases from which a proven cell goes on to be destroyed. -/
def DestroyProof.Fits (proof : DestroyProof) : Prop :=
  if proof.provisioning then
    proof.record.phase = .providerObjectClaimed ∨ proof.record.phase = .destroyingProvisioning
  else proof.record.phase = .ready ∨ proof.record.phase = .destroying

theorem within_proveForDestroy (authority : ProviderMutationAuthority) {vm : ProviderVm}
    {cellId : CellId} {good : DestroyProof → Store → Prop}
    (known : Condemned env.site s authority.record authority.installation cellId)
    (ok : ∀ (proof : DestroyProof) t,
      Condemned env.site t proof.record authority.installation cellId → proof.Fits →
      proveDestroyIdentity env.site.platform proof.record proof.vm = .ok () → good proof t) :
    Within (env.effects i) (Destroys env i cellId) good (fun _ _ => True)
      (proveForDestroy env.site authority vm) s := by
  unfold proveForDestroy
  simp only
  split
  · rename_i phase
    refine Within.bind (Within.lift (fun _ unclaimed => ?_) fun _ _ => trivial)
    obtain ⟨identified, marker, _⟩ := proveCreationIdentity_ok.mp unclaimed
    have permitted := known.act (i := i) (.claimVm ⟨vm, authority.record.ownership.providerMarker⟩)
      identified (marker.imp id fun empty => ⟨rfl, empty.2⟩) rfl
    refine Within.bind (within_provider permitted (fun claimed t changed => ?_) fun _ _ _ => trivial)
    have known := known.runtimeChanged changed
    refine Within.bind (Within.lift (fun _ proof => ?_) fun _ _ => trivial)
    obtain ⟨identified, marker, _⟩ := proveCreationIdentity_ok.mp proof
    have own := marker.resolve_right fun empty => by cases empty.1
    refine Within.bind (within_savePhase ⟨trivial, trivial⟩ (fun time => ?_) (fun time u saved => ?_)
      fun _ _ _ _ => trivial)
    · refine known.write ⟨rfl, rfl, rfl, rfl, rfl, rfl, rfl, rfl, rfl⟩ ?_
      intro stored before state object
      exact .claimed (before.trans phase) rfl state.symm object.symm
    · refine Within.pure (ok _ u (known.save ⟨rfl, rfl, rfl, rfl, rfl, rfl, rfl, rfl, rfl⟩ rfl
        known.live saved) (Or.inl rfl) ?_)
      exact proveDestroyIdentity_ok.mpr ⟨identified.of_same rfl rfl rfl, own⟩
  · rename_i phase
    refine Within.bind (Within.lift (fun _ proof => ?_) fun _ _ => trivial)
    obtain ⟨identified, marker, _⟩ := proveCreationIdentity_ok.mp proof
    have own := marker.resolve_right fun empty => by cases empty.1
    exact Within.pure (ok _ s known (Or.inl phase) (proveDestroyIdentity_ok.mpr ⟨identified, own⟩))
  · rename_i phase
    refine Within.bind (Within.lift (fun _ proof => ?_) fun _ _ => trivial)
    exact Within.pure (ok _ s known (Or.inr phase) proof)
  · rename_i phase
    refine Within.bind (Within.lift (fun _ proof => ?_) fun _ _ => trivial)
    obtain ⟨identified, marker, _⟩ := proveOwnership_ok.mp proof
    exact Within.pure (ok _ s known (Or.inl phase)
      (proveDestroyIdentity_ok.mpr ⟨identified, marker⟩))
  · rename_i phase
    refine Within.bind (Within.lift (fun _ proof => ?_) fun _ _ => trivial)
    obtain ⟨identified, marker, _⟩ := proveOwnership_ok.mp proof
    exact Within.pure (ok _ s known (Or.inr phase)
      (proveDestroyIdentity_ok.mpr ⟨identified, marker⟩))
  · exact Within.fail trivial

theorem within_saveDestroying {proof : DestroyProof} {installation : InstallationRecord}
    {cellId : CellId} {good : CellRecord → Store → Prop}
    (known : Condemned env.site s proof.record installation cellId) (fits : proof.Fits)
    (proven : proveDestroyIdentity env.site.platform proof.record proof.vm = .ok ())
    (ok : ∀ record t, Condemned env.site t record installation cellId →
      proveDestroyIdentity env.site.platform record proof.vm = .ok () → good record t) :
    Within (env.effects i) (Destroys env i cellId) good (fun _ _ => True)
      (saveDestroying proof) s := by
  unfold saveDestroying
  refine within_savePhase ⟨trivial, trivial⟩ (fun time => ?_) (fun time u saved => ?_)
    fun _ _ _ _ => trivial
  · refine known.write ⟨rfl, rfl, rfl, rfl, rfl, rfl, rfl, rfl, rfl⟩ ?_
    intro stored before state object
    unfold DestroyProof.Fits at fits
    split at fits
    · rename_i provisioning
      exact .destroyingProvisioning (by rw [before]; exact fits) (if_pos provisioning) rfl
        object.symm
    · rename_i ready
      exact .destroying (by rw [before]; exact fits) (if_neg ready) rfl object.symm
  · refine ok _ u (known.save ⟨rfl, rfl, rfl, rfl, rfl, rfl, rfl, rfl, rfl⟩ rfl ?_ saved) ?_
    · simp
    · obtain ⟨identified, marker⟩ := proveDestroyIdentity_ok.mp proven
      exact proveDestroyIdentity_ok.mpr ⟨identified.of_same rfl rfl rfl, marker⟩

theorem within_stopForDestroy (authority : ProviderMutationAuthority) {vm : ProviderVm}
    {cellId : CellId} {good : ProviderVm → Store → Prop}
    (known : Condemned env.site s authority.record authority.installation cellId)
    (proven : proveDestroyIdentity env.site.platform authority.record vm = .ok ())
    (ok : ∀ vm t, Condemned env.site t authority.record authority.installation cellId →
      good vm t) :
    Within (env.effects i) (Destroys env i cellId) good (fun _ _ => True)
      (stopForDestroy env.site provider authority vm) s := by
  unfold stopForDestroy
  refine Within.ite (fun _ => Within.pure (ok vm s known)) fun _ => ?_
  obtain ⟨identified, marker⟩ := proveDestroyIdentity_ok.mp proven
  refine Within.bind (within_validateLocalOwnershipAgainst (fun _ => ?_) fun _ => trivial)
  refine Within.bind (within_provider (known.act _ identified (Or.inl marker) rfl)
    (fun _ t changed => ?_) fun _ _ _ => trivial)
  refine Within.bind (within_inspectVm ⟨trivial, trivial⟩ (fun found => ?_) fun _ => trivial)
  refine Within.bind (Within.lift (fun stopped _ => ?_) fun _ _ => trivial)
  refine Within.bind (Within.lift (fun _ _ => ?_) fun _ _ => trivial)
  refine Within.bind (Within.lift (fun _ _ => ?_) fun _ _ => trivial)
  exact Within.pure (ok stopped t (known.runtimeChanged changed))

theorem within_removeProven (authority : ProviderMutationAuthority) {vm : ProviderVm}
    {cellId : CellId} {good : Unit → Store → Prop}
    (known : Condemned env.site s authority.record authority.installation cellId)
    (ok : ∀ t, Condemned env.site t authority.record authority.installation cellId → good () t) :
    Within (env.effects i) (Destroys env i cellId) good (fun _ _ => True)
      (removeProven env.site provider authority vm) s := by
  unfold removeProven
  refine Within.bind (within_validateLocalOwnershipAgainst (fun _ => ?_) fun _ => trivial)
  refine Within.bind (Within.lift (fun _ proven => ?_) fun _ _ => trivial)
  obtain ⟨identified, marker⟩ := proveDestroyIdentity_ok.mp proven
  refine Within.bind (within_provider (known.act _ identified (Or.inl marker) rfl)
    (fun _ t changed => ?_) fun _ _ _ => trivial)
  refine Within.bind (within_inspectVm ⟨trivial, trivial⟩ (fun byId => ?_) fun _ => trivial)
  refine Within.bind (Within.lift (fun _ _ => ?_) fun _ _ => trivial)
  refine Within.bind (within_inspectVm ⟨trivial, trivial⟩ (fun byName => ?_) fun _ => trivial)
  exact Within.lift (fun _ _ => ok t (known.runtimeChanged changed)) fun _ _ => trivial

theorem within_removeRuntime {record : CellRecord} {installation : InstallationRecord}
    {cellId : CellId} {guard : CellRuntimeGuard} {good : Unit → Store → Prop}
    (known : Condemned env.site s record installation cellId)
    (ok : ∀ t, Condemned env.site t record installation cellId → good () t) :
    Within (env.effects i) (Destroys env i cellId) good (fun _ _ => True)
      (mutate (.removeCellRuntime record.id guard)) s := by
  refine within_mutate ⟨?_, known.same⟩ (fun _ t applied => ?_) fun _ _ _ => trivial
  · obtain ⟨stored, found, _, _, state, object⟩ := known.holding.onDisk
    exact ⟨stored, found, by rw [object]; exact known.object, by rw [state]; exact known.live⟩
  · exact ok t (known.runtimeChanged ((change_of_apply applied).runtimeChanged rfl))

theorem within_destroyPresent {record : CellRecord} {installation : InstallationRecord}
    {cellId : CellId} {vm : ProviderVm} {good : CellRecord → Store → Prop}
    (known : Condemned env.site s record installation cellId)
    (ok : ∀ record t, Condemned env.site t record installation cellId → good record t) :
    Within (env.effects i) (Destroys env i cellId) good (fun _ _ => True)
      (destroyPresent env.site provider record installation vm) s := by
  unfold destroyPresent
  refine Within.bind (within_query ⟨trivial, trivial⟩ (fun runtime _ => ?_) fun _ => trivial)
  refine Within.bind (within_proveForDestroy ⟨record, installation, runtime⟩ known
    fun proof t known fits proven => ?_)
  refine Within.bind (within_saveDestroying known fits proven fun record u known proven => ?_)
  refine Within.bind (within_stopForDestroy ⟨record, installation, runtime⟩ known
    proven fun vm v known => ?_)
  refine Within.bind (within_removeProven ⟨record, installation, runtime⟩ known
    fun w known => ?_)
  refine Within.bind (within_validateLocalOwnershipAgainst (fun _ => ?_) fun _ => trivial)
  exact Within.bind (within_removeRuntime known fun x known => Within.pure (ok record x known))

theorem within_destroyAbsent {record : CellRecord} {installation : InstallationRecord}
    {cellId : CellId} {good : CellRecord → Store → Prop}
    (known : Condemned env.site s record installation cellId)
    (ok : ∀ record t, Condemned env.site t record installation cellId → good record t) :
    Within (env.effects i) (Destroys env i cellId) good (fun _ _ => True)
      (destroyAbsent env.site provider record installation) s := by
  unfold destroyAbsent
  refine Within.bind (within_inspectVm ⟨trivial, trivial⟩ (fun byName => ?_) fun _ => trivial)
  refine Within.bind (Within.lift (fun _ _ => ?_) fun _ _ => trivial)
  refine Within.bind (within_query ⟨trivial, trivial⟩ (fun (entry : Bool) _ => ?_) fun _ => trivial)
  refine Within.ite (fun _ => ?_) fun _ => Within.pure (ok record s known)
  refine Within.bind (within_query ⟨trivial, trivial⟩ (fun runtime _ => ?_) fun _ => trivial)
  refine Within.bind (within_validateLocalOwnershipAgainst (fun _ => ?_) fun _ => trivial)
  exact Within.bind (within_removeRuntime known fun t known => Within.pure (ok record t known))

/-- The stored cell is a tombstone. -/
def Tombstone (s : Store) (cellId : CellId) : Prop :=
  ∃ record, s.cells.lookup cellId = some record ∧ record.state = .destroyed

theorem within_finishDestroy {record : CellRecord} {installation : InstallationRecord}
    {cellId : CellId} (known : Condemned env.site s record installation cellId) :
    Within (env.effects i) (Destroys env i cellId) (fun _ t => Tombstone t cellId)
      (fun _ _ => True) (finishDestroy env.site provider record installation) s := by
  unfold finishDestroy
  refine Within.bind (within_validateLocalOwnershipAgainst (fun _ => ?_) fun _ => trivial)
  refine Within.bind (within_savePhase ⟨trivial, trivial⟩ (fun time => ?_) (fun time t saved => ?_)
    fun _ _ _ _ => trivial)
  · refine known.write ⟨rfl, rfl, rfl, rfl, rfl, rfl, rfl, rfl, rfl⟩ ?_
    intro stored before state object
    exact .destroyed (by rw [state]; exact known.live) (by rw [object]; exact known.object) rfl rfl
      object.symm
  · refine Within.pure ?_
    obtain ⟨stored, found, _, _, state, _⟩ := OnDisk.of_save saved
    exact ⟨stored, known.same ▸ found, state⟩

/-- A destruction that succeeds leaves a tombstone, and whatever it does concerns
its own cell. -/
theorem within_destroyCellLocked {cellId : CellId} :
    Within (env.effects i) (Destroys env i cellId) (fun _ t => Tombstone t cellId)
      (fun _ _ => True) (destroyCellLocked env.site provider cellId) s := by
  unfold destroyCellLocked
  refine Within.bind (within_query ⟨trivial, trivial⟩ (fun record loaded => ?_) fun _ => trivial)
  have disk : OnDisk s record := .of_load loaded
  have same := Store.loadCell_id loaded
  refine Within.ite (fun destroyed => ?_) fun live => ?_
  · unfold confirmDestroyed
    refine Within.bind (within_passive passive_reconcileRecord (fun _ free => free.destroys)
      (fun reconciliation => ?_) fun _ => trivial)
    refine Within.ite (fun _ => Within.pure ?_) fun _ => Within.fail trivial
    obtain ⟨stored, found, _, _, state, _⟩ := disk
    exact ⟨stored, same ▸ found, state.trans destroyed⟩
  · unfold destroyLive
    refine Within.bind (within_query ⟨trivial, trivial⟩ (fun installation installed => ?_)
      fun _ => trivial)
    refine Within.bind (within_validateLocalOwnershipAgainst (fun owned => ?_) fun _ => trivial)
    cases object : record.providerObject with
    | none =>
        refine Within.bind (within_inspectVm ⟨trivial, trivial⟩ (fun found => ?_) fun _ => trivial)
        cases found with
        | none => exact Within.fail trivial
        | some vm => exact Within.fail trivial
    | some identity =>
        have known : Condemned env.site s record installation cellId :=
          ⟨⟨disk, owned.bound, Store.loadInstallation_ok installed, owned.installed⟩, same,
            by rw [object]; rfl, live⟩
        refine Within.bind (within_inspectVm ⟨trivial, trivial⟩ (fun found => ?_) fun _ => trivial)
        refine Within.bind ?_
        cases found with
        | none => exact within_destroyAbsent known fun _ _ known => within_finishDestroy known
        | some vm => exact within_destroyPresent known fun _ _ known => within_finishDestroy known

end Destruction

section Frame
variable {env : Environment} {i : Pid} {s t : Store} {cellId : CellId}

/-- Nothing but the cell itself has changed since the first state. -/
structure Apart (cellId : CellId) (s t : Store) : Prop where
  operations : t.operations = s.operations
  cells : ∀ other, other ≠ cellId → t.cells.lookup other = s.cells.lookup other
  runtime : ∀ other, other ≠ cellId → t.runtime.lookup other = s.runtime.lookup other
  kept : ∀ record, s.cells.lookup cellId = some record →
    ∃ now, t.cells.lookup cellId = some now ∧ SameCell record now

theorem Apart.refl (cellId : CellId) (s : Store) : Apart cellId s s :=
  ⟨rfl, fun _ _ => rfl, fun _ _ => rfl, fun record found => ⟨record, found, .refl record⟩⟩

theorem Apart.trans {u : Store} (first : Apart cellId s t) (second : Apart cellId t u) :
    Apart cellId s u where
  operations := second.operations.trans first.operations
  cells := fun other different => (second.cells other different).trans (first.cells other different)
  runtime := fun other different =>
    (second.runtime other different).trans (first.runtime other different)
  kept := by
    intro record found
    obtain ⟨middle, there, same⟩ := first.kept record found
    obtain ⟨now, last, again⟩ := second.kept middle there
    exact ⟨now, last, same.trans again⟩

theorem Apart.of_change {op : Op} (destroys : Destroys env i cellId op s)
    (change : Change env.site s op t) : Apart cellId s t := by
  obtain ⟨allowed, concerns⟩ := destroys
  cases change with
  | unchanged => exact .refl cellId s
  | cell saved =>
      rename_i record
      obtain rfl : record.id = cellId := concerns
      obtain ⟨_, _, _, rfl⟩ := Store.saveCell_ok saved
      refine ⟨rfl, fun other different => AList.lookup_insert_ne different, fun _ _ => rfl, ?_⟩
      intro old found
      refine ⟨redactCellDiagnostic record, AList.lookup_insert _, ?_⟩
      rcases allowed with intended | ⟨stored, there, same, _⟩
      · rw [intended.absent] at found
        cases found
      · obtain rfl := Option.some.inj (there.symm.trans found)
        exact same.trans (redact_sameCell record)
  | runtime key others =>
      rename_i changed runtime
      obtain rfl : changed = cellId := by
        cases op with
        | mutate m =>
            cases m with
            | removeCellRuntime other guard => exact (Option.some.inj key).symm.trans concerns
            | prepareCellRuntimeFor other configurationPath overlayPath => exact concerns.elim
            | _ => cases key
        | provider authority action => exact (Option.some.inj key).symm.trans concerns
        | _ => cases key
      exact ⟨rfl, fun _ _ => rfl, others, fun record found => ⟨record, found, .refl record⟩⟩
  | @artifact m _ _ key _ => cases m <;> first | cases key; done | exact concerns.elim
  | installed | registered | unregistered | operation | copied => exact concerns.elim

/-- A destruction leaves everything else as it was, at each of its effects and
whether it succeeds or fails. -/
theorem within_destroyCellLocked_apart {provider : String} :
    Within (env.effects i) (fun op t => Destroys env i cellId op t ∧ Apart cellId s t)
      (fun _ t => Tombstone t cellId ∧ Apart cellId s t) (fun _ t => True ∧ Apart cellId s t)
      (destroyCellLocked env.site provider cellId) s :=
  within_destroyCellLocked.always (.refl cellId s)
    fun apart destroys step => apart.trans (.of_change destroys (step_change step))

end Frame

end VmCell
