import VmCell.Engine.Sections.Destroy
import VmCell.Engine.World
import VmCell.Properties.Cells
import VmCell.State.Integrity

/-! What reconciliation reports about a cell, against what destruction does with it. -/

set_option autoImplicit false
namespace VmCell

open Interaction Fallible

section Verdicts

/-- Reports after which a cell must be left alone. -/
def ReconciliationStatus.refused : ReconciliationStatus → Bool
  | .ownershipMismatch _ | .unprovenProviderObject _ | .manifestOnly => true
  | _ => false

/-- Reports after which a cell can be destroyed. -/
def ReconciliationStatus.owned : ReconciliationStatus → Bool
  | .exactOwned | .stateDrift _ _ | .provisioning _ => true
  | _ => false

variable (platform : Platform) (record : CellRecord) (vm : ProviderVm)

/-- The proof that destruction asks for, by phase. -/
def DestroyProven : Prop :=
  match record.phase with
  | .providerObjectCreated => proveCreationIdentity platform record vm false = .ok ()
  | .providerObjectClaimed => proveCreationIdentity platform record vm true = .ok ()
  | .destroyingProvisioning => proveDestroyIdentity platform record vm = .ok ()
  | .ready | .destroying => proveOwnership platform record vm = .ok ()
  | _ => False

/-- An object still being provisioned that passes the ownership check while it is
not off: reconciliation ignores the power state there and destruction does not. -/
structure PoweredEarly : Prop where
  early : record.phase = .providerObjectCreated ∨ record.phase = .providerObjectClaimed
  owned : ownershipDrift platform record vm = []
  powered : vm.powerState ≠ .off

end Verdicts

section Classification
variable {platform : Platform} {record : CellRecord} {vm : ProviderVm}

/-- Whether the marker is asked for makes no difference to a snapshot that has it. -/
theorem proveCreationIdentity_marked (phase : record.phase = .providerObjectCreated) :
    proveCreationIdentity platform record vm (record.phase = .providerObjectClaimed ∨
      vm.ownershipMarker = record.ownership.providerMarker) = .ok () ↔
      proveCreationIdentity platform record vm false = .ok () := by
  rw [proveCreationIdentity_ok, proveCreationIdentity_ok, phase]
  by_cases marked : vm.ownershipMarker = record.ownership.providerMarker
  · simp [CreationMarker, marked]
  · simp [CreationMarker, marked]

/-- A snapshot without drift passes the creation proof exactly when it is off. -/
theorem proveCreationIdentity_of_owned {requireMarker : Bool}
    (owned : ownershipDrift platform record vm = []) :
    proveCreationIdentity platform record vm requireMarker = .ok () ↔ vm.powerState = .off := by
  obtain ⟨identified, marker, network, _⟩ := ownershipDrift_eq_nil.mp owned
  rw [proveCreationIdentity_ok]
  constructor
  · exact fun proof => proof.2.2.2
  · exact fun off => ⟨identified, Or.inl marker, by omega, off⟩

theorem proveDestroyIdentity_of_owned (owned : ownershipDrift platform record vm = []) :
    proveDestroyIdentity platform record vm = .ok () := by
  obtain ⟨identified, marker, _⟩ := ownershipDrift_eq_nil.mp owned
  exact proveDestroyIdentity_ok.mpr ⟨identified, marker⟩

theorem DestroyProven.identified (proven : DestroyProven platform record vm) :
    Identified platform record vm := by
  unfold DestroyProven at proven
  cases phase : record.phase with
  | providerObjectCreated | providerObjectClaimed =>
      rw [phase] at proven
      exact (proveCreationIdentity_ok.mp proven).1
  | destroyingProvisioning =>
      rw [phase] at proven
      exact (proveDestroyIdentity_ok.mp proven).1
  | ready | destroying =>
      rw [phase] at proven
      exact (proveOwnership_ok.mp proven).1
  | intentRecorded | overlayCreated | destroyed =>
      rw [phase] at proven
      exact proven.elim

/-- The creation proof that reconciliation tries is the one destruction asks for. -/
theorem creation_proofs_agree (platform : Platform) (vm : ProviderVm)
    (early : record.phase = .providerObjectCreated ∨ record.phase = .providerObjectClaimed) :
    proveCreationIdentity platform record vm (record.phase = .providerObjectClaimed ∨
      vm.ownershipMarker = record.ownership.providerMarker) = .ok () ↔
      DestroyProven platform record vm := by
  unfold DestroyProven
  rcases early with phase | phase
  · rw [proveCreationIdentity_marked phase, phase]
  · simp only [phase, true_or, decide_true]

/-- The end of the classification, when neither early proof applies. -/
def driftVerdict (platform : Platform) (record : CellRecord) (vm : ProviderVm) :
    ReconciliationStatus :=
  if ownershipDrift platform record vm ≠ [] then
    .ownershipMismatch (ownershipDrift platform record vm)
  else if powerStateMatches record.state vm.powerState then .exactOwned
  else .stateDrift record.state vm.powerState

theorem driftVerdict_refused :
    (driftVerdict platform record vm).refused = true ↔
      ownershipDrift platform record vm ≠ [] := by
  unfold driftVerdict
  by_cases drift : ownershipDrift platform record vm = []
  · rw [if_neg (not_not.mpr drift)]
    split <;> simp [ReconciliationStatus.refused, drift]
  · rw [if_pos drift]
    simp [ReconciliationStatus.refused, drift]

theorem driftVerdict_owned :
    (driftVerdict platform record vm).owned = true ↔ ownershipDrift platform record vm = [] := by
  unfold driftVerdict
  by_cases drift : ownershipDrift platform record vm = []
  · rw [if_neg (not_not.mpr drift)]
    split <;> simp [ReconciliationStatus.owned, drift]
  · rw [if_pos drift]
    simp [ReconciliationStatus.owned, drift]

theorem classifyVm_early (platform : Platform) (vm : ProviderVm)
    (early : record.phase = .providerObjectCreated ∨ record.phase = .providerObjectClaimed) :
    (DestroyProven platform record vm ∧ classifyVm platform record vm = .provisioning record.phase) ∨
      (¬DestroyProven platform record vm ∧
        classifyVm platform record vm = driftVerdict platform record vm) := by
  have agree := creation_proofs_agree platform vm early
  have other : record.phase ≠ .destroyingProvisioning := by
    rcases early with phase | phase <;> simp [phase]
  unfold classifyVm
  by_cases proven : DestroyProven platform record vm
  · exact Or.inl ⟨proven, if_pos ⟨early, agree.mpr proven⟩⟩
  · refine Or.inr ⟨proven, ?_⟩
    rw [if_neg fun both => proven (agree.mp both.2), if_neg fun both => other both.1]
    rfl

theorem classifyVm_late (platform : Platform) (vm : ProviderVm)
    (late : ¬(record.phase = .providerObjectCreated ∨ record.phase = .providerObjectClaimed)) :
    (record.phase = .destroyingProvisioning ∧ DestroyProven platform record vm ∧
        classifyVm platform record vm = .provisioning record.phase) ∨
      (record.phase = .destroyingProvisioning → ¬DestroyProven platform record vm) ∧
        classifyVm platform record vm = driftVerdict platform record vm := by
  unfold classifyVm
  rw [if_neg fun both => late both.1]
  by_cases phase : record.phase = .destroyingProvisioning
  · have same : DestroyProven platform record vm ↔
        proveDestroyIdentity platform record vm = .ok () := by
      unfold DestroyProven
      rw [phase]
    by_cases proven : DestroyProven platform record vm
    · exact Or.inl ⟨phase, proven, if_pos ⟨phase, same.mp proven⟩⟩
    · refine Or.inr ⟨fun _ => proven, ?_⟩
      rw [if_neg fun both => proven (same.mpr both.2)]
      rfl
  · refine Or.inr ⟨fun equal => absurd equal phase, ?_⟩
    rw [if_neg fun both => phase both.1]
    rfl

/-- A live cell with an object is in one of the phases that have a proof. -/
theorem Coupled.live_phase (coupled : Coupled record)
    (object : record.providerObject.isSome = true) (live : record.state ≠ .destroyed) :
    (record.phase = .providerObjectCreated ∨ record.phase = .providerObjectClaimed) ∨
      record.phase = .destroyingProvisioning ∨ record.phase = .ready ∨
        record.phase = .destroying := by
  unfold Coupled at coupled
  cases phase : record.phase with
  | intentRecorded | overlayCreated =>
      rw [phase] at coupled
      rw [coupled.1] at object
      cases object
  | destroyed =>
      rw [phase] at coupled
      exact absurd coupled.2 live
  | _ => simp

/-- A refusal by reconciliation is one by destruction; a cell it calls owned is
proven exactly when it is not powered too early. -/
theorem classifyVm_verdict (platform : Platform) (vm : ProviderVm) (coupled : Coupled record)
    (object : record.providerObject.isSome = true) (live : record.state ≠ .destroyed) :
    ((classifyVm platform record vm).refused = true → ¬DestroyProven platform record vm) ∧
      ((classifyVm platform record vm).owned = true →
        (DestroyProven platform record vm ↔ ¬PoweredEarly platform record vm)) ∧
      (PoweredEarly platform record vm → (classifyVm platform record vm).owned = true) := by
  rcases coupled.live_phase object live with early | late
  · have proof : ownershipDrift platform record vm = [] →
        (DestroyProven platform record vm ↔ vm.powerState = .off) := fun owned =>
      (creation_proofs_agree platform vm early).symm.trans (proveCreationIdentity_of_owned owned)
    rcases classifyVm_early platform vm early with ⟨proven, verdict⟩ | ⟨unproven, verdict⟩
    · rw [verdict]
      refine ⟨by simp [ReconciliationStatus.refused], fun _ => ?_, fun _ => rfl⟩
      exact ⟨fun _ powered => powered.powered ((proof powered.owned).mp proven), fun _ => proven⟩
    · rw [verdict, driftVerdict_refused, driftVerdict_owned]
      refine ⟨fun _ => unproven, fun clean => ?_, fun powered => powered.owned⟩
      refine ⟨fun proven => absurd proven unproven, fun calm => absurd ?_ unproven⟩
      refine (proof clean).mpr ?_
      by_contra powered
      exact calm ⟨early, clean, powered⟩
  · have unearly : ¬(record.phase = .providerObjectCreated ∨
        record.phase = .providerObjectClaimed) := by
      rcases late with phase | phase | phase <;> simp [phase]
    have calm : ¬PoweredEarly platform record vm := fun powered => unearly powered.early
    rcases classifyVm_late platform vm unearly with ⟨_, proven, verdict⟩ | ⟨unproven, verdict⟩
    · rw [verdict]
      exact ⟨by simp [ReconciliationStatus.refused], fun _ => by simp [proven, calm],
        fun powered => absurd powered calm⟩
    · rw [verdict, driftVerdict_refused, driftVerdict_owned]
      have proof : DestroyProven platform record vm ↔ ownershipDrift platform record vm = [] := by
        rcases late with phase | ready
        · refine ⟨fun proven => absurd proven (unproven phase), fun clean => ?_⟩
          unfold DestroyProven
          rw [phase]
          exact proveDestroyIdentity_of_owned clean
        · have asked : DestroyProven platform record vm ↔
              proveOwnership platform record vm = .ok () := by
            unfold DestroyProven
            rcases ready with phase | phase <;> rw [phase]
          rw [asked, proveOwnership, proven_ok]
      simp [proof, calm]

end Classification

section Agreement
variable {P : Type} (host : Host P) (site : Site) (provider : String) (cellId : CellId)
  (w : World P)

/-- Destruction fails, having asked nothing of the provider but what is there, and
having written nothing. -/
def Refuses : Prop :=
  Meets (host.handler site) Looks (fun _ _ => False)
    (fun _ t => t.store = w.store) (destroyCellLocked site provider cellId) w

/-- Destruction gets as far as the write of the state `destroying`. -/
def WritesDestroying : Prop :=
  Leads (host.handler site) (fun op _ => ∃ record, op = .mutate (.saveCell record) ∧
    record.id = cellId ∧ record.state = .destroying) (destroyCellLocked site provider cellId) w

/-- Both run in the same state and get the same answers. -/
def Agrees (record : CellRecord) : Prop :=
  ∀ reconciliation t,
    (reconcileRecord site provider record).run (host.handler site) true w =
      (some (.ok reconciliation), t) →
    (reconciliation.status.refused = true → Refuses host site provider cellId w) ∧
      (reconciliation.status.owned = true → WritesDestroying host site provider cellId w)

end Agreement

section Refusals
variable {P : Type} {host : Host P} {site : Site} {provider : String} {cellId : CellId}
  {w : World P} {record : CellRecord}

/-- What remains after the record has been read. -/
theorem refuses_of_loaded (loaded : w.store.loadCell site cellId = .ok record)
    (rest : Meets (host.handler site) Looks (fun _ _ => False)
      (fun _ t => t.store = w.store)
      (if record.state = .destroyed then confirmDestroyed site provider record
        else destroyLive site provider record) w) : Refuses host site provider cellId w := by
  refine Meets.bind (meets_query trivial (fun found read => ?_) fun error failed => ?_)
  · obtain rfl := Except.ok.inj (loaded.symm.trans read)
    exact rest
  · cases loaded.symm.trans failed

theorem refuses_unowned (loaded : w.store.loadCell site cellId = .ok record)
    (live : record.state ≠ .destroyed) (foreign : ¬Owned site provider w record) :
    Refuses host site provider cellId w := by
  refine refuses_of_loaded loaded ?_
  rw [if_neg live]
  refine Meets.bind (meets_query trivial (fun installation read => ?_) fun _ _ => rfl)
  refine Meets.bind (Meets.lift (fun _ valid => ?_) fun _ _ => rfl)
  exact absurd ⟨installation, read, validateLocalOwnershipRecord_ok.mp valid⟩ foreign

theorem refuses_tombstone {reconciliation : Reconciliation} {t : World P}
    (loaded : w.store.loadCell site cellId = .ok record) (gone : record.state = .destroyed)
    (runs : (reconcileRecord site provider record).run (host.handler site) true w =
      (some (.ok reconciliation), t)) (other : reconciliation.status ≠ .destroyed) :
    Refuses host site provider cellId w := by
  refine refuses_of_loaded loaded ?_
  rw [if_pos gone]
  refine Meets.bind (meets_known passive_reconcileRecord runs fun kept => ?_)
  exact Meets.ite (fun same => absurd same other) fun _ => kept

/-- What remains once the cell has been found to be owned. -/
theorem refuses_of_owned (loaded : w.store.loadCell site cellId = .ok record)
    (live : record.state ≠ .destroyed)
    (rest : ∀ installation, Meets (host.handler site) Looks (fun _ _ => False)
      (fun _ t => t.store = w.store)
      (match record.providerObject with
        | none => refuseUnrecorded record
        | some identity => destroyRecorded site provider record installation identity) w) :
    Refuses host site provider cellId w := by
  refine refuses_of_loaded loaded ?_
  rw [if_neg live]
  refine Meets.bind (meets_query trivial (fun installation _ => ?_) fun _ _ => rfl)
  exact Meets.bind (Meets.lift (fun _ _ => rest installation) fun _ _ => rfl)

theorem refuses_unrecorded (loaded : w.store.loadCell site cellId = .ok record)
    (live : record.state ≠ .destroyed) (unrecorded : record.providerObject = none) :
    Refuses host site provider cellId w := by
  refine refuses_of_owned loaded live fun installation => ?_
  rw [unrecorded]
  refine Meets.bind (meets_inspectVm trivial (fun found p _ => ?_) fun _ _ _ => rfl)
  cases found with
  | some vm => exact Meets.fail rfl
  | none => exact Meets.fail rfl

theorem meets_proveForDestroy_refused {authority : ProviderMutationAuthority} {vm : ProviderVm}
    (unproven : ¬DestroyProven site.platform authority.record vm) :
    Meets (host.handler site) Looks (fun _ _ => False) (fun _ t => t.store = w.store)
      (proveForDestroy site authority vm) w := by
  unfold DestroyProven at unproven
  unfold proveForDestroy
  cases phase : authority.record.phase with
  | providerObjectCreated | providerObjectClaimed | destroyingProvisioning | ready | destroying =>
      rw [phase] at unproven
      simp only [phase]
      exact Meets.bind (Meets.lift (fun _ proof => absurd proof unproven) fun _ _ => rfl)
  | intentRecorded | overlayCreated | destroyed =>
      simp only [phase]
      exact Meets.fail rfl

theorem refuses_unproven {identity : ProviderObjectIdentity} {vm : ProviderVm} {p : P}
    (loaded : w.store.loadCell site cellId = .ok record) (live : record.state ≠ .destroyed)
    (recorded : record.providerObject = some identity)
    (found : host.inspect (.id identity.id) w.hidden = (.ok (some vm), p))
    (unproven : ¬DestroyProven site.platform record vm) : Refuses host site provider cellId w := by
  refine refuses_of_owned loaded live fun installation => ?_
  rw [recorded]
  refine Meets.bind (meets_inspectVm trivial (fun present q answered => ?_) fun _ _ _ => rfl)
  obtain ⟨⟨rfl⟩, rfl⟩ := Prod.mk.inj (found.symm.trans answered)
  refine Meets.bind (Meets.bind (meets_query trivial (fun runtime _ => ?_) fun _ _ => rfl))
  refine Meets.bind ((meets_proveForDestroy_refused unproven).weaken ?_ fun _ _ kept => kept)
  exact fun _ _ impossible => impossible.elim

end Refusals

section Progress
variable {P : Type} {host : Host P} {site : Site} {provider : String} {cellId : CellId}
  {w : World P} {record : CellRecord} {vm : ProviderVm}

/-- The claim is carried out: the object carries the marker and is otherwise as it was. -/
def Claims (host : Host P) : Prop :=
  ∀ authority request p, (host.act authority (.claimVm request) p).1 =
    .ok { request.expected with ownershipMarker := request.ownershipMarker }

/-- The identity of a snapshot does not depend on its marker. -/
theorem Identified.marked {platform : Platform} (identified : Identified platform record vm)
    (marker : String) : Identified platform record { vm with ownershipMarker := marker } :=
  ⟨identified.recorded, identified.name, identified.configuration, identified.disk,
    identified.memory⟩

theorem meets_proveForDestroy {authority : ProviderMutationAuthority}
    (loaded : w.store.loadCell site cellId = .ok authority.record)
    (proven : DestroyProven site.platform authority.record vm)
    (claims : authority.record.phase = .providerObjectCreated → Claims host) :
    Meets (host.handler site) Acts (fun proof _ => proof.record.id = cellId) (fun _ _ => False)
      (proveForDestroy site authority vm) w := by
  have known := Store.loadCell_id loaded
  unfold DestroyProven at proven
  unfold proveForDestroy
  cases phase : authority.record.phase with
  | providerObjectCreated =>
      have claims := claims phase
      rw [phase] at proven
      simp only [phase]
      refine Meets.bind (Meets.lift (fun _ _ => ?_) fun _ failed => ?_)
      · refine Meets.bind (meets_provider trivial (fun claimed p acted => ?_) fun _ p acted => ?_)
        · have same := (congrArg Prod.fst acted).symm.trans (claims _ _ _)
          obtain rfl := Except.ok.inj same
          have marked : proveCreationIdentity site.platform authority.record
              { vm with ownershipMarker := authority.record.ownership.providerMarker } true =
                .ok () := by
            obtain ⟨identified, _, network, off⟩ := proveCreationIdentity_ok.mp proven
            exact proveCreationIdentity_ok.mpr ⟨identified.marked _, Or.inl rfl, network, off⟩
          refine Meets.bind (Meets.lift (fun _ _ => ?_) fun _ failed => ?_)
          · refine Meets.bind (meets_savePhase loaded (.refl _) trivial (fun _ _ => trivial)
              fun time _ => ?_)
            exact Meets.pure known
          · cases marked.symm.trans failed
        · cases (congrArg Prod.fst acted).symm.trans (claims _ _ _)
      · cases proven.symm.trans failed
  | providerObjectClaimed | destroyingProvisioning | ready | destroying =>
      rw [phase] at proven
      simp only [phase]
      refine Meets.bind (Meets.lift (fun _ _ => Meets.pure known) fun _ failed => ?_)
      cases proven.symm.trans failed
  | intentRecorded | overlayCreated | destroyed =>
      rw [phase] at proven
      exact proven.elim

theorem leads_saveDestroying {proof : DestroyProof} (known : proof.record.id = cellId) :
    Leads (host.handler site) (fun op _ => ∃ record, op = .mutate (.saveCell record) ∧
      record.id = cellId ∧ record.state = .destroying) (saveDestroying proof) w := by
  refine leads_after (meets_now trivial fun time _ => ?_)
  exact leads_first (Or.inl ⟨_, rfl, known, rfl⟩)

theorem writes_proven {identity : ProviderObjectIdentity} {p : P} {guard : CellRuntimeGuard}
    (loaded : w.store.loadCell site cellId = .ok record) (live : record.state ≠ .destroyed)
    (owned : Owned site provider w record) (recorded : record.providerObject = some identity)
    (found : host.inspect (.id identity.id) w.hidden = (.ok (some vm), p))
    (pinned : w.store.pinCellRuntimeFor site record.id record.ownership.configurationPath
      record.ownership.overlayPath = .ok guard)
    (proven : DestroyProven site.platform record vm)
    (claims : record.phase = .providerObjectCreated → Claims host) :
    WritesDestroying host site provider cellId w := by
  obtain ⟨installation, installed, valid⟩ := owned
  refine leads_after (meets_query trivial (fun read again => ?_) fun _ failed => ?_)
  · obtain rfl := Except.ok.inj (loaded.symm.trans again)
    rw [if_neg live]
    refine leads_after (meets_query trivial (fun authority acquired => ?_) fun _ failed => ?_)
    · obtain rfl := Except.ok.inj (installed.symm.trans acquired)
      refine leads_after (Meets.lift (fun _ _ => ?_) fun _ failed => ?_)
      · rw [recorded]
        refine leads_after (meets_inspectVm trivial (fun present q answered => ?_)
          fun _ _ answered => ?_)
        · obtain ⟨⟨rfl⟩, rfl⟩ := Prod.mk.inj (found.symm.trans answered)
          refine leads_first (leads_after (meets_query trivial (fun runtime _ => ?_)
            fun _ failed => ?_))
          · refine leads_after ((meets_proveForDestroy loaded proven claims).weaken
              (fun proof t known => ?_) fun _ _ impossible => impossible)
            exact leads_first (leads_saveDestroying known)
          · cases pinned.symm.trans failed
        · cases found.symm.trans answered
      · cases (validateLocalOwnershipRecord_ok.mpr valid).symm.trans failed
    · cases installed.symm.trans failed
  · cases loaded.symm.trans failed

theorem meets_reconcile_present (live : record.state ≠ .destroyed)
    (owned : Owned site provider w record) (present : Presents host w record vm) :
    Meets (host.handler site) Looks
      (fun r _ => r.status = classifyVm site.platform record vm) (fun _ _ => False)
      (reconcileRecord site provider record) w := by
  obtain ⟨installation, installed, valid⟩ := owned
  obtain ⟨identity, p, recorded, found⟩ := present
  refine Meets.bind (Meets.attempt (Meets.bind (meets_query trivial (fun read again => ?_)
    fun _ failed => ?_)))
  · obtain rfl := Except.ok.inj (installed.symm.trans again)
    refine Meets.lift (fun _ _ => ?_) fun _ failed => ?_
    · simp only [if_neg live, recorded]
      refine Meets.bind (meets_inspectVm trivial (fun seen q answered => ?_) fun _ _ answered => ?_)
      · obtain ⟨⟨rfl⟩, rfl⟩ := Prod.mk.inj (found.symm.trans answered)
        exact Meets.pure rfl
      · cases found.symm.trans answered
    · cases (validateLocalOwnershipRecord_ok.mpr valid).symm.trans failed
  · cases installed.symm.trans failed

/-- Where a report comes from: a snapshot that was classified, or something that
is never called owned. -/
def Explained (host : Host P) (site : Site) (provider : String) (w : World P)
    (record : CellRecord) (status : ReconciliationStatus) : Prop :=
  (status.owned = false ∧ (status.refused = true → record.state ≠ .destroyed →
      Owned site provider w record → record.providerObject = none)) ∨
    (Owned site provider w record ∧ record.state ≠ .destroyed ∧
      ∃ vm, Presents host w record vm ∧ status = classifyVm site.platform record vm)

theorem meets_reconcileTombstone (gone : record.state = .destroyed) {t : World P} :
    Meets (host.handler site) Looks
      (fun r _ => Explained host site provider w record r.status) (fun _ _ => True)
      (reconcileTombstone record) t := by
  have explained : ∀ status : ReconciliationStatus, status.owned = false →
      Explained host site provider w record status :=
    fun _ unowned => Or.inl ⟨unowned, fun _ live => absurd gone live⟩
  have byName : ∀ {rest : Option ProviderVm → Engine Reconciliation} {u : World P},
      (∀ vm v, Meets (host.handler site) Looks
        (fun r _ => Explained host site provider w record r.status) (fun _ _ => True)
        (rest (some vm)) v) →
      (∀ v, Meets (host.handler site) Looks
        (fun r _ => Explained host site provider w record r.status) (fun _ _ => True)
        (rest none) v) →
      Meets (host.handler site) Looks
        (fun r _ => Explained host site provider w record r.status) (fun _ _ => True)
        (inspectVm (.name record.ownership.providerObjectName) >>= rest) u := by
    intro rest u occupied vacant
    refine Meets.bind (meets_inspectVm trivial (fun found p _ => ?_) fun _ _ _ => trivial)
    cases found with
    | some vm => exact occupied vm _
    | none => exact vacant _
  have vacant : ∀ v, Meets (host.handler site) Looks
      (fun r _ => Explained host site provider w record r.status) (fun _ _ => True)
      (do
        let entry : Bool ← query (.runtimeEntryExists record.id)
        if entry then pure ⟨none, .ownershipMismatch
          ["runtime entry exists after the cell was tombstoned"]⟩
        else pure ⟨none, .destroyed⟩ : Engine Reconciliation) v := by
    intro v
    refine Meets.bind (meets_query trivial (fun (entry : Bool) _ => ?_) fun _ _ => trivial)
    exact Meets.ite (fun _ => Meets.pure (explained _ rfl)) fun _ => Meets.pure (explained _ rfl)
  unfold reconcileTombstone inspectRecorded
  cases recorded : record.providerObject with
  | none => exact byName (fun _ _ => Meets.pure (explained _ rfl)) vacant
  | some identity =>
      refine Meets.bind (meets_inspectVm trivial (fun found p _ => ?_) fun _ _ _ => trivial)
      cases found with
      | some vm => exact Meets.pure (explained _ rfl)
      | none => exact byName (fun _ _ => Meets.pure (explained _ rfl)) vacant

theorem meets_reconcileRecord :
    Meets (host.handler site) Looks
      (fun r _ => Explained host site provider w record r.status) (fun _ _ => True)
      (reconcileRecord site provider record) w := by
  have foreign : ¬Owned site provider w record → ∀ reasons,
      Explained host site provider w record (.ownershipMismatch reasons) :=
    fun unowned _ => Or.inl ⟨rfl, fun _ _ owned => absurd owned unowned⟩
  refine Meets.bind (Meets.attempt (Meets.bind (meets_query trivial (fun installation read => ?_)
    fun _ failed => ?_)))
  · refine Meets.lift (fun _ valid => ?_) fun _ failed => ?_
    · have owned : Owned site provider w record :=
        ⟨installation, read, validateLocalOwnershipRecord_ok.mp valid⟩
      by_cases gone : record.state = .destroyed
      · simp only [if_pos gone]
        exact meets_reconcileTombstone gone
      · simp only [if_neg gone]
        cases recorded : record.providerObject with
        | none =>
            refine Meets.bind (meets_inspectVm trivial (fun found p _ => ?_) fun _ _ _ => trivial)
            cases found with
            | some vm => exact Meets.pure (Or.inl ⟨rfl, fun _ _ _ => recorded⟩)
            | none => exact Meets.pure (Or.inl ⟨rfl, fun _ _ _ => recorded⟩)
        | some identity =>
            refine Meets.bind (meets_inspectVm trivial (fun found p answered => ?_)
              fun _ _ _ => trivial)
            cases found with
            | some vm =>
                exact Meets.pure (Or.inr ⟨owned, gone, vm, ⟨identity, p, recorded, answered⟩, rfl⟩)
            | none => exact Meets.pure (Or.inl ⟨rfl, fun refused => by cases refused⟩)
    · refine Meets.pure (foreign ?_ _)
      rintro ⟨other, again, owned⟩
      obtain rfl := Except.ok.inj (read.symm.trans again)
      cases (validateLocalOwnershipRecord_ok.mpr owned).symm.trans failed
  · refine Meets.pure (foreign ?_ _)
    rintro ⟨other, again, _⟩
    cases again.symm.trans failed

end Progress

section Theorem
variable {P : Type} {host : Host P} {site : Site} {provider : String} {cellId : CellId}
  {w : World P} {record : CellRecord} {guard : CellRuntimeGuard}

theorem Refuses.not_writes (refuses : Refuses host site provider cellId w) :
    ¬WritesDestroying host site provider cellId w := by
  refine Held.not_leads (Does.held refuses) ?_
  rintro op t free ⟨record, rfl, _⟩
  exact free

/-- A cell whose object is powered too early is reported as owned and refused. -/
theorem not_agrees_of_powered {vm : ProviderVm}
    (loaded : w.store.loadCell site cellId = .ok record) (coupled : Coupled record)
    (owned : Owned site provider w record) (present : Presents host w record vm)
    (powered : PoweredEarly site.platform record vm) :
    ¬Agrees host site provider cellId w record := by
  intro agrees
  have live : record.state ≠ .destroyed := by
    intro gone
    rcases powered.early with phase | phase
    · cases phase.symm.trans (coupled.destroyed.mpr gone)
    · cases phase.symm.trans (coupled.destroyed.mpr gone)
  obtain ⟨_, proof, reported⟩ :=
    classifyVm_verdict site.platform vm coupled present.recorded live
  obtain ⟨result, t, runs, ends⟩ := Does.run (meets_reconcile_present live owned present)
  cases result with
  | error e => exact ends.elim
  | ok reconciliation =>
      have status : reconciliation.status = classifyVm site.platform record vm := ends
      have called : reconciliation.status.owned = true := status ▸ reported powered
      have unproven : ¬DestroyProven site.platform record vm := fun proven =>
        (proof (reported powered)).mp proven powered
      obtain ⟨identity, p, recorded, found⟩ := present
      exact (refuses_unproven loaded live recorded found unproven).not_writes
        ((agrees reconciliation t runs).2 called)

/-- Reconciliation and destruction agree about a coupled cell with an intact
runtime exactly when its object is not, while still being provisioned, powered
and otherwise owned: reconciliation then reports the cell as exactly owned, and
destruction refuses it. -/
theorem reconcile_agrees_with_destroy (loaded : w.store.loadCell site cellId = .ok record)
    (coupled : Coupled record)
    (pinned : w.store.pinCellRuntimeFor site record.id record.ownership.configurationPath
      record.ownership.overlayPath = .ok guard)
    (claims : record.phase = .providerObjectCreated → Claims host) :
    Agrees host site provider cellId w record ↔
      ¬(Owned site provider w record ∧
        ∃ vm, Presents host w record vm ∧ PoweredEarly site.platform record vm) := by
  constructor
  · rintro agrees ⟨owned, vm, present, powered⟩
    exact not_agrees_of_powered loaded coupled owned present powered agrees
  · intro calm reconciliation t runs
    have meets : Meets (host.handler site) Looks
        (fun r _ => Explained host site provider w record r.status) (fun _ _ => True)
        (reconcileRecord site provider record) w := meets_reconcileRecord
    have explained := meets.result runs
    by_cases gone : record.state = .destroyed
    · rcases explained with ⟨unowned, _⟩ | ⟨_, live, _⟩
      · refine ⟨fun refused => refuses_tombstone loaded gone runs ?_, fun called => ?_⟩
        · intro same
          rw [same] at refused
          cases refused
        · rw [unowned] at called
          cases called
      · exact absurd gone live
    · by_cases owned : Owned site provider w record
      · rcases explained with ⟨unowned, unrecorded⟩ | ⟨_, _, vm, present, status⟩
        · refine ⟨fun refused => refuses_unrecorded loaded gone (unrecorded refused gone owned),
            fun called => ?_⟩
          rw [unowned] at called
          cases called
        · obtain ⟨refusal, proof, _⟩ :=
            classifyVm_verdict site.platform vm coupled present.recorded gone
          rw [status]
          obtain ⟨identity, p, recorded, found⟩ := present
          refine ⟨fun refused => ?_, fun called => ?_⟩
          · exact refuses_unproven loaded gone recorded found (refusal refused)
          · refine writes_proven loaded gone owned recorded found pinned ((proof called).mpr ?_) claims
            exact fun powered => calm ⟨owned, vm, ⟨identity, p, recorded, found⟩, powered⟩
      · refine ⟨fun _ => refuses_unowned loaded gone owned, fun called => ?_⟩
        rcases explained with ⟨unowned, _⟩ | ⟨other, _⟩
        · rw [unowned] at called
          cases called
        · exact absurd other owned

/-- The cell was claimed and its runtime is whole. -/
def Exemplar.claimed (s : Store) (powerState : ProviderPowerState) (record : CellRecord)
    (vm : ProviderVm) : Bool :=
  Coupled record ∧ record.phase = .providerObjectClaimed ∧
    ownershipDrift Exemplar.site.platform record vm = [] ∧ vm.powerState = powerState ∧
    s.pinCellRuntimeFor Exemplar.site record.id record.ownership.configurationPath
      record.ownership.overlayPath =
        .ok ⟨record.id, record.ownership.configurationPath, record.ownership.overlayPath⟩

/-- A cell whose creation was killed before the machine was configured. -/
theorem Exemplar.interrupted : ∃ s, finds (world s .off) (claimed s .off) = true ∧
    finds (world s .running) (claimed s .running) = true := by
  obtain ⟨s, _, passed⟩ := reaches [(register, 11), (create, 33)] (fun s =>
    finds (world s .off) (claimed s .off) && finds (world s .running) (claimed s .running))
    (by decide +kernel)
  exact ⟨s, (Bool.and_eq_true _ _).mp passed⟩

theorem reconcile_agrees_with_destroy_when_off :
    ∃ s record, s.loadCell Exemplar.site Exemplar.cellId = .ok record ∧
      Agrees Exemplar.host Exemplar.site "qemu" Exemplar.cellId
        (Exemplar.world s .off) record := by
  obtain ⟨s, finds, _⟩ := Exemplar.interrupted
  obtain ⟨record, vm, loaded, owned, present, passed⟩ := Exemplar.found _ finds
  obtain ⟨coupled, phase, _, off, pinned⟩ := of_decide_eq_true passed
  refine ⟨s, record, loaded, (reconcile_agrees_with_destroy loaded coupled pinned ?_).mpr ?_⟩
  · intro created
    cases phase.symm.trans created
  · rintro ⟨_, other, again, powered⟩
    obtain rfl := present.unique again
    exact powered.powered off

/-- The machine of such a cell runs: the cell is reported as exactly owned, and
its destruction is refused. -/
theorem claimed_running_machine_refused :
    ∃ s record guard, s.loadCell Exemplar.site Exemplar.cellId = .ok record ∧
      Coupled record ∧ record.phase = .providerObjectClaimed ∧
      s.pinCellRuntimeFor Exemplar.site record.id record.ownership.configurationPath
        record.ownership.overlayPath = .ok guard ∧
      ¬Agrees Exemplar.host Exemplar.site "qemu" Exemplar.cellId
        (Exemplar.world s .running) record := by
  obtain ⟨s, _, finds⟩ := Exemplar.interrupted
  obtain ⟨record, vm, loaded, owned, present, passed⟩ := Exemplar.found _ finds
  obtain ⟨coupled, phase, drift, running, pinned⟩ := of_decide_eq_true passed
  refine ⟨s, record, _, loaded, coupled, phase, pinned, ?_⟩
  refine not_agrees_of_powered loaded coupled owned present ⟨Or.inr phase, drift, ?_⟩
  rw [running]
  decide

end Theorem

end VmCell
