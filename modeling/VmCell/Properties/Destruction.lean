import VmCell.Properties.Agreement
import VmCell.Properties.Artifacts

/-! A destruction that was killed can be run again. -/

set_option autoImplicit false
namespace VmCell

open Interaction Fallible

/-- A provider that carries out its calls and does nothing else. Each law is about
a call whose snapshot is the one the provider holds. -/
structure Faithful {P : Type} (host : Host P) (machines : P → String → Option ProviderVm) :
    Prop where
  byId : ∀ id p, (host.inspect (.id id) p).1 = .ok (machines p id)
  byName : ∀ name p, (host.inspect (.name name) p).1 = .ok none ↔
    ∀ id vm, machines p id = some vm → vm.name ≠ name
  looking : ∀ lookup p, machines (host.inspect lookup p).2 = machines p
  claim : ∀ authority vm marker p, machines p vm.id = some vm →
    (host.act authority (.claimVm ⟨vm, marker⟩) p).1 = .ok { vm with ownershipMarker := marker } ∧
      machines (host.act authority (.claimVm ⟨vm, marker⟩) p).2 =
        Function.update (machines p) vm.id (some { vm with ownershipMarker := marker })
  stop : ∀ authority vm p, machines p vm.id = some vm →
    (host.act authority (.stopVm vm) p).1 = .ok () ∧
      machines (host.act authority (.stopVm vm) p).2 =
        Function.update (machines p) vm.id (some { vm with powerState := .off })
  remove : ∀ authority vm p, machines p vm.id = some vm →
    (host.act authority (.removeVm vm) p).1 = .ok () ∧
      machines (host.act authority (.removeVm vm) p).2 =
        Function.update (machines p) vm.id none

/-- A mutation that a killed process has begun. -/
def Torn (site : Site) {P : Type} (op : Op) (w t : World P) : Prop :=
  ∃ m s, op = .mutate m ∧ Disturbed site w.store m s ∧ t = { w with store := s }

/-- A cell to be destroyed, as it was first seen, and the provider that holds its
object. -/
structure Subject (P : Type) where
  host : Host P
  machines : P → String → Option ProviderVm
  faithful : Faithful host machines
  site : Site
  provider : String
  cell : CellRecord
  installation : InstallationRecord
  identity : ProviderObjectIdentity
  supported : isLocalProvider provider = true
  owned : LocallyOwned site provider cell installation.installId
  recorded : cell.providerObject = some identity

namespace Subject
variable {P : Type}

section States
variable (x : Subject P)

/-- A store in which the cell can be read. -/
structure Standing (w : World P) (record : CellRecord) : Prop where
  legible : Legible x.site w.store
  installed : w.store.loadInstallation x.site = .ok x.installation
  loaded : w.store.loadCell x.site x.cell.id = .ok record
  same : SameCell x.cell record
  object : record.providerObject = x.cell.providerObject

/-- Another object has the name of the cell. -/
def Taken (p : P) : Prop :=
  ∃ id other, x.machines p id = some other ∧
    other.name = x.cell.ownership.providerObjectName ∧ id ≠ x.identity.id

/-- No object has the cell's id or its name. -/
structure Vacant (p : P) : Prop where
  unfound : x.machines p x.identity.id = none
  unnamed : ∀ id vm, x.machines p id = some vm → vm.name ≠ x.cell.ownership.providerObjectName

/-- The paths of the cell lie directly below its runtime root. -/
def Rooted : Prop :=
  Store.ensureRuntimeChildren x.site x.cell.id x.cell.ownership.configurationPath
    x.cell.ownership.overlayPath = .ok ()

/-- The configuration directory is there. -/
def Configured (s : Store) : Prop :=
  ∃ tree, s.runtime.lookup x.cell.id = some tree ∧
    tree.lookup (Store.runtimeEntry x.site x.cell.id x.cell.ownership.configurationPath) =
      some .directory

/-- The runtime directory is gone, or its configuration directory is there. -/
def Clear (s : Store) : Prop := s.runtime.lookup x.cell.id = none ∨ x.Configured s

/-- The object of the cell, proven as the record's phase asks. -/
structure Machine (record : CellRecord) (vm : ProviderVm) (p : P) : Prop where
  found : x.machines p x.identity.id = some vm
  proven : DestroyProven x.site.platform record vm

/-- A live cell with its object and its runtime. -/
structure Present (taken : Prop) (record : CellRecord) (vm : ProviderVm) (w : World P) :
    Prop where
  standing : x.Standing w record
  live : record.state ≠ .destroyed
  machine : x.Machine record vm w.hidden
  named : x.Taken w.hidden ↔ taken
  rooted : x.Rooted
  configured : x.Configured w.store

/-- A live cell whose object is gone; its runtime may be there in part. -/
structure Absent (taken : Prop) (record : CellRecord) (w : World P) : Prop where
  standing : x.Standing w record
  live : record.state ≠ .destroyed
  unfound : x.machines w.hidden x.identity.id = none
  named : x.Taken w.hidden ↔ taken
  rooted : w.store.runtime.lookup x.cell.id = none ∨ x.Rooted

/-- A tombstone with nothing left. -/
structure Gone (record : CellRecord) (w : World P) : Prop where
  standing : x.Standing w record
  state : record.state = .destroyed
  vacant : x.Vacant w.hidden
  cleared : w.store.runtime.lookup x.cell.id = none

/-- The states between two effects of a destruction. -/
def Known (taken : Prop) (record : CellRecord) (w : World P) : Prop :=
  (∃ vm, x.Present taken record vm w) ∨ x.Absent taken record w ∨ ¬taken ∧ x.Gone record w

/-- What a crash can leave. -/
def Left (taken : Prop) (w : World P) : Prop := ∃ record, x.Known taken record w

/-- An effect before, in and after which a crash leaves such a state. -/
def Survives (taken : Prop) (op : Op) (w : World P) : Prop :=
  x.Left taken w ∧ ∀ t, Torn x.site op w t → x.Left taken t

end States

section Standing
variable {x : Subject P} {w : World P} {record new : CellRecord}

theorem Standing.owned (standing : x.Standing w record) :
    LocallyOwned x.site x.provider record x.installation.installId :=
  x.owned.of_same standing.same standing.object

theorem Standing.of_store {t : World P} (standing : x.Standing w record)
    (same : t.store = w.store) : x.Standing t record :=
  ⟨by rw [same]; exact standing.legible, by rw [same]; exact standing.installed,
    by rw [same]; exact standing.loaded, standing.same, standing.object⟩

theorem Standing.elsewhere (standing : x.Standing w record) (time : DateTime) (p : P) :
    x.Standing { w with clock := time, hidden := p } record := standing.of_store rfl

/-- Another record of the cell is written. -/
theorem Standing.saved (standing : x.Standing w record) (same : SameCell record new)
    (object : new.providerObject = record.providerObject)
    (diagnostic : new.lastError = record.lastError) : x.Standing (w.saved x.cell.id new) new := by
  have saved := Store.saveCell_again standing.loaded same.id same.schemaVersion same.ownership
    same.job
  have legible : Legible x.site (w.saved x.cell.id new).store :=
    legible_of_saveCell standing.legible saved
  refine ⟨legible, standing.installed, ?_, standing.same.trans same,
    object.trans standing.object⟩
  obtain ⟨stored, _, rfl, _⟩ := Store.loadCell_ok standing.loaded
  have kept := redactCellDiagnostic_kept diagnostic
  rw [legible.loadCell (AList.lookup_insert _), kept, kept]

/-- The runtime directory does not matter for the records. -/
theorem Standing.runtime (standing : x.Standing w record)
    (runtime : Directory CellId RuntimeTree) :
    x.Standing { w with store := { w.store with runtime := runtime } } record := by
  have legible : Legible x.site { w.store with runtime := runtime } :=
    standing.legible.of_same rfl rfl standing.legible.installation standing.legible.images
  exact ⟨legible, standing.installed, standing.loaded, standing.same, standing.object⟩

end Standing

section Machines
variable {x : Subject P} {w : World P} {record new : CellRecord} {vm other : ProviderVm} {p q : P}

theorem Machine.of_machines (machine : x.Machine record vm p) (same : x.machines q = x.machines p) :
    x.Machine record vm q :=
  ⟨by rw [same]; exact machine.found, machine.proven⟩

/-- A change of the cell's own object does not free the name. -/
theorem taken_update {object : Option ProviderVm}
    (change : x.machines q = Function.update (x.machines p) x.identity.id object) :
    x.Taken q ↔ x.Taken p := by
  unfold Taken
  rw [change]
  refine exists_congr fun id => exists_congr fun other => ?_
  by_cases own : id = x.identity.id
  · simp [own]
  · rw [Function.update_of_ne own]

theorem taken_congr (same : x.machines q = x.machines p) : x.Taken q ↔ x.Taken p := by
  unfold Taken
  rw [same]

theorem vacant_iff : x.Vacant p ↔ x.machines p x.identity.id = none ∧ ¬x.Taken p := by
  constructor
  · rintro ⟨unfound, unnamed⟩
    refine ⟨unfound, ?_⟩
    rintro ⟨id, other, found, named, _⟩
    exact unnamed id other found named
  · rintro ⟨unfound, free⟩
    refine ⟨unfound, fun id other found named => free ⟨id, other, found, named, ?_⟩⟩
    rintro rfl
    cases unfound.symm.trans found

theorem Vacant.of_machines (vacant : x.Vacant p) (same : x.machines q = x.machines p) :
    x.Vacant q :=
  ⟨by rw [same]; exact vacant.unfound, by rw [same]; exact vacant.unnamed⟩

theorem Machine.identity (machine : x.Machine record vm p) (standing : x.Standing w record) :
    vm.id = x.identity.id ∧ vm.name = x.cell.ownership.providerObjectName := by
  have identified := machine.proven.identified
  have recorded := identified.recorded.symm.trans (standing.object.trans x.recorded)
  refine ⟨by rw [← Option.some.inj recorded], ?_⟩
  rw [identified.name, standing.same.ownership]

/-- The object is changed in place. -/
theorem Machine.updated (identity : vm.id = x.identity.id)
    (proven : DestroyProven x.site.platform record other)
    (change : x.machines q = Function.update (x.machines p) vm.id (some other)) :
    x.Machine record other q := by
  exact ⟨by rw [change, identity, Function.update_self], proven⟩

end Machines

section Survival
variable {x : Subject P} {w : World P} {record new : CellRecord} {vm : ProviderVm} {taken : Prop}

theorem Present.left (present : x.Present taken record vm w) : x.Left taken w :=
  ⟨record, Or.inl ⟨vm, present⟩⟩

theorem Absent.left (absent : x.Absent taken record w) : x.Left taken w :=
  ⟨record, Or.inr (Or.inl absent)⟩

theorem Absent.vacant (absent : x.Absent taken record w) (free : ¬taken) : x.Vacant w.hidden :=
  vacant_iff.mpr ⟨absent.unfound, fun held => free (absent.named.mp held)⟩

theorem Gone.left (gone : x.Gone record w) (free : ¬taken) : x.Left taken w :=
  ⟨record, Or.inr (Or.inr ⟨free, gone⟩)⟩

/-- Time passes and the provider is asked. -/
theorem Present.elsewhere (present : x.Present taken record vm w) (time : DateTime) {p : P}
    (same : x.machines p = x.machines w.hidden) :
    x.Present taken record vm { w with clock := time, hidden := p } :=
  ⟨present.standing.elsewhere time p, present.live, present.machine.of_machines same,
    (taken_congr same).trans present.named, present.rooted, present.configured⟩

theorem Absent.elsewhere (absent : x.Absent taken record w) (time : DateTime) {p : P}
    (same : x.machines p = x.machines w.hidden) :
    x.Absent taken record { w with clock := time, hidden := p } :=
  ⟨absent.standing.elsewhere time p, absent.live,
    (congrFun same x.identity.id).trans absent.unfound, (taken_congr same).trans absent.named,
    absent.rooted⟩

/-- An effect that writes nothing. -/
theorem Left.survives {op : Op} (left : x.Left taken w) (quiet : ∀ m, op ≠ .mutate m) :
    x.Survives taken op w := by
  refine ⟨left, ?_⟩
  rintro t ⟨m, s, rfl, _⟩
  exact absurd rfl (quiet m)

theorem Left.survives_save {time : DateTime} (left : x.Left taken { w with clock := time })
    (standing : x.Standing w record) (same : SameCell record new) (stamped : new.updatedAt = time)
    (after : x.Left taken (w.saved x.cell.id new)) :
    x.Survives taken (.mutate (.saveCell new)) { w with clock := time } := by
  refine ⟨left, ?_⟩
  rintro t ⟨m, s, equal, disturbed, rfl⟩
  cases equal
  rcases disturbed_saveCell disturbed with rfl | saved
  · exact left
  · have again := Store.saveCell_again standing.loaded same.id same.schemaVersion same.ownership
      same.job
    obtain rfl := Except.ok.inj (again.symm.trans saved)
    subst stamped
    exact after

end Survival

section Steps
variable {x : Subject P} {w : World P} {record new : CellRecord} {vm : ProviderVm} {taken : Prop}

theorem meets_inspectId {allowed : Op → World P → Prop}
    {good : Option ProviderVm → World P → Prop} {bad : EngineError → World P → Prop} {id : String}
    (permitted : allowed (.observe (.inspectVm (.id id))) w)
    (ok : ∀ q, x.machines q = x.machines w.hidden →
      good (x.machines w.hidden id) { w with hidden := q }) :
    Meets (x.host.handler x.site) allowed good bad (inspectVm (.id id)) w := by
  have answer := x.faithful.byId id w.hidden
  have kept := x.faithful.looking (.id id) w.hidden
  refine meets_inspectVm permitted (fun found q answered => ?_)
    fun e q answered => ?_
  · rw [answered] at answer kept
    obtain rfl := Except.ok.inj answer
    exact ok q kept
  · rw [answered] at answer
    cases answer

/-- The answer is empty exactly when the name is free. -/
theorem meets_inspectName {allowed : Op → World P → Prop}
    {good : Option ProviderVm → World P → Prop} {bad : EngineError → World P → Prop}
    (permitted : allowed
      (.observe (.inspectVm (.name x.cell.ownership.providerObjectName))) w)
    (unfound : x.machines w.hidden x.identity.id = none)
    (free : ¬x.Taken w.hidden → ∀ q, x.machines q = x.machines w.hidden →
      good none { w with hidden := q })
    (other : x.Taken w.hidden → ∀ vm q, x.machines q = x.machines w.hidden →
      good (some vm) { w with hidden := q })
    (failed : x.Taken w.hidden → ∀ e q, x.machines q = x.machines w.hidden →
      bad e { w with hidden := q }) :
    Meets (x.host.handler x.site) allowed good bad
      (inspectVm (.name x.cell.ownership.providerObjectName)) w := by
  have answer := x.faithful.byName x.cell.ownership.providerObjectName w.hidden
  have kept := x.faithful.looking (.name x.cell.ownership.providerObjectName) w.hidden
  have vacant : ¬x.Taken w.hidden ↔ (x.host.inspect
      (.name x.cell.ownership.providerObjectName) w.hidden).1 = .ok none := by
    rw [answer]
    exact ⟨fun free => (vacant_iff.mpr ⟨unfound, free⟩).unnamed,
      fun unnamed => (vacant_iff.mp ⟨unfound, unnamed⟩).2⟩
  refine meets_inspectVm permitted (fun found q answered => ?_) fun e q answered => ?_
  · rw [answered] at vacant kept
    cases found with
    | none => exact free (vacant.mpr rfl) q kept
    | some vm => exact other (not_not.mp fun none => by cases vacant.mp none) vm q kept
  · rw [answered] at vacant kept
    exact failed (not_not.mp fun none => by cases vacant.mp none) _ q kept

theorem meets_savePresent {phase : CellPhase} {good : CellRecord → World P → Prop}
    {bad : EngineError → World P → Prop} (present : x.Present taken record vm w)
    (same : SameCell record new) (object : new.providerObject = record.providerObject)
    (diagnostic : new.lastError = record.lastError) (live : new.state ≠ .destroyed)
    (proven : ∀ time, DestroyProven x.site.platform
      { new with phase := phase, updatedAt := time } vm)
    (ok : ∀ time, x.Present taken { new with phase := phase, updatedAt := time } vm
        (w.saved x.cell.id { new with phase := phase, updatedAt := time }) →
      good { new with phase := phase, updatedAt := time }
        (w.saved x.cell.id { new with phase := phase, updatedAt := time })) :
    Meets (x.host.handler x.site) (x.Survives taken) good bad (savePhase new phase) w := by
  have changed : ∀ time, SameCell record { new with phase := phase, updatedAt := time } :=
    fun _ => same.trans ⟨rfl, rfl, rfl, rfl, rfl, rfl, rfl, rfl, rfl⟩
  have after : ∀ time, x.Present taken { new with phase := phase, updatedAt := time } vm
      (w.saved x.cell.id { new with phase := phase, updatedAt := time }) := by
    intro time
    refine ⟨present.standing.saved (changed time) object diagnostic, live, ?_, present.named,
      present.rooted, present.configured⟩
    exact ⟨present.machine.found, proven time⟩
  refine meets_savePhase present.standing.loaded same (present.left.survives (by simp))
    (fun time _ => ?_) fun time _ => ok time (after time)
  exact (present.elsewhere time rfl).left.survives_save present.standing (changed time) rfl
    (after time).left

/-- What a provider call does to the object, when it is carried out. -/
theorem meets_act {authority : ProviderMutationAuthority} {action : ProviderAction}
    {good : action.Answer → World P → Prop} {bad : EngineError → World P → Prop}
    {answer : action.Answer} {machines : String → Option ProviderVm} (left : x.Left taken w)
    (law : (x.host.act authority action w.hidden).1 = .ok answer ∧
      x.machines (x.host.act authority action w.hidden).2 = machines)
    (ok : ∀ q, x.machines q = machines → good answer { w with hidden := q }) :
    Meets (x.host.handler x.site) (x.Survives taken) good bad (callProvider authority action) w := by
  obtain ⟨answered, changed⟩ := law
  refine meets_provider (left.survives (by simp)) (fun other q acted => ?_) fun e q acted => ?_
  · rw [acted] at answered changed
    obtain rfl := Except.ok.inj answered
    exact ok q changed
  · rw [acted] at answered
    cases answered

theorem meets_proveForDestroy_present {authority : ProviderMutationAuthority}
    (present : x.Present taken authority.record vm w) :
    Meets (x.host.handler x.site) (x.Survives taken)
      (fun proof t => x.Present taken proof.record proof.vm t ∧ proof.Fits) (fun _ _ => False)
      (proveForDestroy x.site authority vm) w := by
  have proven := present.machine.proven
  obtain ⟨identity, _⟩ := present.machine.identity present.standing
  unfold DestroyProven at proven
  unfold proveForDestroy
  cases phase : authority.record.phase with
  | providerObjectCreated =>
      -- the object may be unmarked yet: it is claimed, and the marked one is proven again
      rw [phase] at proven
      simp only [phase]
      refine Meets.bind (Meets.lift (fun _ _ => ?_) fun _ failed => ?_)
      · have found : x.machines w.hidden vm.id = some vm := by
          rw [identity]
          exact present.machine.found
        obtain ⟨identified, _, network, off⟩ := proveCreationIdentity_ok.mp proven
        have marked : ∀ required, proveCreationIdentity x.site.platform authority.record
            { vm with ownershipMarker := authority.record.ownership.providerMarker } required =
              .ok () := fun required =>
          proveCreationIdentity_ok.mpr ⟨identified.marked _, Or.inl rfl, network, off⟩
        refine Meets.bind (meets_act present.left (x.faithful.claim authority vm _ w.hidden found)
          fun q changed => ?_)
        have claimed : x.Present taken authority.record
            { vm with ownershipMarker := authority.record.ownership.providerMarker }
            { w with hidden := q } := by
          refine ⟨present.standing.elsewhere w.clock q, present.live, ?_,
            (taken_update (identity ▸ changed)).trans present.named, present.rooted,
            present.configured⟩
          refine .updated identity ?_ changed
          unfold DestroyProven
          rw [phase]
          exact marked false
        refine Meets.bind (Meets.lift (fun _ _ => ?_) fun _ failed => ?_)
        · refine Meets.bind (meets_savePresent claimed (.refl _) rfl rfl present.live
            (fun time => ?_) fun time after => Meets.pure ⟨after, ?_⟩)
          · exact marked true
          · exact Or.inl rfl
        · cases (marked true).symm.trans failed
      · cases proven.symm.trans failed
  | providerObjectClaimed | destroyingProvisioning | ready | destroying =>
      rw [phase] at proven
      simp only [phase]
      refine Meets.bind (Meets.lift (fun _ _ => Meets.pure ⟨present, ?_⟩) fun _ failed => ?_)
      · simp [DestroyProof.Fits, phase]
      · cases proven.symm.trans failed
  | intentRecorded | overlayCreated | destroyed =>
      -- no object is proven in these phases
      rw [phase] at proven
      exact proven.elim

/-- The phases in which the power state no longer matters. -/
def Underway (record : CellRecord) : Prop :=
  record.phase = .destroying ∨ record.phase = .destroyingProvisioning

theorem meets_saveDestroying {proof : DestroyProof} (fits : proof.Fits)
    (present : x.Present taken proof.record proof.vm w) :
    Meets (x.host.handler x.site) (x.Survives taken)
      (fun record t => x.Present taken record proof.vm t ∧ Underway record) (fun _ _ => False)
      (saveDestroying proof) w := by
  have proven := present.machine.proven
  unfold DestroyProven at proven
  unfold DestroyProof.Fits at fits
  refine meets_savePresent present ⟨rfl, rfl, rfl, rfl, rfl, rfl, rfl, rfl, rfl⟩ rfl rfl (by simp)
    (fun time => ?_) fun time after => ⟨after, ?_⟩
  · cases provisioning : proof.provisioning with
    | true =>
        rw [provisioning] at fits
        rcases fits with phase | phase
        · rw [phase] at proven
          -- the claimed object has the marker, which is all that the new phase asks for
          obtain ⟨identified, marker, _⟩ := proveCreationIdentity_ok.mp proven
          have own := marker.resolve_right fun empty => by cases empty.1
          exact proveDestroyIdentity_ok.mpr ⟨identified.of_same rfl rfl rfl, own⟩
        · rw [phase] at proven
          exact proven
    | false =>
        rw [provisioning] at fits
        rcases fits with phase | phase
        · rw [phase] at proven
          exact proven
        · rw [phase] at proven
          exact proven
  · cases provisioning : proof.provisioning with
    | true => exact Or.inr rfl
    | false => exact Or.inl rfl

/-- A proof that is asked for while the destruction is underway survives the stop. -/
theorem Underway.proven (underway : Underway record)
    (proven : DestroyProven x.site.platform record vm) (power : ProviderPowerState) :
    DestroyProven x.site.platform record { vm with powerState := power } ∧
      proveDestroyIdentity x.site.platform record { vm with powerState := power } = .ok () := by
  unfold DestroyProven at proven ⊢
  rcases underway with phase | phase
  · rw [phase] at proven ⊢
    have owned : ownershipDrift x.site.platform record { vm with powerState := power } = [] :=
      proven_ok.mp proven
    exact ⟨proven, proveDestroyIdentity_of_owned owned⟩
  · rw [phase] at proven ⊢
    exact ⟨proven, proven⟩

theorem meets_validate {allowed : Op → World P → Prop} {good : Unit → World P → Prop}
    {bad : EngineError → World P → Prop} (standing : x.Standing w record) (ok : good () w) :
    Meets (x.host.handler x.site) allowed good bad
      (validateLocalOwnershipAgainst x.site x.provider record x.installation) w := by
  refine Meets.lift (fun _ _ => ok) fun _ failed => ?_
  cases (validateLocalOwnershipRecord_ok.mpr standing.owned).symm.trans failed

theorem meets_stopForDestroy {guard : CellRuntimeGuard} (underway : Underway record)
    (present : x.Present taken record vm w) :
    Meets (x.host.handler x.site) (x.Survives taken)
      (fun stopped t => x.Present taken record stopped t) (fun _ _ => False)
      (stopForDestroy x.site x.provider ⟨record, x.installation, guard⟩ vm) w := by
  obtain ⟨identity, _⟩ := present.machine.identity present.standing
  have found : x.machines w.hidden vm.id = some vm := by
    rw [identity]
    exact present.machine.found
  refine Meets.ite (fun _ => Meets.pure present) fun _ => ?_
  refine Meets.bind (meets_validate present.standing ?_)
  refine Meets.bind (meets_act present.left (x.faithful.stop _ vm w.hidden found)
    fun q changed => ?_)
  obtain ⟨asked, proof⟩ := underway.proven present.machine.proven .off
  have stopped : x.Present taken record { vm with powerState := .off } { w with hidden := q } :=
    ⟨present.standing.elsewhere w.clock q, present.live, .updated identity asked changed,
      (taken_update (identity ▸ changed)).trans present.named, present.rooted, present.configured⟩
  -- the stopped object is looked for once more, and has to be the proven one
  refine Meets.bind (meets_inspectId (stopped.left.survives (by simp)) fun r kept => ?_)
  have again : x.machines q vm.id = some { vm with powerState := .off } := by
    rw [changed, Function.update_self]
  refine Meets.bind (Meets.lift (fun seen presented => ?_) fun _ failed => ?_)
  · rw [again] at presented
    obtain rfl := Except.ok.inj presented
    refine Meets.bind (Meets.lift (fun _ _ => ?_) fun _ failed => ?_)
    · refine Meets.bind (Meets.lift (fun _ _ => ?_) fun _ failed => ?_)
      · exact Meets.pure (stopped.elsewhere w.clock kept)
      · cases failed
    · cases proof.symm.trans failed
  · rw [again] at failed
    cases failed

theorem meets_removeProven {guard : CellRuntimeGuard} (underway : Underway record)
    (present : x.Present taken record vm w) :
    Meets (x.host.handler x.site) (x.Survives taken)
      (fun _ t => ¬taken ∧ x.Absent taken record t ∧ x.Configured t.store)
      (fun _ t => taken ∧ x.Left taken t)
      (removeProven x.site x.provider ⟨record, x.installation, guard⟩ vm) w := by
  obtain ⟨identity, _⟩ := present.machine.identity present.standing
  have found : x.machines w.hidden vm.id = some vm := by
    rw [identity]
    exact present.machine.found
  refine Meets.bind (meets_validate present.standing ?_)
  have proof := (underway.proven present.machine.proven vm.powerState).2
  refine Meets.bind (Meets.lift (fun _ _ => ?_) fun _ failed => ?_)
  · refine Meets.bind (meets_act present.left (x.faithful.remove _ vm w.hidden found)
      fun q changed => ?_)
    have missing : x.machines q vm.id = none := by
      rw [changed, Function.update_self]
    have absent : x.Absent taken record { w with hidden := q } :=
      ⟨present.standing.elsewhere w.clock q, present.live, identity ▸ missing,
        (taken_update (identity ▸ changed)).trans present.named, Or.inr present.rooted⟩
    refine Meets.bind (meets_inspectId (absent.left.survives (by simp)) fun r kept => ?_)
    have absent := absent.elsewhere w.clock kept
    refine Meets.bind (Meets.lift (fun _ _ => ?_) fun _ failed => ?_)
    · have name : record.ownership.providerObjectName = x.cell.ownership.providerObjectName := by
        rw [present.standing.same.ownership]
      simp only [name]
      -- whether another object has the name has not changed since the beginning
      refine Meets.bind (meets_inspectName (absent.left.survives (by simp)) absent.unfound
        (fun free u still => ?_) (fun occupied _ u still => ?_) fun occupied _ u still => ?_)
      · exact ⟨fun held => free (absent.named.mpr held), absent.elsewhere w.clock still,
          present.configured⟩
      · exact ⟨absent.named.mp occupied, (absent.elsewhere w.clock still).left⟩
      · exact ⟨absent.named.mp occupied, (absent.elsewhere w.clock still).left⟩
    · change require (x.machines q vm.id).isNone _ = _ at failed
      rw [missing] at failed
      cases failed
  · cases proof.symm.trans failed

theorem openConfiguration_ok {s : Store} :
    s.openConfiguration x.site x.cell.id x.cell.ownership.configurationPath = .ok () ↔
      x.Configured s := by
  unfold Store.openConfiguration Configured
  cases s.runtime.lookup x.cell.id with
  | none => simp
  | some tree =>
      simp only [Option.some.injEq, exists_eq_left']
      cases tree.lookup (Store.runtimeEntry x.site x.cell.id
        x.cell.ownership.configurationPath) with
      | none => simp
      | some kind => cases kind <;> simp

/-- The runtime directory can be pinned when the configuration directory is there. -/
theorem pinned_iff {s : Store} {guard : CellRuntimeGuard} (same : SameCell x.cell record) :
    s.pinCellRuntimeFor x.site record.id record.ownership.configurationPath
        record.ownership.overlayPath = .ok guard ↔
      x.Rooted ∧ x.Configured s ∧
        guard = ⟨x.cell.id, x.cell.ownership.configurationPath, x.cell.ownership.overlayPath⟩ := by
  unfold Store.pinCellRuntimeFor Rooted
  rw [same.id, same.ownership, bind_unit_ok, bind_unit_ok, openConfiguration_ok]
  simp only [pure, Except.pure, Except.ok.injEq, eq_comm]

/-- A runtime directory that is removed, in part or as a whole. -/
theorem Absent.cleared (absent : x.Absent taken record w) (rooted : x.Rooted)
    (runtime : Directory CellId RuntimeTree) :
    x.Absent taken record { w with store := { w.store with runtime := runtime } } :=
  ⟨absent.standing.runtime runtime, absent.live, absent.unfound, absent.named, Or.inr rooted⟩

theorem meets_removeCellRuntime {good : Unit → World P → Prop} {bad : EngineError → World P → Prop}
    (absent : x.Absent taken record w) (rooted : x.Rooted) (configured : x.Configured w.store)
    (ok : ∀ t, x.Absent taken record t → t.store.runtime.lookup x.cell.id = none → good () t) :
    Meets (x.host.handler x.site) (x.Survives taken) good bad (mutate (.removeCellRuntime record.id
      ⟨x.cell.id, x.cell.ownership.configurationPath, x.cell.ownership.overlayPath⟩)) w := by
  have removed : w.store.removeCellRuntime x.site x.cell.id
      ⟨x.cell.id, x.cell.ownership.configurationPath, x.cell.ownership.overlayPath⟩ =
        .ok { w.store with runtime := w.store.runtime.erase x.cell.id } := by
    unfold Store.removeCellRuntime Store.ensureGuardOf
    rw [if_pos rfl, openConfiguration_ok.mpr configured]
    rfl
  rw [absent.standing.same.id]
  refine meets_mutate ⟨absent.left, ?_⟩ (fun _ s applied => ?_) fun e failed => ?_
  · rintro t ⟨m, s, equal, disturbed, rfl⟩
    cases equal
    cases disturbed with
    | before => exact absent.left
    | after applied =>
        obtain rfl := Except.ok.inj (removed.symm.trans (written_ok.mp applied))
        exact (absent.cleared rooted _).left
    | runtimeRemoval _ _ _ =>
        -- an absent object is known with any part of its runtime directory
        exact (absent.cleared rooted _).left
  · obtain rfl := Except.ok.inj (removed.symm.trans (written_ok.mp applied))
    exact ok _ (absent.cleared rooted _) (AList.lookup_erase _ _)
  · change written (w.store.removeCellRuntime x.site x.cell.id _) = _ at failed
    rw [removed] at failed
    cases failed

theorem meets_destroyPresent (present : x.Present taken record vm w) :
    Meets (x.host.handler x.site) (x.Survives taken)
      (fun last t => ¬taken ∧ x.Absent taken last t ∧ t.store.runtime.lookup x.cell.id = none)
      (fun _ t => taken ∧ x.Left taken t)
      (destroyPresent x.site x.provider record x.installation vm) w := by
  have pinned := (pinned_iff present.standing.same).mpr ⟨present.rooted, present.configured, rfl⟩
  refine Meets.bind (meets_query (present.left.survives (by simp)) (fun guard answered => ?_)
    fun _ failed => ?_)
  · obtain rfl := Except.ok.inj (pinned.symm.trans answered)
    have begin : x.Present taken (ProviderMutationAuthority.record ⟨record, x.installation,
      ⟨x.cell.id, x.cell.ownership.configurationPath, x.cell.ownership.overlayPath⟩⟩) vm w := present
    refine Meets.bind ((meets_proveForDestroy_present begin).weaken (fun proof t known => ?_)
      fun _ _ impossible => impossible.elim)
    refine Meets.bind ((meets_saveDestroying known.2 known.1).weaken (fun last u known => ?_)
      fun _ _ impossible => impossible.elim)
    refine Meets.bind ((meets_stopForDestroy known.2 known.1).weaken (fun stopped v still => ?_)
      fun _ _ impossible => impossible.elim)
    refine Meets.bind ((meets_removeProven known.2 still).weaken (fun _ z gone => ?_)
      fun _ _ occupied => occupied)
    obtain ⟨free, absent, configured⟩ := gone
    refine Meets.bind (meets_validate absent.standing ?_)
    refine Meets.bind (meets_removeCellRuntime absent present.rooted configured
      fun t absent cleared => ?_)
    exact Meets.pure ⟨free, absent, cleared⟩
  · cases pinned.symm.trans failed

theorem Standing.name (standing : x.Standing w record) :
    record.ownership.providerObjectName = x.cell.ownership.providerObjectName := by
  rw [standing.same.ownership]

/-- The answer whether there is a runtime directory. -/
theorem Standing.entered (standing : x.Standing w record) {entry : Bool}
    (answered : (Except.ok (w.store.runtime.lookup record.id).isSome : Except StateError Bool) =
      .ok entry) : entry = (w.store.runtime.lookup x.cell.id).isSome := by
  rw [standing.same.id] at answered
  exact (Except.ok.inj answered).symm

/-- Whether the name or the runtime of an absent object stands in the way. -/
theorem meets_destroyAbsent {good : CellRecord → World P → Prop}
    {bad : EngineError → World P → Prop} (absent : x.Absent taken record w)
    (ok : ¬taken → x.Clear w.store → ∀ t, x.Absent taken record t →
      t.store.runtime.lookup x.cell.id = none → good record t)
    (blocked : ¬(¬taken ∧ x.Clear w.store) → ∀ e t, x.Left taken t → bad e t) :
    Meets (x.host.handler x.site) (x.Survives taken) good bad
      (destroyAbsent x.site x.provider record x.installation) w := by
  have occupied : x.Taken w.hidden → ∀ e q, x.machines q = x.machines w.hidden →
      bad e { w with hidden := q } := fun held _ _ kept =>
    blocked (fun both => both.1 (absent.named.mp held)) _ _ (absent.elsewhere w.clock kept).left
  unfold destroyAbsent
  simp only [absent.standing.name]
  refine Meets.bind (meets_inspectName (absent.left.survives (by simp)) absent.unfound
    (fun free q kept => ?_) (fun held _ q kept => occupied held _ q kept) occupied)
  have free : ¬taken := fun held => free (absent.named.mpr held)
  have absent := absent.elsewhere w.clock kept
  refine Meets.bind (Meets.lift (fun _ _ => ?_) fun _ failed => by cases failed)
  refine Meets.bind (meets_query (absent.left.survives (by simp)) (fun (entry : Bool) answered => ?_)
    fun _ failed => by cases failed)
  have entered := absent.standing.entered answered
  cases found : w.store.runtime.lookup x.cell.id with
  | none =>
      rw [found] at entered
      subst entered
      exact Meets.pure (ok free (Or.inl found) _ absent found)
  | some tree =>
      rw [found] at entered
      subst entered
      -- the directory is pinned for its removal, and the pin opens the configuration directory
      have rooted : x.Rooted := absent.rooted.resolve_left fun none => by cases found.symm.trans none
      refine Meets.bind (meets_query (absent.left.survives (by simp)) (fun guard answered => ?_)
        fun _ failed => ?_)
      · obtain ⟨_, configured, rfl⟩ := (pinned_iff absent.standing.same).mp answered
        refine Meets.bind (meets_validate absent.standing ?_)
        refine Meets.bind (meets_removeCellRuntime absent rooted configured fun t after cleared => ?_)
        exact Meets.pure (ok free (Or.inr configured) t after cleared)
      · refine blocked ?_ _ _ absent.left
        rintro ⟨_, none | configured⟩
        · cases found.symm.trans none
        · have pinned := (pinned_iff absent.standing.same).mpr ⟨rooted, configured, rfl⟩
          cases pinned.symm.trans failed

theorem meets_finishDestroy (absent : x.Absent taken record w) (free : ¬taken)
    (cleared : w.store.runtime.lookup x.cell.id = none) :
    Meets (x.host.handler x.site) (x.Survives taken)
      (fun report t => report.changed = true ∧ ∃ last, x.Gone last t) (fun _ _ => False)
      (finishDestroy x.site x.provider record x.installation) w := by
  refine Meets.bind (meets_validate absent.standing ?_)
  have same : ∀ time, SameCell record
      { record with state := .destroyed, phase := .destroyed, updatedAt := time } :=
    fun _ => ⟨rfl, rfl, rfl, rfl, rfl, rfl, rfl, rfl, rfl⟩
  have after : ∀ time, x.Gone
      { record with state := .destroyed, phase := .destroyed, updatedAt := time }
      (w.saved x.cell.id
        { record with state := .destroyed, phase := .destroyed, updatedAt := time }) :=
    fun time => ⟨absent.standing.saved (same time) rfl rfl, rfl, absent.vacant free, cleared⟩
  refine Meets.bind (meets_savePhase absent.standing.loaded
    ⟨rfl, rfl, rfl, rfl, rfl, rfl, rfl, rfl, rfl⟩ (absent.left.survives (by simp))
    (fun time _ => ?_) fun time _ => Meets.pure ⟨rfl, _, after time⟩)
  exact (absent.elsewhere time rfl).left.survives_save absent.standing (same time) rfl
    ((after time).left free)

end Steps

section Runs
variable {x : Subject P} {w t : World P} {record : CellRecord} {vm : ProviderVm} {taken : Prop}
  {allowed : Op → World P → Prop}

theorem meets_destroyLive_of {good : OperationReport → World P → Prop}
    {bad : EngineError → World P → Prop} (look : ∀ q, allowed (.query q) w)
    (standing : x.Standing w record) (live : record.state ≠ .destroyed)
    (rest : Meets (x.host.handler x.site) allowed good bad
      (destroyRecorded x.site x.provider record x.installation x.identity) w) :
    Meets (x.host.handler x.site) allowed good bad
      (destroyCellLocked x.site x.provider x.cell.id) w := by
  refine Meets.bind (meets_query (look _) (fun read again => ?_) fun _ failed => ?_)
  · obtain rfl := Except.ok.inj (standing.loaded.symm.trans again)
    rw [if_neg live]
    refine Meets.bind (meets_query (look _) (fun acquired again => ?_) fun _ failed => ?_)
    · obtain rfl := Except.ok.inj (standing.installed.symm.trans again)
      refine Meets.bind (meets_validate standing ?_)
      rw [standing.object, x.recorded]
      exact rest
    · cases standing.installed.symm.trans failed
  · cases standing.loaded.symm.trans failed

theorem meets_destroy_present (present : x.Present taken record vm w) :
    Meets (x.host.handler x.site) (x.Survives taken)
      (fun _ t => ¬taken ∧ ∃ last, x.Gone last t) (fun _ t => taken ∧ x.Left taken t)
      (destroyCellLocked x.site x.provider x.cell.id) w := by
  refine meets_destroyLive_of (fun _ => present.left.survives (by simp)) present.standing
    present.live ?_
  refine Meets.bind (meets_inspectId (present.left.survives (by simp)) fun q kept => ?_)
  rw [present.machine.found]
  refine Meets.bind ((meets_destroyPresent (present.elsewhere w.clock kept)).weaken
    (fun last t known => ?_) fun _ _ occupied => occupied)
  obtain ⟨free, absent, cleared⟩ := known
  exact (meets_finishDestroy absent free cleared).weaken (fun _ _ ends => ⟨free, ends.2⟩)
    fun _ _ impossible => impossible.elim

theorem meets_destroy_absent (absent : x.Absent taken record w) :
    Meets (x.host.handler x.site) (x.Survives taken)
      (fun _ t => (¬taken ∧ x.Clear w.store) ∧ ∃ last, x.Gone last t)
      (fun _ t => ¬(¬taken ∧ x.Clear w.store) ∧ x.Left taken t)
      (destroyCellLocked x.site x.provider x.cell.id) w := by
  refine meets_destroyLive_of (fun _ => absent.left.survives (by simp)) absent.standing
    absent.live ?_
  refine Meets.bind (meets_inspectId (absent.left.survives (by simp)) fun q kept => ?_)
  rw [absent.unfound]
  refine Meets.bind (meets_destroyAbsent (absent.elsewhere w.clock kept)
    (fun free clear t after cleared => ?_) fun blocked _ _ left => ⟨blocked, left⟩)
  exact (meets_finishDestroy after free cleared).weaken (fun _ _ ends => ⟨⟨free, clear⟩, ends.2⟩)
    fun _ _ impossible => impossible.elim

theorem Gone.of_same (gone : x.Gone record w) (store : t.store = w.store)
    (machines : x.machines t.hidden = x.machines w.hidden) : x.Gone record t :=
  ⟨gone.standing.of_store store, gone.state, gone.vacant.of_machines machines,
    by rw [store]; exact gone.cleared⟩

/-- A tombstone is confirmed exactly when nothing is left. -/
theorem meets_reconcile_tombstone {good : Reconciliation → World P → Prop}
    {bad : EngineError → World P → Prop} (standing : x.Standing w record)
    (destroyed : record.state = .destroyed)
    (look : ∀ op p, (∀ m, op ≠ .mutate m) → x.machines p = x.machines w.hidden →
      allowed op { w with hidden := p })
    (ok : ∀ report q, x.machines q = x.machines w.hidden →
      (report.status = .destroyed ↔ x.Gone record w) → good report { w with hidden := q })
    (error : ¬x.Gone record w → ∀ e q, x.machines q = x.machines w.hidden →
      bad e { w with hidden := q }) :
    Meets (x.host.handler x.site) allowed good bad (reconcileRecord x.site x.provider record) w := by
  have valid := validateLocalOwnershipRecord_ok.mpr standing.owned
  refine Meets.bind (Meets.attempt (Meets.bind (meets_query (look _ _ (by simp) rfl)
    (fun installation read => ?_) fun _ failed => ?_)))
  · obtain rfl := Except.ok.inj (standing.installed.symm.trans read)
    refine Meets.lift (fun _ _ => ?_) fun _ failed => ?_
    · simp only [if_pos destroyed]
      unfold reconcileTombstone inspectRecorded
      rw [standing.object, x.recorded, standing.name]
      refine Meets.bind (meets_inspectId (look _ _ (by simp) rfl) fun q kept => ?_)
      cases found : x.machines w.hidden x.identity.id with
      | some vm =>
          refine Meets.pure (ok _ q kept ⟨fun same => (by cases same), fun gone => ?_⟩)
          cases gone.vacant.unfound.symm.trans found
      | none =>
          have unfound := (congrFun kept x.identity.id).trans found
          have occupied : x.Taken q → ¬x.Gone record w := fun held gone =>
            (vacant_iff.mp gone.vacant).2 ((taken_congr kept).mp held)
          refine Meets.bind (meets_inspectName (look _ _ (by simp) kept) unfound
            (fun free r still => ?_) (fun held vm r still => ?_) fun held e r still => ?_)
          · refine Meets.bind (meets_query (look _ _ (by simp) (still.trans kept))
              (fun (entry : Bool) answered => ?_) fun _ failed => by cases failed)
            have entered := standing.entered answered
            have vacant : x.Vacant w.hidden :=
              vacant_iff.mpr ⟨found, fun held => free ((taken_congr kept).mpr held)⟩
            cases cleared : w.store.runtime.lookup x.cell.id with
            | none =>
                rw [cleared] at entered
                subst entered
                exact Meets.pure (ok _ r (still.trans kept)
                  ⟨fun _ => ⟨standing, destroyed, vacant, cleared⟩, fun _ => rfl⟩)
            | some tree =>
                rw [cleared] at entered
                subst entered
                refine Meets.pure (ok _ r (still.trans kept) ⟨fun same => (by cases same), ?_⟩)
                intro gone
                cases gone.cleared.symm.trans cleared
          · exact Meets.pure (ok _ r (still.trans kept)
              ⟨fun same => (by cases same), fun gone => absurd gone (occupied held)⟩)
          · exact error (occupied held) e r (still.trans kept)
    · cases valid.symm.trans failed
  · cases standing.installed.symm.trans failed

/-- Confirmed or not, a tombstone is left alone. -/
theorem meets_destroy_tombstone {good : OperationReport → World P → Prop}
    {bad : EngineError → World P → Prop} (standing : x.Standing w record)
    (destroyed : record.state = .destroyed)
    (look : ∀ op p, (∀ m, op ≠ .mutate m) → x.machines p = x.machines w.hidden →
      allowed op { w with hidden := p })
    (ok : x.Gone record w → ∀ q, x.machines q = x.machines w.hidden →
      good (operationReport record false) { w with hidden := q })
    (error : ¬x.Gone record w → ∀ e q, x.machines q = x.machines w.hidden →
      bad e { w with hidden := q }) :
    Meets (x.host.handler x.site) allowed good bad
      (destroyCellLocked x.site x.provider x.cell.id) w := by
  refine Meets.bind (meets_query (look _ _ (by simp) rfl) (fun read again => ?_) fun _ failed => ?_)
  · obtain rfl := Except.ok.inj (standing.loaded.symm.trans again)
    rw [if_pos destroyed]
    refine Meets.bind (meets_reconcile_tombstone standing destroyed look
      (fun report q kept confirmed => ?_) error)
    refine Meets.ite (fun same => Meets.pure (ok (confirmed.mp same) q kept)) fun different => ?_
    exact Meets.fail (error (fun gone => different (confirmed.mpr gone)) _ q kept)
  · cases standing.loaded.symm.trans failed

theorem meets_destroy_gone (gone : x.Gone record w) (free : ¬taken) :
    Meets (x.host.handler x.site) (x.Survives taken)
      (fun report t => report.changed = false ∧ t.store = w.store ∧
        x.machines t.hidden = x.machines w.hidden) (fun _ _ => False)
      (destroyCellLocked x.site x.provider x.cell.id) w := by
  refine meets_destroy_tombstone gone.standing gone.state (fun op p quiet kept => ?_)
    (fun _ q kept => ⟨rfl, rfl, kept⟩) fun left => absurd gone left
  have still : x.Gone record { w with hidden := p } := gone.of_same rfl kept
  exact (still.left free).survives quiet

/-- From a state between two of its effects a destruction succeeds exactly when
the name is free and the runtime directory does not stand in the way. -/
theorem meets_destroy (known : x.Known taken record w) :
    Meets (x.host.handler x.site) (x.Survives taken)
      (fun _ t => (¬taken ∧ x.Clear w.store) ∧ ∃ last, x.Gone last t)
      (fun _ t => ¬(¬taken ∧ x.Clear w.store) ∧ x.Left taken t)
      (destroyCellLocked x.site x.provider x.cell.id) w := by
  rcases known with ⟨vm, present⟩ | absent | ⟨free, gone⟩
  · exact (meets_destroy_present present).weaken
      (fun _ _ ends => ⟨⟨ends.1, Or.inr present.configured⟩, ends.2⟩)
      fun _ _ ends => ⟨fun both => both.1 ends.1, ends.2⟩
  · exact meets_destroy_absent absent
  · exact (meets_destroy_gone gone free).weaken
      (fun _ _ ends => ⟨⟨free, Or.inl gone.cleared⟩, record, gone.of_same ends.2.1 ends.2.2⟩)
      fun _ _ impossible => impossible.elim

end Runs

section Refusals
variable {x : Subject P} {w t : World P} {record : CellRecord} {vm : ProviderVm} {taken : Prop}

/-- Nothing was written and the provider was only asked. -/
def Untouched (x : Subject P) (w t : World P) : Prop :=
  t.store = w.store ∧ x.machines t.hidden = x.machines w.hidden

/-- An effect of a destruction that changes nothing. -/
def Asks (x : Subject P) (w : World P) (op : Op) (t : World P) : Prop :=
  (∀ m, op ≠ .mutate m) ∧ x.Untouched w t

theorem meets_unproven {authority : ProviderMutationAuthority} {allowed : Op → World P → Prop}
    {good : DestroyProof → World P → Prop} {bad : EngineError → World P → Prop}
    (unproven : ¬DestroyProven x.site.platform authority.record vm) (refused : ∀ e, bad e w) :
    Meets (x.host.handler x.site) allowed good bad (proveForDestroy x.site authority vm) w := by
  unfold DestroyProven at unproven
  unfold proveForDestroy
  cases phase : authority.record.phase with
  | providerObjectCreated | providerObjectClaimed | destroyingProvisioning | ready | destroying =>
      rw [phase] at unproven
      simp only [phase]
      refine Meets.bind (Meets.lift (fun _ proven => ?_) fun e _ => refused e)
      exact absurd proven unproven
  | intentRecorded | overlayCreated | destroyed =>
      simp only [phase]
      exact Meets.fail (refused _)

/-- A cell that is not in such a state is not touched. -/
theorem meets_destroy_refused (standing : x.Standing w record)
    (refused : ¬(x.Known (x.Taken w.hidden) record w ∧ x.Clear w.store)) :
    Meets (x.host.handler x.site) (x.Asks w) (fun _ _ => False) (fun _ t => x.Untouched w t)
      (destroyCellLocked x.site x.provider x.cell.id) w := by
  have look : ∀ op p, (∀ m, op ≠ .mutate m) → x.machines p = x.machines w.hidden →
      x.Asks w op { w with hidden := p } := fun _ _ quiet kept => ⟨quiet, rfl, kept⟩
  by_cases destroyed : record.state = .destroyed
  · refine meets_destroy_tombstone standing destroyed look (fun gone => ?_)
      fun _ _ q kept => ⟨rfl, kept⟩
    exact absurd ⟨Or.inr (Or.inr ⟨(vacant_iff.mp gone.vacant).2, gone⟩), Or.inl gone.cleared⟩
      refused
  · refine meets_destroyLive_of (fun _ => look _ _ (by simp) rfl) standing destroyed ?_
    refine Meets.bind (meets_inspectId (look _ _ (by simp) rfl) fun q kept => ?_)
    cases found : x.machines w.hidden x.identity.id with
    | some vm =>
        -- either the directory cannot be pinned or the object is not proven
        refine Meets.bind (Meets.bind (meets_query (look _ _ (by simp) kept)
          (fun guard answered => ?_) fun _ _ => ⟨rfl, kept⟩))
        obtain ⟨rooted, configured, rfl⟩ := (pinned_iff standing.same).mp answered
        refine Meets.bind (meets_unproven (fun proven => ?_) fun _ => ⟨rfl, kept⟩)
        exact refused ⟨Or.inl ⟨vm, standing, destroyed, ⟨found, proven⟩, .rfl, rooted, configured⟩,
          Or.inr configured⟩
    | none =>
        -- either another object has the name or the directory cannot be pinned
        refine Meets.bind ?_
        simp only [destroyFound, destroyAbsent, standing.name]
        have unfound := (congrFun kept x.identity.id).trans found
        refine Meets.bind (meets_inspectName (look _ _ (by simp) kept) unfound
          (fun _ r still => ?_) (fun _ vm r still => ⟨rfl, still.trans kept⟩)
          fun _ e r still => ⟨rfl, still.trans kept⟩)
        refine Meets.bind (Meets.lift (fun _ _ => ?_) fun _ failed => by cases failed)
        refine Meets.bind (meets_query (look _ _ (by simp) (still.trans kept))
          (fun (entry : Bool) answered => ?_) fun _ failed => by cases failed)
        have entered := standing.entered answered
        cases cleared : w.store.runtime.lookup x.cell.id with
        | none => exact absurd ⟨Or.inr (Or.inl ⟨standing, destroyed, found, .rfl, Or.inl cleared⟩),
            Or.inl cleared⟩ refused
        | some tree =>
            rw [cleared] at entered
            subst entered
            refine Meets.bind (meets_query (look _ _ (by simp) (still.trans kept))
              (fun guard answered => ?_) fun _ _ => ⟨rfl, still.trans kept⟩)
            obtain ⟨rooted, configured, rfl⟩ := (pinned_iff standing.same).mp answered
            exact absurd ⟨Or.inr (Or.inl ⟨standing, destroyed, found, .rfl, Or.inr rooted⟩),
              Or.inr configured⟩ refused

theorem Known.of_untouched (known : x.Known taken record t) (untouched : x.Untouched w t) :
    x.Known taken record w := by
  obtain ⟨store, machines⟩ := untouched
  obtain ⟨kept, time, p⟩ := w
  obtain ⟨_, _, _⟩ := t
  subst store
  rcases known with ⟨vm, present⟩ | absent | ⟨free, gone⟩
  · exact Or.inl ⟨vm, present.elsewhere time machines.symm⟩
  · exact Or.inr (Or.inl (absent.elsewhere time machines.symm))
  · exact Or.inr (Or.inr ⟨free, gone.of_same rfl machines.symm⟩)

theorem Known.standing (known : x.Known taken record w) : x.Standing w record := by
  rcases known with ⟨vm, present⟩ | absent | ⟨free, gone⟩
  · exact present.standing
  · exact absent.standing
  · exact gone.standing

end Refusals

section Recovery
variable (x : Subject P) (w : World P)

/-- The object is proven or gone, no other one has its name, and the runtime
directory is whole or gone. -/
def Whole : Prop :=
  ¬x.Taken w.hidden ∧ x.Clear w.store ∧ ∃ record, x.Known (x.Taken w.hidden) record w

/-- The command succeeds and leaves a tombstone and nothing else; a second one
succeeds and changes nothing. -/
def Recovers : Prop :=
  ∃ report t last, (destroyCell x.site x.provider x.cell.id).run (x.host.handler x.site) false w =
      (some (.ok report), t) ∧ x.Gone last t ∧
    ∃ again u, (destroyCell x.site x.provider x.cell.id).run (x.host.handler x.site) false t =
      (some (.ok again), u) ∧ again.changed = false ∧ u.store = t.store ∧
        x.machines u.hidden = x.machines t.hidden

end Recovery

section Theorem
variable {x : Subject P} {w t : World P} {record : CellRecord} {taken : Prop}

/-- The command runs the section when nobody holds the lock. -/
theorem run_destroyCell {allowed : Op → World P → Prop} {good : OperationReport → World P → Prop}
    {bad : EngineError → World P → Prop}
    (meets : Meets (x.host.handler x.site) allowed good bad
      (destroyCellLocked x.site x.provider x.cell.id) w) :
    ∃ result u, (destroyCell x.site x.provider x.cell.id).run (x.host.handler x.site) false w =
      (some result, u) ∧ Ends good bad result u := by
  have passed : requireProvider x.provider = pure () := by
    unfold requireProvider require
    rw [x.supported]
    rfl
  have same : destroyCell x.site x.provider x.cell.id =
      mutationLocked (destroyCellLocked x.site x.provider x.cell.id) := by
    unfold destroyCell
    rw [passed]
    rfl
  rw [same]
  exact run_locked meets

/-- From a tombstone with nothing left the command changes nothing. -/
theorem recovers_of_gone {report : OperationReport} {u : World P} {last : CellRecord}
    (runs : (destroyCell x.site x.provider x.cell.id).run (x.host.handler x.site) false w =
      (some (.ok report), u)) (gone : x.Gone last u) : x.Recovers w := by
  obtain ⟨result, v, again, ends⟩ := run_destroyCell (meets_destroy_gone gone not_false)
  cases result with
  | error e => exact ends.elim
  | ok second => exact ⟨report, u, last, runs, gone, second, v, again, ends⟩

/-- A runtime directory without its configuration directory stands in the way. -/
theorem Known.recovers_iff (known : x.Known taken record w) :
    x.Recovers w ↔ ¬taken ∧ x.Clear w.store := by
  obtain ⟨result, u, runs, ends⟩ := run_destroyCell (meets_destroy known)
  constructor
  · rintro ⟨report, v, last, succeeded, _⟩
    obtain ⟨rfl⟩ := Option.some.inj (congrArg Prod.fst (runs.symm.trans succeeded))
    exact ends.1
  · intro both
    cases result with
    | error e => exact absurd both ends.1
    | ok report =>
        obtain ⟨_, last, gone⟩ := ends
        exact recovers_of_gone runs gone

theorem not_recovers_of_refused (standing : x.Standing w record)
    (refused : ¬(x.Known (x.Taken w.hidden) record w ∧ x.Clear w.store)) : ¬x.Recovers w := by
  obtain ⟨result, u, runs, ends⟩ := run_destroyCell (meets_destroy_refused standing refused)
  rintro ⟨report, v, last, succeeded, _⟩
  obtain ⟨rfl⟩ := Option.some.inj (congrArg Prod.fst (runs.symm.trans succeeded))
  exact ends.elim

/-- A crash of the destruction leaves one of the known states. -/
theorem left_of_crash (known : x.Known taken record w) (crashes : Crashes (x.host.handler x.site)
    (Torn x.site) (destroyCellLocked x.site x.provider x.cell.id) w t) : x.Left taken t := by
  refine Does.crashes (meets_destroy known) (fun _ _ survives => survives) ?_ crashes
  rintro (e | report) u ends
  · exact ends.2
  · obtain ⟨⟨free, _⟩, last, gone⟩ := ends
    exact gone.left free

theorem Known.recovers_after (known : x.Known taken record w)
    (crashes : Crashes (x.host.handler x.site) (Torn x.site)
      (destroyCellLocked x.site x.provider x.cell.id) w t) :
    x.Recovers t ↔ ¬taken ∧ x.Clear t.store := by
  obtain ⟨last, again⟩ := left_of_crash known crashes
  exact again.recovers_iff

theorem untouched_of_crash (standing : x.Standing w record)
    (refused : ¬(x.Known (x.Taken w.hidden) record w ∧ x.Clear w.store))
    (crashes : Crashes (x.host.handler x.site) (Torn x.site)
      (destroyCellLocked x.site x.provider x.cell.id) w t) : x.Untouched w t := by
  refine Does.crashes (meets_destroy_refused standing refused) (fun op u asks => ⟨asks.2, ?_⟩) ?_
    crashes
  · rintro v ⟨m, s, rfl, _⟩
    exact absurd rfl (asks.1 m)
  · rintro (e | report) u ends
    · exact ends
    · exact ends.elim

/-- Wherever a destruction was killed: the command can be run again with success
exactly when the cell was whole at first and its runtime directory is now gone or
still has its configuration directory. -/
theorem destroy_recovers_after_crash (standing : x.Standing w record)
    (crashes : Crashes (x.host.handler x.site) (Torn x.site)
      (destroyCellLocked x.site x.provider x.cell.id) w t) :
    x.Recovers t ↔ x.Whole w ∧ x.Clear t.store := by
  by_cases accepted : x.Known (x.Taken w.hidden) record w ∧ x.Clear w.store
  · -- the first run was in one of its own states when it was killed
    obtain ⟨known, clear⟩ := accepted
    rw [known.recovers_after crashes]
    exact ⟨fun both => ⟨⟨both.1, clear, record, known⟩, both.2⟩,
      fun both => ⟨both.1.1, both.2⟩⟩
  · -- the first run changed nothing, so the second one refuses the cell as well
    have untouched := untouched_of_crash standing accepted crashes
    refine iff_of_false (not_recovers_of_refused (standing.of_store untouched.1) ?_) ?_
    · rintro ⟨known, clear⟩
      refine accepted ⟨?_, untouched.1 ▸ clear⟩
      rw [taken_congr untouched.2] at known
      exact known.of_untouched untouched
    · rintro ⟨⟨_, clear, other, known⟩, _⟩
      obtain rfl := Except.ok.inj (standing.loaded.symm.trans known.standing.loaded)
      exact accepted ⟨known, clear⟩

end Theorem

end Subject

namespace Exemplar

def machines (p : Option ProviderVm) (id : String) : Option ProviderVm := p.filter (·.id = id)

theorem machines_some {p : Option ProviderVm} {id : String} {vm : ProviderVm} :
    machines p id = some vm ↔ p = some vm ∧ vm.id = id := by
  unfold machines
  simp [Option.filter_eq_some_iff]

theorem machines_update {p : Option ProviderVm} {vm other : ProviderVm}
    (found : machines p vm.id = some vm) (same : other.id = vm.id) :
    machines (some other) = Function.update (machines p) vm.id (some other) := by
  obtain ⟨rfl, _⟩ := machines_some.mp found
  funext id
  by_cases own : id = vm.id
  · subst own
    rw [Function.update_self]
    exact machines_some.mpr ⟨rfl, same⟩
  · rw [Function.update_of_ne own]
    have foreign : ∀ {v : ProviderVm}, v.id = vm.id → machines (some v) id = none := by
      intro v identity
      simp [machines, identity, Ne.symm own]
    rw [foreign same, foreign rfl]

theorem faithful : Faithful host machines where
  byId _ _ := rfl
  byName name p := by
    simp only [host, Except.ok.injEq, Option.filter_eq_none_iff, decide_eq_true_eq]
    constructor
    · intro free id vm found
      exact free vm (machines_some.mp found).1
    · intro free vm found
      exact free vm.id vm (machines_some.mpr ⟨found, rfl⟩)
  looking lookup p := by cases lookup <;> rfl
  claim authority vm marker p found := ⟨rfl, machines_update found rfl⟩
  stop authority vm p found := ⟨rfl, machines_update found rfl⟩
  remove authority vm p found := by
    refine ⟨rfl, ?_⟩
    obtain ⟨rfl, _⟩ := machines_some.mp found
    funext id
    by_cases own : id = vm.id
    · subst own
      rw [Function.update_self]
      rfl
    · rw [Function.update_of_ne own]
      exact (Option.filter_eq_none_iff.mpr (by simpa using Ne.symm own)).symm

/-- The directory holds the configuration directory and the file of the machine. -/
def filled (tree : RuntimeTree) (entry : List String) : Bool :=
  entry.length = 1 ∧ tree.lookup entry = some .directory ∧ tree.lookup ["machine"] = some .file

/-- The destruction comes to the removal of the runtime directory. -/
def removes (w : World (Option ProviderVm)) (id : CellId) (entry : List String) : Bool :=
  ((destroyCellLocked site "qemu" id).proceed
      (fun op w => some (host.handler site op w)) 9 w).any fun r =>
    match r.1 with
    | .call (.mutate (.removeCellRuntime other guard)) _ =>
        other = id ∧ (r.2.store.removeCellRuntime site id guard).isOk ∧
          (r.2.store.runtime.lookup id).any fun tree => filled tree entry
    | _ => false

/-- A stopped cell with its runtime directory. -/
def removable (w : World (Option ProviderVm)) (record : CellRecord) (vm : ProviderVm) : Bool :=
  (record.id = cellId ∧ record.phase = .ready ∧ record.state ≠ .destroyed ∧
    proveOwnership site.platform record vm = .ok () ∧
    Store.ensureRuntimeChildren site record.id record.ownership.configurationPath
      record.ownership.overlayPath = .ok () ∧
    removes w record.id (Store.runtimeEntry site record.id record.ownership.configurationPath)) &&
  ((w.store.runtime.lookup record.id).any fun tree =>
    filled tree (Store.runtimeEntry site record.id record.ownership.configurationPath))

/-- A removal in which some entries are gone and the directory itself is not. -/
theorem disturbed_removal {s : Store} {id : CellId} {guard : CellRuntimeGuard}
    {tree left : RuntimeTree} (removed : (s.removeCellRuntime site id guard).isOk = true)
    (found : s.runtime.lookup id = some tree) (part : PartialTree tree left) :
    Disturbed site s (.removeCellRuntime id guard)
      { s with runtime := s.runtime.insert id left } := by
  cases removal : s.removeCellRuntime site id guard with
  | error e =>
      rw [removal] at removed
      cases removed
  | ok next => exact .runtimeRemoval removal found part

theorem crashes_of_removes {w : World (Option ProviderVm)} {id : CellId} {entry : List String}
    (removes : removes w id entry = true) :
    ∃ tree, filled tree entry = true ∧ ∀ left, PartialTree tree left →
      ∃ t, Crashes (host.handler site) (Torn site) (destroyCellLocked site "qemu" id) w t ∧
        t.store.runtime.lookup id = some left := by
  obtain ⟨⟨q, u⟩, proceeds, passed⟩ := (Option.any_eq_true _ _).mp removes
  cases q with
  | call op next =>
      cases op with
      | mutate m =>
          cases m with
          | removeCellRuntime other guard =>
              obtain ⟨rfl, removed, there⟩ := of_decide_eq_true passed
              obtain ⟨tree, found, whole⟩ := (Option.any_eq_true _ _).mp there
              refine ⟨tree, whole, fun left part => ⟨_, .proceed proceeds (.middle
                ⟨_, _, rfl, disturbed_removal removed found part, rfl⟩), AList.lookup_insert _⟩⟩
          | _ => cases passed
      | _ => cases passed
  | _ => cases passed

/-- Everything but one entry at the top is removed. -/
theorem partialTree_single {tree : RuntimeTree} {name : String} {kind : EntryKind}
    (there : tree.lookup [name] = some kind) :
    PartialTree tree (AList.insert [name] kind ∅) := by
  intro path other found
  by_cases same : path = [name]
  · subst same
    rw [AList.lookup_insert] at found
    refine ⟨there.trans found, fun above some_ below _ => ?_⟩
    rcases List.prefix_cons_iff.mp below with rfl | ⟨rest, rfl, short⟩
    · exact absurd rfl some_
    · obtain rfl := List.prefix_nil.mp short
      rw [AList.lookup_insert]
      rfl
  · rw [AList.lookup_insert_ne same] at found
    cases found

/-- A stopped cell, and the crashes of a destruction of it that has begun to
remove its runtime directory. -/
theorem killed : ∃ (x : Subject (Option ProviderVm)) (record : CellRecord)
    (w : World (Option ProviderVm)) (tree : RuntimeTree) (name : String),
    x.Standing w record ∧ x.Whole w ∧ w.store.runtime.lookup x.cell.id = some tree ∧
      tree.lookup ["machine"] = some .file ∧
      Store.runtimeEntry x.site x.cell.id x.cell.ownership.configurationPath = [name] ∧
      name ≠ "machine" ∧
      ∀ left, left = ∅ ∨ left = AList.insert [name] .directory ∅ →
        ∃ t, Crashes (x.host.handler x.site) (Torn x.site)
          (destroyCellLocked x.site x.provider x.cell.id) w t ∧
          t.store.runtime.lookup x.cell.id = some left := by
  obtain ⟨s, reaches, finds⟩ := reaches [(register, 11), (create, 36)]
    (fun s => finds (world s .off) (removable (world s .off))) (by decide +kernel)
  obtain ⟨record, vm, loaded, owned, present, passed⟩ := found _ finds
  obtain ⟨facts, entry⟩ := (Bool.and_eq_true _ _).mp passed
  obtain ⟨known, phase, live, proven, rooted, removes⟩ := of_decide_eq_true facts
  obtain ⟨tree, there, filled⟩ := (Option.any_eq_true _ _).mp entry
  obtain ⟨single, directory, machine⟩ := of_decide_eq_true filled
  obtain ⟨name, named⟩ := List.length_eq_one_iff.mp single
  obtain ⟨installation, installed, locally⟩ := owned
  obtain ⟨identity, p, recorded, inspected⟩ := present
  obtain ⟨last, full, crashes⟩ := crashes_of_removes removes
  obtain ⟨_, kept, _⟩ := of_decide_eq_true full
  have legible : Legible site s := (Manager.invariant (Config.empty_idle Store.empty) intact_empty
    intact_of_change reaches).legible
  let x : Subject (Option ProviderVm) := ⟨host, machines, faithful, site, "qemu", record,
    installation, identity, by decide, locally, recorded⟩
  have held : machines (world s .off).hidden identity.id = some vm :=
    Except.ok.inj (congrArg Prod.fst inspected)
  have standing : x.Standing (world s .off) record :=
    ⟨legible, installed, known.symm ▸ loaded, .refl _, rfl⟩
  have configured : x.Configured (world s .off).store := ⟨tree, there, directory⟩
  have free : ¬x.Taken (world s .off).hidden := by
    rintro ⟨id, other, located, _, different⟩
    obtain ⟨here, rfl⟩ := machines_some.mp
      (show machines (world s .off).hidden id = some other from located)
    obtain ⟨again, same⟩ := machines_some.mp held
    obtain rfl := Option.some.inj (here.symm.trans again)
    exact different same
  have proof : DestroyProven site.platform record vm := by
    unfold DestroyProven
    rw [phase]
    exact proven
  -- the configuration directory is one entry, and another than the file of the machine
  refine ⟨x, record, world s .off, tree, name, standing, ⟨free, Or.inr configured, record,
    Or.inl ⟨vm, standing, live, ⟨held, proof⟩, .rfl, rooted, configured⟩⟩, there, machine, named,
    ?_, ?_⟩
  · rintro rfl
    rw [named, machine] at directory
    cases directory
  · rintro left (rfl | rfl)
    · refine crashes ∅ fun path kind impossible => ?_
      cases impossible
    · exact crashes _ (partialTree_single (named ▸ kept))

end Exemplar

/-- Killed when the machine's file was removed and the configuration directory was
not, the destruction of a stopped cell can be run again. -/
theorem destroy_recovers_within_removal :
    ∃ (x : Subject (Option ProviderVm)) (record : CellRecord) (w t : World (Option ProviderVm))
      (tree left : RuntimeTree), x.Standing w record ∧
      Crashes (x.host.handler x.site) (Torn x.site)
        (destroyCellLocked x.site x.provider x.cell.id) w t ∧
      w.store.runtime.lookup x.cell.id = some tree ∧ tree.lookup ["machine"] = some .file ∧
      t.store.runtime.lookup x.cell.id = some left ∧ left.lookup ["machine"] = none ∧
      x.Recovers t := by
  obtain ⟨x, record, w, tree, name, standing, whole, there, machine, entry, other, killed⟩ :=
    Exemplar.killed
  obtain ⟨t, crashes, found⟩ := killed _ (Or.inr rfl)
  refine ⟨x, record, w, t, tree, _, standing, crashes, there, machine, found, ?_,
    (Subject.destroy_recovers_after_crash standing crashes).mpr ⟨whole, Or.inr ⟨_, found, ?_⟩⟩⟩
  · rw [AList.lookup_insert_ne (by simpa using other.symm)]
    rfl
  · rw [entry, AList.lookup_insert]

/-- Killed when nothing but the runtime directory itself was left to remove, the
destruction of a stopped cell cannot be run again. -/
theorem destroy_stuck_after_partial_removal :
    ∃ (x : Subject (Option ProviderVm)) (record : CellRecord) (w t : World (Option ProviderVm)),
      x.Standing w record ∧ x.Whole w ∧
      Crashes (x.host.handler x.site) (Torn x.site)
        (destroyCellLocked x.site x.provider x.cell.id) w t ∧
      ¬x.Recovers t := by
  obtain ⟨x, record, w, tree, name, standing, whole, there, machine, entry, other, killed⟩ :=
    Exemplar.killed
  obtain ⟨t, crashes, found⟩ := killed ∅ (Or.inl rfl)
  refine ⟨x, record, w, t, standing, whole, crashes, fun recovers => ?_⟩
  obtain ⟨_, _, _, known⟩ := whole
  rcases ((known.recovers_after crashes).mp recovers).2 with none | configured
  · cases found.symm.trans none
  · obtain ⟨left, again, directory⟩ := configured
    obtain rfl := Option.some.inj (found.symm.trans again)
    cases directory

end VmCell
