import VmCell.Engine.Changes

/-! Proof rules for the engine's effects, and what a section knows about its cell. -/

set_option autoImplicit false
namespace VmCell

open Interaction Fallible

section Effects
variable {env : Environment} {i : Pid} {allowed : Op → Store → Prop} {s : Store}
  {bad : EngineError → Store → Prop}

theorem within_query {q : Query} {good : q.Answer → Store → Prop} (permitted : allowed (.query q) s)
    (ok : ∀ answer, q.eval env.site s = .ok answer → good answer s)
    (error : ∀ error, bad (.state error) s) :
    Within (env.effects i) allowed good bad (query q) s := by
  refine Within.effect (I := signature) permitted ?_
  rintro reply t ⟨rfl, answered | ⟨_, fault, _, rfl⟩⟩
  · cases reply with
    | ok answer => exact ok answer answered.symm
    | error failure => exact error failure
  · exact error fault

theorem within_mutate {m : Mutation} {good : m.Answer → Store → Prop}
    (permitted : allowed (.mutate m) s)
    (ok : ∀ answer t, m.apply env.site s = .ok (answer, t) → good answer t)
    (error : ∀ error t, Disturbed env.site s m t → bad (.state error) t) :
    Within (env.effects i) allowed good bad (mutate m) s := by
  refine Within.effect (I := signature) permitted ?_
  rintro reply t ((⟨answer, applied, rfl⟩ | ⟨failure, _, rfl, rfl⟩) | ⟨_, ⟨fault, _, rfl⟩, left⟩)
  · exact ok answer t applied
  · exact error failure t .before
  · exact error fault t left

theorem within_provider {authority : ProviderMutationAuthority} {action : ProviderAction}
    {good : action.Answer → Store → Prop} (permitted : allowed (.provider authority action) s)
    (ok : ∀ answer t, RuntimeChanged authority.record.id s t → good answer t)
    (error : ∀ error t, RuntimeChanged authority.record.id s t → bad (.provider error) t) :
    Within (env.effects i) allowed good bad (callProvider authority action) s := by
  refine Within.effect (I := signature) permitted ?_
  intro reply t changed
  cases reply with
  | ok answer => exact ok answer t changed
  | error failure => exact error failure t changed

theorem within_transport {authority : GuestActionAuthority} {operationId : GuestOperationId}
    {action : TransportAction} {good : action.Answer → Store → Prop}
    (permitted : allowed (.transport authority operationId action) s)
    (ok : ∀ answer, good answer (afterTransport s operationId action (.ok answer)))
    (error : ∀ error, bad (.guest error) (afterTransport s operationId action (.error error))) :
    Within (env.effects i) allowed good bad (callTransport authority operationId action) s := by
  refine Within.effect (I := signature) permitted ?_
  rintro reply t rfl
  cases reply with
  | ok answer => exact ok answer
  | error failure => exact error failure

theorem within_observe {o : Observation} {good : o.Answer → Store → Prop}
    (permitted : allowed (.observe o) s) (ok : ∀ answer, good answer s) :
    Within (env.effects i) allowed good bad (observe o) s := by
  refine Within.effect (I := signature) permitted ?_
  rintro reply t rfl
  exact ok reply

theorem within_now {good : DateTime → Store → Prop} (permitted : allowed (.observe .now) s)
    (ok : ∀ time, good time s) : Within (env.effects i) allowed good bad now s :=
  within_observe permitted ok

theorem within_newUuid {good : Uuid → Store → Prop} (permitted : allowed .newUuid s)
    (ok : ∀ id, env.owner id = i → s.Unused id → good id s) :
    Within (env.effects i) allowed good bad newUuid s := by
  refine Within.effect (I := signature) permitted ?_
  rintro reply t ⟨rfl, owned, unused⟩
  exact ok reply owned unused

theorem within_inspectVm {lookup : VmLookup} {good : Option ProviderVm → Store → Prop}
    (permitted : allowed (.observe (.inspectVm lookup)) s) (ok : ∀ found, good found s)
    (error : ∀ error, bad (.provider error) s) :
    Within (env.effects i) allowed good bad (inspectVm lookup) s := by
  refine Within.bind (within_observe permitted fun answer => ?_)
  refine Within.lift (fun found _ => ok found) ?_
  intro failure mapped
  cases answer with
  | ok found => cases mapped
  | error provider =>
      obtain rfl := Except.error.inj mapped
      exact error provider

end Effects

section Quiet
variable {env : Environment} {i : Pid} {s : Store} {A : Type}

theorem passive_query {q : Query} : Passive (I := signature) Free (query q) := .effect trivial

theorem passive_observe {o : Observation} : Passive (I := signature) Free (observe o) :=
  .effect trivial

theorem passive_newUuid : Passive (I := signature) Free newUuid := .effect trivial

theorem passive_now : Passive (I := signature) Free now := passive_observe

theorem passive_inspectVm {lookup : VmLookup} : Passive (I := signature) Free (inspectVm lookup) :=
  passive_observe.bind fun _ => .lift

/-- Code that only looks, under whatever discipline lets it look. -/
theorem within_passive {allowed : Op → Store → Prop} {good : A → Store → Prop}
    {bad : EngineError → Store → Prop} {p : Engine A} (passive : Passive (I := signature) Free p)
    (permitted : ∀ op, Free op → allowed op s) (ok : ∀ a, good a s) (error : ∀ e, bad e s) :
    Within (env.effects i) allowed good bad p s :=
  passive.within permitted (free_unchanged env) ok error

theorem Free.allowed {op : Op} (free : Free op) : Allowed env i op s := by
  cases op with
  | query q => trivial
  | observe o => trivial
  | newUuid => trivial
  | mutate m => exact free.elim
  | provider authority action => exact free.elim
  | transport authority operationId action => exact free.elim

end Quiet

section Interruptions
variable {site : Site} {s t : Store}

theorem disturbed_saveCell {record : CellRecord} (left : Disturbed site s (.saveCell record) t) :
    t = s ∨ s.saveCell site record = .ok t := by
  cases left with
  | before => exact Or.inl rfl
  | after applied => exact Or.inr (written_ok.mp applied)

theorem disturbed_saveGuestOperation {record : GuestOperationRecord}
    (left : Disturbed site s (.saveGuestOperation record) t) :
    t = s ∨ s.saveGuestOperation site record = .ok t := by
  cases left with
  | before => exact Or.inl rfl
  | after applied => exact Or.inr (written_ok.mp applied)

end Interruptions

section Knowledge
variable {site : Site} {s t : Store}

/-- The stored record agrees with the one in memory on everything but the time
of the last update and the diagnostic. -/
def OnDisk (s : Store) (record : CellRecord) : Prop :=
  ∃ stored, s.cells.lookup record.id = some stored ∧ SameCell stored record ∧
    stored.phase = record.phase ∧ stored.state = record.state ∧
    stored.providerObject = record.providerObject

/-- The names and paths of a record are those of its cell. -/
structure Scoped (site : Site) (record : CellRecord) : Prop where
  name : record.ownership.providerObjectName = providerObjectName record.id
  configuration : pathsEqual site.platform record.ownership.configurationPath
    (site.cellConfigurationPathFor record.id record.provider) = true
  overlay : pathsEqual site.platform record.ownership.overlayPath
    (site.cellOverlayPathFor record.id record.image.diskFormat) = true

theorem LocallyOwned.bound {provider : String} {record : CellRecord} {installId : Uuid}
    (owned : LocallyOwned site provider record installId) : Scoped site record where
  name := owned.name
  configuration := by
    have configuration := owned.configuration
    rwa [← owned.selected] at configuration
  overlay := owned.overlay

/-- What a section knows while it acts for a cell. -/
structure Holding (site : Site) (s : Store) (record : CellRecord)
    (installation : InstallationRecord) : Prop where
  onDisk : OnDisk s record
  bound : Scoped site record
  installed : s.installation = some installation
  owned : record.ownership.installId = installation.installId

theorem SameCell.refl (record : CellRecord) : SameCell record record :=
  ⟨rfl, rfl, rfl, rfl, rfl, rfl, rfl, rfl, rfl⟩

theorem SameCell.trans {first second third : CellRecord} (left : SameCell first second)
    (right : SameCell second third) : SameCell first third where
  schemaVersion := right.schemaVersion.trans left.schemaVersion
  id := right.id.trans left.id
  provider := right.provider.trans left.provider
  spec := right.spec.trans left.spec
  image := right.image.trans left.image
  ownership := right.ownership.trans left.ownership
  createdAt := right.createdAt.trans left.createdAt
  expiresAt := right.expiresAt.trans left.expiresAt
  job := right.job.trans left.job

/-- Ownership is about what never changes and the recorded object. -/
theorem LocallyOwned.of_same {provider : String} {record new : CellRecord} {installId : Uuid}
    (owned : LocallyOwned site provider record installId) (same : SameCell record new)
    (object : new.providerObject = record.providerObject) :
    LocallyOwned site provider new installId where
  installed := by rw [same.ownership]; exact owned.installed
  selected := by rw [same.provider]; exact owned.selected
  specProvider := by rw [same.spec]; exact owned.specProvider
  imageProvider := by rw [same.image]; exact owned.imageProvider
  image := by rw [same.spec, same.image]; exact owned.image
  name := by rw [same.ownership, same.id]; exact owned.name
  object := by
    have valid := owned.object
    unfold validateProviderObject at valid ⊢
    rwa [object, same.ownership]
  schema := by rw [same.ownership]; exact owned.schema
  marker := by rw [same.ownership, same.id]; exact owned.marker
  configuration := by rw [same.ownership, same.id]; exact owned.configuration
  overlay := by rw [same.ownership, same.id, same.image]; exact owned.overlay

theorem sameCell_redact (record : CellRecord) : SameCell (redactCellDiagnostic record) record := by
  constructor <;> simp

theorem redact_sameCell (record : CellRecord) : SameCell record (redactCellDiagnostic record) := by
  constructor <;> simp

theorem OnDisk.of_load {id : CellId} {record : CellRecord}
    (loaded : s.loadCell site id = .ok record) : OnDisk s record := by
  have same := Store.loadCell_id loaded
  obtain ⟨stored, found, rfl, _⟩ := Store.loadCell_ok loaded
  rw [redactCellDiagnostic_id] at same
  refine ⟨stored, ?_, redact_sameCell stored, by simp, by simp, by simp⟩
  rw [redactCellDiagnostic_id, same]
  exact found

theorem OnDisk.of_save {record : CellRecord} (saved : s.saveCell site record = .ok t) :
    OnDisk t record := by
  obtain ⟨_, _, _, rfl⟩ := Store.saveCell_ok saved
  exact ⟨redactCellDiagnostic record, AList.lookup_insert _, sameCell_redact record, by simp,
    by simp, by simp⟩

theorem OnDisk.of_cells {record : CellRecord} (disk : OnDisk s record) (cells : t.cells = s.cells) :
    OnDisk t record := by
  obtain ⟨stored, found, rest⟩ := disk
  exact ⟨stored, by rw [cells]; exact found, rest⟩

theorem Holding.runtimeChanged {record : CellRecord} {installation : InstallationRecord}
    {cellId : CellId} (holding : Holding site s record installation)
    (changed : RuntimeChanged cellId s t) : Holding site t record installation := by
  obtain ⟨runtime, rfl, _⟩ := changed
  exact ⟨holding.onDisk.of_cells rfl, holding.bound, holding.installed, holding.owned⟩

/-- A section that saves another record of its cell holds that one. -/
theorem Holding.save {record new : CellRecord} {installation : InstallationRecord}
    (holding : Holding site s record installation) (same : SameCell record new)
    (saved : s.saveCell site new = .ok t) : Holding site t new installation where
  onDisk := .of_save saved
  bound := by
    have bound := holding.bound
    exact ⟨by rw [same.ownership, same.id]; exact bound.name,
      by rw [same.ownership, same.id, same.provider]; exact bound.configuration,
      by rw [same.ownership, same.id, same.image]; exact bound.overlay⟩
  installed := by
    obtain ⟨_, _, _, rfl⟩ := Store.saveCell_ok saved
    exact holding.installed
  owned := by rw [same.ownership]; exact holding.owned

theorem Holding.snapshot {record : CellRecord} {installation : InstallationRecord} {vm : ProviderVm}
    {unclaimed : Prop} (holding : Holding site s record installation)
    (identified : Identified site.platform record vm)
    (marker : vm.ownershipMarker = record.ownership.providerMarker ∨
      unclaimed ∧ vm.ownershipMarker = "") :
    OwnedSnapshot site s record.id unclaimed vm := by
  obtain ⟨stored, found, same, _, _, object⟩ := holding.onDisk
  have disk := identified.disk
  refine ⟨stored, installation, found, holding.installed, ?_, object.trans identified.recorded,
    identified.name.trans holding.bound.name, ?_, ?_, ?_, ?_⟩
  · rw [← same.ownership]
    exact holding.owned
  · rw [← same.provider]
    exact pathsEqual_trans identified.configuration holding.bound.configuration
  · unfold attachedDiskMatches at disk
    split at disk
    · rename_i only attached
      refine ⟨only, attached, ?_⟩
      rw [← same.image]
      exact pathsEqual_trans disk holding.bound.overlay
    · cases disk
  · rw [← same.spec]
    exact identified.memory
  · rw [← same.ownership]
    exact marker

/-- A change of the record in memory that is one step from the stored one. -/
theorem OnDisk.write {env : Environment} {i : Pid} {record new : CellRecord} (disk : OnDisk s record)
    (same : SameCell record new)
    (step : ∀ stored : CellRecord, stored.phase = record.phase → stored.state = record.state →
      stored.providerObject = record.providerObject → CellStep stored new) :
    CellWrite env i s new := by
  obtain ⟨stored, found, kept, phase, state, object⟩ := disk
  refine Or.inr ⟨stored, ?_, kept.trans same, step stored phase state object⟩
  rw [same.id]
  exact found

/-- The listing shows an open operation exactly when there is one. -/
theorem quiescent_of_listed {operations : List GuestOperationRecord} {cellId : CellId}
    (listed : s.listGuestOperations site = .ok operations) :
    hasOpenOperation operations cellId = false ↔ Quiescent s cellId := by
  have read := Store.listGuestOperations_read listed
  constructor
  · intro closed id found stored bound
    have member : found ∈ operations := (mem_readJsonDirectory read found).mpr ⟨id, stored⟩
    have ended := List.any_eq_false.mp closed found member
    simpa [bound] using ended
  · intro quiescent
    refine List.any_eq_false.mpr fun found member => ?_
    obtain ⟨id, stored⟩ := (mem_readJsonDirectory read found).mp member
    by_cases bound : found.cellId = cellId
    · simp [bound, quiescent id found stored bound]
    · simp [bound]

end Knowledge

end VmCell
