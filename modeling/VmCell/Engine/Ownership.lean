import VmCell.Engine.Interface
import VmCell.Interaction.Results

/-! The engine's checks on records, requests and provider snapshots. -/

set_option autoImplicit false
namespace VmCell

open Interaction

section Snapshots
variable (platform : Platform) (record : CellRecord) (vm : ProviderVm)

def reasonIf (mismatch : Bool) (reason : String) : List String :=
  if mismatch then [reason] else []

/-- The recorded provider object against the snapshot; only one reason is given. -/
def identityReasons : List String :=
  match record.providerObject with
  | none => ["provider id is not recorded"]
  | some identity =>
      if identity.id ≠ vm.id then ["provider id mismatch"]
      else if identity.name ≠ vm.name then ["recorded name mismatch"]
      else []

def attachedDiskMatches : Bool :=
  match vm.attachedDisks with
  | [disk] => pathsEqual platform disk record.ownership.overlayPath
  | _ => false

def proven (reasons : List String) : Except EngineError Unit :=
  if reasons = [] then .ok ()
  else .error (.ownershipNotProven (String.intercalate "; " reasons))

def ownershipDrift : List String :=
  identityReasons record vm ++
  reasonIf (vm.name ≠ record.ownership.providerObjectName) "ownership name mismatch" ++
  reasonIf (vm.ownershipMarker ≠ record.ownership.providerMarker) "ownership marker mismatch" ++
  reasonIf (!pathsEqual platform vm.configurationPath record.ownership.configurationPath)
    "configuration path mismatch" ++
  reasonIf (!attachedDiskMatches platform record vm) "attached disk mismatch" ++
  reasonIf (vm.networkAdapterCount ≠ 0) "networking is not disabled" ++
  reasonIf (vm.cpuCount ≠ record.spec.cpuCount) "CPU configuration mismatch" ++
  reasonIf (vm.memoryMib ≠ record.spec.memoryMib) "memory configuration mismatch"

def proveOwnership : Except EngineError Unit := proven (ownershipDrift platform record vm)

def proveCreationIdentity (requireMarker : Bool) : Except EngineError Unit :=
  proven (
    identityReasons record vm ++
    reasonIf (vm.name ≠ record.ownership.providerObjectName) "ownership name mismatch" ++
    reasonIf (requireMarker && decide (vm.ownershipMarker ≠ record.ownership.providerMarker))
      "ownership marker mismatch" ++
    reasonIf (!requireMarker && decide (vm.ownershipMarker ≠ "") &&
      decide (vm.ownershipMarker ≠ record.ownership.providerMarker))
      "unexpected ownership marker" ++
    reasonIf (!pathsEqual platform vm.configurationPath record.ownership.configurationPath)
      "configuration path mismatch" ++
    reasonIf (!attachedDiskMatches platform record vm) "attached disk mismatch" ++
    reasonIf (vm.memoryMib ≠ record.spec.memoryMib) "memory configuration mismatch" ++
    reasonIf (vm.networkAdapterCount > 1) "new provider object has unexpected network adapters" ++
    reasonIf (vm.powerState ≠ .off) "new provider object is not off")

def proveDestroyIdentity : Except EngineError Unit :=
  proven (
    identityReasons record vm ++
    reasonIf (vm.name ≠ record.ownership.providerObjectName) "ownership name mismatch" ++
    reasonIf (vm.ownershipMarker ≠ record.ownership.providerMarker) "ownership marker mismatch" ++
    reasonIf (!pathsEqual platform vm.configurationPath record.ownership.configurationPath)
      "configuration path mismatch" ++
    reasonIf (!attachedDiskMatches platform record vm) "attached disk mismatch" ++
    reasonIf (vm.memoryMib ≠ record.spec.memoryMib) "memory configuration mismatch")

/-- What all three proofs establish: the snapshot is the recorded object, with
the recorded name, paths, disk and memory. -/
structure Identified : Prop where
  recorded : record.providerObject = some ⟨vm.id, vm.name⟩
  name : vm.name = record.ownership.providerObjectName
  configuration : pathsEqual platform vm.configurationPath record.ownership.configurationPath = true
  disk : attachedDiskMatches platform record vm = true
  memory : vm.memoryMib = record.spec.memoryMib

end Snapshots

section Proofs
variable {platform : Platform} {record : CellRecord} {vm : ProviderVm}

@[simp] theorem reasonIf_eq_nil {mismatch : Bool} {reason : String} :
    reasonIf mismatch reason = [] ↔ mismatch = false := by
  cases mismatch <;> simp [reasonIf]

theorem identityReasons_eq_nil :
    identityReasons record vm = [] ↔ record.providerObject = some ⟨vm.id, vm.name⟩ := by
  unfold identityReasons
  cases found : record.providerObject with
  | none => simp
  | some identity =>
      obtain ⟨id, name⟩ := identity
      by_cases sameId : id = vm.id <;> by_cases sameName : name = vm.name <;>
        simp [sameId, sameName]

theorem proven_ok {reasons : List String} : proven reasons = .ok () ↔ reasons = [] := by
  unfold proven
  split <;> simp_all

theorem ownershipDrift_eq_nil :
    ownershipDrift platform record vm = [] ↔
      Identified platform record vm ∧ vm.ownershipMarker = record.ownership.providerMarker ∧
        vm.networkAdapterCount = 0 ∧ vm.cpuCount = record.spec.cpuCount := by
  simp only [ownershipDrift, List.append_eq_nil_iff, identityReasons_eq_nil, reasonIf_eq_nil,
    decide_eq_false_iff_not, not_not, Bool.not_eq_false']
  constructor
  · rintro ⟨⟨⟨⟨⟨⟨⟨recorded, name⟩, marker⟩, configuration⟩, disk⟩, network⟩, cpu⟩, memory⟩
    exact ⟨⟨recorded, name, configuration, disk, memory⟩, marker, network, cpu⟩
  · rintro ⟨⟨recorded, name, configuration, disk, memory⟩, marker, network, cpu⟩
    exact ⟨⟨⟨⟨⟨⟨⟨recorded, name⟩, marker⟩, configuration⟩, disk⟩, network⟩, cpu⟩, memory⟩

theorem proveOwnership_ok :
    proveOwnership platform record vm = .ok () ↔
      Identified platform record vm ∧ vm.ownershipMarker = record.ownership.providerMarker ∧
        vm.networkAdapterCount = 0 ∧ vm.cpuCount = record.spec.cpuCount := by
  rw [proveOwnership, proven_ok, ownershipDrift_eq_nil]

theorem proveDestroyIdentity_ok :
    proveDestroyIdentity platform record vm = .ok () ↔
      Identified platform record vm ∧ vm.ownershipMarker = record.ownership.providerMarker := by
  rw [proveDestroyIdentity, proven_ok]
  simp only [List.append_eq_nil_iff, identityReasons_eq_nil, reasonIf_eq_nil,
    decide_eq_false_iff_not, not_not, Bool.not_eq_false']
  constructor
  · rintro ⟨⟨⟨⟨⟨recorded, name⟩, marker⟩, configuration⟩, disk⟩, memory⟩
    exact ⟨⟨recorded, name, configuration, disk, memory⟩, marker⟩
  · rintro ⟨⟨recorded, name, configuration, disk, memory⟩, marker⟩
    exact ⟨⟨⟨⟨⟨recorded, name⟩, marker⟩, configuration⟩, disk⟩, memory⟩

/-- The marker a creation proof asks for. -/
def CreationMarker (record : CellRecord) (vm : ProviderVm) (requireMarker : Bool) : Prop :=
  vm.ownershipMarker = record.ownership.providerMarker ∨
    (requireMarker = false ∧ vm.ownershipMarker = "")

theorem proveCreationIdentity_ok {requireMarker : Bool} :
    proveCreationIdentity platform record vm requireMarker = .ok () ↔
      Identified platform record vm ∧ CreationMarker record vm requireMarker ∧
        vm.networkAdapterCount ≤ 1 ∧ vm.powerState = .off := by
  rw [proveCreationIdentity, proven_ok]
  simp only [List.append_eq_nil_iff, identityReasons_eq_nil, reasonIf_eq_nil,
    decide_eq_false_iff_not, not_not, Bool.not_eq_false', Bool.and_eq_false_iff,
    not_lt, gt_iff_lt, CreationMarker]
  constructor
  · rintro ⟨⟨⟨⟨⟨⟨⟨⟨recorded, name⟩, required⟩, optional⟩, configuration⟩, disk⟩, memory⟩, network⟩,
      power⟩
    refine ⟨⟨recorded, name, configuration, disk, memory⟩, ?_, network, power⟩
    rcases required with absent | marker
    · rcases optional with (required | empty) | marker
      · rw [absent] at required
        cases required
      · exact Or.inr ⟨absent, empty⟩
      · exact Or.inl marker
    · exact Or.inl marker
  · rintro ⟨⟨recorded, name, configuration, disk, memory⟩, marker, network, power⟩
    refine ⟨⟨⟨⟨⟨⟨⟨⟨recorded, name⟩, ?_⟩, ?_⟩, configuration⟩, disk⟩, memory⟩, network⟩, power⟩
    · rcases marker with marker | ⟨absent, _⟩
      · exact Or.inr marker
      · exact Or.inl absent
    · rcases marker with marker | ⟨_, empty⟩
      · exact Or.inr marker
      · exact Or.inl (Or.inr empty)

/-- The proofs read neither the phase nor the state nor the times of a record. -/
theorem Identified.of_same {other : CellRecord} (same : Identified platform record vm)
    (object : other.providerObject = record.providerObject)
    (ownership : other.ownership = record.ownership) (spec : other.spec = record.spec) :
    Identified platform other vm where
  recorded := object.trans same.recorded
  name := by rw [ownership]; exact same.name
  configuration := by rw [ownership]; exact same.configuration
  disk := by
    have disk := same.disk
    unfold attachedDiskMatches at disk ⊢
    rwa [ownership]
  memory := by rw [spec]; exact same.memory

end Proofs

section LocalOwnership

/-- The recorded identity, when there is one, is canonical and has the owned name. -/
def validateProviderObject (record : CellRecord) : Except EngineError Unit :=
  match record.providerObject with
  | none => .ok ()
  | some identity =>
      match Uuid.parseStr identity.id with
      | none => .error (.ownershipNotProven "recorded provider object id is not a GUID")
      | some providerId =>
          if providerId.toText ≠ identity.id then
            .error (.ownershipNotProven "recorded provider object id is not canonical")
          else if identity.name ≠ record.ownership.providerObjectName then
            .error (.ownershipNotProven
              "recorded provider object name does not match the ownership name")
          else .ok ()

def require (condition : Bool) (error : EngineError) : Except EngineError Unit :=
  if condition then .ok () else .error error

def validateLocalOwnershipRecord (site : Site) (provider : String) (record : CellRecord)
    (currentInstallId : Uuid) : Except EngineError Unit := do
  require (record.ownership.installId = currentInstallId) (.ownershipNotProven
    "cell installation identity does not match the current state store")
  require (record.provider = provider && record.spec.provider = some provider &&
    record.image.provider = provider) (.ownershipNotProven
    "manifest provider binding does not match the selected provider")
  require (record.spec.image = record.image.imageId) (.ownershipNotProven
    "manifest image binding does not match the requested image id")
  require (record.ownership.providerObjectName = providerObjectName record.id)
    (.ownershipNotProven "manifest provider name is not derived from the CellId")
  validateProviderObject record
  require (record.ownership.schemaVersion = ownershipMarkerSchema)
    (.ownershipNotProven "unsupported ownership marker schema")
  require (record.ownership.providerMarker =
      providerMarker record.ownership.installId record.id record.ownership.operationId)
    (.ownershipNotProven "manifest ownership marker is internally inconsistent")
  require (pathsEqual site.platform record.ownership.configurationPath
      (site.cellConfigurationPathFor record.id provider) &&
    pathsEqual site.platform record.ownership.overlayPath
      (site.cellOverlayPathFor record.id record.image.diskFormat)) (.ownershipNotProven
    "manifest runtime paths are outside the CellId-scoped root")

/-- A record that the current installation and the selected provider own. -/
structure LocallyOwned (site : Site) (provider : String) (record : CellRecord) (installId : Uuid) :
    Prop where
  installed : record.ownership.installId = installId
  selected : record.provider = provider
  specProvider : record.spec.provider = some provider
  imageProvider : record.image.provider = provider
  image : record.spec.image = record.image.imageId
  name : record.ownership.providerObjectName = providerObjectName record.id
  object : validateProviderObject record = .ok ()
  schema : record.ownership.schemaVersion = ownershipMarkerSchema
  marker : record.ownership.providerMarker =
    providerMarker record.ownership.installId record.id record.ownership.operationId
  configuration : pathsEqual site.platform record.ownership.configurationPath
    (site.cellConfigurationPathFor record.id provider) = true
  overlay : pathsEqual site.platform record.ownership.overlayPath
    (site.cellOverlayPathFor record.id record.image.diskFormat) = true

@[simp] theorem require_ok {condition : Bool} {error : EngineError} :
    require condition error = .ok () ↔ condition = true := by
  cases condition <;> simp [require]

theorem validateLocalOwnershipRecord_ok {site : Site} {provider : String} {record : CellRecord}
    {installId : Uuid} :
    validateLocalOwnershipRecord site provider record installId = .ok () ↔
      LocallyOwned site provider record installId := by
  simp only [validateLocalOwnershipRecord, bind_unit_ok, require_ok, decide_eq_true_eq,
    Bool.and_eq_true]
  constructor
  · rintro ⟨installed, ⟨⟨selected, specProvider⟩, imageProvider⟩, image, name, object, schema,
      marker, configuration, overlay⟩
    exact ⟨installed, selected, specProvider, imageProvider, image, name, object, schema, marker,
      configuration, overlay⟩
  · rintro ⟨installed, selected, specProvider, imageProvider, image, name, object, schema, marker,
      configuration, overlay⟩
    exact ⟨installed, ⟨⟨selected, specProvider⟩, imageProvider⟩, image, name, object, schema,
      marker, configuration, overlay⟩

end LocalOwnership

end VmCell
