import VmCell.Interaction.Results
import VmCell.State.Runtime

/-! What a successful access says about the store, one lemma for each function. -/

set_option autoImplicit false
namespace VmCell

open Interaction

section Redaction
variable (record : CellRecord)

/-- Redaction touches the diagnostic only. -/
theorem redactCellDiagnostic_eq :
    redactCellDiagnostic record =
      { record with lastError := (redactCellDiagnostic record).lastError } := by
  unfold redactCellDiagnostic
  split <;> rfl

@[simp] theorem redactCellDiagnostic_schemaVersion :
    (redactCellDiagnostic record).schemaVersion = record.schemaVersion := by
  rw [redactCellDiagnostic_eq]

@[simp] theorem redactCellDiagnostic_id : (redactCellDiagnostic record).id = record.id := by
  rw [redactCellDiagnostic_eq]

@[simp] theorem redactCellDiagnostic_provider :
    (redactCellDiagnostic record).provider = record.provider := by
  rw [redactCellDiagnostic_eq]

@[simp] theorem redactCellDiagnostic_spec : (redactCellDiagnostic record).spec = record.spec := by
  rw [redactCellDiagnostic_eq]

@[simp] theorem redactCellDiagnostic_image :
    (redactCellDiagnostic record).image = record.image := by
  rw [redactCellDiagnostic_eq]

@[simp] theorem redactCellDiagnostic_ownership :
    (redactCellDiagnostic record).ownership = record.ownership := by
  rw [redactCellDiagnostic_eq]

@[simp] theorem redactCellDiagnostic_providerObject :
    (redactCellDiagnostic record).providerObject = record.providerObject := by
  rw [redactCellDiagnostic_eq]

@[simp] theorem redactCellDiagnostic_state :
    (redactCellDiagnostic record).state = record.state := by
  rw [redactCellDiagnostic_eq]

@[simp] theorem redactCellDiagnostic_phase :
    (redactCellDiagnostic record).phase = record.phase := by
  rw [redactCellDiagnostic_eq]

@[simp] theorem redactCellDiagnostic_createdAt :
    (redactCellDiagnostic record).createdAt = record.createdAt := by
  rw [redactCellDiagnostic_eq]

@[simp] theorem redactCellDiagnostic_expiresAt :
    (redactCellDiagnostic record).expiresAt = record.expiresAt := by
  rw [redactCellDiagnostic_eq]

@[simp] theorem redactCellDiagnostic_job : (redactCellDiagnostic record).job = record.job := by
  rw [redactCellDiagnostic_eq]

theorem validateCellSchema_redact (site : Site) (key : CellId) :
    validateCellSchema site key (redactCellDiagnostic record) =
      validateCellSchema site key record := by
  simp only [validateCellSchema, redactCellDiagnostic_schemaVersion, redactCellDiagnostic_id,
    redactCellDiagnostic_ownership, redactCellDiagnostic_job]

theorem redactCellDiagnostic_safe :
    (redactCellDiagnostic record).lastError.all isSafeDiagnostic = true := by
  by_cases safe : record.lastError.all isSafeDiagnostic = true
  · have kept : redactCellDiagnostic record = record := if_pos safe
    rw [kept]
    exact safe
  · have replaced : redactCellDiagnostic record =
        { record with lastError := some redactedLegacyErrorCode } := if_neg safe
    have code : isSafeDiagnostic redactedLegacyErrorCode = true := by decide
    rw [replaced]
    exact code

/-- A record with the diagnostic of one that was read is kept as it is. -/
theorem redactCellDiagnostic_kept {stored new : CellRecord}
    (diagnostic : new.lastError = (redactCellDiagnostic stored).lastError) :
    redactCellDiagnostic new = new := by
  refine if_pos ?_
  rw [diagnostic]
  exact redactCellDiagnostic_safe stored

end Redaction

section Schemas
variable {site : Site}

theorem ensureIdentity_ok {K : Type} [DecidableEq K] {kind : String} {path : PathBuf}
    {expected : String} {key actual : K} :
    ensureIdentity kind path expected key actual = .ok () ↔ key = actual := by
  unfold ensureIdentity
  split <;> simp_all

theorem ensureSchema_ok {path : PathBuf} {kind : String} {actual expected : Nat} :
    ensureSchema path kind actual expected = .ok () ↔ actual = expected := by
  unfold ensureSchema
  split <;> simp_all

theorem validateImageSchema_id {key : ImageId} {record : ImageRecord}
    (valid : validateImageSchema site key record = .ok ()) : record.id = key := by
  obtain ⟨_, identity⟩ := bind_unit_ok.mp valid
  exact (ensureIdentity_ok.mp identity).symm

theorem validateCellSchema_id {key : CellId} {record : CellRecord}
    (valid : validateCellSchema site key record = .ok ()) : record.id = key := by
  obtain ⟨_, rest⟩ := bind_unit_ok.mp valid
  obtain ⟨_, rest⟩ := bind_unit_ok.mp rest
  exact (ensureIdentity_ok.mp (bind_unit_ok.mp rest).1).symm

theorem validateGuestOperationSchema_ok {key : GuestOperationId} {record : GuestOperationRecord} :
    validateGuestOperationSchema site key record = .ok () ↔
      record.schemaVersion ∈ [guestOperationSchemaVersion,
        jobCorrelatedGuestOperationSchemaVersion] ∧ key = record.id ∧
      ensureJobSchema "guest operation" (site.guestOperationPath key) record.schemaVersion
        record.jobId = .ok () ∧ fieldsAreValid record = true ∧ timesAreValid record = true := by
  unfold validateGuestOperationSchema
  rw [bind_unit_ok, bind_unit_ok, bind_unit_ok, ensureIdentity_ok]
  have schema : ∀ path : PathBuf, ensureSchemaOneOf path "guest operation record"
      record.schemaVersion [guestOperationSchemaVersion, jobCorrelatedGuestOperationSchemaVersion]
      jobCorrelatedGuestOperationSchemaVersion = .ok () ↔ record.schemaVersion ∈
        [guestOperationSchemaVersion, jobCorrelatedGuestOperationSchemaVersion] := by
    intro path
    unfold ensureSchemaOneOf
    split <;> simp_all
  rw [schema]
  refine and_congr Iff.rfl (and_congr Iff.rfl (and_congr Iff.rfl ?_))
  by_cases valid : (fieldsAreValid record && timesAreValid record) = true
  · rw [if_pos valid]
    simpa using valid
  · rw [if_neg valid]
    simpa using valid

theorem validateGuestOperationSchema_id {key : GuestOperationId} {record : GuestOperationRecord}
    (valid : validateGuestOperationSchema site key record = .ok ()) : record.id = key :=
  (validateGuestOperationSchema_ok.mp valid).2.1.symm

theorem validateOperationJobBinding_ok {path : PathBuf} {cell : CellRecord}
    {operation : GuestOperationRecord} :
    validateOperationJobBinding path cell operation = .ok () ↔
      ∀ jobId, operation.jobId = some jobId → cell.job.map (·.jobId) = some jobId := by
  unfold validateOperationJobBinding
  cases operation.jobId with
  | none => simp
  | some jobId =>
      simp only [Option.some.injEq, forall_eq']
      split <;> simp_all

theorem validateArtifactJobBinding_ok {path : PathBuf} {operation : GuestOperationRecord}
    {artifact : ArtifactRecord} :
    validateArtifactJobBinding path operation artifact = .ok () ↔
      artifact.cellId = operation.cellId ∧ artifact.jobId = operation.jobId := by
  unfold validateArtifactJobBinding
  by_cases cell : artifact.cellId = operation.cellId <;>
    by_cases job : artifact.jobId = operation.jobId <;> simp [cell, job]

end Schemas

section Directories
variable {K V : Type} {name : K → String} {validate : K → V → Except StateError Unit}
  {directory : Directory K V}

/-- A directory that can be read holds exactly the listed records, all valid. -/
theorem readJsonDirectory_ok {records : List V} :
    readJsonDirectory name validate directory = .ok records ↔
      records = (directory.entries.insertionSort (byName name)).map (·.2) ∧
        ∀ entry ∈ directory.entries, validate entry.1 entry.2 = .ok () := by
  unfold readJsonDirectory
  have each : ∀ (entry : Sigma fun _ : K => V) (record : V),
      (do validate entry.1 entry.2; pure entry.2 : Except StateError V) = .ok record ↔
        validate entry.1 entry.2 = .ok () ∧ record = entry.2 := by
    intro entry record
    rw [bind_unit_ok]
    exact and_congr Iff.rfl ⟨fun same => (Except.ok.inj same).symm, fun same => same ▸ rfl⟩
  rw [mapM_ok]
  simp only [each]
  have member : ∀ entry, entry ∈ directory.entries.insertionSort (byName name) ↔
      entry ∈ directory.entries := fun entry => List.mem_insertionSort _
  simp only [← member]
  generalize directory.entries.insertionSort (byName name) = sorted
  induction sorted generalizing records with
  | nil =>
      constructor
      · intro empty
        cases empty
        exact ⟨rfl, by simp⟩
      · rintro ⟨rfl, _⟩
        exact .nil
  | cons first rest ih =>
      constructor
      · intro both
        cases both with
        | cons head tail =>
            obtain ⟨rfl, valid⟩ := ih.mp tail
            refine ⟨by rw [head.2]; rfl, ?_⟩
            rintro entry (_ | ⟨_, member⟩)
            · exact head.1
            · exact valid entry member
      · rintro ⟨rfl, valid⟩
        exact .cons ⟨valid first List.mem_cons_self, rfl⟩
          (ih.mpr ⟨rfl, fun entry member => valid entry (List.mem_cons_of_mem _ member)⟩)

theorem mem_readJsonDirectory [DecidableEq K] {records : List V}
    (read : readJsonDirectory name validate directory = .ok records) (record : V) :
    record ∈ records ↔ ∃ key, directory.lookup key = some record := by
  obtain ⟨rfl, _⟩ := readJsonDirectory_ok.mp read
  simp only [List.mem_map, List.mem_insertionSort]
  constructor
  · rintro ⟨⟨key, value⟩, member, rfl⟩
    exact ⟨key, AList.mem_lookup_iff.mpr member⟩
  · rintro ⟨key, found⟩
    exact ⟨⟨key, record⟩, AList.mem_lookup_iff.mp found, rfl⟩

theorem readJsonDirectory_valid [DecidableEq K] {records : List V}
    (read : readJsonDirectory name validate directory = .ok records) {key : K} {record : V}
    (found : directory.lookup key = some record) : validate key record = .ok () :=
  (readJsonDirectory_ok.mp read).2 ⟨key, record⟩ (AList.mem_lookup_iff.mp found)

theorem readJsonDirectory_total [DecidableEq K]
    (valid : ∀ key record, directory.lookup key = some record → validate key record = .ok ()) :
    ∃ records, readJsonDirectory name validate directory = .ok records :=
  ⟨_, readJsonDirectory_ok.mpr ⟨rfl, fun entry member =>
    valid entry.1 entry.2 (AList.mem_lookup_iff.mpr member)⟩⟩

/-- Records with their key inside are listed once each. -/
theorem readJsonDirectory_nodup [DecidableEq K] {records : List V} {key : V → K}
    (keyed : ∀ found record, validate found record = .ok () → key record = found)
    (read : readJsonDirectory name validate directory = .ok records) :
    (records.map key).Nodup := by
  obtain ⟨rfl, valid⟩ := readJsonDirectory_ok.mp read
  have keys : (directory.entries.map (fun entry => key entry.2)) = directory.keys := by
    refine List.map_congr_left fun entry member => ?_
    exact keyed entry.1 entry.2 (valid entry member)
  rw [List.map_map]
  have permutation := (List.perm_insertionSort (byName name) directory.entries).map
    (fun entry => key entry.2)
  refine (permutation.nodup_iff).mpr ?_
  rw [keys]
  exact directory.keys_nodup

end Directories

namespace Store
variable {site : Site} {store next : Store}

theorem loadInstallation_ok {record : InstallationRecord}
    (loaded : store.loadInstallation site = .ok record) : store.installation = some record := by
  unfold loadInstallation at loaded
  split at loaded
  · cases loaded
  · rename_i stored found
    obtain ⟨_, same⟩ := bind_unit_ok.mp loaded
    rw [found, Except.ok.inj same]

theorem installationWithMutation_ok {fresh : Uuid} {record : InstallationRecord}
    (done : store.installationWithMutation site fresh = .ok (record, next)) :
    next = { store with installation := some record } ∧
      (store.installation = some record ∨ store.installation = none ∧ record = ⟨1, fresh⟩) := by
  unfold installationWithMutation at done
  split at done
  · rename_i stored found
    obtain ⟨loaded, read, same⟩ := bind_ok.mp done
    obtain ⟨rfl, rfl⟩ := Prod.mk.inj (Except.ok.inj same)
    have kept := loadInstallation_ok read
    refine ⟨?_, Or.inl kept⟩
    rw [← kept]
  · rename_i absent
    obtain ⟨rfl, rfl⟩ := Prod.mk.inj (Except.ok.inj done)
    exact ⟨rfl, Or.inr ⟨absent, rfl⟩⟩

theorem loadImage_ok {id : ImageId} {record : ImageRecord}
    (loaded : store.loadImage site id = .ok record) :
    store.images.lookup id = some record ∧ validateImageSchema site id record = .ok () := by
  unfold loadImage at loaded
  split at loaded
  · cases loaded
  · rename_i stored found
    obtain ⟨valid, same⟩ := bind_unit_ok.mp loaded
    obtain rfl := Except.ok.inj same
    exact ⟨found, valid⟩

theorem saveImageNew_ok {record : ImageRecord}
    (saved : store.saveImageNew site record = .ok next) :
    store.images.lookup record.id = none ∧ validateImageSchema site record.id record = .ok () ∧
      next = { store with images := store.images.insert record.id record } := by
  obtain ⟨valid, rest⟩ := bind_unit_ok.mp saved
  split at rest
  · cases rest
  · rename_i absent
    exact ⟨absent, valid, (Except.ok.inj rest).symm⟩

theorem removeImageRecord_ok {id : ImageId} {removed : Bool}
    (done : store.removeImageRecord site id = .ok (removed, next)) :
    next = store ∨ next = { store with images := store.images.erase id } := by
  unfold removeImageRecord at done
  split at done
  · exact Or.inl (Prod.mk.inj (Except.ok.inj done)).2.symm
  · obtain ⟨_, rest⟩ := bind_unit_ok.mp done
    obtain ⟨_, same⟩ := bind_unit_ok.mp rest
    exact Or.inr (Prod.mk.inj (Except.ok.inj same)).2.symm

theorem loadCell_ok {id : CellId} {record : CellRecord}
    (loaded : store.loadCell site id = .ok record) :
    ∃ stored, store.cells.lookup id = some stored ∧ record = redactCellDiagnostic stored ∧
      validateCellSchema site id stored = .ok () := by
  unfold loadCell at loaded
  split at loaded
  · cases loaded
  · rename_i stored found
    obtain ⟨valid, rest⟩ := bind_unit_ok.mp loaded
    obtain ⟨_, same⟩ := bind_unit_ok.mp rest
    exact ⟨stored, found, (Except.ok.inj same).symm, valid⟩

theorem loadCell_id {id : CellId} {record : CellRecord}
    (loaded : store.loadCell site id = .ok record) : record.id = id := by
  obtain ⟨stored, _, rfl, valid⟩ := loadCell_ok loaded
  rw [redactCellDiagnostic_id]
  exact validateCellSchema_id valid

/-- Everything a saved cell has passed. -/
theorem saveCell_ok {record : CellRecord} (saved : store.saveCell site record = .ok next) :
    validateCellSchema site record.id record = .ok () ∧
      store.ensureJobKept site (redactCellDiagnostic record) = .ok () ∧
      store.validateUniqueCellJobId site (site.cellPath record.id) (redactCellDiagnostic record) =
        .ok () ∧
      next = { store with cells := store.cells.insert record.id (redactCellDiagnostic record) } := by
  unfold saveCell at saved
  simp only [redactCellDiagnostic_id] at saved
  obtain ⟨valid, rest⟩ := bind_unit_ok.mp saved
  obtain ⟨kept, rest⟩ := bind_unit_ok.mp rest
  obtain ⟨unique, same⟩ := bind_unit_ok.mp rest
  rw [validateCellSchema_redact] at valid
  exact ⟨valid, kept, unique, (Except.ok.inj same).symm⟩

theorem loadGuestOperation_ok {id : GuestOperationId} {record : GuestOperationRecord}
    (loaded : store.loadGuestOperation site id = .ok record) :
    store.operations.lookup id = some record ∧
      validateGuestOperationSchema site id record = .ok () ∧
      store.validateOperationParentBinding site (site.guestOperationPath id) record = .ok () := by
  unfold loadGuestOperation at loaded
  split at loaded
  · cases loaded
  · rename_i stored found
    obtain ⟨valid, rest⟩ := bind_unit_ok.mp loaded
    obtain ⟨parent, same⟩ := bind_unit_ok.mp rest
    obtain rfl := Except.ok.inj same
    exact ⟨found, valid, parent⟩

theorem saveGuestOperation_ok {record : GuestOperationRecord}
    (saved : store.saveGuestOperation site record = .ok next) :
    validateGuestOperationSchema site record.id record = .ok () ∧
      store.ensureOperationJobKept site record = .ok () ∧
      store.requireGuestOperationParentForMutation site record = .ok () ∧
      next = { store with operations := store.operations.insert record.id record } := by
  obtain ⟨valid, rest⟩ := bind_unit_ok.mp saved
  obtain ⟨kept, rest⟩ := bind_unit_ok.mp rest
  obtain ⟨parent, same⟩ := bind_unit_ok.mp rest
  exact ⟨valid, kept, parent, (Except.ok.inj same).symm⟩

theorem requireGuestOperationParentForMutation_ok {operation : GuestOperationRecord}
    (required : store.requireGuestOperationParentForMutation site operation = .ok ()) :
    ∃ cell, store.loadCell site operation.cellId = .ok cell ∧
      validateOperationJobBinding (site.guestOperationPath operation.id) cell operation =
        .ok () := by
  unfold requireGuestOperationParentForMutation validateOperationParentBindingForWrite at required
  split at required
  · rename_i cell loaded
    exact ⟨cell, loaded, required⟩
  · cases required
  · cases required

theorem listGuestOperations_read {records : List GuestOperationRecord}
    (listed : store.listGuestOperations site = .ok records) :
    readJsonDirectory GuestOperationId.toText (validateGuestOperationSchema site)
      store.operations = .ok records := by
  obtain ⟨read, found, rest⟩ := bind_ok.mp listed
  obtain ⟨_, same⟩ := bind_unit_ok.mp rest
  rw [found, Except.ok.inj same]

theorem mem_listGuestOperations {records : List GuestOperationRecord}
    (listed : store.listGuestOperations site = .ok records) (record : GuestOperationRecord) :
    record ∈ records ↔ store.operations.lookup record.id = some record := by
  have read := listGuestOperations_read listed
  rw [mem_readJsonDirectory read]
  constructor
  · rintro ⟨key, found⟩
    rw [validateGuestOperationSchema_id (readJsonDirectory_valid read found)]
    exact found
  · exact fun found => ⟨record.id, found⟩

/-- A validated artifact has a file for each entry and no other. -/
theorem validateArtifactFiles_names {found : ArtifactDirectory} {record : ArtifactRecord}
    {files : Directory String Bytes} {name : String} {bytes : Bytes}
    (valid : validateArtifactFiles site found record = .ok ()) (present : found.files = some files)
    (lookup : files.lookup name = some bytes) :
    ∃ index, index < record.entries.length ∧ name = artifactFileName index := by
  unfold validateArtifactFiles at valid
  rw [present] at valid
  simp only at valid
  split at valid
  · rename_i exact
    rw [Bool.and_eq_true, List.all_eq_true] at exact
    have member : name ∈ files.keys := AList.mem_keys.mpr (AList.lookup_isSome.mp (by simp [lookup]))
    have listed := exact.1 name member
    simp only [List.mem_map, List.mem_range, decide_eq_true_eq] at listed
    obtain ⟨index, inside, same⟩ := listed
    exact ⟨index, inside, same.symm⟩
  · cases valid

theorem listCells_read {records : List CellRecord} (listed : store.listCells site = .ok records) :
    ∃ stored, store.readCells site = .ok stored ∧ records = stored.map redactCellDiagnostic := by
  obtain ⟨stored, read, rest⟩ := bind_ok.mp listed
  obtain ⟨_, same⟩ := bind_unit_ok.mp rest
  exact ⟨stored, read, (Except.ok.inj same).symm⟩

theorem mem_listCells {records : List CellRecord} (listed : store.listCells site = .ok records)
    (record : CellRecord) :
    record ∈ records ↔ ∃ stored, store.cells.lookup record.id = some stored ∧
      record = redactCellDiagnostic stored := by
  obtain ⟨stored, read, rfl⟩ := listCells_read listed
  simp only [List.mem_map, mem_readJsonDirectory read]
  constructor
  · rintro ⟨cell, ⟨key, found⟩, rfl⟩
    refine ⟨cell, ?_, rfl⟩
    rw [redactCellDiagnostic_id, validateCellSchema_id (readJsonDirectory_valid read found)]
    exact found
  · rintro ⟨cell, found, same⟩
    exact ⟨cell, ⟨record.id, found⟩, same.symm⟩

theorem listCells_nodup {records : List CellRecord} (listed : store.listCells site = .ok records) :
    (records.map (·.id)).Nodup := by
  obtain ⟨stored, read, rfl⟩ := listCells_read listed
  have distinct : (stored.map CellRecord.id).Nodup :=
    readJsonDirectory_nodup (fun _ _ valid => validateCellSchema_id valid) read
  simpa [List.map_map, Function.comp_def] using distinct

end Store

end VmCell
