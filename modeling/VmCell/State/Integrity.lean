import VmCell.State.Facts

/-! A state root in which every record reads back. -/

set_option autoImplicit false
namespace VmCell

open Interaction

section Jobs

def jobIds (cells : List CellRecord) : List JobId :=
  cells.filterMap fun cell => cell.job.map (·.jobId)

theorem jobIds_cons {cell : CellRecord} {rest : List CellRecord} :
    jobIds (cell :: rest) = (cell.job.map (·.jobId)).toList ++ jobIds rest := by
  unfold jobIds
  cases job : cell.job <;> simp [job]

theorem validateUniqueCellJobIdsFrom_ok {path : PathBuf} {cells : List CellRecord}
    {seen : List (JobId × CellId)} :
    validateUniqueCellJobIdsFrom path seen cells = .ok () ↔
      (jobIds cells).Nodup ∧ ∀ id ∈ jobIds cells, seen.lookup id = none := by
  induction cells generalizing seen with
  | nil => simp [validateUniqueCellJobIdsFrom, jobIds]
  | cons cell rest ih =>
      rw [jobIds_cons]
      unfold validateUniqueCellJobIdsFrom
      cases job : cell.job with
      | none => simpa using ih
      | some correlation =>
          simp only [Option.map_some, Option.toList_some, List.singleton_append, List.nodup_cons,
            List.forall_mem_cons]
          cases known : seen.lookup correlation.jobId with
          | some other => simp
          | none =>
              rw [ih]
              have apart : ∀ id, List.lookup id ((correlation.jobId, cell.id) :: seen) = none ↔
                  id ≠ correlation.jobId ∧ seen.lookup id = none := by
                intro id
                by_cases same : id = correlation.jobId
                · simp [same]
                · have other : (id == correlation.jobId) = false := beq_eq_false_iff_ne.mpr same
                  simp only [List.lookup_cons, other, ne_eq, same, not_false_eq_true, true_and]
              simp only [apart, forall_and, true_and]
              constructor
              · rintro ⟨distinct, fresh, unseen⟩
                exact ⟨⟨fun member => fresh _ member rfl, distinct⟩, unseen⟩
              · rintro ⟨⟨fresh, distinct⟩, unseen⟩
                exact ⟨distinct, fun id member same => fresh (same ▸ member), unseen⟩

theorem validateUniqueCellJobIdsForPath_ok {path : PathBuf} {cells : List CellRecord} :
    validateUniqueCellJobIdsForPath path cells = .ok () ↔ (jobIds cells).Nodup := by
  unfold validateUniqueCellJobIdsForPath
  rw [validateUniqueCellJobIdsFrom_ok]
  simp

end Jobs

/-- What the store guarantees about the records it accepts. -/
structure Legible (site : Site) (s : Store) : Prop where
  installation : ∀ record, s.installation = some record →
    record.schemaVersion = installSchemaVersion
  images : ∀ id record, s.images.lookup id = some record → validateImageSchema site id record = .ok ()
  cells : ∀ id record, s.cells.lookup id = some record → validateCellSchema site id record = .ok ()
  jobs : ∀ first second left right, s.cells.lookup first = some left →
    s.cells.lookup second = some right → left.job.isSome = true →
    left.job.map (·.jobId) = right.job.map (·.jobId) → first = second
  operations : ∀ id operation, s.operations.lookup id = some operation →
    validateGuestOperationSchema site id operation = .ok () ∧
      ∃ cell, s.cells.lookup operation.cellId = some cell ∧
        ∀ jobId, operation.jobId = some jobId → cell.job.map (·.jobId) = some jobId

/-- Every operation that claims an artifact has one that can be loaded. -/
def Stocked (site : Site) (s : Store) : Prop :=
  ∀ id operation, s.operations.lookup id = some operation →
    operation.artifactId = some operation.id → operation.artifactPrunedAt = none →
    ∃ artifact, s.loadArtifact site operation.cellId operation.id = .ok artifact ∧
      artifact.cellId = operation.cellId ∧ artifact.jobId = operation.jobId

theorem Stocked.compatibleArtifact {site : Site} {s : Store} (stocked : Stocked site s)
    {operation : GuestOperationRecord} {id : GuestOperationId}
    (found : s.operations.lookup id = some operation) :
    ∃ result, s.compatibleArtifact site operation = .ok result := by
  unfold Store.compatibleArtifact
  split
  · rename_i claimed
    obtain ⟨artifact, loaded, cell, job⟩ := stocked id operation found claimed.1
      (Option.isNone_iff_eq_none.mp claimed.2)
    refine ⟨some artifact, ?_⟩
    have bound : validateArtifactJobBinding (Store.manifestPath site operation.cellId operation.id)
        operation artifact = .ok () := validateArtifactJobBinding_ok.mpr ⟨cell, job⟩
    rw [loaded]
    change (Store.asUpgradeRequired (validateArtifactJobBinding _ operation artifact) >>= fun _ =>
      pure (some artifact)) = _
    rw [bound]
    rfl
  · exact ⟨none, rfl⟩

namespace Legible
variable {site : Site} {s : Store}

theorem readCells (legible : Legible site s) : ∃ records, s.readCells site = .ok records :=
  readJsonDirectory_total legible.cells

/-- Distinct cells of a legible store have distinct jobs. -/
theorem jobIds_nodup (legible : Legible site s) {records : List CellRecord}
    (stored : ∀ record ∈ records, ∃ found, s.cells.lookup record.id = some found ∧
      record.job = found.job) (distinct : (records.map (·.id)).Nodup) : (jobIds records).Nodup := by
  unfold jobIds
  refine List.pairwise_filterMap.mpr ?_
  refine (List.pairwise_map.mp distinct).imp_of_mem ?_
  intro left right memberLeft memberRight different jobId foundLeft other foundRight
  rintro rfl
  obtain ⟨first, hereFirst, sameFirst⟩ := stored left memberLeft
  obtain ⟨second, hereSecond, sameSecond⟩ := stored right memberRight
  rw [sameFirst] at foundLeft
  rw [sameSecond] at foundRight
  refine different (legible.jobs _ _ first second hereFirst hereSecond ?_ ?_)
  · cases job : first.job with
    | none =>
        rw [job] at foundLeft
        cases foundLeft
    | some correlation => rfl
  · exact (Option.mem_def.mp foundLeft).trans (Option.mem_def.mp foundRight).symm

theorem validateUniqueCellJobId (legible : Legible site s) {path : PathBuf} {record : CellRecord}
    (stored : ∃ found, s.cells.lookup record.id = some found ∧ record.job = found.job) :
    s.validateUniqueCellJobId site path record = .ok () := by
  obtain ⟨records, read⟩ := legible.readCells
  unfold Store.validateUniqueCellJobId
  rw [read]
  refine validateUniqueCellJobIdsForPath_ok.mpr (legible.jobIds_nodup ?_ ?_)
  · intro cell member
    rcases List.mem_append.mp member with earlier | last
    · have listed := (List.mem_filter.mp earlier).1
      obtain ⟨key, found⟩ := (mem_readJsonDirectory read cell).mp listed
      refine ⟨cell, ?_, rfl⟩
      rw [validateCellSchema_id (legible.cells key cell found)]
      exact found
    · obtain rfl := List.mem_singleton.mp last
      exact stored
  · have distinct : (records.map (·.id)).Nodup :=
      readJsonDirectory_nodup (fun _ _ valid => validateCellSchema_id valid) read
    rw [List.map_append, List.map_singleton]
    refine List.nodup_append.mpr ⟨distinct.sublist (List.filter_sublist.map _),
      List.nodup_singleton _, ?_⟩
    intro id member other last same
    obtain ⟨cell, kept, rfl⟩ := List.mem_map.mp member
    have apart := (List.mem_filter.mp kept).2
    rw [List.mem_singleton.mp last] at same
    simp [same] at apart

theorem loadCell (legible : Legible site s) {id : CellId} {record : CellRecord}
    (found : s.cells.lookup id = some record) :
    s.loadCell site id = .ok (redactCellDiagnostic record) := by
  have valid := legible.cells id record found
  have identity := validateCellSchema_id valid
  have unique : s.validateUniqueCellJobId site (site.cellPath id) (redactCellDiagnostic record) =
      .ok () := by
    refine legible.validateUniqueCellJobId ⟨record, ?_, by simp⟩
    rw [redactCellDiagnostic_id, identity]
    exact found
  unfold Store.loadCell
  rw [found]
  simp only [valid, unique]
  rfl

theorem listCells (legible : Legible site s) : ∃ records, s.listCells site = .ok records := by
  obtain ⟨records, read⟩ := legible.readCells
  refine ⟨records.map redactCellDiagnostic, ?_⟩
  unfold Store.listCells
  rw [read]
  have unique : validateUniqueCellJobIdsForPath (site.root.join "cells") records = .ok () := by
    refine validateUniqueCellJobIdsForPath_ok.mpr (legible.jobIds_nodup ?_
      (readJsonDirectory_nodup (fun _ _ valid => validateCellSchema_id valid) read))
    intro record member
    obtain ⟨key, found⟩ := (mem_readJsonDirectory read record).mp member
    refine ⟨record, ?_, rfl⟩
    rw [validateCellSchema_id (legible.cells key record found)]
    exact found
  change (validateUniqueCellJobIdsForPath (site.root.join "cells") records >>= fun _ =>
    pure (records.map redactCellDiagnostic)) = _
  rw [unique]
  rfl

theorem parentBinding (legible : Legible site s) {id : GuestOperationId}
    {operation : GuestOperationRecord} (found : s.operations.lookup id = some operation)
    (path : PathBuf) : s.validateOperationParentBinding site path operation = .ok () := by
  obtain ⟨_, cell, parent, bound⟩ := legible.operations id operation found
  unfold Store.validateOperationParentBinding
  rw [legible.loadCell parent]
  refine validateOperationJobBinding_ok.mpr ?_
  simpa only [redactCellDiagnostic_job] using bound

theorem loadGuestOperation (legible : Legible site s) {id : GuestOperationId}
    {operation : GuestOperationRecord} (found : s.operations.lookup id = some operation) :
    s.loadGuestOperation site id = .ok operation := by
  have valid := (legible.operations id operation found).1
  have parent := legible.parentBinding found (site.guestOperationPath id)
  unfold Store.loadGuestOperation
  rw [found]
  simp only [valid, parent]
  rfl

theorem listGuestOperations (legible : Legible site s) :
    ∃ records, s.listGuestOperations site = .ok records := by
  obtain ⟨records, read⟩ : ∃ records, readJsonDirectory GuestOperationId.toText
      (validateGuestOperationSchema site) s.operations = .ok records :=
    readJsonDirectory_total fun id operation found => (legible.operations id operation found).1
  refine ⟨records, ?_⟩
  unfold Store.listGuestOperations
  rw [read]
  have bound : records.forM (fun record => s.validateOperationParentBinding site
      (site.guestOperationPath record.id) record) = .ok () := by
    refine forM_ok.mpr fun record member => ?_
    obtain ⟨key, found⟩ := (mem_readJsonDirectory read record).mp member
    exact legible.parentBinding found _
  change (records.forM (fun record => s.validateOperationParentBinding site
    (site.guestOperationPath record.id) record) >>= fun _ => pure records) = _
  rw [bound]
  rfl

theorem validateJobOperationBindings (legible : Legible site s) {cells : List CellRecord}
    {operations : List GuestOperationRecord} (found : s.listCells site = .ok cells)
    (listed : s.listGuestOperations site = .ok operations) :
    Store.validateJobOperationBindings site cells operations = .ok () := by
  unfold Store.validateJobOperationBindings
  refine forM_ok.mpr fun operation member => ?_
  have stored := (Store.mem_listGuestOperations listed operation).mp member
  obtain ⟨_, parent, there, bound⟩ := legible.operations _ operation stored
  split
  · rename_i cell first
    have listedCell := List.mem_reverse.mp (List.mem_of_find?_eq_some first)
    have identity : cell.id = operation.cellId := by simpa using List.find?_some first
    obtain ⟨here, lookup, same⟩ := (Store.mem_listCells found cell).mp listedCell
    rw [identity, there] at lookup
    obtain rfl := Option.some.inj lookup
    refine validateOperationJobBinding_ok.mpr ?_
    rwa [same, redactCellDiagnostic_job]
  · rename_i missing
    obtain ⟨read, cells', rfl⟩ := Store.listCells_read found
    have member : parent ∈ read := (mem_readJsonDirectory cells' parent).mpr ⟨_, there⟩
    have absent := List.find?_eq_none.mp missing (redactCellDiagnostic parent)
      (List.mem_reverse.mpr (List.mem_map_of_mem member))
    simp [validateCellSchema_id (legible.cells _ parent there)] at absent

/-- Nothing in such a state root calls for an upgrade or a repair. -/
theorem checkCompatibility (legible : Legible site s) (stocked : Stocked site s) :
    ∃ report, s.checkCompatibility site = .ok report := by
  obtain ⟨images, readImages⟩ : ∃ records, s.listImages site = .ok records :=
    readJsonDirectory_total legible.images
  obtain ⟨cells, readCells⟩ := legible.listCells
  obtain ⟨operations, readOperations⟩ := legible.listGuestOperations
  obtain ⟨installations, counted⟩ : ∃ n, s.countInstallations site = .ok n := by
    unfold Store.countInstallations
    cases present : s.installation with
    | none => exact ⟨0, rfl⟩
    | some record =>
        have loaded : s.loadInstallation site = .ok record := by
          unfold Store.loadInstallation
          rw [present]
          simp only [ensureSchema_ok.mpr (legible.installation record present)]
          rfl
        rw [loaded]
        exact ⟨1, rfl⟩
  obtain ⟨artifacts, loaded⟩ : ∃ artifacts, operations.mapM (s.compatibleArtifact site) =
      .ok artifacts := by
    refine mapM_total fun operation member => ?_
    exact stocked.compatibleArtifact
      ((Store.mem_listGuestOperations readOperations operation).mp member)
  have unique : validateUniqueCellJobIdsForPath (site.root.join "cells") cells = .ok () := by
    refine validateUniqueCellJobIdsForPath_ok.mpr (legible.jobIds_nodup ?_
      (Store.listCells_nodup readCells))
    intro record member
    obtain ⟨stored, there, same⟩ := (Store.mem_listCells readCells record).mp member
    exact ⟨stored, there, by rw [same, redactCellDiagnostic_job]⟩
  have bindings := legible.validateJobOperationBindings readCells readOperations
  unfold Store.checkCompatibility
  rw [counted, readImages, readCells, readOperations]
  simp only [Store.asUpgradeRequired, bind, Except.bind, unique, bindings, loaded]
  exact ⟨_, rfl⟩

end Legible

section Writes
variable {site : Site} {s t : Store}

theorem legible_empty : Legible site Store.empty where
  installation := by
    intro record found
    cases found
  images := by
    intro id record found
    cases found
  cells := by
    intro id record found
    cases found
  jobs := by
    intro first second left right found
    cases found
  operations := by
    intro id operation found
    cases found

/-- A change that leaves cells and operations alone. -/
theorem Legible.of_same (legible : Legible site s) (cells : t.cells = s.cells)
    (operations : t.operations = s.operations)
    (installation : ∀ record, t.installation = some record →
      record.schemaVersion = installSchemaVersion)
    (images : ∀ id record, t.images.lookup id = some record →
      validateImageSchema site id record = .ok ()) : Legible site t where
  installation := installation
  images := images
  cells := by
    rw [cells]
    exact legible.cells
  jobs := by
    rw [cells]
    exact legible.jobs
  operations := by
    rw [cells, operations]
    exact legible.operations

/-- A saved cell has a job of its own. -/
theorem saveCell_job {record : CellRecord} (legible : Legible site s)
    (saved : s.saveCell site record = .ok t) (cellId : CellId) (other : CellRecord)
    (found : s.cells.lookup cellId = some other)
    (different : cellId ≠ record.id) (present : record.job.isSome = true) :
    record.job.map (·.jobId) ≠ other.job.map (·.jobId) := by
  obtain ⟨_, _, unique, _⟩ := Store.saveCell_ok saved
  obtain ⟨records, read⟩ := legible.readCells
  unfold Store.validateUniqueCellJobId at unique
  rw [read] at unique
  have distinct := validateUniqueCellJobIdsForPath_ok.mp unique
  unfold jobIds at distinct
  rw [List.filterMap_append] at distinct
  have apart := (List.nodup_append.mp distinct).2.2
  intro same
  obtain ⟨job, own⟩ := Option.isSome_iff_exists.mp present
  rw [own] at same
  refine apart job.jobId (List.mem_filterMap.mpr ⟨other, List.mem_filter.mpr ⟨?_, ?_⟩, same.symm⟩)
    job.jobId ?_ rfl
  · exact (mem_readJsonDirectory read other).mpr ⟨cellId, found⟩
  · have identity := validateCellSchema_id (legible.cells cellId other found)
    simpa [identity] using different
  · simp [own]

/-- A saved cell keeps the job of the record it replaces. -/
theorem Legible.jobKept {record old : CellRecord} (legible : Legible site s)
    (saved : s.saveCell site record = .ok t) (found : s.cells.lookup record.id = some old) :
    record.job = old.job := by
  obtain ⟨_, kept, _, _⟩ := Store.saveCell_ok saved
  unfold Store.ensureJobKept at kept
  rw [redactCellDiagnostic_id, legible.loadCell found] at kept
  simp only [redactCellDiagnostic_job] at kept
  split at kept
  · rename_i same
    exact same.symm
  · cases kept

/-- A saved operation keeps the job of the record it replaces. -/
theorem Legible.operationJobKept {record old : GuestOperationRecord} (legible : Legible site s)
    (saved : s.saveGuestOperation site record = .ok t)
    (found : s.operations.lookup record.id = some old) : record.jobId = old.jobId := by
  obtain ⟨_, kept, _, _⟩ := Store.saveGuestOperation_ok saved
  unfold Store.ensureOperationJobKept at kept
  rw [legible.loadGuestOperation found] at kept
  simp only at kept
  split at kept
  · rename_i same
    exact same.symm
  · cases kept

theorem legible_of_saveCell {record : CellRecord} (legible : Legible site s)
    (saved : s.saveCell site record = .ok t) : Legible site t := by
  have own := saveCell_job legible saved
  have kept : ∀ old, s.cells.lookup record.id = some old → record.job = old.job :=
    fun _ found => legible.jobKept saved found
  obtain ⟨valid, _, _, rfl⟩ := Store.saveCell_ok saved
  have stored : ∀ cellId found, (s.cells.insert record.id (redactCellDiagnostic record)).lookup
      cellId = some found → (cellId = record.id ∧ found = redactCellDiagnostic record) ∨
        (cellId ≠ record.id ∧ s.cells.lookup cellId = some found) := by
    intro cellId found lookup
    by_cases same : cellId = record.id
    · subst same
      exact Or.inl ⟨rfl, (Option.some.inj ((AList.lookup_insert s.cells).symm.trans lookup)).symm⟩
    · exact Or.inr ⟨same, (AList.lookup_insert_ne same).symm.trans lookup⟩
  refine ⟨legible.installation, legible.images, ?_, ?_, ?_⟩
  · intro cellId found lookup
    rcases stored cellId found lookup with ⟨rfl, rfl⟩ | ⟨_, before⟩
    · rw [validateCellSchema_redact]
      exact valid
    · exact legible.cells cellId found before
  · intro first second left right foundLeft foundRight present same
    rcases stored first left foundLeft with ⟨rfl, rfl⟩ | ⟨otherLeft, beforeLeft⟩
    · rcases stored second right foundRight with ⟨rfl, rfl⟩ | ⟨otherRight, beforeRight⟩
      · rfl
      · rw [redactCellDiagnostic_job] at present same
        exact absurd same (own second right beforeRight otherRight present)
    · rcases stored second right foundRight with ⟨rfl, rfl⟩ | ⟨otherRight, beforeRight⟩
      · rw [redactCellDiagnostic_job] at same
        have job : record.job.isSome = true := by
          have mapped : (left.job.map (·.jobId)).isSome = true := by simpa using present
          rw [same] at mapped
          simpa using mapped
        exact absurd same.symm (own first left beforeLeft otherLeft job)
      · exact legible.jobs first second left right beforeLeft beforeRight present same
  · intro id operation found
    obtain ⟨schema, cell, parent, bound⟩ := legible.operations id operation found
    refine ⟨schema, ?_⟩
    by_cases same : operation.cellId = record.id
    · refine ⟨redactCellDiagnostic record, ?_, fun jobId job => ?_⟩
      · rw [same]
        exact AList.lookup_insert _
      · rw [redactCellDiagnostic_job, kept cell (same ▸ parent)]
        exact bound jobId job
    · exact ⟨cell, (AList.lookup_insert_ne same).trans parent, bound⟩

theorem legible_of_saveGuestOperation {record : GuestOperationRecord} (legible : Legible site s)
    (saved : s.saveGuestOperation site record = .ok t) : Legible site t := by
  obtain ⟨valid, _, parent, rfl⟩ := Store.saveGuestOperation_ok saved
  refine ⟨legible.installation, legible.images, legible.cells, legible.jobs, ?_⟩
  intro id operation lookup
  by_cases same : id = record.id
  · subst same
    obtain rfl := Option.some.inj ((AList.lookup_insert s.operations).symm.trans lookup)
    refine ⟨valid, ?_⟩
    obtain ⟨loaded, read, bound⟩ := Store.requireGuestOperationParentForMutation_ok parent
    obtain ⟨cell, found, rfl, _⟩ := Store.loadCell_ok read
    refine ⟨cell, found, ?_⟩
    simpa only [redactCellDiagnostic_job] using validateOperationJobBinding_ok.mp bound
  · exact legible.operations id operation ((AList.lookup_insert_ne same).symm.trans lookup)

theorem Store.loadCell_unique {record : CellRecord} {id : CellId}
    (loaded : s.loadCell site id = .ok record) :
    s.validateUniqueCellJobId site (site.cellPath id) record = .ok () := by
  unfold Store.loadCell at loaded
  split at loaded
  · cases loaded
  · obtain ⟨_, rest⟩ := bind_unit_ok.mp loaded
    obtain ⟨unique, same⟩ := bind_unit_ok.mp rest
    obtain rfl := Except.ok.inj same
    exact unique

/-- The check reads the identity and the job only. -/
theorem Store.validateUniqueCellJobId_congr {record new : CellRecord} {path : PathBuf}
    (identity : new.id = record.id) (job : new.job = record.job) :
    s.validateUniqueCellJobId site path new = .ok () ↔
      s.validateUniqueCellJobId site path record = .ok () := by
  unfold Store.validateUniqueCellJobId
  rw [bind_ok, bind_ok]
  simp only [validateUniqueCellJobIdsForPath_ok, identity, jobIds, List.filterMap_append,
    List.filterMap_cons, job]

/-- A record that was read can be written again, with another phase, state,
object or time. -/
theorem Store.saveCell_again {record new : CellRecord} {id : CellId}
    (loaded : s.loadCell site id = .ok record) (identity : new.id = record.id)
    (version : new.schemaVersion = record.schemaVersion)
    (ownership : new.ownership = record.ownership) (job : new.job = record.job) :
    s.saveCell site new =
      .ok { s with cells := s.cells.insert id (redactCellDiagnostic new) } := by
  have known : new.id = id := identity.trans (Store.loadCell_id loaded)
  have valid : validateCellSchema site id new = .ok () := by
    obtain ⟨stored, _, rfl, valid⟩ := Store.loadCell_ok loaded
    unfold validateCellSchema at valid ⊢
    rw [version, ownership, identity, job, redactCellDiagnostic_schemaVersion,
      redactCellDiagnostic_ownership, redactCellDiagnostic_id, redactCellDiagnostic_job]
    exact valid
  have unique : s.validateUniqueCellJobId site (site.cellPath id) (redactCellDiagnostic new) =
      .ok () :=
    (Store.validateUniqueCellJobId_congr ((redactCellDiagnostic_id new).trans identity)
      ((redactCellDiagnostic_job new).trans job)).mpr (Store.loadCell_unique loaded)
  have kept : s.ensureJobKept site (redactCellDiagnostic new) = .ok () := by
    unfold Store.ensureJobKept
    rw [redactCellDiagnostic_id, known, loaded]
    simp [job]
  unfold Store.saveCell
  simp only [redactCellDiagnostic_id, known, validateCellSchema_redact, valid, kept, unique, bind,
    Except.bind]
  rfl

theorem Legible.requireParent (legible : Legible site s) {operation : GuestOperationRecord}
    {id : GuestOperationId} (found : s.operations.lookup id = some operation) :
    s.requireGuestOperationParentForMutation site operation = .ok () := by
  obtain ⟨_, cell, parent, bound⟩ := legible.operations id operation found
  unfold Store.requireGuestOperationParentForMutation Store.validateOperationParentBindingForWrite
  rw [legible.loadCell parent]
  refine validateOperationJobBinding_ok.mpr ?_
  simpa only [redactCellDiagnostic_job] using bound

/-- A new operation of a cell of the same job is written. -/
theorem Store.saveGuestOperation_fresh {record : GuestOperationRecord} {cell : CellRecord}
    (valid : validateGuestOperationSchema site record.id record = .ok ())
    (absent : s.operations.lookup record.id = none)
    (loaded : s.loadCell site record.cellId = .ok cell)
    (job : ∀ jobId, record.jobId = some jobId → cell.job.map (·.jobId) = some jobId) :
    s.saveGuestOperation site record =
      .ok { s with operations := s.operations.insert record.id record } := by
  have kept : s.ensureOperationJobKept site record = .ok () := by
    unfold Store.ensureOperationJobKept Store.loadGuestOperation
    rw [absent]
  have parent : s.requireGuestOperationParentForMutation site record = .ok () := by
    unfold Store.requireGuestOperationParentForMutation Store.validateOperationParentBindingForWrite
    rw [loaded]
    exact validateOperationJobBinding_ok.mpr job
  unfold Store.saveGuestOperation
  rw [valid, kept, parent]
  rfl

/-- A stored operation can be written again with any content that passes the check. -/
theorem Store.saveGuestOperation_again {old new : GuestOperationRecord} (legible : Legible site s)
    (found : s.operations.lookup new.id = some old) (cellId : new.cellId = old.cellId)
    (jobId : new.jobId = old.jobId)
    (valid : validateGuestOperationSchema site new.id new = .ok ()) :
    s.saveGuestOperation site new =
      .ok { s with operations := s.operations.insert new.id new } := by
  have kept : s.ensureOperationJobKept site new = .ok () := by
    unfold Store.ensureOperationJobKept
    rw [legible.loadGuestOperation found]
    simp [jobId]
  have parent : s.requireGuestOperationParentForMutation site new = .ok () := by
    obtain ⟨_, cell, parent, bound⟩ := legible.operations new.id old found
    unfold Store.requireGuestOperationParentForMutation Store.validateOperationParentBindingForWrite
    rw [cellId, legible.loadCell parent]
    refine validateOperationJobBinding_ok.mpr ?_
    simpa only [redactCellDiagnostic_job, jobId] using bound
  unfold Store.saveGuestOperation
  simp only [valid, kept, parent, bind, Except.bind]
  rfl

end Writes

end VmCell
