import VmCell.Interaction.Intrusion
import VmCell.Properties.Artifacts

/-! Which job a record belongs to.

The commands share the state root with others who save cells and operations of
their own. Whatever they save, a job is bound to one cell, and the operations and
artifacts of the cell follow it.
-/

set_option autoImplicit false
namespace VmCell

open Interaction

section Others
variable (env : Environment)

/-- A save by someone else. A new cell has an identifier that no running process
draws, and an operation stays with its cell; nothing else is asked of the records. -/
def Deposit (d : Manager) : Op → Prop
  | .mutate (.saveCell record) => (d.store.cells.lookup record.id).isSome = true ∨
      d.procs (env.owner record.id.value) = none
  | .mutate (.saveGuestOperation record) => ∀ old,
      d.store.operations.lookup record.id = some old → record.cellId = old.cellId
  | _ => False

/-- The save was accepted, rejected or interrupted. -/
def Deposited (d : Manager) (t : Store) : Prop :=
  ∃ i op reply, Deposit env d op ∧ env.step i op d.store reply t

/-- A run of the manager with saves of others while the lock is free. -/
abbrev Manager.Mixes (c d : Manager) : Prop :=
  Config.Mixes env.effects (Programs env.site) (Deposited env) c d

theorem tolerates_deposits : Config.Tolerates (discipline env) (Deposited env) := by
  rintro d t i p ⟨j, op, reply, deposit, step⟩ running cellId owned absent
  rcases (step_change step).cells with same | ⟨record, rfl, saved⟩
  · rwa [same]
  · obtain ⟨_, _, _, rfl⟩ := Store.saveCell_ok saved
    have different : cellId ≠ record.id := by
      rintro rfl
      rcases deposit with present | unclaimed
      · rw [absent] at present
        cases present
      · rw [owned, running] at unclaimed
        cases unclaimed
    exact (AList.lookup_insert_ne different).trans absent

end Others

section Manifests
variable {env : Environment} {site : Site} {i : Pid} {op : Op} {reply : op.Reply} {s t : Store}
  {key : CellId × GuestOperationId} {found : ArtifactDirectory} {record : ArtifactRecord}

/-- The manifest was there before. -/
def Manifested (s : Store) (key : CellId × GuestOperationId) (record : ArtifactRecord) : Prop :=
  ∃ found, s.artifacts.lookup key = some found ∧ found.manifest = some record

theorem Manifested.of_put {cellId : CellId} {operationId : GuestOperationId}
    {directory : ArtifactDirectory}
    (there : Manifested (s.putArtifact cellId operationId directory) key record)
    (kept : directory.manifest = some record → Manifested s (cellId, operationId) record) :
    Manifested s key record := by
  obtain ⟨found, present, manifest⟩ := there
  by_cases same : key = (cellId, operationId)
  · subst same
    obtain rfl := Option.some.inj ((AList.lookup_insert s.artifacts).symm.trans present)
    exact kept manifest
  · exact ⟨found, (AList.lookup_insert_ne same).symm.trans present, manifest⟩

theorem Manifested.of_apply {m : Mutation} {answer : m.Answer}
    (applied : m.apply site s = .ok (answer, t)) (there : Manifested t key record) :
    Manifested s key record ∨ s.saveArtifactNew site key.1 key.2 record = .ok t := by
  cases m with
  | prepareArtifactRoot cellId operationId =>
      obtain ⟨_, rfl⟩ := Prod.mk.inj (Except.ok.inj applied)
      refine Or.inl (there.of_put fun manifest => ?_)
      cases present : s.artifacts.lookup (cellId, operationId) with
      | none => simp [present] at manifest
      | some found =>
          rw [present] at manifest
          exact ⟨found, present, manifest⟩
  | writeArtifactFile cellId operationId index bytes =>
      obtain ⟨found, files, present, _, _, _, rfl⟩ := writeArtifactFile_ok applied
      exact Or.inl (there.of_put fun manifest => ⟨found, present, manifest⟩)
  | saveArtifactNew cellId operationId new =>
      have saved := written_ok.mp applied
      obtain ⟨found, operation, present, _, _, _, _, _, _, rfl⟩ := saveArtifactNew_ok saved
      by_cases same : record = new
      · subst same
        by_cases here : key = (cellId, operationId)
        · subst here
          exact Or.inr saved
        · refine Or.inl ?_
          obtain ⟨other, lookup, manifest⟩ := there
          exact ⟨other, (AList.lookup_insert_ne here).symm.trans lookup, manifest⟩
      · exact Or.inl (there.of_put fun manifest => absurd (Option.some.inj manifest).symm same)
  | removeArtifactRoot cellId operationId =>
      obtain ⟨_, rfl⟩ := Prod.mk.inj (Except.ok.inj applied)
      refine Or.inl ?_
      obtain ⟨found, lookup, manifest⟩ := there
      cases present : s.artifacts.lookup (cellId, operationId) with
      | none =>
          rw [present] at lookup
          exact ⟨found, lookup, manifest⟩
      | some removed =>
          rw [present] at lookup
          by_cases here : key = (cellId, operationId)
          · subst here
            exact absurd ((AList.lookup_erase _ _).symm.trans lookup) (by simp)
          · exact ⟨found, (AList.lookup_erase_ne here).symm.trans lookup, manifest⟩
  | installation | saveImageNew | removeImageRecord | saveCell | saveGuestOperation
  | prepareCellRuntimeFor | removeCellRuntime =>
      have same := (change_of_apply applied).artifacts rfl
      unfold Manifested at there
      rw [same] at there
      exact Or.inl there

theorem Manifested.of_disturbed {m : Mutation} (left : Disturbed site s m t)
    (there : Manifested t key record) :
    Manifested s key record ∨ s.saveArtifactNew site key.1 key.2 record = .ok t := by
  cases left with
  | before => exact Or.inl there
  | after applied => exact Manifested.of_apply applied there
  | artifactRoot absent => exact Or.inl (there.of_put fun manifest => by cases manifest)
  | artifactFile present => exact Or.inl (there.of_put fun manifest => ⟨_, present, manifest⟩)
  | artifactRemoval present partial' =>
      refine Or.inl (there.of_put fun manifest => ⟨_, present, ?_⟩)
      rcases partial'.1 with gone | kept
      · rw [gone] at manifest
        cases manifest
      · exact kept.symm.trans manifest
  | runtimeRoot => exact Or.inl there
  | runtimeRemoval => exact Or.inl there

/-- A manifest appears only by being saved. -/
theorem Manifested.of_step (step : env.step i op s reply t) (there : Manifested t key record) :
    Manifested s key record ∨ s.saveArtifactNew env.site key.1 key.2 record = .ok t := by
  cases op with
  | query q =>
      obtain ⟨rfl, _⟩ := step
      exact Or.inl there
  | mutate m =>
      rcases step with (⟨answer, applied, _⟩ | ⟨_, _, _, rfl⟩) | ⟨_, _, left⟩
      · exact Manifested.of_apply applied there
      · exact Or.inl there
      · exact Manifested.of_disturbed left there
  | provider authority action =>
      obtain ⟨runtime, rfl, _⟩ := step
      exact Or.inl there
  | transport authority operationId action =>
      cases step_change step with
      | unchanged => exact Or.inl there
      | runtime other => cases other
      | copied => exact Or.inl there
  | observe o =>
      obtain rfl : t = s := step
      exact Or.inl there
  | newUuid =>
      obtain ⟨rfl, _⟩ := step
      exact Or.inl there

end Manifests

section Versions

/-- The version of a record with or without a job. -/
def versionFor {J : Type} (job : Option J) : Nat := if job.isSome then 2 else 1

theorem ensureJobSchema_version {J : Type} {kind : String} {path : PathBuf} {version : Nat}
    {job : Option J} (supported : version ∈ [1, 2])
    (valid : ensureJobSchema kind path version job = .ok ()) : version = versionFor job := by
  unfold ensureJobSchema at valid
  cases job with
  | none =>
      rcases List.mem_pair.mp supported with rfl | rfl
      · rfl
      · simp at valid
  | some job =>
      rcases List.mem_pair.mp supported with rfl | rfl
      · simp at valid
      · rfl

theorem ensureSchemaOneOf_mem {path : PathBuf} {kind : String} {actual highest : Nat}
    {supported : List Nat}
    (valid : ensureSchemaOneOf path kind actual supported highest = .ok ()) :
    actual ∈ supported := by
  unfold ensureSchemaOneOf at valid
  split at valid
  · assumption
  · cases valid

theorem validateCellSchema_version {site : Site} {key : CellId} {record : CellRecord}
    (valid : validateCellSchema site key record = .ok ()) :
    record.schemaVersion = versionFor record.job := by
  obtain ⟨supported, rest⟩ := bind_unit_ok.mp valid
  obtain ⟨_, rest⟩ := bind_unit_ok.mp rest
  obtain ⟨_, rest⟩ := bind_unit_ok.mp rest
  exact ensureJobSchema_version (ensureSchemaOneOf_mem supported) (bind_unit_ok.mp rest).1

theorem validateGuestOperationSchema_version {site : Site} {key : GuestOperationId}
    {record : GuestOperationRecord}
    (valid : validateGuestOperationSchema site key record = .ok ()) :
    record.schemaVersion = versionFor record.jobId := by
  obtain ⟨supported, _, job, _⟩ := validateGuestOperationSchema_ok.mp valid
  exact ensureJobSchema_version supported job

theorem validateArtifactSchema_version {path : PathBuf} {record : ArtifactRecord}
    (valid : validateArtifactSchema path record = .ok ()) :
    record.schemaVersion = versionFor record.jobId := by
  obtain ⟨supported, rest⟩ := bind_unit_ok.mp valid
  exact ensureJobSchema_version (ensureSchemaOneOf_mem supported) (bind_unit_ok.mp rest).1

theorem versionFor_eq_two {J : Type} {job : Option J} :
    versionFor job = 2 ↔ job.isSome = true := by
  cases job <;> simp [versionFor]

theorem versionFor_le {J : Type} (job : Option J) : versionFor job ≤ 2 := by
  cases job <;> simp [versionFor]

theorem foldl_max_eq_two {versions : List Nat} (bounded : ∀ version ∈ versions, version ≤ 2) :
    versions.foldl max 0 = 2 ↔ 2 ∈ versions := by
  have general : ∀ start, start ≤ 2 → (versions.foldl max start = 2 ↔ start = 2 ∨ 2 ∈ versions) := by
    induction versions with
    | nil => simp
    | cons version rest ih =>
        intro start small
        have first := bounded version List.mem_cons_self
        have others := fun other member => bounded other (List.mem_cons_of_mem version member)
        rw [List.foldl_cons, ih others (max start version) (by omega), List.mem_cons]
        constructor
        · rintro (largest | later)
          · omega
          · exact Or.inr (Or.inr later)
        · rintro (rfl | rfl | later)
          · exact Or.inl (by omega)
          · exact Or.inl (by omega)
          · exact Or.inr later
  simpa using general 0 (by omega)

end Versions

section Integrity
variable {env : Environment} {site : Site} {i : Pid} {op : Op} {reply : op.Reply} {s t : Store}

/-- Every manifest belongs to an operation of the same cell and job. -/
def Attributed (site : Site) (s : Store) : Prop :=
  ∀ key record, Manifested s key record →
    validateArtifactSchema (Store.manifestPath site key.1 key.2) record = .ok () ∧
      ∃ operation, s.operations.lookup key.2 = some operation ∧ record.id = operation.id ∧
        record.cellId = operation.cellId ∧ record.jobId = operation.jobId

/-- No record loses its job or gets another one. -/
structure JobsKept (s t : Store) : Prop where
  cells : ∀ id old, s.cells.lookup id = some old →
    ∃ new, t.cells.lookup id = some new ∧ new.job = old.job
  operations : ∀ id old, s.operations.lookup id = some old →
    ∃ new, t.operations.lookup id = some new ∧ new.jobId = old.jobId

theorem JobsKept.refl (s : Store) : JobsKept s s :=
  ⟨fun _ old found => ⟨old, found, rfl⟩, fun _ old found => ⟨old, found, rfl⟩⟩

theorem JobsKept.trans {u : Store} (first : JobsKept s t) (second : JobsKept t u) :
    JobsKept s u where
  cells := by
    intro id old found
    obtain ⟨middle, there, same⟩ := first.cells id old found
    obtain ⟨new, last, again⟩ := second.cells id middle there
    exact ⟨new, last, again.trans same⟩
  operations := by
    intro id old found
    obtain ⟨middle, there, same⟩ := first.operations id old found
    obtain ⟨new, last, again⟩ := second.operations id middle there
    exact ⟨new, last, again.trans same⟩

theorem jobsKept_of_change (legible : Legible site s) (change : Change site s op t) :
    JobsKept s t where
  cells := by
    intro id old found
    rcases change.cells with same | ⟨record, _, saved⟩
    · exact ⟨old, by rwa [same], rfl⟩
    · by_cases here : id = record.id
      · subst here
        have job := legible.jobKept saved found
        obtain ⟨_, _, _, rfl⟩ := Store.saveCell_ok saved
        exact ⟨_, AList.lookup_insert _, by rw [redactCellDiagnostic_job, job]⟩
      · obtain ⟨_, _, _, rfl⟩ := Store.saveCell_ok saved
        exact ⟨old, (AList.lookup_insert_ne here).trans found, rfl⟩
  operations := by
    intro id old found
    rcases change.operations with same | ⟨record, _, saved⟩
    · exact ⟨old, by rwa [same], rfl⟩
    · by_cases here : id = record.id
      · subst here
        have job := legible.operationJobKept saved found
        obtain ⟨_, _, _, rfl⟩ := Store.saveGuestOperation_ok saved
        exact ⟨_, AList.lookup_insert _, job⟩
      · obtain ⟨_, _, _, rfl⟩ := Store.saveGuestOperation_ok saved
        exact ⟨old, (AList.lookup_insert_ne here).trans found, rfl⟩

/-- An operation is written over another of the same cell only. -/
def StaysWithCell (op : Op) (s : Store) : Prop :=
  ∀ record old, op = .mutate (.saveGuestOperation record) →
    s.operations.lookup record.id = some old → record.cellId = old.cellId

theorem stays_of_allowed (allowed : Allowed env i op s) : StaysWithCell op s := by
  rintro record old rfl found
  rcases allowed with ⟨absent, _⟩ | ⟨stored, there, same, _⟩
  · rw [absent] at found
    cases found
  · obtain rfl := Option.some.inj (there.symm.trans found)
    exact same.cellId

theorem stays_of_deposit {d : Manager} (deposit : Deposit env d op) : StaysWithCell op d.store := by
  rintro record old rfl found
  exact deposit old found

theorem attributed_of_step (legible : Legible env.site s) (attributed : Attributed env.site s)
    (stays : StaysWithCell op s) (step : env.step i op s reply t) : Attributed env.site t := by
  have change := step_change step
  -- the operation of a manifest that was there keeps its identity
  have kept : ∀ id old, s.operations.lookup id = some old →
      ∃ new, t.operations.lookup id = some new ∧ new.id = old.id ∧ new.cellId = old.cellId ∧
        new.jobId = old.jobId := by
    intro id old found
    obtain ⟨new, there, job⟩ := (jobsKept_of_change legible change).operations id old found
    rcases change.operations with same | ⟨record, rfl, saved⟩
    · rw [same, found] at there
      obtain rfl := Option.some.inj there
      exact ⟨old, by rwa [same], rfl, rfl, rfl⟩
    · have identity := validateGuestOperationSchema_id (legible.operations id old found).1
      obtain ⟨_, _, _, rfl⟩ := Store.saveGuestOperation_ok saved
      by_cases here : id = record.id
      · obtain rfl := Option.some.inj
          ((AList.lookup_insert s.operations).symm.trans (here ▸ there))
        exact ⟨record, there, here.symm.trans identity.symm,
          stays record old rfl (here ▸ found), job⟩
      · obtain rfl := Option.some.inj
          (((AList.lookup_insert_ne here).symm.trans there).symm.trans found)
        exact ⟨new, there, rfl, rfl, rfl⟩
  intro key record there
  rcases there.of_step step with before | saved
  · obtain ⟨schema, operation, found, id, cellId, jobId⟩ := attributed key record before
    obtain ⟨new, later, sameId, sameCell, sameJob⟩ := kept key.2 operation found
    exact ⟨schema, new, later, id.trans sameId.symm, cellId.trans sameCell.symm,
      jobId.trans sameJob.symm⟩
  · obtain ⟨found, operation, _, schema, id, _, loaded, bound, _, rfl⟩ := saveArtifactNew_ok saved
    obtain ⟨stored, valid, _⟩ := Store.loadGuestOperation_ok loaded
    obtain ⟨cellId, jobId⟩ := validateArtifactJobBinding_ok.mp bound
    exact ⟨schema, operation, stored,
      id.trans (validateGuestOperationSchema_id valid).symm, cellId, jobId⟩

/-- Everything about jobs that holds of a state root. -/
structure Correlated (site : Site) (s : Store) : Prop where
  legible : Legible site s
  attributed : Attributed site s

theorem correlated_empty : Correlated site Store.empty where
  legible := legible_empty
  attributed := by
    rintro key record ⟨found, present, _⟩
    cases present

theorem Correlated.step (correlated : Correlated env.site s) (stays : StaysWithCell op s)
    (step : env.step i op s reply t) : Correlated env.site t ∧ JobsKept s t :=
  ⟨⟨legible_of_change correlated.legible (step_change step),
    attributed_of_step correlated.legible correlated.attributed stays step⟩,
    jobsKept_of_change correlated.legible (step_change step)⟩

end Integrity

section Format
variable {site : Site} {s : Store}

theorem asUpgradeRequired_ok {A : Type} {result : Except StateError A} {a : A} :
    Store.asUpgradeRequired result = .ok a ↔ result = .ok a := by
  unfold Store.asUpgradeRequired
  split <;> simp

theorem compatibleArtifact_ok {operation : GuestOperationRecord} {artifact : ArtifactRecord}
    (checked : s.compatibleArtifact site operation = .ok (some artifact)) :
    artifact.schemaVersion = versionFor artifact.jobId ∧ artifact.jobId = operation.jobId := by
  unfold Store.compatibleArtifact at checked
  split at checked
  · obtain ⟨found, loaded, rest⟩ := bind_ok.mp checked
    obtain ⟨bound, same⟩ := bind_unit_ok.mp rest
    obtain rfl := Option.some.inj (Except.ok.inj same)
    obtain ⟨_, _, rest⟩ := bind_ok.mp (asUpgradeRequired_ok.mp loaded)
    obtain ⟨_, _, rest⟩ := bind_ok.mp rest
    obtain ⟨schema, rest⟩ := bind_unit_ok.mp rest
    obtain ⟨_, rest⟩ := bind_unit_ok.mp rest
    obtain ⟨_, _, rest⟩ := bind_ok.mp rest
    obtain ⟨_, rest⟩ := bind_unit_ok.mp rest
    obtain ⟨_, last⟩ := bind_unit_ok.mp rest
    obtain rfl := Except.ok.inj last
    exact ⟨validateArtifactSchema_version schema,
      (validateArtifactJobBinding_ok.mp (asUpgradeRequired_ok.mp bound)).2⟩
  · cases checked

/-- What a compatibility report is computed from. -/
theorem checkCompatibility_ok {report : Store.CompatibilityReport}
    (checked : s.checkCompatibility site = .ok report) :
    ∃ cells operations artifacts, s.listCells site = .ok cells ∧
      s.listGuestOperations site = .ok operations ∧
      operations.mapM (s.compatibleArtifact site) = .ok artifacts ∧
      report.durableStateFormatVersion =
        ((if cells.map (·.schemaVersion) ++ operations.map (·.schemaVersion) = [] then [1]
          else cells.map (·.schemaVersion) ++ operations.map (·.schemaVersion)) ++
          (artifacts.filterMap id).map (·.schemaVersion)).foldl max 0 := by
  obtain ⟨_, _, rest⟩ := bind_ok.mp checked
  obtain ⟨_, _, rest⟩ := bind_ok.mp rest
  obtain ⟨cells, listed, rest⟩ := bind_ok.mp rest
  obtain ⟨_, rest⟩ := bind_unit_ok.mp rest
  obtain ⟨operations, found, rest⟩ := bind_ok.mp rest
  obtain ⟨_, rest⟩ := bind_unit_ok.mp rest
  obtain ⟨artifacts, loaded, same⟩ := bind_ok.mp rest
  obtain rfl := Except.ok.inj same
  exact ⟨cells, operations, artifacts, asUpgradeRequired_ok.mp listed,
    asUpgradeRequired_ok.mp found, loaded, rfl⟩

/-- The reported format is the second exactly when some cell has a job. -/
theorem Legible.format (legible : Legible site s) {report : Store.CompatibilityReport}
    (checked : s.checkCompatibility site = .ok report) :
    report.durableStateFormatVersion = 2 ↔
      ∃ id cell, s.cells.lookup id = some cell ∧ cell.job.isSome = true := by
  obtain ⟨cells, operations, artifacts, listed, found, loaded, version⟩ :=
    checkCompatibility_ok checked
  have ofCell : ∀ cell ∈ cells, cell.schemaVersion = versionFor cell.job ∧
      ∃ stored, s.cells.lookup cell.id = some stored ∧ cell.job = stored.job := by
    intro cell member
    obtain ⟨stored, there, same⟩ := (Store.mem_listCells listed cell).mp member
    have valid := legible.cells _ stored there
    refine ⟨?_, stored, there, by rw [same, redactCellDiagnostic_job]⟩
    rw [same, redactCellDiagnostic_schemaVersion, redactCellDiagnostic_job]
    exact validateCellSchema_version valid
  have ofOperation : ∀ operation ∈ operations,
      operation.schemaVersion = versionFor operation.jobId ∧ (operation.jobId.isSome = true →
        ∃ id cell, s.cells.lookup id = some cell ∧ cell.job.isSome = true) := by
    intro operation member
    have there := (Store.mem_listGuestOperations found operation).mp member
    obtain ⟨valid, cell, parent, bound⟩ := legible.operations _ operation there
    refine ⟨validateGuestOperationSchema_version valid, fun correlated => ?_⟩
    obtain ⟨jobId, known⟩ := Option.isSome_iff_exists.mp correlated
    refine ⟨_, cell, parent, ?_⟩
    have job := congrArg Option.isSome (bound jobId known)
    simpa using job
  have ofArtifact : ∀ artifact ∈ artifacts.filterMap id,
      artifact.schemaVersion = versionFor artifact.jobId ∧ (artifact.jobId.isSome = true →
        ∃ id cell, s.cells.lookup id = some cell ∧ cell.job.isSome = true) := by
    intro artifact member
    obtain ⟨entry, within, rfl⟩ := List.mem_filterMap.mp member
    obtain ⟨operation, listedOperation, read⟩ := mapM_mem loaded within
    obtain ⟨schema, job⟩ := compatibleArtifact_ok read
    exact ⟨schema, fun correlated => (ofOperation operation listedOperation).2 (job ▸ correlated)⟩
  have second : ∀ {J : Type} {number : Nat} {job : Option J}, number = versionFor job →
      number ≤ 2 ∧ (2 = number ↔ job.isSome = true) := by
    rintro J _ job rfl
    exact ⟨versionFor_le job, by rw [eq_comm, versionFor_eq_two]⟩
  rw [version, foldl_max_eq_two]
  · rw [List.mem_append]
    constructor
    · rintro (early | late)
      · split at early
        · simp at early
        · rcases List.mem_append.mp early with cell | operation
          · obtain ⟨cell, member, two⟩ := List.mem_map.mp cell
            obtain ⟨schema, stored, there, job⟩ := ofCell cell member
            exact ⟨_, stored, there, job ▸ (second schema).2.mp two.symm⟩
          · obtain ⟨operation, member, two⟩ := List.mem_map.mp operation
            obtain ⟨schema, parent⟩ := ofOperation operation member
            exact parent ((second schema).2.mp two.symm)
      · obtain ⟨artifact, member, two⟩ := List.mem_map.mp late
        obtain ⟨schema, parent⟩ := ofArtifact artifact member
        exact parent ((second schema).2.mp two.symm)
    · rintro ⟨key, cell, there, correlated⟩
      have identity := validateCellSchema_id (legible.cells key cell there)
      have member : redactCellDiagnostic cell ∈ cells := by
        refine (Store.mem_listCells listed _).mpr ⟨cell, ?_, rfl⟩
        rwa [redactCellDiagnostic_id, identity]
      have two : 2 ∈ cells.map (·.schemaVersion) := by
        refine List.mem_map.mpr ⟨_, member, ?_⟩
        refine ((second (ofCell _ member).1).2.mpr ?_).symm
        rwa [redactCellDiagnostic_job]
      have both := List.mem_append_left (operations.map (·.schemaVersion)) two
      rw [if_neg (List.ne_nil_of_mem both)]
      exact Or.inl both
  · intro number listedNumber
    rcases List.mem_append.mp listedNumber with early | late
    · split at early
      · simp only [List.mem_singleton] at early
        omega
      · rcases List.mem_append.mp early with ofCells | ofOperations
        · obtain ⟨cell, member, rfl⟩ := List.mem_map.mp ofCells
          exact (second (ofCell cell member).1).1
        · obtain ⟨operation, member, rfl⟩ := List.mem_map.mp ofOperations
          exact (second (ofOperation operation member).1).1
    · obtain ⟨artifact, member, rfl⟩ := List.mem_map.mp late
      exact (second (ofArtifact artifact member).1).1

end Format

section Runs
variable {env : Environment} {c d e : Manager} {s t : Store}

/-- The binding between jobs and the records of a state root. -/
structure JobsBound (site : Site) (s : Store) : Prop where
  unique : ∀ first second left right jobId, s.cells.lookup first = some left →
    s.cells.lookup second = some right → left.job.map (·.jobId) = some jobId →
    right.job.map (·.jobId) = some jobId → first = second
  operations : ∀ id operation jobId, s.operations.lookup id = some operation →
    operation.jobId = some jobId → ∃ cell, s.cells.lookup operation.cellId = some cell ∧
      cell.job.map (·.jobId) = some jobId
  artifacts : ∀ key record, Manifested s key record →
    ∃ operation, s.operations.lookup key.2 = some operation ∧ record.id = operation.id ∧
      record.cellId = operation.cellId ∧ record.jobId = operation.jobId
  cellVersions : ∀ id record, s.cells.lookup id = some record →
    record.schemaVersion = versionFor record.job
  operationVersions : ∀ id record, s.operations.lookup id = some record →
    record.schemaVersion = versionFor record.jobId
  artifactVersions : ∀ key record, Manifested s key record →
    record.schemaVersion = versionFor record.jobId
  format : ∀ report, s.checkCompatibility site = .ok report →
    (report.durableStateFormatVersion = 2 ↔
      ∃ id cell, s.cells.lookup id = some cell ∧ cell.job.isSome = true)

theorem Correlated.bound {site : Site} (correlated : Correlated site s) : JobsBound site s where
  unique := by
    intro first second left right jobId foundLeft foundRight jobLeft jobRight
    refine correlated.legible.jobs first second left right foundLeft foundRight ?_
      (jobLeft.trans jobRight.symm)
    have present := congrArg Option.isSome jobLeft
    simpa using present
  operations := by
    intro id operation jobId found known
    obtain ⟨_, cell, parent, bound⟩ := correlated.legible.operations id operation found
    exact ⟨cell, parent, bound jobId known⟩
  artifacts := fun key record there => (correlated.attributed key record there).2
  cellVersions := fun id record found =>
    validateCellSchema_version (correlated.legible.cells id record found)
  operationVersions := fun id record found =>
    validateGuestOperationSchema_version (correlated.legible.operations id record found).1
  artifactVersions := fun key record there =>
    validateArtifactSchema_version (correlated.attributed key record there).1
  format := fun _ checked => correlated.legible.format checked

/-- The accesses that check a job. -/
def Mutation.correlates : Mutation → Bool
  | .saveCell _ | .saveGuestOperation _ | .saveArtifactNew .. => true
  | _ => false

/-- A rejected save leaves everything as it was, interrupted or not. -/
theorem step_of_rejected {i : Pid} {m : Mutation} {reply : (Op.mutate m).Reply}
    {error : StateError} (checks : m.correlates = true)
    (rejected : m.apply env.site s = .error error)
    (step : env.step i (.mutate m) s reply t) : t = s := by
  rcases step with (⟨answer, applied, _⟩ | ⟨_, _, _, same⟩) | ⟨_, _, left⟩
  · rw [rejected] at applied
    cases applied
  · exact same
  · cases left with
    | before => rfl
    | after applied =>
        rw [rejected] at applied
        cases applied
    | artifactRoot | artifactFile | artifactRemoval | runtimeRoot | runtimeRemoval => cases checks

/-- Jobs stay bound in every run, whatever others save in between. -/
theorem jobs_stay_bound (idle : c.Idle) (fresh : c.store = Store.empty)
    (before : Manager.Mixes env c d) (after : Manager.Mixes env d e) :
    JobsBound env.site e.store ∧ JobsKept d.store e.store ∧
      (Stocked env.site e.store → ∃ report, e.store.checkCompatibility env.site = .ok report) ∧
      ∀ i m reply error t, m.correlates = true → m.apply env.site e.store = .error error →
        env.step i (.mutate m) e.store reply t → t = e.store := by
  have initially : Correlated env.site c.store := fresh ▸ correlated_empty
  have preserved : ∀ {i : Pid} {op : Op} {s t : Store} {reply : op.Reply},
      Correlated env.site s → Allowed env i op s → env.step i op s reply t →
      Correlated env.site t ∧ JobsKept s t := fun correlated allowed step =>
    correlated.step (stays_of_allowed allowed) step
  have deposited : ∀ {d : Manager} {t : Store}, Correlated env.site d.store → Deposited env d t →
      Correlated env.site t ∧ JobsKept d.store t := by
    rintro d t correlated ⟨i, op, reply, deposit, step⟩
    exact correlated.step (stays_of_deposit deposit) step
  have correlated : Correlated env.site e.store :=
    Config.Mixes.invariant (D := discipline env) (fun _ command => safe_program command)
      (tolerates_deposits env) idle initially
      (fun here allowed step => (preserved here allowed step).1)
      (fun here change => (deposited here change).1) (before.append after)
  refine ⟨correlated.bound, ?_, correlated.legible.checkCompatibility, ?_⟩
  · exact Config.Mixes.related (D := discipline env) (fun _ command => safe_program command)
      (tolerates_deposits env) idle initially preserved deposited JobsKept.refl JobsKept.trans
      before after
  · exact fun i m reply error t checks rejected step => step_of_rejected checks rejected step

end Runs

namespace Exemplar

/-- A cell of a job. -/
def commissioned : CellRecord :=
  intentRecord site "qemu" ⟨image, some "qemu", 1, 1024, some 1, none, false⟩ cellId
    (some ⟨⟨uuid 7⟩, digest, 5⟩)
    ⟨imageSchemaVersion, image, .linux, .x86_64, [], 5⟩
    ⟨"qemu", "qcow2", ⟨"/", ["images", "base.qcow2"]⟩, digest, 1⟩ (uuid 2) (uuid 3) 5

end Exemplar

theorem jobs_stay_bound_when_deposited :
    ∃ (e : Manager) (report : Store.CompatibilityReport),
      Manager.Mixes Exemplar.env (Config.empty Store.empty) e ∧
      e.store.cells.lookup Exemplar.cellId = some Exemplar.commissioned ∧
      JobsBound Exemplar.site e.store ∧ e.store.checkCompatibility Exemplar.site = .ok report ∧
      report.durableStateFormatVersion = 2 := by
  have saves : ∃ t, Store.empty.saveCell Exemplar.site Exemplar.commissioned = .ok t ∧
      t.cells.lookup Exemplar.cellId = some Exemplar.commissioned ∧ t.operations = ∅ := by
    have accepted : (Store.empty.saveCell Exemplar.site Exemplar.commissioned).toOption.isSome =
        true := by decide +kernel
    obtain ⟨t, saved⟩ := Option.isSome_iff_exists.mp accepted
    have written := Exemplar.toOption_some saved
    obtain ⟨_, _, _, rfl⟩ := Store.saveCell_ok written
    exact ⟨_, written, AList.lookup_insert _, rfl⟩
  obtain ⟨t, saved, there, none⟩ := saves
  have mixes : Manager.Mixes Exemplar.env (Config.empty Store.empty)
      { Config.empty Store.empty with store := t } := by
    refine .intrude .refl rfl ⟨0, .mutate (.saveCell Exemplar.commissioned), .ok (), ?_, ?_⟩
    · exact Or.inr rfl
    · exact Or.inl (Or.inl ⟨(), written_ok.mpr saved, rfl⟩)
  obtain ⟨bound, _, total, _⟩ :=
    jobs_stay_bound (Config.empty_idle Store.empty) rfl .refl mixes
  obtain ⟨report, checked⟩ := total (by
    intro id operation found
    rw [show _ = _ from none] at found
    cases found)
  exact ⟨_, report, mixes, there, bound, checked,
    (bound.format report checked).mpr ⟨_, _, there, rfl⟩⟩

end VmCell
