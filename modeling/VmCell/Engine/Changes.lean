import VmCell.Engine.Discipline
import VmCell.State.Facts

/-! What one effect can do to the store, said once for every invariant. -/

set_option autoImplicit false
namespace VmCell

open Interaction

/-- The artifact directory an access works on. -/
def Mutation.artifactKey : Mutation → Option (CellId × GuestOperationId)
  | .prepareArtifactRoot cellId operationId | .writeArtifactFile cellId operationId _ _
  | .saveArtifactNew cellId operationId _ | .removeArtifactRoot cellId operationId =>
      some (cellId, operationId)
  | _ => none

/-- The cell whose runtime directory an effect may change. -/
def Op.runtimeCell : Op → Option CellId
  | .mutate (.prepareCellRuntimeFor cellId _ _) | .mutate (.removeCellRuntime cellId _) =>
      some cellId
  | .provider authority _ => some authority.record.id
  | _ => none

inductive Change (site : Site) (s : Store) : Op → Store → Prop where
  | unchanged {op : Op} : Change site s op s
  | installed {fresh : Uuid} {record : InstallationRecord} :
      s.installation = some record ∨ s.installation = none ∧
        record = ⟨installSchemaVersion, fresh⟩ →
      Change site s (.mutate (.installation fresh)) { s with installation := some record }
  | registered {record : ImageRecord} {t : Store} : s.saveImageNew site record = .ok t →
      Change site s (.mutate (.saveImageNew record)) t
  | unregistered {id : ImageId} :
      Change site s (.mutate (.removeImageRecord id)) { s with images := s.images.erase id }
  | cell {record : CellRecord} {t : Store} : s.saveCell site record = .ok t →
      Change site s (.mutate (.saveCell record)) t
  | operation {record : GuestOperationRecord} {t : Store} :
      s.saveGuestOperation site record = .ok t →
      Change site s (.mutate (.saveGuestOperation record)) t
  | artifact {m : Mutation} {key : CellId × GuestOperationId}
      {artifacts : Directory (CellId × GuestOperationId) ArtifactDirectory} :
      m.artifactKey = some key →
      (∀ other, other ≠ key → artifacts.lookup other = s.artifacts.lookup other) →
      Change site s (.mutate m) { s with artifacts := artifacts }
  | runtime {op : Op} {cellId : CellId} {runtime : Directory CellId RuntimeTree} :
      op.runtimeCell = some cellId →
      (∀ other, other ≠ cellId → runtime.lookup other = s.runtime.lookup other) →
      Change site s op { s with runtime := runtime }
  | copied {authority : GuestActionAuthority} {operationId : GuestOperationId}
      {action : TransportAction} {source : GuestPath} {bytes : Bytes} :
      Change site s (.transport authority operationId action)
        (s.recordCopy operationId source bytes)

section Inversion
variable {site : Site} {s t : Store}

theorem written_ok {result : Except StateError Store} {answer : Unit} :
    written result = .ok (answer, t) ↔ result = .ok t := by
  unfold written
  cases result with
  | error error => simp [Except.map]
  | ok saved => simp [Except.map]

/-- A change of one artifact directory. -/
theorem Change.putArtifact {m : Mutation} {cellId : CellId} {operationId : GuestOperationId}
    {found : ArtifactDirectory} (key : m.artifactKey = some (cellId, operationId)) :
    Change site s (.mutate m) (s.putArtifact cellId operationId found) :=
  .artifact key fun _ other => AList.lookup_insert_ne other

theorem Change.insertRuntime {op : Op} {cellId : CellId} {tree : RuntimeTree}
    (key : op.runtimeCell = some cellId) :
    Change site s op { s with runtime := s.runtime.insert cellId tree } :=
  .runtime key fun _ other => AList.lookup_insert_ne other

theorem writeArtifactFile_ok {cellId : CellId} {operationId : GuestOperationId} {index : Nat}
    {bytes : Bytes} {path : String}
    (wrote : s.writeArtifactFile site cellId operationId index bytes = .ok (path, t)) :
    ∃ found files, s.artifacts.lookup (cellId, operationId) = some found ∧
      found.files = some files ∧ files.lookup (artifactFileName index) = none ∧
      path = hostRelativePath cellId operationId (artifactFileName index) ∧
      t = s.putArtifact cellId operationId
        { found with files := some (files.insert (artifactFileName index) bytes) } := by
  unfold Store.writeArtifactFile at wrote
  split at wrote
  · cases wrote
  · rename_i found directory
    split at wrote
    · cases wrote
    · rename_i files present
      simp only at wrote
      split at wrote
      · cases wrote
      · rename_i vacant
        obtain ⟨rfl, rfl⟩ := Prod.mk.inj (Except.ok.inj wrote)
        exact ⟨found, files, directory, present, vacant, rfl, rfl⟩

theorem saveArtifactNew_ok {cellId : CellId} {operationId : GuestOperationId}
    {record : ArtifactRecord} (saved : s.saveArtifactNew site cellId operationId record = .ok t) :
    ∃ found operation, s.artifacts.lookup (cellId, operationId) = some found ∧
      validateArtifactSchema (Store.manifestPath site cellId operationId) record = .ok () ∧
      record.id = operationId ∧ record.cellId = cellId ∧
      s.loadGuestOperation site operationId = .ok operation ∧
      validateArtifactJobBinding (Store.manifestPath site cellId operationId) operation record =
        .ok () ∧
      Store.validateArtifactFiles site found record = .ok () ∧
      t = s.putArtifact cellId operationId { found with manifest := some record } := by
  obtain ⟨found, opened, rest⟩ := bind_ok.mp saved
  obtain ⟨schema, rest⟩ := bind_unit_ok.mp rest
  obtain ⟨identity, rest⟩ := bind_unit_ok.mp rest
  obtain ⟨operation, loaded, rest⟩ := bind_ok.mp rest
  obtain ⟨_, rest⟩ := bind_unit_ok.mp rest
  obtain ⟨job, rest⟩ := bind_unit_ok.mp rest
  obtain ⟨_, rest⟩ := bind_unit_ok.mp rest
  obtain ⟨files, rest⟩ := bind_unit_ok.mp rest
  obtain ⟨_, same⟩ := bind_unit_ok.mp rest
  have directory : s.artifacts.lookup (cellId, operationId) = some found := by
    unfold Store.openArtifactRoot at opened
    split at opened
    · cases opened
    · rename_i other present
      rw [present, Except.ok.inj opened]
  have bound : record.id = operationId ∧ record.cellId = cellId := by
    unfold Store.ensureArtifactIdentity at identity
    split at identity
    · assumption
    · cases identity
  rw [bound.1] at loaded
  exact ⟨found, operation, directory, schema, bound.1, bound.2, loaded, job, files,
    (Except.ok.inj same).symm⟩

theorem removeCellRuntime_ok {cellId : CellId} {guard : CellRuntimeGuard}
    (removed : s.removeCellRuntime site cellId guard = .ok t) :
    guard.cellId = cellId ∧
      s.openConfiguration site cellId guard.configurationPath = .ok () ∧
      t = { s with runtime := s.runtime.erase cellId } := by
  obtain ⟨bound, rest⟩ := bind_unit_ok.mp removed
  obtain ⟨opened, same⟩ := bind_unit_ok.mp rest
  unfold Store.ensureGuardOf at bound
  split at bound
  · rename_i same'
    exact ⟨same', opened, (Except.ok.inj same).symm⟩
  · cases bound

theorem prepareCellRuntimeFor_ok {cellId : CellId} {configurationPath overlayPath : PathBuf}
    {guard : CellRuntimeGuard}
    (prepared : s.prepareCellRuntimeFor site cellId configurationPath overlayPath =
      .ok (guard, t)) :
    ∃ tree, t = { s with runtime := s.runtime.insert cellId tree } := by
  obtain ⟨_, rest⟩ := bind_unit_ok.mp prepared
  simp only at rest
  split at rest
  · cases rest
  · exact ⟨_, (Prod.mk.inj (Except.ok.inj rest)).2.symm⟩

theorem change_of_apply {m : Mutation} {answer : m.Answer}
    (applied : m.apply site s = .ok (answer, t)) : Change site s (.mutate m) t := by
  cases m with
  | installation fresh =>
      obtain ⟨rfl, kept⟩ := Store.installationWithMutation_ok applied
      exact .installed kept
  | saveImageNew record => exact .registered (written_ok.mp applied)
  | removeImageRecord id =>
      rcases Store.removeImageRecord_ok applied with rfl | rfl
      · exact .unchanged
      · exact .unregistered
  | saveCell record => exact .cell (written_ok.mp applied)
  | saveGuestOperation record => exact .operation (written_ok.mp applied)
  | prepareArtifactRoot cellId operationId =>
      obtain ⟨_, rfl⟩ := Prod.mk.inj (Except.ok.inj applied)
      exact .putArtifact rfl
  | writeArtifactFile cellId operationId index bytes =>
      obtain ⟨_, _, _, _, _, _, rfl⟩ := writeArtifactFile_ok applied
      exact .putArtifact rfl
  | saveArtifactNew cellId operationId record =>
      obtain ⟨_, _, _, _, _, _, _, _, _, rfl⟩ := saveArtifactNew_ok (written_ok.mp applied)
      exact .putArtifact rfl
  | removeArtifactRoot cellId operationId =>
      have removed := Except.ok.inj applied
      unfold Store.removeArtifactRoot at removed
      split at removed
      · obtain ⟨_, rfl⟩ := Prod.mk.inj removed
        exact .unchanged
      · obtain ⟨_, rfl⟩ := Prod.mk.inj removed
        exact .artifact rfl fun _ other => AList.lookup_erase_ne other
  | prepareCellRuntimeFor cellId configurationPath overlayPath =>
      obtain ⟨_, rfl⟩ := prepareCellRuntimeFor_ok applied
      exact .insertRuntime rfl
  | removeCellRuntime cellId guard =>
      obtain ⟨_, _, rfl⟩ := removeCellRuntime_ok (written_ok.mp applied)
      exact .runtime rfl fun _ other => AList.lookup_erase_ne other

theorem change_of_disturbed {m : Mutation} (left : Disturbed site s m t) :
    Change site s (.mutate m) t := by
  cases left with
  | before => exact .unchanged
  | after applied => exact change_of_apply applied
  | artifactRoot => exact .putArtifact rfl
  | artifactFile => exact .putArtifact rfl
  | artifactRemoval => exact .putArtifact rfl
  | runtimeRoot => exact .insertRuntime rfl
  | runtimeRemoval => exact .insertRuntime rfl

/-- Every effect changes the store in one of these ways. -/
theorem step_change {env : Environment} {i : Pid} {op : Op} {reply : op.Reply}
    (step : env.step i op s reply t) : Change env.site s op t := by
  cases op with
  | query q =>
      obtain ⟨rfl, _⟩ := step
      exact .unchanged
  | mutate m =>
      rcases step with (⟨answer, applied, _⟩ | ⟨_, _, _, rfl⟩) | ⟨_, _, left⟩
      · exact change_of_apply applied
      · exact .unchanged
      · exact change_of_disturbed left
  | provider authority action =>
      obtain ⟨runtime, rfl, others⟩ := step
      exact .runtime rfl others
  | transport authority operationId action =>
      obtain rfl : t = afterTransport s operationId action reply := step
      cases action with
      | copyOut source maxBytes timeout =>
          cases reply with
          | ok bytes => exact .copied
          | error error => exact .unchanged
      | probeReady timeout => exact .unchanged
      | exec command => exact .unchanged
      | copyIn destination content overwrite timeout => exact .unchanged
  | observe o =>
      obtain rfl : t = s := step
      exact .unchanged
  | newUuid =>
      obtain ⟨rfl, _⟩ := step
      exact .unchanged

/-- The directory of cells changes by saving one cell only. -/
theorem Change.cells {op : Op} (change : Change site s op t) :
    t.cells = s.cells ∨ ∃ record, op = .mutate (.saveCell record) ∧
      s.saveCell site record = .ok t := by
  cases change with
  | cell saved => exact Or.inr ⟨_, rfl, saved⟩
  | registered saved =>
      obtain ⟨_, _, rfl⟩ := Store.saveImageNew_ok saved
      exact Or.inl rfl
  | operation saved =>
      obtain ⟨_, _, _, rfl⟩ := Store.saveGuestOperation_ok saved
      exact Or.inl rfl
  | unchanged | installed | unregistered | artifact | runtime | copied => exact Or.inl rfl

theorem Change.images {op : Op} (change : Change site s op t) :
    t.images = s.images ∨
      (∃ record, op = .mutate (.saveImageNew record) ∧ s.saveImageNew site record = .ok t) ∨
      ∃ id, op = .mutate (.removeImageRecord id) ∧ t = { s with images := s.images.erase id } := by
  cases change with
  | registered saved => exact Or.inr (Or.inl ⟨_, rfl, saved⟩)
  | unregistered => exact Or.inr (Or.inr ⟨_, rfl, rfl⟩)
  | cell saved =>
      obtain ⟨_, _, _, rfl⟩ := Store.saveCell_ok saved
      exact Or.inl rfl
  | operation saved =>
      obtain ⟨_, _, _, rfl⟩ := Store.saveGuestOperation_ok saved
      exact Or.inl rfl
  | unchanged | installed | artifact | runtime | copied => exact Or.inl rfl

theorem Change.operations {op : Op} (change : Change site s op t) :
    t.operations = s.operations ∨ ∃ record, op = .mutate (.saveGuestOperation record) ∧
      s.saveGuestOperation site record = .ok t := by
  cases change with
  | operation saved => exact Or.inr ⟨_, rfl, saved⟩
  | registered saved =>
      obtain ⟨_, _, rfl⟩ := Store.saveImageNew_ok saved
      exact Or.inl rfl
  | cell saved =>
      obtain ⟨_, _, _, rfl⟩ := Store.saveCell_ok saved
      exact Or.inl rfl
  | unchanged | installed | unregistered | artifact | runtime | copied => exact Or.inl rfl

/-- Artifact directories change by the accesses to them only. -/
theorem Change.artifacts {m : Mutation} (change : Change site s (.mutate m) t)
    (elsewhere : m.artifactKey = none) : t.artifacts = s.artifacts := by
  cases change with
  | artifact key =>
      rw [elsewhere] at key
      cases key
  | registered saved =>
      obtain ⟨_, _, rfl⟩ := Store.saveImageNew_ok saved
      rfl
  | cell saved =>
      obtain ⟨_, _, _, rfl⟩ := Store.saveCell_ok saved
      rfl
  | operation saved =>
      obtain ⟨_, _, _, rfl⟩ := Store.saveGuestOperation_ok saved
      rfl
  | unchanged | installed | unregistered | runtime => rfl

/-- An effect on a runtime directory changes that directory at most. -/
theorem Change.runtimeChanged {op : Op} {cellId : CellId} (change : Change site s op t)
    (key : op.runtimeCell = some cellId) : RuntimeChanged cellId s t := by
  cases change with
  | unchanged => exact ⟨s.runtime, rfl, fun _ _ => rfl⟩
  | runtime same others =>
      rw [key] at same
      obtain rfl := Option.some.inj same
      exact ⟨_, rfl, others⟩
  | @artifact m _ _ same _ => cases m <;> first | cases same; done | cases key
  | installed | registered | unregistered | cell | operation | copied => cases key

end Inversion

section Discipline
variable (env : Environment)

theorem free_unchanged {i : Pid} {op : Op} {s t : Store} {reply : op.Reply} (free : Free op)
    (step : env.step i op s reply t) : t = s := by
  cases op with
  | query q => exact step.1
  | observe o => exact step
  | newUuid => exact step.1
  | mutate m => exact free.elim
  | provider authority action => exact free.elim
  | transport authority operationId action => exact free.elim

/-- A cell appears only through the process that drew its identifier. -/
theorem rely_of_allowed {i j : Pid} {op : Op} {s t : Store} {reply : op.Reply} (other : i ≠ j)
    (allowed : Allowed env i op s) (step : env.step i op s reply t) : Rely env j s t := by
  intro cellId owned absent
  rcases (step_change step).cells with same | ⟨record, rfl, saved⟩
  · rwa [same]
  · obtain ⟨_, _, _, rfl⟩ := Store.saveCell_ok saved
    have different : cellId ≠ record.id := by
      rintro rfl
      rcases allowed with intended | ⟨old, found, _⟩
      · exact other (intended.owned.symm.trans owned)
      · rw [absent] at found
        cases found
    exact (AList.lookup_insert_ne different).trans absent

def discipline : Discipline signature Store where
  effects := env.effects
  free := Free
  allowed := Allowed env
  rely := Rely env
  rely_refl := fun _ _ _ _ absent => absent
  rely_trans := fun _ _ _ _ first second cellId owned absent =>
    second cellId owned (first cellId owned absent)
  free_unchanged := free_unchanged env
  guarantee := rely_of_allowed env

end Discipline

end VmCell
