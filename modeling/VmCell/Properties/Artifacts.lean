import VmCell.Engine.Rehearsal
import VmCell.State.Integrity

/-! What the manager writes it can read back: every record of a state root, and
every artifact until it is pruned. -/

set_option autoImplicit false
namespace VmCell

open Interaction

section Legibility
variable {op : Op} {site : Site} {s t : Store}

theorem legible_of_change (legible : Legible site s) (change : Change site s op t) :
    Legible site t := by
  cases change with
  | unchanged => exact legible
  | installed kept =>
      refine legible.of_same rfl rfl ?_ legible.images
      rintro record ⟨⟩
      rcases kept with kept | ⟨_, rfl⟩
      · exact legible.installation _ kept
      · rfl
  | @registered record _ saved =>
      obtain ⟨_, valid, rfl⟩ := Store.saveImageNew_ok saved
      refine legible.of_same rfl rfl legible.installation ?_
      intro id found lookup
      by_cases same : id = record.id
      · subst same
        obtain rfl := Option.some.inj ((AList.lookup_insert s.images).symm.trans lookup)
        exact valid
      · exact legible.images id found ((AList.lookup_insert_ne same).symm.trans lookup)
  | @unregistered removed =>
      refine legible.of_same rfl rfl legible.installation ?_
      intro id found lookup
      by_cases same : id = removed
      · subst same
        rw [AList.lookup_erase] at lookup
        cases lookup
      · exact legible.images id found ((AList.lookup_erase_ne same).symm.trans lookup)
  | cell saved => exact legible_of_saveCell legible saved
  | operation saved => exact legible_of_saveGuestOperation legible saved
  | artifact | runtime | copied =>
      exact legible.of_same rfl rfl legible.installation legible.images

end Legibility

section Completeness
variable {env : Environment} {i : Pid} {op : Op} {site : Site} {s t : Store}
  {operation : GuestOperationRecord}

/-- Only a committed or completed operation names an artifact. -/
theorem phase_of_artifact (valid : fieldsAreValid operation = true)
    (named : operation.artifactId.isSome = true) :
    operation.phase = .artifactCommitted ∨ operation.phase = .completed := by
  unfold fieldsAreValid at valid
  cases phase : operation.phase <;> rw [phase] at valid <;> simp_all

theorem ArtifactComplete.congr {other : GuestOperationRecord}
    (complete : ArtifactComplete site s operation) (id : other.id = operation.id)
    (cellId : other.cellId = operation.cellId) (jobId : other.jobId = operation.jobId)
    (artifacts : t.artifacts.lookup (operation.cellId, operation.id) =
      s.artifacts.lookup (operation.cellId, operation.id))
    (copied : t.copied operation.id = s.copied operation.id) : ArtifactComplete site t other := by
  unfold ArtifactComplete
  rw [id, cellId, jobId, artifacts, copied]
  exact complete

/-- Every artifact that is named and not pruned is complete. -/
def AllComplete (site : Site) (s : Store) : Prop :=
  ∀ id operation, s.operations.lookup id = some operation → operation.artifactId.isSome = true →
    operation.artifactPrunedAt = none → ArtifactComplete site s operation

/-- An operation that names an artifact is not active. -/
theorem not_active_of_named {id : GuestOperationId} {cellId : CellId} (legible : Legible site s)
    (found : s.operations.lookup id = some operation)
    (named : operation.artifactId.isSome = true) : ¬OperationActive s cellId operation.id := by
  rintro ⟨other, stored, _, phase⟩
  obtain ⟨_, identity, _, fields, _⟩ :=
    validateGuestOperationSchema_ok.mp (legible.operations id operation found).1
  rw [← identity, found] at stored
  obtain rfl := Option.some.inj stored
  have late := phase_of_artifact fields named
  rw [phase] at late
  simp at late

/-- Collection and pruning work on directories that nothing names. -/
theorem unnamed_of_permitted {m : Mutation} {id : GuestOperationId}
    {key : CellId × GuestOperationId} (legible : Legible env.site s)
    (permitted : MutationPermitted env i s m) (touches : m.artifactKey = some key)
    (found : s.operations.lookup id = some operation)
    (named : operation.artifactId.isSome = true) (unpruned : operation.artifactPrunedAt = none) :
    (operation.cellId, operation.id) ≠ key := by
  rintro rfl
  cases m with
  | prepareArtifactRoot cellId operationId =>
      cases touches
      exact not_active_of_named legible found named permitted
  | writeArtifactFile cellId operationId index bytes =>
      cases touches
      exact not_active_of_named legible found named permitted
  | saveArtifactNew cellId operationId record =>
      cases touches
      exact not_active_of_named legible found named permitted
  | removeArtifactRoot cellId operationId =>
      cases touches
      obtain ⟨other, stored, _, pruned⟩ := permitted
      rw [validateGuestOperationSchema_id (legible.operations id operation found).1, found] at stored
      obtain rfl := Option.some.inj stored
      rw [unpruned] at pruned
      cases pruned
  | _ => cases touches

theorem allComplete_of_save {record : GuestOperationRecord} (complete : AllComplete site s)
    (permitted : OperationWrite site s record)
    (saved : s.saveGuestOperation site record = .ok t) : AllComplete site t := by
  obtain ⟨valid, _, _, rfl⟩ := Store.saveGuestOperation_ok saved
  obtain ⟨_, _, _, fields, _⟩ := validateGuestOperationSchema_ok.mp valid
  intro id operation lookup named unpruned
  by_cases same : id = record.id
  · subst same
    obtain rfl := Option.some.inj ((AList.lookup_insert s.operations).symm.trans lookup)
    have late := phase_of_artifact fields named
    rcases permitted with ⟨_, phase, _⟩ | ⟨old, stored, kept, step⟩
    · rw [phase] at late
      simp at late
    · cases step with
      | active _ phase | undecided _ phase | failed _ phase =>
          rw [phase] at late
          simp at late
      | completed _ _ absent =>
          rw [absent] at named
          cases named
      | committed _ _ _ _ done => exact done.congr kept.id kept.cellId kept.jobId rfl rfl
      | finished time phase same =>
          have before : ArtifactComplete site s old :=
            complete _ old stored (by rw [same] at named; exact named)
              (by rw [same] at unpruned; exact unpruned)
          exact before.congr kept.id kept.cellId kept.jobId rfl rfl
      | pruned time _ _ _ same =>
          rw [same] at unpruned
          cases unpruned
  · have before := complete id operation ((AList.lookup_insert_ne same).symm.trans lookup) named
      unpruned
    exact before.congr rfl rfl rfl rfl rfl

theorem allComplete_of_change (legible : Legible env.site s) (complete : AllComplete env.site s)
    (allowed : Allowed env i op s) (change : Change env.site s op t) : AllComplete env.site t := by
  rcases change.operations with same | ⟨record, rfl, saved⟩
  · intro id operation found named unpruned
    rw [same] at found
    have before := complete id operation found named unpruned
    cases change with
    | artifact touches others =>
        refine before.congr rfl rfl rfl (others _ ?_) rfl
        exact unnamed_of_permitted legible allowed touches found named unpruned
    | @copied authority operationId _ _ _ =>
        have different : operation.id ≠ operationId := by
          rintro rfl
          exact not_active_of_named legible found named allowed
        exact before.congr rfl rfl rfl rfl (Function.update_of_ne different _ _)
    | registered saved =>
        obtain ⟨_, _, rfl⟩ := Store.saveImageNew_ok saved
        exact before
    | cell saved =>
        obtain ⟨_, _, _, rfl⟩ := Store.saveCell_ok saved
        exact before
    | operation saved =>
        obtain ⟨_, _, _, rfl⟩ := Store.saveGuestOperation_ok saved
        exact before
    | unchanged | installed | unregistered | runtime => exact before
  · exact allComplete_of_save complete allowed saved

/-- The artifact of an operation reads back as what the transport returned, file
by file and in the order of the requests. -/
def ReadsBack (site : Site) (s : Store) (operation : GuestOperationRecord) : Prop :=
  ∃ directory files artifact,
    s.loadArtifact site operation.cellId operation.id = .ok artifact ∧
    artifact.cellId = operation.cellId ∧ artifact.jobId = operation.jobId ∧
    s.artifacts.lookup (operation.cellId, operation.id) = some directory ∧
    directory.files = some files ∧
    artifact.entries.map (·.guestPath) = (s.copied operation.id).map (·.1.text) ∧
    (∀ index copy, (s.copied operation.id)[index]? = some copy →
      files.lookup (artifactFileName index) = some copy.2) ∧
    ∀ name bytes, files.lookup name = some bytes →
      ∃ index copy, (s.copied operation.id)[index]? = some copy ∧
        name = artifactFileName index ∧ bytes = copy.2

/-- A complete artifact can be loaded. -/
theorem ArtifactComplete.load (complete : ArtifactComplete site s operation)
    (legible : Legible site s) (found : s.operations.lookup operation.id = some operation) :
    ReadsBack site s operation := by
  obtain ⟨directory, files, artifact, present, listed, manifest, id, cellId, jobId, schema, valid,
    paths, contents⟩ := complete
  refine ⟨directory, files, artifact, ?_, cellId, jobId, present, listed, paths, contents, ?_⟩
  · have opened : s.openArtifactRoot site operation.cellId operation.id = .ok directory := by
      unfold Store.openArtifactRoot
      rw [present]
    have read : Store.readManifest site operation.cellId operation.id directory = .ok artifact := by
      unfold Store.readManifest
      rw [manifest]
    have identity : Store.ensureArtifactIdentity site operation.cellId operation.id artifact =
        .ok () := if_pos ⟨id, cellId⟩
    have bound : validateArtifactJobBinding (Store.manifestPath site operation.cellId operation.id)
        operation artifact = .ok () := validateArtifactJobBinding_ok.mpr ⟨cellId, jobId⟩
    unfold Store.loadArtifact
    simp only [opened, read, schema, identity, legible.loadGuestOperation found, bound, valid, bind,
      Except.bind]
    rfl
  · intro name bytes lookup
    have size : artifact.entries.length = (s.copied operation.id).length := by
      simpa using congrArg List.length paths
    obtain ⟨index, inside, rfl⟩ := Store.validateArtifactFiles_names valid listed lookup
    rw [size] at inside
    have fetched : (s.copied operation.id)[index]? = some (s.copied operation.id)[index] :=
      List.getElem?_eq_getElem inside
    refine ⟨index, _, fetched, rfl, ?_⟩
    exact Option.some.inj (lookup.symm.trans (contents index _ fetched))

end Completeness

section Tombstones
variable {env : Environment} {i : Pid} {op : Op} {site : Site} {s t : Store}
  {operation : GuestOperationRecord}

/-- A tombstone stays. -/
def Tombstones (s t : Store) : Prop :=
  ∀ id old, s.operations.lookup id = some old → old.artifactPrunedAt.isSome = true →
    ∃ new, t.operations.lookup id = some new ∧ new.artifactPrunedAt.isSome = true

theorem Tombstones.refl (s : Store) : Tombstones s s := fun _ old found pruned => ⟨old, found, pruned⟩

theorem Tombstones.trans {u : Store} (first : Tombstones s t) (second : Tombstones t u) :
    Tombstones s u := by
  intro id old found pruned
  obtain ⟨middle, there, still⟩ := first id old found pruned
  exact second id middle there still

theorem tombstones_of_change (allowed : Allowed env i op s) (change : Change env.site s op t) :
    Tombstones s t := by
  rcases change.operations with same | ⟨record, rfl, saved⟩
  · intro id old found pruned
    exact ⟨old, by rw [same]; exact found, pruned⟩
  · obtain ⟨_, _, _, rfl⟩ := Store.saveGuestOperation_ok saved
    intro id old found pruned
    by_cases same : id = record.id
    · subst same
      refine ⟨record, AList.lookup_insert _, ?_⟩
      rcases allowed with ⟨absent, _⟩ | ⟨stored, there, _, step⟩
      · rw [absent] at found
        cases found
      · obtain rfl := Option.some.inj (there.symm.trans found)
        cases step with
        | active _ _ kept | undecided _ _ _ kept | failed _ _ kept | completed _ _ _ kept
        | committed _ _ _ kept => rwa [kept]
        | finished time _ same =>
            rw [same]
            exact pruned
        | pruned time _ _ _ same =>
            rw [same]
            rfl
    · exact ⟨old, (AList.lookup_insert_ne same).trans found, pruned⟩

theorem tombstones_respected (env : Environment) {i : Pid} {op : Op} {s t : Store}
    {reply : op.Reply} (allowed : Allowed env i op s) (step : env.step i op s reply t) :
    Tombstones s t := tombstones_of_change allowed (step_change step)

/-- The discipline for readers that rely on tombstones. -/
def pruningDiscipline (env : Environment) : Discipline signature Store :=
  (discipline env).assume Tombstones Tombstones.refl Tombstones.trans (tombstones_respected env)

/-- An inspection that begins after the tombstone was written never succeeds. -/
theorem inspectArtifact_refused {cellId : CellId} {operationId : GuestOperationId}
    (found : s.operations.lookup operationId = some operation)
    (pruned : operation.artifactPrunedAt.isSome = true) :
    Fallible.Outside (pruningDiscipline env) i (fun _ _ => False)
      (inspectArtifact env.site cellId operationId) s := by
  unfold inspectArtifact
  refine Fallible.Outside.bind (Fallible.Outside.effect (D := pruningDiscipline env) trivial ?_)
  rintro t ⟨_, tombstones⟩ reply ⟨_, answered⟩
  obtain ⟨now, there, still⟩ := tombstones operationId operation found pruned
  rcases answered with rfl | ⟨_, fault, _, rfl⟩
  · cases loaded : (Query.loadGuestOperation operationId).eval env.site t with
    | error error => trivial
    | ok read =>
        have stored := (Store.loadGuestOperation_ok loaded).1
        obtain rfl := Option.some.inj (there.symm.trans stored)
        refine Fallible.Outside.bind (Fallible.Outside.lift fun _ _ => ?_)
        refine Fallible.Outside.bind (Fallible.Outside.lift fun _ refused => ?_)
        unfold refusePruned at refused
        rw [if_pos still] at refused
        cases refused
  · trivial

/-- How every reader treats a tombstoned operation. -/
structure Withdrawn (site : Site) (s : Store) (operation : GuestOperationRecord) : Prop where
  pruned : operation.artifactPrunedAt.isSome = true
  compatible : s.compatibleArtifact site operation = .ok none
  reconciled : reconcileLoaded operation =
    pure (recoveryReport operation .alreadyTerminal false)
  bytes : pruneBytes operation =
    query (.artifactRootExists operation.cellId operation.id) >>= fun _ => pure 0

theorem withdrawn_of_pruned (valid : fieldsAreValid operation = true)
    (pruned : operation.artifactPrunedAt.isSome = true) : Withdrawn site s operation where
  pruned := pruned
  compatible := by
    unfold Store.compatibleArtifact
    rw [if_neg]
    rintro ⟨_, unpruned⟩
    rw [Option.isNone_iff_eq_none.mp unpruned] at pruned
    cases pruned
  reconciled := by
    have completed : operation.phase = .completed := by
      unfold fieldsAreValid at valid
      cases phase : operation.phase <;> rw [phase] at valid <;> simp_all
    unfold reconcileLoaded
    rw [completed]
  bytes := by
    unfold pruneBytes isRecovery
    simp only [pruned, if_true]
    rfl

end Tombstones

section Runs
variable {env : Environment} {i : Pid} {op : Op} {s t : Store} {c d : Manager}

/-- What every state root written by the manager satisfies. -/
structure Intact (site : Site) (s : Store) : Prop where
  legible : Legible site s
  complete : AllComplete site s

theorem intact_empty {site : Site} : Intact site Store.empty := by
  refine ⟨legible_empty, fun id operation found => ?_⟩
  cases found

theorem intact_of_change (intact : Intact env.site s) (allowed : Allowed env i op s)
    (change : Change env.site s op t) : Intact env.site t :=
  ⟨legible_of_change intact.legible change,
    allComplete_of_change intact.legible intact.complete allowed change⟩

/-- A reader that starts at a tombstone fails, however it is interleaved. -/
theorem showArtifact_refused {e : Manager} {id : GuestOperationId} {cellId : CellId}
    {operation : GuestOperationRecord} {artifact : ArtifactRecord} (idle : c.Idle)
    (before : Manager.Reaches env c d)
    (found : d.store.operations.lookup id = some operation)
    (pruned : operation.artifactPrunedAt.isSome = true) (vacant : d.procs i = none)
    (stays : Config.Stays env.effects (Programs env.site) i
      (d.set i (some ((Command.showArtifact cellId id).program env.site))) e) :
    e.procs i ≠ some (.done (.manifest (.ok artifact))) := by
  have starts : ∀ program, Programs env.site program → ∀ i s,
      (pruningDiscipline env).Safe i (fun _ _ _ => True) program false s :=
    fun program command i s => .assume (tombstones_respected env) (safe_program command i s)
  have started : Manager.Reaches env c
      (d.set i (some ((Command.showArtifact cellId id).program env.site))) :=
    .control before (.start vacant ⟨.showArtifact cellId id, rfl⟩)
  have unheld : d.holder ≠ some i := by
    intro holds
    obtain ⟨_, attended⟩ := Config.Reaches.sound (D := discipline env)
      (fun _ command => safe_program command) idle before
    obtain ⟨p, running⟩ := attended i holds
    rw [vacant] at running
    cases running
  have promises : (d.set i (some ((Command.showArtifact cellId id).program env.site))).Promises
      (pruningDiscipline env) i (fun response _ => response ≠ .manifest (.ok artifact)) := by
    refine ⟨_, Config.set_procs_self d i _, ?_⟩
    change (pruningDiscipline env).Safe i _ _ (decide (d.holder = some i)) d.store
    rw [decide_eq_false unheld]
    refine Discipline.Safe.bind (Discipline.Safe.weaken (inspectArtifact_refused found pruned) ?_)
    rintro held (error | read) u ⟨_, ends⟩
    · rintro ⟨⟩
    · exact ends.elim
  obtain ⟨q, running, safe⟩ := Config.Stays.promises (D := pruningDiscipline env) starts idle
    (fun _ _ _ _ holds => holds) started stays promises
  intro finished
  obtain rfl := Option.some.inj (running.symm.trans finished)
  exact safe rfl

/-- From an empty state root, at every point of every run: each artifact that is
named and not pruned reads back, the whole root passes the compatibility check,
and an artifact once pruned is never read again. -/
theorem artifacts_endure (idle : c.Idle) (fresh : c.store = Store.empty)
    (before : Manager.Reaches env c d) :
    (∀ id operation, d.store.operations.lookup id = some operation →
      operation.artifactId.isSome = true → operation.artifactPrunedAt = none →
      ReadsBack env.site d.store operation) ∧
    (∃ report, d.store.checkCompatibility env.site = .ok report) ∧
    ∀ id operation, d.store.operations.lookup id = some operation →
      operation.artifactPrunedAt.isSome = true →
      (∀ e, Manager.Reaches env d e → ∃ later, e.store.operations.lookup id = some later ∧
        Withdrawn env.site e.store later) ∧
      ∀ i cellId e artifact, d.procs i = none →
        Config.Stays env.effects (Programs env.site) i
          (d.set i (some ((Command.showArtifact cellId id).program env.site))) e →
        e.procs i ≠ some (.done (.manifest (.ok artifact))) := by
  have sound : ∀ {e : Manager}, Manager.Reaches env c e → Intact env.site e.store := by
    intro e reaches
    exact Manager.invariant idle (fresh ▸ intact_empty) intact_of_change reaches
  have readable : ∀ {e : Manager}, Manager.Reaches env c e → ∀ id operation,
      e.store.operations.lookup id = some operation → operation.artifactId.isSome = true →
      operation.artifactPrunedAt = none → ReadsBack env.site e.store operation := by
    intro e reaches id operation found named unpruned
    obtain ⟨legible, complete⟩ := sound reaches
    refine (complete id operation found named unpruned).load legible ?_
    rwa [validateGuestOperationSchema_id (legible.operations id operation found).1]
  refine ⟨readable before, ?_, ?_⟩
  · refine (sound before).legible.checkCompatibility ?_
    intro id operation found named unpruned
    obtain ⟨_, _, artifact, loaded, cell, job, _⟩ :=
      readable before id operation found (by rw [named]; rfl) unpruned
    exact ⟨artifact, loaded, cell, job⟩
  · intro id operation found pruned
    constructor
    · intro e after
      have tombstones : Tombstones d.store e.store := Manager.related idle
        (show (fun _ : Store => True) c.store from trivial) (fun _ _ _ => trivial)
        Tombstones.refl Tombstones.trans (fun _ => tombstones_of_change) before after
      obtain ⟨later, there, still⟩ := tombstones id operation found pruned
      refine ⟨later, there, withdrawn_of_pruned ?_ still⟩
      have legible := (sound (Config.Reaches.append before after)).legible
      exact (validateGuestOperationSchema_ok.mp (legible.operations id later there).1).2.2.2.1
    · intro i cellId e artifact vacant stays
      exact showArtifact_refused idle before found pruned vacant stays

/-- An operation that has an artifact. -/
def hasArtifact (s : Store) : Bool :=
  (s.operations.lookup ⟨Exemplar.uuid 2⟩).any fun operation =>
    operation.artifactId.isSome && operation.artifactPrunedAt.isNone

theorem artifacts_endure_when_collected :
    ∃ (d : Manager) (operation : GuestOperationRecord),
      Manager.Reaches Exemplar.env (Config.empty Store.empty) d ∧
      d.store.operations.lookup ⟨Exemplar.uuid 2⟩ = some operation ∧
      operation.artifactId.isSome = true ∧ ReadsBack Exemplar.site d.store operation ∧
      ∃ report, d.store.checkCompatibility Exemplar.site = .ok report := by
  obtain ⟨t, reaches, kept⟩ := Exemplar.reaches (Exemplar.running ++ [(Exemplar.collect, 25)])
    hasArtifact (by decide +kernel)
  obtain ⟨operation, found, both⟩ := (Option.any_eq_true _ _).mp kept
  obtain ⟨named, unpruned⟩ := (Bool.and_eq_true _ _).mp both
  obtain ⟨readable, compatible, _⟩ :=
    artifacts_endure (Config.empty_idle Store.empty) rfl reaches
  exact ⟨_, operation, reaches, found, named,
    readable _ operation found named (Option.isNone_iff_eq_none.mp unpruned), compatible⟩

end Runs

end VmCell
