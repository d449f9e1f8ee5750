import VmCell.Engine.Guest
import VmCell.Engine.Sections.Lifecycle

/-! Guest operations keep the discipline: nothing is sent to a guest before the
operation is durably active, and an artifact is committed only when it is
complete. -/

set_option autoImplicit false
namespace VmCell

open Interaction Fallible

section Knowledge
variable {env : Environment} {s t : Store} {operation : GuestOperationRecord} {cellId : CellId}

/-- The operation on disk is the one in memory, and it is active. -/
structure Underway (s : Store) (operation : GuestOperationRecord) (cellId : CellId) : Prop where
  stored : s.operations.lookup operation.id = some operation
  cell : operation.cellId = cellId
  phase : operation.phase = .transportActive

theorem Underway.active (known : Underway s operation cellId) :
    OperationActive s cellId operation.id := ⟨operation, known.stored, known.cell, known.phase⟩

theorem Underway.of_operations (known : Underway s operation cellId)
    (same : t.operations = s.operations) : Underway t operation cellId :=
  ⟨by rw [same]; exact known.stored, known.cell, known.phase⟩

/-- An access to the artifacts leaves the operation alone. -/
theorem Underway.of_change {site : Site} {m : Mutation} {key : CellId × GuestOperationId}
    (known : Underway s operation cellId) (touches : m.artifactKey = some key)
    (change : Change site s (.mutate m) t) : Underway t operation cellId := by
  rcases change.operations with same | ⟨record, same, _⟩
  · exact known.of_operations same
  · cases same
    cases touches

/-- An operation that has not ended, as its section finds it on disk. -/
structure Pending (s : Store) (operation : GuestOperationRecord) : Prop where
  stored : ∃ old, s.operations.lookup operation.id = some old ∧ SameOperation old operation ∧
    (old.phase = .intentRecorded ∨ old.phase = .transportActive) ∧
    (operation.phase = .intentRecorded → old.phase = .intentRecorded) ∧
    operation.artifactPrunedAt = old.artifactPrunedAt
  phase : operation.phase = .intentRecorded ∨ operation.phase = .transportActive

theorem Underway.pending (known : Underway s operation cellId) : Pending s operation where
  stored := by
    refine ⟨operation, known.stored, ⟨rfl, rfl, rfl, rfl, rfl, rfl⟩, Or.inr known.phase, ?_, rfl⟩
    rw [known.phase]
    exact fun same => by cases same
  phase := Or.inr known.phase

end Knowledge

section Running
variable {env : Environment} {i : Pid} {s : Store} {provider : String} {transport : GuestTransport}
  {rounds : Nat} {A : Type}

/-- What an operation knows once its intent is durable. -/
structure Admitted (s : Store) (cellId : CellId) (admitted : AdmittedOperation) : Prop where
  stored : s.operations.lookup admitted.operation.id = some admitted.operation
  cell : admitted.operation.cellId = cellId
  record : admitted.cell.id = cellId
  phase : admitted.operation.phase = .intentRecorded
  copied : s.copied admitted.operation.id = []

theorem within_admitGuestOperation {dispatch : GuestOperationDispatch}
    {good : AdmittedOperation → Store → Prop} {bad : EngineError → Store → Prop}
    (ok : ∀ admitted t, Admitted t dispatch.cellId admitted → good admitted t)
    (error : ∀ e t, bad e t) :
    Within (env.effects i) (Allowed env i) good bad
      (admitGuestOperation env.site provider transport dispatch) s := by
  unfold admitGuestOperation
  refine Within.bind (within_query trivial (fun record loaded => ?_) fun _ => error _ _)
  refine Within.bind (Within.lift (fun _ _ => ?_) fun _ _ => error _ _)
  refine Within.bind (Within.lift (fun _ _ => ?_) fun _ _ => error _ _)
  refine Within.bind (within_query trivial (fun operations listed => ?_) fun _ => error _ _)
  refine Within.bind (Within.lift (fun _ closed => ?_) fun _ _ => error _ _)
  refine Within.bind (Within.lift (fun guestOs _ => ?_) fun _ _ => error _ _)
  refine Within.bind (Within.lift (fun _ _ => ?_) fun _ _ => error _ _)
  refine Within.bind (within_exactOwnedVm (fun expected _ _ _ _ => ?_) fun _ => error _ _)
  refine Within.bind (Within.lift (fun _ _ => ?_) fun _ _ => error _ _)
  refine Within.bind (within_now trivial fun time => ?_)
  refine Within.bind (within_newUuid trivial fun id _ unused => ?_)
  have quiescent : Quiescent s dispatch.cellId := by
    refine (quiescent_of_listed listed).mp ?_
    simpa using require_ok.mp closed
  refine Within.bind (within_mutate (Or.inl ⟨unused.operation, rfl, quiescent⟩)
    (fun _ t saved => ?_) fun _ _ _ => error _ _)
  obtain ⟨_, _, _, rfl⟩ := Store.saveGuestOperation_ok (written_ok.mp saved)
  exact Within.pure (ok _ _ ⟨AList.lookup_insert _, rfl, Store.loadCell_id loaded, rfl,
    unused.copied⟩)

theorem within_authorizeGuestOperation {admitted : AdmittedOperation}
    {good : GuestActionAuthority → Store → Prop} {bad : EngineError → Store → Prop}
    (ok : ∀ authority, authority.record = admitted.cell → good authority s)
    (error : ∀ e, bad e s) :
    Within (env.effects i) (Allowed env i) good bad
      (authorizeGuestOperation env.site provider admitted) s := by
  unfold authorizeGuestOperation
  refine Within.bind (within_query trivial (fun installation _ => ?_) fun _ => error _)
  refine Within.bind (within_validateLocalOwnershipAgainst (fun _ => ?_) error)
  refine Within.bind (within_query trivial (fun runtime _ => ?_) fun _ => error _)
  refine Within.lift (fun authority authorized => ok authority ?_) fun _ _ => error _
  unfold GuestActionAuthority.new at authorized
  split at authorized
  · cases authorized
  · split at authorized
    · obtain rfl := Except.ok.inj authorized
      rfl
    · cases authorized

theorem within_pollGuestReady {authority : GuestActionAuthority}
    {operationId : GuestOperationId} {policy : ReadinessPolicy} {deadline : Nat}
    {last : GuestReadiness} {good : Unit → Store → Prop} {bad : EngineError → Store → Prop}
    (active : OperationActive s authority.record.id operationId) (ok : good () s)
    (error : ∀ e, bad e s) :
    Within (env.effects i) (Allowed env i) good bad
      (pollGuestReady authority operationId policy deadline rounds last) s := by
  induction rounds generalizing last with
  | zero => exact Within.hang
  | succ rounds ih =>
      refine Within.bind (within_observe trivial fun (instant : Nat) => ?_)
      refine Within.ite (fun _ => Within.fail (error _)) fun _ => ?_
      refine Within.bind (within_transport active (fun (status : GuestReadiness) => ?_)
        fun _ => error _)
      have again : Within (env.effects i) (Allowed env i) good bad (do
          let instant : Nat ← observe .instant
          observe (.sleep (min policy.pollInterval (deadline - instant)))
          pollGuestReady authority operationId policy deadline rounds status) s :=
        Within.bind (within_observe trivial fun _ => Within.bind (within_observe trivial fun _ => ih))
      cases status with
      | ready => exact Within.pure ok
      | authenticationFailed => exact Within.fail (error _)
      | guestNotReady => exact again
      | sessionFailed => exact again

theorem within_waitForGuestReady {authority : GuestActionAuthority}
    {operationId : GuestOperationId} {policy : ReadinessPolicy} {good : Unit → Store → Prop}
    {bad : EngineError → Store → Prop}
    (active : OperationActive s authority.record.id operationId) (ok : good () s)
    (error : ∀ e, bad e s) :
    Within (env.effects i) (Allowed env i) good bad
      (waitForGuestReady rounds authority operationId policy) s := by
  unfold waitForGuestReady
  refine Within.bind (Within.lift (fun _ _ => ?_) fun _ _ => error _)
  exact Within.bind (within_observe trivial fun _ => within_pollGuestReady active ok error)

/-- What an action leaves behind: the operation still active, and the artifact
it reports complete. -/
def ActionKeeps (env : Environment) (i : Pid) (cellId : CellId) (action : GuestAction A) : Prop :=
  ∀ (s : Store) (authority : GuestActionAuthority) (operation : GuestOperationRecord),
    Underway s operation cellId → authority.record.id = cellId → s.copied operation.id = [] →
    Within (env.effects i) (Allowed env i)
      (fun result t => Underway t operation cellId ∧ (result.2.artifactId = none ∨
        result.2.artifactId = some operation.id ∧ ArtifactComplete env.site t operation))
      (fun _ t => Underway t operation cellId) (action authority operation.id) s

/-- What the closure of an operation leaves to be settled. -/
def Executed (site : Site) (cellId : CellId) (execution : Execution A) (s : Store) : Prop :=
  match execution.result with
  | .error _ => Pending s execution.operation
  | .ok result => Underway s execution.operation cellId ∧ (result.2.artifactId = none ∨
      result.2.artifactId = some execution.operation.id ∧
        ArtifactComplete site s execution.operation)

theorem within_executeGuestOperation {admitted : AdmittedOperation} {cellId : CellId}
    {readiness : ReadinessPolicy} {action : GuestAction A} {good : Execution A → Store → Prop}
    {bad : EngineError → Store → Prop} (keeps : ActionKeeps env i cellId action)
    (known : Admitted s cellId admitted)
    (ok : ∀ execution t, Executed env.site cellId execution t → good execution t) :
    Within (env.effects i) (Allowed env i) good bad
      (executeGuestOperation env.site provider rounds readiness admitted action) s := by
  unfold executeGuestOperation
  refine Within.bind (Within.attempt (within_authorizeGuestOperation (fun authority bound => ?_)
    fun e => ?_))
  · refine Within.bind (within_now trivial fun time => ?_)
    have permitted : OperationWrite env.site s (activatedOperation admitted.operation time) :=
      Or.inr ⟨admitted.operation, known.stored, ⟨rfl, rfl, rfl, rfl, rfl, rfl⟩,
        .active (Or.inl known.phase) rfl rfl⟩
    have identity : authority.record.id = cellId := by rw [bound]; exact known.record
    refine Within.bind (Within.attempt (Within.bind (within_mutate permitted (fun _ t saved => ?_)
      fun e t left => ?_)))
    · obtain ⟨_, _, _, same⟩ := Store.saveGuestOperation_ok (written_ok.mp saved)
      have underway : Underway t (activatedOperation admitted.operation time) cellId :=
        ⟨by rw [same]; exact AList.lookup_insert _, known.cell, rfl⟩
      have fresh : t.copied admitted.operation.id = [] := by rw [same]; exact known.copied
      refine within_waitForGuestReady (by rw [identity]; exact underway.active) ?_
        fun e => Within.pure (ok _ _ underway.pending)
      refine Within.bind (Within.attempt ((keeps _ authority _ underway identity fresh).weaken
        (fun result t done => ?_) fun e t still => ?_))
      · exact Within.pure (ok _ t done)
      · exact Within.pure (ok _ t still.pending)
    · refine Within.pure (ok _ t ⟨?_, Or.inr rfl⟩)
      rcases disturbed_saveGuestOperation left with rfl | saved
      · exact ⟨admitted.operation, known.stored, ⟨rfl, rfl, rfl, rfl, rfl, rfl⟩,
          Or.inl known.phase, fun same => (by cases same), rfl⟩
      · obtain ⟨_, _, _, rfl⟩ := Store.saveGuestOperation_ok saved
        exact ⟨_, AList.lookup_insert _, ⟨rfl, rfl, rfl, rfl, rfl, rfl⟩, Or.inr rfl,
          fun same => (by cases same), rfl⟩
  · refine Within.pure (ok _ s ⟨?_, Or.inl known.phase⟩)
    exact ⟨admitted.operation, known.stored, ⟨rfl, rfl, rfl, rfl, rfl, rfl⟩, Or.inl known.phase,
      fun _ => known.phase, rfl⟩

theorem within_finishGuestOperation {operation : GuestOperationRecord} {value : A}
    (permitted : OperationWrite env.site s
      { operation with completedAt := some operation.updatedAt }) :
    Within (env.effects i) (Allowed env i) (fun _ _ => True) (fun _ _ => True)
      (finishGuestOperation operation value) s :=
  Within.bind (within_mutate permitted (fun _ _ _ => Within.pure trivial) fun _ _ _ => trivial)

theorem within_completeGuestOperation {operation : GuestOperationRecord} {cellId : CellId}
    {value : A} {completion : GuestCompletion} (known : Underway s operation cellId)
    (artifact : completion.artifactId = none ∨
      completion.artifactId = some operation.id ∧ ArtifactComplete env.site s operation) :
    Within (env.effects i) (Allowed env i) (fun _ _ => True) (fun _ _ => True)
      (completeGuestOperation operation value completion) s := by
  unfold completeGuestOperation
  refine Within.bind (within_now trivial fun time => ?_)
  obtain ⟨exitCode, stdoutBytes, stderrBytes, artifactId⟩ := completion
  rcases artifact with absent | ⟨present, complete⟩
  · obtain rfl : artifactId = none := absent
    exact within_finishGuestOperation (Or.inr ⟨operation, known.stored,
      ⟨rfl, rfl, rfl, rfl, rfl, rfl⟩, .completed known.phase rfl rfl rfl⟩)
  · obtain rfl : artifactId = some operation.id := present
    refine Within.bind (within_mutate (Or.inr ⟨operation, known.stored,
      ⟨rfl, rfl, rfl, rfl, rfl, rfl⟩, .committed known.phase rfl rfl rfl complete⟩)
      (fun _ t saved => ?_) fun _ _ _ => trivial)
    obtain ⟨_, _, _, rfl⟩ := Store.saveGuestOperation_ok (written_ok.mp saved)
    refine Within.bind (within_now trivial fun later => ?_)
    exact within_finishGuestOperation (Or.inr ⟨_, AList.lookup_insert _,
      ⟨rfl, rfl, rfl, rfl, rfl, rfl⟩, .finished later rfl rfl⟩)

/-- Whatever the error, recording it is one step from what is on disk. -/
theorem Pending.fail {operation : GuestOperationRecord} {error : EngineError} {time : DateTime}
    (known : Pending s operation) :
    OperationWrite env.site s (failedOperation operation error time) := by
  obtain ⟨old, stored, same, before, early, pruned⟩ := known.stored
  refine Or.inr ⟨old, stored, ⟨same.schemaVersion, same.id, same.cellId, same.kind, same.createdAt,
    same.jobId⟩, ?_⟩
  by_cases terminal : (guestFailureClass error).2 = true
  · exact .failed before (if_pos terminal) pruned
  · have kept : (failedOperation operation error time).phase = operation.phase := if_neg terminal
    rcases known.phase with intent | active
    · exact .undecided (early intent) (kept.trans intent) rfl pruned
    · exact .active before (kept.trans active) pruned

theorem within_settleGuestOperation {execution : Execution A} {cellId : CellId}
    (known : Executed env.site cellId execution s) :
    Within (env.effects i) (Allowed env i) (fun _ _ => True) (fun _ _ => True)
      (settleGuestOperation execution) s := by
  unfold settleGuestOperation
  unfold Executed at known
  split
  · rename_i value completion result
    rw [result] at known
    exact within_completeGuestOperation known.1 known.2
  · rename_i error result
    rw [result] at known
    refine Within.bind (within_now trivial fun time => ?_)
    exact Within.bind (within_mutate (Pending.fail known) (fun _ _ _ => Within.fail trivial)
      fun _ _ _ => trivial)

theorem within_runGuestOperationLocked {dispatch : GuestOperationDispatch} {action : GuestAction A}
    (keeps : ActionKeeps env i dispatch.cellId action) :
    Within (env.effects i) (Allowed env i) (fun _ _ => True) (fun _ _ => True)
      (runGuestOperationLocked env.site provider transport rounds dispatch action) s := by
  unfold runGuestOperationLocked
  refine Within.bind (Within.attempt (within_admitGuestOperation (fun admitted t known => ?_)
    fun _ _ => Within.pure trivial))
  refine Within.bind (within_executeGuestOperation keeps known fun execution u executed => ?_)
  refine Within.bind (Within.attempt ((within_settleGuestOperation executed).weaken
    (fun _ _ _ => ?_) fun _ _ _ => ?_))
  · exact Within.pure trivial
  · exact Within.pure trivial

end Running

section Actions
variable {env : Environment} {i : Pid} {cellId : CellId}

theorem execAction_keeps {command : GuestCommand} {onReady : Engine Unit}
    (ready : Passive (I := signature) Free onReady) :
    ActionKeeps env i cellId (execAction cellId command onReady) := by
  intro s authority operation known bound _
  unfold execAction
  refine Within.bind (within_passive ready (fun _ free => free.allowed) (fun _ => ?_)
    fun _ => known)
  have active : OperationActive s authority.record.id operation.id := by
    rw [bound]
    exact known.active
  refine Within.bind (within_transport active (fun result => ?_) fun _ => known)
  refine Within.bind (Within.lift (fun _ _ => ?_) fun _ _ => known)
  exact Within.pure ⟨known, Or.inl rfl⟩

theorem copyInAction_keeps {request : GuestCopyInRequest} {content : Bytes} :
    ActionKeeps env i cellId (copyInAction request content) := by
  intro s authority operation known bound _
  unfold copyInAction
  have active : OperationActive s authority.record.id operation.id := by
    rw [bound]
    exact known.active
  exact Within.bind (within_transport active (fun _ => Within.pure ⟨known, Or.inl rfl⟩)
    fun _ => known)

/-- What a collection knows between two files: each one fetched so far lies
under its index. -/
structure Collecting (s : Store) (operation : GuestOperationRecord) (cellId : CellId) : Prop where
  underway : Underway s operation cellId
  files : ∃ found files, s.artifacts.lookup (cellId, operation.id) = some found ∧
    found.files = some files ∧ ∀ index copy, (s.copied operation.id)[index]? = some copy →
      files.lookup (artifactFileName index) = some copy.2

theorem recordCopy_copied (s : Store) (id : GuestOperationId) (source : GuestPath)
    (bytes : Bytes) : (s.recordCopy id source bytes).copied id = s.copied id ++ [(source, bytes)] :=
  Function.update_self _ _ _

/-- One file: it is written beside the earlier ones and described by its entry. -/
theorem within_collectArtifact {request : ArtifactCollectRequest}
    {authority : GuestActionAuthority} {operation : GuestOperationRecord} {source : GuestPath}
    {s : Store} {good : ArtifactEntry → Store → Prop}
    (known : Collecting s operation request.cellId) (bound : authority.record.id = request.cellId)
    (ok : ∀ entry t bytes, Collecting t operation request.cellId →
      t.copied operation.id = s.copied operation.id ++ [(source, bytes)] →
      entry.guestPath = source.text → good entry t) :
    Within (env.effects i) (Allowed env i) good (fun _ t => Underway t operation request.cellId)
      (collectArtifact env.site request authority operation.id (s.copied operation.id).length
        source) s := by
  unfold collectArtifact
  have active : OperationActive s authority.record.id operation.id := by
    rw [bound]
    exact known.underway.active
  refine Within.bind (within_transport active (fun (bytes : Bytes) => ?_) fun _ => known.underway)
  have underway : Underway (s.recordCopy operation.id source bytes) operation request.cellId :=
    known.underway.of_operations rfl
  refine Within.bind (Within.lift (fun _ _ => ?_) fun _ _ => underway)
  refine Within.bind (within_mutate underway.active (fun path t applied => ?_)
    fun _ t left => underway.of_change rfl (change_of_disturbed left))
  have kept := underway.of_change rfl (change_of_apply applied)
  obtain ⟨found, files, directory, present, vacant, _, rfl⟩ := writeArtifactFile_ok applied
  obtain ⟨found', files', directory', present', earlier⟩ := known.files
  obtain rfl : found' = found := Option.some.inj (directory'.symm.trans directory)
  obtain rfl : files' = files := Option.some.inj (present'.symm.trans present)
  refine Within.pure (ok _ _ bytes ⟨kept, _, _, AList.lookup_insert _, rfl, ?_⟩
    (recordCopy_copied s operation.id source bytes) rfl)
  intro index copy fetched
  have fetched : (s.copied operation.id ++ [(source, bytes)])[index]? = some copy := by
    rw [← recordCopy_copied]
    exact fetched
  rcases lt_or_ge index (s.copied operation.id).length with before | after
  · rw [List.getElem?_append_left before] at fetched
    have there := earlier index copy fetched
    rw [AList.lookup_insert_ne]
    · exact there
    · intro same
      rw [same, vacant] at there
      cases there
  · rw [List.getElem?_append_right after] at fetched
    obtain ⟨last, rfl⟩ : index - (s.copied operation.id).length = 0 ∧ (source, bytes) = copy := by
      cases step : index - (s.copied operation.id).length with
      | zero => exact ⟨rfl, by simpa [step] using fetched⟩
      | succ n => simp [step] at fetched
    have same : index = (s.copied operation.id).length := by omega
    rw [same]
    exact AList.lookup_insert _

theorem within_collectArtifactsFrom {request : ArtifactCollectRequest}
    {authority : GuestActionAuthority} {operation : GuestOperationRecord}
    {sources : List GuestPath} {s : Store} {good : List ArtifactEntry → Store → Prop}
    (known : Collecting s operation request.cellId) (bound : authority.record.id = request.cellId)
    (ok : ∀ entries t copies, Collecting t operation request.cellId →
      t.copied operation.id = s.copied operation.id ++ copies →
      entries.map (·.guestPath) = copies.map (·.1.text) → copies.map (·.1) = sources →
      good entries t) :
    Within (env.effects i) (Allowed env i) good (fun _ t => Underway t operation request.cellId)
      (collectArtifactsFrom env.site request authority operation.id (s.copied operation.id).length
        sources) s := by
  induction sources generalizing s good with
  | nil => exact Within.pure (ok [] s [] known (by simp) rfl rfl)
  | cons source rest ih =>
      refine Within.bind (within_collectArtifact known bound fun entry t bytes known copied path => ?_)
      have next : (s.copied operation.id).length + 1 = (t.copied operation.id).length := by
        rw [copied, List.length_append]
        rfl
      rw [next]
      refine Within.bind (ih known fun entries u copies known more paths order => ?_)
      refine Within.pure (ok _ u ((source, bytes) :: copies) known ?_ ?_ ?_)
      · rw [more, copied, List.append_assoc]
        rfl
      · rw [List.map_cons, List.map_cons, paths, path]
      · rw [List.map_cons, order]

theorem prepareArtifactRoot_files {s : Store} {cellId : CellId} {operationId : GuestOperationId} :
    ∃ found files, (s.prepareArtifactRoot cellId operationId).artifacts.lookup
      (cellId, operationId) = some found ∧ found.files = some files :=
  ⟨_, _, AList.lookup_insert _, rfl⟩

theorem collectAction_keeps {request : ArtifactCollectRequest} {jobId : Option JobId} :
    ActionKeeps env i request.cellId (collectAction env.site request jobId) := by
  intro s authority operation known bound fresh
  unfold collectAction
  refine Within.bind (within_mutate known.active (fun _ t applied => ?_)
    fun _ t left => known.of_change rfl (change_of_disturbed left))
  have kept := known.of_change rfl (change_of_apply applied)
  obtain ⟨_, rfl⟩ := Prod.mk.inj (Except.ok.inj applied)
  have empty : (s.prepareArtifactRoot request.cellId operation.id).copied operation.id = [] := fresh
  have collecting : Collecting (s.prepareArtifactRoot request.cellId operation.id) operation
      request.cellId := by
    obtain ⟨found, files, directory, present⟩ := prepareArtifactRoot_files
    refine ⟨kept, found, files, directory, present, ?_⟩
    intro index copy fetched
    rw [empty] at fetched
    cases fetched
  have start : 0 = ((s.prepareArtifactRoot request.cellId operation.id).copied
      operation.id).length := by rw [empty]; rfl
  rw [start]
  refine Within.bind (within_collectArtifactsFrom collecting bound
    fun entries u copies collecting copied paths _ => ?_)
  rw [empty, List.nil_append] at copied
  refine Within.bind (within_now trivial fun time => ?_)
  refine Within.bind (within_mutate collecting.underway.active (fun _ v saved => ?_)
    fun _ v left => collecting.underway.of_change rfl (change_of_disturbed left))
  have done := collecting.underway.of_change rfl (change_of_apply saved)
  refine Within.pure ⟨done, Or.inr ⟨rfl, ?_⟩⟩
  obtain ⟨found, loaded, directory, schema, _, _, load, job, valid, rfl⟩ :=
    saveArtifactNew_ok (written_ok.mp saved)
  obtain ⟨found', files, directory', present, earlier⟩ := collecting.files
  obtain rfl : found' = found := Option.some.inj (directory'.symm.trans directory)
  obtain rfl : loaded = operation :=
    Option.some.inj ((Store.loadGuestOperation_ok load).1.symm.trans collecting.underway.stored)
  have cell := collecting.underway.cell
  have correlated : jobId = loaded.jobId := (validateArtifactJobBinding_ok.mp job).2
  unfold ArtifactComplete
  rw [cell]
  refine ⟨_, files, _, AList.lookup_insert _, present, rfl, rfl, rfl, correlated, schema, valid, ?_,
    earlier⟩
  rw [← copied] at paths
  exact paths

end Actions

end VmCell
