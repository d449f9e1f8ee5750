import VmCell.Engine.Guest
import VmCell.Engine.World
import VmCell.Properties.Pruning

/-! Which guest operations the manager tries to write, and whether the store takes
them. -/

set_option autoImplicit false
namespace VmCell

open Interaction Fallible

section Records
variable {site : Site} {id : GuestOperationId} {old new : GuestOperationRecord} {time : DateTime}
  {error : EngineError}

/-- What an operation never changes need not be checked again. -/
theorem revalidate (valid : validateGuestOperationSchema site id old = .ok ())
    (version : new.schemaVersion = old.schemaVersion) (identity : new.id = old.id)
    (job : new.jobId = old.jobId) (fields : fieldsAreValid new = true)
    (times : timesAreValid new = true) : validateGuestOperationSchema site id new = .ok () := by
  obtain ⟨known, own, correlated, _⟩ := validateGuestOperationSchema_ok.mp valid
  refine validateGuestOperationSchema_ok.mpr ⟨?_, ?_, ?_, fields, times⟩
  · rw [version]
    exact known
  · rw [identity]
    exact own
  · rw [version, job]
    exact correlated

/-- An operation whose outcome is open. -/
structure Undecided (operation : GuestOperationRecord) : Prop where
  completedAt : operation.completedAt = none
  artifactId : operation.artifactId = none
  artifactPrunedAt : operation.artifactPrunedAt = none
  plain : operation.withoutResult = true
  created : operation.createdAt ≤ operation.updatedAt

theorem undecided_of_valid (valid : validateGuestOperationSchema site id old = .ok ())
    (phase : old.phase = .intentRecorded ∨ old.phase = .transportActive) : Undecided old := by
  obtain ⟨_, _, _, fields, times⟩ := validateGuestOperationSchema_ok.mp valid
  have created : old.createdAt ≤ old.updatedAt := by
    unfold timesAreValid at times
    simp only [Bool.and_eq_true, decide_eq_true_eq] at times
    exact times.1.1
  unfold fieldsAreValid at fields
  rcases phase with phase | phase
  · simp only [phase, Bool.and_eq_true, Option.isNone_iff_eq_none] at fields
    obtain ⟨⟨⟨⟨completedAt, _⟩, artifactId⟩, pruned⟩, plain⟩ := fields
    exact ⟨completedAt, artifactId, pruned, plain, created⟩
  · simp only [phase, Bool.and_eq_true, Option.isNone_iff_eq_none] at fields
    obtain ⟨⟨⟨completedAt, artifactId⟩, pruned⟩, plain⟩ := fields
    exact ⟨completedAt, artifactId, pruned, plain, created⟩

/-- The times of an operation that has not ended. -/
theorem timesAreValid_open (completedAt : new.completedAt = none)
    (pruned : new.artifactPrunedAt = none) (created : new.createdAt ≤ new.updatedAt) :
    timesAreValid new = true := by
  unfold timesAreValid
  simp only [completedAt, pruned, Option.all_none, Bool.and_true, decide_eq_true_eq]
  exact created

/-- The times of an operation that ends now. -/
theorem timesAreValid_ended (completedAt : new.completedAt = some new.updatedAt)
    (pruned : new.artifactPrunedAt = none) (created : new.createdAt ≤ new.updatedAt) :
    timesAreValid new = true := by
  unfold timesAreValid
  simp only [completedAt, pruned, Option.all_some, Bool.and_eq_true, decide_eq_true_eq,
    beq_self_eq_true, and_true]
  exact ⟨created, created⟩

theorem fieldsAreValid_active (phase : new.phase = .transportActive)
    (completedAt : new.completedAt = none) (artifactId : new.artifactId = none)
    (pruned : new.artifactPrunedAt = none) (plain : new.withoutResult = true) :
    fieldsAreValid new = true := by
  unfold fieldsAreValid
  simp only [phase, completedAt, artifactId, pruned, plain]
  rfl

theorem fieldsAreValid_failed {failure : GuestFailureClass} (phase : new.phase = .failed)
    (completedAt : new.completedAt.isSome = true) (failed : new.failure = some failure)
    (named : failure ≠ .unknown) (artifactId : new.artifactId = none)
    (pruned : new.artifactPrunedAt = none) (plain : new.withoutResult = true) :
    fieldsAreValid new = true := by
  unfold fieldsAreValid
  simp only [phase, completedAt, failed, artifactId, pruned, plain, Option.any_some,
    decide_eq_true named]
  rfl

theorem fieldsAreValid_committed (phase : new.phase = .artifactCommitted)
    (completedAt : new.completedAt = none) (failure : new.failure = none)
    (artifactId : new.artifactId = some new.id) (kind : new.kind.collectsArtifact = true)
    (pruned : new.artifactPrunedAt = none) (plain : new.withoutResult = true) :
    fieldsAreValid new = true := by
  unfold fieldsAreValid
  simp only [phase, completedAt, failure, artifactId, kind, pruned, plain, beq_self_eq_true]
  rfl

theorem fieldsAreValid_completed (phase : new.phase = .completed)
    (completedAt : new.completedAt.isSome = true) (failure : new.failure = none)
    (artifact : new.artifactId = none ∨
      new.artifactId = some new.id ∧ new.kind.collectsArtifact = true)
    (pruned : new.artifactPrunedAt = none) : fieldsAreValid new = true := by
  unfold fieldsAreValid
  rcases artifact with absent | ⟨own, kind⟩
  · simp only [phase, completedAt, failure, absent, pruned]
    rfl
  · simp only [phase, completedAt, failure, own, kind, pruned, Option.all_some, beq_self_eq_true]
    rfl

theorem intent_valid {cellId : CellId} {kind : GuestOperationKind} {jobId : Option JobId} :
    validateGuestOperationSchema site id
      (GuestOperationRecord.intentWithJob id cellId kind time jobId) = .ok () := by
  refine validateGuestOperationSchema_ok.mpr ⟨?_, rfl, ?_, rfl, ?_⟩
  · cases jobId <;> simp [GuestOperationRecord.intentWithJob,
      GuestOperationRecord.schemaVersionForJob]
  · cases jobId <;> rfl
  · exact timesAreValid_open rfl rfl (le_refl time)

theorem activatedOperation_valid (valid : validateGuestOperationSchema site id old = .ok ())
    (phase : old.phase = .intentRecorded) (later : old.updatedAt ≤ time) :
    validateGuestOperationSchema site id (activatedOperation old time) = .ok () := by
  obtain ⟨completedAt, artifactId, pruned, plain, created⟩ := undecided_of_valid valid (Or.inl phase)
  exact revalidate valid rfl rfl rfl (fieldsAreValid_active rfl completedAt artifactId pruned plain)
    (timesAreValid_open completedAt pruned (created.trans later))

/-- A failure is recorded as such when it is final, or when the transport was active. -/
theorem failedOperation_valid (valid : validateGuestOperationSchema site id old = .ok ())
    (phase : old.phase = .intentRecorded ∧ (guestFailureClass error).2 = true ∨
      old.phase = .transportActive) (later : old.updatedAt ≤ time) :
    validateGuestOperationSchema site id (failedOperation old error time) = .ok () := by
  obtain ⟨completedAt, artifactId, pruned, plain, created⟩ :=
    undecided_of_valid valid (phase.imp And.left fun active => active)
  by_cases final : (guestFailureClass error).2 = true
  · have ended : (failedOperation old error time).completedAt = some time := if_pos final
    refine revalidate valid rfl rfl rfl ?_ (timesAreValid_ended ended pruned (created.trans later))
    exact fieldsAreValid_failed (if_pos final) (by rw [ended]; rfl) rfl
      (guestFailureClass_terminal_ne_unknown final) artifactId pruned plain
  · have active := phase.resolve_left fun both => final both.2
    have still : (failedOperation old error time).completedAt = none :=
      (if_neg final).trans completedAt
    refine revalidate valid rfl rfl rfl ?_ (timesAreValid_open still pruned (created.trans later))
    exact fieldsAreValid_active ((if_neg final).trans active) still artifactId pruned plain

/-- A failure that is not final has no place before the transport is active. -/
theorem failedOperation_invalid (phase : old.phase = .intentRecorded)
    (undecided : (guestFailureClass error).2 = false) :
    validateGuestOperationSchema site id (failedOperation old error time) ≠ .ok () := by
  intro valid
  obtain ⟨_, _, _, fields, _⟩ := validateGuestOperationSchema_ok.mp valid
  have kept : (failedOperation old error time).phase = .intentRecorded := by
    unfold failedOperation
    simp only [undecided, Bool.false_eq_true, if_false]
    exact phase
  unfold fieldsAreValid at fields
  rw [kept] at fields
  simp [failedOperation] at fields

theorem interruptedOperation_valid (valid : validateGuestOperationSchema site id old = .ok ())
    (phase : old.phase = .intentRecorded) (later : old.updatedAt ≤ time) :
    validateGuestOperationSchema site id (interruptedOperation old time) = .ok () := by
  obtain ⟨_, artifactId, pruned, plain, created⟩ := undecided_of_valid valid (Or.inl phase)
  refine revalidate valid rfl rfl rfl ?_ (timesAreValid_ended rfl pruned (created.trans later))
  exact fieldsAreValid_failed rfl rfl rfl (by decide) artifactId pruned plain

/-- What a committed artifact operation carries. -/
structure CommittedFields (operation : GuestOperationRecord) : Prop where
  failure : operation.failure = none
  artifactId : operation.artifactId = some operation.id
  kind : operation.kind.collectsArtifact = true
  artifactPrunedAt : operation.artifactPrunedAt = none
  created : operation.createdAt ≤ operation.updatedAt

theorem committed_of_valid (valid : validateGuestOperationSchema site id old = .ok ())
    (phase : old.phase = .artifactCommitted) : CommittedFields old := by
  obtain ⟨_, _, _, fields, times⟩ := validateGuestOperationSchema_ok.mp valid
  unfold fieldsAreValid at fields
  simp only [phase, Bool.and_eq_true, Option.isNone_iff_eq_none, beq_iff_eq] at fields
  obtain ⟨⟨⟨⟨⟨_, failure⟩, artifactId⟩, kind⟩, pruned⟩, _⟩ := fields
  unfold timesAreValid at times
  simp only [Bool.and_eq_true, decide_eq_true_eq] at times
  exact ⟨failure, artifactId, kind, pruned, times.1.1⟩

theorem recoveredOperation_valid (valid : validateGuestOperationSchema site id old = .ok ())
    (phase : old.phase = .artifactCommitted) (later : old.updatedAt ≤ time) :
    validateGuestOperationSchema site id (recoveredOperation old time) = .ok () := by
  obtain ⟨failure, artifactId, kind, pruned, created⟩ := committed_of_valid valid phase
  refine revalidate valid rfl rfl rfl ?_ (timesAreValid_ended rfl pruned (created.trans later))
  exact fieldsAreValid_completed rfl rfl failure (Or.inr ⟨artifactId, kind⟩) pruned

end Records

section Frames
variable {P : Type} {host : Host P} {site : Site} {w t u : World P}

/-- An effect that leaves the records alone. -/
def Calm : Op → Prop
  | .mutate m => m.artifactKey.isSome = true
  | _ => True

theorem Free.calm {op : Op} (free : Free op) : Calm op := by
  cases op with
  | mutate m => exact free.elim
  | _ => trivial

theorem Calm.storable {op : Op} (calm : Calm op) : Storable site op w := by
  rintro record rfl
  cases calm

/-- Time may have passed, and artifacts may have been fetched and written. -/
structure Undisturbed (w t : World P) : Prop where
  store : ∃ artifacts copied, t.store = { w.store with artifacts := artifacts, copied := copied }
  clock : w.clock ≤ t.clock

theorem Undisturbed.refl (w : World P) : Undisturbed w w := ⟨⟨_, _, rfl⟩, le_refl _⟩

theorem Undisturbed.trans (first : Undisturbed w t) (second : Undisturbed t u) :
    Undisturbed w u := by
  obtain ⟨artifacts, copied, same⟩ := first.store
  obtain ⟨others, copies, equal⟩ := second.store
  exact ⟨⟨others, copies, by rw [equal, same]⟩, first.clock.trans second.clock⟩

theorem undisturbed_mutation {m : Mutation} (calm : m.artifactKey.isSome = true) :
    Undisturbed w (Host.mutation site m w).2 := by
  unfold Host.mutation
  cases applied : m.apply site w.store with
  | error failure => exact .refl w
  | ok result =>
      refine ⟨?_, le_refl _⟩
      have change := change_of_apply applied
      change ∃ artifacts copied, result.2 = _
      generalize result.2 = next at change
      generalize op_eq : Op.mutate m = op at change
      cases change with
      | unchanged => exact ⟨_, _, rfl⟩
      | artifact => exact ⟨_, _, rfl⟩
      | runtime key =>
          cases op_eq
          cases m with
          | prepareCellRuntimeFor | removeCellRuntime => cases calm
          | _ => cases key
      | copied => cases op_eq
      | installed | registered | unregistered | cell | operation =>
          cases op_eq
          cases calm

theorem Calm.undisturbed {op : Op} (calm : Calm op) :
    Undisturbed w ((host.handler site) op w).2 := by
  cases op with
  | query q => exact .refl w
  | mutate m => exact undisturbed_mutation calm
  | provider authority action => exact ⟨⟨_, _, rfl⟩, le_refl _⟩
  | transport authority operationId action =>
      refine ⟨?_, le_refl _⟩
      change ∃ artifacts copied, afterTransport w.store operationId action _ = _
      unfold afterTransport
      split
      · exact ⟨_, _, rfl⟩
      · exact ⟨_, _, rfl⟩
  | observe o =>
      cases o with
      | now => exact ⟨⟨_, _, rfl⟩, Int.le_add_of_nonneg_right (Int.natCast_nonneg _)⟩
      | _ => exact ⟨⟨_, _, rfl⟩, le_refl _⟩
  | newUuid => exact ⟨⟨_, _, rfl⟩, le_refl _⟩

/-- Code that leaves the records alone may run in the middle of an operation. -/
theorem within_calm {A : Type} {p : Engine A} {known good : A → World P → Prop}
    {bad : EngineError → World P → Prop}
    (calm : Within (host.handler site).effects (fun op _ => Calm op) known (fun _ _ => True) p w)
    (ok : ∀ a t, known a t → Undisturbed w t → good a t)
    (error : ∀ e t, Undisturbed w t → bad e t) :
    Within (host.handler site).effects (Storable site) good bad p w := by
  have always := calm.always (show Undisturbed w w from .refl w) ?_
  · refine (always.permit fun op t allowed => allowed.1.storable).weaken ?_ ?_
    · exact fun a t ends => ok a t ends.1 ends.2
    · exact fun e t ends => error e t ends.2
  · rintro op s reply t before calm answered
    obtain ⟨_, rfl⟩ := Prod.mk.inj answered
    exact before.trans calm.undisturbed

end Frames

section Writing
variable {P : Type} {host : Host P} {site : Site} {w t : World P}
  {operation new : GuestOperationRecord}

/-- An operation in progress: what the code has in memory is what is on disk. -/
structure Ongoing (site : Site) (w : World P) (operation : GuestOperationRecord) : Prop where
  legible : Legible site w.store
  stored : w.store.operations.lookup operation.id = some operation
  dated : operation.updatedAt ≤ w.clock

theorem Ongoing.valid (ongoing : Ongoing site w operation) :
    validateGuestOperationSchema site operation.id operation = .ok () :=
  (ongoing.legible.operations _ operation ongoing.stored).1

theorem Ongoing.undisturbed (ongoing : Ongoing site w operation) (after : Undisturbed w t) :
    Ongoing site t operation := by
  obtain ⟨artifacts, copied, same⟩ := after.store
  refine ⟨?_, by rw [same]; exact ongoing.stored, ongoing.dated.trans after.clock⟩
  rw [same]
  exact ongoing.legible.of_same rfl rfl ongoing.legible.installation ongoing.legible.images

/-- Reading the clock. -/
theorem Ongoing.later {time : DateTime} (ongoing : Ongoing site w operation)
    (later : w.clock ≤ time) : Ongoing site { w with clock := time } operation :=
  ongoing.undisturbed ⟨⟨_, _, rfl⟩, later⟩

/-- The world after an operation has been written. -/
def World.wrote (w : World P) (record : GuestOperationRecord) : World P :=
  { w with store := { w.store with operations := w.store.operations.insert record.id record } }

/-- The next record of an operation is taken by the store. -/
theorem meets_save {good : Unit → World P → Prop} {bad : EngineError → World P → Prop}
    (ongoing : Ongoing site w operation) (identity : new.id = operation.id)
    (cell : new.cellId = operation.cellId) (job : new.jobId = operation.jobId)
    (valid : validateGuestOperationSchema site new.id new = .ok ()) (dated : new.updatedAt ≤ w.clock)
    (ok : Ongoing site (w.wrote new) new → good () (w.wrote new)) :
    Meets (host.handler site) (Storable site) good bad (mutate (.saveGuestOperation new)) w := by
  have found : w.store.operations.lookup new.id = some operation := identity ▸ ongoing.stored
  have saved := Store.saveGuestOperation_again ongoing.legible found cell job valid
  refine meets_mutate (storable_save valid dated) (fun answer s applied => ?_) fun _ failed => ?_
  · obtain rfl := Except.ok.inj (saved.symm.trans (written_ok.mp applied))
    exact ok ⟨legible_of_saveGuestOperation ongoing.legible saved, AList.lookup_insert _, dated⟩
  · change written (w.store.saveGuestOperation site new) = _ at failed
    rw [saved] at failed
    cases failed

end Writing

section Admission
variable {P : Type} {host : Host P} {site : Site} {provider : String} {transport : GuestTransport}
  {dispatch : GuestOperationDispatch} {w t : World P} {record : CellRecord} {vm : ProviderVm}

/-- What has to hold for an operation on the cell to begin. -/
structure Admissible (host : Host P) (site : Site) (provider : String) (transport : GuestTransport)
    (dispatch : GuestOperationDispatch) (w : World P) (record : CellRecord) (vm : ProviderVm) :
    Prop where
  loaded : w.store.loadCell site dispatch.cellId = .ok record
  running : record.state = .running
  ready : record.phase = .ready
  quiescent : Quiescent w.store dispatch.cellId
  supported : ∃ guestOs, record.image.guestOs = some guestOs ∧
    transport.supports record.provider guestOs = true
  owned : Owned site provider w record
  present : Presents host w record vm
  proven : proveOwnership site.platform record vm = .ok ()
  powered : vm.powerState = .running
  job : ∀ jobId, dispatch.jobId = some jobId → record.job.map (·.jobId) = some jobId

/-- What is known of an operation once its intent is durable. -/
structure Begun (host : Host P) (site : Site) (provider : String) (transport : GuestTransport)
    (dispatch : GuestOperationDispatch) (w : World P) (admitted : AdmittedOperation) (t : World P) :
    Prop where
  admissible : Admissible host site provider transport dispatch w admitted.cell admitted.expected
  ongoing : Ongoing site t admitted.operation
  phase : admitted.operation.phase = .intentRecorded
  failure : admitted.operation.failure = none
  kind : admitted.operation.kind = dispatch.kind
  store : ∃ operations, t.store = { w.store with operations := operations }

theorem meets_exactOwnedVm {good : ProviderVm → World P → Prop} {bad : EngineError → World P → Prop}
    {allowed : Op → World P → Prop} (reading : ∀ q, allowed (.query q) w)
    (seeing : ∀ lookup, allowed (.observe (.inspectVm lookup)) w) (live : record.state ≠ .destroyed)
    (ok : ∀ vm p, Owned site provider w record → Presents host w record vm →
      proveOwnership site.platform record vm = .ok () → good vm { w with hidden := p })
    (error : (∀ vm, Owned site provider w record → Presents host w record vm →
      proveOwnership site.platform record vm ≠ .ok ()) → ∀ e t, bad e t) :
    Meets (host.handler site) allowed good bad (exactOwnedVm site provider record) w := by
  refine Meets.bind (Meets.lift (fun _ _ => ?_) fun _ failed => ?_)
  · refine Meets.bind (Meets.bind (meets_query (reading _) (fun installation read => ?_)
      fun _ failed => ?_))
    · refine Meets.lift (fun _ valid => ?_) fun _ failed => ?_
      · have owned : Owned site provider w record :=
          ⟨installation, read, validateLocalOwnershipRecord_ok.mp valid⟩
        cases recorded : record.providerObject with
        | none =>
            refine Meets.bind (Meets.lift (fun identity found => ?_) fun _ _ => error ?_ _ _)
            · unfold recordedIdentity at found
              rw [recorded] at found
              cases found
            · rintro vm _ ⟨identity, _, object, _⟩
              cases recorded.symm.trans object
        | some identity =>
            refine Meets.bind (Meets.lift (fun known found => ?_) fun _ failed => ?_)
            · unfold recordedIdentity at found
              rw [recorded] at found
              obtain rfl := Except.ok.inj found
              refine Meets.bind (meets_inspectVm (seeing _) (fun answer p inspected => ?_)
                fun _ p inspected => error ?_ _ _)
              · cases answer with
                | none =>
                    refine Meets.bind (Meets.lift (fun _ absent => by cases absent)
                      fun _ _ => error ?_ _ _)
                    rintro vm _ ⟨other, _, object, seen⟩
                    obtain rfl := Option.some.inj (recorded.symm.trans object)
                    cases inspected.symm.trans seen
                | some vm =>
                    have present : Presents host w record vm := ⟨_, p, recorded, inspected⟩
                    refine Meets.bind (Meets.lift (fun vm found => ?_) fun _ failed => by cases failed)
                    obtain rfl := Except.ok.inj found
                    refine Meets.bind (Meets.lift (fun _ proof => ?_) fun _ failed => error ?_ _ _)
                    · exact Meets.pure (ok vm p owned present proof)
                    · rintro other _ ⟨_, _, object, seen⟩ proof
                      obtain rfl := Option.some.inj (recorded.symm.trans object)
                      obtain ⟨⟨rfl⟩, _⟩ := Prod.mk.inj (inspected.symm.trans seen)
                      cases proof.symm.trans failed
              · rintro vm _ ⟨other, _, object, seen⟩
                obtain rfl := Option.some.inj (recorded.symm.trans object)
                cases inspected.symm.trans seen
            · unfold recordedIdentity at failed
              rw [recorded] at failed
              cases failed
      · refine error ?_ _ _
        rintro vm ⟨other, again, owned⟩
        obtain rfl := Except.ok.inj (read.symm.trans again)
        cases (validateLocalOwnershipRecord_ok.mpr owned).symm.trans failed
    · refine error ?_ _ _
      rintro vm ⟨other, again, _⟩
      cases again.symm.trans failed
  · cases (require_ok.mpr (decide_eq_true live)).symm.trans failed

/-- An operation begins exactly when it is admissible, provided that its identifier
is new. -/
theorem meets_admitGuestOperation {good : AdmittedOperation → World P → Prop}
    {bad : EngineError → World P → Prop} (legible : Legible site w.store)
    (unused : ∀ p, w.store.operations.lookup ⟨(host.draw p).1⟩ = none)
    (ok : ∀ admitted t, Begun host site provider transport dispatch w admitted t → good admitted t)
    (error : (∀ record vm, ¬Admissible host site provider transport dispatch w record vm) →
      ∀ e t, bad e t) :
    Meets (host.handler site) (Storable site) good bad
      (admitGuestOperation site provider transport dispatch) w := by
  refine Meets.bind (meets_query storable_query (fun record loaded => ?_) fun _ failed => ?_)
  case refine_2 =>
    refine error (fun other vm admissible => ?_) _ _
    cases admissible.loaded.symm.trans failed
  have refuse : (∀ vm, ¬Admissible host site provider transport dispatch w record vm) →
      ∀ e t, bad e t := by
    refine fun none => error fun other vm admissible => none vm ?_
    rwa [Except.ok.inj (loaded.symm.trans admissible.loaded)]
  refine Meets.bind (meets_require (fun running => ?_) fun other => refuse (fun vm admissible => ?_) _ _)
  case refine_2 => simp [admissible.running] at other
  have running : record.state = .running := by simpa using running
  refine Meets.bind (meets_require (fun ready => ?_) fun other => refuse (fun vm admissible => ?_) _ _)
  case refine_2 => simp [admissible.ready] at other
  have ready : record.phase = .ready := by simpa using ready
  refine Meets.bind (meets_query storable_query (fun operations listed => ?_) fun _ failed => ?_)
  case refine_2 =>
    obtain ⟨records, readable⟩ := legible.listGuestOperations
    cases readable.symm.trans failed
  refine Meets.bind (meets_require (fun closed => ?_) fun other => refuse (fun vm admissible => ?_) _ _)
  case refine_2 => simp [(quiescent_of_listed listed).mpr admissible.quiescent] at other
  have quiescent : Quiescent w.store dispatch.cellId :=
    (quiescent_of_listed listed).mp (by simpa using closed)
  cases system : record.image.guestOs with
  | none =>
      refine Meets.bind (Meets.lift (fun _ found => ?_) fun _ _ => refuse (fun vm admissible => ?_) _ _)
      · unfold requireGuestOs at found
        rw [system] at found
        cases found
      · obtain ⟨guestOs, known, _⟩ := admissible.supported
        cases system.symm.trans known
  | some guestOs =>
      refine Meets.bind (Meets.lift (fun known found => ?_) fun _ failed => ?_)
      case refine_2 =>
        unfold requireGuestOs at failed
        rw [system] at failed
        cases failed
      unfold requireGuestOs at found
      rw [system] at found
      obtain rfl := Except.ok.inj found
      refine Meets.bind (meets_require (fun supports => ?_)
        fun other => refuse (fun vm admissible => ?_) _ _)
      case refine_2 =>
        obtain ⟨known, same, supports⟩ := admissible.supported
        obtain rfl := Option.some.inj (system.symm.trans same)
        rw [supports] at other
        cases other
      refine Meets.bind (meets_exactOwnedVm (fun _ => storable_query) (fun _ => storable_observe) ?_
        (fun vm p owned present proof => ?_) fun unproven => refuse fun vm admissible => ?_)
      · rw [running]
        decide
      · refine Meets.bind (meets_require (fun powered => ?_)
          fun other => refuse (fun seen admissible => ?_) _ _)
        · refine Meets.bind (meets_now storable_observe fun time later => ?_)
          refine Meets.bind (meets_newUuid (fun _ same => nomatch same) fun id q drawn => ?_)
          have absent := unused p
          rw [drawn] at absent
          refine Meets.bind (meets_mutate (storable_save intent_valid (le_refl time))
            (fun _ s applied => ?_) fun _ failed => refuse (fun seen admissible => ?_) _ _)
          · have saved := written_ok.mp applied
            obtain ⟨_, _, parent, rfl⟩ := Store.saveGuestOperation_ok saved
            obtain ⟨cell, read, bound⟩ := Store.requireGuestOperationParentForMutation_ok parent
            obtain rfl := Except.ok.inj (loaded.symm.trans read)
            refine Meets.pure (ok _ _ ⟨⟨loaded, running, ready, quiescent, ⟨_, system, supports⟩,
              owned, present, proof, of_decide_eq_true powered, validateOperationJobBinding_ok.mp bound⟩,
              ⟨legible_of_saveGuestOperation legible saved, AList.lookup_insert _, le_refl time⟩,
              rfl, rfl, rfl, _, rfl⟩)
          · have saved : w.store.saveGuestOperation site (GuestOperationRecord.intentWithJob ⟨id⟩
                dispatch.cellId dispatch.kind time dispatch.jobId) = _ :=
              Store.saveGuestOperation_fresh intent_valid absent loaded admissible.job
            change written (w.store.saveGuestOperation site _) = _ at failed
            rw [saved] at failed
            cases failed
        · rw [← present.unique admissible.present, admissible.powered] at other
          simp at other
      · exact unproven vm admissible.owned admissible.present admissible.proven

end Admission

section Execution
variable {P : Type} {host : Host P} {site : Site} {provider : String} {transport : GuestTransport}
  {dispatch : GuestOperationDispatch} {w t : World P} {admitted : AdmittedOperation} {A : Type}
  {rounds : Nat}

/-- The runtime directory of the cell can be pinned. -/
def Pinned (site : Site) (s : Store) (record : CellRecord) : Prop :=
  ∃ guard, s.pinCellRuntimeFor site record.id record.ownership.configurationPath
    record.ownership.overlayPath = .ok guard

theorem pinned_of_isOk {s : Store} {record : CellRecord}
    (pins : (s.pinCellRuntimeFor site record.id record.ownership.configurationPath
      record.ownership.overlayPath).isOk = true) : Pinned site s record := by
  unfold Pinned
  cases pinned : s.pinCellRuntimeFor site record.id record.ownership.configurationPath
      record.ownership.overlayPath with
  | ok guard => exact ⟨guard, rfl⟩
  | error e =>
      rw [pinned] at pins
      cases pins

/-- Authorisation fails for good, or the runtime directory cannot be pinned. -/
theorem meets_authorizeGuestOperation {good : GuestActionAuthority → World P → Prop}
    {bad : EngineError → World P → Prop}
    (begun : Begun host site provider transport dispatch w admitted t)
    (ok : ∀ authority, Pinned site w.store admitted.cell → good authority t)
    (final : ∀ e, Pinned site w.store admitted.cell → (guestFailureClass e).2 = true → bad e t)
    (unpinned : ∀ e, ¬Pinned site w.store admitted.cell → (guestFailureClass e).2 = false →
      bad e t) :
    Meets (host.handler site) (Storable site) good bad
      (authorizeGuestOperation site provider admitted) t := by
  obtain ⟨operations, same⟩ := begun.store
  obtain ⟨installation, installed, owned⟩ := begun.admissible.owned
  refine Meets.bind (meets_query storable_query (fun read again => ?_) fun _ failed => ?_)
  · rw [same] at again
    obtain rfl := Except.ok.inj (installed.symm.trans again)
    refine Meets.bind (Meets.lift (fun _ _ => ?_) fun _ failed => ?_)
    · refine Meets.bind (meets_query storable_query (fun runtime pinned => ?_) fun _ failed => ?_)
      · rw [same] at pinned
        have known : Pinned site w.store admitted.cell := ⟨runtime, pinned⟩
        refine Meets.lift (fun authority _ => ok authority known) fun e failed => final e known ?_
        unfold GuestActionAuthority.new at failed
        split at failed
        · obtain rfl := Except.error.inj failed
          rfl
        · split at failed
          · cases failed
          · obtain rfl := Except.error.inj failed
            rfl
      · rw [same] at failed
        refine unpinned _ ?_ rfl
        rintro ⟨guard, pinned⟩
        cases pinned.symm.trans failed
    · cases (validateLocalOwnershipRecord_ok.mpr owned).symm.trans failed
  · rw [same] at failed
    cases installed.symm.trans failed

/-- A completion that the store has a record for. -/
def GuestCompletion.Fits (kind : GuestOperationKind) (id : GuestOperationId)
    (completion : GuestCompletion) : Prop :=
  completion.artifactId = .none ∨
    completion = ⟨.none, .none, .none, some id⟩ ∧ kind.collectsArtifact = true

/-- An action that leaves the records alone and reports a completion that fits. -/
def ActionFits (host : Host P) (site : Site) (kind : GuestOperationKind) (action : GuestAction A) :
    Prop :=
  ∀ authority id (w : World P), Within (host.handler site).effects (fun op _ => Calm op)
    (fun result _ => result.2.Fits kind id) (fun _ _ => True) (action authority id) w

/-- What an execution leaves to be settled. -/
structure Executable (site : Site) (kind : GuestOperationKind) (execution : Execution A)
    (w : World P) : Prop where
  ongoing : Ongoing site w execution.operation
  asked : execution.operation.kind = kind
  failure : execution.operation.failure = none
  error : ∀ e, execution.result = .error e →
    execution.operation.phase = .intentRecorded ∧ (guestFailureClass e).2 = true ∨
      execution.operation.phase = .transportActive
  ok : ∀ value completion, execution.result = .ok (value, completion) →
    execution.operation.phase = .transportActive ∧ completion.Fits kind execution.operation.id

theorem calm_pollGuestReady {authority : GuestActionAuthority} {operationId : GuestOperationId}
    {policy : ReadinessPolicy} {deadline : Nat} {last : GuestReadiness} :
    Passive (I := signature) Calm
      (pollGuestReady authority operationId policy deadline rounds last) := by
  induction rounds generalizing last with
  | zero => trivial
  | succ rounds ih =>
      refine Passive.bind (.effect trivial) fun instant => Passive.ite .fail ?_
      refine Passive.bind (.effect trivial) fun status => ?_
      cases status with
      | ready => exact .pure
      | authenticationFailed => exact .fail
      | guestNotReady | sessionFailed =>
          exact Passive.bind (.effect trivial) fun _ => Passive.bind (.effect trivial) fun _ => ih

theorem calm_waitForGuestReady {authority : GuestActionAuthority} {operationId : GuestOperationId}
    {policy : ReadinessPolicy} :
    Passive (I := signature) Calm (waitForGuestReady rounds authority operationId policy) :=
  Passive.bind .lift fun _ => Passive.bind (.effect trivial) fun _ => calm_pollGuestReady

/-- Every execution can be settled when the runtime directory can be pinned. -/
theorem within_executeGuestOperation_storable {readiness : ReadinessPolicy} {action : GuestAction A}
    {good : Execution A → World P → Prop} {bad : EngineError → World P → Prop}
    (fits : ActionFits host site dispatch.kind action)
    (begun : Begun host site provider transport dispatch w admitted t)
    (pinned : Pinned site w.store admitted.cell)
    (ok : ∀ execution u, execution.operation.id = admitted.operation.id →
      Executable site dispatch.kind execution u → good execution u) :
    Within (host.handler site).effects (Storable site) good bad
      (executeGuestOperation site provider rounds readiness admitted action) t := by
  refine Within.bind (Within.attempt (Does.held (meets_authorizeGuestOperation begun
    (fun authority _ => ?_) (fun e _ final => ?_) fun e unpinned _ => absurd pinned unpinned)))
  · refine Within.bind (Does.held (meets_now storable_observe fun time later => ?_))
    have started := begun.ongoing.later later
    have dated := begun.ongoing.dated.trans later
    refine Within.bind (Within.attempt (Within.bind (Does.held (meets_save started rfl rfl rfl
      (activatedOperation_valid begun.ongoing.valid begun.phase dated) (le_refl time)
      fun active => ?_))))
    refine within_calm calm_waitForGuestReady.permits (fun _ u _ after => ?_) fun e u after => ?_
    · refine Within.bind (Within.attempt (within_calm (fits authority _ u)
        (fun result v known later => ?_) fun e v later => ?_))
      · refine Within.pure (ok _ v rfl ⟨(active.undisturbed after).undisturbed later, begun.kind,
          begun.failure, fun _ failed => (by cases failed), fun value completion same => ?_⟩)
        obtain rfl := Except.ok.inj same
        exact ⟨rfl, known⟩
      · refine Within.pure (ok _ v rfl ⟨(active.undisturbed after).undisturbed later, begun.kind,
          begun.failure, fun _ _ => Or.inr rfl, fun _ _ same => (by cases same)⟩)
    · exact Within.pure (ok _ u rfl ⟨active.undisturbed after, begun.kind, begun.failure,
        fun _ _ => Or.inr rfl, fun _ _ same => by cases same⟩)
  · refine Within.pure (ok _ t rfl ⟨begun.ongoing, begun.kind, begun.failure, fun error same => ?_,
      fun _ _ same => by cases same⟩)
    obtain rfl := Except.error.inj same
    exact Or.inl ⟨begun.phase, final⟩

end Execution

section Settlement
variable {P : Type} {host : Host P} {site : Site} {w : World P} {A : Type}
  {kind : GuestOperationKind} {operation : GuestOperationRecord} {bad : EngineError → World P → Prop}

theorem meets_finishGuestOperation {old : GuestOperationRecord} {value : A}
    {good : A → World P → Prop} (ongoing : Ongoing site w old) (identity : operation.id = old.id)
    (cell : operation.cellId = old.cellId) (job : operation.jobId = old.jobId)
    (valid : validateGuestOperationSchema site operation.id
      { operation with completedAt := some operation.updatedAt } = .ok ())
    (dated : operation.updatedAt ≤ w.clock) (ok : ∀ t, good value t) :
    Meets (host.handler site) (Storable site) good bad (finishGuestOperation operation value) w :=
  Meets.bind (meets_save ongoing identity cell job valid dated fun _ => Meets.pure (ok _))

theorem meets_completeGuestOperation {value : A} {completion : GuestCompletion}
    {good : A → World P → Prop} (ongoing : Ongoing site w operation)
    (active : operation.phase = .transportActive) (failure : operation.failure = none)
    (fits : completion.Fits operation.kind operation.id) (ok : ∀ t, good value t) :
    Meets (host.handler site) (Storable site) good bad
      (completeGuestOperation operation value completion) w := by
  obtain ⟨completedAt, _, pruned, plain, created⟩ :=
    undecided_of_valid ongoing.valid (Or.inr active)
  refine Meets.bind (meets_now storable_observe fun time later => ?_)
  have dated := created.trans (ongoing.dated.trans later)
  obtain ⟨exitCode, stdoutBytes, stderrBytes, artifactId⟩ := completion
  rcases fits with absent | ⟨same, collects⟩
  · obtain rfl : artifactId = none := absent
    refine meets_finishGuestOperation (ongoing.later later) rfl rfl rfl ?_ (le_refl time) ok
    exact revalidate ongoing.valid rfl rfl rfl
      (fieldsAreValid_completed rfl rfl failure (Or.inl rfl) pruned)
      (timesAreValid_ended rfl pruned dated)
  · obtain ⟨rfl, rfl, rfl, rfl⟩ := GuestCompletion.mk.inj same
    -- the artifact is committed first, and completed at a later reading of the clock
    refine Meets.bind (meets_save (ongoing.later later) rfl rfl rfl ?_ (le_refl time)
      fun committed => ?_)
    · exact revalidate ongoing.valid rfl rfl rfl
        (fieldsAreValid_committed rfl completedAt failure rfl collects pruned rfl)
        (timesAreValid_open completedAt pruned dated)
    · refine Meets.bind (meets_now storable_observe fun last after => ?_)
      refine meets_finishGuestOperation (committed.later after) rfl rfl rfl ?_ (le_refl last) ok
      exact revalidate ongoing.valid rfl rfl rfl
        (fieldsAreValid_completed rfl rfl failure (Or.inr ⟨rfl, collects⟩) pruned)
        (timesAreValid_ended rfl pruned (dated.trans after))

/-- The failure of an operation is durable. -/
def Durable (w : World P) (id : GuestOperationId) (error : EngineError) : Prop :=
  ∃ operation, w.store.operations.lookup id = some operation ∧
    operation.failure = some (guestFailureClass error).1

/-- An execution that failed ends with its error, which is durable. -/
theorem meets_settleGuestOperation {execution : Execution A}
    (ready : Executable site kind execution w) :
    Meets (host.handler site) (Storable site)
      (fun _ _ => ∀ error, execution.result ≠ .error error)
      (fun e t => ∀ error, execution.result = .error error →
        e = error ∧ Durable t execution.operation.id error)
      (settleGuestOperation execution) w := by
  unfold settleGuestOperation
  cases result : execution.result with
  | ok done =>
      obtain ⟨value, completion⟩ := done
      obtain ⟨active, fits⟩ := ready.ok value completion result
      rw [← ready.asked] at fits
      refine meets_completeGuestOperation ready.ongoing active ready.failure fits ?_
      exact fun _ _ same => by cases same
  | error error =>
      refine Meets.bind (meets_now storable_observe fun time later => ?_)
      have dated := ready.ongoing.dated.trans later
      refine Meets.bind (meets_save (ready.ongoing.later later) rfl rfl rfl
        (failedOperation_valid ready.ongoing.valid (ready.error error result) dated) (le_refl time)
        fun saved => Meets.fail ?_)
      rintro other ⟨⟩
      exact ⟨rfl, _, saved.stored, rfl⟩

end Settlement

section Actions
variable {P : Type} {host : Host P} {site : Site}

/-- Whatever such code returns, the rest decides. -/
theorem within_after_calm {A B : Type} {p : Engine A} {f : A → Engine B} {w : World P}
    {good : B → World P → Prop} (calm : Passive (I := signature) Calm p)
    (rest : ∀ a t, Within (host.handler site).effects (fun op _ => Calm op) good (fun _ _ => True)
      (f a) t) :
    Within (host.handler site).effects (fun op _ => Calm op) good (fun _ _ => True)
      (p >>= f : Engine B) w :=
  Within.bind (calm.permits.weaken (fun a t _ => rest a t) fun _ _ _ => trivial)

theorem calm_of_free {A : Type} {p : Proc signature A} (passive : Passive (I := signature) Free p) :
    Passive (I := signature) Calm p := by
  induction p with
  | done a => trivial
  | halt => trivial
  | call op next ih => exact ⟨Free.calm passive.1, fun reply => ih reply (passive.2 reply)⟩
  | acquire next => exact passive.elim
  | release next => exact passive.elim

theorem execAction_fits {cellId : CellId} {command : GuestCommand} {onReady : Engine Unit}
    {kind : GuestOperationKind} (passive : Passive (I := signature) Free onReady) :
    ActionFits host site kind (execAction cellId command onReady) := by
  intro authority id w
  refine within_after_calm (calm_of_free passive) fun _ t => ?_
  refine within_after_calm (.effect trivial) fun result u => ?_
  exact within_after_calm .lift fun _ v => Within.pure (Or.inl rfl)

theorem copyInAction_fits {request : GuestCopyInRequest} {content : Bytes}
    {kind : GuestOperationKind} : ActionFits host site kind (copyInAction request content) := by
  intro authority id w
  exact within_after_calm (.effect trivial) fun _ t => Within.pure (Or.inl rfl)

theorem calm_collectArtifact {request : ArtifactCollectRequest} {authority : GuestActionAuthority}
    {operationId : GuestOperationId} {index : Nat} {source : GuestPath} :
    Passive (I := signature) Calm
      (collectArtifact site request authority operationId index source) :=
  Passive.bind (.effect trivial) fun _ => Passive.bind .lift fun _ =>
    Passive.bind (.effect rfl) fun _ => .pure

theorem calm_collectArtifactsFrom {request : ArtifactCollectRequest}
    {authority : GuestActionAuthority} {operationId : GuestOperationId} {index : Nat}
    {sources : List GuestPath} :
    Passive (I := signature) Calm
      (collectArtifactsFrom site request authority operationId index sources) := by
  induction sources generalizing index with
  | nil => exact .pure
  | cons source rest ih =>
      exact calm_collectArtifact.bind fun _ => Passive.bind ih fun _ => .pure

theorem collectAction_fits {request : ArtifactCollectRequest} {jobId : Option JobId}
    {kind : GuestOperationKind} (collects : kind.collectsArtifact = true) :
    ActionFits host site kind (collectAction site request jobId) := by
  intro authority id w
  refine within_after_calm (.effect rfl) fun _ t => ?_
  refine within_after_calm calm_collectArtifactsFrom fun entries u => ?_
  refine within_after_calm (.effect trivial) fun time v => ?_
  exact within_after_calm (.effect rfl) fun _ x => Within.pure (Or.inr ⟨rfl, collects⟩)

/-- The calls of the operation runner: one for each kind of action. -/
inductive GuestCall (site : Site) : {A : Type} → GuestOperationDispatch → GuestAction A → Prop where
  | exec (request : GuestExecRequest) (jobId : Option JobId) (onReady : Engine Unit) :
      Passive (I := signature) Free onReady →
      GuestCall site ⟨request.cellId, jobId, .exec, request.readiness⟩
        (execAction request.cellId request.command onReady)
  | copyIn (request : GuestCopyInRequest) (jobId : Option JobId) (content : Bytes) :
      GuestCall site ⟨request.cellId, jobId, .copyIn, request.readiness⟩
        (copyInAction request content)
  | collect (request : ArtifactCollectRequest) (kind : GuestOperationKind) (jobId : Option JobId) :
      kind = .copyOut ∨ kind = .artifactCollect →
      GuestCall site ⟨request.cellId, jobId, kind, request.readiness⟩
        (collectAction site request jobId)

theorem GuestCall.fits {A : Type} {dispatch : GuestOperationDispatch} {action : GuestAction A}
    (call : GuestCall site dispatch action) : ActionFits host site dispatch.kind action := by
  cases call with
  | exec request jobId onReady passive => exact execAction_fits passive
  | copyIn request jobId content => exact copyInAction_fits
  | collect request kind jobId collects =>
      refine collectAction_fits ?_
      rcases collects with rfl | rfl
      · rfl
      · rfl

end Actions

section Times
variable {P : Type} {host : Host P} {site : Site} {w : World P} {A : Type}

/-- No stored operation is dated in the future. -/
def Timely (w : World P) : Prop :=
  ∀ id operation, w.store.operations.lookup id = some operation → operation.updatedAt ≤ w.clock

theorem timely_mutation {m : Mutation} (timely : Timely w) (storable : Storable site (.mutate m) w) :
    Timely (Host.mutation site m w).2 := by
  unfold Host.mutation
  cases applied : m.apply site w.store with
  | error failure => exact timely
  | ok result =>
      rcases (change_of_apply applied).operations with same | ⟨record, same, saved⟩
      · intro id operation found
        exact timely id operation (same ▸ found)
      · obtain ⟨_, dated⟩ := storable record same
        intro id operation found
        obtain ⟨_, _, _, next⟩ := Store.saveGuestOperation_ok saved
        change result.2.operations.lookup id = some operation at found
        rw [next] at found
        by_cases own : id = record.id
        · subst own
          obtain rfl := Option.some.inj ((AList.lookup_insert w.store.operations).symm.trans found)
          exact dated
        · exact timely id operation ((AList.lookup_insert_ne own).symm.trans found)

/-- Each effect that writes only what can be stored leaves no date in the future. -/
theorem Timely.step {op : Op} (timely : Timely w) (storable : Storable site op w) :
    Timely ((host.handler site) op w).2 := by
  have calm : Calm op → Timely ((host.handler site) op w).2 := by
    intro calm id operation found
    have after : Undisturbed w ((host.handler site) op w).2 := calm.undisturbed
    obtain ⟨artifacts, copied, same⟩ := after.store
    rw [same] at found
    exact (timely id operation found).trans after.clock
  cases op with
  | mutate m => exact timely_mutation timely storable
  | _ => exact calm trivial

/-- A program writes only what can be stored, now and dated by now. -/
def Stores (host : Host P) (site : Site) (p : Engine A) (w : World P) : Prop :=
  Within (host.handler site).effects (Storable site) (fun _ t => Timely t) (fun _ t => Timely t) p w

theorem stores_of_within {p : Engine A} {good : A → World P → Prop}
    {bad : EngineError → World P → Prop} (timely : Timely w)
    (within : Within (host.handler site).effects (Storable site) good bad p w) :
    Stores host site p w := by
  have always := within.always (show Timely w from timely) ?_
  · refine (always.permit fun op t allowed => allowed.1).weaken ?_ ?_
    · exact fun _ _ ends => ends.2
    · exact fun _ _ ends => ends.2
  · rintro op s reply t before storable answered
    obtain ⟨_, rfl⟩ := Prod.mk.inj answered
    exact before.step storable

end Times

section Recovery
variable {P : Type} {host : Host P} {site : Site} {w : World P}

theorem meets_reconcileLoaded {operation : GuestOperationRecord}
    (ongoing : Ongoing site w operation) :
    Meets (host.handler site) (Storable site) (fun _ _ => True) (fun _ _ => True)
      (reconcileLoaded operation) w := by
  unfold reconcileLoaded
  cases phase : operation.phase with
  | completed | failed | transportActive => exact Meets.pure trivial
  | intentRecorded =>
      refine Meets.bind (meets_now storable_observe fun time later => ?_)
      have valid := interruptedOperation_valid ongoing.valid phase (ongoing.dated.trans later)
      exact Meets.bind (meets_save (ongoing.later later) rfl rfl rfl valid (le_refl time)
        fun _ => Meets.pure trivial)
  | artifactCommitted =>
      refine Meets.bind (Meets.lift (fun _ _ => ?_) fun _ _ => trivial)
      refine Meets.bind (meets_query storable_query (fun _ _ => ?_) fun _ _ => trivial)
      refine Meets.bind (meets_now storable_observe fun time later => ?_)
      have valid := recoveredOperation_valid ongoing.valid phase (ongoing.dated.trans later)
      exact Meets.bind (meets_save (ongoing.later later) rfl rfl rfl valid (le_refl time)
        fun _ => Meets.pure trivial)

theorem meets_reconcileGuestOperationLocked {operationId : GuestOperationId}
    (legible : Legible site w.store) (timely : Timely w) :
    Meets (host.handler site) (Storable site) (fun _ _ => True) (fun _ _ => True)
      (reconcileGuestOperationLocked operationId) w := by
  refine Meets.bind (meets_query storable_query (fun operation loaded => ?_) fun _ _ => trivial)
  refine Meets.bind (meets_query storable_query (fun _ _ => ?_) fun _ _ => trivial)
  have found := (Store.loadGuestOperation_ok loaded).1
  have own := validateGuestOperationSchema_id (legible.operations _ operation found).1
  exact meets_reconcileLoaded ⟨legible, own ▸ found, timely _ operation found⟩

theorem calm_pruneOperations {request : ArtifactPruneRequest} {evaluatedAt cutoff : DateTime}
    {operations : List GuestOperationRecord} {entries : List ArtifactPruneEntry}
    (dry : request.dryRun = true) :
    Passive (I := signature) Calm
      (pruneOperations request evaluatedAt cutoff operations entries) := by
  induction operations generalizing entries with
  | nil => exact .pure
  | cons operation rest ih =>
      refine Passive.ite ih (Passive.ite .pure ?_)
      rw [dry]
      refine Passive.bind ?_ fun _ => ih
      refine Passive.bind (.effect trivial) fun _ => Passive.bind ?_ fun _ => .pure
      refine Passive.bind (.effect trivial) fun _ => Passive.ite .pure (Passive.ite ?_ .fail)
      exact Passive.bind (.effect trivial) fun _ => .lift

theorem stores_pruneArtifactsLocked {request : ArtifactPruneRequest} {evaluatedAt : DateTime}
    (prunable : Prunable site w.store) (timely : Timely w) (dated : evaluatedAt ≤ w.clock) :
    Stores host site
      (pruneArtifactsLocked request evaluatedAt (evaluatedAt - request.olderThan)) w := by
  have later : evaluatedAt - request.olderThan ≤ evaluatedAt :=
    Int.sub_le_self _ (Int.natCast_nonneg _)
  cases mode : request.dryRun with
  | false =>
      obtain ⟨operations, listed⟩ := prunable.legible.listGuestOperations
      have sweeps := Does.held (meets_pruneArtifactsLocked host mode later dated prunable.loadable
        listed fun (_ : True) operation queued => prunable.taken listed queued)
      exact stores_of_within timely (Held.permit sweeps fun _ _ careful => careful trivial)
  | true =>
      have calm : Passive (I := signature) Calm
          (pruneArtifactsLocked request evaluatedAt (evaluatedAt - request.olderThan)) :=
        Passive.bind (.effect trivial) fun _ => (calm_pruneOperations mode).bind fun _ => .pure
      exact stores_of_within timely (calm.permits.permit fun _ _ => Calm.storable)

end Recovery

section Runs
variable {P : Type} {host : Host P} {site : Site} {provider : String} {transport : GuestTransport}
  {dispatch : GuestOperationDispatch} {w : World P} {A : Type} {rounds : Nat}
  {action : GuestAction A}

/-- Every record that an operation hands to the store is storable; and when its
execution ends with an error, the caller gets that error and its class is
durable. -/
def Dependable (host : Host P) (site : Site) (provider : String) (transport : GuestTransport)
    (rounds : Nat) (dispatch : GuestOperationDispatch) (action : GuestAction A) (w : World P) :
    Prop :=
  Stores host site (runGuestOperationLocked site provider transport rounds dispatch action) w ∧
    ∀ admitted u execution v error,
      Proc.run (host.handler site) (admitGuestOperation site provider transport dispatch) true w =
        (some (.ok admitted), u) →
      Proc.run (host.handler site)
        (executeGuestOperation site provider rounds dispatch.readiness admitted action) true u =
        (some (.ok execution), v) →
      execution.result = .error error → isLocalProvider provider = true →
      ∃ t, Proc.run (host.handler site)
        (runGuestOperation site provider transport rounds dispatch action) false w =
          (some (.error error), t) ∧ Durable t admitted.operation.id error

/-- Whenever the operation can begin, the runtime directory can be pinned. -/
def Pinnable (host : Host P) (site : Site) (provider : String) (transport : GuestTransport)
    (dispatch : GuestOperationDispatch) (w : World P) : Prop :=
  ∀ record vm, Admissible host site provider transport dispatch w record vm →
    Pinned site w.store record

theorem within_runGuestOperationLocked_storable (fits : ActionFits host site dispatch.kind action)
    (legible : Legible site w.store)
    (unused : ∀ p, w.store.operations.lookup ⟨(host.draw p).1⟩ = none)
    (pinnable : Pinnable host site provider transport dispatch w) :
    Within (host.handler site).effects (Storable site) (fun _ _ => True) (fun _ _ => True)
      (runGuestOperationLocked site provider transport rounds dispatch action) w := by
  refine Within.bind (Within.attempt (Does.held (meets_admitGuestOperation legible unused
    (fun admitted t begun => ?_) fun _ _ _ => Within.pure trivial)))
  refine Within.bind (within_executeGuestOperation_storable fits begun
    (pinnable _ _ begun.admissible) fun execution u _ ready => ?_)
  refine Within.bind (Within.attempt (Does.held ((meets_settleGuestOperation ready).weaken ?_ ?_)))
  · exact fun _ _ _ => Within.pure trivial
  · exact fun _ _ _ => Within.pure trivial

theorem run_runGuestOperation_failed {admitted : AdmittedOperation} {execution : Execution A}
    {error : EngineError} {u v : World P} (fits : ActionFits host site dispatch.kind action)
    (legible : Legible site w.store)
    (unused : ∀ p, w.store.operations.lookup ⟨(host.draw p).1⟩ = none)
    (pinnable : Pinnable host site provider transport dispatch w)
    (admits : Proc.run (host.handler site) (admitGuestOperation site provider transport dispatch)
      true w = (some (.ok admitted), u))
    (executes : Proc.run (host.handler site)
      (executeGuestOperation site provider rounds dispatch.readiness admitted action) true u =
        (some (.ok execution), v))
    (failed : execution.result = .error error) (known : isLocalProvider provider = true) :
    ∃ t, Proc.run (host.handler site)
      (runGuestOperation site provider transport rounds dispatch action) false w =
        (some (.error error), t) ∧ Durable t admitted.operation.id error := by
  have meets : Meets (host.handler site) (Storable site)
      (fun outcome t => outcome.result = .error error ∧ Durable t admitted.operation.id error)
      (fun _ _ => False)
      (runGuestOperationLocked site provider transport rounds dispatch action) w := by
    have admission : Meets (host.handler site) (Storable site)
        (Begun host site provider transport dispatch w) (fun _ _ => True)
        (admitGuestOperation site provider transport dispatch) w :=
      meets_admitGuestOperation legible unused (fun _ _ begun => begun) fun _ _ _ => trivial
    refine Meets.bind (Meets.attempt (Within.meets (Does.held admission) admits fun begun => ?_))
    have execution : Within (host.handler site).effects (Storable site)
        (fun execution x => execution.operation.id = admitted.operation.id ∧
          Executable site dispatch.kind execution x) (fun _ _ => True)
        (executeGuestOperation site provider rounds dispatch.readiness admitted action) u :=
      within_executeGuestOperation_storable fits begun (pinnable _ _ begun.admissible)
        fun _ _ same ready => ⟨same, ready⟩
    refine Meets.bind (Within.meets execution executes ?_)
    rintro ⟨same, ready⟩
    refine Meets.bind (Meets.attempt ((meets_settleGuestOperation ready).weaken ?_ ?_))
    · exact fun _ _ never => absurd failed (never error)
    · intro e t ends
      obtain ⟨rfl, durable⟩ := ends error failed
      exact Meets.pure ⟨rfl, same ▸ durable⟩
  obtain ⟨result, t, runs, ends⟩ := Does.locked_bind (I := signature) meets
  cases result with
  | error e => exact ends.elim
  | ok outcome =>
      obtain ⟨reported, durable⟩ := ends
      refine ⟨t, ?_, durable⟩
      have passed : requireProvider provider = pure () := by
        unfold requireProvider require
        rw [if_pos known]
        rfl
      unfold runGuestOperation runGuestOperationTracked
      rw [passed]
      refine runs.trans ?_
      change Proc.run _ (Fallible.lift outcome.result) false t = _
      rw [reported]
      rfl

theorem leads_unstorable {record : CellRecord} {vm : ProviderVm} (legible : Legible site w.store)
    (unused : ∀ p, w.store.operations.lookup ⟨(host.draw p).1⟩ = none)
    (admissible : Admissible host site provider transport dispatch w record vm)
    (unpinned : ¬Pinned site w.store record) :
    Leads (host.handler site) (fun op t => ¬Storable site op t)
      (runGuestOperationLocked site provider transport rounds dispatch action) w := by
  refine Meets.leads (Meets.attempt (meets_admitGuestOperation legible unused
    (fun admitted t begun => ?_) fun none => absurd admissible (none record vm)))
  have same : record = admitted.cell :=
    Except.ok.inj (admissible.loaded.symm.trans begun.admissible.loaded)
  rw [same] at unpinned
  refine Meets.leads (Meets.bind (Meets.attempt (meets_authorizeGuestOperation begun
    (fun _ pinned => absurd pinned unpinned) (fun _ pinned _ => absurd pinned unpinned)
    fun e _ undecided => ?_)))
  refine Meets.pure (Leads.first (Leads.first (leads_after (meets_now trivial
    fun time _ => leads_first (Or.inl ?_)))))
  intro storable
  exact failedOperation_invalid begun.phase undecided (storable _ rfl).1

theorem not_dependable {record : CellRecord} {vm : ProviderVm} (legible : Legible site w.store)
    (unused : ∀ p, w.store.operations.lookup ⟨(host.draw p).1⟩ = none)
    (admissible : Admissible host site provider transport dispatch w record vm)
    (unpinned : ¬Pinned site w.store record) :
    ¬Dependable host site provider transport rounds dispatch action w := by
  intro dependable
  exact Held.not_leads dependable.1 (fun op t storable unstorable => unstorable storable)
    (leads_unstorable legible unused admissible unpinned)

/-- Every record of a guest operation can be stored, and every error of its
execution reaches the caller and the disk, exactly when no operation can begin
on a cell whose runtime directory cannot be pinned. Reconciliation and pruning
write only what can be stored. -/
theorem guest_operations_storable (call : GuestCall site dispatch action)
    (prunable : Prunable site w.store) (timely : Timely w)
    (unused : ∀ p, w.store.operations.lookup ⟨(host.draw p).1⟩ = none) :
    (Dependable host site provider transport rounds dispatch action w ↔
        Pinnable host site provider transport dispatch w) ∧
      (∀ operationId, Stores host site (reconcileGuestOperationLocked operationId) w) ∧
      ∀ request evaluatedAt, evaluatedAt ≤ w.clock → Stores host site
        (pruneArtifactsLocked request evaluatedAt (evaluatedAt - request.olderThan)) w := by
  have legible := prunable.legible
  refine ⟨⟨fun dependable record vm admissible => ?_, fun pinnable => ⟨?_, ?_⟩⟩, fun id => ?_,
    fun request evaluatedAt dated => stores_pruneArtifactsLocked prunable timely dated⟩
  · by_contra unpinned
    exact not_dependable legible unused admissible unpinned dependable
  · exact stores_of_within timely
      (within_runGuestOperationLocked_storable call.fits legible unused pinnable)
  · intro admitted u execution v error admits executes failed known
    exact run_runGuestOperation_failed call.fits legible unused pinnable admits executes failed known
  · exact stores_of_within timely (Does.held (meets_reconcileGuestOperationLocked legible timely))

end Runs

namespace Exemplar

def execRequest : GuestExecRequest :=
  ⟨cellId, ⟨"true", [], nanosPerSecond, 10⟩, ⟨nanosPerSecond, 1⟩⟩

def exec : GuestOperationDispatch := ⟨cellId, none, .exec, execRequest.readiness⟩

def execution : GuestAction GuestExecReport :=
  execAction cellId execRequest.command (pure ())

theorem execCall : GuestCall site exec execution :=
  .exec execRequest none (pure ()) Passive.pure

/-- A running cell on which an operation can begin; and whether its runtime
directory can be pinned. -/
def startable (s : Store) (pinned : Bool) (record : CellRecord) (vm : ProviderVm) : Bool :=
  record.state = .running ∧ record.phase = .ready ∧ record.image.guestOs = some .linux ∧
    proveOwnership site.platform record vm = .ok () ∧ vm.powerState = .running ∧
    (s.pinCellRuntimeFor site record.id record.ownership.configurationPath
      record.ownership.overlayPath).isOk = pinned

/-- The runtime directories are lost. -/
def uprooted (s : Store) : Store := { s with runtime := ∅ }

/-- A running cell, before and after its runtime directory is lost. -/
theorem ran : ∃ s, Prunable site s ∧ (∀ id, s.operations.lookup id = none) ∧
    finds (world s .running) (startable s true) = true ∧
    finds (world (uprooted s) .running) (startable (uprooted s) false) = true := by
  obtain ⟨s, reaches, passed⟩ := reaches running (fun s => s.operations.keys = [] ∧
    finds (world s .running) (startable s true) ∧
    finds (world (uprooted s) .running) (startable (uprooted s) false)) (by decide +kernel)
  obtain ⟨empty, both⟩ := of_decide_eq_true passed
  refine ⟨s, prunable_of_reaches (Config.empty_idle Store.empty) rfl reaches, fun id => ?_, both⟩
  refine AList.lookup_eq_none.mpr fun member => ?_
  rw [AList.mem_keys, empty] at member
  cases member

end Exemplar

theorem guest_operations_storable_with_runtime :
    ∃ s, Dependable Exemplar.host Exemplar.site "qemu" Exemplar.transport 1 Exemplar.exec
      Exemplar.execution (Exemplar.world s .running) := by
  obtain ⟨s, prunable, unoperated, finds, _⟩ := Exemplar.ran
  obtain ⟨record, vm, loaded, _, _, passed⟩ := Exemplar.found _ finds
  obtain ⟨_, _, _, _, _, pinned⟩ := of_decide_eq_true passed
  refine ⟨s, (guest_operations_storable Exemplar.execCall (w := Exemplar.world s .running)
    prunable ?_ fun _ => unoperated _).1.mpr ?_⟩
  · intro id operation found
    cases (unoperated id).symm.trans found
  · intro other _ admissible
    obtain rfl := Except.ok.inj (loaded.symm.trans admissible.loaded)
    exact pinned_of_isOk pinned

/-- Without the runtime directory of a running cell, an operation on it hands the
store a record that it rejects. -/
theorem operation_unstorable_without_runtime :
    ∃ s, Prunable Exemplar.site s ∧
      ¬Dependable Exemplar.host Exemplar.site "qemu" Exemplar.transport 1 Exemplar.exec
        Exemplar.execution (Exemplar.world (Exemplar.uprooted s) .running) := by
  obtain ⟨s, prunable, unoperated, _, finds⟩ := Exemplar.ran
  obtain ⟨record, vm, loaded, owned, present, passed⟩ := Exemplar.found _ finds
  obtain ⟨running, ready, system, proven, powered, unpinned⟩ := of_decide_eq_true passed
  have legible : Legible Exemplar.site (Exemplar.uprooted s) :=
    prunable.legible.of_same rfl rfl prunable.legible.installation prunable.legible.images
  have quiescent : Quiescent (Exemplar.uprooted s) Exemplar.cellId := by
    intro id operation found
    cases (unoperated id).symm.trans found
  have admissible : Admissible Exemplar.host Exemplar.site "qemu" Exemplar.transport Exemplar.exec
      (Exemplar.world (Exemplar.uprooted s) .running) record vm :=
    ⟨loaded, running, ready, quiescent, ⟨.linux, system, rfl⟩, owned, present, proven, powered,
      fun _ named => by cases named⟩
  refine ⟨s, prunable, not_dependable legible (fun _ => unoperated _) admissible ?_⟩
  rintro ⟨guard, pinned⟩
  rw [show (Exemplar.uprooted s).pinCellRuntimeFor _ _ _ _ = _ from pinned] at unpinned
  cases unpinned

end VmCell
