import Mathlib.Data.List.TakeWhile
import VmCell.Engine.World
import VmCell.Interaction.Batch
import VmCell.Properties.Artifacts

/-! Which artifacts a prune gets to, and whether repeating it empties the backlog. -/

set_option autoImplicit false
namespace VmCell

open Interaction Fallible

section Stores
variable {site : Site} {s t : Store} {operation : GuestOperationRecord}

/-- An operation with an artifact has no other result. -/
def Plain (s : Store) : Prop :=
  ∀ id operation, s.operations.lookup id = some operation →
    operation.artifactId.isSome = true → operation.withoutResult = true

/-- A state root whose records read back and whose artifacts load. -/
structure Loadable (site : Site) (s : Store) : Prop where
  legible : Legible site s
  stocked : Stocked site s

/-- A state root whose artifacts can be pruned. -/
structure Prunable (site : Site) (s : Store) : Prop where
  legible : Legible site s
  stocked : Stocked site s
  plain : Plain s

theorem Prunable.loadable (prunable : Prunable site s) : Loadable site s :=
  ⟨prunable.legible, prunable.stocked⟩

/-- The store takes no tombstone beside a command result. -/
def refused (operation : GuestOperationRecord) : Bool :=
  !isRecovery operation && !operation.withoutResult

theorem withoutResult_of_taken (fresh : isRecovery operation = false)
    (taken : refused operation = false) : operation.withoutResult = true := by
  unfold refused at taken
  rw [fresh] at taken
  simpa using taken

theorem Store.loadArtifact_congr {cellId : CellId} {id : GuestOperationId}
    (artifacts : t.artifacts.lookup (cellId, id) = s.artifacts.lookup (cellId, id))
    (operations : t.loadGuestOperation site id = s.loadGuestOperation site id) :
    t.loadArtifact site cellId id = s.loadArtifact site cellId id := by
  unfold Store.loadArtifact Store.openArtifactRoot
  rw [artifacts, operations]

/-- A loaded artifact has a size. -/
theorem artifactBytes_of_loaded {cellId : CellId} {id : GuestOperationId} {artifact : ArtifactRecord}
    (loaded : s.loadArtifact site cellId id = .ok artifact) :
    ∃ bytes, artifactBytes artifact = .ok bytes := by
  obtain ⟨found, _, rest⟩ := bind_ok.mp loaded
  obtain ⟨record, _, rest⟩ := bind_ok.mp rest
  obtain ⟨schema, rest⟩ := bind_unit_ok.mp rest
  obtain ⟨_, rest⟩ := bind_unit_ok.mp rest
  obtain ⟨_, _, rest⟩ := bind_ok.mp rest
  obtain ⟨_, rest⟩ := bind_unit_ok.mp rest
  obtain ⟨_, same⟩ := bind_unit_ok.mp rest
  obtain rfl := Except.ok.inj same
  obtain ⟨_, rest⟩ := bind_unit_ok.mp schema
  obtain ⟨_, sizes⟩ := bind_unit_ok.mp rest
  unfold artifactBytes
  cases total : checkedTotal (record.entries.map (·.size)) with
  | some bytes => exact ⟨bytes, rfl⟩
  | none =>
      rw [total] at sizes
      split at sizes
      · cases sizes
      · split at sizes
        · cases sizes
        · simp at sizes

structure Expired (cutoff : DateTime) (operation : GuestOperationRecord) : Prop where
  phase : operation.phase = .completed
  artifact : operation.artifactId = some operation.id
  unpruned : operation.artifactPrunedAt = none
  completed : ∃ completedAt, operation.completedAt = some completedAt ∧ completedAt ≤ cutoff

theorem isExpiredArtifact_iff {cutoff : DateTime} :
    isExpiredArtifact cutoff operation = true ↔ Expired cutoff operation := by
  unfold isExpiredArtifact
  simp only [Bool.and_eq_true, decide_eq_true_eq, Option.isNone_iff_eq_none, Option.any_eq_true]
  constructor
  · rintro ⟨⟨⟨phase, artifact⟩, unpruned⟩, completed⟩
    exact ⟨phase, artifact, unpruned, completed⟩
  · rintro ⟨phase, artifact, unpruned, completed⟩
    exact ⟨⟨⟨phase, artifact⟩, unpruned⟩, completed⟩

/-- A completed operation was last written when it completed. -/
theorem Expired.updated {id : GuestOperationId} {cutoff : DateTime}
    (expired : Expired cutoff operation)
    (valid : validateGuestOperationSchema site id operation = .ok ()) :
    operation.createdAt ≤ operation.updatedAt ∧ operation.completedAt = some operation.updatedAt ∧
      operation.updatedAt ≤ cutoff := by
  obtain ⟨_, _, _, _, times⟩ := validateGuestOperationSchema_ok.mp valid
  obtain ⟨completedAt, completed, early⟩ := expired.completed
  unfold timesAreValid at times
  rw [completed, expired.unpruned] at times
  simp only [Option.all_some, Bool.and_eq_true, decide_eq_true_eq, beq_iff_eq] at times
  obtain ⟨⟨created, _⟩, same⟩ := times
  exact ⟨created, by rw [completed, same], same ▸ early⟩

theorem tombstoned_valid {id : GuestOperationId} {cutoff evaluatedAt : DateTime}
    (valid : validateGuestOperationSchema site id operation = .ok ())
    (plain : operation.withoutResult = true) (expired : Expired cutoff operation)
    (later : cutoff ≤ evaluatedAt) :
    validateGuestOperationSchema site id (tombstoned operation evaluatedAt) = .ok () := by
  obtain ⟨created, completed, early⟩ := expired.updated valid
  obtain ⟨version, identity, job, fields, _⟩ := validateGuestOperationSchema_ok.mp valid
  refine validateGuestOperationSchema_ok.mpr ⟨version, identity, job, ?_, ?_⟩
  · have without : (tombstoned operation evaluatedAt).withoutResult = true := plain
    unfold fieldsAreValid at fields
    simp only [expired.phase, expired.artifact, Bool.and_eq_true, Option.all_some] at fields
    obtain ⟨⟨⟨⟨done, failure⟩, own⟩, kind⟩, _⟩ := fields
    unfold fieldsAreValid
    rw [show (tombstoned operation evaluatedAt).phase = .completed from expired.phase]
    simp only [without, show (tombstoned operation evaluatedAt).artifactId = some operation.id from
      expired.artifact, Bool.and_eq_true, Option.all_some]
    refine ⟨⟨⟨⟨done, failure⟩, own⟩, kind⟩, ?_⟩
    change ((some operation.id == some operation.id) && operation.kind.collectsArtifact && true) = true
    rw [beq_self_eq_true, kind]
    rfl
  · unfold timesAreValid
    simp only [tombstoned, completed, Option.all_some, Option.any_some, Bool.and_eq_true,
      decide_eq_true_eq, beq_self_eq_true, and_true]
    exact ⟨⟨created.trans (early.trans later), created⟩, early.trans later⟩

/-- A tombstone has no room for the result of a command. -/
theorem withoutResult_of_tombstoned {id : GuestOperationId} {cutoff evaluatedAt : DateTime}
    (valid : validateGuestOperationSchema site id (tombstoned operation evaluatedAt) = .ok ())
    (expired : Expired cutoff operation) : operation.withoutResult = true := by
  obtain ⟨_, _, _, fields, _⟩ := validateGuestOperationSchema_ok.mp valid
  unfold fieldsAreValid at fields
  rw [show (tombstoned operation evaluatedAt).phase = .completed from expired.phase] at fields
  obtain ⟨_, pruned⟩ := (Bool.and_eq_true _ _).mp fields
  exact ((Bool.and_eq_true _ _).mp pruned).2

/-- The tombstone is written. -/
theorem Loadable.tombstone {cutoff evaluatedAt : DateTime} (loadable : Loadable site s)
    (found : s.operations.lookup operation.id = some operation)
    (plain : operation.withoutResult = true) (expired : Expired cutoff operation)
    (later : cutoff ≤ evaluatedAt) :
    s.saveGuestOperation site (tombstoned operation evaluatedAt) = .ok { s with
        operations := s.operations.insert operation.id (tombstoned operation evaluatedAt) } ∧
      Loadable site { s with
        operations := s.operations.insert operation.id (tombstoned operation evaluatedAt) } := by
  have valid := (loadable.legible.operations _ operation found).1
  have saved : s.saveGuestOperation site (tombstoned operation evaluatedAt) = .ok { s with
      operations := s.operations.insert operation.id (tombstoned operation evaluatedAt) } :=
    Store.saveGuestOperation_again loadable.legible found rfl rfl
      (tombstoned_valid valid plain expired later)
  have legible := legible_of_saveGuestOperation loadable.legible saved
  refine ⟨saved, legible, ?_⟩
  intro id other stored named unpruned
  have different : id ≠ operation.id := by
    rintro rfl
    obtain rfl := Option.some.inj ((AList.lookup_insert s.operations).symm.trans stored)
    cases unpruned
  have before := (AList.lookup_insert_ne different).symm.trans stored
  obtain ⟨artifact, loaded, bound⟩ := loadable.stocked id other before named unpruned
  refine ⟨artifact, ?_, bound⟩
  have same : other.id = id :=
    validateGuestOperationSchema_id (loadable.legible.operations id other before).1
  rw [← loaded]
  refine Store.loadArtifact_congr rfl ?_
  rw [same, legible.loadGuestOperation stored, loadable.legible.loadGuestOperation before]

/-- The artifact of a tombstone goes. -/
theorem Loadable.discard (loadable : Loadable site s)
    (found : s.operations.lookup operation.id = some operation)
    (pruned : operation.artifactPrunedAt.isSome = true) :
    Loadable site (s.removeArtifactRoot operation.cellId operation.id).2 ∧
      (s.removeArtifactRoot operation.cellId operation.id).2.operations = s.operations := by
  have shape : ∃ artifacts, (s.removeArtifactRoot operation.cellId operation.id).2 =
      { s with artifacts := artifacts } ∧ ∀ key, key ≠ (operation.cellId, operation.id) →
        artifacts.lookup key = s.artifacts.lookup key := by
    unfold Store.removeArtifactRoot
    split
    · exact ⟨s.artifacts, rfl, fun _ _ => rfl⟩
    · exact ⟨_, rfl, fun _ different => AList.lookup_erase_ne different⟩
  obtain ⟨artifacts, same, others⟩ := shape
  rw [same]
  have legible : Legible site { s with artifacts := artifacts } :=
    loadable.legible.of_same rfl rfl loadable.legible.installation loadable.legible.images
  refine ⟨⟨legible, ?_⟩, rfl⟩
  intro id other stored named unpruned
  obtain ⟨artifact, loaded, bound⟩ := loadable.stocked id other stored named unpruned
  refine ⟨artifact, ?_, bound⟩
  have identity : other.id = id :=
    validateGuestOperationSchema_id (loadable.legible.operations id other stored).1
  rw [← loaded]
  refine Store.loadArtifact_congr (others _ fun equal => ?_) ?_
  · have twice : other = operation := by
      rw [(Prod.mk.inj equal).2.symm, identity, stored] at found
      exact Option.some.inj found
    rw [← twice, unpruned] at pruned
    cases pruned
  · rw [identity, legible.loadGuestOperation stored, loadable.legible.loadGuestOperation stored]

end Stores

section Runs
variable {env : Environment} {i : Pid} {op : Op} {s t : Store} {c d : Manager}

/-- Only a commit names an artifact, and the schema keeps results out of it. -/
theorem plain_of_step {site : Site} {old new : GuestOperationRecord}
    (step : OperationStep site s old new)
    (valid : validateGuestOperationSchema site new.id new = .ok ())
    (plain : old.artifactId.isSome = true → old.withoutResult = true)
    (named : new.artifactId.isSome = true) : new.withoutResult = true := by
  obtain ⟨_, _, _, fields, _⟩ := validateGuestOperationSchema_ok.mp valid
  have permitted : new.phase ≠ .completed → new.withoutResult = true := by
    intro running
    unfold fieldsAreValid at fields
    cases phase : new.phase <;> rw [phase] at fields running <;> simp_all
  cases step with
  | active _ after | undecided _ after | failed _ after | committed _ after =>
      exact permitted (by rw [after]; simp)
  | completed _ _ unnamed =>
      rw [unnamed] at named
      cases named
  | finished time _ same =>
      rw [same] at named ⊢
      exact plain named
  | pruned time _ _ _ same =>
      rw [same] at named ⊢
      exact plain named

theorem plain_of_change (plain : Plain s) (allowed : Allowed env i op s)
    (change : Change env.site s op t) : Plain t := by
  rcases change.operations with same | ⟨record, rfl, saved⟩
  · intro id operation found
    rw [same] at found
    exact plain id operation found
  · obtain ⟨valid, _, _, rfl⟩ := Store.saveGuestOperation_ok saved
    intro id operation found named
    by_cases same : id = record.id
    · subst same
      obtain rfl := Option.some.inj ((AList.lookup_insert s.operations).symm.trans found)
      rcases allowed with ⟨_, phase, _⟩ | ⟨old, stored, _, step⟩
      · have fields := (validateGuestOperationSchema_ok.mp valid).2.2.2.1
        unfold fieldsAreValid at fields
        simp only [phase, Bool.and_eq_true] at fields
        exact fields.2
      · exact plain_of_step step valid (plain _ old stored) named
    · exact plain id operation ((AList.lookup_insert_ne same).symm.trans found) named

/-- Every state root the manager writes can be pruned. -/
theorem prunable_of_reaches (idle : c.Idle) (fresh : c.store = Store.empty)
    (reaches : Manager.Reaches env c d) : Prunable env.site d.store := by
  have intact : Intact env.site d.store :=
    Manager.invariant idle (fresh ▸ intact_empty) intact_of_change reaches
  have plain : Plain d.store :=
    Manager.invariant idle (fresh ▸ fun _ _ found => by cases found) plain_of_change reaches
  refine ⟨intact.legible, fun id operation found named unpruned => ?_, plain⟩
  have identity := validateGuestOperationSchema_id (intact.legible.operations id operation found).1
  obtain ⟨_, _, artifact, loaded, cell, job, _⟩ :=
    (intact.complete id operation found (by rw [named]; rfl) unpruned).load intact.legible
      (by rw [identity]; exact found)
  exact ⟨artifact, loaded, cell, job⟩

end Runs

section Sweep
variable {site : Site} {s t u : Store} {cutoff evaluatedAt : DateTime}
  {operation : GuestOperationRecord} {taken : List GuestOperationRecord}

/-- What a prune does to the operations it takes: those that have no tombstone
get one, and nothing else changes. -/
structure Swept (site : Site) (evaluatedAt : DateTime) (taken : List GuestOperationRecord)
    (s t : Store) : Prop where
  loadable : Loadable site t
  pruned : ∀ operation ∈ taken, isRecovery operation = false →
    t.operations.lookup operation.id = some (tombstoned operation evaluatedAt)
  kept : ∀ id, (∀ operation ∈ taken, isRecovery operation = false → operation.id ≠ id) →
    t.operations.lookup id = s.operations.lookup id

theorem Swept.refl (loadable : Loadable site s) : Swept site evaluatedAt [] s s :=
  ⟨loadable, by simp, fun _ _ => rfl⟩

theorem Swept.cons (first : Swept site evaluatedAt [operation] s t)
    (rest : Swept site evaluatedAt taken t u) (fresh : ∀ other ∈ taken, other.id ≠ operation.id) :
    Swept site evaluatedAt (operation :: taken) s u where
  loadable := rest.loadable
  pruned := by
    intro other member plain
    rcases List.mem_cons.mp member with rfl | later
    · rw [rest.kept other.id fun third inside _ => fresh third inside]
      exact first.pruned other List.mem_cons_self plain
    · exact rest.pruned other later plain
  kept := by
    intro id elsewhere
    rw [rest.kept id fun other member => elsewhere other (List.mem_cons_of_mem _ member)]
    refine first.kept id fun other member => ?_
    rw [List.mem_singleton.mp member]
    exact elsewhere operation List.mem_cons_self

end Sweep

section Loop
variable {P : Type} {host : Host P} {site : Site} {w : World P} {cutoff evaluatedAt : DateTime}
  {operation : GuestOperationRecord} {clean : Prop}

/-- What an entry says about its operation. -/
def outcome (operation : GuestOperationRecord) : GuestOperationId × ArtifactPruneDisposition :=
  (operation.id, if isRecovery operation then .recoveryCompleted else .pruned)

/-- Whatever is written can be stored, as long as no tombstone is refused. -/
def Careful (site : Site) (clean : Prop) (op : Op) (w : World P) : Prop := clean → Storable site op w

theorem meets_pruneBytes {allowed : Op → World P → Prop} {good : Nat → World P → Prop}
    {bad : EngineError → World P → Prop} (look : ∀ q, allowed (.query q) w)
    (loadable : Loadable site w.store)
    (stored : w.store.operations.lookup operation.id = some operation)
    (selected : isRecovery operation = true ∨ Expired cutoff operation)
    (ok : ∀ bytes, good bytes w) :
    Meets (host.handler site) allowed good bad (pruneBytes operation) w := by
  refine Meets.bind (meets_query (look _) (fun (present : Bool) answered => ?_)
    fun _ failed => by cases failed)
  refine Meets.ite (fun _ => Meets.pure (ok 0)) fun fresh => ?_
  have expired := selected.resolve_left fresh
  obtain ⟨artifact, loaded, _⟩ :=
    loadable.stocked _ operation stored expired.artifact expired.unpruned
  obtain ⟨bytes, size⟩ := artifactBytes_of_loaded loaded
  refine Meets.ite (fun _ => ?_) fun missing => ?_
  · refine Meets.bind (meets_query (look _) (fun read again => ?_) fun _ failed => ?_)
    · obtain rfl := Except.ok.inj (loaded.symm.trans again)
      refine Meets.lift (fun bytes _ => ok bytes) fun _ failed => ?_
      cases size.symm.trans failed
    · cases loaded.symm.trans failed
  · refine absurd ?_ missing
    have exact := (Except.ok.inj answered).symm
    rw [exact, Store.artifactRootExists]
    obtain ⟨found, opened, _⟩ := bind_ok.mp loaded
    unfold Store.openArtifactRoot at opened
    split at opened
    · cases opened
    · rename_i directory present
      rw [present]
      rfl

theorem meets_pruneArtifact {good : ArtifactPruneDisposition → World P → Prop}
    {bad : EngineError → World P → Prop} (loadable : Loadable site w.store)
    (stored : w.store.operations.lookup operation.id = some operation)
    (selected : isRecovery operation = true ∨ Expired cutoff operation)
    (later : cutoff ≤ evaluatedAt) (dated : evaluatedAt ≤ w.clock)
    (taken : clean → refused operation = false)
    (ok : refused operation = false → ∀ t, Swept site evaluatedAt [operation] w.store t →
      good (outcome operation).2 { w with store := t })
    (stuck : refused operation = true → ∀ e, bad e w) :
    Meets (host.handler site) (Careful site clean) good bad
      (pruneArtifact evaluatedAt operation) w := by
  refine Meets.ite (fun recovery => ?_) fun fresh => ?_
  · refine Meets.bind (meets_mutate (fun _ => storable_removeArtifactRoot)
      (fun removed t applied => ?_) fun _ failed => by cases failed)
    -- a tombstone of an earlier prune: only its directory goes
    obtain ⟨rfl, rfl⟩ := Prod.mk.inj (Except.ok.inj applied)
    obtain ⟨after, same⟩ := loadable.discard stored recovery
    have outcomes : (outcome operation).2 = .recoveryCompleted := if_pos recovery
    refine Meets.pure ?_
    rw [← outcomes]
    refine ok (by simp [refused, recovery]) _ ⟨after, ?_, fun id _ => congrArg (AList.lookup id) same⟩
    intro other member plain
    rw [List.mem_singleton.mp member, recovery] at plain
    cases plain
  · have expired := selected.resolve_left fresh
    have fresh : isRecovery operation = false := Bool.not_eq_true _ ▸ fresh
    have valid := (loadable.legible.operations _ operation stored).1
    have permitted : Careful site clean
        (.mutate (.saveGuestOperation (tombstoned operation evaluatedAt))) w := fun holds =>
      storable_save (tombstoned_valid valid (withoutResult_of_taken fresh (taken holds)) expired later)
        dated
    refine Meets.bind (meets_mutate permitted (fun _ t applied => ?_) fun _ failed => ?_)
    · have written := written_ok.mp applied
      have plain := withoutResult_of_tombstoned (Store.saveGuestOperation_ok written).1 expired
      obtain ⟨saved, tombstone⟩ := loadable.tombstone stored plain expired later
      obtain rfl := Except.ok.inj (saved.symm.trans written)
      refine Meets.bind (meets_mutate (fun _ => storable_removeArtifactRoot)
        (fun removed u applied => ?_) fun _ failed => by cases failed)
      obtain ⟨rfl, rfl⟩ := Prod.mk.inj (Except.ok.inj applied)
      have gone : (tombstoned operation evaluatedAt).artifactPrunedAt.isSome = true := rfl
      obtain ⟨after, same⟩ := tombstone.discard (AList.lookup_insert _) gone
      have outcomes : (outcome operation).2 = .pruned := by simp [outcome, fresh]
      refine Meets.pure ?_
      rw [← outcomes]
      refine ok (by simp [refused, plain]) _ ⟨after, ?_, fun id elsewhere => ?_⟩
      · intro other member _
        rw [List.mem_singleton.mp member]
        exact (congrArg (AList.lookup operation.id) same).trans (AList.lookup_insert _)
      · have different := elsewhere operation List.mem_cons_self fresh
        exact (congrArg (AList.lookup id) same).trans
          (AList.lookup_insert_ne fun equal => different equal.symm)
    · -- a storable tombstone would have been saved
      refine stuck ?_ _
      cases taken : refused operation with
      | true => rfl
      | false =>
          have saved := (loadable.tombstone stored (withoutResult_of_taken fresh taken) expired
            later).1
          change written (w.store.saveGuestOperation site _) = _ at failed
          rw [saved] at failed
          cases failed

theorem meets_pruneOperation {good : ArtifactPruneEntry → World P → Prop}
    {bad : EngineError → World P → Prop} (loadable : Loadable site w.store)
    (stored : w.store.operations.lookup operation.id = some operation)
    (selected : isRecovery operation = true ∨ Expired cutoff operation)
    (later : cutoff ≤ evaluatedAt) (dated : evaluatedAt ≤ w.clock)
    (taken : clean → refused operation = false)
    (ok : refused operation = false → ∀ entry t,
      (entry.operationId, entry.disposition) = outcome operation →
      Swept site evaluatedAt [operation] w.store t → good entry { w with store := t })
    (stuck : refused operation = true → ∀ e, bad e w) :
    Meets (host.handler site) (Careful site clean) good bad
      (pruneOperation false evaluatedAt operation) w := by
  have parent := loadable.legible.requireParent stored
  have look : ∀ q, Careful site clean (.query q) w := fun _ _ => storable_query
  refine Meets.bind (meets_query (look _) (fun _ _ => ?_) fun _ failed => ?_)
  · refine Meets.bind (meets_pruneBytes look loadable stored selected fun bytes => ?_)
    refine Meets.bind (meets_pruneArtifact loadable stored selected later dated taken
      (fun plain t swept => ?_) stuck)
    exact Meets.pure (ok plain _ t rfl swept)
  · cases parent.symm.trans failed

/-- Whether the loop takes the operation. -/
def selected (cutoff : DateTime) (operation : GuestOperationRecord) : Bool :=
  isRecovery operation || isExpiredArtifact cutoff operation

theorem selected_cases (taken : selected cutoff operation = true) :
    isRecovery operation = true ∨ Expired cutoff operation := by
  rcases Bool.or_eq_true_iff.mp taken with recovery | expired
  · exact Or.inl recovery
  · exact Or.inr (isExpiredArtifact_iff.mp expired)

/-- What comes before the first tombstone that is refused. -/
def accepted (operations : List GuestOperationRecord) : List GuestOperationRecord :=
  operations.takeWhile fun operation => !refused operation

theorem accepted_cons {operations : List GuestOperationRecord} (taken : refused operation = false) :
    accepted (operation :: operations) = operation :: accepted operations :=
  List.takeWhile_cons_of_pos (by rw [taken]; rfl)

theorem accepted_refused {operations : List GuestOperationRecord} (stuck : refused operation = true) :
    accepted (operation :: operations) = [] :=
  List.takeWhile_cons_of_neg (by rw [stuck]; exact Bool.false_ne_true)

/-- The loop takes the first of the selected operations for which there is room,
and comes no further than a tombstone that is refused. -/
theorem meets_pruneOperations {request : ArtifactPruneRequest} (wet : request.dryRun = false)
    (later : cutoff ≤ evaluatedAt) (dated : evaluatedAt ≤ w.clock)
    {operations : List GuestOperationRecord} {entries : List ArtifactPruneEntry}
    {good : List ArtifactPruneEntry → World P → Prop}
    {bad : EngineError → World P → Prop} (room : entries.length ≤ request.maxArtifacts)
    (loadable : Loadable site w.store)
    (stored : ∀ operation ∈ operations,
      w.store.operations.lookup operation.id = some operation)
    (distinct : (operations.map (·.id)).Nodup)
    (taken : clean → ∀ operation ∈
      (operations.filter (selected cutoff)).take (request.maxArtifacts - entries.length),
      refused operation = false)
    (ok : ∀ (more : List ArtifactPruneEntry) t,
      accepted ((operations.filter (selected cutoff)).take (request.maxArtifacts - entries.length)) =
        (operations.filter (selected cutoff)).take (request.maxArtifacts - entries.length) →
      more.map (fun entry => (entry.operationId, entry.disposition)) =
        ((operations.filter (selected cutoff)).take (request.maxArtifacts - entries.length)).map
          outcome →
      Swept site evaluatedAt (accepted
        ((operations.filter (selected cutoff)).take (request.maxArtifacts - entries.length)))
        w.store t → good (entries ++ more) { w with store := t })
    (stuck : ∀ e t, Swept site evaluatedAt (accepted
        ((operations.filter (selected cutoff)).take (request.maxArtifacts - entries.length)))
        w.store t → bad e { w with store := t }) :
    Meets (host.handler site) (Careful site clean) good bad
      (pruneOperations request evaluatedAt cutoff operations entries) w := by
  induction operations generalizing w entries with
  | nil =>
      have ends := ok [] w.store (by simp [accepted]) (by simp)
        (by simpa [accepted] using Swept.refl loadable)
      rw [List.append_nil] at ends
      exact Meets.pure ends
  | cons operation rest ih =>
      have others := fun other member => stored other (List.mem_cons_of_mem _ member)
      obtain ⟨fresh, distinct⟩ := List.nodup_cons.mp distinct
      unfold pruneOperations
      by_cases wanted : selected cutoff operation = true
      · have chosen : ¬(isRecovery operation || isExpiredArtifact cutoff operation) = false :=
          fun skipped => by cases wanted.symm.trans skipped
        rw [if_neg chosen]
        rw [List.filter_cons_of_pos wanted] at ok stuck taken
        refine Meets.ite (fun full => ?_) fun space => ?_
        · have ends := ok [] w.store (by simp [full, accepted]) (by simp [full])
            (by simpa [full, accepted] using Swept.refl loadable)
          rw [List.append_nil] at ends
          exact Meets.pure ends
        · obtain ⟨free, vacancy⟩ : ∃ free, request.maxArtifacts - entries.length = free + 1 :=
            ⟨request.maxArtifacts - entries.length - 1, by omega⟩
          rw [vacancy, List.take_succ_cons] at ok stuck taken
          rw [wet]
          refine Meets.bind (meets_pruneOperation loadable (stored operation List.mem_cons_self)
            (selected_cases wanted) later dated (fun holds => taken holds _ List.mem_cons_self)
            (fun plain entry t described swept => ?_) fun refusal e => ?_)
          · -- the entry takes a place, and the others keep their records
            rw [accepted_cons plain] at ok stuck
            have unique : ∀ other ∈ rest, other.id ≠ operation.id := by
              intro other member same
              exact fresh (List.mem_map.mpr ⟨other, member, same⟩)
            have left : request.maxArtifacts - (entries ++ [entry]).length = free := by
              rw [List.length_append, List.length_singleton]
              omega
            have apart : ∀ other ∈ accepted ((rest.filter (selected cutoff)).take free),
                other.id ≠ operation.id := fun other member => unique other (List.mem_of_mem_filter
              (List.mem_of_mem_take ((List.takeWhile_prefix _).mem member)))
            refine ih (w := { w with store := t }) dated ?_ swept.loadable ?_ distinct ?_
              (fun more u all descriptions sweeps => ?_) fun e u sweeps => ?_
            · rw [List.length_append, List.length_singleton]
              omega
            · intro other member
              rw [swept.kept other.id]
              · exact others other member
              · intro first inside _
                rw [List.mem_singleton.mp inside]
                exact fun same => unique other member same.symm
            · rw [left]
              exact fun holds other member => taken holds other (List.mem_cons_of_mem _ member)
            · rw [left] at all descriptions sweeps
              have ends := ok (entry :: more) u (by rw [all]) (by rw [List.map_cons, List.map_cons,
                described, descriptions]) (swept.cons sweeps apart)
              rwa [List.append_cons] at ends
            · rw [left] at sweeps
              exact stuck e u (swept.cons sweeps apart)
          · -- the loop ends here, whatever comes after
            rw [accepted_refused refusal] at stuck
            exact stuck e w.store (Swept.refl loadable)
      · have skipped : (isRecovery operation || isExpiredArtifact cutoff operation) = false :=
          Bool.not_eq_true _ ▸ wanted
        rw [if_pos skipped]
        rw [List.filter_cons_of_neg wanted] at ok stuck taken
        exact ih dated room loadable others distinct taken ok stuck

end Loop

section Queue
variable {site : Site} {s : Store} {operations : List GuestOperationRecord}

instance : Std.Total pruneOrder where
  total first second := by
    unfold pruneOrder
    rcases Int.lt_trichotomy first.updatedAt second.updatedAt with less | same | more
    · exact Or.inl (Or.inl less)
    · rcases String.le_total first.id.toText second.id.toText with below | above
      · exact Or.inl (Or.inr ⟨same, below⟩)
      · exact Or.inr (Or.inr ⟨same.symm, above⟩)
    · exact Or.inr (Or.inl more)

instance : IsTrans GuestOperationRecord pruneOrder where
  trans first second third := by
    rintro (less | ⟨same, below⟩) (more | ⟨equal, above⟩)
    · exact Or.inl (Int.lt_trans less more)
    · exact Or.inl (equal ▸ less)
    · exact Or.inl (same ▸ more)
    · exact Or.inr ⟨same.trans equal, String.le_trans below above⟩

/-- Only the same operation stands both before and after another. -/
theorem pruneOrder_antisymm {first second : GuestOperationRecord}
    (forward : pruneOrder first second) (backward : pruneOrder second first) :
    first.id = second.id := by
  have text : ∀ left right : GuestOperationId, left.toText = right.toText → left = right := by
    rintro ⟨left⟩ ⟨right⟩ same
    exact congrArg GuestOperationId.mk (Uuid.toText_injective same)
  rcases forward with less | ⟨same, below⟩
  · rcases backward with more | ⟨same, _⟩
    · exact absurd less (Int.lt_asymm more)
    · rw [same] at less
      exact absurd less (Int.lt_irrefl _)
  · rcases backward with more | ⟨_, above⟩
    · rw [same] at more
      exact absurd more (Int.lt_irrefl _)
    · exact text _ _ (String.le_antisymm below above)

/-- The operations a prune considers, in its order. -/
def pruneQueue (cutoff : DateTime) (operations : List GuestOperationRecord) :
    List GuestOperationRecord :=
  (operations.insertionSort pruneOrder).filter (selected cutoff)

theorem strict_pruneQueue {cutoff : DateTime} (distinct : (operations.map (·.id)).Nodup) :
    Strict pruneOrder (pruneQueue cutoff operations) := by
  refine List.Pairwise.filter _ ?_
  have apart : (operations.insertionSort pruneOrder).Pairwise fun a b => a.id ≠ b.id := by
    have perm := (List.perm_insertionSort pruneOrder operations).map (·.id)
    exact List.pairwise_map.mp (perm.nodup_iff.mpr distinct)
  refine (List.pairwise_insertionSort pruneOrder operations).imp₂ ?_ apart
  exact fun a b ordered different =>
    ⟨ordered, fun backward => different (pruneOrder_antisymm ordered backward)⟩

/-- Tombstones before an operation are counted among all operations. -/
theorem ahead_pruneQueue {cutoff : DateTime} (operation : GuestOperationRecord) :
    ahead pruneOrder isRecovery (pruneQueue cutoff operations) operation =
      ahead pruneOrder isRecovery operations operation := by
  rw [← ahead_perm (List.perm_insertionSort pruneOrder operations) operation]
  unfold ahead pruneQueue
  rw [List.filter_filter]
  refine congrArg List.length (List.filter_congr fun other _ => ?_)
  unfold selected
  cases isRecovery other <;> simp

theorem mem_pruneQueue {cutoff : DateTime} {operation : GuestOperationRecord} :
    operation ∈ pruneQueue cutoff operations ∧ isRecovery operation = false ↔
      operation ∈ operations ∧ Expired cutoff operation := by
  unfold pruneQueue
  rw [List.mem_filter, List.mem_insertionSort]
  constructor
  · rintro ⟨⟨member, taken⟩, fresh⟩
    refine ⟨member, (selected_cases taken).resolve_left ?_⟩
    rw [fresh]
    exact Bool.false_ne_true
  · rintro ⟨member, expired⟩
    refine ⟨⟨member, ?_⟩, ?_⟩
    · unfold selected
      rw [isExpiredArtifact_iff.mpr expired, Bool.or_true]
    · unfold isRecovery
      rw [expired.unpruned]
      rfl

/-- In a root that can be pruned no tombstone is refused. -/
theorem Prunable.taken {cutoff : DateTime} {operation : GuestOperationRecord}
    (prunable : Prunable site s) (listed : s.listGuestOperations site = .ok operations)
    (queued : operation ∈ pruneQueue cutoff operations) : refused operation = false := by
  cases fresh : isRecovery operation with
  | true => simp [refused, fresh]
  | false =>
      obtain ⟨stored, expired⟩ := mem_pruneQueue.mp ⟨queued, fresh⟩
      have found := (Store.mem_listGuestOperations listed operation).mp stored
      simp [refused, prunable.plain _ operation found (by rw [expired.artifact]; rfl)]

end Queue

section Calls
variable {P : Type} {host : Host P} {site : Site} {w t : World P}
  {request : ArtifactPruneRequest} {operations : List GuestOperationRecord}

theorem Store.listGuestOperations_nodup {s : Store}
    (listed : s.listGuestOperations site = .ok operations) : (operations.map (·.id)).Nodup :=
  readJsonDirectory_nodup (fun _ _ valid => validateGuestOperationSchema_id valid)
    (Store.listGuestOperations_read listed)

/-- The time a call that starts in this world takes for the present. -/
def World.present (host : Host P) (w : World P) : DateTime := w.clock + (host.delay w.hidden : Int)

/-- What a call gets to: the front of the queue, up to a tombstone that is refused. -/
def served (cutoff : DateTime) (room : Nat) (operations : List GuestOperationRecord) :
    List GuestOperationRecord := accepted ((pruneQueue cutoff operations).take room)

/-- What a call does: it sweeps what it gets to; its report covers a whole batch. -/
structure Pruned (site : Site) (request : ArtifactPruneRequest)
    (operations : List GuestOperationRecord) (evaluatedAt cutoff : DateTime) (s t : Store)
    (result : Except EngineError ArtifactPruneReport) : Prop where
  swept : Swept site evaluatedAt (served cutoff request.maxArtifacts operations) s t
  described : ∀ report, result = .ok report →
    report.entries.map (fun entry => (entry.operationId, entry.disposition)) =
      (served cutoff request.maxArtifacts operations).map outcome

theorem meets_pruneArtifactsLocked (host : Host P) {evaluatedAt cutoff : DateTime} {clean : Prop}
    (wet : request.dryRun = false) (later : cutoff ≤ evaluatedAt) (dated : evaluatedAt ≤ w.clock)
    (loadable : Loadable site w.store) (listed : w.store.listGuestOperations site = .ok operations)
    (taken : clean → ∀ operation ∈ pruneQueue cutoff operations, refused operation = false) :
    Meets (host.handler site) (Careful site clean)
      (fun report t =>
        Pruned site request operations evaluatedAt cutoff w.store t.store (.ok report))
      (fun e t => Pruned site request operations evaluatedAt cutoff w.store t.store (.error e))
      (pruneArtifactsLocked request evaluatedAt cutoff) w := by
  have perm := List.perm_insertionSort pruneOrder operations
  refine Meets.bind (meets_query (fun _ => storable_query) (fun read again => ?_)
    fun _ failed => ?_)
  · obtain rfl := Except.ok.inj (listed.symm.trans again)
    refine Meets.bind (meets_pruneOperations wet later dated (Nat.zero_le _) loadable ?_ ?_ ?_
      (fun more t all described swept => ?_) fun e t swept => ?_)
    · intro operation member
      exact (Store.mem_listGuestOperations listed operation).mp (perm.mem_iff.mp member)
    · exact (perm.map _).nodup_iff.mpr (Store.listGuestOperations_nodup listed)
    · exact fun holds operation member => taken holds operation (List.mem_of_mem_take member)
    · refine Meets.pure ⟨swept, ?_⟩
      rintro report ⟨⟩
      refine described.trans ?_
      exact congrArg (List.map outcome) all.symm
    · exact ⟨swept, fun report impossible => by cases impossible⟩
  · cases listed.symm.trans failed

/-- A valid request takes the time and then the lock. -/
theorem run_valid_prune (request : ArtifactPruneRequest)
    (valid : validatePruneRequest request = .ok ()) :
    (pruneArtifacts request).run (host.handler site) false w =
      (mutationLocked (pruneArtifactsLocked request (w.present host)
        (w.present host - request.olderThan))).run (host.handler site) false
          { w with clock := w.present host } := by
  unfold pruneArtifacts
  rw [valid]
  rfl

theorem run_pruneArtifacts (host : Host P) (valid : validatePruneRequest request = .ok ())
    (wet : request.dryRun = false) (loadable : Loadable site w.store)
    (listed : w.store.listGuestOperations site = .ok operations) :
    ∃ result t, (pruneArtifacts request).run (host.handler site) false w = (some result, t) ∧
      Pruned site request operations (w.present host) (w.present host - request.olderThan) w.store
        t.store result := by
  have later : w.present host - request.olderThan ≤ w.present host :=
    Int.sub_le_self _ (Int.natCast_nonneg _)
  have taken : False → ∀ operation ∈
      pruneQueue (w.present host - request.olderThan) operations, refused operation = false :=
    False.elim
  have meets := meets_pruneArtifactsLocked host (w := { w with clock := w.present host }) wet
    later (le_refl _) loadable listed taken
  obtain ⟨result, t, runs, ends⟩ := run_locked meets
  refine ⟨result, t, (run_valid_prune request valid).trans runs, ?_⟩
  cases result with
  | error e => exact ends
  | ok report => exact ends

/-- An expired artifact is pruned: its operation gets the tombstone, and a report
of the call says so. -/
def PrunesOne (host : Host P) (site : Site) (request : ArtifactPruneRequest) (w : World P) : Prop :=
  ∃ result t operation,
    (pruneArtifacts request).run (host.handler site) false w = (some result, t) ∧
    w.store.operations.lookup operation.id = some operation ∧
    Expired (w.present host - request.olderThan) operation ∧
    t.store.operations.lookup operation.id = some (tombstoned operation (w.present host)) ∧
    ∀ report, result = .ok report → ∃ entry ∈ report.entries,
      entry.operationId = operation.id ∧ entry.disposition = .pruned

/-- The first expired artifact has a place in the batch and no command result. -/
structure Due (cutoff : DateTime) (room : Nat) (operations : List GuestOperationRecord)
    (operation : GuestOperationRecord) : Prop where
  member : operation ∈ operations
  expired : Expired cutoff operation
  first : ∀ other ∈ operations, Expired cutoff other → pruneOrder operation other
  space : ahead pruneOrder isRecovery operations operation < room
  plain : operation.withoutResult = true

theorem exists_due {cutoff : DateTime} {room : Nat} (distinct : (operations.map (·.id)).Nodup) :
    (∃ operation ∈ served cutoff room operations, isRecovery operation = false) ↔
      ∃ operation, Due cutoff room operations operation := by
  have sticks : ∀ operation, refused operation = true → isRecovery operation = false := by
    intro operation stuck
    unfold refused at stuck
    simpa using ((Bool.and_eq_true _ _).mp stuck).1
  unfold served accepted
  rw [(strict_pruneQueue distinct).exists_served sticks]
  constructor
  · rintro ⟨operation, member, fresh, first, space, taken⟩
    obtain ⟨stored, expired⟩ := mem_pruneQueue.mp ⟨member, fresh⟩
    refine ⟨operation, stored, expired, fun other inside old => ?_, ?_,
      withoutResult_of_taken fresh taken⟩
    · obtain ⟨queued, unpruned⟩ := mem_pruneQueue.mpr ⟨inside, old⟩
      exact first other queued unpruned
    · rwa [ahead_pruneQueue] at space
  · rintro ⟨operation, due⟩
    obtain ⟨queued, fresh⟩ := mem_pruneQueue.mpr ⟨due.member, due.expired⟩
    refine ⟨operation, queued, fresh, fun other inside unpruned => ?_, ?_, ?_⟩
    · obtain ⟨stored, old⟩ := mem_pruneQueue.mp ⟨inside, unpruned⟩
      exact due.first other stored old
    · rw [ahead_pruneQueue]
      exact due.space
    · simp [refused, due.plain]

theorem mem_queue_of_served {cutoff : DateTime} {room : Nat} {operation : GuestOperationRecord}
    (reached : operation ∈ served cutoff room operations) :
    operation ∈ (pruneQueue cutoff operations).take room := (List.takeWhile_prefix _).mem reached

theorem mem_of_served {cutoff : DateTime} {room : Nat} {operation : GuestOperationRecord}
    (reached : operation ∈ served cutoff room operations) (fresh : isRecovery operation = false) :
    operation ∈ operations ∧ Expired cutoff operation :=
  mem_pruneQueue.mp ⟨List.mem_of_mem_take (mem_queue_of_served reached), fresh⟩

theorem prunesOne_iff (valid : validatePruneRequest request = .ok ())
    (wet : request.dryRun = false) (loadable : Loadable site w.store)
    (listed : w.store.listGuestOperations site = .ok operations) :
    PrunesOne host site request w ↔ ∃ operation,
      Due (w.present host - request.olderThan) request.maxArtifacts operations operation := by
  obtain ⟨result, t, runs, swept, described⟩ :=
    run_pruneArtifacts host valid wet loadable listed
  rw [← exists_due (Store.listGuestOperations_nodup listed)]
  constructor
  · rintro ⟨other, u, operation, again, stored, expired, pruned, _⟩
    obtain ⟨⟨rfl⟩, rfl⟩ := Prod.mk.inj (runs.symm.trans again)
    by_contra none
    -- the call gets to no expired artifact, so this record is as it was
    rw [swept.kept operation.id fun other member fresh => absurd ⟨other, member, fresh⟩ none,
      stored] at pruned
    have marked := congrArg GuestOperationRecord.artifactPrunedAt (Option.some.inj pruned)
    cases expired.unpruned.symm.trans marked
  · rintro ⟨operation, reached, fresh⟩
    obtain ⟨member, expired⟩ := mem_of_served reached fresh
    refine ⟨result, t, operation, runs, (Store.mem_listGuestOperations listed operation).mp member,
      expired, swept.pruned operation reached fresh, fun report answered => ?_⟩
    have inside := List.mem_map_of_mem (f := outcome) reached
    rw [← described report answered] at inside
    obtain ⟨entry, reported, same⟩ := List.mem_map.mp inside
    refine ⟨entry, reported, congrArg Prod.fst same, ?_⟩
    have said := congrArg Prod.snd same
    rw [outcome, fresh] at said
    exact said

end Calls

section Repetition
variable {P : Type} {host : Host P} {site : Site} {w t : World P} {room : Nat} {cutoff : DateTime}
  {operations : List GuestOperationRecord} {operation : GuestOperationRecord}

/-- One call of the given batch size and cutoff, whatever it answers. -/
def Called (host : Host P) (site : Site) (room : Nat) (cutoff evaluatedAt : DateTime)
    (w t : World P) : Prop :=
  ∃ request result, request.maxArtifacts = room ∧ request.dryRun = false ∧
    validatePruneRequest request = .ok () ∧
    (pruneArtifacts request).run (host.handler site) false w = (some result, t) ∧
    w.present host = evaluatedAt ∧ evaluatedAt - request.olderThan = cutoff

theorem Called.swept {evaluatedAt : DateTime} (called : Called host site room cutoff evaluatedAt w t)
    (loadable : Loadable site w.store)
    (listed : w.store.listGuestOperations site = .ok operations) :
    Swept site evaluatedAt (served cutoff room operations) w.store t.store := by
  obtain ⟨request, result, rfl, wet, valid, runs, rfl, rfl⟩ := called
  obtain ⟨other, u, again, swept, _⟩ := run_pruneArtifacts host valid wet loadable listed
  obtain ⟨_, rfl⟩ := Prod.mk.inj (runs.symm.trans again)
  exact swept

/-- A number of calls, each related to the next world as given. -/
inductive Calls (call : World P → World P → Prop) : Nat → World P → World P → Prop where
  | none {w : World P} : Calls call 0 w w
  | more {count : Nat} {w t u : World P} : call w t → Calls call count t u →
      Calls call (count + 1) w u

variable {evaluatedAt : DateTime} {taken : List GuestOperationRecord}

/-- What a sweep leaves of an operation: a tombstone of its own time, or what was
there. -/
theorem Swept.cases {s t : Store} (swept : Swept site evaluatedAt taken s t)
    (found : t.operations.lookup operation.id = some operation) :
    operation.artifactPrunedAt = some evaluatedAt ∧ operation.updatedAt = evaluatedAt ∨
      s.operations.lookup operation.id = some operation ∧
        ∀ other ∈ taken, isRecovery other = false → other.id ≠ operation.id := by
  by_cases hit : ∃ other ∈ taken, isRecovery other = false ∧ other.id = operation.id
  · obtain ⟨other, member, fresh, same⟩ := hit
    have tombstone := swept.pruned other member fresh
    rw [same, found] at tombstone
    rw [Option.some.inj tombstone]
    exact Or.inl ⟨rfl, rfl⟩
  · have elsewhere : ∀ other ∈ taken, isRecovery other = false → other.id ≠ operation.id :=
      fun other member fresh same => hit ⟨other, member, fresh, same⟩
    exact Or.inr ⟨(swept.kept _ elsewhere).symm.trans found, elsewhere⟩

/-- New tombstones are younger than everything that had expired. -/
theorem Swept.ahead {s t : Store} {before after : List GuestOperationRecord}
    (swept : Swept site evaluatedAt taken s t) (later : cutoff < evaluatedAt)
    (stored : ∀ other ∈ taken, isRecovery other = false → other ∈ before)
    (listedBefore : s.listGuestOperations site = .ok before)
    (listedAfter : t.listGuestOperations site = .ok after) (expired : operation.updatedAt ≤ cutoff) :
    Interaction.ahead pruneOrder isRecovery after operation =
      Interaction.ahead pruneOrder isRecovery before operation := by
  refine List.Perm.length_eq ((List.perm_ext_iff_of_nodup ?_ ?_).mpr ?_)
  · exact (Store.listGuestOperations_nodup listedAfter).of_map.filter _
  · exact (Store.listGuestOperations_nodup listedBefore).of_map.filter _
  · intro other
    simp only [List.mem_filter, Bool.and_eq_true, decide_eq_true_eq,
      Store.mem_listGuestOperations listedAfter, Store.mem_listGuestOperations listedBefore]
    constructor
    · rintro ⟨found, recovery, ordered⟩
      rcases swept.cases found with ⟨_, young⟩ | ⟨there, _⟩
      · -- a tombstone of this sweep is dated after the cutoff
        have impossible : ¬pruneOrder other operation := by
          rintro (less | ⟨same, _⟩)
          · rw [young] at less
            exact absurd (Int.lt_trans less (Int.lt_of_le_of_lt expired later)) (Int.lt_irrefl _)
          · rw [young] at same
            rw [← same] at expired
            exact absurd (Int.lt_of_lt_of_le later expired) (Int.lt_irrefl _)
        exact absurd ordered impossible
      · exact ⟨there, recovery, ordered⟩
    · rintro ⟨found, recovery, ordered⟩
      refine ⟨?_, recovery, ordered⟩
      rw [swept.kept other.id, found]
      intro third member fresh same
      have again := (Store.mem_listGuestOperations listedBefore third).mp (stored third member fresh)
      rw [same, found] at again
      rw [Option.some.inj again, fresh] at recovery
      cases recovery

/-- The expired artifacts among the operations. -/
def backlog (cutoff : DateTime) (operations : List GuestOperationRecord) :
    List GuestOperationRecord := operations.filter (isExpiredArtifact cutoff)

theorem mem_backlog :
    operation ∈ backlog cutoff operations ↔ operation ∈ operations ∧ Expired cutoff operation := by
  unfold backlog
  rw [List.mem_filter, isExpiredArtifact_iff]

theorem backlog_nodup {s : Store} (cutoff : DateTime)
    (listed : s.listGuestOperations site = .ok operations) :
    (backlog cutoff operations).Nodup :=
  (Store.listGuestOperations_nodup listed).of_map.filter _

/-- No expired artifact is left. -/
def Drained (site : Site) (cutoff : DateTime) (s : Store) : Prop :=
  ∃ operations, s.listGuestOperations site = .ok operations ∧ backlog cutoff operations = []

/-- As long as there is an expired artifact, the first one is due. -/
def Serves (site : Site) (cutoff : DateTime) (room : Nat) (s : Store) : Prop :=
  ∀ operations, s.listGuestOperations site = .ok operations → backlog cutoff operations ≠ [] →
    ∃ operation, Due cutoff room operations operation

section Step
variable {s t : Store} {before after : List GuestOperationRecord}

/-- A sweep adds nothing to the backlog, and takes what it prunes out of it. -/
theorem Swept.backlog (swept : Swept site evaluatedAt taken s t)
    (listedBefore : s.listGuestOperations site = .ok before)
    (listedAfter : t.listGuestOperations site = .ok after)
    (member : operation ∈ VmCell.backlog cutoff after) :
    operation ∈ VmCell.backlog cutoff before ∧
      ∀ other ∈ taken, isRecovery other = false → other.id ≠ operation.id := by
  obtain ⟨listed, expired⟩ := mem_backlog.mp member
  have found := (Store.mem_listGuestOperations listedAfter operation).mp listed
  rcases swept.cases found with ⟨pruned, _⟩ | ⟨there, elsewhere⟩
  · rw [expired.unpruned] at pruned
    cases pruned
  · have stored := (Store.mem_listGuestOperations listedBefore operation).mpr there
    exact ⟨mem_backlog.mpr ⟨stored, expired⟩, elsewhere⟩

theorem Swept.backlog_length (swept : Swept site evaluatedAt taken s t)
    (listedBefore : s.listGuestOperations site = .ok before)
    (listedAfter : t.listGuestOperations site = .ok after) :
    (VmCell.backlog cutoff after).length ≤ (VmCell.backlog cutoff before).length := by
  have within : VmCell.backlog cutoff after ⊆ VmCell.backlog cutoff before :=
    fun operation member => (swept.backlog listedBefore listedAfter member).1
  exact (List.subperm_of_subset (backlog_nodup cutoff listedAfter) within).length_le

/-- A call that finds an expired artifact due makes the backlog shorter. -/
theorem Swept.backlog_lt (swept : Swept site evaluatedAt (served cutoff room before) s t)
    (listedBefore : s.listGuestOperations site = .ok before)
    (listedAfter : t.listGuestOperations site = .ok after)
    (due : ∃ operation, Due cutoff room before operation) :
    (VmCell.backlog cutoff after).length < (VmCell.backlog cutoff before).length := by
  obtain ⟨first, reached, fresh⟩ :=
    (exists_due (Store.listGuestOperations_nodup listedBefore)).mpr due
  have waiting : first ∈ VmCell.backlog cutoff before := mem_backlog.mpr (mem_of_served reached fresh)
  have gone : first ∉ VmCell.backlog cutoff after := fun member =>
    (swept.backlog listedBefore listedAfter member).2 first reached fresh rfl
  have within : first :: VmCell.backlog cutoff after ⊆ VmCell.backlog cutoff before :=
    List.cons_subset.mpr
      ⟨waiting, fun operation member => (swept.backlog listedBefore listedAfter member).1⟩
  have distinct := List.nodup_cons.mpr ⟨gone, backlog_nodup cutoff listedAfter⟩
  exact (List.subperm_of_subset distinct within).length_le

/-- How many tombstones stand before an expired artifact is the same after a call
that is evaluated after the cutoff. -/
theorem Swept.ahead_backlog (swept : Swept site evaluatedAt (served cutoff room before) s t)
    (loadable : Loadable site s) (later : cutoff < evaluatedAt)
    (listedBefore : s.listGuestOperations site = .ok before)
    (listedAfter : t.listGuestOperations site = .ok after)
    (member : operation ∈ VmCell.backlog cutoff before) :
    Interaction.ahead pruneOrder isRecovery after operation =
      Interaction.ahead pruneOrder isRecovery before operation := by
  obtain ⟨listed, expired⟩ := mem_backlog.mp member
  have found := (Store.mem_listGuestOperations listedBefore operation).mp listed
  have updated := expired.updated (loadable.legible.operations _ operation found).1
  exact swept.ahead later (fun other reached fresh => (mem_of_served reached fresh).1) listedBefore
    listedAfter updated.2.2

/-- What has no place in the batch, or whose tombstone is refused, stays in the backlog. -/
theorem Swept.starved (swept : Swept site evaluatedAt (served cutoff room before) s t)
    (listedBefore : s.listGuestOperations site = .ok before)
    (listedAfter : t.listGuestOperations site = .ok after)
    (member : operation ∈ VmCell.backlog cutoff before)
    (blocked : ¬(Interaction.ahead pruneOrder isRecovery before operation < room ∧
      operation.withoutResult = true)) :
    operation ∈ VmCell.backlog cutoff after := by
  obtain ⟨listed, expired⟩ := mem_backlog.mp member
  have found := (Store.mem_listGuestOperations listedBefore operation).mp listed
  refine mem_backlog.mpr ⟨(Store.mem_listGuestOperations listedAfter operation).mpr ?_, expired⟩
  rw [swept.kept operation.id, found]
  intro other reached fresh same
  have again := (Store.mem_listGuestOperations listedBefore other).mp (mem_of_served reached fresh).1
  rw [same, found] at again
  obtain rfl := Option.some.inj again
  refine blocked ⟨?_, withoutResult_of_taken fresh (by simpa using List.mem_takeWhile_imp reached)⟩
  rw [← ahead_pruneQueue]
  exact (strict_pruneQueue (Store.listGuestOperations_nodup listedBefore)).ahead_lt fresh
    (mem_queue_of_served reached)

end Step

/-- A call in a world where the first expired artifact is due. -/
def Fed (host : Host P) (site : Site) (room : Nat) (cutoff : DateTime) (w t : World P) : Prop :=
  Serves site cutoff room w.store ∧ ∃ evaluatedAt, Called host site room cutoff evaluatedAt w t

/-- A call that is evaluated after the cutoff. -/
def Later (host : Host P) (site : Site) (room : Nat) (cutoff : DateTime) (w t : World P) : Prop :=
  ∃ evaluatedAt, cutoff < evaluatedAt ∧ Called host site room cutoff evaluatedAt w t

theorem Calls.drains {count : Nat} (calls : Calls (Fed host site room cutoff) count w t)
    (loadable : Loadable site w.store) (listed : w.store.listGuestOperations site = .ok operations)
    (enough : (backlog cutoff operations).length ≤ count) : Drained site cutoff t.store := by
  induction calls generalizing operations with
  | none => exact ⟨operations, listed, List.length_eq_zero_iff.mp (Nat.le_zero.mp enough)⟩
  | more fed _ ih =>
      obtain ⟨serves, evaluatedAt, called⟩ := fed
      have swept := called.swept loadable listed
      obtain ⟨after, listedAfter⟩ := swept.loadable.legible.listGuestOperations
      refine ih swept.loadable listedAfter ?_
      -- a call shortens the backlog, or there is none and it makes none
      by_cases empty : backlog cutoff operations = []
      · have short : (backlog cutoff after).length ≤ (backlog cutoff operations).length :=
          swept.backlog_length listed listedAfter
        rw [empty] at short
        exact short.trans (Nat.zero_le _)
      · have shorter := swept.backlog_lt listed listedAfter (serves operations listed empty)
        omega

/-- Among expired artifacts that all have a place and no command result, the first
is due. -/
theorem exists_due_of_backlog (waiting : backlog cutoff operations ≠ [])
    (fit : ∀ operation ∈ backlog cutoff operations,
      ahead pruneOrder isRecovery operations operation < room ∧ operation.withoutResult = true) :
    ∃ operation, Due cutoff room operations operation := by
  have sorted := List.pairwise_insertionSort pruneOrder (backlog cutoff operations)
  have mem : ∀ {operation}, operation ∈ (backlog cutoff operations).insertionSort pruneOrder ↔
      operation ∈ backlog cutoff operations := List.mem_insertionSort _
  cases queue : (backlog cutoff operations).insertionSort pruneOrder with
  | nil =>
      obtain ⟨operation, member⟩ := List.exists_mem_of_ne_nil _ waiting
      rw [← mem, queue] at member
      cases member
  | cons first rest =>
      rw [queue] at sorted mem
      have member := mem.mp List.mem_cons_self
      obtain ⟨stored, expired⟩ := mem_backlog.mp member
      obtain ⟨space, plain⟩ := fit first member
      refine ⟨first, stored, expired, fun other inside old => ?_, space, plain⟩
      rcases List.mem_cons.mp (mem.mpr (mem_backlog.mpr ⟨inside, old⟩)) with rfl | behind
      · exact (Std.Total.total other other).elim id id
      · exact (List.pairwise_cons.mp sorted).1 other behind

/-- Whether every expired artifact has a place is the same in every world of a run. -/
theorem Calls.fed {count : Nat} (calls : Calls (Later host site room cutoff) count w t)
    (loadable : Loadable site w.store) (listed : w.store.listGuestOperations site = .ok operations)
    (fit : ∀ operation ∈ backlog cutoff operations,
      ahead pruneOrder isRecovery operations operation < room ∧ operation.withoutResult = true) :
    Calls (Fed host site room cutoff) count w t := by
  induction calls generalizing operations with
  | none => exact .none
  | more call _ ih =>
      obtain ⟨evaluatedAt, later, called⟩ := call
      have swept := called.swept loadable listed
      obtain ⟨after, listedAfter⟩ := swept.loadable.legible.listGuestOperations
      refine .more ⟨?_, evaluatedAt, called⟩ (ih swept.loadable listedAfter ?_)
      · intro again relisted waiting
        obtain rfl := Except.ok.inj (listed.symm.trans relisted)
        exact exists_due_of_backlog waiting fit
      · intro operation member
        have earlier := (swept.backlog listed listedAfter member).1
        rw [swept.ahead_backlog loadable later listed listedAfter earlier]
        exact fit operation earlier

theorem Calls.starves {count : Nat} (calls : Calls (Later host site room cutoff) count w t)
    (loadable : Loadable site w.store) (listed : w.store.listGuestOperations site = .ok operations)
    (member : operation ∈ backlog cutoff operations)
    (blocked : ¬(ahead pruneOrder isRecovery operations operation < room ∧
      operation.withoutResult = true)) :
    ¬Drained site cutoff t.store := by
  induction calls generalizing operations with
  | none =>
      rintro ⟨again, relisted, empty⟩
      obtain rfl := Except.ok.inj (listed.symm.trans relisted)
      rw [empty] at member
      cases member
  | more call _ ih =>
      obtain ⟨evaluatedAt, later, called⟩ := call
      have swept := called.swept loadable listed
      obtain ⟨after, listedAfter⟩ := swept.loadable.legible.listGuestOperations
      -- it stays in the backlog, with as many tombstones before it
      refine ih swept.loadable listedAfter (swept.starved listed listedAfter member blocked) ?_
      rwa [swept.ahead_backlog loadable later listed listedAfter member]

/-- A call prunes an expired artifact exactly when the first one has fewer tombstones
before it than the batch has places, whether or not those tombstones still have a
directory, and its record no command result. In a run of calls with one cutoff the
backlog is empty after as many calls as it is long when each of them meets that
condition; and when they are evaluated after the cutoff, exactly when every expired
artifact was such at first. -/
theorem prune_makes_progress {request : ArtifactPruneRequest}
    (valid : validatePruneRequest request = .ok ()) (wet : request.dryRun = false)
    (loadable : Loadable site w.store)
    (listed : w.store.listGuestOperations site = .ok operations)
    (cutoffs : cutoff = w.present host - request.olderThan) :
    (PrunesOne host site request w ↔
        ∃ operation, Due cutoff request.maxArtifacts operations operation) ∧
      (∀ count t, Calls (Fed host site request.maxArtifacts cutoff) count w t →
        (backlog cutoff operations).length ≤ count → Drained site cutoff t.store) ∧
      ∀ count t, Calls (Later host site request.maxArtifacts cutoff) count w t →
        (backlog cutoff operations).length ≤ count →
          (Drained site cutoff t.store ↔ ∀ operation ∈ backlog cutoff operations,
            ahead pruneOrder isRecovery operations operation < request.maxArtifacts ∧
              operation.withoutResult = true) := by
  subst cutoffs
  refine ⟨prunesOne_iff valid wet loadable listed, fun count t calls enough => ?_,
    fun count t calls enough => ⟨fun drained operation member => ?_, fun fit => ?_⟩⟩
  · exact calls.drains loadable listed enough
  · by_contra blocked
    exact calls.starves loadable listed member blocked drained
  · exact (calls.fed loadable listed fit).drains loadable listed enough

end Repetition

namespace Exemplar

/-- Every expired artifact has one tombstone before it, and no tombstone has a
directory. -/
def waits (s : Store) (operations : List GuestOperationRecord) : Bool :=
  operations.any (fun operation => isExpiredArtifact 5 operation) &&
    operations.all fun operation =>
      (isExpiredArtifact 5 operation → ahead pruneOrder isRecovery operations operation = 1) ∧
        (isRecovery operation → s.artifacts.lookup (operation.cellId, operation.id) = none)

/-- One artifact was collected and pruned, and then another was collected. -/
theorem starved : ∃ s operations operation, Prunable site s ∧
    s.listGuestOperations site = .ok operations ∧ operation ∈ operations ∧ Expired 5 operation ∧
    (∀ other ∈ operations, Expired 5 other →
      ahead pruneOrder isRecovery operations other = 1) ∧
    ∀ other ∈ operations, isRecovery other = true →
      s.artifacts.lookup (other.cellId, other.id) = none := by
  obtain ⟨s, reaches, lists⟩ := reaches
    (running ++ [(collect, 25), (.prune ⟨0, 1, false⟩, 8), (collect, 25)])
    (fun s => (s.listGuestOperations site).toOption.any (waits s)) (by decide +kernel)
  have prunable : Prunable site s :=
    prunable_of_reaches (Config.empty_idle Store.empty) rfl reaches
  obtain ⟨operations, listed, both⟩ := (Option.any_eq_true _ _).mp lists
  obtain ⟨some, all⟩ := (Bool.and_eq_true _ _).mp both
  obtain ⟨operation, member, expired⟩ := List.any_eq_true.mp some
  refine ⟨s, operations, operation, prunable, toOption_some listed, member,
    isExpiredArtifact_iff.mp expired, fun other within old => ?_, fun other within recovery => ?_⟩
  · exact (of_decide_eq_true (List.all_eq_true.mp all other within)).1
      (isExpiredArtifact_iff.mpr old)
  · exact (of_decide_eq_true (List.all_eq_true.mp all other within)).2 recovery

end Exemplar

theorem prune_makes_progress_past_tombstone :
    ∃ s, Loadable Exemplar.site s ∧
      PrunesOne Exemplar.host Exemplar.site ⟨0, 2, false⟩ (Exemplar.world s .running) := by
  obtain ⟨s, operations, operation, prunable, listed, member, expired, before, _⟩ :=
    Exemplar.starved
  have waiting : operation ∈ backlog 5 operations := mem_backlog.mpr ⟨member, expired⟩
  refine ⟨s, prunable.loadable, (prune_makes_progress (w := Exemplar.world s .running) rfl rfl
    prunable.loadable listed rfl).1.mpr (exists_due_of_backlog (List.ne_nil_of_mem waiting) ?_)⟩
  intro other within
  obtain ⟨stored, old⟩ := mem_backlog.mp within
  have found := (Store.mem_listGuestOperations listed other).mp stored
  have space : (1 : Nat) < 2 := by decide
  exact ⟨(before other stored old).trans_lt space,
    prunable.plain _ other found (by rw [old.artifact]; rfl)⟩

/-- A tombstone without a directory takes the only place of the batch. -/
theorem tombstone_takes_batch_slot :
    ∃ s operations operation, Prunable Exemplar.site s ∧
      s.listGuestOperations Exemplar.site = .ok operations ∧
      operation ∈ operations ∧ Expired 5 operation ∧
      (∀ other ∈ operations, isRecovery other = true →
        s.artifacts.lookup (other.cellId, other.id) = none) ∧
      ¬PrunesOne Exemplar.host Exemplar.site ⟨0, 1, false⟩ (Exemplar.world s .running) := by
  obtain ⟨s, operations, operation, prunable, listed, member, expired, before, gone⟩ :=
    Exemplar.starved
  refine ⟨s, operations, operation, prunable, listed, member, expired, gone, ?_⟩
  rw [prunesOne_iff (w := Exemplar.world s .running) rfl rfl prunable.loadable listed]
  rintro ⟨other, due⟩
  have room := due.space
  rw [before other due.member due.expired] at room
  cases Nat.not_lt.mpr (le_refl 1) room

end VmCell
