import VmCell.Engine.Recovery
import VmCell.Engine.Rules

/-! Reconciliation of interrupted operations and pruning keep the discipline. -/

set_option autoImplicit false
namespace VmCell

open Interaction Fallible

section Inspection

theorem passive_inspectArtifact {site : Site} {cellId : CellId} {operationId : GuestOperationId} :
    Passive (I := signature) Free (inspectArtifact site cellId operationId) :=
  passive_query.bind fun _ => Passive.lift.bind fun _ => Passive.lift.bind fun _ => passive_query

end Inspection

section Reconciliation
variable {env : Environment} {i : Pid} {s : Store}

theorem within_reconcileLoaded {operation : GuestOperationRecord}
    (stored : s.operations.lookup operation.id = some operation) :
    Within (env.effects i) (Allowed env i) (fun _ _ => True) (fun _ _ => True)
      (reconcileLoaded operation) s := by
  unfold reconcileLoaded
  split
  · exact Within.pure trivial
  · exact Within.pure trivial
  · exact Within.pure trivial
  · rename_i phase
    refine Within.bind (within_now trivial fun time => ?_)
    have permitted : OperationWrite env.site s (interruptedOperation operation time) :=
      Or.inr ⟨operation, stored, ⟨rfl, rfl, rfl, rfl, rfl, rfl⟩, .failed (Or.inl phase) rfl rfl⟩
    exact Within.bind (within_mutate permitted (fun _ _ _ => Within.pure trivial)
      fun _ _ _ => trivial)
  · rename_i phase
    refine Within.bind (Within.lift (fun _ _ => ?_) fun _ _ => trivial)
    refine Within.bind (within_query trivial (fun _ _ => ?_) fun _ => trivial)
    refine Within.bind (within_now trivial fun time => ?_)
    have permitted : OperationWrite env.site s (recoveredOperation operation time) :=
      Or.inr ⟨operation, stored, ⟨rfl, rfl, rfl, rfl, rfl, rfl⟩, .finished time phase rfl⟩
    exact Within.bind (within_mutate permitted (fun _ _ _ => Within.pure trivial)
      fun _ _ _ => trivial)

theorem within_reconcileGuestOperationLocked {operationId : GuestOperationId} :
    Within (env.effects i) (Allowed env i) (fun _ _ => True) (fun _ _ => True)
      (reconcileGuestOperationLocked operationId) s := by
  unfold reconcileGuestOperationLocked
  refine Within.bind (within_query trivial (fun operation loaded => ?_) fun _ => trivial)
  obtain ⟨stored, valid, _⟩ := Store.loadGuestOperation_ok loaded
  rw [← validateGuestOperationSchema_id valid] at stored
  refine Within.bind (within_query trivial (fun _ _ => ?_) fun _ => trivial)
  exact within_reconcileLoaded stored

end Reconciliation

section Pruning
variable {env : Environment} {i : Pid} {s : Store}

theorem passive_pruneBytes {operation : GuestOperationRecord} :
    Passive (I := signature) Free (pruneBytes operation) := by
  refine passive_query.bind fun (present : Bool) => ?_
  exact .ite .pure (.ite (passive_query.bind fun _ => .lift) .fail)

/-- Operations still to be looked at are on disk as they were listed. -/
structure Unvisited (s : Store) (operations : List GuestOperationRecord) : Prop where
  stored : ∀ operation ∈ operations, s.operations.lookup operation.id = some operation
  distinct : (operations.map (·.id)).Nodup

theorem Unvisited.tail {operation : GuestOperationRecord} {rest : List GuestOperationRecord}
    (known : Unvisited s (operation :: rest)) : Unvisited s rest where
  stored := fun other member => known.stored other (List.mem_cons_of_mem _ member)
  distinct := (List.nodup_cons.mp known.distinct).2

/-- A visit changes the record of the operation that is visited. -/
theorem Unvisited.visited {t : Store} {operation : GuestOperationRecord}
    {rest : List GuestOperationRecord} (known : Unvisited s (operation :: rest))
    (others : ∀ id, id ≠ operation.id → t.operations.lookup id = s.operations.lookup id) :
    Unvisited t rest where
  stored := by
    intro other member
    rw [others other.id]
    · exact known.tail.stored other member
    · intro same
      have absent : operation.id ∉ rest.map (·.id) := (List.nodup_cons.mp known.distinct).1
      exact absent (same ▸ List.mem_map_of_mem member)
  distinct := known.tail.distinct

theorem unvisited_of_listed {site : Site} {operations : List GuestOperationRecord}
    (listed : s.listGuestOperations site = .ok operations) :
    Unvisited s (operations.insertionSort pruneOrder) where
  stored := by
    intro operation member
    exact (Store.mem_listGuestOperations listed operation).mp
      ((List.mem_insertionSort pruneOrder).mp member)
  distinct := by
    have distinct : (operations.map (·.id)).Nodup :=
      readJsonDirectory_nodup (fun _ _ valid => validateGuestOperationSchema_id valid)
        (Store.listGuestOperations_read listed)
    exact (((List.perm_insertionSort pruneOrder operations).map (·.id)).nodup_iff).mpr distinct

/-- The files of a tombstoned operation may go. -/
theorem within_removeArtifactRoot {operation : GuestOperationRecord}
    (marked : GuestOperationRecord) {good : Bool → Store → Prop}
    (stored : s.operations.lookup operation.id = some marked)
    (bound : marked.cellId = operation.cellId) (pruned : marked.artifactPrunedAt.isSome = true)
    (ok : ∀ removed t, t.operations = s.operations → good removed t) :
    Within (env.effects i) (Allowed env i) good (fun _ _ => True)
      (mutate (.removeArtifactRoot operation.cellId operation.id)) s := by
  refine within_mutate ⟨marked, stored, bound, pruned⟩ (fun removed t applied => ?_)
    fun _ _ _ => trivial
  rcases (change_of_apply applied).operations with same | ⟨_, same, _⟩
  · exact ok removed t same
  · cases same

theorem within_pruneArtifact {evaluatedAt cutoff : DateTime} {operation : GuestOperationRecord}
    {good : ArtifactPruneDisposition → Store → Prop}
    (stored : s.operations.lookup operation.id = some operation)
    (eligible : (isRecovery operation || isExpiredArtifact cutoff operation) = true)
    (ok : ∀ disposition t, (∀ id, id ≠ operation.id →
      t.operations.lookup id = s.operations.lookup id) → good disposition t) :
    Within (env.effects i) (Allowed env i) good (fun _ _ => True)
      (pruneArtifact evaluatedAt operation) s := by
  unfold pruneArtifact
  refine Within.ite (fun recovery => ?_) fun fresh => ?_
  · refine Within.bind (within_removeArtifactRoot operation stored rfl recovery fun _ t same => ?_)
    exact Within.pure (ok _ t fun id _ => by rw [same])
  · have expired : isExpiredArtifact cutoff operation = true := by
      simpa [fresh] using eligible
    simp only [isExpiredArtifact, Bool.and_eq_true, decide_eq_true_eq, Option.isNone_iff_eq_none]
      at expired
    obtain ⟨⟨⟨completed, artifact⟩, unpruned⟩, _⟩ := expired
    have permitted : OperationWrite env.site s (tombstoned operation evaluatedAt) :=
      Or.inr ⟨operation, stored, ⟨rfl, rfl, rfl, rfl, rfl, rfl⟩,
        .pruned evaluatedAt completed artifact unpruned rfl⟩
    refine Within.bind (within_mutate permitted (fun _ t saved => ?_) fun _ _ _ => trivial)
    obtain ⟨_, _, _, rfl⟩ := Store.saveGuestOperation_ok (written_ok.mp saved)
    refine Within.bind (within_removeArtifactRoot (tombstoned operation evaluatedAt)
      (AList.lookup_insert _) rfl rfl fun _ u same => ?_)
    refine Within.pure (ok _ u fun id other => ?_)
    rw [same]
    exact AList.lookup_insert_ne other

theorem within_pruneOperation {evaluatedAt cutoff : DateTime} {dryRun : Bool}
    {operation : GuestOperationRecord} {good : ArtifactPruneEntry → Store → Prop}
    (stored : s.operations.lookup operation.id = some operation)
    (eligible : (isRecovery operation || isExpiredArtifact cutoff operation) = true)
    (ok : ∀ entry t, (∀ id, id ≠ operation.id →
      t.operations.lookup id = s.operations.lookup id) → good entry t) :
    Within (env.effects i) (Allowed env i) good (fun _ _ => True)
      (pruneOperation dryRun evaluatedAt operation) s := by
  unfold pruneOperation pruneDisposition
  refine Within.bind (within_query trivial (fun _ _ => ?_) fun _ => trivial)
  refine Within.bind (within_passive passive_pruneBytes (fun _ free => free.allowed)
    (fun bytes => ?_) fun _ => trivial)
  refine Within.bind (Within.ite (fun _ => Within.pure ?_) fun _ => ?_)
  · exact Within.pure (ok _ s fun _ _ => rfl)
  · exact within_pruneArtifact stored eligible fun _ t others => Within.pure (ok _ t others)

theorem within_pruneOperations {request : ArtifactPruneRequest} {evaluatedAt cutoff : DateTime}
    {operations : List GuestOperationRecord} {entries : List ArtifactPruneEntry}
    (known : Unvisited s operations) :
    Within (env.effects i) (Allowed env i) (fun _ _ => True) (fun _ _ => True)
      (pruneOperations request evaluatedAt cutoff operations entries) s := by
  induction operations generalizing s entries with
  | nil => exact Within.pure trivial
  | cons operation rest ih =>
      unfold pruneOperations
      refine Within.ite (fun _ => ih known.tail) fun eligible => ?_
      refine Within.ite (fun _ => Within.pure trivial) fun _ => ?_
      exact Within.bind (within_pruneOperation (known.stored operation List.mem_cons_self)
        (Bool.not_eq_false _ ▸ eligible) fun _ t others => ih (known.visited others))

theorem within_pruneArtifactsLocked {request : ArtifactPruneRequest}
    {evaluatedAt cutoff : DateTime} :
    Within (env.effects i) (Allowed env i) (fun _ _ => True) (fun _ _ => True)
      (pruneArtifactsLocked request evaluatedAt cutoff) s := by
  unfold pruneArtifactsLocked
  refine Within.bind (within_query trivial (fun operations listed => ?_) fun _ => trivial)
  refine Within.bind ((within_pruneOperations (unvisited_of_listed listed)).weaken
    (fun _ _ _ => ?_) fun _ _ _ => trivial)
  exact Within.pure trivial

end Pruning

end VmCell
