import VmCell.Properties.Pruning

/-! A dry run of a prune reports what the prune itself does.

What an operation weighs is read from the store; the entries before it change neither
that nor whether its tombstone can be written.
-/

set_option autoImplicit false
namespace VmCell

open Interaction Fallible

section Weights
variable {site : Site} {s t : Store} {operation other : GuestOperationRecord}
  {evaluatedAt cutoff : DateTime}

/-- What a prune reads of an operation that it takes: its parent and the size of its artifact. -/
def weigh (site : Site) (s : Store) (operation : GuestOperationRecord) :
    Except EngineError Nat := do
  (s.requireGuestOperationParentForMutation site operation).mapError .state
  if isRecovery operation then .ok 0
  else if s.artifactRootExists operation.cellId operation.id then do
    let artifact ← (s.loadArtifact site operation.cellId operation.id).mapError .state
    artifactBytes artifact
  else .error (.integrity "completed artifact operation is missing its artifact root")

/-- Two stores that a prune cannot tell apart at an operation. -/
structure SameAt (operation : GuestOperationRecord) (s t : Store) : Prop where
  cells : t.cells = s.cells
  record : t.operations.lookup operation.id = s.operations.lookup operation.id
  artifact : t.artifacts.lookup (operation.cellId, operation.id) =
    s.artifacts.lookup (operation.cellId, operation.id)

theorem loadCell_congr {cellId : CellId} (cells : t.cells = s.cells) :
    t.loadCell site cellId = s.loadCell site cellId := by
  unfold Store.loadCell Store.validateUniqueCellJobId Store.readCells
  rw [cells]

theorem requireParent_congr (cells : t.cells = s.cells) :
    t.requireGuestOperationParentForMutation site operation =
      s.requireGuestOperationParentForMutation site operation := by
  unfold Store.requireGuestOperationParentForMutation Store.validateOperationParentBindingForWrite
  rw [loadCell_congr cells]

theorem loadGuestOperation_congr {id : GuestOperationId} (cells : t.cells = s.cells)
    (record : t.operations.lookup id = s.operations.lookup id) :
    t.loadGuestOperation site id = s.loadGuestOperation site id := by
  unfold Store.loadGuestOperation Store.validateOperationParentBinding
  rw [record]
  simp only [loadCell_congr cells]

theorem SameAt.weigh (same : SameAt operation s t) :
    weigh site t operation = VmCell.weigh site s operation := by
  unfold VmCell.weigh Store.artifactRootExists
  rw [requireParent_congr same.cells, same.artifact,
    Store.loadArtifact_congr same.artifact (loadGuestOperation_congr same.cells same.record)]

/-- What is listed reads back, also beside what has changed elsewhere. -/
theorem SameAt.reads (same : SameAt operation s t)
    (reads : s.loadGuestOperation site operation.id = .ok operation) :
    t.loadGuestOperation site operation.id = .ok operation :=
  (loadGuestOperation_congr same.cells same.record).trans reads

/-- What can be weighed can be given its tombstone, unless it has a command result too. -/
theorem tombstone_saved {bytes : Nat} (reads : s.loadGuestOperation site operation.id = .ok operation)
    (weighs : weigh site s operation = .ok bytes) (plain : operation.withoutResult = true)
    (expired : Expired cutoff operation) (later : cutoff ≤ evaluatedAt) :
    s.saveGuestOperation site (tombstoned operation evaluatedAt) = .ok { s with
      operations := s.operations.insert operation.id (tombstoned operation evaluatedAt) } := by
  obtain ⟨-, valid, -⟩ := Store.loadGuestOperation_ok reads
  have schema : validateGuestOperationSchema site (tombstoned operation evaluatedAt).id
      (tombstoned operation evaluatedAt) = .ok () := tombstoned_valid valid plain expired later
  have kept : s.ensureOperationJobKept site (tombstoned operation evaluatedAt) = .ok () := by
    unfold Store.ensureOperationJobKept
    rw [show (tombstoned operation evaluatedAt).id = operation.id from rfl, reads]
    exact if_pos rfl
  have parent : s.requireGuestOperationParentForMutation site (tombstoned operation evaluatedAt) =
      .ok () := by
    unfold weigh at weighs
    obtain ⟨found, -⟩ := bind_unit_ok.mp weighs
    cases required : s.requireGuestOperationParentForMutation site operation with
    | ok => exact required
    | error failure =>
        rw [required] at found
        cases found
  unfold Store.saveGuestOperation
  rw [schema, kept, parent]
  rfl

end Weights

section Clearing
variable {s t u : Store} {evaluatedAt : DateTime} {operation : GuestOperationRecord}
  {taken : List GuestOperationRecord}

/-- What a prune leaves of an operation that it may have taken. -/
def cleared (evaluatedAt : DateTime) (ids : List GuestOperationId) (id : GuestOperationId)
    (operation : GuestOperationRecord) : GuestOperationRecord :=
  if id ∈ ids ∧ operation.artifactPrunedAt = none then tombstoned operation evaluatedAt
  else operation

/-- The operations taken have a tombstone and no artifact, and all else is as before. -/
structure Cleared (evaluatedAt : DateTime) (ids : List (CellId × GuestOperationId))
    (s t : Store) : Prop where
  operations : ∀ id, t.operations.lookup id =
    (s.operations.lookup id).map (cleared evaluatedAt (ids.map Prod.snd) id)
  artifacts : ∀ key, t.artifacts.lookup key = if key ∈ ids then none else s.artifacts.lookup key
  others : { t with operations := s.operations, artifacts := s.artifacts } = s

def keyOf (operation : GuestOperationRecord) : CellId × GuestOperationId :=
  (operation.cellId, operation.id)

theorem Cleared.refl : Cleared evaluatedAt [] s s where
  operations id := by
    cases s.operations.lookup id with
    | none => rfl
    | some operation => simp [cleared]
  artifacts key := by simp
  others := rfl

theorem Cleared.trans {first second : List (CellId × GuestOperationId)}
    (before : Cleared evaluatedAt first s t) (after : Cleared evaluatedAt second t u) :
    Cleared evaluatedAt (first ++ second) s u where
  operations id := by
    rw [after.operations, before.operations, Option.map_map]
    congr 1
    funext operation
    by_cases early : id ∈ first.map Prod.snd ∧ operation.artifactPrunedAt = none
    · have once : cleared evaluatedAt (first.map Prod.snd) id operation =
          tombstoned operation evaluatedAt := if_pos early
      have both : cleared evaluatedAt ((first ++ second).map Prod.snd) id operation =
          tombstoned operation evaluatedAt := by
        rw [List.map_append]
        exact if_pos ⟨List.mem_append_left _ early.1, early.2⟩
      rw [Function.comp_apply, once, both]
      exact if_neg fun again => by cases again.2
    · have kept : cleared evaluatedAt (first.map Prod.snd) id operation = operation := if_neg early
      rw [Function.comp_apply, kept, cleared, cleared, List.map_append]
      congr 1
      simp only [List.mem_append, eq_iff_iff]
      constructor
      · exact fun late => ⟨Or.inr late.1, late.2⟩
      · rintro ⟨sooner | late, fresh⟩
        · exact absurd ⟨sooner, fresh⟩ early
        · exact ⟨late, fresh⟩
  artifacts key := by
    rw [after.artifacts, before.artifacts]
    by_cases early : key ∈ first <;> by_cases late : key ∈ second <;> simp [early, late]
  others := by
    have parts := before.others
    have rest := after.others
    cases s
    cases t
    cases u
    simp only [Store.mk.injEq, true_and] at parts rest ⊢
    simp [rest, parts]

theorem lookup_removeArtifactRoot (s : Store) (cellId : CellId) (id : GuestOperationId) :
    ∃ artifacts, (s.removeArtifactRoot cellId id).2 = { s with artifacts := artifacts } ∧
      ∀ key, artifacts.lookup key = if key = (cellId, id) then none else s.artifacts.lookup key := by
  unfold Store.removeArtifactRoot
  split
  · rename_i missing
    refine ⟨s.artifacts, rfl, fun key => ?_⟩
    split
    · rename_i same
      rw [same, missing]
    · rfl
  · refine ⟨_, rfl, fun key => ?_⟩
    split
    · rename_i same
      rw [same, AList.lookup_erase]
    · rename_i different
      exact AList.lookup_erase_ne different

/-- A tombstone loses its artifact. -/
theorem cleared_recovery (found : s.operations.lookup operation.id = some operation)
    (pruned : isRecovery operation = true) : Cleared evaluatedAt [keyOf operation] s
      (s.removeArtifactRoot operation.cellId operation.id).2 := by
  obtain ⟨artifacts, same, lookups⟩ := lookup_removeArtifactRoot s operation.cellId operation.id
  rw [same]
  refine ⟨fun id => ?_, fun key => ?_, rfl⟩
  · cases known : s.operations.lookup id with
    | none => rfl
    | some other =>
        have kept : ¬ (id ∈ [keyOf operation].map Prod.snd ∧ other.artifactPrunedAt = none) := by
          rintro ⟨member, fresh⟩
          obtain rfl : id = operation.id := by simpa [keyOf] using member
          obtain rfl := Option.some.inj (found.symm.trans known)
          rw [isRecovery, fresh] at pruned
          cases pruned
        rw [Option.map_some, cleared, if_neg kept, ← known]
  · rw [lookups]
    simp [keyOf]

/-- An operation gets its tombstone and loses its artifact. -/
theorem cleared_expired (found : s.operations.lookup operation.id = some operation)
    (fresh : operation.artifactPrunedAt = none) : Cleared evaluatedAt [keyOf operation] s
      (Store.removeArtifactRoot { s with
        operations := s.operations.insert operation.id (tombstoned operation evaluatedAt) }
        operation.cellId operation.id).2 := by
  obtain ⟨artifacts, same, lookups⟩ := lookup_removeArtifactRoot { s with
    operations := s.operations.insert operation.id (tombstoned operation evaluatedAt) }
    operation.cellId operation.id
  rw [same]
  refine ⟨fun id => ?_, fun key => ?_, rfl⟩
  · by_cases here : id = operation.id
    · subst here
      rw [AList.lookup_insert, found]
      simp [cleared, keyOf, fresh]
    · rw [AList.lookup_insert_ne here]
      cases s.operations.lookup id with
      | none => rfl
      | some other => simp [cleared, keyOf, here]
  · rw [lookups]
    simp [keyOf]

/-- What has been cleared makes no difference to another operation. -/
theorem Cleared.sameAt {ids : List (CellId × GuestOperationId)}
    (clears : Cleared evaluatedAt ids s t) (apart : operation.id ∉ ids.map Prod.snd) :
    SameAt operation s t where
  cells := (congrArg Store.cells clears.others : _)
  record := by
    rw [clears.operations]
    cases s.operations.lookup operation.id with
    | none => rfl
    | some other => rw [Option.map_some, cleared, if_neg fun both => apart both.1]
  artifact := by
    rw [clears.artifacts, if_neg]
    exact fun member => apart (List.mem_map.mpr ⟨_, member, rfl⟩)

end Clearing

section Loop
variable {P : Type} {host : Host P} {site : Site} {w : World P} {operation : GuestOperationRecord}
  {evaluatedAt cutoff : DateTime} {request : ArtifactPruneRequest}

theorem meets_weigh {B : Type} {rest : Nat → Engine B} {good : B → World P → Prop}
    {bad : EngineError → World P → Prop}
    (ok : ∀ bytes, weigh site w.store operation = .ok bytes →
      Meets (host.handler site) Acts good bad (rest bytes) w)
    (error : ∀ e, weigh site w.store operation = .error e → bad e w) :
    Meets (host.handler site) Acts good bad (do
      query (.requireGuestOperationParent operation)
      let bytes ← pruneBytes operation
      rest bytes) w := by
  unfold weigh at ok error
  refine Meets.bind (meets_query trivial (fun answer found => ?_) fun failure failed => ?_)
  · change w.store.requireGuestOperationParentForMutation site operation = .ok answer at found
    rw [found] at ok error
    refine Meets.bind (Meets.bind (meets_query trivial (fun (present : Bool) answered => ?_)
      fun _ failed => by cases failed))
    obtain rfl := Except.ok.inj answered
    by_cases recovery : isRecovery operation = true
    · rw [if_pos recovery] at ok error ⊢
      exact ok 0 rfl
    · rw [if_neg recovery] at ok error ⊢
      by_cases present : w.store.artifactRootExists operation.cellId operation.id = true
      · rw [if_pos present] at ok error ⊢
        refine Meets.bind (meets_query trivial (fun artifact loaded => ?_) fun failure failed => ?_)
        · change w.store.loadArtifact site operation.cellId operation.id = .ok artifact at loaded
          rw [loaded] at ok error
          exact Meets.lift (fun bytes sized => ok bytes sized) fun e failed => error e failed
        · change w.store.loadArtifact site operation.cellId operation.id = .error failure at failed
          rw [failed] at error
          exact error _ rfl
      · rw [if_neg present] at ok error ⊢
        exact Meets.fail (error _ rfl)
  · change w.store.requireGuestOperationParentForMutation site operation = .error failure at failed
    rw [failed] at error
    exact error _ rfl

/-- The operations that a prune takes, with what each of them weighs. -/
def weighed (site : Site) (s : Store) :
    List GuestOperationRecord → Except EngineError (List (GuestOperationRecord × Nat))
  | [] => .ok []
  | operation :: rest => do
      let bytes ← weigh site s operation
      let others ← weighed site s rest
      pure ((operation, bytes) :: others)

theorem weighed_congr {s t : Store} {taken : List GuestOperationRecord}
    (same : ∀ operation ∈ taken, SameAt operation s t) :
    weighed site t taken = weighed site s taken := by
  induction taken with
  | nil => rfl
  | cons operation rest ih =>
      rw [weighed, weighed, (same operation (by simp)).weigh,
        ih fun other member => same other (List.mem_cons_of_mem _ member)]

theorem weighed_taken {s : Store} {taken : List GuestOperationRecord}
    {weights : List (GuestOperationRecord × Nat)} (found : weighed site s taken = .ok weights) :
    weights.map Prod.fst = taken := by
  induction taken generalizing weights with
  | nil =>
      obtain rfl := Except.ok.inj found
      rfl
  | cons operation rest ih =>
      obtain ⟨bytes, -, more⟩ := bind_ok.mp found
      obtain ⟨others, later, same⟩ := bind_ok.mp more
      obtain rfl := Except.ok.inj same
      rw [List.map_cons, ih later]

/-- An entry without what was done about it. -/
def ArtifactPruneEntry.described (entry : ArtifactPruneEntry) : CellId × GuestOperationId × Nat :=
  (entry.cellId, entry.operationId, entry.bytes)

def describe (weight : GuestOperationRecord × Nat) : CellId × GuestOperationId × Nat :=
  (weight.1.cellId, weight.1.id, weight.2)

/-- The operations that a prune still has room for. -/
def reached (request : ArtifactPruneRequest) (cutoff : DateTime)
    (operations : List GuestOperationRecord) (entries : List ArtifactPruneEntry) :
    List GuestOperationRecord :=
  (operations.filter (selected cutoff)).take (request.maxArtifacts - entries.length)

theorem reached_skipped {operations : List GuestOperationRecord}
    {entries : List ArtifactPruneEntry} (skipped : selected cutoff operation = false) :
    reached request cutoff (operation :: operations) entries =
      reached request cutoff operations entries := by
  unfold reached
  rw [List.filter_cons_of_neg (by rw [skipped]; exact Bool.false_ne_true)]

theorem reached_full {operations : List GuestOperationRecord}
    {entries : List ArtifactPruneEntry} (full : entries.length = request.maxArtifacts) :
    reached request cutoff operations entries = [] := by
  unfold reached
  rw [full, Nat.sub_self, List.take_zero]

theorem reached_taken {operations : List GuestOperationRecord} (entry : ArtifactPruneEntry)
    {entries : List ArtifactPruneEntry} (chosen : selected cutoff operation = true)
    (space : entries.length < request.maxArtifacts) :
    reached request cutoff (operation :: operations) entries =
      operation :: reached request cutoff operations (entries ++ [entry]) := by
  unfold reached
  rw [List.filter_cons_of_pos chosen, List.length_append, List.length_singleton, Nat.sub_add_eq]
  obtain ⟨left, vacancy⟩ : ∃ left, request.maxArtifacts - entries.length = left + 1 :=
    ⟨request.maxArtifacts - entries.length - 1, by omega⟩
  rw [vacancy, List.take_succ_cons, Nat.add_sub_cancel]

/-- A dry run weighs and leaves everything as it is. -/
theorem meets_dry (dry : request.dryRun = true) {operations : List GuestOperationRecord}
    {entries : List ArtifactPruneEntry} (room : entries.length ≤ request.maxArtifacts) :
    Meets (host.handler site) Acts
      (fun result t => t = w ∧ ∃ weights,
        weighed site w.store (reached request cutoff operations entries) = .ok weights ∧
        result.map ArtifactPruneEntry.described =
          entries.map ArtifactPruneEntry.described ++ weights.map describe)
      (fun e t => t = w ∧
        weighed site w.store (reached request cutoff operations entries) = .error e)
      (pruneOperations request evaluatedAt cutoff operations entries) w := by
  induction operations generalizing entries with
  -- nothing is written, so every weight is taken in the world of the beginning
  | nil => exact Meets.pure ⟨rfl, [], by simp [reached, weighed], by simp⟩
  | cons operation rest ih =>
      unfold pruneOperations
      cases chosen : selected cutoff operation with
      | false =>
          have skips : (isRecovery operation || isExpiredArtifact cutoff operation) = false := chosen
          rw [if_pos skips, reached_skipped chosen]
          exact ih room
      | true =>
          have takes : ¬(isRecovery operation || isExpiredArtifact cutoff operation) = false :=
            fun skipped => by cases chosen.symm.trans skipped
          rw [if_neg takes]
          refine Meets.ite (fun full => ?_) fun space => ?_
          · rw [reached_full full]
            exact Meets.pure ⟨rfl, [], rfl, by simp⟩
          · have room : entries.length < request.maxArtifacts := Nat.lt_of_le_of_ne room space
            rw [dry]
            refine Meets.bind (meets_weigh (fun bytes weighs => ?_) fun e fails => ⟨rfl, ?_⟩)
            · refine Meets.bind (Meets.ite (fun _ => Meets.pure (Meets.pure ?_))
                fun wet => absurd rfl wet)
              refine Meets.weaken (@ih (entries ++ [⟨_, _, bytes, _⟩]) ?_) ?_ ?_
              · rw [List.length_append, List.length_singleton]
                exact room
              · rintro result t ⟨rfl, weights, found, described⟩
                refine ⟨rfl, (operation, bytes) :: weights, ?_, ?_⟩
                · rw [reached_taken _ chosen room, weighed, weighs, found]
                  rfl
                · rw [described, List.map_append, List.append_assoc]
                  rfl
              · rintro e t ⟨rfl, fails⟩
                refine ⟨rfl, ?_⟩
                rw [reached_taken _ chosen room, weighed, weighs, fails]
                rfl
            · rw [reached_taken ⟨operation.cellId, operation.id, 0, .eligible⟩ chosen room,
                weighed, fails]
              rfl

/-- What is done about an operation that has been weighed. -/
theorem meets_prune {bytes : Nat} {good : ArtifactPruneDisposition → World P → Prop}
    {bad : EngineError → World P → Prop}
    (reads : w.store.loadGuestOperation site operation.id = .ok operation)
    (weighs : weigh site w.store operation = .ok bytes)
    (chosen : selected cutoff operation = true) (later : cutoff ≤ evaluatedAt)
    (ok : refused operation = false → ∀ disposition t,
      Cleared evaluatedAt [keyOf operation] w.store t → good disposition { w with store := t })
    (stuck : refused operation = true → ∀ e, bad e w) :
    Meets (host.handler site) Acts good bad (pruneArtifact evaluatedAt operation) w := by
  have found := (Store.loadGuestOperation_ok reads).1
  refine Meets.ite (fun recovery => ?_) fun fresh => ?_
  · refine Meets.bind (meets_mutate trivial (fun removed t applied => ?_)
      fun _ failed => by cases failed)
    obtain ⟨rfl, rfl⟩ := Prod.mk.inj (Except.ok.inj applied)
    exact Meets.pure (ok (by simp [refused, recovery]) _ _ (cleared_recovery found recovery))
  · have expired := (selected_cases chosen).resolve_left fresh
    refine Meets.bind (meets_mutate trivial (fun _ t applied => ?_) fun _ failed => ?_)
    · have written := written_ok.mp applied
      have plain := withoutResult_of_tombstoned (Store.saveGuestOperation_ok written).1 expired
      obtain rfl := Except.ok.inj
        ((tombstone_saved reads weighs plain expired later).symm.trans written)
      refine Meets.bind (meets_mutate trivial (fun removed u applied => ?_)
        fun _ failed => by cases failed)
      obtain ⟨rfl, rfl⟩ := Prod.mk.inj (Except.ok.inj applied)
      exact Meets.pure (ok (by simp [refused, plain]) _ _ (cleared_expired found expired.unpruned))
    · -- a storable tombstone would have been saved
      refine stuck ?_ _
      cases taken : refused operation with
      | true => rfl
      | false =>
          have plain := withoutResult_of_taken (Bool.not_eq_true _ ▸ fresh) taken
          change written (w.store.saveGuestOperation site _) = _ at failed
          rw [tombstone_saved reads weighs plain expired later] at failed
          cases failed

/-- A prune does for each operation what its weight promises, and fails where a weight
does or where a tombstone is refused. -/
theorem meets_wet (wet : request.dryRun = false) (later : cutoff ≤ evaluatedAt)
    {operations : List GuestOperationRecord} {entries : List ArtifactPruneEntry}
    (room : entries.length ≤ request.maxArtifacts)
    (reads : ∀ operation ∈ operations,
      w.store.loadGuestOperation site operation.id = .ok operation)
    (distinct : (operations.map (·.id)).Nodup) :
    Meets (host.handler site) Acts
      (fun result t => ∃ weights,
        weighed site w.store (reached request cutoff operations entries) = .ok weights ∧
        result.map ArtifactPruneEntry.described =
          entries.map ArtifactPruneEntry.described ++ weights.map describe ∧
        Cleared evaluatedAt ((reached request cutoff operations entries).map keyOf) w.store t.store ∧
        ∀ operation ∈ reached request cutoff operations entries, refused operation = false)
      (fun _ _ => ∀ weights,
        weighed site w.store (reached request cutoff operations entries) = .ok weights →
        ∃ operation ∈ reached request cutoff operations entries, refused operation = true)
      (pruneOperations request evaluatedAt cutoff operations entries) w := by
  induction operations generalizing w entries with
  | nil => exact Meets.pure ⟨[], by simp [reached, weighed], by simp,
      by simpa [reached] using Cleared.refl, by simp [reached]⟩
  | cons operation rest ih =>
      have others := fun other member => reads other (List.mem_cons_of_mem _ member)
      obtain ⟨fresh, distinct⟩ := List.nodup_cons.mp distinct
      unfold pruneOperations
      cases chosen : selected cutoff operation with
      | false =>
          have skips : (isRecovery operation || isExpiredArtifact cutoff operation) = false := chosen
          rw [if_pos skips, reached_skipped chosen]
          exact ih room others distinct
      | true =>
          have takes : ¬(isRecovery operation || isExpiredArtifact cutoff operation) = false :=
            fun skipped => by cases chosen.symm.trans skipped
          rw [if_neg takes]
          refine Meets.ite (fun full => ?_) fun space => ?_
          · rw [reached_full full]
            exact Meets.pure ⟨[], rfl, by simp, Cleared.refl, by simp⟩
          · have room : entries.length < request.maxArtifacts := Nat.lt_of_le_of_ne room space
            rw [wet]
            refine Meets.bind (meets_weigh (fun bytes weighs => ?_) fun e fails => ?_)
            · refine Meets.bind (meets_prune (reads operation (by simp)) weighs chosen later
                (fun taken disposition t clears => ?_) fun stuck e weights _ => ?_)
              · -- what is done about this operation leaves the weights of the others
                have apart : ∀ other ∈ rest, SameAt other w.store t := by
                  intro other member
                  refine clears.sameAt ?_
                  simp only [keyOf, List.map_cons, List.map_nil, List.mem_singleton]
                  exact fun same => fresh (List.mem_map.mpr ⟨other, member, same⟩)
                have tail : ∀ entry,
                    weighed site t (reached request cutoff rest (entries ++ [entry])) =
                      weighed site w.store (reached request cutoff rest (entries ++ [entry])) :=
                  fun entry => weighed_congr fun other member =>
                    apart other (List.mem_of_mem_filter (List.mem_of_mem_take member))
                refine Meets.pure (Meets.weaken (@ih { w with store := t }
                  (entries ++ [⟨_, _, bytes, disposition⟩]) ?_
                  (fun other member => (apart other member).reads (others other member))
                  distinct) ?_ ?_)
                · rw [List.length_append, List.length_singleton]
                  exact room
                · rintro result u ⟨weights, found, described, clear, all⟩
                  rw [tail] at found
                  refine ⟨(operation, bytes) :: weights, ?_, ?_, ?_, ?_⟩
                  · rw [reached_taken _ chosen room, weighed, weighs, found]
                    rfl
                  · rw [described, List.map_append, List.append_assoc]
                    rfl
                  · rw [reached_taken _ chosen room, List.map_cons, ← List.singleton_append]
                    exact clears.trans clear
                  · rw [reached_taken _ chosen room, List.forall_mem_cons]
                    exact ⟨taken, all⟩
                · intro e u fails weights found
                  rw [reached_taken ⟨_, _, bytes, disposition⟩ chosen room] at found ⊢
                  obtain ⟨_, _, found⟩ := bind_ok.mp found
                  obtain ⟨more, found, _⟩ := bind_ok.mp found
                  rw [← tail] at found
                  obtain ⟨other, member, stuck⟩ := fails more found
                  exact ⟨other, List.mem_cons_of_mem _ member, stuck⟩
              · rw [reached_taken ⟨operation.cellId, operation.id, 0, .eligible⟩ chosen room]
                exact ⟨operation, List.mem_cons_self, stuck⟩
            · intro weights found
              rw [reached_taken ⟨operation.cellId, operation.id, 0, .eligible⟩ chosen room,
                weighed, fails] at found
              cases found

end Loop

section Calls
variable {P : Type} {host : Host P} {site : Site} {w : World P} {evaluatedAt cutoff : DateTime}
  {request : ArtifactPruneRequest}

/-- An operation in the list reads back. -/
theorem reads_of_list {s : Store} {operations : List GuestOperationRecord}
    (list : s.listGuestOperations site = .ok operations) :
    ∀ operation ∈ operations, s.loadGuestOperation site operation.id = .ok operation := by
  intro operation member
  have found := (Store.mem_listGuestOperations list operation).mp member
  have valid := readJsonDirectory_valid (Store.listGuestOperations_read list) found
  obtain ⟨records, read, rest⟩ := bind_ok.mp list
  obtain ⟨bound, same⟩ := bind_unit_ok.mp rest
  obtain rfl := Except.ok.inj same
  have parent := forM_ok.mp bound operation member
  unfold Store.loadGuestOperation
  rw [found]
  simp only [valid, parent]
  rfl

/-- What a prune of this size and cutoff is about to take. -/
def foreseen (site : Site) (s : Store) (room : Nat) (cutoff : DateTime) :
    Except EngineError (List (GuestOperationRecord × Nat)) := do
  let operations ← (s.listGuestOperations site).mapError .state
  weighed site s ((pruneQueue cutoff operations).take room)

theorem foreseen_list {s : Store} {operations : List GuestOperationRecord}
    (list : s.listGuestOperations site = .ok operations) :
    foreseen site s request.maxArtifacts cutoff =
      weighed site s (reached request cutoff (operations.insertionSort pruneOrder) []) := by
  rw [foreseen, list]
  rfl

theorem meets_dry_locked (dry : request.dryRun = true) :
    Meets (host.handler site) Acts
      (fun report t => t = w ∧ report.evaluatedAt = evaluatedAt ∧ report.cutoff = cutoff ∧
        ∃ weights, foreseen site w.store request.maxArtifacts cutoff = .ok weights ∧
          report.entries.map ArtifactPruneEntry.described = weights.map describe)
      (fun e t => t = w ∧ foreseen site w.store request.maxArtifacts cutoff = .error e)
      (pruneArtifactsLocked request evaluatedAt cutoff) w := by
  refine Meets.bind (meets_query trivial (fun operations list => ?_) fun failure failed => ?_)
  · change w.store.listGuestOperations site = .ok operations at list
    simp only [foreseen_list list]
    refine Meets.bind (Meets.weaken (meets_dry dry (Nat.zero_le _)) ?_ fun _ _ fails => fails)
    rintro entries t ⟨rfl, weights, found, described⟩
    exact Meets.pure ⟨rfl, rfl, rfl, weights, found, described⟩
  · change w.store.listGuestOperations site = .error failure at failed
    refine ⟨rfl, ?_⟩
    rw [foreseen, failed]
    rfl

theorem meets_wet_locked (wet : request.dryRun = false) (later : cutoff ≤ evaluatedAt) :
    Meets (host.handler site) Acts
      (fun report t => report.evaluatedAt = evaluatedAt ∧ report.cutoff = cutoff ∧
        ∃ weights, foreseen site w.store request.maxArtifacts cutoff = .ok weights ∧
          report.entries.map ArtifactPruneEntry.described = weights.map describe ∧
          Cleared evaluatedAt (weights.map fun weight => keyOf weight.1) w.store t.store ∧
          ∀ weight ∈ weights, refused weight.1 = false)
      (fun _ _ => ∀ weights, foreseen site w.store request.maxArtifacts cutoff = .ok weights →
        ∃ weight ∈ weights, refused weight.1 = true)
      (pruneArtifactsLocked request evaluatedAt cutoff) w := by
  refine Meets.bind (meets_query trivial (fun operations list => ?_) fun failure failed => ?_)
  · change w.store.listGuestOperations site = .ok operations at list
    have perm := List.perm_insertionSort pruneOrder operations
    simp only [foreseen_list list]
    refine Meets.bind (Meets.weaken (meets_wet wet later (Nat.zero_le _)
      (fun operation member => reads_of_list list operation (perm.mem_iff.mp member))
      ((perm.map _).nodup_iff.mpr (Store.listGuestOperations_nodup list))) ?_ ?_)
    · rintro entries t ⟨weights, found, described, clears, taken⟩
      refine Meets.pure ⟨rfl, rfl, weights, found, described, ?_, fun weight member => taken _ ?_⟩
      · rw [← weighed_taken found, List.map_map] at clears
        exact clears
      · rw [← weighed_taken found]
        exact List.mem_map_of_mem member
    · intro e t fails weights found
      obtain ⟨operation, member, stuck⟩ := fails weights found
      rw [← weighed_taken found] at member
      obtain ⟨weight, inside, rfl⟩ := List.mem_map.mp member
      exact ⟨weight, inside, stuck⟩
  · change w.store.listGuestOperations site = .error failure at failed
    intro weights found
    rw [foreseen, failed] at found
    cases found

/-- A dry run and a prune of the same world both fail or report the same entries in the same
order. The dry run changes nothing; the prune clears the operations it reports. -/
def Foretold (host : Host P) (site : Site) (request : ArtifactPruneRequest) (w : World P) : Prop :=
  ∃ preview actual t u,
    (pruneArtifacts { request with dryRun := true }).run (host.handler site) false w =
      (some preview, t) ∧
    (pruneArtifacts { request with dryRun := false }).run (host.handler site) false w =
      (some actual, u) ∧
    t.store = w.store ∧
    ((∃ e e', preview = .error e ∧ actual = .error e') ∨
      ∃ dry wet : ArtifactPruneReport, preview = .ok dry ∧ actual = .ok wet ∧
        dry.evaluatedAt = wet.evaluatedAt ∧ dry.cutoff = wet.cutoff ∧
        dry.entries.map ArtifactPruneEntry.described =
          wet.entries.map ArtifactPruneEntry.described ∧
        Cleared wet.evaluatedAt (wet.entries.map fun entry => (entry.cellId, entry.operationId))
          w.store u.store)

/-- No operation that the dry run reports as an expired artifact has a command result too. -/
def Unmixed (host : Host P) (site : Site) (request : ArtifactPruneRequest) (w : World P) : Prop :=
  validatePruneRequest request = .ok () → ∀ weights,
    foreseen site w.store request.maxArtifacts (w.present host - request.olderThan) = .ok weights →
    ∀ weight ∈ weights, refused weight.1 = false

/-- The dry run succeeds and the prune fails. -/
def Misled (host : Host P) (site : Site) (request : ArtifactPruneRequest) (w : World P) : Prop :=
  ∃ dry e t u,
    (pruneArtifacts { request with dryRun := true }).run (host.handler site) false w =
      (some (.ok dry), t) ∧
    (pruneArtifacts { request with dryRun := false }).run (host.handler site) false w =
      (some (.error e), u) ∧ t.store = w.store

theorem not_foretold_of_misled (misled : Misled host site request w) :
    ¬Foretold host site request w := by
  obtain ⟨dry, e, t, u, looks, runs, _⟩ := misled
  rintro ⟨preview, actual, _, _, looked, ran, _, both⟩
  obtain ⟨⟨rfl⟩, _⟩ := Prod.mk.inj (looks.symm.trans looked)
  obtain ⟨⟨rfl⟩, _⟩ := Prod.mk.inj (runs.symm.trans ran)
  rcases both with ⟨_, _, impossible, _⟩ | ⟨_, _, _, impossible, _⟩
  · cases impossible
  · cases impossible

theorem run_invalid_prune (request : ArtifactPruneRequest) {e : EngineError}
    (invalid : validatePruneRequest request = .error e) :
    (pruneArtifacts request).run (host.handler site) false w = (some (.error e), w) := by
  unfold pruneArtifacts
  rw [invalid]
  rfl

/-- What a dry run and a prune of the same world answer. -/
theorem foretold_or_misled (host : Host P) (request : ArtifactPruneRequest) (w : World P) :
    Unmixed host site request w ∧ Foretold host site request w ∨
      ¬Unmixed host site request w ∧ Misled host site request w := by
  cases valid : validatePruneRequest request with
  | error e =>
      have looked := @run_invalid_prune P host site w { request with dryRun := true } e valid
      have ran := @run_invalid_prune P host site w { request with dryRun := false } e valid
      exact Or.inl ⟨fun holds => (by cases valid.symm.trans holds), .error e, .error e, w, w,
        looked, ran, rfl, Or.inl ⟨e, e, rfl, rfl⟩⟩
  | ok =>
      let now : World P := { w with clock := w.present host }
      have later : w.present host - request.olderThan ≤ w.present host :=
        Int.sub_le_self _ (Int.natCast_nonneg _)
      obtain ⟨preview, t, looks, foresees⟩ := run_locked
        (@meets_dry_locked P host site now (w.present host)
          (w.present host - request.olderThan) { request with dryRun := true } rfl)
      obtain ⟨actual, u, runs, does⟩ := run_locked
        (@meets_wet_locked P host site now (w.present host)
          (w.present host - request.olderThan) { request with dryRun := false } rfl later)
      have looked := (run_valid_prune { request with dryRun := true } valid).trans looks
      have ran := (run_valid_prune { request with dryRun := false } valid).trans runs
      cases preview with
      | error e =>
          -- the prune meets the weight that cannot be taken, too
          obtain ⟨rfl, fails⟩ := foresees
          refine Or.inl ⟨fun _ weights found => (by cases fails.symm.trans found), ?_⟩
          cases actual with
          | error e' => exact ⟨.error e, .error e', _, _, looked, ran, rfl, Or.inl ⟨e, e', rfl, rfl⟩⟩
          | ok report =>
              obtain ⟨-, -, weights, found, -⟩ := does
              cases fails.symm.trans found
      | ok dry =>
          obtain ⟨rfl, evaluated, expiry, weights, found, described⟩ := foresees
          cases actual with
          | error e =>
              -- every weight was taken, so a tombstone was refused
              refine Or.inr ⟨fun unmixed => ?_, dry, e, _, u, looked, ran, rfl⟩
              obtain ⟨weight, member, stuck⟩ := does weights found
              cases stuck.symm.trans (unmixed valid weights found weight member)
          | ok wet =>
              obtain ⟨evaluated', expiry', weights', found', described', clears, taken⟩ := does
              obtain rfl := Except.ok.inj (found.symm.trans found')
              refine Or.inl ⟨fun _ others same => ?_, .ok dry, .ok wet, _, u, looked, ran, rfl,
                Or.inr ⟨dry, wet, rfl, rfl, evaluated.trans evaluated'.symm,
                  expiry.trans expiry'.symm, described.trans described'.symm, ?_⟩⟩
              · obtain rfl := Except.ok.inj (found.symm.trans same)
                exact taken
              · have keys := congrArg (List.map fun entry => (entry.1, entry.2.1)) described'
                rw [List.map_map, List.map_map] at keys
                rw [evaluated']
                exact keys ▸ clears

end Calls

end VmCell
