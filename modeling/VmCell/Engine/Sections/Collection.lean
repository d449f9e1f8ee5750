import VmCell.Engine.Sections.Destroy

/-! Destruction without a request: collection of expired cells and the cleanup of
a run touch only the cells they may. -/

set_option autoImplicit false
namespace VmCell

open Interaction Fallible

section Expired
variable {env : Environment} {i : Pid} {s t : Store} {provider : String} {evaluatedAt : DateTime}

/-- The cell has expired and no operation of it is open. -/
def Reclaimable (evaluatedAt : DateTime) (cellId : CellId) (s : Store) : Prop :=
  (∃ record expiresAt, s.cells.lookup cellId = some record ∧
    record.expiresAt = some expiresAt ∧ expiresAt ≤ evaluatedAt) ∧ Quiescent s cellId

/-- The effects of a collection. -/
def Collects (env : Environment) (i : Pid) (evaluatedAt : DateTime) (op : Op) (s : Store) : Prop :=
  Allowed env i op s ∧
    (Free op ∨ ∃ cellId, op.touches = some cellId ∧ Reclaimable evaluatedAt cellId s)

theorem Reclaimable.apart {cellId : CellId} (reclaimable : Reclaimable evaluatedAt cellId s)
    (apart : Apart cellId s t) : Reclaimable evaluatedAt cellId t := by
  obtain ⟨⟨record, expiresAt, found, limited, expired⟩, quiescent⟩ := reclaimable
  obtain ⟨now, there, same⟩ := apart.kept record found
  refine ⟨⟨now, expiresAt, there, same.expiresAt.trans limited, expired⟩, ?_⟩
  intro id operation stored bound
  rw [apart.operations] at stored
  exact quiescent id operation stored bound

/-- The answer of one destruction, read as the collection reads it. -/
theorem destroyDisposition_tombstone {result : Except EngineError OperationReport}
    (gone : destroyDisposition result = .destroyed ∨
      destroyDisposition result = .alreadyDestroyed) : ∃ report, result = .ok report := by
  unfold destroyDisposition at gone
  split at gone
  · exact ⟨_, rfl⟩
  all_goals simp at gone

/-- What a collection does with one cell of its provider: nothing, when the cell
may not be reclaimed, and otherwise one destruction, which leaves everything else
as it was however it ends. -/
inductive Disposed (env : Environment) (i : Pid) (provider : String) (evaluatedAt : DateTime)
    (cellId : CellId) (s : Store) : GcDisposition → Store → Prop where
  | spared {disposition : GcDisposition} : ¬Reclaimable evaluatedAt cellId s →
      disposition ≠ .destroyed → disposition ≠ .alreadyDestroyed →
      Disposed env i provider evaluatedAt cellId s disposition s
  | attempted {result : Except EngineError OperationReport} {t : Store} :
      Reclaimable evaluatedAt cellId s →
      Proc.Runs (env.effects i) (destroyCellLocked env.site provider cellId) s result t →
      Apart cellId s t → (∀ report, result = .ok report → Tombstone t cellId) →
      Disposed env i provider evaluatedAt cellId s (destroyDisposition result) t

theorem Disposed.apart {cellId : CellId} {disposition : GcDisposition}
    (disposed : Disposed env i provider evaluatedAt cellId s disposition t) : Apart cellId s t := by
  cases disposed with
  | spared _ _ _ => exact .refl cellId s
  | attempted _ _ apart _ => exact apart

theorem Disposed.gone {cellId : CellId} {disposition : GcDisposition}
    (disposed : Disposed env i provider evaluatedAt cellId s disposition t)
    (gone : disposition = .destroyed ∨ disposition = .alreadyDestroyed) : Tombstone t cellId := by
  cases disposed with
  | spared _ first second => exact (gone.elim first second).elim
  | attempted _ _ _ tombstone =>
      obtain ⟨report, succeeded⟩ := destroyDisposition_tombstone gone
      exact tombstone report succeeded

theorem within_gcCell {operations : List GuestOperationRecord} {record : CellRecord}
    {good : GcDisposition → Store → Prop} {bad : EngineError → Store → Prop}
    (stored : ∃ found, s.cells.lookup record.id = some found ∧ found.expiresAt = record.expiresAt)
    (quiet : hasOpenOperation operations record.id = false ↔ Quiescent s record.id)
    (ok : ∀ disposition t, Disposed env i provider evaluatedAt record.id s disposition t →
      good disposition t) :
    Within (env.effects i) (Collects env i evaluatedAt) good bad
      (gcCell env.site provider evaluatedAt operations record) s := by
  obtain ⟨found, there, same⟩ := stored
  have limit : ∀ {expiresAt : DateTime}, Reclaimable evaluatedAt record.id s →
      record.expiresAt = some expiresAt → expiresAt ≤ evaluatedAt := by
    rintro expiresAt ⟨⟨other, time, again, limited, due⟩, _⟩ known
    obtain rfl := Option.some.inj (there.symm.trans again)
    obtain rfl := Option.some.inj (limited.symm.trans (same.trans known))
    exact due
  unfold gcCell
  split
  · rename_i unlimited
    refine Within.pure (ok _ s (.spared ?_ (by simp) (by simp)))
    rintro ⟨⟨other, time, again, limited, _⟩, _⟩
    obtain rfl := Option.some.inj (there.symm.trans again)
    rw [same, unlimited] at limited
    cases limited
  · rename_i expiresAt limited
    refine Within.ite (fun early => Within.pure (ok _ s (.spared ?_ (by simp) (by simp))))
      fun due => ?_
    · exact fun reclaimable => absurd (limit reclaimable limited) (not_le.mpr early)
    refine Within.ite (fun opened => Within.pure (ok _ s (.spared ?_ (by simp) (by simp))))
      fun closed => ?_
    · intro reclaimable
      rw [quiet.mpr reclaimable.2] at opened
      cases opened
    have reclaimable : Reclaimable evaluatedAt record.id s :=
      ⟨⟨found, expiresAt, there, same.trans limited, not_lt.mp due⟩,
        quiet.mp (Bool.not_eq_true _ ▸ closed)⟩
    have touches : ∀ op u, Destroys env i record.id op u ∧ Apart record.id s u →
        Collects env i evaluatedAt op u := fun op u permitted =>
      ⟨permitted.1.1, permitted.1.2.touches.imp id
        fun touches => ⟨record.id, touches, reclaimable.apart permitted.2⟩⟩
    refine Within.bind (Within.attempt ((Within.traced (Within.permit
      within_destroyCellLocked_apart touches)).weaken (fun report u ends => ?_) fun e u ends => ?_))
    · exact Within.pure (ok _ u (.attempted reclaimable ends.2 ends.1.2 fun _ _ => ends.1.1))
    · refine Within.pure (ok _ u (.attempted reclaimable ends.2 ends.1.2 fun _ succeeded => ?_))
      cases succeeded

/-- What is still to be swept is as it was listed. -/
structure Unswept (s : Store) (operations : List GuestOperationRecord) (cells : List CellRecord) :
    Prop where
  stored : ∀ record ∈ cells, ∃ found, s.cells.lookup record.id = some found ∧
    found.expiresAt = record.expiresAt
  distinct : (cells.map (·.id)).Nodup
  quiet : ∀ cellId, hasOpenOperation operations cellId = false ↔ Quiescent s cellId

theorem Unswept.tail {operations : List GuestOperationRecord} {record : CellRecord}
    {rest : List CellRecord} (known : Unswept s operations (record :: rest)) :
    Unswept s operations rest where
  stored := fun other member => known.stored other (List.mem_cons_of_mem _ member)
  distinct := (List.nodup_cons.mp known.distinct).2
  quiet := known.quiet

theorem Unswept.swept {operations : List GuestOperationRecord} {record : CellRecord}
    {rest : List CellRecord} (known : Unswept s operations (record :: rest))
    (apart : Apart record.id s t) : Unswept t operations rest where
  stored := by
    intro other member
    have absent : record.id ∉ rest.map (·.id) := (List.nodup_cons.mp known.distinct).1
    rw [apart.cells other.id fun same => absent (same ▸ List.mem_map_of_mem member)]
    exact known.tail.stored other member
  distinct := known.tail.distinct
  quiet := by
    intro cellId
    unfold Quiescent
    rw [apart.operations]
    exact known.quiet cellId

/-- The cells are taken one after the other; whatever becomes of one, the next is
taken up in the state the one before it left. -/
inductive Sweep (env : Environment) (i : Pid) (provider : String) (evaluatedAt : DateTime) :
    List CellRecord → Store → List GcEntry → Store → Prop where
  | done {s : Store} : Sweep env i provider evaluatedAt [] s [] s
  | foreign {record : CellRecord} {rest : List CellRecord} {entries : List GcEntry}
      {s t : Store} : record.provider ≠ provider →
      Sweep env i provider evaluatedAt rest s entries t →
      Sweep env i provider evaluatedAt (record :: rest) s entries t
  | own {record : CellRecord} {rest : List CellRecord} {entries : List GcEntry}
      {disposition : GcDisposition} {s t u : Store} : record.provider = provider →
      Disposed env i provider evaluatedAt record.id s disposition t →
      Sweep env i provider evaluatedAt rest t entries u →
      Sweep env i provider evaluatedAt (record :: rest) s
        (⟨record.id, record.expiresAt, disposition⟩ :: entries) u

section Swept
variable {cells : List CellRecord} {entries : List GcEntry}

theorem Sweep.frame (sweep : Sweep env i provider evaluatedAt cells s entries t)
    {other : CellId} (outside : other ∉ cells.map (·.id)) :
    t.cells.lookup other = s.cells.lookup other := by
  induction sweep with
  | done => rfl
  | foreign _ _ ih => exact ih fun member => outside (List.mem_cons_of_mem _ member)
  | own _ disposed _ ih =>
      rw [List.map_cons, List.mem_cons, not_or] at outside
      exact (ih outside.2).trans (disposed.apart.cells other outside.1)

theorem Sweep.listed (sweep : Sweep env i provider evaluatedAt cells s entries t) :
    entries.map (·.cellId) =
      (cells.filter fun record => record.provider = provider).map (·.id) := by
  induction sweep with
  | done => rfl
  | foreign foreign _ ih => rw [ih, List.filter_cons_of_neg (by simpa using foreign)]
  | own own _ _ ih =>
      rw [List.filter_cons_of_pos (by simpa using own), List.map_cons, List.map_cons, ih]

theorem Sweep.gone (sweep : Sweep env i provider evaluatedAt cells s entries t)
    (distinct : (cells.map (·.id)).Nodup) {entry : GcEntry} (member : entry ∈ entries)
    (gone : entry.disposition = .destroyed ∨ entry.disposition = .alreadyDestroyed) :
    Tombstone t entry.cellId := by
  induction sweep with
  | done => cases member
  | foreign _ _ ih => exact ih (List.nodup_cons.mp distinct).2 member
  | own _ disposed rest ih =>
      obtain ⟨absent, distinct⟩ := List.nodup_cons.mp distinct
      rcases List.mem_cons.mp member with rfl | later
      · obtain ⟨stored, found, state⟩ := disposed.gone gone
        exact ⟨stored, (rest.frame absent).trans found, state⟩
      · exact ih distinct later

end Swept

theorem within_gcCells {operations : List GuestOperationRecord} {cells : List CellRecord}
    {good : List GcEntry → Store → Prop} {bad : EngineError → Store → Prop}
    (known : Unswept s operations cells)
    (ok : ∀ entries t, Sweep env i provider evaluatedAt cells s entries t → good entries t) :
    Within (env.effects i) (Collects env i evaluatedAt) good bad
      (gcCells env.site provider evaluatedAt operations cells) s := by
  induction cells generalizing s good with
  | nil => exact Within.pure (ok [] s .done)
  | cons record rest ih =>
      unfold gcCells
      refine Within.ite (fun foreign => ?_) fun own => ?_
      · exact ih known.tail fun entries t sweep => ok entries t (.foreign foreign sweep)
      · refine Within.bind (within_gcCell (known.stored record List.mem_cons_self)
          (known.quiet record.id) fun disposition t disposed => ?_)
        refine Within.bind (ih (known.swept disposed.apart) fun entries u sweep => ?_)
        exact Within.pure (ok _ u (.own (not_not.mp own) disposed sweep))

theorem unswept_of_listed {site : Site} {operations : List GuestOperationRecord}
    {cells : List CellRecord} (listed : s.listGuestOperations site = .ok operations)
    (found : s.listCells site = .ok cells) : Unswept s operations cells where
  stored := by
    intro record member
    obtain ⟨stored, there, same⟩ := (Store.mem_listCells found record).mp member
    exact ⟨stored, there, by rw [same, redactCellDiagnostic_expiresAt]⟩
  distinct := Store.listCells_nodup found
  quiet := fun _ => quiescent_of_listed listed

/-- The outcome of a collection that started in the first state. -/
structure Collected (env : Environment) (i : Pid) (provider : String) (evaluatedAt : DateTime)
    (s : Store) (report : GcReport) (t : Store) : Prop where
  distinct : (report.entries.map (·.cellId)).Nodup
  exact : ∀ cellId, cellId ∈ report.entries.map (·.cellId) ↔
    ∃ record, s.cells.lookup cellId = some record ∧ record.provider = provider
  sweep : ∃ cells, s.listCells env.site = .ok cells ∧
    Sweep env i provider evaluatedAt cells s report.entries t
  gone : ∀ entry ∈ report.entries, entry.disposition = .destroyed ∨
    entry.disposition = .alreadyDestroyed → Tombstone t entry.cellId

theorem collected_of_sweep {cells : List CellRecord} {entries : List GcEntry}
    (found : s.listCells env.site = .ok cells)
    (sweep : Sweep env i provider evaluatedAt cells s entries t) :
    Collected env i provider evaluatedAt s ⟨evaluatedAt, entries⟩ t where
  distinct := by
    rw [sweep.listed]
    exact (Store.listCells_nodup found).sublist ((List.filter_sublist).map _)
  exact := by
    intro cellId
    rw [sweep.listed]
    simp only [List.mem_map, List.mem_filter, decide_eq_true_eq]
    constructor
    · rintro ⟨record, ⟨member, own⟩, rfl⟩
      obtain ⟨stored, there, same⟩ := (Store.mem_listCells found record).mp member
      refine ⟨stored, there, ?_⟩
      rw [← own, same, redactCellDiagnostic_provider]
    · rintro ⟨stored, there, own⟩
      obtain ⟨read, listed, rfl⟩ := Store.listCells_read found
      have member : stored ∈ read := (mem_readJsonDirectory listed stored).mpr ⟨cellId, there⟩
      refine ⟨redactCellDiagnostic stored, ⟨List.mem_map_of_mem member, by simpa using own⟩, ?_⟩
      rw [redactCellDiagnostic_id]
      exact validateCellSchema_id (readJsonDirectory_valid listed there)
  sweep := ⟨cells, found, sweep⟩
  gone := fun _ member => sweep.gone (Store.listCells_nodup found) member

/-- A collection fails only when it cannot list, before it has touched anything. -/
theorem within_gcExpiredLocked :
    Within (env.effects i) (Collects env i evaluatedAt)
      (fun report t => Collected env i provider evaluatedAt s report t) (fun _ t => t = s)
      (gcExpiredLocked env.site provider evaluatedAt) s := by
  unfold gcExpiredLocked
  refine Within.bind (within_query ⟨trivial, Or.inl trivial⟩ (fun operations listed => ?_)
    fun _ => rfl)
  refine Within.bind (within_query ⟨trivial, Or.inl trivial⟩ (fun cells found => ?_) fun _ => rfl)
  refine Within.bind (within_gcCells (unswept_of_listed listed found) fun entries t sweep => ?_)
  exact Within.pure (collected_of_sweep found sweep)

end Expired

section Cleanup
variable {env : Environment} {i : Pid} {s : Store} {provider : String} {cellId : CellId}

/-- The effects of the cleanup of a run. -/
def Cleans (env : Environment) (i : Pid) (cellId : CellId) (op : Op) (s : Store) : Prop :=
  Allowed env i op s ∧ (Free op ∨ op.touches = some cellId ∧ Quiescent s cellId)

theorem within_destroyCellForRunLocked :
    Within (env.effects i) (Cleans env i cellId) (fun _ t => Tombstone t cellId) (fun _ _ => True)
      (destroyCellForRunLocked env.site provider cellId) s := by
  unfold destroyCellForRunLocked
  refine Within.bind (within_query ⟨trivial, Or.inl trivial⟩ (fun operations listed => ?_)
    fun _ => trivial)
  refine Within.bind (Within.lift (fun _ closed => ?_) fun _ _ => trivial)
  have quiescent : Quiescent s cellId := by
    refine (quiescent_of_listed listed).mp ?_
    simpa using require_ok.mp closed
  refine (Within.permit within_destroyCellLocked_apart fun op t permitted => ?_).weaken
    (fun _ _ ends => ends.1) fun _ _ _ => trivial
  refine ⟨permitted.1.1, permitted.1.2.touches.imp id fun touches => ⟨touches, ?_⟩⟩
  intro id operation stored bound
  rw [permitted.2.operations] at stored
  exact quiescent id operation stored bound

end Cleanup

end VmCell
