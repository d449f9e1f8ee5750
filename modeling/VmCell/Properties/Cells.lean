import VmCell.Engine.Rehearsal
import VmCell.Engine.Tombstones

/-! The phase, the state and the provider object of a cell move together, and
everything else about it never changes. -/

set_option autoImplicit false
namespace VmCell

open Interaction

section Coupling

/-- The states and the provider object that each phase goes with. -/
def CellPhase.Couples (phase : CellPhase) (state : CellState)
    (object : Option ProviderObjectIdentity) : Prop :=
  match phase with
  | .intentRecorded | .overlayCreated => object = none ∧ (state = .creating ∨ state = .failed)
  | .providerObjectCreated | .providerObjectClaimed =>
      object.isSome = true ∧ (state = .creating ∨ state = .failed)
  | .ready => object.isSome = true ∧ (state = .stopped ∨ state = .running)
  | .destroying | .destroyingProvisioning => object.isSome = true ∧ state = .destroying
  | .destroyed => object.isSome = true ∧ state = .destroyed

def Coupled (record : CellRecord) : Prop :=
  record.phase.Couples record.state record.providerObject

instance (phase : CellPhase) (state : CellState) (object : Option ProviderObjectIdentity) :
    Decidable (phase.Couples state object) :=
  match phase with
  | .intentRecorded | .overlayCreated | .providerObjectCreated | .providerObjectClaimed | .ready
  | .destroying | .destroyingProvisioning | .destroyed => inferInstanceAs (Decidable (_ ∧ _))

instance (record : CellRecord) : Decidable (Coupled record) :=
  inferInstanceAs (Decidable (record.phase.Couples _ _))

variable {phase : CellPhase} {state : CellState} {object : Option ProviderObjectIdentity}

theorem CellPhase.Couples.destroyed (coupled : phase.Couples state object) :
    phase = .destroyed ↔ state = .destroyed := by
  cases phase <;> cases state <;> simp_all [CellPhase.Couples]

/-- Only a ready cell is stopped or running. -/
theorem CellPhase.Couples.ready (coupled : phase.Couples state object)
    (powered : state = .stopped ∨ state = .running) : object.isSome = true := by
  cases phase <;> cases state <;> simp_all [CellPhase.Couples]

end Coupling

section Steps
variable {old new : CellRecord}

theorem coupled_redact {record : CellRecord} :
    Coupled (redactCellDiagnostic record) ↔ Coupled record := by
  simp only [Coupled, redactCellDiagnostic_phase, redactCellDiagnostic_state,
    redactCellDiagnostic_providerObject]

/-- Every write keeps phase, state and object coupled. -/
theorem CellStep.coupled (step : CellStep old new) (coupled : Coupled old) : Coupled new := by
  unfold Coupled at coupled ⊢
  cases step with
  | overlay before _ after state object =>
      rw [before] at coupled
      rw [after, object]
      exact ⟨coupled.1, Or.inl state⟩
  | created identity _ _ _ after state object =>
      rw [after, object]
      exact ⟨rfl, Or.inl state⟩
  | claimed before after state object =>
      rw [before] at coupled
      rw [after, state, object]
      exact coupled
  | ready before _ after state object =>
      rw [before] at coupled
      rw [after, object]
      exact ⟨coupled.1, Or.inl state⟩
  | failed provisioning _ after state object =>
      rw [after, state, object]
      cases before : old.phase <;> rw [before] at coupled provisioning <;>
        first | exact ⟨coupled.1, Or.inr rfl⟩ | cases provisioning
  | power before after state object =>
      rw [after, object]
      exact ⟨coupled.ready before, state⟩
  | destroying before after state object =>
      rw [after, object]
      rcases before with before | before <;> rw [before] at coupled <;> exact ⟨coupled.1, state⟩
  | destroyingProvisioning before after state object =>
      rw [after, object]
      rcases before with before | before <;> rw [before] at coupled <;> exact ⟨coupled.1, state⟩
  | destroyed _ recorded after state object =>
      rw [after, object]
      exact ⟨recorded, state⟩

/-- Nothing is written over a tombstone. -/
theorem CellStep.live (step : CellStep old new) (coupled : Coupled old) :
    old.state ≠ .destroyed := by
  intro gone
  have tombstone := coupled.destroyed.mpr gone
  cases step <;> simp_all

/-- A recorded provider object stays. -/
theorem CellStep.object (step : CellStep old new) {identity : ProviderObjectIdentity}
    (recorded : old.providerObject = some identity) : new.providerObject = some identity := by
  cases step with
  | created _ _ _ absent =>
      rw [recorded] at absent
      cases absent
  | overlay _ _ _ _ object | claimed _ _ _ object | ready _ _ _ _ object | failed _ _ _ _ object
  | power _ _ _ object | destroying _ _ _ object | destroyingProvisioning _ _ _ object
  | destroyed _ _ _ _ object => exact object.trans recorded

end Steps

section Runs
variable {env : Environment} {i : Pid} {op : Op} {s t : Store} {c d e : Manager}

def AllCoupled (s : Store) : Prop :=
  ∀ cellId record, s.cells.lookup cellId = some record → Coupled record

/-- Everything a later record of the same cell has in common with an earlier one. -/
structure Successor (old new : CellRecord) : Prop where
  same : SameCell old new
  object : ∀ identity, old.providerObject = some identity → new.providerObject = some identity
  tombstone : old.state = .destroyed → new = old

theorem Successor.refl (record : CellRecord) : Successor record record :=
  ⟨.refl record, fun _ recorded => recorded, fun _ => rfl⟩

theorem Successor.trans {first second third : CellRecord} (left : Successor first second)
    (right : Successor second third) : Successor first third where
  same := left.same.trans right.same
  object := fun identity recorded => right.object identity (left.object identity recorded)
  tombstone := by
    intro gone
    have same := left.tombstone gone
    rw [right.tombstone (same ▸ gone), same]

def Succeeds (s t : Store) : Prop :=
  ∀ cellId old, s.cells.lookup cellId = some old →
    ∃ new, t.cells.lookup cellId = some new ∧ Successor old new

theorem Succeeds.refl (s : Store) : Succeeds s s := fun _ old found => ⟨old, found, .refl old⟩

theorem Succeeds.trans {u : Store} (first : Succeeds s t) (second : Succeeds t u) :
    Succeeds s u := by
  intro cellId old found
  obtain ⟨middle, there, left⟩ := first cellId old found
  obtain ⟨new, last, right⟩ := second cellId middle there
  exact ⟨new, last, left.trans right⟩

theorem allCoupled_of_change (coupled : AllCoupled s) (allowed : Allowed env i op s)
    (change : Change env.site s op t) : AllCoupled t := by
  rcases change.cells with same | ⟨record, rfl, saved⟩
  · unfold AllCoupled
    rwa [same]
  · obtain ⟨_, _, _, rfl⟩ := Store.saveCell_ok saved
    intro cellId found lookup
    by_cases same : cellId = record.id
    · subst same
      obtain rfl := Option.some.inj ((AList.lookup_insert s.cells).symm.trans lookup)
      refine coupled_redact.mpr ?_
      rcases allowed with intended | ⟨old, stored, _, step⟩
      · unfold Coupled
        rw [intended.phase, intended.state, intended.object]
        exact ⟨rfl, Or.inl rfl⟩
      · exact step.coupled (coupled _ old stored)
    · exact coupled cellId found ((AList.lookup_insert_ne same).symm.trans lookup)

theorem succeeds_of_change (coupled : AllCoupled s) (allowed : Allowed env i op s)
    (change : Change env.site s op t) : Succeeds s t := by
  rcases change.cells with same | ⟨record, rfl, saved⟩
  · intro cellId old found
    exact ⟨old, by rw [same]; exact found, .refl old⟩
  · obtain ⟨_, _, _, rfl⟩ := Store.saveCell_ok saved
    intro cellId old found
    by_cases same : cellId = record.id
    · subst same
      refine ⟨redactCellDiagnostic record, AList.lookup_insert _, ?_⟩
      rcases allowed with intended | ⟨stored, there, kept, step⟩
      · rw [intended.absent] at found
        cases found
      · obtain rfl := Option.some.inj (there.symm.trans found)
        refine ⟨kept.trans (redact_sameCell record), fun identity recorded => ?_, fun gone => ?_⟩
        · rw [redactCellDiagnostic_providerObject]
          exact step.object recorded
        · exact absurd gone (step.live (coupled _ stored there))
    · exact ⟨old, (AList.lookup_insert_ne same).trans found, .refl old⟩

theorem allCoupled_empty : AllCoupled Store.empty := by
  intro cellId record found
  cases found

/-- From an empty state root, at every point of every run: each stored cell has
one of the coupled combinations, and each record stored earlier has a successor
that differs from it only where a cell may change. -/
theorem cells_stay_coupled (idle : c.Idle) (fresh : c.store = Store.empty)
    (before : Manager.Reaches env c d) (after : Manager.Reaches env d e) :
    (∀ cellId record, d.store.cells.lookup cellId = some record →
      Coupled record ∧ (record.phase = .destroyed ↔ record.state = .destroyed)) ∧
    ∀ cellId old, d.store.cells.lookup cellId = some old →
      ∃ new, e.store.cells.lookup cellId = some new ∧ Successor old new := by
  have initially : AllCoupled c.store := fresh ▸ allCoupled_empty
  constructor
  · intro cellId record found
    have coupled := Manager.invariant idle initially allCoupled_of_change before cellId record found
    exact ⟨coupled, coupled.destroyed⟩
  · have succeeds : Succeeds d.store e.store := Manager.related idle initially allCoupled_of_change
      Succeeds.refl Succeeds.trans succeeds_of_change before after
    exact succeeds

/-- The exemplary cell is in the given state. -/
def exemplarIn (state : CellState) (s : Store) : Bool :=
  (s.cells.lookup Exemplar.cellId).any fun record => record.state = state

theorem exemplarIn_iff {state : CellState} {s : Store} : exemplarIn state s = true ↔
    ∃ record, s.cells.lookup Exemplar.cellId = some record ∧ record.state = state := by
  unfold exemplarIn
  simp [Option.any_eq_true]

theorem cells_stay_coupled_when_started :
    ∃ (d e : Manager) (old new : CellRecord),
      Manager.Reaches Exemplar.env (Config.empty Store.empty) d ∧
      Manager.Reaches Exemplar.env d e ∧
      d.store.cells.lookup Exemplar.cellId = some old ∧ old.state = .stopped ∧
      e.store.cells.lookup Exemplar.cellId = some new ∧ new.state = .running ∧
      Coupled old ∧ Successor old new := by
  obtain ⟨s, before, ready⟩ := Exemplar.reaches [(Exemplar.register, 11), (Exemplar.create, 36)]
    (fun s => exemplarIn .stopped s &&
      (Exemplar.stage.rehearse Exemplar.env.site [(Exemplar.start, 20)] s).any (exemplarIn .running))
    (by decide +kernel)
  obtain ⟨stopped, starts⟩ := (Bool.and_eq_true _ _).mp ready
  obtain ⟨t, rehearsed, running⟩ := (Option.any_eq_true _ _).mp starts
  have after : Manager.Reaches Exemplar.env (Config.empty s) (Config.empty t) :=
    Stage.reaches_rehearsed (fun _ => rfl) rehearsed
  obtain ⟨old, found, was⟩ := exemplarIn_iff.mp stopped
  obtain ⟨new, there, now⟩ := exemplarIn_iff.mp running
  obtain ⟨coupled, successors⟩ :=
    cells_stay_coupled (Config.empty_idle Store.empty) rfl before after
  obtain ⟨later, stored, successor⟩ := successors Exemplar.cellId old found
  obtain rfl := Option.some.inj (there.symm.trans stored)
  exact ⟨_, _, old, new, before, after, found, was, there, now,
    (coupled Exemplar.cellId old found).1, successor⟩

end Runs

section Lifecycle
variable {old new : CellRecord} {told : Answer signature → Prop}

/-- What destruction does beside the published table: it goes on from a creation
that was interrupted after the claim, and it ends at once when it has been told
that the recorded object is absent. -/
inductive Shortcut (told : Answer signature → Prop) (old new : CellRecord) : Prop where
  | provisioning : old.state = .creating → old.phase = .providerObjectClaimed →
      new.state = .destroying → new.phase = .destroyingProvisioning → Shortcut told old new
  | absent : old.state ≠ .destroyed → Missing told old →
      new.state = .destroyed → new.phase = .destroyed → Shortcut told old new

def Listed (told : Answer signature → Prop) (old new : CellRecord) : Prop :=
  old.state = new.state ∨ validateTransition old.state new.state = .ok () ∨ Shortcut told old new

theorem CellStep.listed (step : CellStep old new) (coupled : Coupled old)
    (warranted : new.state = .destroyed → new.phase = .destroyed → Missing told new) :
    Listed told old new := by
  unfold Coupled at coupled
  cases step with
  | overlay _ was _ now _ => exact Or.inl (was.trans now.symm)
  | created identity _ was _ _ now _ => exact Or.inl (was.trans now.symm)
  | claimed _ _ same _ => exact Or.inl same.symm
  | ready _ was _ now _ => exact Or.inr (Or.inl (by rw [was, now]; rfl))
  | failed _ was _ now _ => exact Or.inr (Or.inl (by rw [was, now]; rfl))
  | power was _ now _ =>
      rcases was with was | was <;> rcases now with now | now <;> simp [Listed, was, now] <;>
        exact Or.inl rfl
  | destroying before _ now _ =>
      rcases before with phase | phase
      · rw [phase] at coupled
        -- a ready cell is stopped or running
        rcases coupled.2 with was | was
        · exact Or.inr (Or.inl (by rw [was, now]; rfl))
        · exact Or.inr (Or.inl (by rw [was, now]; rfl))
      · rw [phase] at coupled
        exact Or.inl (coupled.2.trans now.symm)
  | destroyingProvisioning before after now _ =>
      rcases before with phase | phase
      · have claimed := coupled
        rw [phase] at claimed
        rcases claimed.2 with was | was
        · exact Or.inr (Or.inr (.provisioning was phase now after))
        · exact Or.inr (Or.inl (by rw [was, now]; rfl))
      · rw [phase] at coupled
        exact Or.inl (coupled.2.trans now.symm)
  | destroyed live _ after now object =>
      obtain ⟨identity, recorded, absent⟩ := warranted now after
      exact Or.inr (Or.inr (.absent live ⟨identity, object.symm.trans recorded, absent⟩ now after))

theorem listed_redact {record : CellRecord} :
    Listed told old (redactCellDiagnostic record) ↔ Listed told old record := by
  have shortcut : Shortcut told old (redactCellDiagnostic record) ↔ Shortcut told old record := by
    constructor
    · rintro (⟨was, phase, now, after⟩ | ⟨live, missing, now, after⟩)
      · simp only [redactCellDiagnostic_state, redactCellDiagnostic_phase] at now after
        exact .provisioning was phase now after
      · simp only [redactCellDiagnostic_state, redactCellDiagnostic_phase] at now after
        exact .absent live missing now after
    · rintro (⟨was, phase, now, after⟩ | ⟨live, missing, now, after⟩)
      · exact .provisioning was phase (by simpa using now) (by simpa using after)
      · exact .absent live missing (by simpa using now) (by simpa using after)
  unfold Listed
  rw [redactCellDiagnostic_state, shortcut]

variable {env : Environment} {i : Pid} {c d e : Manager} {s t : Store} {op : Op}

theorem listed_of_change {cellId : CellId} (coupled : AllCoupled s) (allowed : Allowed env i op s)
    (warranted : Warranted told op) (change : Change env.site s op t)
    (was : s.cells.lookup cellId = some old) (now : t.cells.lookup cellId = some new) :
    Listed told old new := by
  rcases change.cells with same | ⟨record, rfl, saved⟩
  · rw [same, was] at now
    obtain rfl := Option.some.inj now
    exact Or.inl rfl
  · obtain ⟨_, _, _, rfl⟩ := Store.saveCell_ok saved
    by_cases own : cellId = record.id
    · subst own
      obtain rfl := Option.some.inj ((AList.lookup_insert s.cells).symm.trans now)
      refine listed_redact.mpr ?_
      rcases allowed with intended | ⟨stored, there, _, step⟩
      · rw [intended.absent] at was
        cases was
      · obtain rfl := Option.some.inj (there.symm.trans was)
        exact step.listed (coupled _ stored there) warranted
    · rw [AList.lookup_insert_ne own, was] at now
      obtain rfl := Option.some.inj now
      exact Or.inl rfl

end Lifecycle

namespace Exemplar

/-- The next effect overwrites the record of a cell in one state by one in another. -/
def overwrites (was now : CellState) (q : Proc signature Response) (s : Store) : Bool :=
  match q with
  | .call (.mutate (.saveCell record)) _ =>
      ((s.cells.lookup record.id).any fun old => old.state = was) &&
        record.state = now && (s.saveCell site record).isOk
  | _ => false

theorem overwritten {was now : CellState} {q : Proc signature Response} {still : Bool} {t : Store}
    (passed : overwrites was now q t = true) :
    ∃ (e : Manager) (record old new : CellRecord) (reply : (Op.mutate (.saveCell record)).Reply),
      Manager.Effect env (Config.alone 0 q still t) 0 (.mutate (.saveCell record)) reply e ∧
      t.cells.lookup record.id = some old ∧ e.store.cells.lookup record.id = some new ∧
      old.state = was ∧ new.state = now := by
  unfold overwrites at passed
  split at passed
  · rename_i record next
    obtain ⟨both, accepted⟩ := (Bool.and_eq_true _ _).mp passed
    obtain ⟨stored, after⟩ := (Bool.and_eq_true _ _).mp both
    obtain ⟨old, found, before⟩ := (Option.any_eq_true _ _).mp stored
    cases saved : t.saveCell site record with
    | error e =>
        rw [saved] at accepted
        cases accepted
    | ok u =>
        have applied : (Mutation.saveCell record).apply site t = .ok ((), u) :=
          written_ok.mpr saved
        have step : Manager.Effect env
            (Config.alone 0 (.call (Op.mutate (.saveCell record)) next) still t) 0
            (.mutate (.saveCell record)) (.ok ()) _ :=
          .perform (t := u) (Config.alone_procs 0 _ still t) (Or.inl (Or.inl ⟨(), applied, rfl⟩))
        obtain ⟨_, _, _, rfl⟩ := Store.saveCell_ok saved
        refine ⟨_, record, old, redactCellDiagnostic record, _, step, found,
          AList.lookup_insert _, of_decide_eq_true before, ?_⟩
        rw [redactCellDiagnostic_state]
        exact of_decide_eq_true after
  · cases passed

/-- A host that has lost its machine. -/
def bereft : Stage :=
  { stage with
    observe := fun o s =>
      match o with
      | .inspectVm _ => some (.ok none)
      | o => stage.observe o s }

end Exemplar

end VmCell
