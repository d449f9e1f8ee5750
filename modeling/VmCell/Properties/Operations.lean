import VmCell.Engine.Rehearsal

/-! The state machine of guest operations, over every interleaving of the
commands that write them. -/

set_option autoImplicit false
namespace VmCell

open Interaction

section Steps
variable {site : Site} {s t : Store} {old new : GuestOperationRecord}

/-- The edges of the state machine. -/
inductive PhaseStep : GuestOperationPhase → GuestOperationPhase → Prop where
  | activate : PhaseStep .intentRecorded .transportActive
  | interrupt : PhaseStep .intentRecorded .failed
  | stay : PhaseStep .transportActive .transportActive
  | complete : PhaseStep .transportActive .completed
  | commit : PhaseStep .transportActive .artifactCommitted
  | fail : PhaseStep .transportActive .failed
  | finish : PhaseStep .artifactCommitted .completed
  | prune : PhaseStep .completed .completed

/-- A later record of an operation: the same one, or one edge further. Only a
tombstone is written over a completed operation. -/
def Advances (old new : GuestOperationRecord) : Prop :=
  new = old ∨ SameOperation old new ∧ PhaseStep old.phase new.phase ∧
    (old.phase = .completed → ∃ time, new = tombstoned old time)

/-- The fields that record how an operation ended. -/
structure SameOutcome (old new : GuestOperationRecord) : Prop where
  phase : new.phase = old.phase
  exitCode : new.exitCode = old.exitCode
  stdoutBytes : new.stdoutBytes = old.stdoutBytes
  stderrBytes : new.stderrBytes = old.stderrBytes
  failure : new.failure = old.failure
  artifactId : new.artifactId = old.artifactId
  completedAt : new.completedAt = old.completedAt

theorem SameOutcome.refl (record : GuestOperationRecord) : SameOutcome record record :=
  ⟨rfl, rfl, rfl, rfl, rfl, rfl, rfl⟩

theorem SameOutcome.trans {first second third : GuestOperationRecord}
    (left : SameOutcome first second) (right : SameOutcome second third) :
    SameOutcome first third :=
  ⟨right.phase.trans left.phase, right.exitCode.trans left.exitCode,
    right.stdoutBytes.trans left.stdoutBytes, right.stderrBytes.trans left.stderrBytes,
    right.failure.trans left.failure, right.artifactId.trans left.artifactId,
    right.completedAt.trans left.completedAt⟩

/-- A failure before the transport was activated has no valid record. -/
theorem intent_without_failure
    (valid : validateGuestOperationSchema site new.id new = .ok ())
    (phase : new.phase = .intentRecorded) : new.failure = none := by
  obtain ⟨_, _, _, fields, _⟩ := validateGuestOperationSchema_ok.mp valid
  unfold fieldsAreValid at fields
  rw [phase] at fields
  simp only [Bool.and_eq_true, Option.isNone_iff_eq_none] at fields
  exact fields.1.1.1.2

theorem OperationStep.advances (step : OperationStep site s old new) (same : SameOperation old new)
    (valid : validateGuestOperationSchema site new.id new = .ok ()) : Advances old new := by
  have edge : PhaseStep old.phase new.phase → old.phase ≠ .completed → Advances old new :=
    fun edge open' => Or.inr ⟨same, edge, fun closed => absurd closed open'⟩
  cases step with
  | active before after =>
      rcases before with before | before
      · exact edge (by rw [before, after]; exact .activate) (by simp [before])
      · exact edge (by rw [before, after]; exact .stay) (by simp [before])
  | undecided before after failed =>
      rw [intent_without_failure valid after] at failed
      cases failed
  | failed before after =>
      rcases before with before | before
      · exact edge (by rw [before, after]; exact .interrupt) (by simp [before])
      · exact edge (by rw [before, after]; exact .fail) (by simp [before])
  | completed before after => exact edge (by rw [before, after]; exact .complete) (by simp [before])
  | committed before after => exact edge (by rw [before, after]; exact .commit) (by simp [before])
  | finished time before after =>
      refine edge ?_ (by simp [before])
      rw [before, after]
      exact .finish
  | pruned time before _ _ after =>
      refine Or.inr ⟨same, ?_, fun _ => ⟨time, after⟩⟩
      rw [after]
      change PhaseStep old.phase old.phase
      rw [before]
      exact .prune

/-- What a terminal operation records about its end stays. -/
theorem Advances.outcome (advances : Advances old new) (ended : old.phase.isTerminal = true) :
    SameOutcome old new := by
  rcases advances with rfl | ⟨_, edge, tombstone⟩
  · exact .refl new
  · cases phase : old.phase <;> rw [phase] at ended edge <;> try cases ended
    · obtain ⟨time, rfl⟩ := tombstone phase
      exact ⟨rfl, rfl, rfl, rfl, rfl, rfl, rfl⟩
    · cases edge

theorem Advances.cellId (advances : Advances old new) : new.cellId = old.cellId := by
  rcases advances with rfl | ⟨same, _⟩
  · rfl
  · exact same.cellId

/-- An operation that is open was open before. -/
theorem Advances.open (advances : Advances old new) (live : new.phase.isTerminal = false) :
    old.phase.isTerminal = false := by
  cases ended : old.phase.isTerminal with
  | false => rfl
  | true =>
      rw [(advances.outcome ended).phase, ended] at live
      cases live

end Steps

section Runs
variable {env : Environment} {i : Pid} {op : Op} {s t : Store} {c d e : Manager}

/-- How the stored operations change from one state to the next. -/
structure Progress (s t : Store) : Prop where
  kept : ∀ id old, s.operations.lookup id = some old →
    ∃ new, t.operations.lookup id = some new ∧ Advances old new
  begun : ∀ id new, s.operations.lookup id = none → t.operations.lookup id = some new →
    new.phase = .intentRecorded ∧ Quiescent s new.cellId
  single : ∀ first second left right, s.operations.lookup first = none →
    s.operations.lookup second = none → t.operations.lookup first = some left →
    t.operations.lookup second = some right → first = second

theorem Progress.of_same (same : t.operations = s.operations) : Progress s t where
  kept := fun id old found => ⟨old, by rw [same]; exact found, Or.inl rfl⟩
  begun := by
    intro id new absent found
    rw [same, absent] at found
    cases found
  single := by
    intro first second left right absent _ found
    rw [same, absent] at found
    cases found

theorem progress_of_change (allowed : Allowed env i op s) (change : Change env.site s op t) :
    Progress s t := by
  rcases change.operations with same | ⟨record, rfl, saved⟩
  · exact .of_same same
  · obtain ⟨valid, _, _, rfl⟩ := Store.saveGuestOperation_ok saved
    have inserted : ∀ id new, s.operations.lookup id = none →
        (s.operations.insert record.id record).lookup id = some new → id = record.id := by
      intro id new absent found
      by_contra other
      rw [AList.lookup_insert_ne other, absent] at found
      cases found
    refine ⟨?_, ?_, fun first second left right absent other found there =>
      (inserted first left absent found).trans (inserted second right other there).symm⟩
    · intro id old found
      by_cases same : id = record.id
      · subst same
        refine ⟨record, AList.lookup_insert _, ?_⟩
        rcases allowed with ⟨absent, _⟩ | ⟨stored, there, kept, step⟩
        · rw [absent] at found
          cases found
        · obtain rfl := Option.some.inj (there.symm.trans found)
          exact step.advances kept valid
      · exact ⟨old, (AList.lookup_insert_ne same).trans found, Or.inl rfl⟩
    · intro id new absent found
      obtain rfl := inserted id new absent found
      obtain rfl := Option.some.inj ((AList.lookup_insert s.operations).symm.trans found)
      rcases allowed with ⟨_, phase, quiescent⟩ | ⟨stored, there, _⟩
      · exact ⟨phase, quiescent⟩
      · rw [absent] at there
        cases there

/-- No cell has two open operations. -/
def OneOpen (s : Store) : Prop :=
  ∀ first second left right, s.operations.lookup first = some left →
    s.operations.lookup second = some right → left.cellId = right.cellId →
    left.phase.isTerminal = false → right.phase.isTerminal = false → first = second

theorem oneOpen_of_progress (one : OneOpen s) (progress : Progress s t) : OneOpen t := by
  have earlier : ∀ id new, t.operations.lookup id = some new → new.phase.isTerminal = false →
      (∃ old, s.operations.lookup id = some old ∧ new.cellId = old.cellId ∧
        old.phase.isTerminal = false) ∨
      s.operations.lookup id = none ∧ Quiescent s new.cellId := by
    intro id new found live
    cases before : s.operations.lookup id with
    | none => exact Or.inr ⟨rfl, (progress.begun id new before found).2⟩
    | some old =>
        obtain ⟨after, there, advances⟩ := progress.kept id old before
        obtain rfl := Option.some.inj (there.symm.trans found)
        exact Or.inl ⟨old, rfl, advances.cellId, advances.open live⟩
  intro first second left right foundLeft foundRight same liveLeft liveRight
  rcases earlier first left foundLeft liveLeft with ⟨old, there, cell, live⟩ | ⟨absent, quiet⟩
  · rcases earlier second right foundRight liveRight with ⟨other, here, bound, still⟩ | ⟨_, quiet⟩
    · exact one first second old other there here (cell ▸ bound ▸ same) live still
    · rw [quiet first old there (by rw [← cell, same])] at live
      cases live
  · rcases earlier second right foundRight liveRight with ⟨other, here, bound, still⟩ | ⟨none, _⟩
    · rw [quiet second other here (by rw [← bound, same])] at still
      cases still
    · exact progress.single first second left right absent none foundLeft foundRight

/-- A terminal operation keeps its outcome, and a failed one its whole record. -/
def OutcomesKept (s t : Store) : Prop :=
  ∀ id old, s.operations.lookup id = some old → ∃ new, t.operations.lookup id = some new ∧
    (old.phase.isTerminal = true → SameOutcome old new) ∧ (old.phase = .failed → new = old)

theorem OutcomesKept.refl (s : Store) : OutcomesKept s s :=
  fun _ old found => ⟨old, found, fun _ => .refl old, fun _ => rfl⟩

theorem OutcomesKept.trans {u : Store} (first : OutcomesKept s t) (second : OutcomesKept t u) :
    OutcomesKept s u := by
  intro id old found
  obtain ⟨middle, there, outcome, failed⟩ := first id old found
  obtain ⟨new, last, later, still⟩ := second id middle there
  refine ⟨new, last, fun ended => ?_, fun fails => ?_⟩
  · exact (outcome ended).trans (later (by rw [(outcome ended).phase]; exact ended))
  · have same := failed fails
    rw [still (same ▸ fails), same]

theorem outcomesKept_of_progress (progress : Progress s t) : OutcomesKept s t := by
  intro id old found
  obtain ⟨new, there, advances⟩ := progress.kept id old found
  refine ⟨new, there, advances.outcome, fun fails => ?_⟩
  rcases advances with same | ⟨_, edge, _⟩
  · exact same
  · rw [fails] at edge
    cases edge

/-- Over every run from an empty state root: each effect moves every stored
operation along an edge and begins at most one operation, with its intent; ended
operations keep their outcome for ever; no cell has two open operations; and the
guest is acted on only while the operation is durably active. -/
theorem guest_operations_follow_machine (idle : c.Idle) (fresh : c.store = Store.empty)
    (before : Manager.Reaches env c d) :
    (∀ {i op} {reply : op.Reply} {e}, Manager.Effect env d i op reply e →
      Progress d.store e.store) ∧
    (∀ e, Manager.Reaches env d e → OutcomesKept d.store e.store) ∧
    OneOpen d.store ∧
    ∀ {i authority operationId action}
      {reply : (Op.transport authority operationId action).Reply} {e},
      Manager.Effect env d i (.transport authority operationId action) reply e →
      OperationActive d.store authority.record.id operationId := by
  refine ⟨fun step => ?_, fun e after => ?_, ?_, fun step => ?_⟩
  · rcases Manager.permitted idle before step with ⟨_, unchanged⟩ | ⟨_, allowed⟩
    · exact .of_same (by rw [unchanged])
    · exact progress_of_change allowed (Manager.change step)
  · exact Manager.related idle (show (fun _ : Store => True) c.store from trivial)
      (fun _ _ _ => trivial) OutcomesKept.refl OutcomesKept.trans
      (fun _ allowed change => outcomesKept_of_progress (progress_of_change allowed change))
      before after
  · refine Manager.invariant idle ?_
      (fun one allowed change => oneOpen_of_progress one (progress_of_change allowed change)) before
    intro first second left right found
    rw [fresh] at found
    cases found
  · rcases Manager.permitted idle before step with ⟨free, _⟩ | ⟨_, allowed⟩
    · exact free.elim
    · exact allowed

/-- The next effect acts on the guest. -/
def asksGuest : Proc signature Response → Bool
  | .call (.transport _ _ action) _ => action.isAction
  | _ => false

theorem guest_operations_follow_machine_in_collection :
    ∃ (d e : Manager) (authority : GuestActionAuthority) (operationId : GuestOperationId)
      (action : TransportAction) (reply : (Op.transport authority operationId action).Reply),
      Manager.Reaches Exemplar.env (Config.empty Store.empty) d ∧
      Manager.Effect Exemplar.env d 0 (.transport authority operationId action) reply e ∧
      action.isAction = true ∧ OperationActive d.store authority.record.id operationId ∧
      OneOpen d.store ∧ Progress d.store e.store := by
  obtain ⟨s, q, still, t, before, after, asks⟩ := Exemplar.reaches_within Exemplar.running
    Exemplar.collect 16 (fun q _ => asksGuest q) (by decide +kernel)
  have reaches := Config.Reaches.append before after
  unfold asksGuest at asks
  split at asks
  · rename_i authority operationId action next
    have step : Manager.Effect Exemplar.env
        (Config.alone 0 (.call (Op.transport authority operationId action) next) still t) 0
        (.transport authority operationId action) (.error .timeout) _ :=
      .perform (Config.alone_procs 0 _ still t) rfl
    obtain ⟨progress, _, one, active⟩ :=
      guest_operations_follow_machine (Config.empty_idle Store.empty) rfl reaches
    exact ⟨_, _, authority, operationId, action, _, reaches, step, asks, active step, one,
      progress step⟩
  · cases asks

end Runs

end VmCell
