import VmCell.Interaction.Tracking

/-! What a process has been answered since it took the lock.

A run is accompanied by the answers that each process has heard in its critical
section, and a rule says which effects they warrant. Programs are held to the rule
by a discipline whose state is the set of answers a section may hear. The set is
chosen anew whenever the lock is taken, so a section keeps the rule for every
choice, and in particular for the answers it has heard.
-/

set_option autoImplicit false
namespace Interaction

variable {I : Signature} {A S : Type}

/-- An effect and its reply. -/
abbrev Answer (I : Signature) := Sigma I.Reply

/-- Without the lock a process only looks; with it, every effect is warranted. -/
def hearing (free : I.Op → Prop) (warranted : (Answer I → Prop) → I.Op → Prop) :
    Discipline I (Answer I → Prop) where
  effects := fun _ op told reply later => told ⟨op, reply⟩ ∧ later = told
  free := free
  allowed := fun _ op told => warranted told op
  rely := fun _ _ _ => True
  rely_refl := fun _ _ => trivial
  rely_trans := fun _ _ _ _ _ _ => trivial
  free_unchanged := fun _ step => step.2
  guarantee := fun _ _ _ => trivial

namespace Config
variable {effects : Pid → Effects I S} {programs : Proc I A → Prop} {c d e : Config I A S}
  {heard : Pid → List (Answer I)} {i : Pid}

/-- A run, and what every process has been answered since it last took the lock,
the latest answer first. -/
inductive Recounts (effects : Pid → Effects I S) (programs : Proc I A → Prop) :
    Config I A S → (Pid → List (Answer I)) → Config I A S → Prop where
  | refl {c : Config I A S} : Recounts effects programs c (fun _ => []) c
  | control {c d e : Config I A S} {heard : Pid → List (Answer I)} :
      Recounts effects programs c heard d → Control programs d e → (∀ i, ¬d.Grants i e) →
      Recounts effects programs c heard e
  | grant {c d e : Config I A S} {heard : Pid → List (Answer I)} {i : Pid} :
      Recounts effects programs c heard d → d.Grants i e →
      Recounts effects programs c (Function.update heard i []) e
  | effect {c d e : Config I A S} {heard : Pid → List (Answer I)} {i : Pid} {op : I.Op}
      {reply : I.Reply op} : Recounts effects programs c heard d →
      Effect effects d i op reply e →
      Recounts effects programs c (Function.update heard i (⟨op, reply⟩ :: heard i)) e

theorem Recounts.reaches (recounts : Recounts effects programs c heard d) :
    Reaches effects programs c d := by
  induction recounts with
  | refl => exact .refl
  | control _ step _ ih => exact .control ih step
  | grant _ grants ih => exact .control ih grants.control
  | effect _ step ih => exact .effect ih step

/-- Every run can be recounted. -/
theorem Reaches.recounts (reaches : Reaches effects programs c d) :
    ∃ heard, Recounts effects programs c heard d := by
  induction reaches with
  | refl => exact ⟨_, .refl⟩
  | @control d e _ step ih =>
      obtain ⟨heard, before⟩ := ih
      -- one process at most takes the lock, and its answers are forgotten
      by_cases granted : ∃ i, d.Grants i e
      · obtain ⟨i, grants⟩ := granted
        exact ⟨_, .grant before grants⟩
      · exact ⟨heard, .control before step (not_exists.mp granted)⟩
  | effect _ step ih =>
      obtain ⟨heard, before⟩ := ih
      exact ⟨_, .effect before step⟩

section Rule
variable {free : I.Op → Prop} {warranted : (Answer I → Prop) → I.Op → Prop}

/-- Every running process keeps the rule from here on, as long as its section may
hear what it has heard. -/
def Heeds (free : I.Op → Prop) (warranted : (Answer I → Prop) → I.Op → Prop)
    (heard : Pid → List (Answer I)) (c : Config I A S) : Prop :=
  ∀ i p told, c.procs i = some p → (c.holder = some i → ∀ answer ∈ heard i, told answer) →
    (hearing free warranted).Safe i (fun _ _ _ => True) p (decide (c.holder = some i)) told

/-- What may be heard without the lock does not matter. -/
theorem unheld_told {p : Proc I A} {told other : Answer I → Prop}
    (safe : (hearing free warranted).Safe i (fun _ _ _ => True) p false told) :
    (hearing free warranted).Safe i (fun _ _ _ => True) p false other :=
  safe.overtaken (fun _ _ _ _ _ => trivial) trivial

/-- A step that concerns one process. -/
theorem Heeds.update {now : Pid → List (Answer I)} {p : Option (Proc I A)}
    (heeds : c.Heeds free warranted heard) (procs : d.procs = (c.set i p).procs)
    (holder : ∀ j, j ≠ i → (d.holder = some j ↔ c.holder = some j))
    (others : ∀ j, j ≠ i → now j = heard j)
    (self : ∀ q told, p = some q → (d.holder = some i → ∀ answer ∈ now i, told answer) →
      (hearing free warranted).Safe i (fun _ _ _ => True) q (decide (d.holder = some i)) told) :
    d.Heeds free warranted now := by
  intro j q told running hears
  rw [procs] at running
  by_cases same : j = i
  · subst same
    rw [set_procs_self] at running
    exact self q told running hears
  · rw [set_procs_of_ne c p same] at running
    rw [holder j same, others j same] at hears
    rw [decide_eq_decide.mpr (holder j same)]
    exact heeds j q told running hears

theorem Heeds.control (heeds : c.Heeds free warranted heard) (attended : c.Attended)
    (starts : ∀ p, programs p → ∀ i told,
      (hearing free warranted).Safe i (fun _ _ _ => True) p false told)
    (step : Control programs c d) (kept : ∀ i, ¬c.Grants i d) : d.Heeds free warranted heard := by
  cases step with
  | @start i p absent program =>
      have unheld : c.holder ≠ some i := by
        intro holds
        obtain ⟨q, running⟩ := attended i holds
        rw [absent] at running
        cases running
      refine heeds.update (i := i) (p := some p) rfl (fun _ _ => Iff.rfl) (fun _ _ => rfl) ?_
      rintro q told ⟨⟩ _
      have safe := starts p program i told
      rwa [← decide_eq_false unheld] at safe
  | @refuse i next waiting =>
      -- a refused process goes on as it was, in its section or outside
      refine heeds.update (i := i) (p := some (next false)) rfl (fun _ _ => Iff.rfl)
        (fun _ _ => rfl) ?_
      rintro q told ⟨⟩ hears
      have safe := heeds i _ told waiting hears
      change (hearing free warranted).Safe i _ (next false) (decide (c.holder = some i)) told
      cases held : decide (c.holder = some i) with
      | true =>
          rw [held] at safe
          exact safe
      | false =>
          rw [held] at safe
          exact (safe told trivial).1
  | grant waiting vacant => exact absurd (.take waiting vacant) (kept _)
  | @release i next leaving holds =>
      refine heeds.update (i := i) (p := some next) rfl ?_ (fun _ _ => rfl) ?_
      · intro j other
        simp only [holds, reduceCtorEq, Option.some.injEq, false_iff]
        exact fun same => other same.symm
      · rintro q told ⟨⟩ _
        -- the section ends here: any choice of answers will do
        have safe := heeds i _ (fun _ => True) leaving fun _ _ _ => trivial
        rw [decide_eq_true holds] at safe
        exact unheld_told safe
  | @leave i p running =>
      refine heeds.update (i := i) (p := none) rfl ?_ (fun _ _ => rfl) (by rintro q told ⟨⟩)
      intro j other
      change c.freed i = some j ↔ c.holder = some j
      unfold freed
      split
      · rename_i holds
        rw [holds]
        simp only [reduceCtorEq, Option.some.injEq, false_iff]
        exact fun same => other same.symm
      · rfl

/-- A section may hear anything when it begins. -/
theorem Heeds.grant (heeds : c.Heeds free warranted heard) (grants : c.Grants i d) :
    d.Heeds free warranted (Function.update heard i []) := by
  cases grants with
  | @take next waiting vacant =>
      refine heeds.update (i := i) (p := some (next true)) rfl ?_
        (fun _ other => Function.update_of_ne other _ _) ?_
      · intro j other
        simp only [vacant, Option.some.injEq, reduceCtorEq, iff_false]
        exact fun same => other same.symm
      · rintro q told ⟨⟩ _
        have safe := heeds i _ told waiting fun holds => by
          rw [vacant] at holds
          cases holds
        rw [vacant] at safe
        have granted := (safe told trivial).2
        rwa [decide_eq_true rfl]

theorem Heeds.effect {op : I.Op} {reply : I.Reply op} (heeds : c.Heeds free warranted heard)
    (step : Effect effects c i op reply d) :
    d.Heeds free warranted (Function.update heard i (⟨op, reply⟩ :: heard i)) := by
  cases step with
  | perform running effect =>
      rename_i next t
      refine heeds.update (i := i) (p := some (next reply)) rfl (fun _ _ => Iff.rfl)
        (fun _ other => Function.update_of_ne other _ _) ?_
      rintro q told ⟨⟩ hears
      rw [Function.update_self] at hears
      change (hearing free warranted).Safe i _ (next reply) (decide (c.holder = some i)) told
      by_cases holds : c.holder = some i
      · -- the answer is among those the section may hear
        have heard := hears holds
        have safe := heeds i _ told running fun _ answer member =>
          heard answer (List.mem_cons_of_mem _ member)
        rw [decide_eq_true holds] at safe ⊢
        exact safe.2 reply told ⟨heard _ List.mem_cons_self, rfl⟩
      · have safe := heeds i _ told running fun held => absurd held holds
        rw [decide_eq_false holds] at safe ⊢
        exact unheld_told (safe.2 (fun _ => True) trivial reply _ ⟨trivial, rfl⟩)

variable (starts : ∀ p, programs p → ∀ i told,
  (hearing free warranted).Safe i (fun _ _ _ => True) p false told)
include starts

theorem Recounts.heeds (idle : c.Idle) (recounts : Recounts effects programs c heard d) :
    d.Heeds free warranted heard ∧ d.Attended := by
  induction recounts with
  | refl =>
      refine ⟨fun i p _ running => ?_, fun i holds => ?_⟩
      · rw [idle.2 i] at running
        cases running
      · rw [idle.1] at holds
        cases holds
  | control _ step kept ih => exact ⟨ih.1.control ih.2 starts step kept, ih.2.control step⟩
  | grant _ grants ih =>
      have step : Control programs _ _ := grants.control
      exact ⟨ih.1.grant grants, ih.2.control step⟩
  | effect _ step ih => exact ⟨ih.1.effect step, ih.2.effect step⟩

/-- Every effect of a run is free or warranted by what its process has heard. -/
theorem Recounts.justifies {op : I.Op} {reply : I.Reply op} (idle : c.Idle)
    (recounts : Recounts effects programs c heard d) (step : Effect effects d i op reply e) :
    free op ∨ warranted (· ∈ heard i) op := by
  obtain ⟨next, running⟩ := step.running
  have safe := (recounts.heeds starts idle).1 i _ (· ∈ heard i) running fun _ _ member => member
  by_cases holds : d.holder = some i
  · rw [decide_eq_true holds] at safe
    exact Or.inr safe.1
  · rw [decide_eq_false holds] at safe
    exact Or.inl safe.1

end Rule

end Config

end Interaction
