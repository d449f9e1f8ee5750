import VmCell.Interaction.System

/-! Runs in which the shared state also changes from outside.

An outside change happens while the lock is free. A discipline survives it when
every running process may rely on it, so the invariants of whole runs need one
more case and nothing else.
-/

set_option autoImplicit false
namespace Interaction.Config

variable {I : Signature} {A S : Type}

/-- A run of the processes with outside changes between their steps. -/
inductive Mixes (effects : Pid → Effects I S) (programs : Proc I A → Prop)
    (outside : Config I A S → S → Prop) : Config I A S → Config I A S → Prop where
  | refl {c : Config I A S} : Mixes effects programs outside c c
  | control {c d e : Config I A S} : Mixes effects programs outside c d →
      Control programs d e → Mixes effects programs outside c e
  | effect {c d e : Config I A S} {i : Pid} {op : I.Op} {reply : I.Reply op} :
      Mixes effects programs outside c d → Effect effects d i op reply e →
      Mixes effects programs outside c e
  | intrude {c d : Config I A S} {t : S} : Mixes effects programs outside c d →
      d.holder = none → outside d t → Mixes effects programs outside c { d with store := t }

variable {D : Discipline I S} {programs : Proc I A → Prop} {outside : Config I A S → S → Prop}
  {effects : Pid → Effects I S} {c d e : Config I A S}

theorem Mixes.append (before : Mixes effects programs outside c d)
    (after : Mixes effects programs outside d e) : Mixes effects programs outside c e := by
  induction after with
  | refl => exact before
  | control _ step ih => exact .control ih step
  | effect _ step ih => exact .effect ih step
  | intrude _ vacant change ih => exact .intrude ih vacant change

theorem Reaches.mixes (reaches : Reaches effects programs c d) :
    Mixes effects programs outside c d := by
  induction reaches with
  | refl => exact .refl
  | control _ step ih => exact .control ih step
  | effect _ step ih => exact .effect ih step

/-- Every running process may rely on the outside changes. -/
def Tolerates (D : Discipline I S) (outside : Config I A S → S → Prop) : Prop :=
  ∀ {d : Config I A S} {t : S} {i : Pid} {p : Proc I A}, outside d t → d.procs i = some p →
    D.rely i d.store t

theorem Sound.intrude {t : S} (tolerates : Tolerates D outside) (sound : d.Sound D)
    (vacant : d.holder = none) (change : outside d t) : Sound D { d with store := t } := by
  intro i p running
  have safe := sound i p running
  have unheld : decide (d.holder = some i) = false := by
    rw [vacant]
    rfl
  rw [unheld] at safe
  change D.Safe i _ p (decide (d.holder = some i)) t
  rw [unheld]
  exact safe.overtaken (fun _ _ _ _ _ => trivial) (tolerates change running)

section Runs
variable (starts : ∀ p, programs p → ∀ i s, D.Safe i (fun _ _ _ => True) p false s)
  (tolerates : Tolerates D outside)
include starts tolerates

theorem Mixes.sound (idle : c.Idle) (mixes : Mixes D.effects programs outside c d) :
    d.Sound D ∧ d.Attended := by
  induction mixes with
  | refl => exact ⟨idle.sound, fun i holds => by rw [idle.1] at holds; cases holds⟩
  | control _ step ih =>
      refine ⟨ih.1.control ?_ ih.2 step, ih.2.control step⟩
      rintro p program i held s rfl
      exact starts p program i s
  | effect _ step ih => exact ⟨ih.1.effect step, ih.2.effect step⟩
  | intrude _ vacant change ih => exact ⟨ih.1.intrude tolerates vacant change, ih.2⟩

/-- What every allowed effect and every outside change preserves. -/
theorem Mixes.invariant {inv : S → Prop} (idle : c.Idle) (initially : inv c.store)
    (preserved : ∀ {i op s reply t}, inv s → D.allowed i op s → D.effects i op s reply t → inv t)
    (intruded : ∀ {d t}, inv d.store → outside d t → inv t)
    (mixes : Mixes D.effects programs outside c d) : inv d.store := by
  induction mixes with
  | refl => exact initially
  | control _ step ih => rwa [control_store step]
  | effect before step ih =>
      rcases (before.sound starts tolerates idle).1.permitted step with ⟨_, unchanged⟩ | ⟨_, allowed⟩
      · rwa [unchanged]
      · exact preserved ih allowed step.step
  | intrude _ _ change ih => exact intruded ih change

/-- What every allowed effect and every outside change respects, under an invariant. -/
theorem Mixes.related {inv : S → Prop} {relation : S → S → Prop} (idle : c.Idle)
    (initially : inv c.store)
    (preserved : ∀ {i op s reply t}, inv s → D.allowed i op s → D.effects i op s reply t →
      inv t ∧ relation s t)
    (intruded : ∀ {d t}, inv d.store → outside d t → inv t ∧ relation d.store t)
    (refl : ∀ s, relation s s) (trans : ∀ {s t u}, relation s t → relation t u → relation s u)
    (before : Mixes D.effects programs outside c d)
    (after : Mixes D.effects programs outside d e) : relation d.store e.store := by
  have holds : ∀ {d}, Mixes D.effects programs outside c d → inv d.store := fun path =>
    path.invariant starts tolerates idle initially
      (fun here allowed step => (preserved here allowed step).1)
      fun here change => (intruded here change).1
  induction after with
  | refl => exact refl _
  | control _ step ih => rwa [control_store step]
  | effect path step ih =>
      have reached := before.append path
      rcases (reached.sound starts tolerates idle).1.permitted step with ⟨_, unchanged⟩ | ⟨_, allowed⟩
      · rwa [unchanged]
      · exact trans ih (preserved (holds reached) allowed step.step).2
  | intrude path _ change ih =>
      exact trans ih (intruded (holds (before.append path)) change).2

end Runs

end Interaction.Config
