import VmCell.Interaction.Discipline

/-! Any number of processes, interleaved at single effects, over one shared state.

A process may start at any time, may be refused the lock, takes it only when it
is free, and may disappear between any two effects; the lock of a process that
disappears is free again. The state keeps whatever the process had written.
-/

set_option autoImplicit false
namespace Interaction

structure Config (I : Signature) (A S : Type) where
  store : S
  holder : Option Pid
  procs : Pid → Option (Proc I A)

namespace Config
variable {I : Signature} {A S : Type}

def set (c : Config I A S) (i : Pid) (p : Option (Proc I A)) : Config I A S :=
  { c with procs := Function.update c.procs i p }

/-- The lock after process `i` has gone. -/
def freed (c : Config I A S) (i : Pid) : Option Pid :=
  if c.holder = some i then none else c.holder

/-- Steps that leave the shared state alone. -/
inductive Control (programs : Proc I A → Prop) : Config I A S → Config I A S → Prop where
  | start {c : Config I A S} {i : Pid} {p : Proc I A} :
      c.procs i = none → programs p → Control programs c (c.set i (some p))
  | refuse {c : Config I A S} {i : Pid} {next : Bool → Proc I A} :
      c.procs i = some (.acquire next) → Control programs c (c.set i (some (next false)))
  | grant {c : Config I A S} {i : Pid} {next : Bool → Proc I A} :
      c.procs i = some (.acquire next) → c.holder = none →
      Control programs c { c.set i (some (next true)) with holder := some i }
  | release {c : Config I A S} {i : Pid} {next : Proc I A} :
      c.procs i = some (.release next) → c.holder = some i →
      Control programs c { c.set i (some next) with holder := none }
  /-- A process ends or is killed, at whatever point it has reached. -/
  | leave {c : Config I A S} {i : Pid} {p : Proc I A} :
      c.procs i = some p → Control programs c { c.set i none with holder := c.freed i }

/-- One effect of one process. Nothing here asks for the lock: that the effects
of a process fit the state is what a discipline establishes. -/
inductive Effect (effects : Pid → Effects I S) :
    Config I A S → (i : Pid) → (op : I.Op) → I.Reply op → Config I A S → Prop where
  | perform {c : Config I A S} {i : Pid} {op : I.Op} {next : I.Reply op → Proc I A}
      {reply : I.Reply op} {t : S} :
      c.procs i = some (.call op next) → effects i op c.store reply t →
      Effect effects c i op reply { c.set i (some (next reply)) with store := t }

theorem Effect.step {effects : Pid → Effects I S} {c d : Config I A S} {i : Pid} {op : I.Op}
    {reply : I.Reply op} (effect : Effect effects c i op reply d) :
    effects i op c.store reply d.store := by
  cases effect with
  | perform _ step => exact step

theorem Effect.running {effects : Pid → Effects I S} {c d : Config I A S} {i : Pid} {op : I.Op}
    {reply : I.Reply op} (effect : Effect effects c i op reply d) :
    ∃ next, c.procs i = some (.call op next) := by
  cases effect with
  | perform running _ => exact ⟨_, running⟩

inductive Reaches (effects : Pid → Effects I S) (programs : Proc I A → Prop) :
    Config I A S → Config I A S → Prop where
  | refl {c : Config I A S} : Reaches effects programs c c
  | control {c d e : Config I A S} :
      Reaches effects programs c d → Control programs d e → Reaches effects programs c e
  | effect {c d e : Config I A S} {i : Pid} {op : I.Op} {reply : I.Reply op} :
      Reaches effects programs c d → Effect effects d i op reply e → Reaches effects programs c e

theorem Reaches.append {effects : Pid → Effects I S} {programs : Proc I A → Prop}
    {c d e : Config I A S} (before : Reaches effects programs c d)
    (after : Reaches effects programs d e) : Reaches effects programs c e := by
  induction after with
  | refl => exact before
  | control _ step ih => exact .control ih step
  | effect _ step ih => exact .effect ih step

/-- No process is running. -/
def Idle (c : Config I A S) : Prop := c.holder = none ∧ ∀ i, c.procs i = none

variable {D : Discipline I S} {programs : Proc I A → Prop}

/-- Every running process keeps the discipline from here on. -/
def Sound (D : Discipline I S) (c : Config I A S) : Prop :=
  ∀ i p, c.procs i = some p → D.Safe i (fun _ _ _ => True) p (decide (c.holder = some i)) c.store

theorem Idle.sound {c : Config I A S} (idle : c.Idle) : c.Sound D := by
  intro i p running
  rw [idle.2 i] at running
  cases running

theorem set_procs_self (c : Config I A S) (i : Pid) (p : Option (Proc I A)) :
    (c.set i p).procs i = p := Function.update_self _ _ _

theorem set_procs_of_ne (c : Config I A S) {i j : Pid} (p : Option (Proc I A)) (other : j ≠ i) :
    (c.set i p).procs j = c.procs j := Function.update_of_ne other _ _

theorem control_store {c d : Config I A S} (step : Control programs c d) : d.store = c.store := by
  cases step <;> rfl

/-- A step that concerns one process keeps the others safe when it keeps the
state and whether they hold the lock. -/
theorem Sound.update {c d : Config I A S} {i : Pid} {p : Option (Proc I A)} (sound : c.Sound D)
    (procs : d.procs = (c.set i p).procs) (store : d.store = c.store)
    (holder : ∀ j, j ≠ i → (d.holder = some j ↔ c.holder = some j))
    (self : ∀ q, p = some q →
      D.Safe i (fun _ _ _ => True) q (decide (d.holder = some i)) c.store) :
    d.Sound D := by
  intro j q running
  rw [procs] at running
  rw [store]
  by_cases same : j = i
  · subst same
    rw [set_procs_self] at running
    exact self q running
  · rw [set_procs_of_ne c p same] at running
    have safe := sound j q running
    rwa [decide_eq_decide.mpr (holder j same)]

theorem Sound.control {c d : Config I A S} (sound : c.Sound D)
    (starts : ∀ p, programs p → ∀ i held s, held = false → D.Safe i (fun _ _ _ => True) p held s)
    (single : ∀ i, c.holder = some i → ∃ p, c.procs i = some p)
    (step : Control programs c d) : d.Sound D := by
  cases step with
  | @start i p absent program =>
      have unheld : decide (c.holder = some i) = false := by
        refine decide_eq_false fun holds => ?_
        obtain ⟨q, running⟩ := single i holds
        rw [absent] at running
        cases running
      refine sound.update (i := i) (p := some p) rfl rfl (fun _ _ => Iff.rfl) ?_
      rintro q ⟨⟩
      exact starts p program i _ _ unheld
  | @refuse i next waiting =>
      refine sound.update (i := i) (p := some (next false)) rfl rfl (fun _ _ => Iff.rfl) ?_
      rintro q ⟨⟩
      have safe := sound i _ waiting
      change D.Safe i _ (next false) (decide (c.holder = some i)) c.store
      cases held : decide (c.holder = some i) with
      | true =>
          rw [held] at safe
          exact safe
      | false =>
          rw [held] at safe
          exact (safe c.store (D.rely_refl i c.store)).1
  | @grant i next waiting vacant =>
      refine sound.update (i := i) (p := some (next true)) rfl rfl ?_ ?_
      · intro j other
        simp only [vacant, Option.some.injEq, reduceCtorEq, iff_false]
        exact fun same => other same.symm
      · rintro q ⟨⟩
        have safe := sound i _ waiting
        rw [vacant] at safe
        have granted := (safe c.store (D.rely_refl i c.store)).2
        rwa [decide_eq_true rfl]
  | @release i next leaving holds =>
      refine sound.update (i := i) (p := some next) rfl rfl ?_ ?_
      · intro j other
        simp only [holds, reduceCtorEq, Option.some.injEq, false_iff]
        exact fun same => other same.symm
      · rintro q ⟨⟩
        have safe := sound i _ leaving
        rw [decide_eq_true holds] at safe
        exact safe
  | @leave i p running =>
      refine sound.update (i := i) (p := none) rfl rfl ?_ (by rintro q ⟨⟩)
      intro j other
      change c.freed i = some j ↔ c.holder = some j
      unfold freed
      split
      · rename_i holds
        rw [holds]
        simp only [reduceCtorEq, Option.some.injEq, false_iff]
        exact fun same => other same.symm
      · rfl

/-- An effect of a process is one that needs no lock, or the process holds the
lock and the effect is allowed in the present state. -/
theorem Sound.permitted {c d : Config I A S} {i : Pid} {op : I.Op} {reply : I.Reply op}
    (sound : c.Sound D) (step : Effect D.effects c i op reply d) :
    (D.free op ∧ d.store = c.store) ∨ (c.holder = some i ∧ D.allowed i op c.store) := by
  cases step with
  | perform running effect =>
      rename_i next t
      have safe := sound i _ running
      by_cases holds : c.holder = some i
      · rw [decide_eq_true holds] at safe
        exact Or.inr ⟨holds, safe.1⟩
      · rw [decide_eq_false holds] at safe
        exact Or.inl ⟨safe.1, D.free_unchanged safe.1 effect⟩

theorem Sound.effect {c d : Config I A S} {i : Pid} {op : I.Op} {reply : I.Reply op}
    (sound : c.Sound D) (step : Effect D.effects c i op reply d) : d.Sound D := by
  have permitted := sound.permitted step
  cases step with
  | perform running effect =>
      rename_i next t
      have safe := sound i _ running
      intro j q active
      change D.Safe j _ q (decide (c.holder = some j)) t
      by_cases same : j = i
      · subst same
        have found : q = next reply := by simpa [set] using active.symm
        subst found
        by_cases holds : c.holder = some j
        · rw [decide_eq_true holds] at safe ⊢
          exact safe.2 reply t effect
        · rw [decide_eq_false holds] at safe ⊢
          exact safe.2 c.store (D.rely_refl j c.store) reply t effect
      · rw [show _ = _ from set_procs_of_ne c _ same] at active
        have other := sound j q active
        rcases permitted with ⟨_, unchanged⟩ | ⟨holds, allowed⟩
        · change t = c.store at unchanged
          rwa [unchanged]
        · have unheld : decide (c.holder = some j) = false := by
            refine decide_eq_false ?_
            rw [holds]
            exact fun equal => same (Option.some.inj equal).symm
          rw [unheld] at other ⊢
          exact other.overtaken (fun _ _ _ _ _ => trivial)
            (D.guarantee (fun equal => same equal.symm) allowed effect)

/-- Only a running process holds the lock. -/
def Attended (c : Config I A S) : Prop := ∀ i, c.holder = some i → ∃ p, c.procs i = some p

theorem Attended.update {c d : Config I A S} {i : Pid} {p : Proc I A} (attended : c.Attended)
    (procs : d.procs = (c.set i (some p)).procs)
    (holder : ∀ j, d.holder = some j → j = i ∨ c.holder = some j) : d.Attended := by
  intro j holds
  rw [procs]
  by_cases same : j = i
  · subst same
    exact ⟨p, set_procs_self c j _⟩
  · rw [set_procs_of_ne c _ same]
    rcases holder j holds with equal | held
    · exact absurd equal same
    · exact attended j held

theorem Attended.control {c d : Config I A S} (attended : c.Attended)
    (step : Control programs c d) : d.Attended := by
  cases step with
  | @start i p => exact attended.update (i := i) (p := p) rfl fun j holds => Or.inr holds
  | @refuse i next =>
      exact attended.update (i := i) (p := next false) rfl fun j holds => Or.inr holds
  | @grant i next =>
      exact attended.update (i := i) (p := next true) rfl
        fun j holds => Or.inl (Option.some.inj holds).symm
  | @release i next =>
      exact attended.update (i := i) (p := next) rfl fun j holds => by cases holds
  | @leave i p running =>
      intro j holds
      change c.freed i = some j at holds
      unfold freed at holds
      split at holds
      · cases holds
      · rename_i other
        have different : j ≠ i := fun same => other (same ▸ holds)
        change ∃ q, (c.set i none).procs j = some q
        rw [set_procs_of_ne c _ different]
        exact attended j holds

theorem Attended.effect {effects : Pid → Effects I S} {c d : Config I A S} {i : Pid} {op : I.Op}
    {reply : I.Reply op} (attended : c.Attended) (step : Effect effects c i op reply d) :
    d.Attended := by
  cases step with
  | perform running effect =>
      rename_i next t
      exact attended.update (i := i) (p := next reply) rfl fun j holds => Or.inr holds

section Runs
variable (starts : ∀ p, programs p → ∀ i s, D.Safe i (fun _ _ _ => True) p false s)
include starts

theorem Reaches.sound {c d : Config I A S} (idle : c.Idle)
    (reaches : Reaches D.effects programs c d) : d.Sound D ∧ d.Attended := by
  induction reaches with
  | refl => exact ⟨idle.sound, fun i holds => by rw [idle.1] at holds; cases holds⟩
  | control _ step ih =>
      refine ⟨ih.1.control ?_ ih.2 step, ih.2.control step⟩
      rintro p program i held s rfl
      exact starts p program i s
  | effect _ step ih => exact ⟨ih.1.effect step, ih.2.effect step⟩

/-- The discipline holds at every effect of every run. -/
theorem Reaches.permitted {c d e : Config I A S} {i : Pid} {op : I.Op} {reply : I.Reply op}
    (idle : c.Idle) (reaches : Reaches D.effects programs c d)
    (step : Effect D.effects d i op reply e) :
    (D.free op ∧ e.store = d.store) ∨ (d.holder = some i ∧ D.allowed i op d.store) :=
  (reaches.sound starts idle).1.permitted step

/-- What every allowed effect preserves holds in every reachable state. -/
theorem Reaches.invariant {c d : Config I A S} {inv : S → Prop} (idle : c.Idle)
    (initially : inv c.store)
    (preserved : ∀ {i op s reply t}, inv s → D.allowed i op s → D.effects i op s reply t → inv t)
    (reaches : Reaches D.effects programs c d) : inv d.store := by
  induction reaches with
  | refl => exact initially
  | control _ step ih => rwa [control_store step]
  | effect before step ih =>
      rcases before.permitted starts idle step with ⟨_, unchanged⟩ | ⟨_, allowed⟩
      · rwa [unchanged]
      · cases step with
        | perform _ effect => exact preserved ih allowed effect

/-- A reflexive and transitive relation that every allowed effect respects, under
an invariant, relates the states of any two points of a run. -/
theorem Reaches.related {c d e : Config I A S} {inv : S → Prop} {relation : S → S → Prop}
    (idle : c.Idle) (initially : inv c.store)
    (preserved : ∀ {i op s reply t}, inv s → D.allowed i op s → D.effects i op s reply t → inv t)
    (refl : ∀ s, relation s s) (trans : ∀ {s t u}, relation s t → relation t u → relation s u)
    (respected : ∀ {i op s reply t}, inv s → D.allowed i op s → D.effects i op s reply t →
      relation s t)
    (before : Reaches D.effects programs c d) (after : Reaches D.effects programs d e) :
    relation d.store e.store := by
  induction after with
  | refl => exact refl _
  | control _ step ih => rwa [control_store step]
  | effect path step ih =>
      have reached := before.append path
      rcases reached.permitted starts idle step with ⟨_, unchanged⟩ | ⟨_, allowed⟩
      · rwa [unchanged]
      · have holds := reached.invariant starts idle initially preserved
        cases step with
        | perform _ effect => exact trans ih (respected holds allowed effect)

end Runs

end Config

end Interaction
