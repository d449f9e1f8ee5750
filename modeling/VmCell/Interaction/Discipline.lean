import VmCell.Interaction.Proc

/-! Which effects a program may perform, and in which state.

`Held` is the weakest precondition of a critical section: the section owns the
state, every effect it performs is allowed in the state it is performed in, and
its result satisfies the postcondition. `Discipline.Safe` is the judgement for a
whole process. While the process does not hold the lock it performs only effects
that leave the state alone, and other processes may change the state along a
rely relation between any two of its steps.
-/

set_option autoImplicit false
namespace Interaction

variable {I : Signature} {A B S : Type}

section Sections

/-- A program that never gives the lock back, run by its holder. -/
def Held (effects : Effects I S) (allowed : I.Op → S → Prop) (post : A → S → Prop) :
    Proc I A → S → Prop
  | .done a, s => post a s
  | .halt, _ => True
  | .call op next, s =>
      allowed op s ∧ ∀ reply t, effects op s reply t → Held effects allowed post (next reply) t
  | .acquire next, s => Held effects allowed post (next false) s
  | .release _, _ => False

variable {effects : Effects I S} {allowed : I.Op → S → Prop}

theorem Held.weaken {post other : A → S → Prop} {p : Proc I A} {s : S}
    (held : Held effects allowed post p s) (implies : ∀ a t, post a t → other a t) :
    Held effects allowed other p s := by
  induction p generalizing s with
  | done a => exact implies a s held
  | halt => trivial
  | call op next ih => exact ⟨held.1, fun reply t step => ih reply (held.2 reply t step)⟩
  | acquire next ih => exact ih false held
  | release next ih => exact held.elim

theorem Held.permit {other : I.Op → S → Prop} {post : A → S → Prop} {p : Proc I A} {s : S}
    (held : Held effects allowed post p s) (implies : ∀ op t, allowed op t → other op t) :
    Held effects other post p s := by
  induction p generalizing s with
  | done a => exact held
  | halt => trivial
  | call op next ih =>
      exact ⟨implies op s held.1, fun reply t step => ih reply (held.2 reply t step)⟩
  | acquire next ih => exact ih false held
  | release next ih => exact held.elim

/-- What every allowed effect preserves holds at each effect and at the end. -/
theorem Held.always {inv : S → Prop} {post : A → S → Prop} {p : Proc I A} {s : S}
    (held : Held effects allowed post p s) (initially : inv s)
    (preserved : ∀ {op s reply t}, inv s → allowed op s → effects op s reply t → inv t) :
    Held effects (fun op t => allowed op t ∧ inv t) (fun a t => post a t ∧ inv t) p s := by
  induction p generalizing s with
  | done a => exact ⟨held, initially⟩
  | halt => trivial
  | call op next ih =>
      refine ⟨⟨held.1, initially⟩, fun reply t step => ?_⟩
      exact ih reply (held.2 reply t step) (preserved initially held.1 step)
  | acquire next ih => exact ih false held initially
  | release next ih => exact held.elim

/-- The postcondition may also say how the result came about. -/
theorem Held.traced {post : A → S → Prop} {p : Proc I A} {s : S}
    (held : Held effects allowed post p s) :
    Held effects allowed (fun a t => post a t ∧ p.Runs effects s a t) p s := by
  induction p generalizing s with
  | done a => exact ⟨held, .done⟩
  | halt => trivial
  | call op next ih =>
      refine ⟨held.1, fun reply t step => ?_⟩
      exact (ih reply (held.2 reply t step)).weaken fun _ _ ends => ⟨ends.1, .call step ends.2⟩
  | acquire next ih =>
      exact Held.weaken (p := next false) (ih false held) fun _ _ ends =>
        ⟨ends.1, .acquire ends.2⟩
  | release next ih => exact held.elim

theorem Held.bind {post : B → S → Prop} {p : Proc I A} {f : A → Proc I B} {s : S}
    (held : Held effects allowed (fun a t => Held effects allowed post (f a) t) p s) :
    Held effects allowed post (p.bind f) s := by
  induction p generalizing s with
  | done a => exact held
  | halt => trivial
  | call op next ih => exact ⟨held.1, fun reply t step => ih reply (held.2 reply t step)⟩
  | acquire next ih => exact ih false held
  | release next ih => exact held.elim

/-- Every complete execution ends in the postcondition. -/
theorem Held.runs {post : A → S → Prop} {p : Proc I A} {s t : S} {a : A}
    (held : Held effects allowed post p s) (runs : p.Runs effects s a t) : post a t := by
  induction runs with
  | done => exact held
  | call step _ ih => exact ih (held.2 _ _ step)
  | acquire _ ih => exact ih held

end Sections

/-- Processes are numbered; a number may be used again after its process ended. -/
abbrev Pid := Nat

/-- A call discipline for processes that share a state under one lock. -/
structure Discipline (I : Signature) (S : Type) where
  effects : Pid → Effects I S
  /-- Effects that need no lock. -/
  free : I.Op → Prop
  /-- Effects permitted to the holder of the lock, by the state they meet. -/
  allowed : Pid → I.Op → S → Prop
  /-- How the state may change between two steps of a process without the lock. -/
  rely : Pid → S → S → Prop
  rely_refl : ∀ i s, rely i s s
  rely_trans : ∀ i {s t u}, rely i s t → rely i t u → rely i s u
  free_unchanged : ∀ {i op s reply t}, free op → effects i op s reply t → t = s
  guarantee : ∀ {i j op s reply t}, i ≠ j → allowed i op s → effects i op s reply t → rely j s t

namespace Discipline
variable (D : Discipline I S)

/-- A process that keeps the discipline from the given state on, whatever the
other processes do between its steps. The flag says whether it holds the lock. -/
def Safe (i : Pid) (post : Bool → A → S → Prop) : Proc I A → Bool → S → Prop
  | .done a, held, s => post held a s
  | .halt, _, _ => True
  | .call op next, true, s =>
      D.allowed i op s ∧ ∀ reply t, D.effects i op s reply t → Safe i post (next reply) true t
  | .call op next, false, s =>
      D.free op ∧ ∀ t, D.rely i s t → ∀ reply u, D.effects i op t reply u →
        Safe i post (next reply) false u
  | .acquire next, true, s => Safe i post (next false) true s
  | .acquire next, false, s =>
      ∀ t, D.rely i s t → Safe i post (next false) false t ∧ Safe i post (next true) true t
  | .release next, true, s => Safe i post next false s
  | .release _, false, _ => False

variable {D} {i : Pid}

theorem Safe.bind {post : Bool → B → S → Prop} {p : Proc I A} {f : A → Proc I B}
    {held : Bool} {s : S}
    (safe : D.Safe i (fun h a t => D.Safe i post (f a) h t) p held s) :
    D.Safe i post (p.bind f) held s := by
  induction p generalizing held s with
  | done a => exact safe
  | halt => trivial
  | call op next ih =>
      cases held with
      | true => exact ⟨safe.1, fun reply t step => ih reply (safe.2 reply t step)⟩
      | false =>
          exact ⟨safe.1, fun t rely reply u step => ih reply (safe.2 t rely reply u step)⟩
  | acquire next ih =>
      cases held with
      | true => exact ih false safe
      | false => exact fun t rely => ⟨ih false (safe t rely).1, ih true (safe t rely).2⟩
  | release next ih =>
      cases held with
      | true => exact ih safe
      | false => exact safe.elim

/-- A critical section inside a process. -/
theorem Safe.ofHeld {post : Bool → A → S → Prop} {p : Proc I A} {s : S}
    (held : Held (D.effects i) (D.allowed i) (post true) p s) : D.Safe i post p true s := by
  induction p generalizing s with
  | done a => exact held
  | halt => trivial
  | call op next ih => exact ⟨held.1, fun reply t step => ih reply (held.2 reply t step)⟩
  | acquire next ih => exact ih false held
  | release next ih => exact held.elim

/-- A process without the lock may be overtaken by the others. -/
theorem Safe.overtaken {post : Bool → A → S → Prop} {p : Proc I A} {s t : S}
    (stable : ∀ a {s t}, D.rely i s t → post false a s → post false a t)
    (safe : D.Safe i post p false s) (rely : D.rely i s t) : D.Safe i post p false t := by
  cases p with
  | done a => exact stable a rely safe
  | halt => trivial
  | call op next => exact ⟨safe.1, fun u later => safe.2 u (D.rely_trans i rely later)⟩
  | acquire next => exact fun u later => safe u (D.rely_trans i rely later)
  | release next => exact safe.elim

theorem Safe.withLock {post : Bool → A → S → Prop} {busy : A} {body : Proc I A} {s : S}
    (refused : ∀ t, D.rely i s t → post false busy t)
    (granted : ∀ t, D.rely i s t → Held (D.effects i) (D.allowed i) (post false) body t) :
    D.Safe i post (withLock busy body) false s := by
  intro t rely
  refine ⟨refused t rely, Safe.bind (Safe.ofHeld ?_)⟩
  exact granted t rely

theorem Safe.weaken {post other : Bool → A → S → Prop} {p : Proc I A} {held : Bool} {s : S}
    (safe : D.Safe i post p held s) (implies : ∀ h a t, post h a t → other h a t) :
    D.Safe i other p held s := by
  induction p generalizing held s with
  | done a => exact implies held a s safe
  | halt => trivial
  | call op next ih =>
      cases held with
      | true => exact ⟨safe.1, fun reply t step => ih reply (safe.2 reply t step)⟩
      | false =>
          exact ⟨safe.1, fun t rely reply u step => ih reply (safe.2 t rely reply u step)⟩
  | acquire next ih =>
      cases held with
      | true => exact ih false safe
      | false => exact fun t rely => ⟨ih false (safe t rely).1, ih true (safe t rely).2⟩
  | release next ih =>
      cases held with
      | true => exact ih safe
      | false => exact safe.elim

/-- The same discipline for processes that may rely on more: a relation that
every allowed effect respects. -/
def assume (D : Discipline I S) (relation : S → S → Prop) (refl : ∀ s, relation s s)
    (trans : ∀ {s t u}, relation s t → relation t u → relation s u)
    (respected : ∀ {i op s reply t}, D.allowed i op s → D.effects i op s reply t →
      relation s t) : Discipline I S where
  effects := D.effects
  free := D.free
  allowed := D.allowed
  rely := fun i s t => D.rely i s t ∧ relation s t
  rely_refl := fun i s => ⟨D.rely_refl i s, refl s⟩
  rely_trans := fun i _ _ _ first second =>
    ⟨D.rely_trans i first.1 second.1, trans first.2 second.2⟩
  free_unchanged := D.free_unchanged
  guarantee := fun other allowed effect =>
    ⟨D.guarantee other allowed effect, respected allowed effect⟩

theorem Safe.assume {relation : S → S → Prop} {refl : ∀ s, relation s s}
    {trans : ∀ {s t u}, relation s t → relation t u → relation s u}
    (respected : ∀ {i op s reply t}, D.allowed i op s → D.effects i op s reply t → relation s t)
    {post : Bool → A → S → Prop} {p : Proc I A} {held : Bool} {s : S}
    (safe : D.Safe i post p held s) :
    (D.assume relation refl trans respected).Safe i post p held s := by
  induction p generalizing held s with
  | done a => exact safe
  | halt => trivial
  | call op next ih =>
      cases held with
      | true => exact ⟨safe.1, fun reply t step => ih reply (safe.2 reply t step)⟩
      | false =>
          exact ⟨safe.1, fun t rely reply u step => ih reply (safe.2 t rely.1 reply u step)⟩
  | acquire next ih =>
      cases held with
      | true => exact ih false safe
      | false => exact fun t rely => ⟨ih false (safe t rely.1).1, ih true (safe t rely.1).2⟩
  | release next ih =>
      cases held with
      | true => exact ih safe
      | false => exact safe.elim

end Discipline

end Interaction
