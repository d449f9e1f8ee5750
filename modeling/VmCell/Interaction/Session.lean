import VmCell.Interaction.Progress

/-! One program after the other on a shared state.

Each program of a session ends, or is killed between two of its effects; the
state keeps what it had written.
-/

set_option autoImplicit false
namespace Interaction

variable {I : Signature} {A E S : Type} {effects : Effects I S}

/-- A program that owns the state, some effects later. -/
inductive Proc.Comes (effects : Effects I S) : Proc I A → S → Proc I A → S → Prop where
  | here {p : Proc I A} {s : S} : Comes effects p s p s
  | call {op : I.Op} {next : I.Reply op → Proc I A} {s middle t : S} {reply : I.Reply op}
      {q : Proc I A} : effects op s reply middle → Comes effects (next reply) middle q t →
      Comes effects (.call op next) s q t
  | acquire {next : Bool → Proc I A} {s t : S} {q : Proc I A} :
      Comes effects (next false) s q t → Comes effects (.acquire next) s q t

inductive Session (effects : Effects I S) (programs : Proc I A → Prop) : S → S → Prop where
  | refl {s : S} : Session effects programs s s
  | next {s t u : S} {p q : Proc I A} : Session effects programs s t → programs p →
      p.Comes effects t q u → Session effects programs s u

/-- A program that comes to its end has run. -/
theorem Proc.Comes.runs {p : Proc I A} {a : A} {s t : S} (comes : p.Comes effects s (.done a) t) :
    p.Runs effects s a t := by
  generalize reached : Proc.done a = q at comes
  induction comes with
  | here =>
      subst reached
      exact .done
  | call step _ ih => exact .call step (ih reached)
  | acquire _ ih => exact .acquire (ih reached)

section Driven
variable {h : Handler I S} {p : Proc I A} {s : S}

/-- The program after that many effects, or at its end, where every answer is
determined. -/
def Proc.drive (h : Handler I S) : Nat → Proc I A → S → Proc I A × S
  | steps + 1, .call op next, s => drive h steps (next (h op s).1) (h op s).2
  | steps + 1, .acquire next, s => drive h steps (next false) s
  | _, p, s => (p, s)

theorem Proc.comes_drive (fits : ∀ op s, effects op s (h op s).1 (h op s).2) (steps : Nat) :
    p.Comes effects s (p.drive h steps s).1 (p.drive h steps s).2 := by
  induction steps generalizing p s with
  | zero => cases p <;> exact .here
  | succ steps ih =>
      cases p with
      | call op next => exact .call (fits op s) ih
      | acquire next => exact .acquire ih
      | done a => exact .here
      | halt => exact .here
      | release next => exact .here

theorem Leads.of_drive {goal : I.Op → S → Prop} (steps : Nat)
    (leads : Leads h goal (p.drive h steps s).1 (p.drive h steps s).2) : Leads h goal p s := by
  induction steps generalizing p s with
  | zero => cases p <;> exact leads
  | succ steps ih =>
      cases p with
      | call op next => exact Or.inr (ih leads)
      | acquire next => exact ih (p := next false) leads
      | done a => exact leads
      | halt => exact leads
      | release next => exact leads

/-- The value of a program that has ended. -/
def Proc.value : Proc I A → Option A
  | .done a => some a
  | _ => none

theorem Proc.value_some {a : A} (ended : p.value = some a) : p = .done a := by
  cases p with
  | done b => exact congrArg _ (Option.some.inj ended)
  | halt => cases ended
  | call op next => cases ended
  | acquire next => cases ended
  | release next => cases ended

end Driven

section Held
variable {allowed : I.Op → S → Prop} {post : A → S → Prop} {p q : Proc I A} {s t : S}

/-- What is left of a program still keeps its obligations. -/
theorem Held.comes (held : Held effects allowed post p s) (comes : p.Comes effects s q t) :
    Held effects allowed post q t := by
  induction comes with
  | here => exact held
  | call step _ ih => exact ih (held.2 _ _ step)
  | acquire _ ih => exact ih held

theorem Held.kept {inv : S → Prop} (held : Held effects allowed post p s)
    (preserved : ∀ {op s reply t}, inv s → allowed op s → effects op s reply t → inv t)
    (initially : inv s) (comes : p.Comes effects s q t) : inv t := by
  induction comes with
  | here => exact initially
  | call step _ ih => exact ih (held.2 _ _ step) (preserved initially held.1 step)
  | acquire _ ih => exact ih held initially

end Held

section Sessions
variable {allowed : I.Op → S → Prop} {post : A → S → Prop} {inv : S → Prop}
  {programs : Proc I A → Prop} {p q : Proc I A} {s t u : S}

/-- What holds between programs and is preserved by every allowed effect holds
wherever a program of the session stands. -/
theorem Session.invariant
    (obliged : ∀ p, programs p → ∀ s, inv s → Held effects allowed post p s)
    (preserved : ∀ {op s reply t}, inv s → allowed op s → effects op s reply t → inv t)
    (initially : inv s) (session : Session effects programs s t) : inv t := by
  induction session with
  | refl => exact initially
  | next _ program comes ih => exact (obliged _ program _ ih).kept preserved ih comes

end Sessions

namespace Fallible
variable {free : I.Op → Prop} {allowed : I.Op → S → Prop} {good : A → S → Prop}
  {bad : E → S → Prop} {inv : S → Prop} {s : S}

/-- A program of harmless effects keeps what each of them keeps. -/
theorem Passive.keeps {p : Fallible I E A} (passive : Passive free p) (holds : inv s)
    (permitted : ∀ {op t}, free op → inv t → allowed op t)
    (kept : ∀ {op s reply t}, free op → inv s → effects op s reply t → inv t)
    (ok : ∀ a t, inv t → good a t) (error : ∀ e t, inv t → bad e t) :
    Within effects allowed good bad p s := by
  induction p generalizing s with
  | done result =>
      cases result with
      | ok a => exact ok a s holds
      | error e => exact error e s holds
  | halt => trivial
  | call op next ih =>
      refine ⟨permitted passive.1 holds, fun reply t step => ?_⟩
      exact ih reply (passive.2 reply) (kept passive.1 holds step)
  | acquire next => exact passive.elim
  | release next => exact passive.elim

end Fallible

end Interaction
