import Mathlib.Logic.Function.Basic

/-! Finite programs over a typed signature of effects, with one global lock.

A program is a tree: it ends with a value, hangs, performs one effect and
continues with the reply, or tries to take or gives back the lock. Loops of the
modelled code whose number of rounds is chosen by the environment are cut at an
arbitrary depth by `halt`; a program that hangs takes no further step, so every
statement about all prefixes of all such trees covers the unbounded loop.
-/

set_option autoImplicit false
namespace Interaction

/-- Effects and the type of the reply to each of them. -/
structure Signature where
  Op : Type
  Reply : Op → Type

inductive Proc (I : Signature) (A : Type) where
  | done : A → Proc I A
  | halt : Proc I A
  | call (op : I.Op) : (I.Reply op → Proc I A) → Proc I A
  /-- The continuation learns whether the lock was granted. -/
  | acquire : (Bool → Proc I A) → Proc I A
  | release : Proc I A → Proc I A

variable {I : Signature} {A B C : Type}

def Proc.bind : Proc I A → (A → Proc I B) → Proc I B
  | .done a, f => f a
  | .halt, _ => .halt
  | .call op next, f => .call op fun reply => (next reply).bind f
  | .acquire next, f => .acquire fun granted => (next granted).bind f
  | .release next, f => .release (next.bind f)

instance : Monad (Proc I) where
  pure := .done
  bind := Proc.bind

/-- A single effect, returning its reply. -/
def perform (op : I.Op) : Proc I (I.Reply op) := .call op .done

theorem Proc.bind_done (p : Proc I A) : p.bind .done = p := by
  induction p with
  | done a => rfl
  | halt => rfl
  | call op next ih => simp only [Proc.bind, ih]
  | acquire next ih => simp only [Proc.bind, ih]
  | release next ih => simp only [Proc.bind, ih]

theorem Proc.bind_assoc (p : Proc I A) (f : A → Proc I B) (g : B → Proc I C) :
    (p.bind f).bind g = p.bind fun a => (f a).bind g := by
  induction p with
  | done a => rfl
  | halt => rfl
  | call op next ih => simp only [Proc.bind, ih]
  | acquire next ih => simp only [Proc.bind, ih]
  | release next ih => simp only [Proc.bind, ih]

/-- Hold the lock while the body runs; a refused request goes to `busy`. Giving
the lock back is part of every way out of the body, as with a scope guard. -/
def withLock (busy : A) (body : Proc I A) : Proc I A :=
  .acquire fun
    | true => body.bind fun a => .release (.done a)
    | false => .done busy

section Execution
variable {S : Type}

/-- What one effect may answer, and the state it leaves. -/
abbrev Effects (I : Signature) (S : Type) := (op : I.Op) → S → I.Reply op → S → Prop

/-- One uninterrupted execution of a program that owns the state. A nested
request for the lock is refused. -/
inductive Proc.Runs (effects : Effects I S) : Proc I A → S → A → S → Prop where
  | done {a : A} {s : S} : Runs effects (.done a) s a s
  | call {op : I.Op} {next : I.Reply op → Proc I A} {s middle final : S}
      {reply : I.Reply op} {a : A} : effects op s reply middle →
      Runs effects (next reply) middle a final → Runs effects (.call op next) s a final
  | acquire {next : Bool → Proc I A} {s final : S} {a : A} :
      Runs effects (next false) s a final → Runs effects (.acquire next) s a final

/-- A deterministic environment. -/
abbrev Handler (I : Signature) (S : Type) := (op : I.Op) → S → I.Reply op × S

def Handler.effects (h : Handler I S) : Effects I S := fun op s reply t => h op s = (reply, t)

/-- The execution that a deterministic environment determines for a program that
runs alone. The flag says whether the program holds the lock; a program that
already holds it is refused a second time. -/
def Proc.run (h : Handler I S) : Proc I A → Bool → S → Option A × S
  | .done a, _, s => (some a, s)
  | .halt, _, s => (none, s)
  | .call op next, held, s => (next (h op s).1).run h held (h op s).2
  | .acquire next, held, s => (next !held).run h true s
  | .release next, _, s => next.run h false s

end Execution

end Interaction
