import VmCell.Interaction.Fallible

/-! Programs in a world that stands still.

Every effect is answered by the world, which stays as it is; a program that wants
anything else has no value.
-/

set_option autoImplicit false
namespace Interaction

variable {I : Signature} {A B E : Type} {world : (op : I.Op) → Option (I.Reply op)}

def Proc.reading (world : (op : I.Op) → Option (I.Reply op)) : Proc I A → Option A
  | .done a => some a
  | .call op next => (world op).bind fun reply => (next reply).reading world
  | .acquire next => (next false).reading world
  | .halt | .release _ => none

theorem Proc.reading_bind (p : Proc I A) (f : A → Proc I B) :
    (p.bind f).reading world = (p.reading world).bind fun a => (f a).reading world := by
  induction p with
  | done a => rfl
  | halt => rfl
  | call op next ih =>
      simp only [Proc.bind, Proc.reading, Option.bind_assoc]
      exact congrArg _ (funext ih)
  | acquire next ih => exact ih false
  | release next => rfl

namespace Fallible
variable {p : Fallible I E A} {f : A → Fallible I E B} {a other : A} {b : B}

/-- The program ends with this value. -/
def Yields (world : (op : I.Op) → Option (I.Reply op)) (p : Fallible I E A) (a : A) : Prop :=
  Proc.reading world p = some (.ok a)

theorem yields_bind : Yields world (p >>= f) b ↔ ∃ a, Yields world p a ∧ Yields world (f a) b := by
  have split : Proc.reading world (p >>= f : Fallible I E B) =
      (Proc.reading world p).bind fun
        | .ok a => Proc.reading world (f a)
        | .error error => some (.error error) := by
    refine (Proc.reading_bind (A := Except E A) p _).trans (congrArg _ (funext ?_))
    rintro (error | a)
    · rfl
    · rfl
  unfold Yields
  rw [split]
  cases Proc.reading world p with
  | none => simp
  | some result => cases result <;> simp

theorem yields_pure : Yields world (pure a : Fallible I E A) other ↔ other = a := by
  change some (Except.ok a) = some (Except.ok other) ↔ _
  simp [eq_comm]

theorem yields_lift {result : Except E A} : Yields world (lift result) a ↔ result = .ok a := by
  change some result = some (Except.ok a) ↔ _
  simp

end Fallible

end Interaction
