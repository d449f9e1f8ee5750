import VmCell.Interaction.Progress

/-! How many effects a program performs, and which.

`Brief` bounds the number of effects whatever the replies are, so that a program
which is brief also ends. `requests` lists the effects that a given environment
gets to see.
-/

set_option autoImplicit false
namespace Interaction

variable {I : Signature} {E A B S : Type} {h : Handler I S} {s t : S}

/-- The program ends after at most that many replies, whatever they are. -/
def Brief : Nat → Proc I A → Prop
  | _, .done _ => True
  | _, .halt => False
  | 0, .call .. => False
  | count + 1, .call _ next => ∀ reply, Brief count (next reply)
  | _, .acquire _ => False
  | _, .release _ => False

theorem Brief.done {count : Nat} {a : A} : Brief (I := I) count (.done a) := by
  cases count <;> trivial

def Proc.requests (h : Handler I S) : Proc I A → S → List I.Op
  | .done _, _ => []
  | .halt, _ => []
  | .call op next, s => op :: (next (h op s).1).requests h (h op s).2
  | .acquire next, s => (next false).requests h s
  | .release next, s => next.requests h s

namespace Fallible

/-- The effects of a program that ends with a value come before those of the rest. -/
theorem Passive.requests_ok {free : I.Op → Prop} {p : Fallible I E A} {f : A → Fallible I E B}
    {a : A} (passive : Passive free p) (runs : Proc.run h p true s = (some (.ok a), t)) :
    Proc.requests h (p >>= f : Fallible I E B) s =
      Proc.requests h p s ++ Proc.requests h (f a) t := by
  induction p generalizing s with
  | done result =>
      obtain ⟨⟨rfl⟩, rfl⟩ := Prod.mk.inj runs
      rfl
  | halt => cases runs
  | call op next ih => exact congrArg (op :: ·) (ih _ (passive.2 _) runs)
  | acquire next => exact passive.elim
  | release next => exact passive.elim

end Fallible

end Interaction
