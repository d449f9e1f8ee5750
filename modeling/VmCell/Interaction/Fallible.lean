import VmCell.Interaction.Discipline

/-! Programs that end with a value or an error.

`Within` is the judgement for code that holds the lock and `Outside` the one for
code that does not. Both have one rule per way of building a program, so that a
proof follows the program text; what remains of the program is the postcondition
of its first step. `Passive` programs change nothing.
-/

set_option autoImplicit false
namespace Interaction

variable {I : Signature} {E F A B S : Type}

def Fallible (I : Signature) (E A : Type) := Proc I (Except E A)

namespace Fallible

def bind (p : Fallible I E A) (f : A → Fallible I E B) : Fallible I E B :=
  Proc.bind p fun
    | .ok a => f a
    | .error error => .done (.error error)

instance : Monad (Fallible I E) where
  pure a := .done (.ok a)
  bind := bind

def fail (error : E) : Fallible I E A := .done (.error error)

/-- A computed result. -/
def lift (result : Except E A) : Fallible I E A := .done result

def ensure (condition : Prop) [Decidable condition] (error : E) : Fallible I E Unit :=
  if condition then pure () else fail error

/-- One effect whose reply is read as a result. -/
def effect (op : I.Op) (read : I.Reply op → Except E A) : Fallible I E A :=
  .call op fun reply => .done (read reply)

/-- The result of a program as a value. -/
def attempt (p : Fallible I E A) : Fallible I F (Except E A) :=
  Proc.bind p fun result => .done (.ok result)

/-- Runs a handler for the error and keeps the value. -/
def handle (p : Fallible I E A) (onError : E → Fallible I E A) : Fallible I E A :=
  Proc.bind p fun
    | .ok a => .done (.ok a)
    | .error error => onError error

/-- A critical section; the error is reported when the lock is refused. -/
def locked (busy : E) (body : Fallible I E A) : Fallible I E A :=
  withLock (.error busy) body

/-- A program cut off, for a loop that outlives its allotted rounds. -/
def hang : Fallible I E A := .halt

end Fallible

/-- What a result has to satisfy. -/
def Ends (good : A → S → Prop) (bad : E → S → Prop) : Except E A → S → Prop
  | .ok a, s => good a s
  | .error error, s => bad error s

namespace Fallible

section Passive
variable {free : I.Op → Prop}

/-- A program that performs only effects of one kind and leaves the lock alone. -/
def Passive (free : I.Op → Prop) : Proc I A → Prop
  | .done _ => True
  | .halt => True
  | .call op next => free op ∧ ∀ reply, Passive free (next reply)
  | .acquire _ => False
  | .release _ => False

theorem Passive.mono {other : I.Op → Prop} {p : Proc I A} (passive : Passive free p)
    (implies : ∀ op, free op → other op) : Passive other p := by
  induction p with
  | done a => trivial
  | halt => trivial
  | call op next ih => exact ⟨implies op passive.1, fun reply => ih reply (passive.2 reply)⟩
  | acquire next => exact passive.elim
  | release next => exact passive.elim

theorem Passive.join {p : Proc I A} {f : A → Proc I B} (first : Passive free p)
    (rest : ∀ a, Passive free (f a)) : Passive free (p.bind f) := by
  induction p with
  | done a => exact rest a
  | halt => trivial
  | call op next ih => exact ⟨first.1, fun reply => ih reply (first.2 reply)⟩
  | acquire next => exact first.elim
  | release next => exact first.elim

theorem Passive.bind {p : Fallible I E A} {f : A → Fallible I E B} (first : Passive free p)
    (rest : ∀ a, Passive free (f a)) : Passive free (p >>= f : Fallible I E B) := by
  refine first.join ?_
  rintro (error | a)
  · trivial
  · exact rest a

theorem Passive.lift {result : Except E A} : Passive (I := I) free (lift result) := trivial

theorem Passive.pure {a : A} : Passive free (pure a : Fallible I E A) := trivial

theorem Passive.fail {error : E} : Passive free (fail error : Fallible I E A) := trivial

theorem Passive.effect {op : I.Op} {read : I.Reply op → Except E A} (allowed : free op) :
    Passive free (effect op read) := ⟨allowed, fun _ => trivial⟩

theorem Passive.attempt {p : Fallible I E A} (first : Passive free p) :
    Passive free (attempt p : Fallible I F (Except E A)) := first.join fun _ => trivial

theorem Passive.handle {p : Fallible I E A} {onError : E → Fallible I E A}
    (first : Passive free p) (handled : ∀ error, Passive free (onError error)) :
    Passive free (handle p onError : Fallible I E A) := by
  refine first.join ?_
  rintro (error | a)
  · exact handled error
  · trivial

theorem Passive.ite {condition : Prop} [Decidable condition] {p q : Fallible I E A}
    (yes : Passive free p) (no : Passive free q) :
    Passive free (if condition then p else q : Fallible I E A) := by
  by_cases holds : condition
  · rwa [if_pos holds]
  · rwa [if_neg holds]

/-- When such effects change nothing, the program ends where it started. -/
theorem Passive.held {effects : Effects I S} {allowed : I.Op → S → Prop} {p : Proc I A} {s : S}
    (passive : Passive free p) (permitted : ∀ op, free op → allowed op s)
    (unchanged : ∀ {op s reply t}, free op → effects op s reply t → t = s) :
    Held effects allowed (fun _ t => t = s) p s := by
  induction p with
  | done a => rfl
  | halt => trivial
  | call op next ih =>
      refine ⟨permitted op passive.1, fun reply t step => ?_⟩
      obtain rfl := unchanged passive.1 step
      exact ih reply (passive.2 reply)
  | acquire next => exact passive.elim
  | release next => exact passive.elim

end Passive

section Within
variable {effects : Effects I S} {allowed : I.Op → S → Prop}
  {good : A → S → Prop} {bad : E → S → Prop} {s : S}

def Within (effects : Effects I S) (allowed : I.Op → S → Prop) (good : A → S → Prop)
    (bad : E → S → Prop) (p : Fallible I E A) (s : S) : Prop :=
  Held effects allowed (Ends good bad) p s

theorem Within.pure {a : A} (holds : good a s) :
    Within (E := E) effects allowed good bad (pure a) s := holds

theorem Within.fail {error : E} (holds : bad error s) :
    Within (A := A) effects allowed good bad (fail error) s := holds

theorem Within.bind {p : Fallible I E B} {f : B → Fallible I E A}
    (first : Within effects allowed (fun b t => Within effects allowed good bad (f b) t) bad p s) :
    Within effects allowed good bad (p >>= f) s := by
  refine Held.bind (Held.weaken first ?_)
  intro result t ends
  cases result with
  | ok b => exact ends
  | error error => exact ends

theorem Within.weaken {other : A → S → Prop} {worse : E → S → Prop} {p : Fallible I E A}
    (first : Within effects allowed good bad p s) (ok : ∀ a t, good a t → other a t)
    (error : ∀ e t, bad e t → worse e t) : Within effects allowed other worse p s := by
  refine Held.weaken first ?_
  intro result t ends
  cases result with
  | ok a => exact ok a t ends
  | error e => exact error e t ends

theorem Within.permit {other : I.Op → S → Prop} {p : Fallible I E A}
    (first : Within effects allowed good bad p s) (implies : ∀ op t, allowed op t → other op t) :
    Within effects other good bad p s := Held.permit first implies

theorem Within.always {inv : S → Prop} {p : Fallible I E A}
    (first : Within effects allowed good bad p s) (initially : inv s)
    (preserved : ∀ {op s reply t}, inv s → allowed op s → effects op s reply t → inv t) :
    Within effects (fun op t => allowed op t ∧ inv t) (fun a t => good a t ∧ inv t)
      (fun e t => bad e t ∧ inv t) p s := by
  refine Held.weaken (Held.always first initially preserved) ?_
  rintro (e | a) t ⟨ends, holds⟩
  · exact ⟨ends, holds⟩
  · exact ⟨ends, holds⟩

theorem Within.traced {p : Fallible I E A} (first : Within effects allowed good bad p s) :
    Within effects allowed (fun a t => good a t ∧ Proc.Runs effects p s (.ok a) t)
      (fun e t => bad e t ∧ Proc.Runs effects p s (.error e) t) p s := by
  refine Held.weaken (Held.traced first) ?_
  rintro (e | a) t ⟨ends, runs⟩
  · exact ⟨ends, runs⟩
  · exact ⟨ends, runs⟩

theorem Within.lift {result : Except E A} (ok : ∀ a, result = .ok a → good a s)
    (error : ∀ e, result = .error e → bad e s) :
    Within effects allowed good bad (lift result) s := by
  cases result with
  | ok a => exact ok a rfl
  | error e => exact error e rfl

theorem Within.ensure {condition : Prop} [Decidable condition] {error : E}
    {good : Unit → S → Prop} (held : condition → good () s) (broken : ¬condition → bad error s) :
    Within effects allowed good bad (ensure condition error) s := by
  unfold Fallible.ensure
  split
  · rename_i holds
    exact held holds
  · rename_i fails
    exact broken fails

theorem Within.effect {op : I.Op} {read : I.Reply op → Except E A} (permitted : allowed op s)
    (after : ∀ reply t, effects op s reply t → Ends good bad (read reply) t) :
    Within effects allowed good bad (effect op read) s := ⟨permitted, after⟩

theorem Within.attempt {good : Except E A → S → Prop} {worse : F → S → Prop}
    {p : Fallible I E A} (first : Within effects allowed (fun a t => good (.ok a) t)
      (fun e t => good (.error e) t) p s) :
    Within effects allowed good worse (attempt p) s := by
  refine Held.bind (Held.weaken first ?_)
  intro result t ends
  cases result with
  | ok a => exact ends
  | error e => exact ends

theorem Within.handle {p : Fallible I E A} {onError : E → Fallible I E A}
    (first : Within effects allowed good
      (fun e t => Within effects allowed good bad (onError e) t) p s) :
    Within effects allowed good bad (handle p onError) s := by
  refine Held.bind (Held.weaken first ?_)
  intro result t ends
  cases result with
  | ok a => exact ends
  | error e => exact ends

/-- A passive program leaves the state as it is. -/
theorem Passive.within {free : I.Op → Prop} {p : Fallible I E A} (passive : Passive free p)
    (permitted : ∀ op, free op → allowed op s)
    (unchanged : ∀ {op s reply t}, free op → effects op s reply t → t = s)
    (ok : ∀ a, good a s) (error : ∀ e, bad e s) : Within effects allowed good bad p s := by
  refine Held.weaken (passive.held permitted unchanged) ?_
  rintro (e | a) t rfl
  · exact error e
  · exact ok a

/-- Nothing is known of the result but that the program kept to its kind of effects. -/
theorem Passive.permits {free : I.Op → Prop} {p : Fallible I E A} (passive : Passive free p) :
    Within effects (fun op _ => free op) (fun _ _ => True) (fun _ _ => True) p s := by
  induction p generalizing s with
  | done result => cases result <;> trivial
  | halt => trivial
  | call op next ih => exact ⟨passive.1, fun reply t _ => ih reply (passive.2 reply)⟩
  | acquire next => exact passive.elim
  | release next => exact passive.elim

theorem Within.hang : Within (E := E) (A := A) effects allowed good bad hang s := trivial

theorem Within.ite {condition : Prop} [Decidable condition] {p q : Fallible I E A}
    (yes : condition → Within effects allowed good bad p s)
    (no : ¬condition → Within effects allowed good bad q s) :
    Within effects allowed good bad (if condition then p else q) s := by
  split
  · rename_i holds
    exact yes holds
  · rename_i fails
    exact no fails

end Within

section Outside
variable {D : Discipline I S} {i : Pid} {good : A → S → Prop} {s : S}

/-- A program of process `i` that starts and ends without the lock. Nothing is
asked of it when it ends with an error. -/
def Outside (D : Discipline I S) (i : Pid) (good : A → S → Prop) (p : Fallible I E A) (s : S) :
    Prop :=
  D.Safe i (fun held result t => held = false ∧ Ends good (fun _ _ => True) result t) p false s

theorem Outside.pure {a : A} (holds : good a s) : Outside (E := E) D i good (pure a) s :=
  ⟨rfl, holds⟩

theorem Outside.fail {error : E} : Outside D i good (fail error) s := ⟨rfl, trivial⟩

theorem Outside.bind {p : Fallible I E B} {f : B → Fallible I E A}
    (first : Outside D i (fun b t => Outside D i good (f b) t) p s) :
    Outside D i good (p >>= f) s := by
  refine Discipline.Safe.bind (Discipline.Safe.weaken first ?_)
  rintro held result t ⟨rfl, ends⟩
  cases result with
  | ok b => exact ends
  | error error => exact ⟨rfl, trivial⟩

theorem Outside.lift {result : Except E A} (ok : ∀ a, result = .ok a → good a s) :
    Outside D i good (lift result) s := by
  cases result with
  | ok a => exact ⟨rfl, ok a rfl⟩
  | error e => exact ⟨rfl, trivial⟩

theorem Outside.ensure {condition : Prop} [Decidable condition] {error : E}
    {good : Unit → S → Prop} (held : condition → good () s) :
    Outside D i good (ensure condition error) s := by
  unfold Fallible.ensure
  split
  · rename_i holds
    exact ⟨rfl, held holds⟩
  · exact ⟨rfl, trivial⟩

theorem Outside.effect {op : I.Op} {read : I.Reply op → Except E A} (free : D.free op)
    (after : ∀ t, D.rely i s t → ∀ reply, D.effects i op t reply t →
      Ends good (fun _ _ => True) (read reply) t) :
    Outside D i good (effect op read) s := by
  refine ⟨free, fun t rely reply u step => ⟨rfl, ?_⟩⟩
  obtain rfl := D.free_unchanged free step
  exact after u rely reply step

theorem Outside.attempt {good : Except E A → S → Prop} {p : Fallible I E A}
    (first : Outside D i (fun _ _ => True) p s) (any : ∀ result t, good result t) :
    Outside (E := F) D i good (attempt p) s := by
  refine Discipline.Safe.bind (Discipline.Safe.weaken first ?_)
  rintro held result t ⟨rfl, _⟩
  exact ⟨rfl, any result t⟩

theorem Outside.weaken {other : A → S → Prop} {p : Fallible I E A}
    (first : Outside D i good p s) (ok : ∀ a t, good a t → other a t) :
    Outside D i other p s := by
  refine Discipline.Safe.weaken first ?_
  rintro held result t ⟨unheld, ends⟩
  refine ⟨unheld, ?_⟩
  cases result with
  | ok a => exact ok a t ends
  | error e => exact trivial

/-- A section that is safe whenever it starts at a state it may rely on. -/
theorem Outside.locked {busy : E} {body : Fallible I E A}
    (granted : ∀ t, D.rely i s t →
      Within (D.effects i) (D.allowed i) good (fun _ _ => True) body t) :
    Outside D i good (locked busy body) s := by
  refine Discipline.Safe.withLock (fun t _ => ⟨rfl, trivial⟩) fun t rely => ?_
  refine Held.weaken (granted t rely) ?_
  intro result u ends
  exact ⟨rfl, ends⟩

/-- A passive program ends in a state that it may rely on. -/
theorem Passive.outside {p : Fallible I E A} (passive : Passive D.free p)
    (ok : ∀ a t, D.rely i s t → good a t) : Outside D i good p s := by
  induction p generalizing s with
  | done result =>
      refine ⟨rfl, ?_⟩
      cases result with
      | ok a => exact ok a s (D.rely_refl i s)
      | error e => trivial
  | halt => trivial
  | call op next ih =>
      refine ⟨passive.1, fun t rely reply u step => ?_⟩
      obtain rfl := D.free_unchanged passive.1 step
      exact ih reply (passive.2 reply) fun a v later => ok a v (D.rely_trans i rely later)
  | acquire next => exact passive.elim
  | release next => exact passive.elim

theorem Outside.hang : Outside (E := E) (A := A) D i good hang s := trivial

end Outside

end Fallible

end Interaction
