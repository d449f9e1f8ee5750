import VmCell.Interaction.Fallible

/-! What a program does in an environment that determines every answer.

`Does` is total correctness for code that holds the lock: the program ends, each
effect on the way is allowed, and the postcondition holds. `Leads` says that an
effect is performed, whatever comes after it. `Crashes` gives the states in which
a killed program leaves the world.
-/

set_option autoImplicit false
namespace Interaction

variable {I : Signature} {E F A B S : Type} {h : Handler I S} {allowed : I.Op → S → Prop}

section Programs

def Does (h : Handler I S) (allowed : I.Op → S → Prop) (post : A → S → Prop) :
    Proc I A → S → Prop
  | .done a, s => post a s
  | .halt, _ => False
  | .call op next, s => allowed op s ∧ Does h allowed post (next (h op s).1) (h op s).2
  | .acquire next, s => Does h allowed post (next false) s
  | .release _, _ => False

/-- The program performs an effect of the given kind. -/
def Leads (h : Handler I S) (goal : I.Op → S → Prop) : Proc I A → S → Prop
  | .done _, _ => False
  | .halt, _ => False
  | .call op next, s => goal op s ∨ Leads h goal (next (h op s).1) (h op s).2
  | .acquire next, s => Leads h goal (next false) s
  | .release next, s => Leads h goal next s

variable {post : A → S → Prop} {p : Proc I A} {s : S}

theorem Does.weaken {other : A → S → Prop} (does : Does h allowed post p s)
    (implies : ∀ a t, post a t → other a t) : Does h allowed other p s := by
  induction p generalizing s with
  | done a => exact implies a s does
  | halt => exact does
  | call op next ih => exact ⟨does.1, ih _ does.2⟩
  | acquire next ih => exact ih false does
  | release next ih => exact does

theorem Does.bind {post : B → S → Prop} {f : A → Proc I B}
    (does : Does h allowed (fun a t => Does h allowed post (f a) t) p s) :
    Does h allowed post (p.bind f) s := by
  induction p generalizing s with
  | done a => exact does
  | halt => exact does
  | call op next ih => exact ⟨does.1, ih _ does.2⟩
  | acquire next ih => exact ih false does
  | release next ih => exact does.elim

/-- The computed result. -/
theorem Does.run (does : Does h allowed post p s) :
    ∃ a t, p.run h true s = (some a, t) ∧ post a t := by
  induction p generalizing s with
  | done a => exact ⟨a, s, rfl, does⟩
  | halt => exact does.elim
  | call op next ih => exact ih _ does.2
  | acquire next ih => exact ih false does
  | release next ih => exact does.elim

theorem Does.result {a : A} {t : S} (does : Does h allowed post p s)
    (runs : p.run h true s = (some a, t)) : post a t := by
  obtain ⟨b, u, same, ends⟩ := does.run
  obtain ⟨⟨rfl⟩, rfl⟩ := Prod.mk.inj (runs.symm.trans same)
  exact ends

/-- A critical section that finds the lock free, and what comes after it. -/
theorem Does.locked_bind {busy : A} {f : A → Proc I B} (does : Does h allowed post p s) :
    ∃ a t, ((withLock busy p).bind f).run h false s = (f a).run h false t ∧ post a t := by
  have inside : ∃ a t, ((p.bind fun a => .release (.done a)).bind f).run h true s =
      (f a).run h false t ∧ post a t := by
    induction p generalizing s with
    | done a => exact ⟨a, s, rfl, does⟩
    | halt => exact does.elim
    | call op next ih => exact ih _ does.2
    | acquire next ih => exact ih false does
    | release next ih => exact does.elim
  exact inside

theorem Does.locked {busy : A} (does : Does h allowed post p s) :
    ∃ a t, (withLock busy p).run h false s = (some a, t) ∧ post a t := by
  have locked : ∃ a t, ((withLock busy p).bind .done).run h false s =
      (Proc.done a : Proc I A).run h false t ∧ post a t := does.locked_bind
  obtain ⟨a, t, runs, ends⟩ := locked
  rw [Proc.bind_done] at runs
  exact ⟨a, t, runs, ends⟩

theorem Leads.first {goal : I.Op → S → Prop} {f : A → Proc I B} (leads : Leads h goal p s) :
    Leads h goal (p.bind f) s := by
  induction p generalizing s with
  | done a => exact leads.elim
  | halt => exact leads.elim
  | call op next ih => exact leads.imp id fun later => ih _ later
  | acquire next ih => exact ih false leads
  | release next ih => exact ih leads

theorem Leads.after {goal : I.Op → S → Prop} {f : A → Proc I B}
    (does : Does h allowed (fun a t => Leads h goal (f a) t) p s) :
    Leads h goal (p.bind f) s := by
  induction p generalizing s with
  | done a => exact does
  | halt => exact does.elim
  | call op next ih => exact Or.inr (ih _ does.2)
  | acquire next ih => exact ih false does
  | release next ih => exact does.elim

/-- Total correctness is partial correctness of a program that ends. -/
theorem Does.held (does : Does h allowed post p s) : Held h.effects allowed post p s := by
  induction p generalizing s with
  | done a => exact does
  | halt => exact does.elim
  | call op next ih =>
      refine ⟨does.1, fun reply t answered => ?_⟩
      obtain ⟨rfl, rfl⟩ := Prod.mk.inj answered
      exact ih _ does.2
  | acquire next ih => exact ih false does
  | release next ih => exact does.elim

theorem Held.does {a : A} {t : S} (held : Held h.effects allowed post p s)
    (runs : p.run h true s = (some a, t)) :
    Does h allowed (fun b u => (b = a ∧ u = t) ∧ post b u) p s := by
  induction p generalizing s with
  | done b =>
      obtain ⟨⟨rfl⟩, rfl⟩ := Prod.mk.inj runs
      exact ⟨⟨rfl, rfl⟩, held⟩
  | halt => cases runs
  | call op next ih => exact ⟨held.1, ih _ (held.2 _ _ rfl) runs⟩
  | acquire next ih => exact ih false held runs
  | release next ih => exact held.elim

/-- A program whose effects are all allowed performs none that is not. -/
theorem Held.not_leads {goal : I.Op → S → Prop} (held : Held h.effects allowed post p s)
    (excluded : ∀ op t, allowed op t → ¬goal op t) : ¬Leads h goal p s := by
  induction p generalizing s with
  | done a => exact id
  | halt => exact id
  | call op next ih =>
      rintro (reached | later)
      · exact excluded op s held.1 reached
      · exact ih _ (held.2 _ _ rfl) later
  | acquire next ih => exact ih false held
  | release next ih => exact held.elim

end Programs

section Crashes

/-- A killed program: before its next effect, in the middle of it, or later. -/
inductive Crashes (h : Handler I S) (torn : I.Op → S → S → Prop) : Proc I A → S → S → Prop where
  | here {p : Proc I A} {s : S} : Crashes h torn p s s
  | middle {op : I.Op} {next : I.Reply op → Proc I A} {s t : S} : torn op s t →
      Crashes h torn (.call op next) s t
  | later {op : I.Op} {next : I.Reply op → Proc I A} {s t : S} :
      Crashes h torn (next (h op s).1) (h op s).2 t → Crashes h torn (.call op next) s t
  | refused {next : Bool → Proc I A} {s t : S} :
      Crashes h torn (next false) s t → Crashes h torn (.acquire next) s t

variable {torn : I.Op → S → S → Prop} {inv : S → Prop} {post : A → S → Prop} {p : Proc I A} {s t : S}

/-- An invariant that holds before and in the middle of every effect, and at the
end, is what a crash leaves. -/
theorem Does.crashes (does : Does h allowed post p s)
    (kept : ∀ op u, allowed op u → inv u ∧ ∀ v, torn op u v → inv v)
    (ends : ∀ a u, post a u → inv u) (crashes : Crashes h torn p s t) : inv t := by
  induction crashes with
  | @here p s =>
      induction p with
      | done a => exact ends a s does
      | halt => exact does.elim
      | call op next ih => exact (kept op s does.1).1
      | acquire next ih => exact ih false does
      | release next ih => exact does.elim
  | middle broken => exact (kept _ _ does.1).2 _ broken
  | later _ ih => exact ih does.2
  | refused _ ih => exact ih does

end Crashes

namespace Fallible
variable {good : A → S → Prop} {bad : E → S → Prop} {s : S}

/-- Total correctness of a program that ends with a value or an error. -/
def Meets (h : Handler I S) (allowed : I.Op → S → Prop) (good : A → S → Prop)
    (bad : E → S → Prop) (p : Fallible I E A) (s : S) : Prop :=
  Does h allowed (Ends good bad) p s

theorem Meets.result {p : Fallible I E A} {a : A} {t : S} (meets : Meets h allowed good bad p s)
    (runs : Proc.run h p true s = (some (.ok a), t)) : good a t := by
  have ends : Ends good bad (.ok a) t := Does.result meets runs
  exact ends

/-- A program that only looks, when its run is known. -/
theorem Passive.does {free : I.Op → Prop} {p : Proc I A} {a : A} {t : S}
    (passive : Passive free p) (runs : p.run h true s = (some a, t)) :
    Does h (fun op _ => free op) (fun b u => b = a ∧ u = t) p s := by
  induction p generalizing s with
  | done b =>
      obtain ⟨⟨rfl⟩, rfl⟩ := Prod.mk.inj runs
      exact ⟨rfl, rfl⟩
  | halt => cases runs
  | call op next ih => exact ⟨passive.1, ih _ (passive.2 _) runs⟩
  | acquire next ih => exact passive.elim
  | release next ih => exact passive.elim

/-- Partial correctness of a program that is known to end with a value. -/
theorem Within.meets {p : Fallible I E A} {a : A} {t : S} {better : A → S → Prop}
    {worse : E → S → Prop} (within : Within h.effects allowed good bad p s)
    (runs : Proc.run h p true s = (some (.ok a), t)) (ok : good a t → better a t) :
    Meets h allowed better worse p s := by
  refine Does.weaken (Held.does within runs) ?_
  rintro result u ⟨⟨rfl, rfl⟩, ends⟩
  exact ok ends

theorem Meets.bind {p : Fallible I E A} {f : A → Fallible I E B} {good : B → S → Prop}
    (first : Meets h allowed (fun a t => Meets h allowed good bad (f a) t) bad p s) :
    Meets h allowed good bad (p >>= f : Fallible I E B) s := by
  refine Does.bind (Does.weaken first ?_)
  rintro (e | a) t ends
  · exact ends
  · exact ends

theorem Meets.attempt {p : Fallible I E A} {good : Except E A → S → Prop} {bad : F → S → Prop}
    (first : Meets h allowed (fun a t => good (.ok a) t) (fun e t => good (.error e) t) p s) :
    Meets h allowed good bad (attempt p : Fallible I F (Except E A)) s := by
  refine Does.bind (Does.weaken first ?_)
  rintro (e | a) t ends
  · exact ends
  · exact ends

theorem Meets.weaken {p : Fallible I E A} {better : A → S → Prop} {worse : E → S → Prop}
    (first : Meets h allowed better worse p s) (ok : ∀ a t, better a t → good a t)
    (error : ∀ e t, worse e t → bad e t) : Meets h allowed good bad p s := by
  refine Does.weaken first ?_
  rintro (e | a) t ends
  · exact error e t ends
  · exact ok a t ends

theorem Meets.pure {a : A} (holds : good a s) :
    Meets h allowed good bad (pure a : Fallible I E A) s := holds

theorem Meets.fail {e : E} (holds : bad e s) :
    Meets h allowed good bad (fail e : Fallible I E A) s := holds

theorem Meets.lift {result : Except E A} (ok : ∀ a, result = .ok a → good a s)
    (error : ∀ e, result = .error e → bad e s) :
    Meets h allowed good bad (lift result) s := by
  cases result with
  | ok a => exact ok a rfl
  | error e => exact error e rfl

theorem Meets.ite {condition : Prop} [Decidable condition] {p q : Fallible I E A}
    (yes : condition → Meets h allowed good bad p s)
    (no : ¬condition → Meets h allowed good bad q s) :
    Meets h allowed good bad (if condition then p else q : Fallible I E A) s := by
  split
  · exact yes ‹_›
  · exact no ‹_›

theorem Meets.effect {op : I.Op} {read : I.Reply op → Except E A} (permitted : allowed op s)
    (ends : Ends good bad (read (h op s).1) (h op s).2) :
    Meets h allowed good bad (effect op read) s := ⟨permitted, ends⟩

/-- The effect comes after a part that succeeds. -/
theorem Meets.leads {p : Fallible I E A} {f : A → Fallible I E B} {goal : I.Op → S → Prop}
    (first : Meets h allowed (fun a t => Leads h goal (f a) t) (fun _ _ => False) p s) :
    Leads h goal (p >>= f : Fallible I E B) s := by
  refine Leads.after (Does.weaken first ?_)
  rintro (e | a) t ends
  · exact ends.elim
  · exact ends

/-- A program without lock steps that ends with a value is followed by the rest. -/
theorem Passive.run_ok {free : I.Op → Prop} {p : Fallible I E A} {f : A → Fallible I E B} {a : A}
    {t : S} (passive : Passive free p) (runs : Proc.run h p true s = (some (.ok a), t)) :
    Proc.run h (p >>= f : Fallible I E B) true s = Proc.run h (f a) true t := by
  induction p generalizing s with
  | done result =>
      obtain ⟨⟨rfl⟩, rfl⟩ := Prod.mk.inj runs
      rfl
  | halt => cases runs
  | call op next ih => exact ih _ (passive.2 _) runs
  | acquire next => exact passive.elim
  | release next => exact passive.elim

/-- A program that ends with a value has come through its first part. -/
theorem Passive.run_parts {free : I.Op → Prop} {p : Fallible I E A} {f : A → Fallible I E B}
    {b : B} {t : S} (passive : Passive free p)
    (runs : Proc.run h (p >>= f : Fallible I E B) true s = (some (.ok b), t)) :
    ∃ a u, Proc.run h p true s = (some (.ok a), u) ∧
      Proc.run h (f a) true u = (some (.ok b), t) := by
  induction p generalizing s with
  | done result =>
      cases result with
      | ok a => exact ⟨a, s, rfl, runs⟩
      | error e => cases (Prod.mk.inj runs).1
  | halt => cases (Prod.mk.inj runs).1
  | call op next ih => exact ih _ (passive.2 _) runs
  | acquire next => exact passive.elim
  | release next => exact passive.elim

theorem Passive.run_error {free : I.Op → Prop} {p : Fallible I E A} {f : A → Fallible I E B}
    {e : E} {t : S} (passive : Passive free p)
    (runs : Proc.run h p true s = (some (.error e), t)) :
    Proc.run h (p >>= f : Fallible I E B) true s = (some (.error e), t) := by
  induction p generalizing s with
  | done result =>
      obtain ⟨⟨rfl⟩, rfl⟩ := Prod.mk.inj runs
      rfl
  | halt => cases runs
  | call op next ih => exact ih _ (passive.2 _) runs
  | acquire next => exact passive.elim
  | release next => exact passive.elim

theorem Passive.leads_ok {free : I.Op → Prop} {p : Fallible I E A} {f : A → Fallible I E B}
    {a : A} {t : S} {goal : I.Op → S → Prop} (passive : Passive free p)
    (runs : Proc.run h p true s = (some (.ok a), t)) (later : Leads h goal (f a) t) :
    Leads h goal (p >>= f : Fallible I E B) s := by
  induction p generalizing s with
  | done result =>
      obtain ⟨⟨rfl⟩, rfl⟩ := Prod.mk.inj runs
      exact later
  | halt => cases runs
  | call op next ih => exact Or.inr (ih _ (passive.2 _) runs)
  | acquire next => exact passive.elim
  | release next => exact passive.elim

/-- An effect that the first part does not perform is one of the rest. -/
theorem Passive.leads_rest {free : I.Op → Prop} {p : Fallible I E A} {f : A → Fallible I E B}
    {goal : I.Op → S → Prop} (passive : Passive free p)
    (excluded : ∀ op t, free op → ¬goal op t)
    (leads : Leads h goal (p >>= f : Fallible I E B) s) :
    ∃ a t, Proc.run h p true s = (some (.ok a), t) ∧ Leads h goal (f a) t := by
  induction p generalizing s with
  | done result =>
      cases result with
      | ok a => exact ⟨a, s, rfl, leads⟩
      | error e => exact leads.elim
  | halt => exact leads.elim
  | call op next ih =>
      rcases leads with reached | later
      · exact absurd reached (excluded op s passive.1)
      · exact ih _ (passive.2 _) later
  | acquire next => exact passive.elim
  | release next => exact passive.elim

theorem leads_first {p : Fallible I E A} {f : A → Fallible I E B} {goal : I.Op → S → Prop}
    (leads : Leads h goal p s) : Leads h goal (p >>= f : Fallible I E B) s :=
  Leads.first leads

end Fallible

end Interaction
