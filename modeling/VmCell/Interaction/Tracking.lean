import VmCell.Interaction.System

/-! One process followed through a run.

While a process holds the lock only its own effects change the state, so that a
critical section can be understood from the state in which the lock was taken.
Outside, a process is followed under what it may rely on.
-/

set_option autoImplicit false
namespace Interaction

variable {I : Signature} {A B S : Type}

section Sections

/-- A program run by the holder of the lock, as far as the next release. -/
def Until (effects : Effects I S) (allowed : I.Op → S → Prop) (released : Proc I A → S → Prop) :
    Proc I A → S → Prop
  | .done _, _ => True
  | .halt, _ => True
  | .call op next, s =>
      allowed op s ∧ ∀ reply t, effects op s reply t → Until effects allowed released (next reply) t
  | .acquire next, s => Until effects allowed released (next false) s
  | .release next, s => released next s

/-- A critical section inside a larger program. -/
theorem Held.until {effects : Effects I S} {allowed : I.Op → S → Prop} {post : A → S → Prop}
    {p : Proc I A} {s : S} {rest : A → Proc I B} (held : Held effects allowed post p s) :
    Until effects allowed (fun next t => ∃ a, next = rest a ∧ post a t)
      (p.bind fun a => .release (rest a)) s := by
  induction p generalizing s with
  | done a => exact ⟨a, rfl, held⟩
  | halt => trivial
  | call op next ih => exact ⟨held.1, fun reply t step => ih reply (held.2 reply t step)⟩
  | acquire next ih => exact ih false held
  | release next ih => exact held.elim

end Sections

namespace Config
variable {D : Discipline I S} {programs : Proc I A → Prop} {i : Pid}

/-- Process `i`, which waits for the lock, takes it. -/
inductive Grants (i : Pid) (c : Config I A S) : Config I A S → Prop where
  | take {next : Bool → Proc I A} : c.procs i = some (.acquire next) → c.holder = none →
      Grants i c { c.set i (some (next true)) with holder := some i }

theorem Grants.control {c d : Config I A S} (grants : c.Grants i d) : Control programs c d := by
  cases grants with
  | take waiting vacant => exact .grant waiting vacant

/-- A run during which process `i` holds the lock. -/
inductive During (effects : Pid → Effects I S) (programs : Proc I A → Prop) (i : Pid) :
    Config I A S → Config I A S → Prop where
  | enter {c : Config I A S} : c.holder = some i → During effects programs i c c
  | control {c d e : Config I A S} : During effects programs i c d → Control programs d e →
      e.holder = some i → During effects programs i c e
  | effect {c d e : Config I A S} {j : Pid} {op : I.Op} {reply : I.Reply op} :
      During effects programs i c d → Effect effects d j op reply e →
      During effects programs i c e

theorem During.holder {effects : Pid → Effects I S} {c d : Config I A S}
    (during : During effects programs i c d) : d.holder = some i := by
  induction during with
  | enter holds => exact holds
  | control _ _ holds => exact holds
  | effect _ step ih =>
      cases step with
      | perform running effect => exact ih

theorem During.reaches {effects : Pid → Effects I S} {b c d : Config I A S}
    (before : Reaches effects programs b c) (during : During effects programs i c d) :
    Reaches effects programs b d := by
  induction during with
  | enter _ => exact before
  | control _ step _ ih => exact .control ih step
  | effect _ step ih => exact .effect ih step

/-- A control step of the lock's holder, when it keeps the lock. -/
theorem Control.kept {effects : Effects I S} {allowed : I.Op → S → Prop}
    {released : Proc I A → S → Prop} {c d : Config I A S} {p : Proc I A}
    (step : Control programs c d) (holds : c.holder = some i) (keeps : d.holder = some i)
    (running : c.procs i = some p) (known : Until effects allowed released p c.store) :
    ∃ q, d.procs i = some q ∧ Until effects allowed released q d.store := by
  have other : ∀ (j : Pid) (q : Option (Proc I A)), j ≠ i → (c.set j q).procs i = some p := by
    intro j q different
    rw [set_procs_of_ne c q fun same => different same.symm]
    exact running
  cases step with
  | @start j q absent _ =>
      refine ⟨p, other j (some q) fun same => ?_, known⟩
      rw [same, running] at absent
      cases absent
  | @refuse j next waiting =>
      by_cases same : j = i
      · subst same
        obtain rfl := Option.some.inj (running.symm.trans waiting)
        exact ⟨next false, set_procs_self c j _, known⟩
      · exact ⟨p, other j _ same, known⟩
  | grant waiting vacant =>
      rw [holds] at vacant
      cases vacant
  | release leaving _ => cases keeps
  | @leave j q present =>
      refine ⟨p, other j none fun same => ?_, known⟩
      subst same
      change c.freed j = some j at keeps
      rw [freed, if_pos holds] at keeps
      cases keeps

/-- A run in which process `i` stays. -/
inductive Stays (effects : Pid → Effects I S) (programs : Proc I A → Prop) (i : Pid) :
    Config I A S → Config I A S → Prop where
  | refl {c : Config I A S} : Stays effects programs i c c
  | control {c d e : Config I A S} : Stays effects programs i c d → Control programs d e →
      e.procs i ≠ none → Stays effects programs i c e
  | effect {c d e : Config I A S} {j : Pid} {op : I.Op} {reply : I.Reply op} :
      Stays effects programs i c d → Effect effects d j op reply e →
      Stays effects programs i c e

theorem Stays.reaches {effects : Pid → Effects I S} {b c d : Config I A S}
    (before : Reaches effects programs b c) (stays : Stays effects programs i c d) :
    Reaches effects programs b d := by
  induction stays with
  | refl => exact before
  | control _ step _ ih => exact .control ih step
  | effect _ step ih => exact .effect ih step

/-- Process `i` keeps the discipline and ends with the postcondition. -/
def Promises (D : Discipline I S) (i : Pid) (post : A → S → Prop) (c : Config I A S) : Prop :=
  ∃ p, c.procs i = some p ∧
    D.Safe i (fun _ a t => post a t) p (decide (c.holder = some i)) c.store

theorem Promises.control {post : A → S → Prop} {c d : Config I A S}
    (promises : c.Promises D i post) (step : Control programs c d) (stays : d.procs i ≠ none) :
    d.Promises D i post := by
  obtain ⟨p, running, safe⟩ := promises
  have other : ∀ (j : Pid) (q : Option (Proc I A)), j ≠ i → (c.set j q).procs i = some p := by
    intro j q different
    rw [set_procs_of_ne c q fun same => different same.symm]
    exact running
  cases step with
  | @start j q absent _ =>
      refine ⟨p, other j (some q) fun same => ?_, safe⟩
      rw [same, running] at absent
      cases absent
  | @refuse j next waiting =>
      by_cases same : j = i
      · subst same
        obtain rfl := Option.some.inj (running.symm.trans waiting)
        refine ⟨next false, set_procs_self c j _, ?_⟩
        change D.Safe j _ (next false) (decide (c.holder = some j)) c.store
        cases held : decide (c.holder = some j) with
        | true =>
            rw [held] at safe
            exact safe
        | false =>
            rw [held] at safe
            exact (safe c.store (D.rely_refl j c.store)).1
      · exact ⟨p, other j _ same, safe⟩
  | @grant j next waiting vacant =>
      rw [vacant] at safe
      by_cases same : j = i
      · subst same
        obtain rfl := Option.some.inj (running.symm.trans waiting)
        refine ⟨next true, set_procs_self c j _, ?_⟩
        rw [decide_eq_true rfl]
        exact (safe c.store (D.rely_refl j c.store)).2
      · refine ⟨p, other j _ same, ?_⟩
        rwa [decide_eq_false fun equal => same (Option.some.inj equal)]
  | @release j next leaving holds =>
      by_cases same : j = i
      · subst same
        obtain rfl := Option.some.inj (running.symm.trans leaving)
        rw [decide_eq_true holds] at safe
        exact ⟨next, set_procs_self c j _, safe⟩
      · rw [holds, decide_eq_false fun equal => same (Option.some.inj equal)] at safe
        exact ⟨p, other j _ same, safe⟩
  | @leave j q present =>
      have different : j ≠ i := by
        rintro rfl
        exact stays (set_procs_self c j none)
      refine ⟨p, other j none different, ?_⟩
      change D.Safe i _ p (decide (c.freed j = some i)) c.store
      unfold freed
      split
      · rename_i holds
        rw [holds, decide_eq_false fun equal => different (Option.some.inj equal)] at safe
        exact safe
      · exact safe

section Runs
variable (starts : ∀ p, programs p → ∀ i s, D.Safe i (fun _ _ _ => True) p false s)
include starts

/-- Only the holder's own effects count. -/
theorem During.until {b c d : Config I A S} {allowed : I.Op → S → Prop}
    {released : Proc I A → S → Prop} {p : Proc I A} (idle : b.Idle)
    (before : Reaches D.effects programs b c) (during : During D.effects programs i c d)
    (running : c.procs i = some p) (known : Until (D.effects i) allowed released p c.store) :
    ∃ q, d.procs i = some q ∧ Until (D.effects i) allowed released q d.store := by
  induction during with
  | enter holds => exact ⟨p, running, known⟩
  | control earlier step keeps ih =>
      obtain ⟨q, now, still⟩ := ih
      exact step.kept earlier.holder keeps now still
  | @effect _ _ j op reply earlier step ih =>
      obtain ⟨q, now, still⟩ := ih
      have permitted := (earlier.reaches before).permitted starts idle step
      cases step with
      | perform acting effect =>
          rename_i next t
          by_cases same : j = i
          · subst same
            obtain rfl := Option.some.inj (now.symm.trans acting)
            exact ⟨next reply, set_procs_self _ _ _, still.2 reply t effect⟩
          · refine ⟨q, (set_procs_of_ne _ _ fun equal => same equal.symm).trans now, ?_⟩
            rcases permitted with ⟨_, unchanged⟩ | ⟨holds, _⟩
            · rw [unchanged]
              exact still
            · rw [earlier.holder] at holds
              exact absurd (Option.some.inj holds).symm same

/-- A critical section of process `i`, from the state in which it took the lock. -/
theorem During.section {b c d e : Config I A S} {allowed : I.Op → S → Prop}
    {post : B → S → Prop} {busy : B} {body : Proc I B} {rest : B → Proc I A} (idle : b.Idle)
    (before : Reaches D.effects programs b c)
    (waiting : c.procs i = some ((withLock busy body).bind rest)) (grants : c.Grants i d)
    (during : During D.effects programs i d e)
    (held : Held (D.effects i) allowed post body c.store) :
    ∃ q, e.procs i = some q ∧
      Until (D.effects i) allowed (fun next t => ∃ b, next = rest b ∧ post b t) q e.store := by
  have reached : Reaches D.effects programs b d := .control before grants.control
  cases grants with
  | @take next asking vacant =>
      have same : Proc.acquire next = (withLock busy body).bind rest :=
        Option.some.inj (asking.symm.trans waiting)
      have entered : next true = (body.bind fun b => .release (.done b)).bind rest :=
        congrFun (Proc.acquire.inj same) true
      refine during.until starts idle reached (set_procs_self c i _) ?_
      rw [entered, Proc.bind_assoc]
      exact held.until

/-- A process that stays keeps its promise. -/
theorem Stays.promises {b c d : Config I A S} {post : A → S → Prop} (idle : b.Idle)
    (stable : ∀ a {s t}, D.rely i s t → post a s → post a t)
    (before : Reaches D.effects programs b c) (stays : Stays D.effects programs i c d)
    (promises : c.Promises D i post) : d.Promises D i post := by
  induction stays with
  | refl => exact promises
  | control _ step present ih => exact ih.control step present
  | @effect _ _ j op reply earlier step ih =>
      obtain ⟨q, now, safe⟩ := ih
      have permitted := (earlier.reaches before).permitted starts idle step
      cases step with
      | perform acting effect =>
          rename_i d next t
          change ∃ p, _ ∧ D.Safe i _ p (decide (d.holder = some i)) t
          by_cases same : j = i
          · subst same
            obtain rfl := Option.some.inj (now.symm.trans acting)
            refine ⟨next reply, set_procs_self _ _ _, ?_⟩
            cases held : decide (d.holder = some j) with
            | true =>
                rw [held] at safe
                exact safe.2 reply t effect
            | false =>
                rw [held] at safe
                exact safe.2 d.store (D.rely_refl j d.store) reply t effect
          · refine ⟨q, (set_procs_of_ne _ _ fun equal => same equal.symm).trans now, ?_⟩
            rcases permitted with ⟨_, unchanged⟩ | ⟨holds, allowed⟩
            · change t = d.store at unchanged
              rwa [unchanged]
            · have unheld : decide (d.holder = some i) = false := by
                rw [holds]
                exact decide_eq_false fun equal => same (Option.some.inj equal)
              rw [unheld] at safe ⊢
              exact safe.overtaken stable (D.guarantee same allowed effect)

end Runs

end Config

end Interaction
