import VmCell.Interaction.Progress
import VmCell.Interaction.Tracking

/-! Runs of one process, computed.

A script answers some of the effects of a process; a process that follows a
script makes a run of the system.
-/

set_option autoImplicit false
namespace Interaction

variable {I : Signature} {A S : Type}

/-- Answers for a process; none where the script ends. -/
abbrev Script (I : Signature) (S : Type) := (op : I.Op) → S → Option (I.Reply op × S)

/-- Every answer of the script is one the environment may give. -/
def Script.Fits (script : Script I S) (effects : Effects I S) : Prop :=
  ∀ op s reply t, script op s = some (reply, t) → effects op s reply t

/-- A process after the given number of its steps. It is granted the lock
whenever it asks for it. -/
def Proc.advance (script : Script I S) : Nat → Proc I A → Bool → S → Option (Proc I A × Bool × S)
  | 0, p, held, s => some (p, held, s)
  | steps + 1, .call op next, held, s =>
      match script op s with
      | none => none
      | some (reply, t) => advance script steps (next reply) held t
  | steps + 1, .acquire next, false, s => advance script steps (next true) true s
  | steps + 1, .release next, true, s => advance script steps next false s
  | _ + 1, _, _, _ => none

/-- A process after the given number of its effects. -/
def Proc.proceed (script : Script I S) : Nat → Proc I A → S → Option (Proc I A × S)
  | 0, p, s => some (p, s)
  | steps + 1, .call op next, s =>
      match script op s with
      | none => none
      | some (reply, t) => proceed script steps (next reply) t
  | _ + 1, _, _ => none

/-- A killed program, where its first effects are known. -/
theorem Crashes.proceed {h : Handler I S} {torn : I.Op → S → S → Prop} {steps : Nat}
    {p q : Proc I A} {s t u : S}
    (proceeds : p.proceed (fun op s => some (h op s)) steps s = some (q, t))
    (rest : Crashes h torn q t u) : Crashes h torn p s u := by
  induction steps generalizing p s with
  | zero =>
      obtain ⟨rfl, rfl⟩ := Prod.mk.inj (Option.some.inj proceeds)
      exact rest
  | succ steps ih =>
      cases p with
      | call op next => exact .later (ih proceeds)
      | done a => cases proceeds
      | halt => cases proceeds
      | acquire next => cases proceeds
      | release next => cases proceeds

namespace Config

/-- One process and nothing else. -/
def alone (i : Pid) (p : Proc I A) (held : Bool) (s : S) : Config I A S where
  store := s
  holder := if held then some i else none
  procs := Function.update (fun _ => none) i (some p)

def empty (s : S) : Config I A S := ⟨s, none, fun _ => none⟩

theorem empty_idle (s : S) : (empty s : Config I A S).Idle := ⟨rfl, fun _ => rfl⟩

theorem alone_procs (i : Pid) (p : Proc I A) (held : Bool) (s : S) :
    (alone i p held s).procs i = some p := by simp [alone]

theorem alone_set (i : Pid) (p q : Proc I A) (held : Bool) (s : S) :
    (alone i p held s).set i (some q) = alone i q held s := by
  simp only [set, alone, Function.update_idem]

variable {effects : Pid → Effects I S} {programs : Proc I A → Prop} {i : Pid}

theorem reaches_start {p : Proc I A} {s : S} (program : programs p) :
    Reaches effects programs (empty s) (alone i p false s) :=
  .control .refl (.start (i := i) rfl program)

theorem reaches_advance {script : Script I S} (fits : script.Fits (effects i)) {steps : Nat}
    {c : Config I A S} {p q : Proc I A} {held still : Bool} {s t : S}
    (before : Reaches effects programs c (alone i p held s))
    (advances : p.advance script steps held s = some (q, still, t)) :
    Reaches effects programs c (alone i q still t) := by
  induction steps generalizing p held s with
  | zero =>
      simp only [Proc.advance, Option.some.injEq, Prod.mk.injEq] at advances
      obtain ⟨rfl, rfl, rfl⟩ := advances
      exact before
  | succ steps ih =>
      cases p with
      | done a => cases advances
      | halt => cases advances
      | call op next =>
          simp only [Proc.advance] at advances
          split at advances
          · cases advances
          · rename_i reply u answered
            have step : Effect effects (alone i (.call op next) held s) i op reply _ :=
              .perform (alone_procs i (.call op next) held s) (fits op s reply u answered)
            rw [alone_set] at step
            exact ih (.effect before step) advances
      | acquire next =>
          cases held with
          | true => cases advances
          | false =>
              have step : Control programs (alone i (.acquire next) false s) _ :=
                .grant (alone_procs i (.acquire next) false s) rfl
              rw [alone_set] at step
              exact ih (.control before step) advances
      | release next =>
          cases held with
          | false => cases advances
          | true =>
              have step : Control programs (alone i (.release next) true s) _ :=
                .release (alone_procs i (.release next) true s) rfl
              rw [alone_set] at step
              exact ih (.control before step) advances

theorem grants_alone {next : Bool → Proc I A} {s : S} :
    (alone i (.acquire next) false s).Grants i (alone i (next true) true s) := by
  have taken := Grants.take (alone_procs i (.acquire next) false s) rfl
  rwa [alone_set] at taken

theorem during_proceed {script : Script I S} (fits : script.Fits (effects i)) {steps : Nat}
    {c : Config I A S} {p q : Proc I A} {s t : S}
    (before : During effects programs i c (alone i p true s))
    (proceeds : p.proceed script steps s = some (q, t)) :
    During effects programs i c (alone i q true t) := by
  induction steps generalizing p s with
  | zero =>
      obtain ⟨rfl, rfl⟩ := Prod.mk.inj (Option.some.inj proceeds)
      exact before
  | succ steps ih =>
      cases p with
      | call op next =>
          simp only [Proc.proceed] at proceeds
          split at proceeds
          · cases proceeds
          · rename_i reply u answered
            have step : Effect effects (alone i (.call op next) true s) i op reply _ :=
              .perform (alone_procs i (.call op next) true s) (fits op s reply u answered)
            rw [alone_set] at step
            exact ih (.effect before step) proceeds
      | done a => cases proceeds
      | halt => cases proceeds
      | acquire next => cases proceeds
      | release next => cases proceeds

/-- A process may end where it stands. -/
theorem reaches_left {c : Config I A S} {p : Proc I A} {held : Bool} {s : S}
    (reaches : Reaches effects programs c (alone i p held s)) :
    Reaches effects programs c (empty s) := by
  have leaves := Reaches.control reaches (.leave (alone_procs i p held s))
  have gone : ({ (alone i p held s).set i none with
      holder := (alone i p held s).freed i } : Config I A S) = empty s := by
    cases held <;> simp [alone, set, freed, empty]
  rwa [gone] at leaves

end Config

end Interaction
