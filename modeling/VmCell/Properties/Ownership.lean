import VmCell.Engine.Rehearsal

/-! No virtual machine is touched that the manager does not own. -/

set_option autoImplicit false
namespace VmCell

open Interaction

section ForeignMachines
variable {env : Environment} {c d e : Manager} {i : Pid}

/-- Whatever the provider answers, each call that changes a virtual machine is
about the machine that the cell's record on disk owns at that moment. -/
theorem provider_calls_owned {authority : ProviderMutationAuthority} {action : ProviderAction}
    {reply : (Op.provider authority action).Reply} {vm : ProviderVm} (idle : c.Idle)
    (reaches : Manager.Reaches env c d)
    (step : Manager.Effect env d i (.provider authority action) reply e)
    (expected : action.expected = some vm) :
    OwnedSnapshot env.site d.store authority.record.id (action.claims = true) vm := by
  rcases Manager.permitted idle reaches step with ⟨free, _⟩ | ⟨_, allowed⟩
  · exact free.elim
  · exact allowed vm expected

/-- The next effect is a provider call about a snapshot. -/
def asksProvider : Proc signature Response → Bool
  | .call (.provider _ action) _ => action.expected.isSome
  | _ => false

theorem provider_calls_owned_in_creation :
    ∃ (d e : Manager) (authority : ProviderMutationAuthority) (action : ProviderAction)
      (reply : (Op.provider authority action).Reply) (vm : ProviderVm),
      Manager.Reaches Exemplar.env (Config.empty Store.empty) d ∧
      Manager.Effect Exemplar.env d 0 (.provider authority action) reply e ∧
      action.expected = some vm ∧
      OwnedSnapshot Exemplar.site d.store authority.record.id (action.claims = true) vm := by
  obtain ⟨s, q, still, t, before, after, asks⟩ := Exemplar.reaches_within [(Exemplar.register, 11)]
    Exemplar.create 29 (fun q _ => asksProvider q) (by decide +kernel)
  have reaches := Config.Reaches.append before after
  unfold asksProvider at asks
  split at asks
  · rename_i authority action next
    obtain ⟨vm, expected⟩ := Option.isSome_iff_exists.mp asks
    have step : Manager.Effect Exemplar.env
        (Config.alone 0 (.call (Op.provider authority action) next) still t) 0
        (.provider authority action) (.error (.command "refused")) _ :=
      .perform (t := t) (Config.alone_procs 0 _ still t) ⟨t.runtime, rfl, fun _ _ => rfl⟩
    exact ⟨_, _, authority, action, _, vm, reaches, step, expected,
      provider_calls_owned (Config.empty_idle Store.empty) reaches step expected⟩
  · cases asks

end ForeignMachines

end VmCell
