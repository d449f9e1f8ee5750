import VmCell.Engine.Rehearsal

/-! Destruction without a request is safe: a collection and the cleanup of a run
leave every cell alone that they may not reclaim. -/

set_option autoImplicit false
namespace VmCell

open Interaction Fallible

section Frame
variable {site : Site} {s t : Store} {op : Op} {cellId : CellId}

/-- An effect that does not touch a cell leaves its record and its runtime. -/
theorem Change.untouched (change : Change site s op t) (elsewhere : op.touches ≠ some cellId) :
    t.cells.lookup cellId = s.cells.lookup cellId ∧
      t.runtime.lookup cellId = s.runtime.lookup cellId := by
  cases change with
  | cell saved =>
      obtain ⟨_, _, _, rfl⟩ := Store.saveCell_ok saved
      exact ⟨AList.lookup_insert_ne fun same => elsewhere (congrArg some same.symm), rfl⟩
  | registered saved =>
      obtain ⟨_, _, rfl⟩ := Store.saveImageNew_ok saved
      exact ⟨rfl, rfl⟩
  | operation saved =>
      obtain ⟨_, _, _, rfl⟩ := Store.saveGuestOperation_ok saved
      exact ⟨rfl, rfl⟩
  | @runtime _ changed _ key others =>
      refine ⟨rfl, others cellId ?_⟩
      rintro rfl
      refine elsewhere ?_
      cases op with
      | mutate m =>
          cases m with
          | prepareCellRuntimeFor other configurationPath overlayPath => exact key
          | removeCellRuntime other guard => exact key
          | _ => cases key
      | provider authority action => exact key
      | _ => cases key
  | unchanged | installed | unregistered | artifact | copied => exact ⟨rfl, rfl⟩

end Frame

section Runs
variable {env : Environment} {c d e f : Manager} {i : Pid} {provider : String}

/-- A command that takes the lock has passed the check before it. -/
theorem gc_waits {evaluatedAt : DateTime} (waiting : d.procs i =
      some ((Command.gc provider evaluatedAt).program env.site)) (grants : d.Grants i e) :
    d.procs i = some (respond .gc (mutationLocked (gcExpiredLocked env.site provider evaluatedAt)))
      := by
  cases grants with
  | take asking _ =>
      rw [waiting] at asking ⊢
      by_cases known : isLocalProvider provider = true
      · have passed : requireProvider provider = pure () := by
          unfold requireProvider require
          rw [if_pos known]
          rfl
        change some (respond .gc (requireProvider provider >>= fun _ => _)) = _
        rw [passed]
        rfl
      · have refused : requireProvider provider = Fallible.fail (.unsupportedProvider provider) := by
          unfold requireProvider require
          rw [if_neg known]
          rfl
        change some (respond .gc (requireProvider provider >>= fun _ => _)) = _ at asking
        rw [refused] at asking
        cases asking

/-- Whatever the store was and whatever runs beside it. A collection touches no
cell that it may not reclaim at that moment; when it succeeds it reports each
cell of its provider once and each cell it reports as gone is a tombstone, having
swept the cells one by one whatever became of the ones before; and it fails only
with nothing touched. The cleanup of a run touches no cell but its own, and that
one only when no operation of it is open. -/
theorem automatic_destruction_safe (idle : c.Idle) (before : Manager.Reaches env c d)
    (grants : d.Grants i e) (during : Manager.During env i e f) :
    (∀ {evaluatedAt : DateTime},
      d.procs i = some ((Command.gc provider evaluatedAt).program env.site) →
      (∀ {op : Op} {reply : op.Reply} {g : Manager}, Manager.Effect env f i op reply g →
        ∀ cellId, ¬Reclaimable evaluatedAt cellId f.store → op.touches ≠ some cellId ∧
          g.store.cells.lookup cellId = f.store.cells.lookup cellId ∧
          g.store.runtime.lookup cellId = f.store.runtime.lookup cellId) ∧
      (∀ report, f.procs i = some (.release (.done (.gc (.ok report)))) →
        Collected env i provider evaluatedAt d.store report f.store) ∧
      (∀ error, f.procs i = some (.release (.done (.gc (.error error)))) → f.store = d.store)) ∧
    (∀ {cellId : CellId} {rest : Except EngineError OperationReport → Proc signature Response},
      d.procs i = some (Proc.bind
        (mutationLocked (destroyCellForRunLocked env.site provider cellId)) rest) →
      ∀ {op : Op} {reply : op.Reply} {g : Manager}, Manager.Effect env f i op reply g →
        ∀ other, other ≠ cellId ∨ ¬Quiescent f.store other → op.touches ≠ some other ∧
          g.store.cells.lookup other = f.store.cells.lookup other ∧
          g.store.runtime.lookup other = f.store.runtime.lookup other) := by
  constructor
  · intro evaluatedAt asked
    have waiting := gc_waits asked grants
    refine ⟨?_, ?_, ?_⟩
    · intro op reply g step cellId spared
      have collects := Manager.critical_permits idle before waiting grants during
        within_gcExpiredLocked step
      have elsewhere : op.touches ≠ some cellId := by
        intro touched
        rcases collects.2 with free | ⟨other, touches, reclaimable⟩
        · exact free.untouched touched
        · obtain rfl := Option.some.inj (touches.symm.trans touched)
          exact spared reclaimable
      exact ⟨elsewhere, (Manager.change step).untouched elsewhere⟩
    · intro report finished
      exact Manager.critical_ends (fun _ _ => Response.gc.inj) idle before waiting grants during
        within_gcExpiredLocked finished
    · intro error finished
      exact Manager.critical_ends (fun _ _ => Response.gc.inj) idle before waiting grants during
        within_gcExpiredLocked finished
  · intro cellId rest waiting op reply g step other spared
    have cleans := Manager.critical_permits idle before waiting grants during
      within_destroyCellForRunLocked step
    have elsewhere : op.touches ≠ some other := by
      intro touched
      rcases cleans.2 with free | ⟨touches, quiescent⟩
      · exact free.untouched touched
      · obtain rfl := Option.some.inj (touches.symm.trans touched)
        exact spared.elim (fun different => different rfl) fun opened => opened quiescent
    exact ⟨elsewhere, (Manager.change step).untouched elsewhere⟩

/-- A collection that is about to give the lock back, having succeeded. -/
def collected : Proc signature Response → Bool
  | .release (.done (.gc (.ok _))) => true
  | _ => false

theorem automatic_destruction_safe_when_expired :
    ∃ (s : Store) (e f : Manager) (report : GcReport),
      Manager.Reaches Exemplar.env (Config.empty Store.empty) (Config.alone 0
        ((Command.gc "qemu" (2 * nanosPerSecond)).program Exemplar.env.site) false s) ∧
      Manager.During Exemplar.env 0 e f ∧
      f.procs 0 = some (.release (.done (.gc (.ok report)))) ∧
      Collected Exemplar.env 0 "qemu" (2 * nanosPerSecond) s report f.store := by
  obtain ⟨s, e, q, t, before, grants, during, done⟩ := Exemplar.enters Exemplar.running
    (.gc "qemu" (2 * nanosPerSecond)) 16 collected (by decide +kernel)
  unfold collected at done
  split at done
  · rename_i report
    obtain ⟨_, succeeds, _⟩ := (automatic_destruction_safe (Config.empty_idle Store.empty) before
      grants during).1 (Config.alone_procs 0 _ false s)
    exact ⟨s, e, _, report, before, during, Config.alone_procs 0 _ true t,
      succeeds report (Config.alone_procs 0 _ true t)⟩
  · cases done

end Runs

end VmCell
