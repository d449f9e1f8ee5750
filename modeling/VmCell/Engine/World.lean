import VmCell.Engine.Rules
import VmCell.Interaction.Progress
import VmCell.State.Integrity

/-! A host that determines every answer.

The provider, the transport and the rest of the host answer as a function of a
hidden state of any type, so that quantifying over hosts covers every behaviour
they may show. The store does what its functions say, without faults, and the
clock never goes back.
-/

set_option autoImplicit false
namespace VmCell

open Interaction Fallible

structure Host (P : Type) where
  act : ProviderMutationAuthority → (action : ProviderAction) → P →
    Except ProviderError action.Answer × P
  transport : GuestActionAuthority → GuestOperationId → (action : TransportAction) → P →
    Except GuestIoError action.Answer × P
  inspect : VmLookup → P → Except ProviderError (Option ProviderVm) × P
  /-- Everything else; the answer to a question about the time is not used. -/
  answer : (o : Observation) → P → o.Answer × P
  /-- The time that passes until the clock is read again. -/
  delay : P → Nat
  draw : P → Uuid × P

structure World (P : Type) where
  store : Store
  clock : DateTime
  hidden : P

namespace Host
variable {P : Type} (host : Host P) (site : Site)

/-- A mutation of the store; a rejected one changes nothing. -/
def mutation (m : Mutation) (w : World P) : Except StateError m.Answer × World P :=
  match m.apply site w.store with
  | .ok (answer, store) => (.ok answer, { w with store := store })
  | .error error => (.error error, w)

def observation : (o : Observation) → World P → o.Answer × World P
  | .now, w =>
      (w.clock + (host.delay w.hidden : Int), { w with clock := w.clock + (host.delay w.hidden : Int) })
  | .inspectVm lookup, w =>
      ((host.inspect lookup w.hidden).1, { w with hidden := (host.inspect lookup w.hidden).2 })
  | o, w => ((host.answer o w.hidden).1, { w with hidden := (host.answer o w.hidden).2 })

def handler : Handler signature (World P)
  | .query q, w => (q.eval site w.store, w)
  | .mutate m, w => mutation site m w
  | .provider authority action, w =>
      ((host.act authority action w.hidden).1,
        { w with hidden := (host.act authority action w.hidden).2 })
  | .transport authority operationId action, w =>
      let reply := host.transport authority operationId action w.hidden
      (reply.1, { w with
        store := afterTransport w.store operationId action reply.1, hidden := reply.2 })
  | .observe o, w => host.observation o w
  | .newUuid, w => ((host.draw w.hidden).1, { w with hidden := (host.draw w.hidden).2 })

end Host

/-- Nothing but looking. -/
def Looks {P : Type} (op : Op) (_ : World P) : Prop := Free op

/-- No restriction. -/
def Acts {P : Type} (_ : Op) (_ : World P) : Prop := True

/-- A guest operation is written only if the store accepts it and its time has come. -/
def Storable {P : Type} (site : Site) (op : Op) (w : World P) : Prop :=
  ∀ record, op = .mutate (.saveGuestOperation record) →
    validateGuestOperationSchema site record.id record = .ok () ∧ record.updatedAt ≤ w.clock

section Rules
variable {P : Type} {host : Host P} {site : Site} {w : World P} {allowed : Op → World P → Prop}
  {bad : EngineError → World P → Prop}

theorem meets_query {q : Query} {good : q.Answer → World P → Prop}
    (permitted : allowed (.query q) w)
    (ok : ∀ answer, q.eval site w.store = .ok answer → good answer w)
    (error : ∀ error, q.eval site w.store = .error error → bad (.state error) w) :
    Meets (host.handler site) allowed good bad (query q) w := by
  refine Meets.effect (I := signature) permitted ?_
  change Ends good bad ((q.eval site w.store).mapError .state) w
  cases answered : q.eval site w.store with
  | ok answer => exact ok answer answered
  | error failure => exact error failure answered

theorem meets_mutate {m : Mutation} {good : m.Answer → World P → Prop}
    (permitted : allowed (.mutate m) w)
    (ok : ∀ answer s, m.apply site w.store = .ok (answer, s) → good answer { w with store := s })
    (error : ∀ error, m.apply site w.store = .error error → bad (.state error) w) :
    Meets (host.handler site) allowed good bad (mutate m) w := by
  refine Meets.effect (I := signature) permitted ?_
  change Ends good bad ((Host.mutation site m w).1.mapError .state) (Host.mutation site m w).2
  unfold Host.mutation
  cases applied : m.apply site w.store with
  | ok result => exact ok result.1 result.2 applied
  | error failure => exact error failure applied

theorem meets_provider {authority : ProviderMutationAuthority} {action : ProviderAction}
    {good : action.Answer → World P → Prop} (permitted : allowed (.provider authority action) w)
    (ok : ∀ answer p, host.act authority action w.hidden = (.ok answer, p) →
      good answer { w with hidden := p })
    (error : ∀ error p, host.act authority action w.hidden = (.error error, p) →
      bad (.provider error) { w with hidden := p }) :
    Meets (host.handler site) allowed good bad (callProvider authority action) w := by
  refine Meets.effect (I := signature) permitted ?_
  change Ends good bad ((host.act authority action w.hidden).1.mapError .provider)
    { w with hidden := (host.act authority action w.hidden).2 }
  cases acted : host.act authority action w.hidden with
  | mk reply p =>
      cases reply with
      | ok answer => exact ok answer p acted
      | error failure => exact error failure p acted

theorem meets_require {condition : Bool} {error : EngineError} {good : Unit → World P → Prop}
    (yes : condition = true → good () w) (no : condition = false → bad error w) :
    Meets (host.handler site) allowed good bad (Fallible.lift (require condition error)) w := by
  cases condition with
  | true => exact yes rfl
  | false => exact no rfl

theorem meets_now {good : DateTime → World P → Prop} (permitted : allowed (.observe .now) w)
    (ok : ∀ time, w.clock ≤ time → good time { w with clock := time }) :
    Meets (host.handler site) allowed good bad now w := by
  refine Meets.effect (I := signature) permitted ?_
  exact ok (w.clock + (host.delay w.hidden : Int)) (Int.le_add_of_nonneg_right (Int.natCast_nonneg _))

theorem meets_newUuid {good : Uuid → World P → Prop} (permitted : allowed .newUuid w)
    (ok : ∀ id p, host.draw w.hidden = (id, p) → good id { w with hidden := p }) :
    Meets (host.handler site) allowed good bad newUuid w :=
  Meets.effect (I := signature) permitted (ok _ _ rfl)

theorem meets_inspectVm {lookup : VmLookup} {good : Option ProviderVm → World P → Prop}
    (permitted : allowed (.observe (.inspectVm lookup)) w)
    (ok : ∀ found p, host.inspect lookup w.hidden = (.ok found, p) →
      good found { w with hidden := p })
    (error : ∀ error p, host.inspect lookup w.hidden = (.error error, p) →
      bad (.provider error) { w with hidden := p }) :
    Meets (host.handler site) allowed good bad (inspectVm lookup) w := by
  refine Meets.bind (Meets.effect (I := signature) permitted ?_)
  change Meets _ _ _ _ (Fallible.lift ((host.inspect lookup w.hidden).1.mapError EngineError.provider))
    { w with hidden := (host.inspect lookup w.hidden).2 }
  cases answered : host.inspect lookup w.hidden with
  | mk reply p =>
      cases reply with
      | ok found => exact ok found p answered
      | error failure => exact error failure p answered

/-- The effect comes after a part that succeeds. -/
theorem leads_after {A B : Type} {p : Engine A} {f : A → Engine B} {goal : Op → World P → Prop}
    (first : Meets (host.handler site) Acts (fun a t => Leads (host.handler site) goal (f a) t)
      (fun _ _ => False) p w) : Leads (host.handler site) goal (p >>= f : Engine B) w :=
  Meets.leads first

/-- A command that is nothing but a critical section, run while the lock is free. -/
theorem run_locked {A : Type} {body : Engine A} {good : A → World P → Prop}
    (meets : Meets (host.handler site) allowed good bad body w) :
    ∃ result t, Proc.run (host.handler site) (mutationLocked body) false w = (some result, t) ∧
      Ends good bad result t :=
  Does.locked meets

theorem storable_query {q : Query} : Storable site (.query q) w := fun _ same => nomatch same

theorem storable_observe {o : Observation} : Storable site (.observe o) w :=
  fun _ same => nomatch same

theorem storable_removeArtifactRoot {cellId : CellId} {operationId : GuestOperationId} :
    Storable site (.mutate (.removeArtifactRoot cellId operationId)) w := fun _ same => nomatch same

theorem storable_save {record : GuestOperationRecord}
    (valid : validateGuestOperationSchema site record.id record = .ok ())
    (dated : record.updatedAt ≤ w.clock) : Storable site (.mutate (.saveGuestOperation record)) w := by
  rintro other ⟨⟩
  exact ⟨valid, dated⟩

/-- Looking leaves the store as it is. -/
theorem Free.keeps {op : Op} (free : Free op) : ((host.handler site) op w).2.store = w.store := by
  cases op with
  | query q => rfl
  | observe o => cases o <;> rfl
  | newUuid => rfl
  | mutate m => exact free.elim
  | provider authority action => exact free.elim
  | transport authority operationId action => exact free.elim

theorem passive_keeps {A : Type} {p : Proc signature A} {a : A} {t : World P} {held : Bool}
    (passive : Passive (I := signature) Free p)
    (runs : p.run (host.handler site) held w = (some a, t)) : t.store = w.store := by
  induction p generalizing w with
  | done b =>
      obtain ⟨_, rfl⟩ := Prod.mk.inj runs
      rfl
  | halt => cases runs
  | call op next ih => exact (ih _ (passive.2 _) runs).trans (passive.1.keeps)
  | acquire next ih => exact passive.elim
  | release next ih => exact passive.elim

/-- Code that only looks and whose result is known. -/
theorem meets_known {A : Type} {p : Engine A} {a : A} {t : World P} {good : A → World P → Prop}
    (passive : Passive (I := signature) Free p)
    (runs : Proc.run (host.handler site) p true w = (some (.ok a), t))
    (ok : t.store = w.store → good a t) : Meets (host.handler site) Looks good bad p w := by
  refine Does.weaken (passive.does runs) ?_
  rintro result u ⟨rfl, rfl⟩
  exact ok (passive_keeps passive runs)

end Rules

section Records
variable {P : Type} {host : Host P} {site : Site} {w : World P} {cellId : CellId}
  {record : CellRecord}

/-- The record belongs to the current installation and to the provider. -/
def Owned (site : Site) (provider : String) (w : World P) (record : CellRecord) : Prop :=
  ∃ installation, w.store.loadInstallation site = .ok installation ∧
    LocallyOwned site provider record installation.installId

/-- The snapshot under the recorded id. -/
def Presents (host : Host P) (w : World P) (record : CellRecord) (vm : ProviderVm) : Prop :=
  ∃ identity p, record.providerObject = some identity ∧
    host.inspect (.id identity.id) w.hidden = (.ok (some vm), p)

theorem Presents.recorded {vm : ProviderVm} (present : Presents host w record vm) :
    record.providerObject.isSome = true := by
  obtain ⟨identity, _, recorded, _⟩ := present
  rw [recorded]
  rfl

theorem Presents.unique {vm other : ProviderVm} (present : Presents host w record vm)
    (again : Presents host w record other) : other = vm := by
  obtain ⟨identity, p, recorded, found⟩ := present
  obtain ⟨known, q, object, seen⟩ := again
  obtain rfl := Option.some.inj (recorded.symm.trans object)
  obtain ⟨⟨rfl⟩, _⟩ := Prod.mk.inj (found.symm.trans seen)
  rfl

/-- The world after a cell has been written. -/
def World.saved (w : World P) (cellId : CellId) (record : CellRecord) : World P :=
  let cells := w.store.cells.insert cellId (redactCellDiagnostic record)
  { w with clock := record.updatedAt, store := { w.store with cells := cells } }

/-- A cell that was read can be written with another phase. -/
theorem meets_savePhase {new : CellRecord} {phase : CellPhase} {allowed : Op → World P → Prop}
    {good : CellRecord → World P → Prop} {bad : EngineError → World P → Prop}
    (loaded : w.store.loadCell site cellId = .ok record) (same : SameCell record new)
    (clock : allowed (.observe .now) w)
    (write : ∀ time, w.clock ≤ time →
      allowed (.mutate (.saveCell { new with phase := phase, updatedAt := time }))
        { w with clock := time })
    (ok : ∀ time, w.clock ≤ time → good { new with phase := phase, updatedAt := time }
      (w.saved cellId { new with phase := phase, updatedAt := time })) :
    Meets (host.handler site) allowed good bad (savePhase new phase) w := by
  refine Meets.bind (meets_now clock fun time later => ?_)
  have saved : w.store.saveCell site { new with phase := phase, updatedAt := time } = _ :=
    Store.saveCell_again loaded same.id same.schemaVersion same.ownership same.job
  refine Meets.bind (meets_mutate (write time later) (fun answer s applied => ?_)
    fun error failed => ?_)
  · obtain rfl := Except.ok.inj (saved.symm.trans (written_ok.mp applied))
    exact Meets.pure (ok time later)
  · change written (w.store.saveCell site _) = _ at failed
    rw [saved] at failed
    cases failed

end Records

end VmCell
