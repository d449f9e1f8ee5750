import VmCell.Engine.Processes
import VmCell.Engine.World
import VmCell.Interaction.Script

/-! Commands rehearsed one at a time.

The store does what its functions say, and everything outside answers as a
function of the question and of what is on disk. Such a rehearsal is a run of the
manager.
-/

set_option autoImplicit false
namespace VmCell

open Interaction

/-- The answers of everything but the store; none where the rehearsal ends. -/
structure Stage where
  observe : (o : Observation) → Store → Option o.Answer
  /-- A provider call also says what it leaves in the cell's runtime directory. -/
  act : (action : ProviderAction) → RuntimeTree →
    Option (Except ProviderError action.Answer × RuntimeTree)
  transport : GuestActionAuthority → (action : TransportAction) → Store →
    Option (Except GuestIoError action.Answer)
  /-- Identifiers in the order in which they are handed out. -/
  ids : List Uuid

def Store.runtimeOf (s : Store) (cellId : CellId) : RuntimeTree :=
  (s.runtime.lookup cellId).getD ∅

instance (s : Store) (id : Uuid) : Decidable (s.Unused id) :=
  decidable_of_iff (s.cells.lookup ⟨id⟩ = none ∧ s.operations.lookup ⟨id⟩ = none ∧
    s.copied ⟨id⟩ = []) ⟨fun ⟨cell, operation, copied⟩ => ⟨cell, operation, copied⟩,
      fun unused => ⟨unused.cell, unused.operation, unused.copied⟩⟩

namespace Stage
variable (stage : Stage) (site : Site)

def script : Script signature Store
  | .query q, s => some (q.eval site s, s)
  | .mutate m, s =>
      match m.apply site s with
      | .ok (answer, t) => some (.ok answer, t)
      | .error error => some (.error error, s)
  | .provider authority action, s =>
      (stage.act action (s.runtimeOf authority.record.id)).map fun reply =>
        (reply.1, { s with runtime := s.runtime.insert authority.record.id reply.2 })
  | .transport authority operationId action, s =>
      (stage.transport authority action s).map fun reply =>
        (reply, afterTransport s operationId action reply)
  | .observe o, s => (stage.observe o s).map fun reply => (reply, s)
  | .newUuid, s => (stage.ids.find? fun id => decide (s.Unused id)).map fun id => (id, s)

variable {stage} {env : Environment} {i : Pid}

theorem fits (owner : ∀ id, env.owner id = i) : (stage.script env.site).Fits (env.effects i) := by
  intro op s reply t answered
  cases op with
  | query q =>
      obtain ⟨rfl, rfl⟩ := Prod.mk.inj (Option.some.inj answered)
      exact ⟨rfl, Or.inl rfl⟩
  | mutate m =>
      refine Or.inl ?_
      unfold script at answered
      cases applied : m.apply env.site s with
      | ok result =>
          simp only [applied] at answered
          obtain ⟨rfl, rfl⟩ := Prod.mk.inj (Option.some.inj answered)
          exact Or.inl ⟨_, applied, rfl⟩
      | error error =>
          simp only [applied] at answered
          obtain ⟨rfl, rfl⟩ := Prod.mk.inj (Option.some.inj answered)
          exact Or.inr ⟨_, applied, rfl, rfl⟩
  | provider authority action =>
      obtain ⟨_, _, same⟩ := Option.map_eq_some_iff.mp answered
      obtain ⟨rfl, rfl⟩ := Prod.mk.inj same
      exact ⟨_, rfl, fun _ other => AList.lookup_insert_ne other⟩
  | transport authority operationId action =>
      obtain ⟨_, _, same⟩ := Option.map_eq_some_iff.mp answered
      obtain ⟨rfl, rfl⟩ := Prod.mk.inj same
      rfl
  | observe o =>
      obtain ⟨_, _, same⟩ := Option.map_eq_some_iff.mp answered
      exact (Prod.mk.inj same).2.symm
  | newUuid =>
      obtain ⟨(id : Uuid), found, same⟩ := Option.map_eq_some_iff.mp answered
      have unused : s.Unused id := by simpa using List.find?_some found
      obtain ⟨rfl, rfl⟩ := Prod.mk.inj same
      exact ⟨rfl, owner _, unused⟩

end Stage

namespace Stage
variable (stage : Stage) (site : Site)

/-- Commands one after the other, each with the number of its steps. -/
def rehearse : List (Command × Nat) → Store → Option Store
  | [], s => some s
  | (command, steps) :: rest, s =>
      ((command.program site).advance (stage.script site) steps false s).bind fun r =>
        rehearse rest r.2.2

variable {stage} {env : Environment} {i : Pid} {s t : Store}

/-- What is rehearsed is reached by the manager. -/
theorem reaches_advanced (owner : ∀ id, env.owner id = i) {command : Command} {steps : Nat}
    {q : Proc signature Response} {still : Bool}
    (advances : (command.program env.site).advance (stage.script env.site) steps false s =
      some (q, still, t)) :
    Manager.Reaches env (Config.empty s) (Config.alone i q still t) :=
  Config.reaches_advance (fits owner) (Config.reaches_start ⟨command, rfl⟩) advances

theorem reaches_rehearsed (owner : ∀ id, env.owner id = i) {commands : List (Command × Nat)}
    (rehearsed : stage.rehearse env.site commands s = some t) :
    Manager.Reaches env (Config.empty s) (Config.empty t) := by
  induction commands generalizing s with
  | nil =>
      obtain rfl := Option.some.inj rehearsed
      exact .refl
  | cons first rest ih =>
      obtain ⟨command, steps⟩ := first
      obtain ⟨⟨q, still, u⟩, advances, later⟩ := Option.bind_eq_some_iff.mp rehearsed
      exact Config.Reaches.append (Config.reaches_left (reaches_advanced owner advances)) (ih later)

end Stage

section Ideal

/-- The machine of a cell, as a provider that carries out its calls shows it. It
keeps the process of a running machine under `process`. -/
def idealVm (record : CellRecord) (identity : ProviderObjectIdentity) (tree : RuntimeTree) :
    ProviderVm where
  id := identity.id
  name := identity.name
  powerState := if (tree.lookup ["process"]).isSome then .running else .off
  ownershipMarker :=
    if record.phase = .providerObjectCreated then "" else record.ownership.providerMarker
  configurationPath := record.ownership.configurationPath
  attachedDisks := [record.ownership.overlayPath]
  networkAdapterCount := 0
  cpuCount := record.spec.cpuCount
  memoryMib := record.spec.memoryMib

/-- The machine a lookup finds among the cells on disk. -/
def idealLookup (lookup : VmLookup) (s : Store) : Option ProviderVm :=
  (s.cells.entries.map fun entry => entry.2).findSome? fun record =>
    record.providerObject.bind fun identity =>
      if (lookup = .id identity.id ∨ lookup = .name identity.name) ∧
          ((s.runtimeOf record.id).lookup ["machine"]).isSome then
        some (idealVm record identity (s.runtimeOf record.id))
      else none

def idealCapabilities : ProviderCapabilities where
  schemaVersion := automationSchemaVersion
  fullSystemVm := true
  cowOverlay := true
  hardwareAcceleration := true
  accelerators := ["kvm"]
  guestOs := ["linux"]
  guestArch := ["x86_64"]
  guestTransports := ["qga"]
  networklessGuestExec := true

/-- A host with one image, on which everything succeeds. -/
def idealStage (format sha256 : String) (time : DateTime) (vmId : Uuid) (ids : List Uuid) :
    Stage where
  observe
    | .probe, _ => some ⟨"qemu", .ready, true, "ready", idealCapabilities⟩
    | .inspectImage path, _ => some (.ok ⟨path, format, "base", none, 1, 1⟩)
    | .inspectVm lookup, s => some (.ok (idealLookup lookup s))
    | .canonicalImagePath path, _ => some (.ok path)
    | .openImmutableParent _, _ => some (.ok ())
    | .validatePathIdentity _, _ => some (.ok ())
    | .fileSize _, _ => some (.ok 1)
    | .sha256File _, _ => some (.ok sha256)
    | .now, _ => some time
    | .instant, _ => some (0 : Nat)
    | .sleep _, _ => some ()
    | .progress _, _ => some .proceed
    | _, _ => none
  act
    | .createOverlay request, tree =>
        some (.ok ⟨request.overlayPath, format, "overlay", some request.parentPath, 1, 1⟩, tree)
    | .createVm request, tree =>
        some (.ok ⟨vmId.toText, request.name⟩, tree.insert ["machine"] .file)
    | .claimVm request, tree =>
        some (.ok { request.expected with ownershipMarker := request.ownershipMarker }, tree)
    | .configureVm request, tree => some (.ok request.expected, tree)
    | .startVm _, tree => some (.ok (), tree.insert ["process"] .file)
    | .stopVm _, tree => some (.ok (), tree.erase ["process"])
    | .removeVm _, tree => some (.ok (), tree.erase ["machine"])
  transport _
    | .probeReady _, _ => some (.ok .ready)
    | .exec _, _ => some (.ok ⟨0, "", "", "utf-8", 0, 0, false⟩)
    | .copyIn .., _ => some (.ok ())
    | .copyOut .., _ => some (.ok [1])
  ids := ids

end Ideal

namespace Exemplar

theorem toOption_some {E A : Type} {result : Except E A} {a : A}
    (found : result.toOption = some a) : result = .ok a := by
  cases result with
  | error e => cases found
  | ok b => exact congrArg _ (Option.some.inj found)

def uuid (digit : Fin 16) : Uuid := ⟨List.replicate 32 digit, List.length_replicate⟩

def digest : String := "0123456789abcdef0123456789abcdef0123456789abcdef0123456789abcdef"

def site : Site := ⟨.unix, ⟨"/", ["var", "vmcell"]⟩, fun _ => digest⟩

def env : Environment := ⟨site, False, fun _ => 0⟩

def stage : Stage := idealStage "qcow2" digest 5 (uuid 9) [uuid 1, uuid 2, uuid 3, uuid 4, uuid 5]

def image : ImageId := ⟨"base", by decide⟩

def register : Command :=
  .register "qemu" ⟨image, .linux, .x86_64, ⟨"/", ["images", "base.qcow2"]⟩⟩

def create : Command := .create "qemu" ⟨image, some "qemu", 1, 1024, some 1, none, false⟩

def cellId : CellId := ⟨uuid 1⟩

def start : Command := .start "qemu" cellId

def transport : GuestTransport := ⟨"agent", fun _ _ => true⟩

def collect : Command := .collect "qemu" transport 1
  ⟨cellId, [⟨"/tmp/report"⟩], nanosPerSecond, 10, ⟨nanosPerSecond, 1⟩⟩

/-- A cell of a registered image, running. -/
def running : List (Command × Nat) := [(register, 11), (create, 36), (start, 20)]

theorem reaches (commands : List (Command × Nat)) (test : Store → Bool)
    (passes : ((stage.rehearse env.site commands Store.empty).any test) = true) :
    ∃ t, Manager.Reaches env (Config.empty Store.empty) (Config.empty t) ∧ test t = true := by
  obtain ⟨t, rehearsed, passed⟩ := (Option.any_eq_true _ _).mp passes
  exact ⟨t, Stage.reaches_rehearsed (fun _ => rfl) rehearsed, passed⟩

/-- Some commands to their end, and the critical section of one more. -/
theorem enters (commands : List (Command × Nat)) (command : Command) (steps : Nat)
    (test : Proc signature Response → Bool)
    (passes : ((stage.rehearse env.site commands Store.empty).any fun s =>
      match command.program env.site with
      | .acquire next =>
          ((next true).proceed (stage.script env.site) steps s).any fun r => test r.1
      | _ => false) = true) :
    ∃ s e q t, Manager.Reaches env (Config.empty Store.empty)
        (Config.alone 0 (command.program env.site) false s) ∧
      (Config.alone 0 (command.program env.site) false s).Grants 0 e ∧
      Manager.During env 0 e (Config.alone 0 q true t) ∧ test q = true := by
  obtain ⟨s, before, ready⟩ := reaches commands _ passes
  cases shape : command.program env.site with
  | acquire next =>
      rw [shape] at ready
      obtain ⟨⟨q, t⟩, proceeds, passed⟩ := (Option.any_eq_true _ _).mp ready
      have started : Manager.Reaches env (Config.empty Store.empty)
          (Config.alone 0 (.acquire next) false s) :=
        Config.Reaches.append before (Config.reaches_start ⟨command, shape.symm⟩)
      refine ⟨s, _, q, t, started, Config.grants_alone, ?_, passed⟩
      exact Config.during_proceed (Stage.fits fun _ => rfl) (.enter rfl) proceeds
  | _ =>
      rw [shape] at ready
      cases ready

/-- Some commands to their end, and one more up to a certain step. -/
theorem reaches_within (commands : List (Command × Nat)) (command : Command) (steps : Nat)
    (test : Proc signature Response → Store → Bool)
    (passes : ((stage.rehearse env.site commands Store.empty).any fun s =>
      ((command.program env.site).advance (stage.script env.site) steps false s).any
        fun r => test r.1 r.2.2) = true) :
    ∃ s q still t, Manager.Reaches env (Config.empty Store.empty) (Config.empty s) ∧
      Manager.Reaches env (Config.empty s) (Config.alone 0 q still t) ∧ test q t = true := by
  obtain ⟨s, before, ready⟩ := reaches commands _ passes
  obtain ⟨⟨q, still, t⟩, advances, passed⟩ := (Option.any_eq_true _ _).mp ready
  exact ⟨s, q, still, t, before, Stage.reaches_advanced (fun _ => rfl) advances, passed⟩

/-- A provider with room for one machine, which carries out its calls. -/
def host : Host (Option ProviderVm) where
  act _ action p :=
    match action with
    | .createOverlay request =>
        (.ok ⟨request.overlayPath, "qcow2", "overlay", some request.parentPath, 1, 1⟩, p)
    | .createVm request =>
        (.ok ⟨(uuid 9).toText, request.name⟩, some ⟨(uuid 9).toText, request.name, .off, "",
          request.configurationPath, [request.overlayPath], 0, request.cpuCount, request.memoryMib⟩)
    | .claimVm request =>
        (.ok { request.expected with ownershipMarker := request.ownershipMarker },
          some { request.expected with ownershipMarker := request.ownershipMarker })
    | .configureVm request => (.ok request.expected, p)
    | .startVm expected => (.ok (), some { expected with powerState := .running })
    | .stopVm expected => (.ok (), some { expected with powerState := .off })
    | .removeVm _ => (.ok (), none)
  transport _ _ action p :=
    match action with
    | .probeReady _ => (.ok .ready, p)
    | .exec _ => (.ok ⟨0, "", "", "utf-8", 0, 0, false⟩, p)
    | .copyIn .. => (.ok (), p)
    | .copyOut .. => (.ok [1], p)
  inspect lookup p :=
    match lookup with
    | .id id => (.ok (p.filter (·.id = id)), p)
    | .name name => (.ok (p.filter (·.name = name)), p)
  answer o p :=
    match o with
    | .probe => (⟨"qemu", .ready, true, "ready", idealCapabilities⟩, p)
    | .inspectImage path => (.ok ⟨path, "qcow2", "base", none, 1, 1⟩, p)
    | .inspectVm _ => (.ok p, p)
    | .canonicalImagePath path => (.ok path, p)
    | .openImmutableParent _ | .validatePathIdentity _ => (.ok (), p)
    | .fileSize _ => (.ok 1, p)
    | .sha256File _ => (.ok digest, p)
    | .readOrdinaryCopySource .. | .readJobCopySource .. => (.ok [], p)
    | .now => ((5 : Int), p)
    | .instant => ((0 : Nat), p)
    | .sleep _ => ((), p)
    | .progress _ => (.proceed, p)
  delay _ := 0
  draw p := (uuid 8, p)

/-- A world with the machine of the cell. -/
def world (s : Store) (powerState : ProviderPowerState) : World (Option ProviderVm) where
  store := s
  clock := 5
  hidden := (s.cells.lookup cellId).bind fun record => record.providerObject.map fun identity =>
    { idealVm record identity (s.runtimeOf cellId) with powerState := powerState }

/-- The cell can be read, is owned and its machine is found; and a test of the two. -/
def finds (w : World (Option ProviderVm)) (test : CellRecord → ProviderVm → Bool) : Bool :=
  (w.store.loadCell site cellId).toOption.any fun record =>
    ((w.store.loadInstallation site).toOption.any fun installation =>
      validateLocalOwnershipRecord site "qemu" record installation.installId = .ok ()) &&
    record.providerObject.any fun identity =>
      (host.inspect (.id identity.id) w.hidden).1.toOption.join.any (test record)

theorem found {w : World (Option ProviderVm)} (test : CellRecord → ProviderVm → Bool)
    (finds : finds w test = true) :
    ∃ record vm, w.store.loadCell site cellId = .ok record ∧ Owned site "qemu" w record ∧
      Presents host w record vm ∧ test record vm = true := by
  obtain ⟨record, loads, rest⟩ := (Option.any_eq_true _ _).mp finds
  obtain ⟨installed, located⟩ := (Bool.and_eq_true _ _).mp rest
  obtain ⟨installation, loadsInstallation, valid⟩ := (Option.any_eq_true _ _).mp installed
  obtain ⟨identity, recorded, inspects⟩ := (Option.any_eq_true _ _).mp located
  obtain ⟨vm, inspected, passed⟩ := (Option.any_eq_true _ _).mp inspects
  refine ⟨record, vm, toOption_some loads, ?_, ?_, passed⟩
  · exact ⟨installation, toOption_some loadsInstallation,
      validateLocalOwnershipRecord_ok.mp (of_decide_eq_true valid)⟩
  · refine ⟨identity, _, recorded, Prod.ext ?_ rfl⟩
    exact toOption_some (Option.join_eq_some_iff.mp inspected)

end Exemplar

end VmCell
