import VmCell.Interaction.Session
import VmCell.Provider.Qemu

/-! The host on which the QEMU provider runs.

Processes come only of a spawn. A process may end at any time and may start
others, which stay in its group and in its job. Files change only by the
provider's own writes; a write that fails may have been made or not.
-/

set_option autoImplicit false
namespace VmCell

open Interaction

/-- A live process of a tree that was spawned for a configuration file. -/
structure QemuProcess where
  home : PathBuf
  processId : Nat
  startToken : Nat
  group : Nat
  job : Option String
  deriving DecidableEq

structure QemuHost where
  files : PathBuf → Option Document
  live : List QemuProcess

/-- Both processes belong to the same tree. -/
def QemuProcess.Kin (p q : QemuProcess) : Prop :=
  p.home = q.home ∧ p.group = q.group ∧ p.job = q.job

/-- Processes end and fork. -/
def Evolves (before after : List QemuProcess) : Prop := ∀ p ∈ after, ∃ q ∈ before, p.Kin q

namespace QemuHost

/-- No process spawned for the file is alive. -/
def Vacant (path : PathBuf) (s : QemuHost) : Prop := ∀ p ∈ s.live, p.home ≠ path

/-- The group of a process, or a job, has no live member. -/
def TreeEmpty (process : Option (Nat × Nat)) (jobName : Option String) (s : QemuHost) : Prop :=
  (∃ processId startToken, process = some (processId, startToken) ∧
      ∀ p ∈ s.live, p.group ≠ processId) ∨
    ∃ name, jobName = some name ∧ ∀ p ∈ s.live, p.job ≠ some name

/-- A step that leaves the files alone. -/
def Quiet (s t : QemuHost) : Prop := t.files = s.files ∧ Evolves s.live t.live

/-- A write that gives a file new contents, or none. -/
def Writes (path : PathBuf) (contents : Option Document) (s t : QemuHost) : Prop :=
  t.files = Function.update s.files path contents ∧ Evolves s.live t.live

end QemuHost

open QemuHost

section Effects
variable (encoders : Encoders)

/-- What the host may answer to a request, and how it changes by it. -/
def QemuOp.Effect : (op : QemuOp) → QemuHost → op.Reply → QemuHost → Prop
  | .readFile path, s, reply, t | .readPinned path, s, reply, t =>
      Quiet s t ∧ ∀ document, reply = .ok document → s.files path = some document
  | .stage _ config, s, reply, t =>
      Quiet s t ∧ (reply = .ok () → (encoders.toVecPretty config).length ≤ qemuConfigMaxBytes)
  | .writeConfigNew path config, s, reply, t =>
      ((∃ error, reply = .error error) ∧ Quiet s t) ∨
        (s.files path = none ∧ ∃ document, Writes path (some document) s t ∧
          (reply = .ok () → document = .of encoders config ∧
            (encoders.toVecPretty config).length ≤ qemuConfigMaxBytes))
  | .replaceFileAtomic path config, s, reply, t =>
      ((∃ error, reply = .error error) ∧ Quiet s t) ∨
        Writes path (some (.of encoders config)) s t
  | .removeExactFile path, s, reply, t =>
      ((∃ error, reply = .error error) ∧ Quiet s t) ∨ Writes path none s t
  | .spawnVm path _ _ jobName _, s, reply, t =>
      t.files = s.files ∧ ∃ leader : QemuProcess,
        leader.home = path ∧ leader.group = leader.processId ∧ leader.job = jobName ∧
        Evolves (leader :: s.live) t.live ∧
        ∀ receipt, reply = .ok receipt → leader.processId = receipt.processId ∧
          leader.startToken = receipt.processStartToken
  | _, s, _, t => Quiet s t

/-- The executor says only what is so: a process, a group or a job that it calls
absent has no live member, and a spawn that fails leaves nothing behind. -/
def QemuOp.Truthful : (op : QemuOp) → QemuHost → op.Reply → QemuHost → Prop
  | .processAbsenceProven processId startToken, _, proven, t =>
      proven = true → ∀ p ∈ t.live, ¬(p.processId = processId ∧ p.startToken = startToken)
  | .processTreeAbsenceProven process jobName, _, proven, t =>
      proven = true → t.TreeEmpty process jobName
  | .spawnVm .., s, reply, t => (∃ error, reply = .error error) → Quiet s t
  | _, _, _, _ => True

/-- A host with a truthful executor. -/
def QemuHost.truthful : Effects qemuSignature QemuHost := fun op s reply t =>
  QemuOp.Effect encoders op s reply t ∧ QemuOp.Truthful op s reply t

end Effects

/-- Requests that write nothing and start nothing. -/
def QemuOp.Looks : QemuOp → Prop
  | .writeConfigNew .. | .stage .. | .replaceFileAtomic .. | .removeExactFile _ | .spawnVm .. =>
      False
  | _ => True

section Quiet
variable {encoders : Encoders} {s t u : QemuHost} {path : PathBuf}

theorem Evolves.refl (live : List QemuProcess) : Evolves live live :=
  fun p member => ⟨p, member, rfl, rfl, rfl⟩

theorem QemuOp.Looks.quiet {op : QemuOp} {reply : op.Reply} (looks : op.Looks)
    (effect : QemuOp.Effect encoders op s reply t) : Quiet s t := by
  cases op
  case writeConfigNew => exact looks.elim
  case stage => exact looks.elim
  case replaceFileAtomic => exact looks.elim
  case removeExactFile => exact looks.elim
  case spawnVm => exact looks.elim
  case readFile => exact effect.1
  case readPinned => exact effect.1
  all_goals exact effect

theorem QemuHost.Vacant.evolves (vacant : s.Vacant path) (evolves : Evolves s.live t.live) :
    t.Vacant path := by
  intro p alive
  obtain ⟨q, before, home, _, _⟩ := evolves p alive
  rw [home]
  exact vacant q before

end Quiet

/-! Parts of the verbs that only look at the host. -/

namespace QemuProvider
variable {provider : QemuProvider}

open Fallible

section Looking
variable {A : Type} {path : PathBuf} {config : QemuVmConfig}

/-- A program that only looks. -/
abbrev Watches (p : Qemu A) : Prop := Passive (I := qemuSignature) QemuOp.Looks p

theorem watches_ask {op : QemuOp} {read : op.Reply → Except ProviderError A} (looks : op.Looks) :
    Watches (ask op read) := Passive.effect looks

theorem watches_look {op : QemuOp} (looks : op.Looks) : Watches (look op) := Passive.effect looks

theorem watches_ensure {condition : Prop} [Decidable condition] {error : ProviderError} :
    Watches (ensure condition error) := Passive.ite Passive.pure Passive.fail

theorem watches_authorized {check : Platform → Filesystem → Except ProviderError Unit} :
    Watches (provider.authorized check) := (watches_look (by trivial)).bind fun _ => Passive.lift

theorem watches_authorizeConfig {authority : ProviderMutationAuthority} {requireMarker : Bool} :
    Watches (provider.authorizeConfig authority config requireMarker) :=
  (watches_look (by trivial)).bind fun _ => Passive.lift

theorem watches_readConfigSnapshot : Watches (provider.readConfigSnapshot path) :=
  (watches_ask (by trivial)).bind fun _ => Passive.lift.bind fun _ => Passive.pure

theorem watches_validatePinned {snapshot : QemuConfigSnapshot} :
    Watches (provider.validatePinnedConfigSnapshot path snapshot) :=
  (watches_ask (by trivial)).bind fun _ => watches_ensure.bind fun _ =>
    watches_ensure.bind fun _ => Passive.lift.bind fun _ => Passive.pure

theorem watches_endpointAbsent {endpoint : ControlEndpoint} :
    Watches (ensureControlEndpointAbsent endpoint) := by
  refine (watches_look (by trivial)).bind fun presence => ?_
  cases endpoint <;> cases presence <;> trivial

theorem watches_endpointsAbsent : Watches (ensureControlEndpointsAbsent config) :=
  watches_endpointAbsent.bind fun _ => watches_endpointAbsent

theorem watches_inspectImage : Watches (provider.inspectImage path) :=
  watches_ensure.bind fun _ => (watches_ask (by trivial)).bind fun _ => Passive.pure

theorem watches_validateOverlayChain : Watches (provider.validateOverlayChain config) :=
  watches_inspectImage.bind fun _ => watches_inspectImage.bind fun _ =>
    (watches_look (by trivial)).bind fun _ => watches_ensure

theorem watches_selectAccelerator {request : CreateVmRequest} :
    Watches (provider.selectAccelerator request) := by
  refine (watches_ask (by trivial)).bind fun available => ?_
  refine Passive.ite (Passive.ite Passive.pure Passive.fail) ?_
  exact Passive.ite Passive.pure (Passive.ite Passive.pure Passive.fail)

theorem watches_validateQmpIdentity : Watches (provider.validateQmpIdentity config) := by
  refine (watches_ask (by trivial)).bind fun uuid => (watches_ask (by trivial)).bind fun name => ?_
  refine watches_ensure.bind fun _ => (watches_ask (by trivial)).bind fun cpus => ?_
  refine (watches_ask (by trivial)).bind fun memory => (watches_ask (by trivial)).bind fun network => ?_
  exact (watches_ask (by trivial)).bind fun blocks => (watches_look (by trivial)).bind fun _ =>
    watches_ensure

theorem watches_negotiateQmp : Watches (provider.negotiateQmp config) :=
  (watches_look (by trivial)).bind fun (_ : Bool) => watches_ensure.bind fun _ =>
    (watches_ask (by trivial)).bind fun _ => watches_validateQmpIdentity

theorem watches_qmpStatus : Watches qmpStatus :=
  (watches_ask (by trivial)).bind fun _ => Passive.pure

theorem watches_validateLive : Watches (provider.validateLiveProcessReceipt config) := by
  refine watches_ensure.bind fun _ => ?_
  split
  · trivial
  · split
    · trivial
    · refine (watches_look (by trivial)).bind fun (_ : Bool) => ?_
      exact watches_ensure.bind fun _ => Passive.pure

theorem watches_continueVm : Watches (provider.continueVm config) :=
  watches_validateLive.bind fun _ => (watches_ask (by trivial)).bind fun _ =>
    watches_negotiateQmp.bind fun _ => (watches_ask (by trivial)).bind fun _ =>
      watches_qmpStatus.bind fun _ => watches_ensure

theorem watches_processExited {connected : Except ProviderError Unit} {processId startToken : Nat} :
    Watches (processExited connected processId startToken) := by
  cases connected with
  | ok _ => trivial
  | error _ => exact watches_look (by trivial)

theorem watches_recoveringExactTree {processId startToken : Nat} :
    Watches (provider.recoveringExactTree config processId startToken) := by
  refine watches_validateLive.attempt.bind fun live => ?_
  cases live with
  | ok _ => trivial
  | error error =>
      refine (watches_look (by trivial)).bind fun (absent : Bool) => Passive.ite ?_ Passive.fail
      refine (watches_look (by trivial)).bind fun (owned : Bool) => ?_
      exact Passive.ite Passive.pure Passive.fail

theorem watches_inspectLive : Watches (provider.inspectLive config) := by
  refine (watches_ask (by trivial)).attempt.bind fun connected => ?_
  cases connected with
  | error _ => trivial
  | ok _ =>
      refine watches_negotiateQmp.bind fun _ => watches_qmpStatus.bind fun status => ?_
      split <;> trivial

theorem watches_inspectGone {processId startToken : Nat} :
    Watches (inspectGone config processId startToken) := by
  refine (watches_look (by trivial)).bind fun (absent : Bool) => watches_ensure.bind fun _ => ?_
  refine (watches_look (by trivial)).bind fun (empty : Bool) => Passive.ite ?_ ?_
  · exact watches_endpointsAbsent.bind fun _ => Passive.pure
  · exact (watches_look (by trivial)).bind fun (owned : Bool) => Passive.ite Passive.pure Passive.fail

theorem watches_inspectConfig : Watches (provider.inspectConfig config) := by
  refine Passive.ite ?_ ?_
  · refine (watches_look (by trivial)).bind fun (empty : Bool) => watches_ensure.bind fun _ => ?_
    exact watches_endpointsAbsent.bind fun _ => Passive.pure
  · split
    · refine (watches_look (by trivial)).bind fun (matched : Bool) => ?_
      exact Passive.ite watches_inspectLive watches_inspectGone
    · exact watches_endpointsAbsent.bind fun _ => Passive.pure

theorem watches_proveNothingLaunched : Watches (proveNothingLaunched config) := by
  refine Passive.ite ?_ ?_
  · exact (watches_look (by trivial)).bind fun (empty : Bool) => watches_ensure
  · split
    · trivial
    · refine (watches_look (by trivial)).bind fun (absent : Bool) => watches_ensure.bind fun _ => ?_
      exact (watches_look (by trivial)).bind fun (empty : Bool) => watches_ensure

theorem watches_configForLookup {lookup : VmLookup} :
    Watches (provider.configForLookup lookup) := by
  unfold configForLookup
  split
  · trivial
  · refine (watches_look (by trivial)).bind fun (presence : Presence) => ?_
    cases presence with
    | absent => trivial
    | unknown error => trivial
    | present =>
        refine Passive.bind ?_ fun _ => Passive.pure
        exact watches_readConfigSnapshot.bind fun _ => Passive.pure

theorem watches_proveIntentEmpty : Watches (proveIntentEmpty config) :=
  Passive.ite ((watches_look (by trivial)).bind fun (_ : Bool) => watches_ensure) Passive.pure

theorem watches_proveReceiptGone : Watches (provider.proveReceiptGone config) := by
  unfold proveReceiptGone
  split
  · trivial
  · refine (watches_look (by trivial)).bind fun (_ : Bool) => watches_ensure.bind fun _ => ?_
    refine (watches_look (by trivial)).bind fun (_ : Bool) => watches_ensure.bind fun _ => ?_
    exact (watches_look (by trivial)).bind fun (_ : Bool) => watches_ensure

theorem watches_inspectVm {lookup : VmLookup} : Watches (provider.inspectVm lookup) := by
  refine watches_configForLookup.bind fun config => ?_
  cases config with
  | none => trivial
  | some config => exact watches_inspectConfig.bind fun _ => Passive.pure

end Looking

/-- What a look at the host does not change. -/
def Lasting (inv : QemuHost → Prop) : Prop := ∀ {s t}, Quiet s t → inv s → inv t

section Lasting
variable {inv other : QemuHost → Prop} {path : PathBuf}

theorem Lasting.and (first : Lasting inv) (second : Lasting other) :
    Lasting fun s => inv s ∧ other s := fun quiet holds =>
  ⟨first quiet holds.1, second quiet holds.2⟩

theorem lasting_true : Lasting fun _ => True := fun _ _ => trivial

theorem lasting_vacant : Lasting (Vacant path) := fun quiet vacant => vacant.evolves quiet.2

theorem lasting_vacant_when {condition : Prop} : Lasting fun s => condition → s.Vacant path :=
  fun quiet vacant holds => lasting_vacant quiet (vacant holds)

theorem lasting_file {contents : Option Document} : Lasting fun s => s.files path = contents := by
  intro s t quiet stored
  rw [quiet.1]
  exact stored

end Lasting

/-- What is assumed of the host, and when the provider may write or spawn. Looks
are always permitted. -/
structure Regime (provider : QemuProvider) where
  effects : Effects qemuSignature QemuHost
  permitted : QemuOp → QemuHost → Prop
  effect : ∀ {op s reply t}, effects op s reply t → QemuOp.Effect provider.encoders op s reply t
  looks : ∀ {op s}, QemuOp.Looks op → permitted op s

namespace Regime
variable {R : Regime provider} {A : Type} {s : QemuHost} {path : PathBuf}
  {config : QemuVmConfig} {inv : QemuHost → Prop}

/-- The program makes only permitted requests; its result is as wanted. -/
abbrev Guarded (R : Regime provider) (good : A → QemuHost → Prop) (p : Qemu A) (s : QemuHost) :
    Prop := Within R.effects R.permitted good (fun _ _ => True) p s

theorem watches {p : Qemu A} (watches : Watches p) (lasting : Lasting inv) (holds : inv s) :
    R.Guarded (fun _ t => inv t) p s :=
  Passive.keeps watches holds (fun looks _ => R.looks looks)
    (fun looks here step => lasting (QemuOp.Looks.quiet looks (R.effect step)) here)
    (fun _ _ here => here) fun _ _ _ => trivial

/-- A program that begins with a look. -/
theorem past {B : Type} {p : Qemu B} {f : B → Qemu A} {good : A → QemuHost → Prop}
    (watches : Watches p) (lasting : Lasting inv) (holds : inv s)
    (rest : ∀ b t, inv t → R.Guarded good (f b) t) : R.Guarded good (p >>= f) s :=
  Within.bind (Within.weaken (Regime.watches watches lasting holds) rest fun _ _ _ => trivial)

theorem reads (lasting : Lasting inv) (holds : inv s) :
    R.Guarded (fun snapshot t => inv t ∧ ∃ document, t.files path = some document ∧
      decodeQemuConfig provider.host provider.encoders path document = .ok snapshot.config)
      (provider.readConfigSnapshot path) s := by
  refine Within.bind (Within.effect (R.looks trivial) ?_)
  rintro (error | document) t step
  · trivial
  · obtain ⟨quiet, stored⟩ := R.effect step
    refine Within.bind (Within.lift (fun config decoded => ?_) fun _ _ => trivial)
    refine ⟨lasting quiet holds, document, ?_, decoded⟩
    rw [quiet.1]
    exact stored document rfl

/-- A check of the authority passes on some view of the file system. -/
theorem authorizes {check : Platform → Filesystem → Except ProviderError Unit}
    (lasting : Lasting inv) (holds : inv s) :
    R.Guarded (fun _ t => inv t ∧ ∃ fs, check provider.host.platform fs = .ok ())
      (provider.authorized check) s := by
  refine Within.bind (Within.effect (R.looks trivial) ?_)
  intro fs t step
  refine Within.lift (fun _ passed => ⟨?_, fs, passed⟩) fun _ _ => trivial
  have quiet : Quiet s t := R.effect step
  exact lasting quiet holds

/-- The verbs on an existing machine begin alike. -/
theorem opens {check : Platform → Filesystem → Except ProviderError Unit}
    {f : QemuConfigSnapshot → Qemu A} {good : A → QemuHost → Prop} (lasting : Lasting inv)
    (holds : inv s)
    (rest : ∀ snapshot t, (∃ fs, check provider.host.platform fs = .ok ()) →
      (inv t ∧ ∃ document, t.files path = some document ∧
        decodeQemuConfig provider.host provider.encoders path document = .ok snapshot.config) →
      R.Guarded good (f snapshot) t) :
    R.Guarded good
      (do provider.authorized check
          let snapshot ← provider.readConfigSnapshot path
          f snapshot) s := by
  refine Within.bind (Within.weaken (authorizes lasting holds) ?_ fun _ _ _ => trivial)
  rintro _ a ⟨holds, passed⟩
  refine Within.bind (Within.weaken (reads lasting holds) ?_ fun _ _ _ => trivial)
  exact fun snapshot b found => rest snapshot b passed found

/-- A replacement that is permitted wherever it may be made. -/
theorem replaces {snapshot : QemuConfigSnapshot} {good : QemuHost → Prop}
    (lasting : Lasting inv) (holds : inv s)
    (staged : ∀ {t}, inv t → R.permitted (.stage path config) t)
    (permitted : ∀ {t}, inv t → (provider.encoders.toVecPretty config).length ≤ qemuConfigMaxBytes →
      R.permitted (.replaceFileAtomic path config) t)
    (after : ∀ {t u}, inv t → Writes path (some (.of provider.encoders config)) t u → good u)
    (kept : Lasting good) :
    R.Guarded (fun _ t => good t ∧ t.files path = some (.of provider.encoders config) ∧
      decodeQemuConfig provider.host provider.encoders path (.of provider.encoders config) =
        .ok config)
      (provider.replaceConfig path snapshot config) s := by
  refine Within.bind (Within.effect (staged holds) ?_)
  rintro (error | _) a step
  · trivial
  obtain ⟨quiet, small⟩ := R.effect step
  have holds := lasting quiet holds
  refine past watches_validatePinned lasting holds fun _ b holds => ?_
  refine past (watches_ask (by trivial)) lasting holds fun _ c holds => ?_
  refine Within.bind (Within.effect (permitted holds (small rfl)) ?_)
  rintro (error | _) d step
  · trivial
  have writes : Writes path (some (.of provider.encoders config)) c d := by
    rcases R.effect step with ⟨⟨error, failed⟩, _⟩ | writes
    · cases failed
    · exact writes
  have stored : d.files path = some (.of provider.encoders config) := by
    rw [writes.1, Function.update_self]
  have lasts : Lasting fun t => good t ∧ t.files path = some (.of provider.encoders config) :=
    kept.and lasting_file
  refine Within.bind (Within.weaken (reads lasts ⟨after holds writes, stored⟩) ?_
    fun _ _ _ => trivial)
  rintro written e ⟨⟨ends, stored⟩, document, found, decoded⟩
  refine Within.ensure (fun _ => ⟨ends, stored, ?_⟩) fun _ => trivial
  obtain rfl := Option.some.inj (stored.symm.trans found)
  rw [decoded, decode_of decoded]

end Regime

end QemuProvider

end VmCell
