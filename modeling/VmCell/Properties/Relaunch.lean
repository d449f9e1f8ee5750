import VmCell.Properties.Configuration

/-! What is left of a launch whose process could not be started.

The intent that was written before the spawn stays in the file. Whether it can be
shown to have come to nothing depends on the host.
-/

set_option autoImplicit false
namespace VmCell

open Interaction Fallible QemuHost QemuProvider

/-- A request to start a process. -/
def Spawns : QemuOp → QemuHost → Prop
  | .spawnVm .., _ => True
  | _, _ => False

/-- Every request but a spawn. -/
def QemuOp.Spawnless (op : QemuOp) : Prop := ∀ s, ¬Spawns op s

/-- Requests that a host in order answers alike in every state. -/
def QemuOp.Fixed : QemuOp → Prop
  | .filesystem | .qemuImgInfo _ | .endpointPresence _ | .newUuid | .connectQmp .. => True
  | _ => False

/-- How a program ends on a host in order. -/
abbrev QemuScene.run {A : Type} (scene : QemuScene) (provider : QemuProvider) (p : Qemu A)
    (s : QemuHost) : Option (Except ProviderError A) × QemuHost :=
  Proc.run (scene.handler provider) p true s

/-- The program comes to start a process. -/
abbrev QemuScene.Launches {A : Type} (scene : QemuScene) (provider : QemuProvider) (p : Qemu A)
    (s : QemuHost) : Prop := Leads (scene.handler provider) Spawns p s

section Scenes
variable {scene : QemuScene} {provider : QemuProvider} {A B : Type} {s t : QemuHost}

/-- A program that starts nothing. -/
abbrev Idles (p : Qemu A) : Prop := Passive (I := qemuSignature) QemuOp.Spawnless p

abbrev Blind (p : Qemu A) : Prop := Passive (I := qemuSignature) QemuOp.Fixed p

theorem passive_mono {free other : QemuOp → Prop} {p : Qemu A}
    (passive : Passive (I := qemuSignature) free p) (implies : ∀ op, free op → other op) :
    Passive (I := qemuSignature) other p := by
  induction p with
  | done result => trivial
  | halt => trivial
  | call op next ih => exact ⟨implies op passive.1, fun reply => ih reply (passive.2 reply)⟩
  | acquire next => exact passive.elim
  | release next => exact passive.elim

theorem QemuOp.Looks.spawnless {op : QemuOp} (looks : op.Looks) : op.Spawnless := by
  intro s spawns
  cases op
  case spawnVm => exact looks.elim
  all_goals exact spawns

theorem Watches.idles {p : Qemu A} (watches : Watches p) : Idles p :=
  passive_mono watches fun _ looks => looks.spawnless

theorem Blind.idles {p : Qemu A} (blind : Blind p) : Idles p := by
  refine passive_mono blind fun op fixed s spawns => ?_
  cases op
  case spawnVm => exact fixed.elim
  all_goals exact spawns

theorem Idles.rest {p : Qemu A} {f : A → Qemu B} (idles : Idles p)
    (launches : scene.Launches provider (p >>= f) s) :
    ∃ a t, scene.run provider p s = (some (.ok a), t) ∧ scene.Launches provider (f a) t :=
  Passive.leads_rest idles (fun _ t spawnless => spawnless t) launches

/-- Such a program ends alike in every state, and leaves it alone. -/
theorem Blind.everywhere {p : Qemu A} {result : Except ProviderError A} (blind : Blind p)
    (ends : scene.run provider p s = (some result, t)) :
    t = s ∧ ∀ u, scene.run provider p u = (some result, u) := by
  induction p generalizing s with
  | done value =>
      obtain ⟨⟨rfl⟩, rfl⟩ := Prod.mk.inj ends
      exact ⟨rfl, fun u => rfl⟩
  | halt => cases ends
  | call op next ih =>
      have same : ∀ u, ((scene.handler provider) op u).1 = ((scene.handler provider) op s).1 ∧
          ((scene.handler provider) op u).2 = u := by
        intro u
        have fixed : QemuOp.Fixed op := blind.1
        cases op
        case filesystem => exact ⟨rfl, rfl⟩
        case qemuImgInfo => exact ⟨rfl, rfl⟩
        case endpointPresence => exact ⟨rfl, rfl⟩
        case newUuid => exact ⟨rfl, rfl⟩
        case connectQmp => exact ⟨rfl, rfl⟩
        all_goals exact fixed.elim
      obtain ⟨kept, others⟩ := ih _ (blind.2 _) ends
      refine ⟨kept.trans (same s).2, fun u => ?_⟩
      change Proc.run (scene.handler provider) (next ((scene.handler provider) op u).1) true
        ((scene.handler provider) op u).2 = _
      rw [(same u).1, (same u).2]
      exact others u
  | acquire next => exact blind.elim
  | release next => exact blind.elim

end Scenes

section Blindness
variable {provider : QemuProvider} {config : QemuVmConfig} {path : PathBuf}

theorem blind_authorized {check : Platform → Filesystem → Except ProviderError Unit} :
    Blind (provider.authorized check) := Passive.bind (Passive.effect trivial) fun _ => trivial

theorem blind_authorizeConfig {authority : ProviderMutationAuthority} {requireMarker : Bool} :
    Blind (provider.authorizeConfig authority config requireMarker) :=
  Passive.bind (Passive.effect trivial) fun _ => trivial

theorem blind_ensure {condition : Prop} [Decidable condition] {error : ProviderError} :
    Blind (ensure condition error) := Passive.ite Passive.pure Passive.fail

theorem blind_inspectImage : Blind (provider.inspectImage path) :=
  blind_ensure.bind fun _ => Passive.bind (Passive.effect trivial) fun _ => Passive.pure

theorem blind_validateOverlayChain : Blind (provider.validateOverlayChain config) :=
  blind_inspectImage.bind fun _ => blind_inspectImage.bind fun _ =>
    Passive.bind (Passive.effect trivial) fun _ => blind_ensure

/-- Nothing answers at a control endpoint. -/
theorem run_endpointsAbsent {scene : QemuScene} (s : QemuHost) :
    scene.run provider (ensureControlEndpointsAbsent config) s = (some (.ok ()), s) := by
  cases config.qmp <;> cases config.qga <;> rfl

end Blindness

section Files
variable {scene : QemuScene} {provider : QemuProvider} {A B : Type} {s t : QemuHost}
  {path : PathBuf} {config : QemuVmConfig} {document : Document} {snapshot : QemuConfigSnapshot}

theorem idles_ask {op : QemuOp} {read : op.Reply → Except ProviderError A}
    (spawnless : op.Spawnless) : Idles (ask op read) := Passive.effect spawnless

/-- The value of a program that starts nothing comes of the values of its parts. -/
theorem Idles.parts {p : Qemu A} {f : A → Qemu B} {b : B} (idles : Idles p)
    (ends : scene.run provider (p >>= f) s = (some (.ok b), t)) :
    ∃ a u, scene.run provider p s = (some (.ok a), u) ∧
      scene.run provider (f a) u = (some (.ok b), t) :=
  Passive.run_parts idles ends

theorem run_ensure {condition : Prop} [Decidable condition] {error : ProviderError}
    (holds : condition) : scene.run provider (ensure condition error) s = (some (.ok ()), s) := by
  unfold ensure
  rw [if_pos holds]
  rfl

theorem ensured {condition : Prop} [Decidable condition] {error : ProviderError} {a : Unit}
    (ends : scene.run provider (ensure condition error) s = (some (.ok a), t)) :
    condition ∧ t = s := by
  unfold ensure at ends
  split at ends
  · rename_i holds
    exact ⟨holds, (Prod.mk.inj ends).2.symm⟩
  · cases (Prod.mk.inj ends).1

theorem readFrom_iff : QemuScene.readFrom s path = .ok document ↔ s.files path = some document := by
  unfold QemuScene.readFrom
  split
  · rename_i stored
    simp [stored]
  · rename_i absent
    simp [absent]

theorem run_read (stored : s.files path = some document)
    (decoded : decodeQemuConfig provider.host provider.encoders path document = .ok config) :
    scene.run provider (provider.readConfigSnapshot path) s =
      (some (.ok ⟨config, provider.encoders.sha256 document.text⟩), s) := by
  have asked : scene.run provider (ask (.readFile path) id : Qemu Document) s =
      (some (.ok document), s) :=
    congrArg (fun result => (some result, s)) (readFrom_iff.mpr stored)
  have idles : Idles (ask (.readFile path) id : Qemu Document) := idles_ask fun _ spawns => spawns
  refine (Passive.run_ok idles asked).trans ?_
  change scene.run provider
    (lift (decodeQemuConfig provider.host provider.encoders path document) >>= _) s = _
  rw [decoded]
  rfl

theorem read_inv (ends : scene.run provider (provider.readConfigSnapshot path) s =
      (some (.ok snapshot), t)) :
    t = s ∧ ∃ document, s.files path = some document ∧
      decodeQemuConfig provider.host provider.encoders path document = .ok snapshot.config ∧
      snapshot.bytesSha256 = provider.encoders.sha256 document.text := by
  obtain ⟨document, u, asked, rest⟩ :=
    Idles.parts (idles_ask (by intro _ spawns; exact spawns)) ends
  obtain ⟨found, rfl⟩ := Prod.mk.inj asked
  obtain ⟨config, v, lifted, rest⟩ := Idles.parts Passive.lift rest
  obtain ⟨decoded, rfl⟩ := Prod.mk.inj lifted
  obtain ⟨⟨rfl⟩, rfl⟩ := Prod.mk.inj rest
  exact ⟨rfl, document, readFrom_iff.mp (Option.some.inj found), Option.some.inj decoded, rfl⟩

/-- The host after a configuration has been written. -/
def rewritten (provider : QemuProvider) (s : QemuHost) (path : PathBuf) (config : QemuVmConfig) :
    QemuHost :=
  { s with files := Function.update s.files path (some (.of provider.encoders config)) }

theorem rewritten_file : (rewritten provider s path config).files path =
    some (.of provider.encoders config) := Function.update_self _ _ _

theorem run_validatePinned (stored : s.files path = some document)
    (pinned : provider.encoders.sha256 document.text = snapshot.bytesSha256)
    (decoded : decodeQemuConfig provider.host provider.encoders path document = .ok config) :
    scene.run provider (provider.validatePinnedConfigSnapshot path snapshot) s =
      (some (.ok ()), s) := by
  have asked : scene.run provider (ask (.readPinned path) id : Qemu Document) s =
      (some (.ok document), s) :=
    congrArg (fun result => (some result, s)) (readFrom_iff.mpr stored)
  have idles : Idles (ask (.readPinned path) id : Qemu Document) :=
    idles_ask fun _ spawns => spawns
  refine (Passive.run_ok idles asked).trans ?_
  refine (Passive.run_ok watches_ensure (run_ensure (decodeQemuConfig_ok.mp decoded).1)).trans ?_
  refine (Passive.run_ok watches_ensure (run_ensure pinned)).trans ?_
  change scene.run provider
    (lift (decodeQemuConfig provider.host provider.encoders path document) >>= _) s = _
  rw [decoded]
  rfl

theorem pinned_inv {a : Unit}
    (ends : scene.run provider (provider.validatePinnedConfigSnapshot path snapshot) s =
      (some (.ok a), t)) : t = s := by
  obtain ⟨document, u, asked, rest⟩ :=
    Idles.parts (idles_ask (by intro _ spawns; exact spawns)) ends
  obtain ⟨_, rfl⟩ := Prod.mk.inj asked
  obtain ⟨_, v, sized, hashes⟩ := Idles.parts blind_ensure.idles rest
  obtain ⟨_, w, hashed, decodes⟩ := Idles.parts blind_ensure.idles hashes
  obtain ⟨config, x, decoded, ends⟩ := Idles.parts Passive.lift decodes
  calc t = x := (Prod.mk.inj ends).2.symm
    _ = w := (Prod.mk.inj decoded).2.symm
    _ = v := (ensured hashed).2
    _ = s := (ensured sized).2

theorem run_replaceConfig (stored : s.files path = some document)
    (pinned : provider.encoders.sha256 document.text = snapshot.bytesSha256)
    (decoded : decodeQemuConfig provider.host provider.encoders path document = .ok config)
    {changed : QemuVmConfig}
    (valid : decodeQemuConfig provider.host provider.encoders path
      (.of provider.encoders changed) = .ok changed) :
    scene.run provider (provider.replaceConfig path snapshot changed) s =
      (some (.ok ()), rewritten provider s path changed) := by
  have small : (provider.encoders.toVecPretty changed).length ≤ qemuConfigMaxBytes :=
    (decodeQemuConfig_ok.mp valid).1
  have staged : scene.run provider (ask (.stage path changed) id) s = (some (.ok ()), s) := by
    change (some (QemuScene.sized provider changed), s) = _
    unfold QemuScene.sized
    rw [if_pos small]
  refine (Passive.run_ok (idles_ask (by intro _ spawns; exact spawns)) staged).trans ?_
  refine (Passive.run_ok watches_validatePinned (run_validatePinned stored pinned decoded)).trans ?_
  have replaced : scene.run provider (ask (.replaceFileAtomic path changed) id) s =
      (some (.ok ()), rewritten provider s path changed) := rfl
  have checked : scene.run provider (ask (.checkStaged path changed) id) s =
      (some (.ok ()), s) := rfl
  refine (Passive.run_ok (idles_ask (by intro _ spawns; exact spawns)) checked).trans ?_
  refine (Passive.run_ok (idles_ask (by intro _ spawns; exact spawns)) replaced).trans ?_
  refine (Passive.run_ok watches_readConfigSnapshot (run_read rewritten_file valid)).trans ?_
  exact run_ensure rfl

theorem replace_inv {a : Unit}
    (ends : scene.run provider (provider.replaceConfig path snapshot config) s =
      (some (.ok a), t)) :
    t = rewritten provider s path config ∧
      decodeQemuConfig provider.host provider.encoders path (.of provider.encoders config) =
        .ok config := by
  obtain ⟨_, u, staged, pins⟩ :=
    Idles.parts (idles_ask (by intro _ spawns; exact spawns)) ends
  obtain ⟨_, rfl⟩ := Prod.mk.inj staged
  obtain ⟨_, v, pinned, checks⟩ := Idles.parts (Watches.idles watches_validatePinned) pins
  obtain rfl := pinned_inv pinned
  obtain ⟨_, w, checked, replaces⟩ :=
    Idles.parts (idles_ask (by intro _ spawns; exact spawns)) checks
  obtain ⟨_, rfl⟩ := Prod.mk.inj checked
  obtain ⟨_, x, replaced, rereads⟩ :=
    Idles.parts (idles_ask (by intro _ spawns; exact spawns)) replaces
  obtain ⟨_, rfl⟩ := Prod.mk.inj replaced
  obtain ⟨back, y, reread, compares⟩ :=
    Idles.parts (Watches.idles watches_readConfigSnapshot) rereads
  obtain ⟨rfl, document, stored, decoded, _⟩ := read_inv reread
  obtain ⟨_, rfl⟩ := ensured compares
  obtain rfl := Option.some.inj (rewritten_file.symm.trans stored)
  refine ⟨rfl, ?_⟩
  rw [decoded, decode_of decoded]

end Files

section Start
variable {scene : QemuScene} {provider : QemuProvider} {s t : QemuHost} {path : PathBuf}
  {authority : ProviderMutationAuthority} {expected : ProviderVm} {config : QemuVmConfig}
  {document : Document}

/-- What the verbs on an existing machine check of its configuration, apart from
its launch. -/
structure Vetted (scene : QemuScene) (provider : QemuProvider)
    (authority : ProviderMutationAuthority) (expected : ProviderVm) (config : QemuVmConfig) :
    Prop where
  authorized : ∀ u, scene.run provider
    (provider.authorized fun platform fs => authority.validateVm platform fs expected) u =
      (some (.ok ()), u)
  defined : ∀ u, scene.run provider (provider.authorizeConfig authority config true) u =
    (some (.ok ()), u)
  matching : config.validateConfigSnapshot expected true = .ok ()
  chained : ∀ u, scene.run provider (provider.validateOverlayChain config) u = (some (.ok ()), u)
  digest : config.commandSha256 = launchDigest provider.encoders config
  off : expected.powerState = .off

/-- The intent of a launch is the same machine. -/
theorem Vetted.intent {jobName : Option String}
    (vetted : Vetted scene provider authority expected config) :
    Vetted scene provider authority expected (launchIntent config jobName) where
  authorized := vetted.authorized
  defined := vetted.defined
  matching := vetted.matching
  chained := vetted.chained
  digest := vetted.digest
  off := vetted.off

theorem Vetted.snapshot (vetted : Vetted scene provider authority expected config) :
    config.snapshot .off = expected := by
  have same := vetted.matching
  have off := vetted.off
  obtain ⟨id, name, power, marker, home, disks, adapters, cpus, memory⟩ := expected
  simp only [QemuVmConfig.validateConfigSnapshot] at same
  split at same
  · cases same
  · rename_i agrees
    simp only [Bool.or_eq_true, Bool.and_eq_true, decide_eq_true_eq, not_or] at agrees
    simp_all [QemuVmConfig.snapshot]

theorem launches_of_eq {A : Type} {p q : Qemu A} (same : p = q)
    (launches : scene.Launches provider q s) : scene.Launches provider p s := same ▸ launches

theorem Idles.never {A : Type} {p : Qemu A} (idles : Idles p) : ¬scene.Launches provider p s := by
  induction p generalizing s with
  | done result => exact id
  | halt => exact id
  | call op next ih =>
      rintro (spawns | later)
      · exact idles.1 s spawns
      · exact ih _ (idles.2 _) later
  | acquire next => exact idles.elim
  | release next => exact idles.elim

theorem blind_lift {A : Type} {result : Except ProviderError A} : Blind (lift result) :=
  Passive.lift

theorem run_matching (vetted : Vetted scene provider authority expected config) :
    scene.run provider (lift (config.validateConfigSnapshot expected true)) s =
      (some (.ok ()), s) := by
  rw [vetted.matching]
  rfl

theorem blind_newUuid : Blind (look .newUuid) := Passive.effect trivial

theorem run_newUuid :
    scene.run provider (look .newUuid) s = (some (.ok scene.newUuid), s) := rfl

/-- Programs of the provider do not lock. -/
abbrev Lockless {A : Type} (p : Qemu A) : Prop := Passive (I := qemuSignature) (fun _ => True) p

theorem Idles.lockless {A : Type} {p : Qemu A} (idles : Idles p) : Lockless p :=
  passive_mono idles fun _ _ => trivial

theorem lockless_ask {A : Type} (op : QemuOp) (read : op.Reply → Except ProviderError A) :
    Lockless (ask op read) := Passive.effect trivial

theorem idles_replaceConfig {snapshot : QemuConfigSnapshot} :
    Idles (provider.replaceConfig path snapshot config) := by
  refine (idles_ask (by intro _ spawns; exact spawns)).bind fun _ => ?_
  refine (Watches.idles watches_validatePinned).bind fun _ => ?_
  refine (idles_ask (by intro _ spawns; exact spawns)).bind fun _ => ?_
  refine (idles_ask (by intro _ spawns; exact spawns)).bind fun _ => ?_
  exact (Watches.idles watches_readConfigSnapshot).bind fun _ => blind_ensure.idles

theorem lockless_launch {snapshot : QemuConfigSnapshot} :
    Lockless (provider.launch path snapshot config) := by
  refine blind_newUuid.idles.lockless.bind fun value => ?_
  refine idles_replaceConfig.lockless.bind fun _ => (lockless_ask _ _).bind fun receipt => ?_
  refine (Watches.idles watches_readConfigSnapshot).lockless.bind fun _ => ?_
  refine blind_ensure.idles.lockless.bind fun _ => blind_ensure.idles.lockless.bind fun _ => ?_
  refine blind_ensure.idles.lockless.bind fun _ => idles_replaceConfig.lockless.bind fun _ => ?_
  exact (lockless_ask _ _).bind fun _ => Passive.pure

/-- The intent that a launch on this host records. -/
abbrev QemuScene.intent (scene : QemuScene) (provider : QemuProvider) (config : QemuVmConfig) :
    QemuVmConfig := launchIntent config (newQemuJobName provider.host scene.newUuid)

/-- A program whose requests leave the host as it is. -/
abbrev QemuScene.Still (scene : QemuScene) (provider : QemuProvider) {A : Type} (p : Qemu A) :
    Prop := Passive (I := qemuSignature) (fun op => ∀ u, (scene.handler provider op u).2 = u) p

theorem unmoved {A : Type} {p : Qemu A} {result : Option (Except ProviderError A)}
    (still : scene.Still provider p) (ends : scene.run provider p s = (result, t)) : t = s := by
  induction p generalizing s with
  | done value => exact (Prod.mk.inj ends).2.symm
  | halt => exact (Prod.mk.inj ends).2.symm
  | call op next ih => exact (ih _ (still.2 _) ends).trans (still.1 s)
  | acquire next => exact still.elim
  | release next => exact still.elim

theorem still_proveNothingLaunched : scene.Still provider (proveNothingLaunched config) := by
  have still_ensure : ∀ {condition : Prop} [Decidable condition] {error : ProviderError},
      scene.Still provider (ensure condition error) := Passive.ite Passive.pure Passive.fail
  refine Passive.ite ?_ ?_
  · exact Passive.bind (Passive.effect fun _ => rfl) fun (_ : Bool) => still_ensure
  · split
    · trivial
    · refine Passive.bind (Passive.effect fun _ => rfl) fun (_ : Bool) => ?_
      refine Passive.bind still_ensure fun _ => ?_
      exact Passive.bind (Passive.effect fun _ => rfl) fun (_ : Bool) => still_ensure

theorem bind_assoc {A B C : Type} (p : Qemu A) (f : A → Qemu B) (g : B → Qemu C) :
    (p >>= f) >>= g = p >>= fun a => f a >>= g := by
  refine (Proc.bind_assoc p _ _).trans (congrArg (Proc.bind p) (funext fun result => ?_))
  cases result <;> rfl

/-- All that has to hold for a start to come to its spawn. -/
structure Startable (scene : QemuScene) (provider : QemuProvider)
    (authority : ProviderMutationAuthority) (expected : ProviderVm) (document : Document)
    (config : QemuVmConfig) (s : QemuHost) : Prop where
  vetted : Vetted scene provider authority expected config
  stored : s.files (QemuVmConfig.configPath expected.configurationPath) = some document
  decoded : decodeQemuConfig provider.host provider.encoders
    (QemuVmConfig.configPath expected.configurationPath) document = .ok config
  unlaunched : scene.run provider (proveNothingLaunched config) s = (some (.ok ()), s)
  intended : decodeQemuConfig provider.host provider.encoders
    (QemuVmConfig.configPath expected.configurationPath)
    (.of provider.encoders (scene.intent provider config)) = .ok (scene.intent provider config)

theorem Startable.run_intent
    (startable : Startable scene provider authority expected document config s) :
    scene.run provider (provider.replaceConfig
        (QemuVmConfig.configPath expected.configurationPath)
        ⟨config, provider.encoders.sha256 document.text⟩ (scene.intent provider config)) s =
      (some (.ok ()), rewritten provider s
        (QemuVmConfig.configPath expected.configurationPath) (scene.intent provider config)) :=
  run_replaceConfig startable.stored rfl startable.decoded startable.intended

theorem Startable.launches
    (startable : Startable scene provider authority expected document config s) :
    scene.Launches provider (provider.startVm authority expected) s := by
  have vetted := startable.vetted
  refine Passive.leads_ok blind_authorized (vetted.authorized s) ?_
  refine Passive.leads_ok watches_readConfigSnapshot
    (run_read startable.stored startable.decoded) ?_
  refine Passive.leads_ok blind_authorizeConfig (vetted.defined s) ?_
  refine Passive.leads_ok blind_lift (run_matching vetted) ?_
  refine Passive.leads_ok blind_validateOverlayChain (vetted.chained s) ?_
  refine Passive.leads_ok blind_ensure (run_ensure vetted.digest) ?_
  refine launches_of_eq (if_pos vetted.off) ?_
  refine Passive.leads_ok watches_endpointsAbsent (run_endpointsAbsent s) ?_
  refine Passive.leads_ok watches_proveNothingLaunched startable.unlaunched (leads_first ?_)
  refine Passive.leads_ok blind_newUuid run_newUuid ?_
  refine Passive.leads_ok idles_replaceConfig startable.run_intent (leads_first ?_)
  exact Or.inl trivial

/-- A start whose spawn fails leaves the intent of the launch. -/
theorem Startable.run_failed {e : ProviderError} (fails : scene.spawn = .error e)
    (startable : Startable scene provider authority expected document config s) :
    scene.run provider (provider.startVm authority expected) s = (some (.error e),
      rewritten provider s (QemuVmConfig.configPath expected.configurationPath)
        (scene.intent provider config)) := by
  have vetted := startable.vetted
  refine (Passive.run_ok blind_authorized (vetted.authorized s)).trans ?_
  refine (Passive.run_ok watches_readConfigSnapshot
    (run_read startable.stored startable.decoded)).trans ?_
  refine (Passive.run_ok blind_authorizeConfig (vetted.defined s)).trans ?_
  refine (Passive.run_ok blind_lift (run_matching vetted)).trans ?_
  refine (Passive.run_ok blind_validateOverlayChain (vetted.chained s)).trans ?_
  refine (Passive.run_ok blind_ensure (run_ensure vetted.digest)).trans ?_
  change scene.run provider (if expected.powerState = .off then _ else _) s = _
  rw [if_pos vetted.off]
  refine (Passive.run_ok watches_endpointsAbsent (run_endpointsAbsent s)).trans ?_
  refine (Passive.run_ok watches_proveNothingLaunched startable.unlaunched).trans ?_
  refine Passive.run_error lockless_launch ?_
  refine (Passive.run_ok blind_newUuid run_newUuid).trans ?_
  refine (Passive.run_ok idles_replaceConfig startable.run_intent).trans ?_
  refine Passive.run_error (lockless_ask _ _) ?_
  change (some ((scene.answer provider (.spawnVm ..) _).1),
    (scene.answer provider (.spawnVm ..) _).2) = _
  simp only [QemuScene.answer, fails]
  rfl

/-- A start that comes to its spawn has passed every check before it. -/
theorem startable_of_launches
    (launches : scene.Launches provider (provider.startVm authority expected) s) :
    ∃ document config, Startable scene provider authority expected document config s := by
  obtain ⟨_, a, passes, reads⟩ := blind_authorized.idles.rest launches
  obtain ⟨rfl, authorized⟩ := blind_authorized.everywhere passes
  obtain ⟨snapshot, b, read, checks⟩ := Idles.rest (Watches.idles watches_readConfigSnapshot) reads
  obtain ⟨rfl, document, stored, decoded, pinned⟩ := read_inv read
  obtain ⟨_, c, defines, compares⟩ := blind_authorizeConfig.idles.rest checks
  obtain ⟨rfl, defined⟩ := blind_authorizeConfig.everywhere defines
  obtain ⟨_, d, compared, chains⟩ := blind_lift.idles.rest compares
  obtain ⟨matching, rfl⟩ := Prod.mk.inj compared
  obtain ⟨_, f, linked, digests⟩ := blind_validateOverlayChain.idles.rest chains
  obtain ⟨rfl, chained⟩ := blind_validateOverlayChain.everywhere linked
  obtain ⟨_, g, hashed, starts⟩ := blind_ensure.idles.rest digests
  obtain ⟨digest, rfl⟩ := ensured hashed
  have off : expected.powerState = .off := by
    by_contra running
    have paused := launches_of_eq (if_neg running).symm starts
    obtain ⟨_, i, _, continues⟩ := blind_ensure.idles.rest paused
    exact (Watches.idles watches_continueVm).never continues
  have begins := launches_of_eq (if_pos off).symm starts
  obtain ⟨_, i, absent, proves⟩ := Idles.rest (Watches.idles watches_endpointsAbsent) begins
  obtain ⟨_, rfl⟩ := Prod.mk.inj ((run_endpointsAbsent g).symm.trans absent)
  obtain ⟨_, j, proven, launched⟩ :=
    Idles.rest (Watches.idles watches_proveNothingLaunched) proves
  obtain rfl := unmoved still_proveNothingLaunched proven
  obtain ⟨value, k, drawn, replaces⟩ := blind_newUuid.idles.rest
    (launches_of_eq (bind_assoc _ _ _).symm launched)
  obtain ⟨⟨rfl⟩, rfl⟩ := Prod.mk.inj drawn
  obtain ⟨_, l, replaced, _⟩ := idles_replaceConfig.rest
    (launches_of_eq (bind_assoc _ _ _).symm replaces)
  exact ⟨document, snapshot.config, ⟨authorized, defined, Option.some.inj matching, chained, digest,
    off⟩, stored, decoded, proven, (replace_inv replaced).2⟩

end Start

section Recovery
variable {scene : QemuScene} {provider : QemuProvider} {s t : QemuHost} {path : PathBuf}
  {authority : ProviderMutationAuthority} {expected : ProviderVm} {config : QemuVmConfig}

/-- The launch left nothing that keeps the machine from being used: it is reported
off, it can be started and it can be removed. -/
structure Recovers (scene : QemuScene) (provider : QemuProvider)
    (authority : ProviderMutationAuthority) (expected : ProviderVm) (s : QemuHost) : Prop where
  inspected : (scene.run provider (provider.inspectVm (.id expected.id)) s).1 =
    some (.ok (some expected))
  launches : scene.Launches provider (provider.startVm authority expected) s
  removed : ∃ t, scene.run provider (provider.removeVm authority expected) s =
    (some (.ok ()), t) ∧ t.files (QemuVmConfig.configPath expected.configurationPath) = none

/-- The host with the intent of a launch in the file of the machine. -/
structure Intends (scene : QemuScene) (provider : QemuProvider)
    (authority : ProviderMutationAuthority) (expected : ProviderVm) (config : QemuVmConfig)
    (s : QemuHost) : Prop where
  vetted : Vetted scene provider authority expected config
  recorded : scene.intent provider config = config
  stored : s.files (QemuVmConfig.configPath expected.configurationPath) =
    some (.of provider.encoders config)
  decoded : decodeQemuConfig provider.host provider.encoders
    (QemuVmConfig.configPath expected.configurationPath) (.of provider.encoders config) =
      .ok config
  located : provider.lookupPath (.id expected.id) =
    some (QemuVmConfig.configPath expected.configurationPath)

variable (intends : Intends scene provider authority expected config s)
include intends

theorem Intends.pending : config.spawnPending = true := by
  rw [← intends.recorded]
  rfl

theorem Intends.unrecorded : config.process = none := by
  rw [← intends.recorded]
  rfl

/-- What the executor says of the launch. -/
abbrev Gone (provider : QemuProvider) (config : QemuVmConfig) (s : QemuHost) : Prop :=
  processTreeAbsenceProven provider.host s none config.processJobName = true

theorem Intends.run_inspectConfig : scene.run provider (provider.inspectConfig config) s =
    (some (if Gone provider config s then .ok expected else .error (.ownershipChanged
      "QEMU launch may have started and its exact contained tree is not proven empty")), s) := by
  unfold inspectConfig
  rw [if_pos intends.pending]
  change scene.run provider (ensure (Gone provider config s) _ >>= _) s = _
  by_cases gone : Gone provider config s
  · rw [if_pos gone]
    refine (Passive.run_ok blind_ensure (run_ensure gone)).trans ?_
    refine (Passive.run_ok watches_endpointsAbsent (run_endpointsAbsent s)).trans ?_
    rw [intends.vetted.snapshot]
    rfl
  · rw [if_neg gone]
    refine Passive.run_error blind_ensure ?_
    unfold ensure
    rw [if_neg gone]
    rfl

theorem Intends.run_configForLookup :
    scene.run provider (provider.configForLookup (.id expected.id)) s =
      (some (.ok (some config)), s) := by
  have same : config.id = expected.id := congrArg ProviderVm.id intends.vetted.snapshot
  have found : lookupMatches config (.id expected.id) = true := by
    simp [lookupMatches, same]
  unfold configForLookup
  rw [intends.located]
  have present : scene.run provider
      (look (.metadata (QemuVmConfig.configPath expected.configurationPath))) s =
        (some (.ok Presence.present), s) := by
    change (some (Except.ok (if (s.files _).isSome then Presence.present else .absent)), s) = _
    rw [intends.stored]
    rfl
  refine (Passive.run_ok (watches_look (by trivial)) present).trans ?_
  have read : scene.run provider
      (provider.readConfig (QemuVmConfig.configPath expected.configurationPath)) s =
        (some (.ok config), s) :=
    Passive.run_ok watches_readConfigSnapshot (run_read intends.stored intends.decoded)
  have watches : Watches (provider.readConfig (QemuVmConfig.configPath
      expected.configurationPath)) := watches_readConfigSnapshot.bind fun _ => Passive.pure
  refine (Passive.run_ok watches read).trans ?_
  rw [found]
  rfl

theorem Intends.inspected : (scene.run provider (provider.inspectVm (.id expected.id)) s).1 =
    some (.ok (some expected)) ↔ Gone provider config s := by
  have watches : Watches (provider.configForLookup (.id expected.id)) := watches_configForLookup
  have runs : scene.run provider (provider.inspectVm (.id expected.id)) s =
      scene.run provider (provider.inspectConfig config >>= fun vm => pure (some vm)) s :=
    Passive.run_ok watches intends.run_configForLookup
  have ends := intends.run_inspectConfig
  by_cases gone : Gone provider config s
  · rw [if_pos gone] at ends
    rw [runs.trans (Passive.run_ok watches_inspectConfig ends)]
    exact iff_of_true rfl gone
  · rw [if_neg gone] at ends
    rw [runs.trans (Passive.run_error watches_inspectConfig ends)]
    exact iff_of_false (fun same => by cases same) gone

theorem Intends.launches (gone : Gone provider config s) :
    scene.Launches provider (provider.startVm authority expected) s := by
  have unlaunched : scene.run provider (proveNothingLaunched config) s = (some (.ok ()), s) := by
    unfold proveNothingLaunched
    rw [if_pos intends.pending]
    change scene.run provider (ensure (Gone provider config s) _) s = _
    exact run_ensure gone
  refine Startable.launches ⟨intends.vetted, intends.stored, intends.decoded, unlaunched, ?_⟩
  rw [intends.recorded]
  exact intends.decoded

theorem Intends.removed (gone : Gone provider config s) :
    ∃ t, scene.run provider (provider.removeVm authority expected) s = (some (.ok ()), t) ∧
      t.files (QemuVmConfig.configPath expected.configurationPath) = none := by
  have vetted := intends.vetted
  have empty : scene.run provider (proveIntentEmpty config) s = (some (.ok ()), s) := by
    unfold proveIntentEmpty
    rw [if_pos intends.pending]
    change scene.run provider (ensure (Gone provider config s) _) s = _
    exact run_ensure gone
  have unanswered : scene.run provider
      (attempt (ask (.connectQmp config.qmp (millis 50)) id : Qemu Unit) :
        Qemu (Except ProviderError Unit)) s =
      (some (.ok (.error QemuScene.unanswered)), s) := rfl
  have exited : scene.run provider (provider.proveReceiptGone config) s = (some (.ok ()), s) := by
    unfold proveReceiptGone
    rw [intends.unrecorded]
    rfl
  refine ⟨⟨Function.update s.files (QemuVmConfig.configPath expected.configurationPath) none,
    s.live⟩, ?_, Function.update_self _ _ _⟩
  refine (Passive.run_ok blind_authorized (vetted.authorized s)).trans ?_
  refine (Passive.run_ok blind_ensure (run_ensure vetted.off)).trans ?_
  refine (Passive.run_ok watches_readConfigSnapshot
    (run_read intends.stored intends.decoded)).trans ?_
  refine (Passive.run_ok blind_authorizeConfig (vetted.defined s)).trans ?_
  refine (Passive.run_ok blind_lift (run_matching vetted)).trans ?_
  refine (Passive.run_ok watches_proveIntentEmpty empty).trans ?_
  refine (Passive.run_ok (watches_ask (by trivial)).attempt unanswered).trans ?_
  refine (Passive.run_ok watches_proveReceiptGone exited).trans ?_
  refine (Passive.run_ok watches_endpointsAbsent (run_endpointsAbsent s)).trans ?_
  refine (Passive.run_ok watches_validatePinned
    (run_validatePinned intends.stored rfl intends.decoded)).trans ?_
  rfl

/-- All of it rests on what the executor can say of a launch without a receipt. -/
theorem Intends.recovers : Recovers scene provider authority expected s ↔
    Gone provider config s := by
  constructor
  · intro recovers
    exact intends.inspected.mp recovers.inspected
  · intro gone
    exact ⟨intends.inspected.mpr gone, intends.launches gone, intends.removed gone⟩

end Recovery

section Main

/-- A start that comes to its spawn and fails there, with nothing left alive: the
machine is reported off, can be started and can be removed again on Windows, and
on no other host. -/
theorem failed_launch_recovers_iff (scene : QemuScene) (provider : QemuProvider)
    (authority : ProviderMutationAuthority) (expected : ProviderVm) {s : QemuHost}
    {e : ProviderError}
    (located : provider.lookupPath (.id expected.id) =
      some (QemuVmConfig.configPath expected.configurationPath))
    (fresh : ∀ name, newQemuJobName provider.host scene.newUuid = some name →
      ∀ p ∈ s.live, p.job ≠ some name)
    (fails : scene.spawn = .error e)
    (launches : scene.Launches provider (provider.startVm authority expected) s) :
    (scene.run provider (provider.startVm authority expected) s).1 = some (.error e) ∧
      (Recovers scene provider authority expected
        (scene.run provider (provider.startVm authority expected) s).2 ↔
          provider.host = .windows) := by
  obtain ⟨document, config, startable⟩ := startable_of_launches launches
  rw [startable.run_failed fails]
  refine ⟨rfl, ?_⟩
  have intends : Intends scene provider authority expected (scene.intent provider config)
      (rewritten provider s (QemuVmConfig.configPath expected.configurationPath)
        (scene.intent provider config)) :=
    ⟨startable.vetted.intent, rfl, rewritten_file, startable.intended, located⟩
  rw [intends.recovers, Gone, processTreeAbsenceProven_none]
  constructor
  · exact fun gone => gone.1
  · intro windows
    have named : newQemuJobName provider.host scene.newUuid =
        some ("Local\\vmcell-qemu-" ++ scene.newUuid.toText) := by
      rw [windows]
      rfl
    refine ⟨windows, _, named, ?_⟩
    simp only [jobIsEmptyOrMissing, Bool.not_eq_true', List.any_eq_false, decide_eq_true_eq]
    exact fresh _ named

end Main

namespace Exemplar

def missingProgram : ProviderError := .command "failed to start QEMU: no such file"

/-- A start of the claimed machine whose program is missing. -/
def failedStart (host : HostOs) : Option (Except ProviderError Unit) × QemuHost :=
  (scene (.error missingProgram)).run (qemu host) ((qemu host).startVm qemuAuthority claimedMachine)
    (claimedHost host)

def spawning : Proc qemuSignature (Except ProviderError Unit) → Bool
  | .call (.spawnVm ..) _ => true
  | _ => false

/-- The start comes to its spawn. -/
theorem start_launches (host : HostOs)
    (stands : spawning (Proc.drive ((scene (.error missingProgram)).handler (qemu host)) 14
      ((qemu host).startVm qemuAuthority claimedMachine) (claimedHost host)).1 = true) :
    (scene (.error missingProgram)).Launches (qemu host)
      ((qemu host).startVm qemuAuthority claimedMachine) (claimedHost host) := by
  refine Leads.of_drive 14 ?_
  revert stands
  cases (Proc.drive ((scene (.error missingProgram)).handler (qemu host)) 14
    ((qemu host).startVm qemuAuthority claimedMachine) (claimedHost host)).1 with
  | call op next =>
      cases op with
      | spawnVm path program args jobName digest => exact fun _ => Or.inl trivial
      | _ =>
          intro stands
          cases stands
  | _ =>
      intro stands
      cases stands

end Exemplar

/-- The program is missing on a Windows host. -/
theorem failed_launch_recovers_on_windows :
    (Exemplar.failedStart .windows).1 = some (.error Exemplar.missingProgram) ∧
      Recovers (Exemplar.scene (.error Exemplar.missingProgram)) (Exemplar.qemu .windows)
        Exemplar.qemuAuthority Exemplar.claimedMachine (Exemplar.failedStart .windows).2 := by
  have unspawned : (Exemplar.claimedHost .windows).live = [] := by decide +kernel
  have fresh : ∀ name, newQemuJobName .windows (Exemplar.uuid 8) = some name →
      ∀ p ∈ (Exemplar.claimedHost .windows).live, p.job ≠ some name := by
    intro name _ p alive
    rw [unspawned] at alive
    cases alive
  have holds := failed_launch_recovers_iff (Exemplar.scene (.error Exemplar.missingProgram))
    (Exemplar.qemu .windows) Exemplar.qemuAuthority Exemplar.claimedMachine (by decide +kernel)
    fresh rfl (Exemplar.start_launches .windows (by decide +kernel))
  exact ⟨holds.1, holds.2.mpr rfl⟩

/-- The program is missing on a Linux host: the start fails without a process, and
the machine is not reported off any more. -/
theorem failed_launch_stays_on_linux :
    (Exemplar.failedStart .linux).1 = some (.error Exemplar.missingProgram) ∧
      (Exemplar.failedStart .linux).2.live = [] ∧
      ¬Recovers (Exemplar.scene (.error Exemplar.missingProgram)) (Exemplar.qemu .linux)
        Exemplar.qemuAuthority Exemplar.claimedMachine (Exemplar.failedStart .linux).2 := by
  refine ⟨by decide +kernel, by decide +kernel, fun recovers => ?_⟩
  have refused : ((Exemplar.scene (.error Exemplar.missingProgram)).run (Exemplar.qemu .linux)
      ((Exemplar.qemu .linux).inspectVm (.id Exemplar.claimedMachine.id))
      (Exemplar.failedStart .linux).2).1.any (fun result => result.isOk) = false := by
    decide +kernel
  rw [recovers.inspected] at refused
  cases refused

end VmCell
