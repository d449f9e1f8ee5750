import VmCell.Properties.Launch

/-! The stored configuration of a machine stays readable.

A replacement is checked only after it has taken the place of the file. Every
configuration that a verb hands over passes that check, so that the file can be
read again wherever a verb is killed.
-/

set_option autoImplicit false
namespace VmCell

open Interaction Fallible QemuHost

namespace QemuProvider
variable {provider : QemuProvider}

/-- A spawn reports a start token and the digest of the executable. -/
def QemuOp.Documented : (op : QemuOp) → op.Reply → Prop
  | .spawnVm .., reply => ∀ receipt, reply = .ok receipt →
      receipt.processStartToken ≠ 0 ∧
        QemuVmConfig.isHexDigest receipt.executableSha256 = true
  | _, _ => True

/-- A host whose executor gives such receipts. -/
def documented (provider : QemuProvider) : Effects qemuSignature QemuHost := fun op s reply t =>
  QemuOp.Effect provider.encoders op s reply t ∧ QemuOp.Documented op reply

/-- The configuration passes its check at the path, and an intent excludes a receipt. -/
structure Sane (provider : QemuProvider) (path : PathBuf) (config : QemuVmConfig) : Prop where
  valid : config.validate provider.host provider.encoders path = .ok ()
  single : ¬(config.spawnPending = true ∧ config.processId.isSome = true)

section Writers
variable {path : PathBuf} {config : QemuVmConfig}

theorem validate_ok {host : HostOs} {encoders : Encoders} :
    config.validate host encoders path = .ok () ↔
      config.definitionIsValid host encoders path = true ∧ config.receiptIsValid host = true := by
  unfold QemuVmConfig.validate
  split
  · rename_i both
    exact ⟨fun _ => Bool.and_eq_true_iff.mp both, fun _ => rfl⟩
  · rename_i broken
    constructor
    · intro done
      cases done
    · intro both
      exact absurd (Bool.and_eq_true_iff.mpr both) broken

/-- The launch is no part of the definition but for the schema. -/
theorem definition_launchIntent {host : HostOs} {encoders : Encoders} {jobName : Option String}
    (valid : config.definitionIsValid host encoders path = true) :
    (launchIntent config jobName).definitionIsValid host encoders path = true := by
  have digest : launchDigest encoders (launchIntent config jobName) =
      launchDigest encoders config := rfl
  simp only [QemuVmConfig.definitionIsValid, Bool.and_eq_true, digest] at valid ⊢
  obtain ⟨⟨⟨⟨⟨⟨⟨⟨⟨⟨⟨⟨⟨⟨⟨_, a⟩, b⟩, c⟩, d⟩, e⟩, f⟩, g⟩, h⟩, i⟩, j⟩, k⟩, l⟩, m⟩, n⟩, o⟩ := valid
  exact ⟨⟨⟨⟨⟨⟨⟨⟨⟨⟨⟨⟨⟨⟨⟨rfl, a⟩, b⟩, c⟩, d⟩, e⟩, f⟩, g⟩, h⟩, i⟩, j⟩, k⟩, l⟩, m⟩, n⟩, o⟩

theorem stripPrefix_append (start text : String) :
    stripPrefix start (start ++ text) = some text := by
  unfold stripPrefix
  simp

/-- A new job name is there exactly on Windows, and is read back. -/
theorem newQemuJobName_valid {host : HostOs} {value : Uuid} :
    (host = .windows ∧ ∃ name, newQemuJobName host value = some name ∧
      ((stripPrefix "Local\\vmcell-qemu-" name).bind Uuid.parseStr).isSome = true) ∨
      (host ≠ .windows ∧ newQemuJobName host value = none) := by
  cases host with
  | windows =>
      refine Or.inl ⟨rfl, _, rfl, ?_⟩
      rw [stripPrefix_append, Option.bind_some, Uuid.parseStr_toText]
      rfl
  | linux => exact Or.inr ⟨by decide, rfl⟩
  | macos => exact Or.inr ⟨by decide, rfl⟩
  | other => exact Or.inr ⟨by decide, rfl⟩

theorem qemuJobReceiptIsValid_of_job {host : HostOs} {value : Uuid}
    (job : config.processJobName = newQemuJobName host value)
    (schema : config.schemaVersion = qemuConfigSchema)
    (needed : (config.spawnPending || config.processId.isSome) = true) :
    config.qemuJobReceiptIsValid host = true := by
  unfold QemuVmConfig.qemuJobReceiptIsValid
  rcases @newQemuJobName_valid host value with ⟨rfl, name, new, reads⟩ | ⟨other, new⟩
  · have modern : ¬config.schemaVersion = qemuLegacyConfigSchema := by
      rw [schema]
      decide
    simp [modern, job, new, needed, reads]
  · rw [job, new]
    cases host with
    | windows => exact absurd rfl other
    | linux => rfl
    | macos => rfl
    | other => rfl

theorem receipt_launchIntent {host : HostOs} {value : Uuid} :
    (launchIntent config (newQemuJobName host value)).receiptIsValid host = true := by
  have job : (launchIntent config (newQemuJobName host value)).qemuJobReceiptIsValid host = true :=
    qemuJobReceiptIsValid_of_job rfl rfl rfl
  have modern : ¬(launchIntent config (newQemuJobName host value)).schemaVersion =
      qemuLegacyConfigSchema := by
    change ¬qemuConfigSchema = qemuLegacyConfigSchema
    decide
  simp only [QemuVmConfig.receiptIsValid, job, modern]
  rfl

theorem receipt_launchReceipt {host : HostOs} {value : Uuid} {receipt : QemuSpawnReceipt}
    (token : receipt.processStartToken ≠ 0)
    (digest : QemuVmConfig.isHexDigest receipt.executableSha256 = true) :
    (launchReceipt (launchIntent config (newQemuJobName host value)) receipt).receiptIsValid
      host = true := by
  have job : (launchReceipt (launchIntent config (newQemuJobName host value))
      receipt).qemuJobReceiptIsValid host = true := qemuJobReceiptIsValid_of_job rfl rfl rfl
  have modern : ¬(launchReceipt (launchIntent config (newQemuJobName host value))
      receipt).schemaVersion = qemuLegacyConfigSchema := by
    change ¬qemuConfigSchema = qemuLegacyConfigSchema
    decide
  simp only [QemuVmConfig.receiptIsValid, job, modern]
  simp [launchReceipt, token, digest]

theorem receipt_withoutReceipt {host : HostOs} :
    (withoutReceipt config).receiptIsValid host = true := by
  have job : (withoutReceipt config).qemuJobReceiptIsValid host = true := by
    unfold QemuVmConfig.qemuJobReceiptIsValid
    cases host with
    | windows =>
        simp [withoutReceipt]
    | linux => rfl
    | macos => rfl
    | other => rfl
  simp only [QemuVmConfig.receiptIsValid, job]
  simp [withoutReceipt]

theorem Sane.launchIntent {value : Uuid} (sane : Sane provider path config) :
    Sane provider path (launchIntent config (newQemuJobName provider.host value)) where
  valid := validate_ok.mpr ⟨definition_launchIntent (validate_ok.mp sane.valid).1,
    receipt_launchIntent⟩
  single := fun both => by cases both.2

theorem Sane.launchReceipt {value : Uuid} {receipt : QemuSpawnReceipt}
    (sane : Sane provider path config) (token : receipt.processStartToken ≠ 0)
    (digest : QemuVmConfig.isHexDigest receipt.executableSha256 = true) :
    Sane provider path (QemuProvider.launchReceipt
      (QemuProvider.launchIntent config (newQemuJobName provider.host value)) receipt) where
  valid := by
    have intent : (QemuProvider.launchIntent config
        (newQemuJobName provider.host value)).definitionIsValid provider.host provider.encoders
        path = true := definition_launchIntent (validate_ok.mp sane.valid).1
    exact validate_ok.mpr ⟨intent, receipt_launchReceipt token digest⟩
  single := fun both => by cases both.1

theorem Sane.withoutReceipt (sane : Sane provider path config) :
    Sane provider path (withoutReceipt config) where
  valid := validate_ok.mpr ⟨(validate_ok.mp sane.valid).1, receipt_withoutReceipt⟩
  single := fun both => by cases both.1

end Writers

section Readable
variable {path : PathBuf} {config : QemuVmConfig} {s t : QemuHost}

/-- The file is there and reads as a configuration whose intent excludes a receipt. -/
def Readable (provider : QemuProvider) (path : PathBuf) (s : QemuHost) : Prop :=
  ∃ document config, s.files path = some document ∧
    decodeQemuConfig provider.host provider.encoders path document = .ok config ∧
    ¬(config.spawnPending = true ∧ config.processId.isSome = true)

/-- What a verb may write: only sane configurations to the one path. -/
def Writable (provider : QemuProvider) (path : PathBuf) : QemuOp → QemuHost → Prop
  | .stage other config, _ => other = path ∧ Sane provider path config
  | .replaceFileAtomic other config, _ => other = path ∧ Sane provider path config ∧
      (provider.encoders.toVecPretty config).length ≤ qemuConfigMaxBytes
  | .writeConfigNew .., _ | .removeExactFile _, _ => False
  | _, _ => True

theorem lasting_readable : Lasting (provider.Readable path) := by
  rintro s t quiet ⟨document, config, stored, rest⟩
  refine ⟨document, config, ?_, rest⟩
  rw [quiet.1]
  exact stored

theorem Sane.readable (sane : Sane provider path config)
    (small : (provider.encoders.toVecPretty config).length ≤ qemuConfigMaxBytes)
    (stored : s.files path = some (.of provider.encoders config)) : provider.Readable path s := by
  refine ⟨_, config, stored, decodeQemuConfig_ok.mpr ⟨small, rfl, ?_⟩, sane.single⟩
  exact validate_ok.mp sane.valid

theorem Readable.step {op : QemuOp} {reply : op.Reply} (readable : provider.Readable path s)
    (writable : provider.Writable path op s) (effect : provider.documented op s reply t) :
    provider.Readable path t := by
  obtain ⟨effect, _⟩ := effect
  by_cases looks : op.Looks
  · exact lasting_readable (looks.quiet effect) readable
  · cases op
    case writeConfigNew => exact writable.elim
    case removeExactFile => exact writable.elim
    case stage => exact lasting_readable effect.1 readable
    case replaceFileAtomic other config =>
        obtain ⟨_, quiet⟩ | writes := effect
        · exact lasting_readable quiet readable
        · obtain ⟨rfl, sane, small⟩ := writable
          refine sane.readable small ?_
          rw [writes.1, Function.update_self]
    case spawnVm =>
        obtain ⟨document, config, stored, rest⟩ := readable
        refine ⟨document, config, ?_, rest⟩
        rw [effect.1]
        exact stored
    all_goals exact absurd trivial looks

/-- What is read of a readable file is sane. -/
theorem Readable.sane {document : Document} (readable : provider.Readable path s)
    (stored : s.files path = some document)
    (decoded : decodeQemuConfig provider.host provider.encoders path document = .ok config) :
    Sane provider path config := by
  obtain ⟨other, found, same, reads, single⟩ := readable
  obtain rfl := Option.some.inj (stored.symm.trans same)
  obtain rfl := Except.ok.inj (decoded.symm.trans reads)
  exact ⟨validate_ok.mpr (decodeQemuConfig_ok.mp decoded).2.2, single⟩

/-- Receipts as documented, and only sane configurations written. -/
def writers (provider : QemuProvider) (path : PathBuf) : Regime provider where
  effects := provider.documented
  permitted := provider.Writable path
  effect := fun step => step.1
  looks := by
    intro op s looks
    cases op
    case writeConfigNew => exact looks.elim
    case stage => exact looks.elim
    case replaceFileAtomic => exact looks.elim
    case removeExactFile => exact looks.elim
    case spawnVm => exact looks.elim
    all_goals trivial

theorem watched {A : Type} {p : Qemu A} (watches : Watches p) :
    (writers provider path).Guarded (fun _ _ => True) p s :=
  Regime.watches watches lasting_true trivial

theorem watched_past {A B : Type} {p : Qemu A} {f : A → Qemu B} (watches : Watches p)
    (rest : ∀ a t, (writers provider path).Guarded (fun _ _ => True) (f a) t) :
    (writers provider path).Guarded (fun _ _ => True) (p >>= f) s :=
  Regime.past watches lasting_true trivial fun a t _ => rest a t

theorem Sane.replaces {snapshot : QemuConfigSnapshot} (sane : Sane provider path config) :
    (writers provider path).Guarded (fun _ _ => True)
      (provider.replaceConfig path snapshot config) s := by
  refine Within.weaken (Regime.replaces lasting_true trivial ?_ ?_ (fun _ _ => trivial)
    lasting_true) (fun _ _ _ => trivial) fun _ _ _ => trivial
  · exact fun _ => ⟨rfl, sane⟩
  · exact fun _ small => ⟨rfl, sane, small⟩

end Readable

section Verbs
variable {path : PathBuf} {config : QemuVmConfig} {s : QemuHost} {snapshot : QemuConfigSnapshot}
  {authority : ProviderMutationAuthority}

theorem opens_sane {A : Type} {check : Platform → Filesystem → Except ProviderError Unit}
    {f : QemuConfigSnapshot → Qemu A} (readable : provider.Readable path s)
    (rest : ∀ snapshot t, (∃ fs, check provider.host.platform fs = .ok ()) →
      Sane provider path snapshot.config →
      (writers provider path).Guarded (fun _ _ => True) (f snapshot) t) :
    (writers provider path).Guarded (fun _ _ => True)
      (do provider.authorized check
          let snapshot ← provider.readConfigSnapshot path
          f snapshot) s := by
  refine Regime.opens lasting_readable readable fun snapshot t passed found => ?_
  obtain ⟨readable, document, stored, decoded⟩ := found
  exact rest snapshot t passed (readable.sane stored decoded)

theorem claimVm_writes {request : ClaimVmRequest}
    (here : QemuVmConfig.configPath request.expected.configurationPath = path)
    (readable : provider.Readable path s) :
    (writers provider path).Guarded (fun _ _ => True) (provider.claimVm authority request) s := by
  subst here
  refine opens_sane readable fun snapshot a _ sane => ?_
  refine watched_past watches_authorizeConfig fun _ b => watched_past Passive.lift fun _ c => ?_
  refine watched_past watches_ensure fun _ d => ?_
  have marked : Sane provider (QemuVmConfig.configPath request.expected.configurationPath)
      { snapshot.config with ownershipMarker := request.ownershipMarker } :=
    ⟨sane.valid, sane.single⟩
  refine Within.bind (Within.weaken marked.replaces ?_ fun _ _ _ => trivial)
  exact fun _ e _ => watched watches_inspectConfig

theorem digest_of_valid {host : HostOs} {encoders : Encoders}
    (valid : config.definitionIsValid host encoders path = true) :
    config.commandSha256 = launchDigest encoders config := by
  simp only [QemuVmConfig.definitionIsValid, Bool.and_eq_true, decide_eq_true_eq] at valid
  exact valid.2

/-- The processors that are configured are those of the definition. -/
theorem configured_same {fs : Filesystem} {other : Filesystem} {request : ConfigureVmRequest}
    {platform : Platform} {requireMarker : Bool}
    (requested : authority.validateConfigureRequest platform fs request = .ok ())
    (defined : authority.validateQemuDefinition platform other config requireMarker = .ok ()) :
    request.cpuCount = config.cpuCount := by
  simp only [ProviderMutationAuthority.validateConfigureRequest, bind_unit_ok, authorize_ok,
    Bool.and_eq_true, decide_eq_true_eq] at requested
  simp only [ProviderMutationAuthority.validateQemuDefinition, bind_unit_ok, authorize_ok,
    Bool.and_eq_true, decide_eq_true_eq] at defined
  rw [requested.2.1.1.1.1.2, defined.2.1.1.2]

theorem configureVm_writes {request : ConfigureVmRequest}
    (here : QemuVmConfig.configPath request.expected.configurationPath = path)
    (readable : provider.Readable path s) :
    (writers provider path).Guarded (fun _ _ => True)
      (provider.configureVm authority request) s := by
  subst here
  refine opens_sane readable fun snapshot a requested sane => ?_
  obtain ⟨fs, requested⟩ := requested
  refine Within.bind (Within.weaken (@Regime.authorizes provider _ _ _
    (fun platform fs => authority.validateQemuDefinition platform fs snapshot.config true)
    lasting_true trivial) ?_ fun _ _ _ => trivial)
  rintro _ b ⟨_, other, defined⟩
  refine watched_past Passive.lift fun _ c => ?_
  have cpus := configured_same requested defined
  have digest := digest_of_valid (validate_ok.mp sane.valid).1
  -- neither the processors nor the digest change
  have unchanged : ({ ({ snapshot.config with cpuCount := request.cpuCount } : QemuVmConfig) with
      commandSha256 := launchDigest provider.encoders
        { snapshot.config with cpuCount := request.cpuCount } } : QemuVmConfig) =
      snapshot.config := by
    rw [cpus, ← digest]
  have configured : Sane provider (QemuVmConfig.configPath request.expected.configurationPath)
      { ({ snapshot.config with cpuCount := request.cpuCount } : QemuVmConfig) with
        commandSha256 := launchDigest provider.encoders
          { snapshot.config with cpuCount := request.cpuCount } } := by
    rw [unchanged]
    exact sane
  refine Within.bind (Within.weaken configured.replaces ?_ fun _ _ _ => trivial)
  exact fun _ d _ => watched watches_inspectConfig

theorem launch_writes (sane : Sane provider path config) :
    (writers provider path).Guarded (fun _ _ => True)
      (provider.launch path snapshot config) s := by
  refine watched_past (watches_look (by trivial)) fun (value : Uuid) a => ?_
  refine Within.bind (Within.weaken (Sane.replaces sane.launchIntent) ?_ fun _ _ _ => trivial)
  intro _ b _
  refine Within.bind (Within.effect trivial ?_)
  rintro (error | receipt) c ⟨_, documented⟩
  · trivial
  obtain ⟨token, digest⟩ := documented receipt rfl
  refine watched_past watches_readConfigSnapshot fun _ d => watched_past watches_ensure fun _ e => ?_
  refine watched_past watches_ensure fun _ f => watched_past watches_ensure fun _ g => ?_
  refine Within.bind (Within.weaken (Sane.replaces (sane.launchReceipt token digest)) ?_
    fun _ _ _ => trivial)
  exact fun _ h _ => watched_past (watches_ask (by trivial)) fun _ i => trivial

theorem startVm_writes {expected : ProviderVm}
    (here : QemuVmConfig.configPath expected.configurationPath = path)
    (readable : provider.Readable path s) :
    (writers provider path).Guarded (fun _ _ => True) (provider.startVm authority expected) s := by
  subst here
  refine opens_sane readable fun snapshot a _ sane => ?_
  refine watched_past watches_authorizeConfig fun _ b => watched_past Passive.lift fun _ c => ?_
  refine watched_past watches_validateOverlayChain fun _ d => watched_past watches_ensure fun _ e => ?_
  refine Within.ite (fun _ => ?_) fun _ => ?_
  · refine watched_past watches_endpointsAbsent fun _ f => ?_
    refine watched_past watches_proveNothingLaunched fun _ g => ?_
    refine Within.bind (Within.weaken (launch_writes sane) ?_ fun _ _ _ => trivial)
    exact fun _ h _ => watched watches_continueVm
  · exact watched_past watches_ensure fun _ f => watched watches_continueVm

theorem awaitExit_writes {processId startToken rounds : Nat} {forced : Bool}
    (sane : Sane provider path config) :
    (writers provider path).Guarded (fun _ _ => True)
      (provider.awaitExit path snapshot config processId startToken rounds forced) s := by
  induction rounds generalizing s forced with
  | zero => exact Within.hang
  | succ rounds ih =>
      refine watched_past (watches_ask (by trivial)).attempt fun connected a => ?_
      refine watched_past watches_processExited fun gone b => ?_
      refine Within.ite (fun _ => ?_) fun _ => ?_
      · refine watched_past (watches_look (by trivial)) fun (empty : Bool) c => ?_
        refine Within.ite (fun _ => ?_) fun _ => Within.ite (fun _ => trivial) fun _ => ?_
        · exact watched_past watches_endpointsAbsent fun _ d => sane.withoutReceipt.replaces
        · exact watched_past (watches_ask (by trivial)) fun _ d => ih
      · refine watched_past (watches_look (by trivial)) fun (passed : Bool) c => ?_
        refine Within.ite (fun _ => Within.ite (fun _ => ?_) fun _ => trivial) fun _ => ih
        exact watched_past (watches_ask (by trivial)) fun _ d => ih

theorem stopVm_writes {rounds : Nat} {expected : ProviderVm}
    (here : QemuVmConfig.configPath expected.configurationPath = path)
    (readable : provider.Readable path s) :
    (writers provider path).Guarded (fun _ _ => True)
      (provider.stopVm rounds authority expected) s := by
  subst here
  refine opens_sane readable fun snapshot a _ sane => ?_
  refine watched_past watches_authorizeConfig fun _ b => watched_past Passive.lift fun _ c => ?_
  split
  · trivial
  · refine watched_past watches_recoveringExactTree fun recovering d => ?_
    refine Within.ite (fun _ => ?_) fun _ => ?_
    · exact watched_past (watches_ask (by trivial)) fun _ e => awaitExit_writes sane
    · refine watched_past (watches_ask (by trivial)) fun _ e => ?_
      refine watched_past watches_negotiateQmp fun _ f => ?_
      exact watched_past (watches_ask (by trivial)) fun _ g => awaitExit_writes sane

end Verbs

section Creation
variable {s : QemuHost}

/-- Receipts as documented, and nothing forbidden. -/
def unrestricted (provider : QemuProvider) : Regime provider where
  effects := provider.documented
  permitted := fun _ _ => True
  effect := fun step => step.1
  looks := fun _ => trivial

theorem createVm_readable {authority : ProviderMutationAuthority} {request : CreateVmRequest} :
    (unrestricted provider).Guarded
      (fun _ t => provider.Readable (QemuVmConfig.configPath request.configurationPath) t)
      (provider.createVm authority request) s := by
  refine Regime.past watches_authorized lasting_true trivial fun _ a _ => ?_
  split
  · trivial
  · rename_i value _
    refine Regime.past (watches_ask (by trivial)) lasting_true trivial fun _ b _ => ?_
    refine Regime.past (watches_look (by trivial)) lasting_true trivial
      fun (taken : Bool) c _ => ?_
    refine Regime.past watches_ensure lasting_true trivial fun _ d _ => ?_
    refine Regime.past watches_selectAccelerator lasting_true trivial fun accelerator e _ => ?_
    refine Within.bind (Within.lift (fun _ valid => ?_) fun _ _ => trivial)
    refine Within.bind (Within.effect trivial ?_)
    rintro (error | _) f ⟨effect, _⟩
    · trivial
    have sane : Sane provider (QemuVmConfig.configPath request.configurationPath)
        (provider.newConfig request value.toText accelerator) :=
      ⟨valid, fun both => by cases both.1⟩
    rcases effect with ⟨⟨error, failed⟩, _⟩ | ⟨_, document, writes, written⟩
    · cases failed
    · obtain ⟨rfl, small⟩ := written rfl
      refine sane.readable small ?_
      rw [writes.1, Function.update_self]

end Creation

end QemuProvider

/-- The verb works on the configuration at the path, which it neither creates nor
removes. -/
def QemuVerb.Concerns (path : PathBuf) : QemuVerb → Prop
  | .createVm .. | .removeVm .. => False
  | .claimVm _ request => QemuVmConfig.configPath request.expected.configurationPath = path
  | .configureVm _ request => QemuVmConfig.configPath request.expected.configurationPath = path
  | .inspectVm _ => True
  | .startVm _ expected | .stopVm _ _ expected =>
      QemuVmConfig.configPath expected.configurationPath = path

section Main
open QemuProvider

/-- The verbs on one configuration as programs of a session. -/
def QemuProvider.VerbsOn (provider : QemuProvider) (path : PathBuf)
    (p : Proc qemuSignature (Except ProviderError QemuOutcome)) : Prop :=
  ∃ verb : QemuVerb, verb.Concerns path ∧ p = provider.perform verb

theorem perform_writes {provider : QemuProvider} {path : PathBuf} {s : QemuHost} {verb : QemuVerb}
    (concerns : verb.Concerns path) (readable : provider.Readable path s) :
    (writers provider path).Guarded (fun _ _ => True) (provider.perform verb) s := by
  cases verb with
  | createVm authority request => exact concerns.elim
  | removeVm authority expected => exact concerns.elim
  | claimVm authority request =>
      refine Within.bind (Within.weaken (claimVm_writes concerns readable) ?_ fun _ _ _ => trivial)
      exact fun _ _ _ => trivial
  | configureVm authority request =>
      refine Within.bind (Within.weaken (configureVm_writes concerns readable) ?_
        fun _ _ _ => trivial)
      exact fun _ _ _ => trivial
  | inspectVm lookup =>
      refine watched_past watches_inspectVm fun found t => ?_
      cases found <;> trivial
  | startVm authority expected =>
      refine Within.bind (Within.weaken (startVm_writes concerns readable) ?_ fun _ _ _ => trivial)
      exact fun _ _ _ => trivial
  | stopVm rounds authority expected =>
      refine Within.bind (Within.weaken (stopVm_writes concerns readable) ?_ fun _ _ _ => trivial)
      exact fun _ _ _ => trivial

/-- From the creation of a machine on, every configuration that a verb hands over
to be written passes the check for its path and has not both an intent and a
receipt, and wherever a verb stands the file can be read. -/
theorem configuration_stays_readable (provider : QemuProvider)
    {authority : ProviderMutationAuthority} {request : CreateVmRequest}
    {identity : ProviderVmIdentity} {origin created s t : QemuHost}
    {operation rest : Proc qemuSignature (Except ProviderError QemuOutcome)}
    (creates : (provider.createVm authority request).Runs provider.documented origin
      (.ok identity) created)
    (session : Session provider.documented
      (provider.VerbsOn (QemuVmConfig.configPath request.configurationPath)) created s)
    (verb : provider.VerbsOn (QemuVmConfig.configPath request.configurationPath) operation)
    (comes : operation.Comes provider.documented s rest t) :
    (∀ path config next, rest = .call (.stage path config) next →
        path = QemuVmConfig.configPath request.configurationPath ∧
        config.validate provider.host provider.encoders path = .ok () ∧
        ¬(config.spawnPending = true ∧ config.processId.isSome = true)) ∧
      (∀ path config next, rest = .call (.replaceFileAtomic path config) next →
        path = QemuVmConfig.configPath request.configurationPath ∧
        config.validate provider.host provider.encoders path = .ok () ∧
        ¬(config.spawnPending = true ∧ config.processId.isSome = true)) ∧
      ∃ document config, t.files (QemuVmConfig.configPath request.configurationPath) =
          some document ∧
        decodeQemuConfig provider.host provider.encoders
          (QemuVmConfig.configPath request.configurationPath) document = .ok config ∧
        ¬(config.spawnPending = true ∧ config.processId.isSome = true) := by
  have initially : provider.Readable (QemuVmConfig.configPath request.configurationPath)
      created := by
    have ends : Ends (fun _ t => provider.Readable
        (QemuVmConfig.configPath request.configurationPath) t) (fun _ _ => True)
        (.ok identity) created := Held.runs createVm_readable creates
    exact ends
  have obliged : ∀ p, provider.VerbsOn (QemuVmConfig.configPath request.configurationPath) p →
      ∀ s, provider.Readable (QemuVmConfig.configPath request.configurationPath) s →
      Held provider.documented
        (provider.Writable (QemuVmConfig.configPath request.configurationPath))
        (Ends (fun _ _ => True) fun _ _ => True) p s := by
    rintro _ ⟨verb, concerns, rfl⟩ s readable
    exact perform_writes concerns readable
  have preserved : ∀ {op s reply t},
      provider.Readable (QemuVmConfig.configPath request.configurationPath) s →
      provider.Writable (QemuVmConfig.configPath request.configurationPath) op s →
      provider.documented op s reply t →
      provider.Readable (QemuVmConfig.configPath request.configurationPath) t :=
    fun readable writable effect => readable.step writable effect
  have readable := session.invariant obliged preserved initially
  have held := obliged operation verb s readable
  have here := held.comes comes
  refine ⟨?_, ?_, held.kept preserved readable comes⟩
  · rintro path config next rfl
    obtain ⟨rfl, sane⟩ := here.1
    exact ⟨rfl, sane.valid, sane.single⟩
  · rintro path config next rfl
    obtain ⟨rfl, sane, _⟩ := here.1
    exact ⟨rfl, sane.valid, sane.single⟩

end Main

namespace Exemplar

theorem scene_documented (host : HostOs) (op : QemuOp) (s : QemuHost) :
    (qemu host).documented op s ((scene (.ok receipt)).answer (qemu host) op s).1
      ((scene (.ok receipt)).answer (qemu host) op s).2 := by
  refine ⟨(QemuScene.truthful op s).1, ?_⟩
  cases op
  case spawnVm path program args jobName digest =>
      rintro _ ⟨⟩
      exact ⟨by decide, by decide⟩
  all_goals trivial

/-- The creation of the machine on an empty host. -/
def creation (host : HostOs) :
    Proc qemuSignature (Except ProviderError ProviderVmIdentity) × QemuHost :=
  Proc.drive ((scene (.ok receipt)).handler (qemu host)) 99
    ((qemu host).createVm qemuAuthority createRequest) emptyHost

/-- The host after the machine has been created and claimed. -/
def readyHost (host : HostOs) : QemuHost :=
  (driven host (.ok receipt) claimVerb 99 (creation host).2).2

/-- The configuration that the program is about to put in place of the stored one. -/
def replacing : Proc qemuSignature (Except ProviderError QemuOutcome) → Option QemuVmConfig
  | .call (.replaceFileAtomic _ config) _ => some config
  | _ => none

end Exemplar

/-- The intent of the first start of a created and claimed machine, on Windows. -/
theorem configuration_stays_readable_at_first_start :
    ∃ config, Exemplar.replacing (Exemplar.driven .windows (.ok Exemplar.receipt)
        Exemplar.startVerb 12 (Exemplar.readyHost .windows)).1 = some config ∧
      config.spawnPending = true ∧
      config.validate .windows Exemplar.encoders Exemplar.configPath = .ok () := by
  have fits := Exemplar.scene_documented .windows
  have drive : ∀ verb steps s, ((Exemplar.qemu .windows).perform verb).Comes
      (Exemplar.qemu .windows).documented s
      (Exemplar.driven .windows (.ok Exemplar.receipt) verb steps s).1
      (Exemplar.driven .windows (.ok Exemplar.receipt) verb steps s).2 := fun verb steps s =>
    Proc.comes_drive fits steps
  have created : (Exemplar.creation .windows).1.value =
      some (.ok ⟨Exemplar.cellId.toText, providerObjectName Exemplar.cellId⟩) := by
    decide +kernel
  have creates := Proc.comes_drive fits 99 (p := (Exemplar.qemu .windows).createVm
    Exemplar.qemuAuthority Exemplar.createRequest) (s := Exemplar.emptyHost)
  change Proc.Comes _ _ _ (Exemplar.creation .windows).1 (Exemplar.creation .windows).2 at creates
  rw [Proc.value_some created] at creates
  have holds := configuration_stays_readable (Exemplar.qemu .windows) creates.runs
    (.next .refl ⟨Exemplar.claimVerb, rfl, rfl⟩ (drive Exemplar.claimVerb 99 _))
    ⟨Exemplar.startVerb, rfl, rfl⟩ (drive Exemplar.startVerb 12 (Exemplar.readyHost .windows))
  have pending : (Exemplar.replacing (Exemplar.driven .windows (.ok Exemplar.receipt)
      Exemplar.startVerb 12 (Exemplar.readyHost .windows)).1).any
        (fun config => config.spawnPending) = true := by
    decide +kernel
  obtain ⟨config, found, pending⟩ := (Option.any_eq_true _ _).mp pending
  refine ⟨config, found, pending, ?_⟩
  revert found
  have replaced := holds.2.1
  revert replaced
  cases (Exemplar.driven .windows (.ok Exemplar.receipt) Exemplar.startVerb 12
    (Exemplar.readyHost .windows)).1 with
  | call op next =>
      cases op with
      | replaceFileAtomic path written =>
          rintro replaced ⟨⟩
          obtain ⟨rfl, valid, _⟩ := replaced _ _ _ rfl
          exact valid
      | _ =>
          rintro _ ⟨⟩
  | _ => rintro _ ⟨⟩

end VmCell
