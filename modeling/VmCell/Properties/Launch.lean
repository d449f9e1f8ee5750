import VmCell.Properties.Authority
import VmCell.Provider.QemuSystem

/-! At most one process tree per configuration.

A live process is always accounted for by the file it was spawned for: by the
intent that was written before the spawn, or by the receipt written after it. The
file loses either of them only when nothing is alive.
-/

set_option autoImplicit false
namespace VmCell

open Interaction Fallible QemuHost

/-- The launch that the configuration records is the one the process belongs to. -/
def QemuVmConfig.Accounts (config : QemuVmConfig) (p : QemuProcess) : Prop :=
  p.job = config.processJobName ∧
    ((config.spawnPending = true ∧ config.processId = none) ∨
      (config.spawnPending = false ∧ config.processId = some p.group))

namespace QemuProvider
variable {provider : QemuProvider}

section Accounting
variable (provider)

def Accounted (s : QemuHost) : Prop :=
  ∀ p ∈ s.live, ∃ document, s.files p.home = some document ∧
    ∀ config, decodeQemuConfig provider.host provider.encoders p.home document = .ok config →
      config.Accounts p

/-- The replacement drops a receipt that the stored configuration has. -/
def Erases (path : PathBuf) (config : QemuVmConfig) (s : QemuHost) : Prop :=
  config.processId = none ∧ ∃ document stored, s.files path = some document ∧
    decodeQemuConfig provider.host provider.encoders path document = .ok stored ∧
    stored.processId ≠ none

/-- When the provider may make a request. -/
def Permitted : QemuOp → QemuHost → Prop
  | .spawnVm path _ _ jobName _, s =>
      s.Vacant path ∧ ∃ document, s.files path = some document ∧
        ∀ config, decodeQemuConfig provider.host provider.encoders path document = .ok config →
          config.spawnPending = true ∧ config.processId = none ∧ config.processJobName = jobName
  | .replaceFileAtomic path config, s =>
      (∀ p ∈ s.live, p.home = path → config.Accounts p) ∧
        (provider.Erases path config s → s.Vacant path)
  | .removeExactFile path, s => s.Vacant path
  | _, _ => True

/-- The file holds the configuration, and every live process is accounted for. -/
def Knows (path : PathBuf) (config : QemuVmConfig) (s : QemuHost) : Prop :=
  provider.Accounted s ∧ ∃ document, s.files path = some document ∧
    decodeQemuConfig provider.host provider.encoders path document = .ok config

end Accounting

section Steps
variable {s t : QemuHost} {path : PathBuf} {config : QemuVmConfig} {p q : QemuProcess}

theorem accounts_of_kin (kin : p.Kin q) (accounts : config.Accounts q) : config.Accounts p := by
  obtain ⟨_, group, job⟩ := kin
  obtain ⟨named, launch⟩ := accounts
  refine ⟨job.trans named, ?_⟩
  rwa [group]

theorem Accounted.quiet (accounted : provider.Accounted s) (quiet : Quiet s t) :
    provider.Accounted t := by
  intro p alive
  obtain ⟨q, before, kin⟩ := quiet.2 p alive
  obtain ⟨document, stored, accounts⟩ := accounted q before
  rw [quiet.1, kin.1]
  exact ⟨document, stored, fun config decoded => accounts_of_kin kin (accounts config decoded)⟩

/-- A write to the file of no live process. -/
theorem Accounted.writes_vacant {contents : Option Document} (accounted : provider.Accounted s)
    (vacant : s.Vacant path) (writes : Writes path contents s t) : provider.Accounted t := by
  intro p alive
  obtain ⟨q, before, kin⟩ := writes.2 p alive
  obtain ⟨document, stored, accounts⟩ := accounted q before
  rw [writes.1, kin.1, Function.update_of_ne (vacant q before)]
  exact ⟨document, stored, fun config decoded => accounts_of_kin kin (accounts config decoded)⟩

/-- A replacement that accounts for the processes of its file. -/
theorem Accounted.writes (accounted : provider.Accounted s)
    (accounts : ∀ p ∈ s.live, p.home = path → config.Accounts p)
    (writes : Writes path (some (.of provider.encoders config)) s t) :
    provider.Accounted t := by
  intro p alive
  obtain ⟨q, before, kin⟩ := writes.2 p alive
  rw [writes.1, kin.1]
  by_cases here : q.home = path
  · refine ⟨_, by rw [here, Function.update_self], fun decoded reads => ?_⟩
    rw [here] at reads
    rw [decode_of reads]
    exact accounts_of_kin kin (accounts q before here)
  · rw [Function.update_of_ne here]
    obtain ⟨document, stored, holds⟩ := accounted q before
    exact ⟨document, stored, fun config decoded => accounts_of_kin kin (holds config decoded)⟩

theorem Accounted.vacant (accounted : provider.Accounted s) (absent : s.files path = none) :
    s.Vacant path := by
  rintro p alive rfl
  obtain ⟨document, stored, _⟩ := accounted p alive
  rw [absent] at stored
  cases stored

/-- Every permitted request keeps the account. -/
theorem Accounted.step {op : QemuOp} {reply : op.Reply} (accounted : provider.Accounted s)
    (permitted : provider.Permitted op s)
    (effect : QemuHost.truthful provider.encoders op s reply t) : provider.Accounted t := by
  obtain ⟨effect, truthful⟩ := effect
  by_cases looks : op.Looks
  · exact accounted.quiet (looks.quiet effect)
  · cases op
    case writeConfigNew path config =>
        obtain ⟨_, quiet⟩ | ⟨absent, document, writes, _⟩ := effect
        · exact accounted.quiet quiet
        · exact accounted.writes_vacant (accounted.vacant absent) writes
    case replaceFileAtomic path config =>
        obtain ⟨_, quiet⟩ | writes := effect
        · exact accounted.quiet quiet
        · exact accounted.writes permitted.1 writes
    case removeExactFile path =>
        obtain ⟨_, quiet⟩ | writes := effect
        · exact accounted.quiet quiet
        · exact accounted.writes_vacant permitted writes
    case stage path config => exact accounted.quiet effect.1
    case spawnVm path program args jobName digest =>
        obtain ⟨unchanged, leader, home, _, job, evolves, _⟩ := effect
        obtain ⟨_, document, stored, intended⟩ := permitted
        intro p alive
        obtain ⟨q, before, kin⟩ := evolves p alive
        rw [unchanged, kin.1]
        rcases List.mem_cons.mp before with rfl | earlier
        · -- the new process is accounted for by the intent
          rw [home]
          refine ⟨document, stored, fun config decoded => accounts_of_kin kin ?_⟩
          obtain ⟨pending, unrecorded, named⟩ := intended config decoded
          exact ⟨job.trans named.symm, Or.inl ⟨pending, unrecorded⟩⟩
        · obtain ⟨document, stored, holds⟩ := accounted q earlier
          exact ⟨document, stored, fun config decoded =>
            accounts_of_kin kin (holds config decoded)⟩
    all_goals exact absurd trivial looks

end Steps

section Rules
variable {s : QemuHost} {path : PathBuf} {config : QemuVmConfig}

/-- A truthful executor, and the requests that keep the account. -/
def launches (provider : QemuProvider) : Regime provider where
  effects := QemuHost.truthful provider.encoders
  permitted := provider.Permitted
  effect := fun step => step.1
  looks := by
    intro op s looks
    cases op
    case writeConfigNew => exact looks.elim
    case stage => exact looks.elim
    case replaceFileAtomic => exact looks.elim
    case removeExactFile => exact looks.elim
    case spawnVm => exact looks.elim
    all_goals trivial

theorem lasting_accounted : Lasting provider.Accounted := fun quiet accounted =>
  accounted.quiet quiet

theorem lasting_knows : Lasting (provider.Knows path config) := by
  rintro s t quiet ⟨accounted, document, stored, decoded⟩
  refine ⟨accounted.quiet quiet, document, ?_, decoded⟩
  rw [quiet.1]
  exact stored

theorem treeAbsence {inv : QemuHost → Prop} {process : Option (Nat × Nat)}
    {jobName : Option String} (lasting : Lasting inv) (holds : inv s) :
    (launches provider).Guarded
      (fun empty t => inv t ∧ (empty = true → t.TreeEmpty process jobName))
      (look (.processTreeAbsenceProven process jobName)) s := by
  refine Within.effect trivial ?_
  rintro empty t ⟨quiet, truthful⟩
  exact ⟨lasting quiet holds, truthful⟩

end Rules

section Vacancy
variable {s : QemuHost} {path : PathBuf} {config : QemuVmConfig} {p : QemuProcess}
  {process : Option (Nat × Nat)}

/-- A live process of the recorded launch keeps its tree from being empty. -/
theorem Accounts.not_empty (accounts : config.Accounts p) (alive : p ∈ s.live)
    (named : process = none ∨ process.map Prod.fst = config.processId) :
    ¬s.TreeEmpty process config.processJobName := by
  rintro (⟨processId, startToken, rfl, absent⟩ | ⟨name, job, absent⟩)
  · have recorded : config.processId = some processId := by
      rcases named with missing | same
      · cases missing
      · exact same.symm
    rcases accounts.2 with ⟨_, unrecorded⟩ | ⟨_, group⟩
    · rw [recorded] at unrecorded
      cases unrecorded
    · rw [recorded] at group
      exact absent p alive (Option.some.inj group).symm
  · exact absent p alive (accounts.1.trans job)

theorem Knows.accounts (knows : provider.Knows path config s) (alive : p ∈ s.live)
    (home : p.home = path) : config.Accounts p := by
  obtain ⟨accounted, document, stored, decoded⟩ := knows
  obtain ⟨other, found, accounts⟩ := accounted p alive
  rw [home, stored] at found
  obtain rfl := Option.some.inj found
  rw [home] at accounts
  exact accounts config decoded

theorem Knows.vacant (knows : provider.Knows path config s)
    (named : process = none ∨ process.map Prod.fst = config.processId)
    (empty : s.TreeEmpty process config.processJobName) : s.Vacant path := by
  intro p alive home
  exact Accounts.not_empty (knows.accounts alive home) alive named empty

theorem Knows.valid (knows : provider.Knows path config s) :
    config.definitionIsValid provider.host provider.encoders path = true ∧
      config.receiptIsValid provider.host = true := by
  obtain ⟨_, document, _, decoded⟩ := knows
  exact (decodeQemuConfig_ok.mp decoded).2.2

theorem processId_of_process {processId startToken : Nat}
    (recorded : config.process = some (processId, startToken)) :
    config.processId = some processId := by
  unfold QemuVmConfig.process at recorded
  split at recorded
  · rename_i one two first second
    obtain ⟨rfl, rfl⟩ := Prod.mk.inj (Option.some.inj recorded)
    exact first
  · cases recorded

theorem named_of_process {processId startToken : Nat}
    (recorded : config.process = some (processId, startToken)) :
    (some (processId, startToken)).map Prod.fst = config.processId :=
  (processId_of_process recorded).symm

/-- A receipt is complete or missing. -/
theorem receipt_complete {host : HostOs} (valid : config.receiptIsValid host = true) :
    config.processId.isSome = config.processStartToken.isSome ∧
      config.processId.isSome = config.processExecutableSha256.isSome := by
  simp only [QemuVmConfig.receiptIsValid, Bool.and_eq_true, beq_iff_eq] at valid
  exact ⟨valid.1.1.1.1.1, valid.1.1.1.1.2⟩

theorem processId_of_no_process {host : HostOs} (valid : config.receiptIsValid host = true)
    (unrecorded : config.process = none) : config.processId = none := by
  obtain ⟨token, _⟩ := receipt_complete valid
  unfold QemuVmConfig.process at unrecorded
  cases first : config.processId with
  | none => rfl
  | some processId =>
      rw [first, Option.isSome_some, eq_comm, Option.isSome_iff_exists] at token
      obtain ⟨startToken, second⟩ := token
      rw [first, second] at unrecorded
      cases unrecorded

/-- Nothing was launched, or it was stopped. -/
theorem Knows.vacant_unlaunched (knows : provider.Knows path config s)
    (settled : config.spawnPending = false) (unrecorded : config.processId = none) :
    s.Vacant path := by
  intro p alive home
  rcases (knows.accounts alive home).2 with ⟨pending, _⟩ | ⟨_, recorded⟩
  · rw [settled] at pending
    cases pending
  · rw [unrecorded] at recorded
    cases recorded

end Vacancy

section Inspection
variable {s : QemuHost} {path : PathBuf} {config : QemuVmConfig}

/-- What an answer of the inspection means. -/
def Answers (provider : QemuProvider) (path : PathBuf) (config : QemuVmConfig) (vm : ProviderVm)
    (t : QemuHost) : Prop :=
  provider.Knows path config t ∧ vm.configurationPath = config.configurationPath ∧
    (vm.powerState = .off → t.Vacant path)

theorem inspectLive_guarded (knows : provider.Knows path config s) :
    (launches provider).Guarded (provider.Answers path config) (provider.inspectLive config) s := by
  refine Regime.past (watches_ask (by trivial)).attempt lasting_knows knows fun connected a knows => ?_
  cases connected with
  | error _ => trivial
  | ok _ =>
      refine Regime.past watches_negotiateQmp lasting_knows knows fun _ b knows => ?_
      refine Regime.past watches_qmpStatus lasting_knows knows fun status c knows => ?_
      split
      · exact ⟨knows, rfl, fun off => by cases off⟩
      · exact ⟨knows, rfl, fun off => by cases off⟩
      · exact ⟨knows, rfl, fun off => by cases off⟩
      · exact ⟨knows, rfl, fun off => by cases off⟩
      · exact ⟨knows, rfl, fun off => by cases off⟩
      · trivial

/-- The machine is off once nothing of it is alive. -/
theorem off_guarded (knows : provider.Knows path config s) (vacant : s.Vacant path) :
    (launches provider).Guarded (provider.Answers path config)
      (do ensureControlEndpointsAbsent config; pure (config.snapshot .off)) s := by
  refine Regime.past watches_endpointsAbsent (lasting_knows.and lasting_vacant) ⟨knows, vacant⟩ ?_
  rintro _ t ⟨knows, vacant⟩
  exact ⟨knows, rfl, fun _ => vacant⟩

theorem inspectGone_guarded {processId startToken : Nat} (knows : provider.Knows path config s)
    (recorded : config.process = some (processId, startToken)) :
    (launches provider).Guarded (provider.Answers path config)
      (inspectGone config processId startToken) s := by
  refine Regime.past (watches_look (by trivial)) lasting_knows knows fun (absent : Bool) a knows => ?_
  refine Regime.past watches_ensure lasting_knows knows fun _ b knows => ?_
  refine Within.bind (Within.weaken (treeAbsence lasting_knows knows) ?_
    fun _ _ _ => trivial)
  rintro (empty : Bool) c ⟨knows, proven⟩
  refine Within.ite (fun holds => ?_) fun _ => ?_
  · exact off_guarded knows
      (knows.vacant (Or.inr (named_of_process recorded)) (proven holds))
  · refine Regime.past (watches_look (by trivial)) lasting_knows knows fun (owned : Bool) d knows => ?_
    refine Within.ite (fun _ => ?_) fun _ => trivial
    exact ⟨knows, rfl, fun off => by cases off⟩

theorem inspectConfig_guarded (knows : provider.Knows path config s) :
    (launches provider).Guarded (provider.Answers path config) (provider.inspectConfig config) s := by
  refine Within.ite (fun pending => ?_) fun settled => ?_
  · refine Within.bind (Within.weaken (treeAbsence lasting_knows knows) ?_
      fun _ _ _ => trivial)
    rintro (empty : Bool) a ⟨knows, proven⟩
    refine Within.bind (Within.ensure (fun holds => ?_) fun _ => trivial)
    exact off_guarded knows (knows.vacant (Or.inl rfl) (proven holds))
  · split
    · rename_i processId startToken executable recorded _
      refine Regime.past (watches_look (by trivial)) lasting_knows knows
        fun (matched : Bool) a knows => ?_
      refine Within.ite (fun _ => inspectLive_guarded knows) fun _ => ?_
      exact inspectGone_guarded knows recorded
    · rename_i incomplete
      refine off_guarded knows (knows.vacant_unlaunched (Bool.eq_false_iff.mpr settled) ?_)
      obtain ⟨token, executable⟩ := receipt_complete knows.valid.2
      cases first : config.processId with
      | none => rfl
      | some processId =>
          rw [first, Option.isSome_some, eq_comm, Option.isSome_iff_exists] at token executable
          obtain ⟨startToken, second⟩ := token
          obtain ⟨digest, third⟩ := executable
          refine (incomplete processId startToken digest ?_ third).elim
          rw [QemuVmConfig.process, first, second]

end Inspection

section Launching
variable {s : QemuHost} {path : PathBuf} {config : QemuVmConfig} {snapshot : QemuConfigSnapshot}

theorem proveNothingLaunched_guarded (knows : provider.Knows path config s) :
    (launches provider).Guarded (fun _ t => provider.Knows path config t ∧ t.Vacant path)
      (proveNothingLaunched config) s := by
  refine Within.ite (fun pending => ?_) fun settled => ?_
  · refine Within.bind (Within.weaken (treeAbsence lasting_knows knows) ?_
      fun _ _ _ => trivial)
    rintro (empty : Bool) a ⟨knows, proven⟩
    exact Within.ensure (fun holds => ⟨knows, knows.vacant (Or.inl rfl) (proven holds)⟩)
      fun _ => trivial
  · split
    · rename_i unrecorded
      exact ⟨knows, knows.vacant_unlaunched (Bool.eq_false_iff.mpr settled)
        (processId_of_no_process knows.valid.2 unrecorded)⟩
    · rename_i processId startToken recorded
      refine Regime.past (watches_look (by trivial)) lasting_knows knows
        fun (absent : Bool) a knows => ?_
      refine Regime.past watches_ensure lasting_knows knows fun _ b knows => ?_
      refine Within.bind (Within.weaken (treeAbsence lasting_knows knows) ?_
        fun _ _ _ => trivial)
      rintro (empty : Bool) c ⟨knows, proven⟩
      refine Within.ensure (fun holds => ⟨knows, ?_⟩) fun _ => trivial
      exact knows.vacant (Or.inr (named_of_process recorded)) (proven holds)

/-- Every live process of the file is one of the given tree. -/
def OnlyTree (path : PathBuf) (processId : Nat) (jobName : Option String) (s : QemuHost) : Prop :=
  ∀ p ∈ s.live, p.home = path → p.group = processId ∧ p.job = jobName

theorem lasting_onlyTree {processId : Nat} {jobName : Option String} :
    Lasting (OnlyTree path processId jobName) := by
  intro s t quiet only p alive home
  obtain ⟨q, before, kin⟩ := quiet.2 p alive
  rw [kin.2.1, kin.2.2]
  exact only q before (kin.1.symm.trans home)

theorem launch_guarded (accounted : provider.Accounted s) (vacant : s.Vacant path) :
    (launches provider).Guarded (fun _ _ => True) (provider.launch path snapshot config) s := by
  have lasting : Lasting fun t => provider.Accounted t ∧ t.Vacant path :=
    lasting_accounted.and lasting_vacant
  refine Regime.past (watches_look (by trivial)) lasting ⟨accounted, vacant⟩
    fun (value : Uuid) a holds => ?_
  -- the intent replaces a launch of which nothing is left
  refine Within.bind (Within.weaken (Regime.replaces lasting holds (fun _ => trivial) ?_ ?_ lasting) ?_
    fun _ _ _ => trivial)
  · intro t holds _
    exact ⟨fun p alive home => absurd home (holds.2 p alive), fun _ => holds.2⟩
  · intro t u holds writes
    exact ⟨holds.1.writes_vacant holds.2 writes, holds.2.evolves writes.2⟩
  rintro _ b ⟨⟨accounted, vacant⟩, stored, decoded⟩
  have permitted : provider.Permitted (.spawnVm path provider.systemBinary
      (launchArgs (launchIntent config (newQemuJobName provider.host value)))
      (newQemuJobName provider.host value)
      (launchIntent config (newQemuJobName provider.host value)).commandSha256) b := by
    refine ⟨vacant, _, stored, fun found reads => ?_⟩
    rw [decode_of reads]
    exact ⟨rfl, rfl, rfl⟩
  refine Within.bind (Within.effect permitted ?_)
  rintro (error | receipt) c step
  · trivial
  have accounted := accounted.step permitted step
  have only : OnlyTree path receipt.processId (newQemuJobName provider.host value) c := by
    obtain ⟨⟨_, leader, _, group, job, evolves, named⟩, _⟩ := step
    intro p alive home
    obtain ⟨q, before, kin⟩ := evolves p alive
    rcases List.mem_cons.mp before with rfl | earlier
    · exact ⟨kin.2.1.trans (group.trans (named receipt rfl).1), kin.2.2.trans job⟩
    · exact absurd (kin.1.symm.trans home) (vacant q earlier)
  have lasts : Lasting fun t => provider.Accounted t ∧
      OnlyTree path receipt.processId (newQemuJobName provider.host value) t :=
    lasting_accounted.and lasting_onlyTree
  refine Regime.past watches_readConfigSnapshot lasts ⟨accounted, only⟩ fun _ d holds => ?_
  refine Regime.past watches_ensure lasts holds fun _ e holds => ?_
  refine Regime.past watches_ensure lasts holds fun _ f holds => ?_
  refine Regime.past watches_ensure lasts holds fun _ g holds => ?_
  refine Within.bind (Within.weaken (Regime.replaces lasts holds (fun _ => trivial) ?_ ?_ lasts) ?_
    fun _ _ _ => trivial)
  · -- the receipt names the tree that the spawn has started
    intro t holds _
    refine ⟨fun p alive home => ?_, fun erases => ?_⟩
    · obtain ⟨group, job⟩ := holds.2 p alive home
      refine ⟨job, Or.inr ⟨rfl, ?_⟩⟩
      rw [group]
      rfl
    · cases erases.1
  · intro t u holds writes
    refine ⟨holds.1.writes (fun p alive home => ?_) writes, fun p alive home => ?_⟩
    · obtain ⟨group, job⟩ := holds.2 p alive home
      refine ⟨job, Or.inr ⟨rfl, ?_⟩⟩
      rw [group]
      rfl
    · obtain ⟨q, before, kin⟩ := writes.2 p alive
      rw [kin.2.1, kin.2.2]
      exact holds.2 q before (kin.1.symm.trans home)
  rintro _ h _
  exact Within.bind (Regime.watches (watches_ask (by trivial)) lasting_true trivial)

end Launching

section Verbs
variable {A : Type} {s : QemuHost} {path : PathBuf} {config : QemuVmConfig}
  {snapshot : QemuConfigSnapshot} {good : A → QemuHost → Prop}

/-- A replacement that records the same launch. -/
theorem replaces_same {changed : QemuVmConfig} (knows : provider.Knows path config s)
    (job : changed.processJobName = config.processJobName)
    (pending : changed.spawnPending = config.spawnPending)
    (processId : changed.processId = config.processId) :
    (launches provider).Guarded (fun _ t => provider.Knows path changed t)
      (provider.replaceConfig path snapshot changed) s := by
  have accounts : ∀ {t}, provider.Knows path config t → ∀ p ∈ t.live, p.home = path →
      changed.Accounts p := by
    intro t knows p alive home
    have holds := knows.accounts alive home
    unfold QemuVmConfig.Accounts at holds ⊢
    rwa [job, pending, processId]
  have lasting : Lasting provider.Accounted := lasting_accounted
  refine Within.weaken (Regime.replaces lasting_knows knows (fun _ => trivial) ?_ ?_ lasting) ?_
    fun _ _ _ => trivial
  · intro t knows _
    refine ⟨accounts knows, ?_⟩
    rintro ⟨unrecorded, document, stored, found, decoded, recorded⟩
    obtain ⟨_, other, same, reads⟩ := knows
    obtain rfl := Option.some.inj (found.symm.trans same)
    obtain rfl := Except.ok.inj (decoded.symm.trans reads)
    exact absurd (processId.symm.trans unrecorded) recorded
  · intro t u knows writes
    exact knows.1.writes (accounts knows) writes
  · rintro _ t ⟨accounted, stored, decoded⟩
    exact ⟨accounted, _, stored, decoded⟩

theorem createVm_guarded {authority : ProviderMutationAuthority} {request : CreateVmRequest} :
    (launches provider).Guarded (fun _ _ => True) (provider.createVm authority request) s := by
  refine Regime.past watches_authorized lasting_true trivial fun _ a _ => ?_
  split
  · trivial
  · refine Regime.past (watches_ask (by trivial)) lasting_true trivial fun _ b _ => ?_
    refine Regime.past (watches_look (by trivial)) lasting_true trivial
      fun (taken : Bool) c _ => ?_
    refine Regime.past watches_ensure lasting_true trivial fun _ d _ => ?_
    refine Regime.past watches_selectAccelerator lasting_true trivial fun _ e _ => ?_
    refine Regime.past Passive.lift lasting_true trivial fun _ f _ => ?_
    refine Within.bind (Within.effect trivial ?_)
    rintro (error | _) g _
    · trivial
    · trivial

theorem claimVm_guarded {authority : ProviderMutationAuthority} {request : ClaimVmRequest}
    (accounted : provider.Accounted s) :
    (launches provider).Guarded (fun vm t => ∃ path config, provider.Answers path config vm t)
      (provider.claimVm authority request) s := by
  refine Regime.opens lasting_accounted accounted fun snapshot a _ knows => ?_
  refine Regime.past watches_authorizeConfig lasting_knows knows fun _ b knows => ?_
  refine Regime.past Passive.lift lasting_knows knows fun _ c knows => ?_
  refine Regime.past watches_ensure lasting_knows knows fun _ d knows => ?_
  refine Within.bind (Within.weaken (replaces_same knows rfl rfl rfl) ?_
    fun _ _ _ => trivial)
  intro _ e knows
  exact Within.weaken (inspectConfig_guarded knows) (fun vm t answers => ⟨_, _, answers⟩)
    fun _ _ _ => trivial

theorem configureVm_guarded {authority : ProviderMutationAuthority} {request : ConfigureVmRequest}
    (accounted : provider.Accounted s) :
    (launches provider).Guarded (fun vm t => ∃ path config, provider.Answers path config vm t)
      (provider.configureVm authority request) s := by
  refine Regime.opens lasting_accounted accounted fun snapshot a _ knows => ?_
  refine Regime.past watches_authorizeConfig lasting_knows knows fun _ b knows => ?_
  refine Regime.past Passive.lift lasting_knows knows fun _ c knows => ?_
  refine Within.bind (Within.weaken (replaces_same knows rfl rfl rfl) ?_
    fun _ _ _ => trivial)
  intro _ d knows
  exact Within.weaken (inspectConfig_guarded knows) (fun vm t answers => ⟨_, _, answers⟩)
    fun _ _ _ => trivial

theorem inspectVm_guarded {lookup : VmLookup} (accounted : provider.Accounted s) :
    (launches provider).Guarded
      (fun found t => ∀ vm, found = some vm → ∃ path config, provider.Answers path config vm t)
      (provider.inspectVm lookup) s := by
  have configured : (launches provider).Guarded (fun found t => ∀ config, found = some config →
      ∃ path, provider.Knows path config t) (provider.configForLookup lookup) s := by
    unfold configForLookup
    split
    · intro config found
      cases found
    · refine Regime.past (watches_look (by trivial)) lasting_accounted accounted
        fun (presence : Presence) a accounted => ?_
      cases presence with
      | absent =>
          intro config found
          cases found
      | unknown error => trivial
      | present =>
          refine Within.bind (Within.bind (Within.weaken
            (Regime.reads lasting_accounted accounted) ?_ fun _ _ _ => trivial))
          rintro snapshot b ⟨accounted, document, stored, decoded⟩
          refine Within.pure (Within.pure ?_)
          intro config found
          split at found
          · obtain rfl := Option.some.inj found
            exact ⟨_, accounted, document, stored, decoded⟩
          · cases found
  refine Within.bind (Within.weaken configured ?_ fun _ _ _ => trivial)
  intro found a known
  cases found with
  | none =>
      intro vm missing
      cases missing
  | some config =>
      obtain ⟨path, knows⟩ := known config rfl
      refine Within.bind (Within.weaken (inspectConfig_guarded knows) ?_ fun _ _ _ => trivial)
      rintro vm b answers _ ⟨⟩
      exact ⟨path, config, answers⟩

theorem startVm_guarded {authority : ProviderMutationAuthority} {expected : ProviderVm}
    (accounted : provider.Accounted s) :
    (launches provider).Guarded (fun _ _ => True) (provider.startVm authority expected) s := by
  refine Regime.opens lasting_accounted accounted fun snapshot a _ knows => ?_
  refine Regime.past watches_authorizeConfig lasting_knows knows fun _ b knows => ?_
  refine Regime.past Passive.lift lasting_knows knows fun _ c knows => ?_
  refine Regime.past watches_validateOverlayChain lasting_knows knows fun _ d knows => ?_
  refine Regime.past watches_ensure lasting_knows knows fun _ e knows => ?_
  refine Within.ite (fun _ => ?_) fun _ => ?_
  · refine Regime.past watches_endpointsAbsent lasting_knows knows fun _ f knows => ?_
    refine Within.bind (Within.weaken (proveNothingLaunched_guarded knows) ?_
      fun _ _ _ => trivial)
    rintro _ g ⟨knows, vacant⟩
    refine Within.bind (Within.weaken (launch_guarded knows.1 vacant) ?_ fun _ _ _ => trivial)
    intro launched h _
    exact Regime.watches watches_continueVm lasting_true trivial
  · refine Regime.past watches_ensure lasting_knows knows fun _ f _ => ?_
    exact Regime.watches watches_continueVm lasting_true trivial

theorem awaitExit_guarded {processId startToken rounds : Nat} {forced : Bool}
    (knows : provider.Knows path config s)
    (recorded : config.process = some (processId, startToken)) :
    (launches provider).Guarded (fun _ _ => True)
      (provider.awaitExit path snapshot config processId startToken rounds forced) s := by
  induction rounds generalizing s forced with
  | zero => exact Within.hang
  | succ rounds ih =>
      refine Regime.past (watches_ask (by trivial)).attempt lasting_knows knows
        fun connected a knows => ?_
      refine Regime.past watches_processExited lasting_knows knows fun gone b knows => ?_
      refine Within.ite (fun _ => ?_) fun _ => ?_
      · refine Within.bind (Within.weaken (treeAbsence lasting_knows knows) ?_
          fun _ _ _ => trivial)
        rintro (empty : Bool) c ⟨knows, proven⟩
        refine Within.ite (fun holds => ?_) fun _ => ?_
        · -- the receipt is erased
          have vacant := knows.vacant (Or.inr (named_of_process recorded)) (proven holds)
          have lasting : Lasting fun t => provider.Accounted t ∧ t.Vacant path :=
            lasting_accounted.and lasting_vacant
          refine Regime.past watches_endpointsAbsent lasting ⟨knows.1, vacant⟩
            fun _ d holds => ?_
          refine Within.weaken (Regime.replaces lasting holds (fun _ => trivial) ?_ (fun _ _ => trivial)
            lasting_true)
            (fun _ _ _ => trivial) fun _ _ _ => trivial
          intro t holds _
          exact ⟨fun p alive home => absurd home (holds.2 p alive), fun _ => holds.2⟩
        · refine Within.ite (fun _ => trivial) fun _ => ?_
          exact Regime.past (watches_ask (by trivial)) lasting_knows knows fun _ d knows => ih knows
      · refine Regime.past (watches_look (by trivial)) lasting_knows knows
          fun (passed : Bool) c knows => ?_
        refine Within.ite (fun _ => Within.ite (fun _ => ?_) fun _ => trivial) fun _ => ih knows
        exact Regime.past (watches_ask (by trivial)) lasting_knows knows fun _ d knows => ih knows

theorem stopVm_guarded {rounds : Nat} {authority : ProviderMutationAuthority}
    {expected : ProviderVm} (accounted : provider.Accounted s) :
    (launches provider).Guarded (fun _ _ => True) (provider.stopVm rounds authority expected) s := by
  refine Regime.opens lasting_accounted accounted fun snapshot a _ knows => ?_
  refine Regime.past watches_authorizeConfig lasting_knows knows fun _ b knows => ?_
  refine Regime.past Passive.lift lasting_knows knows fun _ c knows => ?_
  split
  · trivial
  · rename_i processId startToken recorded
    refine Regime.past watches_recoveringExactTree lasting_knows knows
      fun recovering d knows => ?_
    refine Within.ite (fun _ => ?_) fun _ => ?_
    · exact Regime.past (watches_ask (by trivial)) lasting_knows knows fun _ e knows =>
        awaitExit_guarded knows recorded
    · refine Regime.past (watches_ask (by trivial)) lasting_knows knows fun _ e knows => ?_
      refine Regime.past watches_negotiateQmp lasting_knows knows fun _ f knows => ?_
      exact Regime.past (watches_ask (by trivial)) lasting_knows knows fun _ g knows =>
        awaitExit_guarded knows recorded

theorem proveIntentEmpty_guarded (knows : provider.Knows path config s) :
    (launches provider).Guarded
      (fun _ t => provider.Knows path config t ∧ (config.spawnPending = true → t.Vacant path))
      (proveIntentEmpty config) s := by
  refine Within.ite (fun pending => ?_) fun settled => ?_
  · refine Within.bind (Within.weaken (treeAbsence lasting_knows knows) ?_
      fun _ _ _ => trivial)
    rintro (empty : Bool) a ⟨knows, proven⟩
    exact Within.ensure (fun holds => ⟨knows, fun _ => knows.vacant (Or.inl rfl) (proven holds)⟩)
      fun _ => trivial
  · exact ⟨knows, fun pending => absurd pending settled⟩

theorem proveReceiptGone_guarded (knows : provider.Knows path config s)
    (intent : config.spawnPending = true → s.Vacant path) :
    (launches provider).Guarded (fun _ t => provider.Accounted t ∧ t.Vacant path)
      (provider.proveReceiptGone config) s := by
  unfold proveReceiptGone
  split
  · rename_i unrecorded
    refine ⟨knows.1, ?_⟩
    cases pending : config.spawnPending with
    | true => exact intent pending
    | false =>
        exact knows.vacant_unlaunched pending (processId_of_no_process knows.valid.2 unrecorded)
  · rename_i processId startToken recorded
    refine Regime.past (watches_look (by trivial)) lasting_knows knows
      fun (matched : Bool) a knows => ?_
    refine Regime.past watches_ensure lasting_knows knows fun _ b knows => ?_
    refine Regime.past (watches_look (by trivial)) lasting_knows knows
      fun (absent : Bool) c knows => ?_
    refine Regime.past watches_ensure lasting_knows knows fun _ d knows => ?_
    refine Within.bind (Within.weaken (treeAbsence lasting_knows knows) ?_
      fun _ _ _ => trivial)
    rintro (empty : Bool) e ⟨knows, proven⟩
    refine Within.ensure (fun holds => ⟨knows.1, ?_⟩) fun _ => trivial
    exact knows.vacant (Or.inr (named_of_process recorded)) (proven holds)

theorem removeVm_guarded {authority : ProviderMutationAuthority} {expected : ProviderVm}
    (accounted : provider.Accounted s) :
    (launches provider).Guarded (fun _ _ => True) (provider.removeVm authority expected) s := by
  refine Regime.past watches_authorized lasting_accounted accounted fun _ a accounted => ?_
  refine Regime.past watches_ensure lasting_accounted accounted fun _ b accounted => ?_
  refine Within.bind (Within.weaken (Regime.reads lasting_accounted accounted) ?_
    fun _ _ _ => trivial)
  intro snapshot c knows
  refine Regime.past watches_authorizeConfig lasting_knows knows fun _ d knows => ?_
  refine Regime.past Passive.lift lasting_knows knows fun _ e knows => ?_
  refine Within.bind (Within.weaken (proveIntentEmpty_guarded knows) ?_ fun _ _ _ => trivial)
  rintro _ f ⟨knows, intent⟩
  have lasting : Lasting fun t => provider.Knows (QemuVmConfig.configPath
      expected.configurationPath) snapshot.config t ∧ (snapshot.config.spawnPending = true →
      t.Vacant (QemuVmConfig.configPath expected.configurationPath)) :=
    lasting_knows.and lasting_vacant_when
  refine Regime.past (watches_ask (by trivial)).attempt lasting ⟨knows, intent⟩
    fun connected g holds => ?_
  cases connected with
  | ok _ => trivial
  | error _ =>
      have lasts : Lasting fun t => provider.Accounted t ∧
          t.Vacant (QemuVmConfig.configPath expected.configurationPath) :=
        lasting_accounted.and lasting_vacant
      refine Within.bind (Within.weaken (proveReceiptGone_guarded holds.1 holds.2) ?_
        fun _ _ _ => trivial)
      intro _ h holds
      refine Regime.past watches_endpointsAbsent lasts holds fun _ i holds => ?_
      refine Regime.past watches_validatePinned lasts holds fun _ j holds => ?_
      refine Within.bind (Within.effect holds.2 ?_)
      rintro (error | _) k _
      · trivial
      · exact Regime.watches (watches_ask (by trivial)) lasting_true trivial

/-- A machine is reported off only when no process of it is alive. -/
def Reports (outcome : QemuOutcome) (t : QemuHost) : Prop :=
  ∀ vm, outcome = .inspected vm → vm.powerState = .off →
    t.Vacant (QemuVmConfig.configPath vm.configurationPath)

theorem path_of_valid {host : HostOs} {encoders : Encoders}
    (valid : config.definitionIsValid host encoders path = true) :
    path = QemuVmConfig.configPath config.configurationPath := by
  simp only [QemuVmConfig.definitionIsValid, Bool.and_eq_true, decide_eq_true_eq] at valid
  exact valid.1.1.1.1.1.1.1.1.1.1.1.1.2

theorem Answers.reports {vm : ProviderVm} (answers : provider.Answers path config vm s) :
    Reports (.inspected vm) s := by
  rintro _ ⟨⟩ off
  rw [answers.2.1, ← path_of_valid answers.1.valid.1]
  exact answers.2.2 off

theorem perform_guarded (verb : QemuVerb) (accounted : provider.Accounted s) :
    (launches provider).Guarded Reports (provider.perform verb) s := by
  have silent : ∀ {outcome : QemuOutcome} {t : QemuHost}, (∀ vm, outcome ≠ .inspected vm) →
      Reports outcome t := fun other vm same => absurd same (other vm)
  cases verb with
  | createVm authority request =>
      refine Within.bind (Within.weaken createVm_guarded ?_ fun _ _ _ => trivial)
      exact fun identity t _ => silent fun vm same => by cases same
  | claimVm authority request =>
      refine Within.bind (Within.weaken (claimVm_guarded accounted) ?_ fun _ _ _ => trivial)
      rintro vm t ⟨path, config, answers⟩
      exact answers.reports
  | configureVm authority request =>
      refine Within.bind (Within.weaken (configureVm_guarded accounted) ?_ fun _ _ _ => trivial)
      rintro vm t ⟨path, config, answers⟩
      exact answers.reports
  | inspectVm lookup =>
      refine Within.bind (Within.weaken (inspectVm_guarded accounted) ?_ fun _ _ _ => trivial)
      intro found t answered
      cases found with
      | none => exact silent fun vm same => by cases same
      | some vm =>
          obtain ⟨path, config, answers⟩ := answered vm rfl
          exact answers.reports
  | startVm authority expected =>
      refine Within.bind (Within.weaken (startVm_guarded accounted) ?_ fun _ _ _ => trivial)
      exact fun _ t _ => silent fun vm same => by cases same
  | stopVm rounds authority expected =>
      refine Within.bind (Within.weaken (stopVm_guarded accounted) ?_ fun _ _ _ => trivial)
      exact fun _ t _ => silent fun vm same => by cases same
  | removeVm authority expected =>
      refine Within.bind (Within.weaken (removeVm_guarded accounted) ?_ fun _ _ _ => trivial)
      exact fun _ t _ => silent fun vm same => by cases same

end Verbs

/-- The verbs as programs of a session. -/
def Verbs (provider : QemuProvider) (p : Proc qemuSignature (Except ProviderError QemuOutcome)) :
    Prop := ∃ verb, p = provider.perform verb

end QemuProvider

section Main
open QemuProvider

/-- Whatever verbs came before and wherever they were killed: a verb that stands
before a spawn, before the removal of a configuration or before a replacement that
drops a receipt stands there with no process of that configuration alive, and none
is alive when a machine is reported off. -/
theorem one_process_per_configuration (provider : QemuProvider) {initial s t : QemuHost}
    {operation rest : Proc qemuSignature (Except ProviderError QemuOutcome)}
    (unspawned : initial.live = [])
    (session : Session (QemuHost.truthful provider.encoders) provider.Verbs initial s)
    (verb : provider.Verbs operation)
    (comes : operation.Comes (QemuHost.truthful provider.encoders) s rest t) :
    (∀ path program args jobName digest next,
        rest = .call (.spawnVm path program args jobName digest) next → t.Vacant path) ∧
      (∀ path next, rest = .call (.removeExactFile path) next → t.Vacant path) ∧
      (∀ path config next, rest = .call (.replaceFileAtomic path config) next →
        provider.Erases path config t → t.Vacant path) ∧
      ∀ vm, rest = .done (.ok (.inspected vm)) → vm.powerState = .off →
        t.Vacant (QemuVmConfig.configPath vm.configurationPath) := by
  have initially : provider.Accounted initial := by
    intro p alive
    rw [unspawned] at alive
    cases alive
  have obliged : ∀ p, provider.Verbs p → ∀ s, provider.Accounted s →
      Held (QemuHost.truthful provider.encoders) provider.Permitted
        (Ends Reports fun _ _ => True) p s := by
    rintro _ ⟨verb, rfl⟩ s accounted
    exact perform_guarded verb accounted
  have preserved : ∀ {op s reply t}, provider.Accounted s → provider.Permitted op s →
      QemuHost.truthful provider.encoders op s reply t → provider.Accounted t :=
    fun accounted permitted effect => accounted.step permitted effect
  have accounted := session.invariant obliged preserved initially
  have held := (obliged operation verb s accounted).comes comes
  refine ⟨?_, ?_, ?_, ?_⟩
  · rintro path program args jobName digest next rfl
    exact held.1.1
  · rintro path next rfl
    exact held.1
  · rintro path config next rfl erases
    exact held.1.2 erases
  · rintro vm rfl off
    exact held vm rfl off

end Main

namespace Exemplar

/-- The authority over the exemplary cell, whose machine has the identifier of the cell. -/
def qemuAuthority : ProviderMutationAuthority :=
  { authority with record := { authority.record with
      providerObject := some ⟨cellId.toText, providerObjectName cellId⟩ } }

def encoders : Encoders :=
  ⟨fun _ => digest, fun config => config.id.toList.map fun letter => UInt8.ofNat letter.toNat⟩

def qemu (host : HostOs) : QemuProvider :=
  ⟨host, encoders, site.root.join "runtime", "qemu-system-x86_64"⟩

def configPath : PathBuf :=
  QemuVmConfig.configPath qemuAuthority.record.ownership.configurationPath

/-- One overlay over the image of the cell. -/
def imageInfo (path : PathBuf) : Except ProviderError QemuImgInfo :=
  if path = qemuAuthority.record.image.path then .ok ⟨"qcow2", 1, none, none, 1⟩
  else .ok ⟨"qcow2", 1, some qemuAuthority.record.image.path, none, 1⟩

def receipt : QemuSpawnReceipt := ⟨4242, 7, digest, digest⟩

/-- A host in order, on which a spawn has the given outcome. -/
def scene (spawn : Except ProviderError QemuSpawnReceipt) : QemuScene :=
  ⟨directory, .ok ["kvm", "whpx"], uuid 8, imageInfo, spawn⟩

def createRequest : CreateVmRequest :=
  ⟨providerObjectName cellId, qemuAuthority.record.ownership.configurationPath,
    qemuAuthority.record.ownership.overlayPath, qemuAuthority.record.image.path, 1024, 1, none, false⟩

/-- The machine as it is inspected before it is claimed. -/
def unclaimed : ProviderVm :=
  ⟨cellId.toText, providerObjectName cellId, .off, "",
    qemuAuthority.record.ownership.configurationPath,
    [qemuAuthority.record.ownership.overlayPath], 0, 1, 1024⟩

def claimedMachine : ProviderVm :=
  { unclaimed with ownershipMarker := qemuAuthority.record.ownership.providerMarker }

def createVerb : QemuVerb := .createVm qemuAuthority createRequest

def claimVerb : QemuVerb :=
  .claimVm qemuAuthority ⟨unclaimed, qemuAuthority.record.ownership.providerMarker⟩

def startVerb : QemuVerb := .startVm qemuAuthority claimedMachine

def emptyHost : QemuHost := ⟨fun _ => none, []⟩

/-- A verb driven to the given step. -/
def driven (host : HostOs) (spawn : Except ProviderError QemuSpawnReceipt) (verb : QemuVerb)
    (steps : Nat) (s : QemuHost) :
    Proc qemuSignature (Except ProviderError QemuOutcome) × QemuHost :=
  Proc.drive ((scene spawn).handler (qemu host)) steps ((qemu host).perform verb) s

/-- The host with the claimed configuration of the machine. -/
def claimedHost (host : HostOs) : QemuHost :=
  (driven host (.ok receipt) claimVerb 99
    (driven host (.ok receipt) createVerb 99 emptyHost).2).2

section Monitor

/-- What the monitor of the running machine tells. -/
def told (command : String) : Json :=
  if command = "query-uuid" then .object [("UUID", .string cellId.toText)]
  else if command = "query-name" then .object [("name", .string (providerObjectName cellId))]
  else if command = "query-cpus-fast" then .array [.object []]
  else if command = "query-memory-size-summary" then
    .object [("base-memory", .number (1024 * 1024 * 1024))]
  else if command = "query-rx-filter" then .array []
  else if command = "query-block" then .array [.object [("inserted", .object [
    ("file", .string qemuAuthority.record.ownership.overlayPath.display),
    ("drv", .string "qcow2"), ("backing_file_depth", .number 1)])]]
  else if command = "query-status" then .object [("status", .string "running")]
  else .object []

/-- A host in order, on which a spawned process answers at its monitor and ends when it
is told to quit. -/
def monitored (host : HostOs) : Handler qemuSignature QemuHost
  | .connectQmp .., s => (if s.live = [] then .error QemuScene.unanswered else .ok (), s)
  | .negotiate, s => (.ok (), s)
  | .deadlinePassed, s => (false, s)
  | .execute command, s =>
      (.ok (told command), if command = "quit" then { s with live := [] } else s)
  | op, s => (scene (.ok receipt)).handler (qemu host) op s

theorem truthful_monitored (host : HostOs) (op : QemuOp) (s : QemuHost) :
    QemuHost.truthful encoders op s (monitored host op s).1 (monitored host op s).2 := by
  cases op
  case connectQmp endpoint timeout => exact ⟨QemuScene.quiet_refl s, trivial⟩
  case negotiate => exact ⟨QemuScene.quiet_refl s, trivial⟩
  case deadlinePassed => exact ⟨QemuScene.quiet_refl s, trivial⟩
  case execute command =>
      refine ⟨?_, trivial⟩
      by_cases quits : command = "quit"
      · simp only [monitored, if_pos quits]
        exact ⟨rfl, fun p alive => absurd alive List.not_mem_nil⟩
      · simp only [monitored, if_neg quits]
        exact QemuScene.quiet_refl s
  all_goals exact @QemuScene.truthful (scene (.ok receipt)) (qemu host) _ s

/-- A verb driven to the given step, under the monitor. -/
def served (verb : QemuVerb) (steps : Nat) (s : QemuHost) :
    Proc qemuSignature (Except ProviderError QemuOutcome) × QemuHost :=
  Proc.drive (monitored .linux) steps ((qemu .linux).perform verb) s

theorem served_comes (verb : QemuVerb) (steps : Nat) (s : QemuHost) :
    ((qemu .linux).perform verb).Comes (QemuHost.truthful encoders) s
      (served verb steps s).1 (served verb steps s).2 :=
  Proc.comes_drive (truthful_monitored .linux) steps

/-- The host after a whole verb. -/
def after (verb : QemuVerb) (s : QemuHost) : QemuHost := (served verb 99 s).2

theorem session_after {s : QemuHost} (verb : QemuVerb)
    (session : Session (QemuHost.truthful encoders) (qemu .linux).Verbs emptyHost s) :
    Session (QemuHost.truthful encoders) (qemu .linux).Verbs emptyHost (after verb s) :=
  .next session ⟨verb, rfl⟩ (served_comes verb 99 s)

def stopVerb : QemuVerb := .stopVm 1 qemuAuthority { claimedMachine with powerState := .running }

def startedHost : QemuHost := after startVerb (after claimVerb (after createVerb emptyHost))

/-- The host after the machine was started and stopped. -/
def stoppedHost : QemuHost := after stopVerb startedHost

theorem stoppedHost_session :
    Session (QemuHost.truthful encoders) (qemu .linux).Verbs emptyHost stoppedHost :=
  session_after stopVerb (session_after startVerb
    (session_after claimVerb (session_after createVerb .refl)))

/-- The configuration for which the program is about to spawn a process. -/
def spawnsFor : Proc qemuSignature (Except ProviderError QemuOutcome) → Option PathBuf
  | .call (.spawnVm path _ _ _ _) _ => some path
  | _ => none

/-- The first process is alive before the stop, and a second start spawns one again. -/
theorem restarts : startedHost.live.map (·.home) = [configPath] ∧
    spawnsFor (served startVerb 14 stoppedHost).1 = some configPath := by
  decide +kernel

end Monitor

end Exemplar

/-- The start of a machine that was started and stopped before. -/
theorem one_process_per_configuration_at_restart :
    Exemplar.startedHost.live.map (·.home) = [Exemplar.configPath] ∧
      ∃ rest t, ((Exemplar.qemu .linux).perform Exemplar.startVerb).Comes
          (QemuHost.truthful Exemplar.encoders) Exemplar.stoppedHost rest t ∧
        Exemplar.spawnsFor rest = some Exemplar.configPath ∧ t.Vacant Exemplar.configPath := by
  have comes := Exemplar.served_comes Exemplar.startVerb 14 Exemplar.stoppedHost
  obtain ⟨live, spawns⟩ := Exemplar.restarts
  refine ⟨live, _, _, comes, spawns, ?_⟩
  have holds := (one_process_per_configuration (Exemplar.qemu .linux) rfl
    Exemplar.stoppedHost_session ⟨Exemplar.startVerb, rfl⟩ comes).1
  -- what is left of the start begins with the spawn
  revert holds spawns
  cases (Exemplar.served Exemplar.startVerb 14 Exemplar.stoppedHost).1 with
  | call op next =>
      cases op with
      | spawnVm path program args jobName digest =>
          intro spawns holds
          rw [← Option.some.inj spawns]
          exact holds path program args jobName digest next rfl
      | _ =>
          intro spawns
          cases spawns
  | _ =>
      intro spawns
      cases spawns

end VmCell
