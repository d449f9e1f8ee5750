import VmCell.Engine.ImageReports
import VmCell.Engine.Rehearsal
import VmCell.Interaction.Reading
import VmCell.Interaction.Session

/-! What validation reports of a registered image and what its use requires. -/

set_option autoImplicit false
namespace VmCell

open Interaction Fallible

section Worlds

/-- A store, and what the host and the provider answer while nothing changes. -/
structure StillWorld where
  site : Site
  store : Store
  answers : (o : Observation) → o.Answer

namespace StillWorld
variable (w : StillWorld)

def reply : (op : signature.Op) → Option (signature.Reply op)
  | .query q => some (q.eval w.site w.store)
  | .observe o => some (w.answers o)
  | .mutate _ | .provider .. | .transport .. | .newUuid => none

/-- The operation ends with this value. -/
def Gives {A : Type} (p : Engine A) (a : A) : Prop := Yields w.reply p a

/-- A file that opens with its path in order keeps the path in order. -/
def Steady : Prop :=
  ∀ path, w.answers (.openImmutableParent path) = .ok () →
    w.answers (.validatePathIdentity path) = .ok ()

variable {w} {A B : Type}

theorem gives_bind {p : Engine A} {f : A → Engine B} {b : B} :
    w.Gives (p >>= f) b ↔ ∃ a, w.Gives p a ∧ w.Gives (f a) b := yields_bind

theorem gives_pure {a other : A} : w.Gives (pure a) other ↔ other = a := yields_pure

theorem gives_lift {result : Except EngineError A} {a : A} :
    w.Gives (Fallible.lift result) a ↔ result = .ok a := yields_lift

theorem gives_observe {o : Observation} {answer : o.Answer} :
    w.Gives (observe o) answer ↔ answer = w.answers o := by
  change some (Except.ok (w.answers o)) = some (Except.ok answer) ↔ _
  rw [Option.some.injEq, Except.ok.injEq, eq_comm]

theorem gives_query {q : Query} {answer : q.Answer} :
    w.Gives (query q) answer ↔ q.eval w.site w.store = .ok answer := by
  change some ((q.eval w.site w.store).mapError EngineError.state) = some (Except.ok answer) ↔ _
  rw [Option.some.injEq]
  cases q.eval w.site w.store <;> simp [Except.mapError]

theorem mapError_ok {E F : Type} {result : Except E A} {f : E → F} {a : A} :
    result.mapError f = .ok a ↔ result = .ok a := by
  cases result <;> simp [Except.mapError]

theorem gives_observe_bind {o : Observation} {f : o.Answer → Engine B} {b : B} :
    w.Gives (observe o >>= f) b ↔ w.Gives (f (w.answers o)) b := by
  rw [gives_bind]
  simp only [gives_observe, exists_eq_left]

theorem gives_lift_bind {result : Except EngineError A} {f : A → Engine B} {b : B} :
    w.Gives (Fallible.lift result >>= f) b ↔ ∃ a, result = .ok a ∧ w.Gives (f a) b := by
  rw [gives_bind]
  simp only [gives_lift]

theorem gives_require_bind {condition : Bool} {error : EngineError} {f : Unit → Engine B}
    {b : B} : w.Gives (Fallible.lift (require condition error) >>= f) b ↔
      condition = true ∧ w.Gives (f ()) b := by
  rw [gives_lift_bind]
  constructor
  · rintro ⟨⟨⟩, held, rest⟩
    exact ⟨require_ok.mp held, rest⟩
  · rintro ⟨held, rest⟩
    exact ⟨(), require_ok.mpr held, rest⟩

theorem gives_inspectImage {path : PathBuf} {info : ProviderImageInfo} :
    w.Gives (inspectImage path) info ↔ w.answers (.inspectImage path) = .ok info :=
  (gives_observe_bind (o := .inspectImage path)).trans (gives_lift.trans mapError_ok)

theorem gives_validatePathIdentity {path : PathBuf} :
    w.Gives (validatePathIdentity path) () ↔ w.answers (.validatePathIdentity path) = .ok () :=
  (gives_observe_bind (o := .validatePathIdentity path)).trans gives_lift

end StillWorld

end Worlds

section Use
variable {w : StillWorld} {provider : String} {variant : ImageVariant}

open StillWorld

/-- The file is the registered one, and the provider describes it as a base image. -/
structure Matches (w : StillWorld) (provider : String) (variant : ImageVariant)
    (canonical : PathBuf) (info : ProviderImageInfo) : Prop where
  resolved : w.answers (.canonicalImagePath variant.path) = .ok canonical
  same : pathsEqual w.site.platform canonical variant.path = true
  opened : w.answers (.openImmutableParent canonical) = .ok ()
  measured : w.answers (.fileSize canonical) = .ok variant.fileSize
  inspected : w.answers (.inspectImage canonical) = .ok info
  path : pathsEqual w.site.platform canonical info.path = true
  format : ∃ expected, providerImageFormat provider = .ok expected ∧
    eqIgnoreAsciiCase info.diskFormat expected = true
  parent : info.parentPath = none
  base : eqIgnoreAsciiCase info.diskType "differencing" = false
  size : info.fileSize = variant.fileSize
  hashed : w.answers (.sha256File canonical) = .ok variant.sha256

theorem validateBaseImage_ok {platform : Platform} {expectedPath : PathBuf} {fileSize : Nat}
    {info : ProviderImageInfo} :
    validateBaseImage platform provider expectedPath fileSize info = .ok () ↔
      ∃ expected, providerImageFormat provider = .ok expected ∧
        pathsEqual platform expectedPath info.path = true ∧
        eqIgnoreAsciiCase info.diskFormat expected = true ∧ (info.parentPath = none ∧
        eqIgnoreAsciiCase info.diskType "differencing" = false) ∧ info.fileSize = fileSize := by
  rw [validateBaseImage, bind_ok]
  simp only [bind_unit_ok, require_ok, Bool.and_eq_true, Option.isNone_iff_eq_none,
    Bool.not_eq_true', decide_eq_true_eq]

/-- The gate lets the registered image pass exactly when it matches. -/
theorem verified_iff (steady : w.Steady) {canonical : PathBuf} :
    w.Gives (verifyRegisteredImage w.site provider variant) canonical ↔
      ∃ info, Matches w provider variant canonical info := by
  constructor
  · intro given
    obtain ⟨found, resolved, given⟩ := gives_lift_bind.mp (gives_observe_bind.mp given)
    obtain ⟨same, given⟩ := gives_require_bind.mp given
    obtain ⟨⟨⟩, opened, given⟩ := gives_lift_bind.mp (gives_observe_bind.mp given)
    obtain ⟨⟨⟩, -, given⟩ := gives_bind.mp given
    obtain ⟨fileSize, measured, given⟩ := gives_lift_bind.mp (gives_observe_bind.mp given)
    obtain ⟨size, given⟩ := gives_require_bind.mp given
    obtain rfl : fileSize = variant.fileSize := of_decide_eq_true size
    obtain ⟨info, inspected, given⟩ := gives_bind.mp given
    obtain ⟨⟨⟩, -, given⟩ := gives_bind.mp given
    obtain ⟨⟨⟩, base, given⟩ := gives_lift_bind.mp given
    obtain ⟨sha256, hashed, given⟩ := gives_lift_bind.mp (gives_observe_bind.mp given)
    obtain ⟨⟨⟩, -, given⟩ := gives_bind.mp given
    obtain ⟨digest, given⟩ := gives_require_bind.mp given
    obtain rfl : canonical = found := gives_pure.mp given
    obtain rfl : sha256 = variant.sha256 := of_decide_eq_true digest
    obtain ⟨expected, format, path, matching, ⟨parent, kind⟩, sizes⟩ :=
      validateBaseImage_ok.mp (mapError_ok.mp base)
    exact ⟨info, mapError_ok.mp resolved, same, mapError_ok.mp opened, mapError_ok.mp measured,
      gives_inspectImage.mp inspected, path, ⟨expected, format, matching⟩, parent, kind, sizes,
      mapError_ok.mp hashed⟩
  · rintro ⟨info, found⟩
    have identity := gives_validatePathIdentity.mpr (steady canonical found.opened)
    obtain ⟨expected, format, matching⟩ := found.format
    have base := validateBaseImage_ok.mpr
      ⟨expected, format, found.path, matching, ⟨found.parent, found.base⟩, found.size⟩
    refine gives_observe_bind.mpr (gives_lift_bind.mpr ⟨canonical, mapError_ok.mpr found.resolved, ?_⟩)
    refine gives_require_bind.mpr ⟨found.same, ?_⟩
    refine gives_observe_bind.mpr (gives_lift_bind.mpr ⟨(), mapError_ok.mpr found.opened, ?_⟩)
    refine gives_bind.mpr ⟨(), identity, ?_⟩
    refine gives_observe_bind.mpr (gives_lift_bind.mpr ⟨_, mapError_ok.mpr found.measured, ?_⟩)
    refine gives_require_bind.mpr ⟨decide_eq_true rfl, ?_⟩
    refine gives_bind.mpr ⟨info, gives_inspectImage.mpr found.inspected, ?_⟩
    refine gives_bind.mpr ⟨(), identity, ?_⟩
    refine gives_lift_bind.mpr ⟨(), mapError_ok.mpr base, ?_⟩
    refine gives_observe_bind.mpr (gives_lift_bind.mpr ⟨_, mapError_ok.mpr found.hashed, ?_⟩)
    refine gives_bind.mpr ⟨(), identity, ?_⟩
    exact gives_require_bind.mpr ⟨decide_eq_true rfl, gives_pure.mpr rfl⟩

/-- What a report without issues says. -/
structure Reported (w : StillWorld) (provider : String) (variant : ImageVariant)
    (canonical : PathBuf) (info : ProviderImageInfo) : Prop where
  found : Matches w provider variant canonical info
  extension : ∃ expected, providerImageFormat provider = .ok expected ∧
    variant.path.extension.any (eqIgnoreAsciiCase · expected) = true
  registered : eqIgnoreAsciiCase info.diskFormat variant.diskFormat = true
  plain : eqIgnoreAsciiCase info.diskType "overlay" = false

theorem issueIf_eq_nil {present : Bool} {issue : ImageValidationIssue} :
    issueIf present issue = [] ↔ present = false := by
  cases present <;> simp [issueIf]

/-- A registered image is reported as usable exactly when nothing is held against it. -/
theorem usable_iff :
    (∃ report, w.Gives (validateImagePath w.site provider variant.path (some variant)) report ∧
      report.usable = true) ↔ ∃ canonical info, Reported w provider variant canonical info := by
  constructor
  · rintro ⟨report, given, usable⟩
    obtain ⟨expected, format, given⟩ := gives_lift_bind.mp given
    dsimp only at given
    split at given
    · rw [gives_pure.mp given] at usable
      cases usable
    rename_i extension
    replace given := gives_observe_bind.mp given
    cases resolved : w.answers (.canonicalImagePath variant.path) with
    | error error =>
        rw [resolved] at given
        rw [gives_pure.mp given] at usable
        cases usable
    | ok canonical =>
    rw [resolved] at given
    replace given := gives_observe_bind.mp given
    cases opened : w.answers (.openImmutableParent canonical) with
    | error error =>
        rw [opened] at given
        rw [gives_pure.mp given] at usable
        cases usable
    | ok nothing =>
    rw [opened] at given
    replace given := gives_observe_bind.mp given
    cases measured : w.answers (.fileSize canonical) with
    | error error =>
        rw [measured] at given
        rw [gives_pure.mp given] at usable
        cases usable
    | ok fileSize =>
    rw [measured] at given
    obtain ⟨info, inspected, given⟩ := gives_bind.mp given
    replace given := gives_observe_bind.mp given
    rw [gives_pure.mp given] at usable
    have none := of_decide_eq_true usable
    simp only [providerIssues, registeredIssues, Option.elim, List.append_eq_nil_iff,
      issueIf_eq_nil, List.nil_append, Bool.not_eq_false', Bool.or_eq_false_iff,
      decide_eq_false_iff_not, not_not, Option.isNone_eq_false_iff,
      Option.isSome_eq_false_iff, Option.isNone_iff_eq_none] at none
    obtain ⟨⟨⟨⟨⟨path, matching⟩, parent⟩, base, plain⟩, sizes⟩, -⟩ := none.1
    obtain ⟨⟨⟨same, drift⟩, size⟩, digest⟩ := none.2
    have hashed : w.answers (.sha256File canonical) = .ok variant.sha256 := by
      cases read : w.answers (.sha256File canonical) with
      | error error =>
          rw [read] at digest
          cases digest
      | ok sha256 =>
          rw [read] at digest
          exact congrArg _ (Option.some.inj digest)
    exact ⟨canonical, info, ⟨resolved, same, opened, size ▸ measured,
      gives_inspectImage.mp inspected, path, ⟨expected, format, matching⟩, parent, base,
      sizes.trans size, hashed⟩, ⟨expected, format, by simpa using extension⟩, drift, plain⟩
  · rintro ⟨canonical, info, found, ⟨expected, format, extension⟩, registered, plain⟩
    obtain ⟨other, sameFormat, matching⟩ := found.format
    obtain rfl : other = expected := Except.ok.inj (sameFormat.symm.trans format)
    have issues : providerIssues w.site canonical other variant.fileSize info = [] ∧
        registeredIssues w.site canonical variant.fileSize info (some variant.sha256) variant =
          [] := by
      simp [providerIssues, registeredIssues, issueIf_eq_nil, found.path, matching, found.parent,
        found.base, plain, found.size, found.same, registered]
    refine ⟨⟨canonical, other, some info.diskFormat, some info.diskType, info.parentPath,
      some variant.fileSize, some info.virtualSize, some variant.sha256, some variant.sha256, true,
      []⟩, gives_lift_bind.mpr ⟨other, format, ?_⟩, rfl⟩
    dsimp only
    rw [if_neg (by simp [extension])]
    refine gives_observe_bind.mpr ?_
    rw [found.resolved]
    refine gives_observe_bind.mpr ?_
    rw [found.opened]
    refine gives_observe_bind.mpr ?_
    rw [found.measured]
    refine gives_bind.mpr ⟨info, gives_inspectImage.mpr found.inspected, ?_⟩
    refine gives_observe_bind.mpr ?_
    rw [found.hashed]
    refine gives_pure.mpr ?_
    simp [issues.1, issues.2, Except.toOption, issueIf]

end Use

section Registration
variable {site : Site} {provider : String} {record : ImageRecord} {s : Store}

/-- A path without links resolves to one with the same extension, up to case. -/
def KeepsExtension (path canonical : PathBuf) : Prop :=
  ∀ expected, path.extension.any (eqIgnoreAsciiCase · expected) = true →
    canonical.extension.any (eqIgnoreAsciiCase · expected) = true

/-- A host that resolves paths so. Nothing else is asked of any answer. -/
def registering : Effects signature Store := fun op _ reply _ =>
  match op, reply with
  | .observe (.canonicalImagePath path), reply =>
      ∀ canonical, reply = .ok canonical → KeepsExtension path canonical
  | _, _ => True

/-- The record is one that a registration saves. -/
def RegisteredBy (provider : String) (record : ImageRecord) : Prop :=
  ∃ site request s t next, Proc.Comes registering (registerImageLocked site provider request) s
    (.call (.mutate (.saveImageNew record)) next) t

/-- One variant, in the format of its provider and with its extension. -/
structure SoundVariant (provider : String) (variant : ImageVariant) : Prop where
  owner : variant.provider = provider
  format : ∃ expected, providerImageFormat provider = .ok expected ∧
    variant.path.extension.any (eqIgnoreAsciiCase · expected) = true ∧
    eqIgnoreAsciiCase variant.diskFormat expected = true

def SoundReport (provider : String) (report : ImageValidationReport) : Prop :=
  report.usable = true → ∃ expected, providerImageFormat provider = .ok expected ∧
    report.path.extension.any (eqIgnoreAsciiCase · expected) = true ∧
    ∀ observed, report.observedFormat = some observed →
      eqIgnoreAsciiCase observed expected = true

/-- Only sound records are saved. -/
def SavesSound (provider : String) (op : Op) (_ : Store) : Prop :=
  ∀ record, op = .mutate (.saveImageNew record) →
    ∃ variant, record.variants = [variant] ∧ SoundVariant provider variant

theorem within_asks {o : Observation} {good : o.Answer → Store → Prop}
    {bad : EngineError → Store → Prop}
    (after : ∀ (answer : o.Answer) t, registering (.observe o) s answer t → good answer t) :
    Within registering (SavesSound provider) good bad (observe o) s :=
  Within.effect (I := signature) nofun fun reply t told => after reply t told

theorem soundReport_of_unusable {report : ImageValidationReport}
    (unusable : report.usable = false) : SoundReport provider report := by
  intro usable
  rw [unusable] at usable
  cases usable

theorem within_validateImagePath {path : PathBuf} :
    Within registering (SavesSound provider) (fun report _ => SoundReport provider report)
      (fun _ _ => True) (validateImagePath site provider path none) s := by
  unfold validateImagePath
  refine Within.bind (Within.lift (fun expected format => ?_) fun _ _ => trivial)
  refine Within.ite (fun _ => Within.pure (soundReport_of_unusable rfl)) fun extension => ?_
  refine Within.bind (within_asks fun resolved t told => ?_)
  rcases resolved with _ | canonical
  · exact Within.pure (soundReport_of_unusable rfl)
  have kept := told canonical rfl expected (by simpa using extension)
  refine Within.bind (within_asks fun opened t _ => ?_)
  rcases opened with _ | ⟨⟩
  · exact Within.pure (soundReport_of_unusable rfl)
  refine Within.bind (within_asks fun measured t _ => ?_)
  rcases measured with _ | fileSize
  · exact Within.pure (soundReport_of_unusable rfl)
  unfold validateOpened inspectImage
  refine Within.bind (Within.bind (within_asks fun answer t _ =>
    Within.lift (fun info _ => ?_) fun _ _ => trivial))
  refine Within.bind (within_asks fun hashed t _ => Within.pure ?_)
  intro usable
  refine ⟨expected, format, kept, fun observed same => ?_⟩
  obtain rfl := Option.some.inj same
  have none := of_decide_eq_true usable
  simp only [providerIssues, List.append_eq_nil_iff, issueIf_eq_nil, Bool.not_eq_false'] at none
  exact none.1.1.2.1.1.1.2

theorem soundVariant_of_registered {report : ImageValidationReport} {variant : ImageVariant}
    (sound : SoundReport provider report)
    (chosen : registeredVariant provider report = .ok variant) :
    SoundVariant provider variant := by
  obtain ⟨usable, chosen⟩ := bind_unit_ok.mp chosen
  obtain ⟨observed, proven, chosen⟩ := bind_ok.mp chosen
  obtain ⟨sha256, -, chosen⟩ := bind_ok.mp chosen
  obtain ⟨fileSize, -, chosen⟩ := bind_ok.mp chosen
  obtain rfl := Except.ok.inj chosen
  obtain ⟨expected, format, extension, matching⟩ := sound (require_ok.mp usable)
  refine ⟨rfl, expected, format, extension, matching observed ?_⟩
  unfold unproven at proven
  split at proven
  · cases proven
  · rename_i value known
    rw [known, Except.ok.inj proven]

theorem within_registration {request : RegisterImageRequest} :
    Within registering (SavesSound provider) (fun _ _ => True) (fun _ _ => True)
      (registerImageLocked site provider request) s := by
  unfold registerImageLocked
  refine Within.bind (within_validateImagePath.weaken (fun report t sound => ?_) fun _ _ h => h)
  refine Within.bind (Within.lift (fun variant chosen => ?_) fun _ _ => trivial)
  have fine := soundVariant_of_registered sound chosen
  refine Within.bind (within_asks fun time t _ => ?_)
  unfold settleRegistration
  refine Within.bind (Within.attempt (Within.effect (I := signature) nofun fun reply u _ => ?_))
  have saved : ∀ u, Within registering (SavesSound provider) (fun _ _ => True) (fun _ _ => True)
      (do
        mutate (.saveImageNew ⟨imageSchemaVersion, request.id, request.guestOs,
          request.guestArch, [variant], time⟩)
        pure (⟨imageSchemaVersion, request.id, request.guestOs, request.guestArch, [variant],
          time⟩ : ImageRecord)) u := by
    intro u
    refine Within.bind (Within.effect (I := signature) ?_ fun reply t _ => ?_)
    · intro record same
      cases same
      exact ⟨variant, rfl, fine⟩
    · cases reply <;> trivial
  rcases reply with error | existing
  · cases error with
    | notFound path => exact saved u
    | _ => exact Within.fail trivial
  · exact Within.ite (fun _ => Within.pure trivial) fun _ => Within.fail trivial

theorem sound_of_registered (registered : RegisteredBy provider record) :
    ∃ variant, record.variants = [variant] ∧ SoundVariant provider variant := by
  obtain ⟨site, request, s, t, next, comes⟩ := registered
  exact (within_registration.comes comes).1 record rfl

end Registration

section Agreement
variable {w : StillWorld} {provider : String} {record : ImageRecord} {variant : ImageVariant}

/-- The image is reported as usable. -/
def ReportsUsable (w : StillWorld) (provider : String) (imageId : ImageId) : Prop :=
  ∃ report, w.Gives (validateRegisteredImage w.site provider imageId) report ∧
    report.usable = true

/-- The gate of creation and start lets the variant of the provider pass. -/
def Verifies (w : StillWorld) (provider : String) (record : ImageRecord) : Prop :=
  ∃ variant canonical, providerVariant record provider = .ok variant ∧
    w.Gives (verifyRegisteredImage w.site provider variant) canonical

/-- The registered file, which the provider calls an overlay without naming a parent. -/
def Mislabelled (w : StillWorld) (provider : String) (variant : ImageVariant) : Prop :=
  ∃ canonical info, Matches w provider variant canonical info ∧
    eqIgnoreAsciiCase info.diskType "overlay" = true

theorem eqIgnoreAsciiCase_trans {left middle right : String}
    (first : eqIgnoreAsciiCase left right = true) (second : eqIgnoreAsciiCase middle right = true) :
    eqIgnoreAsciiCase left middle = true := by
  simp only [eqIgnoreAsciiCase, beq_iff_eq] at first second ⊢
  exact first.trans second.symm

/-- For a sound variant only the label of the disk tells the two checks apart. -/
theorem reported_iff_of_sound (sound : SoundVariant provider variant) {canonical : PathBuf}
    {info : ProviderImageInfo} :
    Reported w provider variant canonical info ↔
      Matches w provider variant canonical info ∧
        eqIgnoreAsciiCase info.diskType "overlay" = false := by
  constructor
  · intro reported
    exact ⟨reported.found, reported.plain⟩
  · rintro ⟨found, plain⟩
    obtain ⟨expected, format, extension, registered⟩ := sound.format
    obtain ⟨other, sameFormat, matching⟩ := found.format
    obtain rfl : other = expected := Except.ok.inj (sameFormat.symm.trans format)
    exact ⟨found, ⟨other, format, extension⟩, eqIgnoreAsciiCase_trans matching registered, plain⟩

/-- A provider that is not available answers no request for a report. -/
theorem reportsUsable_iff (stored : w.store.loadImage w.site record.id = .ok record)
    (single : record.variants = [variant]) (sound : SoundVariant provider variant) :
    ReportsUsable w provider record.id ↔ w.Gives (requireProviderAvailable provider) () ∧
      ∃ canonical info, Matches w provider variant canonical info ∧
        eqIgnoreAsciiCase info.diskType "overlay" = false := by
  have chosen : record.variants.filter (fun variant => variant.provider = provider) =
      [variant] := by
    simp [single, sound.owner]
  rw [← exists₂_congr fun canonical info => reported_iff_of_sound sound, ← usable_iff]
  unfold ReportsUsable validateRegisteredImage
  constructor
  · rintro ⟨report, given, usable⟩
    obtain ⟨⟨⟩, available, given⟩ := StillWorld.gives_bind.mp given
    obtain ⟨loaded, found, given⟩ := StillWorld.gives_bind.mp given
    obtain rfl : record = loaded :=
      Except.ok.inj (stored.symm.trans (StillWorld.gives_query.mp found))
    rw [chosen] at given
    exact ⟨available, report, given, usable⟩
  · rintro ⟨available, report, given, usable⟩
    refine ⟨report, StillWorld.gives_bind.mpr ⟨(), available, StillWorld.gives_bind.mpr
      ⟨record, StillWorld.gives_query.mpr stored, ?_⟩⟩, usable⟩
    rw [chosen]
    exact given

theorem verifies_iff (steady : w.Steady) (single : record.variants = [variant])
    (sound : SoundVariant provider variant) :
    Verifies w provider record ↔ ∃ canonical info, Matches w provider variant canonical info := by
  have chosen : providerVariant record provider = .ok variant := by
    simp [providerVariant, single, sound.owner]
  constructor
  · rintro ⟨other, canonical, picked, given⟩
    obtain rfl : variant = other := Except.ok.inj (chosen.symm.trans picked)
    exact ⟨canonical, (verified_iff steady).mp given⟩
  · rintro ⟨canonical, found⟩
    exact ⟨variant, canonical, chosen, (verified_iff steady).mpr found⟩

/-- A registered image is reported as usable exactly when the provider is available and the
gate lets the image pass, unless the provider calls the file an overlay that has no parent:
only the report refuses it then. -/
theorem image_checks_agree (registered : RegisteredBy provider record) (steady : w.Steady)
    (stored : w.store.loadImage w.site record.id = .ok record) :
    ReportsUsable w provider record.id ↔
      w.Gives (requireProviderAvailable provider) () ∧ Verifies w provider record ∧
        ¬ ∃ variant ∈ record.variants, Mislabelled w provider variant := by
  obtain ⟨variant, single, sound⟩ := sound_of_registered registered
  rw [reportsUsable_iff stored single sound, verifies_iff steady single sound, single]
  simp only [List.mem_singleton, exists_eq_left, Mislabelled]
  refine and_congr_right fun _ => ?_
  constructor
  · rintro ⟨canonical, info, found, plain⟩
    refine ⟨⟨canonical, info, found⟩, ?_⟩
    rintro ⟨canonical', info', found', overlay⟩
    -- the world stands still, so both are the same file with the same description
    obtain rfl : canonical = canonical' :=
      Except.ok.inj (found.resolved.symm.trans found'.resolved)
    obtain rfl : info = info' := Except.ok.inj (found.inspected.symm.trans found'.inspected)
    rw [overlay] at plain
    cases plain
  · rintro ⟨⟨canonical, info, found⟩, labelled⟩
    refine ⟨canonical, info, found, ?_⟩
    by_contra overlay
    exact labelled ⟨canonical, info, found, by simpa using overlay⟩

end Agreement

namespace Exemplar

def installed : ProviderProbe := ⟨"qemu", .ready, true, "ready", idealCapabilities⟩

def missing : ProviderProbe :=
  ⟨"qemu", .unavailable, false, "QEMU system binary was not found", .unavailable⟩

/-- A host on which every file is in order, whatever the probe of the provider says. -/
def answersWith (probe : ProviderProbe) : (o : Observation) → o.Answer
  | .probe => probe
  | .inspectImage path => .ok ⟨path, "qcow2", "base", none, 1, 1⟩
  | .inspectVm _ => .ok none
  | .canonicalImagePath path => .ok path
  | .openImmutableParent _ | .validatePathIdentity _ => .ok ()
  | .fileSize _ => .ok 1
  | .sha256File _ => .ok digest
  | .readOrdinaryCopySource .. | .readJobCopySource .. => .ok []
  | .now => (5 : Int)
  | .instant => (0 : Nat)
  | .sleep _ => ()
  | .progress _ => .proceed

def imageRecord : ImageRecord :=
  ⟨imageSchemaVersion, image, .linux, .x86_64,
    [⟨"qemu", "qcow2", ⟨"/", ["images", "base.qcow2"]⟩, digest, 1⟩], 5⟩

def imageStore : Store :=
  { Store.empty with images := Store.empty.images.insert image imageRecord }

def imageWorld (probe : ProviderProbe) : StillWorld := ⟨site, imageStore, answersWith probe⟩

/-- The answers of that host to a registration, and a clock. -/
def registrar : Handler signature Store := fun op s =>
  match op with
  | .query q => (q.eval site s, s)
  | .mutate _ => (.error .mutationBusy, s)
  | .provider .. => (.error (.authority ""), s)
  | .transport .. => (.error .transport, s)
  | .observe o => (answersWith installed o, s)
  | .newUuid => (uuid 1, s)

theorem registered : RegisteredBy "qemu" imageRecord := by
  have fits : ∀ op s, registering op s (registrar op s).1 (registrar op s).2 := by
    intro op s
    cases op with
    | observe o =>
        cases o with
        | canonicalImagePath path =>
            intro canonical same expected extension
            obtain rfl := Except.ok.inj same
            exact extension
        | _ => trivial
    | _ => trivial
  have comes := Proc.comes_drive fits 7 (p := registerImageLocked site "qemu"
    ⟨image, .linux, .x86_64, ⟨"/", ["images", "base.qcow2"]⟩⟩) (s := Store.empty)
  exact ⟨site, _, Store.empty, _, _, comes⟩

theorem imageWorld_steady (probe : ProviderProbe) : (imageWorld probe).Steady := fun _ _ => rfl

theorem imageStore_loads : imageStore.loadImage site imageRecord.id = .ok imageRecord := by
  decide

theorem imageWorld_verifies (probe : ProviderProbe) :
    Verifies (imageWorld probe) "qemu" imageRecord := by
  have same : pathsEqual site.platform ⟨"/", ["images", "base.qcow2"]⟩
      ⟨"/", ["images", "base.qcow2"]⟩ = true := by decide
  refine ⟨_, ⟨"/", ["images", "base.qcow2"]⟩, rfl, (verified_iff fun _ _ => rfl).mpr
    ⟨⟨⟨"/", ["images", "base.qcow2"]⟩, "qcow2", "base", none, 1, 1⟩, ?_⟩⟩
  exact ⟨rfl, same, rfl, rfl, rfl, same, ⟨"qcow2", rfl, by decide⟩, rfl, by decide, rfl, rfl⟩

end Exemplar

theorem image_checks_agree_on_base :
    ReportsUsable (Exemplar.imageWorld Exemplar.installed) "qemu" Exemplar.image := by
  refine (image_checks_agree Exemplar.registered (Exemplar.imageWorld_steady _)
    Exemplar.imageStore_loads).mpr ⟨rfl, Exemplar.imageWorld_verifies _, ?_⟩
  rintro ⟨variant, -, canonical, info, found, overlay⟩
  obtain rfl := Except.ok.inj (found.inspected : Except.ok _ = _)
  change eqIgnoreAsciiCase "base" "overlay" = true at overlay
  exact absurd overlay (by decide)

/-- With a provider that is not available there is no report, and the gate still lets the
image pass. -/
theorem image_passes_without_report :
    RegisteredBy "qemu" Exemplar.imageRecord ∧ (Exemplar.imageWorld Exemplar.missing).Steady ∧
      Exemplar.imageStore.loadImage Exemplar.site Exemplar.image = .ok Exemplar.imageRecord ∧
      Verifies (Exemplar.imageWorld Exemplar.missing) "qemu" Exemplar.imageRecord ∧
      ¬ReportsUsable (Exemplar.imageWorld Exemplar.missing) "qemu" Exemplar.image := by
  refine ⟨Exemplar.registered, Exemplar.imageWorld_steady _, Exemplar.imageStore_loads,
    Exemplar.imageWorld_verifies _, ?_⟩
  rintro ⟨report, given, -⟩
  obtain ⟨⟨⟩, available, -⟩ := StillWorld.gives_bind.mp given
  cases available

end VmCell
