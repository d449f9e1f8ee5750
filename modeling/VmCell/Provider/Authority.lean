import Mathlib.Data.List.DropRight
import VmCell.Engine.Ownership

/-! The provider's own checks on what the engine asks of it.

An authority carries the record, the installation and the pinned runtime of one
mutation. Every verb checks its request against them before it does anything.
-/

set_option autoImplicit false
namespace VmCell

open Interaction

section Paths

def utf8Length (text : List Char) : Nat := (text.map Char.utf8Size).sum

/-- Takes separators off the front of a reversed text, but never down to less than
a drive root. -/
def popSeparators : List Char → List Char
  | [] => []
  | letter :: rest =>
      if letter = '\\' ∧ 3 < utf8Length (letter :: rest) then popSeparators rest
      else letter :: rest

def providerPathIdentity (path : PathBuf) : List Char :=
  (popSeparators (stripExtendedPrefix path.backslashed).reverse).reverse

/-- What the checks see of the file system: where a path leads, if it can be
resolved, and whether the opened state root and runtime are still the same. -/
structure Filesystem where
  canonicalize : PathBuf → Option PathBuf
  stateRootUnchanged : Bool
  runtimeUnchanged : Bool

def Filesystem.canonical (fs : Filesystem) (path : PathBuf) : PathBuf :=
  (fs.canonicalize path).getD path

def providerPathsEqual (platform : Platform) (fs : Filesystem) (left right : PathBuf) : Bool :=
  match platform with
  | .windows =>
      asciiLowercase (providerPathIdentity left) == asciiLowercase (providerPathIdentity right)
  | .unix => fs.canonical left == fs.canonical right

end Paths

namespace ProviderMutationAuthority

section Checks
variable (platform : Platform) (fs : Filesystem) (authority : ProviderMutationAuthority)

def authorize (condition : Bool) (detail : String) : Except ProviderError Unit :=
  if condition then .ok () else .error (.authority detail)

def validateCommon : Except ProviderError Unit := do
  authorize fs.stateRootUnchanged "provider mutation state-root identity changed"
  authorize fs.runtimeUnchanged "provider mutation CellId runtime identity changed"
  authorize (authority.record.provider ≠ "" &&
      authority.record.ownership.installId = authority.installation.installId &&
      authority.record.id = authority.runtime.cellId &&
      providerPathsEqual platform fs authority.record.ownership.configurationPath
        authority.runtime.configurationPath &&
      providerPathsEqual platform fs authority.record.ownership.overlayPath
        authority.runtime.overlayPath)
    "provider mutation authority no longer matches installation/runtime identity"

def validateOverlayRequest (request : CreateOverlayRequest) : Except ProviderError Unit := do
  authority.validateCommon platform fs
  authorize (providerPathsEqual platform fs request.parentPath authority.record.image.path &&
      providerPathsEqual platform fs request.overlayPath authority.record.ownership.overlayPath)
    "overlay request is outside the authorized CellId runtime"

def validateCreateRequest (request : CreateVmRequest) : Except ProviderError Unit := do
  authority.validateCommon platform fs
  authorize (request.name = providerObjectName authority.record.id &&
      providerPathsEqual platform fs request.configurationPath
        authority.record.ownership.configurationPath &&
      providerPathsEqual platform fs request.overlayPath authority.record.ownership.overlayPath &&
      providerPathsEqual platform fs request.parentPath authority.record.image.path &&
      request.memoryMib = authority.record.spec.memoryMib &&
      request.cpuCount = authority.record.spec.cpuCount &&
      request.accelerator = authority.record.spec.accelerator &&
      request.allowTcg = authority.record.spec.allowTcg)
    "VM create request does not match the authorized CellId"

def diskAuthorized (vm : ProviderVm) : Bool :=
  match vm.attachedDisks with
  | [disk] => providerPathsEqual platform fs disk authority.record.ownership.overlayPath
  | _ => false

/-- What the three checks of an existing object have in common. -/
def objectAuthorized (vm : ProviderVm) : Bool :=
  vm.name = providerObjectName authority.record.id &&
    (authority.record.providerObject.map (·.id)) = some vm.id &&
    providerPathsEqual platform fs vm.configurationPath
      authority.record.ownership.configurationPath &&
    authority.diskAuthorized platform fs vm

def validateVm (vm : ProviderVm) : Except ProviderError Unit := do
  authority.validateCommon platform fs
  authorize (authority.objectAuthorized platform fs vm &&
      vm.ownershipMarker = authority.record.ownership.providerMarker &&
      !((authority.record.phase = .ready || authority.record.phase = .destroying) &&
        (vm.networkAdapterCount ≠ 0 || vm.cpuCount ≠ authority.record.spec.cpuCount ||
          vm.memoryMib ≠ authority.record.spec.memoryMib)))
    "provider VM snapshot does not match the authorized owned cell"

def validateClaimRequest (request : ClaimVmRequest) : Except ProviderError Unit := do
  authority.validateCommon platform fs
  authorize (authority.objectAuthorized platform fs request.expected &&
      request.ownershipMarker = authority.record.ownership.providerMarker &&
      request.expected.memoryMib = authority.record.spec.memoryMib &&
      (request.expected.ownershipMarker = "" ||
        request.expected.ownershipMarker = authority.record.ownership.providerMarker))
    "VM claim request does not match the authorized creation receipt"

def validateConfigureRequest (request : ConfigureVmRequest) : Except ProviderError Unit := do
  authority.validateCommon platform fs
  authorize (authority.objectAuthorized platform fs request.expected &&
      request.cpuCount = authority.record.spec.cpuCount &&
      request.expected.ownershipMarker = authority.record.ownership.providerMarker &&
      request.expected.memoryMib = authority.record.spec.memoryMib &&
      request.expected.powerState = .off && request.expected.networkAdapterCount ≤ 1)
    "VM configure request does not match the authorized cell specification"

/-- The check that each verb of a provider begins with. -/
def validateAction : ProviderAction → Except ProviderError Unit
  | .createOverlay request => authority.validateOverlayRequest platform fs request
  | .createVm request => authority.validateCreateRequest platform fs request
  | .claimVm request => authority.validateClaimRequest platform fs request
  | .configureVm request => authority.validateConfigureRequest platform fs request
  | .startVm expected | .stopVm expected | .removeVm expected =>
      authority.validateVm platform fs expected

end Checks

end ProviderMutationAuthority

section Comparison
variable {a b : PathBuf} {fs : Filesystem}

theorem toLower_eq_separator {letter : Char} : letter.toLower = '\\' ↔ letter = '\\' := by
  constructor
  · intro lowered
    unfold Char.toLower at lowered
    split at lowered
    · rename_i upper
      have value : (letter.val + 32).toNat = 92 := congrArg (fun c : Char => c.val.toNat) lowered
      have high : letter.val.toNat ≤ 90 := UInt32.le_iff_toNat_le.mp upper.2
      have low : 65 ≤ letter.val.toNat := UInt32.le_iff_toNat_le.mp upper.1
      rw [UInt32.toNat_add] at value
      change (letter.val.toNat + 32) % 2 ^ 32 = 92 at value
      omega
    · exact lowered
  · rintro rfl
    decide

theorem length_le_utf8Length (text : List Char) : text.length ≤ utf8Length text := by
  induction text with
  | nil => simp [utf8Length]
  | cons letter rest ih =>
      have positive := Char.utf8Size_pos letter
      simp only [utf8Length, List.map_cons, List.sum_cons, List.length_cons] at ih ⊢
      omega

/-- A text that stays longer than a drive root loses all its separators. -/
theorem popSeparators_eq {text : List Char}
    (deep : 3 ≤ (text.dropWhile (· == '\\')).length) :
    popSeparators text = text.dropWhile (· == '\\') := by
  induction text with
  | nil => rfl
  | cons letter rest ih =>
      by_cases separator : letter = '\\'
      · subst separator
        have dropped : ('\\' :: rest).dropWhile (· == '\\') = rest.dropWhile (· == '\\') := by simp
        rw [dropped] at deep ⊢
        have short := (List.dropWhile_suffix (l := rest) (· == '\\')).length_le
        have long := length_le_utf8Length ('\\' :: rest)
        rw [List.length_cons] at long
        rw [popSeparators, if_pos ⟨rfl, by omega⟩]
        exact ih deep
      · simp [popSeparators, separator]

theorem dropWhile_popSeparators (text : List Char) :
    (popSeparators text).dropWhile (· == '\\') = text.dropWhile (· == '\\') := by
  induction text with
  | nil => rfl
  | cons letter rest ih =>
      rw [popSeparators]
      split
      · rename_i both
        rw [ih, both.1]
        simp
      · rfl

theorem dropTrailing_zero (letter : Char) (text : List Char) :
    dropTrailing letter 0 text = (text.reverse.dropWhile (· == letter)).reverse := by
  have cut : text.reverse.drop (text.reverse.takeWhile (· == letter)).length =
      text.reverse.dropWhile (· == letter) := by
    have split := List.takeWhile_append_dropWhile (p := (· == letter)) (l := text.reverse)
    calc text.reverse.drop (text.reverse.takeWhile (· == letter)).length
      _ = (text.reverse.takeWhile (· == letter) ++ text.reverse.dropWhile (· == letter)).drop
            (text.reverse.takeWhile (· == letter)).length := by rw [split]
      _ = text.reverse.dropWhile (· == letter) := List.drop_left
  have bound := (List.takeWhile_prefix (l := text.reverse) (· == letter)).length_le
  simp only [dropTrailing, Nat.sub_zero, Nat.min_eq_left bound, cut]

theorem windowsPathIdentity_eq (path : PathBuf) : windowsPathIdentity path =
    ((stripExtendedPrefix path.backslashed).reverse.dropWhile (· == '\\')).reverse :=
  dropTrailing_zero _ _

/-- A path below a drive root, however it is written. -/
def Deep (path : PathBuf) : Prop := 3 ≤ (windowsPathIdentity path).length

theorem Deep.identity (deep : Deep a) : providerPathIdentity a = windowsPathIdentity a := by
  unfold Deep at deep
  rw [windowsPathIdentity_eq, List.length_reverse] at deep
  rw [providerPathIdentity, popSeparators_eq deep, windowsPathIdentity_eq]

theorem length_asciiLowercase (text : List Char) : (asciiLowercase text).length = text.length := by
  simp [asciiLowercase]

theorem Deep.of_equal {platform : Platform} (deep : Deep b)
    (same : pathsEqual platform a b = true) : Deep a := by
  cases platform with
  | unix =>
      obtain rfl := beq_iff_eq.mp same
      exact deep
  | windows =>
      have lengths := congrArg List.length (beq_iff_eq.mp same)
      rw [length_asciiLowercase, length_asciiLowercase] at lengths
      unfold Deep
      rw [lengths]
      exact deep

/-- What the engine takes for one path the provider does too, below a drive root. -/
theorem providerPathsEqual_of_pathsEqual {platform : Platform}
    (same : pathsEqual platform a b = true) (deep : Deep b) :
    providerPathsEqual platform fs a b = true := by
  cases platform with
  | unix =>
      obtain rfl := beq_iff_eq.mp same
      simp [providerPathsEqual]
  | windows =>
      have high := deep.of_equal same
      simp only [providerPathsEqual, high.identity, deep.identity]
      exact same

theorem asciiLowercase_dropWhile (text : List Char) :
    asciiLowercase (text.dropWhile (· == '\\')) =
      (asciiLowercase text).dropWhile (· == '\\') := by
  induction text with
  | nil => rfl
  | cons letter rest ih =>
      by_cases separator : letter = '\\'
      · subst separator
        simpa [asciiLowercase] using ih
      · have lowered : letter.toLower ≠ '\\' := fun same =>
          separator (toLower_eq_separator.mp same)
        simp [asciiLowercase, separator, lowered]

/-- The path is resolved to itself, or not at all. -/
def Filesystem.Resolved (fs : Filesystem) (path : PathBuf) : Prop :=
  fs.canonicalize path = none ∨ fs.canonicalize path = some path

theorem Filesystem.Resolved.canonical {path : PathBuf} (resolved : fs.Resolved path) :
    fs.canonical path = path := by
  unfold Filesystem.canonical
  rcases resolved with unresolved | resolved
  · rw [unresolved]
    rfl
  · rw [resolved]
    rfl

/-- What the provider takes for one path the engine does too. -/
theorem pathsEqual_of_providerPathsEqual {platform : Platform} (left : fs.Resolved a)
    (right : fs.Resolved b) (same : providerPathsEqual platform fs a b = true) :
    pathsEqual platform a b = true := by
  cases platform with
  | unix =>
      have equal := beq_iff_eq.mp same
      rw [left.canonical, right.canonical] at equal
      simp [pathsEqual, equal]
  | windows =>
      -- both comparisons come to the same once every separator is dropped
      have lowered : ∀ path : PathBuf, asciiLowercase (windowsPathIdentity path) =
          ((asciiLowercase (providerPathIdentity path)).reverse.dropWhile (· == '\\')).reverse := by
        intro path
        rw [windowsPathIdentity_eq, ← dropWhile_popSeparators]
        simp only [providerPathIdentity, asciiLowercase, List.map_reverse, List.reverse_reverse]
        rw [← asciiLowercase, asciiLowercase_dropWhile, asciiLowercase]
      have equal := beq_iff_eq.mp same
      simp only [pathsEqual, lowered, equal, beq_self_eq_true]

end Comparison

section Depth
variable {path : PathBuf} {component : String} {text rest : List Char}

/-- Letters that separate nothing. -/
def Unseparated (text : List Char) : Prop := ∀ letter ∈ text, letter ≠ '\\' ∧ letter ≠ '/'

theorem infix_intercalate {separator : String} {components : List String}
    (member : component ∈ components) :
    component.toList <:+: (String.intercalate separator components).toList := by
  induction components with
  | nil => cases member
  | cons first others ih =>
      cases others with
      | nil =>
          obtain rfl := List.mem_singleton.mp member
          simp only [String.intercalate_singleton, List.infix_rfl]
      | cons second others =>
          rw [String.intercalate_cons_cons, String.toList_append, String.toList_append]
          rcases List.mem_cons.mp member with rfl | later
          · rw [List.append_assoc]
            exact (List.prefix_append _ _).isInfix
          · exact (ih later).trans (List.suffix_append _ _).isInfix

/-- A component without separators is found in the text of the path. -/
theorem infix_backslashed (member : component ∈ path.components)
    (plain : Unseparated component.toList) : component.toList <:+: path.backslashed := by
  have unchanged : component.toList.map (fun letter => if letter = '/' then '\\' else letter) =
      component.toList := by
    refine (List.map_congr_left fun letter within => ?_).trans (List.map_id _)
    rw [if_neg (plain letter within).2]
    rfl
  rw [← unchanged]
  refine List.IsInfix.map _ ?_
  rw [PathBuf.display, String.toList_append]
  exact (infix_intercalate member).trans (List.suffix_append _ _).isInfix

/-- A prefix that ends with a separator ends before the component begins. -/
theorem separator_before {before after : List Char} {place : Nat} (long : place < text.length)
    (plain : Unseparated text)
    (separator : (before ++ text ++ after)[place]? = some '\\') : place < before.length := by
  by_contra short
  have inside : (before ++ text ++ after)[place]? = text[place - before.length]? := by
    rw [List.append_assoc, List.getElem?_append_right (by omega), List.getElem?_append_left (by omega)]
  rw [inside] at separator
  exact (plain _ (List.mem_of_getElem? separator)).1 rfl

theorem infix_stripExtendedPrefix {whole : List Char} (found : text <:+: whole)
    (long : 8 < text.length) (plain : Unseparated text) :
    text <:+: stripExtendedPrefix whole := by
  obtain ⟨before, after, rfl⟩ := found
  have ends : ∀ place start, asciiLowercase ((before ++ text ++ after).take (place + 1)) = start →
      start[place]? = some '\\' → place < 8 → place < before.length := by
    rintro place _ rfl separator small
    rw [asciiLowercase, List.getElem?_map, Option.map_eq_some_iff] at separator
    obtain ⟨letter, found, lowered⟩ := separator
    rw [toLower_eq_separator.mp lowered, List.getElem?_take_of_lt (by omega)] at found
    exact separator_before (by omega) plain found
  have dropped : ∀ count, count ≤ before.length →
      text <:+: (before ++ text ++ after).drop count := by
    intro count within
    refine ⟨before.drop count, after, ?_⟩
    rw [List.append_assoc, List.append_assoc, List.drop_append_of_le_length within]
  unfold stripExtendedPrefix
  split
  · rename_i extended
    refine (dropped 8 (ends 7 _ extended (by decide) (by omega))).trans ?_
    exact (List.suffix_append ['\\', '\\'] _).isInfix
  · split
    · rename_i extended
      exact dropped 4 (ends 3 _ extended (by decide) (by omega))
    · exact ⟨before, after, rfl⟩

theorem length_le_dropWhile {letter separator : Char} (stays : letter ≠ separator)
    (front : List Char) :
    (letter :: rest).length ≤ ((front ++ letter :: rest).dropWhile (· == separator)).length := by
  induction front with
  | nil => simp [stays]
  | cons first front ih =>
      rw [List.cons_append, List.dropWhile_cons]
      split
      · exact ih
      · simp only [List.length_cons, List.length_append]
        omega

theorem deep_of_component (member : component ∈ path.components)
    (long : 8 < component.toList.length) (plain : Unseparated component.toList) : Deep path := by
  obtain ⟨before, after, whole⟩ :=
    infix_stripExtendedPrefix (infix_backslashed member plain) long plain
  obtain ⟨letter, front, reversed⟩ : ∃ letter front, component.toList.reverse = letter :: front := by
    cases shape : component.toList.reverse with
    | nil =>
        rw [← List.length_reverse, shape] at long
        cases long
    | cons letter front => exact ⟨letter, front, rfl⟩
  have last : letter ∈ component.toList := by
    rw [← List.mem_reverse, reversed]
    exact List.mem_cons_self
  have length : component.toList.length = front.length + 1 := by
    rw [← List.length_reverse, reversed, List.length_cons]
  have bound : (letter :: (front ++ before.reverse)).length ≤
      ((after.reverse ++ letter :: (front ++ before.reverse)).dropWhile (· == '\\')).length :=
    length_le_dropWhile (plain letter last).1 after.reverse
  unfold Deep
  rw [windowsPathIdentity_eq, ← whole, List.length_reverse, List.reverse_append,
    List.reverse_append, reversed]
  simp only [List.length_cons, List.length_append, List.cons_append] at bound ⊢
  omega

theorem splitComponents_unseparated (plain : ∀ letter ∈ text, letter ≠ '/') (piece : List Char) :
    splitComponents (· == '/') text piece = splitComponents.keep (piece ++ text) := by
  induction text generalizing piece with
  | nil => simp [splitComponents]
  | cons letter rest ih =>
      have other : (letter == '/') = false := by simp [plain letter List.mem_cons_self]
      rw [splitComponents, other]
      have rest := ih (fun next within => plain next (List.mem_cons_of_mem _ within)) (piece ++ [letter])
      simpa using rest

theorem Uuid.unseparated (value : Uuid) : Unseparated value.chars := by
  have digit : ∀ digit : Fin 16, hexChar digit ≠ '\\' ∧ hexChar digit ≠ '/' := by decide
  have digits : ∀ letter ∈ value.digits.map hexChar, letter ≠ '\\' ∧ letter ≠ '/' := by
    intro letter within
    obtain ⟨place, _, rfl⟩ := List.mem_map.mp within
    exact digit place
  have hyphen : '-' ≠ '\\' ∧ '-' ≠ '/' := by decide
  intro letter within
  simp only [Uuid.chars, hyphenate, List.mem_append, List.mem_cons] at within
  rcases within with (((inside | rfl | inside) | rfl | inside) | rfl | inside) | rfl | inside
  · exact digits _ (List.mem_of_mem_take inside)
  · exact hyphen
  · exact digits _ (List.mem_of_mem_drop (List.mem_of_mem_take inside))
  · exact hyphen
  · exact digits _ (List.mem_of_mem_drop (List.mem_of_mem_take inside))
  · exact hyphen
  · exact digits _ (List.mem_of_mem_drop (List.mem_of_mem_take inside))
  · exact hyphen
  · exact digits _ (List.mem_of_mem_drop inside)

/-- Every path of a cell's runtime lies deep enough. -/
theorem deep_runtime (site : Site) (cellId : CellId) (name : String) :
    Deep ((site.cellRuntimeRoot cellId).join name) := by
  have chars : cellId.toText.toList = cellId.value.chars := String.toList_ofList
  have length := cellId.value.length_chars
  have member : cellId.toText ∈ (site.cellRuntimeRoot cellId).components := by
    have plain : ∀ letter ∈ cellId.toText.toList, letter ≠ '/' := by
      rw [chars]
      exact fun letter within => (cellId.value.unseparated letter within).2
    have kept : splitComponents.keep cellId.toText.toList = [cellId.toText] := by
      have some : ¬(cellId.toText.toList = [] ∨ cellId.toText.toList = ['.']) := by
        rintro (none | one)
        · rw [chars] at none
          rw [none] at length
          cases length
        · rw [chars] at one
          rw [one] at length
          cases length
      rw [splitComponents.keep, if_neg some, String.ofList_toList]
    simp only [Site.cellRuntimeRoot, PathBuf.join, splitComponents_unseparated plain,
      List.nil_append, kept, List.mem_append, List.mem_singleton, or_true]
  refine deep_of_component (List.mem_append_left _ member) ?_ ?_
  · rw [chars, length]
    decide
  · rw [chars]
    exact cellId.value.unseparated

end Depth

section Acceptance
variable {site : Site} {provider : String} {fs : Filesystem} {authority : ProviderMutationAuthority}
  {vm : ProviderVm}

/-- Neither the state root nor the runtime directory was replaced. -/
structure Filesystem.Unchanged (fs : Filesystem) : Prop where
  stateRoot : fs.stateRootUnchanged = true
  runtime : fs.runtimeUnchanged = true

/-- An authority as the engine issues it: for a record it owns, with the runtime
pinned for that record. -/
structure Issued (site : Site) (provider : String) (authority : ProviderMutationAuthority) :
    Prop where
  named : provider ≠ ""
  owned : LocallyOwned site provider authority.record authority.installation.installId
  runtime : authority.runtime = ⟨authority.record.id,
    authority.record.ownership.configurationPath, authority.record.ownership.overlayPath⟩

@[simp] theorem authorize_ok {condition : Bool} {detail : String} :
    ProviderMutationAuthority.authorize condition detail = .ok () ↔ condition = true := by
  cases condition <;> simp [ProviderMutationAuthority.authorize]

theorem providerPathsEqual_refl (platform : Platform) (path : PathBuf) :
    providerPathsEqual platform fs path path = true := by
  cases platform <;> simp [providerPathsEqual]

theorem Issued.common (issued : Issued site provider authority) (unchanged : fs.Unchanged) :
    authority.validateCommon site.platform fs = .ok () := by
  have named : authority.record.provider ≠ "" := by
    rw [issued.owned.selected]
    exact issued.named
  simp only [ProviderMutationAuthority.validateCommon, bind_unit_ok, authorize_ok,
    unchanged.stateRoot, unchanged.runtime, issued.runtime, providerPathsEqual_refl,
    issued.owned.installed, named, ne_eq, not_false_eq_true, decide_true, Bool.and_self, and_self]

theorem attachedDiskMatches_iff {platform : Platform} {record : CellRecord} :
    attachedDiskMatches platform record vm = true ↔
      ∃ disk, vm.attachedDisks = [disk] ∧
        pathsEqual platform disk record.ownership.overlayPath = true := by
  unfold attachedDiskMatches
  split
  · simp_all
  · rename_i several
    simpa using fun disk only => absurd only (several disk)

theorem diskAuthorized_iff : authority.diskAuthorized site.platform fs vm = true ↔
    ∃ disk, vm.attachedDisks = [disk] ∧ providerPathsEqual site.platform fs disk
      authority.record.ownership.overlayPath = true := by
  unfold ProviderMutationAuthority.diskAuthorized
  split
  · simp_all
  · rename_i several
    simpa using fun disk only => absurd only (several disk)

/-- A snapshot that the engine identified is the authorised object. -/
theorem Issued.object (issued : Issued site provider authority)
    (identified : Identified site.platform authority.record vm) :
    authority.objectAuthorized site.platform fs vm = true := by
  have name : vm.name = providerObjectName authority.record.id :=
    identified.name.trans issued.owned.name
  have configuration : providerPathsEqual site.platform fs vm.configurationPath
      authority.record.ownership.configurationPath = true :=
    providerPathsEqual_of_pathsEqual identified.configuration
      ((deep_runtime site _ provider).of_equal issued.owned.configuration)
  have disk : authority.diskAuthorized site.platform fs vm = true := by
    obtain ⟨disk, only, attached⟩ := attachedDiskMatches_iff.mp identified.disk
    exact diskAuthorized_iff.mpr ⟨disk, only, providerPathsEqual_of_pathsEqual attached
      ((deep_runtime site _ _).of_equal issued.owned.overlay)⟩
  simp [ProviderMutationAuthority.objectAuthorized, name, configuration, disk, identified.recorded]

theorem Issued.overlay (issued : Issued site provider authority) (unchanged : fs.Unchanged) :
    authority.validateOverlayRequest site.platform fs
      ⟨authority.record.image.path, authority.record.ownership.overlayPath⟩ = .ok () := by
  simp [ProviderMutationAuthority.validateOverlayRequest, bind_unit_ok, issued.common unchanged,
    providerPathsEqual_refl]

theorem Issued.claim (issued : Issued site provider authority) (unchanged : fs.Unchanged)
    (proven : proveCreationIdentity site.platform authority.record vm false = .ok ()) :
    authority.validateClaimRequest site.platform fs
      ⟨vm, authority.record.ownership.providerMarker⟩ = .ok () := by
  obtain ⟨identified, marker, _, _⟩ := proveCreationIdentity_ok.mp proven
  have permitted : vm.ownershipMarker = "" ∨
      vm.ownershipMarker = authority.record.ownership.providerMarker := by
    rcases marker with own | ⟨_, empty⟩
    · exact Or.inr own
    · exact Or.inl empty
  simp [ProviderMutationAuthority.validateClaimRequest, bind_unit_ok, issued.common unchanged,
    issued.object identified, identified.memory, permitted]

theorem Issued.configure (issued : Issued site provider authority) (unchanged : fs.Unchanged)
    (proven : proveCreationIdentity site.platform authority.record vm true = .ok ()) :
    authority.validateConfigureRequest site.platform fs
      ⟨vm, authority.record.spec.cpuCount⟩ = .ok () := by
  obtain ⟨identified, marker, network, off⟩ := proveCreationIdentity_ok.mp proven
  have own : vm.ownershipMarker = authority.record.ownership.providerMarker :=
    marker.resolve_right fun optional => by cases optional.1
  simp [ProviderMutationAuthority.validateConfigureRequest, bind_unit_ok, issued.common unchanged,
    issued.object identified, identified.memory, own, network, off]

/-- What the check of an existing object asks for beyond its identity. -/
def Specified (record : CellRecord) (vm : ProviderVm) : Prop :=
  record.phase = .ready ∨ record.phase = .destroying →
    vm.networkAdapterCount = 0 ∧ vm.cpuCount = record.spec.cpuCount

theorem Issued.present (issued : Issued site provider authority) (unchanged : fs.Unchanged)
    (proven : proveDestroyIdentity site.platform authority.record vm = .ok ())
    (specified : Specified authority.record vm) :
    authority.validateVm site.platform fs vm = .ok () := by
  obtain ⟨identified, marker⟩ := proveDestroyIdentity_ok.mp proven
  have extra : (decide (authority.record.phase = .ready) ||
      decide (authority.record.phase = .destroying)) = true →
      vm.networkAdapterCount = 0 ∧ vm.cpuCount = authority.record.spec.cpuCount := by
    simpa [Specified] using specified
  have accepted : (!((authority.record.phase = .ready || authority.record.phase = .destroying) &&
      (vm.networkAdapterCount ≠ 0 || vm.cpuCount ≠ authority.record.spec.cpuCount ||
        vm.memoryMib ≠ authority.record.spec.memoryMib))) = true := by
    cases phase : (decide (authority.record.phase = .ready) ||
        decide (authority.record.phase = .destroying)) with
    | false => simp
    | true =>
        obtain ⟨network, cpu⟩ := extra phase
        simp [network, cpu, identified.memory]
  simp only [ProviderMutationAuthority.validateVm, bind_unit_ok, issued.common unchanged,
    issued.object identified, marker, accepted, authorize_ok, decide_true, Bool.and_self, and_self]

/-- Full ownership is enough in every phase. -/
theorem Issued.owned_vm (issued : Issued site provider authority) (unchanged : fs.Unchanged)
    (proven : proveOwnership site.platform authority.record vm = .ok ()) :
    authority.validateVm site.platform fs vm = .ok () := by
  obtain ⟨identified, marker, network, cpu⟩ := proveOwnership_ok.mp proven
  exact issued.present unchanged (proveDestroyIdentity_ok.mpr ⟨identified, marker⟩)
    fun _ => ⟨network, cpu⟩

/-- What destruction asks of an object, without its memory. -/
structure Recognised (platform : Platform) (record : CellRecord) (vm : ProviderVm) : Prop where
  recorded : record.providerObject = some ⟨vm.id, vm.name⟩
  name : vm.name = record.ownership.providerObjectName
  marker : vm.ownershipMarker = record.ownership.providerMarker
  configuration : pathsEqual platform vm.configurationPath record.ownership.configurationPath = true
  disk : attachedDiskMatches platform record vm = true

/-- Every path of the record and of the snapshot leads to itself. -/
structure Filesystem.Direct (fs : Filesystem) (record : CellRecord) (vm : ProviderVm) : Prop where
  recordConfiguration : fs.Resolved record.ownership.configurationPath
  recordOverlay : fs.Resolved record.ownership.overlayPath
  configuration : fs.Resolved vm.configurationPath
  disks : ∀ disk ∈ vm.attachedDisks, fs.Resolved disk

theorem Issued.recognised (issued : Issued site provider authority)
    (direct : fs.Direct authority.record vm)
    (accepted : authority.validateVm site.platform fs vm = .ok ()) :
    Recognised site.platform authority.record vm := by
  simp only [ProviderMutationAuthority.validateVm, bind_unit_ok, authorize_ok, Bool.and_eq_true,
    ProviderMutationAuthority.objectAuthorized, decide_eq_true_eq] at accepted
  obtain ⟨_, ⟨⟨⟨⟨name, id⟩, configuration⟩, disk⟩, marker⟩, _⟩ := accepted
  have owned : vm.name = authority.record.ownership.providerObjectName :=
    name.trans issued.owned.name.symm
  refine ⟨?_, owned, marker, ?_, ?_⟩
  · obtain ⟨identity, recorded, same⟩ := Option.map_eq_some_iff.mp id
    have object := issued.owned.object
    unfold validateProviderObject at object
    rw [recorded] at object
    simp only at object
    split at object
    · cases object
    · split at object
      · cases object
      · split at object
        · cases object
        · rename_i named
          rw [recorded, ← same, owned, ← not_not.mp named]
  · exact pathsEqual_of_providerPathsEqual direct.configuration direct.recordConfiguration
      configuration
  · obtain ⟨disk, only, attached⟩ := diskAuthorized_iff.mp disk
    exact attachedDiskMatches_iff.mpr ⟨disk, only, pathsEqual_of_providerPathsEqual
      (direct.disks _ (by rw [only]; simp)) direct.recordOverlay attached⟩

end Acceptance

end VmCell
