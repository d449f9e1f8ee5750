import Mathlib
import VmCell.Encoding.Segments
import VmCell.Guest.Path

/-! Accepted guest paths stay in the workspace of their cell. -/

set_option autoImplicit false
namespace VmCell

open Text (isControl)
open Segments (resolve IsName)

namespace GuestPath

def isSeparator (letter : Char) : Bool := letter = '\\' || letter = '/'

/-- A segment that every check of the client lets pass. -/
structure Sound (segment : List Char) : Prop where
  name : IsName segment
  noTrailingDot : segment.getLast? ≠ some '.'
  noTrailingSpace : segment.getLast? ≠ some ' '
  noDevice : isWindowsDeviceName segment = false

/-- A colon, a leading separator, a control character, or a segment that is empty, made of
dots or ends in a dot or a space. -/
def Ambiguous (value : String) : Prop :=
  ':' ∈ value.toList ∨ (∃ first ∈ value.toList.head?, isSeparator first = true) ∨
    (∃ letter ∈ value.toList, isControl letter = true) ∨
    ∃ segment ∈ value.toList.splitOnP isSeparator,
      ¬ IsName segment ∨ segment.getLast? = some '.' ∨ segment.getLast? = some ' '

section Replacement
variable {text : List Char} {letter : Char}

@[simp] theorem replace_nil (old new : Char) : replace old new [] = [] := rfl

@[simp] theorem replace_cons (old new : Char) :
    replace old new (letter :: text) =
      (if letter = old then new else letter) :: replace old new text := rfl

/-- Every slash is a backslash afterwards, however it was written before. -/
@[simp] theorem normalize_normalize :
    replace '/' '\\' (replace '/' '\\' text) = replace '/' '\\' text := by
  induction text with
  | nil => rfl
  | cons letter text ih => by_cases slash : letter = '/' <;> simp [slash, ih]

@[simp] theorem normalize_posix :
    replace '/' '\\' (replace '\\' '/' text) = replace '/' '\\' text := by
  induction text with
  | nil => rfl
  | cons letter text ih =>
      by_cases slash : letter = '\\'
      · simp [slash, ih]
      · simp [slash, ih]

theorem mem_replace {old new : Char} (inside : letter ∈ replace old new text) :
    letter ∈ text ∨ letter = new := by
  obtain ⟨before, member, rfl⟩ := List.mem_map.mp inside
  split
  · exact .inr rfl
  · exact .inl member

theorem not_mem_normalize : '/' ∉ replace '/' '\\' text := by
  intro inside
  obtain ⟨before, -, same⟩ := List.mem_map.mp inside
  split at same
  · exact absurd same (by decide)
  · contradiction

theorem splitOn_normalize :
    (replace '/' '\\' text).splitOn '\\' = text.splitOnP isSeparator := by
  induction text with
  | nil => rfl
  | cons letter text ih =>
      rw [replace_cons, List.splitOn_cons_eq_if_modifyHead, List.splitOnP_cons_eq_if_modifyHead,
        ih]
      by_cases slash : letter = '/'
      · simp [slash, isSeparator]
      · by_cases backslash : letter = '\\' <;> simp [slash, backslash, isSeparator]

/-- The POSIX text of a normal form has the same segments. -/
theorem splitOn_posix (normal : '/' ∉ text) :
    (replace '\\' '/' text).splitOn '/' = text.splitOn '\\' := by
  have exact : ∀ letter ∈ text,
      (if letter = '\\' then '/' else letter) = '/' ↔ letter = '\\' := by
    intro letter member
    split
    · simp [*]
    · simp only [*, iff_false]
      rintro rfl
      exact normal member
  have same : ∀ segment ∈ text.splitOn '\\', replace '\\' '/' segment = segment := by
    intro segment cut
    have clean := Segments.not_mem_of_mem_splitOn cut
    refine (List.map_congr_left fun letter member => if_neg ?_).trans (List.map_id _)
    rintro rfl
    exact clean member
  rw [replace, Segments.splitOn_map exact]
  exact (List.map_congr_left same).trans (List.map_id _)

theorem posix_injective {other : List Char} (normal : '/' ∉ text) (normalOther : '/' ∉ other)
    (same : replace '\\' '/' text = replace '\\' '/' other) : text = other := by
  have back : ∀ letters : List Char, '/' ∉ letters →
      replace '/' '\\' (replace '\\' '/' letters) = letters := by
    intro letters clean
    rw [normalize_posix]
    refine (List.map_congr_left fun letter member => if_neg ?_).trans (List.map_id _)
    rintro rfl
    exact clean member
  rw [← back text normal, same, back other normalOther]

end Replacement

section Acceptance
variable {value : String} {path : GuestPath}

theorem sound_iff (segment : List Char) :
    (segment.isEmpty || (segment = ['.'] || segment = ['.', '.']) ||
      (segment.getLast? = some '.' || segment.getLast? = some ' ') ||
        isWindowsDeviceName segment) = false ↔ Sound segment := by
  constructor
  · intro passed
    simp only [Bool.or_eq_false_iff, List.isEmpty_eq_false_iff, decide_eq_false_iff_not] at passed
    obtain ⟨⟨⟨full, dot, dots⟩, last, space⟩, device⟩ := passed
    exact ⟨⟨full, dot, dots⟩, last, space, device⟩
  · rintro ⟨⟨full, dot, dots⟩, last, space, device⟩
    simp [full, dot, dots, last, space, device]

/-- The separate checks of an empty text and of a leading separator only repeat what an
empty segment says. -/
theorem parse_eq_ok_iff :
    parse value = .ok path ↔
      ':' ∉ value.toList ∧ (∀ letter ∈ value.toList, isControl letter = false) ∧
        (∀ segment ∈ value.toList.splitOnP isSeparator, Sound segment) ∧
        path = ⟨String.ofList (replace '/' '\\' value.toList)⟩ := by
  have started : (∀ segment ∈ value.toList.splitOnP isSeparator, Sound segment) →
      value.toList ≠ [] ∧ value.toList.head? ≠ some '\\' ∧ value.toList.head? ≠ some '/' := by
    intro sound
    cases text : value.toList with
    | nil =>
        rw [text] at sound
        exact absurd rfl (sound [] (by simp)).name.1
    | cons first rest =>
        rw [text, List.splitOnP_cons_eq_if_modifyHead] at sound
        have plain : isSeparator first = false := by
          by_contra separator
          rw [if_pos (by simpa using separator)] at sound
          exact (sound [] List.mem_cons_self).name.1 rfl
        simp only [isSeparator, Bool.or_eq_false_iff, decide_eq_false_iff_not] at plain
        simp [plain]
  unfold parse
  simp only [splitOn_normalize]
  constructor
  · intro accepted
    split at accepted
    · exact absurd accepted nofun
    · rename_i raw
      simp only [not_or, Bool.not_eq_true] at raw
      obtain ⟨-, -, -, colon, -, control⟩ := raw
      split at accepted
      · exact absurd accepted nofun
      · rename_i passed
        rw [Bool.not_eq_true, List.any_eq_false] at passed
        simp only [Except.ok.injEq] at accepted
        simp only [List.contains_eq_mem, decide_eq_false_iff_not] at colon
        refine ⟨colon, ?_, fun segment cut => (sound_iff segment).mp
          (Bool.eq_false_of_not_eq_true (passed segment cut)), accepted.symm⟩
        simpa using control
  · rintro ⟨colon, control, sound, rfl⟩
    obtain ⟨full, backslash, slash⟩ := started sound
    have noNul : '\x00' ∉ value.toList := by
      intro inside
      exact absurd (control _ inside) (by decide)
    rw [if_neg, if_neg]
    · rw [Bool.not_eq_true, List.any_eq_false]
      intro segment cut
      rw [(sound_iff segment).mpr (sound segment cut)]
      exact Bool.false_ne_true
    · simp only [not_or, Bool.not_eq_true]
      refine ⟨full, backslash, slash, ?_, ?_, ?_⟩
      · simpa using colon
      · simpa using noNul
      · simpa using control

theorem text_of_parse (accepted : parse value = .ok path) :
    path.text.toList = replace '/' '\\' value.toList := by
  obtain ⟨-, -, -, rfl⟩ := parse_eq_ok_iff.mp accepted
  exact String.toList_ofList

theorem posix_of_parse (accepted : parse value = .ok path) :
    path.asPosix.toList = replace '\\' '/' (replace '/' '\\' value.toList) := by
  rw [asPosix, String.toList_ofList, text_of_parse accepted]

theorem segments_of_parse (accepted : parse value = .ok path) :
    path.asPosix.toList.splitOn '/' = value.toList.splitOnP isSeparator := by
  rw [posix_of_parse accepted, splitOn_posix not_mem_normalize, splitOn_normalize]

/-- A text with the letters of an accepted one up to its separators is accepted alike. -/
theorem parse_respelled {other : String} (accepted : parse value = .ok path)
    (same : replace '/' '\\' other.toList = replace '/' '\\' value.toList)
    (letters : ∀ letter ∈ other.toList, letter ∈ value.toList ∨ isSeparator letter = true) :
    parse other = .ok path := by
  obtain ⟨colon, control, sound, rfl⟩ := parse_eq_ok_iff.mp accepted
  refine parse_eq_ok_iff.mpr ⟨?_, ?_, ?_, by rw [same]⟩
  · intro inside
    rcases letters _ inside with before | separator
    · exact colon before
    · exact absurd separator (by decide)
  · intro letter inside
    rcases letters _ inside with before | separator
    · exact control letter before
    · simp only [isSeparator, Bool.or_eq_true, decide_eq_true_eq] at separator
      rcases separator with rfl | rfl <;> rfl
  · rw [← splitOn_normalize, same, splitOn_normalize]
    exact sound

theorem parse_asStr (accepted : parse value = .ok path) : parse path.asStr = .ok path := by
  have text : path.asStr.toList = _ := text_of_parse accepted
  refine parse_respelled accepted ?_ ?_
  · rw [text, normalize_normalize]
  · intro letter inside
    rw [text] at inside
    exact (mem_replace inside).imp id fun same => by simp [isSeparator, same]

theorem parse_asPosix (accepted : parse value = .ok path) : parse path.asPosix = .ok path := by
  have text := posix_of_parse accepted
  refine parse_respelled accepted ?_ ?_
  · rw [text, normalize_posix, normalize_normalize]
  · intro letter inside
    rw [text] at inside
    rcases mem_replace inside with before | rfl
    · exact (mem_replace before).imp id fun same => by simp [isSeparator, same]
    · exact .inr rfl

theorem parse_of_ambiguous (ambiguous : Ambiguous value) :
    parse value = .error .pathViolation := by
  have refused : ∀ path, parse value ≠ .ok path := by
    intro path accepted
    obtain ⟨colon, control, sound, -⟩ := parse_eq_ok_iff.mp accepted
    rcases ambiguous with inside | ⟨first, head, separator⟩ | ⟨letter, inside, bad⟩ |
        ⟨segment, cut, bad⟩
    · exact colon inside
    · cases text : value.toList with
      | nil => simp [text] at head
      | cons other rest =>
          obtain rfl : other = first := by simpa [text] using head
          rw [text, List.splitOnP_cons_eq_if_modifyHead, if_pos separator] at sound
          exact (sound [] List.mem_cons_self).name.1 rfl
    · rw [control letter inside] at bad
      exact Bool.false_ne_true bad
    · have fine := sound segment cut
      rcases bad with bad | bad | bad
      · exact bad fine.name
      · exact fine.noTrailingDot bad
      · exact fine.noTrailingSpace bad
  revert refused
  unfold parse
  dsimp only
  split
  · exact fun _ => rfl
  · split
    · exact fun _ => rfl
    · exact fun refused => absurd rfl (refused _)

end Acceptance

end GuestPath

section Workspaces
variable {cellId other : CellId} {path : GuestPath} {value : String}

theorem mem_uuidText {id : Uuid} {letter : Char} (inside : letter ∈ id.toText.toList) :
    letter = '-' ∨ ∃ digit, letter = Uuid.hexChar digit := by
  rw [Uuid.toText, String.toList_ofList, Uuid.chars, Uuid.hyphenate] at inside
  generalize digits : id.digits.map Uuid.hexChar = text at inside
  have hex : ∀ letter ∈ text, ∃ digit, letter = Uuid.hexChar digit := by
    intro letter member
    rw [← digits] at member
    obtain ⟨digit, -, rfl⟩ := List.mem_map.mp member
    exact ⟨digit, rfl⟩
  simp only [List.append_assoc, List.cons_append, List.mem_append, List.mem_cons] at inside
  rcases inside with first | rfl | second | rfl | third | rfl | fourth | rfl | last
  · exact .inr (hex _ (List.mem_of_mem_take first))
  · exact .inl rfl
  · exact .inr (hex _ (List.mem_of_mem_drop (List.mem_of_mem_take second)))
  · exact .inl rfl
  · exact .inr (hex _ (List.mem_of_mem_drop (List.mem_of_mem_take third)))
  · exact .inl rfl
  · exact .inr (hex _ (List.mem_of_mem_drop (List.mem_of_mem_take fourth)))
  · exact .inl rfl
  · exact .inr (hex _ (List.mem_of_mem_drop last))

theorem isName_cellText (cellId : CellId) : IsName cellId.toText.toList := by
  have length : cellId.toText.toList.length = 36 := by
    change (Uuid.toText _).toList.length = 36
    rw [Uuid.toText, String.toList_ofList, Uuid.length_chars]
  refine ⟨?_, ?_, ?_⟩ <;> intro same <;> rw [same] at length <;> simp at length

theorem resolve_workspaceRoot (cellId : CellId) :
    resolve (Qga.workspaceRoot cellId) =
      ["var".toList, "lib".toList, "vmcell".toList, cellId.toText.toList] := by
  have hex : ∀ digit, '/' ≠ Uuid.hexChar digit := by decide
  have whole : cellId.toText.toList.splitOn '/' = [cellId.toText.toList] := by
    refine List.splitOn_eq_singleton fun inside => ?_
    rcases mem_uuidText inside with same | ⟨digit, same⟩
    · exact absurd same (by decide)
    · exact hex digit same
  have cut : Qga.workspaceRoot cellId = "/var/lib/vmcell" ++ "/" ++ cellId.toText := rfl
  have root : resolve "/var/lib/vmcell" = ["var".toList, "lib".toList, "vmcell".toList] := by
    decide
  rw [cut, Segments.resolve_below, root, whole]
  · rfl
  · rw [whole]
    intro segment member
    obtain rfl := List.mem_singleton.mp member
    exact isName_cellText cellId

theorem resolve_guestPath (accepted : GuestPath.parse value = .ok path) :
    resolve (guestPath cellId path) =
      resolve (Qga.workspaceRoot cellId) ++ path.asPosix.toList.splitOn '/' := by
  refine Segments.resolve_below fun segment cut => ?_
  rw [GuestPath.segments_of_parse accepted] at cut
  exact ((GuestPath.parse_eq_ok_iff.mp accepted).2.2.1 segment cut).name

/-- The workspace of the cell, and no other, contains what the path names. -/
theorem root_of_guestPath (accepted : GuestPath.parse value = .ok path)
    (within : resolve (Qga.workspaceRoot other) <+: resolve (guestPath cellId path)) :
    other = cellId := by
  rw [resolve_guestPath accepted, resolve_workspaceRoot, resolve_workspaceRoot] at within
  obtain ⟨rest, same⟩ := within
  simp only [List.cons_append, List.nil_append, List.cons.injEq, true_and] at same
  obtain ⟨id, -⟩ := same
  obtain ⟨id⟩ := other
  exact congrArg CellId.mk (Uuid.toText_injective (String.toList_injective ‹_›))

theorem guestPath_injective {otherPath : GuestPath} {otherValue : String}
    (accepted : GuestPath.parse value = .ok path)
    (acceptedOther : GuestPath.parse otherValue = .ok otherPath)
    (same : guestPath cellId path = guestPath other otherPath) :
    cellId = other ∧ path = otherPath := by
  obtain rfl : cellId = other := by
    refine root_of_guestPath acceptedOther ?_
    rw [← same, resolve_guestPath accepted]
    exact List.prefix_append _ _
  refine ⟨rfl, ?_⟩
  have posix := congrArg String.toList same
  simp only [guestPath, String.toList_append, List.append_cancel_left_eq] at posix
  rw [GuestPath.posix_of_parse accepted, GuestPath.posix_of_parse acceptedOther] at posix
  have text := GuestPath.posix_injective GuestPath.not_mem_normalize
    GuestPath.not_mem_normalize posix
  rw [← GuestPath.text_of_parse accepted, ← GuestPath.text_of_parse acceptedOther] at text
  cases path
  cases otherPath
  exact congrArg GuestPath.mk (String.toList_injective text)

/-- What `copy_in` and `copy_out` open: the file itself, and its neighbour with a suffix. -/
theorem copies_open_guestPath (rounds : Nat) (operationId : Uuid) (content : Bytes)
    (overwrite : OverwritePolicy) (timeout : Duration) (maxBytes : Nat) :
    (∃ rest, Qga.copyOut rounds cellId path.asPosix maxBytes =
      Qga.fileOpen (guestPath cellId path) "r" >>= rest) ∧
    ∃ rest, Qga.copyIn rounds cellId operationId path.asPosix content overwrite timeout =
      Qga.execSimple rounds "/bin/mkdir"
          ["-p", Qga.parentOf (guestPath cellId path) (Qga.workspaceRoot cellId)] timeout >>=
        fun _ => Qga.fileOpen
          (guestPath cellId path ++ ".vmcell-" ++ operationId.toText ++ ".tmp") "w" >>= rest :=
  ⟨⟨_, rfl⟩, ⟨_, rfl⟩⟩

/-- Accepted paths are normal forms that name something inside the workspace of the cell
and, for different cells or paths, different things. -/
theorem guest_paths_are_confined :
    (∀ value path, GuestPath.parse value = .ok path →
      GuestPath.parse path.asStr = .ok path ∧ GuestPath.parse path.asPosix = .ok path ∧
      path.asPosix.toList.splitOn '/' ≠ [] ∧
      (∀ segment ∈ path.asPosix.toList.splitOn '/',
        segment ≠ [] ∧ segment ≠ ['.'] ∧ segment ≠ ['.', '.']) ∧
      ∀ cellId : CellId,
        (∃ names, names ≠ [] ∧
          resolve (guestPath cellId path) = resolve (Qga.workspaceRoot cellId) ++ names) ∧
        ∀ other, other ≠ cellId →
          ¬ resolve (Qga.workspaceRoot other) <+: resolve (guestPath cellId path)) ∧
    (∀ value path otherValue otherPath, GuestPath.parse value = .ok path →
      GuestPath.parse otherValue = .ok otherPath → ∀ cellId other : CellId,
        guestPath cellId path = guestPath other otherPath → cellId = other ∧ path = otherPath) ∧
    ∀ value, GuestPath.Ambiguous value → GuestPath.parse value = .error .pathViolation := by
  refine ⟨fun value path accepted => ?_, fun _ _ _ _ accepted acceptedOther _ _ same =>
    guestPath_injective accepted acceptedOther same,
    fun _ ambiguous => GuestPath.parse_of_ambiguous ambiguous⟩
  have pieces : path.asPosix.toList.splitOn '/' ≠ [] := List.splitOn_ne_nil _ _
  refine ⟨GuestPath.parse_asStr accepted, GuestPath.parse_asPosix accepted, pieces, ?_,
    fun cellId => ⟨⟨_, pieces, resolve_guestPath accepted⟩, fun other apart within =>
      apart (root_of_guestPath accepted within)⟩⟩
  intro segment cut
  rw [GuestPath.segments_of_parse accepted] at cut
  exact ((GuestPath.parse_eq_ok_iff.mp accepted).2.2.1 segment cut).name

theorem guest_paths_are_confined_for_results :
    GuestPath.parse "results/output.txt" = .ok ⟨"results\\output.txt"⟩ ∧
      GuestPath.parse (GuestPath.asPosix ⟨"results\\output.txt"⟩) =
        .ok ⟨"results\\output.txt"⟩ :=
  ⟨by decide, (guest_paths_are_confined.1 "results/output.txt" _ (by decide)).2.1⟩

end Workspaces

section Devices
variable {segment : List Char} {value : String} {path : GuestPath}

/-- The stem that the state store compares with the device names. -/
def deviceStem (segment : List Char) : List Char :=
  ((segment.takeWhile (· ≠ '.')).reverse.dropWhile (· == ' ')).reverse

/-- The rule of the state store for the last name of a path. -/
def hasDeviceStem (segment : List Char) : Bool :=
  deviceNames.contains (asciiLowercase (deviceStem segment))

/-- A segment as the state store checks one: no separator, no colon, no final dot or space. -/
structure Checkable (segment : List Char) : Prop where
  noSlash : '/' ∉ segment
  noBackslash : '\\' ∉ segment
  noColon : ':' ∉ segment
  noTrailingDot : segment.getLast? ≠ some '.'
  noTrailingSpace : segment.getLast? ≠ some ' '

/-- A reserved name, at least one space, and an extension. -/
def PaddedDevice (segment : List Char) : Prop :=
  ∃ name padding rest, String.ofList (asciiUppercase name) ∈ windowsDeviceNames ∧
    0 < padding ∧ segment = name ++ List.replicate padding ' ' ++ '.' :: rest

theorem toUpper_toLower (letter : Char) : letter.toLower.toUpper = letter.toUpper := by
  have letters : ∀ code < 91, 65 ≤ code →
      (Char.ofNat code).toLower.toUpper = (Char.ofNat code).toUpper := by decide
  by_cases upper : 65 ≤ letter.toNat ∧ letter.toNat ≤ 90
  · have computed := letters letter.toNat (Nat.lt_succ_of_le upper.2) upper.1
    rwa [Char.ofNat_toNat] at computed
  · rw [Char.toLower, dif_neg]
    exact upper

theorem toLower_toUpper (letter : Char) : letter.toUpper.toLower = letter.toLower := by
  have letters : ∀ code < 123, 97 ≤ code →
      (Char.ofNat code).toUpper.toLower = (Char.ofNat code).toLower := by decide
  by_cases lower : 97 ≤ letter.toNat ∧ letter.toNat ≤ 122
  · have computed := letters letter.toNat (Nat.lt_succ_of_le lower.2) lower.1
    rwa [Char.ofNat_toNat] at computed
  · rw [Char.toUpper, dif_neg]
    exact lower

/-- The two lists of reserved names are one list in two cases. -/
theorem lowercase_mem_iff (text : List Char) :
    asciiLowercase text ∈ deviceNames ↔
      String.ofList (asciiUppercase text) ∈ windowsDeviceNames := by
  have raised : ∀ name ∈ deviceNames,
      String.ofList (asciiUppercase name) ∈ windowsDeviceNames := by decide
  have lowered : ∀ name ∈ windowsDeviceNames,
      asciiLowercase name.toList ∈ deviceNames := by decide
  constructor
  · intro member
    have upper := raised _ member
    simpa [asciiUppercase, asciiLowercase, Function.comp_def, toUpper_toLower] using upper
  · intro member
    have lower := lowered _ member
    simpa [asciiUppercase, asciiLowercase, Function.comp_def, toLower_toUpper] using lower

theorem reserved_letters {name : List Char} {letter : Char}
    (reserved : String.ofList (asciiUppercase name) ∈ windowsDeviceNames)
    (inside : letter ∈ name) : letter ≠ ' ' ∧ letter ≠ '.' := by
  have clean : ∀ text ∈ windowsDeviceNames, ' ' ∉ text.toList ∧ '.' ∉ text.toList := by decide
  have upper := clean _ reserved
  rw [String.toList_ofList] at upper
  have mapped := List.mem_map_of_mem (f := Char.toUpper) inside
  constructor
  · rintro rfl
    exact upper.1 mapped
  · rintro rfl
    exact upper.2 mapped

/-- The text before the first dot is the stem and its padding. -/
theorem base_eq (segment : List Char) : ∃ padding,
    segment.takeWhile (· ≠ '.') = deviceStem segment ++ List.replicate padding ' ' := by
  have cut := List.takeWhile_append_dropWhile
    (p := (· == ' ')) (l := (segment.takeWhile (· ≠ '.')).reverse)
  refine ⟨((segment.takeWhile (· ≠ '.')).reverse.takeWhile (· == ' ')).length, ?_⟩
  have spaces : (segment.takeWhile (· ≠ '.')).reverse.takeWhile (· == ' ') =
      List.replicate ((segment.takeWhile (· ≠ '.')).reverse.takeWhile (· == ' ')).length ' ' := by
    refine List.eq_replicate_of_mem fun letter member => ?_
    simpa using List.mem_takeWhile_imp member
  rw [spaces] at cut
  have whole := congrArg List.reverse cut
  rw [List.reverse_append, List.reverse_reverse, List.reverse_replicate] at whole
  exact whole.symm

/-- The classifiers part exactly on padded device names. -/
theorem paddedDevice_iff (checkable : Checkable segment) :
    PaddedDevice segment ↔
      hasDeviceStem segment = true ∧ isWindowsDeviceName segment = false := by
  constructor
  · rintro ⟨name, padding, rest, reserved, positive, rfl⟩
    have noDot : ∀ letter ∈ name ++ List.replicate padding ' ', (letter ≠ '.' : Bool) = true := by
      intro letter member
      rcases List.mem_append.mp member with inside | inside
      · simpa using (reserved_letters reserved inside).2
      · simp [List.eq_of_mem_replicate inside]
    have base : (name ++ List.replicate padding ' ' ++ '.' :: rest).takeWhile (· ≠ '.') =
        name ++ List.replicate padding ' ' := by
      rw [List.takeWhile_append_of_pos noDot]
      simp
    have stem : deviceStem (name ++ List.replicate padding ' ' ++ '.' :: rest) = name := by
      have spaces : ∀ letter ∈ List.replicate padding ' ', (letter == ' ') = true := by
        intro letter member
        simp [List.eq_of_mem_replicate member]
      have whole : name.reverse.dropWhile (· == ' ') = name.reverse := by
        refine List.dropWhile_eq_self_iff.mpr fun nonempty => ?_
        have inside : name.reverse[0] ∈ name :=
          List.mem_reverse.mp (List.getElem_mem nonempty)
        simpa using (reserved_letters reserved inside).1
      rw [deviceStem, base, List.reverse_append, List.reverse_replicate,
        List.dropWhile_append_of_pos spaces, whole, List.reverse_reverse]
    constructor
    · rw [hasDeviceStem, stem]
      simpa using (lowercase_mem_iff name).mpr reserved
    · rw [isWindowsDeviceName, base]
      refine Bool.eq_false_of_not_eq_true fun device => ?_
      have member : ' ' ∈ name ++ List.replicate padding ' ' := by
        simp [Nat.ne_of_gt positive]
      exact (reserved_letters (List.contains_iff_mem.mp device) member).1 rfl
  · rintro ⟨device, plain⟩
    obtain ⟨padding, base⟩ := base_eq segment
    have reserved := (lowercase_mem_iff _).mp (List.contains_iff_mem.mp device)
    have cut := List.takeWhile_append_dropWhile (p := (· ≠ '.')) (l := segment)
    have positive : 0 < padding := by
      refine Nat.pos_of_ne_zero fun none => ?_
      rw [none, List.replicate_zero, List.append_nil] at base
      rw [isWindowsDeviceName, base, ← Bool.not_eq_true] at plain
      exact plain (List.contains_iff_mem.mpr reserved)
    cases after : segment.dropWhile (· ≠ '.') with
    | nil =>
        refine absurd ?_ checkable.noTrailingSpace
        rw [after, List.append_nil] at cut
        rw [← cut, base, List.getLast?_append, List.getLast?_replicate,
          if_neg (Nat.ne_of_gt positive)]
        rfl
    | cons dot rest =>
        obtain rfl : dot = '.' := by
          have head := List.head?_dropWhile_not (· ≠ '.') segment
          rw [after] at head
          simpa using head
        refine ⟨deviceStem segment, padding, rest, reserved, positive, ?_⟩
        rw [← base, ← after]
        exact cut.symm

/-- What the state store makes of a path of one name. -/
theorem windowsPathHasStreamOrDeviceAmbiguity_segment (checkable : Checkable segment) :
    windowsPathHasStreamOrDeviceAmbiguity .windows ⟨"", [String.ofList segment]⟩ =
      hasDeviceStem segment := by
  have value : PathBuf.backslashed ⟨"", [String.ofList segment]⟩ = segment := by
    have text : (PathBuf.display ⟨"", [String.ofList segment]⟩).toList = segment := by
      simp [PathBuf.display]
    rw [PathBuf.backslashed, text]
    refine (List.map_congr_left fun letter member => if_neg ?_).trans (List.map_id _)
    rintro rfl
    exact checkable.noSlash member
  have prefixed : ∀ count (start : List Char), '\\' ∈ start → segment.take count ≠ start := by
    intro count start backslash same
    rw [← same] at backslash
    exact checkable.noBackslash (List.mem_of_mem_take backslash)
  have lowered : ∀ count (start : List Char), '\\' ∈ start →
      asciiLowercase (segment.take count) ≠ start := by
    intro count start backslash same
    rw [← same] at backslash
    obtain ⟨letter, member, lower⟩ := List.mem_map.mp backslash
    rw [toLower_eq_separator.mp lower] at member
    exact checkable.noBackslash (List.mem_of_mem_take member)
  have drive : ¬hasDrive segment = true := by
    intro drive
    unfold hasDrive at drive
    split at drive
    · exact checkable.noColon (by simp)
    · cases drive
  have name : String.ofList segment ≠ ".." := by
    intro dots
    have letters : segment = ['.', '.'] := by
      simpa using congrArg String.toList dots
    exact checkable.noTrailingDot (by rw [letters]; rfl)
  have file : PathBuf.fileName ⟨"", [String.ofList segment]⟩ = some (String.ofList segment) := by
    simp only [PathBuf.fileName, List.getLast?_singleton]
    split
    · rename_i same
      exact absurd (Option.some.inj same) name
    · rfl
  simp only [windowsPathHasStreamOrDeviceAmbiguity, value, file]
  rw [if_neg (prefixed _ _ (by decide)), if_neg, if_neg (prefixed _ _ (by decide)),
    if_neg drive, if_neg]
  · rw [String.toList_ofList]
    rfl
  · simpa using checkable.noColon
  · rintro (same | same)
    · exact lowered _ _ (by decide) same
    · exact lowered _ _ (by decide) same

theorem checkable_of_parse (accepted : GuestPath.parse value = .ok path)
    (cut : segment ∈ path.text.toList.splitOn '\\') : Checkable segment := by
  obtain ⟨colon, -, sound, -⟩ := GuestPath.parse_eq_ok_iff.mp accepted
  rw [GuestPath.text_of_parse accepted] at cut
  have fine : GuestPath.Sound segment :=
    sound segment (by rw [← GuestPath.splitOn_normalize]; exact cut)
  refine ⟨fun slash => ?_, Segments.not_mem_of_mem_splitOn cut, fun inside => ?_,
    fine.noTrailingDot, fine.noTrailingSpace⟩
  · exact GuestPath.not_mem_normalize (Segments.mem_of_mem_splitOn cut slash)
  · rcases GuestPath.mem_replace (Segments.mem_of_mem_splitOn cut inside) with before | same
    · exact colon before
    · exact absurd same (by decide)

/-- The classifier of the client covers the one of the state store on every segment but the
padded device names, which an accepted path can contain. -/
theorem device_classifiers_agree (segment : List Char) (value : String) (path : GuestPath) :
    (Checkable segment →
      ((hasDeviceStem segment = true → isWindowsDeviceName segment = true) ↔
        ¬ PaddedDevice segment)) ∧
    (GuestPath.parse value = .ok path →
      ((∀ segment ∈ path.text.toList.splitOn '\\', windowsPathHasStreamOrDeviceAmbiguity
          .windows ⟨"", [String.ofList segment]⟩ = false) ↔
        ∀ segment ∈ value.toList.splitOnP GuestPath.isSeparator, ¬ PaddedDevice segment)) := by
  constructor
  · intro checkable
    rw [paddedDevice_iff checkable]
    simp
  · intro accepted
    have pieces : path.text.toList.splitOn '\\' =
        value.toList.splitOnP GuestPath.isSeparator := by
      rw [GuestPath.text_of_parse accepted, GuestPath.splitOn_normalize]
    have each : ∀ segment ∈ path.text.toList.splitOn '\\',
        (windowsPathHasStreamOrDeviceAmbiguity .windows ⟨"", [String.ofList segment]⟩ = false ↔
          ¬ PaddedDevice segment) := by
      intro segment cut
      have checkable := checkable_of_parse accepted cut
      have plain : isWindowsDeviceName segment = false :=
        ((GuestPath.parse_eq_ok_iff.mp accepted).2.2.1 segment (pieces ▸ cut)).noDevice
      rw [windowsPathHasStreamOrDeviceAmbiguity_segment checkable, paddedDevice_iff checkable,
        plain]
      simp
    rw [← pieces]
    exact forall₂_congr each

theorem device_classifiers_agree_for_results :
    windowsPathHasStreamOrDeviceAmbiguity .windows ⟨"", ["output.txt"]⟩ = false :=
  ((device_classifiers_agree [] "results/output.txt" ⟨"results\\output.txt"⟩).2 (by decide)).mpr
    (by
      intro segment cut
      have pieces : segment = "results".toList ∨ segment = "output.txt".toList := by
        simpa using (show segment ∈ ["results".toList, "output.txt".toList] from cut)
      rintro ⟨name, padding, rest, -, positive, same⟩
      have space : ' ' ∈ segment := by
        rw [same]
        simp [Nat.ne_of_gt positive]
      rcases pieces with rfl | rfl
      · exact absurd space (by decide)
      · exact absurd space (by decide)) "output.txt".toList (by decide)

/-- The client accepts a name that the state store takes for the null device. -/
theorem device_classifiers_disagree :
    (¬ ∀ segment, Checkable segment →
        hasDeviceStem segment = true → isWindowsDeviceName segment = true) ∧
      ¬ ∀ value path, GuestPath.parse value = .ok path →
        ∀ segment ∈ path.text.toList.splitOn '\\', windowsPathHasStreamOrDeviceAmbiguity
          .windows ⟨"", [String.ofList segment]⟩ = false := by
  constructor
  · intro covered
    have checkable : Checkable "NUL .txt".toList :=
      ⟨by decide, by decide, by decide, by decide, by decide⟩
    exact absurd (covered _ checkable (by decide)) (by decide)
  · intro never
    have plain := never "NUL .txt" ⟨"NUL .txt"⟩ (by decide) "NUL .txt".toList (by decide)
    exact absurd plain (by decide)

end Devices

end VmCell
