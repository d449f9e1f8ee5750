import VmCell.Encoding.Frames
import VmCell.Encoding.Segments
import VmCell.Properties.Arguments
import VmCell.Provider.ProcessMatches

/-! The digest of a launch stands for its arguments, and a live process shows them. -/

set_option autoImplicit false
namespace VmCell

open Text (utf8 toStringLossy)

section Streams
variable {first second : List String} {encoders : Encoders}

/-- What is hashed. -/
def argumentStream (arguments : List String) : Bytes :=
  (arguments.map utf8).flatMap fun bytes => littleEndian bytes.length ++ bytes

/-- Texts as the source can hold them: their sizes are 64-bit numbers. -/
def Sized (arguments : List String) : Prop :=
  ∀ argument ∈ arguments, (utf8 argument).length < 2 ^ 64

theorem argumentDigest_eq (arguments : List String) :
    argumentDigest encoders arguments = encoders.sha256 (argumentStream arguments) := by
  simp only [argumentDigest, argumentStream, List.flatMap_map, Text.toList_toUTF8]

theorem length_littleEndian (value : Nat) : (littleEndian value).length = 8 := by
  simp [littleEndian]

theorem littleEndian_injective : ∀ number < 2 ^ 64, ∀ other < 2 ^ 64,
    littleEndian number = littleEndian other → number = other := by
  intro number small other smallOther same
  simp only [littleEndian, List.range, List.range.loop, List.map_cons, List.map_nil,
    List.cons.injEq, ← UInt8.toNat_inj, UInt8.toNat_ofNat', Nat.reducePow, and_true] at same
  omega

/-- No two lists of arguments are hashed as the same bytes. -/
theorem argumentStream_injective (sized : Sized first) (sizedSecond : Sized second)
    (same : argumentStream first = argumentStream second) : first = second := by
  have strings : first.map utf8 = second.map utf8 :=
    Frames.sequence_injective (by decide) length_littleEndian littleEndian_injective
      (by simpa [Sized] using sized) (by simpa [Sized] using sizedSecond) same
  exact List.map_injective_iff.mpr (fun _ _ => Text.utf8_injective) strings

end Streams

section CommandLines

/-- The text of the command line that a program is started with. -/
def terminated (pieces : List Bytes) : Bytes := pieces.flatMap (· ++ [0])

/-- A word that comes through the command line of a process. -/
def Word (piece : Bytes) : Prop := piece ≠ [] ∧ 0 ∉ piece

theorem splitOn_terminated {pieces : List Bytes} (clean : ∀ piece ∈ pieces, 0 ∉ piece) :
    (terminated pieces).splitOn 0 = pieces ++ [[]] := by
  induction pieces with
  | nil => rfl
  | cons piece pieces ih =>
      have cut : terminated (piece :: pieces) = piece ++ 0 :: terminated pieces := by
        simp [terminated]
      rw [cut, List.splitOn_append_cons_self_of_not_mem (clean piece List.mem_cons_self),
        ih fun other member => clean other (List.mem_cons_of_mem _ member)]
      rfl

/-- Nonempty words are read back, without the first one. -/
theorem commandLineArguments_terminated {program : Bytes} {pieces : List Bytes}
    (named : Word program) (words : ∀ piece ∈ pieces, Word piece) :
    commandLineArguments (terminated (program :: pieces)) = pieces := by
  have clean : ∀ piece ∈ program :: pieces, Word piece := by
    simpa [named] using words
  have full : (program :: pieces ++ [[]]).filter (!·.isEmpty) = program :: pieces := by
    rw [List.filter_append, List.filter_eq_self.mpr]
    · simp
    · intro piece member
      simpa using (clean piece member).1
  rw [commandLineArguments, splitOn_terminated fun piece member => (clean piece member).2, full]
  rfl

end CommandLines

section Words
variable {host : HostOs} {encoders : Encoders} {config : QemuVmConfig} {path : PathBuf}

theorem mem_of_hyphen {text : List Char} {place : Nat} {mark letter : Char}
    (there : text[place]? = some mark) (inside : letter ∈ text) :
    letter ∈ text.take place ∨ letter = mark ∨ letter ∈ text.drop (place + 1) := by
  obtain ⟨within, same⟩ := List.getElem?_eq_some_iff.mp there
  rw [← List.take_append_drop place text, List.drop_eq_getElem_cons within, same] at inside
  simpa using inside

theorem hexValue_of_mapM {text : List Char} {digits : List (Fin 16)} {letter : Char}
    (read : text.mapM Uuid.hexValue = some digits) (inside : letter ∈ text) :
    (Uuid.hexValue letter).isSome = true := by
  induction text generalizing digits with
  | nil => cases inside
  | cons first rest ih =>
      rw [List.mapM_cons] at read
      cases value : Uuid.hexValue first with
      | none => simp [value] at read
      | some digit =>
          cases below : rest.mapM Uuid.hexValue with
          | none => simp [value, below] at read
          | some others =>
              rcases List.mem_cons.mp inside with rfl | inside
              · rw [value]
                rfl
              · exact ih below inside

theorem nul_of_decode {text : List Char} (read : (Uuid.decode text).isSome = true) :
    '\x00' ∉ text := by
  intro inside
  unfold Uuid.decode at read
  cases digits : text.mapM Uuid.hexValue with
  | none => simp [digits] at read
  | some values => exact absurd (hexValue_of_mapM digits inside) (by decide)

theorem nul_of_decodeHyphenated {text : List Char}
    (read : (Uuid.decodeHyphenated text).isSome = true) : '\x00' ∉ text := by
  unfold Uuid.decodeHyphenated at read
  split at read
  · rename_i shape
    obtain ⟨-, first, second, third, fourth⟩ := shape
    have clean := nul_of_decode read
    simp only [List.mem_append, not_or] at clean
    obtain ⟨⟨⟨⟨a, b⟩, c⟩, d⟩, e⟩ := clean
    intro inside
    -- From the last hyphen to the first, each cuts off one group of digits.
    rcases mem_of_hyphen fourth inside with inside | same | inside
    · have third' : (text.take 23)[18]? = some '-' := by simpa using third
      rcases mem_of_hyphen third' inside with inside | same | inside
      · have second' : ((text.take 23).take 18)[13]? = some '-' := by simpa using second
        rcases mem_of_hyphen second' inside with inside | same | inside
        · have first' : (((text.take 23).take 18).take 13)[8]? = some '-' := by simpa using first
          rcases mem_of_hyphen first' inside with inside | same | inside
          · exact a (by simpa [List.take_take] using inside)
          · exact absurd same (by decide)
          · exact b (by simpa [List.take_take, List.drop_take] using inside)
        · exact absurd same (by decide)
        · exact c (by simpa [List.take_take, List.drop_take] using inside)
      · exact absurd same (by decide)
      · exact d (by simpa [List.take_take, List.drop_take] using inside)
    · exact absurd same (by decide)
    · exact e inside
  · simp at read

/-- The text of an identifier has no NUL, in whichever form it is written. -/
theorem nul_of_parseStr {text : String} (read : (Uuid.parseStr text).isSome = true) :
    '\x00' ∉ text.toList := by
  unfold Uuid.parseStr Uuid.parseChars at read
  generalize text.toList = letters at read
  split at read
  · exact nul_of_decode read
  split at read
  · exact nul_of_decodeHyphenated read
  split at read
  · rename_i braced
    obtain ⟨length, opening, closing⟩ := braced
    have clean := nul_of_decodeHyphenated read
    cases letters with
    | nil => simp at length
    | cons first rest =>
        obtain rfl : first = '\x7b' := by simpa using opening
        intro inside
        have inside : '\x00' ∈ rest := by simpa using inside
        have full : rest ≠ [] := by
          rintro rfl
          cases inside
        rw [← List.dropLast_append_getLast full] at inside
        have last : rest.getLast full = '\x7d' := by
          rw [List.getLast?_cons, List.getLast?_eq_some_getLast full] at closing
          simpa using closing
        rw [last, List.mem_append] at inside
        rcases inside with inside | inside
        · exact clean inside
        · exact absurd inside (by decide)
  split at read
  · rename_i urn
    have clean := nul_of_decodeHyphenated read
    rw [← List.take_append_drop 9 letters, urn.2]
    simpa using clean
  · simp at read

theorem nul_of_safe (safe : qemuArgumentPathIsSafe host path = true) :
    '\x00' ∉ path.display.toList := by
  simp only [qemuArgumentPathIsSafe, Bool.and_eq_true, Bool.not_eq_true', List.any_eq_false,
    Bool.or_eq_true, decide_eq_true_eq] at safe
  intro nul
  exact safe.1 _ nul (.inr rfl)

theorem mem_of_stripPrefix {start text : String} {letter : Char}
    (inside : letter ∈ ((stripPrefix start text).getD text).toList) : letter ∈ text.toList := by
  unfold stripPrefix at inside
  split at inside
  · rw [Option.getD_some, String.toList_ofList] at inside
    exact List.mem_of_mem_drop inside
  · exact inside

theorem nul_of_endpoint {endpoint : ControlEndpoint}
    (safe : controlEndpointIsSafe host endpoint = true) :
    '\x00' ∉ endpoint.qemuArgument.toList := by
  cases endpoint with
  | unix socket =>
      have clean := nul_of_safe (path_safe_of_endpoint safe)
      simpa [ControlEndpoint.qemuArgument, String.toList_append] using clean
  | windowsPipe name =>
      simp only [controlEndpointIsSafe, Bool.and_eq_true, Bool.not_eq_true',
        List.any_eq_false] at safe
      have clean : '\x00' ∉ ((stripPrefix "\\\\.\\pipe\\" name).getD name).toList :=
        fun inside => safe.2 _ (mem_of_stripPrefix inside) (by decide)
      simpa [ControlEndpoint.qemuArgument, String.toList_append] using clean

theorem nul_of_number (number : Nat) : '\x00' ∉ (toString number).toList := by
  intro inside
  have digits : (toString number).toList = Nat.toDigits 10 number := by
    simp [Nat.repr]
  rw [digits] at inside
  exact absurd (Nat.isDigit_of_mem_toDigits (by decide) (by decide) inside) (by decide)

theorem number_ne_empty (number : Nat) : toString number ≠ "" := by
  intro empty
  have letters := congrArg (fun text : String => text.toList.length) empty
  simp [Nat.repr] at letters

/-- No argument is empty and none contains a NUL. -/
theorem launchArgs_clean (launchable : config.Launchable host encoders) :
    ∀ argument ∈ launchArgs config, argument ≠ "" ∧ '\x00' ∉ argument.toList := by
  have id := nul_of_parseStr launchable.id
  have named : config.name ≠ "" ∧ '\x00' ∉ config.name.toList := by
    rw [launchable.name]
    simpa [String.toList_append] using id
  have identified : config.id ≠ "" ∧ '\x00' ∉ config.id.toList := by
    refine ⟨fun empty => ?_, id⟩
    have read := launchable.id
    rw [empty] at read
    exact absurd read (by decide)
  have accelerated : "accel=" ++ config.accelerator ≠ "" ∧
      '\x00' ∉ ("accel=" ++ config.accelerator).toList := by
    have known : ∀ value ∈ ["whpx", "kvm", "hvf", "tcg"], '\x00' ∉ value.toList := by decide
    have plain := known _ (List.contains_iff_mem.mp launchable.accelerator)
    simpa [String.toList_append] using plain
  have numbered : ∀ number : Nat, toString number ≠ "" ∧ '\x00' ∉ (toString number).toList :=
    fun number => ⟨number_ne_empty number, nul_of_number number⟩
  have disk : "file=" ++ config.overlayPath.display ++ ",if=virtio,format=qcow2,cache=none" ≠ "" ∧
      '\x00' ∉ ("file=" ++ config.overlayPath.display ++
        ",if=virtio,format=qcow2,cache=none").toList := by
    simpa [String.toList_append] using nul_of_safe launchable.overlay
  have monitor : config.qmp.qemuArgument ≠ "" ∧ '\x00' ∉ config.qmp.qemuArgument.toList := by
    refine ⟨?_, nul_of_endpoint launchable.qmpSafe⟩
    cases config.qmp <;> simp [ControlEndpoint.qemuArgument]
  have agent : "socket,id=qga0," ++ config.qga.qemuArgument ≠ "" ∧
      '\x00' ∉ ("socket,id=qga0," ++ config.qga.qemuArgument).toList := by
    simpa [String.toList_append] using nul_of_endpoint launchable.qgaSafe
  simp only [launchArgs, List.forall_mem_cons]
  exact ⟨by decide, by decide, by decide, by decide, by decide, by decide, by decide, by decide,
    by decide, by decide, by decide, by decide, named, by decide, identified, by decide,
    accelerated, by decide, numbered _, by decide, numbered _, by decide, disk, by decide,
    monitor, by decide, agent, by decide, by decide, by decide, by decide,
    fun _ absent => absurd absent List.not_mem_nil⟩

theorem launchArgs_words (launchable : config.Launchable host encoders) :
    ∀ piece ∈ (launchArgs config).map utf8, Word piece := by
  intro piece member
  obtain ⟨argument, inside, rfl⟩ := List.mem_map.mp member
  obtain ⟨full, clean⟩ := launchArgs_clean launchable argument inside
  exact ⟨Text.utf8_ne_nil full, fun zero => clean (Text.ascii_mem_utf8 (by decide) zero)⟩

/-- What a live process shows is what it was launched with. -/
theorem arguments_of_process {program : Bytes} (launchable : config.Launchable host encoders)
    (named : Word program) :
    commandLineArguments (terminated (program :: (launchArgs config).map utf8)) =
      (launchArgs config).map utf8 ∧
    argumentDigest encoders ((commandLineArguments
      (terminated (program :: (launchArgs config).map utf8))).map toStringLossy) =
        config.commandSha256 := by
  have shown := commandLineArguments_terminated named (launchArgs_words launchable)
  refine ⟨shown, ?_⟩
  have back : ((launchArgs config).map utf8).map toStringLossy = launchArgs config := by
    simp [List.map_map, Function.comp_def, Text.toStringLossy_utf8]
  rw [shown, back, launchable.digest]
  rfl

/-- A process that still is what was spawned is recognised by its arguments. -/
theorem processMatches_launched {sight : ProcessSight} {canonicalize : PathBuf → Option PathBuf}
    {processId token : Nat} {program executable : PathBuf} {name : Bytes} {digest : String}
    (launchable : config.Launchable host encoders) (named : Word name)
    (tokens : ∀ look, sight.startToken look = some token)
    (group : sight.groupId = some processId) (found : sight.executable = some executable)
    (same : if program.isAbsolute then canonicalize executable = canonicalize program
      else executable.fileName = program.fileName)
    (hashed : sight.executableSha256 = some digest)
    (shown : sight.commandLine = some (terminated (name :: (launchArgs config).map utf8))) :
    processMatches encoders canonicalize sight processId token program config.commandSha256
      digest none = true := by
  obtain ⟨-, recomputed⟩ := arguments_of_process launchable named
  by_cases absolute : program.isAbsolute = true
  · rw [if_pos absolute] at same
    simp [processMatches, tokens, group, found, absolute, same, hashed, shown, recomputed]
  · rw [if_neg absolute] at same
    simp [processMatches, tokens, group, found, absolute, same, hashed, shown, recomputed]

end Words

section Agreement
variable {host : HostOs} {encoders : Encoders} {first second : QemuVmConfig}

/-- Endpoints of one kind with one text. Paths with one text are equal in the source, which
compares paths by their components. -/
def ControlEndpoint.Agrees : ControlEndpoint → ControlEndpoint → Prop
  | .unix path, .unix other => path.display = other.display
  | .windowsPipe path, .windowsPipe other => path = other
  | _, _ => False

structure SameLaunch (first second : QemuVmConfig) : Prop where
  name : first.name = second.name
  id : first.id = second.id
  accelerator : first.accelerator = second.accelerator
  memory : first.memoryMib = second.memoryMib
  cpus : first.cpuCount = second.cpuCount
  overlay : first.overlayPath.display = second.overlayPath.display
  qmp : first.qmp.Agrees second.qmp
  qga : first.qga.Agrees second.qga

theorem toString_nat_injective {number other : Nat} (same : toString number = toString other) :
    number = other := by
  have letters := congrArg String.toList same
  simp only [Nat.toString_eq_repr, Nat.repr, String.toList_ofList] at letters
  have values := congrArg (fun digits => Nat.ofDigitChars 10 digits 0) letters
  simpa [Nat.ofDigitChars_toDigits] using values

theorem agrees_of_qemuArgument {endpoint other : ControlEndpoint}
    (safe : controlEndpointIsSafe host endpoint = true)
    (safeOther : controlEndpointIsSafe host other = true)
    (same : endpoint.qemuArgument = other.qemuArgument) : endpoint.Agrees other := by
  have stripped : ∀ name : String, controlEndpointIsSafe host (.windowsPipe name) = true →
      "\\\\.\\pipe\\" ++ (stripPrefix "\\\\.\\pipe\\" name).getD name = name := by
    intro name safe
    simp only [controlEndpointIsSafe, Bool.and_eq_true] at safe
    obtain ⟨rest, text⟩ := List.isPrefixOf_iff_prefix.mp safe.1.1
    have whole : name = "\\\\.\\pipe\\" ++ ("vmcell-" ++ String.ofList rest) := by
      apply String.toList_injective
      simp [← text, String.toList_append]
    rw [whole, toList_stripPrefix]
    rfl
  cases endpoint with
  | unix path =>
      cases other with
      | unix path' => exact (String.append_right_inj _).mp ((String.append_left_inj _).mp same)
      | windowsPipe name =>
          have head := congrArg (fun text : String => text.toList.head?) same
          simp [ControlEndpoint.qemuArgument, String.toList_append] at head
  | windowsPipe name =>
      cases other with
      | unix path =>
          have head := congrArg (fun text : String => text.toList.head?) same
          simp [ControlEndpoint.qemuArgument, String.toList_append] at head
      | windowsPipe name' =>
          have rest := (String.append_right_inj _).mp ((String.append_left_inj _).mp same)
          change name = name'
          rw [← stripped name safe, rest, stripped name' safeOther]

theorem sameLaunch_of_launchArgs (launchable : first.Launchable host encoders)
    (launchableSecond : second.Launchable host encoders)
    (same : launchArgs first = launchArgs second) : SameLaunch first second := by
  simp only [launchArgs, List.cons.injEq, true_and, and_true] at same
  obtain ⟨name, id, accelerator, memory, cpus, drive, qmp, qga⟩ := same
  exact ⟨name, id, (String.append_right_inj _).mp accelerator, toString_nat_injective memory,
    toString_nat_injective cpus,
    (String.append_right_inj _).mp ((String.append_left_inj _).mp drive),
    agrees_of_qemuArgument launchable.qmpSafe launchableSecond.qmpSafe qmp,
    agrees_of_qemuArgument launchable.qgaSafe launchableSecond.qgaSafe
      ((String.append_right_inj _).mp qga)⟩

/-- A path of a POSIX host as `std::path` has one. -/
structure PathBuf.Posix (path : PathBuf) : Prop where
  anchor : path.anchor = "" ∨ path.anchor = "/"
  components : ∀ component ∈ path.components, component ≠ "" ∧ '/' ∉ component.toList

theorem PathBuf.Posix.toList_display {path : PathBuf} (posix : path.Posix) :
    path.display.toList = path.anchor.toList ++ ['/'].intercalate
        (path.components.map String.toList) ∧
      (['/'].intercalate (path.components.map String.toList)).head? ≠ some '/' := by
  refine ⟨by simp [PathBuf.display, String.toList_intercalate], ?_⟩
  have named := posix.components
  cases components : path.components with
  | nil => simp
  | cons first rest =>
      rw [components] at named
      obtain ⟨full, clean⟩ := named first List.mem_cons_self
      cases letters : first.toList with
      | nil => exact absurd (String.toList_eq_nil_iff.mp letters) full
      | cons letter others =>
          have other : letter ≠ '/' := by
            rintro rfl
            exact clean (by simp [letters])
          cases rest <;> simp [List.intercalate, letters, other]

/-- On a POSIX host a path is its text. -/
theorem PathBuf.Posix.eq_of_display {path other : PathBuf} (posix : path.Posix)
    (posixOther : other.Posix) (same : path.display = other.display) : path = other := by
  obtain ⟨text, head⟩ := posix.toList_display
  obtain ⟨textOther, headOther⟩ := posixOther.toList_display
  have letters := congrArg String.toList same
  rw [text, textOther] at letters
  have joined : path.anchor = other.anchor ∧ ['/'].intercalate (path.components.map String.toList) =
      ['/'].intercalate (other.components.map String.toList) := by
    rcases posix.anchor with anchor | anchor <;>
      rcases posixOther.anchor with anchorOther | anchorOther <;>
      rw [anchor, anchorOther] at letters ⊢
    · exact ⟨rfl, letters⟩
    · rw [show "".toList = [] from rfl, List.nil_append] at letters
      rw [letters] at head
      exact absurd rfl head
    · rw [show "".toList = [] from rfl, List.nil_append] at letters
      rw [← letters] at headOther
      exact absurd rfl headOther
    · exact ⟨rfl, List.append_cancel_left letters⟩
  have cut : ∀ path : PathBuf, path.Posix → path.components ≠ [] →
      (['/'].intercalate (path.components.map String.toList)).splitOn '/' =
        path.components.map String.toList := by
    intro path posix full
    refine List.splitOn_intercalate '/' ?_ (by simpa using full)
    intro letters member
    obtain ⟨component, inside, rfl⟩ := List.mem_map.mp member
    exact (posix.components component inside).2
  have empty : ∀ path : PathBuf, path.Posix →
      (['/'].intercalate (path.components.map String.toList) = [] ↔ path.components = []) := by
    intro path posix
    constructor
    · intro none
      by_contra full
      have pieces := cut path posix full
      rw [none] at pieces
      cases components : path.components with
      | nil => exact full components
      | cons first rest =>
          rw [components, List.splitOn_nil, List.map_cons] at pieces
          have letters := (List.cons.inj pieces).1
          exact (posix.components first (by simp [components])).1
            (String.toList_eq_nil_iff.mp letters.symm)
    · intro none
      simp [none]
  have components : path.components = other.components := by
    by_cases full : path.components = []
    · rw [full, ((empty other posixOther).mp (by rw [← joined.2, full]; rfl))]
    · have fullOther : other.components ≠ [] := fun none =>
        full ((empty path posix).mp (by rw [joined.2, none]; rfl))
      have pieces := cut path posix full
      rw [joined.2, cut other posixOther fullOther] at pieces
      exact (List.map_injective_iff.mpr (fun _ _ same => String.toList_injective same) pieces).symm
  cases path
  cases other
  simp only at joined components
  rw [joined.1, components]

/-- Every path of the configuration is one of a POSIX host. -/
structure QemuVmConfig.Posix (config : QemuVmConfig) : Prop where
  overlay : config.overlayPath.Posix
  qmp : ∀ path, config.qmp = .unix path → path.Posix
  qga : ∀ path, config.qga = .unix path → path.Posix

theorem ControlEndpoint.Agrees.eq {endpoint other : ControlEndpoint}
    (agrees : endpoint.Agrees other) (posix : ∀ path, endpoint = .unix path → path.Posix)
    (posixOther : ∀ path, other = .unix path → path.Posix) : endpoint = other := by
  cases endpoint with
  | unix path =>
      cases other with
      | unix path' =>
          exact congrArg _ ((posix path rfl).eq_of_display (posixOther path' rfl) agrees)
      | windowsPipe name => exact agrees.elim
  | windowsPipe name =>
      cases other with
      | unix path => exact agrees.elim
      | windowsPipe name' => exact congrArg _ agrees

end Agreement

/-- The digest of a launch determines its arguments, a live process shows the arguments it was
launched with, and configurations with one digest launch the same machine. -/
theorem launch_identity_is_faithful :
    (∀ encoders arguments,
      argumentDigest encoders arguments = encoders.sha256 (argumentStream arguments)) ∧
    (∀ first second, Sized first → Sized second →
      argumentStream first = argumentStream second → first = second) ∧
    (∀ host encoders config path program,
      QemuVmConfig.validate host encoders config path = .ok () → Word program →
      commandLineArguments (terminated (program :: (launchArgs config).map utf8)) =
          (launchArgs config).map utf8 ∧
        argumentDigest encoders ((commandLineArguments
          (terminated (program :: (launchArgs config).map utf8))).map toStringLossy) =
            config.commandSha256) ∧
    ∀ host encoders first second path other, Function.Injective encoders.sha256 →
      QemuVmConfig.validate host encoders first path = .ok () →
      QemuVmConfig.validate host encoders second other = .ok () →
      Sized (launchArgs first) → Sized (launchArgs second) →
      launchDigest encoders first = launchDigest encoders second →
      SameLaunch first second ∧
        (first.Posix → second.Posix → first.overlayPath = second.overlayPath ∧
          first.qmp = second.qmp ∧ first.qga = second.qga) := by
  refine ⟨fun _ _ => argumentDigest_eq _, fun _ _ => argumentStream_injective,
    fun _ _ _ _ _ valid named => arguments_of_process (.of_validate valid) named, ?_⟩
  intro host encoders first second path other injective valid validSecond sized sizedSecond same
  rw [launchDigest, launchDigest, argumentDigest_eq, argumentDigest_eq] at same
  have arguments := argumentStream_injective sized sizedSecond (injective same)
  have agreed := sameLaunch_of_launchArgs (.of_validate valid) (.of_validate validSecond) arguments
  exact ⟨agreed, fun posix posixSecond =>
    ⟨posix.overlay.eq_of_display posixSecond.overlay agreed.overlay,
      agreed.qmp.eq posix.qmp posixSecond.qmp, agreed.qga.eq posix.qga posixSecond.qga⟩⟩

namespace Exemplar

theorem plainEncoders_injective : Function.Injective plainEncoders.sha256 := by
  intro bytes other same
  have letters := String.ofList_injective same
  refine List.map_injective_iff.mpr ?_ letters
  intro byte byte' equal
  have codes := congrArg Char.toNat equal
  have ascii : ∀ byte : UInt8, (Char.ofNat byte.toNat).toNat = byte.toNat := by
    intro byte
    have small := byte.toNat_lt
    have valid : byte.toNat.isValidChar := .inl (by omega)
    rw [Char.ofNat, dif_pos valid]
    simp [Char.ofNatAux, Char.toNat]
  rw [ascii, ascii] at codes
  exact UInt8.toNat_inj.mp codes

/-- The exemplary machine with one more processor. -/
def largerConfig : QemuVmConfig :=
  let unsigned := { unsignedConfig with cpuCount := 3 }
  { unsigned with commandSha256 := launchDigest plainEncoders unsigned }

theorem largerConfig_valid :
    largerConfig.validate .linux plainEncoders ⟨"/", ["vms", "cell", "vm.json"]⟩ = .ok () :=
  validate_signed (by decide +kernel)

end Exemplar

/-- The exemplary machine, seen as a process of `qemu`, and another one that differs. -/
theorem launch_identity_is_faithful_for_machine :
    argumentDigest Exemplar.plainEncoders ((commandLineArguments (terminated
        (utf8 "qemu" :: (launchArgs Exemplar.machineConfig).map utf8))).map toStringLossy) =
      Exemplar.machineConfig.commandSha256 ∧
    launchDigest Exemplar.plainEncoders Exemplar.machineConfig ≠
      launchDigest Exemplar.plainEncoders Exemplar.largerConfig := by
  have sized : ∀ config ∈ [Exemplar.machineConfig, Exemplar.largerConfig],
      Sized (launchArgs config) := by
    unfold Sized
    decide +kernel
  constructor
  · refine (launch_identity_is_faithful.2.2.1 .linux Exemplar.plainEncoders
      Exemplar.machineConfig _ (utf8 "qemu") Exemplar.machineConfig_valid ?_).2
    constructor
    · exact Text.utf8_ne_nil (by decide)
    · intro zero
      exact absurd (Text.ascii_mem_utf8 (by decide) zero) (by decide)
  · intro same
    have agreed := launch_identity_is_faithful.2.2.2 .linux Exemplar.plainEncoders _ _ _ _
      Exemplar.plainEncoders_injective Exemplar.machineConfig_valid Exemplar.largerConfig_valid
      (sized _ (by simp)) (sized _ (by simp)) same
    exact absurd agreed.1.cpus (by decide)

end VmCell
