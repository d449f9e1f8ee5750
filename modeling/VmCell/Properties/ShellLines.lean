import VmCell.Cli.Shell
import VmCell.Encoding.Utf8

/-! The lines that the shell reads are those of its input, whatever portions it comes in. -/

set_option autoImplicit false
namespace VmCell

section Gathering
variable {available body rest bytes : Bytes} {σ : Type}

theorem consumedOf_open (free : newline ∉ available) : consumedOf available = available.length := by
  have none : available.findIdx? (· == newline) = none := by
    simp only [List.findIdx?_eq_none_iff, beq_eq_false_iff_ne]
    intro byte inside equal
    exact free (equal ▸ inside)
  rw [consumedOf, none]

theorem consumedOf_ended (free : newline ∉ body) :
    consumedOf (body ++ newline :: rest) = body.length + 1 := by
  have found : (body ++ newline :: rest).findIdx? (· == newline) = some body.length := by
    rw [List.findIdx?_append, List.findIdx?_eq_none_iff.mpr]
    · simp [List.findIdx?_cons]
    · intro byte inside
      simp only [beq_eq_false_iff_ne]
      intro equal
      exact free (equal ▸ inside)
  rw [consumedOf, found]

/-- A portion has no end of a line, or a first one. -/
theorem end_cases (available : Bytes) : newline ∉ available ∨
    ∃ body rest, available = body ++ newline :: rest ∧ newline ∉ body := by
  by_cases inside : newline ∈ available
  · obtain ⟨body, rest, parts, first⟩ := List.eq_append_cons_of_mem inside
    exact Or.inr ⟨body, rest, parts, first⟩
  · exact Or.inl inside

/-- What is taken of a portion is all of it, or ends the line. -/
inductive Taken (available : Bytes) : Prop where
  | whole (free : newline ∉ available) (all : available.take (consumedOf available) = available)
      (unended : available[consumedOf available - 1]? ≠ some newline)
  | ended (body : Bytes) (free : newline ∉ body)
      (front : available.take (consumedOf available) = body ++ [newline])
      (complete : available[consumedOf available - 1]? = some newline)

theorem taken_of_portion (available : Bytes) : Taken available := by
  rcases end_cases available with free | ⟨body, rest, rfl, free⟩
  · refine .whole free (by rw [consumedOf_open free, List.take_length]) ?_
    intro found
    exact free (List.mem_of_getElem? found)
  · refine .ended body free ?_ ?_
    · rw [consumedOf_ended free, List.take_length_add_append]
      rfl
    · rw [consumedOf_ended free]
      simp

theorem consumedOf_le (available : Bytes) : consumedOf available ≤ available.length := by
  rcases end_cases available with free | ⟨body, rest, rfl, free⟩
  · exact (consumedOf_open free).le
  · rw [consumedOf_ended free]
    simp

/-- The loop takes the first line of the input behind the bytes it has. -/
def TakesLine (reader : BufferedSequence InputError UInt8 σ) (bytes : Bytes) (state : σ) :
    Except InputError (Option Bytes) × σ → Prop
  | (result, later) =>
      match Lines.split newline (bytes ++ reader.pending state) with
      | [] => result = .ok none ∧ reader.pending later = []
      | line :: rest =>
          if line.length ≤ maxShellLineBytes then
            result = .ok (some line) ∧ Lines.split newline (reader.pending later) = rest
          else result = .error oversizedShellLine

variable {reader : BufferedSequence InputError UInt8 σ} {state later : σ}

theorem takes_ended (parts : bytes ++ reader.pending state = body ++ newline :: rest)
    (free : newline ∉ body) (short : body.length + 1 ≤ maxShellLineBytes)
    (left : reader.pending later = rest) :
    TakesLine reader bytes state (.ok (some (body ++ [newline])), later) := by
  rw [TakesLine, parts, Lines.split_ended free]
  simp [short, left]

theorem takes_open (parts : bytes ++ reader.pending state = body) (free : newline ∉ body)
    (full : body ≠ []) (short : body.length ≤ maxShellLineBytes)
    (left : reader.pending later = []) :
    TakesLine reader bytes state (.ok (some body), later) := by
  rw [TakesLine, parts, Lines.split_open free full]
  simp [short, left, Lines.split]

theorem takes_long {line : Bytes} {others : List Bytes}
    (lines : Lines.split newline (bytes ++ reader.pending state) = line :: others)
    (long : maxShellLineBytes < line.length) :
    TakesLine reader bytes state (.error oversizedShellLine, later) := by
  rw [TakesLine, lines]
  simp [Nat.not_le.mpr long]

/-- Bytes without an end that are too many belong to a line that is too long. -/
theorem takes_oversized (parts : bytes ++ reader.pending state = body ++ rest)
    (free : newline ∉ body.dropLast) (long : maxShellLineBytes < body.length) :
    TakesLine reader bytes state (.error oversizedShellLine, later) := by
  have full : body ≠ [] := by
    rintro rfl
    exact absurd long (Nat.not_lt_zero _)
  obtain ⟨front, last, rfl⟩ : ∃ front last, body = front ++ [last] :=
    ⟨body.dropLast, body.getLast full, (List.dropLast_append_getLast full).symm⟩
  rw [List.dropLast_concat] at free
  have grown : ∀ more, maxShellLineBytes < (front ++ last :: more).length := by
    intro more
    simp only [List.length_append, List.length_cons, List.length_nil] at long ⊢
    omega
  rw [List.append_assoc, List.singleton_append] at parts
  by_cases ends : last = newline
  · rw [ends] at parts
    refine takes_long (by rw [parts, Lines.split_ended free]) ?_
    simpa using long
  · rcases end_cases rest with unended | ⟨more, tail, rfl, first⟩
    · have whole : newline ∉ front ++ last :: rest := by
        simp [free, unended, Ne.symm ends]
      exact takes_long (by rw [parts, Lines.split_open whole (by simp)]) (grown rest)
    · have whole : newline ∉ front ++ last :: more := by
        simp [free, first, Ne.symm ends]
      rw [← List.cons_append, ← List.append_assoc] at parts
      refine takes_long (by rw [parts, Lines.split_ended whole]) ?_
      rw [List.length_append]
      exact Nat.lt_add_right _ (grown more)

theorem TakesLine.of_eq {others : Bytes} {now : σ}
    {outcome : Except InputError (Option Bytes) × σ} (takes : TakesLine reader others now outcome)
    (same : others ++ reader.pending now = bytes ++ reader.pending state) :
    TakesLine reader bytes state outcome := by
  rw [TakesLine, same] at takes
  exact takes

theorem shown {shows : Bytes} (filled : reader.fillBuf state = (.ok shows, later)) :
    ∃ rest, reader.pending state = shows ++ rest ∧ reader.pending later = shows ++ rest ∧
      (shows = [] → rest = []) := by
  obtain ⟨available, rest, after, fills, before, behind, ended⟩ := reader.fills state
  obtain ⟨equal, rfl⟩ := Prod.mk.inj (filled.symm.trans fills)
  obtain rfl := Except.ok.inj equal
  exact ⟨rest, before, behind, ended⟩

/-- One round of the loop moves bytes from the input to the line. -/
theorem round_moves {shows : Bytes} (filled : reader.fillBuf state = (.ok shows, later)) :
    bytes ++ shows.take (consumedOf shows) ++
        reader.pending (reader.consume later (consumedOf shows)) =
      bytes ++ reader.pending state := by
  obtain ⟨rest, before, behind, -⟩ := shown filled
  rw [reader.consumes state shows later _ filled (consumedOf_le shows), behind, before,
    List.drop_append_of_le_length (consumedOf_le shows), List.append_assoc,
    ← List.append_assoc (shows.take _), List.take_append_drop]

theorem gatherShellLine_takes (reader : BufferedSequence InputError UInt8 σ) (state : σ)
    (bytes : Bytes) (free : newline ∉ bytes) (short : bytes.length ≤ maxShellLineBytes) :
    TakesLine reader bytes state (gatherShellLine reader.toBufRead state bytes) := by
  fun_induction gatherShellLine reader.toBufRead state bytes with
  | case1 state bytes error later fails =>
      obtain ⟨available, rest, after, fills, -⟩ := reader.fills state
      rw [fills] at fails
      cases fails
  | case2 state later filled =>
      obtain ⟨rest, before, behind, ended⟩ := shown filled
      rw [ended rfl] at before behind
      rw [TakesLine, before]
      exact ⟨rfl, behind⟩
  | case3 state bytes later full filled =>
      obtain ⟨rest, before, behind, ended⟩ := shown filled
      rw [ended rfl] at before behind
      exact takes_open (by rw [before, List.append_nil, List.append_nil]) free full short behind
  | case4 state bytes shows later filled full consumed long =>
      obtain ⟨rest, before, -⟩ := shown filled
      have parts : bytes ++ reader.pending state =
          bytes ++ shows.take consumed ++ (shows.drop consumed ++ rest) := by
        rw [before, List.append_assoc, ← List.append_assoc (shows.take _), List.take_append_drop]
      have grown : maxShellLineBytes < (bytes ++ shows.take consumed).length := by
        rw [List.length_append, List.length_take, Nat.min_eq_left (consumedOf_le shows)]
        exact long
      refine takes_oversized parts ?_ grown
      rcases taken_of_portion shows with ⟨clear, all, -⟩ | ⟨body, clear, front, -⟩
      · intro inside
        have member := List.dropLast_subset _ inside
        rw [all, List.mem_append] at member
        exact member.elim free clear
      · rw [front, ← List.append_assoc, List.dropLast_concat, List.mem_append]
        exact not_or.mpr ⟨free, clear⟩
  | case5 state bytes shows later filled full consumed fits complete gathered after ended =>
      rcases taken_of_portion shows with ⟨-, -, unended⟩ | ⟨body, clear, front, -⟩
      · exact absurd ended unended
      · have moved : gathered ++ reader.pending after = bytes ++ reader.pending state :=
          round_moves filled
        have line : gathered = (bytes ++ body) ++ [newline] := by
          rw [List.append_assoc, ← front]
        rw [line, List.append_assoc, List.singleton_append] at moved
        rw [line]
        refine takes_ended moved.symm ?_ ?_ rfl
        · rw [List.mem_append]
          exact not_or.mpr ⟨free, clear⟩
        · have size := congrArg List.length front
          rw [List.length_take, Nat.min_eq_left (consumedOf_le shows), List.length_append,
            List.length_singleton] at size
          rw [List.length_append]
          omega
  | case6 state bytes shows later filled full consumed fits complete gathered after unended ih =>
      rcases taken_of_portion shows with ⟨clear, all, -⟩ | ⟨body, -, -, ended⟩
      · refine (ih ?_ ?_).of_eq (round_moves filled)
        · change newline ∉ bytes ++ shows.take (consumedOf shows)
          rw [all, List.mem_append]
          exact not_or.mpr ⟨free, clear⟩
        · change (bytes ++ shows.take consumed).length ≤ maxShellLineBytes
          rw [List.length_append, List.length_take, Nat.min_eq_left (consumedOf_le shows)]
          exact Nat.not_lt.mp fits
      · exact absurd ended unended

end Gathering

section Decoding
variable {line bytes : Bytes} {text : String} {last : UInt8}

/-- A line without its end. -/
def shellContent (line : Bytes) : Bytes := dropLastIf carriageReturn (dropLastIf newline line)

theorem dropLastIf_cases (last : UInt8) (bytes : Bytes) :
    dropLastIf last bytes = bytes ∨ dropLastIf last bytes ++ [last] = bytes := by
  unfold dropLastIf
  split
  · rename_i found
    exact Or.inr (List.dropLast_append_getLast? last found)
  · exact Or.inl rfl

theorem mem_dropLastIf {byte : UInt8} (other : byte ≠ last) :
    byte ∈ dropLastIf last bytes ↔ byte ∈ bytes := by
  rcases dropLastIf_cases last bytes with same | parts
  · rw [same]
  · conv_rhs => rw [← parts]
    simp [other]

theorem isUtf8_dropLastIf (ascii : last.toNat < 128) :
    Text.IsUtf8 (dropLastIf last bytes) ↔ Text.IsUtf8 bytes := by
  rcases dropLastIf_cases last bytes with same | parts
  · rw [same]
  · conv_rhs => rw [← parts]
    exact (Text.isUtf8_concat ascii).symm

/-- The end of a line makes no difference to whether it can be taken. -/
theorem shellContent_sound :
    (0 ∈ shellContent line ↔ 0 ∈ line) ∧ (Text.IsUtf8 (shellContent line) ↔ Text.IsUtf8 line) := by
  constructor
  · rw [shellContent, mem_dropLastIf (by decide), mem_dropLastIf (by decide)]
  · rw [shellContent, isUtf8_dropLastIf (by decide), isUtf8_dropLastIf (by decide)]

theorem fromUtf8_eq_some : fromUtf8 bytes = some text ↔ Text.utf8 text = bytes := by
  constructor
  · intro read
    unfold fromUtf8 String.fromUTF8? at read
    split at read
    · obtain rfl := Option.some.inj read
      rfl
    · cases read
  · rintro rfl
    exact Text.fromUTF8?_utf8 text

theorem decodeShellLine_ok :
    decodeShellLine line = .ok text ↔ 0 ∉ line ∧ Text.utf8 text = shellContent line := by
  rw [← shellContent_sound.1, ← fromUtf8_eq_some, decodeShellLine, shellContent]
  by_cases nul : 0 ∈ dropLastIf carriageReturn (dropLastIf newline line)
  · simp [nul]
  · cases fromUtf8 (dropLastIf carriageReturn (dropLastIf newline line)) <;> simp [nul]

theorem decodeShellLine_fails :
    (∃ error, decodeShellLine line = .error error) ↔ 0 ∈ line ∨ ¬ Text.IsUtf8 line := by
  rw [← shellContent_sound.2]
  cases decoded : decodeShellLine line with
  | ok text =>
      obtain ⟨clear, same⟩ := decodeShellLine_ok.mp decoded
      simp [clear, show Text.IsUtf8 (shellContent line) from ⟨text, same⟩]
  | error error =>
      simp only [Except.error.injEq, exists_eq', true_iff]
      by_contra sound
      obtain ⟨clear, text, same⟩ := not_or.mp sound |>.imp_right not_not.mp
      rw [decodeShellLine_ok.mpr ⟨clear, same⟩] at decoded
      cases decoded

end Decoding

section Sessions
variable {σ : Type}

/-- The results of some calls, up to the first error. -/
def shellResults (reader : BufRead InputError UInt8 σ) :
    Nat → σ → List (Except InputError (Option String))
  | 0, _ => []
  | calls + 1, state =>
      match readShellLine reader state with
      | (.error error, _) => [.error error]
      | (.ok line, state) => .ok line :: shellResults reader calls state

/-- What a line comes to. -/
def shellLineResult (line : Bytes) : Except InputError String :=
  if maxShellLineBytes < line.length then .error oversizedShellLine else decodeShellLine line

/-- What the lines of an input come to, and nothing behind the last one. -/
def shellLineResults : Nat → List Bytes → List (Except InputError (Option String))
  | 0, _ => []
  | calls + 1, [] => .ok none :: shellLineResults calls []
  | calls + 1, line :: rest =>
      match shellLineResult line with
      | .error error => [.error error]
      | .ok text => .ok (some text) :: shellLineResults calls rest

variable {reader : BufferedSequence InputError UInt8 σ} {state later : σ} {text : String}

theorem shellLineResult_fails (line : Bytes) : (∃ error, shellLineResult line = .error error) ↔
    maxShellLineBytes < line.length ∨ 0 ∈ line ∨ ¬ Text.IsUtf8 line := by
  unfold shellLineResult
  split
  · rename_i long
    simp [long]
  · rename_i fits
    rw [decodeShellLine_fails]
    simp [fits]

theorem shellLineResult_ok {line : Bytes} (result : shellLineResult line = .ok text) :
    Text.utf8 text = shellContent line := by
  unfold shellLineResult at result
  split at result
  · cases result
  · exact (decodeShellLine_ok.mp result).2

/-- One call takes one line. -/
theorem readShellLine_eq (reader : BufferedSequence InputError UInt8 σ) (state : σ) :
    match Lines.split newline (reader.pending state) with
    | [] => ∃ later, readShellLine reader.toBufRead state = (.ok none, later) ∧
        reader.pending later = []
    | line :: rest => ∃ later, readShellLine reader.toBufRead state =
        ((shellLineResult line).map some, later) ∧
        ((∃ text, shellLineResult line = .ok text) →
          Lines.split newline (reader.pending later) = rest) := by
  have takes := gatherShellLine_takes reader state [] (by simp) (Nat.zero_le _)
  obtain ⟨result, later, gathered⟩ :
      ∃ result later, gatherShellLine reader.toBufRead state [] = (result, later) := ⟨_, _, rfl⟩
  rw [gathered, TakesLine, List.nil_append] at takes
  rw [readShellLine, gathered]
  cases lines : Lines.split newline (reader.pending state) with
  | nil =>
      rw [lines] at takes
      obtain ⟨rfl, ended⟩ := takes
      exact ⟨later, rfl, ended⟩
  | cons line rest =>
      rw [lines] at takes
      simp only at takes ⊢
      split at takes
      · rename_i fits
        obtain ⟨rfl, left⟩ := takes
        refine ⟨later, ?_, fun _ => left⟩
        rw [shellLineResult, if_neg (Nat.not_lt.mpr fits)]
      · rename_i long
        subst takes
        rw [shellLineResult, if_pos (Nat.not_le.mp long)]
        refine ⟨later, rfl, ?_⟩
        rintro ⟨text, result⟩
        cases result

theorem shellResults_eq (reader : BufferedSequence InputError UInt8 σ) (state : σ) (calls : Nat) :
    shellResults reader.toBufRead calls state =
      shellLineResults calls (Lines.split newline (reader.pending state)) := by
  induction calls generalizing state with
  | zero => rw [shellResults, shellLineResults]
  | succ calls ih =>
      have call := readShellLine_eq reader state
      cases lines : Lines.split newline (reader.pending state) with
      | nil =>
          rw [lines] at call
          obtain ⟨later, read, ended⟩ := call
          rw [shellResults, read, shellLineResults]
          simp only [ih, ended]
          rfl
      | cons line rest =>
          rw [lines] at call
          obtain ⟨later, read, left⟩ := call
          rw [shellResults, read, shellLineResults]
          cases result : shellLineResult line with
          | error error => rfl
          | ok text =>
              simp only [Except.map, ih, left ⟨text, result⟩]

/-- How an input is cut into chunks makes no difference. -/
theorem shellResults_chunks {first second : List {chunk : Bytes // chunk ≠ []}}
    (same : (first.map Subtype.val).flatten = (second.map Subtype.val).flatten) (calls : Nat) :
    shellResults BufferedSequence.ofChunks.toBufRead calls first =
      shellResults BufferedSequence.ofChunks.toBufRead calls second := by
  rw [shellResults_eq, shellResults_eq]
  change shellLineResults calls (Lines.split newline (first.map Subtype.val).flatten) = _
  rw [same]
  rfl

/-- The results are those of the lines of the input. A call fails for its line only, and
what it takes is that line. -/
theorem shell_lines_of_stream (reader : BufferedSequence InputError UInt8 σ) (state : σ) :
    (∀ calls, shellResults reader.toBufRead calls state =
      shellLineResults calls (Lines.split newline (reader.pending state))) ∧
    ((∃ later, readShellLine reader.toBufRead state = (.ok none, later)) ↔
      reader.pending state = []) ∧
    ((∃ error later, readShellLine reader.toBufRead state = (.error error, later)) ↔
      ∃ line rest, Lines.split newline (reader.pending state) = line :: rest ∧
        (maxShellLineBytes < line.length ∨ 0 ∈ line ∨ ¬ Text.IsUtf8 line)) ∧
    ∀ text later, readShellLine reader.toBufRead state = (.ok (some text), later) →
      ∃ line rest, Lines.split newline (reader.pending state) = line :: rest ∧
        Text.utf8 text = shellContent line ∧
        reader.pending state = line ++ reader.pending later := by
  refine ⟨shellResults_eq reader state, ?_⟩
  have call := readShellLine_eq reader state
  have parts := Lines.split_flatten newline (reader.pending state)
  cases lines : Lines.split newline (reader.pending state) with
  | nil =>
      rw [lines] at call parts
      obtain ⟨later, read, -⟩ := call
      simp [read, ← parts]
  | cons line rest =>
      rw [lines] at call parts
      obtain ⟨later, read, left⟩ := call
      have full : reader.pending state ≠ [] := by
        intro none
        rw [none] at lines
        cases lines
      rw [read]
      cases result : shellLineResult line with
      | error error =>
          have fails := (shellLineResult_fails line).mp ⟨error, result⟩
          simp [Except.map, full, fails]
      | ok text =>
          have sound := mt (shellLineResult_fails line).mpr (by simp [result])
          refine ⟨by simp [Except.map, full], by simpa [Except.map] using sound, ?_⟩
          intro text' later' same
          obtain ⟨equal, rfl⟩ := Prod.mk.inj same
          obtain rfl := Option.some.inj (Except.ok.inj equal)
          have behind := Lines.split_flatten newline (reader.pending later)
          rw [left ⟨text, result⟩] at behind
          refine ⟨line, rest, rfl, shellLineResult_ok result, ?_⟩
          rw [← behind, ← parts, List.flatten_cons]

example : shellResults BufferedSequence.ofChunks.toBufRead 3
    [⟨[108, 115, 13], by simp⟩, ⟨[10, 112], by simp⟩, ⟨[115], by simp⟩] =
      [.ok (some "ls"), .ok (some "ps"), .ok none] := by
  rw [shellResults_eq]
  rfl

end Sessions

end VmCell
