import VmCell.Encoding.Lines
import VmCell.Guest.Commands

/-! The input of the interactive shell. -/

set_option autoImplicit false
namespace VmCell

inductive InputErrorKind where
  | invalidData
  | interrupted
  | other
  deriving DecidableEq

/-- `std::io::Error`. -/
structure InputError where
  kind : InputErrorKind
  message : String
  deriving DecidableEq

def maxShellLineBytes : Nat := 8 * 1024

def carriageReturn : UInt8 := 13

def oversizedShellLine : InputError :=
  ⟨.invalidData, "shell input line exceeds the supported bound"⟩

def nulInShellLine : InputError := ⟨.invalidData, "shell input must not contain NUL"⟩

def notUtf8ShellLine : InputError := ⟨.invalidData, "shell input is not UTF-8"⟩

/-- How much of what is buffered belongs to the line. -/
def consumedOf (available : Bytes) : Nat :=
  match available.findIdx? (· == newline) with
  | some position => position + 1
  | none => available.length

theorem consumedOf_pos {available : Bytes} (full : available ≠ []) : 0 < consumedOf available := by
  unfold consumedOf
  split
  · exact Nat.succ_pos _
  · exact List.length_pos_of_ne_nil full

section Reading
variable {σ : Type}

/-- The loop, with the bytes that were gathered so far; nothing is the end of the input. -/
def gatherShellLine (input : BufRead InputError UInt8 σ) (state : σ) (bytes : Bytes) :
    Except InputError (Option Bytes) × σ :=
  match input.fillBuf state with
  | (.error error, state) => (.error error, state)
  | (.ok available, state) =>
      if _ : available = [] then
        if bytes = [] then (.ok none, state) else (.ok (some bytes), state)
      else
        let consumed := consumedOf available
        if _ : maxShellLineBytes < bytes.length + consumed then
          (.error oversizedShellLine, state)
        else
          let complete := available[consumed - 1]? = some newline
          let bytes' := bytes ++ available.take consumed
          let state := input.consume state consumed
          if complete then (.ok (some bytes'), state)
          else gatherShellLine input state bytes'
termination_by maxShellLineBytes - bytes.length
decreasing_by
  have ended : available ≠ [] := by assumption
  have positive := consumedOf_pos ended
  have taken : 0 < (available.take (consumedOf available)).length := by
    rw [List.length_take]
    exact Nat.lt_min.mpr ⟨positive, List.length_pos_of_ne_nil ended⟩
  simp only [List.length_append]
  omega

/-- `if bytes.last() == Some(&last) { bytes.pop(); }`. -/
def dropLastIf (last : UInt8) (bytes : Bytes) : Bytes :=
  if bytes.getLast? = some last then bytes.dropLast else bytes

def decodeShellLine (line : Bytes) : Except InputError String :=
  let bytes := dropLastIf carriageReturn (dropLastIf newline line)
  if 0 ∈ bytes then .error nulInShellLine
  else match fromUtf8 bytes with
    | some text => .ok text
    | none => .error notUtf8ShellLine

def readShellLine (input : BufRead InputError UInt8 σ) (state : σ) :
    Except InputError (Option String) × σ :=
  match gatherShellLine input state [] with
  | (.error error, state) => (.error error, state)
  | (.ok none, state) => (.ok none, state)
  | (.ok (some line), state) => ((decodeShellLine line).map some, state)

end Reading

end VmCell
