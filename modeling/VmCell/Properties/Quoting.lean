import VmCell.Encoding.CommandLine
import VmCell.Guest.PowerShellDirect

/-! The command line of a guest process is read back as its arguments. -/

set_option autoImplicit false
namespace VmCell

open CommandLine CommandLine.Reading

section Arguments
variable {complete : List (List Char)} {letters : List Char}

/-- The characters of an argument that needs no quotes. -/
def Bare (letter : Char) : Prop := separates letter = false ∧ letter ≠ quote

theorem bare_of_unquoted {letter : Char}
    (plain : (Text.isWhitespace letter || letter == '"') = false) : Bare letter := by
  rw [Bool.or_eq_false_iff, beq_eq_false_iff_ne] at plain
  refine ⟨?_, plain.2⟩
  rw [separates, Bool.or_eq_false_iff, beq_eq_false_iff_ne, beq_eq_false_iff_ne]
  constructor
  · rintro rfl
    exact absurd plain.1 (by decide)
  · rintro rfl
    exact absurd plain.1 (by decide)

/-- Bare characters are taken as they are, with the last backslashes pending. -/
theorem run_plain (plain : ∀ letter ∈ letters, Bare letter) :
    ∃ current slashes, Reading.run ⟨complete, none, false, 0⟩ letters =
        ⟨complete, current, false, slashes⟩ ∧
      current.getD [] ++ List.replicate slashes backslash = letters := by
  induction letters using List.reverseRecOn with
  | nil => exact ⟨none, 0, rfl, rfl⟩
  | append_singleton taken letter ih =>
      obtain ⟨current, slashes, reads, holds⟩ := ih fun other member =>
        plain other (List.mem_append_left _ member)
      obtain ⟨apart, other⟩ := plain letter (by simp)
      rw [run_append, reads]
      by_cases slash : letter = backslash
      · subst slash
        refine ⟨current, slashes + 1, by simp [run, step], ?_⟩
        rw [List.replicate_succ', ← List.append_assoc, holds]
      · have pending : Reading.run ⟨complete, current, false, slashes⟩ [letter] =
            Reading.run ⟨complete, current, false, 0⟩
              (List.replicate slashes backslash ++ [letter]) := by
          rw [run_append, run_slashes, Nat.zero_add]
        refine ⟨_, 0, pending.trans (run_letter slash other (Or.inl apart)), ?_⟩
        rw [Option.getD_some, holds]
        simp

/-- What the loop has written is read as what it has passed over, but for the
backslashes that it still holds. -/
theorem run_quoteStep : ∃ taken, Reading.run ⟨complete, none, false, 0⟩
      (letters.foldl quoteStep (['"'], 0)).1 = ⟨complete, some taken, true, 0⟩ ∧
    taken ++ List.replicate (letters.foldl quoteStep (['"'], 0)).2 backslash = letters := by
  induction letters using List.reverseRecOn with
  | nil => exact ⟨[], by simp [run, step, extend, backslash, quote], rfl⟩
  | append_singleton before letter ih =>
      obtain ⟨taken, reads, holds⟩ := ih
      rw [List.foldl_append, List.foldl_cons, List.foldl_nil]
      generalize before.foldl quoteStep (['"'], 0) = state at reads holds
      obtain ⟨output, slashes⟩ := state
      simp only at reads holds
      by_cases slash : letter = '\\'
      · subst slash
        refine ⟨taken, by simpa [quoteStep] using reads, ?_⟩
        simp only [quoteStep, if_true]
        rw [List.replicate_succ', ← List.append_assoc, holds]
        rfl
      · by_cases ends : letter = '"'
        · subst ends
          refine ⟨taken ++ List.replicate slashes backslash ++ [quote], ?_, ?_⟩
          · simp only [quoteStep, if_neg slash, if_true]
            rw [List.append_assoc, run_append, reads]
            exact run_quote
          · simp only [quoteStep, if_neg slash, if_true]
            rw [holds]
            simp [quote]
        · refine ⟨taken ++ List.replicate slashes backslash ++ [letter], ?_, ?_⟩
          · simp only [quoteStep, if_neg slash, if_neg ends]
            rw [List.append_assoc, run_append, reads]
            exact run_letter slash ends (Or.inr rfl)
          · simp only [quoteStep, if_neg slash, if_neg ends]
            rw [holds]
            simp

theorem quoteWindowsArgument_ends (argument : String) :
    Ends (Reading.run ⟨complete, none, false, 0⟩ (quoteWindowsArgument argument).toList) complete
      argument.toList := by
  unfold quoteWindowsArgument
  split
  · rename_i unquoted
    rw [Bool.and_eq_true, Bool.not_eq_true', Bool.not_eq_true'] at unquoted
    have plain : ∀ letter ∈ argument.toList, Bare letter := by
      intro letter member
      have unmarked := List.any_eq_false.mp unquoted.2 letter member
      exact bare_of_unquoted (Bool.eq_false_iff.mpr unmarked)
    obtain ⟨current, slashes, reads, holds⟩ := @run_plain complete _ plain
    have nonempty : argument.toList ≠ [] := by
      intro empty
      have blank : argument = "" := String.toList_eq_nil_iff.mp empty
      rw [blank] at unquoted
      exact absurd unquoted.1 (by decide)
    rw [reads]
    refine ⟨rfl, ?_⟩
    cases slashes with
    | zero =>
        cases current with
        | none => exact absurd holds.symm nonempty
        | some taken =>
            rw [List.replicate_zero, List.append_nil, Option.getD_some] at holds
            simp [finish, settle, holds]
    | succ slashes => simp [finish, settle, extend, holds]
  · obtain ⟨taken, reads, holds⟩ := @run_quoteStep complete argument.toList
    generalize argument.toList.foldl quoteStep (['"'], 0) = state at reads holds
    obtain ⟨output, slashes⟩ := state
    simp only at reads holds ⊢
    rw [String.toList_ofList, List.append_assoc, run_append, reads]
    have toggles := @run_toggle complete (some taken) true slashes
    rw [Option.getD_some, holds] at toggles
    rw [show List.replicate (slashes * 2) '\\' ++ ['"'] =
      List.replicate (slashes * 2) backslash ++ [quote] from rfl, toggles]
    exact ⟨rfl, rfl⟩

theorem arguments_windowsCommandLine (arguments : List String) :
    CommandLine.arguments (windowsCommandLine arguments).toList = arguments.map String.toList := by
  have joined : (windowsCommandLine arguments).toList =
      List.intercalate [' '] (arguments.map fun argument =>
        (quoteWindowsArgument argument).toList) := by
    unfold windowsCommandLine
    rw [String.toList_intercalate, List.map_map]
    rfl
  rw [joined]
  exact arguments_intercalate (fun argument complete => quoteWindowsArgument_ends argument) arguments

end Arguments

/-- Splitting the command line gives the arguments, whatever characters they have. -/
theorem command_line_round_trips :
    (∀ arguments : List String,
      (CommandLine.arguments (windowsCommandLine arguments).toList).map String.ofList =
        arguments) ∧
      Function.Injective windowsCommandLine := by
  have returns : ∀ arguments : List String,
      (CommandLine.arguments (windowsCommandLine arguments).toList).map String.ofList =
        arguments := by
    intro arguments
    rw [arguments_windowsCommandLine, List.map_map]
    exact (List.map_congr_left fun argument _ => String.ofList_toList).trans (List.map_id _)
  refine ⟨returns, fun first second same => ?_⟩
  rw [← returns first, same, returns second]

example : windowsCommandLine ["C:\\path with space\\", "a\"b", "plain", ""] =
    "\"C:\\path with space\\\\\" \"a\\\"b\" plain \"\"" := by decide

end VmCell
