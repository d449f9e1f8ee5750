import Mathlib.Data.List.Induction

/-! How a platform splits the text behind the program name into arguments.

Space and tab separate arguments outside quotes. A run of backslashes is halved in
front of a quote, which toggles quoting after an even run and is a letter after an
odd one. Every other backslash is a letter.
-/

set_option autoImplicit false
namespace CommandLine

def backslash : Char := '\\'
def quote : Char := '"'

def separates (letter : Char) : Bool := letter == ' ' || letter == '\t'

/-- What has been read: the complete arguments, the one that is being read if any,
whether quotes are open, and the backslashes just seen. -/
structure Reading where
  complete : List (List Char)
  current : Option (List Char)
  quoted : Bool
  slashes : Nat

namespace Reading

def start : Reading := ⟨[], none, false, 0⟩

/-- The argument that is being read, with some letters more. -/
def extend (reading : Reading) (letters : List Char) : Reading :=
  ⟨reading.complete, some (reading.current.getD [] ++ letters), reading.quoted, 0⟩

/-- The backslashes just seen are letters. -/
def settle (reading : Reading) : Reading :=
  if reading.slashes = 0 then reading
  else reading.extend (List.replicate reading.slashes backslash)

/-- The argument ends, if there is one. -/
def finish (reading : Reading) : Reading :=
  match reading.settle.current with
  | none => ⟨reading.complete, none, false, 0⟩
  | some argument => ⟨reading.complete ++ [argument], none, false, 0⟩

def step (reading : Reading) (letter : Char) : Reading :=
  if letter = backslash then
    ⟨reading.complete, reading.current, reading.quoted, reading.slashes + 1⟩
  else if letter = quote then
    let halved := reading.extend (List.replicate (reading.slashes / 2) backslash)
    if reading.slashes % 2 = 0 then { halved with quoted := !reading.quoted }
    else halved.extend [quote]
  else if separates letter && !reading.quoted then reading.finish
  else reading.settle.extend [letter]

def run (reading : Reading) (text : List Char) : Reading := text.foldl step reading

end Reading

/-- The arguments of a text. -/
def arguments (text : List Char) : List (List Char) :=
  (Reading.start.run text).finish.complete

namespace Reading
variable {complete : List (List Char)} {current : Option (List Char)} {quoted : Bool}
  {reading : Reading} {letter : Char} {count : Nat}

theorem run_append (first second : List Char) :
    reading.run (first ++ second) = (reading.run first).run second := List.foldl_append

theorem run_cons (rest : List Char) : reading.run (letter :: rest) = (reading.step letter).run rest :=
  rfl

theorem run_slashes {before : Nat} :
    Reading.run ⟨complete, current, quoted, before⟩ (List.replicate count backslash) =
      ⟨complete, current, quoted, before + count⟩ := by
  induction count generalizing before with
  | zero => rfl
  | succ count ih =>
      rw [List.replicate_succ, run_cons]
      simp only [step, if_true]
      rw [ih, Nat.add_assoc, Nat.add_comm 1]

/-- The backslashes in front of a letter are letters. -/
theorem run_letter (plain : letter ≠ backslash) (other : letter ≠ quote)
    (inner : separates letter = false ∨ quoted = true) :
    Reading.run ⟨complete, current, quoted, 0⟩ (List.replicate count backslash ++ [letter]) =
      ⟨complete, some (current.getD [] ++ List.replicate count backslash ++ [letter]), quoted, 0⟩ := by
  have stays : (separates letter && !quoted) = false := by
    rcases inner with apart | opened
    · simp [apart]
    · simp [opened]
  rw [run_append, run_slashes, Nat.zero_add, run_cons]
  simp only [step, if_neg plain, if_neg other, stays, settle]
  cases count with
  | zero => simp [extend, run]
  | succ count => simp [extend, run]

/-- An odd run of backslashes makes the quote behind it a letter. -/
theorem run_quote : Reading.run ⟨complete, current, quoted, 0⟩
      (List.replicate (count * 2 + 1) backslash ++ [quote]) =
    ⟨complete, some (current.getD [] ++ List.replicate count backslash ++ [quote]), quoted, 0⟩ := by
  have half : (count * 2 + 1) / 2 = count := by omega
  have odd : (count * 2 + 1) % 2 ≠ 0 := by omega
  have other : quote ≠ backslash := by decide
  rw [run_append, run_slashes, Nat.zero_add, run_cons]
  simp only [step, if_neg other, if_true, half, if_neg odd, extend, Option.getD_some]
  rfl

/-- An even run leaves the quote behind it to toggle quoting. -/
theorem run_toggle : Reading.run ⟨complete, current, quoted, 0⟩
      (List.replicate (count * 2) backslash ++ [quote]) =
    ⟨complete, some (current.getD [] ++ List.replicate count backslash), !quoted, 0⟩ := by
  have half : count * 2 / 2 = count := by omega
  have even : count * 2 % 2 = 0 := by omega
  have other : quote ≠ backslash := by decide
  rw [run_append, run_slashes, Nat.zero_add, run_cons]
  simp only [step, if_neg other, if_true, half, even, extend]
  rfl

/-- Quotes are closed, and the argument that is being read has these letters. -/
structure Ends (reading : Reading) (complete : List (List Char)) (letters : List Char) : Prop where
  closed : reading.quoted = false
  finishes : reading.finish = ⟨complete ++ [letters], none, false, 0⟩

end Reading

open Reading

/-- Texts that are read as one argument each are read so when spaces join them. -/
theorem arguments_intercalate {A : Type} {render letters : A → List Char}
    (single : ∀ item complete, Ends (Reading.run ⟨complete, none, false, 0⟩ (render item)) complete
      (letters item)) (items : List A) :
    arguments (List.intercalate [' '] (items.map render)) = items.map letters := by
  have general : ∀ (items : List A) (complete : List (List Char)),
      (Reading.run ⟨complete, none, false, 0⟩
        (List.intercalate [' '] (items.map render))).finish.complete =
      complete ++ items.map letters := by
    intro items
    induction items with
    | nil => simp [run, finish, settle]
    | cons item others ih =>
        intro complete
        cases others with
        | nil =>
            rw [List.map_singleton, List.intercalate_singleton, (single item complete).finishes]
            rfl
        | cons next others =>
            have ends := single item complete
            have parts : List.intercalate [' '] ((item :: next :: others).map render) =
                render item ++ ' ' :: List.intercalate [' '] ((next :: others).map render) := by
              rw [List.map_cons, List.map_cons, List.intercalate_cons_cons]
              simp
            have space : step (Reading.run ⟨complete, none, false, 0⟩ (render item)) ' ' =
                ⟨complete ++ [letters item], none, false, 0⟩ := by
              rw [← ends.finishes]
              simp [step, separates, ends.closed, backslash, quote]
            rw [parts, run_append, run_cons, space, ih]
            simp
  exact general items []

example : arguments "a \"b c\" \"\\\"\\\\\" d\\e \"\"".toList =
    ["a".toList, "b c".toList, "\"\\".toList, "d\\e".toList, []] := by decide

end CommandLine
