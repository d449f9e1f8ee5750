import Mathlib.Data.List.Basic
import Mathlib.Tactic.Common

/-! The lines of a sequence, and buffered readers that hand a sequence out in portions.

A reader shows some of what is still to come and is told how much of it was taken.
-/

set_option autoImplicit false

namespace Lines
variable {α : Type} [DecidableEq α] {stop letter : α} {body rest : List α}

/-- The lines of a sequence, each with the letter that ends it. -/
def split (stop : α) : List α → List (List α)
  | [] => []
  | letter :: rest =>
      if letter = stop then [letter] :: split stop rest
      else match split stop rest with
        | [] => [[letter]]
        | first :: others => (letter :: first) :: others

theorem split_stop : split stop (stop :: rest) = [stop] :: split stop rest := if_pos rfl

theorem split_letter (other : letter ≠ stop) : split stop (letter :: rest) =
    match split stop rest with
    | [] => [[letter]]
    | first :: others => (letter :: first) :: others := if_neg other

theorem split_flatten (stop : α) (input : List α) : (split stop input).flatten = input := by
  induction input with
  | nil => rfl
  | cons letter rest ih =>
      by_cases ends : letter = stop
      · rw [ends, split_stop, List.flatten_cons, ih, List.singleton_append]
      · rw [split_letter ends]
        cases found : split stop rest with
        | nil =>
            rw [found] at ih
            simp [← ih]
        | cons first others =>
            rw [found, List.flatten_cons] at ih
            simp [← ih]

/-- What comes before the first end, with it, is the first line. -/
theorem split_ended (free : stop ∉ body) :
    split stop (body ++ stop :: rest) = (body ++ [stop]) :: split stop rest := by
  induction body with
  | nil => exact split_stop
  | cons letter body ih =>
      obtain ⟨other, free⟩ := not_or.mp (mt List.mem_cons.mpr free)
      rw [List.cons_append, split_letter (Ne.symm other), ih free, List.cons_append]

/-- The last line may lack its end. -/
theorem split_open (free : stop ∉ body) (full : body ≠ []) : split stop body = [body] := by
  induction body with
  | nil => exact absurd rfl full
  | cons letter body ih =>
      obtain ⟨other, free⟩ := not_or.mp (mt List.mem_cons.mpr free)
      rw [split_letter (Ne.symm other)]
      by_cases last : body = []
      · rw [last]
        rfl
      · rw [ih free last]

end Lines

/-- `BufRead`: what is buffered next, where nothing stands for the end, and how much
of it was taken. -/
structure BufRead (ε α σ : Type) where
  fillBuf : σ → Except ε (List α) × σ
  consume : σ → Nat → σ

/-- A reader of a sequence: it shows a nonempty part of what is still to come, of any
length, as long as there is something to come. -/
structure BufferedSequence (ε α σ : Type) extends BufRead ε α σ where
  pending : σ → List α
  fills : ∀ input, ∃ available rest later, fillBuf input = (.ok available, later) ∧
    pending input = available ++ rest ∧ pending later = available ++ rest ∧
    (available = [] → rest = [])
  consumes : ∀ input available later count, fillBuf input = (.ok available, later) →
    count ≤ available.length → pending (consume later count) = (pending later).drop count

namespace BufferedSequence
variable {ε α : Type}

def takeFront (count : Nat) :
    List {chunk : List α // chunk ≠ []} → List {chunk : List α // chunk ≠ []}
  | [] => []
  | chunk :: later =>
      if left : chunk.val.drop count = [] then later else ⟨chunk.val.drop count, left⟩ :: later

/-- The reader of a sequence that arrives in given chunks. -/
def ofChunks : BufferedSequence ε α (List {chunk : List α // chunk ≠ []}) where
  fillBuf chunks := (.ok (chunks.head?.elim [] Subtype.val), chunks)
  consume chunks count := takeFront count chunks
  pending chunks := (chunks.map Subtype.val).flatten
  fills chunks := by
    cases chunks with
    | nil => exact ⟨[], [], [], rfl, rfl, rfl, fun _ => rfl⟩
    | cons chunk later =>
        exact ⟨chunk.val, (later.map Subtype.val).flatten, chunk :: later, rfl, rfl, rfl,
          fun none => absurd none chunk.property⟩
  consumes chunks available later count filled within := by
    obtain ⟨shown, rfl⟩ := Prod.mk.inj filled
    obtain rfl := Except.ok.inj shown
    cases chunks with
    | nil => simp [takeFront]
    | cons chunk later =>
        change count ≤ chunk.val.length at within
        simp only [takeFront, List.map_cons, List.flatten_cons,
          List.drop_append_of_le_length within]
        split
        · rename_i left
          rw [left, List.nil_append]
        · rw [List.map_cons, List.flatten_cons]

end BufferedSequence
