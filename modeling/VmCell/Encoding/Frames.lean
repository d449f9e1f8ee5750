import Mathlib.Data.List.Basic
import Mathlib.Tactic.Common

/-! Byte strings behind their length, as 32 bits with the least significant byte first.

A reader has a limit for each string. What is cut off before its end is refused.
-/

set_option autoImplicit false
namespace Frames

def toLe (number : Nat) : List UInt8 :=
  [UInt8.ofNat number, UInt8.ofNat (number / 256), UInt8.ofNat (number / 65536),
    UInt8.ofNat (number / 16777216)]

def ofLe (a b c d : UInt8) : Nat :=
  a.toNat + b.toNat * 256 + c.toNat * 65536 + d.toNat * 16777216

/-- A string of more than 32 bits of length has no frame. -/
def frame (bytes : List UInt8) : Option (List UInt8) :=
  if bytes.length < 4294967296 then some (toLe bytes.length ++ bytes) else none

inductive Refusal where
  | endOfStream
  | oversized
  | truncated
  deriving DecidableEq

/-- The input ends too early. -/
def Refusal.IsCut : Refusal → Prop
  | .oversized => False
  | _ => True

def readLength : List UInt8 → Except Refusal (Nat × List UInt8)
  | a :: b :: c :: d :: rest => .ok (ofLe a b c d, rest)
  | _ => .error .endOfStream

def readExact (input : List UInt8) (length : Nat) : Except Refusal (List UInt8 × List UInt8) :=
  let bytes := input.take length
  if bytes.length ≠ length then .error .truncated else .ok (bytes, input.drop length)

/-- A string of at most the given length, and what follows it. -/
def read (limit : Nat) (input : List UInt8) : Except Refusal (List UInt8 × List UInt8) :=
  match readLength input with
  | .error refusal => .error refusal
  | .ok (length, rest) => if limit < length then .error .oversized else readExact rest length

variable {bytes framed rest cut missing : List UInt8} {limit number : Nat}

theorem ofLe_toLe (small : number < 4294967296) :
    ofLe (UInt8.ofNat number) (UInt8.ofNat (number / 256)) (UInt8.ofNat (number / 65536))
      (UInt8.ofNat (number / 16777216)) = number := by
  simp only [ofLe, UInt8.toNat_ofNat']
  omega

theorem readLength_toLe (small : number < 4294967296) :
    readLength (toLe number ++ rest) = .ok (number, rest) := by
  simp only [toLe, List.cons_append, List.nil_append, readLength, ofLe_toLe small]

theorem frame_some (fits : bytes.length < 4294967296) :
    frame bytes = some (toLe bytes.length ++ bytes) := if_pos fits

theorem frame_parts (framing : frame bytes = some framed) :
    bytes.length < 4294967296 ∧ framed = toLe bytes.length ++ bytes := by
  unfold frame at framing
  split at framing
  · rename_i fits
    exact ⟨fits, (Option.some.inj framing).symm⟩
  · cases framing

theorem read_frame (framing : frame bytes = some framed) (within : bytes.length ≤ limit) :
    read limit (framed ++ rest) = .ok (bytes, rest) := by
  obtain ⟨small, rfl⟩ := frame_parts framing
  rw [read, List.append_assoc, readLength_toLe small]
  simp [readExact, Nat.not_lt.mpr within]

/-- What lacks some of its last bytes ends within the first string or behind it. -/
theorem cut_cases (split : cut ++ missing = framed ++ rest) :
    (∃ lacking, cut ++ lacking = framed ∧ lacking ≠ []) ∨
      ∃ following, cut = framed ++ following ∧ following ++ missing = rest := by
  rcases List.append_eq_append_iff.mp split with ⟨more, first, last⟩ | ⟨more, first, last⟩
  · cases more with
    | nil =>
        refine Or.inr ⟨[], ?_, last⟩
        rw [first, List.append_nil, List.append_nil]
    | cons next others => exact Or.inl ⟨next :: others, first.symm, by simp⟩
  · exact Or.inr ⟨more, first, last.symm⟩

/-- What lacks some of its last bytes is refused for that reason. -/
theorem read_cut (framing : frame bytes = some framed) (within : bytes.length ≤ limit)
    (split : cut ++ missing = framed) (lacking : missing ≠ []) :
    ∃ refusal, read limit cut = .error refusal ∧ refusal.IsCut := by
  obtain ⟨small, rfl⟩ := frame_parts framing
  rcases List.append_eq_append_iff.mp split with ⟨more, lengths, _⟩ | ⟨more, rfl, rest⟩
  · -- The cut is within the length, or right behind it.
    cases more with
    | nil =>
        rw [List.append_nil] at lengths
        subst lengths
        have whole := @readLength_toLe [] _ small
        rw [List.append_nil] at whole
        have empty : missing = bytes := List.append_cancel_left split
        refine ⟨.truncated, ?_, trivial⟩
        have positive : bytes.length ≠ 0 := by
          rw [← empty]
          simpa using lacking
        simp [read, whole, readExact, Nat.not_lt.mpr within, positive.symm]
    | cons next others =>
        refine ⟨.endOfStream, ?_, trivial⟩
        have short : cut.length < 4 := by
          have total := congrArg List.length lengths
          simp only [toLe, List.length_cons, List.length_append, List.length_nil] at total
          omega
        match cut, short with
        | [], _ => rfl
        | [_], _ => rfl
        | [_, _], _ => rfl
        | [_, _, _], _ => rfl
  · refine ⟨.truncated, ?_, trivial⟩
    have shorter : more.length < bytes.length := by
      have positive := List.length_pos_of_ne_nil lacking
      rw [rest, List.length_append]
      omega
    rw [read, readLength_toLe small]
    have clipped : (more.take bytes.length).length ≠ bytes.length := by
      rw [List.length_take]
      omega
    simp only [readExact, if_neg (Nat.not_lt.mpr within), if_pos clipped]

section Sequences
variable {α : Type} {width bound : Nat} {lead : Nat → List α}

/-- Strings behind leads of one width, which tell lengths below the bound apart, can be
told apart without an end. -/
theorem sequence_injective (positive : 0 < width) (wide : ∀ number, (lead number).length = width)
    (exact : ∀ number < bound, ∀ other < bound, lead number = lead other → number = other)
    {first second : List (List α)} (shortFirst : ∀ string ∈ first, string.length < bound)
    (shortSecond : ∀ string ∈ second, string.length < bound)
    (same : first.flatMap (fun string => lead string.length ++ string) =
      second.flatMap fun string => lead string.length ++ string) : first = second := by
  have begun : ∀ (string : List α) (rest : List α), lead string.length ++ string ++ rest ≠ [] := by
    intro string rest none
    have length := congrArg List.length none
    simp only [List.length_append, wide, List.length_nil] at length
    omega
  induction first generalizing second with
  | nil =>
      cases second with
      | nil => rfl
      | cons string others =>
          rw [List.flatMap_nil, List.flatMap_cons] at same
          exact absurd same.symm (begun string _)
  | cons string others ih =>
      cases second with
      | nil =>
          rw [List.flatMap_nil, List.flatMap_cons] at same
          exact absurd same (begun string _)
      | cons string' others' =>
          rw [List.flatMap_cons, List.flatMap_cons, List.append_assoc, List.append_assoc] at same
          obtain ⟨leads, rest⟩ := List.append_inj same (by rw [wide, wide])
          have lengths := exact _ (shortFirst string List.mem_cons_self) _
            (shortSecond string' List.mem_cons_self) leads
          obtain ⟨strings, rest⟩ := List.append_inj rest lengths
          rw [strings, ih (fun x member => shortFirst x (List.mem_cons_of_mem _ member))
            (fun x member => shortSecond x (List.mem_cons_of_mem _ member)) rest]

end Sequences

end Frames
