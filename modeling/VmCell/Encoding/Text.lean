import Mathlib.Algebra.GroupWithZero.Nat
import Mathlib.Data.List.Basic

/-! Properties and sizes of characters and texts, as the standard library of the
source has them. -/

set_option autoImplicit false
namespace Text

section Characters

/-- The property `White_Space` of Unicode. -/
def isWhitespace (character : Char) : Bool :=
  let code := character.toNat
  (0x09 ≤ code && code ≤ 0x0D) || code == 0x20 || code == 0x85 || code == 0xA0 ||
    code == 0x1680 || (0x2000 ≤ code && code ≤ 0x200A) || code == 0x2028 || code == 0x2029 ||
    code == 0x202F || code == 0x205F || code == 0x3000

/-- A control character of the Unicode category Cc. -/
def isControl (letter : Char) : Bool :=
  letter.toNat < 32 || (127 ≤ letter.toNat && letter.toNat < 160)

/-- A text without a character other than white space, as `trim().is_empty()` has it. -/
def isBlank (text : String) : Bool := text.toList.all isWhitespace

end Characters

section Sizes

/-- The number of code units of UTF-16. -/
def utf16Units (character : Char) : Nat := if character.toNat < 0x10000 then 1 else 2

/-- `encode_utf16().count()`. -/
def utf16Length (text : String) : Nat := (text.toList.map utf16Units).sum

/-- `as_bytes()`. -/
def utf8 (text : String) : List UInt8 := text.toUTF8.data.toList

/-- The bytes of a text in UTF-8. -/
def size (letters : List Char) : Nat := (letters.map Char.utf8Size).sum

variable {character : Char} {letters others : List Char} {text : String}

@[simp] theorem size_nil : size [] = 0 := rfl

@[simp] theorem size_cons : size (character :: letters) = character.utf8Size + size letters := by
  simp [size]

@[simp] theorem size_append : size (letters ++ others) = size letters + size others := by
  simp [size]

theorem length_utf8 : (utf8 text).length = text.utf8ByteSize := by
  unfold utf8
  rw [Array.length_toList]
  rfl

theorem utf8ByteSize_ofList : (String.ofList letters).utf8ByteSize = size letters := by
  induction letters with
  | nil => rfl
  | cons letter letters ih =>
      rw [← List.singleton_append, String.ofList_append, String.utf8ByteSize_append, ih,
        size_append]
      simp [String.ofList_cons]

theorem utf8Size_le_units : character.utf8Size ≤ 3 * utf16Units character := by
  have most : character.utf8Size ≤ 4 := Char.utf8Size_le_four character
  by_cases small : character.toNat < 0x10000
  · have other : character.utf8Size ≠ 4 := by
      rw [Ne, Char.utf8Size_eq_four_iff, UInt32.lt_iff_toNat_lt]
      exact Nat.not_lt.mpr (Nat.le_of_lt_succ small)
    simp only [utf16Units, if_pos small]
    omega
  · simp only [utf16Units, if_neg small]
    omega

theorem utf16Length_le : utf16Length text ≤ 2 * text.length := by
  rw [utf16Length, ← String.length_toList]
  induction text.toList with
  | nil => simp
  | cons letter letters ih =>
      have units : utf16Units letter ≤ 2 := by
        unfold utf16Units
        split <;> omega
      simp only [List.map_cons, List.sum_cons, List.length_cons]
      omega

theorem size_le_length : size letters ≤ 4 * letters.length := by
  induction letters with
  | nil => simp
  | cons letter letters ih =>
      have small : letter.utf8Size ≤ 4 := Char.utf8Size_le_four letter
      simp only [size_cons, List.length_cons]
      omega

end Sizes

end Text
