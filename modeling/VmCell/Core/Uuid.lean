import Mathlib.Algebra.Group.Int.Defs
import Mathlib.Algebra.GroupWithZero.Nat
import Mathlib.Data.List.Basic

/-! Identifiers and their canonical text.

A UUID is kept as its 32 hexadecimal digits, most significant first, which is
the 128-bit value read in base 16. `Uuid.toText` is the hyphenated lower-case
form that the `uuid` crate displays; `Uuid.parseStr` accepts what its
`parse_str` accepts: hyphenated, braced, URN and simple text in either case.
-/

set_option autoImplicit false
namespace VmCell

instance neZero_sixteen : NeZero 16 := ⟨by decide⟩

structure Uuid where
  digits : List (Fin 16)
  length_digits : digits.length = 32
  deriving DecidableEq

namespace Uuid

def hexDigits : List Char :=
  ['0', '1', '2', '3', '4', '5', '6', '7', '8', '9', 'a', 'b', 'c', 'd', 'e', 'f']

def hexChar (digit : Fin 16) : Char := hexDigits.getD digit.val '0'

def hexValue (character : Char) : Option (Fin 16) :=
  (List.finRange 16).find? fun digit => hexChar digit == character.toLower

theorem hexValue_hexChar (digit : Fin 16) : hexValue (hexChar digit) = some digit := by
  revert digit
  decide

def hyphenate (text : List Char) : List Char :=
  text.take 8 ++ '-' :: (text.drop 8).take 4 ++ '-' :: (text.drop 12).take 4 ++
    '-' :: (text.drop 16).take 4 ++ '-' :: text.drop 20

def chars (value : Uuid) : List Char := hyphenate (value.digits.map hexChar)

/-- The displayed form: `8-4-4-4-12` lower-case digits. -/
def toText (value : Uuid) : String := String.ofList value.chars

def decode (text : List Char) : Option Uuid :=
  match text.mapM hexValue with
  | none => none
  | some digits => if h : digits.length = 32 then some ⟨digits, h⟩ else none

def decodeHyphenated (text : List Char) : Option Uuid :=
  if text.length = 36 ∧ text[8]? = some '-' ∧ text[13]? = some '-' ∧
      text[18]? = some '-' ∧ text[23]? = some '-' then
    decode (text.take 8 ++ (text.drop 9).take 4 ++ (text.drop 14).take 4 ++
      (text.drop 19).take 4 ++ text.drop 24)
  else none

def parseChars (text : List Char) : Option Uuid :=
  if text.length = 32 then decode text
  else if text.length = 36 then decodeHyphenated text
  else if text.length = 38 ∧ text.head? = some '{' ∧ text.getLast? = some '}' then
    decodeHyphenated (text.tail.dropLast)
  else if text.length = 45 ∧ text.take 9 = "urn:uuid:".toList then
    decodeHyphenated (text.drop 9)
  else none

def parseStr (text : String) : Option Uuid := parseChars text.toList

/-- The value whose digits are those of `value` in base 16. -/
def ofNat (value : Nat) : Uuid where
  digits := (List.range 32).map fun place => Fin.ofNat 16 (value / 16 ^ (31 - place))
  length_digits := by simp

/-- The 128-bit number. -/
def asU128 (value : Uuid) : Nat :=
  value.digits.foldl (fun number digit => 16 * number + digit.val) 0

/-- What `Uuid::new_v4` makes of random bits: version 4 and variant 10. -/
def IsV4 (value : Uuid) : Prop :=
  value.digits[12]? = some 4 ∧ ∃ variant ∈ value.digits[16]?, 8 ≤ variant.val ∧ variant.val < 12

def nil : Uuid := ⟨List.replicate 32 0, by simp⟩

def isNil (value : Uuid) : Bool := value.digits.all (· == 0)

theorem decode_map_hexChar (value : Uuid) : decode (value.digits.map hexChar) = some value := by
  have read : ∀ digits : List (Fin 16), (digits.map hexChar).mapM hexValue = some digits := by
    intro digits
    induction digits with
    | nil => rfl
    | cons first rest ih => simp [List.mapM_cons, hexValue_hexChar, ih]
  simp [decode, read, value.length_digits]

/-- Cutting the hyphenated text at its hyphens gives the digits back. -/
theorem decodeHyphenated_hyphenate (text : List Char) (length : text.length = 32) :
    decodeHyphenated (hyphenate text) = decode text := by
  obtain ⟨a, rest, rfl, lengthA⟩ : ∃ a rest, text = a ++ rest ∧ a.length = 8 :=
    ⟨text.take 8, text.drop 8, (List.take_append_drop 8 text).symm, by simp [length]⟩
  obtain ⟨b, rest, rfl, lengthB⟩ : ∃ b rest', rest = b ++ rest' ∧ b.length = 4 :=
    ⟨rest.take 4, rest.drop 4, (List.take_append_drop 4 rest).symm, by
      simp [List.length_append] at length ⊢; omega⟩
  obtain ⟨c, rest, rfl, lengthC⟩ : ∃ c rest', rest = c ++ rest' ∧ c.length = 4 :=
    ⟨rest.take 4, rest.drop 4, (List.take_append_drop 4 rest).symm, by
      simp [List.length_append] at length ⊢; omega⟩
  obtain ⟨d, e, rfl, lengthD⟩ : ∃ d e, rest = d ++ e ∧ d.length = 4 :=
    ⟨rest.take 4, rest.drop 4, (List.take_append_drop 4 rest).symm, by
      simp [List.length_append] at length ⊢; omega⟩
  have lengthE : e.length = 12 := by simp [List.length_append] at length; omega
  have shape : hyphenate (a ++ (b ++ (c ++ (d ++ e)))) =
      a ++ '-' :: (b ++ '-' :: (c ++ '-' :: (d ++ '-' :: e))) := by
    simp [hyphenate, List.drop_append, List.drop_of_length_le, lengthA, lengthB, lengthC, lengthD]
  rw [shape]
  simp [decodeHyphenated, List.drop_append, List.drop_of_length_le,
    lengthA, lengthB, lengthC, lengthD, lengthE]

theorem length_chars (value : Uuid) : value.chars.length = 36 := by
  simp [chars, hyphenate, value.length_digits]

theorem parseStr_toText (value : Uuid) : parseStr value.toText = some value := by
  have long := value.length_chars
  simp only [parseStr, toText, String.toList_ofList, parseChars, long]
  rw [if_neg (by decide), if_pos trivial]
  exact (decodeHyphenated_hyphenate _ (by simp [value.length_digits])).trans
    (decode_map_hexChar value)

theorem toText_injective : Function.Injective toText := by
  intro first second same
  have read := parseStr_toText first
  rw [same, parseStr_toText] at read
  exact (Option.some.inj read).symm

end Uuid

end VmCell
