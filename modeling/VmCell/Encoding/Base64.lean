import Mathlib.Data.List.Basic

/-! Base64 over the standard alphabet, padded, and read only in its canonical form.

A group of three bytes is four letters. In a last group of one or two bytes the
bits that no byte fills are zero, and padding stands for the letters that are left.
-/

set_option autoImplicit false
namespace Base64

section Alphabet

def alphabet : List Char :=
  "ABCDEFGHIJKLMNOPQRSTUVWXYZabcdefghijklmnopqrstuvwxyz0123456789+/".toList

def padding : Char := '='

def letter (value : Nat) : Char := alphabet.getD value padding

def value (character : Char) : Option Nat := alphabet.idxOf? character

theorem value_letter {number : Nat} (small : number < 64) :
    value (letter number) = some number := by
  have all : ∀ index : Fin 64, value (letter index) = some index.val := by decide +kernel
  exact all ⟨number, small⟩

theorem letter_ne_padding {number : Nat} (small : number < 64) : letter number ≠ padding := by
  have all : ∀ index : Fin 64, letter index ≠ padding := by decide +kernel
  exact all ⟨number, small⟩

theorem letter_ascii (number : Nat) : (letter number).utf8Size = 1 := by
  have all : (alphabet.all fun character => character.utf8Size == 1) = true := by decide +kernel
  unfold letter
  rw [List.getD_eq_getElem?_getD]
  cases found : alphabet[number]? with
  | none => rfl
  | some character => exact beq_iff_eq.mp (List.all_eq_true.mp all _ (List.mem_of_getElem? found))

end Alphabet

section Coding

def encode : List UInt8 → List Char
  | [] => []
  | [a] => [letter (a.toNat / 4), letter (a.toNat % 4 * 16), padding, padding]
  | [a, b] =>
      [letter (a.toNat / 4), letter (a.toNat % 4 * 16 + b.toNat / 16), letter (b.toNat % 16 * 4),
        padding]
  | a :: b :: c :: rest =>
      letter (a.toNat / 4) :: letter (a.toNat % 4 * 16 + b.toNat / 16) ::
        letter (b.toNat % 16 * 4 + c.toNat / 64) :: letter (c.toNat % 64) :: encode rest

/-- A last group of one byte. -/
def decodeOne (p q : Char) : Option (List UInt8) := do
  let first ← value p
  let second ← value q
  if second % 16 = 0 then some [UInt8.ofNat (first * 4 + second / 16)] else none

/-- A last group of two bytes. -/
def decodeTwo (p q r : Char) : Option (List UInt8) := do
  let first ← value p
  let second ← value q
  let third ← value r
  if third % 4 = 0 then
    some [UInt8.ofNat (first * 4 + second / 16), UInt8.ofNat (second % 16 * 16 + third / 4)]
  else none

def decodeThree (p q r s : Char) : Option (List UInt8) := do
  let first ← value p
  let second ← value q
  let third ← value r
  let fourth ← value s
  some [UInt8.ofNat (first * 4 + second / 16), UInt8.ofNat (second % 16 * 16 + third / 4),
    UInt8.ofNat (third % 4 * 64 + fourth)]

def decode : List Char → Option (List UInt8)
  | [] => some []
  | p :: q :: r :: s :: rest =>
      if rest = [] ∧ s = padding then if r = padding then decodeOne p q else decodeTwo p q r
      else do
        let group ← decodeThree p q r s
        let others ← decode rest
        some (group ++ others)
  | _ => none

variable {bytes : List UInt8}

theorem length_encode (bytes : List UInt8) :
    (encode bytes).length = 4 * ((bytes.length + 2) / 3) := by
  induction bytes using encode.induct with
  | case1 => simp [encode]
  | case2 a => simp [encode]
  | case3 a b => simp [encode]
  | case4 a b c rest ih =>
      rw [encode]
      simp only [List.length_cons, ih]
      omega

theorem encode_ascii {character : Char} (member : character ∈ encode bytes) :
    character.utf8Size = 1 := by
  induction bytes using encode.induct with
  | case1 => cases member
  | case2 a =>
      simp only [encode, List.mem_cons, List.not_mem_nil, or_false] at member
      rcases member with rfl | rfl | rfl | rfl
      · exact letter_ascii _
      · exact letter_ascii _
      · rfl
      · rfl
  | case3 a b =>
      simp only [encode, List.mem_cons, List.not_mem_nil, or_false] at member
      rcases member with rfl | rfl | rfl | rfl
      · exact letter_ascii _
      · exact letter_ascii _
      · exact letter_ascii _
      · rfl
  | case4 a b c rest ih =>
      rw [encode] at member
      simp only [List.mem_cons] at member
      rcases member with rfl | rfl | rfl | rfl | later
      · exact letter_ascii _
      · exact letter_ascii _
      · exact letter_ascii _
      · exact letter_ascii _
      · exact ih later

/-- A byte is put together again from the bits of two letters. -/
theorem ofNat_join {number : Nat} {byte : UInt8} (joins : number = byte.toNat) :
    UInt8.ofNat number = byte := by
  rw [joins, UInt8.ofNat_toNat]

/-- What was encoded is read back. -/
theorem decode_encode (bytes : List UInt8) : decode (encode bytes) = some bytes := by
  induction bytes using encode.induct with
  | case1 => simp [encode, decode]
  | case2 a =>
      have bound := a.toNat_lt
      have joined : UInt8.ofNat (a.toNat / 4 * 4 + a.toNat % 4 * 16 / 16) = a :=
        ofNat_join (by omega)
      have filled : a.toNat % 4 * 16 % 16 = 0 := by omega
      simp only [encode, decode, decodeOne, and_self, if_true, Option.bind_eq_bind,
        value_letter (show a.toNat / 4 < 64 by omega),
        value_letter (show a.toNat % 4 * 16 < 64 by omega), Option.bind_some]
      rw [if_pos filled, joined]
  | case3 a b =>
      have first := a.toNat_lt
      have second := b.toNat_lt
      have third : b.toNat % 16 * 4 < 64 := by omega
      have filled : b.toNat % 16 * 4 % 4 = 0 := by omega
      have high : UInt8.ofNat (a.toNat / 4 * 4 + (a.toNat % 4 * 16 + b.toNat / 16) / 16) = a :=
        ofNat_join (by omega)
      have low : UInt8.ofNat ((a.toNat % 4 * 16 + b.toNat / 16) % 16 * 16 +
          b.toNat % 16 * 4 / 4) = b := ofNat_join (by omega)
      simp only [encode, decode, decodeTwo, and_self, if_true, if_neg (letter_ne_padding third),
        value_letter (show a.toNat / 4 < 64 by omega),
        value_letter (show a.toNat % 4 * 16 + b.toNat / 16 < 64 by omega), value_letter third,
        Option.bind_eq_bind, Option.bind_some]
      rw [if_pos filled, high, low]
  | case4 a b c rest ih =>
      have first := a.toNat_lt
      have second := b.toNat_lt
      have third := c.toNat_lt
      have last : c.toNat % 64 < 64 := by omega
      have high : UInt8.ofNat (a.toNat / 4 * 4 + (a.toNat % 4 * 16 + b.toNat / 16) / 16) = a :=
        ofNat_join (by omega)
      have middle : UInt8.ofNat ((a.toNat % 4 * 16 + b.toNat / 16) % 16 * 16 +
          (b.toNat % 16 * 4 + c.toNat / 64) / 4) = b := ofNat_join (by omega)
      have low : UInt8.ofNat ((b.toNat % 16 * 4 + c.toNat / 64) % 4 * 64 + c.toNat % 64) = c :=
        ofNat_join (by omega)
      rw [encode, decode, if_neg fun ends => letter_ne_padding last ends.2]
      simp only [decodeThree, value_letter (show a.toNat / 4 < 64 by omega),
        value_letter (show a.toNat % 4 * 16 + b.toNat / 16 < 64 by omega),
        value_letter (show b.toNat % 16 * 4 + c.toNat / 64 < 64 by omega), value_letter last, ih,
        Option.bind_eq_bind, Option.bind_some]
      rw [high, middle, low]
      rfl

end Coding

end Base64
