import VmCell.Encoding.Text

/-! Bytes of texts in UTF-8, and the text that the bytes of a system stand for.

`toStringLossy` takes the longest well-formed pieces and a replacement character for
each maximal ill-formed one.
-/

set_option autoImplicit false
namespace Text

section Bytes
variable {text : String} {letters : List Char} {letter : Char} {byte : UInt8}

theorem toList_loop (bytes : ByteArray) (index : Nat) (read : List UInt8) :
    ByteArray.toList.loop bytes index read = read.reverse ++ bytes.data.toList.drop index := by
  fun_induction ByteArray.toList.loop bytes index read with
  | case1 index read inside ih =>
      have here : index < bytes.data.toList.length := by simpa using inside
      rw [ih, List.drop_eq_getElem_cons here]
      have byte : bytes.get! index = bytes.data.toList[index] := by
        simp [ByteArray.get!, getElem!_pos bytes.data index inside]
      simp [byte]
  | case2 index read outside =>
      have past : bytes.data.toList.length ≤ index := by simpa using outside
      simp [List.drop_eq_nil_of_le past]

theorem toList_toUTF8 (text : String) : text.toUTF8.toList = utf8 text := by
  rw [ByteArray.toList, toList_loop]
  rfl

theorem utf8_injective {other : String} (same : utf8 text = utf8 other) : text = other :=
  String.toByteArray_inj.mp (ByteArray.ext (Array.toList_inj.mp same))

@[simp] theorem utf8_append (first second : String) :
    utf8 (first ++ second) = utf8 first ++ utf8 second := by
  simp [utf8, ByteArray.data_append]

theorem utf8_ofList (letters : List Char) :
    utf8 (String.ofList letters) = letters.flatMap String.utf8EncodeChar := by
  simp [utf8, List.utf8Encode]

theorem utf8_eq (text : String) : utf8 text = text.toList.flatMap String.utf8EncodeChar := by
  rw [← utf8_ofList, String.ofList_toList]

/-- A byte of ASCII in an encoding is the whole encoding. -/
theorem ascii_mem_encodeChar (ascii : byte.toNat < 128)
    (inside : byte ∈ String.utf8EncodeChar letter) : letter.toNat = byte.toNat := by
  have value : letter.toNat = letter.val.toNat := rfl
  unfold String.utf8EncodeChar at inside
  simp only at inside
  split at inside
  · obtain rfl := List.mem_singleton.mp inside
    rw [UInt8.toNat_ofNat', value]
    omega
  · split at inside
    · simp only [List.mem_cons, List.not_mem_nil, or_false] at inside
      rcases inside with rfl | rfl <;> rw [UInt8.toNat_ofNat'] at ascii <;> omega
    · split at inside
      · simp only [List.mem_cons, List.not_mem_nil, or_false] at inside
        rcases inside with rfl | rfl | rfl <;> rw [UInt8.toNat_ofNat'] at ascii <;> omega
      · simp only [List.mem_cons, List.not_mem_nil, or_false] at inside
        rcases inside with rfl | rfl | rfl | rfl <;> rw [UInt8.toNat_ofNat'] at ascii <;> omega

theorem ascii_mem_utf8 (ascii : byte.toNat < 128) (inside : byte ∈ utf8 text) :
    Char.ofNat byte.toNat ∈ text.toList := by
  rw [utf8_eq] at inside
  obtain ⟨letter, member, byte_mem⟩ := List.mem_flatMap.mp inside
  rw [← ascii_mem_encodeChar ascii byte_mem, Char.ofNat_toNat]
  exact member

theorem encodeChar_ascii (ascii : byte.toNat < 128) (same : letter.toNat = byte.toNat) :
    String.utf8EncodeChar letter = [byte] := by
  have value : letter.val.toNat = byte.toNat := same
  unfold String.utf8EncodeChar
  simp only [value]
  rw [if_pos (by omega), UInt8.ofNat_toNat]

def IsUtf8 (bytes : List UInt8) : Prop := ∃ text, utf8 text = bytes

/-- A last byte of ASCII is a character of its own. -/
theorem isUtf8_concat {bytes : List UInt8} (ascii : byte.toNat < 128) :
    IsUtf8 (bytes ++ [byte]) ↔ IsUtf8 bytes := by
  constructor
  · rintro ⟨text, same⟩
    rw [utf8_eq] at same
    rcases List.eq_nil_or_concat text.toList with none | ⟨front, letter, letters⟩
    · rw [none] at same
      simp at same
    · rw [letters, List.concat_eq_append, List.flatMap_append, List.flatMap_singleton] at same
      have inside : byte ∈ String.utf8EncodeChar letter := by
        have ends := congrArg List.getLast? same
        rw [List.getLast?_append_of_ne_nil _ String.utf8EncodeChar_ne_nil, List.getLast?_concat]
          at ends
        exact List.mem_of_getLast? ends
      rw [encodeChar_ascii ascii (ascii_mem_encodeChar ascii inside)] at same
      refine ⟨String.ofList front, ?_⟩
      rw [utf8_ofList]
      exact List.append_cancel_right same
  · rintro ⟨text, same⟩
    have valid : byte.toNat.isValidChar := Or.inl (by omega)
    have code : (Char.ofNat byte.toNat).toNat = byte.toNat := by
      rw [Char.ofNat, dif_pos valid]
      rfl
    refine ⟨text ++ String.ofList [Char.ofNat byte.toNat], ?_⟩
    rw [utf8_append, same, utf8_ofList, List.flatMap_singleton, encodeChar_ascii ascii code]

theorem utf8_ne_nil (full : text ≠ "") : utf8 text ≠ [] := by
  intro none
  exact full (utf8_injective none)

end Bytes

section Lossy

def isContinuation (byte : UInt8) : Bool := 0x80 ≤ byte && byte ≤ 0xBF

/-- The bytes that may follow the first one of a longer encoding, and how many do. -/
def leadOf (byte : UInt8) : Option (Nat × UInt8 × UInt8) :=
  if 0xC2 ≤ byte && byte ≤ 0xDF then some (1, 0x80, 0xBF)
  else if byte = 0xE0 then some (2, 0xA0, 0xBF)
  else if byte = 0xED then some (2, 0x80, 0x9F)
  else if 0xE1 ≤ byte && byte ≤ 0xEF then some (2, 0x80, 0xBF)
  else if byte = 0xF0 then some (3, 0x90, 0xBF)
  else if 0xF1 ≤ byte && byte ≤ 0xF3 then some (3, 0x80, 0xBF)
  else if byte = 0xF4 then some (3, 0x80, 0x8F)
  else none

/-- How many of the bytes belong to the piece that begins here, and whether it is whole. -/
def pieceOf : List UInt8 → Nat × Bool
  | [] => (0, true)
  | first :: rest =>
      if first < 0x80 then (1, true)
      else
        match leadOf first with
        | none => (1, false)
        | some (count, low, high) =>
            match rest with
            | [] => (1, false)
            | second :: others =>
                if low ≤ second && second ≤ high then
                  let more := ((others.take (count - 1)).takeWhile isContinuation).length
                  (2 + more, more = count - 1)
                else (1, false)

def replacement : List UInt8 := [0xEF, 0xBF, 0xBD]

/-- The bytes with each maximal ill-formed piece replaced. -/
def repaired : Nat → List UInt8 → List UInt8
  | 0, _ => []
  | _, [] => []
  | rounds + 1, bytes =>
      let (length, whole) := pieceOf bytes
      (if whole then bytes.take length else replacement) ++ repaired rounds (bytes.drop length)

/-- `to_string_lossy()` of bytes. -/
def toStringLossy (bytes : List UInt8) : String :=
  match String.fromUTF8? ⟨bytes.toArray⟩ with
  | some text => text
  | none => (String.fromUTF8? ⟨(repaired bytes.length bytes).toArray⟩).getD ""

theorem fromUTF8?_utf8 (text : String) : String.fromUTF8? ⟨(utf8 text).toArray⟩ = some text := by
  unfold utf8 String.fromUTF8?
  simp only [Array.toArray_toList]
  exact dif_pos text.isValidUTF8

theorem toStringLossy_utf8 (text : String) : toStringLossy (utf8 text) = text := by
  rw [toStringLossy, fromUTF8?_utf8]

end Lossy

end Text
