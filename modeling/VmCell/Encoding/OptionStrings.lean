import Mathlib.Data.List.Basic

/-! Option strings as a machine emulator documents them.

A string is a list of `key=value` items between commas. Two commas in a row are a
comma of the text, an item without `=` is a switch, and the key of the first item
may be implied. Around them stands a command line of options with and without values.
-/

set_option autoImplicit false
namespace OptionStrings

section Items

def items : List Char → List (List Char)
  | [] => [[]]
  | ',' :: ',' :: rest => (items rest).modifyHead (',' :: ·)
  | ',' :: rest => [] :: items rest
  | letter :: rest => (items rest).modifyHead (letter :: ·)

/-- The key and the value of an item; a switch is on. -/
def item (piece : List Char) : String × String :=
  if '=' ∈ piece then
    (String.ofList (piece.takeWhile (· ≠ '=')),
      String.ofList ((piece.dropWhile (· ≠ '=')).drop 1))
  else (String.ofList piece, "on")

/-- The first item of a string whose first key is implied. -/
def firstItem (implied : String) (piece : List Char) : String × String :=
  if '=' ∈ piece then item piece else (implied, String.ofList piece)

def options (text : String) : List (String × String) := (items text.toList).map item

def optionsAfter (implied text : String) : List (String × String) :=
  match items text.toList with
  | [] => []
  | first :: rest => firstItem implied first :: rest.map item

variable {before after piece key value : List Char}

theorem items_letter {letter : Char} (plain : letter ≠ ',') :
    items (letter :: after) = (items after).modifyHead (letter :: ·) := by
  rw [items.eq_def]
  split <;> simp_all

theorem items_comma (single : after.head? ≠ some ',') :
    items (',' :: after) = [] :: items after := by
  rw [items.eq_def]
  split <;> grind

/-- A comma alone ends an item. -/
theorem items_append (clean : ',' ∉ before) (single : after.head? ≠ some ',') :
    items (before ++ ',' :: after) = before :: items after := by
  induction before with
  | nil => exact items_comma single
  | cons letter before ih =>
      simp only [List.mem_cons, not_or] at clean
      rw [List.cons_append, items_letter (Ne.symm clean.1), ih clean.2]
      rfl

theorem item_assignment (plain : '=' ∉ key) :
    item (key ++ '=' :: value) = (String.ofList key, String.ofList value) := by
  have letters : ∀ letter ∈ key, (letter ≠ '=' : Bool) = true := by
    intro letter member
    simp only [ne_eq, decide_not, Bool.not_eq_true', decide_eq_false_iff_not]
    rintro rfl
    exact plain member
  rw [item, if_pos (by simp), List.takeWhile_append_of_pos letters,
    List.dropWhile_append_of_pos letters]
  simp

/-- A key begins as its item does. -/
theorem head?_item (full : piece ≠ []) (named : piece.head? ≠ some '=') :
    (item piece).1.toList.head? = piece.head? := by
  cases piece with
  | nil => contradiction
  | cons letter rest =>
      have other : letter ≠ '=' := by simpa using named
      unfold item
      split
      · simp [other]
      · simp

end Items

section CommandLines
variable (switches valued : List String)

/-- The options of a command line with their values; nothing if one is unknown. -/
def readOptions : List String → Option (List (String × Option String))
  | [] => some []
  | word :: rest =>
      if word ∈ switches then (readOptions rest).map ((word, none) :: ·)
      else if word ∈ valued then
        match rest with
        | [] => none
        | value :: rest => (readOptions rest).map ((word, some value) :: ·)
      else none

def valuesOf (name : String) (line : List (String × Option String)) : List String :=
  line.filterMap fun option => if option.1 = name then option.2 else none

end CommandLines

end OptionStrings
