import Mathlib.Data.List.Basic

/-! Host paths and the comparisons the program makes on them.

A path is its anchor (nothing, a root, or a Windows prefix with its root) and its
components, so that equal paths are the ones `std::path` compares equal. Text is
handled as characters; only ASCII letters change case.
-/

set_option autoImplicit false
namespace VmCell

inductive Platform where
  | unix
  | windows
  deriving DecidableEq, Repr

def asciiLowercase (text : List Char) : List Char := text.map Char.toLower

def eqIgnoreAsciiCase (left right : String) : Bool :=
  asciiLowercase left.toList == asciiLowercase right.toList

/-- The pieces between separators; empty pieces and `.` are no components. -/
def splitComponents (separator : Char → Bool) : List Char → List Char → List String
  | [], piece => keep piece
  | next :: rest, piece =>
      if separator next then keep piece ++ splitComponents separator rest []
      else splitComponents separator rest (piece ++ [next])
where
  keep (piece : List Char) : List String :=
    if piece = [] ∨ piece = ['.'] then [] else [String.ofList piece]

structure PathBuf where
  anchor : String
  components : List String
  deriving DecidableEq, Repr

namespace PathBuf

/-- Appends relative text. Every text joined in the source is a fixed name, an
identifier or starts with `cell.`, so it never replaces the path. -/
def join (path : PathBuf) (text : String) : PathBuf :=
  { path with components := path.components ++ splitComponents (· == '/') text.toList [] }

def parent (path : PathBuf) : Option PathBuf :=
  if path.components = [] then none
  else some { path with components := path.components.dropLast }

def fileName (path : PathBuf) : Option String :=
  match path.components.getLast? with
  | some ".." => none
  | last => last

/-- The text after the last dot, unless the name starts with its only dot. -/
def extension (path : PathBuf) : Option String :=
  match path.fileName with
  | none => none
  | some name =>
      let reversed := name.toList.reverse
      let tail := reversed.takeWhile (· ≠ '.')
      let stem := reversed.drop (tail.length + 1)
      if tail.length = reversed.length ∨ stem = [] then none
      else some (String.ofList tail.reverse)

def isAbsolute (path : PathBuf) : Bool := path.anchor ≠ ""

def display (path : PathBuf) : String := path.anchor ++ String.intercalate "/" path.components

/-- The displayed text with every separator a backslash. -/
def backslashed (path : PathBuf) : List Char :=
  path.display.toList.map fun letter => if letter = '/' then '\\' else letter

end PathBuf

/-- Extended-length prefixes name the same file as the plain path. -/
def stripExtendedPrefix (text : List Char) : List Char :=
  if asciiLowercase (text.take 8) = "\\\\?\\unc\\".toList then '\\' :: '\\' :: text.drop 8
  else if asciiLowercase (text.take 4) = "\\\\?\\".toList then text.drop 4
  else text

def dropTrailing (letter : Char) (keep : Nat) (text : List Char) : List Char :=
  let rest := text.reverse
  (rest.drop (min ((rest.takeWhile (· == letter)).length) (rest.length - keep))).reverse

def windowsPathIdentity (path : PathBuf) : List Char :=
  dropTrailing '\\' 0 (stripExtendedPrefix path.backslashed)

def pathsEqual (platform : Platform) (left right : PathBuf) : Bool :=
  match platform with
  | .windows =>
      asciiLowercase (windowsPathIdentity left) == asciiLowercase (windowsPathIdentity right)
  | .unix => left == right

/-- The comparison of the guest authority, which is the same on every host. -/
def pathIdentityEqual (left right : PathBuf) : Bool :=
  asciiLowercase (dropTrailing '\\' 3 (stripExtendedPrefix left.backslashed)) ==
    asciiLowercase (dropTrailing '\\' 3 (stripExtendedPrefix right.backslashed))

/-- Resolves `..` without looking at the file system; nothing lies above the root. -/
def lexicallyNormalizedAbsolutePath (path : PathBuf) : Option PathBuf :=
  if path.isAbsolute then
    (path.components.foldl step (some [])).map fun components =>
      { path with components := components }
  else none
where
  step (normalized : Option (List String)) (component : String) : Option (List String) :=
    match normalized with
    | none => none
    | some kept =>
        if component = ".." then (if kept = [] then none else some kept.dropLast)
        else some (kept ++ [component])

def removablePathsEqual (platform : Platform) (left right : PathBuf) : Bool :=
  match lexicallyNormalizedAbsolutePath left, lexicallyNormalizedAbsolutePath right with
  | some left, some right =>
      match platform with
      | .unix => left == right
      | .windows =>
          asciiLowercase (stripExtendedPrefix left.backslashed) ==
            asciiLowercase (stripExtendedPrefix right.backslashed)
  | _, _ => false

def deviceNames : List (List Char) :=
  ["con", "prn", "aux", "nul"].map String.toList ++
    ["com", "lpt"].flatMap fun family =>
      ['1', '2', '3', '4', '5', '6', '7', '8', '9', '¹', '²', '³'].map fun digit =>
        family.toList ++ [digit]

/-- Whether the second byte is a colon. The letter before it is then one byte. -/
def hasDrive : List Char → Bool
  | letter :: ':' :: _ => letter.utf8Size = 1
  | _ => false

def windowsPathHasStreamOrDeviceAmbiguity (platform : Platform) (path : PathBuf) : Bool :=
  match platform with
  | .unix => false
  | .windows =>
      let value := path.backslashed
      let plain := if value.take 4 = "\\\\?\\".toList then value.drop 4 else value
      if asciiLowercase (value.take 4) = "\\\\.\\".toList ∨
          asciiLowercase (value.take 15) = "\\\\?\\globalroot\\".toList then true
      else if plain.take 4 = "UNC\\".toList then plain.contains ':'
      else if (if hasDrive plain then plain.drop 2 else plain).contains ':' then true
      else
        match path.fileName with
        | none => true
        | some name =>
            let stem := (name.toList.takeWhile (· ≠ '.')).reverse.dropWhile (· == ' ')
            deviceNames.contains (asciiLowercase stem.reverse)

section Comparison
variable {platform : Platform} {a b c : PathBuf}

theorem pathsEqual_refl (platform : Platform) (a : PathBuf) : pathsEqual platform a a = true := by
  cases platform <;> simp [pathsEqual]

theorem pathsEqual_trans (first : pathsEqual platform a b = true)
    (second : pathsEqual platform b c = true) : pathsEqual platform a c = true := by
  cases platform with
  | unix =>
      simp only [pathsEqual, beq_iff_eq] at first second ⊢
      exact first.trans second
  | windows =>
      simp only [pathsEqual, beq_iff_eq] at first second ⊢
      exact first.trans second

end Comparison

/-- `format!("{index:04}.bin")`. -/
def artifactFileName (index : Nat) : String :=
  let digits := (toString index).toList
  String.ofList (List.replicate (4 - digits.length) '0' ++ digits) ++ ".bin"

end VmCell
