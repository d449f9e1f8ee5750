import VmCell.Engine.Ownership
import VmCell.Files.Tree
import VmCell.Guest.Commands
import VmCell.Jobs.Specification

/-! Copy-in sources of a job, on Unix: bound below the directory of the specification, and
read again right before they are copied.

A path is given by the segments of its text. Every call sees one state of the files.
-/

set_option autoImplicit false
namespace VmCell

open FileTree

section Reading
variable (tree : Tree)

/-- The links that one path resolution follows. -/
def maxLinks : Nat := 40

def fileContent (number : Nat) : Option Bytes :=
  match tree.node number with
  | .file content => some content
  | _ => none

/-- One step of the walk through the ancestors of a source. -/
def refuseLink (ancestor : Path) : Except EngineError Unit :=
  if (stat tree maxLinks ancestor).isNone then .ok ()
  else match lstat tree maxLinks ancestor with
    | none => .error (.invalidCellRequest "copy-in source metadata is unavailable")
    | some number => require (!isLink tree number) (.guest .pathViolation)

/-- The name still leads to the file that has been opened. -/
def validateCopySourceIdentity (path : Path) (opened : Nat) : Except EngineError Unit :=
  match lstat tree maxLinks path with
  | none => .error (.guest .partialCopy)
  | some current =>
      require (!isLink tree current && (fileContent tree current).isSome && opened = current)
        (.guest .partialCopy)

def readOrdinaryCopySource (path : Path) (maxBytes : Nat) : Except EngineError Bytes := do
  require (!(maxBytes = 0 || maxCopyBytes < maxBytes))
    (.invalidCellRequest ("copy-in size must be between 1 and " ++ toString maxCopyBytes ++
      " bytes"))
  (ancestors path).forM (refuseLink tree)
  match canonicalize tree maxLinks path with
  | none => .error (.invalidCellRequest "copy-in source is absent")
  | some canonical =>
      match openNoFollow tree maxLinks canonical with
      | none => .error (.invalidCellRequest "copy-in source could not be pinned")
      | some file =>
          match fileContent tree file with
          | none => .error (.guest .pathViolation)
          | some content => do
              require (content.length ≤ maxBytes) (.guest .pathViolation)
              validateCopySourceIdentity tree canonical file
              require ((canonicalize tree maxLinks path).any fun rechecked =>
                components rechecked = components canonical) (.guest .partialCopy)
              let bytes := content.take (maxBytes + 1)
              require (bytes.length ≤ maxBytes && content.length = bytes.length)
                (.guest .partialCopy)
              validateCopySourceIdentity tree canonical file
              .ok bytes

end Reading

section Binding
variable (sha256 : Bytes → String) (tree : Tree)

def bindJobCopySource (root : Path) (source : String) (maxBytes : Nat) :
    Except EngineError (Path × String × Nat) :=
  match canonicalize tree maxLinks root with
  | none => .error (.integrity "job specification parent is no longer available")
  | some canonicalRoot => do
      let candidate := canonicalRoot ++ pathSegments source
      require (startsWith candidate canonicalRoot) (.guest .pathViolation)
      let bytes ← readOrdinaryCopySource tree candidate maxBytes
      match canonicalize tree maxLinks candidate with
      | none => .error (.invalidCellRequest "job copy-in source is absent")
      | some canonical => do
          require (startsWith canonical canonicalRoot) (.guest .pathViolation)
          .ok (candidate, sha256 bytes, bytes.length)

def readJobCopySource (root source : Path) (maxBytes : Nat) (expectedSha256 : String)
    (expectedSize : Nat) : Except EngineError Bytes :=
  match canonicalize tree maxLinks root with
  | none => .error (.integrity "job input root is no longer available")
  | some canonicalRoot =>
      match canonicalize tree maxLinks source with
      | none => .error (.invalidCellRequest "job copy-in source is absent")
      | some current => do
          require (startsWith current canonicalRoot) (.guest .pathViolation)
          require (components current = components source) (.guest .partialCopy)
          let bytes ← readOrdinaryCopySource tree source maxBytes
          match canonicalize tree maxLinks source with
          | none => .error (.guest .partialCopy)
          | some rechecked => do
              require (startsWith rechecked canonicalRoot &&
                components rechecked = components source) (.guest .partialCopy)
              require (bytes.length = expectedSize && sha256 bytes = expectedSha256)
                (.guest .partialCopy)
              .ok bytes

end Binding

end VmCell
