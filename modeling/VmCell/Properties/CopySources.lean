import VmCell.Interaction.Results
import VmCell.Jobs.CopySources

/-! Copy-in sources are ordinary files below the directory of the specification, when they
are bound and when they are read. -/

set_option autoImplicit false
namespace VmCell

open Interaction FileTree
open Segments (IsName)

section Reading
variable {tree : Tree} {path root canonicalRoot : Path} {maxBytes : Nat} {bytes : Bytes}
  {source : String} {number : Nat} {place : Trail}

theorem fileContent_eq_some : fileContent tree number = some bytes ↔
    tree.node number = .file bytes := by
  unfold fileContent
  cases tree.node number <;> simp

theorem refuseLink_ok (allowed : refuseLink tree path = .ok ())
    (exists_ : (stat tree maxLinks path).isSome = true) :
    ∃ number, lstat tree maxLinks path = some number ∧ isLink tree number = false := by
  unfold refuseLink at allowed
  rw [if_neg (by simpa [Option.isSome_iff_ne_none] using exists_)] at allowed
  split at allowed
  · cases allowed
  · rename_i number found
    exact ⟨number, found, by simpa using require_ok.mp allowed⟩

/-- A source that is read is a file, found without a link in any part of its path. -/
structure ReadFrom (tree : Tree) (path : Path) (bytes : Bytes) (place : Trail) : Prop where
  unlinked : ∀ part ∈ ancestors path, (stat tree maxLinks part).isSome = true →
    ∃ number, lstat tree maxLinks part = some number ∧ isLink tree number = false
  walks : walk tree true maxLinks path [] = some place
  content : tree.node (here tree place) = .file bytes

theorem readOrdinaryCopySource_ok (read : readOrdinaryCopySource tree path maxBytes = .ok bytes) :
    ∃ place, ReadFrom tree path bytes place := by
  obtain ⟨-, rest⟩ := bind_unit_ok.mp read
  obtain ⟨checked, rest⟩ := bind_unit_ok.mp rest
  split at rest
  · cases rest
  rename_i canonical resolved
  split at rest
  · cases rest
  rename_i file opened
  split at rest
  · cases rest
  rename_i content found
  obtain ⟨-, rest⟩ := bind_unit_ok.mp rest
  obtain ⟨-, rest⟩ := bind_unit_ok.mp rest
  obtain ⟨-, rest⟩ := bind_unit_ok.mp rest
  obtain ⟨whole, rest⟩ := bind_unit_ok.mp rest
  obtain ⟨-, done⟩ := bind_unit_ok.mp rest
  obtain ⟨place, walks, rfl⟩ := Option.map_eq_some_iff.mp resolved
  have same : lstat tree maxLinks (names place) = some (here tree place) :=
    lstat_names (walk_from_root walks)
  -- what is opened under the canonical name is what the walk has reached
  rw [openNoFollow, same] at opened
  have reached : here tree place = file := by
    simp only [Option.bind_eq_bind, Option.bind_some] at opened
    split at opened
    · cases opened
    · exact Option.some.inj opened
  have all : content.take (maxBytes + 1) = content := by
    simp only [require_ok, Bool.and_eq_true, decide_eq_true_eq] at whole
    refine List.take_of_length_le ?_
    have := whole.2 ▸ whole.1
    omega
  obtain rfl := all.symm.trans (Except.ok.inj done)
  exact ⟨place, fun part member => refuseLink_ok (forM_ok.mp checked part member), walks,
    reached ▸ fileContent_eq_some.mp found⟩

theorem components_names (proper : ∀ name ∈ path, IsName name) : components path = path :=
  List.filter_eq_self.mpr fun name member => by simp [(isName_iff.mp (proper name member)).1]

/-- A file that has been read at its own path lies below every base of that path. -/
theorem ReadFrom.ordinary (read : ReadFrom tree path bytes place)
    (own : names place = components path) (inside : root <+: components path) :
    OrdinaryFile tree root (components path) bytes where
  inside := inside
  proper := own ▸ names_rooted (walk_from_root read.walks)
  file := by
    refine ⟨here tree place, ?_, read.content⟩
    rw [← own]
    exact descend_names (walk_from_root read.walks)

theorem validateRelativeInputPath_ok (accepted : validateRelativeInputPath source = .ok ()) :
    ∀ segment ∈ pathSegments source, segment ≠ ['.', '.'] := by
  unfold validateRelativeInputPath demand at accepted
  split at accepted
  · rename_i plain
    simp only [hasSpecialComponent, Bool.not_eq_true', Bool.or_eq_false_iff] at plain
    intro segment member up
    have absent := plain.2.2
    rw [up] at member
    simp [member] at absent
  · cases accepted

end Reading

section Binding
variable {before : Tree} {root candidate : Path} {source digest : String} {maxBytes size : Nat}
  {sha256 : Bytes → String} {bytes : Bytes}

/-- What a source is bound to. -/
structure BoundSource (sha256 : Bytes → String) (tree : Tree) (root candidate : Path)
    (maxBytes size : Nat) (digest : String) (source : String) (bytes : Bytes) (place : Trail) :
    Prop where
  candidate_eq : candidate = root ++ pathSegments source
  read : readOrdinaryCopySource tree candidate maxBytes = .ok bytes
  found : ReadFrom tree candidate bytes place
  within : startsWith (names place) root = true
  digest_eq : digest = sha256 bytes
  size_eq : size = bytes.length

theorem bindJobCopySource_ok (canonical : canonicalize before maxLinks root = some root)
    (bound : bindJobCopySource sha256 before root source maxBytes = .ok (candidate, digest, size)) :
    ∃ bytes place,
      BoundSource sha256 before root candidate maxBytes size digest source bytes place := by
  unfold bindJobCopySource at bound
  rw [canonical] at bound
  obtain ⟨-, rest⟩ := bind_unit_ok.mp bound
  obtain ⟨bytes, read, rest⟩ := bind_ok.mp rest
  split at rest
  · cases rest
  rename_i current resolved
  obtain ⟨within, rest⟩ := bind_unit_ok.mp rest
  obtain ⟨rfl, rfl, rfl⟩ := Except.ok.inj rest
  obtain ⟨place, found⟩ := readOrdinaryCopySource_ok read
  have own : names place = current := by
    rw [canonicalize, found.walks] at resolved
    exact Option.some.inj resolved
  exact ⟨bytes, place, rfl, read, found, own ▸ require_ok.mp within, rfl, rfl⟩

/-- The specification of a job is in `/job`; `/now` is a link to it. -/
def jobTree : Tree where
  root := 0
  node
    | 0 => .directory [("job".toList, 1), ("now".toList, 4)]
    | 1 => .directory [("in".toList, 2)]
    | 2 => .directory [("a".toList, 3)]
    | 3 => .file [104, 105]
    | 4 => .link true ["job".toList]
    | _ => .special
  searchable := fun _ => true
  readable := fun _ => true

def digestOfHi (_ : Bytes) : String :=
  "8f434346648f6b96df89dda901c5176b10a6d83961dd3c1ac88b59b2dc327aa4"

end Binding

end VmCell
