import Mathlib.Data.List.Basic

/-! Texts cut at separators, and what a text with slashes names when nothing but the
text is looked at.

`resolve` reads an absolute POSIX path: empty segments and `.` change nothing and
`..` leaves a directory, except the root.
-/

set_option autoImplicit false
namespace Segments

section Cutting
variable {α β : Type} [BEq α] [LawfulBEq α] [BEq β] [LawfulBEq β]
variable {separator : α} {text before after : List α}

theorem not_mem_of_mem_splitOn {segment : List α} (cut : segment ∈ text.splitOn separator) :
    separator ∉ segment := by
  induction text generalizing segment with
  | nil => simp_all
  | cons letter rest ih =>
      rw [List.splitOn_cons_eq_if_modifyHead] at cut
      split at cut
      · rcases List.mem_cons.mp cut with rfl | cut
        · simp
        · exact ih cut
      · rename_i other
        obtain ⟨first, others, pieces⟩ := List.exists_cons_of_ne_nil
          (List.splitOn_ne_nil separator rest)
        simp only [pieces, List.modifyHead_cons, List.mem_cons] at cut ih
        rcases cut with rfl | cut
        · have clean := ih (.inl rfl)
          simp only [List.mem_cons, not_or]
          exact ⟨fun same => other (beq_iff_eq.mpr same.symm), clean⟩
        · exact ih (.inr cut)

theorem mem_of_mem_splitOn {segment : List α} {letter : α}
    (cut : segment ∈ text.splitOn separator) (inside : letter ∈ segment) : letter ∈ text := by
  have joined : [separator].intercalate (text.splitOn separator) = text :=
    List.intercalate_splitOn separator
  rw [← joined]
  generalize text.splitOn separator = pieces at cut
  induction pieces with
  | nil => simp at cut
  | cons first others ih =>
      cases others with
      | nil => simp_all [List.intercalate]
      | cons second others =>
          rw [List.intercalate_cons_cons]
          rcases List.mem_cons.mp cut with rfl | cut
          · simp [inside]
          · simp [ih cut]

/-- A translation of letters that makes separators of the separators only. -/
theorem splitOn_map {letters : α → β} {target : β}
    (exact : ∀ letter ∈ text, letters letter = target ↔ letter = separator) :
    (text.map letters).splitOn target = (text.splitOn separator).map (List.map letters) := by
  induction text with
  | nil => rfl
  | cons letter rest ih =>
      have below := ih fun other member => exact other (List.mem_cons_of_mem _ member)
      have here := exact letter List.mem_cons_self
      rw [List.map_cons, List.splitOn_cons_eq_if_modifyHead, List.splitOn_cons_eq_if_modifyHead,
        below]
      by_cases same : letter = separator
      · simp [beq_iff_eq.mpr (here.mpr same), beq_iff_eq.mpr same]
      · have apart : letters letter ≠ target := fun equal => same (here.mp equal)
        obtain ⟨first, others, pieces⟩ := List.exists_cons_of_ne_nil
          (List.splitOn_ne_nil separator rest)
        simp [pieces, beq_eq_false_iff_ne.mpr same, beq_eq_false_iff_ne.mpr apart]

theorem splitOn_append_separator :
    (before ++ separator :: after).splitOn separator =
      before.splitOn separator ++ after.splitOn separator := by
  induction before with
  | nil => simp [List.splitOn_cons_eq_if_modifyHead]
  | cons letter before ih =>
      rw [List.cons_append, List.splitOn_cons_eq_if_modifyHead,
        List.splitOn_cons_eq_if_modifyHead, ih]
      obtain ⟨first, others, pieces⟩ := List.exists_cons_of_ne_nil
        (List.splitOn_ne_nil separator before)
      split <;> simp [pieces]

end Cutting

section Resolution

def resolveStep (directory : List (List Char)) (segment : List Char) : List (List Char) :=
  if segment = [] ∨ segment = ['.'] then directory
  else if segment = ['.', '.'] then directory.dropLast
  else directory ++ [segment]

def resolveFrom (directory : List (List Char)) (segments : List (List Char)) :
    List (List Char) := segments.foldl resolveStep directory

/-- The names from the root to what the path names. -/
def resolve (path : String) : List (List Char) := resolveFrom [] (path.toList.splitOn '/')

/-- A segment that is the name of an entry. -/
def IsName (segment : List Char) : Prop :=
  segment ≠ [] ∧ segment ≠ ['.'] ∧ segment ≠ ['.', '.']

instance (segment : List Char) : Decidable (IsName segment) := by unfold IsName; infer_instance

variable {directory names : List (List Char)} {root path : String}

theorem resolveFrom_names (plain : ∀ segment ∈ names, IsName segment) :
    resolveFrom directory names = directory ++ names := by
  induction names generalizing directory with
  | nil => simp [resolveFrom]
  | cons name names ih =>
      obtain ⟨full, dot, dots⟩ := plain name List.mem_cons_self
      have below : resolveFrom (directory ++ [name]) names = (directory ++ [name]) ++ names :=
        ih fun segment member => plain segment (List.mem_cons_of_mem _ member)
      simp only [resolveFrom, List.foldl_cons] at below ⊢
      simp [resolveStep, full, dot, dots, below]

theorem resolve_below (plain : ∀ segment ∈ path.toList.splitOn '/', IsName segment) :
    resolve (root ++ "/" ++ path) = resolve root ++ path.toList.splitOn '/' := by
  have slash : (root ++ "/" ++ path).toList = root.toList ++ '/' :: path.toList := by
    simp [String.toList_append]
  rw [resolve, slash, splitOn_append_separator, resolveFrom, List.foldl_append]
  exact resolveFrom_names plain

end Resolution

end Segments
