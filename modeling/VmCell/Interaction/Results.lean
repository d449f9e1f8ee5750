import Mathlib.Data.List.Forall2

/-! Sequences of fallible computations: when they succeed, and with what. -/

set_option autoImplicit false
namespace Interaction

variable {E A B : Type}

/-- A check followed by more passes when both do. -/
theorem bind_unit_ok {first : Except E Unit} {rest : Unit → Except E A} {a : A} :
    (first >>= rest) = .ok a ↔ first = .ok () ∧ rest () = .ok a := by
  cases first with
  | ok value => simp [bind, Except.bind]
  | error error => simp [bind, Except.bind]

theorem bind_ok {first : Except E A} {rest : A → Except E B} {b : B} :
    (first >>= rest) = .ok b ↔ ∃ a, first = .ok a ∧ rest a = .ok b := by
  cases first with
  | ok value => simp [bind, Except.bind]
  | error error => simp [bind, Except.bind]

theorem mapM_cons_ok {f : A → Except E B} {a : A} {rest : List A} {result : List B} :
    (a :: rest).mapM f = .ok result ↔
      ∃ b results, f a = .ok b ∧ rest.mapM f = .ok results ∧ result = b :: results := by
  rw [List.mapM_cons, bind_ok]
  constructor
  · rintro ⟨b, first, tail⟩
    obtain ⟨results, rest, done⟩ := bind_ok.mp tail
    exact ⟨b, results, first, rest, (Except.ok.inj done).symm⟩
  · rintro ⟨b, results, first, rest, rfl⟩
    exact ⟨b, first, bind_ok.mpr ⟨results, rest, rfl⟩⟩

theorem mapM_ok {f : A → Except E B} {list : List A} {result : List B} :
    list.mapM f = .ok result ↔ List.Forall₂ (fun a b => f a = .ok b) list result := by
  induction list generalizing result with
  | nil =>
      constructor
      · intro done
        rw [← Except.ok.inj done]
        exact .nil
      · intro empty
        cases empty
        rfl
  | cons a rest ih =>
      rw [mapM_cons_ok]
      constructor
      · rintro ⟨b, results, first, tail, rfl⟩
        exact .cons first (ih.mp tail)
      · intro both
        cases both with
        | cons first tail => exact ⟨_, _, first, ih.mpr tail, rfl⟩

/-- Every result comes from an element. -/
theorem mapM_mem {f : A → Except E B} {list : List A} {result : List B} {b : B}
    (mapped : list.mapM f = .ok result) (member : b ∈ result) : ∃ a ∈ list, f a = .ok b := by
  induction list generalizing result with
  | nil =>
      obtain rfl := Except.ok.inj mapped
      cases member
  | cons a rest ih =>
      obtain ⟨first, others, head, tail, rfl⟩ := mapM_cons_ok.mp mapped
      rcases List.mem_cons.mp member with rfl | later
      · exact ⟨a, List.mem_cons_self, head⟩
      · obtain ⟨source, within, found⟩ := ih tail later
        exact ⟨source, List.mem_cons_of_mem a within, found⟩

/-- A list on which every element succeeds maps to some list. -/
theorem mapM_total {f : A → Except E B} {list : List A}
    (total : ∀ a ∈ list, ∃ b, f a = .ok b) : ∃ result, list.mapM f = .ok result := by
  induction list with
  | nil => exact ⟨[], rfl⟩
  | cons a rest ih =>
      obtain ⟨b, first⟩ := total a List.mem_cons_self
      obtain ⟨results, tail⟩ := ih fun c member => total c (List.mem_cons_of_mem a member)
      exact ⟨b :: results, mapM_cons_ok.mpr ⟨b, results, first, tail, rfl⟩⟩

theorem forM_ok {f : A → Except E Unit} {list : List A} :
    list.forM f = .ok () ↔ ∀ a ∈ list, f a = .ok () := by
  induction list with
  | nil =>
      refine ⟨fun _ a member => ?_, fun _ => rfl⟩
      cases member
  | cons a rest ih =>
      change (f a >>= fun _ => rest.forM f) = .ok () ↔ _
      rw [bind_unit_ok, ih]
      simp only [List.mem_cons, forall_eq_or_imp]

end Interaction
