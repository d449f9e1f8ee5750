import Mathlib.Data.List.Sort

/-! The front of a sorted queue.

A queue holds entries of two kinds and is served from its front, a bounded number
of entries at a time. Whether an entry is served depends on how many entries
stand before it.
-/

set_option autoImplicit false
namespace Interaction

section Batch
variable {A : Type} {r : A → A → Prop} {kind : A → Bool} {before after queue : List A} {a b : A}
  {room : Nat}

/-- Earlier entries stand before later ones, and not the other way round. -/
def Strict (r : A → A → Prop) (queue : List A) : Prop :=
  queue.Pairwise fun a b => r a b ∧ ¬r b a

theorem Strict.mem_take (strict : Strict r (before ++ a :: after)) :
    a ∈ (before ++ a :: after).take room ↔ before.length < room := by
  have absent : a ∉ before := by
    intro member
    have both := (List.pairwise_append.mp strict).2.2 a member a List.mem_cons_self
    exact both.2 both.1
  constructor
  · intro member
    by_contra full
    rw [List.take_append_of_le_length (not_lt.mp full)] at member
    exact absent (List.mem_of_mem_take member)
  · intro space
    obtain ⟨more, rfl⟩ := Nat.exists_eq_add_of_lt space
    rw [List.take_append, List.take_of_length_le (by omega)]
    refine List.mem_append_right _ ?_
    rw [show before.length + more + 1 - before.length = more + 1 by omega]
    exact List.mem_cons_self

variable [DecidableRel r]

/-- The number of entries of a kind that stand before a place. -/
def ahead (r : A → A → Prop) [DecidableRel r] (kind : A → Bool) (queue : List A) (a : A) : Nat :=
  (queue.filter fun b => kind b && decide (r b a)).length

theorem ahead_perm {queue other : List A} (perm : queue.Perm other) (a : A) :
    ahead r kind queue a = ahead r kind other a := (perm.filter _).length_eq

theorem Strict.ahead (strict : Strict r (before ++ a :: after)) (other : kind a = false) :
    Interaction.ahead r kind (before ++ a :: after) a = (before.filter kind).length := by
  obtain ⟨_, later, first⟩ := List.pairwise_append.mp strict
  have earlier : before.filter (fun b => kind b && decide (r b a)) = before.filter kind := by
    refine List.filter_congr fun b member => ?_
    simp [(first b member a List.mem_cons_self).1]
  have none : after.filter (fun b => kind b && decide (r b a)) = [] := by
    refine List.filter_eq_nil_iff.mpr fun b member => ?_
    simp [((List.pairwise_cons.mp later).1 b member).2]
  unfold Interaction.ahead
  rw [List.filter_append, earlier, List.filter_cons_of_neg (by simp [other]), none, List.append_nil]

/-- What is served has room for everything of the other kind before it. -/
theorem Strict.ahead_lt (strict : Strict r queue) (other : kind a = false)
    (served : a ∈ queue.take room) : Interaction.ahead r kind queue a < room := by
  obtain ⟨before, after, rfl⟩ := List.append_of_mem (List.mem_of_mem_take served)
  rw [strict.ahead other]
  exact lt_of_le_of_lt (List.length_filter_le kind before) (strict.mem_take.mp served)

/-- The first entry that is not of the kind. -/
theorem exists_first (queue : List A) (kind : A → Bool) :
    (∀ a ∈ queue, kind a = true) ∨
      ∃ before a after, queue = before ++ a :: after ∧ kind a = false ∧
        ∀ b ∈ before, kind b = true := by
  induction queue with
  | nil => exact Or.inl (by simp)
  | cons a rest ih =>
      by_cases other : kind a = true
      · rcases ih with all | ⟨before, b, after, rfl, first, all⟩
        · exact Or.inl (by simpa [other] using all)
        · exact Or.inr ⟨a :: before, b, after, rfl, first, by simpa [other] using all⟩
      · exact Or.inr ⟨[], a, rest, rfl, by simpa using other, by simp⟩

/-- A queue that sticks at an entry, or ends before it, serves what stands before. -/
theorem takeWhile_take_subset {stuck : A → Bool} (free : ∀ b ∈ before, stuck b = false)
    (blocked : ¬(before.length < room ∧ stuck a = false)) :
    ((before ++ a :: after).take room).takeWhile (fun b => !stuck b) ⊆ before := by
  intro b served
  by_cases space : before.length < room
  · have sticks : stuck a = true := by simpa [space] using blocked
    obtain ⟨more, rfl⟩ := Nat.exists_eq_add_of_lt space
    rw [List.take_append, List.take_of_length_le (by omega),
      show before.length + more + 1 - before.length = more + 1 by omega, List.take_succ_cons,
      List.takeWhile_append_of_pos (by simpa using free), List.takeWhile_cons_of_neg (by simp [sticks]),
      List.append_nil] at served
    exact served
  · rw [List.take_append_of_le_length (not_lt.mp space)] at served
    exact List.mem_of_mem_take ((List.takeWhile_prefix _).mem served)

theorem mem_takeWhile_take {stuck : A → Bool} (free : ∀ b ∈ before, stuck b = false)
    (space : before.length < room) (loose : stuck a = false) :
    a ∈ ((before ++ a :: after).take room).takeWhile fun b => !stuck b := by
  obtain ⟨more, rfl⟩ := Nat.exists_eq_add_of_lt space
  rw [List.take_append, List.take_of_length_le (by omega),
    show before.length + more + 1 - before.length = more + 1 by omega, List.take_succ_cons,
    List.takeWhile_append_of_pos (by simpa using free), List.takeWhile_cons_of_pos (by simp [loose])]
  exact List.mem_append_right _ List.mem_cons_self

/-- Something of the other kind is served, in a queue that sticks at some of those
entries, exactly when the first such entry has room for everything of the kind
before it and does not stick. -/
theorem Strict.exists_served [Std.Total r] {stuck : A → Bool} (strict : Strict r queue)
    (sticks : ∀ a, stuck a = true → kind a = false) :
    (∃ a ∈ (queue.take room).takeWhile (fun b => !stuck b), kind a = false) ↔
      ∃ a ∈ queue, kind a = false ∧ (∀ b ∈ queue, kind b = false → r a b) ∧
        Interaction.ahead r kind queue a < room ∧ stuck a = false := by
  rcases exists_first queue kind with all | ⟨before, first, after, rfl, early, all⟩
  · constructor
    · rintro ⟨a, served, other⟩
      have kept := all a (List.mem_of_mem_take ((List.takeWhile_prefix _).mem served))
      cases kept.symm.trans other
    · rintro ⟨a, member, other, _⟩
      cases (all a member).symm.trans other
  · have free : ∀ b ∈ before, stuck b = false := by
      intro b earlier
      by_contra blocked
      cases (all b earlier).symm.trans (sticks b (by simpa using blocked))
    have count : Interaction.ahead r kind (before ++ first :: after) first = before.length := by
      rw [strict.ahead early, List.filter_eq_self.mpr all]
    obtain ⟨_, later, _⟩ := List.pairwise_append.mp strict
    constructor
    · rintro ⟨a, served, other⟩
      have reached : before.length < room ∧ stuck first = false := by
        by_contra blocked
        cases (all a (takeWhile_take_subset free blocked served)).symm.trans other
      obtain ⟨space, loose⟩ := reached
      refine ⟨first, by simp, early, fun b member fresh => ?_, by rw [count]; exact space, loose⟩
      rcases List.mem_append.mp member with inside | inside
      · cases (all b inside).symm.trans fresh
      · rcases List.mem_cons.mp inside with rfl | behind
        · exact (Std.Total.total b b).elim id id
        · exact ((List.pairwise_cons.mp later).1 b behind).1
    · rintro ⟨a, member, other, least, space, loose⟩
      have same : a = first := by
        rcases List.mem_append.mp member with inside | inside
        · cases (all a inside).symm.trans other
        · rcases List.mem_cons.mp inside with rfl | behind
          · rfl
          · exact absurd (least first (by simp) early) ((List.pairwise_cons.mp later).1 a behind).2
      subst same
      rw [count] at space
      exact ⟨a, mem_takeWhile_take free space loose, early⟩

end Batch

end Interaction
