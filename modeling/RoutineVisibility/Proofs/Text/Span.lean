import RoutineVisibility.Text.Blank

/-! What stands before the first character of another kind, and between characters that are
trimmed. -/
namespace RoutineVisibility.Text
variable {α : Type} {p : α → Bool} {l rest : List α}

theorem takeWhile_append_of_ends (inside : ∀ a ∈ l, p a) (ends : ∀ a ∈ rest.head?, p a = false) :
    (l ++ rest).takeWhile p = l := by
  rw [List.takeWhile_append_of_pos inside]
  cases rest with
  | nil => exact List.append_nil l
  | cons a rest =>
    have stops : p a = false := ends a rfl
    rw [List.takeWhile_cons_of_neg (by rw [stops]; decide), List.append_nil]

theorem dropWhile_append_of_ends (inside : ∀ a ∈ l, p a) (ends : ∀ a ∈ rest.head?, p a = false) :
    (l ++ rest).dropWhile p = rest := by
  rw [List.dropWhile_append_of_pos inside]
  cases rest with
  | nil => rfl
  | cons a rest =>
    have stops : p a = false := ends a rfl
    rw [List.dropWhile_cons_of_neg (by rw [stops]; decide)]

theorem head?_dropWhile_ends (p : α → Bool) (l : List α) :
    ∀ a ∈ (l.dropWhile p).head?, p a = false := by
  intro a first
  have := List.head?_dropWhile_not p l
  rw [first] at this
  exact Bool.eq_false_iff.2 (by simpa using this)

/-- Only what is inside is left. -/
theorem trimBy_append {p : Char → Bool} {before s after : List Char} (some : s ≠ [])
    (inside : ∀ c ∈ s, p c = false) (leading : ∀ c ∈ before, p c) (trailing : ∀ c ∈ after, p c) :
    trimBy p (before ++ s ++ after) = s := by
  have first : ∀ c ∈ (s ++ after).head?, p c = false := by
    obtain ⟨a, rest, rfl⟩ := List.exists_cons_of_ne_nil some
    rintro c ⟨⟩
    exact inside a List.mem_cons_self
  have last : ∀ c ∈ s.reverse.head?, p c = false := by
    intro c mem
    exact inside c (List.mem_reverse.1 (List.mem_of_mem_head? mem))
  have trailing' : ∀ c ∈ after.reverse, p c := fun c mem => trailing c (List.mem_reverse.1 mem)
  rw [trimBy, List.append_assoc, dropWhile_append_of_ends leading first, List.reverse_append,
    dropWhile_append_of_ends trailing' last, List.reverse_reverse]

end RoutineVisibility.Text
