import Mathlib.Data.List.MinMax

/-! Sorting keeps the order of items of one rank, and nothing else of their order. -/
namespace RoutineVisibility

/-- A comparison by rank: any two items compare, and those that come before each other are of one
rank. -/
structure Ranking {α : Type} (le : α → α → Bool) : Prop where
  trans : ∀ a b c, le a b → le b c → le a c
  total : ∀ a b, le a b || le b a

namespace Ranking
variable {α : Type} {le : α → α → Bool}

theorem pairwise_mergeSort (ranking : Ranking le) (l : List α) :
    (l.mergeSort le).Pairwise fun a b => le a b :=
  List.pairwise_mergeSort ranking.trans ranking.total l

/-- The first item goes behind those that it does not come before, and in front of all others. -/
theorem mergeSort_cons (ranking : Ranking le) (a : α) (l : List α) :
    (a :: l).mergeSort le = ((l.mergeSort le).filter fun b => !le a b) ++
      a :: (l.mergeSort le).filter (le a) ∧
      l.mergeSort le = ((l.mergeSort le).filter fun b => !le a b) ++
        (l.mergeSort le).filter (le a) := by
  obtain ⟨before, after, sorted, rest, less⟩ := List.mergeSort_cons ranking.trans ranking.total a l
  have order := ranking.pairwise_mergeSort (a :: l)
  rw [sorted] at order
  have behind : ∀ b ∈ after, le a b := (List.pairwise_cons.1 (List.pairwise_append.1 order).2.1).1
  have front : ((before ++ after).filter fun b => !le a b) = before := by
    rw [List.filter_append, List.filter_eq_self.2 less, List.filter_eq_nil_iff.2, List.append_nil]
    intro b mem
    simp [behind b mem]
  have back : (before ++ after).filter (le a) = after := by
    rw [List.filter_append, List.filter_eq_self.2 behind, List.filter_eq_nil_iff.2, List.nil_append]
    intro b mem
    simpa using less b mem
  rw [sorted, rest, front, back]
  exact ⟨rfl, rfl⟩

theorem filter_mergeSort (ranking : Ranking le) (p : α → Bool) (l : List α) :
    (l.mergeSort le).filter p = (l.filter p).mergeSort le := by
  induction l with
  | nil => simp
  | cons a l ih =>
    have side (q : α → Bool) : ((l.mergeSort le).filter q).filter p =
        ((l.filter p).mergeSort le).filter q := by
      rw [List.filter_comm, ih]
    -- The first item parts the sorted rest, and each part is that of the sorted filtered rest.
    rw [(ranking.mergeSort_cons a l).1, List.filter_append, side]
    by_cases kept : p a
    · rw [List.filter_cons_of_pos kept, List.filter_cons_of_pos kept, side,
        (ranking.mergeSort_cons a _).1]
    · rw [List.filter_cons_of_neg kept, List.filter_cons_of_neg kept, side,
        ← (ranking.mergeSort_cons a _).2]

/-- Items of one rank stay in the order in which they were. -/
theorem filter_mergeSort_of_ties (ranking : Ranking le) {p : α → Bool}
    (ties : ∀ a b, p a → p b → le a b) (l : List α) : (l.mergeSort le).filter p = l.filter p := by
  rw [ranking.filter_mergeSort]
  refine List.mergeSort_of_pairwise (List.pairwise_iff_forall_sublist.2 fun {a b} sub => ?_)
  have mem (c : α) (listed : c ∈ [a, b]) : p c := (List.mem_filter.1 (sub.subset listed)).2
  exact ties a b (mem a (by simp)) (mem b (by simp))

def tied (le : α → α → Bool) (a b : α) : Bool :=
  le a b && le b a

theorem le_self (ranking : Ranking le) (a : α) : le a a := by
  simpa using ranking.total a a

theorem tied_self (ranking : Ranking le) (a : α) : tied le a a := by
  simp [tied, ranking.le_self a]

theorem le_of_tied (ranking : Ranking le) {a b c : α} (hb : tied le a b) (hc : tied le a c) :
    le b c := by
  rw [tied, Bool.and_eq_true] at hb hc
  exact ranking.trans b a c hb.2 hc.1

/-- Lists that hold the same of each rank have the same members. -/
theorem mem_of_tied (ranking : Ranking le) {l m : List α}
    (same : ∀ a, l.filter (tied le a) = m.filter (tied le a)) {a : α} (mem : a ∈ l) : a ∈ m := by
  have listed : a ∈ l.filter (tied le a) := List.mem_filter.2 ⟨mem, ranking.tied_self a⟩
  rw [same a] at listed
  exact (List.mem_filter.1 listed).1

theorem le_of_pairwise_cons (ranking : Ranking le) {a b : α} {l : List α}
    (sorted : (a :: l).Pairwise fun a b => le a b) (mem : b ∈ a :: l) : le a b := by
  rcases List.mem_cons.1 mem with rfl | later
  · exact ranking.le_self b
  · exact (List.pairwise_cons.1 sorted).1 b later

/-- A sorted list is determined by what it holds of each rank. -/
theorem eq_of_pairwise (ranking : Ranking le) {l m : List α} (sorted : l.Pairwise fun a b => le a b)
    (sorted' : m.Pairwise fun a b => le a b)
    (same : ∀ a, l.filter (tied le a) = m.filter (tied le a)) : l = m := by
  induction l generalizing m with
  | nil =>
    cases m with
    | nil => rfl
    | cons b m =>
      exact absurd (ranking.mem_of_tied (fun a => (same a).symm) List.mem_cons_self)
        List.not_mem_nil
  | cons a l ih =>
    have mem : a ∈ m := ranking.mem_of_tied same List.mem_cons_self
    cases m with
    | nil => cases mem
    | cons b m =>
      -- Each head stands somewhere in the other list, so both are of the first rank, and both are
      -- the first of it.
      have first : le b a := ranking.le_of_pairwise_cons sorted' mem
      have first' : le a b :=
        ranking.le_of_pairwise_cons sorted
          (ranking.mem_of_tied (fun a => (same a).symm) List.mem_cons_self)
      have tie : tied le a b := by rw [tied, first, first', Bool.and_self]
      have own := same a
      rw [List.filter_cons_of_pos (ranking.tied_self a), List.filter_cons_of_pos tie] at own
      obtain rfl : a = b := (List.cons.inj own).1
      refine congrArg (a :: ·)
        (ih (List.pairwise_cons.1 sorted).2 (List.pairwise_cons.1 sorted').2 fun c => ?_)
      have rest := same c
      by_cases kept : tied le c a
      · rw [List.filter_cons_of_pos kept, List.filter_cons_of_pos kept] at rest
        exact (List.cons.inj rest).2
      · rwa [List.filter_cons_of_neg kept, List.filter_cons_of_neg kept] at rest

/-- Sorting forgets the order of items of different ranks. -/
theorem mergeSort_congr (ranking : Ranking le) {l m : List α}
    (same : ∀ a, l.filter (tied le a) = m.filter (tied le a)) :
    l.mergeSort le = m.mergeSort le := by
  refine ranking.eq_of_pairwise (ranking.pairwise_mergeSort l)
    (ranking.pairwise_mergeSort m) fun a => ?_
  have ties (b c : α) (hb : tied le a b) (hc : tied le a c) : le b c := ranking.le_of_tied hb hc
  rw [ranking.filter_mergeSort_of_ties ties, ranking.filter_mergeSort_of_ties ties, same a]

end Ranking

/-- Where a list is sorted by a number, the greatest first, its head is the first item with the
greatest number. -/
theorem head?_mergeSort_eq_argmax {α : Type} {f : α → Nat}
    (ranking : Ranking fun a b => decide (f b ≤ f a)) (l : List α) :
    (l.mergeSort fun a b => f b ≤ f a).head? = l.argmax f := by
  induction l with
  | nil => simp
  | cons a l ih =>
    rw [(ranking.mergeSort_cons a l).1, List.argmax_cons, ← ih]
    cases sorted : l.mergeSort (fun a b => f b ≤ f a) with
    | nil => rfl
    | cons c rest =>
      have order := ranking.pairwise_mergeSort l
      rw [sorted, List.pairwise_cons] at order
      by_cases greater : f a < f c
      · simp [greater]
      · have behind : ((c :: rest).filter fun b => !decide (f b ≤ f a)) = [] := by
          refine List.filter_eq_nil_iff.2 fun b mem => ?_
          have most : f b ≤ f c := by
            rcases List.mem_cons.1 mem with rfl | later
            · exact Nat.le_refl _
            · exact of_decide_eq_true (order.1 b later)
          have least : f b ≤ f a := Nat.le_trans most (Nat.le_of_not_lt greater)
          simp [least]
        rw [behind]
        simp [greater]

end RoutineVisibility
