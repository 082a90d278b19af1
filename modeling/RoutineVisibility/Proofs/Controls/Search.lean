import RoutineVisibility.Controls.Search
import RoutineVisibility.Proofs.Controls.Graph

/-! The search reaches what can be reached, and its links form a tree with the start as root. -/
namespace RoutineVisibility
open Relation

namespace Search

def reached (start : Text) (links : List (Text × Text)) : List Text :=
  links.map (·.1) ++ [start]

/-- Links of a tree with the start as root: each goes from a new routine back to one that was
reached before it. -/
inductive Tree (edges : Text → List Text) (start : Text) : List (Text × Text) → Prop where
  | nil : Tree edges start []
  | link {child parent : Text} {older : List (Text × Text)} (tree : Tree edges start older)
      (known : parent ∈ reached start older) (edge : child ∈ edges parent)
        (new : child ∉ reached start older) :
      Tree edges start ((child, parent) :: older)

@[simp] theorem mem_reached_nil {start r : Text} : r ∈ reached start [] ↔ r = start := by
  simp [reached]

@[simp] theorem mem_reached_cons {start r child parent : Text} {older : List (Text × Text)} :
    r ∈ reached start ((child, parent) :: older) ↔ r = child ∨ r ∈ reached start older := by
  simp [reached]

variable {edges : Text → List Text} {start goal : Text}

/-- The trail of a reached routine leads from it back to the start, through reached routines and
along edges, and comes to none of them twice. -/
theorem Tree.trail {links : List (Text × Text)} (tree : Tree edges start links) {r : Text}
    (known : r ∈ reached start links) :
    (trail links r).head? = some r ∧ (trail links r).getLast? = some start ∧
      (trail links r).IsChain (fun a b => a ∈ edges b) ∧ (trail links r).Nodup ∧
      ∀ a ∈ trail links r, a ∈ reached start links := by
  induction tree generalizing r with
  | nil =>
    have : r = start := by simpa using known
    subst this
    simp [Search.trail]
  | @link child parent older _ parentKnown edge new ih =>
    by_cases h : child = r
    · obtain ⟨head, last, chain, nodup, inside⟩ := ih parentKnown
      subst h
      simp only [Search.trail, if_true]
      refine ⟨List.head?_cons, ?_, ?_, ?_, ?_⟩
      · rw [List.getLast?_cons, last, Option.getD_some]
      · refine List.isChain_cons.2 ⟨fun b hb => ?_, chain⟩
        have : parent = b := by simpa [head] using hb
        exact this ▸ edge
      · exact List.nodup_cons.2 ⟨fun mem => new (inside _ mem), nodup⟩
      · intro a ha
        rcases List.mem_cons.1 ha with rfl | ha
        · exact mem_reached_cons.2 (Or.inl rfl)
        · exact mem_reached_cons.2 (Or.inr (inside a ha))
    · have older : r ∈ reached start older := by
        rcases mem_reached_cons.1 known with rfl | older
        · exact absurd rfl h
        · exact older
      obtain ⟨head, last, chain, nodup, inside⟩ := ih older
      simp only [Search.trail, if_neg h]
      exact ⟨head, last, chain, nodup, fun a ha => mem_reached_cons.2 (Or.inr (inside a ha))⟩

theorem Tree.nodup {links : List (Text × Text)} (tree : Tree edges start links) :
    (reached start links).Nodup := by
  induction tree with
  | nil => exact List.pairwise_singleton _ start
  | link _ _ _ new ih => exact List.nodup_cons.2 ⟨new, ih⟩

/-- All but the start is reached along an edge. -/
theorem Tree.mem_edges {links : List (Text × Text)} (tree : Tree edges start links) {r : Text}
    (known : r ∈ reached start links) : r = start ∨ ∃ a, r ∈ edges a := by
  induction tree with
  | nil => exact Or.inl (mem_reached_nil.1 known)
  | link _ _ edge _ ih =>
    rcases mem_reached_cons.1 known with rfl | older
    · exact Or.inr ⟨_, edge⟩
    · exact ih older

theorem mem_fresh_reach {source n r : Text} {st : Search} :
    r ∈ (reach source st n).fresh ↔ r ∈ st.fresh ∧ r ≠ n := by
  unfold reach
  split
  · simp only [List.mem_filter, decide_eq_true_eq]
  · next absent =>
    refine (and_iff_left_of_imp fun h => ?_).symm
    rintro rfl
    exact absent h

theorem mem_stack_reach {source n r : Text} {st : Search} :
    r ∈ (reach source st n).stack ↔ r ∈ st.stack ∨ r = n ∧ r ∈ st.fresh := by
  unfold reach
  split <;> grind

theorem mem_reached_reach {source n r : Text} {st : Search} :
    r ∈ reached start (reach source st n).links ↔ r ∈ reached start st.links ∨ r = n ∧
      r ∈ st.fresh := by
  unfold reach
  split <;> grind [mem_reached_cons]

theorem reachAll_cons (source n : Text) (st : Search) (next : List Text) :
    reachAll source st (n :: next) = reachAll source (reach source st n) next := rfl

theorem mem_fresh_reachAll {source r : Text} {st : Search} {next : List Text} :
    r ∈ (reachAll source st next).fresh ↔ r ∈ st.fresh ∧ r ∉ next := by
  induction next generalizing st with
  | nil => simp [reachAll]
  | cons n next ih =>
    rw [reachAll_cons, ih, mem_fresh_reach, List.mem_cons, not_or, and_assoc]

theorem mem_stack_reachAll {source r : Text} {st : Search} {next : List Text} :
    r ∈ (reachAll source st next).stack ↔ r ∈ st.stack ∨ r ∈ next ∧ r ∈ st.fresh := by
  induction next generalizing st with
  | nil => simp [reachAll]
  | cons n next ih =>
    rw [reachAll_cons, ih, mem_stack_reach, mem_fresh_reach, List.mem_cons]
    grind

theorem mem_reached_reachAll {source r : Text} {st : Search} {next : List Text} :
    r ∈ reached start (reachAll source st next).links ↔ r ∈ reached start st.links ∨ r ∈ next ∧
      r ∈ st.fresh := by
  induction next generalizing st with
  | nil => simp [reachAll]
  | cons n next ih =>
    rw [reachAll_cons, ih, mem_reached_reach, mem_fresh_reach, List.mem_cons]
    grind

theorem fresh_reachAll {source : Text} {st : Search} {next : List Text}
    (fresh : ∀ r ∈ st.fresh, r ∉ reached start st.links) :
    ∀ r ∈ (reachAll source st next).fresh, r ∉ reached start (reachAll source st next).links := by
  intro r hr
  rw [mem_fresh_reachAll] at hr
  rw [mem_reached_reachAll]
  rintro (known | ⟨mem, -⟩)
  · exact fresh r hr.1 known
  · exact hr.2 mem

structure Inv (edges : Text → List Text) (start goal : Text) (st : Search) : Prop where
  tree : Tree edges start st.links
  fresh : ∀ r ∈ st.fresh, r ∉ reached start st.links
  stack : ∀ r ∈ st.stack, r ∈ reached start st.links
  /-- Nothing that can be reached is forgotten. -/
  covers : ∀ a, ∀ b ∈ edges a, b ∈ st.fresh ∨ b ∈ reached start st.links
  /-- What does not wait any more was looked at. -/
  looked : ∀ a ∈ reached start st.links, a ∈ st.stack ∨ a ≠ goal ∧
    ∀ b ∈ edges a, b ∈ reached start st.links

theorem Inv.tree_reach {source n : Text} {st : Search} (tree : Tree edges start st.links)
    (fresh : ∀ r ∈ st.fresh, r ∉ reached start st.links) (known : source ∈ reached start st.links)
    (edge : n ∈ edges source) : Tree edges start (reach source st n).links := by
  unfold reach
  split
  · next h => exact .link tree known edge (fresh n h)
  · exact tree

theorem Inv.tree_reachAll {source : Text} {st : Search} {next : List Text}
    (tree : Tree edges start st.links) (fresh : ∀ r ∈ st.fresh, r ∉ reached start st.links)
    (known : source ∈ reached start st.links) (subset : ∀ n ∈ next, n ∈ edges source) :
    Tree edges start (reachAll source st next).links := by
  induction next generalizing st with
  | nil => exact tree
  | cons n next ih =>
    rw [reachAll_cons]
    have edge : n ∈ edges source := subset n List.mem_cons_self
    have fresh' : ∀ r ∈ (reachAll source st [n]).fresh,
        r ∉ reached start (reachAll source st [n]).links :=
      fresh_reachAll fresh
    have known' : source ∈ reached start (reach source st n).links :=
      mem_reached_reach.2 (Or.inl known)
    exact ih (tree_reach tree fresh known edge) fresh' known' fun m hm =>
      subset m (List.mem_cons_of_mem n hm)

/-- Looking at a routine that is not the goal keeps the invariant. -/
theorem Inv.step {st : Search} {r : Text} {rest : List Text} (inv : Inv edges start goal st)
    (top : st.stack = r :: rest) (other : r ≠ goal) :
    Inv edges start goal (reachAll r { st with stack := rest } (edges r)) := by
  have known : r ∈ reached start st.links := inv.stack r (by simp [top])
  constructor
  · exact tree_reachAll inv.tree inv.fresh known fun n hn => hn
  · exact fresh_reachAll inv.fresh
  · intro a ha
    rw [mem_stack_reachAll] at ha
    rw [mem_reached_reachAll]
    exact ha.imp_left fun h => inv.stack a (by rw [top]; exact List.mem_cons_of_mem r h)
  · intro a b hb
    rw [mem_fresh_reachAll, mem_reached_reachAll]
    have := inv.covers a b hb
    tauto
  · intro a ha
    simp only [mem_stack_reachAll, mem_reached_reachAll] at ha ⊢
    rcases ha with ha | ha
    · rcases inv.looked a ha with waits | ⟨goal, ends⟩
      · rcases List.mem_cons.1 (top ▸ waits) with rfl | later
        · -- The routine itself: its edges are reached now, if they were not before.
          refine Or.inr ⟨other, fun b hb => ?_⟩
          exact (inv.covers a b hb).symm.imp_right fun h => ⟨hb, h⟩
        · exact Or.inl (Or.inl later)
      · exact Or.inr ⟨goal, fun b hb => Or.inl (ends b hb)⟩
    · exact Or.inl (Or.inr ha)

/-- A search that ends without the goal has reached all that can be reached, and the goal is not
among it. -/
theorem Inv.unreachable {st : Search} (inv : Inv edges start goal st) (done : st.stack = []) :
    ¬ ReflTransGen (fun a b => b ∈ edges a) start goal := by
  have looked : ∀ a ∈ reached start st.links, a ≠ goal ∧
      ∀ b ∈ edges a, b ∈ reached start st.links := by
    intro a ha
    simpa [done] using inv.looked a ha
  have all {r : Text} (walk : ReflTransGen (fun a b => b ∈ edges a) start r) :
      r ∈ reached start st.links := by
    induction walk with
    | refl => simp [reached]
    | tail _ edge ih => exact (looked _ ih).2 _ edge
  intro walk
  exact (looked goal (all walk)).1 rfl

/-- A search finds the goal unless it cannot be reached. -/
theorem Inv.run {st : Search} (inv : Inv edges start goal st) :
    (Search.run edges goal st = none → ¬ ReflTransGen (fun a b => b ∈ edges a) start goal) ∧
      ∀ found, Search.run edges goal st = some found → Inv edges start goal found ∧
        goal ∈ found.stack := by
  fun_induction Search.run edges goal st with
  | case1 st done => exact ⟨fun _ => inv.unreachable done, by simp⟩
  | case2 st rest top =>
    refine ⟨by simp, ?_⟩
    rintro found ⟨⟩
    exact ⟨inv, by simp [top]⟩
  | case3 st r rest top other ih => exact ih (inv.step top other)

variable {edges' : Text → List Text}

theorem run_of_stack_nil {st : Search} (done : st.stack = []) : run edges goal st = none := by
  rw [run]
  split
  · rfl
  · next r rest top => exact absurd (done.symm.trans top) (by simp)

theorem run_of_stack_cons {st : Search} {r : Text} {rest : List Text} (top : st.stack = r :: rest) :
    run edges goal st =
      if r = goal then some st
      else run edges goal (reachAll r { st with stack := rest } (edges r)) := by
  rw [run]
  split
  · next done => exact absurd (done.symm.trans top) (by simp)
  · next r' rest' top' =>
    obtain ⟨rfl, rfl⟩ := List.cons.inj (top'.symm.trans top)
    rfl

/-- Searches that go on alike. The goal is never looked at, so what is fresh matters only where
other routines lead. -/
structure Alike (edges : Text → List Text) (goal : Text) (st st' : Search) : Prop where
  links : st'.links = st.links
  stack : st'.stack = st.stack
  fresh : ∀ r ≠ goal, ∀ n ∈ edges r, n ∈ st'.fresh ↔ n ∈ st.fresh

theorem Alike.reach {st st' : Search} {r n : Text} (alike : Alike edges goal st st')
    (other : r ≠ goal) (edge : n ∈ edges r) : Alike edges goal (reach r st n) (reach r st' n) := by
  have new : n ∈ st'.fresh ↔ n ∈ st.fresh := alike.fresh r other n edge
  constructor
  · unfold Search.reach
    simp only [new, alike.links, alike.stack, apply_ite Search.links]
  · unfold Search.reach
    simp only [new, alike.links, alike.stack, apply_ite Search.stack]
  · intro a ha b hb
    rw [mem_fresh_reach, mem_fresh_reach, alike.fresh a ha b hb]

theorem Alike.reachAll {st st' : Search} {r : Text} {next : List Text}
    (alike : Alike edges goal st st') (other : r ≠ goal) (subset : ∀ n ∈ next, n ∈ edges r) :
    Alike edges goal (reachAll r st next) (reachAll r st' next) := by
  induction next generalizing st st' with
  | nil => exact alike
  | cons n next ih =>
    rw [reachAll_cons, reachAll_cons]
    exact ih (alike.reach other (subset n List.mem_cons_self)) fun m hm =>
      subset m (List.mem_cons_of_mem n hm)

/-- Searches that start alike find the same, also in graphs that differ in the edges of the goal. -/
theorem Alike.run {st st' : Search} (alike : Alike edges goal st st')
    (same : ∀ r ≠ goal, edges' r = edges r) :
    (Search.run edges' goal st').map (·.links) = (Search.run edges goal st).map (·.links) := by
  fun_induction Search.run edges goal st generalizing st' with
  | case1 st done => rw [run_of_stack_nil (alike.stack.trans done)]
  | case2 st rest top =>
    rw [run_of_stack_cons (alike.stack.trans top), if_pos rfl, Option.map_some, Option.map_some,
      alike.links]
  | case3 st r rest top other ih =>
    rw [run_of_stack_cons (alike.stack.trans top), if_neg other, same r other]
    have popped : Alike edges goal { st with stack := rest } { st' with stack := rest } :=
      ⟨alike.links, rfl, alike.fresh⟩
    exact ih (popped.reachAll other fun n hn => hn)

end Search
end RoutineVisibility
