import Mathlib.Data.List.Chain
import Mathlib.Logic.Relation
import RoutineVisibility.Store.Basic

/-! Cycles of the controls graph as a relation, and what new edges from one source can do to
them. -/
namespace RoutineVisibility
open Relation

/-- A walk along at least one edge that ends where it began. -/
structure IsCycle {α : Type} (r : α → α → Prop) (way : List α) : Prop where
  closed : way.head? = way.getLast?
  long : 2 ≤ way.length
  chain : way.IsChain r

section
variable {α : Type} {r old new : α → α → Prop}

/-- Of the edges of a closed walk only those matter from whose end their start can be reached
again. -/
theorem isChain_of_returns (keeps : ∀ a b, r a b → ReflTransGen r b a → old a b) (x : α)
    (way : List α) (chain : (x :: way).IsChain r)
    (returns : ReflTransGen r ((x :: way).getLast (by simp)) x) : (x :: way).IsChain old := by
  induction way generalizing x with
  | nil => exact List.isChain_singleton x
  | cons y way ih =>
    obtain ⟨edge, rest⟩ := List.isChain_cons_cons.1 chain
    rw [List.getLast_cons (by simp)] at returns
    have forward : ReflTransGen r y ((y :: way).getLast (by simp)) :=
      List.relationReflTransGen_of_exists_isChain_cons way rest rfl
    have kept : old x y := keeps x y edge (forward.trans returns)
    exact List.isChain_cons_cons.2 ⟨kept, ih y rest (returns.tail edge)⟩

theorem IsCycle.of_returns (keeps : ∀ a b, r a b → ReflTransGen r b a → old a b) {way : List α}
    (cycle : IsCycle r way) : IsCycle old way := by
  refine ⟨cycle.closed, cycle.long, ?_⟩
  cases way with
  | nil => exact List.isChain_nil
  | cons x way =>
    refine isChain_of_returns keeps x way cycle.chain ?_
    have last : (x :: way).getLast (by simp) = x := by
      have closed := cycle.closed
      rw [List.head?_cons, List.getLast?_eq_getLast_of_ne_nil (by simp)] at closed
      exact (Option.some.inj closed).symm
    rw [last]

/-- Every edge of a cycle leads back to its start. -/
theorem IsCycle.reaches_of_infix {way : List α} (cycle : IsCycle r way) {a b : α}
    (edge : [a, b] <:+: way) : ReflTransGen r b a := by
  obtain ⟨before, after, rfl⟩ := edge
  have chain := cycle.chain
  have closed := cycle.closed
  rw [List.append_assoc, List.cons_append, List.singleton_append] at chain closed
  have forward : ReflTransGen r b ((b :: after).getLast (by simp)) :=
    List.relationReflTransGen_of_exists_isChain_cons after
      (List.isChain_cons_cons.1 (List.isChain_append.1 chain).2.1).2 rfl
  rw [List.getLast?_append_of_ne_nil _ (by simp), List.getLast?_cons_cons,
    List.getLast?_eq_getLast_of_ne_nil (by simp)] at closed
  cases before with
  | nil =>
    rw [List.nil_append, List.head?_cons] at closed
    exact Option.some.inj closed ▸ forward
  | cons x before =>
    rw [List.cons_append, List.head?_cons] at closed
    have start : (x :: (before ++ [a])).IsChain r := by
      have : ((x :: before ++ [a]) ++ b :: after).IsChain r := by simpa using chain
      exact (List.isChain_append.1 this).1
    have back : ReflTransGen r x a :=
      List.relationReflTransGen_of_exists_isChain_cons (before ++ [a]) start (by simp)
    exact (Option.some.inj closed ▸ forward).trans back

/-- An edge from whose end its start can be reached is part of a cycle. -/
theorem exists_isCycle_of_reaches {a b : α} (edge : r a b) (back : ReflTransGen r b a) :
    ∃ way, IsCycle r way ∧ [a, b] <:+: way := by
  obtain ⟨way, chain, last⟩ := List.exists_isChain_cons_of_relationReflTransGen back
  refine ⟨a :: b :: way, ⟨?_, ?_, List.isChain_cons_cons.2 ⟨edge, chain⟩⟩, ?_⟩
  · rw [List.getLast?_cons_cons, List.getLast?_eq_getLast_of_ne_nil (by simp), last,
      List.head?_cons]
  · simp
  · exact (List.prefix_append [a, b] way).isInfix

/-- Edges that leave the source do not help to reach it. -/
theorem reaches_of_new {source : α} (edges : ∀ a b, new a b → old a b ∨ a = source) {b : α}
    (walk : ReflTransGen new b source) : ReflTransGen old b source := by
  induction walk using ReflTransGen.head_induction_on with
  | refl => exact .refl
  | head edge _ ih =>
    rcases edges _ _ edge with kept | rfl
    · exact .head kept ih
    · exact .refl

/-- New edges of a source close no cycle if their ends did not lead back to it. -/
theorem IsCycle.of_write {source : α}
    (edges : ∀ a b, new a b → old a b ∨ a = source ∧ ¬ ReflTransGen old b source) {way : List α}
    (cycle : IsCycle new way) : IsCycle old way := by
  refine cycle.of_returns fun a b edge back => ?_
  rcases edges a b edge with kept | ⟨rfl, blocked⟩
  · exact kept
  · exact absurd (reaches_of_new (fun c d e => (edges c d e).imp_right And.left) back) blocked

end

variable {F : Type → Type} [Holding F]

def Condition.Controls (c : Condition F) (a b : Text) : Prop :=
  view c.routineId = .value a ∧ (view c.controlsRoutine).isBool true ∧
    ∃ check ∈ c.checks, view check.targetRoutineId = .value (some b)

theorem Condition.mem_routineTargets {c : Condition F} {b : Text} :
    b ∈ c.routineTargets ↔ ∃ check ∈ c.checks, view check.targetRoutineId = .value (some b) := by
  have target (x : Field (Option Text)) : x.value?.join = some b ↔ x = .value (some b) := by
    cases x <;> simp [Field.value?]
  simp only [Condition.routineTargets, List.mem_filterMap, target]

namespace Store

/-- The first routine depends on the second: some condition that controls it has a check of the
second. -/
def Controls (s : Store F) (a b : Text) : Prop :=
  ∃ c ∈ s.conditions, c.Controls a b

def Reaches (s : Store F) : Text → Text → Prop :=
  ReflTransGen s.Controls

end Store
end RoutineVisibility
