import Mathlib.Data.List.Nodup
import RoutineVisibility.Proofs.Controls.Search
import RoutineVisibility.Proofs.Store.Table

/-! The reported path is a cycle of the dependency in question, and there is one whenever it closes
a cycle. -/
namespace RoutineVisibility
open Relation

def Check.ofRoutine (id routine : Text) : Check Exact :=
  ⟨id, .routinePercent .equals, false, some "100", none, none, some routine, none, none, none, []⟩

def Condition.onRoutine (id owner routine : Text) : Condition Exact :=
  ⟨id, owner, true, .and, [.ofRoutine "1" routine]⟩

namespace Store
variable {F : Type → Type} [Holding F]

theorem mem_controlTargets {s : Store F} {a b : Text} :
    b ∈ s.controlTargets a ↔ s.Controls a b := by
  simp only [controlTargets, routineConditions, List.mem_flatMap, List.mem_filter, Option.all_some,
    Bool.and_eq_true, Field.sameKey_value_iff, Condition.mem_routineTargets, Controls,
    Condition.Controls, and_assoc]

theorem mem_allControlTargets {s : Store F} {a b : Text} (edge : s.Controls a b) :
    b ∈ s.allControlTargets := by
  obtain ⟨c, mem, -, controls, check⟩ := edge
  exact List.mem_flatMap.2 ⟨c, List.mem_filter.2 ⟨mem, controls⟩,
    Condition.mem_routineTargets.2 check⟩

theorem inv_searchFrom (s : Store F) (start goal : Text) :
    Search.Inv s.controlTargets start goal (s.searchFrom start) := by
  constructor
  · exact .nil
  · intro r hr
    simp only [searchFrom, List.mem_filter, decide_eq_true_eq] at hr
    rw [searchFrom, Search.mem_reached_nil]
    exact hr.2
  · intro r hr
    rw [searchFrom, Search.mem_reached_nil]
    exact List.mem_singleton.1 hr
  · intro a b hb
    have target : b ∈ s.allControlTargets := mem_allControlTargets (mem_controlTargets.1 hb)
    simp only [searchFrom, Search.mem_reached_nil, List.mem_filter, List.mem_eraseDups,
      decide_eq_true_eq]
    by_cases h : b = start
    · exact Or.inr h
    · exact Or.inl ⟨target, h⟩
  · intro a ha
    rw [searchFrom, Search.mem_reached_nil] at ha
    exact Or.inl (List.mem_singleton.2 ha)

theorem reaches_iff {s : Store F} {a b : Text} :
    s.Reaches a b ↔ ReflTransGen (fun x y => y ∈ s.controlTargets x) a b := by
  have : s.Controls = fun x y => y ∈ s.controlTargets x := by
    funext x y
    exact propext mem_controlTargets.symm
  rw [Reaches, this]

/-- The path is a cycle that a dependency of the source on the target closes: after this dependency
it goes on along those of the store, and comes to no routine twice before it is back. -/
structure ClosedBy (s : Store F) (source target : Text) (path : List Text) : Prop where
  head : path.head? = some source
  second : path.tail.head? = some target
  last : path.getLast? = some source
  chain : path.tail.IsChain s.Controls
  nodup : path.tail.Nodup

theorem ClosedBy.path_eq {s : Store F} {source target : Text} {path : List Text}
    (closed : s.ClosedBy source target path) : ∃ way, path = source :: target :: way := by
  obtain ⟨rest, e⟩ := List.head?_eq_some_iff.1 closed.head
  have second := closed.second
  rw [e, List.tail_cons] at second
  obtain ⟨way, e'⟩ := List.head?_eq_some_iff.1 second
  exact ⟨way, by rw [e, e']⟩

theorem ClosedBy.reaches {s : Store F} {source target : Text} {path : List Text}
    (closed : s.ClosedBy source target path) : s.Reaches target source := by
  obtain ⟨way, rfl⟩ := closed.path_eq
  have last : (target :: way).getLast (by simp) = source := by
    have := closed.last
    rw [List.getLast?_cons_cons, List.getLast?_eq_getLast_of_ne_nil (by simp)] at this
    exact Option.some.inj this
  exact last ▸ List.relationReflTransGen_of_exists_isChain_cons way closed.chain rfl

/-- A dependency of a routine on itself is a cycle of its own. -/
theorem ClosedBy.self {s : Store F} {source : Text} {path : List Text}
    (closed : s.ClosedBy source source path) : path = [source, source] := by
  obtain ⟨way, rfl⟩ := closed.path_eq
  cases way with
  | nil => rfl
  | cons next way =>
    have last := closed.last
    rw [List.getLast?_cons_cons, List.getLast?_cons_cons] at last
    have again : source ∈ next :: way := List.mem_of_getLast? last
    exact absurd again (List.nodup_cons.1 closed.nodup).1

theorem closedBy_of_cyclePath? {s : Store F} {source target : Text} {path : List Text}
    (h : s.cyclePath? source target = some path) : s.ClosedBy source target path := by
  obtain ⟨found, run, rfl⟩ := Option.map_eq_some_iff.1 h
  obtain ⟨inv, hit⟩ := (s.inv_searchFrom target source).run.2 found run
  obtain ⟨head, last, chain, nodup, -⟩ := inv.tree.trail (inv.stack source hit)
  constructor
  · rfl
  · rw [List.tail_cons, List.head?_reverse, last]
  · rw [List.getLast?_cons, List.getLast?_reverse, head, Option.getD_some]
  · rw [List.tail_cons, List.isChain_reverse]
    exact chain.imp fun a b h => mem_controlTargets.1 h
  · exact List.nodup_reverse.2 nodup

theorem cyclePath?_eq_none_iff {s : Store F} {source target : Text} :
    s.cyclePath? source target = none ↔ ¬ s.Reaches target source := by
  constructor
  · intro h
    rw [reaches_iff]
    exact (s.inv_searchFrom target source).run.1 (Option.map_eq_none_iff.1 h)
  · intro h
    cases path : s.cyclePath? source target with
    | none => rfl
    | some way => exact absurd (closedBy_of_cyclePath? path).reaches h

/-- Edges of the source do not matter to the path that is found for it. -/
theorem cyclePath?_congr {s t : Store F} {source : Text}
    (same : ∀ r ≠ source, t.controlTargets r = s.controlTargets r) (target : Text) :
    t.cyclePath? source target = s.cyclePath? source target := by
  have fresh {u : Store F} {r n : Text} (edge : n ∈ u.controlTargets r) :
      n ∈ (u.searchFrom target).fresh ↔ n ≠ target := by
    have known : n ∈ u.allControlTargets := mem_allControlTargets (mem_controlTargets.1 edge)
    simp [searchFrom, known]
  have alike : Search.Alike s.controlTargets source (s.searchFrom target)
      (t.searchFrom target) := by
    refine ⟨rfl, rfl, fun r other n edge => ?_⟩
    rw [fresh edge, fresh (same r other ▸ edge)]
  have trails := congrArg (Option.map fun links => source :: (Search.trail links source).reverse)
    (alike.run same)
  rw [Option.map_map, Option.map_map] at trails
  exact trails

/-- The search is sound and complete on every graph: it reports nothing if and only if the source
cannot be reached from the target, and what it reports is a cycle that the dependency closes. -/
theorem cyclePath?_iff_reaches (s : Store Exact) (source target : Text) :
    (s.cyclePath? source target = none ↔ ¬ s.Reaches target source) ∧
      (∀ path, s.cyclePath? source target = some path →
        s.ClosedBy source target path ∧ (source = target → path = [source, source])) ∧
      (s.wouldCloseCycle source target = true ↔ s.cyclePath? source target ≠ none) := by
  refine ⟨cyclePath?_eq_none_iff, fun path h => ?_, Option.isSome_iff_ne_none⟩
  have closed := closedBy_of_cyclePath? h
  refine ⟨closed, ?_⟩
  rintro rfl
  exact closed.self

def ring : Store Exact where
  conditions :=
    [⟨"b", "B", true, .and, [.ofRoutine "1" "C", .ofRoutine "2" "A"]⟩, .onRoutine "c" "C" "B"]

theorem ring_cyclePath? :
    ring.cyclePath? "A" "C" = some (["A", "C", "B", "A"] : List Text) ∧
      ring.ClosedBy "A" "C" ["A", "C", "B", "A"] ∧
      ring.cyclePath? "B" "B" = some (["B", "B"] : List Text) ∧
      ring.ClosedBy "B" "B" ["B", "B"] := by
  have around : ring.cyclePath? "A" "C" = some (["A", "C", "B", "A"] : List Text) := by
    decide +kernel
  have self : ring.cyclePath? "B" "B" = some (["B", "B"] : List Text) := by decide +kernel
  exact ⟨around, ((cyclePath?_iff_reaches ring "A" "C").2.1 _ around).1, self,
    ((cyclePath?_iff_reaches ring "B" "B").2.1 _ self).1⟩

end Store
end RoutineVisibility
