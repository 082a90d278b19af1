import RoutineVisibility.Proofs.Authoring.Outcome

/-! Runs of writers make no cycle of the controls graph, whatever the store held before. -/
namespace RoutineVisibility
open Relation

inductive Write where
  | create (c : Condition Exact)
  | update (c : Condition Exact)
  | delete (condition : Text)
  | person (p : Person Exact)
  | routine (r : Routine Exact)
  | task (t : Task Exact)
  | completion (c : Completion Exact)
  | goal (g : GoalProgress Exact)

/-- An edge of a checked condition leaves its owner and ends at one of its targets. -/
theorem Condition.controls_held {F : Type → Type} [Holding F] {c : Condition Exact} {a b : Text}
    (edge : (c.held : Condition F).Controls a b) : a = c.routineId ∧ b ∈ c.routineTargets := by
  obtain ⟨owner, -, check⟩ := edge
  have target : b ∈ (c.held : Condition F).routineTargets := mem_routineTargets.2 check
  have source : view (c.held : Condition F).routineId = .value c.routineId := Holding.view_put _
  rw [routineTargets_held] at target
  rw [source] at owner
  exact ⟨(Field.value.inj owner).symm, target⟩

namespace Store
variable {F : Type → Type} [Holding F]

def attempt (s : Store F) : Write → Except Rejection (Store F)
  | .create c => s.createCondition c.held
  | .update c => s.updateCondition c.held
  | .delete condition => s.deleteCondition condition
  | .person p => .ok (s.add (.person p.held))
  | .routine r => .ok (s.add (.routine r.held))
  | .task t => .ok (s.add (.task t.held))
  | .completion c => .ok (s.add (.completion c.held))
  | .goal g => .ok (s.add (.goal g.held))

def after (s : Store F) (w : Write) : Store F :=
  match s.attempt w with
  | .ok t => t
  | .error _ => s

def afterAll (s : Store F) (ws : List Write) : Store F :=
  ws.foldl after s

/-- The stores that a run passes through, from the first to the last. -/
def passed (s : Store F) (ws : List Write) : List (Store F) :=
  ws.scanl after s

variable {s t : Store F} {w : Write} {c : Condition Exact}

theorem after_of_attempt (accepted : s.attempt w = .ok t) : s.after w = t := by
  unfold after
  rw [accepted]

theorem after_of_rejected {r : Rejection} (rejected : s.attempt w = .error r) : s.after w = s := by
  unfold after
  rw [rejected]

theorem controls_of_add {c : Condition F} {a b : Text} (h : (s.add (.condition c)).Controls a b) :
    s.Controls a b ∨ c.Controls a b := by
  obtain ⟨d, mem, edge⟩ := h
  rcases Table.mem_of_mem_insert mem with rfl | mem
  · exact Or.inr edge
  · exact Or.inl ⟨d, mem, edge⟩

/-- Every new edge of a condition that was accepted leaves its owner, and does not lead back to
it. -/
theorem controls_of_allow (allowed : s.allow c.held = .ok ()) {a b : Text}
    (h : (s.add (.condition c.held)).Controls a b) :
    s.Controls a b ∨ a = c.routineId ∧ ¬ s.Reaches b c.routineId := by
  refine (controls_of_add h).imp_right fun edge => ?_
  obtain ⟨owner, target⟩ := Condition.controls_held edge
  exact ⟨owner, (allow_eq_ok_iff.1 allowed).2.2 b target⟩

/-- What a call does to the controls graph: edges may go, and edges may come that leave one routine
and do not lead back to it. -/
theorem controls_of_attempt {w : Write} (h : s.attempt w = .ok t) :
    ∃ source, ∀ a b, t.Controls a b → s.Controls a b ∨ a = source ∧ ¬ s.Reaches b source := by
  cases w with
  | create c =>
    obtain ⟨allowed, rfl⟩ := add_of_createCondition h
    exact ⟨c.routineId, fun _ _ => controls_of_allow allowed⟩
  | update c =>
    obtain ⟨allowed, rfl⟩ := add_of_updateCondition h
    exact ⟨c.routineId, fun _ _ => controls_of_allow allowed⟩
  | delete condition =>
    obtain rfl := erase_of_deleteCondition h
    refine ⟨condition, fun a b edge => Or.inl ?_⟩
    obtain ⟨c, mem, edge⟩ := edge
    exact ⟨c, Table.mem_of_mem_erase mem, edge⟩
  | person | routine | task | completion | goal =>
    cases h
    exact ⟨"", fun _ _ => Or.inl⟩

theorem isCycle_of_after {w : Write} {way : List Text} (cycle : IsCycle (s.after w).Controls way) :
    IsCycle s.Controls way := by
  unfold after at cycle
  split at cycle
  · next t h =>
    obtain ⟨source, edges⟩ := controls_of_attempt h
    exact cycle.of_write edges
  · exact cycle

theorem isCycle_of_afterAll {ws : List Write} {way : List Text}
    (cycle : IsCycle (s.afterAll ws).Controls way) : IsCycle s.Controls way := by
  induction ws generalizing s with
  | nil => exact cycle
  | cons w ws ih => exact isCycle_of_after (ih cycle)

theorem mem_passed {ws : List Write} (h : t ∈ s.passed ws) :
    ∃ first, first <+: ws ∧ t = s.afterAll first := by
  induction ws generalizing s with
  | nil => exact ⟨[], List.prefix_rfl, List.mem_singleton.1 h⟩
  | cons w ws ih =>
    rw [passed, List.scanl_cons] at h
    rcases List.mem_cons.1 h with rfl | h
    · exact ⟨[], List.nil_prefix, rfl⟩
    · obtain ⟨first, before, rfl⟩ := ih h
      exact ⟨w :: first, List.cons_prefix_cons.2 ⟨rfl, before⟩, rfl⟩

/-- Writers make no cycle: each cycle after a run was there before it, and a run that begins without
cycles has none at any time. -/
theorem isCycle_of_run (s : Store F) (ws : List Write) :
    (∀ way, IsCycle (s.afterAll ws).Controls way → IsCycle s.Controls way) ∧
      ((∀ way, ¬ IsCycle s.Controls way) → ∀ t ∈ s.passed ws, ∀ way, ¬ IsCycle t.Controls way) := by
  refine ⟨fun way cycle => isCycle_of_afterAll cycle, fun acyclic t mem way cycle => ?_⟩
  obtain ⟨first, -, rfl⟩ := mem_passed mem
  exact acyclic way (isCycle_of_afterAll cycle)

/-- A call that is accepted and one that is rejected, on a store with a cycle and on one without. -/
theorem isCycle_of_run_ring :
    let ws : List Write :=
      [.routine ⟨"D", "", .smart, .active, .daily, none⟩, .create (.onRoutine "d" "D" "B"),
        .update (.onRoutine "d" "D" "D")]
    IsCycle (ring.afterAll ws).Controls ["B", "C", "B"] ∧ IsCycle ring.Controls ["B", "C", "B"] ∧
      (∀ way, ¬ IsCycle (empty : Store Exact).Controls way) ∧
        ∀ t ∈ (empty : Store Exact).passed ws, ∀ way, ¬ IsCycle t.Controls way := by
  intro ws
  have there : (ring.afterAll ws).Controls "B" "C" := mem_controlTargets.1 (by decide +kernel)
  have back : (ring.afterAll ws).Controls "C" "B" := mem_controlTargets.1 (by decide +kernel)
  have cycle : IsCycle (ring.afterAll ws).Controls ["B", "C", "B"] := by
    refine ⟨rfl, by decide, ?_⟩
    rw [List.isChain_cons_cons, List.isChain_pair]
    exact ⟨there, back⟩
  have acyclic (way : List Text) : ¬ IsCycle (empty : Store Exact).Controls way := by
    rintro ⟨-, long, chain⟩
    rcases way with _ | ⟨a, _ | ⟨b, way⟩⟩
    · exact absurd long (by simp)
    · exact absurd long (by simp)
    · obtain ⟨c, mem, -⟩ := (List.isChain_cons_cons.1 chain).1
      cases mem
  exact ⟨cycle, (isCycle_of_run ring ws).1 _ cycle, acyclic, (isCycle_of_run empty ws).2 acyclic⟩

end Store
end RoutineVisibility
