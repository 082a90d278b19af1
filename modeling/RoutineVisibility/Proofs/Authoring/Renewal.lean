import RoutineVisibility.Proofs.Authoring.Judgement
import RoutineVisibility.Proofs.Authoring.Replacement

/-! Conditions that are written once more, as they are stored, after a run of writers. -/
namespace RoutineVisibility
open Relation

def Write.condition? : Write → Option (Condition Exact)
  | .create c => some c
  | .update c => some c
  | _ => none

theorem Condition.not_controls_held {F : Type → Type} [Holding F] {c : Condition Exact}
    (silent : c.controlsRoutine = false) (a b : Text) : ¬ (c.held : Condition F).Controls a b := by
  rintro ⟨-, controls, -⟩
  have given : view (c.held : Condition F).controlsRoutine = .value c.controlsRoutine :=
    Holding.view_put _
  rw [given, silent] at controls
  exact absurd controls (by decide)

namespace Store
variable {F : Type → Type} [Holding F]

/-- A call of the run writes the condition and is accepted; also tells the store after it and the
rest of the run. -/
inductive Accepts : Store F → List Write → Condition Exact → Store F → List Write → Prop where
  | here {s u : Store F} {w : Write} {ws : List Write} {c : Condition Exact}
    (writes : w.condition? = some c) (accepted : s.attempt w = .ok u) : Accepts s (w :: ws) c u ws
  | later {s u : Store F} {w : Write} {ws rest : List Write} {c : Condition Exact}
    (accepts : Accepts (s.after w) ws c u rest) : Accepts s (w :: ws) c u rest

def Quiet (s : Store F) (ws : List Write) : Prop :=
  ∀ c u rest, s.Accepts ws c u rest → c.controlsRoutine = false

/-- What becomes of a stored condition that is written once more. -/
structure Renews (s : Store F) (c : Condition Exact) : Prop where
  unchanged : s.after (.update c) = s
  accepted_iff : s.updateCondition c.held = .ok s ↔
    ∀ target ∈ c.routineTargets, ¬ s.Reaches target c.routineId
  /-- It can only be rejected for a cycle that goes through its routine. -/
  rejected : ∀ r, s.updateCondition c.held = .error r → ∃ target ∈ c.routineTargets, ∃ path,
    s.ClosedBy c.routineId target path ∧ r = .cycle c.routineId target path (s.describePath path)

variable {s t u : Store F} {w : Write} {ws rest : List Write} {c : Condition Exact}
  {d : Condition F}

theorem add_of_attempt (writes : w.condition? = some c) (accepted : s.attempt w = .ok t) :
    s.allow c.held = .ok () ∧ t = s.add (.condition c.held) := by
  cases w with
  | create e =>
    obtain rfl : e = c := Option.some.inj writes
    exact add_of_createCondition accepted
  | update e =>
    obtain rfl : e = c := Option.some.inj writes
    exact add_of_updateCondition accepted
  | delete | person | routine | task | completion | goal => cases writes

/-- A condition after a call was there before it, or it is the one that the call writes. -/
theorem mem_of_attempt (accepted : s.attempt w = .ok t) (mem : d ∈ t.conditions) :
    d ∈ s.conditions ∨ ∃ c, w.condition? = some c ∧ d = c.held := by
  cases w with
  | create c =>
    obtain ⟨-, rfl⟩ := add_of_createCondition accepted
    exact (Table.mem_of_mem_insert mem).symm.imp_right fun new => ⟨c, rfl, new⟩
  | update c =>
    obtain ⟨-, rfl⟩ := add_of_updateCondition accepted
    exact (Table.mem_of_mem_insert mem).symm.imp_right fun new => ⟨c, rfl, new⟩
  | delete condition =>
    obtain rfl := erase_of_deleteCondition accepted
    exact Or.inl (Table.mem_of_mem_erase mem)
  | person | routine | task | completion | goal =>
    cases accepted
    exact Or.inl mem

/-- A condition after a run was there before it, or the run accepts it. -/
theorem accepts_of_mem (mem : d ∈ (s.afterAll ws).conditions) :
    d ∈ s.conditions ∨ ∃ c u rest, s.Accepts ws c u rest ∧ d = c.held := by
  induction ws generalizing s with
  | nil => exact Or.inl mem
  | cons w ws ih =>
    rcases ih mem with before | ⟨c, u, rest, accepts, rfl⟩
    · cases called : s.attempt w with
      | error r =>
        rw [after_of_rejected called] at before
        exact Or.inl before
      | ok t =>
        rw [after_of_attempt called] at before
        rcases mem_of_attempt called before with old | ⟨c, writes, rfl⟩
        · exact Or.inl old
        · exact Or.inr ⟨c, t, ws, .here writes called, rfl⟩
    · exact Or.inr ⟨c, u, rest, .later accepts, rfl⟩

theorem Accepts.allowed (accepts : s.Accepts ws c u rest) :
    ∃ t : Store F, t.allow c.held = .ok () ∧ u = t.add (.condition c.held) ∧
      s.afterAll ws = u.afterAll rest := by
  induction accepts with
  | @here s u w ws c writes accepted =>
    obtain ⟨allowed, added⟩ := add_of_attempt writes accepted
    have same : s.afterAll (w :: ws) = (s.after w).afterAll ws := rfl
    exact ⟨s, allowed, added, by rw [same, after_of_attempt accepted]⟩
  | later _ ih => exact ih

/-- Without a new controlling condition the graph gets no new edge. -/
theorem Quiet.controls (quiet : s.Quiet ws) {a b : Text} (edge : (s.afterAll ws).Controls a b) :
    s.Controls a b := by
  induction ws generalizing s with
  | nil => exact edge
  | cons w ws ih =>
    have edge : (s.after w).Controls a b :=
      ih (fun c u rest accepts => quiet c u rest (.later accepts)) edge
    cases called : s.attempt w with
    | error r => rwa [after_of_rejected called] at edge
    | ok t =>
      rw [after_of_attempt called] at edge
      obtain ⟨d, mem, edge⟩ := edge
      rcases mem_of_attempt called mem with old | ⟨c, writes, rfl⟩
      · exact ⟨d, old, edge⟩
      · have silent : c.controlsRoutine = false := quiet c t ws (.here writes called)
        exact absurd edge (Condition.not_controls_held silent a b)

theorem has_routines_after {routine : Text} (there : Table.has s.routines (.value routine)) :
    Table.has (s.after w).routines (.value routine) := by
  cases called : s.attempt w with
  | error r => rwa [after_of_rejected called]
  | ok t =>
    rw [after_of_attempt called]
    cases w with
    | create c =>
      obtain ⟨-, rfl⟩ := add_of_createCondition called
      exact there
    | update c =>
      obtain ⟨-, rfl⟩ := add_of_updateCondition called
      exact there
    | delete condition =>
      obtain rfl := erase_of_deleteCondition called
      exact there
    | routine r =>
      cases called
      exact Table.has_insert there
    | person | task | completion | goal =>
      cases called
      exact there

/-- Routines stay, whatever is written. -/
theorem has_routines_afterAll {routine : Text} (there : Table.has s.routines (.value routine)) :
    Table.has (s.afterAll ws).routines (.value routine) := by
  induction ws generalizing s with
  | nil => exact there
  | cons w ws ih => exact ih (has_routines_after there)

theorem updateCondition_of_mem (distinct : s.Distinct) (mem : c.held ∈ s.conditions) :
    s.updateCondition c.held = (s.allow c.held).map fun _ => s := by
  have stored : Table.find? s.conditions (.value c.id) = some c.held :=
    distinct.conditions.find? mem (key_held c)
  have owner : view (c.held : Condition F).routineId = .value c.routineId := Holding.view_put _
  have written : s.add (.condition c.held) = s := by
    show { s with conditions := Table.insert c.held s.conditions } = s
    rw [Table.insert_of_find?_self (key_held c) stored]
  rw [updateCondition_eq, stored, written]
  exact if_pos (Field.sameKey_value_iff.2 owner)

theorem renews_of_mem (distinct : s.Distinct) (mem : c.held ∈ s.conditions) (checks : c.checks ≠ [])
    (owner : Table.has s.routines (.value c.routineId)) : s.Renews c := by
  have update := updateCondition_of_mem distinct mem
  constructor
  · have attempt : s.attempt (.update c) = (s.allow c.held).map fun _ => s := update
    cases allowed : s.allow c.held with
    | ok =>
      rw [allowed] at attempt
      exact after_of_attempt attempt
    | error r =>
      rw [allowed] at attempt
      exact after_of_rejected attempt
  · have judged : s.allow c.held = .ok () ↔ ∀ target ∈ c.routineTargets,
        ¬ s.Reaches target c.routineId := by
      rw [allow_eq_ok_iff, and_iff_right checks, and_iff_right owner]
    rw [update, ← judged, Except.map_eq_ok_iff]
    constructor
    · rintro ⟨_, allowed, -⟩
      exact allowed
    · intro allowed
      exact ⟨(), allowed, rfl⟩
  · intro r rejected
    obtain ⟨routine, found⟩ := Option.isSome_iff_exists.1 owner
    rw [update, allow_eq, if_neg (by simpa using checks), found] at rejected
    cases closed : s.closedCycle? c.routineId c.routineTargets with
    | none =>
      rw [closed] at rejected
      cases rejected
    | some r' =>
      rw [closed] at rejected
      cases rejected
      obtain ⟨before, target, after, path, targets, -, closedBy, reason⟩ :=
        closedCycle?_eq_some closed
      exact ⟨target, by simp [targets], path, closedBy, reason⟩

/-- In a graph without cycles, no target of a controlling condition leads back to its routine. -/
theorem not_reaches_of_controls (acyclic : ∀ way, ¬ IsCycle s.Controls way)
    (mem : c.held ∈ s.conditions) (controls : c.controlsRoutine = true) {target : Text}
    (targeted : target ∈ c.routineTargets) : ¬ s.Reaches target c.routineId := by
  intro walk
  have owner : view (c.held : Condition F).routineId = .value c.routineId := Holding.view_put _
  have given : view (c.held : Condition F).controlsRoutine = .value c.controlsRoutine :=
    Holding.view_put _
  have checked : target ∈ (c.held : Condition F).routineTargets := by
    rw [Condition.routineTargets_held]
    exact targeted
  have edge : s.Controls c.routineId target := by
    refine ⟨c.held, mem, owner, ?_, Condition.mem_routineTargets.1 checked⟩
    rw [given, controls]
    rfl
  obtain ⟨way, cycle, -⟩ := exists_isCycle_of_reaches edge walk
  exact acyclic way cycle

/-- A condition that does not control its routine is still judged as before after a quiet run. -/
theorem Accepts.not_reaches (accepts : s.Accepts ws c u rest) (quiet : u.Quiet rest)
    (silent : c.controlsRoutine = false) {target : Text} (targeted : target ∈ c.routineTargets) :
    ¬ (s.afterAll ws).Reaches target c.routineId := by
  obtain ⟨t, allowed, rfl, same⟩ := accepts.allowed
  rw [same]
  intro walk
  -- Neither the condition nor the run after it adds an edge to the graph by which the condition was
  -- judged.
  refine (allow_eq_ok_iff.1 allowed).2.2 target targeted
    (ReflTransGen.mono (fun a b edge => ?_) _ _ walk)
  rcases controls_of_add (quiet.controls edge) with old | own
  · exact old
  · exact absurd own (Condition.not_controls_held silent a b)

theorem not_controls_of_nil (none : s.conditions = []) (a b : Text) : ¬ s.Controls a b := by
  rintro ⟨c, mem, -⟩
  rw [none] at mem
  cases mem

theorem not_isCycle_of_nil (none : s.conditions = []) (way : List Text) :
    ¬ IsCycle s.Controls way := by
  rintro ⟨-, long, chain⟩
  match way, long with
  | a :: b :: way, _ => exact not_controls_of_nil none a b (List.isChain_cons_cons.1 chain).1

/-- Each condition that is stored after a run was accepted by it. Written once more, it changes
nothing, and it is accepted if it controls its routine, or if no controlling condition was accepted
since it was accepted itself. -/
theorem updateCondition_of_run (s : Store F) (distinct : s.Distinct) (none : s.conditions = [])
    (ws : List Write) :
    ∀ d ∈ (s.afterAll ws).conditions, ∃ c : Condition Exact, d = c.held ∧ (s.afterAll ws).Renews c ∧
      (c.controlsRoutine = true → (s.afterAll ws).updateCondition d = .ok (s.afterAll ws)) ∧
      (∃ u rest, s.Accepts ws c u rest) ∧
      ∀ u rest, s.Accepts ws c u rest → u.Quiet rest →
        (s.afterAll ws).updateCondition d = .ok (s.afterAll ws) := by
  intro d mem
  have acyclic (way : List Text) : ¬ IsCycle (s.afterAll ws).Controls way := fun cycle =>
    not_isCycle_of_nil none way (isCycle_of_afterAll cycle)
  rcases accepts_of_mem mem with old | ⟨c, u, rest, accepts, rfl⟩
  · rw [none] at old
    cases old
  -- Its checks and its routine, for which it was accepted, are still there; only the graph can have
  -- changed.
  obtain ⟨t, allowed, added, same⟩ := accepts.allowed
  obtain ⟨checks, owner, -⟩ := allow_eq_ok_iff.1 allowed
  have owner : Table.has u.routines (.value c.routineId) := by
    rw [added]
    exact owner
  have owner : Table.has (s.afterAll ws).routines (.value c.routineId) := by
    rw [same]
    exact has_routines_afterAll owner
  have renews : (s.afterAll ws).Renews c := renews_of_mem (distinct.afterAll ws) mem checks owner
  have controlling (controls : c.controlsRoutine = true) :
      (s.afterAll ws).updateCondition c.held = .ok (s.afterAll ws) :=
    renews.accepted_iff.2 fun _ targeted => not_reaches_of_controls acyclic mem controls targeted
  refine ⟨c, rfl, renews, controlling, ⟨u, rest, accepts⟩, fun u rest accepts quiet => ?_⟩
  cases controls : c.controlsRoutine with
  | true => exact controlling controls
  | false =>
    exact renews.accepted_iff.2 fun _ targeted => accepts.not_reaches quiet controls targeted

end Store

/-- A condition of a task of A that asks for B. -/
def Condition.onB : Condition Exact :=
  { Condition.onRoutine "a" "A" "B" with controlsRoutine := false }

def Write.asking : List Write :=
  [.routine ⟨"A", "", .smart, .active, .daily, none⟩,
    .routine ⟨"B", "", .smart, .active, .daily, none⟩, .create .onB]

def Write.crossing : List Write :=
  asking ++ [.create (.onRoutine "b" "B" "A")]

namespace Store

def asked : Store Exact :=
  empty.afterAll Write.asking

def crossed : Store Exact :=
  empty.afterAll Write.crossing

def paired : Store Exact where
  routines := [⟨"A", "", .smart, .active, .daily, none⟩, ⟨"B", "", .smart, .active, .daily, none⟩]

theorem attempt_onB : paired.attempt (.create .onB) = .ok { paired with conditions := [.onB] } :=
  createCondition_of_allow rfl (by decide +kernel)

theorem asked_eq : asked = { paired with conditions := [.onB] } :=
  after_of_attempt attempt_onB

theorem crossed_eq : crossed = { paired with conditions := [.onB, .onRoutine "b" "B" "A"] } := by
  have accepted : asked.attempt (.create (.onRoutine "b" "B" "A")) =
      .ok { paired with conditions := [.onB, .onRoutine "b" "B" "A"] } := by
    rw [asked_eq]
    exact createCondition_of_allow rfl (by decide +kernel)
  exact after_of_attempt accepted

theorem crossed_conditions : crossed.conditions = [.onB, .onRoutine "b" "B" "A"] := by
  rw [crossed_eq]

/-- A condition that does not control its routine can become one that would not be accepted any
more: that of A asks for B, which depends on A by now. -/
theorem not_forall_updateCondition :
    ¬ ∀ (s : Store Exact) (ws : List Write), s.Distinct → s.conditions = [] →
      ∀ c ∈ (s.afterAll ws).conditions, (s.afterAll ws).updateCondition c =
        .ok (s.afterAll ws) := by
  intro stays
  have stored : Condition.onB ∈ crossed.conditions := by
    rw [crossed_conditions]
    exact List.mem_cons_self
  have accepted : crossed.updateCondition .onB = .ok crossed :=
    stays empty Write.crossing distinct_empty rfl _ stored
  have rejected : (crossed.updateCondition .onB).isOk = false := by decide +kernel
  rw [accepted] at rejected
  cases rejected

/-- The condition of the task could be written again before B came to depend on A. The condition of
B still can, and an attempt to write that of the task again changes nothing. -/
theorem crossed_updateCondition :
    asked.updateCondition .onB = .ok asked ∧
      crossed.updateCondition (.onRoutine "b" "B" "A") = .ok crossed ∧
        crossed.after (.update .onB) = crossed := by
  refine ⟨?_, ?_, ?_⟩
  · have stored : Condition.onB ∈ asked.conditions := by
      rw [asked_eq]
      exact List.mem_cons_self
    have accepts : (empty : Store Exact).Accepts Write.asking .onB asked [] := by
      rw [asked_eq]
      exact .later (.later (.here rfl attempt_onB))
    obtain ⟨c, held, -, -, -, renewed⟩ :=
      updateCondition_of_run empty distinct_empty rfl Write.asking _ stored
    obtain rfl : Condition.onB = c := held.trans c.held_exact
    exact renewed asked [] accepts fun _ _ _ later => nomatch later
  · have stored : Condition.onRoutine "b" "B" "A" ∈ crossed.conditions := by
      rw [crossed_conditions]
      exact List.mem_cons_of_mem _ List.mem_cons_self
    obtain ⟨c, held, -, controlling, -⟩ :=
      updateCondition_of_run empty distinct_empty rfl Write.crossing _ stored
    obtain rfl : Condition.onRoutine "b" "B" "A" = c := held.trans c.held_exact
    exact controlling rfl
  · have stored : Condition.onB ∈ crossed.conditions := by
      rw [crossed_conditions]
      exact List.mem_cons_self
    obtain ⟨c, held, renews, -⟩ :=
      updateCondition_of_run empty distinct_empty rfl Write.crossing _ stored
    obtain rfl : Condition.onB = c := held.trans c.held_exact
    exact renews.unchanged

end Store
end RoutineVisibility
