import RoutineVisibility.Proofs.Authoring.Acyclic
import RoutineVisibility.Proofs.Store.Distinct

/-! A condition is replaced as if the old one had been deleted first. -/
namespace RoutineVisibility.Store
variable {F : Type → Type} [Holding F]

theorem Distinct.after {s : Store F} (distinct : s.Distinct) (w : Write) :
    (s.after w).Distinct := by
  unfold Store.after
  split
  · next t accepted =>
    cases w with
    | create c =>
      obtain ⟨-, rfl⟩ := add_of_createCondition accepted
      exact distinct.add _
    | update c =>
      obtain ⟨-, rfl⟩ := add_of_updateCondition accepted
      exact distinct.add _
    | delete condition =>
      obtain rfl := erase_of_deleteCondition accepted
      exact distinct.eraseCondition _
    | person | routine | task | completion | goal =>
      cases accepted
      exact distinct.add _
  · exact distinct

/-- Writers keep the names of a store distinct. -/
theorem Distinct.afterAll {s : Store F} (distinct : s.Distinct) (ws : List Write) :
    (s.afterAll ws).Distinct := by
  induction ws generalizing s with
  | nil => exact distinct
  | cons w ws ih => exact ih (distinct.after w)

/-- Two calls end alike: both are rejected for one and the same reason, or the stores after them
differ in the order of the conditions at most. -/
inductive EndAlike : Except Rejection (Store F) → Except Rejection (Store F) → Prop where
  | rejected (r : Rejection) : EndAlike (.error r) (.error r)
  | accepted {s t : Store F} (conditions : s.conditions.Perm t.conditions)
    (others : { s with conditions := [] } = { t with conditions := [] }) : EndAlike (.ok s) (.ok t)

variable {s t : Store F} {old : Condition F} {c : Condition Exact}

/-- Without a condition, the edges that leave other routines than its owner stay. -/
theorem controlTargets_eraseCondition (distinct : s.Distinct) (stored : old ∈ s.conditions)
    {name owner : Text} (named : view old.id = .value name)
    (owned : view old.routineId = .value owner) {r : Text} (other : r ≠ owner) :
    (s.eraseCondition (.value name)).controlTargets r = s.controlTargets r := by
  unfold controlTargets
  rw [routineConditions_eraseCondition]
  intro d mem same
  -- It would be the condition itself, which does not belong to the other routine.
  obtain ⟨listed, controls⟩ := List.mem_filter.1 mem
  obtain rfl : d = old :=
    distinct.conditions.eq listed stored (Field.sameKey_value_iff.1 same) named
  have owns : (view d.routineId).sameKey (.value r) = true := (Bool.and_eq_true_iff.1 controls).1
  rw [owned, Field.sameKey_value, beq_iff_eq] at owns
  exact other owns.symm

theorem closedCycle?_congr {source : Text} (routines : t.routines = s.routines)
    (same : ∀ r ≠ source, t.controlTargets r = s.controlTargets r) (targets : List Text) :
    t.closedCycle? source targets = s.closedCycle? source targets := by
  have names : t.displayName = s.displayName := by
    funext r
    unfold displayName
    rw [routines]
  unfold closedCycle? describePath
  simp only [cyclePath?_congr same, names]

/-- A condition is judged by the edges of other routines than its owner. -/
theorem allow_congr (routines : t.routines = s.routines)
    (same : ∀ r ≠ c.routineId, t.controlTargets r = s.controlTargets r) :
    t.allow c.held = s.allow c.held := by
  rw [allow_eq, allow_eq, routines, closedCycle?_congr routines same]

omit [Holding F] in
theorem endAlike_map {x : Except Rejection Unit} (conditions : s.conditions.Perm t.conditions)
    (others : { s with conditions := [] } = { t with conditions := [] }) :
    EndAlike (x.map fun _ => s) (x.map fun _ => t) := by
  cases x with
  | error r => exact .rejected r
  | ok => exact .accepted conditions others

/-- A condition that stays with its routine is replaced as if the old one had been deleted and it
were new. -/
theorem updateCondition_endAlike (s : Store F) (distinct : s.Distinct) (old : Condition F)
    (c : Condition Exact) (stored : old ∈ s.conditions) (named : view old.id = .value c.id)
    (owned : view old.routineId = .value c.routineId) :
    ∃ t, s.deleteCondition c.id = .ok t ∧
      EndAlike (s.updateCondition c.held) (t.createCondition c.held) := by
  have found : Table.find? s.conditions (.value c.id) = some old :=
    distinct.conditions.find? stored named
  have erased : Table.find? (s.eraseCondition (.value c.id)).conditions (.value c.id) = none :=
    Table.find?_erase _ _
  refine ⟨s.eraseCondition (.value c.id), ?_, ?_⟩
  · unfold deleteCondition
    rw [Table.has, found]
    rfl
  · rw [updateCondition_eq, found, createCondition_eq, erased]
    simp only [Field.sameKey_value_iff.2 owned, if_true, Option.isSome_none,
      Bool.false_eq_true, if_false]
    have allowed : (s.eraseCondition (.value c.id)).allow c.held = s.allow c.held :=
      allow_congr rfl fun r other => controlTargets_eraseCondition distinct stored named owned other
    rw [allowed]
    refine endAlike_map ?_ rfl
    have inPlace := Table.insert_perm (a := c.held) distinct.conditions (Holding.view_put c.id)
    have atEnd := Table.insert_perm (a := c.held) (distinct.eraseCondition (.value c.id)).conditions
      (Holding.view_put c.id)
    refine inPlace.trans (.trans ?_ atEnd.symm)
    unfold eraseCondition
    rw [Table.erase_erase]

/-- In the ring, the condition of B that goes on to C is refused again, and one that goes to A alone
is not. -/
theorem ring_updateCondition_endAlike :
    let s : Store Exact := ring.add (.routine ⟨"B", "", .smart, .active, .daily, none⟩)
    let again : Condition Exact := .onRoutine "b" "B" "C"
    let away : Condition Exact := .onRoutine "b" "B" "A"
    (∃ t, s.deleteCondition "b" = .ok t ∧
      EndAlike (s.updateCondition again.held) (t.createCondition again.held)) ∧
      (match s.updateCondition again.held with
        | .error r => some r
        | .ok _ => none) = some (.cycle "B" "C" ["B", "C", "B"] "B → C → B") ∧
      (∃ t, s.deleteCondition "b" = .ok t ∧
        EndAlike (s.updateCondition away.held) (t.createCondition away.held)) ∧
      (s.updateCondition away.held).isOk := by
  intro s again away
  have distinct : s.Distinct := by decide +kernel
  refine ⟨?_, by decide +kernel, ?_, by decide +kernel⟩
  · exact updateCondition_endAlike s distinct _ again List.mem_cons_self rfl rfl
  · exact updateCondition_endAlike s distinct _ away List.mem_cons_self rfl rfl

end RoutineVisibility.Store
