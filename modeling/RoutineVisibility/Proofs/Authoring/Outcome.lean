import RoutineVisibility.Authoring
import RoutineVisibility.Record.Adopt
import RoutineVisibility.Proofs.Controls.CyclePath
import RoutineVisibility.Proofs.Except
import RoutineVisibility.Proofs.Store.Lookup

/-! The order in which the authoring operations look for a reason to reject a checked condition. -/
namespace RoutineVisibility

theorem Condition.held_exact (c : Condition Exact) : (c.held : Condition Exact) = c := by
  have checks : c.checks.map Check.held = c.checks := List.map_id _
  show { c with checks := c.checks.map Check.held } = c
  rw [checks]

variable {F : Type → Type} [Holding F]

theorem Condition.routineTargets_held (c : Condition Exact) :
    (c.held : Condition F).routineTargets = c.routineTargets := by
  unfold routineTargets held
  rw [List.filterMap_map]
  refine List.filterMap_congr fun check _ => ?_
  show (view (put check.targetRoutineId : F (Option Text))).value?.join = _
  rw [Holding.view_put, view_exact]

namespace Store

variable {s t : Store F} {c : Condition Exact}

theorem closedCycle?_eq_none_iff {source : Text} {targets : List Text} :
    s.closedCycle? source targets = none ↔ ∀ target ∈ targets, ¬ s.Reaches target source := by
  rw [closedCycle?, List.findSome?_eq_none_iff]
  refine forall₂_congr fun target _ => ?_
  rw [Option.map_eq_none_iff, cyclePath?_eq_none_iff]

/-- The checks are looked at first, then the owner, then the routines that the checks refer to. -/
theorem allow_eq (s : Store F) (c : Condition Exact) :
    s.allow c.held =
      if c.checks.isEmpty then .error (.noChecks c.id)
      else
        match Table.find? s.routines (.value c.routineId),
          s.closedCycle? c.routineId c.routineTargets with
        | none, _ => .error (.fault (.notFound .routine c.routineId))
        | some _, some r => .error r
        | some _, none => .ok () := by
  have id : view (c.held : Condition F).id = .value c.id := Holding.view_put _
  have owner : view (c.held : Condition F).routineId = .value c.routineId := Holding.view_put _
  have checks : (c.held : Condition F).checks.isEmpty = c.checks.isEmpty := List.isEmpty_map
  unfold allow
  simp only [id, owner, checks, Condition.routineTargets_held, Field.text_value, require_value]
  split
  · rfl
  · cases Table.find? s.routines (.value c.routineId) with
    | none => rfl
    | some r => cases s.closedCycle? c.routineId c.routineTargets <;> rfl

theorem allow_eq_ok_iff :
    s.allow c.held = .ok () ↔
      c.checks ≠ [] ∧ Table.has s.routines (.value c.routineId) ∧
        ∀ target ∈ c.routineTargets, ¬ s.Reaches target c.routineId := by
  rw [allow_eq, ← closedCycle?_eq_none_iff, Table.has, ← List.isEmpty_eq_false_iff]
  cases c.checks.isEmpty with
  | true => simp
  | false =>
    cases Table.find? s.routines (.value c.routineId) with
    | none => simp
    | some r => cases s.closedCycle? c.routineId c.routineTargets <;> simp

theorem createCondition_eq (s : Store F) (c : Condition Exact) :
    s.createCondition c.held =
      if (Table.find? s.conditions (.value c.id)).isSome then .error (.alreadyExists c.id)
      else (s.allow c.held).map fun _ => s.add (.condition c.held) := by
  have id : view (c.held : Condition F).id = .value c.id := Holding.view_put _
  unfold createCondition
  rw [id]
  show (if (Table.find? s.conditions (.value c.id)).isSome then throw (.alreadyExists c.id)
    else do s.allow c.held; return s.add (.condition c.held)) = _
  split
  · rfl
  · cases s.allow c.held <;> rfl

theorem updateCondition_eq (s : Store F) (c : Condition Exact) :
    s.updateCondition c.held =
      match Table.find? s.conditions (.value c.id) with
      | none => .error (.fault (.notFound .condition c.id))
      | some old =>
        if (view old.routineId).sameKey (.value c.routineId) then
          (s.allow c.held).map fun _ => s.add (.condition c.held)
        else .error (.moved c.id (view old.routineId).text c.routineId) := by
  have id : view (c.held : Condition F).id = .value c.id := Holding.view_put _
  have owner : view (c.held : Condition F).routineId = .value c.routineId := Holding.view_put _
  unfold updateCondition
  simp only [id, owner, Field.text_value, require_value]
  cases Table.find? s.conditions (.value c.id) with
  | none => rfl
  | some old =>
    show (if !(view old.routineId).sameKey (.value c.routineId) then
        throw (.moved c.id (view old.routineId).text c.routineId)
      else do s.allow c.held; return s.add (.condition c.held)) =
      if (view old.routineId).sameKey (.value c.routineId) then _ else _
    cases (view old.routineId).sameKey (.value c.routineId) with
    | false => rfl
    | true => cases s.allow c.held <;> rfl

theorem add_of_createCondition (h : s.createCondition c.held = .ok t) :
    s.allow c.held = .ok () ∧ t = s.add (.condition c.held) := by
  rw [createCondition_eq] at h
  split at h
  · cases h
  · obtain ⟨_, allowed, added⟩ := Except.map_eq_ok_iff.1 h
    exact ⟨allowed, added.symm⟩

theorem add_of_updateCondition (h : s.updateCondition c.held = .ok t) :
    s.allow c.held = .ok () ∧ t = s.add (.condition c.held) := by
  rw [updateCondition_eq] at h
  split at h
  · cases h
  · split at h
    · obtain ⟨_, allowed, added⟩ := Except.map_eq_ok_iff.1 h
      exact ⟨allowed, added.symm⟩
    · cases h

/-- A condition is new under its name when it is created. -/
theorem free_of_createCondition (h : s.createCondition c.held = .ok t) :
    Table.find? s.conditions (.value c.id) = none := by
  rw [createCondition_eq] at h
  split at h
  · cases h
  · next free => exact Option.not_isSome_iff_eq_none.1 free

/-- A condition has been there when it is replaced, with the same routine. -/
theorem stored_of_updateCondition (h : s.updateCondition c.held = .ok t) :
    ∃ old, Table.find? s.conditions (.value c.id) = some old ∧
      view old.routineId = .value c.routineId := by
  rw [updateCondition_eq] at h
  split at h
  · cases h
  · next old stored =>
    split at h
    · next same => exact ⟨old, stored, Field.sameKey_value_iff.1 same⟩
    · cases h

theorem key_held (c : Condition Exact) : Keyed.key (c.held : Condition F) = .value c.id :=
  Holding.view_put _

/-- A condition with a new name comes last. -/
theorem add_condition_of_free (free : Table.find? s.conditions (.value c.id) = none) :
    s.add (.condition c.held) = { s with conditions := s.conditions ++ [c.held] } := by
  show { s with conditions := Table.insert c.held s.conditions } = _
  rw [Table.insert_of_find?_eq_none (key_held c) free]

theorem createCondition_of_allow (free : Table.find? s.conditions (.value c.id) = none)
    (allowed : s.allow c.held = .ok ()) :
    s.createCondition c.held = .ok { s with conditions := s.conditions ++ [c.held] } := by
  rw [createCondition_eq, free, allowed, add_condition_of_free free]
  rfl

theorem erase_of_deleteCondition {name : Text} (h : s.deleteCondition name = .ok t) :
    t = s.eraseCondition (.value name) := by
  unfold deleteCondition at h
  split at h <;> cases h
  rfl

end Store
end RoutineVisibility
