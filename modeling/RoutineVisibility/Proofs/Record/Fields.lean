import Mathlib.Data.List.Forall2
import RoutineVisibility.Record.Validate

/-! A record is accepted just as its fields are, each by itself. -/
namespace RoutineVisibility
variable {α : Type} {o o' : List (Text × Json)} {name : String} {f : Json → Verdict α} {v w : Json}
  {a default : α}

theorem Verdict.inside_eq_accept {x : Verdict α} {step : Step} :
    x.inside step = .accept a ↔ x = .accept a := by
  cases x <;> simp [inside]

/-- A list is accepted if each of its items is. -/
theorem Verdict.items_eq_accept {vs : List Json} {as : List α} {n : Nat} :
    items f n vs = .accept as ↔ List.Forall₂ (fun v a => f v = .accept a) vs as := by
  induction vs generalizing n as with
  | nil =>
    rw [items, accept.injEq, List.forall₂_nil_left_iff]
    exact eq_comm
  | cons v vs ih =>
    simp only [items, seq_eq_accept, map_eq_accept, inside_eq_accept, ih]
    constructor
    · rintro ⟨_, rest, ⟨first, accepted, rfl⟩, acceptedRest, rfl⟩
      exact .cons accepted acceptedRest
    · rintro (_ | ⟨accepted, acceptedRest⟩)
      exact ⟨_, _, ⟨_, accepted, rfl⟩, acceptedRest, rfl⟩

theorem Named.name_of_ofName? [Named α] {s : Text} (found : ofName? s = some a) :
    Named.name a = s := by
  simpa using List.find?_some found

theorem Coerce.member_eq_accept [Named α] {s : Text} :
    member (.str s) = .accept a ↔ Named.ofName? s = some a := by
  cases s with
  | plain s => cases found : (Named.ofName? s : Option α) <;> simp [member, found, Verdict.fault]
  | torn t =>
    have unnamed : (Named.ofName? (.torn t) : Option α) = none := List.find?_eq_none.2 (by simp)
    simp [member, unnamed, Verdict.fault]

theorem Coerce.text_eq_accept {v : Json} {s : Text} : Coerce.text v = .accept s ↔ v = .str s := by
  cases v <;> simp [Coerce.text, Verdict.fault]

theorem Coerce.nonemptyText_of_ne_empty {s : String} (some : s ≠ "") :
    nonemptyText (.str s) = .accept s := by
  simp [nonemptyText, some]

theorem requiredField_of_findMember? (found : Json.findMember? o name = some v) :
    requiredField o name f = (f v).inside (.field name) := by
  rw [requiredField, found, Option.elim_some]

theorem defaultField_of_findMember? (found : Json.findMember? o name = some v) :
    defaultField o name f default = (f v).inside (.field name) := by
  rw [defaultField, found, Option.elim_some]

/-- A member that is missing is read as its default. -/
theorem elim_of_getD {x : Option Json} (given : x.getD w = v) (read : Json → α) :
    x.elim (read w) read = read v := by
  rw [← given]
  cases x <;> rfl

/-- A list that may be missing, and is empty then, is accepted if each of its items is. -/
theorem defaultField_list_eq_accept {items : List Json} {as : List α}
    (given : (Json.findMember? o name).getD (.arr []) = .arr items) :
    defaultField o name (Coerce.list f) [] = .accept as ↔
      List.Forall₂ (fun v a => f v = .accept a) items as := by
  have read : (Json.findMember? o name).elim (.accept []) (Coerce.list f) =
      Coerce.list f (.arr items) :=
    elim_of_getD given (Coerce.list f)
  rw [defaultField, Verdict.inside_eq_accept, read]
  exact Verdict.items_eq_accept

theorem defaultField_orNull_eq_accept {a : Option α}
    (given : (Json.findMember? o name).getD .null = v) :
    defaultField o name (Coerce.orNull f) none = .accept a ↔ Coerce.orNull f v = .accept a := by
  have read : (Json.findMember? o name).elim (.accept none) (Coerce.orNull f) = Coerce.orNull f v :=
    elim_of_getD given (Coerce.orNull f)
  rw [defaultField, Verdict.inside_eq_accept, read]

theorem ofObject_eq_accept {read : List (Text × Json) → Verdict α} :
    ofObject read v = .accept a ↔ ∃ o, v = .obj o ∧ read o = .accept a := by
  cases v with
  | obj o => simp [ofObject]
  | null | bool | int | float | str | arr => simp [ofObject, Verdict.fault]

section
open Coerce

/-- A record is accepted if each of its fields is. -/
theorem Person.validate_eq_accept {p : Person Exact} : Person.validate (.obj o) = .accept p ↔
    requiredField o "id" nonemptyText = .accept p.id ∧
      defaultField o "name" text "" = .accept p.name := by
  constructor
  · intro accepted
    simp only [validate, ofObject, Verdict.seq_eq_accept, Verdict.map_eq_accept] at accepted
    obtain ⟨_, _, ⟨_, id, rfl⟩, name, rfl⟩ := accepted
    exact ⟨id, name⟩
  · rintro ⟨id, name⟩
    simp only [validate, ofObject, id, name]
    rfl

theorem Routine.fields_eq_accept {r : Routine Exact} : Routine.fields o = .accept r ↔
    requiredField o "id" nonemptyText = .accept r.id ∧
      defaultField o "name" text "" = .accept r.name ∧
      defaultField o "type" member .regular = .accept r.type ∧
      defaultField o "status" member .active = .accept r.status ∧
      defaultField o "reset_period" member .daily = .accept r.resetPeriod ∧
      defaultField o "reset_day" (orNull integer) none = .accept r.resetDay := by
  constructor
  · intro accepted
    simp only [fields, Verdict.seq_eq_accept, Verdict.map_eq_accept] at accepted
    obtain ⟨_, _, ⟨_, _, ⟨_, _, ⟨_, _, ⟨_, _, ⟨_, id, rfl⟩, name, rfl⟩, type, rfl⟩, status, rfl⟩,
      period, rfl⟩, day, rfl⟩ := accepted
    exact ⟨id, name, type, status, period, day⟩
  · rintro ⟨id, name, type, status, period, day⟩
    simp only [fields, id, name, type, status, period, day]
    rfl

theorem Task.validate_eq_accept {t : Task Exact} : Task.validate (.obj o) = .accept t ↔
    requiredField o "id" nonemptyText = .accept t.id ∧
      requiredField o "routine_id" nonemptyText = .accept t.routineId ∧
      defaultField o "name" text "" = .accept t.name ∧
      defaultField o "type" member .simple = .accept t.type ∧
      defaultField o "status" member .active = .accept t.status ∧
      defaultField o "order" integer 0 = .accept t.order ∧
      defaultField o "condition_id" (orNull text) none = .accept t.conditionId := by
  constructor
  · intro accepted
    simp only [validate, ofObject, Verdict.seq_eq_accept, Verdict.map_eq_accept] at accepted
    obtain ⟨_, _, ⟨_, _, ⟨_, _, ⟨_, _, ⟨_, _, ⟨_, _, ⟨_, id, rfl⟩, routine, rfl⟩, name, rfl⟩,
      type, rfl⟩, status, rfl⟩, order, rfl⟩, condition, rfl⟩ := accepted
    exact ⟨id, routine, name, type, status, order, condition⟩
  · rintro ⟨id, routine, name, type, status, order, condition⟩
    simp only [validate, ofObject, id, routine, name, type, status, order, condition]
    rfl

theorem Completion.validate_eq_accept {localOffset : Int} {c : Completion Exact} :
    Completion.validate localOffset (.obj o) = .accept c ↔
    requiredField o "id" nonemptyText = .accept c.id ∧
      requiredField o "task_id" text = .accept c.taskId ∧
      requiredField o "person_id" text = .accept c.personId ∧
      requiredField o "completed_at" (moment localOffset) = .accept c.completedAt ∧
      defaultField o "value" (orNull float) none = .accept c.value := by
  constructor
  · intro accepted
    simp only [validate, ofObject, Verdict.seq_eq_accept, Verdict.map_eq_accept] at accepted
    obtain ⟨_, _, ⟨_, _, ⟨_, _, ⟨_, _, ⟨_, id, rfl⟩, task, rfl⟩, person, rfl⟩, moment, rfl⟩,
      value, rfl⟩ := accepted
    exact ⟨id, task, person, moment, value⟩
  · rintro ⟨id, task, person, moment, value⟩
    simp only [validate, ofObject, id, task, person, moment, value]
    rfl

theorem Check.fields_eq_accept {c : Check Exact} : Check.fields o = .accept c ↔
    requiredField o "id" nonemptyText = .accept c.id ∧
      requiredField o "operator" Coerce.operator = .accept c.operator ∧
      defaultField o "negate" bool false = .accept c.negate ∧
      defaultField o "value" (orNull text) none = .accept c.value ∧
      defaultField o "value2" (orNull text) none = .accept c.value2 ∧
      defaultField o "target_task_id" (orNull text) none = .accept c.targetTaskId ∧
      defaultField o "target_routine_id" (orNull text) none = .accept c.targetRoutineId ∧
      defaultField o "target_goal_id" (orNull text) none = .accept c.targetGoalId ∧
      defaultField o "time_operator" (orNull member) none = .accept c.timeOperator ∧
      defaultField o "time_value" (orNull text) none = .accept c.timeValue ∧
      defaultField o "day_of_week" (list integer) [] = .accept c.dayOfWeek := by
  constructor
  · intro accepted
    simp only [fields, Verdict.seq_eq_accept, Verdict.map_eq_accept] at accepted
    obtain ⟨_, _, ⟨_, _, ⟨_, _, ⟨_, _, ⟨_, _, ⟨_, _, ⟨_, _, ⟨_, _, ⟨_, _, ⟨_, _, ⟨_, id, rfl⟩,
      operator, rfl⟩, negate, rfl⟩, value, rfl⟩, value2, rfl⟩, task, rfl⟩, routine, rfl⟩,
      goal, rfl⟩, timeOperator, rfl⟩, timeValue, rfl⟩, days, rfl⟩ := accepted
    exact ⟨id, operator, negate, value, value2, task, routine, goal, timeOperator, timeValue, days⟩
  · rintro ⟨id, operator, negate, value, value2, task, routine, goal, timeOperator, timeValue, days⟩
    simp only [fields, id, operator, negate, value, value2, task, routine, goal, timeOperator,
      timeValue, days]
    rfl

theorem Condition.fields_eq_accept {c : Condition Exact} : Condition.fields o = .accept c ↔
    requiredField o "id" nonemptyText = .accept c.id ∧
      requiredField o "routine_id" nonemptyText = .accept c.routineId ∧
      defaultField o "controls_routine" bool false = .accept c.controlsRoutine ∧
      defaultField o "logic" member .and = .accept c.logic ∧
      defaultField o "checks" (list Check.validate) [] = .accept c.checks := by
  constructor
  · intro accepted
    simp only [fields, Verdict.seq_eq_accept, Verdict.map_eq_accept] at accepted
    obtain ⟨_, _, ⟨_, _, ⟨_, _, ⟨_, _, ⟨_, id, rfl⟩, routine, rfl⟩, controls, rfl⟩, logic, rfl⟩,
      checks, rfl⟩ := accepted
    exact ⟨id, routine, controls, logic, checks⟩
  · rintro ⟨id, routine, controls, logic, checks⟩
    simp only [fields, id, routine, controls, logic, checks]
    rfl

end

end RoutineVisibility
