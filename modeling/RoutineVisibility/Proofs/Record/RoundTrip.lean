import RoutineVisibility.Proofs.Calendar.Written
import RoutineVisibility.Proofs.Record.Fields
import RoutineVisibility.Record.Dump

/-! Accepted records are accepted as themselves when they are written out. -/
namespace RoutineVisibility

def Restores {α : Type} (read : Json → Verdict α) (write : α → Json) : Prop :=
  ∀ v a, read v = .accept a → read (write a) = .accept a

variable {α : Type} {read : Json → Verdict α} {write : α → Json} {a : α}

namespace Coerce

theorem restores_text : Restores text .str :=
  fun _ _ _ => rfl

theorem restores_nonemptyText : Restores nonemptyText .str := by
  intro v s accepted
  cases v with
  | str t =>
    cases t with
    | plain t =>
      by_cases empty : t.isEmpty
      · simp [nonemptyText, empty, Verdict.fault] at accepted
      · have same : .plain t = s := by simpa [nonemptyText, empty] using accepted
        rw [← same]
        simp [nonemptyText, empty]
    | torn t => cases accepted
  | null | bool | int | float | arr | obj => cases accepted

theorem restores_bool : Restores bool .bool :=
  fun _ _ _ => rfl

theorem restores_integer : Restores integer .int :=
  fun _ _ _ => rfl

theorem restores_member [Named α] : Restores (member : Json → Verdict α) .ofName := by
  intro v a accepted
  cases v with
  | str s =>
    have found : Named.ofName? s = some a := member_eq_accept.1 accepted
    rw [Json.ofName, Named.name_of_ofName? found, member_eq_accept]
    exact found
  | null | bool | int | float | arr | obj => cases accepted

theorem restores_operator : Restores operator (fun op => .str op.name) := by
  intro v op accepted
  cases v with
  | str s =>
    have same : Operator.ofName s = op := by simpa [operator] using accepted
    rw [← same, operator, Operator.name_ofName]
  | null | bool | int | float | arr | obj => cases accepted

theorem orNull_of_ne_null {v : Json} (some : v ≠ .null) :
    orNull read v = Option.some <$> read v := by
  cases v with
  | null => exact absurd rfl some
  | bool | int | float | str | arr | obj => rfl

theorem restores_orNull (restores : Restores read write) (some : ∀ a, write a ≠ .null) :
    Restores (orNull read) (.orNull write) := by
  intro v a accepted
  cases a with
  | none => rfl
  | some a =>
    have given : v ≠ .null := by
      rintro rfl
      cases accepted
    rw [orNull_of_ne_null given, Verdict.map_eq_accept] at accepted
    obtain ⟨b, accepted, same⟩ := accepted
    cases same
    show orNull read (write a) = _
    rw [orNull_of_ne_null (some a), restores v a accepted, Verdict.map_accept]

theorem restores_list (restores : Restores read write) :
    Restores (list read) (fun as => .arr (as.map write)) := by
  intro v as accepted
  cases v with
  | arr vs =>
    have items : List.Forall₂ (fun v a => read v = .accept a) vs as :=
      Verdict.items_eq_accept.1 accepted
    apply Verdict.items_eq_accept.2
    rw [List.forall₂_map_left_iff]
    clear accepted
    induction items with
    | nil => exact .nil
    | cons first _ ih => exact .cons (restores _ _ first) ih
  | null | bool | int | float | str | obj => cases accepted

theorem restores_moment (localOffset : Int) : Restores (moment localOffset) .ofMoment := by
  intro _ m _
  have written : Stamp.ofText m.text = .ok ⟨m, none⟩ := Stamp.ofText_text m
  simp only [Json.ofMoment, moment, stamp, written, Verdict.andThen, Stamp.toLocal?_naive]

end Coerce

section
variable {o o' : List (Text × Json)} {name : String} {default : α}

theorem requiredField_restores (restores : Restores read write)
    (accepted : requiredField o name read = .accept a)
    (written : Json.findMember? o' name = some (write a)) :
    requiredField o' name read = .accept a := by
  rw [requiredField, Verdict.inside_eq_accept] at accepted
  cases found : Json.findMember? o name with
  | none =>
    rw [found] at accepted
    cases accepted
  | some v =>
    rw [found] at accepted
    rw [requiredField_of_findMember? written, restores v a accepted]
    rfl

theorem defaultField_restores (restores : Restores read write)
    (ofDefault : read (write default) = .accept default)
    (accepted : defaultField o name read default = .accept a)
    (written : Json.findMember? o' name = some (write a)) :
    defaultField o' name read default = .accept a := by
  have again : read (write a) = .accept a := by
    rw [defaultField, Verdict.inside_eq_accept] at accepted
    cases found : Json.findMember? o name with
    | none =>
      rw [found] at accepted
      cases accepted
      exact ofDefault
    | some v =>
      rw [found] at accepted
      exact restores v a accepted
  rw [defaultField_of_findMember? written, again]
  rfl

end

open Coerce

theorem restores_optionalText : Restores (orNull text) .ofOptional :=
  restores_orNull restores_text nofun

theorem Person.restores : Restores Person.validate Person.toJson := by
  intro v p accepted
  obtain ⟨o, rfl, -⟩ := ofObject_eq_accept.1 accepted
  obtain ⟨id, name⟩ := Person.validate_eq_accept.1 accepted
  apply Person.validate_eq_accept.2
  constructor
  · exact requiredField_restores restores_nonemptyText id rfl
  · exact defaultField_restores restores_text rfl name rfl

theorem Routine.restores : Restores Routine.validate Routine.toJson := by
  intro v r accepted
  obtain ⟨o, rfl, accepted⟩ := ofObject_eq_accept.1 accepted
  obtain ⟨accepted, kept⟩ := Verdict.obeying_eq_accept.1 accepted
  obtain ⟨id, name, type, status, period, day⟩ := Routine.fields_eq_accept.1 accepted
  apply Verdict.obeying_eq_accept.2
  refine ⟨Routine.fields_eq_accept.2 ⟨?_, ?_, ?_, ?_, ?_, ?_⟩, kept⟩
  · exact requiredField_restores restores_nonemptyText id rfl
  · exact defaultField_restores restores_text rfl name rfl
  · exact defaultField_restores restores_member rfl type rfl
  · exact defaultField_restores restores_member rfl status rfl
  · exact defaultField_restores restores_member rfl period rfl
  · exact defaultField_restores (restores_orNull restores_integer nofun) rfl day rfl

theorem Task.restores : Restores Task.validate Task.toJson := by
  intro v t accepted
  obtain ⟨o, rfl, -⟩ := ofObject_eq_accept.1 accepted
  obtain ⟨id, routine, name, type, status, order, condition⟩ := Task.validate_eq_accept.1 accepted
  apply Task.validate_eq_accept.2
  refine ⟨?_, ?_, ?_, ?_, ?_, ?_, ?_⟩
  · exact requiredField_restores restores_nonemptyText id rfl
  · exact requiredField_restores restores_nonemptyText routine rfl
  · exact defaultField_restores restores_text rfl name rfl
  · exact defaultField_restores restores_member rfl type rfl
  · exact defaultField_restores restores_member rfl status rfl
  · exact defaultField_restores restores_integer rfl order rfl
  · exact defaultField_restores restores_optionalText rfl condition rfl

theorem Check.restores : Restores Check.validate Check.toJson := by
  intro v c accepted
  obtain ⟨o, rfl, accepted⟩ := ofObject_eq_accept.1 accepted
  obtain ⟨accepted, kept⟩ := Verdict.obeying_eq_accept.1 accepted
  obtain ⟨id, operator, negate, value, value2, task, routine, goal, timeOperator,
      timeValue, days⟩ :=
    Check.fields_eq_accept.1 accepted
  apply Verdict.obeying_eq_accept.2
  refine ⟨Check.fields_eq_accept.2 ⟨?_, ?_, ?_, ?_, ?_, ?_, ?_, ?_, ?_, ?_, ?_⟩, kept⟩
  · exact requiredField_restores restores_nonemptyText id rfl
  · exact requiredField_restores restores_operator operator rfl
  · exact defaultField_restores restores_bool rfl negate rfl
  · exact defaultField_restores restores_optionalText rfl value rfl
  · exact defaultField_restores restores_optionalText rfl value2 rfl
  · exact defaultField_restores restores_optionalText rfl task rfl
  · exact defaultField_restores restores_optionalText rfl routine rfl
  · exact defaultField_restores restores_optionalText rfl goal rfl
  · exact defaultField_restores (restores_orNull restores_member nofun) rfl timeOperator rfl
  · exact defaultField_restores restores_optionalText rfl timeValue rfl
  · exact defaultField_restores (restores_list restores_integer) rfl days rfl

theorem Condition.restores : Restores Condition.validate Condition.toJson := by
  intro v c accepted
  obtain ⟨o, rfl, accepted⟩ := ofObject_eq_accept.1 accepted
  obtain ⟨accepted, kept⟩ := Verdict.obeying_eq_accept.1 accepted
  obtain ⟨id, routine, controls, logic, checks⟩ := Condition.fields_eq_accept.1 accepted
  apply Verdict.obeying_eq_accept.2
  refine ⟨Condition.fields_eq_accept.2 ⟨?_, ?_, ?_, ?_, ?_⟩, kept⟩
  · exact requiredField_restores restores_nonemptyText id rfl
  · exact requiredField_restores restores_nonemptyText routine rfl
  · exact defaultField_restores restores_bool rfl controls rfl
  · exact defaultField_restores restores_member rfl logic rfl
  · exact defaultField_restores (restores_list Check.restores) rfl checks rfl

theorem Completion.restored {localOffset : Int} {v : Json} {c : Completion Exact}
    (accepted : Completion.validate localOffset v = .accept c) (noValue : c.value = none) :
    Completion.validate localOffset c.toJson = .accept c := by
  obtain ⟨o, rfl, -⟩ := ofObject_eq_accept.1 accepted
  obtain ⟨id, task, person, moment, -⟩ := Completion.validate_eq_accept.1 accepted
  apply Completion.validate_eq_accept.2
  refine ⟨?_, ?_, ?_, ?_, ?_⟩
  · exact requiredField_restores restores_nonemptyText id rfl
  · exact requiredField_restores restores_text task rfl
  · exact requiredField_restores restores_text person rfl
  · exact requiredField_restores (restores_moment localOffset) moment rfl
  · have null : orNull float (.orNull .float c.value) = .accept c.value := by
      rw [noValue]
      rfl
    refine (defaultField_of_findMember? (v := .orNull .float c.value) rfl).trans ?_
    rw [null]
    rfl

/-- Every accepted record is accepted as itself when it is written out. -/
theorem validate_toJson (localOffset : Int) :
    Restores Person.validate Person.toJson ∧ Restores Routine.validate Routine.toJson ∧
      Restores Task.validate Task.toJson ∧ Restores Condition.validate Condition.toJson ∧
      ∀ (v : Json) (c : Completion Exact), Completion.validate localOffset v = .accept c →
        c.value = none → Completion.validate localOffset c.toJson = .accept c :=
  ⟨Person.restores, Routine.restores, Task.restores, Condition.restores,
    fun _ _ => Completion.restored⟩

/-- What was read leniently is written strictly: a day as a number, a moment as local time. -/
theorem validate_toJson_lenient :
    let routine : Routine Exact := ⟨"R", "", .regular, .active, .weekly, some 6⟩
    let condition : Condition Exact := ⟨"c", "R", true, .and,
      [⟨"1", .timeOfDay, false, none, some "12:00", none, none, none, some .between, some "7:30",
          []⟩,
        ⟨"2", .other "MOON_PHASE", false, none, none, none, none, none, none, none, [9]⟩]⟩
    let completion : Completion Exact :=
      ⟨"1", "T", "P", ⟨⟨739685, by decide⟩, 32400250000, by decide⟩, none⟩
    Routine.validate routine.toJson = .accept routine ∧
      Condition.validate condition.toJson = .accept condition ∧
      Completion.validate 60 completion.toJson = .accept completion := by
  intro routine condition completion
  have acceptedRoutine : Routine.validate (.obj [("id", .str "R"), ("reset_period", .str "WEEKLY"),
      ("reset_day", .str " 6 ")]) = .accept routine := rfl
  have acceptedCondition : Condition.validate (.obj [("id", .str "c"), ("routine_id", .str "R"),
      ("controls_routine", .int 1), ("checks", .arr [
        .obj [("id", .str "1"), ("operator", .str "TIME_OF_DAY"), ("time_operator", .str "BETWEEN"),
          ("time_value", .str "7:30"), ("value2", .str "12:00")],
        .obj [("id", .str "2"), ("operator", .str "MOON_PHASE"),
          ("day_of_week", .arr [.int 9])]])]) =
      .accept condition := rfl
  have acceptedCompletion : Completion.validate 60 (.obj [("id", .str "1"), ("task_id", .str "T"),
      ("person_id", .str "P"), ("completed_at", .str "2026-03-11T08:00:00.25Z")]) =
        .accept completion := rfl
  obtain ⟨-, routines, -, conditions, completions⟩ := validate_toJson 60
  exact ⟨routines _ _ acceptedRoutine, conditions _ _ acceptedCondition,
    completions _ _ acceptedCompletion rfl⟩

end RoutineVisibility
