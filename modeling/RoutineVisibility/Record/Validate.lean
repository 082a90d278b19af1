import RoutineVisibility.Record.Coerce

/-! Records from JSON objects: their fields in order, and then the rules of the record. -/
namespace RoutineVisibility
open Coerce

/-- A field that has to be there. -/
def requiredField {α : Type} (members : List (Text × Json)) (name : String) (f : Json → Verdict α) :
    Verdict α :=
  ((Json.findMember? members name).elim (.fault .missing) f).inside (.field name)

/-- A field that has a value where it is missing. -/
def defaultField {α : Type} (members : List (Text × Json)) (name : String) (f : Json → Verdict α)
    (a : α) : Verdict α :=
  ((Json.findMember? members name).elim (.accept a) f).inside (.field name)

def ofObject {α : Type} (f : List (Text × Json) → Verdict α) : Json → Verdict α
  | .obj members => f members
  | _ => .fault .noObject

def Person.validate : Json → Verdict (Person Exact) :=
  ofObject fun o =>
    Person.mk (F := Exact) <$> requiredField o "id" nonemptyText <*> defaultField o "name" text ""

def Routine.fields (o : List (Text × Json)) : Verdict (Routine Exact) :=
  Routine.mk (F := Exact) <$> requiredField o "id" nonemptyText
    <*> defaultField o "name" text ""
    <*> defaultField o "type" member .regular
    <*> defaultField o "status" member .active
    <*> defaultField o "reset_period" member .daily
    <*> defaultField o "reset_day" (orNull integer) none

def Routine.validate : Json → Verdict (Routine Exact) :=
  ofObject fun o => (Routine.fields o).obeying Routine.violation?

def Task.validate : Json → Verdict (Task Exact) :=
  ofObject fun o =>
    Task.mk (F := Exact) <$> requiredField o "id" nonemptyText
      <*> requiredField o "routine_id" nonemptyText
      <*> defaultField o "name" text ""
      <*> defaultField o "type" member .simple
      <*> defaultField o "status" member .active
      <*> defaultField o "order" integer 0
      <*> defaultField o "condition_id" (orNull text) none

/-- Time stamps become local time of a zone. -/
def Completion.validate (localOffset : Int) : Json → Verdict (Completion Exact) :=
  ofObject fun o =>
    Completion.mk (F := Exact) <$> requiredField o "id" nonemptyText
      <*> requiredField o "task_id" text
      <*> requiredField o "person_id" text
      <*> requiredField o "completed_at" (moment localOffset)
      <*> defaultField o "value" (orNull float) none

def GoalProgress.validate : Json → Verdict (GoalProgress Exact) :=
  ofObject fun o =>
    GoalProgress.mk (F := Exact) <$> requiredField o "goal_id" text
      <*> defaultField o "achieved" bool false
      <*> defaultField o "percentage" float 0

def Check.fields (o : List (Text × Json)) : Verdict (Check Exact) :=
  Check.mk (F := Exact) <$> requiredField o "id" nonemptyText
    <*> requiredField o "operator" Coerce.operator
    <*> defaultField o "negate" bool false
    <*> defaultField o "value" (orNull text) none
    <*> defaultField o "value2" (orNull text) none
    <*> defaultField o "target_task_id" (orNull text) none
    <*> defaultField o "target_routine_id" (orNull text) none
    <*> defaultField o "target_goal_id" (orNull text) none
    <*> defaultField o "time_operator" (orNull member) none
    <*> defaultField o "time_value" (orNull text) none
    <*> defaultField o "day_of_week" (list integer) []

def Check.validate : Json → Verdict (Check Exact) :=
  ofObject fun o => (Check.fields o).obeying Check.violation?

def Condition.fields (o : List (Text × Json)) : Verdict (Condition Exact) :=
  Condition.mk (F := Exact) <$> requiredField o "id" nonemptyText
    <*> requiredField o "routine_id" nonemptyText
    <*> defaultField o "controls_routine" bool false
    <*> defaultField o "logic" member .and
    <*> defaultField o "checks" (list Check.validate) []

def Condition.validate : Json → Verdict (Condition Exact) :=
  ofObject fun o => (Condition.fields o).obeying Condition.violation?

/-- Time stamps become local time of a zone. -/
def Context.validate (localOffset : Int) : Json → Verdict Context :=
  ofObject fun o =>
    Context.mk <$> defaultField o "current_time" (orNull (moment localOffset)) none
      <*> defaultField o "day_of_week" (orNull Coerce.weekday) none

end RoutineVisibility
