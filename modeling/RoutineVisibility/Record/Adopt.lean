import RoutineVisibility.Record.Dump

/-! Records that are taken over without a check. -/
namespace RoutineVisibility
variable {F : Type → Type} [Holding F]

namespace Adopt

/-- Keeps a value of the right type and takes any other for a stray one. -/
def field? {α : Type} (members : List (Text × Json)) (name : String) (read? : Json → Option α)
    (default : Option α) : Option (F α) :=
  hold? <| match Json.findMember? members name with
    | none => default.elim .absent .value
    | some v => (read? v).elim (.stray v) .value

def text? : Json → Option Text
  | .str s => some s
  | _ => none

def bool? : Json → Option Bool
  | .bool b => some b
  | _ => none

def integer? : Json → Option Int
  | .int n => some n
  | _ => none

def float? : Json → Option Float
  | .float x => some x
  | _ => none

def member? {α : Type} [Named α] : Json → Option α
  | .str s => Named.ofName? s
  | _ => none

def operator? : Json → Option Operator
  | .str s => some (.ofName s)
  | _ => none

def orNull? {α : Type} (read? : Json → Option α) : Json → Option (Option α)
  | .null => some none
  | v => (read? v).map some

def integers? : Json → Option (List Int)
  | .arr vs => vs.mapM integer?
  | _ => none

/-- A time stamp is never a moment by itself. -/
def moment? : Json → Option Moment :=
  fun _ => none

def membersOf : Json → List (Text × Json)
  | .obj members => members
  | _ => []

def itemsOf : Json → List Json
  | .arr vs => vs
  | _ => []

end Adopt
open Adopt

def Person.adopt? (v : Json) : Option (Person F) :=
  let o := membersOf v
  Person.mk <$> field? o "id" text? none <*> field? o "name" text? (some "")

def Routine.adopt? (v : Json) : Option (Routine F) :=
  let o := membersOf v
  Routine.mk <$> field? o "id" text? none <*> field? o "name" text? (some "")
    <*> field? o "type" Adopt.member? (some .regular) <*>
      field? o "status" Adopt.member? (some .active)
    <*> field? o "reset_period" Adopt.member? (some .daily)
    <*> field? o "reset_day" (orNull? integer?) (some none)

def Task.adopt? (v : Json) : Option (Task F) :=
  let o := membersOf v
  Task.mk <$> field? o "id" text? none <*> field? o "routine_id" text? none <*>
    field? o "name" text? (some "")
    <*> field? o "type" Adopt.member? (some .simple) <*>
      field? o "status" Adopt.member? (some .active)
    <*> field? o "order" integer? (some 0) <*> field? o "condition_id" (orNull? text?) (some none)

def Completion.adopt? (v : Json) : Option (Completion F) :=
  let o := membersOf v
  Completion.mk <$> field? o "id" text? none <*> field? o "task_id" text? none
    <*> field? o "person_id" text? none <*> field? o "completed_at" moment? none
    <*> field? o "value" (orNull? float?) (some none)

def GoalProgress.adopt? (v : Json) : Option (GoalProgress F) :=
  let o := membersOf v
  GoalProgress.mk <$> field? o "goal_id" text? none <*> field? o "achieved" bool? (some false)
    <*> field? o "percentage" float? (some 0)

def Check.adopt? (v : Json) : Option (Check F) :=
  let o := membersOf v
  Check.mk <$> field? o "id" text? none <*> field? o "operator" operator? none
    <*> field? o "negate" bool? (some false) <*> field? o "value" (orNull? text?) (some none)
    <*> field? o "value2" (orNull? text?) (some none) <*>
      field? o "target_task_id" (orNull? text?) (some none)
    <*> field? o "target_routine_id" (orNull? text?) (some none)
    <*> field? o "target_goal_id" (orNull? text?) (some none)
    <*> field? o "time_operator" (orNull? Adopt.member?) (some none)
    <*> field? o "time_value" (orNull? text?) (some none) <*>
      field? o "day_of_week" integers? (some [])

def Condition.adopt? (v : Json) : Option (Condition F) :=
  let o := membersOf v
  Condition.mk <$> field? o "id" text? none <*> field? o "routine_id" text? none
    <*> field? o "controls_routine" bool? (some false) <*>
      field? o "logic" Adopt.member? (some .and)
    <*> ((Json.findMember? o "checks").elim [] itemsOf).mapM Check.adopt?

def Person.held (p : Person Exact) : Person F :=
  ⟨put p.id, put p.name⟩

def Routine.held (r : Routine Exact) : Routine F :=
  ⟨put r.id, put r.name, put r.type, put r.status, put r.resetPeriod, put r.resetDay⟩

def Task.held (t : Task Exact) : Task F :=
  ⟨put t.id, put t.routineId, put t.name, put t.type, put t.status, put t.order, put t.conditionId⟩

def Completion.held (c : Completion Exact) : Completion F :=
  ⟨put c.id, put c.taskId, put c.personId, put c.completedAt, put c.value⟩

def GoalProgress.held (g : GoalProgress Exact) : GoalProgress F :=
  ⟨put g.goalId, put g.achieved, put g.percentage⟩

def Check.held (c : Check Exact) : Check F :=
  ⟨put c.id, put c.operator, put c.negate, put c.value, put c.value2, put c.targetTaskId,
    put c.targetRoutineId, put c.targetGoalId, put c.timeOperator, put c.timeValue, put c.dayOfWeek⟩

def Condition.held (c : Condition Exact) : Condition F :=
  ⟨put c.id, put c.routineId, put c.controlsRoutine, put c.logic, c.checks.map Check.held⟩

end RoutineVisibility
