import RoutineVisibility.Record.Validate

/-! Records as JSON objects, with every field written out. -/
namespace RoutineVisibility
variable {F : Type → Type} [Holding F]

def member? {α : Type} (name : Text) (enc : α → Json) (x : F α) : Option (Text × Json) :=
  match view x with
  | .value a => some (name, enc a)
  | .stray v => some (name, v)
  | .absent => none

def Json.ofName {α : Type} [Named α] (a : α) : Json :=
  .str (Named.name a)

def Json.ofMoment (m : Moment) : Json :=
  .str m.text

def Json.ofInts (ns : List Int) : Json :=
  .arr (ns.map .int)

def Json.orNull {α : Type} (enc : α → Json) (a : Option α) : Json :=
  a.elim .null enc

def Json.ofMembers (members : List (Option (Text × Json))) : Json :=
  .obj (members.filterMap id)

def Person.toJson (p : Person F) : Json :=
  .ofMembers [member? "id" .str p.id, member? "name" .str p.name]

def Routine.toJson (r : Routine F) : Json :=
  .ofMembers [member? "id" .str r.id, member? "name" .str r.name, member? "type" .ofName r.type,
    member? "status" .ofName r.status, member? "reset_period" .ofName r.resetPeriod,
    member? "reset_day" (.orNull .int) r.resetDay]

def Task.toJson (t : Task F) : Json :=
  .ofMembers [member? "id" .str t.id, member? "routine_id" .str t.routineId,
    member? "name" .str t.name, member? "type" .ofName t.type, member? "status" .ofName t.status,
    member? "order" .int t.order, member? "condition_id" .ofOptional t.conditionId]

def Completion.toJson (c : Completion F) : Json :=
  .ofMembers [member? "id" .str c.id, member? "task_id" .str c.taskId,
    member? "person_id" .str c.personId, member? "completed_at" .ofMoment c.completedAt,
    member? "value" (.orNull .float) c.value]

def GoalProgress.toJson (g : GoalProgress F) : Json :=
  .ofMembers [member? "goal_id" .str g.goalId, member? "achieved" .bool g.achieved,
    member? "percentage" .float g.percentage]

def Check.toJson (c : Check F) : Json :=
  .ofMembers [member? "id" .str c.id,
    member? "operator" (fun op : Operator => .str op.name) c.operator, member? "negate" .bool
      c.negate, member? "value" .ofOptional c.value, member? "value2" .ofOptional c.value2,
    member? "target_task_id" .ofOptional c.targetTaskId,
    member? "target_routine_id" .ofOptional c.targetRoutineId, member? "target_goal_id" .ofOptional
      c.targetGoalId, member? "time_operator" (.orNull .ofName) c.timeOperator,
    member? "time_value" .ofOptional c.timeValue, member? "day_of_week" .ofInts c.dayOfWeek]

def Condition.toJson (c : Condition F) : Json :=
  .ofMembers [member? "id" .str c.id, member? "routine_id" .str c.routineId,
    member? "controls_routine" .bool c.controlsRoutine, member? "logic" .ofName c.logic,
    some ("checks", .arr (c.checks.map Check.toJson))]

def Context.toJson (c : Context) : Json :=
  .obj [("current_time", .orNull .ofMoment c.currentTime),
    ("day_of_week", .orNull (fun d => .int d.val) c.dayOfWeek)]

def Step.toJson : Step → Json
  | .field name => .str name
  | .item index => .int index
  | .branch type => .str type

/-- A fault with its kind, its place and, for a broken rule, its text. -/
def FieldError.toJson (e : FieldError) : Json :=
  .ofMembers [some ("type", .str e.reason.code), some ("loc", .arr (e.path.map Step.toJson)),
    e.message?.map fun m => ("msg", .str m)]

end RoutineVisibility
