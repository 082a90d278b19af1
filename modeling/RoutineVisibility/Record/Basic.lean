import RoutineVisibility.Record.Field
import RoutineVisibility.Record.Operator
import RoutineVisibility.Reset.Schedule

/-! The records: persons, routines, tasks, completions, progress of goals, and conditions made of
checks. -/
namespace RoutineVisibility

inductive Logic where
  | and
  | or
deriving DecidableEq, Repr

instance : Named Logic where
  all := [.and, .or]
  name
    | .and => "AND"
    | .or => "OR"

inductive TimeOperator where
  | before
  | after
  | between
deriving DecidableEq, Repr

instance : Named TimeOperator where
  all := [.before, .after, .between]
  name
    | .before => "BEFORE"
    | .after => "AFTER"
    | .between => "BETWEEN"

inductive TaskType where
  | simple
  | multipleCheckin
  | progress
  /-- Shown only while its condition is met. -/
  | smart
deriving DecidableEq, Repr

instance : Named TaskType where
  all := [.simple, .multipleCheckin, .progress, .smart]
  name
    | .simple => "SIMPLE"
    | .multipleCheckin => "MULTIPLE_CHECKIN"
    | .progress => "PROGRESS"
    | .smart => "SMART"

inductive Status where
  | active
  | archived
deriving DecidableEq, Repr

instance : Named Status where
  all := [.active, .archived]
  name
    | .active => "ACTIVE"
    | .archived => "ARCHIVED"

inductive RoutineType where
  | regular
  /-- Shown only while the conditions that control it are met. -/
  | smart
  | teacherClassroom
deriving DecidableEq, Repr

instance : Named RoutineType where
  all := [.regular, .smart, .teacherClassroom]
  name
    | .regular => "REGULAR"
    | .smart => "SMART"
    | .teacherClassroom => "TEACHER_CLASSROOM"

instance : Named ResetPeriod where
  all := ResetPeriod.all
  name := ResetPeriod.name

structure Person (F : Type → Type) where
  id : F Text
  name : F Text

structure Routine (F : Type → Type) where
  id : F Text
  name : F Text
  type : F RoutineType
  status : F Status
  resetPeriod : F ResetPeriod
  resetDay : F (Option Int)

structure Task (F : Type → Type) where
  id : F Text
  routineId : F Text
  name : F Text
  type : F TaskType
  status : F Status
  order : F Int
  conditionId : F (Option Text)

structure Completion (F : Type → Type) where
  id : F Text
  taskId : F Text
  personId : F Text
  completedAt : F Moment
  value : F (Option Float)

structure GoalProgress (F : Type → Type) where
  goalId : F Text
  achieved : F Bool
  percentage : F Float

structure Check (F : Type → Type) where
  id : F Text
  operator : F Operator
  negate : F Bool
  value : F (Option Text)
  value2 : F (Option Text)
  targetTaskId : F (Option Text)
  targetRoutineId : F (Option Text)
  targetGoalId : F (Option Text)
  timeOperator : F (Option TimeOperator)
  timeValue : F (Option Text)
  /-- Days of the week, 0 for Sunday. -/
  dayOfWeek : F (List Int)

structure Condition (F : Type → Type) where
  id : F Text
  routineId : F Text
  controlsRoutine : F Bool
  logic : F Logic
  checks : List (Check F)

/-- What an evaluation takes for the present; what is missing comes from the wall clock. -/
structure Context where
  currentTime : Option Moment := none
  /-- The day of the week, 0 for Sunday. -/
  dayOfWeek : Option (Fin 7) := none
deriving DecidableEq, Repr

def Check.target {F : Type → Type} (c : Check F) : Target → F (Option Text)
  | .task => c.targetTaskId
  | .routine => c.targetRoutineId
  | .goal => c.targetGoalId

namespace Condition
variable {F : Type → Type} [Holding F]

/-- The routines that the checks refer to, in order and as often as they do. -/
def routineTargets (c : Condition F) : List Text :=
  c.checks.filterMap fun check => (view check.targetRoutineId).value?.join

end Condition

namespace Context

def now (c : Context) (clock : Clock) : Moment :=
  c.currentTime.getD clock.now

/-- The present day of the week: the one given, or that of the present moment. -/
def weekday (c : Context) (now : Moment) : Nat :=
  (c.dayOfWeek.map (·.val)).getD now.date.weekday

def frozen (c : Context) (clock : Clock) : Context :=
  { c with currentTime := some (c.now clock) }

end Context
end RoutineVisibility
