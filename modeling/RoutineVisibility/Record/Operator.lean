import RoutineVisibility.Record.Named

/-! What a check tests, and what it refers to. -/
namespace RoutineVisibility

inductive Comparison where
  | equals
  | greater
  | less
deriving DecidableEq, Repr

inductive Category where
  | task
  | routine
  | goal
  | time
  | day
  | date
deriving DecidableEq, Repr

instance : Named Category where
  all := [.task, .routine, .goal, .time, .day, .date]
  name
    | .task => "TASK"
    | .routine => "ROUTINE"
    | .goal => "GOAL"
    | .time => "TIME"
    | .day => "DAY"
    | .date => "DATE"

inductive Target where
  | task
  | routine
  | goal
deriving DecidableEq, Repr

def Target.all : List Target := [.task, .routine, .goal]

def Target.fieldName : Target → String
  | .task => "target_task_id"
  | .routine => "target_routine_id"
  | .goal => "target_goal_id"

def Category.target? : Category → Option Target
  | .task => some .task
  | .routine => some .routine
  | .goal => some .goal
  | .time => none
  | .day => none
  | .date => none

inductive Operator where
  | taskCompleted
  | taskNotCompleted
  | taskCount (c : Comparison)
  | taskValue (c : Comparison)
  | routinePercent (c : Comparison)
  | goalAchieved
  | goalNotAchieved
  | timeOfDay
  | dayOfWeek
  | dateRange
  /-- An operator of a name that is not known; its checks are never met. -/
  | other (name : Text)
deriving DecidableEq, Repr

namespace Operator

def known : List Operator :=
  [.taskCompleted, .taskNotCompleted, .taskCount .equals, .taskCount .greater, .taskCount .less,
    .taskValue .equals, .taskValue .greater, .taskValue .less, .routinePercent .equals,
    .routinePercent .greater, .routinePercent .less, .goalAchieved, .goalNotAchieved, .timeOfDay,
    .dayOfWeek, .dateRange]

def suffix : Comparison → String
  | .equals => "_EQUALS"
  | .greater => "_GT"
  | .less => "_LT"

def name : Operator → Text
  | .taskCompleted => "TASK_COMPLETED"
  | .taskNotCompleted => "TASK_NOT_COMPLETED"
  | .taskCount c => "TASK_COUNT" ++ suffix c
  | .taskValue c => "TASK_VALUE" ++ suffix c
  | .routinePercent c => "ROUTINE_PERCENT" ++ suffix c
  | .goalAchieved => "GOAL_ACHIEVED"
  | .goalNotAchieved => "GOAL_NOT_ACHIEVED"
  | .timeOfDay => "TIME_OF_DAY"
  | .dayOfWeek => "DAY_OF_WEEK"
  | .dateRange => "DATE_RANGE"
  | .other name => name

def ofName (s : Text) : Operator :=
  (known.find? (·.name == s)).getD (.other s)

def category? : Operator → Option Category
  | .taskCompleted | .taskNotCompleted | .taskCount _ | .taskValue _ => some .task
  | .routinePercent _ => some .routine
  | .goalAchieved | .goalNotAchieved => some .goal
  | .timeOfDay => some .time
  | .dayOfWeek => some .day
  | .dateRange => some .date
  | .other _ => none

@[simp] theorem name_ofName (s : Text) : (ofName s).name = s := by
  unfold ofName
  cases h : known.find? (·.name == s) with
  | none => rfl
  | some op => simpa using List.find?_some h

end Operator
end RoutineVisibility
