import RoutineVisibility.Evaluation.Operand
import RoutineVisibility.Store.Basic

/-! Answers of checks for a person, before their negation. -/
namespace RoutineVisibility

/-- What evaluations take from their surroundings. -/
structure Setting where
  clock : Clock
  resetTime : TimeOfDay := defaultResetTime
deriving DecidableEq, Repr

variable {F : Type → Type} [Holding F]

namespace Routine

/-- A number that nobody checked as the day of a reset. No month has a 32nd day, so a larger one
needs no integer. -/
def strayDay? (period : ResetPeriod) : Json → Option Int
  | .bool b => some (Json.boolNumber b)
  | .float x => (Coerce.wholeFloat? x).filter fun n => period = .weekly || 31 < n
  | _ => none

/-- The day of a reset, for a schedule that has one. -/
def dayOf (period : ResetPeriod) : Field (Option Int) → Except Fault (Option Int)
  | .value d => .ok d
  | .stray v => (strayDay? period v).elim (.error .strayValue) fun n => .ok (some n)
  | .absent => .error .noField

def schedule (r : Routine F) (time : TimeOfDay) : Except Fault Schedule :=
  let withDay (period : ResetPeriod) : Except Fault Schedule := do
    return ⟨some period, ← dayOf period (view r.resetDay), time⟩
  match (view r.resetPeriod).value? with
  | some .weekly => withDay .weekly
  | some .monthly => withDay .monthly
  | period => .ok ⟨period, (view r.resetDay).value?.join, time⟩

@[simp] theorem schedule_exact (r : Routine Exact) (time : TimeOfDay) :
    r.schedule time = .ok ⟨some r.resetPeriod, r.resetDay, time⟩ := by
  obtain ⟨_, _, _, _, period, _⟩ := r
  cases period <;> rfl

def periodStart (r : Routine F) (time : TimeOfDay) (now : Moment) : Except Fault Moment := do
  ((← r.schedule time).start now).mapError .calendar

end Routine

/-- Completions of a task by a person within a span of time, the latest first. -/
def Store.completionsWithin (s : Store F) (task : Field Text) (person : Text) (since now : Moment) :
    Except Fault (List (Completion F)) := do
  return (← s.completionsSince task person since).filter fun c => Store.momentOf c ≤ now

def Comparison.ofInts : Comparison → Int → Int → Bool
  | .equals, m, n => m == n
  | .greater, m, n => n < m
  | .less, m, n => m < n

def Comparison.ofFloats : Comparison → Float → Float → Bool
  | .equals, x, y => x == y
  | .greater, x, y => y < x
  | .less, x, y => x < y

/-- Percentages within a hundredth of a percentage point are equal. -/
def Comparison.ofPercents : Comparison → Float → Float → Bool
  | .equals, x, y => (x - y).abs < 0.01
  | .greater, x, y => y < x
  | .less, x, y => x < y

def percent (part whole : Nat) : Float :=
  part.toFloat / whole.toFloat * 100

namespace Check

/-- The operand of a check; as a rule it is a text. -/
def operand (c : Check F) : Json :=
  (view c.value).json Json.ofOptional

/-- The completions of the task of a check that count: those by the person in the current period of
the routine of the task, the latest first. -/
def taskCompletions (c : Check F) (s : Store F) (time : TimeOfDay) (person : Text) (now : Moment) :
    Except Fault (List (Completion F)) := do
  let task ← Store.require .task s.tasks (view c.targetTaskId).key
  let routine ← Store.require .routine s.routines (view task.routineId)
  s.completionsWithin (view task.id) person (← routine.periodStart time now) now

def compareCount (c : Check F) (comparison : Comparison) (completions : List (Completion F)) :
    Except Fault Bool := do
  let n ← (Operand.integer c.operand 0).mapError .numeral
  return comparison.ofInts completions.length n

def compareValue (c : Check F) (comparison : Comparison) (completions : List (Completion F)) :
    Except Fault Bool :=
  match completions with
  | [] => .ok false
  | latest :: _ => do
    let x ← (Operand.float ((view latest.value).json (.orNull .float)) 0).mapError .numeral
    let y ← (Operand.float c.operand 0).mapError .numeral
    return comparison.ofFloats x y

/-- The share of the active tasks of a routine that were completed in its current period, compared
with the operand. A routine without active tasks is not done. -/
def comparePercent (c : Check F) (comparison : Comparison) (s : Store F) (time : TimeOfDay)
    (person : Text) (now : Moment) : Except Fault Bool := do
  let routine ← Store.require .routine s.routines (view c.targetRoutineId).key
  let tasks ← s.activeTasks (view routine.id)
  if tasks.isEmpty then return false
  let since ← routine.periodStart time now
  let logs ← tasks.mapM fun t => s.completionsWithin (view t.id) person since now
  let done := logs.countP fun log => !log.isEmpty
  let target ← (Operand.float c.operand 0).mapError .numeral
  return comparison.ofPercents (percent done tasks.length) target

def goalProgress (c : Check F) (s : Store F) : Except Fault (GoalProgress F) :=
  Store.require .goal s.goals (view c.targetGoalId).key

/-- The time of day of a check, compared with the minute of the present moment. A span of time has
both its ends and does not go past midnight. -/
def compareTime (c : Check F) (now : Moment) : Except Fault Bool :=
  let id := (view c.id).json .str
  let given := (view c.timeValue).json Json.ofOptional
  match Operand.timeOfDay? given with
  | none => .error (Fault.naming (.invalidTime id.display given.display) [id, given])
  | some start =>
    match view c.timeOperator with
    | .value (some .before) => .ok (now.minuteOfDay < start.minute)
    | .value (some .after) => .ok (start.minute < now.minuteOfDay)
    | .value (some .between) =>
      let last := (view c.value2).json Json.ofOptional
      match Operand.timeOfDay? last with
      | none => .error (Fault.naming (.noEndTime id.display) [id])
      | some stop =>
        if stop.minute < start.minute then
          let fault := .spansMidnight id.display given.display last.display
          .error (Fault.naming fault [id, given, last])
        else .ok (start.minute ≤ now.minuteOfDay && now.minuteOfDay ≤ stop.minute)
    | other =>
      let op := other.json (.orNull .ofName)
      .error (Fault.naming (.unsupportedTime id.display op.display) [id, op])

def hasDay (c : Check F) (weekday : Nat) : Except Fault Bool :=
  match view c.dayOfWeek with
  | .value days => .ok (days.contains (weekday : Int))
  | .stray (.arr items) => .ok (items.any fun v => v.same (.int weekday))
  | .stray (.obj _) => .ok false
  | .stray v => if v.holds then .error .strayValue else .ok false
  | .absent => .error .noField

/-- The present date lies within the range of a check, both ends included. An operand that is no
range has no dates. -/
def hasDate (c : Check F) (clock : Clock) (now : Moment) : Except Fault Bool := do
  match ← Operand.dateRange clock.now.date c.operand with
  | none => return false
  | some (start, stop) => return start ≤ now.date && now.date ≤ stop

/-- The answer of a check, before its negation. A check of an operator that is not known is never
met. -/
def evaluate (c : Check F) (s : Store F) (setting : Setting) (person : Text) (context : Context) :
    Except Fault (F Bool) :=
  let now := context.now setting.clock
  let answer (x : Except Fault Bool) : Except Fault (F Bool) := x.map put
  match view c.operator with
  | .value .taskCompleted =>
    answer do return !(← c.taskCompletions s setting.resetTime person now).isEmpty
  | .value .taskNotCompleted =>
    answer do return (← c.taskCompletions s setting.resetTime person now).isEmpty
  | .value (.taskCount cmp) =>
    answer do c.compareCount cmp (← c.taskCompletions s setting.resetTime person now)
  | .value (.taskValue cmp) =>
    answer do c.compareValue cmp (← c.taskCompletions s setting.resetTime person now)
  | .value (.routinePercent cmp) => answer (c.comparePercent cmp s setting.resetTime person now)
  | .value .goalAchieved => do return (← c.goalProgress s).achieved
  | .value .goalNotAchieved =>
    answer do return !((view (← c.goalProgress s).achieved).json .bool).holds
  | .value .timeOfDay => answer (c.compareTime now)
  | .value .dayOfWeek => answer (c.hasDay (context.weekday now))
  | .value .dateRange => answer (c.hasDate setting.clock now)
  | .value (.other _) => .ok (put false)
  | .stray _ => .ok (put false)
  | .absent => .error .noField

end Check
end RoutineVisibility
