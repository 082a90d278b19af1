import RoutineVisibility.Record.Basic

/-! Rules of a record that concern several of its fields. -/
namespace RoutineVisibility

inductive Violation where
  /-- A check has references, but its operator has none. -/
  | referenceForbidden (check : Text) (operator : Operator) (given : List Target)
  /-- A check has not just the reference of its operator. -/
  | referenceRequired (check : Text) (operator : Operator) (target : Target)
  | noTimeOperator (check : Text)
  | badTime (check : Text) (given : Option Text)
  | noEndTime (check : Text)
  | spansMidnight (check start stop : Text)
  | badDays (check : Text) (days : List Int)
  | duplicateCheck (check : Text)
  | badWeeklyDay (routine : Text) (day : Int)
  | badMonthlyDay (routine : Text) (day : Int)
deriving DecidableEq, Repr

def bracketed (items : List String) : String :=
  "[" ++ String.intercalate ", " items ++ "]"

def Violation.message : Violation → Text
  | .referenceForbidden check operator given =>
    "Check '" ++ check ++ "' with operator '" ++ operator.name ++
      "' must not reference a target (got " ++
      bracketed (given.map (Text.quoted ·.fieldName)) ++ ")"
  | .referenceRequired check operator target =>
    "Check '" ++ check ++ "' with operator '" ++ operator.name ++
      "' must reference exactly one target: '" ++ target.fieldName ++ "'"
  | .noTimeOperator check => "Check '" ++ check ++ "' is TIME_OF_DAY but has no time_operator"
  | .badTime check given =>
    "Check '" ++ check ++ "' has invalid time_value '" ++ (Json.ofOptional given).display ++ "'"
  | .noEndTime check => "Check '" ++ check ++ "' uses BETWEEN but has no valid end time (value2)"
  | .spansMidnight check start stop =>
    "Check '" ++ check ++ "' BETWEEN " ++ start ++ "-" ++ stop ++
      " spans midnight, which is not supported"
  | .badDays check days =>
    "Check '" ++ check ++ "' has invalid day indexes: " ++ bracketed (days.map toString)
  | .duplicateCheck check => "Duplicate check ID: '" ++ check ++ "'"
  | .badWeeklyDay routine day =>
    "Routine '" ++ routine ++ "' has invalid weekly reset_day " ++ toString day ++ " (expected 0-6)"
  | .badMonthlyDay routine day =>
    "Routine '" ++ routine ++ "' has invalid monthly reset_day " ++ toString day ++
      " (expected 1-28 or 99)"

def TimeOfDay.ofOptional? (s : Option Text) : Option TimeOfDay :=
  s.bind fun t => parse? t.shown

namespace Check

def references (c : Check Exact) : List Target :=
  Target.all.filter fun t => (c.target t : Option Text).isSome

def referenceViolation? (c : Check Exact) (category : Category) : Option Violation :=
  match category.target? with
  | none =>
    if c.references = [] then none else some (.referenceForbidden c.id c.operator c.references)
  | some t => if c.references = [t] then none else some (.referenceRequired c.id c.operator t)

def timeViolation? (c : Check Exact) : Option Violation :=
  match (c.timeOperator : Option TimeOperator) with
  | none => some (.noTimeOperator c.id)
  | some op =>
    match TimeOfDay.ofOptional? c.timeValue with
    | none => some (.badTime c.id c.timeValue)
    | some start =>
      if op = .between then
        match TimeOfDay.ofOptional? c.value2 with
        | none => some (.noEndTime c.id)
        | some stop =>
          if stop.minute < start.minute then
            some (.spansMidnight c.id (Option.getD c.timeValue "") (Option.getD c.value2 ""))
          else none
      else none

/-- A day of the week, 0 for Sunday. -/
def isWeekday (d : Int) : Bool :=
  0 ≤ d && d ≤ 6

def dayViolation? (c : Check Exact) : Option Violation :=
  match (c.dayOfWeek : List Int).filter (!isWeekday ·) with
  | [] => none
  | days => some (.badDays c.id days)

/-- The first rule that a check breaks. An operator that is not known has no rules. -/
def violation? (c : Check Exact) : Option Violation :=
  match (c.operator : Operator).category? with
  | none => none
  | some category =>
    c.referenceViolation? category <|>
      match category with
      | .time => c.timeViolation?
      | .day => c.dayViolation?
      | _ => none

end Check

/-- The first text that occurs a second time. -/
def firstRepeated? : List Text → List Text → Option Text
  | _, [] => none
  | seen, s :: rest => if s ∈ seen then some s else firstRepeated? (s :: seen) rest

def Condition.violation? (c : Condition Exact) : Option Violation :=
  (firstRepeated? [] (c.checks.map (·.id))).map .duplicateCheck

def Routine.violation? (r : Routine Exact) : Option Violation :=
  match (r.resetDay : Option Int), (r.resetPeriod : ResetPeriod) with
  | some d, .weekly => if 0 ≤ d ∧ d ≤ 6 then none else some (.badWeeklyDay r.id d)
  | some d, .monthly =>
    if (1 ≤ d ∧ d ≤ 28) ∨ d = lastDayOfMonth then none else some (.badMonthlyDay r.id d)
  | _, _ => none

end RoutineVisibility
