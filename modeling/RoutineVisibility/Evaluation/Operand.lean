import RoutineVisibility.Evaluation.Fault
import RoutineVisibility.Calendar.DateText.Reader

/-! Operands of checks. They are written by people, so an unreadable number counts as a default. -/
namespace RoutineVisibility.Operand
open Number

def integerIn? (s : List Char) : Except NumeralFault (Option Int) :=
  match leadingInteger? s with
  | some (negative, ds) => (integerValue negative ds).map some
  | none => .ok none

/-- The integer that a value begins with, if it begins with one. -/
def integer? (v : Json) : Except NumeralFault (Option Int) :=
  match v with
  | .null => .ok none
  | v => do integerIn? (← v.printed).shown.toList

def integer (v : Json) (default : Int) : Except NumeralFault Int :=
  (integer? v).map (·.getD default)

/-- The number that a value is or begins with, if there is one. -/
def float? (v : Json) : Except NumeralFault (Option Float) :=
  match v with
  | .null => .ok none
  | .float x => .ok (some x)
  | .bool b => .ok (some (if b then 1.0 else 0.0))
  | .int n =>
    match floatOfInt? n with
    | some x => .ok (some x)
    | none => .error .beyondFloat
  | v => v.printed.map fun text => (leadingDecimal? text.shown.toList).map (·.toFloat)

def float (v : Json) (default : Float) : Except NumeralFault Float :=
  (float? v).map (·.getD default)

def timeOfDay? : Json → Option TimeOfDay
  | .str s => TimeOfDay.parse? s.shown
  | _ => none

/-- The date that a text names; what it leaves out comes from the present date. -/
def date? (present : Date) : Json → Option Date
  | .str s => Date.ofText? present s.shown
  | _ => none

/-- The texts on both sides of the comma, if there is one comma. -/
def halves? (s : List Char) : Option (List Char × List Char) :=
  match s.span (· ≠ ',') with
  | (first, _ :: second) => if second.contains ',' then none else some (first, second)
  | _ => none

def trimmed (s : List Char) : String :=
  String.ofList (Text.trimBlanks s)

def datesIn? (present : Date) (s : Text) : Option (Date × Date) := do
  let (first, second) ← halves? s.shown.toList
  let start ← Date.ofText? present (trimmed first)
  let stop ← Date.ofText? present (trimmed second)
  return (start, stop)

/-- First and last date of a range. An empty value has none; other values that are no texts cannot
be taken apart. -/
def dateRange (present : Date) (v : Json) : Except Fault (Option (Date × Date)) :=
  match v with
  | .str s => .ok (datesIn? present s)
  | v => if v.holds then .error .noField else .ok none

end RoutineVisibility.Operand
