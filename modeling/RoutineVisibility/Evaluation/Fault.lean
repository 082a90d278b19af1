import RoutineVisibility.Record.Verdict

/-! Why a question about visibility has no answer. -/
namespace RoutineVisibility

inductive Kind where
  | condition
  | task
  | routine
  | person
  | goal
deriving DecidableEq, Repr

def Kind.title : Kind → String
  | .condition => "Condition"
  | .task => "Task"
  | .routine => "Routine"
  | .person => "Person"
  | .goal => "Goal"

inductive Fault where
  | notFound (kind : Kind) (name : Text)
  | invalidTime (check given : Text)
  | noEndTime (check : Text)
  | spansMidnight (check start stop : Text)
  | unsupportedTime (check given : Text)
  | calendar (fault : CalendarFault)
  | numeral (fault : Number.NumeralFault)
  /-- A field of an unchecked record holds a value that cannot be used there. -/
  | strayValue
  /-- A field of an unchecked record is missing, or has a value without parts where parts are
  needed. -/
  | noField
  | refused (refusal : Refusal)
deriving DecidableEq, Repr

/-- A fault whose message names values, if they can be printed. -/
def Fault.naming (f : Fault) (values : List Json) : Fault :=
  if values.all Json.printable then f else .numeral .unprintable

theorem Fault.naming_of_printable {values : List Json} {f : Fault}
    (printable : ∀ v ∈ values, v.printable) : f.naming values = f :=
  if_pos (List.all_eq_true.2 printable)

def inCheck (check text : Text) : Text :=
  "Check '" ++ check ++ "': " ++ text

def Fault.message : Fault → Text
  | .notFound kind name => kind.title ++ " '" ++ name ++ "' not found"
  | .invalidTime check given => inCheck check ("invalid time_value '" ++ given ++ "'")
  | .noEndTime check => inCheck check "BETWEEN requires an end time (value2)"
  | .spansMidnight check start stop =>
    inCheck check ("BETWEEN " ++ start ++ "-" ++ stop ++ " spans midnight")
  | .unsupportedTime check given => inCheck check ("unsupported time_operator '" ++ given ++ "'")
  | .calendar f => f.message
  | .numeral f => f.message
  | .strayValue => "a value has another type"
  | .noField => "a value is missing"
  | .refused _ => "a value is refused"

def Verdict.orFault {α : Type} : Verdict α → Except Fault α
  | .accept a => .ok a
  | .refuse r => .error (.refused r)

end RoutineVisibility
