import RoutineVisibility.Record.Dump

/-! Recipes: templates of common conditions of the calendar. -/
namespace RoutineVisibility

inductive Template where
  | days (days : List Int)
  | before (time : String)
  | between (start stop : String)
deriving DecidableEq, Repr

def Template.members : Template → List (Text × Json)
  | .days ds => [("operator", .str (Operator.name .dayOfWeek)), ("day_of_week", .ofInts ds)]
  | .before time =>
    [("operator", .str (Operator.name .timeOfDay)), ("time_operator", .ofName TimeOperator.before),
      ("time_value", .str time)]
  | .between start stop =>
    [("operator", .str (Operator.name .timeOfDay)), ("time_operator", .ofName TimeOperator.between),
      ("time_value", .str start), ("value2", .str stop)]

inductive RecipeKind where
  | timeBased
  | context
deriving DecidableEq, Repr

instance : Named RecipeKind where
  all := [.timeBased, .context]
  name
    | .timeBased => "TIME_BASED"
    | .context => "CONTEXT"

structure Recipe where
  id : String
  name : String
  description : String
  kind : RecipeKind := .timeBased
  logic : Logic := .and
  checks : List Template
  usageHint : Option String := none
deriving DecidableEq, Repr

namespace Recipe

def catalog : List Recipe :=
  [{ id := "weekdays-only"
     name := "Weekdays Only"
     description := "Show only Monday through Friday"
     checks := [.days [1, 2, 3, 4, 5]]
     usageHint := some "Perfect for school-related routines" },
   { id := "weekend-only"
     name := "Weekend Only"
     description := "Show only on Saturday and Sunday"
     checks := [.days [0, 6]]
     usageHint := some "Great for weekend chores or activities" },
   { id := "morning-routine"
     name := "Morning Routine"
     description := "Available from 6 AM to 12 PM"
     checks := [.between "06:00" "12:00"] },
   { id := "after-school"
     name := "After School"
     description := "Available from 3 PM to 6 PM"
     checks := [.between "15:00" "18:00"]
     usageHint := some "Perfect for homework and after-school activities" },
   { id := "evening-routine"
     name := "Evening Routine"
     description := "Available from 6 PM to 9 PM"
     checks := [.between "18:00" "21:00"] },
   { id := "school-days-morning"
     name := "School Day Mornings"
     description := "Weekday mornings from 6 AM to 8 AM"
     checks := [.days [1, 2, 3, 4, 5], .between "06:00" "08:00"]
     usageHint := some "Perfect for getting ready for school" },
   { id := "before-noon"
     name := "Before Noon"
     description := "Hidden from 12 PM onwards"
     kind := .context
     checks := [.before "12:00"] }]

def find? (id : Text) : Option Recipe :=
  catalog.find? fun r => (r.id : Text) == id

def unknownMessage (id : Text) : String :=
  Text.quoted id

/-- Checks with their ids, which count from a number on. -/
def checksFrom (condition : Text) : Nat → List Template → List Json
  | _, [] => []
  | n, t :: rest =>
    .obj (("id", .str (condition ++ "-" ++ toString n)) :: t.members) ::
      checksFrom condition (n + 1) rest

/-- The checks are built before the condition; the first one that is refused refuses it. -/
def build (r : Recipe) (condition routine controls : Json) : Verdict (Condition Exact) :=
  let checks := checksFrom condition.display 1 r.checks
  match checks.findSome? fun check => (Check.validate check).refusal? with
  | some r => .refuse r
  | none => Condition.validate <| .obj
    [("id", condition), ("routine_id", routine), ("controls_routine", controls),
      ("logic", .ofName r.logic), ("checks", .arr checks)]

def toJson (r : Recipe) : Json :=
  .obj [("id", .str r.id), ("name", .str r.name), ("description", .str r.description),
    ("category", .ofName r.kind), ("logic", .ofName r.logic),
    ("checks", .arr (r.checks.map fun t => .obj t.members)),
    ("usage_hint", .orNull (fun hint : String => .str hint) r.usageHint)]

end Recipe
end RoutineVisibility
