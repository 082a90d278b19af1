import RoutineVisibility.Store.Basic

/-! Dependents: what a change of a routine can affect. -/
namespace RoutineVisibility

structure Dependents where
  routineId : Text
  /-- Owners of the conditions, in the order in which they first occur. -/
  routineIds : List Text
  /-- Conditions with a check of the routine or of a task of it. -/
  conditionIds : List Text
  /-- Tasks of the routine that these conditions check, in the order in which they first occur. -/
  taskIds : List Text
deriving DecidableEq, Repr

namespace Dependents

def toJson (d : Dependents) : Json :=
  let texts (ts : List Text) : Json := .arr (ts.map .str)
  .obj [("routine_id", .str d.routineId), ("routine_ids", texts d.routineIds),
    ("condition_ids", texts d.conditionIds), ("task_ids", texts d.taskIds)]

end Dependents

namespace Store
variable {F : Type → Type} [Holding F]

/-- The task of a check, if it belongs to the routine. -/
def ownTask? (s : Store F) (routine : Text) (check : Check F) : Option Text := do
  let name ← (view check.targetTaskId).value?.join
  let task ← Table.find? s.tasks (.value name)
  guard ((view task.routineId).sameKey (.value routine))
  (view task.id).value?

def dependents (s : Store F) (routine : Text) : Dependents :=
  let conditions := s.conditionsReferringTo (.value routine)
  { routineId := routine
    routineIds := (conditions.filterMap fun c => (view c.routineId).value?).eraseDups
    conditionIds := conditions.filterMap fun c => (view c.id).value?
    taskIds := ((conditions.flatMap (·.checks)).filterMap (s.ownTask? routine)).eraseDups }

end Store
end RoutineVisibility
