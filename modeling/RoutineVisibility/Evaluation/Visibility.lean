import RoutineVisibility.Evaluation.Condition

/-! What is shown to a person: everything but smart tasks and routines whose conditions are not
met. -/
namespace RoutineVisibility.Store
variable {F : Type → Type} [Holding F]

/-- A task of the store is shown to a person of the store. -/
def showsTask (s : Store F) (setting : Setting) (t : Task F) (person : Text) (context : Context) :
    Except Fault Bool :=
  match (view t.type).isValue .smart, view t.conditionId with
  | false, _ => .ok true
  | true, .value none => .ok true
  | true, condition => (s.evaluateCondition setting condition.key person context).map (·.result)

/-- A routine of the store is shown to a person of the store. All its conditions are evaluated, also
after one that is not met. -/
def showsRoutine (s : Store F) (setting : Setting) (r : Routine F) (person : Text)
    (context : Context) : Except Fault Bool :=
  if (view r.type).isValue .smart then do
    let evaluations ← (s.routineConditions (view r.id) (some true)).mapM fun c =>
      s.evaluateCondition setting (view c.id) person context
    return evaluations.all (·.result)
  else .ok true

def isTaskVisible (s : Store F) (setting : Setting) (task person : Text) (context : Context) :
    Except Fault Bool := do
  let t ← require .task s.tasks (.value task)
  s.requirePerson person
  s.showsTask setting t person context

def isRoutineVisible (s : Store F) (setting : Setting) (routine person : Text) (context : Context) :
    Except Fault Bool := do
  let r ← require .routine s.routines (.value routine)
  s.requirePerson person
  s.showsRoutine setting r person context

/-- The active tasks of a routine that are shown, in their order and at one moment. -/
def visibleTasks (s : Store F) (setting : Setting) (routine person : Text) (context : Context) :
    Except Fault (List (Task F)) := do
  let _ ← require .routine s.routines (.value routine)
  s.requirePerson person
  (← s.activeTasks (.value routine)).filterM fun t =>
    s.showsTask setting t person (context.frozen setting.clock)

/-- The routines of a list that are shown, in their order and at one moment. -/
def visibleRoutines (s : Store F) (setting : Setting) (routines : List Text) (person : Text)
    (context : Context) : Except Fault (List Text) :=
  routines.filterM fun r => s.isRoutineVisible setting r person (context.frozen setting.clock)

end RoutineVisibility.Store
