import RoutineVisibility.Store.Table
import RoutineVisibility.Evaluation.Fault
import RoutineVisibility.Record.Dump

/-! The store: tables of records, and the completions in the order in which they were recorded. -/
namespace RoutineVisibility
variable {F : Type → Type} [Holding F]

instance : Keyed (Person F) := ⟨fun p => view p.id⟩
instance : Keyed (Routine F) := ⟨fun r => view r.id⟩
instance : Keyed (Task F) := ⟨fun t => view t.id⟩
instance : Keyed (GoalProgress F) := ⟨fun g => view g.goalId⟩
instance : Keyed (Condition F) := ⟨fun c => view c.id⟩

structure Store (F : Type → Type) where
  persons : List (Person F) := []
  routines : List (Routine F) := []
  tasks : List (Task F) := []
  completions : List (Completion F) := []
  goals : List (GoalProgress F) := []
  conditions : List (Condition F) := []

inductive Entry (F : Type → Type) where
  | person (p : Person F)
  | routine (r : Routine F)
  | task (t : Task F)
  | completion (c : Completion F)
  | goal (g : GoalProgress F)
  | condition (c : Condition F)

/-- The name that a record is written under; completions have none. -/
def Entry.key? : Entry F → Option (Field Text)
  | .person p => some (Keyed.key p)
  | .routine r => some (Keyed.key r)
  | .task t => some (Keyed.key t)
  | .completion _ => none
  | .goal g => some (Keyed.key g)
  | .condition c => some (Keyed.key c)

/-- A name can be looked up. -/
def Field.checkKey : Field Text → Except Fault Unit
  | .value _ => .ok ()
  | .stray v => if v.isKey then .ok () else .error .strayValue
  | .absent => .error .noField

namespace Store

def empty : Store F := {}

def add (s : Store F) : Entry F → Store F
  | .person p => { s with persons := Table.insert p s.persons }
  | .routine r => { s with routines := Table.insert r s.routines }
  | .task t => { s with tasks := Table.insert t s.tasks }
  | .completion c => { s with completions := s.completions ++ [c] }
  | .goal g => { s with goals := Table.insert g s.goals }
  | .condition c => { s with conditions := Table.insert c s.conditions }

/-- Writes a record whose name nobody checked. -/
def addUnchecked (s : Store F) (e : Entry F) : Except Fault (Store F) := do
  (e.key?.map Field.checkKey).getD (.ok ())
  return s.add e

def eraseCondition (s : Store F) (k : Field Text) : Store F :=
  { s with conditions := Table.erase k s.conditions }

/-- Deletes a condition, and tells whether it was there. -/
def removeCondition (s : Store F) (condition : Text) : Bool × Store F :=
  (Table.has s.conditions (.value condition), s.eraseCondition (.value condition))

def lookup? {α : Type} [Keyed α] (table : List α) (k : Field Text) : Except Fault (Option α) := do
  k.checkKey
  return Table.find? table k

def require {α : Type} [Keyed α] (kind : Kind) (table : List α) (k : Field Text) :
    Except Fault α := do
  match ← lookup? table k with
  | some a => return a
  | none => throw (Fault.naming (.notFound kind k.text) [k.json .str])

/-- The conditions of a routine; those that control it, or those that do not, if asked for. -/
def routineConditions (s : Store F) (routine : Field Text) (controls : Option Bool) :
    List (Condition F) :=
  s.conditions.filter fun c =>
    (view c.routineId).sameKey routine && controls.all fun b => (view c.controlsRoutine).isBool b

def tasksOf (s : Store F) (routine : Field Text) : List (Task F) :=
  s.tasks.filter fun t => (view t.routineId).sameKey routine

/-- A check refers to the routine or to one of the tasks. -/
def refersTo (routine : Field Text) (tasks : List (Task F)) (check : Check F) : Bool :=
  (view check.targetRoutineId).key.sameKey routine ||
    tasks.any fun t => (view t.id).sameKey (view check.targetTaskId).key

/-- The conditions with a check that refers to a routine or to a task of it. -/
def conditionsReferringTo (s : Store F) (routine : Field Text) : List (Condition F) :=
  s.conditions.filter fun c => c.checks.any (refersTo routine (s.tasksOf routine))

def isOrdered (t : Task F) : Bool :=
  (view t.order).value?.isSome

def orderOf (t : Task F) : Int :=
  (view t.order).value?.getD 0

/-- Puts an item behind all that do not come after it. -/
def insertOrdered? {α : Type} (less? : α → α → Option Bool) (a : α) : List α → Option (List α)
  | [] => some [a]
  | b :: rest =>
    match less? a b with
    | none => none
    | some true => some (a :: b :: rest)
    | some false => (insertOrdered? less? a rest).map (b :: ·)

/-- Numbers compare by value and texts by their code points; other values do not compare. -/
def less? (v w : Json) : Option Bool :=
  let number : Json → Json
    | .bool b => .int (Json.boolNumber b)
    | v => v
  match number v, number w with
  | .str s, .str t => some (s.points < t.points)
  | .int m, .int n => some (m < n)
  | .int m, .float y => some (Json.floatCompare? y m == some .gt)
  | .float x, .int n => some (Json.floatCompare? x n == some .lt)
  | .float x, .float y => some (x < y)
  | _, _ => none

/-- The active tasks of a routine in their order; those of equal order as they were written. -/
def activeTasks (s : Store F) (routine : Field Text) : Except Fault (List (Task F)) :=
  let active := (s.tasksOf routine).filter fun t => (view t.status).isValue .active
  if active.all isOrdered then .ok (active.mergeSort fun t u => orderOf t ≤ orderOf u)
  else
    let less? (t u : Task F) : Option Bool :=
      less? ((view t.order).json .int) ((view u.order).json .int)
    match active.foldlM (fun sorted t => insertOrdered? less? t sorted) [] with
    | some sorted => .ok sorted
    | none => .error .strayValue

def momentOf (c : Completion F) : Moment :=
  (view c.completedAt).value?.getD .first

/-- Completions of a task by a person from a moment on, the latest first; those of one moment as
they were recorded. -/
def completionsSince (s : Store F) (task : Field Text) (person : Text) (since : Moment) :
    Except Fault (List (Completion F)) :=
  let own := s.completions.filter fun c =>
    (view c.taskId).sameKey task && (view c.personId).sameKey (.value person)
  match own.find? fun c => (view c.completedAt).value?.isNone with
  | some c => .error (match view c.completedAt with
    | .absent => .noField
    | _ => .strayValue)
  | none =>
    .ok ((own.filter fun c => since ≤ momentOf c).mergeSort fun c d => momentOf d ≤ momentOf c)

def toJson (s : Store F) : Json :=
  .obj [("persons", .arr (s.persons.map (·.toJson))),
    ("routines", .arr (s.routines.map (·.toJson))), ("tasks", .arr (s.tasks.map (·.toJson))),
    ("completions", .arr (s.completions.map (·.toJson))), ("goals", .arr (s.goals.map (·.toJson))),
    ("conditions", .arr (s.conditions.map (·.toJson)))]

end Store
end RoutineVisibility
