import RoutineVisibility.Store.Basic
import RoutineVisibility.Record.Adopt
import RoutineVisibility.Json.Reader

/-! Data sets, which fill a store up to the first entry that is refused. -/
namespace RoutineVisibility

inductive LoadFault where
  | unreadable (fault : Json.ReadFault)
  | noObject
  /-- A list of the data set has no items. -/
  | noList
  | refused (refusal : Refusal)
deriving DecidableEq, Repr

def Entry.held {F : Type → Type} [Holding F] : Entry Exact → Entry F
  | .person p => .person p.held
  | .routine r => .routine r.held
  | .task t => .task t.held
  | .completion c => .completion c.held
  | .goal g => .goal g.held
  | .condition c => .condition c.held

namespace Dataset

/-- The lists of a data set in their order, with the records that they hold. Time stamps become
local time. -/
def lists (localOffset : Int) : List (Text × (Json → Verdict (Entry Exact))) :=
  [("persons", fun v => .person <$> Person.validate v),
    ("routines", fun v => .routine <$> Routine.validate v),
    ("tasks", fun v => .task <$> Task.validate v),
    ("completions", fun v => .completion <$> Completion.validate localOffset v),
    ("goals", fun v => .goal <$> GoalProgress.validate v),
    ("conditions", fun v => .condition <$> Condition.validate v)]

/-- What a list goes through: an object gives its names, and a text its characters. -/
def items? : Json → Option (List Json)
  | .arr items => some items
  | .obj members => some (members.map fun m => .str m.1)
  | .str s => some (s.points.map fun p => .str (.ofPoints [p]))
  | _ => none

/-- The entries of a list, each with its own verdict. -/
def readings (read : Json → Verdict (Entry Exact)) (v : Json) :
    List (Except LoadFault (Entry Exact)) :=
  match items? v with
  | none => [.error .noList]
  | some items => items.map fun item =>
    match read item with
    | .accept e => .ok e
    | .refuse r => .error (.refused r)

/-- The entries of all lists; a list that is not there is empty. -/
def entries (localOffset : Int) (data : Json) : List (Except LoadFault (Entry Exact)) :=
  match data with
  | .obj members => (lists localOffset).flatMap fun l =>
    (Json.findMember? members l.1).elim [] (readings l.2)
  | _ => [.error .noObject]

end Dataset

namespace Store
variable {F : Type → Type} [Holding F]

/-- Adds entries up to the first one that is refused. -/
def addWhileAccepted (s : Store F) :
    List (Except LoadFault (Entry Exact)) → Store F × Option LoadFault
  | [] => (s, none)
  | .ok e :: rest => (s.add e.held).addWhileAccepted rest
  | .error f :: _ => (s, some f)

/-- Adds a data set; also tells why it was not added to its end. -/
def load (s : Store F) (localOffset : Int) (data : Json) : Store F × Option LoadFault :=
  s.addWhileAccepted (Dataset.entries localOffset data)

def ofData (localOffset : Int) (data : Json) : Except LoadFault (Store F) :=
  match load empty localOffset data with
  | (s, none) => .ok s
  | (_, some f) => .error f

def ofText (depth : Nat) (localOffset : Int) (text : String) : Except LoadFault (Store F) :=
  match Json.read depth text with
  | .error f => .error (.unreadable f)
  | .ok data => ofData localOffset data

end Store
end RoutineVisibility
