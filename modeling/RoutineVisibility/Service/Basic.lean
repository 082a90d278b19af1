import RoutineVisibility.Service.Request
import RoutineVisibility.Store.Dataset
import RoutineVisibility.Evaluation.Visibility
import RoutineVisibility.Controls.Dependents
import RoutineVisibility.Recipe

/-! The service, which answers requests about a store and writes the conditions that they bring. -/
namespace RoutineVisibility

structure Service where
  store : Option (Store Exact)
  setting : Setting
  /-- How deep arrays and objects may nest in a body. -/
  depth : Nat

namespace Service

/-- A fault of a data set that the service starts with all the same. -/
def tolerates : LoadFault → Bool
  | .unreadable .tooDeep => false
  | .unreadable _ => true
  | .refused (.faults _) => true
  | .refused .outOfRange => false
  | .noObject => false
  | .noList => false

/-- The store that a service starts with. -/
def firstStore (loaded : Except LoadFault (Store Exact)) : Except LoadFault (Store Exact) :=
  match loaded with
  | .ok s => .ok s
  | .error f => if tolerates f then .ok .empty else .error f

def start (setting : Setting) (depth : Nat) (loaded : Except LoadFault (Store Exact)) :
    Except LoadFault Service := do
  return ⟨some (← firstStore loaded), setting, depth⟩

def evaluation (s : Store Exact) (setting : Setting) (condition : String) (person : Text)
    (context : Context) : Reply :=
  match s.evaluateCondition setting (.value condition) person context with
  | .ok e => .ok e.toJson
  | .error f => .ofFault f

def visibility (entity : String) (person : Text) : Except Fault Bool → Reply
  | .ok visible =>
    .ok (.obj [("entity_id", .str entity), ("person_id", .str person), ("visible", .bool visible)])
  | .error f => .ofFault f

def taskList : Except Fault (List (Task Exact)) → Reply
  | .ok tasks => .ok (.arr (tasks.map (·.toJson)))
  | .error f => .ofFault f

def cycleReport (s : Store Exact) (source : String) (target : Text) : Reply :=
  .ok <| .obj <|
    match s.cyclePath? source target with
    | none => [("has_cycle", .bool false), ("path", .null), ("description", .null)]
    | some path =>
      [("has_cycle", .bool true), ("path", .arr (path.map .str)),
        ("description", .str (s.describePath path))]

def recipeList : Reply :=
  .ok (.obj [("recipes", .arr (Recipe.catalog.map (·.toJson)))])

def healthReport (v : Service) : Reply :=
  .ok (.obj [("status", .str "healthy"), ("configured", .bool v.store.isSome)])

/-- The reply to an inquiry in its context. -/
def inContext (setting : Setting) (q : Inquiry) (reply : Context → Reply) : Reply :=
  match q.context? setting.clock.offset with
  | some context => reply context
  | none => .broken

def keep (v : Service) (reply : Reply) : Except Rejection (Store Exact) → Reply × Service
  | .ok s => (reply, { v with store := some s })
  | .error r => (.ofRejection r, v)

/-- Does what is asked for on a store. -/
def performOn (v : Service) (s : Store Exact) : Action → Reply × Service
  | .evaluate c q => (inContext v.setting q (evaluation s v.setting c q.person), v)
  | .create c => v.keep (.created c.toJson) (s.createCondition c)
  | .replace id c =>
    if (c.id : Text) ≠ id then (.wrongId, v) else v.keep (.ok c.toJson) (s.updateCondition c)
  | .delete id => v.keep (.ok (.obj [("success", .bool true)])) (s.deleteCondition id)
  | .taskVisibility t q =>
    (inContext v.setting q fun context =>
      visibility t q.person (s.isTaskVisible v.setting t q.person context), v)
  | .routineVisibility r q =>
    (inContext v.setting q fun context =>
      visibility r q.person (s.isRoutineVisible v.setting r q.person context), v)
  | .visibleTasks r q =>
    (inContext v.setting q fun context => taskList (s.visibleTasks v.setting r q.person context), v)
  | .cycleCheck r target => (cycleReport s r target, v)
  | .dependents r => (.ok (s.dependents r).toJson, v)
  | .recipes => (recipeList, v)
  | .health => (v.healthReport, v)

/-- Does what is asked for. Recipes and health need no store. -/
def perform (v : Service) (a : Action) : Reply × Service :=
  match a, v.store with
  | .recipes, _ => (recipeList, v)
  | .health, _ => (v.healthReport, v)
  | a, some s => v.performOn s a
  | _, none => (.notConfigured, v)

/-- The reply to a request, and the service after it. -/
def respond (v : Service) (r : Request) : Reply × Service :=
  match r.action v.depth with
  | .ok a => v.perform a
  | .error reply => (reply, v)

/-- What is sent for a request, and the service after it. -/
def answer (v : Service) (r : Request) : Reply × Service :=
  ((v.respond r).1.sent, (v.respond r).2)

def answerAll (v : Service) : List Request → List Reply
  | [] => []
  | r :: rest =>
    let (reply, v) := v.answer r
    reply :: v.answerAll rest

end Service
end RoutineVisibility
