import RoutineVisibility.Service.Reply
import RoutineVisibility.Record.Validate
import RoutineVisibility.Json.Reader
import RoutineVisibility.Text.Percent

/-! Requests: a path, a method, and what they ask for. -/
namespace RoutineVisibility

inductive Body where
  | empty
  | json (v : Json)
  | text (s : String)

structure Request where
  method : String
  /-- The path in percent encoding. -/
  path : String
  /-- Decoded parameters; of one name the last counts. -/
  query : List (String × String) := []
  body : Body := .empty

/-- Who asks, and what that person takes for the present. -/
structure Inquiry where
  person : Text
  time : Option Stamp
  dayOfWeek : Option (Fin 7)

inductive Action where
  | evaluate (condition : String) (inquiry : Inquiry)
  | create (condition : Condition Exact)
  | replace (id : String) (condition : Condition Exact)
  | delete (id : String)
  | taskVisibility (task : String) (inquiry : Inquiry)
  | routineVisibility (routine : String) (inquiry : Inquiry)
  | visibleTasks (routine : String) (inquiry : Inquiry)
  | cycleCheck (routine : String) (target : Text)
  | dependents (routine : String)
  | recipes
  | health

inductive Resource where
  | evaluation (condition : String)
  | conditions
  | condition (id : String)
  | taskVisibility (task : String)
  | routineVisibility (routine : String)
  | visibleTasks (routine : String)
  | cycleCheck (routine : String)
  | dependents (routine : String)
  | recipes
  | health
deriving DecidableEq, Repr

namespace Resource

def ofSegments? : List String → Option Resource
  | ["conditions", c, "evaluate"] => some (.evaluation c)
  | ["conditions"] => some .conditions
  | ["conditions", c] => some (.condition c)
  | ["tasks", t, "visibility"] => some (.taskVisibility t)
  | ["routines", r, "visibility"] => some (.routineVisibility r)
  | ["routines", r, "visible-tasks"] => some (.visibleTasks r)
  | ["routines", r, "cycle-check"] => some (.cycleCheck r)
  | ["routines", r, "dependents"] => some (.dependents r)
  | ["recipes"] => some .recipes
  | ["health"] => some .health
  | _ => none

/-- The parts of a text between slashes. -/
def segments (s : List Char) : List String :=
  (s.splitOn '/').map String.ofList

def trimmedPath (s : List Char) : List Char :=
  (s.reverse.dropWhile (· = '/')).reverse

def ofPath? (path : String) : Option Resource :=
  match segments (trimmedPath (Text.percentDecoded path.toList)) with
  | "" :: "api" :: parts => if parts.contains "" then none else ofSegments? parts
  | _ => none

end Resource

namespace Inquiry

def validate : Json → Verdict Inquiry :=
  ofObject fun o =>
    Inquiry.mk <$> requiredField o "person_id" Coerce.text
      <*> defaultField o "current_time" (Coerce.orNull Coerce.stamp) none
      <*> defaultField o "day_of_week" (Coerce.orNull Coerce.weekday) none

/-- The context of an inquiry in local time. -/
def context? (q : Inquiry) (localOffset : Int) : Option Context :=
  match q.time with
  | none => some ⟨none, q.dayOfWeek⟩
  | some t => (t.toLocal? localOffset).map fun m => ⟨some m, q.dayOfWeek⟩

end Inquiry

def targetRoutine : Json → Verdict Text :=
  ofObject fun o => requiredField o "target_routine_id" Coerce.text

namespace Reason

/-- In a body, a value that is no object has no attributes either. -/
def inBody : Reason → Reason
  | .noObject => .noBodyObject
  | r => r

end Reason

namespace Verdict
variable {α : Type}

/-- An accepted value, or the reply to one that is refused; it was given in this part of the
request. -/
def orReply (place : String) (given : Json) : Verdict α → Except Reply α
  | .accept a => .ok a
  | .refuse r =>
    match r.inside (.field place) with
    | .faults errors => .error (.invalid errors (.obj [(place, given)]))
    | .outOfRange => .error .broken

/-- Refused for the reasons that a body has. -/
def inBody : Verdict α → Verdict α
  | .refuse (.faults errors) =>
    .refuse (.faults (errors.map fun e => { e with reason := e.reason.inBody }))
  | v => v

end Verdict

namespace Body

/-- A text without a byte order mark at its beginning. -/
def unmarked (s : String) : String :=
  match s.toList with
  | c :: rest => if c = Char.ofNat 0xFEFF then String.ofList rest else s
  | [] => s

def missing : Reply := .invalid [⟨[.field "body"], .missing⟩] .null

/-- The value of a body in which arrays and objects nest no deeper than they may. -/
def content (depth : Nat) : Body → Except Reply Json
  | .empty => .error missing
  | .json v => if v.depth ≤ depth then .ok v else .error .unreadableBody
  | .text s =>
    if s.isEmpty then .error missing
    else
      match Json.read depth (unmarked s) with
      | .ok v => .ok v
      | .error (.malformed p) => .error (.invalid [⟨[.field "body", .item p], .noJson⟩] .null)
      | .error _ => .error .unreadableBody

def read {α : Type} (b : Body) (depth : Nat) (f : Json → Verdict α) : Except Reply α := do
  let v ← b.content depth
  (f v).inBody.orReply "body" v

end Body

namespace Request

def parameters (r : Request) : Json :=
  .obj (r.query.foldl (fun members p => Json.setMember p.1 (.str p.2) members) [])

def inquiry (r : Request) : Except Reply Inquiry :=
  (Inquiry.validate r.parameters).orReply "query" r.parameters

def action (r : Request) (depth : Nat) : Except Reply Action :=
  match Resource.ofPath? r.path with
  | none => .error .notFound
  | some resource =>
    match resource, r.method with
    | .evaluation c, "POST" => return .evaluate c (← r.body.read depth Inquiry.validate)
    | .conditions, "POST" => return .create (← r.body.read depth Condition.validate)
    | .condition c, "PUT" => return .replace c (← r.body.read depth Condition.validate)
    | .condition c, "DELETE" => return .delete c
    | .taskVisibility t, "GET" => return .taskVisibility t (← r.inquiry)
    | .routineVisibility x, "GET" => return .routineVisibility x (← r.inquiry)
    | .visibleTasks x, "GET" => return .visibleTasks x (← r.inquiry)
    | .cycleCheck x, "POST" => return .cycleCheck x (← r.body.read depth targetRoutine)
    | .dependents x, "GET" => return .dependents x
    | .recipes, "GET" => return .recipes
    | .health, "GET" => return .health
    | _, _ => .error .methodNotAllowed

end Request
end RoutineVisibility
