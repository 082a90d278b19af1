import RoutineVisibility.Authoring
import RoutineVisibility.Json.Shape
import RoutineVisibility.Record.Dump

/-! Replies of the service, and what is sent of them. -/
namespace RoutineVisibility

/-- The part of a value that a path leads to. A member that is missing leads no further than its
object. -/
def Json.partAt : Json → List Step → Json
  | v, [] => v
  | v, .field name :: path =>
    match v.get? name with
    | some w => w.partAt path
    | none => v
  | .arr items, .item index :: path =>
    match items[index]? with
    | some w => w.partAt path
    | none => .arr items
  | v, _ => v

inductive Reply where
  | ok (body : Json)
  | created (body : Json)
  | problem (status : Nat) (detail : Text)
  /-- What is wrong with what a request gives. -/
  | invalid (errors : List FieldError) (given : Json)
  /-- The service broke down over a request. -/
  | broken

namespace Reply

def status : Reply → Nat
  | .ok _ => 200
  | .created _ => 201
  | .problem status _ => status
  | .invalid _ _ => 422
  | .broken => 500

def body : Reply → Json
  | .ok body => body
  | .created body => body
  | .problem _ detail => .obj [("detail", .str detail)]
  | .invalid errors _ => .arr (errors.map FieldError.toJson)
  | .broken => .str "Internal Server Error"

/-- A reply to an invalid request also holds the values that are wrong. -/
def parts : Reply → List Json
  | .invalid errors given => (invalid errors given).body :: errors.map fun e => given.partAt e.path
  | r => [r.body]

/-- What is sent for a reply: the service breaks down over one that JSON text cannot express. -/
def sent (r : Reply) : Reply :=
  if r.parts.all Json.writable then r else .broken

def notFound : Reply := .problem 404 "Not Found"

def methodNotAllowed : Reply := .problem 405 "Method Not Allowed"

def notConfigured : Reply := .problem 500 "Server not properly configured"

def wrongId : Reply := .problem 400 "Condition id does not match the URL"

def unreadableBody : Reply := .problem 400 "There was an error parsing the body"

def ofFault (f : Fault) : Reply :=
  match f with
  | .notFound _ _ => .problem 404 f.message
  | _ => .broken

def ofRejection (r : Rejection) : Reply :=
  match r with
  | .alreadyExists _ => .problem 409 r.message
  | .fault f => ofFault f
  | _ => .problem 400 r.message

end Reply
end RoutineVisibility
