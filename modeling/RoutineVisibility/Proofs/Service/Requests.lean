import RoutineVisibility.Service.Request

/-! What requests ask for, and that a request for nothing reports no success. -/
namespace RoutineVisibility

namespace Action

def method : Action → String
  | .evaluate _ _ => "POST"
  | .create _ => "POST"
  | .replace _ _ => "PUT"
  | .delete _ => "DELETE"
  | .cycleCheck _ _ => "POST"
  | _ => "GET"

def resource : Action → Resource
  | .evaluate c _ => .evaluation c
  | .create _ => .conditions
  | .replace id _ => .condition id
  | .delete id => .condition id
  | .taskVisibility t _ => .taskVisibility t
  | .routineVisibility r _ => .routineVisibility r
  | .visibleTasks r _ => .visibleTasks r
  | .cycleCheck r _ => .cycleCheck r
  | .dependents r => .dependents r
  | .recipes => .recipes
  | .health => .health

end Action

namespace Reply

theorem le_status_invalid (errors : List FieldError) (given : Json) :
    400 ≤ (invalid errors given).status := by
  show 400 ≤ 422
  decide

theorem le_status_broken : 400 ≤ broken.status := by
  decide

theorem le_status_ofRejection (r : Rejection) : 400 ≤ (ofRejection r).status := by
  cases r with
  | alreadyExists => show 400 ≤ 409; decide
  | noChecks | moved | cycle => show 400 ≤ 400; decide
  | fault f =>
    cases f with
    | notFound => show 400 ≤ 404; decide
    | invalidTime | noEndTime | spansMidnight | unsupportedTime | calendar | numeral | strayValue
    | noField | refused =>
      exact le_status_broken

theorem le_status_of_orReply {α : Type} {place : String} {given : Json} {x : Verdict α}
    {reply : Reply} (refused : x.orReply place given = .error reply) : 400 ≤ reply.status := by
  unfold Verdict.orReply at refused
  split at refused
  · cases refused
  · split at refused
    · cases refused
      exact le_status_invalid _ _
    · cases refused
      exact le_status_broken

theorem le_status_of_content {b : Body} {depth : Nat} {reply : Reply}
    (refused : b.content depth = .error reply) : 400 ≤ reply.status := by
  unfold Body.content at refused
  split at refused
  · cases refused
    exact le_status_invalid _ _
  · split at refused
    · cases refused
    · cases refused
      decide
  · split at refused
    · cases refused
      exact le_status_invalid _ _
    · split at refused
      · cases refused
      · cases refused
        exact le_status_invalid _ _
      · cases refused
        decide

end Reply

namespace Request

structure Asks (r : Request) (method : String) (resource : Resource) : Prop where
  method : r.method = method
  resource : Resource.ofPath? r.path = some resource

variable {r : Request} {depth : Nat} {a : Action} {reply : Reply}

theorem Asks.method_eq {method method' : String} {x x' : Resource} (asked : r.Asks method x)
    (asked' : r.Asks method' x') : method = method' :=
  asked.method.symm.trans asked'.method

theorem Asks.resource_eq {method method' : String} {x x' : Resource} (asked : r.Asks method x)
    (asked' : r.Asks method' x') : x = x' :=
  Option.some.inj (asked.resource.symm.trans asked'.resource)

theorem le_status_of_read {α : Type} {b : Body} {f : Json → Verdict α}
    (refused : b.read depth f = .error reply) : 400 ≤ reply.status := by
  unfold Body.read at refused
  cases content : b.content depth with
  | error e =>
    rw [content] at refused
    cases refused
    exact Reply.le_status_of_content content
  | ok v =>
    rw [content] at refused
    exact Reply.le_status_of_orReply refused

def Means (r : Request) : Except Reply Action → Prop
  | .ok a => r.Asks a.method a.resource
  | .error reply => 400 ≤ reply.status

theorem means_bind {α : Type} {x : Except Reply α} {f : α → Action}
    (asks : ∀ v, r.Asks (f v).method (f v).resource) (failed : ∀ {reply}, x = .error reply →
      400 ≤ reply.status) : r.Means (x >>= fun v => pure (f v)) := by
  cases part : x with
  | ok v => exact asks v
  | error reply => exact failed part

theorem means_action (r : Request) (depth : Nat) : r.Means (r.action depth) := by
  unfold action
  split
  · show 400 ≤ 404
    decide
  · next path =>
    split
    -- The parts of a request that are read are its body and, with GET, its parameters.
    · next method => exact means_bind (fun _ => ⟨method, path⟩) le_status_of_read
    · next method => exact means_bind (fun _ => ⟨method, path⟩) le_status_of_read
    · next method => exact means_bind (fun _ => ⟨method, path⟩) le_status_of_read
    · next method => exact ⟨method, path⟩
    · next method => exact means_bind (fun _ => ⟨method, path⟩) Reply.le_status_of_orReply
    · next method => exact means_bind (fun _ => ⟨method, path⟩) Reply.le_status_of_orReply
    · next method => exact means_bind (fun _ => ⟨method, path⟩) Reply.le_status_of_orReply
    · next method => exact means_bind (fun _ => ⟨method, path⟩) le_status_of_read
    · next method => exact ⟨method, path⟩
    · next method => exact ⟨method, path⟩
    · next method => exact ⟨method, path⟩
    · show 400 ≤ 405
      decide

theorem asks_of_action (understood : r.action depth = .ok a) : r.Asks a.method a.resource := by
  have means := r.means_action depth
  rwa [understood] at means

theorem le_status_of_action (refused : r.action depth = .error reply) : 400 ≤ reply.status := by
  have means := r.means_action depth
  rwa [refused] at means

/-- A request to write a condition that was answered with success. -/
def Succeeds (r : Request) (reply : Reply) : Prop :=
  (r.Asks "POST" .conditions ∧ reply.status = 201) ∨
    ∃ id, (r.Asks "PUT" (.condition id) ∨ r.Asks "DELETE" (.condition id)) ∧ reply.status = 200

theorem not_succeeds_of_le (failed : 400 ≤ reply.status) : ¬ r.Succeeds reply := by
  rintro (⟨-, created⟩ | ⟨id, -, done⟩)
  · omega
  · omega

/-- What is no resource of conditions is only read. -/
theorem not_succeeds_of_resource {method : String} {x : Resource} (asked : r.Asks method x)
    (list : x ≠ .conditions) (single : ∀ id, x ≠ .condition id) : ¬ r.Succeeds reply := by
  rintro (⟨post, -⟩ | ⟨id, put | delete, -⟩)
  · exact list (asked.resource_eq post)
  · exact single id (asked.resource_eq put)
  · exact single id (asked.resource_eq delete)

end Request

end RoutineVisibility
