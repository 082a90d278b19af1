import RoutineVisibility.Proofs.Evaluation.Missing
import RoutineVisibility.Proofs.Authoring.Judgement
import RoutineVisibility.Proofs.Calendar.LocalTime
import RoutineVisibility.Proofs.Service.Stores

/-! Requests that can be read are handled, unless their time cannot be converted to local time. -/
namespace RoutineVisibility

namespace Inquiry

def Convertible (q : Inquiry) (localOffset : Int) : Prop :=
  ∀ t ∈ q.time, t.Convertible localOffset

instance (q : Inquiry) (localOffset : Int) : Decidable (q.Convertible localOffset) :=
  inferInstanceAs (Decidable (∀ t ∈ q.time, _))

theorem isSome_context?_iff {q : Inquiry} {localOffset : Int} :
    (q.context? localOffset).isSome ↔ q.Convertible localOffset := by
  unfold context? Convertible
  cases q.time with
  | none => exact iff_of_true rfl nofun
  | some t => simp [Stamp.isSome_toLocal?_iff]

end Inquiry

namespace Action

def inquiry? : Action → Option Inquiry
  | .evaluate _ q => some q
  | .taskVisibility _ q => some q
  | .routineVisibility _ q => some q
  | .visibleTasks _ q => some q
  | _ => none

def Convertible (a : Action) (localOffset : Int) : Prop :=
  ∀ q ∈ a.inquiry?, q.Convertible localOffset

instance (a : Action) (localOffset : Int) : Decidable (a.Convertible localOffset) :=
  inferInstanceAs (Decidable (∀ q ∈ a.inquiry?, _))

end Action

namespace Reply

/-- A result, or a problem that a handler reports: a bad request, a missing record or a conflict. -/
def Handled : Reply → Prop
  | .ok _ => True
  | .created _ => True
  | .problem status _ => status = 400 ∨ status = 404 ∨ status = 409
  | .invalid _ _ => False
  | .broken => False

theorem handled_ok (body : Json) : (ok body).Handled :=
  trivial

theorem handled_created (body : Json) : (created body).Handled :=
  trivial

/-- A request whose time has to be converted is handled if that can be done, and breaks the service
down if not. -/
structure HandledIf (convertible : Prop) (reply : Reply) : Prop where
  handled : convertible → reply.Handled
  broken : ¬ convertible → reply = .broken

theorem Handled.handledIf {reply : Reply} (handled : reply.Handled) {convertible : Prop}
    (always : convertible) : reply.HandledIf convertible :=
  ⟨fun _ => handled, fun fails => absurd always fails⟩

theorem handled_ofFault {α : Type} {x : Except Fault α} (misses : OnlyMisses x) {f : Fault}
    (failed : x = .error f) : (ofFault f).Handled := by
  obtain ⟨kind, name, rfl⟩ := misses f failed
  exact .inr (.inl rfl)

end Reply

namespace Store
variable {s : Store Exact} {c : Condition Exact} {r : Rejection}

/-- Whatever a condition is rejected for, a handler reports it. -/
theorem handled_of_allow (rejected : s.allow c = .error r) : (Reply.ofRejection r).Handled := by
  rw [← c.held_exact, allow_eq] at rejected
  split at rejected
  · cases rejected
    exact .inl rfl
  · split at rejected
    · cases rejected
      exact .inr (.inl rfl)
    · next closed =>
      obtain ⟨before, target, after, path, -, -, -, rfl⟩ := closedCycle?_eq_some closed
      cases rejected
      exact .inl rfl
    · cases rejected

theorem handled_of_createCondition (rejected : s.createCondition c = .error r) :
    (Reply.ofRejection r).Handled := by
  rw [← c.held_exact, createCondition_eq, c.held_exact] at rejected
  split at rejected
  · cases rejected
    exact .inr (.inr rfl)
  · exact handled_of_allow (Except.map_eq_error_iff.1 rejected)

theorem handled_of_updateCondition (rejected : s.updateCondition c = .error r) :
    (Reply.ofRejection r).Handled := by
  rw [← c.held_exact, updateCondition_eq, c.held_exact] at rejected
  split at rejected
  · cases rejected
    exact .inr (.inl rfl)
  · split at rejected
    · exact handled_of_allow (Except.map_eq_error_iff.1 rejected)
    · cases rejected
      exact .inl rfl

theorem handled_of_deleteCondition {condition : Text}
    (rejected : s.deleteCondition condition = .error r) : (Reply.ofRejection r).Handled := by
  unfold deleteCondition at rejected
  split at rejected
  · cases rejected
  · cases rejected
    exact .inr (.inl rfl)

end Store

namespace Service
open Reply
variable {v : Service} {s : Store Exact} {setting : Setting} {q : Inquiry}

theorem handled_keep {reply : Reply} {written : Except Rejection (Store Exact)}
    (success : reply.Handled) (failure : ∀ r, written = .error r → (ofRejection r).Handled) :
    (v.keep reply written).1.Handled := by
  cases written with
  | error r => exact failure r rfl
  | ok t => exact success

theorem handledIf_inContext {reply : Context → Reply} (each : ∀ context, (reply context).Handled) :
    (inContext setting q reply).HandledIf (q.Convertible setting.clock.offset) := by
  have converted : (q.context? setting.clock.offset).isSome ↔ q.Convertible setting.clock.offset :=
    Inquiry.isSome_context?_iff
  unfold inContext
  cases context : q.context? setting.clock.offset with
  | some c => exact (each c).handledIf (converted.1 (by rw [context]; rfl))
  | none =>
    rw [context] at converted
    exact ⟨fun there => (nomatch converted.2 there), fun _ => rfl⟩

theorem handled_evaluation (condition : String) (person : Text) (context : Context) :
    (evaluation s setting condition person context).Handled := by
  unfold evaluation
  split
  · exact handled_ok _
  · next failed =>
      exact handled_ofFault (Store.onlyMisses_evaluateCondition setting person context condition)
        failed

theorem handled_visibility {x : Except Fault Bool} (misses : OnlyMisses x) (entity : String)
    (person : Text) : (visibility entity person x).Handled := by
  cases answer : x with
  | ok visible => exact handled_ok _
  | error f => exact handled_ofFault misses answer

theorem handled_taskList {x : Except Fault (List (Task Exact))} (misses : OnlyMisses x) :
    (taskList x).Handled := by
  cases answer : x with
  | ok tasks => exact handled_ok _
  | error f => exact handled_ofFault misses answer

/-- Whatever is asked for, the time of an inquiry is the one thing that can break the service
down. -/
theorem handledIf_performOn (v : Service) (s : Store Exact) (a : Action) :
    (v.performOn s a).1.HandledIf (a.Convertible v.setting.clock.offset) := by
  have ofInquiry {q : Inquiry} (asked : a.inquiry? = some q) :
      a.Convertible v.setting.clock.offset ↔ q.Convertible v.setting.clock.offset := by
    simp [Action.Convertible, asked]
  have noInquiry (none : a.inquiry? = none) : a.Convertible v.setting.clock.offset := by
    simp [Action.Convertible, none]
  cases a with
  | evaluate c q =>
    rw [ofInquiry rfl]
    exact handledIf_inContext fun context => handled_evaluation c q.person context
  | taskVisibility t q =>
    rw [ofInquiry rfl]
    exact handledIf_inContext fun context =>
      handled_visibility (s.onlyMisses_isTaskVisible v.setting q.person context t) t q.person
  | routineVisibility r q =>
    rw [ofInquiry rfl]
    exact handledIf_inContext fun context =>
      handled_visibility (s.onlyMisses_isRoutineVisible v.setting q.person context r) r q.person
  | visibleTasks r q =>
    rw [ofInquiry rfl]
    exact handledIf_inContext fun context =>
      handled_taskList (s.onlyMisses_visibleTasks v.setting q.person context r)
  | create c =>
    exact (handled_keep (handled_created _) fun r => Store.handled_of_createCondition).handledIf
      (noInquiry rfl)
  | replace id c =>
    refine Handled.handledIf ?_ (noInquiry rfl)
    rw [performOn_replace]
    split
    · exact .inl rfl
    · exact handled_keep (handled_ok _) fun r => Store.handled_of_updateCondition
  | delete id =>
    exact (handled_keep (handled_ok _) fun r => Store.handled_of_deleteCondition).handledIf
      (noInquiry rfl)
  | cycleCheck | dependents | recipes | health => exact (handled_ok _).handledIf (noInquiry rfl)

/-- Every request that can be read, to a service in any state that it reaches after its start, is
answered with a result or with a problem that its handler reports, unless it brings a time that has
no local time. -/
theorem handledIf_respond {setting : Setting} {depth dataDepth : Nat} {localOffset : Int}
    {text : String} {v : Service}
    (started : start setting depth (Store.ofText dataDepth localOffset text) = .ok v)
    (rs : List (Moment × Request)) (now : Moment) {r : Request} {a : Action}
    (understood : r.action depth = .ok a) :
    (((v.after rs).atTime now).respond r).1.HandledIf (a.Convertible setting.clock.offset) := by
  obtain ⟨s, rfl⟩ := exists_store_of_start started
  have later := (continues_after ⟨some s, setting, depth⟩ rs).trans (continues_atTime _ now)
  obtain ⟨t, stored⟩ := Option.isSome_iff_exists.1 later.configured
  have answered := handledIf_performOn ((after ⟨some s, setting, depth⟩ rs).atTime now) t a
  rw [later.offset] at answered
  rw [respond_of_action (by rw [later.depth, understood]), perform_of_store stored]
  exact answered

def errandText : String :=
  "\x7b\"persons\": [\x7b\"id\": \"P\"\x7d], \"routines\": [\x7b\"id\": \"R\"\x7d], " ++
    "\"tasks\": [\x7b\"id\": \"T\", \"routine_id\": \"R\"\x7d]\x7d"

def errand : Store Exact where
  persons := [⟨"P", ""⟩]
  routines := [⟨"R", "", .regular, .active, .daily, none⟩]
  tasks := [⟨"T", "R", "", .simple, .active, 0, none⟩]

def errandSetting : Setting := ⟨⟨.first, 0⟩, defaultResetTime⟩

def errandRequest (time : String) : Request where
  method := "GET"
  path := "/api/tasks/T/visibility"
  query := [("person_id", "P"), ("current_time", time)]

theorem start_errand :
    start errandSetting 3 (Store.ofText 3 0 errandText) = .ok ⟨some errand, errandSetting, 3⟩ := by
  rfl

theorem action_errandRequest {time : String} {q : Inquiry}
    (asked : (errandRequest time).inquiry = .ok q) :
    (errandRequest time).action 3 = .ok (.taskVisibility "T" q) := by
  have path : Resource.ofPath? (errandRequest time).path = some (.taskVisibility "T") := by
    show Resource.ofPath? "/api/tasks/T/visibility" = _
    decide +kernel
  unfold Request.action
  rw [path]
  show (do return Action.taskVisibility "T" (← (errandRequest time).inquiry)) = _
  rw [asked]
  rfl

theorem action_errandRequest_east : (errandRequest "0001-01-01T00:00:00+05:00").action 3 =
    .ok (.taskVisibility "T" ⟨"P", some ⟨.first, some 300⟩, none⟩) :=
  action_errandRequest rfl

/-- At the first midnight of the calendar five hours west of Greenwich, the request is handled, and
five hours east of it the service breaks down. -/
theorem errand_handledIf_respond :
    let v : Service := (⟨some errand, errandSetting, 3⟩ : Service).after
      [(.first, ⟨"GET", "/api/health", [], .empty⟩)]
    let reply (time : String) : Reply := ((v.atTime .first).respond (errandRequest time)).1
    start errandSetting 3 (Store.ofText 3 0 errandText) = .ok ⟨some errand, errandSetting, 3⟩ ∧
      (∃ a, (errandRequest "0001-01-01T00:00:00-05:00").action 3 = .ok a ∧ a.Convertible 0) ∧
      (reply "0001-01-01T00:00:00-05:00").Handled ∧
      (∃ a, (errandRequest "0001-01-01T00:00:00+05:00").action 3 = .ok a ∧ ¬ a.Convertible 0) ∧
      reply "0001-01-01T00:00:00+05:00" = .broken := by
  intro v reply
  have west : (errandRequest "0001-01-01T00:00:00-05:00").action 3 =
      .ok (.taskVisibility "T" ⟨"P", some ⟨.first, some (-300)⟩, none⟩) := action_errandRequest rfl
  refine ⟨start_errand, ⟨_, west, by decide⟩, ?_, ⟨_, action_errandRequest_east, by decide⟩, ?_⟩
  · exact (handledIf_respond start_errand _ .first west).handled (by decide)
  · exact (handledIf_respond start_errand _ .first action_errandRequest_east).broken (by decide)

/-- Not every request that can be read is handled: it may ask whether a task is visible at a time
whose UTC time lies before the calendar. -/
theorem not_forall_handled : ¬ ∀ (setting : Setting) (depth : Nat) (text : String) (v : Service),
    start setting depth (Store.ofText depth setting.clock.offset text) = .ok v →
      ∀ (rs : List (Moment × Request)) (now : Moment) (r : Request) (a : Action),
        r.action depth = .ok a →
        (((v.after rs).atTime now).respond r).1.Handled := by
  intro handled
  have answer : (((⟨some errand, errandSetting, 3⟩ : Service).atTime .first).respond
      (errandRequest "0001-01-01T00:00:00+05:00")).1 = .broken := by
    rw [respond_of_action action_errandRequest_east, perform_of_store rfl]
    exact (handledIf_performOn _ errand _).broken (by decide)
  have result :=
    handled errandSetting 3 errandText ⟨some errand, errandSetting, 3⟩ start_errand [] .first
      (errandRequest "0001-01-01T00:00:00+05:00") _ action_errandRequest_east
  unfold after at result
  rw [List.foldl_nil, answer] at result
  exact result

end Service
end RoutineVisibility
