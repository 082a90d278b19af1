import RoutineVisibility.Record.Violation

/-! Verdicts on the content of a record, with all faults of its fields. -/
namespace RoutineVisibility

/-- A step of the way to a value: into a field, to an item of a list, or to one of the types that it
may have. -/
inductive Step where
  | field (name : String)
  | item (index : Nat)
  | branch (type : String)
deriving DecidableEq, Repr

inductive Reason where
  | missing
  | noObject
  | noText
  | emptyText
  | tornText
  | noBool
  | unreadableBool
  | noInteger
  | unreadableInteger
  | fraction
  | notFinite
  | tooManyDigits
  | tooSmall
  | tooLarge
  | noFloat
  | unreadableFloat
  | noMember
  | noList
  | noStamp
  | unreadableStamp
  | stampRange
  | violation (v : Violation)
  | noBodyObject
  | noJson
deriving DecidableEq, Repr

def Reason.code : Reason → String
  | .missing => "missing"
  | .noObject => "model_type"
  | .noText => "string_type"
  | .emptyText => "string_too_short"
  | .tornText => "string_unicode"
  | .noBool => "bool_type"
  | .unreadableBool => "bool_parsing"
  | .noInteger => "int_type"
  | .unreadableInteger => "int_parsing"
  | .fraction => "int_from_float"
  | .notFinite => "finite_number"
  | .tooManyDigits => "int_parsing_size"
  | .tooSmall => "greater_than_equal"
  | .tooLarge => "less_than_equal"
  | .noFloat => "float_type"
  | .unreadableFloat => "float_parsing"
  | .noMember => "enum"
  | .noList => "list_type"
  | .noStamp => "datetime_type"
  | .unreadableStamp => "datetime_from_date_parsing"
  | .stampRange => "datetime_parsing"
  | .violation _ => "value_error"
  | .noBodyObject => "model_attributes_type"
  | .noJson => "json_invalid"

structure FieldError where
  path : List Step
  reason : Reason
deriving DecidableEq, Repr

/-- The text that goes with a fault; only broken rules have one. -/
def FieldError.message? (e : FieldError) : Option Text :=
  match e.reason with
  | .violation v => some ("Value error, " ++ v.message)
  | _ => none

inductive Refusal where
  | faults (errors : List FieldError)
  /-- A time stamp lies outside the calendar in local time. -/
  | outOfRange
deriving DecidableEq, Repr

namespace Refusal

def join : Refusal → Refusal → Refusal
  | .faults es, .faults fs => .faults (es ++ fs)
  | _, _ => .outOfRange

/-- The same refusal, seen from one step further out. -/
def inside (step : Step) : Refusal → Refusal
  | .faults es => .faults (es.map fun e => { e with path := step :: e.path })
  | .outOfRange => .outOfRange

end Refusal

inductive Verdict (α : Type) where
  | accept (a : α)
  | refuse (r : Refusal)

namespace Verdict
variable {α β : Type}

def fault (reason : Reason) : Verdict α :=
  .refuse (.faults [⟨[], reason⟩])

instance : Applicative Verdict where
  pure := .accept
  map f
    | .accept a => .accept (f a)
    | .refuse r => .refuse r
  seq f x :=
    match f, x () with
    | .accept f, .accept a => .accept (f a)
    | .accept _, .refuse r => .refuse r
    | .refuse r, .accept _ => .refuse r
    | .refuse r, .refuse s => .refuse (r.join s)

@[simp] theorem map_accept (f : α → β) (a : α) : f <$> Verdict.accept a = .accept (f a) := rfl

theorem map_eq_accept {f : α → β} {x : Verdict α} {b : β} :
    f <$> x = .accept b ↔ ∃ a, x = .accept a ∧ f a = b := by
  cases x <;> simp

theorem seq_eq_accept {f : Verdict (α → β)} {x : Verdict α} {b : β} :
    f <*> x = .accept b ↔ ∃ g a, f = .accept g ∧ x = .accept a ∧ g a = b := by
  cases f <;> cases x <;> simp [Seq.seq]

def refusal? : Verdict α → Option Refusal
  | .accept _ => none
  | .refuse r => some r

def inside (step : Step) : Verdict α → Verdict α
  | .accept a => .accept a
  | .refuse r => .refuse (r.inside step)

/-- Goes on only with an accepted value. -/
def andThen (x : Verdict α) (f : α → Verdict β) : Verdict β :=
  match x with
  | .accept a => f a
  | .refuse r => .refuse r

/-- An accepted record has to keep its rules. -/
def obeying (x : Verdict α) (rule : α → Option Violation) : Verdict α :=
  x.andThen fun a =>
    match rule a with
    | none => .accept a
    | some v => fault (.violation v)

/-- Every item of a list; faults know their index. -/
def items (f : Json → Verdict α) : Nat → List Json → Verdict (List α)
  | _, [] => .accept []
  | n, v :: rest => List.cons <$> (f v).inside (.item n) <*> items f (n + 1) rest

theorem obeying_eq_accept {x : Verdict α} {rule : α → Option Violation} {a : α} :
    x.obeying rule = .accept a ↔ x = .accept a ∧ rule a = none := by
  cases x with
  | refuse r => simp [obeying, andThen]
  | accept b =>
    cases h : rule b with
    | none =>
      simp only [obeying, andThen, h, accept.injEq]
      exact ⟨fun e => ⟨e, e ▸ h⟩, fun e => e.1⟩
    | some v =>
      simp only [obeying, andThen, h, fault, accept.injEq, reduceCtorEq, false_iff, not_and]
      intro e
      simp [← e, h]

end Verdict
end RoutineVisibility
