import RoutineVisibility.Evaluation.Check

/-! Evaluations of conditions. All checks see one moment, and a check that fails does not fail its
condition. -/
namespace RoutineVisibility
variable {F : Type → Type} [Holding F]

/-- A condition without checks is never met, and neither is one of a logic that nobody knows. -/
def combine (logic : Option Logic) (results : List Bool) : Bool :=
  if results.isEmpty then false
  else
    match logic with
    | some .and => results.all id
    | some .or => results.any id
    | none => false

structure Outcome where
  checkId : Text
  operator : Text
  /-- The answer of the check before its negation. -/
  result : Bool
  negate : Bool
  finalResult : Bool
  error : Option Text
deriving DecidableEq, Repr

structure Evaluation where
  conditionId : Text
  result : Bool
  checks : List Outcome
  reason : Option Text
deriving DecidableEq, Repr

def Check.operatorName (c : Check F) : Except Fault Text :=
  match view c.operator with
  | .value op => .ok op.name
  | .stray v => v.printed.mapError .numeral
  | .absent => .error .noField

/-- A field that has to be there. -/
def Field.present {α : Type} (enc : α → Json) : Field α → Except Fault Json
  | .value a => .ok (enc a)
  | .stray v => .ok v
  | .absent => .error .noField

namespace Outcome

/-- An outcome has fields of the right types, also where the check has not. -/
def ofFields (id : Json) (operator : Text) (result negate final : Json) (error : Option Text) :
    Verdict Outcome :=
  (fun id result negate final => ⟨id, operator, result, negate, final, error⟩)
    <$> (Coerce.text id).inside (.field "check_id")
    <*> (Coerce.bool result).inside (.field "result")
    <*> (Coerce.bool negate).inside (.field "negate")
    <*> (Coerce.bool final).inside (.field "final_result")

def ofAnswer (c : Check F) (answer : Except Fault (F Bool)) : Except Fault Outcome := do
  let operator ← c.operatorName
  let id ← (view c.id).present .str
  let negate := (view c.negate).json .bool
  match answer with
  | .ok b =>
    let result := (view b).json .bool
    let final := if negate.holds then .bool !result.holds else result
    (ofFields id operator result negate final none).orFault
  | .error f => (ofFields id operator (.bool false) negate (.bool false) (some f.message)).orFault

@[simp] theorem ofAnswer_ok (c : Check Exact) (b : Bool) :
    ofAnswer c (.ok b) =
      .ok ⟨c.id, Operator.name c.operator, b, c.negate, if c.negate then !b else b, none⟩ := by
  obtain ⟨id, op, negate⟩ := c
  cases negate <;> rfl

@[simp] theorem ofAnswer_error (c : Check Exact) (f : Fault) :
    ofAnswer c (.error f) = .ok ⟨c.id, Operator.name c.operator, false, c.negate, false,
      some f.message⟩ := rfl

/-- The failure of a check in the words of a reason. -/
def failure? (o : Outcome) : Option Text :=
  o.error.map fun e => "check '" ++ o.checkId ++ "' failed: " ++ e

def toJson (o : Outcome) : Json :=
  .obj [("check_id", .str o.checkId), ("operator", .str o.operator), ("result", .bool o.result),
    ("negate", .bool o.negate), ("final_result", .bool o.finalResult),
    ("error", .ofOptional o.error)]

end Outcome

namespace Evaluation

def reasonOf (outcomes : List Outcome) : Option Text :=
  match outcomes.filterMap Outcome.failure? with
  | [] => if outcomes.isEmpty then some "condition has no checks" else none
  | failures => some (Text.intercalate "; " failures)

def ofOutcomes (conditionId : Text) (logic : Option Logic) (outcomes : List Outcome) : Evaluation :=
  let reason := reasonOf outcomes
  ⟨conditionId, reason.isNone && combine logic (outcomes.map (·.finalResult)), outcomes, reason⟩

def toJson (e : Evaluation) : Json :=
  .obj [("condition_id", .str e.conditionId), ("result", .bool e.result),
    ("checks", .arr (e.checks.map (·.toJson))), ("reason", .ofOptional e.reason)]

end Evaluation

def Check.outcome (c : Check F) (s : Store F) (setting : Setting) (person : Text)
    (context : Context) : Except Fault Outcome :=
  Outcome.ofAnswer c (c.evaluate s setting person context)

def Condition.evaluate (c : Condition F) (s : Store F) (setting : Setting) (person : Text)
    (context : Context) : Except Fault Evaluation := do
  let outcomes ← c.checks.mapM fun check =>
    check.outcome s setting person (context.frozen setting.clock)
  let id ← (view c.id).present .str
  let id ← ((Coerce.text id).inside (.field "condition_id")).orFault
  return Evaluation.ofOutcomes id (view c.logic).value? outcomes

namespace Store

def requirePerson (s : Store F) (person : Text) : Except Fault Unit := do
  let _ ← require .person s.persons (.value person)

def evaluateCondition (s : Store F) (setting : Setting) (condition : Field Text) (person : Text)
    (context : Context) : Except Fault Evaluation := do
  let c ← require .condition s.conditions condition
  s.requirePerson person
  c.evaluate s setting person context

end Store
end RoutineVisibility
