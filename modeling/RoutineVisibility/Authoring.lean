import RoutineVisibility.Controls.Search

/-! Writes of conditions, which are rejected unless the condition may stand in the store. -/
namespace RoutineVisibility

inductive Rejection where
  | alreadyExists (condition : Text)
  | noChecks (condition : Text)
  | moved (condition owner newOwner : Text)
  /-- The check of the target would close this cycle. -/
  | cycle (source target : Text) (path : List Text) (description : Text)
  | fault (f : Fault)
deriving DecidableEq, Repr

def Rejection.message : Rejection → Text
  | .alreadyExists c => "Condition '" ++ c ++ "' already exists"
  | .noChecks c => "Condition '" ++ c ++ "' needs at least one check"
  | .moved c owner newOwner =>
    "Condition '" ++ c ++ "' cannot move from routine '" ++ owner ++ "' to '" ++ newOwner ++ "'"
  | .cycle _ _ _ description => "Circular dependency detected: " ++ description
  | .fault f => f.message

namespace Store
variable {F : Type → Type} [Holding F]

/-- The first target of a condition that would close a cycle. -/
def closedCycle? (s : Store F) (source : Text) (targets : List Text) : Option Rejection :=
  targets.findSome? fun target =>
    (s.cyclePath? source target).map fun path => .cycle source target path (s.describePath path)

/-- A condition that may be written. -/
def allow (s : Store F) (c : Condition F) : Except Rejection Unit := do
  if c.checks.isEmpty then throw (.noChecks (view c.id).text)
  let _ ← (require .routine s.routines (view c.routineId)).mapError .fault
  match s.closedCycle? (view c.routineId).text c.routineTargets with
  | some r => throw r
  | none => return

def createCondition (s : Store F) (c : Condition F) : Except Rejection (Store F) := do
  if (← (lookup? s.conditions (view c.id)).mapError .fault).isSome then
    throw (.alreadyExists (view c.id).text)
  s.allow c
  return s.add (.condition c)

def updateCondition (s : Store F) (c : Condition F) : Except Rejection (Store F) := do
  let old ← (require .condition s.conditions (view c.id)).mapError .fault
  if !(view old.routineId).sameKey (view c.routineId) then
    throw (.moved (view c.id).text (view old.routineId).text (view c.routineId).text)
  s.allow c
  return s.add (.condition c)

def deleteCondition (s : Store F) (condition : Text) : Except Rejection (Store F) :=
  if Table.has s.conditions (.value condition) then .ok (s.eraseCondition (.value condition))
  else .error (.fault (.notFound .condition condition))

end Store
end RoutineVisibility
