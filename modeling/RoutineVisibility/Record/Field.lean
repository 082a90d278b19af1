import RoutineVisibility.Json.Display

/-! Holders of fields: values of the right types, or whatever an unchecked record has there. -/
namespace RoutineVisibility

/-- What stands in a field that nobody checked. -/
inductive Field (α : Type) where
  | value (a : α)
  /-- A value of another type. -/
  | stray (v : Json)
  | absent

/-- A field that holds a value of its type. -/
abbrev Exact (α : Type) : Type := α

class Holding (F : Type → Type) where
  put {α : Type} : α → F α
  view {α : Type} : F α → Field α
  /-- A field with this content, if the holder can hold it. -/
  hold? {α : Type} : Field α → Option (F α)
  view_put {α : Type} (a : α) : view (put a) = .value a

export Holding (put view hold?)

instance : Holding Exact where
  put a := a
  view a := .value a
  hold?
    | .value a => some a
    | _ => none
  view_put _ := rfl

instance : Holding Field where
  put := .value
  view x := x
  hold? := some
  view_put _ := rfl

attribute [simp] Holding.view_put

@[simp] theorem view_exact {α : Type} (a : α) : view (F := Exact) a = .value a := rfl

namespace Field
variable {α β : Type}

def map (f : α → β) : Field α → Field β
  | .value a => .value (f a)
  | .stray v => .stray v
  | .absent => .absent

/-- The field as JSON; a missing field counts as null. -/
def json (enc : α → Json) : Field α → Json
  | .value a => enc a
  | .stray v => v
  | .absent => .null

def value? : Field α → Option α
  | .value a => some a
  | _ => none

/-- Content that names a record. -/
def sameKey : Field Text → Field Text → Bool
  | .value s, .value t => s == t
  | .stray v, .stray w => v.same w
  | _, _ => false

/-- A reference that may be null, as the name of a record. -/
def key : Field (Option Text) → Field Text
  | .value (some s) => .value s
  | .value none => .stray .null
  | .stray v => .stray v
  | .absent => .absent

/-- Numbers that equal a truth value count as it. -/
def isBool (b : Bool) : Field Bool → Bool
  | .value c => b == c
  | .stray v => v.same (.bool b)
  | .absent => false

def isValue [BEq α] (a : α) : Field α → Bool
  | .value b => a == b
  | _ => false

@[simp] theorem sameKey_value (s t : Text) : sameKey (.value s) (.value t) = (s == t) := rfl

@[simp] theorem key_some (s : Text) : key (.value (some s)) = .value s := rfl

@[simp] theorem isBool_value (b c : Bool) : isBool b (.value c) = (b == c) := rfl

@[simp] theorem isValue_value [BEq α] (a b : α) : isValue a (.value b) = (a == b) := rfl

end Field

def Json.ofOptional (s : Option Text) : Json :=
  s.elim .null .str

def Field.text (x : Field Text) : Text :=
  (x.json .str).display

@[simp] theorem Field.text_value (s : Text) : Field.text (.value s) = s := rfl

end RoutineVisibility
