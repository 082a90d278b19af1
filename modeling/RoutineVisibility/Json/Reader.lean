import RoutineVisibility.Json.Token

/-! JSON text to a value, with a stack of the arrays and objects that are still open. -/
namespace RoutineVisibility.Json
open Number

inductive ReadFault where
  | malformed (position : Nat)
  | number (fault : NumeralFault)
  | tooDeep
deriving DecidableEq, Repr

/-- An array or an object that is still open; items are held in reverse. An object knows the name of
the member whose value is being read. -/
inductive Frame where
  | array (items : List Json)
  | object (members : List (Text × Json)) (name : Text)

/-- What the reader looks for next. -/
inductive Expect where
  | value
  | firstItem
  | firstName (members : List (Text × Json))
  | name (members : List (Text × Json))
  | colon
  /-- After this value: a comma or a bracket, or the end if nothing is open. -/
  | after (v : Json)

/-- Where the value `v` ends, it joins the innermost open array or object. -/
def close (v : Json) : List Frame → Option (Frame × List Frame)
  | [] => none
  | .array items :: rest => some (.array (v :: items), rest)
  | .object members name :: rest => some (.object (setMember name v members) name, rest)

def beginValue (depth : Nat) (stack : List Frame) (p : Nat) :
    Token → Except ReadFault (Expect × List Frame)
  | .openArray =>
    if stack.length < depth then .ok (.firstItem, .array [] :: stack) else .error .tooDeep
  | .openObject => if stack.length < depth then .ok (.firstName [], stack) else .error .tooDeep
  | .literal v => .ok (.after v, stack)
  | .string (.ok s) => .ok (.after (.str s), stack)
  | .string (.error q) => .error (.malformed q)
  | .number (.ok v) => .ok (.after v, stack)
  | .number (.error f) => .error (.number f)
  | _ => .error (.malformed p)

def beginMember (members : List (Text × Json)) (stack : List Frame) (p : Nat) :
    Token → Except ReadFault (Expect × List Frame)
  | .string (.ok s) => .ok (.colon, .object members s :: stack)
  | .string (.error q) => .error (.malformed q)
  | _ => .error (.malformed p)

def step (depth : Nat) : Expect × List Frame → Placed → Except ReadFault (Expect × List Frame)
  | (.value, stack), ⟨p, t⟩ => beginValue depth stack p t
  | (.firstItem, stack), ⟨p, t⟩ =>
    match t with
    | .closeArray => .ok (.after (.arr []), stack.drop 1)
    | t => beginValue depth stack p t
  | (.firstName members, stack), ⟨p, t⟩ =>
    match t with
    | .closeObject => .ok (.after (.obj members), stack)
    | t => beginMember members stack p t
  | (.name members, stack), ⟨p, t⟩ => beginMember members stack p t
  | (.colon, stack), ⟨p, t⟩ =>
    match t with
    | .colon => .ok (.value, stack)
    | _ => .error (.malformed p)
  | (.after v, stack), ⟨p, t⟩ =>
    match close v stack, t with
    | some (.array items, below), .comma => .ok (.value, .array items :: below)
    | some (.array items, below), .closeArray => .ok (.after (.arr items.reverse), below)
    | some (.object members _, below), .comma => .ok (.name members, below)
    | some (.object members _, below), .closeObject => .ok (.after (.obj members), below)
    | _, _ => .error (.malformed p)

def read (depth : Nat) (text : String) : Except ReadFault Json :=
  let s := text.toList
  match (tokens s).foldlM (step depth) (.value, []) with
  | .ok (.after v, []) => .ok v
  | .ok _ => .error (.malformed s.length)
  | .error e => .error e

end RoutineVisibility.Json
