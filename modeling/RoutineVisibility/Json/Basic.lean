import RoutineVisibility.Number.Shortest
import RoutineVisibility.Text.Basic

/-! JSON values, with integers and floats told apart and members in the order in which names first
occur. -/
namespace RoutineVisibility

inductive Json where
  | null
  | bool (b : Bool)
  | int (n : Int)
  | float (x : Float)
  | str (s : Text)
  | arr (items : List Json)
  | obj (members : List (Text × Json))
deriving Inhabited

namespace Json

/-- Sets a member; a name that is there already keeps its place. -/
def setMember (name : Text) (v : Json) : List (Text × Json) → List (Text × Json)
  | [] => [(name, v)]
  | (n, w) :: rest => if n = name then (n, v) :: rest else (n, w) :: setMember name v rest

def findMember? (members : List (Text × Json)) (name : Text) : Option Json :=
  (members.find? fun m => m.1 == name).map (·.2)

def get? : Json → Text → Option Json
  | .obj members, name => findMember? members name
  | _, _ => none

/-- Zero, the empty text, the empty array, the empty object, false and null do not hold. -/
def holds : Json → Bool
  | .null => false
  | .bool b => b
  | .int n => n != 0
  | .float x => !(x == 0)
  | .str s => !s.isEmpty
  | .arr items => !items.isEmpty
  | .obj members => !members.isEmpty

/-- How the exact value of a float compares with an integer; NaN does not. -/
def floatCompare? (x : Float) (n : Int) : Option Ordering :=
  let bits := x.toBits.toNat
  let magnitude := bits % Number.signBit
  let negative := decide (Number.signBit ≤ bits)
  let (num, den) := Number.fractionOfBits magnitude
  if Number.infinityBits < magnitude then none
  else if magnitude = Number.infinityBits then some (if negative then .lt else .gt)
  else some (compare (if negative then -(num : Int) else num) (n * den))

def floatIsInt (x : Float) (n : Int) : Bool :=
  floatCompare? x n == some .eq

def boolNumber (b : Bool) : Int :=
  if b then 1 else 0

mutual
/-- Equality by meaning: booleans count as the numbers 0 and 1, and numbers compare by value. -/
def same : Json → Json → Bool
  | .null, .null => true
  | .bool a, .bool b => a == b
  | .bool a, .int n => boolNumber a == n
  | .int n, .bool b => n == boolNumber b
  | .bool a, .float x => floatIsInt x (boolNumber a)
  | .float x, .bool b => floatIsInt x (boolNumber b)
  | .int m, .int n => m == n
  | .int n, .float x => floatIsInt x n
  | .float x, .int n => floatIsInt x n
  | .float x, .float y => x == y
  | .str s, .str t => s == t
  | .arr xs, .arr ys => sameItems xs ys
  | .obj xs, .obj ys => xs.length == ys.length && sameMembers xs ys
  | _, _ => false

def sameItems : List Json → List Json → Bool
  | [], [] => true
  | x :: xs, y :: ys => same x y && sameItems xs ys
  | _, _ => false

/-- Every member of the first list has a partner of its name in the second. -/
def sameMembers : List (Text × Json) → List (Text × Json) → Bool
  | [], _ => true
  | (n, v) :: rest, ys =>
    (match findMember? ys n with
      | some w => same v w
      | none => false) && sameMembers rest ys
end

/-- Only these can serve as a key: an array or an object cannot. -/
def isKey : Json → Bool
  | .arr _ => false
  | .obj _ => false
  | _ => true

end Json
end RoutineVisibility
