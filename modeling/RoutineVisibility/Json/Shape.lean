import RoutineVisibility.Json.Basic

/-! How deep values nest, and which of them JSON text can express. -/
namespace RoutineVisibility.Json

mutual
/-- The number of arrays and objects around the innermost value, with those that are empty. -/
def depth : Json → Nat
  | .arr items => depthOfItems items + 1
  | .obj members => depthOfMembers members + 1
  | _ => 0

def depthOfItems : List Json → Nat
  | [] => 0
  | x :: xs => max (depth x) (depthOfItems xs)

def depthOfMembers : List (Text × Json) → Nat
  | [] => 0
  | (_, v) :: rest => max (depth v) (depthOfMembers rest)
end

mutual
/-- There is no text with a surrogate that stands alone, and no float that is infinite or no
number. -/
def writable : Json → Bool
  | .float x => !(x.isNaN || x.isInf)
  | .str s => s.isPlain
  | .arr items => writableItems items
  | .obj members => writableMembers members
  | _ => true

def writableItems : List Json → Bool
  | [] => true
  | x :: xs => writable x && writableItems xs

def writableMembers : List (Text × Json) → Bool
  | [] => true
  | (n, v) :: rest => n.isPlain && writable v && writableMembers rest
end

end RoutineVisibility.Json
