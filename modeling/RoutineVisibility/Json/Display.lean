import RoutineVisibility.Json.Basic
import RoutineVisibility.Number.Numeral
import RoutineVisibility.Text.Quoted

/-! The text of a value inside a message. -/
namespace RoutineVisibility.Json

mutual
def displayInside : Json → String
  | .null => "None"
  | .bool true => "True"
  | .bool false => "False"
  | .int n => toString n
  | .float x => Number.floatText x
  | .str s => Text.quoted s
  | .arr items => "[" ++ String.intercalate ", " (displayItems items) ++ "]"
  | .obj members => "\x7b" ++ String.intercalate ", " (displayMembers members) ++ "\x7d"

def displayItems : List Json → List String
  | [] => []
  | x :: xs => displayInside x :: displayItems xs

def displayMembers : List (Text × Json) → List String
  | [] => []
  | (n, v) :: rest => (Text.quoted n ++ ": " ++ displayInside v) :: displayMembers rest
end

def display : Json → Text
  | .str s => s
  | v => displayInside v

mutual
/-- No integer has more digits than are printed. -/
def printable : Json → Bool
  | .int n => (Nat.toDigits 10 n.natAbs).length ≤ Number.digitLimit
  | .arr items => printableItems items
  | .obj members => printableMembers members
  | _ => true

def printableItems : List Json → Bool
  | [] => true
  | x :: xs => printable x && printableItems xs

def printableMembers : List (Text × Json) → Bool
  | [] => true
  | (_, v) :: rest => printable v && printableMembers rest
end

def printed (v : Json) : Except Number.NumeralFault Text :=
  if v.printable then .ok v.display else .error .unprintable

@[simp] theorem printable_null : printable .null = true := by
  simp [printable]

@[simp] theorem printable_str (s : Text) : printable (.str s) = true := by
  simp [printable]

@[simp] theorem display_str (s : Text) : display (.str s) = s := rfl

@[simp] theorem display_null : display .null = "None" := by
  simp [display, displayInside]

@[simp] theorem display_int (n : Int) : display (.int n) = toString n := by
  simp [display, displayInside]

end RoutineVisibility.Json
