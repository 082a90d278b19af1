import RoutineVisibility.Json.Basic
import RoutineVisibility.Text.Quoted

/-! JSON text of a value, in ASCII: other characters are escaped in UTF-16 units. -/
namespace RoutineVisibility.Json

def unitEscape (n : Nat) : List Char :=
  '\\' :: 'u' :: Text.hexDigits 4 n

def writePoint (n : Nat) : List Char :=
  if n = '"'.toNat then ['\\', '"']
  else if n = '\\'.toNat then ['\\', '\\']
  else if n = '\n'.toNat then ['\\', 'n']
  else if 0x20 ≤ n ∧ n < 0x7f then [Char.ofNat n]
  else if n < 0x10000 then unitEscape n
  else
    unitEscape (0xd800 + (n - 0x10000) / 0x400) ++ unitEscape (0xdc00 + (n - 0x10000) % 0x400)

def writeString (s : Text) : String :=
  String.ofList ('"' :: s.points.flatMap writePoint ++ ['"'])

mutual
def write : Json → String
  | .null => "null"
  | .bool true => "true"
  | .bool false => "false"
  | .int n => toString n
  | .float x => Number.floatText x
  | .str s => writeString s
  | .arr items => "[" ++ String.intercalate "," (writeItems items) ++ "]"
  | .obj members => "\x7b" ++ String.intercalate "," (writeMembers members) ++ "\x7d"

def writeItems : List Json → List String
  | [] => []
  | x :: xs => write x :: writeItems xs

def writeMembers : List (Text × Json) → List String
  | [] => []
  | (n, v) :: rest => (writeString n ++ ":" ++ write v) :: writeMembers rest
end

end RoutineVisibility.Json
