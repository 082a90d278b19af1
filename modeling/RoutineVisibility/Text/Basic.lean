/-! Texts, plain ones and those with a surrogate that stands alone. -/
namespace RoutineVisibility

namespace Text

def isSurrogate (point : Nat) : Bool :=
  0xd800 ≤ point && point < 0xe000

/-- Code points with a surrogate among them, which is no character. -/
structure Torn where
  points : List Nat
  alone : points.any isSurrogate
deriving DecidableEq, Repr

end Text

inductive Text where
  | plain (s : String)
  | torn (t : Text.Torn)
deriving DecidableEq, Repr

instance : Inhabited Text := ⟨.plain ""⟩

instance : Coe String Text := ⟨.plain⟩

namespace Text

def points : Text → List Nat
  | .plain s => s.toList.map Char.toNat
  | .torn t => t.points

def ofPoints (points : List Nat) : Text :=
  if alone : points.any isSurrogate then .torn ⟨points, alone⟩
  else .plain (String.ofList (points.map Char.ofNat))

def append : Text → Text → Text
  | .plain s, .plain t => .plain (s ++ t)
  | s, t => ofPoints (s.points ++ t.points)

instance : Append Text := ⟨append⟩

def intercalate (separator : Text) : List Text → Text
  | [] => ""
  | [t] => t
  | t :: ts => t ++ separator ++ intercalate separator ts

def isPlain : Text → Bool
  | .plain _ => true
  | .torn _ => false

def isEmpty : Text → Bool
  | .plain s => s.isEmpty
  | .torn _ => false

/-- The text to a reader of characters. To it, a surrogate is U+FFFD: no digit, letter or blank. -/
def shown : Text → String
  | .plain s => s
  | .torn t =>
    String.ofList (t.points.map fun p => if isSurrogate p then '\ufffd' else Char.ofNat p)

@[simp] theorem shown_plain (s : String) : (plain s).shown = s := rfl

end Text
end RoutineVisibility
