import RoutineVisibility.Text.Blank
import RoutineVisibility.Text.Digit

/-! Times of day to the minute, written `HH:MM` or `H:MM` with blanks around them. -/
namespace RoutineVisibility
open Text

structure TimeOfDay where
  /-- Minutes since midnight. -/
  minute : Nat
  minute_lt : minute < 1440 := by decide
deriving DecidableEq, Repr

namespace TimeOfDay

/-- Hours below 24 and minutes below 60. -/
def ofClock? (h m : Nat) : Option TimeOfDay :=
  if b : h ≤ 23 ∧ m ≤ 59 then some ⟨60 * h + m, by omega⟩ else none

def ofDigits? (h m : List Char) : Option TimeOfDay :=
  if (h ++ m).all isDigit then ofClock? (digitsValue h) (digitsValue m) else none

/-- One or two digits, a colon and two digits. -/
def parse? (s : String) : Option TimeOfDay :=
  match trimBlanks s.toList with
  | [h, ':', m, n] => ofDigits? [h] [m, n]
  | [h, i, ':', m, n] => ofDigits? [h, i] [m, n]
  | _ => none

end TimeOfDay
end RoutineVisibility
