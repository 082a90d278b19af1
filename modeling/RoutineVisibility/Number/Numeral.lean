import RoutineVisibility.Text.Blank
import RoutineVisibility.Text.Digit
import RoutineVisibility.Number.Binary64

/-! Numerals at the start of a text, in the digits of any script. -/
namespace RoutineVisibility.Number
open Text

inductive NumeralFault where
  /-- An integer with more digits than `digitLimit`; leading zeros count, the sign does not. -/
  | tooManyDigits (count : Nat)
  /-- An integer with more digits than are printed. -/
  | unprintable
  | beyondFloat
deriving DecidableEq, Repr

def digitLimit : Nat := 4300

def NumeralFault.message : NumeralFault → String
  | .tooManyDigits n =>
    s!"Exceeds the limit ({digitLimit} digits) for integer string conversion: " ++
      s!"value has {n} digits; " ++ "use sys.set_int_max_str_digits() to increase the limit"
  | .unprintable =>
    s!"Exceeds the limit ({digitLimit} digits) for integer string conversion; " ++
      "use sys.set_int_max_str_digits() to increase the limit"
  | .beyondFloat => "int too large to convert to float"

/-- A sign, if there is one; true for a minus. -/
def takeSign : List Char → Bool × List Char
  | '-' :: s => (true, s)
  | '+' :: s => (false, s)
  | s => (false, s)

def takeDigits (s : List Char) : List Char × List Char :=
  (s.takeWhile isDigit, s.dropWhile isDigit)

/-- Sign and digits of the integer that a text begins with, after blanks. -/
def leadingInteger? (s : List Char) : Option (Bool × List Char) :=
  let (negative, s) := takeSign (s.dropWhile isBlank)
  match (takeDigits s).1 with
  | [] => none
  | ds => some (negative, ds)

def integerValue (negative : Bool) (ds : List Char) : Except NumeralFault Int :=
  if digitLimit < ds.length then .error (.tooManyDigits ds.length)
  else .ok (if negative then -(digitsValue ds : Int) else digitsValue ds)

/-- The exponent part, if it is complete: the mark, a sign if there is one, and digits. -/
def takeExponent : List Char → Int
  | c :: s =>
    if c = 'e' ∨ c = 'E' then
      let (negative, s) := takeSign s
      let n : Int := digitsValue (takeDigits s).1
      if negative then -n else n
    else 0
  | [] => 0

/-- The decimal that a text begins with, after blanks: digits on at least one side of the point. -/
def leadingDecimal? (s : List Char) : Option Decimal :=
  let (negative, s) := takeSign (s.dropWhile isBlank)
  let (whole, s) := takeDigits s
  let (fraction, rest) := match s with
    | '.' :: t => takeDigits t
    | _ => ([], s)
  if whole.isEmpty && fraction.isEmpty then none
  else some ⟨negative, digitsValue (whole ++ fraction), takeExponent rest - fraction.length⟩

end RoutineVisibility.Number
