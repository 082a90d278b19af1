import RoutineVisibility.Record.Verdict

/-! Values of fields from JSON. Truth values, numbers and time stamps are read leniently. -/
namespace RoutineVisibility.Coerce
open Verdict Number Text

def text : Json → Verdict Text
  | .str s => .accept s
  | _ => fault .noText

def nonemptyText : Json → Verdict Text
  | .str (.plain s) => if s.isEmpty then fault .emptyText else .accept s
  | .str (.torn _) => fault .tornText
  | _ => fault .noText

def orNull {α : Type} (f : Json → Verdict α) : Json → Verdict (Option α)
  | .null => .accept none
  | v => some <$> f v

def member {α : Type} [Named α] : Json → Verdict α
  | .str (.plain s) =>
    match Named.ofName? s with
    | some a => .accept a
    | none => fault .noMember
  | .str (.torn _) => fault .tornText
  | _ => fault .noMember

/-- Any text: an operator of the language or one that is not known. Other values fail for both. -/
def operator : Json → Verdict Operator
  | .str s => .accept (.ofName s)
  | _ =>
    .refuse (.faults [⟨[.branch "str-enum[ConditionOperator]"], .noMember⟩,
      ⟨[.branch "str"], .noText⟩])

def falseWords : List String := ["0", "off", "f", "false", "n", "no"]

def trueWords : List String := ["1", "on", "t", "true", "y", "yes"]

def wholeFloat? (x : Float) : Option Int :=
  let bits := x.toBits.toNat
  let magnitude := bits % signBit
  let (num, den) := fractionOfBits magnitude
  if magnitude < infinityBits ∧ num % den = 0 then
    some (if signBit ≤ bits then -(num / den : Nat) else (num / den : Nat))
  else none

def isInt64 (n : Int) : Bool :=
  -9223372036854775808 ≤ n && n ≤ 9223372036854775807

def boolOfInt (n : Int) : Verdict Bool :=
  if n = 0 then .accept false else if n = 1 then .accept true else fault .unreadableBool

def bool : Json → Verdict Bool
  | .bool b => .accept b
  | .str (.plain s) =>
    if falseWords.contains s.toLower then .accept false
    else if trueWords.contains s.toLower then .accept true
    else fault .unreadableBool
  | .str (.torn _) => fault .tornText
  | .int n => if isInt64 n then boolOfInt n else fault .noBool
  | .float x =>
    match wholeFloat? x with
    | some n => if isInt64 n then boolOfInt n else fault .noBool
    | none => fault .noBool
  | _ => fault .noBool

/-- Digits with single underscores between them; gives the digits alone. -/
def spacedDigits? : List Char → Option (List Char)
  | [] => none
  | [c] => if isAsciiDigit c then some [c] else none
  | c :: '_' :: rest => if isAsciiDigit c then (spacedDigits? rest).map (c :: ·) else none
  | c :: rest => if isAsciiDigit c then (spacedDigits? rest).map (c :: ·) else none

def trimSpaces (s : String) : List Char :=
  trimBy isSpace s.toList

/-- An optional sign, digits, and perhaps a point and zeros. -/
def integerInText? (s : List Char) : Option Int :=
  let (negative, s) := takeSign s
  let (whole, fraction) := s.span (· ≠ '.')
  let zerosOnly := match fraction with
    | [] => true
    | _ :: zeros => !zeros.isEmpty && zeros.all (· = '0')
  if zerosOnly then
    (spacedDigits? whole).map fun ds => if negative then -(digitsValue ds : Int) else digitsValue ds
  else none

def integer : Json → Verdict Int
  | .int n => .accept n
  | .bool b => .accept (Json.boolNumber b)
  | .float x =>
    if x.isNaN || x.isInf then fault .notFinite
    else
      match wholeFloat? x with
      | some n => if isInt64 n then .accept n else fault .tooManyDigits
      | none => fault .fraction
  | .str (.plain s) =>
    let cs := trimSpaces s
    if digitLimit < cs.length then fault .tooManyDigits
    else
      match integerInText? cs with
      | some n => .accept n
      | none => fault .unreadableInteger
  | .str (.torn _) => fault .tornText
  | _ => fault .noInteger

/-- A day of the week, 0 for Sunday. -/
def weekday (v : Json) : Verdict (Fin 7) :=
  (integer v).andThen fun n =>
    if n < 0 then fault .tooSmall
    else if h : n.toNat < 7 then .accept ⟨n.toNat, h⟩
    else fault .tooLarge

/-- The parts of a decimal numeral around its point and its exponent mark; underscores stand between
digits only. -/
def decimalInText? (s : List Char) : Option Decimal := do
  let (negative, s) := takeSign s
  let (mantissa, power) := s.span fun c => c ≠ 'e' && c ≠ 'E'
  let (whole, fraction) := mantissa.span (· ≠ '.')
  let part (ds : List Char) : Option (List Char) := if ds.isEmpty then some [] else spacedDigits? ds
  let whole ← part whole
  let fraction ← part (fraction.drop 1)
  guard !(whole.isEmpty && fraction.isEmpty)
  let exponent : Int ← match power with
    | [] => some 0
    | _ :: rest =>
      let (down, ds) := takeSign rest
      (spacedDigits? ds).map fun ds => if down then -(digitsValue ds : Int) else digitsValue ds
  return ⟨negative, digitsValue (whole ++ fraction), exponent - fraction.length⟩

def floatInText? (s : List Char) : Option Float :=
  let (negative, rest) := takeSign s
  let word := (String.ofList rest).toLower
  if word = "inf" ∨ word = "infinity" then
    some (Float.ofBits (UInt64.ofNat (infinityBits + if negative then signBit else 0)))
  else if word = "nan" then some (Float.ofBits 0x7ff8000000000000)
  else (decimalInText? s).map (·.toFloat)

def float : Json → Verdict Float
  | .float x => .accept x
  | .int n =>
    match floatOfInt? n with
    | some x => .accept x
    | none => fault .noFloat
  | .bool b => .accept (if b then 1.0 else 0.0)
  | .str (.plain s) =>
    match floatInText? (trimSpaces s) with
    | some x => .accept x
    | none => fault .unreadableFloat
  | .str (.torn _) => fault .tornText
  | _ => fault .noFloat

def list {α : Type} (f : Json → Verdict α) : Json → Verdict (List α)
  | .arr vs => items f 0 vs
  | _ => fault .noList

def ofStampFault : StampFault → Reason
  | .form => .unreadableStamp
  | .range => .stampRange

def stamp (v : Json) : Verdict Stamp :=
  let result (r : Except StampFault Stamp) : Verdict Stamp := match r with
    | .ok s => .accept s
    | .error e => fault (ofStampFault e)
  match v with
  | .str (.plain s) => result (Stamp.ofText s)
  | .str (.torn _) => fault .tornText
  | .int n => if (floatOfInt? n).isSome then result (Stamp.ofUnix n 0) else fault .noStamp
  | .float x => result (Stamp.ofFloat x)
  | _ => fault .noStamp

def moment (localOffset : Int) (v : Json) : Verdict Moment :=
  (stamp v).andThen fun s =>
    match s.toLocal? localOffset with
    | some m => .accept m
    | none => .refuse .outOfRange

end RoutineVisibility.Coerce
