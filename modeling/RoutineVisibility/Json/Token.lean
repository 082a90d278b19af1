import RoutineVisibility.Json.Basic
import RoutineVisibility.Number.Numeral

/-! JSON text as tokens with their positions, counted in characters. -/
namespace RoutineVisibility.Json
open Number Text

inductive Token where
  | openArray
  | closeArray
  | openObject
  | closeObject
  | comma
  | colon
  | literal (v : Json)
  /-- The text, or the position of the fault inside it. -/
  | string (s : Except Nat Text)
  | number (v : Except NumeralFault Json)
  | unknown

structure Placed where
  position : Nat
  token : Token

def isGap (c : Char) : Bool :=
  c = ' ' || c = '\t' || c = '\n' || c = '\r'

def unit? (a b c d : Char) : Option Nat := do
  let a ← hexValue? a
  let b ← hexValue? b
  let c ← hexValue? c
  let d ← hexValue? d
  return ((a * 16 + b) * 16 + c) * 16 + d

def shortEscape? : Char → Option Char
  | '"' => some '"'
  | '\\' => some '\\'
  | '/' => some '/'
  | 'b' => some '\x08'
  | 'f' => some '\x0c'
  | 'n' => some '\n'
  | 'r' => some '\r'
  | 't' => some '\t'
  | _ => none

/-- A high surrogate and the low one after it are one character. -/
def joinUnits : List Nat → List Nat
  | n :: m :: rest =>
    if 0xd800 ≤ n ∧ n < 0xdc00 ∧ 0xdc00 ≤ m ∧ m < 0xe000 then
      (0x10000 + (n - 0xd800) * 0x400 + (m - 0xdc00)) :: joinUnits rest
    else n :: joinUnits (m :: rest)
  | units => units

/-- Reads a string after its opening quote, which stands at `start`. An escape in hexadecimal digits
needs a character after it. The result is the fault's position, or the units in reverse, the
position after the closing quote and the text from there on. -/
def scanString (start : Nat) : Nat → List Nat → List Char → Except Nat (List Nat × Nat × List Char)
  | _, _, [] => .error start
  | p, units, '"' :: rest => .ok (units, p + 1, rest)
  | _, _, ['\\'] => .error start
  | p, units, '\\' :: 'u' :: a :: b :: c :: d :: rest =>
    match unit? a b c d, rest with
    | some n, _ :: _ => scanString start (p + 6) (n :: units) rest
    | _, _ => .error (p + 1)
  | p, units, '\\' :: e :: rest =>
    if e = 'u' then .error (p + 1)
    else match shortEscape? e with
      | some c => scanString start (p + 2) (c.toNat :: units) rest
      | none => .error p
  | p, units, c :: rest =>
    if c.toNat < 0x20 then .error p else scanString start (p + 1) (c.toNat :: units) rest

def takeAsciiDigits (s : List Char) : List Char × List Char :=
  (s.takeWhile isAsciiDigit, s.dropWhile isAsciiDigit)

/-- The digits before the point: a zero alone, or digits that begin with none. -/
def takeWhole : List Char → List Char × List Char
  | '0' :: s => (['0'], s)
  | s => takeAsciiDigits s

def takeFraction (s : List Char) : List Char × List Char :=
  match s with
  | '.' :: t => if (takeAsciiDigits t).1.isEmpty then ([], s) else takeAsciiDigits t
  | _ => ([], s)

def signLength : List Char → Nat
  | '-' :: _ => 1
  | '+' :: _ => 1
  | _ => 0

/-- The value and the length of the exponent part, if it is complete. -/
def takePower? : List Char → Option (Int × Nat × List Char)
  | c :: s =>
    let (negative, t) := takeSign s
    let (ds, rest) := takeAsciiDigits t
    if (c = 'e' ∨ c = 'E') ∧ ds ≠ [] then
      some (if negative then -(digitsValue ds : Int) else digitsValue ds,
        1 + signLength s + ds.length, rest)
    else none
  | [] => none

/-- The number that a text begins with, its length and the text after it. -/
def scanNumber? (s : List Char) : Option (Except NumeralFault Json × Nat × List Char) :=
  let (negative, s) := match s with
    | '-' :: t => (true, t)
    | _ => (false, s)
  match takeWhole s with
  | ([], _) => none
  | (whole, s) =>
    let (fraction, s) := takeFraction s
    let length := (if negative then 1 else 0) + whole.length + if fraction.isEmpty then 0 else
      1 + fraction.length
    match fraction, takePower? s with
    | [], none => some ((integerValue negative whole).map .int, length, s)
    | _, power =>
      let (e, powerLength, s) := power.getD (0, 0, s)
      let d := Decimal.mk negative (digitsValue (whole ++ fraction)) (e - fraction.length)
      some (.ok (.float d.toFloat), length + powerLength, s)

def dropWord? (word : String) (s : List Char) : Option (List Char) :=
  if word.toList.isPrefixOf s then some (s.drop word.length) else none

def scanWord? (s : List Char) : Option (Json × Nat × List Char) :=
  let word (w : String) (v : Json) := (dropWord? w s).map (v, w.length, ·)
  word "null" .null <|> word "true" (.bool true) <|> word "false" (.bool false) <|>
    word "NaN" (.float (Float.ofBits 0x7ff8000000000000)) <|>
    word "Infinity" (.float (Float.ofBits 0x7ff0000000000000)) <|>
    word "-Infinity" (.float (Float.ofBits 0xfff0000000000000))

/-- The token that a text with no gap in front begins with, the position after it and the text from
there on. Nothing after an unreadable token matters. -/
def scanToken (position : Nat) : List Char → Token × Nat × List Char
  | [] => (.unknown, position, [])
  | '[' :: s => (.openArray, position + 1, s)
  | ']' :: s => (.closeArray, position + 1, s)
  | '\x7b' :: s => (.openObject, position + 1, s)
  | '\x7d' :: s => (.closeObject, position + 1, s)
  | ',' :: s => (.comma, position + 1, s)
  | ':' :: s => (.colon, position + 1, s)
  | '"' :: s =>
    match scanString position (position + 1) [] s with
    | .ok (units, p, rest) => (.string (.ok (Text.ofPoints (joinUnits units.reverse))), p, rest)
    | .error p => (.string (.error p), position, [])
  | s =>
    match scanWord? s with
    | some (v, length, rest) => (.literal v, position + length, rest)
    | none =>
      match scanNumber? s with
      | some (v, length, rest) => (.number v, position + length, rest)
      | none => (.unknown, position, [])

/-- The tokens of a text that begins at a position; every token takes a character at least, so a
budget of the length of the text suffices. -/
def scanTokens : Nat → Nat → List Char → List Placed
  | 0, _, _ => []
  | n + 1, position, s =>
    let position := position + (s.takeWhile isGap).length
    match s.dropWhile isGap with
    | [] => []
    | c :: t =>
      let (token, next, rest) := scanToken position (c :: t)
      ⟨position, token⟩ :: scanTokens n next rest

def tokens (s : List Char) : List Placed :=
  scanTokens s.length 0 s

end RoutineVisibility.Json
