import RoutineVisibility.Text.Digit

/-! Percent encoding of UTF-8. -/
namespace RoutineVisibility.Text

def utf8 (c : Char) : List Nat :=
  c.toString.toUTF8.toList.map UInt8.toNat

/-- The bytes that a percent-encoded text stands for. -/
def percentBytes : List Char → List Nat
  | '%' :: a :: b :: rest =>
    match hexValue? a, hexValue? b with
    | some x, some y => (16 * x + y) :: percentBytes rest
    | _, _ => utf8 '%' ++ percentBytes (a :: b :: rest)
  | c :: rest => utf8 c ++ percentBytes rest
  | [] => []

/-- A character that has begun: its bits so far, the number of bytes to come, and the bounds of the
next one. -/
structure Partial where
  bits : Nat
  missing : Nat
  low : Nat := 0x80
  high : Nat := 0xBF

def replacement : Char := Char.ofNat 0xFFFD

/-- What the first byte of a character begins; bounds keep out long forms, surrogates and what lies
beyond the last character. -/
def firstByte (b : Nat) : Except Char Partial :=
  if b < 0x80 then .error (Char.ofNat b)
  else if b < 0xC2 then .error replacement
  else if b < 0xE0 then .ok { bits := b - 0xC0, missing := 1 }
  else if b = 0xE0 then .ok { bits := 0, missing := 2, low := 0xA0 }
  else if b = 0xED then .ok { bits := 0xD, missing := 2, high := 0x9F }
  else if b < 0xF0 then .ok { bits := b - 0xE0, missing := 2 }
  else if b = 0xF0 then .ok { bits := 0, missing := 3, low := 0x90 }
  else if b < 0xF4 then .ok { bits := b - 0xF0, missing := 3 }
  else if b = 0xF4 then .ok { bits := 4, missing := 3, high := 0x8F }
  else .error replacement

/-- The characters of bytes, after a character that has begun or none. -/
def decodeUtf8 : Option Partial → List Nat → List Char
  | none, [] => []
  | some _, [] => [replacement]
  | none, b :: rest =>
    match firstByte b with
    | .error c => c :: decodeUtf8 none rest
    | .ok p => decodeUtf8 (some p) rest
  | some p, b :: rest =>
    if p.low ≤ b ∧ b ≤ p.high then
      let bits := 64 * p.bits + (b - 0x80)
      if p.missing ≤ 1 then Char.ofNat bits :: decodeUtf8 none rest
      else decodeUtf8 (some { bits := bits, missing := p.missing - 1 }) rest
    else
      match firstByte b with
      | .error c => replacement :: c :: decodeUtf8 none rest
      | .ok q => replacement :: decodeUtf8 (some q) rest

def percentDecoded (s : List Char) : List Char :=
  decodeUtf8 none (percentBytes s)

end RoutineVisibility.Text
