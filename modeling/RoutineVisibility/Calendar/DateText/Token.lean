import RoutineVisibility.Text.Blank
import RoutineVisibility.Text.Digit
import RoutineVisibility.Text.Letter

/-! Tokens of a free date text: words, numerals, blanks and single marks. NUL characters are passed
over. -/
namespace RoutineVisibility.DateText
open Text

inductive Shape where
  | word
  | number
  | dottedWord
  | dottedNumber
deriving DecidableEq, Repr

/-- A token that may still grow; its characters are held in reverse. -/
structure Growing where
  shape : Shape
  chars : List Char
  /-- A character came after a letter. -/
  lettered : Bool

def isNumeric (c : Char) : Bool :=
  isDigit c || isDigitSymbol c

/-- A character begins a word or a numeral, or it is a token of its own. -/
def begin (c : Char) : Sum Growing String :=
  if isLetter c then .inl ⟨.word, [c], false⟩
  else if isNumeric c then .inl ⟨.number, [c], false⟩
  else if isBlank c then .inr " "
  else .inr c.toString

def Growing.endsInDot (t : Growing) : Bool :=
  t.chars.head? == some '.'

def Growing.extend? (t : Growing) (c : Char) : Option Growing :=
  match t.shape with
  | .word =>
    if isLetter c then some ⟨.word, c :: t.chars, true⟩
    else if c = '.' then some ⟨.dottedWord, c :: t.chars, true⟩
    else none
  | .number =>
    if isNumeric c then some ⟨.number, c :: t.chars, t.lettered⟩
    else if c = '.' ∨ (c = ',' ∧ 2 ≤ t.chars.length) then
      some ⟨.dottedNumber, c :: t.chars, t.lettered⟩
    else none
  | .dottedWord =>
    if c = '.' || isLetter c then some ⟨.dottedWord, c :: t.chars, true⟩
    else if isNumeric c && t.endsInDot then some ⟨.dottedNumber, c :: t.chars, true⟩
    else none
  | .dottedNumber =>
    if c = '.' || isNumeric c then some ⟨.dottedNumber, c :: t.chars, t.lettered⟩
    else if isLetter c && t.endsInDot then some ⟨.dottedWord, c :: t.chars, t.lettered⟩
    else none

def isPoint (c : Char) : Bool :=
  c = '.' || c = ','

def splitAtPoints (s : List Char) : List (List Char) :=
  s.foldr (fun c pieces =>
    if isPoint c then [c] :: pieces
    else match pieces with
      | (d :: piece) :: rest => if isPoint d then [c] :: pieces else (c :: d :: piece) :: rest
      | _ => [c] :: pieces) []

/-- The tokens that a token which cannot grow any more stands for; `followed` tells that the text
goes on. -/
def Growing.finish (t : Growing) (followed : Bool) : List String :=
  let s := t.chars.reverse
  let dotted := t.shape == .dottedWord || t.shape == .dottedNumber
  let lettered := t.lettered || (followed && t.shape == .dottedWord)
  if dotted && (lettered || 1 < s.count '.' || (t.chars.head?.map isPoint).getD false) then
    (splitAtPoints s).map String.ofList
  else if t.shape == .dottedNumber && !s.contains '.' then
    [String.ofList (s.map fun c => if c = ',' then '.' else c)]
  else [String.ofList s]

/-- Reads on from a token that may grow, or from the end of one. -/
def tokensFrom : Option Growing → List Char → List String
  | none, [] => []
  | some t, [] => t.finish false
  | none, c :: s =>
    match begin c with
    | .inl t => tokensFrom (some t) s
    | .inr token => token :: tokensFrom none s
  | some t, c :: s =>
    match t.extend? c with
    | some t' => tokensFrom (some t') s
    | none =>
      t.finish true ++ match begin c with
        | .inl t' => tokensFrom (some t') s
        | .inr token => token :: tokensFrom none s

def tokens (s : List Char) : List String :=
  tokensFrom none (s.filter (· ≠ '\x00'))

end RoutineVisibility.DateText
