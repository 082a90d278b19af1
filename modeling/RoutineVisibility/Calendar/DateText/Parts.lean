import RoutineVisibility.Number.Numeral
import RoutineVisibility.Calendar.Date

/-! The numbers of a date as a free text gives them, and which of them is which. -/
namespace RoutineVisibility.DateText
open Text

/-- A numeral in a date text: digits before and after the point. -/
structure Numeral where
  whole : Nat
  fraction : List Char
deriving Repr

namespace Numeral

def ofText? (s : List Char) : Option Numeral :=
  match s.span isDigit with
  | ([], ['.']) => none
  | ([], []) => none
  | (whole, []) => some ⟨digitsValue whole, []⟩
  | (whole, '.' :: fraction) =>
    if fraction.all isDigit then some ⟨digitsValue whole, fraction⟩ else none
  | _ => none

def isWhole (n : Numeral) : Bool :=
  digitsValue n.fraction == 0

def exceeds (n : Numeral) (limit : Nat) : Bool :=
  limit < n.whole || (n.whole == limit && !n.isWhole)

/-- Sixtieths of the fraction, if there is one. -/
def sixtieths? (n : Numeral) : Option Nat :=
  if n.isWhole then none else some (60 * digitsValue n.fraction / Number.tenTo n.fraction.length)

end Numeral

/-- A whole number in digits; too long ones are none. -/
def integer? (s : List Char) : Option Nat :=
  if s ≠ [] ∧ s.all isDigit ∧ s.length ≤ Number.digitLimit then some (digitsValue s) else none

inductive Role where
  | year
  | month
deriving DecidableEq, Repr

structure Parts where
  numbers : List Nat
  /-- The place of the year, if it is known. -/
  yearAt : Option Nat
  monthAt : Option Nat
  /-- A year was given in full. -/
  century : Bool
deriving Repr

namespace Parts

def empty : Parts := ⟨[], none, none, false⟩

/-- Adds a number; `wide` numbers can only be years. No role can be given twice. -/
def add? (p : Parts) (n : Nat) (wide : Bool) (role : Option Role) : Option Parts :=
  let role := if wide then some .year else role
  let place := p.numbers.length
  let p := { p with numbers := p.numbers ++ [n], century := p.century || wide }
  match role with
  | none => some p
  | some .year => if p.yearAt.isSome then none else some { p with yearAt := some place }
  | some .month => if p.monthAt.isSome then none else some { p with monthAt := some place }

/-- Adds a number given in digits; more than two digits make it a year. -/
def addText? (p : Parts) (s : List Char) (role : Option Role) : Option Parts := do
  p.add? (← integer? s) (2 < s.length) role

/-- Adds the whole part of a numeral; above 100 it is a year. -/
def addNumeral? (p : Parts) (n : Numeral) : Option Parts :=
  p.add? n.whole (n.exceeds 100) none

def addMonth? (p : Parts) (m : Nat) : Option Parts :=
  p.add? m false (some .month)

/-- A numeral is a day of the month, if the month is known, or of any. -/
def couldBeDay (p : Parts) (n : Numeral) : Bool :=
  let longest := match p.monthAt.bind (p.numbers[·]?) with
    | none => 31
    | some m => match p.yearAt.bind (p.numbers[·]?) with
      | none => monthLength 2000 m
      | some y => monthLength y m
  1 ≤ n.whole && !n.exceeds longest

structure Partial where
  year : Option Nat
  month : Option Nat
  day : Option Nat
deriving DecidableEq, Repr

/-- Three numbers of which two have a known place: the third is the day. -/
def resolveThree (p : Parts) (a b c : Nat) : Partial :=
  match p.yearAt, p.monthAt with
  | some y, some m =>
    let d := 3 - y - m
    ⟨[a, b, c][y]?, [a, b, c][m]?, [a, b, c][d]?⟩
  | yearAt, monthAt =>
    match monthAt with
    | some 0 => if 31 < b then ⟨some b, some a, some c⟩ else ⟨some c, some a, some b⟩
    | some 1 => if 31 < a then ⟨some a, some b, some c⟩ else ⟨some c, some b, some a⟩
    | some _ => if 31 < b then ⟨some b, some c, some a⟩ else ⟨some a, some c, some b⟩
    | none =>
      if 31 < a ∨ yearAt = some 0 then ⟨some a, some b, some c⟩
      else if 12 < a then ⟨some c, some b, some a⟩
      else ⟨some c, some a, some b⟩

def resolveTwo (p : Parts) (a b : Nat) : Partial :=
  match p.yearAt, p.monthAt with
  | some y, some m => ⟨[a, b][y]?, [a, b][m]?, none⟩
  | _, some m =>
    let month := if m = 0 then a else b
    let other := if m = 0 then b else a
    if 31 < other then ⟨some other, some month, none⟩ else ⟨none, some month, some other⟩
  | _, none =>
    if 31 < a then ⟨some a, some b, none⟩
    else if 31 < b then ⟨some b, some a, none⟩
    else ⟨none, some a, some b⟩

def resolveOne (p : Parts) (a : Nat) : Partial :=
  match p.yearAt, p.monthAt with
  | some _, _ => ⟨some a, none, none⟩
  | none, some _ => ⟨none, some a, none⟩
  | none, none => if 31 < a then ⟨some a, none, none⟩ else ⟨none, none, some a⟩

/-- Year, month and day among the numbers; more than three cannot be told apart. -/
def resolve? (p : Parts) : Option Partial :=
  match p.numbers with
  | [] => some ⟨none, none, none⟩
  | [a] => some (p.resolveOne a)
  | [a, b] => some (p.resolveTwo a b)
  | [a, b, c] => some (p.resolveThree a b c)
  | _ => none

end Parts
end RoutineVisibility.DateText
