import RoutineVisibility.Calendar.Moment
import RoutineVisibility.Number.Numeral

/-! Time stamps: a moment, with an offset from UTC or in local time. A number stands for Unix
time. -/
namespace RoutineVisibility
open Number Text

structure Stamp where
  moment : Moment
  /-- Minutes east of UTC. -/
  offset : Option Int
deriving DecidableEq, Repr

/-- What the present is: the local time that the wall clock reads, and the offset of the local zone
from UTC. -/
structure Clock where
  now : Moment
  /-- Minutes east of UTC. -/
  offset : Int
deriving DecidableEq, Repr

inductive StampFault where
  /-- The text has another form, or names a day or an hour that does not exist. -/
  | form
  | range
deriving DecidableEq, Repr

namespace Stamp

/-- Local time of a stamp; nothing if UTC or local time lies outside the calendar. -/
def toLocal? (s : Stamp) (localOffset : Int) : Option Moment :=
  match s.offset with
  | none => some s.moment
  | some o => do
    let utc ← s.moment.shift? (-o * minuteTicks)
    utc.shift? (localOffset * minuteTicks)

def offsetText (o : Int) : String :=
  (if o < 0 then "-" else "+") ++ padded 2 (o.natAbs / 60) ++ ":" ++ padded 2 (o.natAbs % 60)

def text (s : Stamp) : String :=
  s.moment.text ++ (s.offset.map offsetText).getD ""

/-- Unix time zero, in microseconds since the start of the calendar. -/
def unixEpoch : Int := 719162 * 86400000000

/-- Unix time counts in milliseconds beyond this. -/
def millisecondMark : Nat := 20000000000

/-- Microseconds since the start of the calendar, from a whole number of Unix time and microseconds
on top of it. -/
def unixTicks (n : Int) (micros : Nat) : Int :=
  unixEpoch + (if n.natAbs ≤ millisecondMark then n * 1000000 else n * 1000) + micros

def ofUnix (n : Int) (micros : Nat) : Except StampFault Stamp :=
  match Moment.ofTicks? (unixTicks n micros) with
  | some m => .ok ⟨m, some 0⟩
  | none => .error .range

/-- Unix time given as a text may be of the year 0, and then it lies outside; beyond that, the text
is no stamp. -/
def ofUnixText (n : Int) (micros : Nat) : Except StampFault Stamp :=
  (ofUnix n micros).mapError fun fault =>
    let ticks := unixTicks n micros
    if -366 * 86400000000 ≤ ticks ∧ ticks < 0 then fault else .form

def asciiNumber? (ds : List Char) : Option Nat :=
  if ds.all isAsciiDigit then some (digitsValue ds) else none

def civilDate (y m d : Nat) : Except StampFault Date :=
  if 1 ≤ m ∧ m ≤ 12 ∧ 1 ≤ d ∧ d ≤ monthLength y m then
    match Date.ofCivil? y m d with
    | some date => .ok date
    | none => .error .range
  else .error .form

/-- The zone at the end of a stamp, in minutes east of UTC. -/
def zone? (s : List Char) : Option (Option Int) :=
  match s with
  | [] => some none
  | ['Z'] => some (some 0)
  | ['z'] => some (some 0)
  | sign :: h :: i :: rest => do
    guard (sign = '+' ∨ sign = '-')
    let hours ← asciiNumber? [h, i]
    let minutes ← match rest with
      | [':', m, n] => asciiNumber? [m, n]
      | [m, n] => asciiNumber? [m, n]
      | _ => none
    guard (hours ≤ 23 ∧ minutes ≤ 59)
    let total : Int := hours * 60 + minutes
    return some (if sign = '-' then -total else total)
  | _ => none

/-- Microseconds of a fraction: six digits count, the rest is dropped. -/
def fractionMicros (ds : List Char) : Nat :=
  digitsValue (ds.take 6) * tenTo (6 - ds.length)

/-- Seconds, their fraction and the zone: all may be missing. Gives microseconds. -/
def secondsAndZone? (s : List Char) : Option (Nat × Option Int) :=
  match s with
  | ':' :: a :: b :: rest => do
    let seconds ← asciiNumber? [a, b]
    guard (seconds ≤ 59)
    let (micros, rest) ← match rest with
      | p :: t =>
        if p = '.' ∨ p = ',' then
          let ds := t.takeWhile isAsciiDigit
          if ds.isEmpty then none else some (fractionMicros ds, t.dropWhile isAsciiDigit)
        else some (0, rest)
      | [] => some (0, [])
    return (seconds * 1000000 + micros, ← zone? rest)
  | _ => (zone? s).map (0, ·)

/-- The time after a date: microseconds since midnight and the zone. -/
def timeAndZone? (s : List Char) : Option (Nat × Option Int) :=
  match s with
  | h :: i :: ':' :: m :: n :: rest => do
    let hours ← asciiNumber? [h, i]
    let minutes ← asciiNumber? [m, n]
    guard (hours ≤ 23 ∧ minutes ≤ 59)
    let (micros, zone) ← secondsAndZone? rest
    return ((hours * 60 + minutes) * minuteTicks + micros, zone)
  | _ => none

def isTimeMark (c : Char) : Bool :=
  c = 'T' || c = 't' || c = ' ' || c = '_'

/-- Date and time, or a date alone, which stands for its midnight. -/
def ofCivilText (s : List Char) : Except StampFault Stamp :=
  match s with
  | y :: y' :: y'' :: y''' :: '-' :: m :: m' :: '-' :: d :: d' :: rest =>
    match asciiNumber? [y, y', y'', y'''], asciiNumber? [m, m'], asciiNumber? [d, d'] with
    | some year, some month, some day =>
      let time := match rest with
        | [] => some (0, none)
        | c :: t => if isTimeMark c then timeAndZone? t else none
      match time with
      | none => .error .form
      | some (tick, zone) => do
        let date ← civilDate year month day
        if h : tick < dayTicks then .ok ⟨⟨date, tick, h⟩, zone⟩ else .error .form
    | _, _, _ => .error .form
  | _ => .error .form

/-- Unix time in digits, with a sign and a fraction if need be. -/
def ofNumberText (s : List Char) : Except StampFault Stamp :=
  let (negative, ds) := takeSign s
  let whole := ds.takeWhile isAsciiDigit
  match whole, ds.dropWhile isAsciiDigit with
  | [], _ => .error .form
  | _, [] => ofUnixText (if negative then -(digitsValue whole : Int) else digitsValue whole) 0
  | _, '.' :: fraction =>
    if fraction.all isAsciiDigit then
      let x :=
        (Decimal.mk negative (digitsValue (whole ++ fraction)) (-(fraction.length : Int))).toFloat
      let x := if x.abs > 20000000000.0 then x / 1000.0 else x
      if x.abs < 1e12 then
        let seconds := x.floor.toInt64.toInt
        let micros := ((x - x.floor) * 1000000.0).round.toUInt64.toNat
        ofUnixText seconds micros
      else .error .form
    else .error .form
  | _, _ => .error .form

def ofText (text : String) : Except StampFault Stamp :=
  let s := text.toList
  match ofCivilText s with
  | .error .form => ofNumberText s
  | r => r

/-- Unix time of a float: the whole number below it, and the size of its fraction to the nearest
microsecond. -/
def ofFloat (x : Float) : Except StampFault Stamp :=
  if x.abs < 1e18 then
    let whole := x.floor.toInt64.toInt
    let nearest := if x < 0 then x.ceil else x.floor
    let micros := ((x - nearest).abs * 1000000.0).round.toUInt64.toNat
    ofUnix whole micros
  else .error .range

@[simp] theorem toLocal?_naive (m : Moment) (o : Int) : toLocal? ⟨m, none⟩ o = some m := rfl

end Stamp
end RoutineVisibility
