import RoutineVisibility.Calendar.DateText.Token
import RoutineVisibility.Calendar.DateText.Word
import RoutineVisibility.Calendar.DateText.Parts
import RoutineVisibility.Calendar.Stamp

/-! Dates in free text: `2026-03-11`, `11 March 2026 at 9 am`, `Sat`, `20260311T0900`. What the text
leaves out is taken from the present date. -/
namespace RoutineVisibility.DateText
open Text

/-- What has been read so far. -/
structure Found where
  parts : Parts := .empty
  weekday : Option Nat := none
  hour : Option Nat := none
  minute : Option Nat := none
  second : Option Nat := none
  micro : Option Nat := none
  zone : Option String := none
  /-- Seconds east of UTC. -/
  offset : Option Int := none
  halfNamed : Bool := false
  /-- The sign after a zone name reads the other way round. -/
  signTurned : Bool := false

/-- An hour with the half of the day. -/
def hourInHalf (hour half : Nat) : Nat :=
  if hour < 12 ∧ half = 1 then hour + 12 else if hour = 12 ∧ half = 0 then 0 else hour

/-- Seconds and microseconds of a numeral; six digits of the fraction count. -/
def seconds? (s : List Char) : Option (Nat × Nat) :=
  match s.span (· ≠ '.') with
  | (whole, []) => do return (← integer? whole, 0)
  | (whole, _ :: fraction) => do
    let digits := fraction.take 6
    return (← integer? whole, ← integer? (digits ++ List.replicate (6 - digits.length) '0'))

/-- Sets minutes, and the seconds to what the fraction gives. -/
def Found.withMinutes (f : Found) (n : Numeral) : Found :=
  { f with minute := some n.whole, second := n.sixtieths? }

/-- Gives a numeral the unit 0 (hours), 1 (minutes) or 2 (seconds); any other is passed over. -/
def Found.withUnit? (f : Found) (s : List Char) (n : Numeral) (unit : Nat) : Option Found :=
  match unit with
  | 0 =>
    let f := { f with hour := some n.whole }
    some (match n.sixtieths? with
      | some m => { f with minute := some m }
      | none => f)
  | 1 => some (f.withMinutes n)
  | 2 => do
    let (second, micro) ← seconds? s
    return { f with second := some second, micro := some micro }
  | _ => some f

/-- The unit of a numeral and the number of tokens that name it: a word after the numeral, else one
before it, whose next smaller unit is meant. -/
def unitNearby? (before rest : List String) : Option (Nat × Nat) :=
  match rest, before with
  | w :: rest', before =>
    match unit? w with
    | some u => some (u, 1)
    | none =>
      match (if w = " " then rest'.head?.bind unit? else none) with
      | some u => some (u, 2)
      | none => (before.head?.bind unit?).map fun u => (u + 1, 0)
  | [], w :: before' =>
    match unit? w with
    | some u => some (u + 1, 0)
    | none => (if w = " " then before'.head?.bind unit? else none).map fun u => (u + 1, 0)
  | [], [] => none

def numeralIn? (s : String) : Option Numeral :=
  Numeral.ofText? s.toList

/-- Hours, minutes and perhaps seconds with colons between them; the tokens are those after the
hour. -/
def Found.withClock? (f : Found) (hour : Numeral) : List String → Option (Found × Nat)
  | _ :: m :: rest => do
    let f := { f with hour := some hour.whole }.withMinutes (← numeralIn? m)
    match rest with
    | ":" :: s :: _ =>
      let (second, micro) ← seconds? s.toList
      return ({ f with second := some second, micro := some micro }, 4)
    | _ => return (f, 2)
  | _ => none

def Parts.addWord? (p : Parts) (w : String) : Option Parts :=
  match month? w with
  | some m => p.addMonth? m
  | none => p.addText? w.toList none

/-- Numbers with the same mark between them; the tokens are those after the first number. -/
def Parts.addMarked? (p : Parts) (s : List Char) (mark : String) (rest : List String) :
    Option (Parts × Nat) := do
  let p ← p.addText? s none
  match rest with
  | [] => return (p, 1)
  | w :: rest =>
    if isFiller w then return (p, 1)
    else
      let p ←
        if w.toList.all isNumeric then p.addText? w.toList none else (month? w).bind p.addMonth?
      match rest with
      | [] => return (p, 2)
      | w' :: rest' =>
        if w' = mark then return (← p.addWord? (← rest'.head?), 4) else return (p, 2)

/-- Reads a numeral. The count is that of the tokens after it which are read with it. -/
def numberStep? (f : Found) (before : List String) (s : List Char) (n : Numeral)
    (rest : List String) : Option (Found × Nat) :=
  let size := s.length
  let next := rest.head?
  if f.parts.numbers.length = 3 ∧ (size = 2 ∨ size = 4) ∧ f.hour.isNone ∧
      (next.all fun w => w ≠ ":" ∧ unit? w = none) then do
    let f := { f with hour := some (← integer? (s.take 2)) }
    if size = 4 then return ({ f with minute := some (← integer? (s.drop 2)) }, 0)
    else return (f, 0)
  else if size = 6 ∨ (6 < size ∧ s.findIdx (· = '.') = 6) then
    if f.parts.numbers.isEmpty ∧ !s.contains '.' then do
      let p ← f.parts.addText? (s.take 2) none
      let p ← p.addText? ((s.drop 2).take 2) none
      let p ← p.addText? (s.drop 4) none
      return ({ f with parts := p }, 0)
    else do
      let (second, micro) ← seconds? (s.drop 4)
      let f := { f with second := some second, micro := some micro }
      let hour ← integer? (s.take 2)
      return ({ f with hour := some hour, minute := some (← integer? ((s.drop 2).take 2)) }, 0)
  else if size = 8 ∨ size = 12 ∨ size = 14 then do
    let p ← f.parts.addText? (s.take 4) (some .year)
    let p ← p.addText? ((s.drop 4).take 2) none
    let p ← p.addText? ((s.drop 6).take 2) none
    let f := { f with parts := p }
    if size = 8 then return (f, 0)
    let hour ← integer? ((s.drop 8).take 2)
    let f := { f with hour := some hour, minute := some (← integer? ((s.drop 10).take 2)) }
    if size = 12 then return (f, 0)
    return ({ f with second := some (← integer? (s.drop 12)) }, 0)
  else match unitNearby? before rest with
  | some (unit, count) => do return (← f.withUnit? s n unit, count)
  | none =>
    if 2 ≤ rest.length ∧ next = some ":" then f.withClock? n rest
    else match next with
    | none => do return ({ f with parts := ← f.parts.addNumeral? n }, 1)
    | some w =>
      if w = "-" ∨ w = "/" ∨ w = "." then do
        let (p, count) ← f.parts.addMarked? s w (rest.drop 1)
        return ({ f with parts := p }, count)
      else if isFiller w then
        match (rest[1]?).bind half? with
        | some h => some ({ f with hour := some (hourInHalf n.whole h) }, 2)
        | none => do return ({ f with parts := ← f.parts.addNumeral? n }, 1)
      else match half? w with
      | some h =>
        if n.whole < 24 then some ({ f with hour := some (hourInHalf n.whole h) }, 1)
        else if f.parts.couldBeDay n then do return ({ f with parts := ← f.parts.addNumeral? n }, 0)
        else none
      | none =>
        if f.parts.couldBeDay n then do return ({ f with parts := ← f.parts.addNumeral? n }, 0)
        else none

/-- A year of two digits is the one nearest to the present year, at most fifty years before it. -/
def fullYear (present : Nat) (y : Nat) (century : Bool) : Nat :=
  if y < 100 ∧ !century then
    let guess := y + present / 100 * 100
    if present + 50 ≤ guess then guess - 100
    else if guess + 50 < present then guess + 100 else guess
  else y

def monthStep? (present : Nat) (f : Found) (m : Nat) (rest : List String) :
    Option (Found × Nat) := do
  let p ← f.parts.addMonth? m
  match rest with
  | mark :: rest' =>
    if mark = "-" ∨ mark = "/" then
      let p ← p.addText? (← rest'.head?).toList none
      if rest'[1]? = some mark then
        return ({ f with parts := ← p.addText? (← rest'[2]?).toList none }, 4)
      else return ({ f with parts := p }, 2)
    else match rest' with
    | word :: gap :: y :: _ =>
      if mark = " " ∧ gap = " " ∧ isOf word then
        if y.toList.all isNumeric then
          let year := fullYear present (← integer? y.toList) false
          return ({ f with parts := ← p.addText? (Nat.toDigits 10 year) (some .year) }, 4)
        else return ({ f with parts := p }, 4)
      else return ({ f with parts := p }, 0)
    | _ => return ({ f with parts := p }, 0)
  | [] => return ({ f with parts := p }, 0)

/-- Reads the name of a zone. After it, `+` means west. -/
def zoneStep (f : Found) (name : String) (rest : List String) : Found :=
  if rest.head? = some "+" ∨ rest.head? = some "-" then
    let zone := if isUtcWord name then none else some name
    { f with zone := zone, offset := none, signTurned := true }
  else { f with zone := some name, offset := if isUtcName name then some 0 else none }

def couldBeZone (f : Found) (word : String) : Bool :=
  f.hour.isSome && f.zone.isNone && f.offset.isNone && isZoneName word

/-- A name in brackets after an offset: the tokens are those after the digits. -/
def bracketedZone? (f : Found) : List String → Option String
  | w :: "(" :: name :: ")" :: _ =>
    if isFiller w && 3 ≤ name.length && f.zone.isNone && isZoneName name then some name else none
  | _ => none

/-- Reads an offset: hours, hours and minutes in four digits, or both with a colon between them. -/
def offsetStep? (f : Found) (plus : Bool) (rest : List String) : Option (Found × Nat) := do
  let digits := (← rest.head?).toList
  let (h, m, count) ←
    if digits.length = 4 then do
      pure ((← integer? (digits.take 2)), (← integer? (digits.drop 2)), 1)
    else if rest[1]? = some ":" then do
      pure ((← integer? digits), (← integer? (← rest[2]?).toList), 3)
    else if digits.length ≤ 2 then do
      pure ((← integer? digits), 0, 1)
    else none
  let total : Int := h * 3600 + m * 60
  let offset := if plus != f.signTurned then total else -total
  let f := { f with offset := some offset, signTurned := false }
  match bracketedZone? f (rest.drop count) with
  | some name => return ({ f with zone := some name }, count + 4)
  | none => return (f, count)

/-- Words that name no number although they look like one to a reader of numbers. -/
def isNoNumber (word : String) : Bool :=
  ["nan", "inf", "infinity"].contains word.toLower

/-- Reads a token; the count is that of the tokens after it which are read with it. -/
def step? (present : Nat) (f : Found) (before : List String) (token : String) (rest : List String) :
    Option (Found × Nat) :=
  match numeralIn? token with
  | some n => numberStep? f before token.toList n rest
  | none =>
    if isNoNumber token then none
    else if let some d := weekday? token then some ({ f with weekday := some d }, 0)
    else if let some m := month? token then monthStep? present f m rest
    else if let some h := half? token then
      match f.hour with
      | some hour =>
        if hour ≤ 12 then some ({ f with hour := some (hourInHalf hour h), halfNamed := true }, 0)
        else none
      | none => none
    else if couldBeZone f token then some (zoneStep f token rest, 0)
    else if f.hour.isSome ∧ (token = "+" ∨ token = "-") then offsetStep? f (token = "+") rest
    else if isFiller token then some (f, 0)
    else none

/-- Reads all tokens; the first `skip` of them have been read already. -/
def readFrom? (present : Nat) : Nat → Found → List String → List String → Option Found
  | _, f, _, [] => some f
  | skip + 1, f, before, token :: rest => readFrom? present skip f (token :: before) rest
  | 0, f, before, token :: rest =>
    match step? present f before token rest with
    | some (f, count) => readFrom? present count f (token :: before) rest
    | none => none

/-- An offset of more than a thousand million days is none. -/
def Found.offsetExists (f : Found) : Bool :=
  let isUtc := (f.zone.map isUtcWord).getD false
  match f.offset with
  | none => true
  | some o => isUtc || (-86399999913600 ≤ o && o < 86400000000000)

def below (limit : Nat) (n : Option Nat) : Bool :=
  n.all (· < limit)

/-- The date, completed from the present one. -/
def Found.date? (f : Found) (present : Date) : Option Date := do
  let ⟨year, month, day⟩ ← f.parts.resolve?
  let year := year.map (fullYear present.year · f.parts.century)
  guard (year.isSome || month.isSome || day.isSome || f.weekday.isSome || f.hour.isSome ||
    f.minute.isSome || f.second.isSome || f.micro.isSome || f.zone.isSome || f.offset.isSome ||
    f.halfNamed)
  guard (below 24 f.hour && below 60 f.minute && below 60 f.second && below 1000000 f.micro &&
    f.offsetExists)
  let y := year.getD present.year
  let m := month.getD present.month
  let d ← Date.ofCivil? y m (day.getD (min present.dayOfMonth (monthLength y m)))
  match f.weekday, day with
  | some w, none => Date.ofDay? (d.day + (7 - d.weekdayFromMonday + w) % 7 : Nat)
  | _, _ => some d

end DateText

open DateText in
def Date.ofText? (present : Date) (text : String) : Option Date := do
  let found ← readFrom? present.year 0 {} [] (tokens text.toList)
  found.date? present

end RoutineVisibility
