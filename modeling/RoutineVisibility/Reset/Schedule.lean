import RoutineVisibility.Calendar.Stamp

/-! Reset schedules: the last reset up to a moment and the first one after it. -/
namespace RoutineVisibility

inductive ResetPeriod where
  | daily
  | weekly
  | monthly
  | custom
deriving DecidableEq, Repr

namespace ResetPeriod

def all : List ResetPeriod := [.daily, .weekly, .monthly, .custom]

def name : ResetPeriod → String
  | .daily => "DAILY"
  | .weekly => "WEEKLY"
  | .monthly => "MONTHLY"
  | .custom => "CUSTOM"

def ofName? (s : String) : Option ResetPeriod :=
  all.find? (·.name == s)

end ResetPeriod

/-- The day of a monthly schedule that stands for the last day of the month. -/
def lastDayOfMonth : Int := 99

/-- The time of day of a reset where none is given, or none that can be read. -/
def defaultResetTime : TimeOfDay := ⟨1435, by decide⟩

/-- The time of day that a text gives for resets. -/
def resetTimeOf (s : String) : TimeOfDay :=
  (TimeOfDay.parse? s).getD defaultResetTime

structure Schedule where
  /-- A period that nobody knows never ends. -/
  period : Option ResetPeriod
  day : Option Int
  time : TimeOfDay
deriving DecidableEq, Repr

inductive ScheduleFault where
  | calendar (fault : CalendarFault)
  /-- A monthly boundary is local time and cannot be compared with a stamp that has an offset. -/
  | zone
deriving DecidableEq, Repr

namespace Schedule

def monthReset (y m : Nat) (day : Int) (t : TimeOfDay) : Except CalendarFault Moment :=
  let length := monthLength y m
  let d : Int := if day = lastDayOfMonth then length else min day length
  match (if 1 ≤ d then Date.ofCivil? y m d.toNat else none) with
  | some date => .ok (date.atTime t)
  | none => .error .day

def monthBefore (y m : Nat) : Except CalendarFault (Nat × Nat) :=
  if m ≤ 1 then (if y ≤ 1 then .error (.year (y - 1)) else .ok (y - 1, 12)) else .ok (y, m - 1)

def monthAfter (y m : Nat) : Except CalendarFault (Nat × Nat) :=
  if 12 ≤ m then (if 9999 ≤ y then .error (.year (y + 1)) else .ok (y + 1, 1)) else .ok (y, m + 1)

def dateAway (d : Date) (days : Int) : Except CalendarFault Date :=
  match Date.ofDay? (d.day + days) with
  | some d => .ok d
  | none => .error .outOfRange

/-- Days since the last day of the week that a schedule resets on. -/
def daysSince (today : Nat) (day : Int) : Int :=
  (7 + today - day) % 7

def dailyStart (t : TimeOfDay) (now : Moment) : Except CalendarFault Moment :=
  if now < now.date.atTime t then return (← dateAway now.date (-1)).atTime t
  else .ok (now.date.atTime t)

def weeklyStart (day : Int) (t : TimeOfDay) (now : Moment) : Except CalendarFault Moment := do
  let date ← dateAway now.date (-daysSince now.date.weekday day)
  if now < date.atTime t then return (← dateAway date (-7)).atTime t else return date.atTime t

def monthlyStart (day : Int) (t : TimeOfDay) (now : Moment) : Except CalendarFault Moment := do
  let reset ← monthReset now.date.year now.date.month day t
  if now < reset then
    let (y, m) ← monthBefore now.date.year now.date.month
    monthReset y m day t
  else return reset

/-- The last reset up to a moment; without resets, the start of the calendar. -/
def start (s : Schedule) (now : Moment) : Except CalendarFault Moment :=
  match s.period with
  | some .daily => dailyStart s.time now
  | some .weekly => weeklyStart (s.day.getD 0) s.time now
  | some .monthly => monthlyStart (s.day.getD 1) s.time now
  | some .custom => .ok .first
  | none => .ok .first

/-- The reset that ends the period which starts at a reset. -/
def following (s : Schedule) (start : Moment) : Except CalendarFault (Option Moment) :=
  match s.period with
  | some .daily => do return some ⟨← dateAway start.date 1, start.tick, start.tick_lt⟩
  | some .weekly => do return some ⟨← dateAway start.date 7, start.tick, start.tick_lt⟩
  | some .monthly => do
    let (y, m) ← monthAfter start.date.year start.date.month
    return some (← monthReset y m (s.day.getD 1) s.time)
  | some .custom => .ok none
  | none => .ok none

def next (s : Schedule) (now : Moment) : Except CalendarFault (Option Moment) := do
  s.following (← s.start now)

def startAt (s : Schedule) (now : Stamp) : Except ScheduleFault Stamp :=
  match s.period, now.offset with
  | some .daily, o => ((s.start now.moment).map (⟨·, o⟩)).mapError .calendar
  | some .weekly, o => ((s.start now.moment).map (⟨·, o⟩)).mapError .calendar
  | some .monthly, some _ =>
    match monthReset now.moment.date.year now.moment.date.month (s.day.getD 1) s.time with
    | .ok _ => .error .zone
    | .error e => .error (.calendar e)
  | _, _ => ((s.start now.moment).map (⟨·, none⟩)).mapError .calendar

def nextAt (s : Schedule) (now : Stamp) : Except ScheduleFault (Option Stamp) := do
  let start ← s.startAt now
  let following ← (s.following start.moment).mapError .calendar
  return following.map (⟨·, start.offset⟩)

def weekdayNames : List String :=
  ["Sunday", "Monday", "Tuesday", "Wednesday", "Thursday", "Friday", "Saturday"]

/-- A schedule in words, for the usual time of day. -/
def description (period : Option ResetPeriod) (day : Option Int) : String :=
  match period, day with
  | some .daily, _ => "Daily at 11:55 PM"
  | some .weekly, none => "Weekly"
  | some .weekly, some d =>
    match (if 0 ≤ d then weekdayNames[d.toNat]? else none) with
    | some weekday => "Weekly on " ++ weekday ++ " at 11:55 PM"
    | none => "Weekly"
  | some .monthly, none => "Monthly"
  | some .monthly, some d =>
    if d = lastDayOfMonth then "Monthly on last day at 11:55 PM"
    else "Monthly on day " ++ toString d ++ " at 11:55 PM"
  | some .custom, _ => "Custom schedule"
  | none, _ => "Unknown"

end Schedule

def ScheduleFault.message? : ScheduleFault → Option String
  | .calendar f => some f.message
  | .zone => none

end RoutineVisibility
