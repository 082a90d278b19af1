/-! The civil calendar of the years 1 to 9999, counted in days from 1 January of year 1. -/
namespace RoutineVisibility

def isLeapYear (y : Nat) : Bool :=
  y % 4 == 0 && (y % 100 != 0 || y % 400 == 0)

/-- The length of a month, counted from 1. -/
def monthLength (y m : Nat) : Nat :=
  if m = 2 then (if isLeapYear y then 29 else 28)
  else if m = 4 ∨ m = 6 ∨ m = 9 ∨ m = 11 then 30
  else 31

/-- Days in the `n` years that follow the start of the calendar. -/
def daysInYears (n : Nat) : Nat :=
  n * 365 + n / 4 - n / 100 + n / 400

/-- Days of a year before its month `m`. -/
def daysBeforeMonth (y m : Nat) : Nat :=
  [0, 31, 59, 90, 120, 151, 181, 212, 243, 273, 304, 334].getD (m - 1) 0 +
    if 2 < m ∧ isLeapYear y then 1 else 0

/-- Days in the years 1 to 9999. -/
def calendarDays : Nat := 3652059

/-- The number of whole years in the first `n` days: cycles of 400 years, then of 100, 4 and 1. -/
def yearsInDays (n : Nat) : Nat :=
  let r := n % 146097
  let c := min 3 (r / 36524)
  let r := r - c * 36524
  400 * (n / 146097) + 100 * c + 4 * (r / 1461) + min 3 (r % 1461 / 365)

structure Date where
  /-- Days since 1 January of year 1. -/
  day : Nat
  day_lt : day < calendarDays := by decide
deriving DecidableEq, Repr

namespace Date

def ofDay? (n : Int) : Option Date :=
  if h : 0 ≤ n ∧ n.toNat < calendarDays then some ⟨n.toNat, h.2⟩ else none

def year (d : Date) : Nat :=
  yearsInDays d.day + 1

def dayOfYear (d : Date) : Nat :=
  d.day - daysInYears (yearsInDays d.day)

def month (d : Date) : Nat :=
  (List.range' 1 12).countP fun m => daysBeforeMonth d.year m ≤ d.dayOfYear

/-- The day of the month, counted from 1. -/
def dayOfMonth (d : Date) : Nat :=
  d.dayOfYear - daysBeforeMonth d.year d.month + 1

def ofCivil? (y m d : Nat) : Option Date :=
  if 1 ≤ y ∧ 1 ≤ m ∧ m ≤ 12 ∧ 1 ≤ d ∧ d ≤ monthLength y m then
    ofDay? (daysInYears (y - 1) + daysBeforeMonth y m + (d - 1) : Nat)
  else none

/-- The day of the week, 0 for Monday. -/
def weekdayFromMonday (d : Date) : Nat :=
  d.day % 7

/-- The day of the week, 0 for Sunday. -/
def weekday (d : Date) : Nat :=
  (d.weekdayFromMonday + 1) % 7

instance : LE Date := ⟨fun a b => a.day ≤ b.day⟩
instance : LT Date := ⟨fun a b => a.day < b.day⟩
instance (a b : Date) : Decidable (a ≤ b) := inferInstanceAs (Decidable (a.day ≤ b.day))
instance (a b : Date) : Decidable (a < b) := inferInstanceAs (Decidable (a.day < b.day))

def first : Date := ⟨0, by decide⟩

end Date

/-- A number in decimal digits, with zeros in front up to a width. -/
def padded (width n : Nat) : String :=
  let ds := Nat.toDigits 10 n
  String.ofList (List.replicate (width - ds.length) '0' ++ ds)

def Date.text (d : Date) : String :=
  padded 4 d.year ++ "-" ++ padded 2 d.month ++ "-" ++ padded 2 d.dayOfMonth

namespace Date

theorem daysInYears_cycles {c q a : Nat} (b : Nat) (hc : c ≤ 3) (hq : q ≤ 24) (ha : a ≤ 3) :
    daysInYears (400 * b + 100 * c + 4 * q + a) = 146097 * b + 36524 * c + 1461 * q + 365 * a := by
  have h4 : (400 * b + 100 * c + 4 * q + a) / 4 = 100 * b + 25 * c + q := by omega
  have h100 : (400 * b + 100 * c + 4 * q + a) / 100 = 4 * b + c := by omega
  have h400 : (400 * b + 100 * c + 4 * q + a) / 400 = b := by omega
  rw [daysInYears, h4, h100, h400]
  omega

theorem daysInYears_yearsInDays_le (n : Nat) : daysInYears (yearsInDays n) ≤ n := by
  simp only [yearsInDays]
  rw [daysInYears_cycles (n / 146097) (by omega) (by omega) (by omega)]
  omega

theorem daysInYears_succ (n : Nat) :
    daysInYears (n + 1) = daysInYears n + if isLeapYear (n + 1) then 366 else 365 := by
  have h4 : (n + 1) / 4 = n / 4 + if (n + 1) % 4 = 0 then 1 else 0 := by split <;> omega
  have h100 : (n + 1) / 100 = n / 100 + if (n + 1) % 100 = 0 then 1 else 0 := by split <;> omega
  have h400 : (n + 1) / 400 = n / 400 + if (n + 1) % 400 = 0 then 1 else 0 := by split <;> omega
  have hle : n / 100 ≤ n / 4 := by omega
  rw [daysInYears, daysInYears, h4, h100, h400]
  by_cases d4 : (n + 1) % 4 = 0 <;> by_cases d100 : (n + 1) % 100 = 0 <;>
    by_cases d400 : (n + 1) % 400 = 0 <;>
    simp [isLeapYear, d4, d100, d400] <;> omega

theorem daysInYears_mono {m n : Nat} (h : m ≤ n) : daysInYears m ≤ daysInYears n := by
  induction h with
  | refl => exact Nat.le_refl _
  | step _ ih => rw [daysInYears_succ]; split <;> omega

theorem lt_daysInYears_yearsInDays (n : Nat) : n < daysInYears (yearsInDays n + 1) := by
  simp only [yearsInDays]
  generalize hb : n / 146097 = b
  generalize hr : n % 146097 = r
  generalize hc : min 3 (r / 36524) = c
  generalize hq : (r - c * 36524) / 1461 = q
  generalize ha : min 3 ((r - c * 36524) % 1461 / 365) = a
  have hn : n = 146097 * b + r := by omega
  have hsum : daysInYears (400 * b + 100 * c + 4 * q + a) = _ :=
    daysInYears_cycles b (by omega) (by omega) (by omega)
  rw [daysInYears_succ, hsum]
  have hleap : isLeapYear (400 * b + 100 * c + 4 * q + a + 1) =
      (a == 3 && (q != 24 || c == 3)) := by
    rw [Bool.eq_iff_iff]
    simp only [isLeapYear, Bool.and_eq_true, Bool.or_eq_true, beq_iff_eq, bne_iff_ne]
    omega
  rw [hleap]
  simp only [Bool.and_eq_true, Bool.or_eq_true, beq_iff_eq, bne_iff_ne]
  split <;> omega

theorem weekday_lt (d : Date) : d.weekday < 7 :=
  Nat.mod_lt _ (by decide)

end Date
end RoutineVisibility
