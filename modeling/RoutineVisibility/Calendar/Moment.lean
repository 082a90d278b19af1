import RoutineVisibility.Calendar.Date
import RoutineVisibility.Calendar.TimeOfDay

/-! Moments of local time to the microsecond, within the years 1 to 9999. -/
namespace RoutineVisibility

def dayTicks : Nat := 86400000000

def minuteTicks : Nat := 60000000

structure Moment where
  date : Date
  /-- Microseconds since midnight. -/
  tick : Nat
  tick_lt : tick < dayTicks := by decide
deriving DecidableEq, Repr

inductive CalendarFault where
  | outOfRange
  | year (y : Nat)
  | day
deriving DecidableEq, Repr

def CalendarFault.message : CalendarFault → String
  | .outOfRange => "date value out of range"
  | .year y => s!"year {y} is out of range"
  | .day => "day is out of range for month"

namespace Moment

/-- Microseconds since the start of the calendar. -/
def ticks (m : Moment) : Nat :=
  m.date.day * dayTicks + m.tick

def ofTicks? (n : Int) : Option Moment :=
  if h : 0 ≤ n ∧ n.toNat / dayTicks < calendarDays then
    some ⟨⟨n.toNat / dayTicks, h.2⟩, n.toNat % dayTicks, Nat.mod_lt _ (by decide)⟩
  else none

instance : LE Moment := ⟨fun a b => a.ticks ≤ b.ticks⟩
instance : LT Moment := ⟨fun a b => a.ticks < b.ticks⟩
instance (a b : Moment) : Decidable (a ≤ b) := inferInstanceAs (Decidable (a.ticks ≤ b.ticks))
instance (a b : Moment) : Decidable (a < b) := inferInstanceAs (Decidable (a.ticks < b.ticks))

/-- The moment so many microseconds later, or earlier. -/
def shift? (m : Moment) (δ : Int) : Option Moment :=
  ofTicks? (m.ticks + δ)

def minuteOfDay (m : Moment) : Nat :=
  m.tick / minuteTicks

def first : Moment := ⟨Date.first, 0, by decide⟩

/-- Date and time with a `T` between them; the microseconds are left out if there are none. -/
def text (m : Moment) : String :=
  let second := m.tick / 1000000
  let micro := m.tick % 1000000
  m.date.text ++ "T" ++ padded 2 (second / 3600) ++ ":" ++ padded 2 (second / 60 % 60) ++ ":" ++
    padded 2 (second % 60) ++ if micro = 0 then "" else "." ++ padded 6 micro

theorem ticks_injective {a b : Moment} (h : a.ticks = b.ticks) : a = b := by
  obtain ⟨⟨d, hd⟩, t, ht⟩ := a
  obtain ⟨⟨e, he⟩, u, hu⟩ := b
  simp only [ticks, dayTicks] at h ht hu
  have : d = e := by omega
  have : t = u := by omega
  subst_vars
  rfl

theorem ticks_of_ofTicks? {n : Int} {m : Moment} (h : ofTicks? n = some m) :
    (m.ticks : Int) = n := by
  simp only [ofTicks?] at h
  split at h
  · next hn =>
    cases h
    simp only [ticks]
    have := Nat.div_add_mod n.toNat dayTicks
    rw [Nat.mul_comm] at this
    omega
  · simp at h

theorem ticks_lt (m : Moment) : m.ticks / dayTicks < calendarDays := by
  have h : m.ticks / dayTicks = m.date.day := by
    rw [ticks, Nat.mul_comm, Nat.mul_add_div (by decide), Nat.div_eq_of_lt m.tick_lt, Nat.add_zero]
  rw [h]
  exact m.date.day_lt

theorem ofTicks?_ticks (m : Moment) : ofTicks? m.ticks = some m := by
  cases h : ofTicks? m.ticks with
  | none =>
    unfold ofTicks? at h
    split at h
    · simp at h
    · next hn => exact absurd ⟨Int.natCast_nonneg _, by simpa using m.ticks_lt⟩ hn
  | some m' => exact congrArg some (ticks_injective (by exact_mod_cast ticks_of_ofTicks? h))

end Moment

def Date.atTime (d : Date) (t : TimeOfDay) : Moment :=
  ⟨d, t.minute * minuteTicks, by have := t.minute_lt; simp only [dayTicks, minuteTicks]; omega⟩

@[simp] theorem Date.atTime_date (d : Date) (t : TimeOfDay) : (d.atTime t).date = d := rfl

end RoutineVisibility
