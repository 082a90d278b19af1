import Mathlib.Order.Bounds.Defs
import RoutineVisibility.Proofs.Calendar.Civil
import RoutineVisibility.Proofs.Except
import RoutineVisibility.Reset.Schedule

/-! Resets of a schedule in terms of the days on which it resets. -/
namespace RoutineVisibility

namespace Moment

def passedDay (now : Moment) (t : TimeOfDay) : Int :=
  if t.minute * minuteTicks ≤ now.tick then now.date.day else now.date.day - 1

theorem passedDay_bounds (now : Moment) (t : TimeOfDay) :
    (now.date.day : Int) - 1 ≤ now.passedDay t ∧ now.passedDay t ≤ now.date.day := by
  unfold passedDay
  split <;> omega

theorem atTime_le_iff {d : Date} {t : TimeOfDay} {now : Moment} :
    d.atTime t ≤ now ↔ (d.day : Int) ≤ now.passedDay t := by
  have early := t.minute_lt
  have late := now.tick_lt
  change d.day * dayTicks + t.minute * minuteTicks ≤ now.date.day * dayTicks + now.tick ↔ _
  unfold passedDay
  by_cases passed : t.minute * minuteTicks ≤ now.tick
  · rw [if_pos passed]
    simp only [dayTicks, minuteTicks] at *
    omega
  · rw [if_neg passed]
    simp only [dayTicks, minuteTicks] at *
    omega

theorem lt_atTime_iff {d : Date} {t : TimeOfDay} {now : Moment} :
    now < d.atTime t ↔ now.passedDay t < (d.day : Int) := by
  have not_le : now < d.atTime t ↔ ¬ d.atTime t ≤ now := Nat.not_le.symm
  rw [not_le, atTime_le_iff, Int.not_le]

end Moment

namespace Schedule

def dayIn (day : Int) (length : Nat) : Int :=
  if day = lastDayOfMonth then length else min day length

def ResetsOn (s : Schedule) (d : Date) : Prop :=
  match s.period with
  | some .daily => True
  | some .weekly => (d.weekday : Int) % 7 = s.day.getD 0 % 7
  | some .monthly => (d.dayOfMonth : Int) = dayIn (s.day.getD 1) (monthLength d.year d.month)
  | some .custom => False
  | none => False

/-- The periods of a schedule come to an end. -/
def Rolls (s : Schedule) : Prop :=
  ∃ p, s.period = some p ∧ p ≠ .custom

def IsReset (s : Schedule) (m : Moment) : Prop :=
  s.ResetsOn m.date ∧ m = m.date.atTime s.time

theorem isReset_atTime {s : Schedule} {d : Date} (h : s.ResetsOn d) : s.IsReset (d.atTime s.time) :=
  ⟨h, rfl⟩

structure IsLastDay (s : Schedule) (day : Int) (d : Date) : Prop where
  resets : s.ResetsOn d
  le : (d.day : Int) ≤ day
  greatest : ∀ e, s.ResetsOn e → (e.day : Int) ≤ day → e.day ≤ d.day

structure IsNextDay (s : Schedule) (day : Int) (d : Date) : Prop where
  resets : s.ResetsOn d
  lt : day < (d.day : Int)
  least : ∀ e, s.ResetsOn e → day < (e.day : Int) → d.day ≤ e.day

variable {s : Schedule} {now start : Moment} {day : Int} {d e : Date} {t : TimeOfDay}

theorem IsLastDay.isGreatest (h : s.IsLastDay (now.passedDay s.time) d) :
    IsGreatest {m | s.IsReset m ∧ m ≤ now} (d.atTime s.time) := by
  refine ⟨⟨isReset_atTime h.resets, Moment.atTime_le_iff.2 h.le⟩, ?_⟩
  rintro m ⟨⟨resets, e⟩, le⟩
  rw [e, Moment.atTime_le_iff] at le
  have := h.greatest m.date resets le
  rw [e]
  exact Nat.add_le_add_right (Nat.mul_le_mul_right dayTicks this) _

theorem IsNextDay.isLeast (h : s.IsNextDay (now.passedDay s.time) d) :
    IsLeast {m | s.IsReset m ∧ now < m} (d.atTime s.time) := by
  refine ⟨⟨isReset_atTime h.resets, Moment.lt_atTime_iff.2 h.lt⟩, ?_⟩
  rintro m ⟨⟨resets, e⟩, lt⟩
  rw [e, Moment.lt_atTime_iff] at lt
  have := h.least m.date resets lt
  rw [e]
  exact Nat.add_le_add_right (Nat.mul_le_mul_right dayTicks this) _

theorem dateAway_eq_ok_iff {days : Int} :
    dateAway d days = .ok e ↔ (d.day : Int) + days = e.day := by
  rw [← Date.ofDay?_eq_some_iff]
  unfold dateAway
  cases Date.ofDay? (d.day + days) <;> simp

theorem weekday_emod (d : Date) : (d.weekday : Int) % 7 = ((d.day : Int) + 1) % 7 := by
  unfold Date.weekday Date.weekdayFromMonday
  omega

theorem resetsOn_of_daily (daily : s.period = some .daily) (d : Date) : s.ResetsOn d := by
  unfold ResetsOn
  rw [daily]
  trivial

theorem resetsOn_iff_of_weekly (weekly : s.period = some .weekly) :
    s.ResetsOn d ↔ ((d.day : Int) + 1) % 7 = s.day.getD 0 % 7 := by
  unfold ResetsOn
  rw [weekly, ← weekday_emod]

theorem dailyStart_eq_ok (h : dailyStart t now = .ok start) :
    ∃ d : Date, start = d.atTime t ∧ (d.day : Int) = now.passedDay t := by
  have bounds := now.passedDay_bounds t
  unfold dailyStart at h
  by_cases early : now < now.date.atTime t
  · rw [if_pos early] at h
    obtain ⟨d, away, h⟩ := Except.bind_eq_ok_iff.1 h
    have before := dateAway_eq_ok_iff.1 away
    have passed := Moment.lt_atTime_iff.1 early
    exact ⟨d, (Except.ok.inj h).symm, by omega⟩
  · rw [if_neg early] at h
    have passed := mt Moment.lt_atTime_iff.2 early
    exact ⟨now.date, (Except.ok.inj h).symm, by omega⟩

theorem weeklyStart_eq_ok (h : weeklyStart day t now = .ok start) :
    ∃ d : Date, start = d.atTime t ∧
      (d.day : Int) = now.passedDay t - (now.passedDay t + 1 - day) % 7 := by
  obtain ⟨d, away, h⟩ := Except.bind_eq_ok_iff.1 h
  have bounds := now.passedDay_bounds t
  have first := dateAway_eq_ok_iff.1 away
  have weekday := weekday_emod now.date
  unfold daysSince at first
  by_cases early : now < d.atTime t
  · rw [if_pos early] at h
    obtain ⟨d', away', h⟩ := Except.bind_eq_ok_iff.1 h
    have before := dateAway_eq_ok_iff.1 away'
    have passed := Moment.lt_atTime_iff.1 early
    exact ⟨d', (Except.ok.inj h).symm, by omega⟩
  · rw [if_neg early] at h
    have passed := mt Moment.lt_atTime_iff.2 early
    exact ⟨d, (Except.ok.inj h).symm, by omega⟩

theorem monthReset_eq (y m : Nat) (day : Int) (t : TimeOfDay) :
    monthReset y m day t =
      match if 1 ≤ dayIn day (monthLength y m) then
        Date.ofCivil? y m (dayIn day (monthLength y m)).toNat else none with
      | some date => .ok (date.atTime t)
      | none => .error .day := rfl

theorem monthReset_eq_ok {y m : Nat} (h : monthReset y m day t = .ok start) :
    ∃ d : Date, start = d.atTime t ∧ d.year = y ∧ d.month = m ∧
      (d.dayOfMonth : Int) = dayIn day (monthLength y m) := by
  rw [monthReset_eq] at h
  by_cases positive : 1 ≤ dayIn day (monthLength y m)
  · rw [if_pos positive] at h
    cases found : Date.ofCivil? y m (dayIn day (monthLength y m)).toNat with
    | none => rw [found] at h; cases h
    | some d =>
      rw [found] at h
      obtain ⟨year, month, ofMonth⟩ := Date.ofCivil?_eq_some_iff.1 found
      exact ⟨d, (Except.ok.inj h).symm, year, month, by omega⟩
  · rw [if_neg positive] at h
    cases h

theorem monthBefore_eq_ok {y m : Nat} (h : monthBefore d.year d.month = .ok (y, m))
    (year : e.year = y) (month : e.month = m) : e.monthIndex + 1 = d.monthIndex := by
  have first := d.one_le_month
  have last := d.month_le
  unfold monthBefore at h
  unfold Date.monthIndex
  split_ifs at h <;> cases h <;> omega

theorem monthAfter_eq_ok {y m : Nat} (h : monthAfter d.year d.month = .ok (y, m))
    (year : e.year = y) (month : e.month = m) : e.monthIndex = d.monthIndex + 1 := by
  have first := d.one_le_month
  have last := d.month_le
  have positive : 1 ≤ d.year := Nat.succ_pos _
  unfold monthAfter at h
  unfold Date.monthIndex
  split_ifs at h <;> cases h <;> omega

end Schedule
end RoutineVisibility
