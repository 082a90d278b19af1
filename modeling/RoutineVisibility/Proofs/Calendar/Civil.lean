import Mathlib.Tactic.IntervalCases
import RoutineVisibility.Calendar.Date

/-! Months tile the days of the calendar, so `Date.ofCivil?` and the civil fields are inverse to
each other. -/
namespace RoutineVisibility

theorem daysBeforeMonth_one (y : Nat) : daysBeforeMonth y 1 = 0 := by
  simp [daysBeforeMonth]

theorem daysBeforeMonth_succ (y : Nat) {m : Nat} (first : 1 ≤ m) (last : m < 12) :
    daysBeforeMonth y (m + 1) = daysBeforeMonth y m + monthLength y m := by
  unfold daysBeforeMonth monthLength
  interval_cases m <;> cases isLeapYear y <;> rfl

theorem daysBeforeMonth_december (y : Nat) :
    daysBeforeMonth y 12 + monthLength y 12 = if isLeapYear y then 366 else 365 := by
  unfold daysBeforeMonth monthLength
  cases isLeapYear y <;> rfl

theorem one_le_monthLength (y m : Nat) : 1 ≤ monthLength y m := by
  unfold monthLength
  split_ifs <;> decide

theorem monthLength_le (y m : Nat) : monthLength y m ≤ 31 := by
  unfold monthLength
  split_ifs <;> decide

def monthStart (k : Nat) : Nat :=
  daysInYears (k / 12) + daysBeforeMonth (k / 12 + 1) (k % 12 + 1)

theorem monthStart_succ (k : Nat) :
    monthStart (k + 1) = monthStart k + monthLength (k / 12 + 1) (k % 12 + 1) := by
  unfold monthStart
  by_cases december : k % 12 = 11
  · have year : (k + 1) / 12 = k / 12 + 1 := by omega
    have month : (k + 1) % 12 = 0 := by omega
    have whole := daysBeforeMonth_december (k / 12 + 1)
    rw [year, month, december, Date.daysInYears_succ, daysBeforeMonth_one, ← whole, Nat.add_zero,
      Nat.add_assoc]
  · have year : (k + 1) / 12 = k / 12 := by omega
    have month : (k + 1) % 12 = k % 12 + 1 := by omega
    rw [year, month, daysBeforeMonth_succ _ (by omega) (by omega), Nat.add_assoc]

theorem monthStart_lt_succ (k : Nat) : monthStart k < monthStart (k + 1) := by
  have := one_le_monthLength (k / 12 + 1) (k % 12 + 1)
  rw [monthStart_succ]
  omega

theorem monthStart_mono {j k : Nat} (h : j ≤ k) : monthStart j ≤ monthStart k := by
  induction h with
  | refl => exact Nat.le_refl _
  | step _ ih => exact Nat.le_trans ih (Nat.le_of_lt (monthStart_lt_succ _))

/-- Members of a range for which a predicate holds up to some point are counted up to that point. -/
theorem le_countP_range'_iff {p : Nat → Bool} {n : Nat}
    (down : ∀ m, 1 ≤ m → m < n → p (m + 1) → p m) {m : Nat} (first : 1 ≤ m) (last : m ≤ n) :
    m ≤ (List.range' 1 n).countP p ↔ p m := by
  induction n generalizing m with
  | zero => omega
  | succ n ih =>
    have down' : ∀ m, 1 ≤ m → m < n → p (m + 1) → p m := fun m h h' => down m h (by omega)
    rw [List.range'_1_concat, List.countP_append, List.countP_singleton, Nat.add_comm 1 n]
    have bound : (List.range' 1 n).countP p ≤ n := by
      simpa using List.countP_le_length (l := List.range' 1 n) (p := p)
    have full (next : p (n + 1)) : n ≤ (List.range' 1 n).countP p := by
      rcases Nat.eq_zero_or_pos n with rfl | pos
      · exact Nat.zero_le _
      · exact (ih down' pos (Nat.le_refl n)).2 (down n pos (Nat.lt_succ_self n) next)
    rcases Nat.lt_or_eq_of_le last with inner | rfl
    · have counted := ih down' first (Nat.le_of_lt_succ inner)
      split
      · next next =>
        have := full next
        exact ⟨fun _ => counted.1 (by omega), fun _ => by omega⟩
      · exact counted
    · split
      · next next =>
        have := full next
        exact ⟨fun _ => next, fun _ => by omega⟩
      · next stops => exact ⟨fun _ => by omega, fun next => absurd next stops⟩

namespace Date

theorem le_month_iff (d : Date) {m : Nat} (first : 1 ≤ m) (last : m ≤ 12) :
    m ≤ d.month ↔ daysBeforeMonth d.year m ≤ d.dayOfYear := by
  have down (m : Nat) (h : 1 ≤ m) (h' : m < 12)
      (after : decide (daysBeforeMonth d.year (m + 1) ≤ d.dayOfYear) = true) :
      decide (daysBeforeMonth d.year m ≤ d.dayOfYear) = true := by
    rw [decide_eq_true_iff, daysBeforeMonth_succ _ h h'] at after
    exact decide_eq_true (by omega)
  rw [month, le_countP_range'_iff down first last, decide_eq_true_iff]

theorem one_le_month (d : Date) : 1 ≤ d.month := by
  rw [le_month_iff d (Nat.le_refl 1) (by decide), daysBeforeMonth_one]
  exact Nat.zero_le _

theorem month_le (d : Date) : d.month ≤ 12 := by
  unfold month
  simpa using List.countP_le_length (l := List.range' 1 12)
    (p := fun m => decide (daysBeforeMonth d.year m ≤ d.dayOfYear))

def monthIndex (d : Date) : Nat :=
  12 * (d.year - 1) + (d.month - 1)

theorem monthIndex_div (d : Date) : d.monthIndex / 12 + 1 = d.year := by
  have := d.month_le
  have := d.one_le_month
  have year : d.year = yearsInDays d.day + 1 := rfl
  unfold monthIndex
  omega

theorem monthIndex_mod (d : Date) : d.monthIndex % 12 + 1 = d.month := by
  have := d.month_le
  have := d.one_le_month
  unfold monthIndex
  omega

theorem daysInYears_add_dayOfYear (d : Date) :
    daysInYears (d.monthIndex / 12) + d.dayOfYear = d.day := by
  have year : d.monthIndex / 12 = yearsInDays d.day := Nat.succ.inj d.monthIndex_div
  have := daysInYears_yearsInDays_le d.day
  rw [year, dayOfYear]
  omega

theorem monthStart_le (d : Date) : monthStart d.monthIndex ≤ d.day := by
  have inYear : daysBeforeMonth d.year d.month ≤ d.dayOfYear :=
    (d.le_month_iff d.one_le_month d.month_le).1 (Nat.le_refl _)
  have := d.daysInYears_add_dayOfYear
  rw [monthStart, monthIndex_div, monthIndex_mod]
  omega

theorem lt_monthStart_succ (d : Date) : d.day < monthStart (d.monthIndex + 1) := by
  have split := d.daysInYears_add_dayOfYear
  rw [monthStart_succ, monthStart, monthIndex_div, monthIndex_mod]
  rcases Nat.lt_or_eq_of_le d.month_le with inner | december
  · have after : ¬ daysBeforeMonth d.year (d.month + 1) ≤ d.dayOfYear := by
      rw [← d.le_month_iff (by omega) inner]
      omega
    rw [daysBeforeMonth_succ _ d.one_le_month inner] at after
    omega
  · have year : d.monthIndex / 12 = yearsInDays d.day := Nat.succ.inj d.monthIndex_div
    have before := lt_daysInYears_yearsInDays d.day
    have whole := daysBeforeMonth_december d.year
    rw [← year, daysInYears_succ, monthIndex_div, ← whole] at before
    rw [december]
    omega

/-- The month of a date is the one whose days it lies among. -/
theorem monthIndex_eq_iff (d : Date) {k : Nat} :
    d.monthIndex = k ↔ monthStart k ≤ d.day ∧ d.day < monthStart (k + 1) := by
  constructor
  · rintro rfl
    exact ⟨d.monthStart_le, d.lt_monthStart_succ⟩
  · rintro ⟨first, last⟩
    have lower := d.monthStart_le
    have upper := d.lt_monthStart_succ
    rcases Nat.lt_trichotomy d.monthIndex k with less | equal | greater
    · have : monthStart (d.monthIndex + 1) ≤ monthStart k := monthStart_mono less
      omega
    · exact equal
    · have : monthStart (k + 1) ≤ monthStart d.monthIndex := monthStart_mono greater
      omega

theorem lt_monthStart_of_lt {d e : Date} (h : d.monthIndex < e.monthIndex) :
    d.day < monthStart e.monthIndex :=
  Nat.lt_of_lt_of_le d.lt_monthStart_succ (monthStart_mono h)

theorem monthIndex_le_of_day_le {d e : Date} (h : d.day ≤ e.day) : d.monthIndex ≤ e.monthIndex := by
  by_contra later
  have := lt_monthStart_of_lt (Nat.lt_of_not_le later)
  have := d.monthStart_le
  omega

theorem dayOfMonth_eq (d : Date) : monthStart d.monthIndex + d.dayOfMonth = d.day + 1 := by
  have inYear : daysBeforeMonth d.year d.month ≤ d.dayOfYear :=
    (d.le_month_iff d.one_le_month d.month_le).1 (Nat.le_refl _)
  have split := d.daysInYears_add_dayOfYear
  rw [monthStart, monthIndex_div, monthIndex_mod, dayOfMonth]
  omega

theorem dayOfMonth_bounds (d : Date) :
    1 ≤ d.dayOfMonth ∧ d.dayOfMonth ≤ monthLength d.year d.month := by
  have day := d.dayOfMonth_eq
  have upper := d.lt_monthStart_succ
  rw [monthStart_succ, monthIndex_div, monthIndex_mod] at upper
  exact ⟨by unfold dayOfMonth; omega, by omega⟩

theorem year_le (d : Date) : d.year ≤ 9999 := by
  have began : daysInYears (yearsInDays d.day) ≤ d.day := daysInYears_yearsInDays_le d.day
  have ended : d.day < daysInYears 9999 := d.day_lt
  have year : d.year = yearsInDays d.day + 1 := rfl
  by_contra later
  have beyond : daysInYears 9999 ≤ daysInYears (yearsInDays d.day) := by
    apply daysInYears_mono
    omega
  omega

/-- The days of a month of a year. -/
theorem monthStart_civil {y m : Nat} (y1 : 1 ≤ y) (m1 : 1 ≤ m) (m12 : m ≤ 12) :
    monthStart (12 * (y - 1) + (m - 1)) = daysInYears (y - 1) + daysBeforeMonth y m ∧
      monthStart (12 * (y - 1) + (m - 1) + 1) = daysInYears (y - 1) + daysBeforeMonth y m +
        monthLength y m := by
  have years : (12 * (y - 1) + (m - 1)) / 12 = y - 1 := by omega
  have months : (12 * (y - 1) + (m - 1)) % 12 = m - 1 := by omega
  have start : monthStart (12 * (y - 1) + (m - 1)) = daysInYears (y - 1) + daysBeforeMonth y m := by
    rw [monthStart, years, months, Nat.sub_add_cancel y1, Nat.sub_add_cancel m1]
  refine ⟨start, ?_⟩
  rw [monthStart_succ, start, years, months, Nat.sub_add_cancel y1, Nat.sub_add_cancel m1]

theorem ofDay?_eq_some_iff {n : Int} {d : Date} : ofDay? n = some d ↔ n = d.day := by
  obtain ⟨day, day_lt⟩ := d
  unfold ofDay?
  split
  · next h =>
    simp only [Option.some.injEq, mk.injEq]
    omega
  · next h =>
    refine ⟨by simp, fun e => absurd ?_ h⟩
    change n = (day : Int) at e
    exact ⟨by omega, by omega⟩

/-- A date is found by its civil fields, and has the fields that it is found by. -/
theorem ofCivil?_eq_some_iff {y m n : Nat} {d : Date} :
    ofCivil? y m n = some d ↔ d.year = y ∧ d.month = m ∧ d.dayOfMonth = n := by
  unfold ofCivil?
  constructor
  · intro h
    split at h
    · next fields =>
      obtain ⟨y1, m1, m12, n1, last⟩ := fields
      have day : daysInYears (y - 1) + daysBeforeMonth y m + (n - 1) = d.day :=
        Int.ofNat.inj (ofDay?_eq_some_iff.1 h)
      obtain ⟨start, size⟩ := monthStart_civil y1 m1 m12
      have index : d.monthIndex = 12 * (y - 1) + (m - 1) :=
        d.monthIndex_eq_iff.2 ⟨by omega, by omega⟩
      have year := d.monthIndex_div
      have month := d.monthIndex_mod
      have ofMonth := d.dayOfMonth_eq
      rw [index] at year month ofMonth
      exact ⟨by omega, by omega, by omega⟩
    · cases h
  · rintro ⟨rfl, rfl, rfl⟩
    have bounds := d.dayOfMonth_bounds
    rw [if_pos ⟨Nat.succ_pos _, d.one_le_month, d.month_le, bounds.1, bounds.2⟩, ofDay?_eq_some_iff]
    have day := d.dayOfMonth_eq
    rw [monthStart, monthIndex_div, monthIndex_mod,
      ← Nat.sub_eq_of_eq_add d.monthIndex_div.symm] at day
    omega

/-- Every day of a month of the calendar is a date. -/
theorem exists_ofCivil? {y m n : Nat} (year : 1 ≤ y ∧ y ≤ 9999) (month : 1 ≤ m ∧ m ≤ 12)
    (day : 1 ≤ n ∧ n ≤ monthLength y m) : ∃ d, ofCivil? y m n = some d := by
  obtain ⟨-, size⟩ := monthStart_civil year.1 month.1 month.2
  have inCalendar : monthStart (12 * (y - 1) + (m - 1) + 1) ≤ monthStart (12 * 9999) :=
    monthStart_mono (by omega)
  have whole : monthStart (12 * 9999) = calendarDays := by decide +kernel
  have last : daysInYears (y - 1) + daysBeforeMonth y m + (n - 1) < calendarDays := by omega
  refine ⟨⟨_, last⟩, ?_⟩
  rw [ofCivil?, if_pos ⟨year.1, month.1, month.2, day.1, day.2⟩, ofDay?_eq_some_iff]

end Date
end RoutineVisibility
