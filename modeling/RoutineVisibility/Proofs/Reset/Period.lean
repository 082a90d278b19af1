import RoutineVisibility.Proofs.Calendar.LocalTime
import RoutineVisibility.Proofs.Reset.Boundary
import RoutineVisibility.Record.Violation

/-! The periods of a schedule tile time. -/
namespace RoutineVisibility

namespace Moment

theorem eq_of_isGreatest {ms : Set Moment} {m m' : Moment} (h : IsGreatest ms m)
    (h' : IsGreatest ms m') : m = m' :=
  ticks_injective (Nat.le_antisymm (h'.2 h.1) (h.2 h'.1))

end Moment

namespace Schedule
variable {s : Schedule} {now start : Moment} {day : Int} {d e : Date} {t : TimeOfDay}

/-- A monthly schedule resets on a day of the month, so that every month has its reset. -/
def NamesDay (s : Schedule) : Prop :=
  s.period = some .monthly → 1 ≤ s.day.getD 1

/-- A way back within the calendar ends on a date. -/
theorem exists_dateAway {days : Int} (first : 0 ≤ (d.day : Int) + days) (back : days ≤ 0) :
    ∃ e, dateAway d days = .ok e := by
  have last := d.day_lt
  have inCalendar : ((d.day : Int) + days).toNat < calendarDays := by omega
  exact ⟨⟨_, inCalendar⟩, dateAway_eq_ok_iff.2 (by simp only [Int.toNat_of_nonneg first])⟩

theorem dayIn_bounds {length : Nat} (names : 1 ≤ day) (nonempty : 1 ≤ length) :
    1 ≤ dayIn day length ∧ dayIn day length ≤ length := by
  unfold dayIn
  split <;> omega

theorem exists_monthReset {y m : Nat} (year : 1 ≤ y ∧ y ≤ 9999) (month : 1 ≤ m ∧ m ≤ 12)
    (names : 1 ≤ day) (t : TimeOfDay) : ∃ start, monthReset y m day t = .ok start := by
  obtain ⟨first, last⟩ := dayIn_bounds names (one_le_monthLength y m)
  obtain ⟨d, found⟩ : ∃ d, Date.ofCivil? y m (dayIn day (monthLength y m)).toNat = some d :=
    Date.exists_ofCivil? year month ⟨by omega, by omega⟩
  refine ⟨d.atTime t, ?_⟩
  rw [monthReset_eq, if_pos first, found]

theorem exists_dailyStart (le : (e.day : Int) ≤ now.passedDay t) :
    ∃ start, dailyStart t now = .ok start := by
  unfold dailyStart
  by_cases early : now < now.date.atTime t
  · have passed := Moment.lt_atTime_iff.1 early
    obtain ⟨d, away⟩ : ∃ d, dateAway now.date (-1) = .ok d := exists_dateAway (by omega) (by decide)
    rw [if_pos early, away]
    exact ⟨d.atTime t, rfl⟩
  · rw [if_neg early]
    exact ⟨_, rfl⟩

theorem exists_weeklyStart (weekday : ((e.day : Int) + 1) % 7 = day % 7)
    (le : (e.day : Int) ≤ now.passedDay t) : ∃ start, weeklyStart day t now = .ok start := by
  have bounds := now.passedDay_bounds t
  have today := weekday_emod now.date
  obtain ⟨d, away⟩ : ∃ d, dateAway now.date (-daysSince now.date.weekday day) = .ok d := by
    apply exists_dateAway
    · unfold daysSince
      omega
    · unfold daysSince
      omega
  have first := dateAway_eq_ok_iff.1 away
  unfold daysSince at first
  by_cases early : now < d.atTime t
  · have passed := Moment.lt_atTime_iff.1 early
    obtain ⟨d', away'⟩ : ∃ d', dateAway d (-7) = .ok d' := exists_dateAway (by omega) (by decide)
    refine ⟨d'.atTime t, Except.bind_eq_ok_iff.2 ⟨d, away, ?_⟩⟩
    rw [if_pos early, away']
    rfl
  · exact ⟨d.atTime t, Except.bind_eq_ok_iff.2 ⟨d, away, if_neg early⟩⟩

theorem exists_monthBefore (later : 1 ≤ d.monthIndex) :
    ∃ y m, monthBefore d.year d.month = .ok (y, m) ∧ (1 ≤ y ∧ y ≤ 9999) ∧ 1 ≤ m ∧ m ≤ 12 := by
  have first := d.one_le_month
  have last := d.month_le
  have year := d.year_le
  have positive : 1 ≤ d.year := Nat.succ_pos _
  unfold Date.monthIndex at later
  unfold monthBefore
  by_cases january : d.month ≤ 1
  · rw [if_pos january, if_neg (by omega)]
    exact ⟨d.year - 1, 12, rfl, ⟨by omega, by omega⟩, by decide, by decide⟩
  · rw [if_neg january]
    exact ⟨d.year, d.month - 1, rfl, ⟨positive, year⟩, by omega, by omega⟩

theorem exists_monthlyStart (monthly : s.period = some .monthly) (names : 1 ≤ s.day.getD 1)
    (resets : s.ResetsOn e) (le : (e.day : Int) ≤ now.passedDay t) :
    ∃ start, monthlyStart (s.day.getD 1) t now = .ok start := by
  have bounds := now.passedDay_bounds t
  have thisYear : 1 ≤ now.date.year ∧ now.date.year ≤ 9999 := ⟨Nat.succ_pos _, now.date.year_le⟩
  have thisMonth : 1 ≤ now.date.month ∧ now.date.month ≤ 12 :=
    ⟨now.date.one_le_month, now.date.month_le⟩
  obtain ⟨reset, found⟩ := exists_monthReset thisYear thisMonth names t
  obtain ⟨d, same, year, month, resets'⟩ := resetsOn_of_monthReset monthly found
  rw [same] at found
  by_cases early : now < d.atTime t
  · have passed := Moment.lt_atTime_iff.1 early
    have index : d.monthIndex = now.date.monthIndex := by
      rw [Date.monthIndex, Date.monthIndex, year, month]
    -- The reset of this month lies ahead, so the one that lies behind is of an earlier month.
    have earlier : e.monthIndex < now.date.monthIndex := by
      by_contra notEarlier
      have := day_le_of_monthly monthly resets' resets (by omega)
      omega
    obtain ⟨y, m, before, inYears, inMonths⟩ := exists_monthBefore (d := now.date) (by omega)
    obtain ⟨start, found'⟩ := exists_monthReset inYears inMonths names t
    refine ⟨start, Except.bind_eq_ok_iff.2 ⟨_, found, ?_⟩⟩
    rw [if_pos early, before]
    exact found'
  · exact ⟨d.atTime t, Except.bind_eq_ok_iff.2 ⟨_, found, if_neg early⟩⟩

/-- A period has a start if there is a reset up to the moment. -/
theorem exists_start (rolls : s.Rolls) (names : s.NamesDay) {m : Moment} (reset : s.IsReset m)
    (le : m ≤ now) : ∃ start, s.start now = .ok start := by
  obtain ⟨resets, atTime⟩ := reset
  rw [atTime, Moment.atTime_le_iff] at le
  obtain ⟨p, period, ends⟩ := rolls
  unfold Schedule.start
  rw [period]
  cases p with
  | daily => exact exists_dailyStart le
  | weekly => exact exists_weeklyStart ((resetsOn_iff_of_weekly period).1 resets) le
  | monthly => exact exists_monthlyStart period (names period) resets le
  | custom => exact absurd rfl ends

theorem start_eq_ok_iff (rolls : s.Rolls) (names : s.NamesDay) :
    s.start now = .ok start ↔ IsGreatest {m | s.IsReset m ∧ m ≤ now} start := by
  constructor
  · exact isGreatest_of_start rolls
  · intro greatest
    obtain ⟨start', found⟩ := exists_start rolls names greatest.1.1 greatest.1.2
    rw [found, Moment.eq_of_isGreatest greatest (isGreatest_of_start rolls found)]

theorem start_eq_error_iff (rolls : s.Rolls) (names : s.NamesDay) :
    (∃ fault, s.start now = .error fault) ↔ ∀ m, s.IsReset m → ¬ m ≤ now := by
  constructor
  · rintro ⟨fault, failed⟩ m reset le
    obtain ⟨start, found⟩ := exists_start rolls names reset le
    exact nomatch failed.symm.trans found
  · intro none
    cases outcome : s.start now with
    | error fault => exact ⟨fault, rfl⟩
    | ok start =>
      obtain ⟨reset, le⟩ := (isGreatest_of_start rolls outcome).1
      exact absurd le (none start reset)

/-- Between two resets that follow each other, the first one stays the last reset. -/
theorem isGreatest_of_between {next m : Moment}
    (last : IsGreatest {m | s.IsReset m ∧ m ≤ now} start)
    (first : IsLeast {m | s.IsReset m ∧ now < m} next) (from_ : start ≤ m) (before : m < next) :
    IsGreatest {m' | s.IsReset m' ∧ m' ≤ m} start := by
  refine ⟨⟨last.1.1, from_⟩, ?_⟩
  rintro m' ⟨reset, le⟩
  apply last.2
  refine ⟨reset, ?_⟩
  by_contra ahead
  have turned : next ≤ m' := first.2 ⟨reset, Nat.lt_of_not_le ahead⟩
  exact absurd (Nat.lt_of_lt_of_le before (Nat.le_trans turned le)) (Nat.lt_irrefl _)

theorem isGreatest_of_isReset (reset : s.IsReset now) :
    IsGreatest {m | s.IsReset m ∧ m ≤ now} now :=
  ⟨⟨reset, Nat.le_refl _⟩, fun _ later => later.2⟩

theorem exists_of_next {ended : Option Moment} (rolls : s.Rolls) (h : s.next now = .ok ended) :
    ∃ next, ended = some next := by
  obtain ⟨p, period, ends⟩ := rolls
  obtain ⟨start, -, h⟩ := Except.bind_eq_ok_iff.1 h
  unfold following at h
  rw [period] at h
  cases p with
  | daily | weekly =>
    obtain ⟨e, -, h⟩ := Except.bind_eq_ok_iff.1 h
    exact ⟨_, (Except.ok.inj h).symm⟩
  | monthly =>
    obtain ⟨⟨y, m⟩, -, h⟩ := Except.bind_eq_ok_iff.1 h
    obtain ⟨reset, -, h⟩ := Except.bind_eq_ok_iff.1 h
    exact ⟨_, (Except.ok.inj h).symm⟩
  | custom => exact absurd rfl ends

/-- A stamp without an offset is treated as its moment. -/
theorem startAt_naive (s : Schedule) (now : Moment) :
    s.startAt ⟨now, none⟩ = ((s.start now).map (⟨·, none⟩)).mapError .calendar := by
  unfold startAt
  rcases s.period with _ | (_ | _ | _ | _) <;> rfl

theorem nextAt_naive (s : Schedule) (now : Moment) :
    s.nextAt ⟨now, none⟩ =
      ((s.next now).map fun next => next.map (⟨·, none⟩)).mapError .calendar := by
  unfold nextAt next
  rw [startAt_naive]
  cases s.start now with
  | error fault => rfl
  | ok start =>
    show (do
        let following ← (s.following start).mapError ScheduleFault.calendar
        return following.map fun m => (⟨m, none⟩ : Stamp)) =
      ((s.following start).map fun next => next.map fun m => (⟨m, none⟩ : Stamp)).mapError .calendar
    cases s.following start <;> rfl

/-- The periods of a schedule tile time: all moments from one reset up to the next one have the same
start and the same end, and where a period ends the next one starts. -/
theorem periods_tile (s : Schedule) (rolls : s.Rolls) (names : s.NamesDay) (now : Moment)
    (ended : Option Moment) (succeeds : s.next now = .ok ended) :
    ∃ start next, s.start now = .ok start ∧ ended = some next ∧ start ≤ now ∧ now < next ∧
      (∀ t, start ≤ t → t < next → s.start t = .ok start ∧ s.next t = .ok (some next)) ∧
      s.start next = .ok next ∧ s.nextAt ⟨now, none⟩ = .ok (some ⟨next, none⟩) := by
  obtain ⟨next, rfl⟩ := exists_of_next rolls succeeds
  obtain ⟨start, started, follows⟩ := Except.bind_eq_ok_iff.1 succeeds
  have last := isGreatest_of_start rolls started
  have first := isLeast_of_next succeeds
  refine ⟨start, next, started, rfl, last.1.2, first.1.2, ?_, ?_, ?_⟩
  · intro t from_ before
    have same : s.start t = .ok start :=
      (start_eq_ok_iff rolls names).2 (isGreatest_of_between last first from_ before)
    exact ⟨same, Except.bind_eq_ok_iff.2 ⟨start, same, follows⟩⟩
  · exact (start_eq_ok_iff rolls names).2 (isGreatest_of_isReset first.1.1)
  · rw [nextAt_naive, succeeds]
    rfl

/-- A month that has no 31st day turns over on its last one: the period that starts on 29 February
2028 lasts until 31 March, to the minute. -/
theorem clamped_periods_tile :
    let s : Schedule := ⟨some .monthly, some 31, defaultResetTime⟩
    s.Rolls ∧ s.NamesDay ∧ s.next (.onMinute 740405 1435) = .ok (some (.onMinute 740436 1435)) ∧
      s.start (.onMinute 740436 1434) = .ok (.onMinute 740405 1435) ∧
      s.start (.onMinute 740436 1435) = .ok (.onMinute 740436 1435) := by
  intro s
  have rolls : s.Rolls := ⟨.monthly, rfl, by decide⟩
  have names : s.NamesDay := fun _ => by decide
  have succeeds : s.next (.onMinute 740405 1435) = .ok (some (.onMinute 740436 1435)) := by
    decide +kernel
  have begun : s.start (.onMinute 740405 1435) = .ok (.onMinute 740405 1435) := by decide +kernel
  obtain ⟨start, next, started, ended, -, -, tiles, turns, -⟩ :=
    periods_tile s rolls names _ _ succeeds
  obtain rfl := Option.some.inj ended
  obtain rfl := Except.ok.inj (begun.symm.trans started)
  have inside : s.start (.onMinute 740436 1434) = .ok (.onMinute 740405 1435) :=
    (tiles (.onMinute 740436 1434) (by decide) (by decide)).1
  exact ⟨rolls, names, succeeds, inside, turns⟩

end Schedule

namespace Routine
variable {r : Routine Exact}

theorem namesDay_of_kept (kept : r.violation? = none) (t : TimeOfDay) :
    Schedule.NamesDay ⟨some r.resetPeriod, r.resetDay, t⟩ := by
  intro monthly
  obtain ⟨id, name, type, status, period, day⟩ := r
  obtain rfl : period = .monthly := Option.some.inj monthly
  cases day with
  | none => exact Int.le_refl 1
  | some d =>
    have accepted : (1 ≤ d ∧ d ≤ 28) ∨ d = lastDayOfMonth := by
      by_contra other
      exact nomatch (if_neg other).symm.trans kept
    show 1 ≤ d
    unfold lastDayOfMonth at accepted
    omega

/-- A weekly routine that keeps its rules numbers the days of the week from Sunday, which is 0. -/
theorem resetsOn_iff_weekday (kept : r.violation? = none) (weekly : r.resetPeriod = .weekly)
    (t : TimeOfDay) (d : Date) :
    Schedule.ResetsOn ⟨some r.resetPeriod, r.resetDay, t⟩ d ↔
      (d.weekday : Int) = Option.getD r.resetDay 0 := by
  obtain ⟨id, name, type, status, period, day⟩ := r
  obtain rfl : period = .weekly := weekly
  have bound := d.weekday_lt
  show (d.weekday : Int) % 7 = Option.getD day 0 % 7 ↔ (d.weekday : Int) = Option.getD day 0
  cases day with
  | none => simp only [Option.getD_none]; omega
  | some n =>
    have accepted : 0 ≤ n ∧ n ≤ 6 := by
      by_contra other
      exact nomatch (if_neg other).symm.trans kept
    simp only [Option.getD_some]
    omega

/-- The period of a routine that keeps its rules starts at the last reset up to a moment, and it has
no start if and only if there is no reset up to the moment. -/
theorem start_eq_ok_iff_isGreatest (r : Routine Exact) (kept : r.violation? = none)
    (turns : r.resetPeriod ≠ .custom) (text : String) (now : Moment) :
    let s : Schedule := ⟨some r.resetPeriod, r.resetDay, resetTimeOf text⟩
    (∀ start, s.start now = .ok start ↔ IsGreatest {m | s.IsReset m ∧ m ≤ now} start) ∧
      ((∃ fault, s.start now = .error fault) ↔ ∀ m, s.IsReset m → ¬ m ≤ now) ∧
      (r.resetPeriod = .weekly → ∀ d, s.ResetsOn d ↔ (d.weekday : Int) = Option.getD r.resetDay 0) ∧
      s.startAt ⟨now, none⟩ = ((s.start now).map (⟨·, none⟩)).mapError .calendar := by
  intro s
  have rolls : s.Rolls := ⟨r.resetPeriod, rfl, turns⟩
  have names : s.NamesDay := namesDay_of_kept kept _
  refine ⟨fun start => Schedule.start_eq_ok_iff rolls names,
    Schedule.start_eq_error_iff rolls names, ?_, s.startAt_naive now⟩
  intro weekly d
  exact resetsOn_iff_weekday kept weekly _ d

/-- A routine of the last day of the month started its period on 31 January 2028 until the closing
of 29 February, and a routine of Sundays has no period on the first Monday of the calendar. -/
theorem closing_start_eq_ok_iff :
    let closing : Routine Exact := ⟨"R", "", .regular, .active, .monthly, some 99⟩
    let sundays : Routine Exact := ⟨"R", "", .regular, .active, .weekly, none⟩
    let s : Schedule := ⟨some .monthly, some 99, resetTimeOf "at midnight"⟩
    let s' : Schedule := ⟨some .weekly, none, resetTimeOf " 7:30"⟩
    closing.violation? = none ∧ sundays.violation? = none ∧
      IsGreatest {m | s.IsReset m ∧ m ≤ .onMinute 740405 1434} (.onMinute 740376 1435) ∧
      (∀ m, s'.IsReset m → ¬ m ≤ .onMinute 0 600) ∧
      ∃ fault, s'.start (.onMinute 0 600) = .error fault := by
  intro closing sundays s s'
  have started : s.start (.onMinute 740405 1434) = .ok (.onMinute 740376 1435) := by decide +kernel
  have failed : ∃ fault, s'.start (.onMinute 0 600) = .error fault :=
    ⟨.outOfRange, by decide +kernel⟩
  have last := ((start_eq_ok_iff_isGreatest closing rfl (by decide) "at midnight" _).1 _).1 started
  have none := (start_eq_ok_iff_isGreatest sundays rfl (by decide) " 7:30" _).2.1.1 failed
  exact ⟨rfl, rfl, last, none, failed⟩

end Routine
end RoutineVisibility
