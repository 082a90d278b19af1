import RoutineVisibility.Proofs.Reset.ResetDay

/-! The start of a period is the last reset up to a moment, and its end the first reset after it. -/
namespace RoutineVisibility.Schedule
variable {s : Schedule} {now start : Moment} {day : Int} {d e : Date} {t : TimeOfDay}

/-- The reset days of a monthly schedule, one in each month, follow each other as the months do. -/
theorem day_le_of_monthly (monthly : s.period = some .monthly) (hd : s.ResetsOn d)
    (he : s.ResetsOn e) (h : d.monthIndex ≤ e.monthIndex) : d.day ≤ e.day := by
  unfold ResetsOn at hd he
  rw [monthly] at hd he
  have day := d.dayOfMonth_eq
  have day' := e.dayOfMonth_eq
  rcases Nat.lt_or_eq_of_le h with earlier | same
  · have := Date.lt_monthStart_of_lt earlier
    have := e.monthStart_le
    omega
  · have year : d.year = e.year := by rw [← d.monthIndex_div, ← e.monthIndex_div, same]
    have month : d.month = e.month := by rw [← d.monthIndex_mod, ← e.monthIndex_mod, same]
    rw [year, month, ← he] at hd
    rw [same] at day
    omega

theorem resetsOn_of_monthReset {y m : Nat} (monthly : s.period = some .monthly)
    (h : monthReset y m (s.day.getD 1) t = .ok start) :
    ∃ d : Date, start = d.atTime t ∧ d.year = y ∧ d.month = m ∧ s.ResetsOn d := by
  obtain ⟨d, e, year, month, ofMonth⟩ := monthReset_eq_ok h
  refine ⟨d, e, year, month, ?_⟩
  unfold ResetsOn
  rw [monthly, year, month]
  exact ofMonth

theorem isLastDay_of_monthlyStart (monthly : s.period = some .monthly)
    (h : monthlyStart (s.day.getD 1) t now = .ok start) :
    ∃ d : Date, start = d.atTime t ∧ s.IsLastDay (now.passedDay t) d := by
  have bounds := now.passedDay_bounds t
  have upTo {e : Date} (le : (e.day : Int) ≤ now.passedDay t) :
      e.monthIndex ≤ now.date.monthIndex :=
    Date.monthIndex_le_of_day_le (by omega)
  obtain ⟨reset, found, h⟩ := Except.bind_eq_ok_iff.1 h
  obtain ⟨d, rfl, year, month, resets⟩ := resetsOn_of_monthReset monthly found
  have index : d.monthIndex = now.date.monthIndex := by
    rw [Date.monthIndex, Date.monthIndex, year, month]
  by_cases early : now < d.atTime t
  · rw [if_pos early] at h
    have passed := Moment.lt_atTime_iff.1 early
    obtain ⟨⟨y, m⟩, before, h⟩ := Except.bind_eq_ok_iff.1 h
    obtain ⟨d', rfl, year', month', resets'⟩ := resetsOn_of_monthReset monthly h
    have index' := monthBefore_eq_ok before year' month'
    refine ⟨d', rfl, resets', ?_, fun e he le => ?_⟩
    · have := Date.lt_monthStart_of_lt (Nat.lt_of_succ_le (Nat.le_of_eq index'))
      have := now.date.monthStart_le
      omega
    · refine day_le_of_monthly monthly he resets' ?_
      by_contra later
      have := day_le_of_monthly monthly resets he (by have := upTo le; omega)
      omega
  · rw [if_neg early] at h
    have passed := mt Moment.lt_atTime_iff.2 early
    refine ⟨d, (Except.ok.inj h).symm, resets, by omega, fun e he le => ?_⟩
    exact day_le_of_monthly monthly he resets (by rw [index]; exact upTo le)

/-- The period of a moment starts at the reset of the last reset day up to it. -/
theorem isLastDay_of_start (rolls : s.Rolls) (h : s.start now = .ok start) :
    ∃ d : Date, start = d.atTime s.time ∧ s.IsLastDay (now.passedDay s.time) d := by
  obtain ⟨p, period, ends⟩ := rolls
  unfold Schedule.start at h
  rw [period] at h
  cases p with
  | daily =>
    obtain ⟨d, e, day⟩ := dailyStart_eq_ok h
    exact ⟨d, e, resetsOn_of_daily period d, by omega, fun _ _ _ => by omega⟩
  | weekly =>
    obtain ⟨d, e, day⟩ := weeklyStart_eq_ok h
    refine ⟨d, e, (resetsOn_iff_of_weekly period).2 (by omega), by omega, fun e he le => ?_⟩
    have := (resetsOn_iff_of_weekly period).1 he
    omega
  | monthly => exact isLastDay_of_monthlyStart period h
  | custom => exact absurd rfl ends

/-- The period that starts on a reset day ends on the next one. -/
theorem isNextDay_of_following {next : Moment} (resets : s.ResetsOn d)
    (h : s.following (d.atTime s.time) = .ok (some next)) :
    ∃ e : Date, next = e.atTime s.time ∧ s.IsNextDay d.day e := by
  unfold following at h
  cases period : s.period with
  | none => rw [period] at h; cases h
  | some p =>
    rw [period] at h
    cases p with
    | daily =>
      obtain ⟨e, away, h⟩ := Except.bind_eq_ok_iff.1 h
      have day := dateAway_eq_ok_iff.1 away
      rw [Date.atTime_date] at day
      refine ⟨e, (Option.some.inj (Except.ok.inj h)).symm, ?_⟩
      exact ⟨resetsOn_of_daily period e, by omega, fun _ _ _ => by omega⟩
    | weekly =>
      obtain ⟨e, away, h⟩ := Except.bind_eq_ok_iff.1 h
      have day := dateAway_eq_ok_iff.1 away
      rw [Date.atTime_date] at day
      have weekday := (resetsOn_iff_of_weekly period).1 resets
      refine ⟨e, (Option.some.inj (Except.ok.inj h)).symm, ?_⟩
      refine ⟨(resetsOn_iff_of_weekly period).2 (by omega), by omega, fun c hc lt => ?_⟩
      have := (resetsOn_iff_of_weekly period).1 hc
      omega
    | monthly =>
      obtain ⟨⟨y, m⟩, after, h⟩ := Except.bind_eq_ok_iff.1 h
      obtain ⟨reset, found, h⟩ := Except.bind_eq_ok_iff.1 h
      obtain ⟨e, rfl, year, month, resets'⟩ := resetsOn_of_monthReset period found
      have index : e.monthIndex = d.monthIndex + 1 := monthAfter_eq_ok after year month
      refine ⟨e, (Option.some.inj (Except.ok.inj h)).symm, resets', ?_, ?_⟩
      · have := Date.lt_monthStart_of_lt (Nat.lt_of_succ_le (Nat.le_of_eq index.symm))
        have := e.monthStart_le
        omega
      · intro c hc lt
        refine day_le_of_monthly period resets' hc ?_
        by_contra earlier
        have := day_le_of_monthly period hc resets (by omega)
        omega
    | custom => cases h

theorem rolls_of_following {next : Moment} (h : s.following start = .ok (some next)) : s.Rolls := by
  unfold following at h
  cases period : s.period with
  | none => rw [period] at h; cases h
  | some p =>
    refine ⟨p, period, ?_⟩
    rintro rfl
    rw [period] at h
    cases h

theorem IsLastDay.isNextDay (last : s.IsLastDay day d) (next : s.IsNextDay d.day e) :
    s.IsNextDay day e := by
  have le := last.le
  refine ⟨next.resets, ?_, fun c hc lt => next.least c hc (by omega)⟩
  by_contra passed
  have := last.greatest e next.resets (by omega)
  have := next.lt
  omega

/-- The start of a period is the last reset up to a moment of it. -/
theorem isGreatest_of_start (rolls : s.Rolls) (h : s.start now = .ok start) :
    IsGreatest {m | s.IsReset m ∧ m ≤ now} start := by
  obtain ⟨d, rfl, last⟩ := isLastDay_of_start rolls h
  exact last.isGreatest

/-- The end of a period is the first reset after a moment of it. -/
theorem isLeast_of_next {next : Moment} (h : s.next now = .ok (some next)) :
    IsLeast {m | s.IsReset m ∧ now < m} next := by
  obtain ⟨start, found, h⟩ := Except.bind_eq_ok_iff.1 h
  obtain ⟨d, rfl, last⟩ := isLastDay_of_start (rolls_of_following h) found
  obtain ⟨e, rfl, next⟩ := isNextDay_of_following last.resets h
  exact (last.isNextDay next).isLeast

/-- Of the moments up to the present those lie in the current period whose own period has not ended
yet. -/
theorem start_le_iff_lt_next {done next : Moment} (rolls : s.Rolls)
    (hstart : s.start now = .ok start) (hnext : s.next done = .ok (some next)) :
    start ≤ done ↔ now < next := by
  have last := isGreatest_of_start rolls hstart
  have first := isLeast_of_next hnext
  constructor
  · intro inPeriod
    by_contra ended
    have turned : next ≤ start := last.2 ⟨first.1.1, Nat.le_of_not_lt ended⟩
    have later : done < next := first.1.2
    exact absurd (Nat.lt_of_lt_of_le later (Nat.le_trans turned inPeriod)) (Nat.lt_irrefl _)
  · intro lives
    by_contra before
    have turned : next ≤ start := first.2 ⟨last.1.1, Nat.lt_of_not_le before⟩
    have passed : start ≤ now := last.1.2
    exact absurd (Nat.lt_of_lt_of_le lives (Nat.le_trans turned passed)) (Nat.lt_irrefl _)

end RoutineVisibility.Schedule
