import RoutineVisibility.Evaluation.Condition
import RoutineVisibility.Proofs.Except

/-! The outcomes of the checks say whether a condition is met, and why it is not. -/
namespace RoutineVisibility

namespace Check

/-- What becomes of a check: its answer, perhaps negated, or a failure, which is never met. -/
def entry (c : Check Exact) (s : Store Exact) (setting : Setting) (person : Text)
    (context : Context) : Outcome :=
  match c.evaluate s setting person context with
  | .ok b => ⟨c.id, Operator.name c.operator, b, c.negate, b ^^ c.negate, none⟩
  | .error f => ⟨c.id, Operator.name c.operator, false, c.negate, false, some f.message⟩

/-- The date `today` lies within the range of a check, whose dates are completed from the date
`present`. -/
def covers (c : Check Exact) (present today : Date) : Bool :=
  match c.value.bind (Operand.datesIn? present) with
  | some (start, stop) => start ≤ today && today ≤ stop
  | none => false

variable {c : Check Exact} {s : Store Exact} {setting : Setting} {person : Text} {context : Context}

theorem outcome_eq :
    c.outcome s setting person context = .ok (c.entry s setting person context) := by
  unfold outcome entry
  cases c.evaluate s setting person context with
  | ok b =>
    rw [Outcome.ofAnswer_ok]
    cases b <;> cases c.negate <;> rfl
  | error f => rw [Outcome.ofAnswer_error]

theorem dateRange_operand (present : Date) :
    Operand.dateRange present c.operand = .ok (c.value.bind (Operand.datesIn? present)) := by
  unfold operand
  rw [view_exact]
  cases c.value <;> rfl

theorem hasDate_eq (clock : Clock) (now : Moment) :
    c.hasDate clock now = .ok (c.covers clock.now.date now.date) := by
  unfold hasDate covers
  rw [dateRange_operand]
  cases c.value.bind (Operand.datesIn? clock.now.date) <;> rfl

theorem evaluate_dateRange (op : c.operator = .dateRange) :
    c.evaluate s setting person context =
      .ok (c.covers setting.clock.now.date (context.now setting.clock).date) := by
  unfold evaluate
  simp only [view_exact, op, hasDate_eq]
  rfl

variable {clock clock' : Clock} {time : TimeOfDay} {instant : Moment} {day : Option (Fin 7)}

/-- At a fixed moment the clock is read for ranges of dates only. -/
theorem evaluate_clock {F : Type → Type} [Holding F] {c : Check F} {s : Store F}
    (same : view c.operator = .value .dateRange →
      c.hasDate clock instant = c.hasDate clock' instant) :
    c.evaluate s ⟨clock, time⟩ person ⟨some instant, day⟩ =
      c.evaluate s ⟨clock', time⟩ person ⟨some instant, day⟩ := by
  by_cases op : view c.operator = .value .dateRange
  · unfold evaluate
    simp only [op, Context.now, Option.getD_some, same op]
  · unfold evaluate
    cases known : view c.operator with
    | value operator =>
      cases operator <;> simp only [Context.now, Option.getD_some]
      exact absurd known op
    | stray v => rfl
    | absent => rfl

/-- Two clocks tell the outcomes of a check apart only if they complete a range of dates in
different ways: with one it has the date, with the other it has not. -/
theorem entry_eq_iff :
    c.entry s ⟨clock, time⟩ person ⟨some instant, day⟩ =
      c.entry s ⟨clock', time⟩ person ⟨some instant, day⟩ ↔
      (c.operator = .dateRange → c.covers clock.now.date instant.date =
        c.covers clock'.now.date instant.date) := by
  constructor
  · intro same op
    unfold entry at same
    rw [evaluate_dateRange op, evaluate_dateRange op] at same
    exact congrArg Outcome.result same
  · intro same
    have answer : c.evaluate s ⟨clock, time⟩ person ⟨some instant, day⟩ =
        c.evaluate s ⟨clock', time⟩ person ⟨some instant, day⟩ := by
      refine evaluate_clock fun op => ?_
      rw [hasDate_eq, hasDate_eq, same (Field.value.inj op)]
    unfold entry
    rw [answer]

/-- The outcome of a check depends on the clock besides the fixed moment in one case only: what the
clock supplies to a range of dates decides whether the range has the date. -/
theorem entry_clock_iff :
    (∀ clock clock' : Clock,
      c.entry s ⟨clock, time⟩ person ⟨some instant, day⟩ =
        c.entry s ⟨clock', time⟩ person ⟨some instant, day⟩) ↔
    (c.operator = .dateRange → ∀ present present',
      c.covers present instant.date = c.covers present' instant.date) := by
  simp only [entry_eq_iff]
  constructor
  · exact fun same op present present' => same ⟨present.atTime time, 0⟩ ⟨present'.atTime time, 0⟩ op
  · exact fun same clock clock' op => same op _ _

end Check

namespace Outcome

theorem failure?_eq_none_iff {o : Outcome} : o.failure? = none ↔ o.error = none :=
  Option.map_eq_none_iff

end Outcome

def Logic.Met (logic : Logic) (outcomes : List Outcome) : Prop :=
  match logic with
  | .and => ∀ o ∈ outcomes, o.finalResult = true
  | .or => ∃ o ∈ outcomes, o.finalResult = true

theorem combine_eq_true_iff {logic : Logic} {outcomes : List Outcome} :
    combine (some logic) (outcomes.map (·.finalResult)) = true ↔ outcomes ≠ [] ∧
      logic.Met outcomes := by
  cases outcomes with
  | nil => simp [combine]
  | cons o rest => cases logic <;> simp [combine, Logic.Met]

namespace Evaluation
variable {outcomes : List Outcome}

theorem reasonOf_nil : reasonOf [] = some "condition has no checks" := rfl

theorem failures_eq_nil_iff :
    outcomes.filterMap Outcome.failure? = [] ↔ ∀ o ∈ outcomes, o.error = none := by
  simp only [List.filterMap_eq_nil_iff, Outcome.failure?_eq_none_iff]

theorem reasonOf_eq_none_iff :
    reasonOf outcomes = none ↔ outcomes ≠ [] ∧ ∀ o ∈ outcomes, o.error = none := by
  rw [← failures_eq_nil_iff]
  unfold reasonOf
  cases outcomes.filterMap Outcome.failure? with
  | nil => cases outcomes <;> simp
  | cons text rest => simp

theorem reasonOf_of_failed (failed : ∃ o ∈ outcomes, o.error ≠ none) :
    reasonOf outcomes = some (Text.intercalate "; " (outcomes.filterMap Outcome.failure?)) := by
  obtain ⟨o, mem, ne⟩ := failed
  unfold reasonOf
  cases texts : outcomes.filterMap Outcome.failure? with
  | nil => exact absurd (failures_eq_nil_iff.1 texts o mem) ne
  | cons text rest => rfl

theorem ofOutcomes_result_iff {id : Text} {logic : Logic} :
    (ofOutcomes id (some logic) outcomes).result = true ↔
      outcomes ≠ [] ∧ (∀ o ∈ outcomes, o.error = none) ∧ logic.Met outcomes := by
  unfold ofOutcomes
  rw [Bool.and_eq_true, Option.isNone_iff_eq_none, reasonOf_eq_none_iff, combine_eq_true_iff]
  constructor
  · rintro ⟨⟨ne, healthy⟩, -, met⟩
    exact ⟨ne, healthy, met⟩
  · rintro ⟨ne, healthy, met⟩
    exact ⟨⟨ne, healthy⟩, ne, met⟩

end Evaluation

namespace Condition

/-- What an evaluation of a condition says, check by check. -/
structure Explains (c : Condition Exact) (s : Store Exact) (setting : Setting) (person : Text)
    (context : Context) (e : Evaluation) : Prop where
  conditionId : e.conditionId = c.id
  /-- One outcome for each check and in their order, each at the moment of the whole evaluation. -/
  checks : e.checks = c.checks.map fun check =>
    check.entry s setting person (context.frozen setting.clock)
  /-- A failure anywhere decides against the condition, whatever its logic. -/
  result : e.result = true ↔ c.checks ≠ [] ∧ (∀ o ∈ e.checks, o.error = none) ∧
    Logic.Met c.logic e.checks
  reason : e.reason = none ↔ c.checks ≠ [] ∧ ∀ o ∈ e.checks, o.error = none
  noChecks : c.checks = [] → e.reason = some "condition has no checks"
  failures : (∃ o ∈ e.checks, o.error ≠ none) →
    e.reason = some (Text.intercalate "; " (e.checks.filterMap Outcome.failure?))

variable {c : Condition Exact} {s : Store Exact} {setting : Setting} {person : Text}
  {context : Context}

theorem evaluate_eq_ofOutcomes : c.evaluate s setting person context =
    .ok (.ofOutcomes c.id (some c.logic)
      (c.checks.map fun check => check.entry s setting person (context.frozen setting.clock))) := by
  unfold evaluate
  simp only [Check.outcome_eq]
  exact Except.bind_eq_ok_iff.2 ⟨_, List.mapM_pure, rfl⟩

theorem explains_ofOutcomes {outcomes : List Outcome} (entries : outcomes =
      c.checks.map fun check => check.entry s setting person (context.frozen setting.clock)) :
    c.Explains s setting person context (.ofOutcomes c.id (some c.logic) outcomes) := by
  have empty : outcomes ≠ [] ↔ c.checks ≠ [] := by rw [entries, ne_eq, List.map_eq_nil_iff]
  exact {
    conditionId := rfl
    checks := entries
    result := by rw [← empty]; exact Evaluation.ofOutcomes_result_iff
    reason := by rw [← empty]; exact Evaluation.reasonOf_eq_none_iff
    noChecks := fun none => by
      rw [none, List.map_nil] at entries
      rw [entries]
      exact Evaluation.reasonOf_nil
    failures := Evaluation.reasonOf_of_failed }

/-- Every evaluation of a checked condition has a result and explains it. The outcome of a check is
its own affair at the moment of the evaluation, unless it is a range of dates that the clock
completes, and completes differently. -/
theorem evaluate_explains (c : Condition Exact) (s : Store Exact) (setting : Setting)
    (person : Text) (context : Context) :
    (∃ e, c.evaluate s setting person context = .ok e ∧ c.Explains s setting person context e) ∧
      ∀ check ∈ c.checks, ∀ instant day,
        (∀ clock clock' : Clock,
          check.entry s ⟨clock, setting.resetTime⟩ person ⟨some instant, day⟩ =
          check.entry s ⟨clock', setting.resetTime⟩ person ⟨some instant, day⟩) ↔
        (check.operator = .dateRange →
          ∀ present present', check.covers present instant.date =
            check.covers present' instant.date) := by
  refine ⟨⟨_, evaluate_eq_ofOutcomes, explains_ofOutcomes rfl⟩, ?_⟩
  intro check _ instant day
  exact Check.entry_clock_iff

end Condition

namespace Check

def ofMonths : Check Exact :=
  ⟨"1", .dateRange, false, some "January,December", none, none, none, none, none, none, []⟩

theorem ofMonths_covers :
    ofMonths.covers ⟨740049, by decide⟩ ⟨740049, by decide⟩ = true := by decide +kernel

theorem ofMonths_misses :
    ofMonths.covers ⟨739781, by decide⟩ ⟨740049, by decide⟩ = false := by decide +kernel

/-- On 10 March 2027 the check is met where the clock reads that day, and not where it reads 15 June
2026. -/
theorem ofMonths_entry_clock : ¬ ∀ clock clock' : Clock,
    ofMonths.entry .empty ⟨clock, defaultResetTime⟩ "P"
        ⟨some (Date.atTime ⟨740049, by decide⟩ ⟨720, by decide⟩), none⟩ =
      ofMonths.entry .empty ⟨clock', defaultResetTime⟩ "P"
        ⟨some (Date.atTime ⟨740049, by decide⟩ ⟨720, by decide⟩), none⟩ := by
  intro same
  have alike := entry_clock_iff.1 same rfl ⟨740049, by decide⟩ ⟨739781, by decide⟩
  rw [Date.atTime_date, ofMonths_covers, ofMonths_misses] at alike
  exact absurd alike (by decide)

end Check
end RoutineVisibility
