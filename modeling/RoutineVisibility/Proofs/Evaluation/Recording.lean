import RoutineVisibility.Proofs.Evaluation.Congruence
import RoutineVisibility.Proofs.Evaluation.Lifetime

/-! Evaluations do not depend on the order in which completions were recorded, except at one
moment. -/
namespace RoutineVisibility

namespace Store
variable {s : Store Exact} {log : List (Completion Exact)} {task person : Text} {since now : Moment}

def isAt (task person : Text) (moment : Moment) (c : Completion Exact) : Bool :=
  isOwn task person c && decide (momentOf c = moment)

/-- The same completions in another order, but for those that one person made of one task at one
moment: their order is the old one. -/
structure Reordered (log log' : List (Completion Exact)) : Prop where
  perm : log'.Perm log
  ties : ∀ task person moment, log'.filter (isAt task person moment) =
    log.filter (isAt task person moment)

theorem tied_latest (c d : Completion Exact) :
    Ranking.tied (fun c d : Completion Exact => decide (momentOf d ≤ momentOf c)) c d =
      decide (momentOf d = momentOf c) := by
  have antisymm : momentOf d ≤ momentOf c ∧ momentOf c ≤ momentOf d ↔ momentOf d = momentOf c := by
    constructor
    · intro both
      exact Moment.ticks_injective (Nat.le_antisymm both.1 both.2)
    · intro same
      rw [same]
      exact ⟨Nat.le_refl _, Nat.le_refl _⟩
  rw [Ranking.tied, ← Bool.decide_and]
  exact decide_eq_decide.2 antisymm

/-- Within a span of time, what one person did of a task at one moment is a part of what is recorded
of that moment. -/
theorem filter_recorded (c : Completion Exact) :
    (s.recorded task person since now).filter
        (Ranking.tied (fun c d : Completion Exact => decide (momentOf d ≤ momentOf c)) c) =
      (s.completions.filter (isAt task person (momentOf c))).filter
        fun d => decide (since ≤ momentOf d) && decide (momentOf d ≤ now) := by
  unfold recorded
  rw [List.filter_filter, List.filter_filter]
  refine List.filter_congr fun d _ => ?_
  rw [tied_latest, isAt]
  cases isOwn task person d <;> cases decide (momentOf d = momentOf c) <;> simp

theorem completionsWithin_of_reordered (reordered : Reordered s.completions log) :
    ({ s with completions := log } : Store Exact).completionsWithin (.value task) person since now =
      s.completionsWithin (.value task) person since now := by
  rw [completionsWithin_value, completionsWithin_value]
  refine congrArg Except.ok (ranking_latest.mergeSort_congr fun c => ?_)
  rw [filter_recorded, filter_recorded, reordered.ties]

/-- The first of the latest completions is the one that a look-up finds first. -/
theorem head?_completionsWithin {found : List (Completion Exact)}
    (h : s.completionsWithin (.value task) person since now = .ok found) :
    found.head? = (s.recorded task person since now).argmax fun c => (momentOf c).ticks := by
  rw [completionsWithin_value] at h
  cases h
  exact head?_mergeSort_eq_argmax ranking_latest _

end Store

namespace Check
variable {check : Check Exact} {s : Store Exact} {setting : Setting} {person : Text}
  {context : Context}

def number (c : Check Exact) : Float :=
  ((c.value.bind fun s => Number.leadingDecimal? s.shown.toList).map (·.toFloat)).getD 0

theorem float_operand (c : Check Exact) : Operand.float c.operand 0 = .ok c.number := by
  unfold operand number
  rw [view_exact]
  cases c.value <;> rfl

/-- What a check of a value says of the latest completion: if there is none, it is not met, and one
without a value has the value zero. -/
def meets (c : Check Exact) (comparison : Comparison) (latest : Option (Completion Exact)) : Bool :=
  latest.any fun completion => comparison.ofFloats (completion.value.getD 0) c.number

theorem compareValue_eq (comparison : Comparison) (log : List (Completion Exact)) :
    check.compareValue comparison log = .ok (check.meets comparison log.head?) := by
  cases log with
  | nil => rfl
  | cons latest rest =>
    have value : Operand.float ((view latest.value).json (.orNull .float)) 0 =
        .ok (latest.value.getD 0) := by
      rw [view_exact]
      cases latest.value <;> rfl
    unfold compareValue
    simp only [value, float_operand]
    rfl

theorem evaluate_taskValue {comparison : Comparison} {log : List (Completion Exact)}
    (op : check.operator = .taskValue comparison)
    (found :
      check.taskCompletions s setting.resetTime person (context.now setting.clock) = .ok log) :
    check.evaluate s setting person context = .ok (check.meets comparison log.head?) := by
  unfold evaluate
  simp only [view_exact, op, found]
  show (check.compareValue comparison log).map put = _
  rw [compareValue_eq]
  rfl

end Check

namespace Store

/-- Evaluations do not depend on the order in which completions were recorded, except for those of
one task, one person and one moment. In particular, a check of a value reads it from the first
recorded completion among the latest ones of the current period up to now. -/
theorem evaluations_of_reordered (s : Store Exact) (log : List (Completion Exact))
    (reordered : Reordered s.completions log) (setting : Setting) (person : Text)
    (context : Context) :
    let t : Store Exact := { s with completions := log }
    (∀ c : Condition Exact, c.evaluate t setting person context =
      c.evaluate s setting person context) ∧
      (∀ condition, t.evaluateCondition setting condition person context =
        s.evaluateCondition setting condition person context) ∧
      ∀ (check : Check Exact) (comparison : Comparison) (task : Task Exact)
        (routine : Routine Exact) (since : Moment),
        check.operator = .taskValue comparison → check.targetTaskId = some task.id →
        Table.find? s.tasks (.value task.id) = some task →
        Table.find? s.routines (.value task.routineId) = some routine →
        routine.periodStart setting.resetTime (context.now setting.clock) = .ok since →
        check.evaluate s setting person context = .ok (check.meets comparison
          ((s.recorded task.id person since (context.now setting.clock)).argmax fun c =>
            (momentOf c).ticks)) := by
  intro t
  have each (c : Condition Exact) :
      c.evaluate t setting person context = c.evaluate s setting person context := by
    apply Condition.evaluate_congr
    intro check _
    apply Check.evaluate_congr_log
    intro task since now
    exact completionsWithin_of_reordered reordered
  refine ⟨each, fun condition => evaluateCondition_congr rfl rfl fun c _ => each c, ?_⟩
  intro check comparison task routine since op target stored owner started
  have found : check.taskCompletions s setting.resetTime person (context.now setting.clock) =
      s.completionsWithin (.value task.id) person since (context.now setting.clock) :=
    Check.taskCompletions_eq target stored owner started
  obtain ⟨log, listed, -⟩ :=
    s.completionsWithin_perm task.id person since (context.now setting.clock)
  rw [Check.evaluate_taskValue op (found.trans listed), head?_completionsWithin listed]

end Store

def Routine.daily : Routine Exact :=
  ⟨"R", "", .regular, .active, .daily, none⟩

def Task.weighing : Task Exact :=
  ⟨"T", "R", "", .progress, .active, 0, none⟩

def Completion.weighed (id : Text) (minute : Nat) (value : Float) : Completion Exact :=
  ⟨id, "T", "P", .onMinute 739684 minute, some value⟩

def Check.weight : Check Exact :=
  ⟨"1", .taskValue .equals, false, some "72.5 kg", none, some "T", none, none, none, none, []⟩

namespace Store

def weighings : Store Exact where
  routines := [.daily]
  tasks := [.weighing]
  completions := [.weighed "1" 480 71, .weighed "2" 540 72.5, .weighed "3" 540 73]

theorem weighings_reordered :
    Reordered weighings.completions [.weighed "2" 540 72.5, .weighed "3" 540 73,
      .weighed "1" 480 71] where
  perm := List.perm_append_singleton (Completion.weighed "1" 480 71)
    [Completion.weighed "2" 540 72.5, Completion.weighed "3" 540 73]
  ties task person moment := by
    by_cases early : isAt task person moment (.weighed "1" 480 71)
    · have eight : Moment.onMinute 739684 480 = moment := by
        rw [isAt, Bool.and_eq_true, decide_eq_true_eq] at early
        exact early.2
      have other (id : Text) (value : Float) :
          ¬ isAt task person moment (.weighed id 540 value) := by
        intro late
        rw [isAt, Bool.and_eq_true, decide_eq_true_eq, ← eight] at late
        exact absurd late.2 (by decide : Moment.onMinute 739684 540 ≠ Moment.onMinute 739684 480)
      simp [weighings, List.filter_cons, other]
    · simp [weighings, List.filter_cons, early]

/-- At noon the first weighing of nine o'clock counts, also if that of eight o'clock was recorded
after it. -/
theorem weighings_evaluations_of_reordered :
    let log : List (Completion Exact) :=
      [.weighed "2" 540 72.5, .weighed "3" 540 73, .weighed "1" 480 71]
    let setting : Setting := ⟨⟨.first, 0⟩, defaultResetTime⟩
    let noon : Context := ⟨some (.onMinute 739684 720), none⟩
    let condition : Condition Exact := ⟨"c", "R", false, .and, [.weight]⟩
    Reordered weighings.completions log ∧
      condition.evaluate { weighings with completions := log } setting "P" noon =
        condition.evaluate weighings setting "P" noon ∧
      Routine.daily.periodStart defaultResetTime (.onMinute 739684 720) =
        .ok (.onMinute 739683 1435) ∧
      Check.weight.evaluate weighings setting "P" noon = .ok true := by
  intro log setting noon condition
  obtain ⟨same, -, value⟩ :=
    evaluations_of_reordered weighings log weighings_reordered setting "P" noon
  have started : Routine.daily.periodStart defaultResetTime (.onMinute 739684 720) =
      .ok (.onMinute 739683 1435) := by
    decide +kernel
  have met : Check.weight.meets .equals ((weighings.recorded "T" "P" (.onMinute 739683 1435)
      (.onMinute 739684 720)).argmax fun c => (momentOf c).ticks) = true := by decide +kernel
  refine ⟨weighings_reordered, same condition, started, ?_⟩
  rw [value .weight .equals .weighing .daily _ rfl rfl rfl rfl started]
  exact congrArg Except.ok met

end Store
end RoutineVisibility
