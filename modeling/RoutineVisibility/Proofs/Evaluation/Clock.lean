import Mathlib.Control.Monad.Basic
import RoutineVisibility.Evaluation.Visibility
import RoutineVisibility.Proofs.Evaluation.Breakdown
import RoutineVisibility.Proofs.Evaluation.Congruence
import RoutineVisibility.Proofs.Store.Lookup

/-! Answers depend on the given moment and not on the clock, but for dates that are named in
part. -/
namespace RoutineVisibility
variable {F : Type → Type} [Holding F]

/-- If the check is a range of dates, it has the date of the moment under both clocks or under
none. -/
def Check.Steady (c : Check F) (clock clock' : Clock) (instant : Moment) : Prop :=
  view c.operator = .value .dateRange → c.hasDate clock instant = c.hasDate clock' instant

def Condition.Steady (c : Condition F) (clock clock' : Clock) (instant : Moment) : Prop :=
  ∀ check ∈ c.checks, check.Steady clock clock' instant

theorem Check.steady_iff {c : Check Exact} {clock clock' : Clock} {instant : Moment} :
    c.Steady clock clock' instant ↔
      (c.operator = .dateRange → c.covers clock.now.date instant.date =
        c.covers clock'.now.date instant.date) := by
  unfold Steady
  rw [hasDate_eq, hasDate_eq, view_exact, Field.value.injEq, Except.ok.injEq]

namespace Condition
variable {clock clock' : Clock} {time : TimeOfDay} {instant : Moment} {day : Option (Fin 7)}
  {person : Text}

theorem evaluate_of_steady {c : Condition F} (s : Store F)
    (steady : c.Steady clock clock' instant) :
    c.evaluate s ⟨clock, time⟩ person ⟨some instant, day⟩ =
      c.evaluate s ⟨clock', time⟩ person ⟨some instant, day⟩ :=
  evaluate_congr fun check mem => Check.evaluate_clock (steady check mem)

theorem evaluate_eq_iff_steady {c : Condition Exact} {s : Store Exact} :
    c.evaluate s ⟨clock, time⟩ person ⟨some instant, day⟩ =
      c.evaluate s ⟨clock', time⟩ person ⟨some instant, day⟩ ↔
      c.Steady clock clock' instant := by
  refine ⟨fun same check mem => ?_, evaluate_of_steady s⟩
  rw [evaluate_eq_ofOutcomes, evaluate_eq_ofOutcomes] at same
  have entries := List.map_inj_left.1 (congrArg Evaluation.checks (Except.ok.inj same)) check mem
  exact Check.steady_iff.2 (Check.entry_eq_iff.1 entries)

end Condition

namespace Store

def Steady (s : Store F) (clock clock' : Clock) (instant : Moment) (condition : Field Text) :
    Prop :=
  ∀ c, Table.find? s.conditions condition = some c → c.Steady clock clock' instant

def SteadyTask (s : Store F) (clock clock' : Clock) (instant : Moment) (t : Task F) : Prop :=
  (view t.type).isValue .smart → s.Steady clock clock' instant (view t.conditionId).key

variable {s : Store F} {clock clock' : Clock} {time : TimeOfDay} {instant : Moment}
  {day : Option (Fin 7)} {person : Text}

theorem evaluateCondition_of_steady {condition : Field Text}
    (steady : s.Steady clock clock' instant condition) :
    s.evaluateCondition ⟨clock, time⟩ condition person ⟨some instant, day⟩ =
      s.evaluateCondition ⟨clock', time⟩ condition person ⟨some instant, day⟩ :=
  evaluateCondition_congr rfl rfl fun c found => Condition.evaluate_of_steady s (steady c found)

theorem showsTask_of_steady {t : Task F} (steady : s.SteadyTask clock clock' instant t) :
    s.showsTask ⟨clock, time⟩ t person ⟨some instant, day⟩ =
      s.showsTask ⟨clock', time⟩ t person ⟨some instant, day⟩ :=
  showsTask_congr fun smart => evaluateCondition_of_steady (steady smart)

theorem showsRoutine_of_steady {r : Routine F}
    (steady : ∀ c ∈ s.routineConditions (view r.id) (some true),
      s.Steady clock clock' instant (view c.id)) :
    s.showsRoutine ⟨clock, time⟩ r person ⟨some instant, day⟩ =
      s.showsRoutine ⟨clock', time⟩ r person ⟨some instant, day⟩ :=
  showsRoutine_congr rfl fun c mem => evaluateCondition_of_steady (steady c mem)

/-- The answers to questions about a given moment are the same under clocks that complete alike the
ranges of those conditions that the questions are about. The condition on these is exact: where a
checked condition is not steady, its evaluations differ. -/
theorem answers_clock (clock clock' : Clock) (time : TimeOfDay) (instant : Moment)
    (day : Option (Fin 7)) (person : Text) :
    (∀ {F : Type → Type} [Holding F] (s : Store F),
      (∀ condition, s.Steady clock clock' instant condition →
        s.evaluateCondition ⟨clock, time⟩ condition person ⟨some instant, day⟩ =
          s.evaluateCondition ⟨clock', time⟩ condition person ⟨some instant, day⟩) ∧
      (∀ task, (∀ t, Table.find? s.tasks (.value task) = some t →
        s.SteadyTask clock clock' instant t) →
        s.isTaskVisible ⟨clock, time⟩ task person ⟨some instant, day⟩ =
          s.isTaskVisible ⟨clock', time⟩ task person ⟨some instant, day⟩) ∧
      (∀ routine, (∀ c ∈ s.routineConditions (.value routine) (some true),
          s.Steady clock clock' instant (view c.id)) →
        s.isRoutineVisible ⟨clock, time⟩ routine person ⟨some instant, day⟩ =
          s.isRoutineVisible ⟨clock', time⟩ routine person ⟨some instant, day⟩) ∧
      ∀ routine, (∀ tasks, s.activeTasks (.value routine) = .ok tasks →
          ∀ t ∈ tasks, s.SteadyTask clock clock' instant t) →
        s.visibleTasks ⟨clock, time⟩ routine person ⟨some instant, day⟩ =
          s.visibleTasks ⟨clock', time⟩ routine person ⟨some instant, day⟩) ∧
    ∀ s : Store Exact, Table.has s.persons (.value person) → ∀ condition,
      s.evaluateCondition ⟨clock, time⟩ (.value condition) person ⟨some instant, day⟩ =
          s.evaluateCondition ⟨clock', time⟩ (.value condition) person ⟨some instant, day⟩ ↔
        s.Steady clock clock' instant (.value condition) := by
  refine ⟨fun s => ⟨fun _ => evaluateCondition_of_steady, ?_, ?_, ?_⟩,
    fun s known condition => ⟨?_, ?_⟩⟩
  · intro task steady
    unfold isTaskVisible
    refine Except.bind_congr_of_ok fun t found => ?_
    rw [showsTask_of_steady (steady t (find?_of_require found))]
  · intro routine steady
    unfold isRoutineVisible
    refine Except.bind_congr_of_ok fun r found => ?_
    have named : view r.id = .value routine :=
      (Table.mem_and_key_of_find? (find?_of_require found)).2
    rw [showsRoutine_of_steady (named ▸ steady)]
  · intro routine steady
    unfold visibleTasks
    refine Except.bind_congr_of_ok fun _ _ => Except.bind_congr_of_ok fun _ _ => ?_
    refine Except.bind_congr_of_ok fun tasks active => ?_
    exact Except.filterM_congr fun t mem => showsTask_of_steady (steady tasks active t mem)
  · intro same c found
    rw [evaluateCondition_of_find? found known, evaluateCondition_of_find? found known] at same
    exact Condition.evaluate_eq_iff_steady.1 same
  · exact evaluateCondition_of_steady

end Store

/-- The noon of 10 March 2027. -/
def Moment.spring : Moment :=
  Date.atTime ⟨740049, by decide⟩ ⟨720, by decide⟩

/-- The noon of 10 June 2027. -/
def Moment.summer : Moment :=
  Date.atTime ⟨740141, by decide⟩ ⟨720, by decide⟩

/-- The morning of 15 June 2026. -/
def Moment.lastSummer : Moment :=
  Date.atTime ⟨739781, by decide⟩ ⟨540, by decide⟩

namespace Store

def seasonal : Store Exact where
  persons := [⟨"P", ""⟩]
  routines := [⟨"R", "", .smart, .active, .daily, none⟩]
  tasks := [⟨"T", "R", "", .smart, .active, 0, some "c"⟩]
  conditions := [⟨"c", "R", true, .and, [.ofMonths]⟩]

/-- In spring, the range means the same under two clocks of that year. -/
theorem seasonal_answers_clock :
    seasonal.Steady ⟨.spring, 0⟩ ⟨.summer, 0⟩ .spring (.value "c") ∧
      seasonal.evaluateCondition ⟨⟨.spring, 0⟩, defaultResetTime⟩ (.value "c") "P"
        ⟨some .spring, none⟩ =
        seasonal.evaluateCondition ⟨⟨.summer, 0⟩, defaultResetTime⟩ (.value "c") "P"
          ⟨some .spring, none⟩ ∧
      seasonal.isTaskVisible ⟨⟨.spring, 0⟩, defaultResetTime⟩ "T" "P" ⟨some .spring, none⟩ =
        seasonal.isTaskVisible ⟨⟨.summer, 0⟩, defaultResetTime⟩ "T" "P" ⟨some .spring, none⟩ ∧
      seasonal.isRoutineVisible ⟨⟨.spring, 0⟩, defaultResetTime⟩ "R" "P" ⟨some .spring, none⟩ =
        seasonal.isRoutineVisible ⟨⟨.summer, 0⟩, defaultResetTime⟩ "R" "P" ⟨some .spring, none⟩ ∧
      ¬ seasonal.Steady ⟨.spring, 0⟩ ⟨.lastSummer, 0⟩ .spring (.value "c") := by
  have same := answers_clock ⟨.spring, 0⟩ ⟨.summer, 0⟩ defaultResetTime .spring none "P"
  have steady : seasonal.Steady ⟨.spring, 0⟩ ⟨.summer, 0⟩ .spring (.value "c") := by
    rintro c ⟨⟩ check mem
    obtain rfl := List.mem_singleton.1 mem
    intro _
    decide +kernel
  obtain ⟨condition, task, routine, -⟩ := same.1 seasonal
  refine ⟨steady, condition _ steady, task "T" ?_, routine "R" fun c mem => ?_, fun steady => ?_⟩
  · rintro t ⟨⟩ _
    exact steady
  · obtain rfl : c = ⟨"c", "R", true, .and, [.ofMonths]⟩ := List.mem_singleton.1 mem
    exact steady
  · have alike := Check.steady_iff.1 (steady _ rfl .ofMonths List.mem_cons_self) rfl
    rw [Moment.spring, Moment.lastSummer, Date.atTime_date, Date.atTime_date, Check.ofMonths_covers,
      Check.ofMonths_misses] at alike
    exact absurd alike (by decide)

/-- The answers in spring depend on what the clock reads: with the year of the spring the range has
the present date, with the year before it has not. -/
theorem seasonal_answers_differ :
    (¬ ∀ clock clock' : Clock,
      seasonal.evaluateCondition ⟨clock, defaultResetTime⟩ (.value "c") "P" ⟨some .spring, none⟩ =
        seasonal.evaluateCondition ⟨clock', defaultResetTime⟩ (.value "c") "P"
          ⟨some .spring, none⟩) ∧
    (¬ ∀ clock clock' : Clock,
      seasonal.isTaskVisible ⟨clock, defaultResetTime⟩ "T" "P" ⟨some .spring, none⟩ =
        seasonal.isTaskVisible ⟨clock', defaultResetTime⟩ "T" "P" ⟨some .spring, none⟩) ∧
    (¬ ∀ clock clock' : Clock,
      seasonal.isRoutineVisible ⟨clock, defaultResetTime⟩ "R" "P" ⟨some .spring, none⟩ =
        seasonal.isRoutineVisible ⟨clock', defaultResetTime⟩ "R" "P" ⟨some .spring, none⟩) ∧
    ¬ ∀ clock clock' : Clock,
      seasonal.visibleTasks ⟨clock, defaultResetTime⟩ "R" "P" ⟨some .spring, none⟩ =
        seasonal.visibleTasks ⟨clock', defaultResetTime⟩ "R" "P" ⟨some .spring, none⟩ := by
  have depends {α : Type} {answer : Clock → α}
      (differ : answer ⟨.spring, 0⟩ ≠ answer ⟨.lastSummer, 0⟩) :
      ¬ ∀ clock clock' : Clock, answer clock = answer clock' :=
    fun same => differ (same _ _)
  refine ⟨depends ?_, depends ?_, depends ?_, depends fun same => ?_⟩
  · decide +kernel
  · decide +kernel
  · decide +kernel
  · have lengths := congrArg (Except.map List.length) same
    revert lengths
    decide +kernel

end Store
end RoutineVisibility
