import RoutineVisibility.Evaluation.Visibility
import RoutineVisibility.Proofs.Except
import RoutineVisibility.Proofs.Store.Lookup

/-! The parts of a store that evaluations and answers read. -/
namespace RoutineVisibility
variable {F : Type → Type} [Holding F] {s t : Store F} {setting setting' : Setting} {person : Text}
  {context : Context}

theorem Condition.evaluate_congr {c : Condition F} (same : ∀ check ∈ c.checks,
      check.evaluate t setting' person (context.frozen setting'.clock) =
        check.evaluate s setting person (context.frozen setting.clock)) :
    c.evaluate t setting' person context = c.evaluate s setting person context := by
  have outcomes :
      (c.checks.mapM fun check => check.outcome t setting' person (context.frozen setting'.clock)) =
      c.checks.mapM fun check => check.outcome s setting person (context.frozen setting.clock) := by
    refine Except.mapM_congr fun check mem => ?_
    unfold Check.outcome
    rw [same check mem]
  unfold evaluate
  rw [outcomes]

/-- Of a log, a check reads the completions of the person that look-ups find in it. -/
theorem Check.evaluate_congr_log {s : Store Exact} {log : List (Completion Exact)}
    {check : Check Exact}
    (same : ∀ task since now, ({ s with completions := log } : Store Exact).completionsWithin
      (.value task) person since now =
      s.completionsWithin (.value task) person since now) :
    check.evaluate { s with completions := log } setting person context =
      check.evaluate s setting person context := by
  have counted (now : Moment) :
      check.taskCompletions { s with completions := log } setting.resetTime person now =
      check.taskCompletions s setting.resetTime person now := by
    unfold taskCompletions
    refine Except.bind_congr_of_ok fun task _ => Except.bind_congr_of_ok fun routine _ => ?_
    exact Except.bind_congr_of_ok fun since _ => same task.id since now
  have shared (comparison : Comparison) (now : Moment) :
      check.comparePercent comparison { s with completions := log } setting.resetTime person now =
        check.comparePercent comparison s setting.resetTime person now := by
    unfold comparePercent
    refine Except.bind_congr_of_ok fun routine _ => Except.bind_congr_of_ok fun tasks _ => ?_
    split
    · rfl
    refine Except.bind_congr_of_ok fun since _ => ?_
    have logs : (tasks.mapM fun task =>
        ({ s with completions := log } : Store Exact).completionsWithin (view task.id)
        person since now) = tasks.mapM fun task =>
          s.completionsWithin (view task.id) person since now :=
      Except.mapM_congr fun task _ => same task.id since now
    rw [logs]
  unfold evaluate
  simp only [counted, shared]
  rfl

namespace Store

theorem requirePerson_congr (persons : t.persons = s.persons) :
    t.requirePerson person = s.requirePerson person := by
  unfold requirePerson
  rw [persons]

theorem evaluateCondition_congr {condition : Field Text}
    (conditions : Table.find? t.conditions condition = Table.find? s.conditions condition)
    (persons : t.persons = s.persons) (same : ∀ c, Table.find? s.conditions condition = some c →
      c.evaluate t setting' person context = c.evaluate s setting person context) :
    t.evaluateCondition setting' condition person context =
      s.evaluateCondition setting condition person context := by
  unfold evaluateCondition
  rw [require_congr conditions, requirePerson_congr persons]
  refine Except.bind_congr_of_ok fun c found => ?_
  rw [same c (find?_of_require found)]

theorem showsTask_congr {task : Task F} (same : (view task.type).isValue .smart →
      t.evaluateCondition setting' (view task.conditionId).key person context =
        s.evaluateCondition setting (view task.conditionId).key person context) :
    t.showsTask setting' task person context = s.showsTask setting task person context := by
  unfold showsTask
  cases smart : (view task.type).isValue .smart with
  | false => rfl
  | true =>
    split
    · rfl
    · rfl
    · exact congrArg (Except.map (·.result)) (same smart)

theorem showsRoutine_congr {r : Routine F}
    (conditions : t.routineConditions (view r.id) (some true) =
      s.routineConditions (view r.id) (some true))
    (same : ∀ c ∈ s.routineConditions (view r.id) (some true),
      t.evaluateCondition setting' (view c.id) person context =
        s.evaluateCondition setting (view c.id) person context) :
    t.showsRoutine setting' r person context = s.showsRoutine setting r person context := by
  unfold showsRoutine
  rw [conditions, Except.mapM_congr same]

theorem isTaskVisible_congr {task : Text}
    (tasks : Table.find? t.tasks (.value task) = Table.find? s.tasks (.value task))
    (persons : t.persons = s.persons)
    (same : ∀ record, Table.find? s.tasks (.value task) = some record →
      t.showsTask setting' record person context = s.showsTask setting record person context) :
    t.isTaskVisible setting' task person context = s.isTaskVisible setting task person context := by
  unfold isTaskVisible
  rw [require_congr tasks, requirePerson_congr persons]
  refine Except.bind_congr_of_ok fun record found => ?_
  rw [same record (find?_of_require found)]

theorem isRoutineVisible_congr {routine : Text}
    (routines : Table.find? t.routines (.value routine) = Table.find? s.routines (.value routine))
    (persons : t.persons = s.persons)
    (conditions : t.routineConditions (.value routine) (some true) =
      s.routineConditions (.value routine) (some true))
    (same : ∀ c ∈ s.routineConditions (.value routine) (some true),
      t.evaluateCondition setting' (view c.id) person context =
        s.evaluateCondition setting (view c.id) person context) :
    t.isRoutineVisible setting' routine person context =
      s.isRoutineVisible setting routine person context := by
  unfold isRoutineVisible
  rw [require_congr routines, requirePerson_congr persons]
  refine Except.bind_congr_of_ok fun r found => ?_
  have named : view r.id = .value routine := (Table.mem_and_key_of_find? (find?_of_require found)).2
  rw [← named] at conditions same
  rw [showsRoutine_congr conditions same]

theorem visibleTasks_congr {routine : Text}
    (routines : Table.find? t.routines (.value routine) = Table.find? s.routines (.value routine))
    (persons : t.persons = s.persons)
    (tasks : t.activeTasks (.value routine) = s.activeTasks (.value routine))
    (same : ∀ listed, s.activeTasks (.value routine) = .ok listed → ∀ task ∈ listed,
      t.showsTask setting' task person (context.frozen setting'.clock) =
        s.showsTask setting task person (context.frozen setting.clock)) :
    t.visibleTasks setting' routine person context =
      s.visibleTasks setting routine person context := by
  unfold visibleTasks
  rw [require_congr routines, requirePerson_congr persons, tasks]
  refine Except.bind_congr_of_ok fun _ _ => Except.bind_congr_of_ok fun _ _ => ?_
  exact Except.bind_congr_of_ok fun listed active => Except.filterM_congr (same listed active)

end Store
end RoutineVisibility
