import RoutineVisibility.Proofs.Evaluation.Congruence
import RoutineVisibility.Proofs.Evaluation.Lifetime
import RoutineVisibility.Proofs.Evaluation.Outside

/-! Completions that change nothing: of others, of the future, of a period that is over, or of no
task. -/
namespace RoutineVisibility.Store

/-- Why a completion does not matter to a person at a moment. -/
inductive Irrelevant (s : Store Exact) (time : TimeOfDay) (person : Text) (now : Moment)
    (c : Completion Exact) : Prop where
  | ofOther (other : c.personId ≠ person)
  | ahead (later : now < c.completedAt)
  | noTask (missing : ¬ Table.has s.tasks (.value c.taskId))
  | noRoutine {task : Task Exact} (stored : Table.find? s.tasks (.value c.taskId) = some task)
    (missing : ¬ Table.has s.routines (.value task.routineId))
  /-- It belongs to a period of the routine that is over. -/
  | past {task : Task Exact} {routine : Routine Exact} {since : Moment}
    (stored : Table.find? s.tasks (.value c.taskId) = some task)
    (owner : Table.find? s.routines (.value task.routineId) = some routine)
    (started : routine.periodStart time now = .ok since) (before : c.completedAt < since)

namespace Irrelevant
variable {s : Store Exact} {time : TimeOfDay} {person : Text} {now since : Moment}
  {c : Completion Exact} {task : Task Exact} {routine : Routine Exact} {check : Check Exact}

/-- In the current period of its routine, the completion is not among those of a task. -/
theorem notCounted (irrelevant : s.Irrelevant time person now c)
    (stored : Table.find? s.tasks (.value task.id) = some task)
    (owner : Table.find? s.routines (.value task.routineId) = some routine)
    (started : routine.periodStart time now = .ok since) :
    (isOwn task.id person c && decide (since ≤ momentOf c) && decide (momentOf c ≤ now)) =
      false := by
  by_contra counted
  simp only [Bool.not_eq_false, Bool.and_eq_true, decide_eq_true_eq, isOwn, beq_iff_eq] at counted
  obtain ⟨⟨⟨ofTask, ofPerson⟩, inPeriod⟩, upToNow⟩ := counted
  rw [← ofTask] at stored
  cases irrelevant with
  | ofOther other => exact other ofPerson
  | ahead later => exact absurd (Nat.lt_of_lt_of_le later upToNow) (Nat.lt_irrefl _)
  | noTask missing => exact missing (Option.isSome_iff_exists.2 ⟨task, stored⟩)
  | noRoutine stored' missing =>
    obtain rfl := Option.some.inj (stored.symm.trans stored')
    exact missing (Option.isSome_iff_exists.2 ⟨routine, owner⟩)
  | past stored' owner' started' before =>
    obtain rfl := Option.some.inj (stored.symm.trans stored')
    obtain rfl := Option.some.inj (owner.symm.trans owner')
    obtain rfl := Except.ok.inj (started.symm.trans started')
    exact absurd (Nat.lt_of_lt_of_le before inPeriod) (Nat.lt_irrefl _)

theorem completionsWithin_eq (irrelevant : s.Irrelevant time person now c)
    (stored : Table.find? s.tasks (.value task.id) = some task)
    (owner : Table.find? s.routines (.value task.routineId) = some routine)
    (started : routine.periodStart time now = .ok since) :
    (s.add (.completion c)).completionsWithin (.value task.id) person since now =
      s.completionsWithin (.value task.id) person since now := by
  have recorded : (s.add (.completion c)).recorded task.id person since now =
      s.recorded task.id person since now := by
    have skipped := irrelevant.notCounted stored owner started
    unfold Store.recorded
    show (s.completions ++ [c]).filter _ = _
    rw [List.filter_append, List.filter_cons_of_neg (by rw [skipped]; decide), List.filter_nil,
      List.append_nil]
  rw [completionsWithin_value, completionsWithin_value, recorded]

theorem taskCompletions_eq (irrelevant : s.Irrelevant time person now c) :
    check.taskCompletions (s.add (.completion c)) time person now =
      check.taskCompletions s time person now := by
  unfold Check.taskCompletions
  refine Except.bind_congr_of_ok fun task target => Except.bind_congr_of_ok fun routine owner => ?_
  refine Except.bind_congr_of_ok fun since started => ?_
  obtain ⟨name, -, stored⟩ := find?_of_require_key (named_of_tasks _) target
  obtain rfl : task.id = name := Field.value.inj (Table.mem_and_key_of_find? stored).2
  exact irrelevant.completionsWithin_eq stored (find?_of_require owner) started

theorem comparePercent_eq (irrelevant : s.Irrelevant time person now c) (distinct : s.Distinct)
    (comparison : Comparison) :
    check.comparePercent comparison (s.add (.completion c)) time person now =
      check.comparePercent comparison s time person now := by
  unfold Check.comparePercent
  refine Except.bind_congr_of_ok fun routine target => ?_
  refine Except.bind_congr_of_ok fun tasks active => ?_
  obtain ⟨name, -, owner⟩ := find?_of_require_key (named_of_routines _) target
  obtain rfl : routine.id = name := Field.value.inj (Table.mem_and_key_of_find? owner).2
  split
  · rfl
  refine Except.bind_congr_of_ok fun since started => ?_
  have logs : (tasks.mapM fun task => (s.add (.completion c)).completionsWithin (view task.id)
      person since now) =
      tasks.mapM fun task => s.completionsWithin (view task.id) person since now := by
    refine Except.mapM_congr fun task mem => ?_
    obtain ⟨listed, own⟩ := mem_tasksOf.1 (mem_of_activeTasks active mem)
    exact irrelevant.completionsWithin_eq (distinct.tasks.find? listed rfl) (own ▸ owner) started
  rw [logs]

variable {setting : Setting} {context : Context}

theorem evaluate_check_eq
    (irrelevant : s.Irrelevant setting.resetTime person (context.now setting.clock) c)
    (distinct : s.Distinct) :
    check.evaluate (s.add (.completion c)) setting person context =
      check.evaluate s setting person context := by
  unfold Check.evaluate
  simp only [irrelevant.taskCompletions_eq, irrelevant.comparePercent_eq distinct]
  rfl

theorem evaluate_eq
    (irrelevant : s.Irrelevant setting.resetTime person (context.now setting.clock) c)
    (distinct : s.Distinct) (d : Condition Exact) :
    d.evaluate (s.add (.completion c)) setting person context =
      d.evaluate s setting person context := by
  have frozen : s.Irrelevant setting.resetTime person
      ((context.frozen setting.clock).now setting.clock) c := irrelevant
  exact Condition.evaluate_congr fun check _ => frozen.evaluate_check_eq distinct

theorem evaluateCondition_eq
    (irrelevant : s.Irrelevant setting.resetTime person (context.now setting.clock) c)
    (distinct : s.Distinct) (condition : Field Text) :
    (s.add (.completion c)).evaluateCondition setting condition person context =
      s.evaluateCondition setting condition person context :=
  evaluateCondition_congr rfl rfl fun d _ => irrelevant.evaluate_eq distinct d

theorem showsTask_eq
    (irrelevant : s.Irrelevant setting.resetTime person (context.now setting.clock) c)
    (distinct : s.Distinct) (task : Task Exact) :
    (s.add (.completion c)).showsTask setting task person context =
      s.showsTask setting task person context :=
  showsTask_congr fun _ => irrelevant.evaluateCondition_eq distinct _

theorem isRoutineVisible_eq
    (irrelevant : s.Irrelevant setting.resetTime person (context.now setting.clock) c)
    (distinct : s.Distinct) (routine : Text) :
    (s.add (.completion c)).isRoutineVisible setting routine person context =
      s.isRoutineVisible setting routine person context :=
  isRoutineVisible_congr rfl rfl rfl fun _ _ => irrelevant.evaluateCondition_eq distinct _

end Irrelevant

/-- A completion that does not matter to a person changes no evaluation and no answer for this
person. -/
theorem answers_of_irrelevant (s : Store Exact) (distinct : s.Distinct) (setting : Setting)
    (person : Text) (context : Context) (c : Completion Exact)
    (irrelevant : s.Irrelevant setting.resetTime person (context.now setting.clock) c) :
    let t := s.add (.completion c)
    (∀ d : Condition Exact, d.evaluate t setting person context =
      d.evaluate s setting person context) ∧
      (∀ condition, t.evaluateCondition setting condition person context =
        s.evaluateCondition setting condition person context) ∧
      (∀ task, t.isTaskVisible setting task person context =
        s.isTaskVisible setting task person context) ∧
      (∀ routine, t.isRoutineVisible setting routine person context =
        s.isRoutineVisible setting routine person context) ∧
      (∀ routine, t.visibleTasks setting routine person context =
        s.visibleTasks setting routine person context) ∧
      ∀ routines, t.visibleRoutines setting routines person context =
        s.visibleRoutines setting routines person context := by
  intro t
  -- The batches ask at the same moment, so the completion does not matter to them either.
  have frozen : s.Irrelevant setting.resetTime person
      ((context.frozen setting.clock).now setting.clock) c := irrelevant
  refine ⟨irrelevant.evaluate_eq distinct, irrelevant.evaluateCondition_eq distinct, ?_,
    irrelevant.isRoutineVisible_eq distinct, ?_, ?_⟩
  · intro task
    exact isTaskVisible_congr rfl rfl fun record _ => irrelevant.showsTask_eq distinct record
  · intro routine
    exact visibleTasks_congr rfl rfl rfl fun _ _ task _ => frozen.showsTask_eq distinct task
  · intro routines
    exact Except.filterM_congr fun routine _ => frozen.isRoutineVisible_eq distinct routine

/-- At the end of March, a completion of the minute before the closing of February comes too late to
matter: the task was done twice since then, as before. -/
theorem closing_answers_of_irrelevant :
    let late : Completion Exact := ⟨"5", "T", "P", .onMinute 739674 1434, none⟩
    let setting : Setting := ⟨⟨.first, 0⟩, defaultResetTime⟩
    let context : Context := ⟨some (.onMinute 739705 1434), none⟩
    let condition : Condition Exact := ⟨"c", "R", false, .and, [.twice]⟩
    closing.Irrelevant defaultResetTime "P" (.onMinute 739705 1434) late ∧
      condition.evaluate (closing.add (.completion late)) setting "P" context =
        condition.evaluate closing setting "P" context ∧
      Check.twice.evaluate closing setting "P" context = .ok true := by
  intro late setting context condition
  have started : Routine.closing.periodStart defaultResetTime (.onMinute 739705 1434) =
      .ok (.onMinute 739674 1435) := by decide +kernel
  have stored : Table.find? closing.tasks (.value Task.ofClosing.id) = some .ofClosing := rfl
  have irrelevant : closing.Irrelevant defaultResetTime "P" (.onMinute 739705 1434) late :=
    .past stored rfl started (by decide)
  have same :=
    (answers_of_irrelevant closing (by decide +kernel) setting "P" context late irrelevant).1
      condition
  refine ⟨irrelevant, same, ?_⟩
  have target : Check.twice.targetTaskId = some Task.ofClosing.id := rfl
  obtain ⟨log, found, perm⟩ :
      ∃ log,
        Check.twice.taskCompletions closing defaultResetTime "P" (.onMinute 739705 1434) = .ok log ∧
        log.Perm (closing.recorded Task.ofClosing.id "P" (.onMinute 739674 1435)
          (.onMinute 739705 1434)) :=
    Check.taskCompletions_perm target stored rfl started
  have two : log.length = 2 := perm.length_eq.trans (by decide +kernel)
  have asked : Operand.integer Check.twice.operand 0 = .ok 2 := by decide +kernel
  have counted : Check.twice.evaluate closing setting "P" context =
      ((Operand.integer Check.twice.operand 0).mapError .numeral).map
        (Comparison.equals.ofInts log.length) :=
    Check.evaluate_taskCount rfl found
  rw [counted, two, asked]
  rfl

end RoutineVisibility.Store
