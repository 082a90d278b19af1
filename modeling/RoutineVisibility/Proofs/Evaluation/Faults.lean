import RoutineVisibility.Proofs.Evaluation.Breakdown
import RoutineVisibility.Proofs.Evaluation.Numerals
import RoutineVisibility.Proofs.Evaluation.Share
import RoutineVisibility.Proofs.Evaluation.TimeOfDay
import RoutineVisibility.Proofs.Reset.Period

/-! The checks of a checked store that cannot be answered. -/
namespace RoutineVisibility

/-- The faults that blame the operands of a check; their messages name the check. -/
def Fault.blamesOperands : Fault → Bool
  | .invalidTime .. | .noEndTime .. | .spansMidnight .. | .unsupportedTime .. => true
  | _ => false

theorem Operator.of_task {op : Operator} (ofTask : op.category? = some .task) :
    op = .taskCompleted ∨ op = .taskNotCompleted ∨ (∃ c, op = .taskCount c) ∨
      ∃ c, op = .taskValue c := by
  cases op <;> simp_all [category?]

theorem Operator.of_routine {op : Operator} (ofRoutine : op.category? = some .routine) :
    ∃ c, op = .routinePercent c := by
  cases op <;> simp_all [category?]

theorem Operator.of_goal {op : Operator} (ofGoal : op.category? = some .goal) :
    op = .goalAchieved ∨ op = .goalNotAchieved := by
  cases op <;> simp_all [category?]

namespace Store

theorem completionsWithin_ne_error {s : Store Exact} {task person : Text} {since now : Moment}
    {f : Fault} : s.completionsWithin (.value task) person since now ≠ .error f := by
  rw [completionsWithin_value]
  exact nofun

end Store

namespace Routine
variable {r : Routine Exact} {time : TimeOfDay} {now : Moment}

def NotBegun (r : Routine Exact) (time : TimeOfDay) (now : Moment) : Prop :=
  r.resetPeriod ≠ .custom ∧ ∀ m, (r.resets time).IsReset m → ¬ m ≤ now

theorem periodStart_eq_error_iff {f : Fault} :
    r.periodStart time now = .error f ↔ ∃ e, (r.resets time).start now = .error e ∧
      .calendar e = f := by
  rw [← Except.mapError_eq_error_iff, periodStart, schedule_exact]
  rfl

/-- The period of a routine that keeps its rules has no start where no reset has been. -/
theorem notBegun_iff (kept : r.violation? = none) :
    r.NotBegun time now ↔ ∃ e, (r.resets time).start now = .error e := by
  unfold NotBegun
  by_cases custom : r.resetPeriod = .custom
  · have started : (r.resets time).start now = .ok .first := by
      unfold resets Schedule.start
      rw [custom]
    rw [started]
    simp [custom]
  · have rolls : (r.resets time).Rolls := ⟨r.resetPeriod, rfl, custom⟩
    rw [Schedule.start_eq_error_iff rolls (namesDay_of_kept kept time)]
    simp [custom]

end Routine

namespace Check

def TooLong (c : Check Exact) : Prop :=
  ∃ text negative digits, c.value = some text ∧
    Number.leadingInteger? text.shown.toList = some (negative, digits) ∧
    Number.digitLimit < digits.length

/-- Why a check has no answer at a moment. -/
inductive Unanswerable (c : Check Exact) (s : Store Exact) (time : TimeOfDay) (now : Moment) :
    Prop where
  | noTask {name : Text} (ofTask : Operator.category? c.operator = some .task)
    (target : c.targetTaskId = some name) (missing : ¬ Table.has s.tasks (.value name))
  | noRoutineOfTask {name : Text} {task : Task Exact}
    (ofTask : Operator.category? c.operator = some .task) (target : c.targetTaskId = some name)
    (stored : Table.find? s.tasks (.value name) = some task)
    (missing : ¬ Table.has s.routines (.value task.routineId))
  | taskNotBegun {name : Text} {task : Task Exact} {routine : Routine Exact}
    (ofTask : Operator.category? c.operator = some .task) (target : c.targetTaskId = some name)
    (stored : Table.find? s.tasks (.value name) = some task)
    (owner : Table.find? s.routines (.value task.routineId) = some routine)
    (notBegun : routine.NotBegun time now)
  /-- The numbers of other comparisons are not integers, and may be of any length. -/
  | tooLong {comparison : Comparison} (counts : c.operator = .taskCount comparison)
    (tooLong : c.TooLong)
  | noRoutine {name : Text} (ofRoutine : Operator.category? c.operator = some .routine)
    (target : c.targetRoutineId = some name) (missing : ¬ Table.has s.routines (.value name))
  /-- A routine without active tasks is not done, whether or not it has begun. -/
  | routineNotBegun {name : Text} {routine : Routine Exact}
    (ofRoutine : Operator.category? c.operator = some .routine)
    (target : c.targetRoutineId = some name)
    (stored : Table.find? s.routines (.value name) = some routine)
    (active : ∃ t ∈ s.tasks, t.routineId = routine.id ∧ t.status = .active)
    (notBegun : routine.NotBegun time now)
  | noGoal {name : Text} (ofGoal : Operator.category? c.operator = some .goal)
    (target : c.targetGoalId = some name) (missing : ¬ Table.has s.goals (.value name))

variable {c : Check Exact} {s : Store Exact} {setting : Setting} {person : Text} {context : Context}
  {time : TimeOfDay} {now : Moment} {name : Text} {f : Fault}

theorem exists_target {category : Category} {t : Target} (suits : c.Suits category)
    (needs : category.target? = some t) : ∃ name, c.target t = some name :=
  Option.ne_none_iff_exists'.1 ((suits.references t).2 needs)

theorem beyondInteger_operand_iff : Operand.BeyondInteger c.operand ↔ c.TooLong := by
  unfold operand TooLong
  rw [view_exact]
  cases c.value with
  | none => simp [Field.json, Json.ofOptional, Operand.BeyondInteger]
  | some text =>
    simp [Field.json, Json.ofOptional, Operand.BeyondInteger, Number.leadingInteger?_eq_some_iff]

theorem exists_integer_error_iff : (∃ e, Operand.integer c.operand 0 = .error e) ↔ c.TooLong := by
  rw [← beyondInteger_operand_iff, ← not_iff_not, ← Operand.exists_integer_iff]
  cases Operand.integer c.operand 0 <;> simp

theorem taskCompletions_eq_error_iff (target : c.targetTaskId = some name) :
    c.taskCompletions s time person now = .error f ↔
      (¬ Table.has s.tasks (.value name) ∧ f = .notFound .task name) ∨
      ∃ task, Table.find? s.tasks (.value name) = some task ∧
        ((¬ Table.has s.routines (.value task.routineId) ∧ f = .notFound .routine task.routineId) ∨
          ∃ routine, Table.find? s.routines (.value task.routineId) = some routine ∧
            ∃ e, (routine.resets time).start now = .error e ∧ .calendar e = f) := by
  unfold taskCompletions
  rw [view_exact, target, Field.key_some]
  simp only [Except.bind_eq_error_iff, Store.require_eq_error_iff, Store.require_eq_ok_iff,
    view_exact, Routine.periodStart_eq_error_iff, Store.completionsWithin_ne_error, and_false,
    exists_false, or_false]

theorem evaluate_of_taskCompletions_error (ofTask : Operator.category? c.operator = some .task)
    (failed : c.taskCompletions s setting.resetTime person (context.now setting.clock) = .error f) :
    c.evaluate s setting person context = .error f := by
  unfold evaluate
  rcases Operator.of_task ofTask with op | op | ⟨comparison, op⟩ | ⟨comparison, op⟩
  all_goals
    simp only [view_exact, op, failed]
    rfl

theorem error_of_task_unknown (ofTask : Operator.category? c.operator = some .task)
    (unknown : ∃ f,
      c.taskCompletions s setting.resetTime person (context.now setting.clock) = .error f) :
    ∃ f, c.evaluate s setting person context = .error f :=
  unknown.imp fun _ => evaluate_of_taskCompletions_error ofTask

/-- A check of a task fails where its completions are not to be had, or where its operand cannot be
read. -/
theorem evaluate_eq_error_iff_of_task (ofTask : Operator.category? c.operator = some .task) :
    c.evaluate s setting person context = .error f ↔
      c.taskCompletions s setting.resetTime person (context.now setting.clock) = .error f ∨
        (∃ log,
          c.taskCompletions s setting.resetTime person (context.now setting.clock) = .ok log) ∧
          (∃ comparison, c.operator = .taskCount comparison) ∧
            ∃ e, Operand.integer c.operand 0 = .error e ∧ .numeral e = f := by
  cases found : c.taskCompletions s setting.resetTime person (context.now setting.clock) with
  | error f' =>
    rw [evaluate_of_taskCompletions_error ofTask found]
    simp
  | ok log =>
    rcases Operator.of_task ofTask with op | op | ⟨comparison, op⟩ | ⟨comparison, op⟩
    · rw [evaluate_taskCompleted op found]
      simp [op]
    · rw [evaluate_taskNotCompleted op found]
      simp [op]
    · rw [evaluate_taskCount op found, Except.map_eq_error_iff, Except.mapError_eq_error_iff]
      simp [op]
    · rw [evaluate_taskValue op found]
      simp [op]

theorem comparePercent_eq_error_iff {comparison : Comparison}
    (target : c.targetRoutineId = some name) :
    c.comparePercent comparison s time person now = .error f ↔
      (¬ Table.has s.routines (.value name) ∧ f = .notFound .routine name) ∨
      ∃ routine, Table.find? s.routines (.value name) = some routine ∧
        (∃ t ∈ s.tasks, t.routineId = routine.id ∧ t.status = .active) ∧
          ∃ e, (routine.resets time).start now = .error e ∧ .calendar e = f := by
  rw [comparePercent_eq, view_exact, target, Field.key_some, Except.bind_eq_error_iff,
    Store.require_eq_error_iff]
  refine or_congr Iff.rfl (exists_congr fun routine => and_congr Store.require_eq_ok_iff ?_)
  rw [← Store.activeNames_ne_nil_iff, ← Routine.periodStart_eq_error_iff, ne_eq, ← List.isEmpty_iff]
  split
  · next none => simp [none, pure, Except.pure]
  · next some =>
    rw [Except.bind_eq_error_iff]
    simp [some, pure, Except.pure]

theorem evaluate_eq_error_iff_of_routine (ofRoutine : Operator.category? c.operator = some .routine)
    (target : c.targetRoutineId = some name) :
    c.evaluate s setting person context = .error f ↔
      (¬ Table.has s.routines (.value name) ∧ f = .notFound .routine name) ∨
      ∃ routine, Table.find? s.routines (.value name) = some routine ∧
        (∃ t ∈ s.tasks, t.routineId = routine.id ∧ t.status = .active) ∧
          ∃ e, (routine.resets setting.resetTime).start (context.now setting.clock) = .error e ∧
            .calendar e = f := by
  obtain ⟨comparison, op⟩ := Operator.of_routine ofRoutine
  rw [evaluate_routinePercent op, comparePercent_eq_error_iff target]

theorem evaluate_eq_error_iff_of_goal (ofGoal : Operator.category? c.operator = some .goal)
    (target : c.targetGoalId = some name) :
    c.evaluate s setting person context = .error f ↔
      ¬ Table.has s.goals (.value name) ∧ f = .notFound .goal name := by
  have failed : c.goalProgress s = .error f ↔ ¬ Table.has s.goals (.value name) ∧
      f = .notFound .goal name := by
    unfold goalProgress
    rw [view_exact, target, Field.key_some]
    exact Store.require_eq_error_iff
  rw [← failed]
  unfold evaluate
  rcases Operator.of_goal ofGoal with op | op
  · simp only [view_exact, op]
    cases c.goalProgress s <;> simp [bind, Except.bind, pure, Except.pure]
  · simp only [view_exact, op]
    cases c.goalProgress s <;> simp [bind, Except.bind, pure, Except.pure, Except.map]

/-- A check that refers to no record has its operands, if it needs any. -/
theorem exists_evaluate (kept : c.violation? = none)
    (free : (Operator.category? c.operator).bind Category.target? = none) :
    ∃ b, c.evaluate s setting person context = .ok b := by
  unfold evaluate
  simp only [view_exact]
  cases op : c.operator with
  | timeOfDay =>
    have suits : c.Suits .time :=
      violation?_eq_none_iff.1 kept .time (congrArg Operator.category? op)
    obtain ⟨b, tells⟩ := exists_tells_iff.2 (suits.time rfl)
    exact ⟨b, Except.map_eq_ok_iff.2 ⟨b, compareTime_eq_ok_iff.2 tells, rfl⟩⟩
  | dayOfWeek => exact ⟨_, rfl⟩
  | dateRange => exact ⟨_, Except.map_eq_ok_iff.2 ⟨_, hasDate_eq _ _, rfl⟩⟩
  | other s => exact ⟨_, rfl⟩
  | taskCompleted | taskNotCompleted | taskCount | taskValue | routinePercent | goalAchieved
  | goalNotAchieved =>
    simp [op, Operator.category?, Category.target?] at free

section
variable (routines : ∀ r ∈ s.routines, r.violation? = none)
include routines

theorem notBegun_iff_of_stored {id : Text} {routine : Routine Exact}
    (stored : Table.find? s.routines (.value id) = some routine) :
    routine.NotBegun time now ↔ ∃ e, (routine.resets time).start now = .error e :=
  Routine.notBegun_iff (routines routine (Table.mem_and_key_of_find? stored).1)

theorem unanswerable_of_task_error (ofTask : Operator.category? c.operator = some .task)
    (target : c.targetTaskId = some name)
    (failed : c.evaluate s setting person context = .error f) :
    c.Unanswerable s setting.resetTime (context.now setting.clock) ∧ f.blamesOperands = false := by
  rcases (evaluate_eq_error_iff_of_task ofTask).1 failed with
    unknown | ⟨-, ⟨comparison, counts⟩, e, unread, rfl⟩
  · rcases (taskCompletions_eq_error_iff target).1 unknown with
      ⟨missing, rfl⟩ | ⟨task, stored, ⟨missing, rfl⟩ | ⟨routine, owner, e, unstarted, rfl⟩⟩
    · exact ⟨.noTask ofTask target missing, rfl⟩
    · exact ⟨.noRoutineOfTask ofTask target stored missing, rfl⟩
    · have notBegun := (notBegun_iff_of_stored routines owner).2 ⟨e, unstarted⟩
      exact ⟨.taskNotBegun ofTask target stored owner notBegun, rfl⟩
  · exact ⟨.tooLong counts (exists_integer_error_iff.1 ⟨e, unread⟩), rfl⟩

theorem unanswerable_of_routine_error (ofRoutine : Operator.category? c.operator = some .routine)
    (target : c.targetRoutineId = some name)
    (failed : c.evaluate s setting person context = .error f) :
    c.Unanswerable s setting.resetTime (context.now setting.clock) ∧ f.blamesOperands = false := by
  rcases (evaluate_eq_error_iff_of_routine ofRoutine target).1 failed with
    ⟨missing, rfl⟩ | ⟨routine, stored, active, e, unstarted, rfl⟩
  · exact ⟨.noRoutine ofRoutine target missing, rfl⟩
  · have notBegun := (notBegun_iff_of_stored routines stored).2 ⟨e, unstarted⟩
    exact ⟨.routineNotBegun ofRoutine target stored active notBegun, rfl⟩

theorem unanswerable_of_error (kept : c.violation? = none)
    (failed : c.evaluate s setting person context = .error f) :
    c.Unanswerable s setting.resetTime (context.now setting.clock) ∧ f.blamesOperands = false := by
  by_cases free : (Operator.category? c.operator).bind Category.target? = none
  · have answered : ∃ b, c.evaluate s setting person context = .ok b := exists_evaluate kept free
    obtain ⟨b, answered⟩ := answered
    exact nomatch answered.symm.trans failed
  · obtain ⟨t, needs⟩ := Option.ne_none_iff_exists'.1 free
    obtain ⟨category, known, needs⟩ := Option.bind_eq_some_iff.1 needs
    obtain ⟨name, target⟩ := exists_target (violation?_eq_none_iff.1 kept category known) needs
    cases category with
    | task =>
      cases needs
      exact unanswerable_of_task_error routines known target failed
    | routine =>
      cases needs
      exact unanswerable_of_routine_error routines known target failed
    | goal =>
      cases needs
      obtain ⟨missing, rfl⟩ := (evaluate_eq_error_iff_of_goal known target).1 failed
      exact ⟨.noGoal known target missing, rfl⟩
    | time | day | date => cases needs

theorem error_of_unanswerable
    (reason : c.Unanswerable s setting.resetTime (context.now setting.clock)) :
    ∃ f, c.evaluate s setting person context = .error f := by
  cases reason with
  | noTask ofTask target missing =>
    apply error_of_task_unknown ofTask
    exact ⟨_, (taskCompletions_eq_error_iff target).2 (.inl ⟨missing, rfl⟩)⟩
  | noRoutineOfTask ofTask target stored missing =>
    apply error_of_task_unknown ofTask
    exact ⟨_, (taskCompletions_eq_error_iff target).2 (.inr ⟨_, stored, .inl ⟨missing, rfl⟩⟩)⟩
  | taskNotBegun ofTask target stored owner notBegun =>
    obtain ⟨e, unstarted⟩ := (notBegun_iff_of_stored routines owner).1 notBegun
    apply error_of_task_unknown ofTask
    exact ⟨_, (taskCompletions_eq_error_iff target).2
      (.inr ⟨_, stored, .inr ⟨_, owner, e, unstarted, rfl⟩⟩)⟩
  | tooLong counts tooLong =>
    obtain ⟨e, unread⟩ := exists_integer_error_iff.2 tooLong
    have ofTask : Operator.category? c.operator = some .task := congrArg Operator.category? counts
    cases found : c.taskCompletions s setting.resetTime person (context.now setting.clock) with
    | error f => exact error_of_task_unknown ofTask ⟨f, found⟩
    | ok log =>
      exact ⟨_, (evaluate_eq_error_iff_of_task ofTask).2
        (.inr ⟨⟨log, found⟩, ⟨_, counts⟩, e, unread, rfl⟩)⟩
  | noRoutine ofRoutine target missing =>
    exact ⟨_, (evaluate_eq_error_iff_of_routine ofRoutine target).2 (.inl ⟨missing, rfl⟩)⟩
  | routineNotBegun ofRoutine target stored active notBegun =>
    obtain ⟨e, unstarted⟩ := (notBegun_iff_of_stored routines stored).1 notBegun
    exact ⟨_, (evaluate_eq_error_iff_of_routine ofRoutine target).2
      (.inr ⟨_, stored, active, e, unstarted, rfl⟩)⟩
  | noGoal ofGoal target missing =>
    exact ⟨_, (evaluate_eq_error_iff_of_goal ofGoal target).2 ⟨missing, rfl⟩⟩

end

/-- In a store of routines that keep their rules, a check that keeps its own fails for the reasons
above and for no others. So the calendar checks never fail, nor does a check of an operator that is
not known, and no failure blames the operands. -/
theorem evaluate_fails_iff_unanswerable (s : Store Exact)
    (routines : ∀ r ∈ s.routines, r.violation? = none) (c : Check Exact)
    (kept : c.violation? = none) (setting : Setting) (person : Text) (context : Context) :
    ((∃ f, c.evaluate s setting person context = .error f) ↔
        c.Unanswerable s setting.resetTime (context.now setting.clock)) ∧
      (c.operator ∈ [.timeOfDay, .dayOfWeek, .dateRange] ∨ Operator.category? c.operator = none →
        ∃ b, c.evaluate s setting person context = .ok b) ∧
      ∀ f, c.evaluate s setting person context = .error f → f.blamesOperands = false := by
  refine ⟨⟨?_, error_of_unanswerable routines⟩, ?_,
    fun f failed => (unanswerable_of_error routines kept failed).2⟩
  · intro failed
    obtain ⟨f, failed⟩ := failed
    exact (unanswerable_of_error routines kept failed).1
  · intro other
    apply exists_evaluate kept
    rcases other with calendar | unknown
    · simp only [List.mem_cons, List.not_mem_nil, or_false] at calendar
      rcases calendar with op | op | op
      all_goals
        rw [op]
        rfl
    · rw [unknown]
      rfl

/-- On the first Monday of the calendar a routine of Sundays has not begun, so nobody can say how
much of it is done. Whether it is before noon can be said. -/
theorem sundays_evaluate_fails_iff :
    let sundays : Routine Exact := ⟨"R", "", .regular, .active, .weekly, none⟩
    let s : Store Exact :=
      { routines := [sundays], tasks := [⟨"T", "R", "", .simple, .active, 0, none⟩] }
    let halfDone : Check Exact :=
      ⟨"1", .routinePercent .greater, false, some "50 %", none, none, some "R", none,
        none, none, []⟩
    let beforeNoon : Check Exact :=
      ⟨"2", .timeOfDay, false, none, none, none, none, none, some .before, some "12:00", []⟩
    let setting : Setting := ⟨⟨.first, 0⟩, defaultResetTime⟩
    let monday : Context := ⟨some (.onMinute 0 600), none⟩
    (∀ r ∈ s.routines, r.violation? = none) ∧ halfDone.violation? = none ∧
      beforeNoon.violation? = none ∧
      (∃ f, halfDone.evaluate s setting "P" monday = .error f) ∧
      ∃ b, beforeNoon.evaluate s setting "P" monday = .ok b := by
  intro sundays s halfDone beforeNoon setting monday
  have routines : ∀ r ∈ s.routines, r.violation? = none := List.forall_mem_singleton.2 rfl
  have kept : beforeNoon.violation? = none := by decide +kernel
  have notBegun : sundays.NotBegun defaultResetTime (.onMinute 0 600) :=
    (Routine.notBegun_iff rfl).2 ⟨.outOfRange, by decide +kernel⟩
  have active : ∃ t ∈ s.tasks, t.routineId = sundays.id ∧ t.status = .active :=
    ⟨_, List.mem_cons_self, rfl, rfl⟩
  have failed := (evaluate_fails_iff_unanswerable s routines halfDone rfl setting "P" monday).1.2
    (.routineNotBegun rfl rfl rfl active notBegun)
  have answered :=
    (evaluate_fails_iff_unanswerable s routines beforeNoon kept setting "P" monday).2.1
      (.inl List.mem_cons_self)
  exact ⟨routines, rfl, kept, failed, answered⟩

end Check
end RoutineVisibility
