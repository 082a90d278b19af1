import RoutineVisibility.Proofs.Authoring.Outcome
import RoutineVisibility.Proofs.Calendar.LocalTime
import RoutineVisibility.Proofs.Reset.Boundary
import RoutineVisibility.Proofs.Store.Log

/-! A completion counts from its own moment up to the first reset after it. -/
namespace RoutineVisibility

def Routine.resets (r : Routine Exact) (time : TimeOfDay) : Schedule :=
  ⟨some r.resetPeriod, r.resetDay, time⟩

/-- What was done at a moment counts at another: this is not earlier, and no reset lies between
them. -/
def Schedule.counts (s : Schedule) (done now : Moment) : Bool :=
  match s.next done with
  | .ok (some next) => decide (done ≤ now) && decide (now < next)
  | _ => false

def Store.living (s : Store Exact) (schedule : Schedule) (task person : Text) (now : Moment) :
    List (Completion Exact) :=
  s.completions.filter fun c => isOwn task person c && schedule.counts (momentOf c) now

namespace Store
variable {s : Store Exact} {schedule : Schedule} {task person : Text} {now since : Moment}

/-- The completions of the current period are those that count at the present moment. -/
theorem recorded_eq_living (rolls : schedule.Rolls) (started : schedule.start now = .ok since)
    (turns : ∀ c ∈ s.completions, c.taskId = task → c.personId = person →
      ∃ next, schedule.next (momentOf c) = .ok (some next)) :
    s.recorded task person since now = s.living schedule task person now := by
  refine List.filter_congr fun c mem => ?_
  cases own : isOwn task person c with
  | false => simp only [Bool.false_and]
  | true =>
    rw [isOwn, Bool.and_eq_true, beq_iff_eq, beq_iff_eq] at own
    obtain ⟨next, hnext⟩ := turns c mem own.1 own.2
    have period : decide (since ≤ momentOf c) = decide (now < next) :=
      decide_eq_decide.2 (Schedule.start_le_iff_lt_next rolls started hnext)
    rw [Schedule.counts, hnext, period, Bool.true_and, Bool.true_and]
    exact Bool.and_comm _ _

end Store

namespace Check
variable {s : Store Exact} {check : Check Exact} {task : Task Exact} {routine : Routine Exact}

/-- The completions that a check of a task works with are those of the current period of the routine
of the task. -/
theorem taskCompletions_eq {time : TimeOfDay} {person : Text} {now since : Moment}
    (target : check.targetTaskId = some task.id)
    (stored : Table.find? s.tasks (.value task.id) = some task)
    (owner : Table.find? s.routines (.value task.routineId) = some routine)
    (started : routine.periodStart time now = .ok since) :
    check.taskCompletions s time person now =
      s.completionsWithin (.value task.id) person since now := by
  unfold taskCompletions
  rw [view_exact, target, Field.key_some, Store.require_value, stored]
  show (do
    let routine ← Store.require .routine s.routines (view task.routineId)
    s.completionsWithin (view task.id) person (← routine.periodStart time now) now) = _
  rw [view_exact, Store.require_value, owner]
  show (do s.completionsWithin (view task.id) person (← routine.periodStart time now) now) = _
  rw [started]
  rfl

/-- The completions that a check of a task works with, up to their order. -/
theorem taskCompletions_perm {time : TimeOfDay} {person : Text} {now since : Moment}
    (target : check.targetTaskId = some task.id)
    (stored : Table.find? s.tasks (.value task.id) = some task)
    (owner : Table.find? s.routines (.value task.routineId) = some routine)
    (started : routine.periodStart time now = .ok since) :
    ∃ log, check.taskCompletions s time person now = .ok log ∧
      log.Perm (s.recorded task.id person since now) := by
  rw [taskCompletions_eq target stored owner started]
  exact s.completionsWithin_perm task.id person since now

variable {setting : Setting} {person : Text} {context : Context} {log : List (Completion Exact)}

theorem evaluate_taskCompleted (op : check.operator = .taskCompleted)
    (found :
      check.taskCompletions s setting.resetTime person (context.now setting.clock) = .ok log) :
    check.evaluate s setting person context = .ok (decide (0 < log.length)) := by
  unfold evaluate
  simp only [view_exact, op, found]
  cases log <;> rfl

theorem evaluate_taskNotCompleted (op : check.operator = .taskNotCompleted)
    (found :
      check.taskCompletions s setting.resetTime person (context.now setting.clock) = .ok log) :
    check.evaluate s setting person context = .ok (decide (log.length = 0)) := by
  unfold evaluate
  simp only [view_exact, op, found]
  cases log <;> rfl

theorem evaluate_taskCount {comparison : Comparison} (op : check.operator = .taskCount comparison)
    (found :
      check.taskCompletions s setting.resetTime person (context.now setting.clock) = .ok log) :
    check.evaluate s setting person context =
      ((Operand.integer check.operand 0).mapError .numeral).map (comparison.ofInts log.length) := by
  unfold evaluate
  simp only [view_exact, op, found]
  unfold compareCount
  cases Operand.integer check.operand 0 <;> rfl

/-- A check of a task counts the completions that live: each from its own moment until the first
reset after it. -/
theorem evaluate_eq_living (s : Store Exact) (setting : Setting) (person : Text) (context : Context)
    (check : Check Exact) (task : Task Exact) (routine : Routine Exact)
    (target : check.targetTaskId = some task.id)
    (stored : Table.find? s.tasks (.value task.id) = some task)
    (owner : Table.find? s.routines (.value task.routineId) = some routine)
    (ends : routine.resetPeriod ≠ .custom)
    (started : ∃ since,
      routine.periodStart setting.resetTime (context.now setting.clock) = .ok since)
    (turns : ∀ c ∈ s.completions, c.taskId = task.id → c.personId = person →
      ∃ next, (routine.resets setting.resetTime).next (Store.momentOf c) = .ok (some next)) :
    let n := (s.living (routine.resets setting.resetTime) task.id person
      (context.now setting.clock)).length
    (check.operator = .taskCompleted →
        check.evaluate s setting person context = .ok (decide (0 < n))) ∧
      (check.operator = .taskNotCompleted →
        check.evaluate s setting person context = .ok (decide (n = 0))) ∧
      ∀ comparison, check.operator = .taskCount comparison →
        check.evaluate s setting person context =
          ((Operand.integer check.operand 0).mapError .numeral).map (comparison.ofInts n) := by
  obtain ⟨since, started⟩ := started
  have start :
      (routine.resets setting.resetTime).start (context.now setting.clock) = .ok since := by
    rw [Routine.periodStart, Routine.schedule_exact] at started
    exact Except.mapError_eq_ok_iff.1 started
  obtain ⟨log, found, perm⟩ := taskCompletions_perm target stored owner started
  rw [Store.recorded_eq_living ⟨routine.resetPeriod, rfl, ends⟩ start turns] at perm
  rw [← perm.length_eq]
  exact ⟨fun op => evaluate_taskCompleted op found, fun op => evaluate_taskNotCompleted op found,
    fun _ op => evaluate_taskCount op found⟩

end Check

def Routine.closing : Routine Exact :=
  ⟨"R", "", .regular, .active, .monthly, some lastDayOfMonth⟩

def Task.ofClosing : Task Exact :=
  ⟨"T", "R", "", .simple, .active, 0, none⟩

def Check.twice : Check Exact :=
  ⟨"1", .taskCount .equals, false, some "2", none, some "T", none, none, none, none, []⟩

namespace Store

/-- The closing of February 2026: a completion of the minute before it, one of its own minute, one
of March, and one of another person. -/
def closing : Store Exact where
  routines := [.closing]
  tasks := [.ofClosing]
  completions :=
    [⟨"1", "T", "P", .onMinute 739674 1434, none⟩, ⟨"2", "T", "P", .onMinute 739674 1435, none⟩,
      ⟨"3", "T", "P", .onMinute 739684 0, none⟩, ⟨"4", "T", "Q", .onMinute 739684 0, none⟩]

theorem closing_turns : ∀ c ∈ closing.completions, c.taskId = Task.ofClosing.id → c.personId = "P" →
    ∃ next, (Routine.closing.resets defaultResetTime).next (momentOf c) = .ok (some next) := by
  intro c mem _ _
  simp only [closing, List.mem_cons, List.not_mem_nil, or_false] at mem
  rcases mem with rfl | rfl | rfl | rfl
  · exact ⟨.onMinute 739674 1435, by decide +kernel⟩
  · exact ⟨.onMinute 739705 1435, by decide +kernel⟩
  · exact ⟨.onMinute 739705 1435, by decide +kernel⟩
  · exact ⟨.onMinute 739705 1435, by decide +kernel⟩

/-- A minute before the closing of March the completions since the closing of February count. -/
theorem closing_evaluate :
    (closing.living (Routine.closing.resets defaultResetTime) "T" "P"
      (.onMinute 739705 1434)).length = 2 ∧
      Check.twice.evaluate closing ⟨⟨.first, 0⟩, defaultResetTime⟩ "P"
        ⟨some (.onMinute 739705 1434), none⟩ =
        .ok true := by
  have two : (closing.living (Routine.closing.resets defaultResetTime) "T" "P"
      (.onMinute 739705 1434)).length = 2 := by decide +kernel
  have counted := (Check.evaluate_eq_living closing ⟨⟨.first, 0⟩, defaultResetTime⟩ "P"
    ⟨some (.onMinute 739705 1434), none⟩ Check.twice Task.ofClosing Routine.closing
      rfl rfl rfl (by decide)
    ⟨.onMinute 739674 1435, by decide +kernel⟩ closing_turns).2.2 .equals rfl
  have asked : Operand.integer Check.twice.operand 0 = .ok 2 := by decide +kernel
  refine ⟨two, counted.trans ?_⟩
  change Except.map (Comparison.ofInts .equals
    (closing.living _ "T" "P" (.onMinute 739705 1434)).length) _ = _
  rw [two, asked]
  rfl

end Store
end RoutineVisibility
