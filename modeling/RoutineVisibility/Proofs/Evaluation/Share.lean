import RoutineVisibility.Proofs.Evaluation.Outside
import RoutineVisibility.Proofs.Evaluation.Recording

/-! The share of a routine that is done counts its active tasks, and not how often they were
completed. -/
namespace RoutineVisibility

namespace Store

def activeNames (s : Store Exact) (routine : Text) : List Text :=
  (s.tasks.filter fun t => t.routineId == routine && t.status == .active).map (·.id)

/-- A person completed a task at least once in a span of time. -/
def isDone (s : Store Exact) (person : Text) (since now : Moment) (task : Text) : Bool :=
  !(s.recorded task person since now).isEmpty

def doneCount (s : Store Exact) (routine person : Text) (since now : Moment) : Nat :=
  (s.activeNames routine).countP (s.isDone person since now)

variable {s : Store Exact} {routine person : Text} {since now : Moment}

theorem isDone_iff {task : Text} : s.isDone person since now task ↔
    ∃ c ∈ s.completions, (isOwn task person c && decide (since ≤ momentOf c) &&
      decide (momentOf c ≤ now)) = true := by
  rw [isDone, recorded, Bool.not_eq_true', List.isEmpty_eq_false_iff, ne_eq, List.filter_eq_nil_iff]
  simp only [not_forall, not_not, exists_prop]

theorem mem_activeNames {task : Text} :
    task ∈ s.activeNames routine ↔ ∃ t ∈ s.tasks, t.routineId = routine ∧ t.status = .active ∧
      t.id = task := by
  simp only [activeNames, List.mem_map, List.mem_filter, Bool.and_eq_true, beq_iff_eq, and_assoc]

theorem activeNames_ne_nil_iff :
    s.activeNames routine ≠ [] ↔ ∃ t ∈ s.tasks, t.routineId = routine ∧ t.status = .active := by
  rw [activeNames, ne_eq, List.map_eq_nil_iff, List.filter_eq_nil_iff]
  simp

theorem Distinct.nodup_activeNames (distinct : s.Distinct) (routine : Text) :
    (s.activeNames routine).Nodup := by
  have names : Table.names s.tasks = s.tasks.map (·.id) := congrFun List.filterMap_eq_map s.tasks
  have nodup : (s.tasks.map (·.id)).Nodup := names ▸ distinct.tasks
  exact nodup.sublist (List.filter_sublist.map _)

/-- A completion that cannot make one more active task of the routine done: its task is done
already, or it is archived, or it belongs to another routine. -/
inductive Idle (s : Store Exact) (routine person : Text) (since now : Moment)
    (c : Completion Exact) : Prop where
  | again (done : s.isDone person since now c.taskId)
  | archived {task : Task Exact} (stored : Table.find? s.tasks (.value c.taskId) = some task)
    (archived : task.status = .archived)
  | foreign {task : Task Exact} (stored : Table.find? s.tasks (.value c.taskId) = some task)
    (other : task.routineId ≠ routine)

theorem Idle.isDone {c : Completion Exact} (idle : s.Idle routine person since now c)
    (distinct : s.Distinct) (active : c.taskId ∈ s.activeNames routine) :
    s.isDone person since now c.taskId := by
  obtain ⟨t, mem, own, status, named⟩ := mem_activeNames.1 active
  have stored : Table.find? s.tasks (.value c.taskId) = some t :=
    distinct.tasks.find? mem (congrArg Field.value named)
  cases idle with
  | again done => exact done
  | archived stored' archived =>
    obtain rfl := Option.some.inj (stored.symm.trans stored')
    rw [status] at archived
    cases archived
  | foreign stored' other =>
    obtain rfl := Option.some.inj (stored.symm.trans stored')
    exact absurd own other

/-- Idle completions may be recorded anywhere in the log. -/
theorem doneCount_of_idle (distinct : s.Distinct) {log extra : List (Completion Exact)}
    (adds : ∀ c, c ∈ log ↔ c ∈ s.completions ∨ c ∈ extra)
    (idle : ∀ c ∈ extra, s.Idle routine person since now c) :
    ({ s with completions := log } : Store Exact).doneCount routine person since now =
      s.doneCount routine person since now := by
  refine List.countP_congr fun task active => ?_
  rw [isDone_iff, isDone_iff]
  constructor
  · rintro ⟨c, mem, counted⟩
    rcases (adds c).1 mem with old | added
    · exact ⟨c, old, counted⟩
    · have own : c.taskId = task := by
        simp only [isOwn, Bool.and_eq_true, beq_iff_eq] at counted
        exact counted.1.1.1
      rw [← own] at active ⊢
      exact isDone_iff.1 ((idle c added).isDone distinct active)
  · rintro ⟨c, mem, counted⟩
    exact ⟨c, (adds c).2 (.inl mem), counted⟩

def movedBy (σ : Equiv.Perm Text) (c : Completion Exact) : Completion Exact :=
  { c with taskId := σ c.taskId }

theorem isDone_movedBy (σ : Equiv.Perm Text) (task : Text) :
    ({ s with completions := s.completions.map (movedBy σ) } : Store Exact).isDone
        person since now (σ task) =
      s.isDone person since now task := by
  rw [Bool.eq_iff_iff, isDone_iff, isDone_iff]
  simp only [List.mem_map, exists_exists_and_eq_and, movedBy, isOwn, σ.injective.beq_eq]
  rfl

/-- If the active tasks change places, as many of them are done as before. -/
theorem doneCount_movedBy (distinct : s.Distinct) (σ : Equiv.Perm Text)
    (keeps : ∀ task, σ task ∈ s.activeNames routine ↔ task ∈ s.activeNames routine) :
    ({ s with completions := s.completions.map (movedBy σ) } : Store Exact).doneCount
        routine person since now =
      s.doneCount routine person since now := by
  have nodup : (s.activeNames routine).Nodup := distinct.nodup_activeNames routine
  have perm : (s.activeNames routine).Perm ((s.activeNames routine).map σ) := by
    rw [List.perm_ext_iff_of_nodup nodup (nodup.map σ.injective)]
    intro task
    rw [List.mem_map]
    constructor
    · exact fun mem => ⟨σ.symm task, (keeps _).1 ((σ.apply_symm_apply task).symm ▸ mem),
        σ.apply_symm_apply task⟩
    · rintro ⟨task, mem, rfl⟩
      exact (keeps task).2 mem
  show (s.activeNames routine).countP _ = _
  rw [perm.countP_eq, List.countP_map]
  refine List.countP_congr fun task _ => ?_
  rw [Function.comp_apply, isDone_movedBy]

end Store

namespace Check
open Store
variable {c : Check Exact} {s : Store Exact} {comparison : Comparison} {time : TimeOfDay}
  {person : Text} {now since : Moment} {routine : Text} {tasks : List (Task Exact)}

/-- The look-ups for the tasks of a list give a log for each, which is empty just where the task was
not done. -/
theorem exists_logs_countP (s : Store Exact) (person : Text) (since now : Moment)
    (tasks : List (Task Exact)) :
    ∃ logs, (tasks.mapM fun t => s.completionsWithin (view t.id) person since now) = .ok logs ∧
      logs.countP (fun log => !log.isEmpty) =
        (tasks.map (·.id)).countP (s.isDone person since now) := by
  refine ⟨tasks.map fun t => (s.recorded t.id person since now).mergeSort fun c d => momentOf d ≤
    momentOf c, ?_, ?_⟩
  · simp only [view_exact, completionsWithin_value]
    exact List.mapM_pure
  · rw [List.countP_map, List.countP_map]
    refine List.countP_congr fun t _ => ?_
    simp only [Function.comp_apply, isDone, (List.mergeSort_perm _ _).isEmpty_eq]

/-- A check of the share counts names of tasks. -/
theorem comparePercent_eq : c.comparePercent comparison s time person now = (do
    let routine ← Store.require .routine s.routines (view c.targetRoutineId).key
    if (s.activeNames routine.id).isEmpty then return false
    let since ← routine.periodStart time now
    return comparison.ofPercents
      (percent (s.doneCount routine.id person since now) (s.activeNames routine.id).length)
      c.number) := by
  unfold comparePercent
  refine Except.bind_congr_of_ok fun routine _ => ?_
  obtain ⟨tasks, active, lists⟩ := s.exists_lists routine.id
  have listed : (tasks.map (·.id)).Perm (s.activeNames routine.id) := lists.perm.map _
  have length : tasks.length = (s.activeNames routine.id).length := by
    rw [← listed.length_eq, List.length_map]
  have empty : tasks.isEmpty = (s.activeNames routine.id).isEmpty := by
    rw [← listed.isEmpty_eq, List.isEmpty_map]
  rw [view_exact, active]
  show (if tasks.isEmpty then pure false else _) = _
  rw [empty, length]
  split
  · rfl
  refine Except.bind_congr_of_ok fun since _ => ?_
  obtain ⟨logs, found, count⟩ := exists_logs_countP s person since now tasks
  rw [found, float_operand, Store.doneCount, ← listed.countP_eq, ← count]
  rfl

variable {setting : Setting} {context : Context}

theorem evaluate_routinePercent (op : c.operator = .routinePercent comparison) :
    c.evaluate s setting person context =
      c.comparePercent comparison s setting.resetTime person (context.now setting.clock) := by
  unfold evaluate
  simp only [view_exact, op]
  cases c.comparePercent comparison s setting.resetTime person (context.now setting.clock) <;> rfl

structure RefersToRoutine (c : Check Exact) (s : Store Exact) (time : TimeOfDay) (now : Moment)
    (routine : Routine Exact) (since : Moment) : Prop where
  target : c.targetRoutineId = some routine.id
  stored : Table.find? s.routines (.value routine.id) = some routine
  started : routine.periodStart time now = .ok since

section
variable {routine : Routine Exact}

theorem require_target (target : c.targetRoutineId = some routine.id)
    (stored : Table.find? s.routines (.value routine.id) = some routine) :
    Store.require .routine s.routines (view c.targetRoutineId).key = .ok routine := by
  rw [view_exact, target, Field.key_some, require_eq_ok_iff, stored]

theorem comparePercent_of_refers (refers : c.RefersToRoutine s time now routine since)
    (some : s.activeNames routine.id ≠ []) :
    c.comparePercent comparison s time person now =
      .ok (comparison.ofPercents
        (percent (s.doneCount routine.id person since now) (s.activeNames routine.id).length)
        c.number) := by
  rw [comparePercent_eq, require_target refers.target refers.stored]
  show (if _ then pure false else _) = _
  rw [if_neg (by rwa [List.isEmpty_iff]), refers.started]
  rfl

theorem comparePercent_of_noTasks (target : c.targetRoutineId = some routine.id)
    (stored : Table.find? s.routines (.value routine.id) = some routine)
    (none : s.activeNames routine.id = []) :
    c.comparePercent comparison s time person now = .ok false := by
  rw [comparePercent_eq, require_target target stored]
  show (if _ then pure false else _) = _
  rw [if_pos (by rw [none]; rfl)]
  rfl

end

/-- Of a log, a check reads the number of the active tasks of its routine that are done. -/
theorem comparePercent_congr_log {log : List (Completion Exact)}
    (same : ∀ routine since, c.RefersToRoutine s time now routine since →
      ({ s with completions := log } : Store Exact).doneCount routine.id person since now =
        s.doneCount routine.id person since now) :
    c.comparePercent comparison { s with completions := log } time person now =
      c.comparePercent comparison s time person now := by
  rw [comparePercent_eq, comparePercent_eq]
  refine Except.bind_congr_of_ok fun routine found => ?_
  obtain ⟨name, target, stored⟩ := find?_of_require_key (named_of_routines _) found
  obtain rfl : routine.id = name := Field.value.inj (Table.mem_and_key_of_find? stored).2
  show (if (s.activeNames routine.id).isEmpty then pure false else _) =
    if (s.activeNames routine.id).isEmpty then pure false else _
  split
  · rfl
  refine Except.bind_congr_of_ok fun since started => ?_
  rw [same routine since ⟨target, stored, started⟩]
  rfl

/-- What a check of the share that is done says of a store at a moment, and what it does not depend
on. -/
structure CountsTasks (c : Check Exact) (comparison : Comparison) (s : Store Exact)
    (setting : Setting) (person : Text) (context : Context) (now : Moment) : Prop where
  answer : ∀ routine since, c.RefersToRoutine s setting.resetTime now routine since →
    s.activeNames routine.id ≠ [] →
    c.evaluate s setting person context = .ok (comparison.ofPercents
      (percent (s.doneCount routine.id person since now) (s.activeNames routine.id).length)
      c.number)
  noTasks : ∀ routine : Routine Exact, c.targetRoutineId = some routine.id →
    Table.find? s.routines (.value routine.id) = some routine → s.activeNames routine.id = [] →
      c.evaluate s setting person context = .ok false
  /-- Of the log, only the number of the tasks that are done counts. -/
  sameCount : ∀ log : List (Completion Exact),
    (∀ routine since, c.RefersToRoutine s setting.resetTime now routine since →
      ({ s with completions := log } : Store Exact).doneCount routine.id person since now =
        s.doneCount routine.id person since now) →
    c.evaluate { s with completions := log } setting person context =
      c.evaluate s setting person context
  idle : ∀ log extra : List (Completion Exact), (∀ d, d ∈ log ↔ d ∈ s.completions ∨ d ∈ extra) →
    (∀ routine since, c.RefersToRoutine s setting.resetTime now routine since →
      ∀ d ∈ extra, s.Idle routine.id person since now d) →
    c.evaluate { s with completions := log } setting person context =
      c.evaluate s setting person context
  /-- The active tasks of the routine may change places in the log. -/
  exchange : ∀ σ : Equiv.Perm Text, (∀ routine, c.targetRoutineId = some routine →
      ∀ task, σ task ∈ s.activeNames routine ↔ task ∈ s.activeNames routine) →
    c.evaluate { s with completions := s.completions.map (movedBy σ) } setting person context =
      c.evaluate s setting person context

/-- A check of the share that is done counts the active tasks of its routine that the person
completed at least once in the current period, whatever else is in the log. If the routine has no
active task, the check is not met. -/
theorem routinePercent_countsTasks (c : Check Exact) (comparison : Comparison)
    (op : c.operator = .routinePercent comparison) (s : Store Exact) (distinct : s.Distinct)
    (setting : Setting) (person : Text) (context : Context) :
    c.CountsTasks comparison s setting person context (context.now setting.clock) := by
  have sameCount (log : List (Completion Exact))
      (same : ∀ routine since,
        c.RefersToRoutine s setting.resetTime (context.now setting.clock) routine since →
        ({ s with completions := log } : Store Exact).doneCount routine.id person since
          (context.now setting.clock) =
          s.doneCount routine.id person since (context.now setting.clock)) :
      c.evaluate { s with completions := log } setting person context =
        c.evaluate s setting person context := by
    rw [evaluate_routinePercent op, evaluate_routinePercent op, comparePercent_congr_log same]
  constructor
  · intro routine since refers some
    rw [evaluate_routinePercent op, comparePercent_of_refers refers some]
  · intro routine target stored none
    rw [evaluate_routinePercent op, comparePercent_of_noTasks target stored none]
  · exact sameCount
  · intro log extra adds idle
    exact sameCount log fun routine since refers =>
      doneCount_of_idle distinct adds (idle routine since refers)
  · intro σ keeps
    exact sameCount _ fun routine since refers =>
      doneCount_movedBy distinct σ (keeps routine.id refers.target)

def half : Check Exact :=
  ⟨"1", .routinePercent .equals, false, some "50", none, none, some "R", none, none, none, []⟩

end Check

namespace Store

def halfDone : Store Exact where
  routines := [.daily]
  tasks := [⟨"A", "R", "", .simple, .active, 0, none⟩, ⟨"B", "R", "", .simple, .active, 1, none⟩,
    ⟨"C", "R", "", .simple, .archived, 2, none⟩]
  completions := [⟨"1", "A", "P", .onMinute 739684 480, none⟩]

/-- At noon half of the routine is done. It is still half of it if the same task was done again and
the archived one as well, and if the other task was done instead. -/
theorem halfDone_countsTasks :
    let setting : Setting := ⟨⟨.first, 0⟩, defaultResetTime⟩
    let noon : Context := ⟨some (.onMinute 739684 720), none⟩
    let extra : List (Completion Exact) :=
      [⟨"2", "A", "P", .onMinute 739684 600, none⟩, ⟨"3", "C", "P", .onMinute 739684 600, none⟩]
    Check.half.evaluate halfDone setting "P" noon = .ok true ∧
      Check.half.evaluate { halfDone with completions := halfDone.completions ++ extra } setting "P"
        noon = .ok true ∧
      Check.half.evaluate
        { halfDone with completions := halfDone.completions.map (movedBy (Equiv.swap "A" "B")) }
        setting "P" noon = .ok true := by
  intro setting noon extra
  have started : Routine.daily.periodStart defaultResetTime (.onMinute 739684 720) =
      .ok (.onMinute 739683 1435) := by
    decide +kernel
  have counts : Check.half.CountsTasks .equals halfDone setting "P" noon (noon.now setting.clock) :=
    Check.routinePercent_countsTasks .half .equals rfl halfDone (by decide) setting "P" noon
  have half : Check.half.evaluate halfDone setting "P" noon = .ok true := by
    rw [counts.answer .daily _ ⟨rfl, rfl, started⟩ (by decide)]
    decide +kernel
  refine ⟨half, ?_, ?_⟩
  · rw [counts.idle _ extra (fun d => List.mem_append), half]
    intro routine since refers d mem
    have stored : Table.find? halfDone.routines (.value "R") = some routine :=
      Option.some.inj refers.target ▸ refers.stored
    obtain rfl : Routine.daily = routine := Option.some.inj stored
    obtain rfl : Moment.onMinute 739683 1435 = since :=
      Except.ok.inj (started.symm.trans refers.started)
    simp only [extra, List.mem_cons, List.not_mem_nil, or_false] at mem
    rcases mem with rfl | rfl
    · exact .again (by decide +kernel)
    · have found : Table.find? halfDone.tasks (.value "C") =
          some ⟨"C", "R", "", .simple, .archived, 2, none⟩ := rfl
      exact .archived found rfl
  · rw [counts.exchange, half]
    intro routine target task
    obtain rfl : "R" = routine := Option.some.inj target
    have active : halfDone.activeNames "R" = ["A", "B"] := rfl
    rw [active]
    by_cases first : task = "A"
    · rw [first, Equiv.swap_apply_left]
      decide
    by_cases second : task = "B"
    · rw [second, Equiv.swap_apply_right]
      decide
    rw [Equiv.swap_apply_of_ne_of_ne first second]

end Store
end RoutineVisibility
