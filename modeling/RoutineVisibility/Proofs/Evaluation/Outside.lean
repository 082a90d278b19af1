import RoutineVisibility.Proofs.Evaluation.Congruence
import RoutineVisibility.Proofs.Store.Distinct
import RoutineVisibility.Proofs.Store.Log
import RoutineVisibility.Proofs.Store.Lookup

/-! Evaluations that refer to nothing of a routine do not depend on it. -/
namespace RoutineVisibility.Store

def taskNames (s : Store Exact) (routine : Text) : List Text :=
  (s.tasksOf (.value routine)).map (·.id)

/-- The stores agree but for the record of a routine, the records of its tasks, and the completions
of these. -/
structure AgreeOutside (routine : Text) (s t : Store Exact) : Prop where
  persons : t.persons = s.persons
  goals : t.goals = s.goals
  conditions : t.conditions = s.conditions
  routines : ∀ name ≠ routine, Table.find? t.routines (.value name) =
    Table.find? s.routines (.value name)
  taskNames : t.taskNames routine = s.taskNames routine
  tasks : ∀ name ∉ s.taskNames routine, Table.find? t.tasks (.value name) =
    Table.find? s.tasks (.value name)
  tasksOf : ∀ other ≠ routine, t.tasksOf (.value other) = s.tasksOf (.value other)
  completions : ∀ task ∉ s.taskNames routine, ∀ person,
    t.completions.filter (isOwn task person) = s.completions.filter (isOwn task person)

variable {s t u : Store Exact} {routine : Text}

theorem AgreeOutside.refl (s : Store Exact) (routine : Text) : s.AgreeOutside routine s :=
  ⟨rfl, rfl, rfl, fun _ _ => rfl, rfl, fun _ _ => rfl, fun _ _ => rfl, fun _ _ _ => rfl⟩

theorem AgreeOutside.trans (first : s.AgreeOutside routine t) (second : t.AgreeOutside routine u) :
    s.AgreeOutside routine u where
  persons := second.persons.trans first.persons
  goals := second.goals.trans first.goals
  conditions := second.conditions.trans first.conditions
  routines name other := (second.routines name other).trans (first.routines name other)
  taskNames := second.taskNames.trans first.taskNames
  tasks name foreign :=
    (second.tasks name (first.taskNames ▸ foreign)).trans (first.tasks name foreign)
  tasksOf other ne := (second.tasksOf other ne).trans (first.tasksOf other ne)
  completions task foreign person :=
    (second.completions task (first.taskNames ▸ foreign) person).trans
      (first.completions task foreign person)

theorem mem_taskNames_of_find? {name : Text} {task : Task Exact}
    (stored : Table.find? s.tasks (.value name) = some task) (own : task.routineId = routine) :
    name ∈ s.taskNames routine := by
  obtain ⟨mem, named⟩ := Table.mem_and_key_of_find? stored
  exact List.mem_map.2 ⟨task, mem_tasksOf.2 ⟨mem, own⟩, Field.value.inj named⟩

theorem named_of_tasks (tasks : List (Task Exact)) :
    ∀ t ∈ tasks, ∃ name, Keyed.key t = .value name :=
  fun t _ => ⟨t.id, rfl⟩

theorem named_of_routines (routines : List (Routine Exact)) :
    ∀ r ∈ routines, ∃ name, Keyed.key r = .value name :=
  fun r _ => ⟨r.id, rfl⟩

theorem refersTo_eq_false_iff {check : Check Exact} :
    refersTo (.value routine) (s.tasksOf (.value routine)) check = false ↔
      check.targetRoutineId ≠ some routine ∧ ∀ name, check.targetTaskId = some name →
        name ∉ s.taskNames routine := by
  have routines : (Field.key (view check.targetRoutineId)).sameKey (.value routine) ↔
      check.targetRoutineId = some routine := by
    cases target : check.targetRoutineId <;> simp [Field.key, Field.sameKey]
  have tasks : (s.tasksOf (.value routine)).any
      (fun t => (view t.id).sameKey (Field.key (view check.targetTaskId))) ↔
      ∃ name, check.targetTaskId = some name ∧ name ∈ s.taskNames routine := by
    cases target : check.targetTaskId <;> simp [Field.key, Field.sameKey, taskNames]
  unfold refersTo
  rw [Bool.or_eq_false_iff, ← Bool.not_eq_true, ← Bool.not_eq_true, routines, tasks]
  simp

namespace AgreeOutside
variable {person : Text} {since now : Moment} {time : TimeOfDay} {check : Check Exact}

theorem completionsWithin_eq (agree : s.AgreeOutside routine t) {task : Text}
    (foreign : task ∉ s.taskNames routine) :
    t.completionsWithin (.value task) person since now =
      s.completionsWithin (.value task) person since now := by
  unfold Store.completionsWithin
  rw [completionsSince_value, completionsSince_value, agree.completions task foreign person]

theorem taskCompletions_eq (agree : s.AgreeOutside routine t)
    (foreign : ∀ name, check.targetTaskId = some name → name ∉ s.taskNames routine) :
    check.taskCompletions t time person now = check.taskCompletions s time person now := by
  unfold Check.taskCompletions
  simp only [view_exact, require_key_congr (named_of_tasks s.tasks) (named_of_tasks t.tasks)
    fun name target => agree.tasks name (foreign name target)]
  refine Except.bind_congr_of_ok fun task found => ?_
  obtain ⟨name, target, stored⟩ := find?_of_require_key (named_of_tasks _) found
  obtain rfl : task.id = name := Field.value.inj (Table.mem_and_key_of_find? stored).2
  have apart : task.id ∉ s.taskNames routine := foreign task.id target
  have other : task.routineId ≠ routine := fun own => apart (mem_taskNames_of_find? stored own)
  rw [require_congr (agree.routines task.routineId other)]
  refine Except.bind_congr_of_ok fun r _ => Except.bind_congr_of_ok fun since _ => ?_
  exact agree.completionsWithin_eq apart

/-- No task of another routine shares its name with a task of this one. -/
theorem notMem_taskNames (distinct : s.Distinct) {other : Text} (ne : other ≠ routine)
    {task : Task Exact} (mem : task ∈ s.tasksOf (.value other)) :
    task.id ∉ s.taskNames routine := by
  intro own
  obtain ⟨task', own', named⟩ := List.mem_map.1 own
  obtain ⟨mem', owner'⟩ := mem_tasksOf.1 own'
  obtain ⟨mem, owner⟩ := mem_tasksOf.1 mem
  obtain rfl : task' = task := distinct.tasks.eq mem' mem rfl (congrArg Field.value named.symm)
  exact ne (owner.symm.trans owner')

theorem comparePercent_eq (agree : s.AgreeOutside routine t) (distinct : s.Distinct)
    (foreign : check.targetRoutineId ≠ some routine) (comparison : Comparison) :
    check.comparePercent comparison t time person now =
      check.comparePercent comparison s time person now := by
  have apart (name : Text) (target : check.targetRoutineId = some name) : name ≠ routine := by
    rintro rfl
    exact foreign target
  unfold Check.comparePercent
  simp only [view_exact,
    require_key_congr (named_of_routines s.routines) (named_of_routines t.routines)
      fun name target => agree.routines name (apart name target)]
  refine Except.bind_congr_of_ok fun r found => ?_
  obtain ⟨name, target, stored⟩ := find?_of_require_key (named_of_routines _) found
  obtain rfl : r.id = name := Field.value.inj (Table.mem_and_key_of_find? stored).2
  have other : r.id ≠ routine := apart r.id target
  have active : t.activeTasks (.value r.id) = s.activeTasks (.value r.id) := by
    rw [activeTasks_eq, activeTasks_eq, agree.tasksOf r.id other]
  rw [active]
  refine Except.bind_congr_of_ok fun tasks listed => ?_
  have logs (since : Moment) :
      (tasks.mapM fun task => t.completionsWithin (.value task.id) person since now) =
      tasks.mapM fun task => s.completionsWithin (.value task.id) person since now :=
    Except.mapM_congr fun task mem =>
      agree.completionsWithin_eq (notMem_taskNames distinct other (mem_of_activeTasks listed mem))
  simp only [logs]

variable {setting : Setting} {context : Context}

theorem evaluate_check_eq (agree : s.AgreeOutside routine t) (distinct : s.Distinct)
    (foreign : refersTo (.value routine) (s.tasksOf (.value routine)) check = false) :
    check.evaluate t setting person context = check.evaluate s setting person context := by
  obtain ⟨routines, tasks⟩ := refersTo_eq_false_iff.1 foreign
  unfold Check.evaluate Check.goalProgress
  simp only [agree.taskCompletions_eq tasks, agree.comparePercent_eq distinct routines, agree.goals]

/-- A condition that refers neither to the routine nor to a task of it is evaluated as before. -/
theorem evaluate_eq (agree : s.AgreeOutside routine t) (distinct : s.Distinct) {c : Condition Exact}
    (foreign : ∀ check ∈ c.checks,
      refersTo (.value routine) (s.tasksOf (.value routine)) check = false) :
    c.evaluate t setting person context = c.evaluate s setting person context :=
  Condition.evaluate_congr fun check mem => agree.evaluate_check_eq distinct (foreign check mem)

theorem evaluateCondition_eq (agree : s.AgreeOutside routine t) (distinct : s.Distinct)
    {c : Condition Exact} (stored : c ∈ s.conditions)
    (foreign : ∀ check ∈ c.checks,
      refersTo (.value routine) (s.tasksOf (.value routine)) check = false) :
    t.evaluateCondition setting (.value c.id) person context =
      s.evaluateCondition setting (.value c.id) person context := by
  refine evaluateCondition_congr (congrArg (Table.find? · _) agree.conditions) agree.persons
    fun d found => ?_
  obtain rfl : c = d := Option.some.inj ((distinct.conditions.find? stored rfl).symm.trans found)
  exact agree.evaluate_eq distinct foreign

theorem isRoutineVisible_eq (agree : s.AgreeOutside routine t) (distinct : s.Distinct)
    {other : Text} (ne : other ≠ routine)
    (foreign : ∀ c ∈ s.routineConditions (.value other) (some true), ∀ check ∈ c.checks,
      refersTo (.value routine) (s.tasksOf (.value routine)) check = false) :
    t.isRoutineVisible setting other person context =
      s.isRoutineVisible setting other person context := by
  have conditions : t.routineConditions = s.routineConditions := by
    unfold routineConditions
    rw [agree.conditions]
  refine isRoutineVisible_congr (agree.routines other ne) agree.persons (by rw [conditions])
    fun c mem => ?_
  exact agree.evaluateCondition_eq distinct (mem_routineConditions.1 mem).1 (foreign c mem)

end AgreeOutside
end RoutineVisibility.Store
