import RoutineVisibility.Proofs.Evaluation.Shown

/-! Questions about many tasks or routines agree with the single questions at that moment. -/
namespace RoutineVisibility.Store
variable {s : Store Exact} {setting : Setting} {person : Text} {context : Context}

theorem isTaskVisible_of_find? (known : Table.has s.persons (.value person)) {t : Task Exact}
    (stored : Table.find? s.tasks (.value t.id) = some t) :
    s.isTaskVisible setting t.id person context = s.showsTask setting t person context := by
  unfold isTaskVisible
  rw [require_value, stored, requirePerson_of_has known]
  rfl

theorem visibleTasks_of_activeTasks (known : Table.has s.persons (.value person)) {routine : Text}
    (stored : Table.has s.routines (.value routine)) {tasks : List (Task Exact)}
    (active : s.activeTasks (.value routine) = .ok tasks) :
    s.visibleTasks setting routine person context =
      tasks.filterM fun t => s.showsTask setting t person (context.frozen setting.clock) := by
  obtain ⟨r, found⟩ := Option.isSome_iff_exists.1 stored
  unfold visibleTasks
  rw [require_value, found, requirePerson_of_has known, active]
  rfl

/-- Both batches agree with the single questions. A task of a routine has no answer if and only if
it is smart and its condition is not in the store, and a routine has none if and only if it is not
there itself. -/
theorem filtered_visible (s : Store Exact) (distinct : s.Distinct) (setting : Setting)
    (person : Text) (known : Table.has s.persons (.value person)) (context : Context) :
    (∀ routine, Table.has s.routines (.value routine) → ∃ tasks, s.Lists routine tasks ∧
      Except.Filtered (fun t => s.isTaskVisible setting t.id person (context.frozen setting.clock))
        tasks (s.visibleTasks setting routine person context) ∧
      ∀ t ∈ tasks, ∀ f,
        s.isTaskVisible setting t.id person (context.frozen setting.clock) = .error f ↔
          t.type = .smart ∧ ∃ name, t.conditionId = some name ∧
            ¬ Table.has s.conditions (.value name) ∧ f = .notFound .condition name) ∧
    ∀ routines,
      Except.Filtered (fun r => s.isRoutineVisible setting r person (context.frozen setting.clock))
        routines (s.visibleRoutines setting routines person context) ∧
      ∀ r ∈ routines, ∀ f,
        s.isRoutineVisible setting r person (context.frozen setting.clock) = .error f ↔
          ¬ Table.has s.routines (.value r) ∧ f = .notFound .routine r := by
  constructor
  · intro routine stored
    obtain ⟨tasks, active, lists⟩ := s.exists_lists routine
    have single : ∀ t ∈ tasks, s.isTaskVisible setting t.id person (context.frozen setting.clock) =
        s.showsTask setting t person (context.frozen setting.clock) := by
      intro t mem
      have listed : t ∈ s.tasks := (mem_tasksOf.1 (mem_of_activeTasks active mem)).1
      exact isTaskVisible_of_find? known (distinct.tasks.find? listed rfl)
    refine ⟨tasks, lists, ?_, fun t mem f => ?_⟩
    · rw [visibleTasks_of_activeTasks known stored active, ← Except.filterM_congr single]
      exact Except.filtered_filterM _ _
    · rw [single t mem]
      exact showsTask_eq_error_iff known
  · intro routines
    exact ⟨Except.filtered_filterM _ _, fun r _ f => isRoutineVisible_eq_error_iff distinct known⟩

/-- A routine with a plain task, a smart one that is shown on Sundays, and an archived one; another
routine that has a task of its own and a smart one whose condition is missing. -/
def chores : Store Exact where
  persons := [⟨"P", ""⟩]
  routines := [⟨"R", "", .regular, .active, .daily, none⟩, ⟨"S", "", .smart, .active, .daily, none⟩]
  tasks := [⟨"T", "R", "", .simple, .active, 2, none⟩, ⟨"U", "R", "", .smart, .active, 1, some "c"⟩,
    ⟨"V", "R", "", .simple, .archived, 0, none⟩, ⟨"W", "R", "", .progress, .active, 1, some "x"⟩,
    ⟨"X", "S", "", .simple, .active, 0, none⟩, ⟨"Y", "S", "", .smart, .active, 0, some "x"⟩]
  conditions :=
    [⟨"c", "S", true, .and,
      [⟨"1", .dayOfWeek, false, none, none, none, none, none, none, none, [0]⟩]⟩]

theorem activeTasks_chores : chores.activeTasks (.value "R") =
    .ok [chores.tasks[1], chores.tasks[3], chores.tasks[0]] := by
  rw [activeTasks_eq]
  show Except.ok ([chores.tasks[0], chores.tasks[1], chores.tasks[3]].mergeSort
    fun t u => decide (t.order ≤ u.order)) = _
  simp [List.mergeSort, chores]

theorem activeTasks_chores_other :
    chores.activeTasks (.value "S") = .ok [chores.tasks[4], chores.tasks[5]] := by
  rw [activeTasks_eq]
  show Except.ok ([chores.tasks[4], chores.tasks[5]].mergeSort
    fun t u => decide (t.order ≤ u.order)) = _
  simp [List.mergeSort, chores]

/-- On a Sunday the tasks of the first routine come in their order, and the other routine fails. -/
theorem chores_filtered_visible :
    let setting : Setting := ⟨⟨.first, 0⟩, defaultResetTime⟩
    let sunday : Context := ⟨some .first, some 0⟩
    (∃ tasks, chores.Lists "R" tasks ∧
      Except.Filtered (fun t => chores.isTaskVisible setting t.id "P" sunday) tasks
        (chores.visibleTasks setting "R" "P" sunday)) ∧
      (chores.visibleTasks setting "R" "P" sunday).map (·.map (·.id)) = .ok ["U", "W", "T"] ∧
      (chores.visibleTasks setting "S" "P" sunday).map (·.map (·.id)) =
        .error (.notFound .condition "x") ∧
      chores.visibleRoutines setting ["S", "Q", "R", "Z"] "P" sunday =
        .error (.notFound .routine "Q") := by
  intro setting sunday
  obtain ⟨tasks, routines⟩ :=
    filtered_visible chores (by decide +kernel) setting "P" (by decide) sunday
  have missing : chores.isRoutineVisible setting "Q" "P" sunday = .error (.notFound .routine "Q") :=
    ((routines ["Q"]).2 "Q" List.mem_cons_self _).2 ⟨by decide, rfl⟩
  have shown : ∃ b, chores.isRoutineVisible setting "S" "P" sunday = .ok b :=
    ⟨true, by decide +kernel⟩
  refine ⟨?_, ?_, ?_, ?_⟩
  · obtain ⟨tasks, lists, filtered, -⟩ := tasks "R" (by decide)
    exact ⟨tasks, lists, filtered⟩
  · rw [visibleTasks_of_activeTasks (by decide) (by decide) activeTasks_chores]
    decide +kernel
  · rw [visibleTasks_of_activeTasks (by decide) (by decide) activeTasks_chores_other]
    decide +kernel
  · exact (routines ["S", "Q", "R", "Z"]).1.failed ["S"] "Q" ["R",
      "Z"] _ rfl (List.forall_mem_singleton.2 shown) missing

end RoutineVisibility.Store
