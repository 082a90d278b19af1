import Mathlib.Logic.Relation
import RoutineVisibility.Controls.Dependents
import RoutineVisibility.Proofs.Evaluation.Outside

/-! Conditions outside the dependents of a routine are evaluated alike whatever happens to it. -/
namespace RoutineVisibility.Store
open Relation

/-- A change of a routine: of its record, of a task that stays with it, or by a completion of a task
of it. -/
inductive ChangesRoutine (routine : Text) (s : Store Exact) : Store Exact → Prop where
  | record {r : Routine Exact} (own : r.id = routine) :
    ChangesRoutine routine s (s.add (.routine r))
  | task {old new : Task Exact} (stored : Table.find? s.tasks (.value new.id) = some old)
    (own : old.routineId = routine) (stays : new.routineId = routine) :
    ChangesRoutine routine s (s.add (.task new))
  | completion {task : Task Exact} {c : Completion Exact}
    (stored : Table.find? s.tasks (.value c.taskId) = some task) (own : task.routineId = routine) :
    ChangesRoutine routine s (s.add (.completion c))

variable {s t : Store Exact} {routine : Text}

theorem agreeOutside_of_changesRoutine (change : s.ChangesRoutine routine t) :
    s.AgreeOutside routine t := by
  cases change with
  | @record r own =>
    refine { AgreeOutside.refl s routine with routines := fun name other => ?_ }
    refine Table.find?_insert_of_ne (fun same => other ?_) s.routines
    exact (Field.value.inj same).symm.trans own
  | @task old new stored own stays =>
    obtain ⟨before, after, split, replaced⟩ := Table.insert_of_find? (a := new) rfl stored
    rw [split] at replaced
    have alike : old.id = new.id := Field.value.inj (Table.mem_and_key_of_find? stored).2
    have taskNames : (s.add (.task new)).taskNames routine = s.taskNames routine := by
      unfold Store.taskNames Store.tasksOf add
      simp only [split, replaced, List.filter_append, List.map_append]
      simp [own, stays, alike]
    refine { AgreeOutside.refl s routine with
      taskNames, tasks := fun name foreign => ?_, tasksOf := fun other ne => ?_ }
    · refine Table.find?_insert_of_ne (fun same => foreign ?_) s.tasks
      exact Field.value.inj same ▸ mem_taskNames_of_find? stored own
    · unfold Store.tasksOf add
      simp only [split, replaced, List.filter_append]
      simp [own, stays, ne.symm]
  | @completion task c stored own =>
    refine { AgreeOutside.refl s routine with completions := fun name foreign person => ?_ }
    have other : c.taskId ≠ name := by
      rintro rfl
      exact foreign (mem_taskNames_of_find? stored own)
    have skipped : isOwn name person c = false := by simp [isOwn, other]
    show (s.completions ++ [c]).filter (isOwn name person) = _
    rw [List.filter_append, List.filter_cons_of_neg (by rw [skipped]; decide), List.filter_nil,
      List.append_nil]

theorem agreeOutside_of_changes (changed : ReflTransGen (ChangesRoutine routine) s t) :
    s.AgreeOutside routine t := by
  induction changed with
  | refl => exact .refl s routine
  | tail _ change agree => exact agree.trans (agreeOutside_of_changesRoutine change)

theorem refersTo_of_notMem {c : Condition Exact} (stored : c ∈ s.conditions)
    (unlisted : c ∉ s.conditionsReferringTo (.value routine)) :
    ∀ check ∈ c.checks, refersTo (.value routine) (s.tasksOf (.value routine)) check = false := by
  intro check mem
  rw [← Bool.not_eq_true]
  exact fun refers => unlisted (List.mem_filter.2 ⟨stored, List.any_eq_true.2 ⟨check, mem, refers⟩⟩)

/-- The dependents of a routine miss nothing: changes of the routine, as many as there are, leave
alone the evaluations of the conditions that they do not list, and the other routines that they do
not list are shown as before. -/
theorem answers_of_changes (s t : Store Exact) (routine : Text) (distinct : s.Distinct)
    (changed : ReflTransGen (ChangesRoutine routine) s t) (setting : Setting) (person : Text)
    (context : Context) :
    (∀ c ∈ s.conditions, c.id ∉ (s.dependents routine).conditionIds →
      c.evaluate t setting person context = c.evaluate s setting person context ∧
        t.evaluateCondition setting (.value c.id) person context =
          s.evaluateCondition setting (.value c.id) person context) ∧
    ∀ other ≠ routine, other ∉ (s.dependents routine).routineIds →
      t.isRoutineVisible setting other person context =
        s.isRoutineVisible setting other person context := by
  have agree := agreeOutside_of_changes changed
  constructor
  · intro c stored unlisted
    have foreign :=
      refersTo_of_notMem stored fun listed => unlisted (List.mem_filterMap.2 ⟨c, listed, rfl⟩)
    exact ⟨agree.evaluate_eq distinct foreign, agree.evaluateCondition_eq distinct stored foreign⟩
  · intro other ne unlisted
    refine agree.isRoutineVisible_eq distinct ne fun c mem => ?_
    obtain ⟨stored, owned⟩ := List.mem_filter.1 mem
    have owner : c.routineId = other := by simpa using (Bool.and_eq_true_iff.1 owned).1
    refine refersTo_of_notMem stored fun listed => unlisted (List.mem_eraseDups.2 ?_)
    exact List.mem_filterMap.2 ⟨c, listed, congrArg some owner⟩

def household : Store Exact where
  persons := [⟨"P", ""⟩]
  routines := [⟨"R", "", .regular, .active, .daily, none⟩,
    ⟨"S", "", .regular, .active, .daily, none⟩, ⟨"Q", "", .smart, .active, .daily, none⟩]
  tasks := [⟨"T", "R", "", .simple, .active, 0, none⟩, ⟨"U", "S", "", .simple, .active, 0, none⟩]
  conditions :=
    [⟨"q", "Q", true, .and,
      [⟨"1", .taskCompleted, false, none, none, some "U", none, none, none, none, []⟩,
        ⟨"2", .routinePercent .greater, false, some "50", none, none, some "S", none, none, none,
          []⟩]⟩,
      ⟨"s", "S", false, .or,
        [⟨"1", .taskCompleted, false, none, none, some "T", none, none, none, none, []⟩]⟩]

def reorganized : Store Exact :=
  ((household.add (.routine ⟨"R", "", .regular, .active, .weekly, some 3⟩)).add
    (.task ⟨"T", "R", "", .simple, .archived, 0, none⟩)).add
      (.completion ⟨"1", "T", "P", .first, none⟩)

/-- All that happened to R is the same to Q. -/
theorem household_answers_of_changes :
    (household.dependents "R").conditionIds = ["s"] ∧
    (household.dependents "R").routineIds = ["S"] ∧
      reorganized.evaluateCondition ⟨⟨.first, 0⟩, defaultResetTime⟩ (.value "q") "P"
        ⟨some .first, none⟩ =
        household.evaluateCondition ⟨⟨.first, 0⟩, defaultResetTime⟩ (.value "q") "P"
          ⟨some .first, none⟩ ∧
      reorganized.isRoutineVisible ⟨⟨.first, 0⟩, defaultResetTime⟩ "Q" "P" ⟨some .first, none⟩ =
        household.isRoutineVisible ⟨⟨.first, 0⟩, defaultResetTime⟩ "Q" "P" ⟨some .first, none⟩ := by
  have conditions : (household.dependents "R").conditionIds = ["s"] := by decide +kernel
  have routines : (household.dependents "R").routineIds = ["S"] := by decide +kernel
  have changed : ReflTransGen (ChangesRoutine "R") household reorganized :=
    .tail (.tail (.single (.record rfl)) (.task rfl rfl rfl)) (.completion rfl rfl)
  obtain ⟨evaluations, visible⟩ :=
    answers_of_changes household reorganized "R" (by decide +kernel) changed
      ⟨⟨.first, 0⟩, defaultResetTime⟩ "P" ⟨some .first, none⟩
  refine ⟨conditions, routines, ?_, ?_⟩
  · exact (evaluations _ List.mem_cons_self (by rw [conditions]; decide)).2
  · exact visible "Q" (by decide) (by rw [routines]; decide)

end RoutineVisibility.Store
