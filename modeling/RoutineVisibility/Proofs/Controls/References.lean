import RoutineVisibility.Proofs.Controls.Dependents
import RoutineVisibility.Proofs.Controls.Graph

/-! The dependents of a routine are what a plain reading of all checks finds. -/
namespace RoutineVisibility

section
variable {α : Type} [BEq α]

/-- The members of a list, each once, in the order in which they first occur. -/
structure FirstOccurrences (l firsts : List α) : Prop where
  mem_iff : ∀ a, a ∈ firsts ↔ a ∈ l
  ordered : firsts.Pairwise fun a b => l.idxOf a < l.idxOf b

theorem FirstOccurrences.nodup {l firsts : List α} (occurrences : FirstOccurrences l firsts) :
    firsts.Nodup :=
  occurrences.ordered.imp fun {a b} before same => by
    rw [same] at before
    exact Nat.lt_irrefl _ before

variable [LawfulBEq α]

/-- What comes first in a filtered list comes first in the list. -/
theorem idxOf_lt_of_filter {p : α → Bool} {a b : α} (keepsA : p a) (keepsB : p b) {l : List α}
    (before : (l.filter p).idxOf a < (l.filter p).idxOf b) : l.idxOf a < l.idxOf b := by
  induction l with
  | nil => simp at before
  | cons x l ih =>
    by_cases isA : x = a
    · subst isA
      rw [List.filter_cons_of_pos keepsA] at before
      have apart : x ≠ b := by
        rintro rfl
        exact Nat.lt_irrefl _ before
      rw [List.idxOf_cons_self, List.idxOf_cons_ne _ apart]
      exact Nat.succ_pos _
    by_cases isB : x = b
    · subst isB
      rw [List.filter_cons_of_pos keepsB, List.idxOf_cons_self] at before
      exact absurd before (Nat.not_lt_zero _)
    rw [List.idxOf_cons_ne _ isA, List.idxOf_cons_ne _ isB]
    refine Nat.succ_lt_succ (ih ?_)
    by_cases kept : p x
    · rw [List.filter_cons_of_pos kept, List.idxOf_cons_ne _ isA,
        List.idxOf_cons_ne _ isB] at before
      exact Nat.lt_of_succ_lt_succ before
    · rwa [List.filter_cons_of_neg kept] at before

theorem firstOccurrences_eraseDups (l : List α) : FirstOccurrences l l.eraseDups := by
  refine ⟨fun a => List.mem_eraseDups, ?_⟩
  cases l with
  | nil => exact List.Pairwise.nil
  | cons x l =>
    rw [List.eraseDups_cons]
    have rest := firstOccurrences_eraseDups (l.filter fun a => !a == x)
    have other (a : α) (mem : a ∈ (l.filter fun a => !a == x).eraseDups) : x ≠ a := by
      have kept := (List.mem_filter.1 ((rest.mem_iff a).1 mem)).2
      rintro rfl
      simp at kept
    constructor
    · intro a mem
      rw [List.idxOf_cons_self, List.idxOf_cons_ne _ (other a mem)]
      exact Nat.succ_pos _
    · refine rest.ordered.imp_of_mem fun {a b} memA memB before => ?_
      rw [List.idxOf_cons_ne _ (other a memA), List.idxOf_cons_ne _ (other b memB)]
      refine Nat.succ_lt_succ (idxOf_lt_of_filter ?_ ?_ before)
      · simpa using (other a memA).symm
      · simpa using (other b memB).symm
termination_by l.length
decreasing_by exact Nat.lt_succ_of_le (List.length_filter_le _ _)

end

/-- A check of the condition targets the routine, or a stored task of it. -/
def Condition.RefersTo (c : Condition Exact) (s : Store Exact) (routine : Text) : Prop :=
  ∃ check ∈ c.checks, check.targetRoutineId = some routine ∨
    ∃ task ∈ s.tasks, task.routineId = routine ∧ check.targetTaskId = some task.id

instance (c : Condition Exact) (s : Store Exact) (routine : Text) :
    Decidable (c.RefersTo s routine) :=
  inferInstanceAs (Decidable (∃ check ∈ c.checks, check.targetRoutineId = some routine ∨
    ∃ task ∈ s.tasks, task.routineId = routine ∧ check.targetTaskId = some task.id))

def Store.referring (s : Store Exact) (routine : Text) : List (Condition Exact) :=
  s.conditions.filter fun c => c.RefersTo s routine

/-- All that refers to a routine, and nothing else. -/
structure Dependents.AreOf (d : Dependents) (s : Store Exact) (routine : Text) : Prop where
  routineId : d.routineId = routine
  conditionIds : d.conditionIds = (s.referring routine).map (·.id)
  conditionIds_nodup : d.conditionIds.Nodup
  routineIds : FirstOccurrences ((s.referring routine).map (·.routineId)) d.routineIds
  controllers : ∀ other, s.Controls other routine → other ∈ d.routineIds
  taskIds_nodup : d.taskIds.Nodup
  mem_taskIds : ∀ name, name ∈ d.taskIds ↔ ∃ task ∈ s.tasks, task.id = name ∧
    task.routineId = routine ∧
    ∃ c ∈ s.conditions, ∃ check ∈ c.checks, check.targetTaskId = some name

namespace Store
variable {s : Store Exact} {routine : Text}

theorem mem_referring {c : Condition Exact} :
    c ∈ s.referring routine ↔ c ∈ s.conditions ∧ c.RefersTo s routine := by
  rw [referring, List.mem_filter, decide_eq_true_eq]

theorem refersTo_eq_true_iff {check : Check Exact} :
    refersTo (.value routine) (s.tasksOf (.value routine)) check ↔
      check.targetRoutineId = some routine ∨
        ∃ task ∈ s.tasks, task.routineId = routine ∧ check.targetTaskId = some task.id := by
  have named (name : Text) :
      name ∈ s.taskNames routine ↔ ∃ task ∈ s.tasks, task.routineId = routine ∧ task.id = name := by
    simp only [taskNames, List.mem_map, mem_tasksOf, and_assoc]
  rw [← not_iff_not, Bool.not_eq_true, refersTo_eq_false_iff, not_or]
  refine and_congr_right fun _ => ?_
  simp only [named]
  constructor
  · rintro foreign ⟨task, mem, own, target⟩
    exact foreign task.id target ⟨task, mem, own, rfl⟩
  · rintro none name target ⟨task, mem, own, rfl⟩
    exact none ⟨task, mem, own, target⟩

theorem conditionsReferringTo_eq (s : Store Exact) (routine : Text) :
    s.conditionsReferringTo (.value routine) = s.referring routine := by
  unfold conditionsReferringTo referring
  refine List.filter_congr fun c _ => ?_
  rw [Bool.eq_iff_iff, List.any_eq_true, decide_eq_true_eq, Condition.RefersTo]
  simp only [refersTo_eq_true_iff]

/-- The look-up of what a check names finds a task of the routine just when the store lists one of
that name. -/
theorem ownTask?_eq_some_iff (distinct : s.Distinct) {check : Check Exact} {name : Text} :
    s.ownTask? routine check = some name ↔
      check.targetTaskId = some name ∧ ∃ task ∈ s.tasks, task.id = name ∧
        task.routineId = routine := by
  cases target : check.targetTaskId with
  | none => simp [ownTask?, target, Field.value?]
  | some named =>
    have found : s.ownTask? routine check = some name ↔
        ∃ task, Table.find? s.tasks (.value named) = some task ∧ task.routineId = routine ∧
          task.id = name := by
      simp [ownTask?, target, Field.value?, Option.bind_eq_some_iff]
    rw [found]
    constructor
    · rintro ⟨task, stored, own, rfl⟩
      obtain ⟨mem, key⟩ := Table.mem_and_key_of_find? stored
      exact ⟨congrArg some (Field.value.inj key).symm, task, mem, rfl, own⟩
    · rintro ⟨same, task, mem, rfl, own⟩
      obtain rfl : named = task.id := Option.some.inj same
      exact ⟨task, distinct.tasks.find? mem rfl, own, rfl⟩

theorem Controls.exists_referring {other : Text} (controls : s.Controls other routine) :
    ∃ c ∈ s.referring routine, c.routineId = other := by
  obtain ⟨c, stored, owner, -, check, mem, target⟩ := controls
  exact ⟨c, mem_referring.2 ⟨stored, check, mem, .inl (Field.value.inj target)⟩,
    Field.value.inj owner⟩

/-- The dependents of a routine are exactly what refers to it. -/
theorem dependents_areOf (s : Store Exact) (routine : Text) (distinct : s.Distinct) :
    (s.dependents routine).AreOf s routine := by
  have conditionIds : (s.dependents routine).conditionIds = (s.referring routine).map (·.id) := by
    show (s.conditionsReferringTo (.value routine)).filterMap (fun c => some c.id) = _
    rw [conditionsReferringTo_eq, ← List.filterMap_eq_map]
    rfl
  have routineIds : (s.dependents routine).routineIds =
      ((s.referring routine).map (·.routineId)).eraseDups := by
    show ((s.conditionsReferringTo (.value routine)).filterMap
        (fun c => some c.routineId)).eraseDups = _
    rw [conditionsReferringTo_eq, ← List.filterMap_eq_map]
    rfl
  have owners := firstOccurrences_eraseDups ((s.referring routine).map (·.routineId))
  have tasks := firstOccurrences_eraseDups
    (((s.conditionsReferringTo (.value routine)).flatMap (·.checks)).filterMap (s.ownTask? routine))
  refine ⟨rfl, conditionIds, ?_, routineIds ▸ owners, ?_, tasks.nodup, fun name => ?_⟩
  · have kept : (s.conditionsReferringTo (.value routine)).Sublist s.conditions :=
      List.filter_sublist
    exact distinct.conditions.sublist (kept.filterMap _)
  · intro other controls
    obtain ⟨c, mem, owner⟩ := controls.exists_referring
    rw [routineIds, owners.mem_iff]
    exact List.mem_map.2 ⟨c, mem, owner⟩
  · refine (tasks.mem_iff name).trans ?_
    rw [conditionsReferringTo_eq]
    simp only [List.mem_filterMap, List.mem_flatMap, mem_referring, ownTask?_eq_some_iff distinct]
    constructor
    · rintro ⟨check, ⟨c, ⟨stored, -⟩, mem⟩, target, task, listed, named, own⟩
      exact ⟨task, listed, named, own, c, stored, check, mem, target⟩
    · rintro ⟨task, listed, rfl, own, c, stored, check, mem, target⟩
      have refers : c.RefersTo s routine := ⟨check, mem, .inr ⟨task, listed, own, target⟩⟩
      exact ⟨check, ⟨c, ⟨stored, refers⟩, mem⟩, target, task, listed, rfl, own⟩

def crossing : Store Exact where
  routines := [⟨"R", "", .regular, .active, .daily, none⟩, ⟨"A", "", .smart, .active, .daily, none⟩,
    ⟨"B", "", .regular, .active, .daily, none⟩]
  tasks := [⟨"T", "R", "", .simple, .active, 0, none⟩, ⟨"U", "B", "", .simple, .active, 0, none⟩,
    ⟨"V", "R", "", .simple, .archived, 0, none⟩, ⟨"W", "R", "", .simple, .active, 0, none⟩]
  conditions :=
    [⟨"1", "A", true, .and,
      [⟨"1", .routinePercent .less, false, some "9", none, none, some "R", none, none, none, []⟩,
        ⟨"2", .taskCompleted, false, none, none, some "V", none, none, none, none, []⟩]⟩,
      ⟨"2", "R", false, .or,
        [⟨"1", .taskCompleted, false, none, none, some "U", none, none, none, none, []⟩]⟩,
      ⟨"3", "B", false, .and,
        [⟨"1", .taskCompleted, true, none, none, some "T", none, none, none, none, []⟩,
          ⟨"2", .taskCompleted, false, none, none, some "U", none, none, none, none, []⟩]⟩,
      ⟨"4", "A", true, .or,
        [⟨"1", .taskCompleted, false, none, none, some "V", none, none, none, none, []⟩,
          ⟨"2", .taskCompleted, true, none, none, some "T", none, none, none, none, []⟩]⟩]

theorem crossing_dependents :
    crossing.Distinct ∧ (crossing.dependents "R").AreOf crossing "R" ∧
      crossing.dependents "R" = ⟨"R", ["A", "B"], ["1", "3", "4"], ["V", "T"]⟩ := by
  have distinct : crossing.Distinct := by decide +kernel
  exact ⟨distinct, dependents_areOf crossing "R" distinct, by decide +kernel⟩

end Store
end RoutineVisibility
