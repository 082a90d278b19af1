import RoutineVisibility.Evaluation.Check
import RoutineVisibility.Proofs.Store.Ranking

/-! The log of completions: what a look-up of a checked store finds, and in which order. -/
namespace RoutineVisibility.Store

def isOwn (task person : Text) (c : Completion Exact) : Bool :=
  c.taskId == task && c.personId == person

def recorded (s : Store Exact) (task person : Text) (since now : Moment) :
    List (Completion Exact) :=
  s.completions.filter fun c => isOwn task person c && decide (since ≤ momentOf c) &&
    decide (momentOf c ≤ now)

variable (s : Store Exact) (task person : Text) (since now : Moment)

theorem completionsSince_value :
    s.completionsSince (.value task) person since =
      .ok (((s.completions.filter (isOwn task person)).filter fun c => since ≤ momentOf c).mergeSort
        fun c d => momentOf d ≤ momentOf c) := by
  have all (log : List (Completion Exact)) :
      log.find? (fun c => (view c.completedAt).value?.isNone) = none := by
    rw [List.find?_eq_none]
    intro c _
    simp [Field.value?]
  unfold completionsSince
  simp only [all]
  rfl

theorem ranking_latest :
    Ranking fun c d : Completion Exact => decide (momentOf d ≤ momentOf c) where
  trans a b c hab hbc := by
    rw [decide_eq_true_eq] at *
    exact Nat.le_trans hbc hab
  total a b := by
    rw [Bool.or_eq_true, decide_eq_true_eq, decide_eq_true_eq]
    exact Nat.le_total _ _

/-- A look-up finds what was recorded in the span, the latest first. -/
theorem completionsWithin_value :
    s.completionsWithin (.value task) person since now =
      .ok ((s.recorded task person since now).mergeSort fun c d => momentOf d ≤ momentOf c) := by
  have own :
      (((s.completions.filter (isOwn task person)).filter
          fun c => since ≤ momentOf c).filter fun c =>
      momentOf c ≤ now) = s.recorded task person since now := by
    rw [List.filter_filter, List.filter_filter]
    refine List.filter_congr fun c _ => ?_
    rw [Bool.and_comm, Bool.and_comm (decide (momentOf c ≤ now)), Bool.and_assoc]
  unfold completionsWithin
  rw [completionsSince_value, ← own]
  exact congrArg Except.ok (ranking_latest.filter_mergeSort _ _)

/-- A look-up finds each recorded completion of the span once. -/
theorem completionsWithin_perm :
    ∃ log, s.completionsWithin (.value task) person since now = .ok log ∧
      log.Perm (s.recorded task person since now) :=
  ⟨_, completionsWithin_value s task person since now, List.mergeSort_perm _ _⟩

end RoutineVisibility.Store
