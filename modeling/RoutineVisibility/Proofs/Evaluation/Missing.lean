import RoutineVisibility.Proofs.Evaluation.Shown

/-! In a checked store a question fails only because a record is not there. -/
namespace RoutineVisibility
variable {α β : Type}

def OnlyMisses (x : Except Fault α) : Prop :=
  ∀ f, x = .error f → ∃ kind name, f = .notFound kind name

namespace OnlyMisses
variable {x : Except Fault α}

theorem ok (a : α) : OnlyMisses (.ok a) :=
  nofun

theorem bind {next : α → Except Fault β} (first : OnlyMisses x) (rest : ∀ a, OnlyMisses (next a)) :
    OnlyMisses (x >>= next) := by
  cases x with
  | error e => exact fun f failed => first f (by cases failed; rfl)
  | ok a => exact rest a

theorem map (first : OnlyMisses x) (g : α → β) : OnlyMisses (x.map g) := by
  cases x with
  | error e => exact fun f failed => first f (by cases failed; rfl)
  | ok a => exact .ok (g a)

theorem mapM {ask : α → Except Fault β} {l : List α} (each : ∀ a ∈ l, OnlyMisses (ask a)) :
    OnlyMisses (l.mapM ask) := by
  induction l with
  | nil => exact .ok []
  | cons a l ih =>
    rw [List.mapM_cons]
    obtain ⟨first, later⟩ := List.forall_mem_cons.1 each
    exact first.bind fun b => (ih later).bind fun bs => .ok (b :: bs)

theorem filterM {ask : α → Except Fault Bool} {l : List α} (each : ∀ a ∈ l, OnlyMisses (ask a)) :
    OnlyMisses (l.filterM ask) := by
  rcases Except.exists_first_error ask l with answers | ⟨before, a, after, e, rfl, answers, failed⟩
  · rw [Except.filterM_of_ok answers]
    exact .ok _
  · rw [Except.filterM_of_error answers failed]
    rintro f ⟨⟩
    exact each a (by simp) e failed

end OnlyMisses

namespace Store
variable {s : Store Exact} (setting : Setting) (person : Text) (context : Context)

theorem onlyMisses_require [Keyed α] (kind : Kind) (table : List α) (name : Text) :
    OnlyMisses (require kind table (.value name)) := by
  rw [require_value]
  cases Table.find? table (.value name) with
  | some a => exact .ok a
  | none =>
    rintro f ⟨⟩
    exact ⟨kind, name, rfl⟩

theorem onlyMisses_requirePerson : OnlyMisses (s.requirePerson person) :=
  (onlyMisses_require .person s.persons person).bind fun _ => .ok ()

theorem onlyMisses_evaluateCondition (condition : Text) :
    OnlyMisses (s.evaluateCondition setting (.value condition) person context) := by
  refine (onlyMisses_require .condition s.conditions condition).bind fun c => ?_
  refine (onlyMisses_requirePerson person).bind fun _ => ?_
  rw [c.evaluate_eq_evaluation s setting person context]
  exact .ok _

theorem onlyMisses_showsTask (t : Task Exact) :
    OnlyMisses (s.showsTask setting t person context) := by
  by_cases plain : t.type ≠ .smart ∨ t.conditionId = none
  · rw [showsTask_of_plain plain]
    exact .ok true
  · obtain ⟨smart, bound⟩ := not_or.1 plain
    obtain ⟨name, named⟩ := Option.ne_none_iff_exists'.1 bound
    have shown : s.showsTask setting t person context =
        (s.evaluateCondition setting (.value name) person context).map (·.result) := by
      unfold showsTask
      rw [view_exact, view_exact, Decidable.not_not.1 smart, named]
      rfl
    rw [shown]
    exact (onlyMisses_evaluateCondition setting person context name).map _

theorem onlyMisses_showsRoutine (r : Routine Exact) :
    OnlyMisses (s.showsRoutine setting r person context) := by
  unfold showsRoutine
  split
  · refine OnlyMisses.bind ?_ fun evaluations => .ok _
    exact .mapM fun c _ => onlyMisses_evaluateCondition setting person context c.id
  · exact .ok true

theorem onlyMisses_isTaskVisible (task : Text) :
    OnlyMisses (s.isTaskVisible setting task person context) :=
  (onlyMisses_require .task s.tasks task).bind fun t =>
    (onlyMisses_requirePerson person).bind fun _ => onlyMisses_showsTask setting person context t

theorem onlyMisses_isRoutineVisible (routine : Text) :
    OnlyMisses (s.isRoutineVisible setting routine person context) :=
  (onlyMisses_require .routine s.routines routine).bind fun r =>
    (onlyMisses_requirePerson person).bind fun _ => onlyMisses_showsRoutine setting person context r

theorem onlyMisses_visibleTasks (routine : Text) :
    OnlyMisses (s.visibleTasks setting routine person context) := by
  refine (onlyMisses_require .routine s.routines routine).bind fun _ => ?_
  refine (onlyMisses_requirePerson person).bind fun _ => ?_
  rw [activeTasks_eq]
  exact .filterM fun t _ => onlyMisses_showsTask setting person _ t

end Store
end RoutineVisibility
