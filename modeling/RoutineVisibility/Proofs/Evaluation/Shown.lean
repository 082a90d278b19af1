import RoutineVisibility.Evaluation.Visibility
import RoutineVisibility.Proofs.Evaluation.Breakdown
import RoutineVisibility.Proofs.Store.Distinct
import RoutineVisibility.Proofs.Store.Lookup

/-! What is shown, in terms of the evaluations of conditions. -/
namespace RoutineVisibility

namespace Condition
variable (c : Condition Exact) (s : Store Exact) (setting : Setting) (person : Text)
  (context : Context)

def evaluation : Evaluation :=
  .ofOutcomes c.id (some c.logic)
    (c.checks.map fun check => check.entry s setting person (context.frozen setting.clock))

def met : Bool :=
  (c.evaluation s setting person context).result

theorem evaluate_eq_evaluation :
    c.evaluate s setting person context = .ok (c.evaluation s setting person context) :=
  evaluate_eq_ofOutcomes

end Condition

namespace Store

variable {s : Store Exact} {setting : Setting} {person : Text} {context : Context}

theorem evaluateCondition_value (known : Table.has s.persons (.value person)) (name : Text) :
    s.evaluateCondition setting (.value name) person context =
      match Table.find? s.conditions (.value name) with
      | some c => .ok (c.evaluation s setting person context)
      | none => .error (.notFound .condition name) := by
  unfold evaluateCondition
  rw [require_value, requirePerson_of_has known]
  cases Table.find? s.conditions (.value name) with
  | some c => exact c.evaluate_eq_evaluation s setting person context
  | none => rfl

theorem showsTask_of_smart (known : Table.has s.persons (.value person)) {t : Task Exact}
    {name : Text} (smart : t.type = .smart) (named : t.conditionId = some name) :
    s.showsTask setting t person context =
      match Table.find? s.conditions (.value name) with
      | some c => .ok (c.met s setting person context)
      | none => .error (.notFound .condition name) := by
  have shown : s.showsTask setting t person context =
      (s.evaluateCondition setting (.value name) person context).map (·.result) := by
    unfold showsTask
    rw [view_exact, view_exact, smart, named]
    rfl
  rw [shown, evaluateCondition_value known]
  cases Table.find? s.conditions (.value name) <;> rfl

theorem showsTask_of_plain {t : Task Exact} (plain : t.type ≠ .smart ∨ t.conditionId = none) :
    s.showsTask setting t person context = .ok true := by
  unfold showsTask
  rw [view_exact, view_exact, Field.isValue_value]
  rcases plain with other | free
  · have : (TaskType.smart == t.type) = false := beq_eq_false_iff_ne.2 (Ne.symm other)
    rw [this]
  · rw [free]
    cases TaskType.smart == t.type <;> rfl

/-- A task is shown or hidden, unless it is smart and its condition is not in the store. -/
theorem showsTask_eq_error_iff (known : Table.has s.persons (.value person)) {t : Task Exact}
    {f : Fault} :
    s.showsTask setting t person context = .error f ↔
      t.type = .smart ∧ ∃ name, t.conditionId = some name ∧ ¬ Table.has s.conditions (.value name) ∧
        f = .notFound .condition name := by
  by_cases plain : t.type ≠ .smart ∨ t.conditionId = none
  · rw [showsTask_of_plain plain]
    constructor
    · rintro ⟨⟩
    · rintro ⟨smart, name, named, -⟩
      rcases plain with other | free
      · exact absurd smart other
      · exact absurd (free.symm.trans named) (by simp)
  · obtain ⟨smart, bound⟩ := not_or.1 plain
    obtain ⟨name, named⟩ := Option.ne_none_iff_exists'.1 bound
    rw [Decidable.not_not] at smart
    rw [showsTask_of_smart known smart named]
    have same {other : Text} (named' : t.conditionId = some other) : name = other :=
      Option.some.inj (named.symm.trans named')
    cases found : Table.find? s.conditions (.value name) with
    | some c =>
      have stored : Table.has s.conditions (.value name) := Option.isSome_iff_exists.2 ⟨c, found⟩
      constructor
      · rintro ⟨⟩
      · rintro ⟨-, other, named', missing, -⟩
        exact absurd (same named' ▸ stored) missing
    | none =>
      have missing : ¬ Table.has s.conditions (.value name) := by simp [Table.has, found]
      constructor
      · rintro ⟨⟩
        exact ⟨smart, name, named, missing, rfl⟩
      · rintro ⟨-, other, named', -, rfl⟩
        rw [same named']

/-- A routine is always shown or hidden: hidden if and only if it is smart and one of its conditions
is not met. -/
theorem showsRoutine_eq (distinct : s.Distinct) (known : Table.has s.persons (.value person))
    (r : Routine Exact) :
    s.showsRoutine setting r person context =
      .ok (r.type != .smart || (s.routineConditions (.value r.id) (some true)).all fun c =>
        c.met s setting person context) := by
  unfold showsRoutine
  rw [view_exact, view_exact, Field.isValue_value]
  have evaluations : ((s.routineConditions (.value r.id) (some true)).mapM fun c =>
      s.evaluateCondition setting (view c.id) person context) =
      .ok ((s.routineConditions (.value r.id) (some true)).map fun c =>
        c.evaluation s setting person context) := by
    rw [Except.mapM_congr (g := fun c => pure (c.evaluation s setting person context)),
      List.mapM_pure]
    · rfl
    · intro c mem
      have stored : Table.find? s.conditions (.value c.id) = some c :=
        distinct.conditions.find? (mem_routineConditions.1 mem).1 rfl
      rw [view_exact, evaluateCondition_value known, stored]
      rfl
  rw [evaluations]
  by_cases smart : r.type = .smart
  · rw [smart]
    show Except.ok (List.all (List.map _ _) _) = _
    rw [List.all_map]
    rfl
  · have other : (RoutineType.smart == r.type) = false := beq_eq_false_iff_ne.2 (Ne.symm smart)
    have shown : (r.type != .smart) = true := bne_iff_ne.2 smart
    rw [other, shown, Bool.true_or]
    rfl

/-- There is an answer for each routine of the store. -/
theorem isRoutineVisible_eq (distinct : s.Distinct) (known : Table.has s.persons (.value person))
    (routine : Text) :
    s.isRoutineVisible setting routine person context =
      match Table.find? s.routines (.value routine) with
      | some r =>
        .ok (r.type != .smart || (s.routineConditions (.value routine) (some true)).all fun c =>
          c.met s setting person context)
      | none => .error (.notFound .routine routine) := by
  unfold isRoutineVisible
  rw [require_value, requirePerson_of_has known]
  cases found : Table.find? s.routines (.value routine) with
  | some r =>
    obtain rfl : r.id = routine := Field.value.inj (Table.mem_and_key_of_find? found).2
    exact showsRoutine_eq distinct known r
  | none => rfl

theorem isRoutineVisible_eq_error_iff (distinct : s.Distinct)
    (known : Table.has s.persons (.value person)) {routine : Text} {f : Fault} :
    s.isRoutineVisible setting routine person context = .error f ↔
      ¬ Table.has s.routines (.value routine) ∧ f = .notFound .routine routine := by
  rw [isRoutineVisible_eq distinct known, Table.has]
  cases Table.find? s.routines (.value routine) with
  | some r => simp
  | none => simp [eq_comm]

end Store
end RoutineVisibility
