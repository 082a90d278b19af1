import RoutineVisibility.Evaluation.Condition
import RoutineVisibility.Proofs.Store.Ranking
import RoutineVisibility.Proofs.Store.Table

/-! What look-ups in a store give. -/
namespace RoutineVisibility.Store
variable {F : Type → Type} [Holding F]

theorem require_value {α : Type} [Keyed α] (kind : Kind) (table : List α) (name : Text) :
    require kind table (.value name) =
      match Table.find? table (.value name) with
      | some a => .ok a
      | none => .error (.notFound kind name) := by
  show (match Table.find? table (.value name) with
    | some a => pure a
    | none => throw (Fault.notFound kind name)) = _
  cases Table.find? table (.value name) <;> rfl

theorem require_eq_ok_iff {α : Type} [Keyed α] {kind : Kind} {table : List α} {name : Text}
    {a : α} :
    require kind table (.value name) = .ok a ↔ Table.find? table (.value name) = some a := by
  rw [require_value]
  cases Table.find? table (.value name) <;> simp

theorem require_eq_error_iff {α : Type} [Keyed α] {kind : Kind} {table : List α} {name : Text}
    {f : Fault} :
    require kind table (.value name) = .error f ↔ ¬ Table.has table (.value name) ∧
      f = .notFound kind name := by
  rw [require_value, Table.has]
  cases Table.find? table (.value name) with
  | none => simp [eq_comm]
  | some a => simp

theorem find?_of_require {α : Type} [Keyed α] {kind : Kind} {table : List α} {k : Field Text}
    {a : α} (h : require kind table k = .ok a) : Table.find? table k = some a := by
  unfold require lookup? at h
  cases key : k.checkKey with
  | error f => rw [key] at h; cases h
  | ok =>
    rw [key] at h
    cases found : Table.find? table k with
    | none => rw [found] at h; cases h
    | some b => rw [found] at h; cases h; rfl

theorem requirePerson_of_has {s : Store F} {person : Text}
    (known : Table.has s.persons (.value person)) : s.requirePerson person = .ok () := by
  obtain ⟨p, found⟩ := Option.isSome_iff_exists.1 known
  unfold requirePerson
  rw [require_value, found]
  rfl

theorem evaluateCondition_of_find? {s : Store F} {condition person : Text} {c : Condition F}
    (found : Table.find? s.conditions (.value condition) = some c)
    (known : Table.has s.persons (.value person)) (setting : Setting) (context : Context) :
    s.evaluateCondition setting (.value condition) person context =
      c.evaluate s setting person context := by
  unfold evaluateCondition
  rw [require_value, found, requirePerson_of_has known]
  rfl

theorem require_congr {α : Type} [Keyed α] {kind : Kind} {table table' : List α} {k : Field Text}
    (same : Table.find? table' k = Table.find? table k) :
    require kind table' k = require kind table k := by
  unfold require lookup?
  rw [same]

/-- In a table of checked records, a reference that is null finds nothing. -/
theorem find?_key {α : Type} [Keyed α] {table : List α}
    (named : ∀ a ∈ table, ∃ name, Keyed.key a = .value name) (reference : Option Text) :
    Table.find? table (Field.key (.value reference)) = reference.bind fun name =>
      Table.find? table (.value name) := by
  cases reference with
  | some name => rfl
  | none =>
    refine List.find?_eq_none.2 fun a mem => ?_
    obtain ⟨name, key⟩ := named a mem
    rw [key]
    exact Bool.false_ne_true

/-- What a reference in a checked record leads to is what it names. -/
theorem find?_of_require_key {α : Type} [Keyed α] {kind : Kind} {table : List α}
    (named : ∀ a ∈ table, ∃ name, Keyed.key a = .value name) {reference : Option Text} {a : α}
    (h : require kind table (Field.key (.value reference)) = .ok a) :
    ∃ name, reference = some name ∧ Table.find? table (.value name) = some a := by
  have found := find?_of_require h
  rw [find?_key named] at found
  exact Option.bind_eq_some_iff.1 found

theorem require_key_congr {α : Type} [Keyed α] {kind : Kind} {table table' : List α}
    (named : ∀ a ∈ table, ∃ name, Keyed.key a = .value name)
    (named' : ∀ a ∈ table', ∃ name, Keyed.key a = .value name) {reference : Option Text}
    (same : ∀ name, reference = some name →
      Table.find? table' (.value name) = Table.find? table (.value name)) :
    require kind table' (Field.key (.value reference)) =
      require kind table (Field.key (.value reference)) := by
  refine require_congr ?_
  rw [find?_key named, find?_key named']
  exact Option.bind_congr same

/-- Without a condition, the others of a routine stay. -/
theorem routineConditions_eraseCondition {s : Store F} {k routine : Field Text}
    {controls : Option Bool}
    (apart : ∀ c ∈ s.routineConditions routine controls, ¬ (view c.id).sameKey k) :
    (s.eraseCondition k).routineConditions routine controls =
      s.routineConditions routine controls := by
  unfold routineConditions eraseCondition Table.erase at *
  rw [List.filter_comm, List.filter_eq_self]
  intro c mem
  have other : (view c.id).sameKey k = false := Bool.eq_false_iff.2 (apart c mem)
  show (!(view c.id).sameKey k) = true
  rw [other]
  rfl

variable {s : Store Exact}

theorem mem_tasksOf {routine : Text} {task : Task Exact} :
    task ∈ s.tasksOf (.value routine) ↔ task ∈ s.tasks ∧ task.routineId = routine := by
  simp [tasksOf]

theorem mem_routineConditions {c : Condition Exact} {routine : Text} :
    c ∈ s.routineConditions (.value routine) (some true) ↔
      c ∈ s.conditions ∧ c.routineId = routine ∧ c.controlsRoutine = true := by
  unfold routineConditions
  rw [List.mem_filter]
  simp

theorem activeTasks_eq (s : Store Exact) (routine : Field Text) :
    s.activeTasks routine =
      .ok (((s.tasksOf routine).filter fun t => (view t.status).isValue .active).mergeSort
      fun t u => orderOf t ≤ orderOf u) := by
  unfold activeTasks
  exact if_pos (List.all_eq_true.2 fun _ _ => rfl)

theorem mem_of_activeTasks {routine : Field Text} {tasks : List (Task Exact)} {task : Task Exact}
    (active : s.activeTasks routine = .ok tasks) (mem : task ∈ tasks) :
    task ∈ s.tasksOf routine := by
  rw [activeTasks_eq] at active
  cases active
  exact (List.mem_filter.1 (List.mem_mergeSort.1 mem)).1

theorem ranking_order : Ranking fun t u : Task Exact => decide (orderOf t ≤ orderOf u) where
  trans a b c hab hbc := by
    rw [decide_eq_true_eq] at *
    exact Int.le_trans hab hbc
  total a b := by
    rw [Bool.or_eq_true, decide_eq_true_eq, decide_eq_true_eq]
    exact Int.le_total _ _

/-- All active tasks of a routine in ascending order, and those of one order as they are stored. -/
structure Lists (s : Store Exact) (routine : Text) (tasks : List (Task Exact)) : Prop where
  perm : tasks.Perm (s.tasks.filter fun t => t.routineId == routine && t.status == .active)
  ascending : tasks.Pairwise fun t u => t.order ≤ u.order
  ties : ∀ n, (tasks.filter fun t => t.order == n) =
    (s.tasks.filter fun t => t.routineId == routine && t.status == .active).filter fun t =>
      t.order == n

theorem exists_lists (s : Store Exact) (routine : Text) :
    ∃ tasks, s.activeTasks (.value routine) = .ok tasks ∧ s.Lists routine tasks := by
  have active : ((s.tasksOf (.value routine)).filter fun t => (view t.status).isValue .active) =
      s.tasks.filter fun t => t.routineId == routine && t.status == .active := by
    unfold tasksOf
    rw [List.filter_filter]
    refine List.filter_congr fun t _ => ?_
    rw [view_exact, view_exact, Field.sameKey_value, Field.isValue_value, Bool.and_comm]
    cases t.status <;> rfl
  refine ⟨_, activeTasks_eq s (.value routine), ?_⟩
  rw [active]
  constructor
  · exact List.mergeSort_perm _ _
  · exact (ranking_order.pairwise_mergeSort _).imp of_decide_eq_true
  · intro n
    refine ranking_order.filter_mergeSort_of_ties (fun t u ht hu => decide_eq_true ?_) _
    exact Int.le_of_eq ((eq_of_beq ht).trans (eq_of_beq hu).symm)

end RoutineVisibility.Store
