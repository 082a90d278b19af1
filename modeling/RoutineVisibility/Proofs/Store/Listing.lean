import RoutineVisibility.Proofs.Store.History
import RoutineVisibility.Proofs.Store.Log
import RoutineVisibility.Proofs.Store.Lookup

/-! Listings of tasks and completions in a store that records were added to. -/
namespace RoutineVisibility

namespace Table
variable {α : Type} [Keyed α] {id : α → Text} {added : List α}

/-- Where nothing is deleted, a name stands from its first write on. -/
theorem idxOf_of_standsFrom (named : ∀ a, Keyed.key a = .value (id a)) {name : Text} {n : Nat}
    (since : StandsFrom (added.map .write) name n) : (added.map id).idxOf name = n := by
  obtain ⟨before, a, after, rfl, ⟨length, ⟨b, same, key⟩, first⟩, -⟩ := since_map.1 since
  cases same
  rw [named, Field.value.injEq] at key
  have new : name ∉ before.map id := by
    rintro mem
    obtain ⟨c, mem, same⟩ := List.mem_map.1 mem
    obtain ⟨earlier, later, rfl⟩ := List.append_of_mem mem
    refine first ⟨earlier.map .write, .write c, later.map .write, by simp,
      ⟨c, rfl, (named c).trans ?_⟩, ?_⟩
    · rw [same]
    · intro e mem
      obtain ⟨d, -, rfl⟩ := List.mem_map.1 mem
      exact nofun
  rw [List.map_append, List.idxOf_append_of_notMem new, List.map_cons, key,
    List.idxOf_cons_self, ← length]
  simp

theorem writtenLast_map (named : ∀ a, Keyed.key a = .value (id a)) {a : α} :
    WrittenLast (added.map .write) a ↔ Since (fun _ b => b = a) (fun b => id b ≠ id a) added := by
  refine since_map.trans ?_
  simp only [Edit.write.injEq, Edit.key, named, ne_eq, Field.value.injEq]

end Table

namespace Store

/-- The active tasks of a routine, out of tasks that were added one after the other. -/
structure ListsActive (added : List (Task Exact)) (routine : Text) (tasks : List (Task Exact)) :
    Prop where
  once : (tasks.map (·.id)).Nodup
  /-- A task counts as it was added last under its id. -/
  mem : ∀ t, t ∈ tasks ↔
    Since (fun _ u => u = t) (fun u => u.id ≠ t.id) added ∧ t.routineId = routine ∧
      t.status = .active
  ascending : tasks.Pairwise fun t u => t.order ≤ u.order
  /-- Of equal order, the one comes first whose id was first added first. -/
  ties : tasks.Pairwise fun t u => t.order = u.order →
    (added.map (·.id)).idxOf t.id < (added.map (·.id)).idxOf u.id

/-- The completions of a task by a person from a moment on, out of those that were recorded one
after the other. -/
structure ListsRecorded (recorded : List (Completion Exact)) (task person : Text) (since : Moment)
    (log : List (Completion Exact)) : Prop where
  perm : log.Perm (recorded.filter fun c => c.taskId = task ∧ c.personId = person ∧
    since ≤ c.completedAt)
  latest : log.Pairwise fun c d => d.completedAt ≤ c.completedAt
  ties : ∀ m : Moment, (log.filter fun c => c.completedAt = m) =
    recorded.filter fun c => (c.taskId = task ∧ c.personId = person ∧ since ≤ c.completedAt) ∧
      c.completedAt = m

theorem reflects_adds (es : List (Entry Exact)) : (es.foldl add empty).Reflects (es.map .add) := by
  have reflects := reflects_foldl (es.map .add)
  rw [List.foldl_map] at reflects
  exact reflects

theorem tasks_reflect (es : List (Entry Exact)) :
    Table.Reflects ((es.filterMap Entry.task?).map .write) (es.foldl add empty).tasks := by
  have reflects := (reflects_adds es).tasks
  rw [List.filterMap_map] at reflects
  rw [List.map_filterMap]
  exact reflects

theorem completions_adds (es : List (Entry Exact)) :
    (es.foldl add empty).completions = es.filterMap Entry.completion? := by
  rw [(reflects_adds es).completions, List.filterMap_map]
  rfl

theorem names_tasks (tasks : List (Task Exact)) : Table.names tasks = tasks.map (·.id) :=
  congrFun List.filterMap_eq_map tasks

theorem listsActive_of_lists {s : Store Exact} {added : List (Task Exact)} {routine : Text}
    {tasks : List (Task Exact)} (reflects : Table.Reflects (added.map .write) s.tasks)
    (lists : s.Lists routine tasks) : ListsActive added routine tasks := by
  have named (t : Task Exact) : Keyed.key t = .value t.id := rfl
  have stored : (s.tasks.map (·.id)).Nodup := names_tasks s.tasks ▸ reflects.distinct
  have ordered : s.tasks.Pairwise fun t u =>
      (added.map (·.id)).idxOf t.id < (added.map (·.id)).idxOf u.id := by
    have order := reflects.order
    rw [names_tasks, List.pairwise_map] at order
    refine order.imp fun precedes => ?_
    obtain ⟨m, n, since, since', less⟩ := precedes
    rwa [Table.idxOf_of_standsFrom named since, Table.idxOf_of_standsFrom named since']
  constructor
  · exact (lists.perm.map _).nodup_iff.2 ((List.filter_sublist.map _).nodup stored)
  · intro t
    rw [lists.perm.mem_iff, List.mem_filter, reflects.mem, Table.writtenLast_map named]
    simp
  · exact lists.ascending
  · -- Two tasks of equal order come in the listing as they come in the table.
    rw [List.pairwise_iff_forall_sublist]
    intro t u sub same
    have pair : [t, u].Sublist (tasks.filter fun v => v.order == t.order) := by
      have kept := sub.filter fun v => v.order == t.order
      simpa [same] using kept
    rw [lists.ties] at pair
    exact List.pairwise_iff_forall_sublist.1 ordered
      (pair.trans (List.filter_sublist.trans List.filter_sublist))

theorem exists_listsRecorded (s : Store Exact) (task person : Text) (since : Moment) :
    ∃ log, s.completionsSince (.value task) person since = .ok log ∧
      ListsRecorded s.completions task person since log := by
  have moment (c : Completion Exact) : momentOf c = c.completedAt := rfl
  have own : ((s.completions.filter (isOwn task person)).filter fun c => since ≤ momentOf c) =
      s.completions.filter fun c => c.taskId = task ∧ c.personId = person ∧
        since ≤ c.completedAt := by
    rw [List.filter_filter]
    refine List.filter_congr fun c _ => ?_
    rw [Bool.eq_iff_iff, isOwn, moment, Bool.and_eq_true, Bool.and_eq_true, beq_iff_eq, beq_iff_eq,
      decide_eq_true_eq, decide_eq_true_eq, and_comm, and_assoc]
  refine ⟨_, completionsSince_value s task person since, ?_⟩
  rw [own]
  constructor
  · exact List.mergeSort_perm _ _
  · exact (ranking_latest.pairwise_mergeSort _).imp of_decide_eq_true
  · intro m
    rw [ranking_latest.filter_mergeSort_of_ties, List.filter_filter]
    · refine List.filter_congr fun c _ => ?_
      rw [Bool.and_comm, ← Bool.decide_and]
    · intro c d atM atM'
      rw [decide_eq_true_eq] at atM atM' ⊢
      rw [moment, moment, atM, atM']
      exact Nat.le_refl _

/-- After any records were added, each listing holds what was added, as often and in the order as it
is due. -/
theorem lists_of_adds (es : List (Entry Exact)) (routine task person : Text) (since : Moment) :
    (∃ tasks, (es.foldl add empty).activeTasks (.value routine) = .ok tasks ∧
      ListsActive (es.filterMap Entry.task?) routine tasks) ∧
    ∃ log, (es.foldl add empty).completionsSince (.value task) person since = .ok log ∧
      ListsRecorded (es.filterMap Entry.completion?) task person since log := by
  constructor
  · obtain ⟨tasks, active, lists⟩ := exists_lists (es.foldl add empty) routine
    exact ⟨tasks, active, listsActive_of_lists (tasks_reflect es) lists⟩
  · rw [← completions_adds]
    exact exists_listsRecorded _ task person since

end Store
end RoutineVisibility
