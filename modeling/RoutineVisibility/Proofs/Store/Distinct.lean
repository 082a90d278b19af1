import RoutineVisibility.Store.Dataset
import RoutineVisibility.Proofs.Store.Table

/-! Stores without a name that occurs twice in a table. -/
namespace RoutineVisibility.Store
variable {F : Type → Type} [Holding F]

structure Distinct (s : Store F) : Prop where
  persons : Table.Distinct s.persons
  routines : Table.Distinct s.routines
  tasks : Table.Distinct s.tasks
  goals : Table.Distinct s.goals
  conditions : Table.Distinct s.conditions

variable {s : Store F}

theorem distinct_iff : s.Distinct ↔
    Table.Distinct s.persons ∧ Table.Distinct s.routines ∧ Table.Distinct s.tasks ∧
      Table.Distinct s.goals ∧
      Table.Distinct s.conditions :=
  ⟨fun ⟨p, r, t, g, c⟩ => ⟨p, r, t, g, c⟩, fun ⟨p, r, t, g, c⟩ => ⟨p, r, t, g, c⟩⟩

instance : Decidable s.Distinct := decidable_of_iff' _ distinct_iff

theorem distinct_empty : (empty : Store F).Distinct :=
  ⟨List.nodup_nil, List.nodup_nil, List.nodup_nil, List.nodup_nil, List.nodup_nil⟩

theorem Distinct.add (distinct : s.Distinct) (e : Entry F) : (s.add e).Distinct := by
  cases e with
  | person p => exact { distinct with persons := distinct.persons.insert p }
  | routine r => exact { distinct with routines := distinct.routines.insert r }
  | task t => exact { distinct with tasks := distinct.tasks.insert t }
  | completion c => exact { distinct with }
  | goal g => exact { distinct with goals := distinct.goals.insert g }
  | condition c => exact { distinct with conditions := distinct.conditions.insert c }

theorem Distinct.eraseCondition (distinct : s.Distinct) (k : Field Text) :
    (s.eraseCondition k).Distinct :=
  { distinct with conditions := distinct.conditions.erase k }

theorem Distinct.addWhileAccepted (distinct : s.Distinct)
    (es : List (Except LoadFault (Entry Exact))) : (s.addWhileAccepted es).1.Distinct := by
  induction es generalizing s with
  | nil => exact distinct
  | cons e es ih =>
    cases e with
    | ok e => exact ih (distinct.add e.held)
    | error f => exact distinct

/-- Also a data set that was not added to its end keeps the names distinct. -/
theorem Distinct.load (distinct : s.Distinct) (localOffset : Int) (data : Json) :
    (s.load localOffset data).1.Distinct :=
  distinct.addWhileAccepted _

theorem distinct_of_ofText {depth : Nat} {localOffset : Int} {text : String}
    (h : ofText depth localOffset text = .ok s) : s.Distinct := by
  unfold ofText at h
  split at h
  · cases h
  · next data _ =>
    have distinct := (distinct_empty (F := F)).load localOffset data
    unfold ofData at h
    split at h
    · next t loaded =>
      cases h
      rwa [loaded] at distinct
    · cases h

end RoutineVisibility.Store
