import Mathlib.Data.List.Forall2
import RoutineVisibility.Evaluation.Condition
import RoutineVisibility.Proofs.Calendar.LocalTime
import RoutineVisibility.Proofs.Record.Fields
import RoutineVisibility.Store.Dataset

/-! Evaluations do not depend on how an instant is written. -/
namespace RoutineVisibility
open Moment

namespace Json

/-- The same value, or objects whose members of one name are related while all others are the
same. -/
inductive InMember (name : Text) (related : Json → Json → Prop) : Json → Json → Prop where
  | same (v : Json) : InMember name related v v
  | member {o o' : List (Text × Json)} {v w : Json}
    (others : ∀ other, other ≠ name → findMember? o' other = findMember? o other)
    (first : findMember? o name = some v) (second : findMember? o' name = some w)
    (alike : related v w) :
    InMember name related (.obj o) (.obj o')

/-- Two objects that differ in their last member only. -/
theorem InMember.last {name : Text} {related : Json → Json → Prop} {o : List (Text × Json)}
    {v w : Json} (new : findMember? o name = none) (alike : related v w) :
    InMember name related (.obj (o ++ [(name, v)])) (.obj (o ++ [(name, w)])) := by
  have first (x : Json) : findMember? (o ++ [(name, x)]) name = some x := by
    rw [findMember?, Option.map_eq_none_iff] at new
    simp [findMember?, List.find?_append, new]
  refine .member (fun other differs => ?_) (first v) (first w) alike
  have differs : (name == other) = false := by simpa using differs.symm
  simp [findMember?, List.find?_append, differs]

end Json
open Json

variable {localOffset n : Int} {v w : Json} {m : Moment}

namespace Coerce

end Coerce

namespace Dataset

end Dataset

namespace Store
variable {F : Type → Type} [Holding F]

end Store

def Dataset.completedAt (moment : Text) : Json :=
  .obj [("completions",
    .arr [.obj [("id", .str "1"), ("task_id", .str "T"), ("person_id", .str "P"),
      ("completed_at", .str moment)]])]

namespace Store

end Store
end RoutineVisibility
