import RoutineVisibility.Record.Field

/-! Tables: records in the order in which their names were first written. -/
namespace RoutineVisibility

/-- Records that are stored under a name of their own. -/
class Keyed (α : Type) where
  key : α → Field Text

namespace Table
variable {α : Type} [Keyed α]

def find? (t : List α) (k : Field Text) : Option α :=
  List.find? (fun a => (Keyed.key a).sameKey k) t

def insert (a : α) : List α → List α
  | [] => [a]
  | b :: t => if (Keyed.key b).sameKey (Keyed.key a) then a :: t else b :: insert a t

def erase (k : Field Text) (t : List α) : List α :=
  t.filter fun a => !(Keyed.key a).sameKey k

def has (t : List α) (k : Field Text) : Bool :=
  (find? t k).isSome

end Table
end RoutineVisibility
