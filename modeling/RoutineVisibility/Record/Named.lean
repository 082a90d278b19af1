import RoutineVisibility.Text.Basic

/-! Types with finitely many members that are written by their names. -/
namespace RoutineVisibility

class Named (α : Type) where
  all : List α
  name : α → String

def Named.ofName? {α : Type} [Named α] (s : Text) : Option α :=
  (Named.all : List α).find? fun a => (Named.name a : Text) == s

end RoutineVisibility
