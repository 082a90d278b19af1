import RoutineVisibility.Store.Basic

/-! The controls graph of routines, and the search for the cycle that a new dependency would
close. -/
namespace RoutineVisibility

structure Search where
  /-- Routines that were not reached yet. -/
  fresh : List Text
  /-- Reached routines, each with the one it was reached from, the newest first. -/
  links : List (Text × Text)
  /-- Reached routines that wait to be looked at, the newest first. -/
  stack : List Text
deriving DecidableEq, Repr

namespace Search

/-- Reaches a routine from another one, unless it was reached before. -/
def reach (source : Text) (st : Search) (next : Text) : Search :=
  if next ∈ st.fresh then ⟨st.fresh.filter (· ≠ next), (next, source) :: st.links, next :: st.stack⟩
  else st

def reachAll (source : Text) (st : Search) (next : List Text) : Search :=
  next.foldl (reach source) st

/-- A search comes to its end when this does. -/
def size (st : Search) : Nat :=
  st.fresh.length + st.stack.length

theorem size_reach_le (source : Text) (st : Search) (next : Text) :
    (reach source st next).size ≤ st.size := by
  unfold reach size
  split
  · next h =>
    have : (st.fresh.filter (· ≠ next)).length < st.fresh.length :=
      List.length_filter_lt_length_iff_exists.2 ⟨next, h, by simp⟩
    simp only [List.length_cons]
    omega
  · exact Nat.le_refl _

theorem size_reachAll_le (source : Text) (st : Search) (next : List Text) :
    (reachAll source st next).size ≤ st.size := by
  induction next generalizing st with
  | nil => exact Nat.le_refl _
  | cons n next ih => exact Nat.le_trans (ih _) (size_reach_le source st n)

/-- Looks at waiting routines until the goal comes up; gives the state in which it does. -/
def run (edges : Text → List Text) (goal : Text) (st : Search) : Option Search :=
  match _h : st.stack with
  | [] => none
  | r :: rest =>
    if r = goal then some st else run edges goal (reachAll r { st with stack := rest } (edges r))
termination_by st.size
decreasing_by
  have := size_reachAll_le r { st with stack := rest } (edges r)
  simp only [size, _h, List.length_cons] at this ⊢
  omega

/-- The way from a routine back to the start of the search. -/
def trail : List (Text × Text) → Text → List Text
  | [], r => [r]
  | (child, parent) :: older, r => if child = r then r :: trail older parent else trail older r

end Search

namespace Store
variable {F : Type → Type} [Holding F]

/-- The routines that a routine depends on. -/
def controlTargets (s : Store F) (routine : Text) : List Text :=
  (s.routineConditions (.value routine) (some true)).flatMap (·.routineTargets)

def allControlTargets (s : Store F) : List Text :=
  (s.conditions.filter fun c => (view c.controlsRoutine).isBool true).flatMap (·.routineTargets)

/-- The start of a search: all but the first routine are fresh. -/
def searchFrom (s : Store F) (start : Text) : Search :=
  ⟨s.allControlTargets.eraseDups.filter (· ≠ start), [], [start]⟩

/-- The cycle that a dependency of the source on the target would close, from the source to the
source. -/
def cyclePath? (s : Store F) (source target : Text) : Option (List Text) :=
  (Search.run s.controlTargets source (s.searchFrom target)).map fun st =>
    source :: (Search.trail st.links source).reverse

def wouldCloseCycle (s : Store F) (source target : Text) : Bool :=
  (s.cyclePath? source target).isSome

/-- The name of a routine, or its id if it has none. -/
def displayName (s : Store F) (routine : Text) : Text :=
  match (Table.find? s.routines (.value routine)).bind fun r => (view r.name).value? with
  | some name => if name.isEmpty then routine else name
  | none => routine

def describePath (s : Store F) (path : List Text) : Text :=
  Text.intercalate " → " (path.map s.displayName)

end Store
end RoutineVisibility
