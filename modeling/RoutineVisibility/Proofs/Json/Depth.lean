import RoutineVisibility.Json.Reader

/-! The depth that JSON text is read to matters for texts that nest deeper only. -/
namespace RoutineVisibility.Json
variable {depth deeper : Nat} {stack : List Frame} {p : Nat} {t : Token}

theorem beginValue_of_le (le : depth ≤ deeper)
    (shallow : beginValue depth stack p t ≠ .error .tooDeep) :
    beginValue deeper stack p t = beginValue depth stack p t := by
  have within (opened : stack.length < depth) : stack.length < deeper := by omega
  cases t with
  | openArray =>
    by_cases opened : stack.length < depth
    · simp only [beginValue, opened, within opened]
    · simp [beginValue, opened] at shallow
  | openObject =>
    by_cases opened : stack.length < depth
    · simp only [beginValue, opened, within opened]
    · simp [beginValue, opened] at shallow
  | string s => cases s <;> rfl
  | number v => cases v <;> rfl
  | closeArray | closeObject | comma | colon | literal | unknown => rfl

theorem step_firstItem (some : t ≠ .closeArray) :
    step depth (.firstItem, stack) ⟨p, t⟩ = beginValue depth stack p t := by
  cases t with
  | closeArray => exact absurd rfl some
  | openArray | openObject | closeObject | comma | colon | literal | string | number | unknown =>
    rfl

theorem step_of_le (le : depth ≤ deeper) {state : Expect × List Frame} {placed : Placed}
    (shallow : step depth state placed ≠ .error .tooDeep) :
    step deeper state placed = step depth state placed := by
  obtain ⟨expect, stack⟩ := state
  obtain ⟨p, t⟩ := placed
  cases expect with
  | value => exact beginValue_of_le le shallow
  | firstItem =>
    by_cases empty : t = .closeArray
    · rw [empty]
      rfl
    · rw [step_firstItem empty] at shallow ⊢
      rw [step_firstItem empty]
      exact beginValue_of_le le shallow
  | firstName | name | colon | after => rfl

theorem foldlM_step_of_le (le : depth ≤ deeper) {placed : List Placed} {state : Expect × List Frame}
    (shallow : placed.foldlM (step depth) state ≠ .error .tooDeep) :
    placed.foldlM (step deeper) state = placed.foldlM (step depth) state := by
  induction placed generalizing state with
  | nil => rfl
  | cons first rest ih =>
    rw [List.foldlM_cons] at shallow
    rw [List.foldlM_cons, List.foldlM_cons]
    cases stepped : step depth state first with
    | error f =>
      have same : step deeper state first = step depth state first := by
        refine step_of_le le fun deep => shallow ?_
        rw [deep]
        rfl
      rw [same, stepped]
      rfl
    | ok next =>
      rw [stepped] at shallow
      have same : step deeper state first = step depth state first :=
        step_of_le le (by rw [stepped]; exact nofun)
      rw [same, stepped]
      exact ih shallow

/-- A text that is not too deep for a reader means the same to a reader that goes deeper. -/
theorem read_of_le (le : depth ≤ deeper) {text : String}
    (shallow : read depth text ≠ .error .tooDeep) : read deeper text = read depth text := by
  have same : (tokens text.toList).foldlM (step deeper) (.value, []) =
      (tokens text.toList).foldlM (step depth) (.value, []) := by
    refine foldlM_step_of_le le fun deep => shallow ?_
    rw [read, deep]
  rw [read, same]
  rfl

end RoutineVisibility.Json
