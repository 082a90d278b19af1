import RoutineVisibility.Proofs.Authoring.Acyclic

/-! The outcome of a write: which rejection it gets, and that nothing but its own entry changes. -/
namespace RoutineVisibility
open Relation

/-- The dependencies of its owner that the checks of a condition stand for. -/
def Condition.Requires (c : Condition Exact) (a b : Text) : Prop :=
  a = c.routineId ∧ b ∈ c.routineTargets

namespace Store
variable {F : Type → Type} [Holding F]

/-- The graph and all dependencies of a condition together have a cycle that takes one of these. -/
def ClosesCycle (s : Store F) (c : Condition Exact) : Prop :=
  ∃ way, IsCycle (fun a b => s.Controls a b ∨ c.Requires a b) way ∧
    ∃ a b, c.Requires a b ∧ [a, b] <:+: way

theorem closesCycle_iff {s : Store F} {c : Condition Exact} :
    s.ClosesCycle c ↔ ∃ target ∈ c.routineTargets, s.Reaches target c.routineId := by
  constructor
  · rintro ⟨way, cycle, a, target, ⟨rfl, mem⟩, edge⟩
    exact ⟨target, mem, reaches_of_new (fun _ _ => Or.imp_right And.left)
      (cycle.reaches_of_infix edge)⟩
  · rintro ⟨target, mem, walk⟩
    have required : c.Requires c.routineId target := ⟨rfl, mem⟩
    obtain ⟨way, cycle, edge⟩ :=
      exists_isCycle_of_reaches (r := fun a b => s.Controls a b ∨ c.Requires a b)
        (Or.inr required) (ReflTransGen.mono (fun _ _ => Or.inl) _ _ walk)
    exact ⟨way, cycle, c.routineId, target, required, edge⟩

/-- What becomes of a condition that may be written under its name: the reasons to reject it, in
their order. -/
inductive Judges (s : Store F) (c : Condition Exact) : Except Rejection (Store F) → Prop where
  | noChecks (none : c.checks = []) : Judges s c (.error (.noChecks c.id))
  | noOwner (checks : c.checks ≠ []) (missing : ¬ Table.has s.routines (.value c.routineId)) :
    Judges s c (.error (.fault (.notFound .routine c.routineId)))
  /-- The first target that leads back to the owner is named, with a cycle that it closes. -/
  | cycle (checks : c.checks ≠ []) (owner : Table.has s.routines (.value c.routineId))
    (closes : s.ClosesCycle c) {before after path : List Text} {target : Text}
    (targets : c.routineTargets = before ++ target :: after)
    (first : ∀ t ∈ before, ¬ s.Reaches t c.routineId)
    (closed : s.ClosedBy c.routineId target path) :
    Judges s c (.error (.cycle c.routineId target path (s.describePath path)))
  | stored (checks : c.checks ≠ []) (owner : Table.has s.routines (.value c.routineId))
    (acyclic : ¬ s.ClosesCycle c) :
    Judges s c (.ok (s.add (.condition c.held)))

variable {s t : Store F} {c : Condition Exact}

theorem closedCycle?_eq_some {source : Text} {targets : List Text} {r : Rejection}
    (h : s.closedCycle? source targets = some r) :
    ∃ before target after path, targets = before ++ target :: after ∧
      (∀ t ∈ before, ¬ s.Reaches t source) ∧
      s.ClosedBy source target path ∧ r = .cycle source target path (s.describePath path) := by
  obtain ⟨before, target, after, split, found, first⟩ := List.findSome?_eq_some_iff.1 h
  obtain ⟨path, closes, rfl⟩ := Option.map_eq_some_iff.1 found
  refine ⟨before, target, after, path, split, fun t mem => ?_, closedBy_of_cyclePath? closes, rfl⟩
  exact cyclePath?_eq_none_iff.1 (Option.map_eq_none_iff.1 (first t mem))

theorem judges_allow (s : Store F) (c : Condition Exact) :
    s.Judges c ((s.allow c.held).map fun _ => s.add (.condition c.held)) := by
  rw [allow_eq]
  by_cases checks : c.checks = []
  · rw [checks]
    exact .noChecks checks
  rw [if_neg (by simpa using checks)]
  cases owner : Table.find? s.routines (.value c.routineId) with
  | none => exact .noOwner checks (by simp [Table.has, owner])
  | some routine =>
    have owner : Table.has s.routines (.value c.routineId) := by simp [Table.has, owner]
    cases closed : s.closedCycle? c.routineId c.routineTargets with
    | none =>
      refine .stored checks owner fun closes => ?_
      obtain ⟨target, mem, walk⟩ := closesCycle_iff.1 closes
      exact closedCycle?_eq_none_iff.1 closed target mem walk
    | some r =>
      obtain ⟨before, target, after, path, targets, first, closedBy, rfl⟩ :=
        closedCycle?_eq_some closed
      have mem : target ∈ c.routineTargets := by simp [targets]
      have closes : s.ClosesCycle c := closesCycle_iff.2 ⟨target, mem, closedBy.reaches⟩
      exact .cycle checks owner closes targets first closedBy

def SameBut (condition : Text) (s t : Store F) : Prop :=
  t.eraseCondition (.value condition) = s.eraseCondition (.value condition)

theorem sameBut_add (s : Store F) (c : Condition Exact) :
    s.SameBut c.id (s.add (.condition c.held)) := by
  unfold SameBut eraseCondition add
  rw [Table.erase_insert (key_held c)]

theorem find?_add (s : Store F) (c : Condition Exact) :
    Table.find? (s.add (.condition c.held)).conditions (.value c.id) = some c.held :=
  Table.find?_insert_self (key_held c) s.conditions

theorem sameBut_eraseCondition (s : Store F) (condition : Text) :
    s.SameBut condition (s.eraseCondition (.value condition)) := by
  unfold SameBut eraseCondition
  rw [Table.erase_erase]

/-- What a store holds after a write: no change if the write was rejected, and otherwise no change
beyond its entry. -/
structure Effect (s : Store F) (w : Write) (condition : Text) (entry : Option (Condition F)) :
    Prop where
  rejected : ∀ r, s.attempt w = .error r → s.after w = s
  others : ∀ t, s.attempt w = .ok t → s.after w = t ∧ s.SameBut condition t
  own : ∀ t, s.attempt w = .ok t → Table.find? t.conditions (.value condition) = entry

theorem Effect.of_attempt {w : Write} {condition : Text} {entry : Option (Condition F)}
    (written : ∀ t, s.attempt w = .ok t →
      s.SameBut condition t ∧ Table.find? t.conditions (.value condition) = entry) :
    s.Effect w condition entry := by
  constructor
  · intro r rejected
    simp only [after, rejected]
  · intro t accepted
    exact ⟨by simp only [after, accepted], (written t accepted).1⟩
  · exact fun t accepted => (written t accepted).2

/-- What creating, replacing and deleting a condition does, in every store. -/
theorem write_outcome (s : Store F) (c : Condition Exact) :
    (Table.has s.conditions (.value c.id) →
      s.createCondition c.held = .error (.alreadyExists c.id)) ∧
    (¬ Table.has s.conditions (.value c.id) →
      s.Judges c (s.createCondition c.held) ∧
        s.updateCondition c.held = .error (.fault (.notFound .condition c.id))) ∧
    (∀ old, Table.find? s.conditions (.value c.id) = some old →
      (view old.routineId ≠ .value c.routineId →
        s.updateCondition c.held = .error (.moved c.id (view old.routineId).text c.routineId)) ∧
      (view old.routineId = .value c.routineId → s.Judges c (s.updateCondition c.held))) ∧
    s.Effect (.create c) c.id (some c.held) ∧ s.Effect (.update c) c.id (some c.held) ∧
    ∀ condition, s.Effect (.delete condition) condition none := by
  refine ⟨fun taken => ?_, fun free => ⟨?_, ?_⟩,
    fun old stored => ⟨fun other => ?_, fun same => ?_⟩, ?_, ?_, ?_⟩
  · rw [createCondition_eq]
    exact if_pos taken
  · rw [createCondition_eq, if_neg (by simpa only [Table.has] using free)]
    exact judges_allow s c
  · have none : Table.find? s.conditions (.value c.id) = none := by simpa [Table.has] using free
    rw [updateCondition_eq, none]
  · rw [updateCondition_eq, stored]
    exact if_neg fun same => other (Field.sameKey_value_iff.1 same)
  · rw [updateCondition_eq, stored]
    simp only [Field.sameKey_value_iff.2 same, if_true]
    exact judges_allow s c
  · refine Effect.of_attempt fun t accepted => ?_
    obtain ⟨-, rfl⟩ := add_of_createCondition accepted
    exact ⟨sameBut_add s c, find?_add s c⟩
  · refine Effect.of_attempt fun t accepted => ?_
    obtain ⟨-, rfl⟩ := add_of_updateCondition accepted
    exact ⟨sameBut_add s c, find?_add s c⟩
  · refine fun condition => Effect.of_attempt fun t accepted => ?_
    obtain rfl := erase_of_deleteCondition accepted
    exact ⟨sameBut_eraseCondition s condition, Table.find?_erase _ _⟩

/-- In the ring, the routine A may not depend on C, which leads back to it, and the condition of B
may not move to A. -/
theorem ring_write_outcome :
    let s : Store Exact := ring.add (.routine ⟨"A", "", .smart, .active, .daily, none⟩)
    let c : Condition Exact := .onRoutine "a" "A" "C"
    let moved : Condition Exact := .onRoutine "b" "A" "D"
    s.Judges c (s.createCondition c.held) ∧
      (match s.createCondition c.held with
        | .error r => some r
        | .ok _ => none) = some (.cycle "A" "C" ["A", "C", "B", "A"] "A → C → B → A") ∧
      s.after (.create c) = s ∧
      s.updateCondition moved.held = .error (.moved "b" "B" "A") := by
  intro s c moved
  have free : ¬ Table.has s.conditions (.value c.id) := by decide +kernel
  have answer : (match s.createCondition c.held with
      | .error r => some r
      | .ok _ => none) = some (.cycle "A" "C" ["A", "C", "B", "A"] "A → C → B → A") :=
        by decide +kernel
  refine ⟨((write_outcome s c).2.1 free).1, answer, ?_, ?_⟩
  · cases rejected : s.createCondition c.held with
    | ok t => rw [rejected] at answer; cases answer
    | error r => exact (write_outcome s c).2.2.2.1.rejected r rejected
  · exact ((write_outcome s moved).2.2.1 _ rfl).1 fun same =>
      absurd (Field.value.inj same) (by decide)

end Store
end RoutineVisibility
