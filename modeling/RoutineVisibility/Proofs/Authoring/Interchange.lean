import RoutineVisibility.Proofs.Authoring.Judgement

/-! Two conditions that are created one after the other are accepted in either order or in none. -/
namespace RoutineVisibility
open Relation

section
variable {α : Type} {r first second : α → α → Prop}

/-- Edges of one source and then those of another one close no cycle if and only if no edge of both
lies on a cycle in the end. -/
theorem not_returns_iff {x y : α} (leaves : ∀ a b, first a b → a = x)
    (leaves' : ∀ a b, second a b → a = y) :
    ((∀ a b, first a b → ¬ ReflTransGen r b a) ∧
        ∀ a b, second a b → ¬ ReflTransGen (fun a b => r a b ∨ first a b) b a) ↔
      ∀ a b, first a b ∨ second a b →
        ¬ ReflTransGen (fun a b => r a b ∨ first a b ∨ second a b) b a := by
  constructor
  · rintro ⟨safe, safe'⟩ a b edge back
    -- A closed walk takes no edge of the second source, since it would lead back to it.
    have blocked (c d : α) (later : second c d) :
        ¬ ReflTransGen (fun a b => r a b ∨ first a b ∨ second a b) d c := by
      obtain rfl : c = y := leaves' c d later
      exact fun walk => safe' c d later (reaches_of_new (fun a b => fun
        | .inl old => .inl (.inl old)
        | .inr (.inl early) => .inl (.inr early)
        | .inr (.inr late) => .inr (leaves' a b late)) walk)
    rcases edge with early | late
    · obtain ⟨way, cycle, passes⟩ :=
        exists_isCycle_of_reaches (r := fun a b => r a b ∨ first a b ∨ second a b)
          (.inr (.inl early)) back
      have without : IsCycle (fun a b => r a b ∨ first a b) way :=
        cycle.of_returns fun c d edge returns => by
          rcases edge with old | early | late
          · exact .inl old
          · exact .inr early
          · exact absurd returns (blocked c d late)
      obtain rfl : a = x := leaves a b early
      exact safe a b early (reaches_of_new (fun c d => Or.imp_right (leaves c d))
        (without.reaches_of_infix passes))
    · exact blocked a b late back
  · intro apart
    refine ⟨fun a b early back => ?_, fun a b late back => ?_⟩
    · exact apart a b (.inl early) (ReflTransGen.mono (fun _ _ => Or.inl) _ _ back)
    · exact apart a b (.inr late) (ReflTransGen.mono (fun _ _ => Or.imp_right Or.inl) _ _ back)

end

namespace Store
variable {F : Type → Type} [Holding F]

def createBoth (s : Store F) (c d : Condition Exact) : Except Rejection (Store F) := do
  (← s.createCondition c.held).createCondition d.held

/-- The name of a condition is free, it has checks, and its owner is there: the store may take it,
if its dependencies do not matter. -/
structure Admits (s : Store F) (c : Condition Exact) : Prop where
  free : Table.find? s.conditions (.value c.id) = none
  checks : c.checks ≠ []
  owner : Table.has s.routines (.value c.routineId)

/-- No dependency of two conditions is part of a cycle of the graph that has those of both. -/
def Compatible (s : Store F) (c d : Condition Exact) : Prop :=
  ∀ a b, c.Requires a b ∨ d.Requires a b →
    ¬ ReflTransGen (fun a b => s.Controls a b ∨ c.Requires a b ∨ d.Requires a b) b a

variable {s t u : Store F} {c d : Condition Exact}

theorem Compatible.symm (compatible : s.Compatible c d) : s.Compatible d c := by
  intro a b edge
  have same : (fun a b => s.Controls a b ∨ d.Requires a b ∨ c.Requires a b) =
      fun a b => s.Controls a b ∨ c.Requires a b ∨ d.Requires a b := by
    funext a b
    rw [or_comm (a := d.Requires a b)]
  rw [same]
  exact compatible a b edge.symm

theorem not_reaches_iff_of_requires :
    (∀ target ∈ c.routineTargets, ¬ s.Reaches target c.routineId) ↔
      ∀ a b, c.Requires a b → ¬ ReflTransGen s.Controls b a := by
  constructor
  · rintro safe a b ⟨rfl, mem⟩
    exact safe b mem
  · intro safe target mem
    exact safe c.routineId target ⟨rfl, mem⟩

theorem createCondition_eq_ok_iff :
    s.createCondition c.held = .ok t ↔
      s.Admits c ∧ (∀ a b, c.Requires a b → ¬ ReflTransGen s.Controls b a) ∧
        t = s.add (.condition c.held) := by
  rw [← not_reaches_iff_of_requires]
  constructor
  · intro created
    obtain ⟨allowed, added⟩ := add_of_createCondition created
    obtain ⟨checks, owner, safe⟩ := allow_eq_ok_iff.1 allowed
    exact ⟨⟨free_of_createCondition created, checks, owner⟩, safe, added⟩
  · rintro ⟨⟨free, checks, owner⟩, safe, rfl⟩
    rw [createCondition_eq, free, allow_eq_ok_iff.2 ⟨checks, owner, safe⟩]
    rfl

/-- A new condition that controls its owner adds all its dependencies to the graph. -/
theorem controls_add_eq (free : Table.find? s.conditions (.value c.id) = none)
    (controls : c.controlsRoutine = true) :
    (s.add (.condition c.held)).Controls = fun a b => s.Controls a b ∨ c.Requires a b := by
  funext a b
  refine propext ⟨fun edge => (controls_of_add edge).imp_right Condition.controls_held, ?_⟩
  rw [add_condition_of_free free]
  rintro (⟨old, mem, edge⟩ | ⟨rfl, target⟩)
  · exact ⟨old, List.mem_append_left _ mem, edge⟩
  · have owner : view (c.held : Condition F).routineId = .value c.routineId := Holding.view_put _
    have given : view (c.held : Condition F).controlsRoutine = .value c.controlsRoutine :=
      Holding.view_put _
    rw [← Condition.routineTargets_held (F := F)] at target
    refine ⟨c.held, List.mem_append_right _ List.mem_cons_self, owner, ?_,
      Condition.mem_routineTargets.1 target⟩
    rw [given, controls]
    rfl

theorem admits_add_iff (other : c.id ≠ d.id) :
    (s.add (.condition c.held)).Admits d ↔ s.Admits d := by
  have apart : Keyed.key (c.held : Condition F) ≠ .value d.id := fun same =>
    other (Field.value.inj ((key_held c).symm.trans same))
  have found : Table.find? (s.add (.condition c.held)).conditions (.value d.id) =
      Table.find? s.conditions (.value d.id) := Table.find?_insert_of_ne apart s.conditions
  exact ⟨fun ⟨free, checks, owner⟩ => ⟨found ▸ free, checks, owner⟩,
    fun ⟨free, checks, owner⟩ => ⟨found.trans free, checks, owner⟩⟩

/-- Two conditions can be created one after the other if and only if the store admits both and they
are compatible. -/
theorem createBoth_eq_ok_iff (other : c.id ≠ d.id) (controls : c.controlsRoutine = true) :
    s.createBoth c d = .ok t ↔
      s.Admits c ∧ s.Admits d ∧ s.Compatible c d ∧
        t = (s.add (.condition c.held)).add (.condition d.held) := by
  have judged (free : Table.find? s.conditions (.value c.id) = none) :
      ((∀ a b, c.Requires a b → ¬ ReflTransGen s.Controls b a) ∧
        ∀ a b, d.Requires a b → ¬ ReflTransGen (s.add (.condition c.held)).Controls b a) ↔
          s.Compatible c d := by
    rw [controls_add_eq free controls]
    exact not_returns_iff (fun _ _ edge => edge.1) fun _ _ edge => edge.1
  unfold createBoth
  rw [Except.bind_eq_ok_iff]
  constructor
  · rintro ⟨u, created, created'⟩
    obtain ⟨admits, safe, rfl⟩ := createCondition_eq_ok_iff.1 created
    obtain ⟨admits', safe', added⟩ := createCondition_eq_ok_iff.1 created'
    exact ⟨admits, (admits_add_iff other).1 admits', (judged admits.free).1 ⟨safe, safe'⟩, added⟩
  · rintro ⟨admits, admits', compatible, added⟩
    obtain ⟨safe, safe'⟩ := (judged admits.free).2 compatible
    exact ⟨s.add (.condition c.held), createCondition_eq_ok_iff.2 ⟨admits, safe, rfl⟩,
      createCondition_eq_ok_iff.2 ⟨(admits_add_iff other).2 admits', safe', added⟩⟩

theorem conditions_add_add (other : c.id ≠ d.id) (admits : s.Admits c) (admits' : s.Admits d) :
    (s.add (.condition c.held)).add (.condition d.held) =
      { s with conditions := s.conditions ++ [c.held] ++ [d.held] } := by
  rw [add_condition_of_free ((admits_add_iff other).2 admits').free,
    add_condition_of_free admits.free]

theorem createBoth_of_allow (free : Table.find? s.conditions (.value c.id) = none)
    (allowed : s.allow c.held = .ok ())
    (free' : Table.find? (s.conditions ++ [c.held]) (.value d.id) = none)
    (allowed' : ({ s with conditions := s.conditions ++ [c.held] } : Store F).allow d.held =
      .ok ()) :
    s.createBoth c d = .ok { s with conditions := s.conditions ++ [c.held] ++ [d.held] } := by
  unfold createBoth
  rw [createCondition_of_allow free allowed]
  exact createCondition_of_allow free' allowed'

/-- Whether two controlling conditions can be created does not depend on their order, and neither
does what the store holds then, but for the order of its conditions. -/
theorem createBoth_comm (s : Store F) (c d : Condition Exact) (other : c.id ≠ d.id)
    (controls : c.controlsRoutine = true) (controls' : d.controlsRoutine = true) :
    ((∃ t, s.createBoth c d = .ok t) ↔ ∃ u, s.createBoth d c = .ok u) ∧
      ∀ t u, s.createBoth c d = .ok t → s.createBoth d c = .ok u →
        t.conditions.Perm u.conditions ∧
          { t with conditions := [] } = { u with conditions := [] } := by
  refine ⟨⟨?_, ?_⟩, fun t u created created' => ?_⟩
  · rintro ⟨t, created⟩
    obtain ⟨admits, admits', compatible, -⟩ := (createBoth_eq_ok_iff other controls).1 created
    exact ⟨_, (createBoth_eq_ok_iff other.symm controls').2 ⟨admits', admits, compatible.symm, rfl⟩⟩
  · rintro ⟨u, created⟩
    obtain ⟨admits', admits, compatible, -⟩ := (createBoth_eq_ok_iff other.symm controls').1 created
    exact ⟨_, (createBoth_eq_ok_iff other controls).2 ⟨admits, admits', compatible.symm, rfl⟩⟩
  · obtain ⟨admits, admits', -, rfl⟩ := (createBoth_eq_ok_iff other controls).1 created
    obtain ⟨-, -, -, rfl⟩ := (createBoth_eq_ok_iff other.symm controls').1 created'
    rw [conditions_add_add other admits admits', conditions_add_add other.symm admits' admits]
    refine ⟨?_, rfl⟩
    rw [List.append_assoc, List.append_assoc]
    exact (List.Perm.swap d.held c.held []).append_left s.conditions

/-- In the ring with two more routines, A may come to depend on D and D on E in either order. If A
comes to depend on D and D on B, which leads to A, the later one of the two is refused in either
order. -/
theorem ring_createBoth_comm :
    let s : Store Exact := (ring.add (.routine ⟨"A", "", .smart, .active, .daily, none⟩)).add
      (.routine ⟨"D", "", .smart, .active, .daily, none⟩)
    let c : Condition Exact := .onRoutine "x" "A" "D"
    let d : Condition Exact := .onRoutine "y" "D" "E"
    let e : Condition Exact := .onRoutine "y" "D" "B"
    s.createBoth c d = .ok { s with conditions := s.conditions ++ [c, d] } ∧
      s.createBoth d c = .ok { s with conditions := s.conditions ++ [d, c] } ∧
      (s.conditions ++ [c, d]).Perm (s.conditions ++ [d, c]) ∧
      (∀ t, s.createBoth c e ≠ .ok t) ∧ ∀ t, s.createBoth e c ≠ .ok t := by
  intro s c d e
  have first : s.createBoth c d = .ok { s with conditions := s.conditions ++ [c, d] } :=
    createBoth_of_allow rfl (by decide +kernel) rfl (by decide +kernel)
  have second : s.createBoth d c = .ok { s with conditions := s.conditions ++ [d, c] } :=
    createBoth_of_allow rfl (by decide +kernel) rfl (by decide +kernel)
  have refused : (s.createBoth c e).isOk = false := by decide +kernel
  have never (t : Store Exact) : s.createBoth c e ≠ .ok t := fun created => by
    rw [created] at refused
    cases refused
  refine ⟨first, second, ((createBoth_comm s c d (by decide) rfl rfl).2 _ _ first second).1, never,
    fun t created => ?_⟩
  obtain ⟨u, created'⟩ := (createBoth_comm s c e (by decide) rfl rfl).1.2 ⟨t, created⟩
  exact never u created'

end Store
end RoutineVisibility
