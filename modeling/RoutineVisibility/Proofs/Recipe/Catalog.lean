import RoutineVisibility.Proofs.Authoring.Judgement
import RoutineVisibility.Proofs.Recipe.Template

/-! Conditions that are built from recipes can be stored and say the same in every store. -/
namespace RoutineVisibility

namespace Recipe

def checkName (condition : String) (n : Nat) : String :=
  condition ++ "-" ++ toString n

def condition (r : Recipe) (name routine : String) (controls : Bool) : Condition Exact :=
  ⟨name, routine, controls, r.logic, (r.checks.zipIdx 1).map fun (t, n) =>
    t.check (checkName name n)⟩

/-- What the condition of a recipe says at a minute of the day, on a day of the week. -/
def evaluation (r : Recipe) (name : String) (minute weekday : Nat) : Evaluation :=
  .ofOutcomes name (some r.logic)
    ((r.checks.zipIdx 1).map fun (t, n) => t.outcome (checkName name n) minute weekday)

def Lawful (r : Recipe) : Prop :=
  r.checks ≠ [] ∧ ∀ t ∈ r.checks, t.Lawful

instance : DecidablePred Lawful := fun r =>
  inferInstanceAs (Decidable (r.checks ≠ [] ∧ ∀ t ∈ r.checks, t.Lawful))

theorem lawful_of_mem_catalog : ∀ r ∈ catalog, r.Lawful := by decide +kernel

theorem find?_of_mem_catalog : ∀ r ∈ catalog, find? r.id = some r := by decide +kernel

variable {r : Recipe} {name routine : String} {controls : Bool}

theorem checkName_injective (name : String) : Function.Injective (checkName name) := by
  intro m n same
  have text : toString m = toString n := (String.append_right_inj _).1 same
  have digits : Nat.toDigits 10 m = Nat.toDigits 10 n := by
    rw [← Nat.toList_repr, ← Nat.toList_repr]
    exact congrArg String.toList text
  rw [← Nat.ofDigitChars_ten_toDigits (n := m), digits, Nat.ofDigitChars_ten_toDigits]

theorem checkName_ne_empty (n : Nat) : checkName name n ≠ "" := by
  intro empty
  have letters : (checkName name n).toList = name.toList ++ '-' :: (toString n).toList := by
    simp [checkName]
  rw [empty] at letters
  simp at letters

theorem checksFrom_eq (name : String) (n : Nat) (ts : List Template) :
    checksFrom name n ts = (ts.zipIdx n).map fun (t, n) =>
      .obj (("id", .str (checkName name n)) :: t.members) := by
  induction ts generalizing n with
  | nil => rfl
  | cons t ts ih =>
    rw [checksFrom, ih, List.zipIdx_cons, List.map_cons]
    rfl

/-- The checks are told apart by their numbers. -/
theorem nodup_checks (r : Recipe) (name routine : String) (controls : Bool) :
    ((r.condition name routine controls).checks.map fun check => (check.id : Text)).Nodup := by
  have numbers : ((r.checks.zipIdx 1).map Prod.snd).Nodup := by
    rw [List.zipIdx_map_snd]
    exact List.nodup_range'
  have names : (r.condition name routine controls).checks.map (fun check => (check.id : Text)) =
      ((r.checks.zipIdx 1).map Prod.snd).map fun n => (checkName name n : Text) := by
    simp only [condition, List.map_map]
    exact List.map_congr_left fun p _ => Template.check_id _ _
  rw [names]
  exact numbers.map fun _ _ same => checkName_injective name (Text.plain.inj same)

/-- Every check that a lawful recipe is built from is accepted by itself. -/
theorem findSome?_refusal_checksFrom (lawful : r.Lawful) (name : String) :
    (checksFrom name 1 r.checks).findSome? (fun check => (Check.validate check).refusal?) =
      none := by
  rw [checksFrom_eq, List.findSome?_eq_none_iff, List.forall_mem_map]
  intro p mem
  rw [(lawful.2 p.1 (List.fst_mem_of_mem_zipIdx mem)).validate_eq_accept (checkName_ne_empty p.2)]
  rfl

theorem build_eq (lawful : r.Lawful) (named : name ≠ "") (owned : routine ≠ "") (controls : Bool) :
    r.build (.str name) (.str routine) (.bool controls) =
      .accept (r.condition name routine controls) := by
  have known : Coerce.member (.ofName r.logic) = .accept r.logic := by
    cases r.logic <;> rfl
  unfold build
  simp only [Json.display_str, findSome?_refusal_checksFrom lawful]
  refine Verdict.obeying_eq_accept.2 ⟨Condition.fields_eq_accept.2 ⟨?_, ?_, rfl, ?_, ?_⟩, ?_⟩
  · rw [requiredField_of_findMember? rfl, Coerce.nonemptyText_of_ne_empty named]
    rfl
  · rw [requiredField_of_findMember? rfl, Coerce.nonemptyText_of_ne_empty owned]
    rfl
  · rw [defaultField_of_findMember? rfl, known]
    rfl
  · rw [defaultField_list_eq_accept rfl, checksFrom_eq, condition, List.forall₂_map_left_iff,
      List.forall₂_map_right_iff, List.forall₂_same]
    intro p mem
    exact (lawful.2 p.1 (List.fst_mem_of_mem_zipIdx mem)).validate_eq_accept
      (checkName_ne_empty p.2)
  · exact Condition.violation?_eq_none_iff.2 (nodup_checks r name routine controls)

variable {F : Type → Type} [Holding F]

theorem evaluate_condition (lawful : r.Lawful) (s : Store F) (setting : Setting) (person : Text)
    (context : Context) :
    let now := context.now setting.clock
    ((r.condition name routine controls).held : Condition F).evaluate s setting person context =
      .ok (r.evaluation name now.minuteOfDay (context.weekday now)) := by
  intro now
  have outcomes : (((r.condition name routine controls).held : Condition F).checks.mapM fun check =>
      check.outcome s setting person (context.frozen setting.clock)) =
        .ok ((r.checks.zipIdx 1).map fun (t, n) =>
          t.outcome (checkName name n) now.minuteOfDay (context.weekday now)) := by
    rw [Except.mapM_eq_ok_iff, Condition.held, condition, List.map_map, List.forall₂_map_left_iff,
      List.forall₂_map_right_iff, List.forall₂_same]
    intro p mem
    exact (lawful.2 p.1 (List.fst_mem_of_mem_zipIdx mem)).outcome_eq _ s setting person _
  have id : view ((r.condition name routine controls).held : Condition F).id = .value name :=
    Holding.view_put _
  have logic : view ((r.condition name routine controls).held : Condition F).logic =
      .value r.logic :=
    Holding.view_put _
  rw [Condition.evaluate, outcomes, id, logic]
  rfl

theorem routineTargets_condition : (r.condition name routine controls).routineTargets = [] := by
  rw [List.eq_nil_iff_forall_not_mem]
  intro target mem
  obtain ⟨check, mem, refers⟩ := Condition.mem_routineTargets.1 mem
  obtain ⟨p, -, rfl⟩ := List.mem_map.1 mem
  have none : (p.1.check (checkName name p.2)).targetRoutineId = none :=
    Template.check_target p.1 _ .routine
  rw [view_exact, none] at refers
  cases refers

theorem checks_condition_ne_nil (lawful : r.Lawful) :
    (r.condition name routine controls).checks ≠ [] := by
  rw [condition, ne_eq, List.map_eq_nil_iff, List.zipIdx_eq_nil_iff]
  exact lawful.1

end Recipe

namespace Store
variable {F : Type → Type} [Holding F] {c : Condition Exact}

/-- A condition that refers to no routine is rejected for its name or for its owner only. -/
theorem createCondition_of_noTargets (some : c.checks ≠ []) (none : c.routineTargets = [])
    (s : Store F) :
    s.createCondition c.held =
      if Table.has s.conditions (.value c.id) then .error (.alreadyExists c.id)
      else if Table.has s.routines (.value c.routineId) then .ok (s.add (.condition c.held))
      else .error (.fault (.notFound .routine c.routineId)) := by
  have noCycle : s.closedCycle? c.routineId [] = Option.none := rfl
  rw [createCondition_eq, allow_eq, none, noCycle, List.isEmpty_eq_false_iff.2 some,
    if_neg Bool.false_ne_true]
  unfold Table.has
  split
  · rfl
  · cases Table.find? s.routines (.value c.routineId) <;> rfl

/-- A condition that refers to no routine adds no edge to the controls graph. -/
theorem controls_after_create_iff (none : c.routineTargets = []) (s : Store F) {a b : Text} :
    (s.after (.create c)).Controls a b ↔ s.Controls a b := by
  cases accepted : s.attempt (.create c) with
  | error r => rw [after_of_rejected accepted]
  | ok t =>
    obtain ⟨-, rfl⟩ := add_of_createCondition accepted
    rw [after_of_attempt accepted]
    constructor
    · intro edge
      refine (controls_of_add edge).resolve_right fun new => ?_
      have target : b ∈ c.routineTargets := (Condition.controls_held new).2
      rw [none] at target
      cases target
    · rintro ⟨d, mem, edge⟩
      rw [add_condition_of_free (free_of_createCondition accepted)]
      exact ⟨d, List.mem_append_left _ mem, edge⟩

end Store

/-- A condition that is safe to use wherever it is put. -/
structure Condition.Safe (c : Condition Exact) : Prop where
  distinct : (c.checks.map fun check => (check.id : Text)).Nodup
  created_iff : ∀ {F : Type → Type} [Holding F] (s : Store F),
    (∃ t, s.createCondition c.held = .ok t) ↔
    ¬ Table.has s.conditions (.value c.id) ∧ Table.has s.routines (.value c.routineId)
  noCycle : ∀ {F : Type → Type} [Holding F] (s : Store F) (source target : Text) (path : List Text)
    (description : Text), s.createCondition c.held ≠ .error (.cycle source target path description)
  controls_iff : ∀ {F : Type → Type} [Holding F] (s : Store F) (a b : Text),
    (s.after (.create c)).Controls a b ↔ s.Controls a b
  /-- At a moment there is one evaluation for all stores and all persons, and nothing fails in
  it. -/
  evaluated : ∀ (clock : Clock) (context : Context), ∃ e : Evaluation, e.reason = none ∧
    (∀ o ∈ e.checks, o.error = none) ∧
    ∀ {F : Type → Type} [Holding F] (s : Store F) (time : TimeOfDay) (person : Text),
      c.held.evaluate s ⟨clock, time⟩ person context = .ok e ∧
      ∀ t, s.createCondition c.held = .ok t → Table.has t.persons (.value person) →
        t.evaluateCondition ⟨clock, time⟩ (.value c.id) person context = .ok e

namespace Recipe
variable {r : Recipe} {name routine : String} {controls : Bool}

theorem errors_evaluation (minute weekday : Nat) :
    ∀ o ∈ (r.evaluation name minute weekday).checks, o.error = none := by
  intro o mem
  obtain ⟨p, -, rfl⟩ := List.mem_map.1 mem
  rfl

theorem reason_evaluation (lawful : r.Lawful) (minute weekday : Nat) :
    (r.evaluation name minute weekday).reason = none := by
  refine Evaluation.reasonOf_eq_none_iff.2 ⟨?_, errors_evaluation minute weekday⟩
  rw [ne_eq, List.map_eq_nil_iff, List.zipIdx_eq_nil_iff]
  exact lawful.1

theorem Lawful.safe (lawful : r.Lawful) (name routine : String) (controls : Bool) :
    (r.condition name routine controls).Safe where
  distinct := nodup_checks r name routine controls
  created_iff s := by
    rw [Store.createCondition_of_noTargets (checks_condition_ne_nil lawful)
      routineTargets_condition]
    cases Table.has s.conditions (.value (r.condition name routine controls).id) <;>
      cases Table.has s.routines (.value (r.condition name routine controls).routineId) <;> simp
  noCycle s source target path description := by
    rw [Store.createCondition_of_noTargets (checks_condition_ne_nil lawful)
      routineTargets_condition]
    split_ifs <;> nofun
  controls_iff s a b := Store.controls_after_create_iff routineTargets_condition s
  evaluated clock context := by
    let now := context.now clock
    refine ⟨r.evaluation name now.minuteOfDay (context.weekday now), reason_evaluation lawful _ _,
      errors_evaluation _ _, fun s time person =>
        ⟨evaluate_condition lawful s ⟨clock, time⟩ person context, ?_⟩⟩
    intro t created known
    obtain ⟨-, rfl⟩ := Store.add_of_createCondition created
    rw [Store.evaluateCondition_of_find? (Store.find?_add s _) known]
    exact evaluate_condition lawful _ ⟨clock, time⟩ person context

/-- Every recipe of the catalog is found by its name, and it is built into a condition that is safe
to use, whatever the names are that it is given, as long as they are not empty. -/
theorem catalog_safe (r : Recipe) (listed : r ∈ catalog) (name routine : String) (named : name ≠ "")
    (owned : routine ≠ "") (controls : Bool) :
    find? r.id = some r ∧ ∃ c, r.build (.str name) (.str routine) (.bool controls) = .accept c ∧
      c.id = name ∧ c.routineId = routine ∧ c.controlsRoutine = controls ∧ c.Safe :=
  have lawful : r.Lawful := lawful_of_mem_catalog r listed
  ⟨find?_of_mem_catalog r listed, r.condition name routine controls,
    build_eq lawful named owned controls, rfl, rfl, rfl, lawful.safe name routine controls⟩

/-- The recipe for the mornings of school days has two checks, and its condition is created where
its routine is. -/
theorem schoolDays_safe :
    let s : Store Exact := Store.empty.add (.routine ⟨"R", "", .smart, .active, .daily, none⟩)
    ∃ r ∈ catalog, r.id = "school-days-morning" ∧ r.checks.length = 2 ∧
      ∃ c, r.build (.str "mornings") (.str "R") (.bool true) = .accept c ∧ c.Safe ∧
        ∃ t, s.createCondition c.held = .ok t := by
  intro s
  have listed : ∃ r ∈ catalog, r.id = "school-days-morning" ∧
      r.checks.length = 2 := by decide +kernel
  obtain ⟨r, mem, known, two⟩ := listed
  obtain ⟨-, c, built, name, owner, -, safe⟩ :=
    catalog_safe r mem "mornings" "R" (by decide) (by decide) true
  refine ⟨r, mem, known, two, c, built, safe, (safe.created_iff s).2 ?_⟩
  rw [name, owner]
  decide +kernel

/-- A recipe is not built for a routine whose name is a surrogate alone. -/
theorem not_forall_build :
    let torn : Text := .ofPoints [0xd800]
    (∃ r ∈ catalog, r.id = "before-noon" ∧
      r.build (.str "c") (.str torn) (.bool true) =
        .refuse (.faults [⟨[.field "routine_id"], .tornText⟩])) ∧
      ¬ ∀ r ∈ catalog, ∀ name routine : Text, name ≠ "" → routine ≠ "" →
        ∃ c, r.build (.str name) (.str routine) (.bool true) = .accept c := by
  intro torn
  have refused : ∃ r ∈ catalog, r.id = "before-noon" ∧
      r.build (.str "c") (.str torn) (.bool true) =
        .refuse (.faults [⟨[.field "routine_id"], .tornText⟩]) :=
    ⟨_, List.mem_of_getLast? rfl, rfl, rfl⟩
  refine ⟨refused, fun built => ?_⟩
  obtain ⟨r, listed, -, refused⟩ := refused
  obtain ⟨c, accepted⟩ := built r listed "c" torn (by decide) (by decide)
  rw [refused] at accepted
  cases accepted

end Recipe
end RoutineVisibility
