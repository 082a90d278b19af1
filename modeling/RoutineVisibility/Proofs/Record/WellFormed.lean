import RoutineVisibility.Proofs.Record.Fields

/-! The checks and conditions that validation accepts are the well-formed ones. -/
namespace RoutineVisibility

namespace Operator

theorem category?_ofName_eq_none_iff (s : Text) :
    (ofName s).category? = none ↔ s ∉ known.map name := by
  have hasCategory : ∀ op ∈ known, op.category? ≠ none := by decide
  unfold ofName
  cases found : known.find? (·.name == s) with
  | none =>
    have unknown : s ∉ known.map name := by
      intro mem
      obtain ⟨op, inKnown, named⟩ := List.mem_map.1 mem
      exact List.find?_eq_none.1 found op inKnown (beq_iff_eq.2 named)
    exact iff_of_true rfl unknown
  | some op =>
    have inKnown : op ∈ known := List.mem_of_find?_eq_some found
    have named : op.name = s := by simpa using List.find?_some found
    refine iff_of_false (hasCategory op inKnown) ?_
    rw [Decidable.not_not, ← named]
    exact List.mem_map_of_mem inKnown

end Operator

namespace Check

/-- The operands of a check of the time of day: with `between`, there is a second time that is not
before the first. -/
def GivesTime (c : Check Exact) : Prop :=
  ∃ op start, c.timeOperator = some op ∧ TimeOfDay.ofOptional? c.timeValue = some start ∧
    (op = .between → ∃ stop, TimeOfDay.ofOptional? c.value2 = some stop ∧
      start.minute ≤ stop.minute)

/-- The fields of a check are those that a category of operators asks for. -/
structure Suits (c : Check Exact) (category : Category) : Prop where
  references : ∀ t, c.target t ≠ none ↔ category.target? = some t
  time : category = .time → c.GivesTime
  days : category = .day → ∀ d ∈ c.dayOfWeek, 0 ≤ d ∧ d ≤ 6

variable {c : Check Exact} {category : Category}

theorem mem_references {t : Target} : t ∈ c.references ↔ c.target t ≠ none := by
  have all : t ∈ Target.all := by cases t <;> decide
  unfold references
  rw [List.mem_filter, Option.isSome_iff_ne_none]
  exact and_iff_right all

theorem nodup_references : c.references.Nodup :=
  List.filter_sublist.nodup (by decide)

theorem references_eq_iff {target : Option Target} :
    c.references = target.toList ↔ ∀ t, c.target t ≠ none ↔ target = some t := by
  constructor
  · intro same t
    rw [← mem_references, same, Option.mem_toList]
  · intro same
    have nodup : target.toList.Nodup := by cases target <;> simp
    have perm : c.references.Perm target.toList := by
      rw [List.perm_ext_iff_of_nodup nodup_references nodup]
      intro t
      rw [mem_references, same t, Option.mem_toList]
    cases target with
    | none => exact List.perm_nil.1 perm
    | some t => exact List.perm_singleton.1 perm

theorem referenceViolation?_eq_none_iff :
    c.referenceViolation? category = none ↔ ∀ t, c.target t ≠ none ↔ category.target? = some t := by
  rw [← references_eq_iff]
  unfold referenceViolation?
  cases category.target? with
  | none => simp
  | some t => simp

theorem timeViolation?_eq_none_iff : c.timeViolation? = none ↔ c.GivesTime := by
  unfold timeViolation? GivesTime
  cases c.timeOperator with
  | none => simp
  | some op =>
    cases TimeOfDay.ofOptional? c.timeValue with
    | none => simp
    | some start =>
      by_cases between : op = .between
      · cases TimeOfDay.ofOptional? c.value2 with
        | none => simp [between]
        | some stop => simp [between]
      · simp [between]

theorem isWeekday_iff {d : Int} : isWeekday d ↔ 0 ≤ d ∧ d ≤ 6 := by
  simp [isWeekday]

theorem dayViolation?_eq_none_iff : c.dayViolation? = none ↔ ∀ d ∈ c.dayOfWeek, 0 ≤ d ∧ d ≤ 6 := by
  have kept : (c.dayOfWeek : List Int).filter (!isWeekday ·) = [] ↔
      ∀ d ∈ c.dayOfWeek, 0 ≤ d ∧ d ≤ 6 := by
    simp [List.filter_eq_nil_iff, isWeekday_iff]
  rw [← kept]
  unfold dayViolation?
  cases (c.dayOfWeek : List Int).filter (!isWeekday ·) <;> simp

/-- A check keeps its rules if and only if it suits the category of its operator; an unknown
operator asks for nothing. -/
theorem violation?_eq_none_iff :
    c.violation? = none ↔ ∀ category, Operator.category? c.operator = some category →
      c.Suits category := by
  unfold violation?
  cases known : Operator.category? c.operator with
  | none => simp
  | some category =>
    simp only [Option.orElse_eq_orElse, Option.orElse_eq_or, Option.or_eq_none_iff,
      referenceViolation?_eq_none_iff]
    constructor
    · rintro ⟨references, operands⟩ category' same
      cases same
      exact {
        references := references
        time := by
          rintro rfl
          exact timeViolation?_eq_none_iff.1 operands
        days := by
          rintro rfl
          exact dayViolation?_eq_none_iff.1 operands }
    · intro suits
      have suits := suits category rfl
      refine ⟨suits.references, ?_⟩
      cases category with
      | time => exact timeViolation?_eq_none_iff.2 (suits.time rfl)
      | day => exact dayViolation?_eq_none_iff.2 (suits.days rfl)
      | task | routine | goal | date => rfl

end Check

theorem firstRepeated?_eq_none_iff {seen names : List Text} :
    firstRepeated? seen names = none ↔ names.Nodup ∧ ∀ s ∈ names, s ∉ seen := by
  induction names generalizing seen with
  | nil => simp [firstRepeated?]
  | cons s names ih =>
    unfold firstRepeated?
    by_cases repeated : s ∈ seen
    · simp [repeated]
    · rw [if_neg repeated, ih, List.nodup_cons, List.forall_mem_cons]
      constructor
      · rintro ⟨nodup, new⟩
        have first : s ∉ names := fun mem => new s mem List.mem_cons_self
        exact ⟨⟨first, nodup⟩, repeated,
          fun s' mem inSeen => new s' mem (List.mem_cons_of_mem s inSeen)⟩
      · rintro ⟨⟨first, nodup⟩, -, new⟩
        refine ⟨nodup, fun s' mem => ?_⟩
        rw [List.mem_cons, not_or]
        exact ⟨fun same => first (same ▸ mem), new s' mem⟩

theorem Condition.violation?_eq_none_iff {c : Condition Exact} :
    c.violation? = none ↔ (c.checks.map fun check => (check.id : Text)).Nodup := by
  rw [Condition.violation?, Option.map_eq_none_iff, firstRepeated?_eq_none_iff]
  simp

structure Condition.OwnFields (o : List (Text × Json)) (items : List Json) : Prop where
  id : ∃ name, requiredField o "id" Coerce.nonemptyText = .accept name
  routineId : ∃ name, requiredField o "routine_id" Coerce.nonemptyText = .accept name
  controls : ∃ b, defaultField o "controls_routine" Coerce.bool false = .accept b
  logic : ∃ l : Logic, defaultField o "logic" Coerce.member .and = .accept l
  /-- A condition may leave its checks out; it has none then. -/
  checks : (Json.findMember? o "checks").getD (.arr []) = .arr items

variable {o : List (Text × Json)}

theorem Verdict.exists_obeying_iff {α : Type} {x : Verdict α} {rule : α → Option Violation} {a : α}
    (typed : x = .accept a) : (∃ b, x.obeying rule = .accept b) ↔ rule a = none := by
  simp [Verdict.obeying_eq_accept, typed]

theorem Check.exists_operator_of_fields {c : Check Exact} (typed : Check.fields o = .accept c) :
    ∃ s, c.operator = Operator.ofName s := by
  have accepted := (Check.fields_eq_accept.1 typed).2.1
  rw [requiredField, Verdict.inside_eq_accept] at accepted
  cases found : Json.findMember? o "operator" with
  | none =>
    rw [found] at accepted
    cases accepted
  | some v =>
    rw [found] at accepted
    cases v with
    | str s => exact ⟨s, (Verdict.accept.inj accepted).symm⟩
    | null | bool | int | float | arr | obj => cases accepted

theorem Check.exists_validate_iff {c : Check Exact} (typed : Check.fields o = .accept c) :
    (∃ d, Check.validate (.obj o) = .accept d) ↔
      Operator.name c.operator ∉ Operator.known.map Operator.name ∨
        ∃ category, Operator.category? c.operator = some category ∧ c.Suits category := by
  have rules : (∃ d, Check.validate (.obj o) = .accept d) ↔ c.violation? = none :=
    Verdict.exists_obeying_iff typed
  obtain ⟨s, named⟩ := Check.exists_operator_of_fields typed
  have unknown : Operator.category? c.operator = none ↔
      Operator.name c.operator ∉ Operator.known.map Operator.name := by
    rw [named, Operator.name_ofName]
    exact Operator.category?_ofName_eq_none_iff s
  rw [rules, Check.violation?_eq_none_iff, ← unknown]
  cases Operator.category? c.operator <;> simp

theorem Condition.exists_validate_iff {items : List Json} (own : Condition.OwnFields o items) :
    (∃ d, Condition.validate (.obj o) = .accept d) ↔
      ∃ checks, List.Forall₂ (fun v check => Check.validate v = .accept check) items checks ∧
        (checks.map fun check => (check.id : Text)).Nodup := by
  constructor
  · rintro ⟨c, accepted⟩
    obtain ⟨accepted, kept⟩ := Verdict.obeying_eq_accept.1 accepted
    obtain ⟨-, -, -, -, checks⟩ := Condition.fields_eq_accept.1 accepted
    exact ⟨c.checks, (defaultField_list_eq_accept own.checks).1 checks,
      Condition.violation?_eq_none_iff.1 kept⟩
  · rintro ⟨checks, accepted, nodup⟩
    obtain ⟨id, acceptedId⟩ := own.id
    obtain ⟨routine, acceptedRoutine⟩ := own.routineId
    obtain ⟨controls, acceptedControls⟩ := own.controls
    obtain ⟨logic, acceptedLogic⟩ := own.logic
    have acceptedChecks := (defaultField_list_eq_accept own.checks).2 accepted
    have fields : Condition.fields o = .accept ⟨id, routine, controls, logic, checks⟩ :=
      Condition.fields_eq_accept.2 ⟨acceptedId, acceptedRoutine, acceptedControls, acceptedLogic,
        acceptedChecks⟩
    exact ⟨_, Verdict.obeying_eq_accept.2 ⟨fields, Condition.violation?_eq_none_iff.2 nodup⟩⟩

/-- A check with fields of the right types is accepted if and only if its operator is not known, or
the check suits the category of its operator. A condition whose own fields have the right types is
accepted if and only if all its checks are accepted and no two of them have one name. -/
theorem validate_accepts_wellFormed :
    (∀ (o : List (Text × Json)) (c : Check Exact), Check.fields o = .accept c →
      ((∃ d, Check.validate (.obj o) = .accept d) ↔
        Operator.name c.operator ∉ Operator.known.map Operator.name ∨
          ∃ category, Operator.category? c.operator = some category ∧ c.Suits category)) ∧
    ∀ (o : List (Text × Json)) (items : List Json), Condition.OwnFields o items →
      ((∃ d, Condition.validate (.obj o) = .accept d) ↔
        ∃ checks, List.Forall₂ (fun v check => Check.validate v = .accept check) items checks ∧
          (checks.map fun check => (check.id : Text)).Nodup) :=
  ⟨fun _ _ => Check.exists_validate_iff, fun _ _ => Condition.exists_validate_iff⟩

/-- A span of time past midnight is refused. A condition of a check of weekends and one of an
operator that is not known is accepted, whatever the latter refers to. -/
theorem overnight_validate_accepts :
    let overnight : List (Text × Json) := [("id", .str "1"), ("operator", .str "TIME_OF_DAY"),
      ("time_operator", .str "BETWEEN"), ("time_value", .str "22:00"), ("value2", .str "02:00")]
    let weekends : Json := .obj [("id", .str "1"), ("operator", .str "DAY_OF_WEEK"),
      ("day_of_week", .arr [.int 6, .str "0"])]
    let moons : Json :=
      .obj [("id", .str "2"), ("operator", .str "MOON_PHASE"), ("target_task_id", .str "T"),
        ("target_goal_id", .str "G"), ("day_of_week", .arr [.int 9])]
    let condition : List (Text × Json) := [("id", .str "c"), ("routine_id", .str "R"),
      ("checks", .arr [weekends, moons])]
    (∃ c, Check.fields overnight = .accept c) ∧
      ¬ (∃ d, Check.validate (.obj overnight) = .accept d) ∧
      Condition.OwnFields condition [weekends, moons] ∧
      ∃ d, Condition.validate (.obj condition) = .accept d := by
  intro overnight weekends moons condition
  let c : Check Exact :=
    ⟨"1", .timeOfDay, false, none, some "02:00", none, none, none, some .between, some "22:00", []⟩
  have typed : Check.fields overnight = .accept c := rfl
  have start : TimeOfDay.ofOptional? c.timeValue = some ⟨1320, by decide⟩ := by decide +kernel
  have stop : TimeOfDay.ofOptional? c.value2 = some ⟨120, by decide⟩ := by decide +kernel
  have refused : ¬ (∃ d, Check.validate (.obj overnight) = .accept d) := by
    rw [validate_accepts_wellFormed.1 overnight c typed]
    rintro (unknown | ⟨category, known, suits⟩)
    · exact unknown (by decide)
    · obtain ⟨op, first, operator, starts, spans⟩ := suits.time (Option.some.inj known).symm
      obtain ⟨last, stops, inOrder⟩ := spans (Option.some.inj operator).symm
      obtain rfl := Option.some.inj (start.symm.trans starts)
      obtain rfl := Option.some.inj (stop.symm.trans stops)
      exact absurd inOrder (by decide)
  have own : Condition.OwnFields condition [weekends, moons] :=
    ⟨⟨"c", rfl⟩, ⟨"R", rfl⟩, ⟨false, rfl⟩, ⟨.and, rfl⟩, rfl⟩
  let onWeekends : Check Exact :=
    ⟨"1", .dayOfWeek, false, none, none, none, none, none, none, none, [6, 0]⟩
  let atMoons : Check Exact :=
    ⟨"2", .other "MOON_PHASE", false, none, none, some "T", none, some "G", none, none, [9]⟩
  have accepted : List.Forall₂ (fun v check => Check.validate v = .accept check) [weekends, moons]
      [onWeekends, atMoons] := .cons rfl (.cons rfl .nil)
  exact ⟨⟨c, typed⟩, refused, own,
    (validate_accepts_wellFormed.2 condition _ own).2 ⟨[onWeekends, atMoons], accepted, by decide⟩⟩

end RoutineVisibility
