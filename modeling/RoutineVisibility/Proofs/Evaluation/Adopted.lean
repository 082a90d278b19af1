import RoutineVisibility.Proofs.Evaluation.Faults

/-! A check of the time of day that was taken over fails just when validation would have refused
it. -/
namespace RoutineVisibility
variable {α : Type} {o : List (Text × Json)} {name : String} {v : Json}

/-- A field that may be null is the same where the member is null and where it is missing. -/
theorem Adopt.field?_orNull {read? : Json → Option α}
    (given : (Json.findMember? o name).getD .null = v) :
    field? (F := Field) o name (orNull? read?) (some none) =
      some ((orNull? read? v).elim (.stray v) .value) := by
  rw [← elim_of_getD given fun v => some ((orNull? read? v).elim (Field.stray v) Field.value),
    field?]
  cases Json.findMember? o name <;> rfl

theorem Coerce.orNull_text_ofOptional (s : Option Text) :
    orNull text (.ofOptional s) = .accept s := by
  cases s <;> rfl

theorem Adopt.orNull?_text_ofOptional (s : Option Text) :
    orNull? text? (.ofOptional s) = some s := by
  cases s <;> rfl

/-- Validation and adoption know the same members of an enumeration. -/
theorem Coerce.orNull_member_eq_accept [Named α] {s : Option Text} {a : Option α} :
    orNull member (.ofOptional s) = .accept a ↔
      Adopt.orNull? Adopt.member? (.ofOptional s) = some a := by
  cases s with
  | none => simp [Json.ofOptional, orNull, Adopt.orNull?]
  | some s =>
    simp only [Json.ofOptional, Option.elim_some, orNull, Adopt.orNull?, Adopt.member?,
      Verdict.map_eq_accept, member_eq_accept, Option.map_eq_some_iff]

namespace Check

structure PrintsTime {F : Type → Type} [Holding F] (c : Check F) : Prop where
  id : ((view c.id).json .str).printable
  timeOperator : ((view c.timeOperator).json (.orNull .ofName)).printable
  timeValue : ((view c.timeValue).json .ofOptional).printable
  value2 : ((view c.value2).json .ofOptional).printable

theorem PrintsTime.blamesOperands_of_compareTime {F : Type → Type} [Holding F] {c : Check F}
    (prints : c.PrintsTime) {now : Moment} {f : Fault} (failed : c.compareTime now = .error f) :
    f.blamesOperands := by
  have blames {values : List Json} {g : Fault} (printable : ∀ v ∈ values,
      v.printable) (blamed : g.blamesOperands)
      (same : Except.error (g.naming values) = (.error f : Except Fault Bool)) :
        f.blamesOperands := by
    rwa [← Except.error.inj same, Fault.naming_of_printable printable]
  unfold compareTime at failed
  dsimp only at failed
  split at failed
  · exact blames (by simp [prints.id, prints.timeValue]) rfl failed
  · split at failed
    · cases failed
    · cases failed
    · split at failed
      · exact blames (by simp [prints.id]) rfl failed
      · split at failed
        · exact blames (by simp [prints.id, prints.timeValue, prints.value2]) rfl failed
        · cases failed
    · exact blames (by simp [prints.id, prints.timeOperator]) rfl failed

/-- The members of a check of the time of day that refers to nothing. Its operands are texts or
null, its name is not empty and has no surrogate that stands alone, and all else has the right
type. -/
structure TimeMembers (o : List (Text × Json)) (op given last : Option Text) : Prop where
  id : ∃ name : String, name ≠ "" ∧ Json.findMember? o "id" = some (.str name)
  operator : Json.findMember? o "operator" = some (.str "TIME_OF_DAY")
  negate : ∃ b, defaultField o "negate" Coerce.bool false = .accept b
  value : ∃ v, defaultField o "value" (Coerce.orNull Coerce.text) none = .accept v
  days : ∃ ds, defaultField o "day_of_week" (Coerce.list Coerce.integer) [] = .accept ds
  target : ∀ t : Target, (Json.findMember? o t.fieldName).getD .null = .null
  timeOperator : (Json.findMember? o "time_operator").getD .null = .ofOptional op
  timeValue : (Json.findMember? o "time_value").getD .null = .ofOptional given
  value2 : (Json.findMember? o "value2").getD .null = .ofOptional last

def timeOperatorOf? (op : Option Text) : Option (Option TimeOperator) :=
  Adopt.orNull? Adopt.member? (.ofOptional op)

structure TakesTime (c : Check Field) (op given last : Option Text) : Prop where
  id : ∃ name, c.id = .value name
  operator : c.operator = .value .timeOfDay
  timeOperator : c.timeOperator = (timeOperatorOf? op).elim (.stray (.ofOptional op)) .value
  timeValue : c.timeValue = .value given
  value2 : c.value2 = .value last

variable {op given last : Option Text} {minute : Nat} {b : Bool}

theorem eq_name_of_timeOperatorOf? {t : TimeOperator} (known : timeOperatorOf? op = some (some t)) :
    op = some (Named.name t) := by
  cases op with
  | none => cases known
  | some s =>
    obtain ⟨t', found, same⟩ := Option.map_eq_some_iff.1 known
    cases same
    exact congrArg some (Named.name_of_ofName? found).symm

theorem TakesTime.known {c : Check Field} (takes : c.TakesTime op given last)
    {t : Option TimeOperator} (compares : view c.timeOperator = .value t) :
    timeOperatorOf? op = some t := by
  have compares : c.timeOperator = .value t := compares
  rw [takes.timeOperator] at compares
  cases known : timeOperatorOf? op with
  | none =>
    rw [known] at compares
    cases compares
  | some t' =>
    rw [known] at compares
    exact congrArg some (Field.value.inj compares)

theorem printable_ofOptional (s : Option Text) : (Json.ofOptional s).printable := by
  cases s <;> simp [Json.ofOptional]

theorem TakesTime.printsTime {c : Check Field} (takes : c.TakesTime op given last) :
    c.PrintsTime := by
  obtain ⟨name, id⟩ := takes.id
  constructor
  · rw [id]
    exact Json.printable_str name
  · rw [takes.timeOperator]
    cases timeOperatorOf? op with
    | none => exact printable_ofOptional op
    | some t => cases t <;> simp [view, Field.json, Json.orNull, Json.ofName]
  · rw [takes.timeValue]
    exact printable_ofOptional given
  · rw [takes.value2]
    exact printable_ofOptional last

theorem TakesTime.startTime?_eq {c : Check Field} (takes : c.TakesTime op given last) :
    c.startTime? = TimeOfDay.ofOptional? given := by
  rw [startTime?, takes.timeValue]
  exact Operand.timeOfDay?_ofOptional given

namespace TimeMembers

theorem exists_adopt? (members : TimeMembers o op given last) :
    ∃ c : Check Field, Check.adopt? (.obj o) = some c ∧ c.TakesTime op given last := by
  obtain ⟨name, -, named⟩ := members.id
  obtain ⟨c, adopted, id, operator, timeOperator, timeValue, value2⟩ :
      ∃ c : Check Field, Check.adopt? (.obj o) = some c ∧
        Adopt.field? o "id" Adopt.text? none = some c.id ∧
        Adopt.field? o "operator" Adopt.operator? none = some c.operator ∧
        Adopt.field? o "time_operator" (Adopt.orNull? Adopt.member?) (some none) =
          some c.timeOperator ∧
        Adopt.field? o "time_value" (Adopt.orNull? Adopt.text?) (some none) = some c.timeValue ∧
        Adopt.field? o "value2" (Adopt.orNull? Adopt.text?) (some none) = some c.value2 :=
    ⟨_, rfl, rfl, rfl, rfl, rfl, rfl⟩
  rw [Adopt.field?, named] at id
  rw [Adopt.field?, members.operator] at operator
  rw [Adopt.field?_orNull members.timeOperator] at timeOperator
  rw [Adopt.field?_orNull members.timeValue, Adopt.orNull?_text_ofOptional] at timeValue
  rw [Adopt.field?_orNull members.value2, Adopt.orNull?_text_ofOptional] at value2
  refine ⟨c, adopted, ?_, ?_, ?_, ?_, ?_⟩
  · exact ⟨name, (Option.some.inj id).symm⟩
  · exact (Option.some.inj operator).symm
  · exact (Option.some.inj timeOperator).symm
  · exact (Option.some.inj timeValue).symm
  · exact (Option.some.inj value2).symm

theorem exists_fields (members : TimeMembers o op given last) {t : Option TimeOperator}
    (known : timeOperatorOf? op = some t) :
    ∃ d : Check Exact, Check.fields o = .accept d ∧ d.operator = .timeOfDay ∧
      (∀ t, d.target t = none) ∧
      d.timeOperator = t ∧ d.timeValue = given ∧ d.value2 = last := by
  obtain ⟨⟨name, some, named⟩, operator, ⟨b, negate⟩, ⟨v, value⟩, ⟨ds, days⟩, target, timeOperator,
      timeValue, value2⟩ :=
    members
  have id : requiredField o "id" Coerce.nonemptyText = .accept (name : Text) := by
    rw [requiredField_of_findMember? named, Coerce.nonemptyText_of_ne_empty some]
    rfl
  have reads : requiredField o "operator" Coerce.operator = .accept .timeOfDay := by
    rw [requiredField_of_findMember? operator]
    rfl
  have noTarget (t : Target) : defaultField o t.fieldName (Coerce.orNull Coerce.text) none =
      .accept none :=
    (defaultField_orNull_eq_accept (target t)).2 rfl
  have compares :=
    (defaultField_orNull_eq_accept timeOperator).2 (Coerce.orNull_member_eq_accept.2 known)
  have starts := (defaultField_orNull_eq_accept timeValue).2 (Coerce.orNull_text_ofOptional given)
  have stops := (defaultField_orNull_eq_accept value2).2 (Coerce.orNull_text_ofOptional last)
  refine ⟨⟨name, .timeOfDay, b, v, last, none, none, none, t, given, ds⟩,
    ?_, rfl, fun t => ?_, rfl, rfl, rfl⟩
  · exact Check.fields_eq_accept.2 ⟨id, reads, negate, value, stops, noTarget .task,
      noTarget .routine, noTarget .goal, compares, starts, days⟩
  · cases t <;> rfl

/-- An operator that is no operator of time is refused before its operands are looked at. -/
theorem timeOperatorOf?_of_validate (members : TimeMembers o op given last) {d : Check Exact}
    (accepted : Check.validate (.obj o) = .accept d) :
    timeOperatorOf? op = some d.timeOperator := by
  have fields := (Verdict.obeying_eq_accept.1 accepted).1
  obtain ⟨-, -, -, -, -, -, -, -, compares, -, -⟩ := Check.fields_eq_accept.1 fields
  exact Coerce.orNull_member_eq_accept.1
    ((defaultField_orNull_eq_accept members.timeOperator).1 compares)

theorem exists_tells_iff_validate (members : TimeMembers o op given last) {c : Check Field}
    (takes : c.TakesTime op given last) :
    (∃ b, c.Tells minute b) ↔ ∃ d, Check.validate (.obj o) = .accept d := by
  constructor
  · intro ⟨b, tells⟩
    obtain ⟨t, compares⟩ := tells.exists_timeOperator
    have known : timeOperatorOf? op = some (some t) := takes.known compares
    obtain ⟨d, fields, operator, noTarget, timeOperator, timeValue, value2⟩ :=
      members.exists_fields known
    have same : d.Tells minute b := by
      refine tells.congr ?_ ?_ ?_
      · exact (congrArg Field.value timeOperator).trans compares.symm
      · exact (congrArg Field.value timeValue).trans takes.timeValue.symm
      · exact (congrArg Field.value value2).trans takes.value2.symm
    have kept : d.violation? = none :=
      (violation?_of_timeOfDay operator noTarget).2 (exists_tells_iff.1 ⟨b, same⟩)
    exact ⟨d, Verdict.obeying_eq_accept.2 ⟨fields, kept⟩⟩
  · intro ⟨d, accepted⟩
    have known := members.timeOperatorOf?_of_validate accepted
    obtain ⟨d', fields, operator, noTarget, timeOperator, timeValue, value2⟩ :=
      members.exists_fields known
    obtain ⟨fields', kept⟩ := Verdict.obeying_eq_accept.1 accepted
    obtain rfl : d' = d := Verdict.accept.inj (fields.symm.trans fields')
    obtain ⟨b, tells⟩ := exists_tells_iff.2 ((violation?_of_timeOfDay operator noTarget).1 kept)
    refine ⟨b, tells.congr ?_ ?_ ?_⟩
    · rw [view_exact, takes.timeOperator, known]
      rfl
    · exact takes.timeValue.trans (congrArg Field.value timeValue.symm)
    · exact takes.value2.trans (congrArg Field.value value2.symm)

end TimeMembers

/-- Both ends of a span of time, each compared by itself. -/
theorem evaluate_ends {c : Check Field} (op : view c.operator = .value .timeOfDay)
    {start stop : TimeOfDay} (starts : c.startTime? = some start) (stops : c.stopTime? = some stop)
    (s : Store Field) (setting : Setting) (person : Text) (context : Context) :
    let minute := (context.now setting.clock).minuteOfDay
    { c with timeOperator := .value (some .before) }.evaluate s setting person context =
        .ok (.value (decide (minute < start.minute))) ∧
      { c with timeOperator := .value (some .after), timeValue := c.value2 }.evaluate
          s setting person context =
        .ok (.value (decide (stop.minute < minute))) := by
  intro minute
  have tellsStart :
      Tells { c with timeOperator := .value (some .before) } minute (minute < start.minute) :=
    .before rfl starts
  have tellsStop :
      Tells { c with timeOperator := .value (some .after), timeValue := c.value2 } minute
      (stop.minute < minute) :=
    .after rfl stops
  constructor
  · refine (evaluate_eq_ok_iff_tells ?_).2 ⟨_, tellsStart, rfl⟩
    exact op
  · refine (evaluate_eq_ok_iff_tells ?_).2 ⟨_, tellsStop, rfl⟩
    exact op

/-- A check of the time of day that was taken over with texts for its operands fails at a moment,
blaming its operands, if and only if validation refuses it. If it does not fail, it compares the
minute of the moment with its operands, and a span of time is what is neither before its start nor
after its end. -/
theorem adopted_evaluate_fails_iff_refused (o : List (Text × Json)) (op given last : Option Text)
    (members : TimeMembers o op given last) :
    ∃ c : Check Field, Check.adopt? (.obj o) = some c ∧
      ∀ (s : Store Field) (setting : Setting) (person : Text) (context : Context),
        let minute := (context.now setting.clock).minuteOfDay
        let answer (c : Check Field) := c.evaluate s setting person context
        ((∃ f, answer c = .error f) ↔ ¬ ∃ d, Check.validate (.obj o) = .accept d) ∧
        (∀ f, answer c = .error f → f.blamesOperands) ∧
        ∀ b, answer c = .ok b → ∃ start, TimeOfDay.ofOptional? given = some start ∧
          ((op = some "BEFORE" ∧ b = .value (minute < start.minute)) ∨
            (op = some "AFTER" ∧ b = .value (start.minute < minute)) ∨
            (op = some "BETWEEN" ∧ ∃ before after,
              answer { c with timeOperator := .value (some .before) } = .ok (.value before) ∧
              answer { c with timeOperator := .value (some .after), timeValue := c.value2 } =
                .ok (.value after) ∧
              b = .value (!before && !after))) := by
  obtain ⟨c, adopted, takes⟩ := members.exists_adopt?
  refine ⟨c, adopted, fun s setting person context => ?_⟩
  intro minute answer
  refine ⟨?_, fun f failed => ?_, fun x told => ?_⟩
  · have same : (∃ b, c.Tells minute b) ↔ ∃ d, Check.validate (.obj o) = .accept d :=
      members.exists_tells_iff_validate takes
    rw [← same]
    exact exists_error_iff_not_tells takes.operator
  · have failed : (c.compareTime (context.now setting.clock)).map put = .error f :=
      (evaluate_timeOfDay takes.operator).symm.trans failed
    exact takes.printsTime.blamesOperands_of_compareTime (Except.map_eq_error_iff.1 failed)
  · obtain ⟨b, tells, rfl⟩ : ∃ b, c.Tells minute b ∧ .value b = x :=
      (evaluate_eq_ok_iff_tells takes.operator).1 told
    cases tells with
    | @before start compares starts =>
      refine ⟨start, takes.startTime?_eq.symm.trans starts, .inl ⟨?_, rfl⟩⟩
      exact eq_name_of_timeOperatorOf? (takes.known compares)
    | @after start compares starts =>
      refine ⟨start, takes.startTime?_eq.symm.trans starts, .inr (.inl ⟨?_, rfl⟩)⟩
      exact eq_name_of_timeOperatorOf? (takes.known compares)
    | @between start stop compares starts stops inOrder =>
      refine ⟨start, takes.startTime?_eq.symm.trans starts, .inr (.inr ⟨?_, ?_⟩)⟩
      · exact eq_name_of_timeOperatorOf? (takes.known compares)
      · obtain ⟨beforeStart, afterStop⟩ :=
          evaluate_ends takes.operator starts stops s setting person context
        refine ⟨_, _, beforeStart, afterStop, congrArg Field.value ?_⟩
        simp only [minute, ← decide_not, Nat.not_lt]

def spanOfTime (start stop : Text) : List (Text × Json) :=
  [("id", .str "1"), ("operator", .str "TIME_OF_DAY"), ("time_operator", .str "BETWEEN"),
    ("time_value", .str start), ("value2", .str stop)]

theorem timeMembers_spanOfTime (start stop : Text) :
    TimeMembers (spanOfTime start stop) (some "BETWEEN") (some start) (some stop) where
  id := ⟨"1", by decide, rfl⟩
  operator := rfl
  negate := ⟨false, rfl⟩
  value := ⟨none, rfl⟩
  days := ⟨[], rfl⟩
  target t := by cases t <;> rfl
  timeOperator := rfl
  timeValue := rfl
  value2 := rfl

/-- Office hours are accepted, and never fail. The hours of the night are refused, and fail at every
moment. -/
theorem spans_evaluate_fails_iff_refused :
    (∃ c : Check Field, Check.adopt? (.obj (spanOfTime "9:00" "17:30 ")) = some c ∧
      ∀ s setting person context, ∃ b, c.evaluate s setting person context = .ok b) ∧
    ∃ c : Check Field, Check.adopt? (.obj (spanOfTime "22:00" "06:00")) = some c ∧
      ∀ s setting person context, ∃ f, c.evaluate s setting person context = .error f ∧
        f.blamesOperands := by
  constructor
  · obtain ⟨c, adopted, agrees⟩ :=
      adopted_evaluate_fails_iff_refused _ _ _ _ (timeMembers_spanOfTime "9:00" "17:30 ")
    have accepted : ∃ d, Check.validate (.obj (spanOfTime "9:00" "17:30 ")) = .accept d := ⟨_, rfl⟩
    refine ⟨c, adopted, fun s setting person context => ?_⟩
    cases told : c.evaluate s setting person context with
    | ok b => exact ⟨b, rfl⟩
    | error f => exact absurd accepted ((agrees s setting person context).1.1 ⟨f, told⟩)
  · obtain ⟨c, adopted, agrees⟩ :=
      adopted_evaluate_fails_iff_refused _ _ _ _ (timeMembers_spanOfTime "22:00" "06:00")
    have refused : ¬ ∃ d, Check.validate (.obj (spanOfTime "22:00" "06:00")) = .accept d := by
      intro ⟨d, accepted⟩
      cases accepted
    refine ⟨c, adopted, fun s setting person context => ?_⟩
    obtain ⟨failed, blames, -⟩ := agrees s setting person context
    obtain ⟨f, told⟩ := failed.2 refused
    exact ⟨f, told, blames f told⟩

/-- A check is refused for a name that is a surrogate alone, but it is answered at every moment. -/
theorem not_forall_fails_iff_refused :
    let o : List (Text × Json) :=
      [("id", .str (.ofPoints [0xd800])), ("operator", .str "TIME_OF_DAY"),
        ("time_operator", .str "BEFORE"), ("time_value", .str "12:00")]
    (¬ ∃ d, Check.validate (.obj o) = .accept d) ∧
      ∃ c : Check Field, Check.adopt? (.obj o) = some c ∧
        ∀ s setting person context, ∃ b, c.evaluate s setting person context = .ok b := by
  intro o
  constructor
  · intro ⟨d, accepted⟩
    cases accepted
  · obtain ⟨c, adopted, op, compares, starts⟩ : ∃ c : Check Field, Check.adopt? (.obj o) = some c ∧
        view c.operator = .value .timeOfDay ∧ view c.timeOperator = .value (some .before) ∧
        c.startTime? = some ⟨720, by decide⟩ := ⟨_, rfl, rfl, rfl, rfl⟩
    refine ⟨c, adopted, fun s setting person context => ?_⟩
    exact ⟨_, (evaluate_eq_ok_iff_tells op).2 ⟨_, .before compares starts, rfl⟩⟩

end Check
end RoutineVisibility
