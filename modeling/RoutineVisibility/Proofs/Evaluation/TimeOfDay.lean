import RoutineVisibility.Evaluation.Check
import RoutineVisibility.Proofs.Except
import RoutineVisibility.Proofs.Record.WellFormed

/-! What a check of the time of day says, apart from the order in which its operands are read. -/
namespace RoutineVisibility

theorem Operand.timeOfDay?_ofOptional (s : Option Text) :
    timeOfDay? (Field.json Json.ofOptional (.value s)) = TimeOfDay.ofOptional? s := by
  cases s <;> rfl

namespace Check
variable {F : Type → Type} [Holding F]

/-- The time of day that a check compares with; of a span of time, its start. -/
def startTime? (c : Check F) : Option TimeOfDay :=
  Operand.timeOfDay? ((view c.timeValue).json Json.ofOptional)

def stopTime? (c : Check F) : Option TimeOfDay :=
  Operand.timeOfDay? ((view c.value2).json Json.ofOptional)

/-- What a check of the time of day says at a minute of the day, if it has the operands for it. -/
inductive Tells (c : Check F) (minute : Nat) : Bool → Prop where
  | before {start : TimeOfDay} (op : view c.timeOperator = .value (some .before))
    (starts : c.startTime? = some start) :
    Tells c minute (minute < start.minute)
  | after {start : TimeOfDay} (op : view c.timeOperator = .value (some .after))
    (starts : c.startTime? = some start) :
    Tells c minute (start.minute < minute)
  | between {start stop : TimeOfDay} (op : view c.timeOperator = .value (some .between))
    (starts : c.startTime? = some start) (stops : c.stopTime? = some stop)
    (inOrder : start.minute ≤ stop.minute) :
    Tells c minute (start.minute ≤ minute && minute ≤ stop.minute)

variable {c : Check F} {minute : Nat} {now : Moment} {b : Bool}

theorem compareTime_eq_ok_iff : c.compareTime now = .ok b ↔ c.Tells now.minuteOfDay b := by
  constructor
  · intro told
    unfold compareTime at told
    dsimp only at told
    split at told
    · cases told
    · next start starts =>
      split at told
      · next op =>
        cases told
        exact .before op starts
      · next op =>
        cases told
        exact .after op starts
      · next op =>
        split at told
        · cases told
        · next stop stops =>
          split at told
          · cases told
          · next inOrder =>
            cases told
            exact .between op starts stops (Nat.not_lt.1 inOrder)
      · cases told
  · intro tells
    unfold compareTime
    cases tells with
    | before op starts =>
      unfold startTime? at starts
      simp only [starts, op]
    | after op starts =>
      unfold startTime? at starts
      simp only [starts, op]
    | between op starts stops inOrder =>
      unfold startTime? at starts
      unfold stopTime? at stops
      simp only [starts, op, stops, if_neg (Nat.not_lt.2 inOrder)]

/-- Well-formed operands are those with which a check says something. -/
theorem exists_tells_iff {c : Check Exact} : (∃ b, c.Tells minute b) ↔ c.GivesTime := by
  have starting : c.startTime? = TimeOfDay.ofOptional? c.timeValue :=
    Operand.timeOfDay?_ofOptional c.timeValue
  have stopping : c.stopTime? = TimeOfDay.ofOptional? c.value2 :=
    Operand.timeOfDay?_ofOptional c.value2
  unfold GivesTime
  rw [← starting, ← stopping]
  constructor
  · intro ⟨b, tells⟩
    cases tells with
    | before op starts => exact ⟨_, _, Field.value.inj op, starts, nofun⟩
    | after op starts => exact ⟨_, _, Field.value.inj op, starts, nofun⟩
    | between op starts stops inOrder =>
      exact ⟨_, _, Field.value.inj op, starts, fun _ => ⟨_, stops, inOrder⟩⟩
  · intro ⟨op, start, operator, starts, spans⟩
    have operator : view c.timeOperator = .value (some op) := congrArg Field.value operator
    cases op with
    | before => exact ⟨_, .before operator starts⟩
    | after => exact ⟨_, .after operator starts⟩
    | between =>
      obtain ⟨stop, stops, inOrder⟩ := spans rfl
      exact ⟨_, .between operator starts stops inOrder⟩

/-- What a check says depends on its operands alone. -/
theorem Tells.congr {G : Type → Type} [Holding G] {d : Check G}
    (op : view d.timeOperator = view c.timeOperator) (given : view d.timeValue = view c.timeValue)
    (last : view d.value2 = view c.value2) (tells : c.Tells minute b) : d.Tells minute b := by
  have starting : d.startTime? = c.startTime? := by rw [startTime?, startTime?, given]
  have stopping : d.stopTime? = c.stopTime? := by rw [stopTime?, stopTime?, last]
  cases tells with
  | before before starts => exact .before (op.trans before) (starting.trans starts)
  | after after starts => exact .after (op.trans after) (starting.trans starts)
  | between between starts stops inOrder =>
    exact .between (op.trans between) (starting.trans starts) (stopping.trans stops) inOrder

theorem Tells.exists_timeOperator (tells : c.Tells minute b) :
    ∃ t, view c.timeOperator = .value (some t) := by
  cases tells with
  | before op => exact ⟨_, op⟩
  | after op => exact ⟨_, op⟩
  | between op => exact ⟨_, op⟩

variable {s : Store F} {setting : Setting} {person : Text} {context : Context}

theorem evaluate_timeOfDay (op : view c.operator = .value .timeOfDay) :
    c.evaluate s setting person context = (c.compareTime (context.now setting.clock)).map put := by
  unfold evaluate
  simp only [op]

theorem evaluate_eq_ok_iff_tells (op : view c.operator = .value .timeOfDay) {answer : F Bool} :
    c.evaluate s setting person context = .ok answer ↔
      ∃ b, c.Tells (context.now setting.clock).minuteOfDay b ∧ put b = answer := by
  rw [evaluate_timeOfDay op, Except.map_eq_ok_iff]
  simp only [compareTime_eq_ok_iff]

/-- A check of the time of day fails where it says nothing. -/
theorem exists_error_iff_not_tells (op : view c.operator = .value .timeOfDay) :
    (∃ f, c.evaluate s setting person context = .error f) ↔
      ¬ ∃ b, c.Tells (context.now setting.clock).minuteOfDay b := by
  cases answered : c.evaluate s setting person context with
  | error f =>
    refine iff_of_true ⟨f, rfl⟩ fun ⟨b, tells⟩ => ?_
    have told : c.evaluate s setting person context = .ok (put b) :=
      (evaluate_eq_ok_iff_tells op).2 ⟨b, tells, rfl⟩
    exact nomatch answered.symm.trans told
  | ok x =>
    obtain ⟨b, tells, -⟩ := (evaluate_eq_ok_iff_tells op).1 answered
    exact iff_of_false nofun fun silent => silent ⟨b, tells⟩

/-- The rules of a check of the time of day without references ask for its operands. -/
theorem violation?_of_timeOfDay {c : Check Exact} (op : c.operator = .timeOfDay)
    (free : ∀ t, c.target t = none) : c.violation? = none ↔ c.GivesTime := by
  have ofTime : Operator.category? c.operator = some .time := congrArg Operator.category? op
  rw [violation?_eq_none_iff, ofTime]
  constructor
  · intro suits
    exact (suits .time rfl).time rfl
  · intro gives category same
    cases same
    refine ⟨fun t => ?_, fun _ => gives, nofun⟩
    simp [free t, Category.target?]

end Check
end RoutineVisibility
