import RoutineVisibility.Recipe
import RoutineVisibility.Record.Adopt
import RoutineVisibility.Proofs.Evaluation.TimeOfDay
import RoutineVisibility.Proofs.Evaluation.Unchecked
import RoutineVisibility.Proofs.Record.RoundTrip

/-! Lawful templates are accepted as checks, and answered by minute and weekday alone. -/
namespace RoutineVisibility.Template

def check (id : Text) : Template → Check Exact
  | .days ds => ⟨id, .dayOfWeek, false, none, none, none, none, none, none, none, ds⟩
  | .before time =>
    ⟨id, .timeOfDay, false, none, none, none, none, none, some .before, some time, []⟩
  | .between start stop =>
    ⟨id, .timeOfDay, false, none, some stop, none, none, none, some .between, some start, []⟩

/-- The days are days of the week, and the times are times of day in their order. -/
def Lawful : Template → Prop
  | .days ds => ∀ d ∈ ds, 0 ≤ d ∧ d ≤ 6
  | .before time => (TimeOfDay.parse? time).isSome
  | .between start stop =>
    ∃ first ∈ TimeOfDay.parse? start, ∃ last ∈ TimeOfDay.parse? stop, first.minute ≤ last.minute

instance : DecidablePred Lawful
  | .days ds => inferInstanceAs (Decidable (∀ d ∈ ds, 0 ≤ d ∧ d ≤ 6))
  | .before time => inferInstanceAs (Decidable ((TimeOfDay.parse? time).isSome = true))
  | .between start stop => inferInstanceAs (Decidable
    (∃ first ∈ TimeOfDay.parse? start, ∃ last ∈ TimeOfDay.parse? stop, first.minute ≤ last.minute))

def holds (t : Template) (minute weekday : Nat) : Bool :=
  match t with
  | .days ds => ds.contains (weekday : Int)
  | .before time => (TimeOfDay.parse? time).any fun t => minute < t.minute
  | .between start stop =>
    (TimeOfDay.parse? start).any (·.minute ≤ minute) &&
      (TimeOfDay.parse? stop).any (minute ≤ ·.minute)

def outcome (id : Text) (t : Template) (minute weekday : Nat) : Outcome :=
  ⟨id, Operator.name (t.check id).operator, t.holds minute weekday, false,
    t.holds minute weekday, none⟩

variable {t : Template} {id : Text}

theorem check_id (t : Template) (id : Text) : (t.check id).id = id := by
  cases t <;> rfl

theorem check_negate (t : Template) (id : Text) : (t.check id).negate = false := by
  cases t <;> rfl

theorem check_target (t : Template) (id : Text) (target : Target) :
    (t.check id).target target = none := by
  cases t <;> cases target <;> rfl

theorem Lawful.violation?_eq_none (lawful : t.Lawful) (id : Text) :
    (t.check id).violation? = none := by
  have free (target : Target) : (t.check id).target target = none := check_target t id target
  cases t with
  | days ds =>
    rw [Check.violation?_eq_none_iff]
    intro category ofDay
    obtain rfl : Category.day = category := Option.some.inj ofDay
    have noTarget (target : Target) : (check id (.days ds)).target target ≠ none ↔
        Category.day.target? = some target :=
      iff_of_false (not_not.2 (free target)) nofun
    exact ⟨noTarget, nofun, fun _ => lawful⟩
  | before time =>
    obtain ⟨start, starts⟩ := Option.isSome_iff_exists.1 lawful
    exact (Check.violation?_of_timeOfDay rfl free).2 ⟨.before, start, rfl, starts, nofun⟩
  | between start stop =>
    obtain ⟨first, starts, last, stops, inOrder⟩ := lawful
    exact (Check.violation?_of_timeOfDay rfl free).2 ⟨.between, first, rfl, starts,
      fun _ => ⟨last, stops, inOrder⟩⟩

theorem fields_eq_accept (t : Template) {id : String} (named : id ≠ "") :
    Check.fields (("id", .str id) :: t.members) = .accept (t.check id) := by
  have given : requiredField (("id", .str id) :: t.members) "id" Coerce.nonemptyText =
      .accept (id : Text) := by
    rw [requiredField_of_findMember? rfl, Coerce.nonemptyText_of_ne_empty named]
    rfl
  rw [Check.fields_eq_accept, check_id]
  cases t with
  | days ds =>
    have days : defaultField (("id", .str id) :: (Template.days ds).members) "day_of_week"
        (Coerce.list Coerce.integer) [] = .accept ds := by
      rw [defaultField_list_eq_accept rfl, List.forall₂_map_left_iff, List.forall₂_same]
      exact fun _ _ => rfl
    exact ⟨given, rfl, rfl, rfl, rfl, rfl, rfl, rfl, rfl, rfl, days⟩
  | before time => exact ⟨given, rfl, rfl, rfl, rfl, rfl, rfl, rfl, rfl, rfl, rfl⟩
  | between start stop => exact ⟨given, rfl, rfl, rfl, rfl, rfl, rfl, rfl, rfl, rfl, rfl⟩

theorem Lawful.validate_eq_accept (lawful : t.Lawful) {id : String} (named : id ≠ "") :
    Check.validate (.obj (("id", .str id) :: t.members)) = .accept (t.check id) :=
  Verdict.obeying_eq_accept.2 ⟨fields_eq_accept t named, lawful.violation?_eq_none id⟩

variable {F : Type → Type} [Holding F]

theorem evaluate_of_tells {c : Check Exact} {s : Store F} {setting : Setting} {person : Text}
    {context : Context} {b : Bool} (op : c.operator = .timeOfDay)
    (tells : c.Tells (context.now setting.clock).minuteOfDay b) :
    (c.held : Check F).evaluate s setting person context = .ok (put b) := by
  have ofTime : view (c.held : Check F).operator = .value .timeOfDay :=
    op ▸ Holding.view_put c.operator
  have told : (c.held : Check F).Tells (context.now setting.clock).minuteOfDay b :=
    tells.congr (Holding.view_put _) (Holding.view_put _) (Holding.view_put _)
  exact (Check.evaluate_eq_ok_iff_tells ofTime).2 ⟨b, told, rfl⟩

/-- Neither store nor person are looked at, and of the present moment only the minute and the day of
the week. -/
theorem Lawful.evaluate_eq (lawful : t.Lawful) (id : Text) (s : Store F) (setting : Setting)
    (person : Text) (context : Context) :
    let now := context.now setting.clock
    ((t.check id).held : Check F).evaluate s setting person context =
      .ok (put (t.holds now.minuteOfDay (context.weekday now))) := by
  intro now
  cases t with
  | days ds =>
    have op : view ((check id (.days ds)).held : Check F).operator = .value .dayOfWeek :=
      Holding.view_put _
    have given : view ((check id (.days ds)).held : Check F).dayOfWeek = .value ds :=
      Holding.view_put _
    rw [Check.evaluate]
    simp only [op, Check.hasDay, given]
    rfl
  | before time =>
    obtain ⟨start, starts⟩ := Option.isSome_iff_exists.1 lawful
    have tells : (check id (.before time)).Tells now.minuteOfDay (now.minuteOfDay < start.minute) :=
      .before rfl starts
    rw [evaluate_of_tells rfl tells, holds, starts]
    rfl
  | between start stop =>
    obtain ⟨first, starts, last, stops, inOrder⟩ := lawful
    have tells : (check id (.between start stop)).Tells now.minuteOfDay
        (first.minute ≤ now.minuteOfDay && now.minuteOfDay ≤ last.minute) :=
          .between rfl starts stops inOrder
    rw [evaluate_of_tells rfl tells, holds, starts, stops]
    rfl

theorem Lawful.outcome_eq (lawful : t.Lawful) (id : Text) (s : Store F) (setting : Setting)
    (person : Text) (context : Context) :
    let now := context.now setting.clock
    ((t.check id).held : Check F).outcome s setting person context =
      .ok (t.outcome id now.minuteOfDay (context.weekday now)) := by
  intro now
  rw [Check.outcome_eq_ok_iff, lawful.evaluate_eq id s setting person context]
  have name : view ((t.check id).held : Check F).id = .value (t.check id).id := Holding.view_put _
  have op : view ((t.check id).held : Check F).operator = .value (t.check id).operator :=
    Holding.view_put _
  have negate : view ((t.check id).held : Check F).negate = .value false := by
    rw [← check_negate t id]
    exact Holding.view_put _
  constructor
  · rw [name, check_id]
    rfl
  · rw [Check.operatorName, op]
    rfl
  · rw [negate]
    exact Field.readsBool_value false
  · exact nofun
  · intro b answer
    obtain rfl := Except.ok.inj answer
    rw [Holding.view_put, negate]
    exact ⟨Field.readsBool_value _, rfl, rfl⟩

end RoutineVisibility.Template
