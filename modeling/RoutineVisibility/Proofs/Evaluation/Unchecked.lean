import RoutineVisibility.Proofs.Evaluation.Breakdown
import RoutineVisibility.Proofs.Record.Fields

/-! Evaluations of records that nobody checked fail only where an outcome cannot hold its fields. -/
namespace RoutineVisibility

theorem Verdict.orFault_eq_ok_iff {α : Type} {x : Verdict α} {a : α} :
    x.orFault = .ok a ↔ x = .accept a := by
  cases x <;> simp [orFault]

namespace Field

def IsText (x : Field Text) (s : Text) : Prop :=
  x.json .str = .str s

/-- The field holds a value that is read as this truth value. -/
def ReadsBool (x : Field Bool) (b : Bool) : Prop :=
  Coerce.bool (x.json .bool) = .accept b

theorem readsBool_value (b : Bool) : ReadsBool (.value b) b := rfl

theorem present_eq_ok_iff {x : Field Text} {s : Text} :
    x.present .str = .ok (.str s) ↔ x.IsText s := by
  unfold IsText
  cases x <;> simp [present, json]

end Field

variable {F : Type → Type} [Holding F]

/-- The outcome that is kept of a check with this answer. -/
structure Check.Records (c : Check F) (answer : Except Fault (F Bool)) (o : Outcome) : Prop where
  checkId : (view c.id).IsText o.checkId
  operator : c.operatorName = .ok o.operator
  negate : (view c.negate).ReadsBool o.negate
  /-- A check without an answer has failed, and is not met. -/
  failed : ∀ f, answer = .error f → o.result = false ∧ o.finalResult = false ∧
    o.error = some f.message
  answered : ∀ b, answer = .ok b → (view b).ReadsBool o.result ∧ o.error = none ∧
    o.finalResult =
      if ((view c.negate).json .bool).holds then !((view b).json .bool).holds else o.result

namespace Outcome
variable {c : Check F} {answer : Except Fault (F Bool)} {o : Outcome}

theorem ofFields_eq_accept {id result negate final : Json} {operator : Text} {error : Option Text} :
    ofFields id operator result negate final error = .accept o ↔
      id = .str o.checkId ∧ Coerce.bool result = .accept o.result ∧
        Coerce.bool negate = .accept o.negate ∧
        Coerce.bool final = .accept o.finalResult ∧ o.operator = operator ∧ o.error = error := by
  simp only [ofFields, Verdict.seq_eq_accept, Verdict.map_eq_accept, Verdict.inside_eq_accept,
    Coerce.text_eq_accept]
  constructor
  · intro accepted
    obtain ⟨_, _, ⟨_, _, ⟨_, _, ⟨_, id, rfl⟩, result, rfl⟩, negate, rfl⟩, final, rfl⟩ := accepted
    exact ⟨id, result, negate, final, rfl, rfl⟩
  · intro fields
    obtain ⟨id, result, negate, final, rfl, rfl⟩ := fields
    exact ⟨_, _, ⟨_, _, ⟨_, _, ⟨_, id, rfl⟩, result, rfl⟩, negate, rfl⟩, final, rfl⟩

theorem coerce_final {negate result : Json} {read final : Bool}
    (accepted : Coerce.bool result = .accept read) :
    Coerce.bool (if negate.holds then .bool !result.holds else result) = .accept final ↔
      final = if negate.holds then !result.holds else read := by
  by_cases negated : negate.holds
  · simp [negated, Coerce.bool, eq_comm]
  · simp [negated, accepted, eq_comm]

theorem ofAnswer_eq_ok_iff : ofAnswer c answer = .ok o ↔ c.Records answer o := by
  unfold ofAnswer
  simp only [Except.bind_eq_ok_iff]
  cases answer with
  | error f =>
    simp only [Verdict.orFault_eq_ok_iff, ofFields_eq_accept]
    constructor
    · intro made
      obtain ⟨operator, named, id, given, rfl, result, negate, final, rfl, error⟩ := made
      have notMet : o.result = false := (Verdict.accept.inj result).symm
      have finallyNot : o.finalResult = false := (Verdict.accept.inj final).symm
      exact {
        checkId := Field.present_eq_ok_iff.1 given
        operator := named
        negate := negate
        failed := fun e same => by
          cases same
          exact ⟨notMet, finallyNot, error⟩
        answered := nofun }
    · intro records
      obtain ⟨result, final, error⟩ := records.failed f rfl
      rw [result, final]
      exact ⟨_, records.operator, _, Field.present_eq_ok_iff.2 records.checkId, rfl, rfl,
        records.negate, rfl, rfl, error⟩
  | ok b =>
    simp only [Verdict.orFault_eq_ok_iff, ofFields_eq_accept]
    constructor
    · intro made
      obtain ⟨operator, named, id, given, rfl, result, negate, final, rfl, error⟩ := made
      exact {
        checkId := Field.present_eq_ok_iff.1 given
        operator := named
        negate := negate
        failed := nofun
        answered := fun e same => by
          cases same
          exact ⟨result, error, (coerce_final result).1 final⟩ }
    · intro records
      obtain ⟨result, error, final⟩ := records.answered b rfl
      exact ⟨_, records.operator, _, Field.present_eq_ok_iff.2 records.checkId, rfl, result,
        records.negate, (coerce_final result).2 final, rfl, error⟩

end Outcome

namespace Check
variable {c : Check F} {s : Store F} {setting : Setting} {person : Text} {context : Context}
  {o : Outcome}

/-- Whatever becomes of a check, its outcome can be kept: its name is a text, it has an operator
that can be printed, its negation is read as a truth value, and so is the goal's state that it asks
for. -/
structure Recordable (c : Check F) (s : Store F) : Prop where
  id : ∃ name, (view c.id).IsText name
  operator : view c.operator ≠ .absent
  printed : ∀ v, view c.operator = .stray v → v.printable
  negate : ∃ b, (view c.negate).ReadsBool b
  achieved : view c.operator = .value .goalAchieved → ∀ g, c.goalProgress s = .ok g →
    ∃ b, (view g.achieved).ReadsBool b

theorem outcome_eq_ok_iff :
    c.outcome s setting person context = .ok o ↔
      c.Records (c.evaluate s setting person context) o :=
  Outcome.ofAnswer_eq_ok_iff

theorem exists_operatorName_iff : (∃ name, c.operatorName = .ok name) ↔
    view c.operator ≠ .absent ∧ ∀ v, view c.operator = .stray v → v.printable := by
  unfold operatorName
  cases view c.operator with
  | value | absent => simp
  | stray v => cases printable : v.printable <;> simp [Json.printed, printable, Except.mapError]

theorem evaluate_goalAchieved (op : view c.operator = .value .goalAchieved) :
    c.evaluate s setting person context = (c.goalProgress s).map (·.achieved) := by
  unfold evaluate
  simp only [op]
  cases c.goalProgress s <;> rfl

/-- Only the state of a goal can be an answer that is no truth value. -/
theorem evaluate_eq_put {b : F Bool} (op : view c.operator ≠ .value .goalAchieved)
    (answer : c.evaluate s setting person context = .ok b) : ∃ r, b = put r := by
  have ofMap {x : Except Fault Bool} (answer : x.map put = .ok b) : ∃ r, b = put r := by
    obtain ⟨r, -, same⟩ := Except.map_eq_ok_iff.1 answer
    exact ⟨r, same.symm⟩
  unfold evaluate at answer
  cases known : view c.operator with
  | absent =>
    simp only [known] at answer
    cases answer
  | stray v =>
    simp only [known] at answer
    exact ⟨false, (Except.ok.inj answer).symm⟩
  | value operator =>
    simp only [known] at answer
    cases operator with
    | goalAchieved => exact absurd known op
    | other name => exact ⟨false, (Except.ok.inj answer).symm⟩
    | taskCompleted | taskNotCompleted | taskCount | taskValue | routinePercent | goalNotAchieved
    | timeOfDay | dayOfWeek | dateRange => exact ofMap answer

theorem exists_outcome_iff (setting : Setting) (person : Text) (context : Context) :
    (∃ o, c.outcome s setting person context = .ok o) ↔ c.Recordable s := by
  simp only [outcome_eq_ok_iff]
  constructor
  · intro kept
    obtain ⟨o, records⟩ := kept
    exact {
      id := ⟨_, records.checkId⟩
      operator := (exists_operatorName_iff.1 ⟨_, records.operator⟩).1
      printed := (exists_operatorName_iff.1 ⟨_, records.operator⟩).2
      negate := ⟨_, records.negate⟩
      achieved := fun op g found => by
        have answer : c.evaluate s setting person context = .ok g.achieved := by
          rw [evaluate_goalAchieved op, found]
          rfl
        exact ⟨_, (records.answered _ answer).1⟩ }
  · intro recordable
    obtain ⟨id, isText⟩ := recordable.id
    obtain ⟨operator, named⟩ := exists_operatorName_iff.2 ⟨recordable.operator, recordable.printed⟩
    obtain ⟨negate, reads⟩ := recordable.negate
    cases answer : c.evaluate s setting person context with
    | error f =>
      refine ⟨⟨id, operator, false, negate, false, some f.message⟩, isText, named, reads,
        fun e same => ?_, nofun⟩
      cases same
      exact ⟨rfl, rfl, rfl⟩
    | ok b =>
      -- The state of a goal is passed on as it stands; every other answer is a truth value by
      -- itself.
      have readsAnswer : ∃ r, (view b).ReadsBool r := by
        by_cases op : view c.operator = .value .goalAchieved
        · rw [evaluate_goalAchieved op] at answer
          obtain ⟨g, found, same⟩ := Except.map_eq_ok_iff.1 answer
          rw [← same]
          exact recordable.achieved op g found
        · obtain ⟨r, same⟩ := evaluate_eq_put op answer
          rw [same, Holding.view_put]
          exact ⟨r, Field.readsBool_value r⟩
      obtain ⟨r, readsAnswer⟩ := readsAnswer
      let final := if ((view c.negate).json .bool).holds then !((view b).json .bool).holds else r
      exact ⟨⟨id, operator, r, negate, final, none⟩, isText, named, reads, nofun, fun e same => by
        cases same
        exact ⟨readsAnswer, rfl, rfl⟩⟩

end Check

namespace Evaluation

theorem ofOutcomes_of_failed {outcomes : List Outcome} {name : Text} {logic : Option Logic}
    (failed : ∃ o ∈ outcomes, o.error ≠ none) :
    (ofOutcomes name logic outcomes).result = false ∧
    (ofOutcomes name logic outcomes).reason ≠ none := by
  have reason : reasonOf outcomes ≠ none := by
    rw [reasonOf_of_failed failed]
    exact Option.some_ne_none _
  have told : (reasonOf outcomes).isNone = false := by
    rw [Option.isNone_eq_false_iff]
    exact Option.isSome_iff_ne_none.2 reason
  constructor
  · simp only [ofOutcomes, told, Bool.false_and]
  · exact reason

end Evaluation

namespace Condition
variable {c : Condition F} {s : Store F} {setting : Setting} {person : Text} {context : Context}
  {e : Evaluation}

theorem evaluate_eq_ok_iff : c.evaluate s setting person context = .ok e ↔
    ∃ outcomes name,
      (c.checks.mapM fun check => check.outcome s setting person (context.frozen setting.clock)) =
        .ok outcomes ∧
        (view c.id).IsText name ∧ e = .ofOutcomes name (view c.logic).value? outcomes := by
  unfold evaluate
  simp only [Except.bind_eq_ok_iff, Verdict.orFault_eq_ok_iff, Verdict.inside_eq_accept,
    Coerce.text_eq_accept]
  constructor
  · intro made
    obtain ⟨outcomes, kept, id, given, name, rfl, last⟩ := made
    cases last
    exact ⟨outcomes, name, kept, Field.present_eq_ok_iff.1 given, rfl⟩
  · intro made
    obtain ⟨outcomes, name, kept, isText, rfl⟩ := made
    exact ⟨outcomes, kept, _, Field.present_eq_ok_iff.2 isText, name, rfl, rfl⟩

/-- Which evaluations there are for records that nobody checked, and what they say. A failure of a
check never fails the evaluation: it is kept, and the condition is not met. The evaluation fails if
and only if the name of the condition or an outcome of its checks cannot be kept. -/
theorem evaluate_unchecked (c : Condition F) (s : Store F) (setting : Setting) (person : Text)
    (context : Context) :
    ((∃ e, c.evaluate s setting person context = .ok e) ↔
      (∃ name, (view c.id).IsText name) ∧ ∀ check ∈ c.checks, check.Recordable s) ∧
    ∀ e, c.evaluate s setting person context = .ok e →
      (view c.id).IsText e.conditionId ∧
        e = .ofOutcomes e.conditionId (view c.logic).value? e.checks ∧
      List.Forall₂ (fun check o =>
          check.Records (check.evaluate s setting person (context.frozen setting.clock)) o)
        c.checks e.checks ∧
      ((∃ check ∈ c.checks, ∃ f,
          check.evaluate s setting person (context.frozen setting.clock) = .error f) →
        e.result = false ∧ e.reason ≠ none) ∧
      ((view c.logic).value? = none → e.result = false) := by
  constructor
  · simp only [← Check.exists_outcome_iff setting person (context.frozen setting.clock),
      ← Except.exists_mapM_eq_ok_iff, evaluate_eq_ok_iff]
    constructor
    · intro made
      obtain ⟨_, outcomes, name, kept, isText, -⟩ := made
      exact ⟨⟨name, isText⟩, outcomes, kept⟩
    · intro made
      obtain ⟨⟨name, isText⟩, outcomes, kept⟩ := made
      exact ⟨_, outcomes, name, kept, isText, rfl⟩
  · intro e made
    obtain ⟨outcomes, name, kept, isText, same⟩ := evaluate_eq_ok_iff.1 made
    rw [same]
    have records : List.Forall₂ (fun check o =>
          check.Records (check.evaluate s setting person (context.frozen setting.clock)) o)
        c.checks outcomes :=
      (Except.mapM_eq_ok_iff.1 kept).imp fun check o => Check.outcome_eq_ok_iff.1
    refine ⟨isText, rfl, records, ?_, ?_⟩
    · intro unanswered
      obtain ⟨check, mem, f, unanswered⟩ := unanswered
      obtain ⟨o, mem, outcome⟩ := Except.exists_mem_of_mapM kept mem
      have error : o.error = some f.message :=
        ((Check.outcome_eq_ok_iff.1 outcome).failed f unanswered).2.2
      apply Evaluation.ofOutcomes_of_failed
      exact ⟨o, mem, by rw [error]; exact Option.some_ne_none _⟩
    · intro unknown
      have never (results : List Bool) : combine none results = false := by cases results <;> rfl
      simp only [Evaluation.ofOutcomes, unknown, never, Bool.and_false]

end Condition

namespace Check

def overnight : Check Field :=
  ⟨.value "1", .value .timeOfDay, .value false, .value none, .value (some "02:00"), .value none,
    .value none, .value none, .value (some .between), .value (some "22:00"), .value []⟩

def undecided : Check Field :=
  ⟨.value "1", .value .taskCompleted, .stray .null, .value none, .value none, .value (some "T"),
    .value none, .value none, .value none, .value none, .value []⟩

end Check

namespace Condition

/-- A span of time past midnight cannot be answered: the check is reported as failed, and the
condition is not met. -/
theorem overnight_evaluate_unchecked :
    let c : Condition Field := ⟨.value "c", .value "R", .value false, .value .and, [.overnight]⟩
    ∃ e, c.evaluate .empty ⟨⟨.first, 0⟩, defaultResetTime⟩ "P" ⟨none, none⟩ = .ok e ∧
      e.conditionId = "c" ∧ e.checks.length = 1 ∧ e.result = false ∧ e.reason ≠ none := by
  intro c
  let setting : Setting := ⟨⟨.first, 0⟩, defaultResetTime⟩
  let now : Context := Context.frozen ⟨none, none⟩ setting.clock
  have unanswered : Check.overnight.evaluate .empty setting "P" now =
      .error (.spansMidnight "1" "22:00" "02:00") := rfl
  have recordable : Check.overnight.Recordable .empty :=
    ⟨⟨"1", rfl⟩, nofun, nofun, ⟨false, rfl⟩, nofun⟩
  obtain ⟨possible, made⟩ := evaluate_unchecked c .empty setting "P" ⟨none, none⟩
  have identified : ∃ name, (view c.id).IsText name := ⟨"c", rfl⟩
  obtain ⟨e, evaluated⟩ := possible.2 ⟨identified, List.forall_mem_singleton.2 recordable⟩
  obtain ⟨isText, -, records, failed, -⟩ := made e evaluated
  obtain ⟨result, reason⟩ := failed ⟨_, List.mem_cons_self, _, unanswered⟩
  exact ⟨e, evaluated, (Json.str.inj isText).symm, records.length_eq.symm, result, reason⟩

/-- The task of the check is not there. This failure is contained, but the outcome that tells of it
cannot be kept. -/
theorem not_forall_evaluate :
    let setting : Setting := ⟨⟨.first, 0⟩, defaultResetTime⟩
    let c : Condition Field := ⟨.value "c", .value "R", .value false, .value .and, [.undecided]⟩
    Check.undecided.evaluate .empty setting "P" ⟨none, none⟩ = .error (.notFound .task "T") ∧
      c.evaluate .empty setting "P" ⟨none, none⟩ =
        .error (.refused (.faults [⟨[.field "negate"], .noBool⟩])) ∧
      ¬ ∀ c : Condition Field, (∃ name, (view c.id).IsText name) →
        (∀ check ∈ c.checks, (∃ name, (view check.id).IsText name) ∧
          view check.operator ≠ .absent) →
        ∃ e, c.evaluate .empty setting "P" ⟨none, none⟩ = .ok e := by
  intro setting c
  have refused : c.evaluate .empty setting "P" ⟨none, none⟩ =
      .error (.refused (.faults [⟨[.field "negate"], .noBool⟩])) := rfl
  refine ⟨rfl, refused, fun contained => ?_⟩
  have named : ∃ name, (view Check.undecided.id).IsText name := ⟨"1", rfl⟩
  have operated : view Check.undecided.operator ≠ .absent := nofun
  obtain ⟨e, made⟩ := contained c ⟨"c", rfl⟩ (List.forall_mem_singleton.2 ⟨named, operated⟩)
  rw [refused] at made
  cases made

end Condition
end RoutineVisibility
