import RoutineVisibility.Proofs.Evaluation.Numerals

/-! Checks of a count compare with the integer that their operand begins with. -/
namespace RoutineVisibility

namespace Operand
open Number
variable {text : Text} {n : Int}

theorem integer_eq_map (text : Text) (default : Int) :
    integer (.str text) default = (integerIn? text.shown.toList).map (·.getD default) := rfl

theorem integer_of_beginsWithDecimal (begins : BeginsWithDecimal text.shown.toList n)
    (fits : (Nat.toDigits 10 n.natAbs).length ≤ digitLimit) (default : Int) :
    integer (.str text) default = .ok n := by
  have numeral : leadingInteger? text.shown.toList =
      some (decide (n < 0), Nat.toDigits 10 n.natAbs) :=
    leadingInteger?_eq_some_iff.2 begins.beginsWith
  rw [integer_eq_map, integerIn?, numeral]
  simp only [integerValue_toDigits fits]
  rfl

/-- Off the grammar of integers, and nowhere else, a text gives the default. -/
theorem integer_eq_default_iff :
    (∀ default, integer (.str text) default = .ok default) ↔ ¬ StartsInteger text.shown.toList := by
  rw [← leadingInteger?_eq_none_iff]
  constructor
  · intro defaults
    cases read : leadingInteger? text.shown.toList with
    | none => rfl
    | some numeral =>
      -- An integer that was read, or could not be read, is the same for all defaults.
      have same : integer (.str text) 0 = integer (.str text) 1 := by
        rw [integer_eq_map, integer_eq_map, integerIn?, read]
        dsimp only
        cases integerValue numeral.1 numeral.2 <;> rfl
      rw [defaults, defaults] at same
      cases same
  · intro none default
    rw [integer_eq_map, integerIn?, none]
    rfl

end Operand

namespace Check
open Number
variable {check : Check Exact} {s : Store Exact} {setting : Setting} {person : Text}
  {context : Context} {task : Task Exact} {routine : Routine Exact} {since : Moment}

/-- A check of a count compares the completions of the current period with the integer that is read
from its operand. -/
theorem evaluate_taskCount_of_integer {comparison : Comparison} {n : Int}
    (op : check.operator = .taskCount comparison) (read : Operand.integer check.operand 0 = .ok n)
    (target : check.targetTaskId = some task.id)
    (stored : Table.find? s.tasks (.value task.id) = some task)
    (owner : Table.find? s.routines (.value task.routineId) = some routine)
    (started : routine.periodStart setting.resetTime (context.now setting.clock) = .ok since) :
    check.evaluate s setting person context =
      .ok (comparison.ofInts
        (s.recorded task.id person since (context.now setting.clock)).length n) := by
  obtain ⟨log, found, perm⟩ : ∃ log,
      check.taskCompletions s setting.resetTime person (context.now setting.clock) = .ok log ∧
        log.Perm (s.recorded task.id person since (context.now setting.clock)) :=
    taskCompletions_perm target stored owner started
  rw [evaluate_taskCount op found, read, perm.length_eq]
  rfl

structure RefersSince (check : Check Exact) (s : Store Exact) (time : TimeOfDay) (now : Moment)
    (task : Task Exact) (since : Moment) : Prop where
  target : check.targetTaskId = some task.id
  stored : Table.find? s.tasks (.value task.id) = some task
  started : ∃ routine, Table.find? s.routines (.value task.routineId) = some routine ∧
    routine.periodStart time now = .ok since

end Check

namespace Operand
open Number

/-- An integer is read from every text that begins with its decimal form, whatever the default is,
and the texts that begin with no integer are those that give the default. So a check of a count with
such an operand compares the completions of the current period with just this integer. -/
theorem decimal_read (text : Text) :
    (∀ n, BeginsWithDecimal text.shown.toList n → (Nat.toDigits 10 n.natAbs).length ≤ digitLimit →
      (∀ default, integer (.str text) default = .ok n) ∧
      ∀ (check : Check Exact) (s : Store Exact) (setting : Setting) (person : Text)
        (context : Context)
        (task : Task Exact) (since : Moment), check.value = some text →
        check.RefersSince s setting.resetTime (context.now setting.clock) task since →
        let count : Int := (s.recorded task.id person since (context.now setting.clock)).length
        (check.operator = .taskCount .equals →
          check.evaluate s setting person context = .ok (decide (count = n))) ∧
        (check.operator = .taskCount .greater →
          check.evaluate s setting person context = .ok (decide (n < count))) ∧
        (check.operator = .taskCount .less →
          check.evaluate s setting person context = .ok (decide (count < n)))) ∧
    ((∀ default, integer (.str text) default = .ok default) ↔
      ¬ StartsInteger text.shown.toList) := by
  refine ⟨fun n begins fits => ?_, integer_eq_default_iff⟩
  have read (default : Int) : integer (.str text) default = .ok n :=
    integer_of_beginsWithDecimal begins fits default
  refine ⟨read, fun check s setting person context task since value refers => ?_⟩
  obtain ⟨target, stored, routine, owner, started⟩ := refers
  have operand : check.operand = .str text := by
    rw [Check.operand, view_exact, value]
    rfl
  have compared (comparison : Comparison) (op : check.operator = .taskCount comparison) :
      check.evaluate s setting person context =
        .ok (comparison.ofInts
          (s.recorded task.id person since (context.now setting.clock)).length n) :=
    Check.evaluate_taskCount_of_integer op (operand ▸ read 0) target stored owner started
  exact ⟨compared .equals, compared .greater, compared .less⟩

/-- The least integer that can be read: as many nines as there may be, after a minus. -/
def leastInteger : Int :=
  1 - tenTo digitLimit

theorem leastInteger_fits : (Nat.toDigits 10 leastInteger.natAbs).length ≤ digitLimit := by
  have positive : 0 < tenTo digitLimit := tenTo_pos digitLimit
  rw [length_toDigits_le_iff (by decide), leastInteger]
  omega

theorem leastInteger_lt {n : Nat} (some : 0 < n) : leastInteger < n := by
  have positive : 0 < tenTo digitLimit := tenTo_pos digitLimit
  rw [leastInteger]
  omega

/-- At the end of March the task was done more often than the least integer says, and twice, as a
text says that begins with blanks and a plus. -/
theorem closing_decimal_read :
    let setting : Setting := ⟨⟨.first, 0⟩, defaultResetTime⟩
    let context : Context := ⟨some (.onMinute 739705 1434), none⟩
    let more : Check Exact :=
      { Check.twice with
        operator := .taskCount .greater
        value := some (toString leastInteger : String) }
    let twice : Check Exact := { Check.twice with value := some "\t +2 times" }
    more.evaluate Store.closing setting "P" context = .ok true ∧
      twice.evaluate Store.closing setting "P" context = .ok true := by
  intro setting context more twice
  have started : Routine.closing.periodStart defaultResetTime (.onMinute 739705 1434) =
      .ok (.onMinute 739674 1435) := by decide +kernel
  have refers (check : Check Exact) (target : check.targetTaskId = some "T") :
      check.RefersSince Store.closing setting.resetTime (context.now setting.clock) .ofClosing
        (.onMinute 739674 1435) :=
    ⟨target, rfl, .closing, rfl, started⟩
  have two : (Store.closing.recorded Task.ofClosing.id "P" (.onMinute 739674 1435)
      (context.now setting.clock)).length =
      2 := by decide +kernel
  constructor
  · have begins : BeginsWithDecimal (toString leastInteger).toList leastInteger :=
      beginsWithDecimal_toString leastInteger
    have compared :=
      ((decimal_read (toString leastInteger : String)).1 leastInteger begins leastInteger_fits).2
        more Store.closing setting "P" context
    rw [(compared _ _ rfl (refers more rfl)).2.1 rfl, two,
      decide_eq_true (leastInteger_lt (by decide))]
  · have ends : ∀ c ∈ (' ' :: "times".toList).head?, Text.isDigit c = false := by
      rintro c ⟨⟩
      decide
    have begins : BeginsWithDecimal "\t +2 times".toList 2 :=
      ⟨['\t', ' '], ['+'], ' ' :: "times".toList, by decide +kernel, List.all_eq_true.1 rfl,
        .inr ⟨rfl, by decide⟩, ends⟩
    have compared := ((decimal_read "\t +2 times").1 2 begins (by decide +kernel)).2 twice
      Store.closing setting "P" context
    rw [(compared _ _ rfl (refers twice rfl)).1 rfl, two]
    rfl

end Operand
end RoutineVisibility
