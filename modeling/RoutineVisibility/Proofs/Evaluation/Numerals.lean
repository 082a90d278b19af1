import RoutineVisibility.Proofs.Evaluation.Lifetime
import RoutineVisibility.Proofs.Number.Binary64
import RoutineVisibility.Proofs.Number.Numeral

/-! The operands that cannot be read as numbers. -/
namespace RoutineVisibility

namespace Operand
open Number

/-- The integer that a text begins with has more digits than can be read, leading zeros included, or
another value has an integer in it that cannot be printed. -/
def BeyondInteger : Json → Prop
  | .str s => ∃ negative ds, BeginsWith s.shown.toList negative ds ∧ digitLimit < ds.length
  | v => v.printable = false

/-- The value is an integer beyond all floats, or another one that cannot be printed. -/
def BeyondFloat : Json → Prop
  | .int n => floatBound ≤ n.natAbs
  | v => v.printable = false

theorem exists_integerIn?_iff {s : List Char} :
    (∃ n, integerIn? s = .ok n) ↔ ¬ ∃ negative ds, BeginsWith s negative ds ∧
      digitLimit < ds.length := by
  unfold integerIn?
  simp only [← leadingInteger?_eq_some_iff]
  cases leadingInteger? s with
  | none => simp
  | some numeral =>
    obtain ⟨negative, ds⟩ := numeral
    by_cases long : digitLimit < ds.length
    · simp [integerValue, long, Except.map]
    · simp [integerValue, long, Except.map]

theorem exists_integerIn?_of_stopsWithin {n : Nat} {s : List Char} (stops : StopsWithin n s)
    (small : n ≤ digitLimit) : ∃ k, integerIn? s = .ok k := by
  rw [exists_integerIn?_iff]
  intro ⟨negative, ds, begins, long⟩
  have short : ds.length ≤ n := begins.length_le_of_stopsWithin stops
  omega

theorem length_toDigits_le_iff {n k : Nat} (positive : 0 < k) :
    (Nat.toDigits 10 n).length ≤ k ↔ n < tenTo k :=
  Nat.length_toDigits_le_iff (by decide) positive

theorem exists_integerIn?_toString_iff {n : Int} :
    (∃ k, integerIn? (toString n).toList = .ok k) ↔
    (Nat.toDigits 10 n.natAbs).length ≤ digitLimit := by
  have begins := leadingInteger?_eq_some_iff.2 (beginsWith_toString n)
  rw [exists_integerIn?_iff, ← Nat.not_lt]
  refine not_congr ?_
  constructor
  · intro ⟨negative, ds, begins', long⟩
    obtain ⟨-, rfl⟩ :=
      Prod.mk.inj (Option.some.inj (begins.symm.trans (leadingInteger?_eq_some_iff.2 begins')))
    exact long
  · intro long
    exact ⟨_, _, beginsWith_toString n, long⟩

/-- Only texts and integers begin with long integers when they are written out. -/
theorem stopsWithin_display {v : Json} (noText : ∀ s, v ≠ .str s) (noInteger : ∀ n, v ≠ .int n) :
    StopsWithin 17 v.display.shown.toList := by
  cases v with
  | null => exact ⟨[], 'N', ['o', 'n', 'e'], by simp, by decide, by decide⟩
  | bool b =>
    cases b with
    | true =>
      exact ⟨[], 'T', ['r', 'u', 'e'], by simp [Json.display, Json.displayInside],
        by decide, by decide⟩
    | false =>
      exact ⟨[], 'F', ['a', 'l', 's', 'e'], by simp [Json.display, Json.displayInside],
        by decide, by decide⟩
  | float x =>
    have text : (Json.float x).display.shown = floatText x := by
      simp [Json.display, Json.displayInside]
    rw [text]
    exact stopsWithin_floatText x
  | arr items =>
    have text : (Json.arr items).display.shown = "[" ++
        String.intercalate ", " (Json.displayItems items) ++ "]" := by
      simp [Json.display, Json.displayInside]
    rw [text, String.toList_append, String.toList_append]
    exact ⟨[], '[', _, rfl, by decide, by decide⟩
  | obj members =>
    have text : (Json.obj members).display.shown =
        "\x7b" ++ String.intercalate ", " (Json.displayMembers members) ++ "\x7d" := by
      simp [Json.display, Json.displayInside]
    rw [text, String.toList_append, String.toList_append]
    exact ⟨[], '\x7b', _, rfl, by decide, by decide⟩
  | str s => exact absurd rfl (noText s)
  | int n => exact absurd rfl (noInteger n)

theorem integer?_of_printable {v : Json} (some : v ≠ .null) (printable : v.printable) :
    integer? v = integerIn? v.display.shown.toList := by
  rw [integer?, Json.printed, if_pos printable]
  · rfl
  · exact some

theorem exists_integer?_iff_printable {v : Json} (noText : ∀ s, v ≠ .str s) :
    (∃ n, integer? v = .ok n) ↔ v.printable := by
  by_cases null : v = .null
  · rw [null]
    exact iff_of_true ⟨none, rfl⟩ rfl
  by_cases printable : v.printable
  · refine iff_of_true ?_ printable
    rw [integer?_of_printable null printable]
    cases v with
    | int n =>
      rw [Json.display_int, Text.shown_plain, exists_integerIn?_toString_iff]
      simpa [Json.printable] using printable
    | null | bool | float | str | arr | obj =>
      exact exists_integerIn?_of_stopsWithin (stopsWithin_display noText (by simp)) (by decide)
  · refine iff_of_false ?_ printable
    rw [integer?, Json.printed, if_neg printable]
    · rintro ⟨n, ⟨⟩⟩
    · exact null

theorem exists_integer?_iff {v : Json} : (∃ n, integer? v = .ok n) ↔ ¬ BeyondInteger v := by
  cases v with
  | str s =>
    rw [integer?_of_printable (by simp) (Json.printable_str s)]
    exact exists_integerIn?_iff
  | null | bool | int | float | arr | obj =>
    rw [exists_integer?_iff_printable (by simp), BeyondInteger, Bool.not_eq_false]
    exact nofun

theorem exists_integer_iff {v : Json} {default : Int} :
    (∃ n, integer v default = .ok n) ↔ ¬ BeyondInteger v := by
  rw [← exists_integer?_iff, integer]
  simp only [Except.map_eq_ok_iff]
  exact ⟨fun ⟨_, n, read, _⟩ => ⟨n, read⟩, fun ⟨n, read⟩ => ⟨_, n, read, rfl⟩⟩

theorem exists_float_iff_printable {v : Json} {default : Float}
    (reads : float? v = v.printed.map fun text =>
      (leadingDecimal? text.shown.toList).map (·.toFloat)) :
    (∃ x, float v default = .ok x) ↔ v.printable := by
  rw [float, reads, Json.printed]
  cases v.printable <;> simp [Except.map]

theorem exists_float_iff {v : Json} {default : Float} :
    (∃ x, float v default = .ok x) ↔ ¬ BeyondFloat v := by
  cases v with
  | int n =>
    rw [BeyondFloat, ← floatOfInt?_eq_none_iff, float, float?]
    cases floatOfInt? n <;> simp [Except.map]
  | null | bool | float => exact iff_of_true ⟨_, rfl⟩ (by simp [BeyondFloat, Json.printable])
  | str | arr | obj => exact (exists_float_iff_printable rfl).trans (by simp [BeyondFloat])

end Operand

namespace Check
open Operand

/-- The check counts completions of a stored task, in a period of its routine that has a start. -/
structure CountsStored (check : Check Exact) (s : Store Exact) (time : TimeOfDay) (now : Moment) :
    Prop where
  counts : ∃ comparison, check.operator = .taskCount comparison
  stored : ∃ task routine, check.targetTaskId = some task.id ∧
    Table.find? s.tasks (.value task.id) = some task ∧
    Table.find? s.routines (.value task.routineId) = some routine ∧
    ∃ since, routine.periodStart time now = .ok since

theorem CountsStored.exists_evaluate_iff {check : Check Exact} {s : Store Exact} {setting : Setting}
    {person : Text} {context : Context}
    (counted : check.CountsStored s setting.resetTime (context.now setting.clock)) :
    (∃ b, check.evaluate s setting person context = .ok b) ↔ ¬ BeyondInteger check.operand := by
  obtain ⟨⟨comparison, op⟩, task, routine, target, stored, owner, since, started⟩ := counted
  obtain ⟨log, found, -⟩ : ∃ log,
      check.taskCompletions s setting.resetTime person (context.now setting.clock) = .ok log ∧
        log.Perm _ :=
    taskCompletions_perm target stored owner started
  rw [evaluate_taskCount op found, ← exists_integer_iff]
  simp only [Except.map_eq_ok_iff, Except.mapError_eq_ok_iff]
  exact ⟨fun ⟨_, n, read, _⟩ => ⟨n, read⟩, fun ⟨n, read⟩ => ⟨_, n, read, rfl⟩⟩

end Check

namespace Operand

/-- A value is read as an integer, whatever the default is, unless it is or begins with one of more
digits than can be read, and as a float unless it is an integer beyond all floats. So a check of a
count of a stored task, whose period has a start, is answered if and only if its operand does not
begin with such a long integer. -/
theorem numbers_read_iff (v : Json) (default : Int) (default' : Float) :
    ((∃ n, integer v default = .ok n) ↔ ¬ BeyondInteger v) ∧
    ((∃ x, float v default' = .ok x) ↔ ¬ BeyondFloat v) ∧
    ∀ (check : Check Exact) (s : Store Exact) (setting : Setting) (person : Text)
      (context : Context),
      check.operand = v → check.CountsStored s setting.resetTime (context.now setting.clock) →
        ((∃ b, check.evaluate s setting person context = .ok b) ↔ ¬ BeyondInteger v) := by
  refine ⟨exists_integer_iff, exists_float_iff,
    fun check s setting person context operand counted => ?_⟩
  rw [← operand]
  exact counted.exists_evaluate_iff

def manyZeros : String :=
  String.ofList (List.replicate (Number.digitLimit + 1) '0')

theorem beyondInteger_manyZeros : BeyondInteger (.str manyZeros) := by
  refine ⟨false, List.replicate (Number.digitLimit + 1) '0',
    ⟨[], [], [], ?_, nofun, .none, ?_, ?_, nofun⟩, ?_⟩
  · rw [Text.shown_plain, manyZeros, String.toList_ofList]
    simp
  · exact List.cons_ne_nil _ _
  · intro c mem
    rw [List.eq_of_mem_replicate mem]
    decide
  · rw [List.length_replicate]
    exact Nat.lt_succ_self _

/-- A check of the closing routine is answered where it asks for two completions, and has no answer
where it asks for none with too many digits. -/
theorem closing_numbers_read_iff :
    let setting : Setting := ⟨⟨.first, 0⟩, defaultResetTime⟩
    let context : Context := ⟨some (.onMinute 739705 1434), none⟩
    let none : Check Exact := { Check.twice with value := some manyZeros }
    (∃ b, Check.twice.evaluate Store.closing setting "P" context = .ok b) ∧
      ¬ ∃ b, none.evaluate Store.closing setting "P" context = .ok b := by
  intro setting context none
  have started : Routine.closing.periodStart defaultResetTime (.onMinute 739705 1434) =
      .ok (.onMinute 739674 1435) := by decide +kernel
  have counted (check : Check Exact) (op : check.operator = .taskCount .equals)
      (target : check.targetTaskId = some "T") :
      check.CountsStored Store.closing setting.resetTime (context.now setting.clock) :=
    ⟨⟨_, op⟩, .ofClosing, .closing, target, rfl, rfl, _, started⟩
  have short : ¬ BeyondInteger Check.twice.operand := by
    have two : integer Check.twice.operand 0 = .ok 2 := by decide +kernel
    exact exists_integer_iff.1 ⟨2, two⟩
  constructor
  · have answered :=
      (numbers_read_iff Check.twice.operand 0 0).2.2 Check.twice Store.closing setting "P" context
        rfl
    exact (answered (counted _ rfl rfl)).2 short
  · have answered :=
      (numbers_read_iff (.str manyZeros) 0 0).2.2 none Store.closing setting "P" context rfl
    rw [answered (counted _ rfl rfl)]
    exact not_not_intro beyondInteger_manyZeros

/-- The readers of numbers are not total, neither for texts nor for integers. -/
theorem not_forall_read :
    (¬ ∀ (text : Text) (default : Int), ∃ n, integer (.str text) default = .ok n) ∧
      ¬ ∀ (n : Int) (default : Float), ∃ x, float (.int n) default = .ok x := by
  constructor
  · intro total
    exact exists_integer_iff.1 (total manyZeros 0) beyondInteger_manyZeros
  · intro total
    have beyond : BeyondFloat (.int (Number.tenTo 400)) := by
      show Number.floatBound ≤ ((Number.tenTo 400 : Nat) : Int).natAbs
      rw [Int.natAbs_natCast]
      decide +kernel
    exact exists_float_iff.1 (total (Number.tenTo 400) 0) beyond

end Operand
end RoutineVisibility
