import RoutineVisibility.Evaluation.Check
import RoutineVisibility.Proofs.Calendar.DateText
import RoutineVisibility.Proofs.Calendar.LocalTime

/-! A range of written dates is answered by the present day alone. -/
namespace RoutineVisibility

namespace Operand
open Text

def Encloses (s : List Char) (d : Date) : Prop :=
  ∃ before after, s = before ++ d.text.toList ++ after ∧ (∀ c ∈ before, isBlank c) ∧
    ∀ c ∈ after, isBlank c

/-- Two dates with a comma between them. -/
def IsRange (text : String) (start stop : Date) : Prop :=
  ∃ first second, text.toList = first ++ ',' :: second ∧ Encloses first start ∧ Encloses second stop

section
variable {s : List Char} {d : Date}

theorem isBlank_of_mem_text {c : Char} (mem : c ∈ d.text.toList) : isBlank c = false := by
  rcases Date.mem_text mem with digit | rfl
  · exact (apart_of_isDigit (isDigit_of_isDigit digit)).1
  · decide

theorem ne_comma_of_mem_text {c : Char} (mem : c ∈ d.text.toList) : c ≠ ',' := by
  rintro rfl
  rcases Date.mem_text mem with digit | hyphen
  · exact absurd digit (by decide)
  · exact absurd hyphen (by decide)

theorem text_ne_nil : d.text.toList ≠ [] := by
  simp [Date.text]

theorem Encloses.trimmed_eq (encloses : Encloses s d) : trimmed s = d.text := by
  obtain ⟨before, after, rfl, leading, trailing⟩ := encloses
  rw [trimmed, trimBlanks, trimBy_append text_ne_nil (fun _ => isBlank_of_mem_text)
    leading trailing, String.ofList_toList]

theorem Encloses.ofText?_eq (encloses : Encloses s d) (present : Date) :
    Date.ofText? present (trimmed s) = some d := by
  rw [encloses.trimmed_eq, Date.ofText?_text]

theorem Encloses.ne_comma (encloses : Encloses s d) {c : Char} (mem : c ∈ s) : c ≠ ',' := by
  obtain ⟨before, after, rfl, leading, trailing⟩ := encloses
  have noBlank : isBlank ',' = false := by decide
  rw [List.append_assoc, List.mem_append, List.mem_append] at mem
  rintro rfl
  rcases mem with blank | inside | blank
  · exact Bool.eq_false_iff.1 noBlank (leading _ blank)
  · exact ne_comma_of_mem_text inside rfl
  · exact Bool.eq_false_iff.1 noBlank (trailing _ blank)

end

theorem halves?_append {first second : List Char} (apart : ∀ c ∈ first, c ≠ ',')
    (apart' : ∀ c ∈ second, c ≠ ',') : halves? (first ++ ',' :: second) = some (first, second) := by
  have inside : ∀ c ∈ first, decide (c ≠ ',') = true := fun c mem => decide_eq_true (apart c mem)
  have ends : ∀ c ∈ (',' :: second).head?, decide (c ≠ ',') = false := by simp
  have single : second.contains ',' = false := by
    rw [List.contains_eq_mem]
    exact decide_eq_false fun mem => apart' ',' mem rfl
  rw [halves?, List.span_eq_takeWhile_dropWhile, takeWhile_append_of_ends inside ends,
    dropWhile_append_of_ends inside ends]
  simp only [single, Bool.false_eq_true, if_false]

variable {text : String} {start stop : Date}

theorem IsRange.datesIn?_eq (range : IsRange text start stop) (present : Date) :
    datesIn? present text = some (start, stop) := by
  obtain ⟨first, second, split, opens, closes⟩ := range
  have apart : halves? text.toList = some (first, second) := by
    rw [split, halves?_append (fun _ => opens.ne_comma) (fun _ => closes.ne_comma)]
  rw [datesIn?, shown_plain, apart]
  simp [opens.ofText?_eq, closes.ofText?_eq]

end Operand

namespace Check
variable {F : Type → Type} [Holding F] {c : Check F} {s : Store F} {setting : Setting}
  {person : Text} {context : Context} {text : String} {start stop : Date}

theorem hasDate_of_isRange (value : view c.value = .value (some text))
    (range : Operand.IsRange text start stop) (clock : Clock) (now : Moment) :
    c.hasDate clock now = .ok (start ≤ now.date && now.date ≤ stop) := by
  have operand : c.operand = .str text := by
    rw [operand, value]
    rfl
  rw [hasDate, operand, Operand.dateRange, range.datesIn?_eq]
  rfl

/-- A check of a range of written dates is met from the first date to the last, both included, and
so on no day if they are in the wrong order. -/
theorem evaluate_isRange (op : view c.operator = .value .dateRange)
    (value : view c.value = .value (some text)) (range : Operand.IsRange text start stop)
    (s : Store F) (setting : Setting) (person : Text) (context : Context) :
    let today := (context.now setting.clock).date
    c.evaluate s setting person context = .ok (put (decide (start ≤ today ∧ today ≤ stop))) ∧
      (stop < start → c.evaluate s setting person context = .ok (put false)) := by
  intro today
  have answer : c.evaluate s setting person context =
      .ok (put (decide (start ≤ today ∧ today ≤ stop))) := by
    rw [evaluate]
    simp only [op, hasDate_of_isRange value range, Bool.decide_and]
    rfl
  refine ⟨answer, fun turned => ?_⟩
  have none : ¬ (start ≤ today ∧ today ≤ stop) := by
    rintro ⟨begun, open'⟩
    exact Nat.not_lt.2 (Nat.le_trans begun open') turned
  rw [answer, decide_eq_false none]

def ofEarlyYears : Check Exact :=
  ⟨"1", .dateRange, false, some "\t0012-11-10 ,0031-12-30\n", none, none, none, none,
    none, none, []⟩

/-- On 30 December of the year 31 the check is met, and with its dates in the other order it is
not. -/
theorem ofEarlyYears_evaluate :
    let setting : Setting := ⟨⟨.first, 0⟩, defaultResetTime⟩
    let context : Context := ⟨some (.onMinute 11320 600), none⟩
    let turned : Check Exact := { ofEarlyYears with value := some "0031-12-30,0012-11-10" }
    ofEarlyYears.evaluate .empty setting "P" context = .ok true ∧
      turned.evaluate .empty setting "P" context = .ok false := by
  intro setting context turned
  have range : Operand.IsRange "\t0012-11-10 ,0031-12-30\n" ⟨4331, by decide⟩ ⟨11320, by decide⟩ :=
    ⟨_, _, by decide +kernel, ⟨['\t'], [' '], rfl, List.all_eq_true.1 rfl, List.all_eq_true.1 rfl⟩,
      ⟨[], ['\n'], rfl, nofun, List.all_eq_true.1 rfl⟩⟩
  have range' : Operand.IsRange "0031-12-30,0012-11-10" ⟨11320, by decide⟩ ⟨4331, by decide⟩ :=
    ⟨_, _, by decide +kernel, ⟨[], [], rfl, nofun, nofun⟩, ⟨[], [], rfl, nofun, nofun⟩⟩
  constructor
  · exact (evaluate_isRange rfl rfl range .empty setting "P" context).1
  · exact (evaluate_isRange rfl rfl range' .empty setting "P" context).2 (by decide)

end Check
end RoutineVisibility
