import Mathlib.Data.List.TakeDrop
import RoutineVisibility.Calendar.DateText.Reader
import RoutineVisibility.Proofs.Calendar.Written
import RoutineVisibility.Proofs.Number.Numeral
import RoutineVisibility.Proofs.Text.Span

/-! The reader of free texts reads the written form of a date as this date. -/
namespace RoutineVisibility
open Number

namespace DateText
open Text

/-- A token that cannot grow any more is finished, and the next one begins. -/
theorem tokensFrom_some_cons {t : Growing} {c : Char} {s : List Char} :
    tokensFrom (some t) (c :: s) =
    match t.extend? c with
    | some t' => tokensFrom (some t') s
    | none => t.finish true ++ tokensFrom none (c :: s) := rfl

section
variable {ds s : List Char}

theorem isNumeric_of_isDigit {c : Char} (digit : c.isDigit) : isNumeric c = true := by
  rw [isNumeric, Text.isDigit_of_isDigit digit, Bool.true_or]

/-- A numeral grows by all the digits that come next. -/
theorem tokensFrom_digits (digits : ∀ c ∈ ds, c.isDigit) (chars : List Char) :
    tokensFrom (some ⟨.number, chars, false⟩) (ds ++ s) =
      tokensFrom (some ⟨.number, ds.reverse ++ chars, false⟩) s := by
  induction ds generalizing chars with
  | nil => rfl
  | cons c ds ih =>
    have rest : ∀ d ∈ ds, d.isDigit := fun d mem => digits d (List.mem_cons_of_mem c mem)
    have grows : Growing.extend? ⟨.number, chars, false⟩ c = some ⟨.number, c :: chars, false⟩ :=
      if_pos (isNumeric_of_isDigit (digits c List.mem_cons_self))
    rw [List.cons_append, tokensFrom_some_cons, grows]
    simp only [ih rest, List.reverse_cons, List.append_assoc, List.singleton_append]

theorem finish_number {chars : List Char} {followed : Bool} :
    Growing.finish ⟨.number, chars, false⟩ followed = [String.ofList chars.reverse] := rfl

theorem tokensFrom_run (some' : ds ≠ []) (digits : ∀ c ∈ ds, c.isDigit) :
    tokensFrom none (ds ++ s) = tokensFrom (some ⟨.number, ds.reverse, false⟩) s := by
  cases ds with
  | nil => exact absurd rfl some'
  | cons c ds =>
    have first : c.isDigit := digits c List.mem_cons_self
    have rest : ∀ d ∈ ds, d.isDigit := fun d mem => digits d (List.mem_cons_of_mem c mem)
    have begins : begin c = .inl ⟨.number, [c], false⟩ := by
      rw [begin, if_neg (by rw [(uncased_of_isDigit first).1]; decide),
        if_pos (isNumeric_of_isDigit first)]
    rw [List.cons_append, tokensFrom, begins]
    simp only [tokensFrom_digits rest, List.reverse_cons]

theorem isNumeric_hyphen : isNumeric '-' = false := by decide +kernel

theorem begin_hyphen : begin '-' = .inr "-" := by
  have noLetter : isLetter '-' = false := by decide +kernel
  have noBlank : isBlank '-' = false := by decide
  simp only [begin, noLetter, isNumeric_hyphen, noBlank, Bool.false_eq_true, if_false]
  rfl

theorem tokensFrom_last (some' : ds ≠ []) (digits : ∀ c ∈ ds, c.isDigit) :
    tokensFrom none ds = [String.ofList ds] := by
  have read : tokensFrom none (ds ++ []) = Growing.finish ⟨.number, ds.reverse, false⟩ false :=
    tokensFrom_run some' digits
  rw [List.append_nil] at read
  rw [read, finish_number, List.reverse_reverse]

theorem tokensFrom_hyphen (some' : ds ≠ []) (digits : ∀ c ∈ ds, c.isDigit) :
    tokensFrom none (ds ++ '-' :: s) = String.ofList ds :: "-" :: tokensFrom none s := by
  have stops : Growing.extend? ⟨.number, ds.reverse, false⟩ '-' = none := by
    simp [Growing.extend?, isNumeric_hyphen]
  rw [tokensFrom_run some' digits, tokensFrom_some_cons, stops, tokensFrom, begin_hyphen]
  simp only [finish_number, List.reverse_reverse, List.singleton_append]

end

structure Writes (w : String) (width n : Nat) : Prop where
  nonempty : w.toList ≠ []
  digits : ∀ c ∈ w.toList, c.isDigit
  length : w.toList.length = width
  value : digitsValue w.toList = n

variable {w : String} {width n : Nat}

theorem writes_padded (some : 0 < width) (fits : n < 10 ^ width) :
    Writes (padded width n) width n := by
  have length : (padded width n).toList.length = width := length_padded some fits
  refine ⟨?_, fun _ => isDigit_of_mem_padded, length, digitsValue_padded⟩
  rw [← List.length_pos_iff, length]
  exact some

namespace Writes

theorem toLower (written : Writes w width n) : w.toLower = w :=
  toLower_of_isDigit written.digits

theorem all_isDigit (written : Writes w width n) : ∀ c ∈ w.toList, Text.isDigit c :=
  fun c mem => Text.isDigit_of_isDigit (written.digits c mem)

theorem numeralIn?_eq (written : Writes w width n) : numeralIn? w = some ⟨n, []⟩ := by
  have split : w.toList.span Text.isDigit = (w.toList, []) := by
    rw [List.span_eq_takeWhile_dropWhile, List.takeWhile_eq_self_iff.2 written.all_isDigit,
      List.dropWhile_eq_nil_iff.2 written.all_isDigit]
  rw [numeralIn?, Numeral.ofText?, split]
  cases run : w.toList with
  | nil => exact absurd run written.nonempty
  | cons c ds => rw [← written.value, run]

theorem addText?_eq (written : Writes w width n) (short : width ≤ digitLimit) (p : Parts)
    (role : Option Role) : p.addText? w.toList role = p.add? n (2 < width) role := by
  have read : DateText.integer? w.toList = some n := by
    rw [DateText.integer?, if_pos ⟨written.nonempty, List.all_eq_true.2 written.all_isDigit,
      written.length.trans_le short⟩, written.value]
  rw [Parts.addText?, read, written.length]
  rfl

/-- It is no word that has letters or marks. -/
theorem not_mem (written : Writes w width n) {words : List String}
    (lettered : ∀ v ∈ words, v.toList.any fun c => !c.isDigit) : w ∉ words := by
  intro mem
  obtain ⟨c, inside, letter⟩ := List.any_eq_true.1 (lettered w mem)
  rw [written.digits c inside] at letter
  cases letter

theorem isFiller_eq (written : Writes w width n) : isFiller w = false := by
  rw [isFiller, written.toLower, List.contains_eq_mem]
  exact decide_eq_false (written.not_mem (by decide +kernel))

theorem groupOf?_eq (written : Writes w width n) {groups : List (List String)}
    (lettered : ∀ group ∈ groups, ∀ v ∈ group, v.toList.any fun c => !c.isDigit) :
    groupOf? groups w = none := by
  rw [groupOf?, List.findIdx?_eq_none_iff, written.toLower]
  intro group mem
  rw [List.contains_eq_mem]
  exact decide_eq_false (written.not_mem (lettered group mem))

theorem month?_eq (written : Writes w width n) : month? w = none := by
  rw [month?, written.groupOf?_eq (by decide +kernel), Option.map_none]

end Writes

variable {y m d : String} {a b c k l : Nat}

theorem tokens_text (year : Writes y width a) (month : Writes m k b) (day : Writes d l c) :
    tokens (y ++ "-" ++ m ++ "-" ++ d).toList = [y, "-", m, "-", d] := by
  have run : (y ++ "-" ++ m ++ "-" ++ d).toList = y.toList ++
      '-' :: (m.toList ++ '-' :: d.toList) := by simp
  have kept : ∀ c ∈ y.toList ++ '-' :: (m.toList ++ '-' :: d.toList),
      decide (c ≠ '\x00') = true := by
    have digit {w : String} {width n : Nat} (written : Writes w width n) {c : Char}
        (mem : c ∈ w.toList) :
        c ≠ '\x00' := (uncased_of_isDigit (written.digits c mem)).2.2
    simp only [List.mem_append, List.mem_cons, decide_eq_true_eq]
    rintro c (mem | rfl | mem | rfl | mem)
    · exact digit year mem
    · decide
    · exact digit month mem
    · decide
    · exact digit day mem
  rw [tokens, run, List.filter_eq_self.2 kept, tokensFrom_hyphen year.nonempty year.digits,
    tokensFrom_hyphen month.nonempty month.digits, tokensFrom_last day.nonempty day.digits]
  simp only [String.ofList_toList]

theorem addMarked?_numbers (year : Writes y 4 a) (month : Writes m 2 b) (day : Writes d 2 c) :
    Parts.empty.addMarked? y.toList "-" [m, "-", d] =
      some (⟨[a, b, c], some 0, none, true⟩, 4) := by
  have numeric : m.toList.all isNumeric = true := 
    List.all_eq_true.2 fun c mem => isNumeric_of_isDigit (month.digits c mem)
  have first : Parts.empty.addText? y.toList none = some ⟨[a], some 0, none, true⟩ :=
    year.addText?_eq (by decide) _ _
  have second : Parts.addText? ⟨[a], some 0, none, true⟩ m.toList none =
      some ⟨[a, b], some 0, none, true⟩ :=
    month.addText?_eq (by decide) _ _
  have third : Parts.addText? ⟨[a, b], some 0, none, true⟩ d.toList none =
      some ⟨[a, b, c], some 0, none, true⟩ :=
    day.addText?_eq (by decide) _ _
  simp [Parts.addMarked?, Parts.addWord?, first, second, third, month.isFiller_eq, numeric,
    day.month?_eq]

/-- The first number takes the two others along. -/
theorem step?_numbers (year : Writes y 4 a) (month : Writes m 2 b) (day : Writes d 2 c)
    (present : Nat) :
    step? present {} [] y ["-", m, "-", d] =
      some ({ parts := ⟨[a, b, c], some 0, none, true⟩ }, 4) := by
  have hyphen : unit? "-" = none := by decide +kernel
  have noUnit : unitNearby? [] ["-", m, "-", d] = none := by
    rw [unitNearby?, hyphen]
    rfl
  have empty : Parts.empty.numbers = [] := rfl
  rw [step?, year.numeralIn?_eq]
  simp [numberStep?, year.length, empty, noUnit, addMarked?_numbers year month day]

theorem readFrom?_numbers (year : Writes y 4 a) (month : Writes m 2 b) (day : Writes d 2 c)
    (present : Nat) :
    readFrom? present 0 {} [] [y, "-", m, "-", d] =
      some { parts := ⟨[a, b, c], some 0, none, true⟩ } := by
  rw [readFrom?, step?_numbers year month day]
  rfl

/-- A number in front that is known to be a year is followed by month and day, whatever the three
are. -/
theorem date?_numbers (present : Date) : 
    Found.date? { parts := ⟨[a, b, c], some 0, none, true⟩ } present = Date.ofCivil? a b c := by
  have full : fullYear present.year a true = a := by
    simp [fullYear]
  simp [Found.date?, Parts.resolve?, Parts.resolveThree, full, below, Found.offsetExists]

end DateText

namespace Date
open DateText

theorem mem_text {d : Date} {c : Char} (mem : c ∈ d.text.toList) : c.isDigit ∨ c = '-' := by
  have parts : d.text.toList = (padded 4 d.year).toList ++ '-' ::
      ((padded 2 d.month).toList ++ '-' :: (padded 2 d.dayOfMonth).toList) := by
    simp [text]
  rw [parts] at mem
  simp only [List.mem_append, List.mem_cons] at mem
  rcases mem with mem | mem | mem | mem | mem
  · exact .inl (isDigit_of_mem_padded mem)
  · exact .inr mem
  · exact .inl (isDigit_of_mem_padded mem)
  · exact .inr mem
  · exact .inl (isDigit_of_mem_padded mem)

/-- A written date is read as this date, whatever the present date is. -/
theorem ofText?_text (present d : Date) : ofText? present d.text = some d := by
  have bounds := d.dayOfMonth_bounds
  have longest : monthLength d.year d.month ≤ 31 := monthLength_le _ _
  have year : Writes (padded 4 d.year) 4 d.year :=
    writes_padded (by decide) (Nat.lt_succ_of_le d.year_le)
  have month : Writes (padded 2 d.month) 2 d.month :=
    writes_padded (by decide) (Nat.lt_of_le_of_lt d.month_le (by decide))
  have day : Writes (padded 2 d.dayOfMonth) 2 d.dayOfMonth := writes_padded (by decide) (by omega)
  rw [ofText?, text, tokens_text year month day, readFrom?_numbers year month day]
  exact (date?_numbers present).trans (ofCivil?_eq_some_iff.2 ⟨rfl, rfl, rfl⟩)

end Date
end RoutineVisibility
