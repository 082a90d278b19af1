import Mathlib.Data.List.Basic
import Mathlib.Data.List.TakeWhile
import RoutineVisibility.Calendar.Stamp
import RoutineVisibility.Proofs.Calendar.Civil
import RoutineVisibility.Proofs.Text.Digit

/-! The reader of time stamps reads the text of a moment as this moment. -/
namespace RoutineVisibility
open Text Number

section
variable {width n : Nat}

theorem toList_padded : (padded width n).toList =
    List.replicate (width - (Nat.toDigits 10 n).length) '0' ++ Nat.toDigits 10 n :=
  String.toList_ofList

theorem isDigit_of_mem_padded {c : Char} (mem : c ∈ (padded width n).toList) : c.isDigit := by
  rw [toList_padded] at mem
  rcases List.mem_append.1 mem with zero | digit
  · rw [List.eq_of_mem_replicate zero]
    rfl
  · exact Nat.isDigit_of_mem_toDigits (by decide) (by decide) digit

theorem length_padded (some : 0 < width) (fits : n < 10 ^ width) :
    (padded width n).toList.length = width := by
  have short : (Nat.toDigits 10 n).length ≤ width :=
    (Nat.length_toDigits_le_iff (by decide) some).2 fits
  rw [toList_padded, List.length_append, List.length_replicate]
  omega

theorem digitsValue_padded : digitsValue (padded width n).toList = n := by
  have digits : ∀ c ∈ Nat.toDigits 10 n, c.isDigit :=
    fun c => Nat.isDigit_of_mem_toDigits (by decide) (by decide)
  rw [toList_padded, digitsValue_zeros_append digits, digitsValue_eq_ofDigitChars digits,
    Nat.ofDigitChars_ten_toDigits]

end

namespace Stamp

theorem asciiNumber?_padded (width n : Nat) : asciiNumber? (padded width n).toList = some n := by
  have digits : (padded width n).toList.all isAsciiDigit = true := by
    rw [List.all_eq_true]
    intro c mem
    exact isDigit_of_mem_padded mem
  rw [asciiNumber?, if_pos digits, digitsValue_padded]

theorem padded_two {n : Nat} (fits : n < 100) :
    ∃ a b, (padded 2 n).toList = [a, b] ∧ asciiNumber? [a, b] = some n := by
  have two : (padded 2 n).toList.length = 2 := length_padded (by decide) fits
  obtain ⟨a, b, digits⟩ := List.length_eq_two.1 two
  have read : asciiNumber? (padded 2 n).toList = some n := asciiNumber?_padded 2 n
  rw [digits] at read
  exact ⟨a, b, digits, read⟩

theorem padded_four {n : Nat} (fits : n < 10000) :
    ∃ a b c d, (padded 4 n).toList = [a, b, c, d] ∧ asciiNumber? [a, b, c, d] = some n := by
  have four : (padded 4 n).toList.length = 4 := length_padded (by decide) fits
  obtain ⟨a, b, c, d, digits⟩ := List.length_eq_four.1 four
  have read : asciiNumber? (padded 4 n).toList = some n := asciiNumber?_padded 4 n
  rw [digits] at read
  exact ⟨a, b, c, d, digits, read⟩

theorem civilDate_self (d : Date) : civilDate d.year d.month d.dayOfMonth = .ok d := by
  have bounds := d.dayOfMonth_bounds
  have civil : Date.ofCivil? d.year d.month d.dayOfMonth = some d :=
    Date.ofCivil?_eq_some_iff.2 ⟨rfl, rfl, rfl⟩
  rw [civilDate, if_pos ⟨d.one_le_month, d.month_le, bounds.1, bounds.2⟩, civil]

def fractionText (micro : Nat) : List Char :=
  if micro = 0 then [] else '.' :: (padded 6 micro).toList

theorem fractionMicros_padded {micro : Nat} (fits : micro < 1000000) :
    fractionMicros (padded 6 micro).toList = micro := by
  have six : (padded 6 micro).toList.length = 6 := length_padded (by decide) fits
  have all : (padded 6 micro).toList.take 6 = (padded 6 micro).toList := by
    apply List.take_of_length_le
    omega
  rw [fractionMicros, all, digitsValue_padded, six]
  exact Nat.mul_one micro

theorem secondsAndZone?_written {a b : Char} {second micro : Nat}
    (read : asciiNumber? [a, b] = some second) (inMinute : second < 60) (fits : micro < 1000000) :
    secondsAndZone? (':' :: a :: b :: fractionText micro) =
      some (second * 1000000 + micro, none) := by
  have last : second ≤ 59 := by omega
  by_cases whole : micro = 0
  · subst whole
    simp [secondsAndZone?, fractionText, read, last, zone?]
  · have digits : ∀ c ∈ (padded 6 micro).toList, isAsciiDigit c = true :=
      fun c mem => isDigit_of_mem_padded mem
    have taken : (padded 6 micro).toList.takeWhile isAsciiDigit = (padded 6 micro).toList :=
      List.takeWhile_eq_self_iff.2 digits
    have dropped : (padded 6 micro).toList.dropWhile isAsciiDigit = [] :=
      List.dropWhile_eq_nil_iff.2 digits
    have some : (padded 6 micro).toList.isEmpty = false := by
      have six : (padded 6 micro).toList.length = 6 := length_padded (by decide) fits
      rw [List.isEmpty_eq_false_iff]
      intro none
      rw [none] at six
      cases six
    simp [secondsAndZone?, fractionText, whole, read, last, taken, dropped, some,
      fractionMicros_padded fits, zone?]

theorem timeAndZone?_written {h i m n : Char} {hour minute : Nat} {rest : List Char} {micros : Nat}
    (hours : asciiNumber? [h, i] = some hour) (minutes : asciiNumber? [m, n] = some minute)
    (inDay : hour < 24) (inHour : minute < 60)
    (after : secondsAndZone? rest = some (micros, none)) :
    timeAndZone? (h :: i :: ':' :: m :: n :: rest) =
      some ((hour * 60 + minute) * minuteTicks + micros, none) := by
  have inside : hour ≤ 23 ∧ minute ≤ 59 := by omega
  simp [timeAndZone?, hours, minutes, inside, after]

theorem ofCivilText_written {y y' y'' y''' m m' d d' : Char} {date : Date} {time : List Char}
    {tick : Nat} (year : asciiNumber? [y, y', y'', y'''] = some date.year)
    (month : asciiNumber? [m, m'] = some date.month)
    (day : asciiNumber? [d, d'] = some date.dayOfMonth)
    (after : timeAndZone? time = some (tick, none)) (inDay : tick < dayTicks) :
    ofCivilText (y :: y' :: y'' :: y''' :: '-' :: m :: m' :: '-' :: d :: d' :: 'T' :: time) =
      .ok ⟨⟨date, tick, inDay⟩, none⟩ := by
  simp only [ofCivilText, year, month, day, isTimeMark, decide_true, Bool.true_or, if_true, after]
  rw [civilDate_self]
  simp only [dif_pos inDay]
  rfl

/-- A written moment is read as this moment. -/
theorem ofText_text (m : Moment) : ofText m.text = .ok ⟨m, none⟩ := by
  have bounds := m.date.dayOfMonth_bounds
  have inYear : m.date.month < 100 := Nat.lt_of_le_of_lt m.date.month_le (by decide)
  have inMonth : m.date.dayOfMonth < 100 := by
    have longest : monthLength m.date.year m.date.month ≤ 31 := monthLength_le _ _
    omega
  have inDay : m.tick < 86400000000 := m.tick_lt
  obtain ⟨y, y', y'', y''', yearDigits, year⟩ := padded_four (Nat.lt_succ_of_le m.date.year_le)
  obtain ⟨o, o', monthDigits, month⟩ := padded_two inYear
  obtain ⟨d, d', dayDigits, day⟩ := padded_two inMonth
  obtain ⟨h, h', hourDigits, hour⟩ := padded_two (n := m.tick / 1000000 / 3600) (by omega)
  obtain ⟨i, i', minuteDigits, minute⟩ := padded_two (n := m.tick / 1000000 / 60 % 60) (by omega)
  obtain ⟨s, s', secondDigits, second⟩ := padded_two (n := m.tick / 1000000 % 60) (by omega)
  have fraction : (if m.tick % 1000000 = 0 then "" else "." ++ padded 6 (m.tick % 1000000)).toList =
      fractionText (m.tick % 1000000) := by
    unfold fractionText
    split <;> simp
  have letters :
      m.text.toList = y :: y' :: y'' :: y''' :: '-' :: o :: o' :: '-' :: d :: d' :: 'T' ::
      h :: h' :: ':' :: i :: i' :: ':' :: s :: s' :: fractionText (m.tick % 1000000) := by
    simp [Moment.text, Date.text, yearDigits, monthDigits, dayDigits, hourDigits, minuteDigits,
      secondDigits, fraction]
  have seconds : secondsAndZone? (':' :: s :: s' :: fractionText (m.tick % 1000000)) =
      some (m.tick / 1000000 % 60 * 1000000 + m.tick % 1000000, none) :=
    secondsAndZone?_written second (by omega) (by omega)
  have time := timeAndZone?_written hour minute (by omega) (by omega) seconds
  have sum : (m.tick / 1000000 / 3600 * 60 + m.tick / 1000000 / 60 % 60) * minuteTicks +
      (m.tick / 1000000 % 60 * 1000000 + m.tick % 1000000) = m.tick := by
    unfold minuteTicks
    omega
  rw [sum] at time
  have read := ofCivilText_written year month day time m.tick_lt
  simp only [ofText, letters, read]

end Stamp
end RoutineVisibility
