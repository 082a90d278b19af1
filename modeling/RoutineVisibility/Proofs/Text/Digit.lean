import RoutineVisibility.Text.Blank
import RoutineVisibility.Text.Digit
import RoutineVisibility.Text.Letter

/-! Digits: those of ASCII write decimal numbers, and none is a blank, a sign or a letter. -/
namespace RoutineVisibility.Text

theorem digitValue?_of_isDigit {c : Char} (digit : c.isDigit) :
    digitValue? c = some (c.toNat - 48) := by
  have bounds : 48 ≤ c.toNat ∧ c.toNat ≤ 57 := by
    simp only [Char.isDigit, Bool.and_eq_true, decide_eq_true_eq] at digit
    exact ⟨digit.1, digit.2⟩
  have row : (48 ≤ c.toNat && c.toNat ≤ 48 + 9) = true := by
    simp only [Bool.and_eq_true, decide_eq_true_eq]
    omega
  have zeros : digitZeros = 48 :: digitZeros.tail := rfl
  rw [digitValue?, zeros, List.find?_cons, row]
  rfl

theorem digitsValue_eq_ofDigitChars {ds : List Char} (digits : ∀ c ∈ ds, c.isDigit) :
    digitsValue ds = Nat.ofDigitChars 10 ds 0 := by
  have value (n : Nat) : ds.foldl (fun n d => 10 * n + (digitValue? d).getD 0) n =
      Nat.ofDigitChars 10 ds n := by
    induction ds generalizing n with
    | nil => rfl
    | cons c ds ih =>
      have first : c.isDigit := digits c List.mem_cons_self
      have rest : ∀ d ∈ ds, d.isDigit := fun d mem => digits d (List.mem_cons_of_mem c mem)
      rw [List.foldl_cons, digitValue?_of_isDigit first, ih rest]
      rfl
  exact value 0

theorem digitsValue_zeros_append {k : Nat} {ds : List Char} (digits : ∀ c ∈ ds, c.isDigit) :
    digitsValue (List.replicate k '0' ++ ds) = digitsValue ds := by
  have all : ∀ c ∈ List.replicate k '0' ++ ds, c.isDigit := by
    intro c mem
    rcases List.mem_append.1 mem with zero | mem
    · rw [List.eq_of_mem_replicate zero]
      rfl
    · exact digits c mem
  rw [digitsValue_eq_ofDigitChars all, digitsValue_eq_ofDigitChars digits, Nat.ofDigitChars_append,
    Nat.ofDigitChars_replicate_zero, Nat.mul_zero]

theorem exists_row_of_isDigit {c : Char} (digit : isDigit c) :
    ∃ z ∈ digitZeros, ∃ i < 10, Char.ofNat (z + i) = c := by
  obtain ⟨v, value⟩ := Option.isSome_iff_exists.1 digit
  obtain ⟨z, found, -⟩ := Option.map_eq_some_iff.1 value
  have bounds := List.find?_some found
  simp only [Bool.and_eq_true, decide_eq_true_eq] at bounds
  refine ⟨z, List.mem_of_find?_eq_some found, c.toNat - z, by omega, ?_⟩
  rw [Nat.add_sub_cancel' bounds.1, Char.ofNat_toNat]

/-- No digit of any script is a blank or a sign. -/
theorem apart_of_isDigit {c : Char} (digit : isDigit c) :
    isBlank c = false ∧ c ≠ '+' ∧ c ≠ '-' := by
  have rows : ∀ z ∈ digitZeros, ∀ i < 10,
      isBlank (Char.ofNat (z + i)) = false ∧ Char.ofNat (z + i) ≠ '+' ∧
        Char.ofNat (z + i) ≠ '-' := by
    decide +kernel
  obtain ⟨z, mem, i, small, rfl⟩ := exists_row_of_isDigit digit
  exact rows z mem i small

theorem isDigit_of_isDigit {c : Char} (digit : c.isDigit) : isDigit c := by
  rw [isDigit, digitValue?_of_isDigit digit]
  rfl

/-- An ASCII digit is no letter of any script, and it has one case. -/
theorem uncased_of_isDigit {c : Char} (digit : c.isDigit) :
    isLetter c = false ∧ c.toLower = c ∧ c ≠ '\x00' := by
  have row : ∀ i < 10, isLetter (Char.ofNat (48 + i)) = false ∧
      (Char.ofNat (48 + i)).toLower = Char.ofNat (48 + i) ∧ Char.ofNat (48 + i) ≠ '\x00' := by
    decide +kernel
  have bounds : 48 ≤ c.toNat ∧ c.toNat ≤ 57 := by
    simp only [Char.isDigit, Bool.and_eq_true, decide_eq_true_eq] at digit
    exact ⟨digit.1, digit.2⟩
  have written : Char.ofNat (48 + (c.toNat - 48)) = c := by
    rw [Nat.add_sub_cancel' bounds.1, Char.ofNat_toNat]
  rw [← written]
  exact row (c.toNat - 48) (by omega)

theorem toLower_of_isDigit {w : String} (digits : ∀ c ∈ w.toList, c.isDigit) : w.toLower = w := by
  have same : ∀ c ∈ w.toList, c.toLower = id c :=
    fun c mem => (uncased_of_isDigit (digits c mem)).2.1
  show w.map Char.toLower = w
  rw [← String.toList_inj, String.toList_map, List.map_congr_left same, List.map_id]

end RoutineVisibility.Text
