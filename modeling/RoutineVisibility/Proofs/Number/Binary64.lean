import RoutineVisibility.Number.Binary64

/-! The integers that have a finite nearest binary64 value. -/
namespace RoutineVisibility.Number

theorem twoTo_add (m n : Nat) : twoTo (m + n) = twoTo m * twoTo n := Nat.pow_add 2 m n

theorem twoTo_succ (n : Nat) : twoTo (n + 1) = 2 * twoTo n := by
  rw [twoTo_add, Nat.mul_comm]
  rfl

theorem twoTo_pos (n : Nat) : 0 < twoTo n := Nat.pow_pos (by decide)

theorem twoTo_le_twoTo {m n : Nat} (le : m ≤ n) :
    twoTo m ≤ twoTo n := Nat.pow_le_pow_right (by decide) le

theorem twoTo_le_iff {n k : Nat} (positive : n ≠ 0) :
    twoTo k ≤ n ↔ k ≤ n.log2 := (Nat.le_log2 positive).symm

/-- A quotient is rounded up to an even number from the middle below that number on. -/
theorem le_divRoundEven_iff {num den c : Nat} (positive : 0 < den) (even : c % 2 = 0) :
    c ≤ divRoundEven num den ↔ 2 * (c * den) ≤ 2 * num + den := by
  have split : num / den * den + num % den = num := Nat.div_add_mod' num den
  have small : num % den < den := Nat.mod_lt num positive
  unfold divRoundEven
  dsimp only
  generalize num / den = q at *
  generalize num % den = r at *
  rcases Nat.lt_trichotomy c (q + 1) with below | same | above
  · have le : c * den ≤ q * den := Nat.mul_le_mul_right den (by omega)
    refine iff_of_true ?_ (by omega)
    split
    · omega
    · split <;> omega
  · have odd : q % 2 = 1 := by omega
    rw [same, Nat.add_mul, Nat.one_mul]
    split
    · omega
    · split <;> omega
  · have le : (q + 2) * den ≤ c * den := Nat.mul_le_mul_right den (by omega)
    rw [Nat.add_mul] at le
    refine iff_of_false ?_ (by omega)
    split
    · omega
    · split <;> omega

theorem binaryExponent_one {n : Nat} (positive : n ≠ 0) : binaryExponent n 1 = n.log2 := by
  have le : twoTo n.log2 ≤ n := (twoTo_le_iff positive).2 (Nat.le_refl _)
  have one : Nat.log2 1 = 0 := by decide
  unfold binaryExponent
  dsimp only
  rw [one]
  refine if_pos ?_
  simpa [twoTo] using le

/-- The least integer that is nearer to the power of two after all floats than to the largest float,
or as near. -/
def floatBound : Nat := twoTo 1024 - twoTo 970

/-- The significand of the float nearest to an integer, before it is carried into the next
binade. -/
def significand (n : Nat) : Nat :=
  divRoundEven (n * twoTo (52 - n.log2)) (twoTo (n.log2 - 52))

theorem nearestBits_one {n : Nat} (positive : n ≠ 0) :
    nearestBits n 1 = min infinityBits ((n.log2 + 1022) * twoTo 52 + significand n) := by
  have exponent : max ((n.log2 : Int) - 52) (-1074) = n.log2 - 52 := by omega
  have up : (-((n.log2 : Int) - 52)).toNat = 52 - n.log2 := by omega
  have down : ((n.log2 : Int) - 52).toNat = n.log2 - 52 := by omega
  have biased : ((n.log2 : Int) - 52 + 1074).toNat = n.log2 + 1022 := by omega
  unfold nearestBits significand
  dsimp only
  rw [if_neg positive, binaryExponent_one positive, exponent, up, down, biased, Nat.one_mul]

theorem le_significand_iff {n c : Nat} (even : c % 2 = 0) :
    c ≤ significand n ↔
      2 * (c * twoTo (n.log2 - 52)) ≤ 2 * (n * twoTo (52 - n.log2)) + twoTo (n.log2 - 52) :=
  le_divRoundEven_iff (twoTo_pos _) even

/-- Below the last binade, the significand is too small to carry up to infinity. -/
theorem significand_lt (n : Nat) : significand n < 3 * twoTo 52 := by
  rw [← Nat.not_le, le_significand_iff (by decide), Nat.not_le, Nat.mul_assoc]
  have below : n < twoTo (n.log2 + 1) := Nat.lt_log2_self
  have shifted : n * twoTo (52 - n.log2) < twoTo (n.log2 + 1) * twoTo (52 - n.log2) :=
    Nat.mul_lt_mul_of_pos_right below (twoTo_pos _)
  have same : n.log2 + 1 + (52 - n.log2) = 52 + (n.log2 - 52) + 1 := by omega
  rw [← twoTo_add, same, twoTo_succ, twoTo_add] at shifted
  have wide : twoTo (n.log2 - 52) ≤ twoTo 52 * twoTo (n.log2 - 52) :=
    Nat.le_mul_of_pos_left _ (twoTo_pos 52)
  omega

theorem floatBound_eq : floatBound = 2 * (twoTo 52 * twoTo 971) - twoTo 970 := by
  have top : twoTo 1024 = twoTo 53 * twoTo 971 := twoTo_add 53 971
  have double : twoTo 53 = 2 * twoTo 52 := twoTo_succ 52
  rw [floatBound, top, double, Nat.mul_assoc]

theorem twoTo_le_floatBound {k : Nat} (small : k ≤ 1023) : twoTo k ≤ floatBound := by
  have le : twoTo k ≤ twoTo 1023 := twoTo_le_twoTo small
  have half : twoTo 970 ≤ twoTo 1023 := twoTo_le_twoTo (by decide)
  have top : twoTo 1024 = 2 * twoTo 1023 := twoTo_succ 1023
  rw [floatBound, top]
  omega

theorem nearestBits_eq_infinityBits_iff (n : Nat) :
    nearestBits n 1 = infinityBits ↔ floatBound ≤ n := by
  by_cases zero : n = 0
  · have positive : twoTo 0 ≤ floatBound := twoTo_le_floatBound (by decide)
    have one : twoTo 0 = 1 := rfl
    rw [zero]
    exact iff_of_false (by decide) (by omega)
  have bits : infinityBits = 2047 * twoTo 52 := by decide
  have least : twoTo n.log2 ≤ n := (twoTo_le_iff zero).2 (Nat.le_refl _)
  have below : n < twoTo (n.log2 + 1) := Nat.lt_log2_self
  have capped (x : Nat) : min infinityBits x = infinityBits ↔ infinityBits ≤ x := by omega
  rw [nearestBits_one zero, capped, bits]
  rcases Nat.lt_trichotomy n.log2 1023 with small | last | large
  · -- The significand cannot carry over two binades.
    have carry := significand_lt n
    have bound : twoTo (n.log2 + 1) ≤ floatBound := twoTo_le_floatBound small
    have exponent : (n.log2 + 1022) * twoTo 52 ≤ 2044 * twoTo 52 :=
      Nat.mul_le_mul_right _ (by omega)
    exact iff_of_false (by omega) (by omega)
  · have half : twoTo 971 = 2 * twoTo 970 := twoTo_succ 970
    have carries : 2 * twoTo 52 ≤ significand n ↔
        2 * (2 * twoTo 52 * twoTo 971) ≤ 2 * (n * twoTo 0) + twoTo 971 := by
      rw [le_significand_iff (by decide), last]
    have unshifted : twoTo 0 = 1 := rfl
    rw [unshifted, Nat.mul_assoc] at carries
    rw [floatBound_eq, last]
    omega
  · have exponent : 2046 * twoTo 52 ≤ (n.log2 + 1022) * twoTo 52 :=
      Nat.mul_le_mul_right _ (by omega)
    have bound : twoTo 1024 ≤ twoTo n.log2 := twoTo_le_twoTo large
    have whole : twoTo 52 ≤ significand n := by
      rw [le_significand_iff (by decide), ← twoTo_add]
      have same : 52 + (n.log2 - 52) = n.log2 := by omega
      have unshifted : 52 - n.log2 = 0 := by omega
      have one : twoTo 0 = 1 := rfl
      rw [same, unshifted, one]
      omega
    refine iff_of_true (by omega) ?_
    rw [floatBound]
    omega

/-- Just the integers below the bound have a nearest float that is finite. -/
theorem floatOfInt?_eq_none_iff {n : Int} : floatOfInt? n = none ↔ floatBound ≤ n.natAbs := by
  rw [← nearestBits_eq_infinityBits_iff]
  unfold floatOfInt?
  dsimp only
  split
  · next infinite => exact iff_of_true rfl infinite
  · next finite => exact iff_of_false nofun finite

end RoutineVisibility.Number
