import SqlStore.Integer
import SqlStore.Proofs.Binary64.Rounding

/-!
# Numbers narrowed to integers

A number becomes a 64-bit integer in steps that never leave the machine's formats: it must have no
fraction, it must lie between the least and the greatest integer as far as these are numbers
themselves, and then what stands in front of its point is taken, brought into range. The greatest
integer is not a number; it is rounded up to `2 ^ 63`, which the comparison leaves out.
`narrow?_eq` says that nothing is rounded, cut off or wrapped around on the way: the outcome is the
integer that the number is, if it is one that fits.
-/

namespace SqlStore.Binary64

/-! ## The order of numbers -/

/-- The magnitude with its sign. Both zeroes have none. -/
def signedMagnitude (x : Binary64) : ℤ :=
  if x.isNegative then -x.magnitude else x.magnitude

/-- No not-a-number is at most or at least another number. -/
def numLe (x y : Binary64) : Bool :=
  !x.isNaN && !y.isNaN && decide (x.signedMagnitude ≤ y.signedMagnitude)

def numLt (x y : Binary64) : Bool :=
  !x.isNaN && !y.isNaN && decide (x.signedMagnitude < y.signedMagnitude)

theorem value_eq_abs (x : Binary64) :
    x.value = if x.isNegative then -|x.value| else |x.value| := by
  have signs (m : ℕ) : (0 : ℚ) ≤ m / x.denominator := by positivity
  rw [value, numerator]
  cases x.isNegative
  · simp only [Bool.false_eq_true, if_false, Int.cast_natCast, abs_of_nonneg (signs _)]
  · simp only [if_true, Int.cast_neg, Int.cast_natCast, neg_div, abs_neg, abs_of_nonneg (signs _)]

section Finite

variable {x y : Binary64} (hx : x.isFinite = true) (hy : y.isFinite = true)

include hx hy

theorem magnitude_le_iff : x.magnitude ≤ y.magnitude ↔ |x.value| ≤ |y.value| := by
  have own := nearest_abs_value hx
  have other := nearest_abs_value hy
  rw [← own, ← other]
  refine (le_iff_nearest_le (abs_nonneg _) (abs_nonneg _) fun same => ?_).symm
  rw [own, other] at same
  exact (abs_value_congr same.symm).le

/-- Finite numbers stand in the order of their values. -/
theorem signedMagnitude_le_iff : x.signedMagnitude ≤ y.signedMagnitude ↔ x.value ≤ y.value := by
  have up := magnitude_le_iff hx hy
  have down := magnitude_le_iff hy hx
  have zero (z : Binary64) : z.magnitude = 0 ↔ |z.value| = 0 := by
    rw [abs_eq_zero, value_eq_zero_iff, isZero, beq_iff_eq]
  have left := zero x
  have right := zero y
  have posLeft := abs_nonneg x.value
  have posRight := abs_nonneg y.value
  rw [value_eq_abs x, value_eq_abs y, signedMagnitude, signedMagnitude]
  cases x.isNegative <;> cases y.isNegative <;> simp only [Bool.false_eq_true, if_false, if_true]
  · rw [← up, Nat.cast_le]
  · -- a number that is not negative is at most a negative one if both are zeroes
    have none : |x.value| ≤ -|y.value| ↔ |x.value| = 0 ∧ |y.value| = 0 :=
      ⟨fun h => ⟨by linarith, by linarith⟩, fun h => by rw [h.1, h.2, neg_zero]⟩
    rw [none, ← left, ← right]
    omega
  · exact iff_of_true (by omega) (by linarith)
  · rw [neg_le_neg_iff, neg_le_neg_iff, ← down, Nat.cast_le]

theorem numLe_iff : x.numLe y = true ↔ x.value ≤ y.value := by
  simp [numLe, isNaN_of_isFinite hx, isNaN_of_isFinite hy, signedMagnitude_le_iff hx hy]

theorem numLt_iff : x.numLt y = true ↔ x.value < y.value := by
  rw [← not_le, ← signedMagnitude_le_iff hy hx]
  simp [numLt, isNaN_of_isFinite hx, isNaN_of_isFinite hy]

end Finite

/-! ## Behind the point -/

/-- What a finite number has behind the point, and not-a-number for the others. -/
def fraction (x : Binary64) : Binary64 :=
  if x.isFinite then
    ofRatio x.isNegative (x.numerator.natAbs % x.denominator) x.denominator
  else nan

/-- No fraction with the denominator of a number is so small that it is rounded to zero. -/
theorem nearestMagnitude_ne_zero (x : Binary64) {num : ℕ} (pos : 0 < num) :
    nearestMagnitude num x.denominator ≠ 0 := by
  let least : Binary64 := ⟨1⟩
  have unit : |least.value| = 2 ^ (-1074 : ℤ) := by
    have significand : least.significand = 1 := by decide
    have exponent : least.exponent = -1074 := by decide
    rw [abs_value, significand, exponent, Nat.cast_one, one_mul]
  have places : (-x.exponent).toNat ≤ 1074 := by
    rw [exponent]
    omega
  have large : |least.value| ≤ (num : ℚ) / x.denominator := by
    rw [unit, zpow_neg, ← one_div, denominator, cast_pow]
    have num_ge : (1 : ℚ) ≤ num := by exact_mod_cast pos
    have grown : (2 : ℚ) ^ ((-x.exponent).toNat : ℤ) ≤ 2 ^ (1074 : ℤ) :=
      zpow_le_zpow_right₀ (by norm_num) (by exact_mod_cast places)
    exact div_le_div₀ (by positivity) num_ge (by positivity) grown
  have posDen : 0 < x.denominator := pow_two_pos _
  have rounded := nearest_mono (abs_nonneg _) large
  rw [nearest_abs_value (by decide), ← nearestMagnitude_eq num posDen] at rounded
  have one : least.magnitude = 1 := by decide
  omega

theorem numEq_zero_iff (x : Binary64) : x.numEq (ofInt 0) = true ↔ x.isZero = true := by
  have zero : (ofInt 0).isZero = true := by decide
  rw [numEq_comm, numEq_ofInt_iff]
  constructor
  · intro same
    rcases eq_or_isZero_of_keyBits same with rfl | ⟨-, h⟩
    · exact zero
    · exact h
  · intro h
    rw [keyBits_of_isZero zero, keyBits_of_isZero h]

/-- Nothing is behind the point exactly if the number is an integer. -/
theorem fraction_eq_zero_iff (x : Binary64) :
    x.fraction.numEq (ofInt 0) = true ↔ ∃ n, x.integral? = some n := by
  rw [numEq_zero_iff, fraction, integral?]
  cases x.isFinite
  · simp only [Bool.false_eq_true, if_false, Bool.false_and, reduceCtorEq, exists_false, iff_false]
    decide
  · have whole : x.numerator % x.denominator = 0 ↔ x.numerator.natAbs % x.denominator = 0 := by
      rw [← Int.dvd_iff_emod_eq_zero, Int.natCast_dvd, Nat.dvd_iff_mod_eq_zero]
    rw [if_pos rfl, Bool.true_and, ofRatio, isZero, beq_iff_eq,
      magnitude_ofMagnitude _ (nearestMagnitude_lt _ _)]
    rcases Nat.eq_zero_or_pos (x.numerator.natAbs % x.denominator) with none | some
    · simp [none, whole.mpr none, nearestMagnitude]
    · have apart : ¬ x.numerator % x.denominator = 0 := fun h => by
        rw [whole.mp h] at some
        exact absurd some (Nat.lt_irrefl 0)
      simp [nearestMagnitude_ne_zero x some, apart]

/-! ## In front of the point -/

/-- What stands in front of the point, or the nearer end of the range. A not-a-number becomes
zero. -/
def saturate (x : Binary64) : Int64 :=
  if x.isNaN then 0
  else if !x.isFinite then if x.isNegative then Int64.minValue else Int64.maxValue
  else
    Int64.ofInt
      (max Int64.minValue.toInt (min Int64.maxValue.toInt (x.numerator.tdiv x.denominator)))

theorem saturate_of_integral? {x : Binary64} {n : ℤ} (h : x.integral? = some n)
    (fits : Int64.minValue.toInt ≤ n ∧ n ≤ Int64.maxValue.toInt) : x.saturate.toInt = n := by
  obtain ⟨below, whole⟩ := (integral?_eq_some_iff x n).mp h
  have finite : x.isFinite = true := decide_eq_true below
  have apart : (x.denominator : ℤ) ≠ 0 := Int.natCast_ne_zero.mpr (pow_two_pos _).ne'
  rw [saturate, isNaN_of_isFinite finite, finite, whole, Int.mul_tdiv_cancel n apart,
    min_eq_right fits.2, max_eq_right fits.1]
  exact Int64.toInt_ofInt_of_le fits.1 (Int.lt_of_le_sub_one fits.2)

/-! ## Narrowing -/

/-- The integer that a number is narrowed to, if it has no fraction and lies within the bounds. -/
def narrow? (x : Binary64) : Option Int64 :=
  if x.fraction.numEq (ofInt 0) && (ofInt Int64.minValue.toInt).numLe x &&
      x.numLt (ofInt Int64.maxValue.toInt) then
    some x.saturate
  else none

/-- The bounds as numbers: the greatest integer is rounded up. -/
theorem value_bounds :
    ((ofInt Int64.minValue.toInt).isFinite = true ∧
      (ofInt Int64.minValue.toInt).value = (-2 ^ 63 : ℤ)) ∧
    (ofInt Int64.maxValue.toInt).isFinite = true ∧
      (ofInt Int64.maxValue.toInt).value = (2 ^ 63 : ℤ) := by
  constructor
  · rw [value_eq_intCast_iff]
    decide +kernel
  · rw [value_eq_intCast_iff]
    decide +kernel

/-- Narrowing is exact. -/
theorem narrow?_eq (x : Binary64) : x.narrow? = x.integral?.bind int64? := by
  rw [narrow?]
  cases hx : x.integral? with
  | none =>
    have behind : ¬ x.fraction.numEq (ofInt 0) = true := by simp [fraction_eq_zero_iff, hx]
    simp [behind]
  | some n =>
    have behind : x.fraction.numEq (ofInt 0) = true := (fraction_eq_zero_iff x).mpr ⟨n, hx⟩
    obtain ⟨finite, own⟩ := (value_eq_intCast_iff x n).mpr hx
    obtain ⟨⟨finiteLow, low⟩, finiteHigh, high⟩ := value_bounds
    have within :
        ((ofInt Int64.minValue.toInt).numLe x && x.numLt (ofInt Int64.maxValue.toInt)) = true ↔
          Int64.minValue.toInt ≤ n ∧ n ≤ Int64.maxValue.toInt := by
      have ends : Int64.minValue.toInt = -2 ^ 63 ∧ Int64.maxValue.toInt = 2 ^ 63 - 1 := by decide
      rw [Bool.and_eq_true, numLe_iff finiteLow finite, numLt_iff finite finiteHigh, low, high, own,
        Int.cast_le, Int.cast_lt, ends.1, ends.2]
      omega
    rw [behind, Bool.true_and, Option.bind_some]
    by_cases fits : Int64.minValue.toInt ≤ n ∧ n ≤ Int64.maxValue.toInt
    · rw [if_pos (within.mpr fits)]
      exact ((int64?_eq_some_iff n _).mpr (saturate_of_integral? hx fits)).symm
    · rw [if_neg (mt within.mp fits), (int64?_eq_none_iff n).mpr fits]

theorem narrow?_eq_some_iff (x : Binary64) (i : Int64) :
    x.narrow? = some i ↔ x.isFinite = true ∧ x.value = i.toInt := by
  rw [narrow?_eq, value_eq_intCast_iff, Option.bind_eq_some_iff]
  simp only [int64?_eq_some_iff]
  constructor
  · rintro ⟨n, hn, rfl⟩
    exact hn
  · exact fun h => ⟨_, h, rfl⟩

end SqlStore.Binary64
