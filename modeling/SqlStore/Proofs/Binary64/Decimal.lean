import SqlStore.Binary64.Decimal
import SqlStore.Proofs.Binary64.Rounding

/-!
# Decimals that are read back

A decimal is read as the number nearest to its value, so decimals of the same value are read as the
same number. The shortest decimal of a finite number is read as this number, whether its digits were
found or all of them were taken. It reaches `10 ^ 16` with the number itself, and `10 ^ -4` with the
number that is nearest to that.
-/

namespace SqlStore.Decimal

open Binary64 (nearest)

def toRat (d : Decimal) : ℚ :=
  d.digits * 10 ^ d.exponent

theorem toRat_nonneg (d : Decimal) : 0 ≤ d.toRat := by
  rw [toRat]
  positivity

theorem toBinary64_eq (negative : Bool) (d : Decimal) :
    d.toBinary64 negative = .ofMagnitude negative (nearest d.toRat) := by
  have pos : 0 < Nat.pow 10 (-d.exponent).toNat := Nat.pow_pos (by decide)
  have split : d.exponent = (d.exponent.toNat : ℤ) - ((-d.exponent).toNat : ℤ) := by omega
  rw [toBinary64, Binary64.ofRatio, Binary64.nearestMagnitude_eq _ pos, toRat]
  congr 2
  push_cast [Binary64.cast_pow]
  conv_rhs => rw [split, zpow_sub₀ (by norm_num)]
  ring

theorem magnitude_toBinary64 (negative : Bool) (d : Decimal) :
    (d.toBinary64 negative).magnitude = nearest d.toRat := by
  rw [toBinary64_eq, Binary64.magnitude_ofMagnitude negative (Binary64.nearest_lt _)]

theorem readsBack_iff (x : Binary64) (d : Decimal) :
    readsBack x d = true ↔ nearest d.toRat = x.magnitude := by
  rw [readsBack, beq_iff_eq, magnitude_toBinary64]

/-! ## The shortest decimal -/

/-- A power of two below the point is the same power of five and of one tenth. -/
theorem toRat_exact (x : Binary64) : (exact x).toRat = |x.value| := by
  rw [Binary64.abs_value, exact]
  split
  · next h =>
    rw [toRat]
    push_cast [Binary64.cast_pow]
    rw [Int.toNat_of_nonneg h, mul_one]
  · next h =>
    have five : (5 : ℚ) ^ (-x.exponent) * 10 ^ x.exponent = 2 ^ x.exponent := by
      rw [zpow_neg, ← inv_zpow, ← mul_zpow]
      norm_num
    rw [toRat]
    push_cast [Binary64.cast_pow]
    rw [Int.toNat_of_nonneg (by omega), mul_assoc, five]

/-- The decimal that is found is read as the number, and so is its exact value. -/
theorem readsBack_shortest (tie : Tie) {x : Binary64} (finite : x.isFinite = true) :
    readsBack x (shortest tie x) = true := by
  rw [shortest]
  cases found : (List.range 17).findSome? _ with
  | none =>
    rw [Option.getD_none, readsBack_iff, toRat_exact, Binary64.nearest_abs_value finite]
  | some d =>
    obtain ⟨i, -, hi⟩ := List.exists_of_findSome?_eq_some found
    exact readsBack_of_neighbour? hi

/-- A decimal that is rounded to the magnitude of a number is read as the number, with its sign. -/
theorem toBinary64_eq_self {x : Binary64} {d : Decimal} (read : nearest d.toRat = x.magnitude) :
    d.toBinary64 x.isNegative = x := by
  rw [toBinary64_eq, read, Binary64.ofMagnitude_magnitude]

theorem nearest_shortest (tie : Tie) {x : Binary64} (finite : x.isFinite = true) :
    nearest (shortest tie x).toRat = x.magnitude :=
  (readsBack_iff x _).mp (readsBack_shortest tie finite)

/-- Some decimal is read as the number, unless this is not-a-number. -/
theorem exists_nearest_eq {x : Binary64} (number : x.isNaN = false) :
    ∃ d : Decimal, nearest d.toRat = x.magnitude := by
  cases finite : x.isFinite with
  | true => exact ⟨exact x, by rw [toRat_exact, Binary64.nearest_abs_value finite]⟩
  | false =>
    have large : nearest (toRat ⟨1, 400⟩) = Binary64.infinityMagnitude := by
      rw [← magnitude_toBinary64 false]
      decide +kernel
    rw [Binary64.isNaN, decide_eq_false_iff_not] at number
    rw [Binary64.isFinite, decide_eq_false_iff_not] at finite
    exact ⟨⟨1, 400⟩, by omega⟩

theorem isNaN_toBinary64 (negative : Bool) (d : Decimal) :
    (d.toBinary64 negative).isNaN = false := by
  rw [Binary64.isNaN, magnitude_toBinary64, decide_eq_false_iff_not, Nat.not_lt]
  exact Binary64.nearest_le _

/-- The shortest decimal is the one of the absolute value. -/
theorem shortest_congr (tie : Tie) {x y : Binary64} (h : x.magnitude = y.magnitude) :
    shortest tie x = shortest tie y := by
  have significand : x.significand = y.significand := by
    rw [Binary64.significand, Binary64.significand, h]
  have exponent : x.exponent = y.exponent := by rw [Binary64.exponent, Binary64.exponent, h]
  have exact : exact x = exact y := by
    rw [Decimal.exact, Decimal.exact, significand, exponent]
  have neighbour : ∀ e k, neighbour? tie x e k = neighbour? tie y e k := by
    intro e k
    simp only [neighbour?, readsBack, h]
  simp only [shortest, exact, neighbour]

/-! ## The first digit -/

/-- The exponent of the first digit. -/
def lead (d : Decimal) : ℤ :=
  d.exponent + (Nat.toDigits 10 d.digits).length - 1

theorem le_lead_iff {d : Decimal} (apart : d.digits ≠ 0) (k : ℤ) :
    k ≤ d.lead ↔ (10 : ℚ) ^ k ≤ d.toRat := by
  have ten : (0 : ℚ) < 10 ^ d.exponent := by positivity
  have shift : (10 : ℚ) ^ k ≤ d.toRat ↔ (10 : ℚ) ^ (k - d.exponent) ≤ d.digits := by
    rw [toRat, zpow_sub₀ (by norm_num), div_le_iff₀ ten]
  have one : 1 ≤ d.digits := Nat.one_le_iff_ne_zero.mpr apart
  have long : 0 < (Nat.toDigits 10 d.digits).length := Nat.length_toDigits_pos
  rw [shift, lead]
  obtain ⟨j, rfl⟩ : ∃ j, k = d.exponent + j := ⟨k - d.exponent, by ring⟩
  rw [add_sub_cancel_left]
  rcases lt_or_ge 0 j with pos | small
  · obtain ⟨n, rfl⟩ := Int.eq_ofNat_of_zero_le pos.le
    have digits :=
      Nat.length_toDigits_le_iff (n := d.digits) (k := n) (by decide : 1 < 10) (by omega)
    rw [zpow_natCast]
    norm_cast
    omega
  · have low : (10 : ℚ) ^ j ≤ d.digits :=
      (zpow_le_one_of_nonpos₀ (by norm_num) small).trans (by exact_mod_cast one)
    exact iff_of_true (by omega) low

theorem digits_ne_zero {tie : Tie} {x : Binary64} (finite : x.isFinite = true)
    (apart : x.value ≠ 0) : (shortest tie x).digits ≠ 0 := by
  intro none
  have read := nearest_shortest tie finite
  rw [toRat, none, Nat.cast_zero, zero_mul, nearest, if_pos rfl] at read
  exact apart ((Binary64.value_eq_zero_iff x).mpr (beq_iff_eq.mpr read.symm))

def nearestPower (k : ℤ) : Binary64 :=
  toBinary64 false ⟨1, k⟩

theorem nearest_power (k : ℤ) : nearest (10 ^ k) = (nearestPower k).magnitude := by
  rw [nearestPower, magnitude_toBinary64, toRat, Nat.cast_one, one_mul]

/-- The shortest decimal reaches a power of ten with the value itself, if the number nearest to the
power is no smaller than it and has the power's first digit. -/
theorem le_lead_shortest_iff (tie : Tie) (k : ℤ) {x : Binary64} (finite : x.isFinite = true)
    (apart : x.value ≠ 0) (first : (shortest tie (nearestPower k)).lead = k)
    (reached : (10 : ℚ) ^ k ≤ |(nearestPower k).value|) :
    k ≤ (shortest tie x).lead ↔ (10 : ℚ) ^ k ≤ |x.value| := by
  have ten : (0 : ℚ) ≤ 10 ^ k := by positivity
  have read := nearest_shortest tie finite
  have own := Binary64.nearest_abs_value finite
  calc
    k ≤ (shortest tie x).lead ↔ (10 : ℚ) ^ k ≤ (shortest tie x).toRat :=
      le_lead_iff (digits_ne_zero finite apart) k
    _ ↔ nearest (10 ^ k) ≤ nearest (shortest tie x).toRat := by
      refine Binary64.le_iff_nearest_le ten (toRat_nonneg _) fun same => ?_
      rw [read, nearest_power] at same
      rw [← le_lead_iff (digits_ne_zero finite apart), shortest_congr tie same, first]
    _ ↔ nearest (10 ^ k) ≤ nearest |x.value| := by rw [read, own]
    _ ↔ (10 : ℚ) ^ k ≤ |x.value| := by
      refine (Binary64.le_iff_nearest_le ten (abs_nonneg _) fun same => ?_).symm
      rw [own, nearest_power] at same
      rwa [Binary64.abs_value_congr same]

/-- The number nearest to a ten-thousandth is a little larger. -/
theorem le_abs_nearestPower_low : (10 : ℚ) ^ (-4 : ℤ) ≤ |(nearestPower (-4)).value| := by
  have significand : (nearestPower (-4)).significand = 7378697629483821 := by decide +kernel
  have exponent : (nearestPower (-4)).exponent = -66 := by decide +kernel
  rw [Binary64.abs_value, significand, exponent]
  norm_num

theorem le_abs_nearestPower_high : (10 : ℚ) ^ (16 : ℤ) ≤ |(nearestPower 16).value| := by
  have significand : (nearestPower 16).significand = 5000000000000000 := by decide +kernel
  have exponent : (nearestPower 16).exponent = 1 := by decide +kernel
  rw [Binary64.abs_value, significand, exponent]
  norm_num

/-- Between `10 ^ -4` and `10 ^ 16` lie the same numbers as their shortest decimals. -/
theorem lead_shortest_between_iff {x : Binary64} (finite : x.isFinite = true)
    (apart : x.value ≠ 0) :
    -4 ≤ (shortest .up x).lead ∧ (shortest .up x).lead ≤ 15 ↔
      1 / 10 ^ 4 ≤ |x.value| ∧ |x.value| < 10 ^ 16 := by
  have low := le_lead_shortest_iff .up (-4) finite apart (by decide +kernel) le_abs_nearestPower_low
  have high := le_lead_shortest_iff .up 16 finite apart (by decide +kernel) le_abs_nearestPower_high
  have tenth : (10 : ℚ) ^ (-4 : ℤ) = 1 / 10 ^ 4 := by norm_num
  have whole : (10 : ℚ) ^ (16 : ℤ) = 10 ^ 16 := by norm_num
  rw [tenth] at low
  rw [whole] at high
  refine and_congr low ?_
  rw [← not_lt, ← not_le (a := (10 : ℚ) ^ 16), ← high]
  omega

end SqlStore.Decimal
