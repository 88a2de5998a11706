import SqlStore.Proofs.Binary64.Rounding

/-!
# Integers rounded to binary numbers

The number nearest to an integer is an integer again. It has the first fifty-three binary digits of
the integer, rounded by the digits behind them, and zeroes in the place of those.
-/

namespace SqlStore.Binary64

/-- The weight of the last binary digit of `n` that a significand holds. -/
def lastWeight (n : ℕ) : ℕ :=
  Nat.pow 2 (n.log2 - 52)

/-- The integer rounded to a multiple of the weight, a half to the even one. -/
def rounded (i : ℤ) : ℤ :=
  i.sign * (roundHalfEven i.natAbs (lastWeight i.natAbs) * lastWeight i.natAbs : ℕ)

theorem lastWeight_pos (n : ℕ) : 0 < lastWeight n :=
  pow_two_pos _

theorem natAbs_rounded (i : ℤ) :
    (rounded i).natAbs = roundHalfEven i.natAbs (lastWeight i.natAbs) * lastWeight i.natAbs := by
  rw [rounded, Int.natAbs_mul, Int.natAbs_natCast]
  rcases eq_or_ne i 0 with rfl | apart
  · decide
  · rw [Int.natAbs_sign_of_ne_zero apart, Nat.one_mul]

/-- Rounding leaves exactly the multiples of the weight as they are. -/
theorem rounded_eq_self_iff (i : ℤ) : rounded i = i ↔ lastWeight i.natAbs ∣ i.natAbs := by
  constructor
  · intro h
    have size := natAbs_rounded i
    rw [h] at size
    exact Dvd.intro_left _ size.symm
  · rintro ⟨c, hc⟩
    have pos := lastWeight_pos i.natAbs
    rw [rounded]
    generalize lastWeight i.natAbs = u at hc pos ⊢
    have quotient : roundHalfEven i.natAbs u = c := by
      rw [hc, Nat.mul_comm, roundHalfEven_mul_self c pos]
    rw [quotient, Nat.mul_comm, ← hc, Int.sign_mul_natAbs]

theorem rounded_of_log2_le {i : ℤ} (short : i.natAbs.log2 ≤ 52) : rounded i = i := by
  have one : lastWeight i.natAbs = 1 := by
    rw [lastWeight, Nat.sub_eq_zero_of_le short]
  rw [rounded_eq_self_iff, one]
  exact Nat.one_dvd _

/-! ## A carry -/

/-- A product of a significand, or of the next power of two, and a power of two has the magnitude
that both give. -/
theorem exists_represents_mul {l r : ℕ} (long : 52 ≤ l) (low : hiddenWeight ≤ r)
    (high : r ≤ 2 * hiddenWeight) :
    ∃ k s, Represents k s (r * Nat.pow 2 (l - 52)) ∧
      k * hiddenWeight + s = (l + 1022) * hiddenWeight + r := by
  have flat (k : ℕ) (h : 1074 ≤ k) : Nat.pow 2 (1074 - k) = 1 := by
    rw [Nat.sub_eq_zero_of_le h]
  rcases Nat.lt_or_eq_of_le high with below | rfl
  · have up : l + 1022 - 1074 = l - 52 := by omega
    refine ⟨l + 1022, r, ⟨low, below, ?_⟩, rfl⟩
    rw [flat _ (by omega), up, Nat.mul_one]
  · have up : l + 1023 - 1074 = l - 52 + 1 := by omega
    have double : Nat.pow 2 (l - 52 + 1) = 2 * Nat.pow 2 (l - 52) := Nat.pow_succ'
    refine ⟨l + 1023, hiddenWeight, ⟨Nat.le_refl _, by decide, ?_⟩, by ring⟩
    rw [flat _ (by omega), up, double]
    ring

section Long

variable {n : ℕ}

theorem place_natCast (long : 52 ≤ n.log2) : place n = n.log2 - 52 := by
  rw [place, Int.log_natCast, ← Nat.log2_eq_log_two]
  omega

theorem roundHalfEven_lastWeight (long : 52 ≤ n.log2) :
    roundHalfEven n (lastWeight n) = halfEven (n / 2 ^ place n) := by
  have weight : ((n.log2 - 52 : ℕ) : ℤ) = n.log2 - 52 := by omega
  rw [roundHalfEven_eq _ (lastWeight_pos n), lastWeight, cast_pow, place_natCast long, weight]
  rfl

/-- A rounded significand is as long as the others, or is the next power of two. -/
theorem roundHalfEven_lastWeight_bounds (long : 52 ≤ n.log2) :
    hiddenWeight ≤ roundHalfEven n (lastWeight n) ∧
      roundHalfEven n (lastWeight n) ≤ 2 * hiddenWeight := by
  have pos : (0 : ℚ) < n := by
    rcases Nat.eq_zero_or_pos n with rfl | pos
    · exact absurd long (by decide)
    · exact Nat.cast_pos.mpr pos
  have ordinary : -1074 < place n := by
    rw [place_natCast long]
    omega
  rw [roundHalfEven_lastWeight long]
  exact ⟨le_halfEven_div_place pos ordinary, halfEven_div_place_le pos⟩

theorem exists_represents_rounded (long : 52 ≤ n.log2) :
    ∃ k s, Represents k s (roundHalfEven n (lastWeight n) * lastWeight n) ∧
      k * hiddenWeight + s = (n.log2 + 1022) * hiddenWeight + roundHalfEven n (lastWeight n) :=
  have bounds := roundHalfEven_lastWeight_bounds long
  exists_represents_mul long bounds.1 bounds.2

/-- An integer and what it is rounded to have the same nearest number. -/
theorem nearestMagnitude_rounded (long : 52 ≤ n.log2) :
    nearestMagnitude (roundHalfEven n (lastWeight n) * lastWeight n) 1 = nearestMagnitude n 1 := by
  obtain ⟨k, s, represents, parts⟩ := exists_represents_rounded long
  have apart : n ≠ 0 := by
    rintro rfl
    exact absurd long (by decide)
  have below : (-((n.log2 : ℤ) - 52)).toNat = 0 := by omega
  have above : ((n.log2 : ℤ) - 52).toNat = n.log2 - 52 := by omega
  have place : ((n.log2 : ℤ) - 52 + 1074).toNat = n.log2 + 1022 := by omega
  have one : Nat.pow 2 0 = 1 := rfl
  rw [represents.nearestMagnitude_eq, parts, nearestMagnitude, if_neg apart]
  simp only [unitExponent_one apart, scale, below, above, place, one, Nat.one_mul, Nat.mul_one,
    lastWeight]

end Long

theorem ofInt_rounded (i : ℤ) : ofInt (rounded i) = ofInt i := by
  rcases Nat.le_total i.natAbs.log2 52 with short | long
  · rw [rounded_of_log2_le short]
  · obtain ⟨k, s, represents, -⟩ := exists_represents_rounded long
    have apart : rounded i ≠ 0 := by
      rw [← Int.natAbs_ne_zero, natAbs_rounded]
      exact represents.ne_zero
    have sign : (rounded i).sign = i.sign := by
      rw [rounded, Int.sign_mul, Int.sign_sign, Int.sign_natCast_of_ne_zero represents.ne_zero,
        Int.mul_one]
    have negative : rounded i < 0 ↔ i < 0 := by
      rw [← Int.sign_eq_neg_one_iff_neg, sign, Int.sign_eq_neg_one_iff_neg]
    rw [ofInt, ofInt, ofRatio, ofRatio, natAbs_rounded, nearestMagnitude_rounded long,
      decide_eq_decide.mpr negative]

/-- Among the integers of a word none is too large for a number. -/
theorem integral?_ofInt_eq {i : ℤ} (word : i.natAbs < 2 ^ 64) :
    (ofInt i).integral? = some (rounded i) := by
  rcases Nat.lt_or_ge i.natAbs.log2 53 with short | long
  · have small : i.natAbs < 2 * hiddenWeight :=
      two_pow_53 ▸ Nat.lt_log2_self.trans_le (Nat.pow_le_pow_right (by decide) short)
    rw [rounded_of_log2_le (by omega)]
    exact integral?_ofInt small.le
  · have long' : 52 ≤ i.natAbs.log2 := by omega
    obtain ⟨k, s, represents, parts⟩ := exists_represents_rounded long'
    have bounds := roundHalfEven_lastWeight_bounds long'
    have digits : i.natAbs.log2 < 64 := (Nat.log2_lt (by rintro none; simp [none] at long)).mpr word
    have top : infinityMagnitude = 2047 * hiddenWeight := rfl
    have room : (i.natAbs.log2 + 1022) * hiddenWeight ≤ 1085 * hiddenWeight :=
      Nat.mul_le_mul_right _ (by omega)
    rw [← natAbs_rounded] at represents
    rw [← ofInt_rounded]
    apply represents.integral?_ofInt
    rw [hiddenWeight] at *
    omega

end SqlStore.Binary64
