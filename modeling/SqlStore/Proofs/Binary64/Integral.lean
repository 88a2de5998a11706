import SqlStore.Binary64.Basic

/-!
# Integers among the binary numbers

A number of ordinary size has the magnitude `k * 2 ^ 52 + s` with `2 ^ 52 ≤ s < 2 ^ 53`, and is
then `s * 2 ^ (k - 1074)`. An integer that is such a product is its own nearest number, so the
integer of a number leads back to the number. The other way round only the integers up to `2 ^ 53`
are sure to be found again: beyond that several integers have the same nearest number.
-/

namespace SqlStore.Binary64

theorem two_pow_52 : Nat.pow 2 52 = hiddenWeight := by decide

theorem two_pow_53 : Nat.pow 2 53 = 2 * hiddenWeight := by decide

theorem pow_two_pos (k : Nat) : 0 < Nat.pow 2 k :=
  Nat.pow_pos (by decide)

theorem pow_two_mul {a b c d : Nat} (h : a + b = c + d) :
    Nat.pow 2 a * Nat.pow 2 b = Nat.pow 2 c * Nat.pow 2 d := by
  have sum (i j : Nat) : Nat.pow 2 i * Nat.pow 2 j = Nat.pow 2 (i + j) := (Nat.pow_add 2 i j).symm
  rw [sum, sum, h]

/-! ## Sign and magnitude -/

section Magnitude

variable {m : Nat} (negative : Bool)

theorem toNat_bits_ofMagnitude (h : m < signWeight) :
    (ofMagnitude negative m).bits.toNat = (if negative then signWeight else 0) + m := by
  rw [ofMagnitude, UInt64.toNat_ofNat']
  apply Nat.mod_eq_of_lt
  rw [signWeight] at h ⊢
  split <;> omega

theorem magnitude_ofMagnitude (h : m < signWeight) : (ofMagnitude negative m).magnitude = m := by
  rw [magnitude, toNat_bits_ofMagnitude negative h]
  split
  · rw [Nat.add_mod_left, Nat.mod_eq_of_lt h]
  · rw [Nat.zero_add, Nat.mod_eq_of_lt h]

theorem isNegative_ofMagnitude (h : m < signWeight) :
    (ofMagnitude negative m).isNegative = negative := by
  rw [isNegative, toNat_bits_ofMagnitude negative h]
  cases negative
  · simpa using h
  · simp

end Magnitude

/-- A number is its sign and its magnitude. -/
theorem ofMagnitude_magnitude (x : Binary64) : ofMagnitude x.isNegative x.magnitude = x := by
  have below : x.bits.toNat < 2 * signWeight := x.bits.toNat_lt
  have parts : (if x.isNegative then signWeight else 0) + x.magnitude = x.bits.toNat := by
    rw [isNegative, magnitude]
    by_cases h : signWeight ≤ x.bits.toNat
    · rw [if_pos (decide_eq_true h), Nat.mod_eq_sub_mod h, Nat.mod_eq_of_lt (by omega)]
      omega
    · rw [if_neg (by simpa using h), Nat.mod_eq_of_lt (by omega), Nat.zero_add]
  cases x with
  | mk bits =>
    rw [ofMagnitude, parts]
    exact congrArg mk (UInt64.ofNat_toNat)

theorem nearestMagnitude_lt (num den : Nat) : nearestMagnitude num den < signWeight :=
  Nat.lt_of_le_of_lt (nearestMagnitude_le num den) (by decide)

theorem isNaN_of_isFinite {x : Binary64} (finite : x.isFinite = true) : x.isNaN = false := by
  rw [isFinite, decide_eq_true_eq] at finite
  rw [isNaN, decide_eq_false_iff_not]
  omega

theorem magnitude_ofInt (i : Int) : (ofInt i).magnitude = nearestMagnitude i.natAbs 1 :=
  magnitude_ofMagnitude _ (nearestMagnitude_lt _ _)

theorem isNegative_ofInt (i : Int) : (ofInt i).isNegative = decide (i < 0) :=
  isNegative_ofMagnitude _ (nearestMagnitude_lt _ _)

theorem isNaN_ofInt (i : Int) : (ofInt i).isNaN = false := by
  rw [isNaN, magnitude_ofInt, decide_eq_false_iff_not, Nat.not_lt]
  exact nearestMagnitude_le _ _

/-! ## Significand and exponent -/

section Parts

variable {x : Binary64} {k s : Nat}

theorem exists_parts (normal : hiddenWeight ≤ x.magnitude) :
    ∃ k s, x.magnitude = k * hiddenWeight + s ∧ hiddenWeight ≤ s ∧ s < 2 * hiddenWeight := by
  refine ⟨x.magnitude / hiddenWeight - 1, hiddenWeight + x.magnitude % hiddenWeight, ?_⟩
  rw [hiddenWeight] at normal ⊢
  omega

theorem significand_of_parts (h : x.magnitude = k * hiddenWeight + s) (low : hiddenWeight ≤ s)
    (high : s < 2 * hiddenWeight) : x.significand = s := by
  rw [significand, h]
  rw [hiddenWeight] at low high ⊢
  rw [if_neg (by omega)]
  omega

theorem exponent_of_parts (h : x.magnitude = k * hiddenWeight + s) (low : hiddenWeight ≤ s)
    (high : s < 2 * hiddenWeight) : x.exponent = k - 1074 := by
  rw [exponent, h]
  rw [hiddenWeight] at low high ⊢
  omega

/-- The smallest numbers have the least exponent and all of their magnitude as significand. -/
theorem exponent_of_lt (small : x.magnitude < hiddenWeight) : x.exponent = -1074 := by
  rw [exponent, Nat.div_eq_of_lt small]
  rfl

theorem significand_of_lt (small : x.magnitude < hiddenWeight) : x.significand = x.magnitude :=
  if_pos small

end Parts

/-- The integer `n` is the product `s * 2 ^ (k - 1074)`, where `s` is as long as a significand. -/
structure Represents (k s n : Nat) : Prop where
  low : hiddenWeight ≤ s
  high : s < 2 * hiddenWeight
  eq : n * Nat.pow 2 (1074 - k) = s * Nat.pow 2 (k - 1074)

section Represents

variable {k s n : Nat} (h : Represents k s n)

include h

theorem Represents.ne_zero : n ≠ 0 := by
  rintro rfl
  have low := h.low
  have pos : 0 < s * Nat.pow 2 (k - 1074) :=
    Nat.mul_pos (by rw [hiddenWeight] at low; omega) (pow_two_pos _)
  rw [← h.eq, Nat.zero_mul] at pos
  exact Nat.lt_irrefl _ pos

/-- The exponent is not so small that nothing of an integer would be left. -/
theorem Represents.le_exponent : 1022 ≤ k := by
  refine Nat.le_of_not_lt fun small => ?_
  have eq := h.eq
  have none : k - 1074 = 0 := by omega
  have wide : Nat.pow 2 53 ≤ Nat.pow 2 (1074 - k) := Nat.pow_le_pow_right (by decide) (by omega)
  have one : Nat.pow 2 0 = 1 := rfl
  have grown : Nat.pow 2 (1074 - k) ≤ n * Nat.pow 2 (1074 - k) :=
    Nat.le_mul_of_pos_left _ (Nat.pos_of_ne_zero h.ne_zero)
  rw [none, one, Nat.mul_one] at eq
  rw [two_pow_53] at wide
  have high := h.high
  omega

/-- The exponent counts the binary digits of the integer. -/
theorem Represents.log2_eq : n.log2 + 1022 = k := by
  have least := h.le_exponent
  obtain ⟨l, rfl⟩ : ∃ l, k = l + 1022 := ⟨k - 1022, by omega⟩
  suffices n.log2 = l by omega
  have eq := h.eq
  have width : l + (1074 - (l + 1022)) = 52 + (l + 1022 - 1074) := by omega
  have width' : l + 1 + (1074 - (l + 1022)) = 53 + (l + 1022 - 1074) := by omega
  rw [Nat.log2_eq_iff h.ne_zero]
  constructor
  · refine Nat.le_of_mul_le_mul_right ?_ (pow_two_pos (1074 - (l + 1022)))
    calc
      Nat.pow 2 l * Nat.pow 2 (1074 - (l + 1022))
          = Nat.pow 2 52 * Nat.pow 2 (l + 1022 - 1074) := pow_two_mul width
      _ ≤ s * Nat.pow 2 (l + 1022 - 1074) := Nat.mul_le_mul_right _ (two_pow_52 ▸ h.low)
      _ = n * Nat.pow 2 (1074 - (l + 1022)) := eq.symm
  · refine Nat.lt_of_mul_lt_mul_right (a := Nat.pow 2 (1074 - (l + 1022))) ?_
    calc
      n * Nat.pow 2 (1074 - (l + 1022))
          = s * Nat.pow 2 (l + 1022 - 1074) := eq
      _ < Nat.pow 2 53 * Nat.pow 2 (l + 1022 - 1074) :=
        Nat.mul_lt_mul_of_pos_right (two_pow_53 ▸ h.high) (pow_two_pos _)
      _ = Nat.pow 2 (l + 1) * Nat.pow 2 (1074 - (l + 1022)) := (pow_two_mul width').symm

end Represents

/-- The last place of an integer lies 52 digits behind its first one. -/
theorem unitExponent_one {n : Nat} (hn : n ≠ 0) : unitExponent n 1 = n.log2 - 52 := by
  have one : Nat.log2 1 = 0 := by decide
  have long : ¬ n * Nat.pow 2 (53 - n.log2) < 2 * hiddenWeight * Nat.pow 2 (n.log2 - 53) := by
    have width : 53 + (n.log2 - 53) = n.log2 + (53 - n.log2) := by omega
    rw [Nat.not_lt, ← two_pow_53, pow_two_mul width]
    exact Nat.mul_le_mul_right _ (Nat.log2_self_le hn)
  have below : (-((n.log2 : Int) - (0 : Nat) - 53)).toNat = 53 - n.log2 := by omega
  have above : ((n.log2 : Int) - (0 : Nat) - 53).toNat = n.log2 - 53 := by omega
  simp only [unitExponent, scale, one, below, above, Nat.one_mul]
  rw [if_neg long]
  omega

/-- Such an integer is rounded to itself, unless it is too large for any number. -/
theorem Represents.nearestMagnitude_eq {k s n : Nat} (h : Represents k s n) :
    nearestMagnitude n 1 = min infinityMagnitude (k * hiddenWeight + s) := by
  have log := h.log2_eq
  have below : (-((n.log2 : Int) - 52)).toNat = 1074 - k := by omega
  have above : ((n.log2 : Int) - 52).toNat = k - 1074 := by omega
  have place : ((n.log2 : Int) - 52 + 1074).toNat = k := by omega
  rw [nearestMagnitude, if_neg h.ne_zero]
  simp only [unitExponent_one h.ne_zero, scale, below, above, place, Nat.one_mul]
  rw [h.eq, roundHalfEven_mul_self s (pow_two_pos _)]

/-! ## The integer that a number is -/

section Integral

variable {x : Binary64} {i : Int}

/-- A number is an integer when its numerator is that many times its denominator. -/
theorem integral?_eq_some_iff (x : Binary64) (i : Int) :
    x.integral? = some i ↔
      x.magnitude < infinityMagnitude ∧ x.numerator = i * (x.denominator : Int) := by
  have pos : (x.denominator : Int) ≠ 0 := by
    have := pow_two_pos (-x.exponent).toNat
    rw [denominator]
    omega
  rw [integral?, isFinite]
  simp only [Bool.and_eq_true, decide_eq_true_eq, beq_iff_eq]
  constructor
  · intro h
    split at h
    · next hx =>
      refine ⟨hx.1, ?_⟩
      rw [← Option.some.inj h]
      exact (Int.ediv_mul_cancel (Int.dvd_of_emod_eq_zero hx.2)).symm
    · cases h
  · rintro ⟨finite, eq⟩
    rw [if_pos ⟨finite, by rw [eq, Int.mul_emod_left]⟩, eq, Int.mul_ediv_cancel i pos]

theorem natAbs_numerator (x : Binary64) :
    x.numerator.natAbs = x.significand * Nat.pow 2 x.exponent.toNat := by
  rw [numerator]
  split
  · rw [Int.natAbs_neg, Int.natAbs_natCast]
  · rw [Int.natAbs_natCast]

theorem isNegative_eq_of_numerator (h : x.numerator ≠ 0) :
    x.isNegative = decide (x.numerator < 0) := by
  rw [numerator] at h ⊢
  cases x.isNegative
  · exact (decide_eq_false (Int.not_lt.mpr (Int.natCast_nonneg _))).symm
  · simp only [if_true] at h ⊢
    exact (decide_eq_true (by omega)).symm

theorem natAbs_mul_denominator (h : x.integral? = some i) :
    i.natAbs * Nat.pow 2 (-x.exponent).toNat = x.significand * Nat.pow 2 x.exponent.toNat := by
  obtain ⟨-, eq⟩ := (integral?_eq_some_iff x i).mp h
  rw [← natAbs_numerator, eq, Int.natAbs_mul, Int.natAbs_natCast, denominator]

/-- Below the ordinary sizes only the zeroes are integers. -/
theorem isZero_of_integral?_of_lt (h : x.integral? = some i) (small : x.magnitude < hiddenWeight) :
    x.isZero = true := by
  have eq := natAbs_mul_denominator h
  have exponent := exponent_of_lt small
  have significand := significand_of_lt small
  have down : 52 ≤ (-x.exponent).toNat := by omega
  have up : x.exponent.toNat = 0 := by omega
  have one : Nat.pow 2 0 = 1 := rfl
  rw [up, one, Nat.mul_one, significand] at eq
  rw [isZero, beq_iff_eq, ← eq]
  rcases Nat.eq_zero_or_pos i.natAbs with none | some
  · rw [none, Nat.zero_mul]
  · have wide : Nat.pow 2 52 ≤ Nat.pow 2 (-x.exponent).toNat :=
      Nat.pow_le_pow_right (by decide) down
    have grown := Nat.le_mul_of_pos_left (Nat.pow 2 (-x.exponent).toNat) some
    rw [eq] at grown
    rw [two_pow_52] at wide
    exact absurd (Nat.le_trans wide grown) (Nat.not_le.mpr small)

theorem integral?_of_isZero (h : x.isZero = true) : x.integral? = some 0 := by
  rw [isZero, beq_iff_eq] at h
  have significand : x.significand = 0 := by
    rw [Binary64.significand, h]
    rfl
  have numerator : x.numerator = 0 := by
    rw [← Int.natAbs_eq_zero, natAbs_numerator, significand, Nat.zero_mul]
  refine (integral?_eq_some_iff x 0).mpr ⟨by rw [h]; decide, ?_⟩
  rw [numerator, Int.zero_mul]

/-- The integer of a number that is no zero is the product of its significand and its power of
two, and has its sign. -/
theorem represents_of_integral? (h : x.integral? = some i) {k s : Nat}
    (parts : x.magnitude = k * hiddenWeight + s) (low : hiddenWeight ≤ s)
    (high : s < 2 * hiddenWeight) :
    Represents k s i.natAbs ∧ decide (i < 0) = x.isNegative := by
  have eq := natAbs_mul_denominator h
  have exponent := exponent_of_parts parts low high
  have down : (-x.exponent).toNat = 1074 - k := by omega
  have up : x.exponent.toNat = k - 1074 := by omega
  rw [down, up, significand_of_parts parts low high] at eq
  have represents : Represents k s i.natAbs := ⟨low, high, eq⟩
  refine ⟨represents, ?_⟩
  obtain ⟨-, whole⟩ := (integral?_eq_some_iff x i).mp h
  have pos : 0 < (x.denominator : Int) := Int.natCast_pos.mpr (pow_two_pos _)
  have apart : i ≠ 0 := Int.natAbs_ne_zero.mp represents.ne_zero
  have sign : i < 0 ↔ x.numerator < 0 := by
    rw [whole]
    refine ⟨fun hi => Int.mul_neg_of_neg_of_pos hi pos, fun hn => ?_⟩
    refine Int.not_le.mp fun hi => ?_
    exact absurd (Int.mul_nonneg hi (Int.le_of_lt pos)) (Int.not_le.mpr hn)
  have numerator : x.numerator ≠ 0 := by
    rw [whole]
    exact Int.mul_ne_zero apart (Int.ne_of_gt pos)
  rw [isNegative_eq_of_numerator numerator]
  exact decide_eq_decide.mpr sign

/-- The integer of a number other than the zeroes leads back to it. -/
theorem ofInt_of_integral? (h : x.integral? = some i) (apart : x.isZero = false) :
    ofInt i = x := by
  have normal : hiddenWeight ≤ x.magnitude := Nat.le_of_not_lt fun small => by
    rw [isZero_of_integral?_of_lt h small] at apart
    cases apart
  obtain ⟨k, s, parts, low, high⟩ := exists_parts normal
  obtain ⟨represents, sign⟩ := represents_of_integral? h parts low high
  have finite := ((integral?_eq_some_iff x i).mp h).1
  have magnitude : nearestMagnitude i.natAbs 1 = x.magnitude := by
    rw [represents.nearestMagnitude_eq, parts]
    omega
  rw [ofInt, ofRatio, magnitude, sign, ofMagnitude_magnitude]

/-- An integer that is a product of a significand and a power of two, and not too large, is a
number. -/
theorem Represents.integral?_ofInt {k s : Nat} (h : Represents k s i.natAbs)
    (finite : k * hiddenWeight + s < infinityMagnitude) : (ofInt i).integral? = some i := by
  have parts : (ofInt i).magnitude = k * hiddenWeight + s := by
    rw [magnitude_ofInt, h.nearestMagnitude_eq]
    omega
  have exponent := exponent_of_parts parts h.low h.high
  have down : (-(ofInt i).exponent).toNat = 1074 - k := by omega
  have up : (ofInt i).exponent.toNat = k - 1074 := by omega
  refine (integral?_eq_some_iff _ i).mpr ⟨by rw [parts]; exact finite, ?_⟩
  rw [numerator, significand_of_parts parts h.low h.high, up, ← h.eq, isNegative_ofInt,
    denominator, down, Int.natCast_mul]
  by_cases hi : i < 0
  · rw [if_pos (decide_eq_true hi), Int.ofNat_natAbs_of_nonpos (Int.le_of_lt hi), Int.neg_mul,
      Int.neg_neg]
  · rw [if_neg (by simpa using hi), Int.natAbs_of_nonneg (Int.not_lt.mp hi)]

/-- The integers up to `2 ^ 53` are short enough for a significand. -/
theorem exists_represents {n : Nat} (hn : n ≠ 0) (small : n ≤ 2 * hiddenWeight) :
    ∃ k s, Represents k s n ∧ k * hiddenWeight + s < infinityMagnitude := by
  have top : infinityMagnitude = 2047 * hiddenWeight := rfl
  rcases Nat.lt_or_eq_of_le small with below | rfl
  · have digits : n.log2 < 53 := (Nat.log2_lt hn).mpr (Nat.lt_of_lt_of_eq below two_pow_53.symm)
    have wide : 1074 - (n.log2 + 1022) = 52 - n.log2 := by omega
    have flat : n.log2 + 1022 - 1074 = 0 := Nat.sub_eq_zero_of_le (by omega)
    have width : n.log2 + (52 - n.log2) = 52 + 0 := by omega
    have width' : n.log2 + 1 + (52 - n.log2) = 53 + 0 := by omega
    have low : hiddenWeight ≤ n * Nat.pow 2 (52 - n.log2) := by
      calc
        hiddenWeight = Nat.pow 2 52 * Nat.pow 2 0 := by rw [two_pow_52]; rfl
        _ = Nat.pow 2 n.log2 * Nat.pow 2 (52 - n.log2) := (pow_two_mul width).symm
        _ ≤ n * Nat.pow 2 (52 - n.log2) := Nat.mul_le_mul_right _ (Nat.log2_self_le hn)
    have high : n * Nat.pow 2 (52 - n.log2) < 2 * hiddenWeight := by
      calc
        n * Nat.pow 2 (52 - n.log2)
            < Nat.pow 2 (n.log2 + 1) * Nat.pow 2 (52 - n.log2) :=
          Nat.mul_lt_mul_of_pos_right Nat.lt_log2_self (pow_two_pos _)
        _ = Nat.pow 2 53 * Nat.pow 2 0 := pow_two_mul width'
        _ = 2 * hiddenWeight := by rw [two_pow_53]; rfl
    refine ⟨n.log2 + 1022, n * Nat.pow 2 (52 - n.log2), ⟨low, high, ?_⟩, ?_⟩
    · rw [wide, flat]
      exact (Nat.mul_one _).symm
    · rw [top]
      rw [hiddenWeight] at high ⊢
      omega
  · exact ⟨1075, hiddenWeight, ⟨Nat.le_refl _, by decide, by decide⟩, by decide⟩

theorem integral?_ofInt (small : i.natAbs ≤ 2 * hiddenWeight) : (ofInt i).integral? = some i := by
  by_cases hi : i = 0
  · subst hi
    exact integral?_of_isZero (by decide)
  · obtain ⟨k, s, represents, finite⟩ := exists_represents (Int.natAbs_ne_zero.mpr hi) small
    exact represents.integral?_ofInt finite

/-! ## Equality by number -/

theorem keyBits_of_isZero (h : x.isZero = true) : x.keyBits = 0 := by
  rw [keyBits, if_pos h]

/-- Equal keys are equal bits, or both numbers are zeroes. -/
theorem eq_or_isZero_of_keyBits {x y : Binary64} (h : x.keyBits = y.keyBits) :
    x = y ∨ x.isZero = true ∧ y.isZero = true := by
  have zero : ∀ {z : Binary64}, z.isZero = false → z.keyBits = z.bits ∧ z.bits ≠ 0 := by
    intro z hz
    refine ⟨by rw [keyBits, hz]; rfl, fun none => ?_⟩
    rw [isZero, magnitude, none] at hz
    cases hz
  cases hx : x.isZero <;> cases hy : y.isZero
  · rw [(zero hx).1, (zero hy).1] at h
    exact Or.inl (by cases x; cases y; exact congrArg mk h)
  · rw [(zero hx).1, keyBits_of_isZero hy] at h
    exact absurd h (zero hx).2
  · rw [(zero hy).1, keyBits_of_isZero hx] at h
    exact absurd h.symm (zero hy).2
  · exact Or.inr ⟨rfl, rfl⟩

theorem numEq_ofInt_iff (i : Int) (x : Binary64) :
    (ofInt i).numEq x = true ↔ (ofInt i).keyBits = x.keyBits := by
  simp [numEq, isNaN_ofInt]

/-- The nearest number to the integer that a number is, is that number. -/
theorem numEq_of_integral? (h : x.integral? = some i) : (ofInt i).numEq x = true := by
  rw [numEq_ofInt_iff]
  cases apart : x.isZero with
  | false => rw [ofInt_of_integral? h apart]
  | true =>
    obtain rfl := Option.some.inj (h.symm.trans (integral?_of_isZero apart))
    rw [keyBits_of_isZero apart]
    decide

/-- A number that equals the nearest number to an integer is the same integer as that, if any. -/
theorem integral?_eq_of_numEq (h : (ofInt i).numEq x = true) :
    x.integral? = (ofInt i).integral? := by
  rcases eq_or_isZero_of_keyBits ((numEq_ofInt_iff i x).mp h) with rfl | ⟨zero, zero'⟩
  · rfl
  · rw [integral?_of_isZero zero', integral?_of_isZero zero]

/-- An integer up to `2 ^ 53` has the same nearest number as no other integer. -/
theorem integral?_of_numEq (small : i.natAbs ≤ 2 * hiddenWeight)
    (h : (ofInt i).numEq x = true) : x.integral? = some i := by
  rw [integral?_eq_of_numEq h, integral?_ofInt small]

end Integral

/-- The least integer that shares its nearest number with another one. -/
example : (ofInt 9007199254740993).numEq (ofInt 9007199254740992) = true ∧
    (ofInt 9007199254740992).integral? = some 9007199254740992 := by
  decide +kernel

end SqlStore.Binary64
