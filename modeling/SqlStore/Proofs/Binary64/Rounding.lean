import Mathlib.Algebra.Order.Field.Power
import Mathlib.Data.Int.Log
import Mathlib.Data.Rat.Floor
import Mathlib.Tactic.FieldSimp
import Mathlib.Tactic.Linarith
import Mathlib.Tactic.Positivity
import Mathlib.Tactic.Ring
import SqlStore.Proofs.Binary64.Integral

/-!
# Rounding fractions to binary numbers

What a fraction is rounded to depends on the fraction alone and not on how it is written, so
`nearest` takes it as a rational number. A larger fraction is not rounded to a smaller number, and
the value of a number is rounded to the number itself.
-/

namespace SqlStore.Binary64

/-! ## Half to even -/

theorem roundHalfEven_mul_right (n d : ℕ) {k : ℕ} (hk : 0 < k) :
    roundHalfEven (n * k) (d * k) = roundHalfEven n d := by
  have below : 2 * (n % d * k) < d * k ↔ 2 * (n % d) < d := by
    rw [← Nat.mul_assoc, Nat.mul_lt_mul_right hk]
  have above : d * k < 2 * (n % d * k) ↔ d < 2 * (n % d) := by
    rw [← Nat.mul_assoc, Nat.mul_lt_mul_right hk]
  simp only [roundHalfEven, Nat.mul_div_mul_right n d hk, Nat.mul_mod_mul_right, below, above]

/-- The quotient is off by no more than a half. -/
theorem roundHalfEven_bounds (n : ℕ) {d : ℕ} (hd : 0 < d) :
    2 * (roundHalfEven n d * d) ≤ 2 * n + d ∧ 2 * n ≤ 2 * (roundHalfEven n d * d) + d := by
  have parts : d * (n / d) + n % d = n := Nat.div_add_mod n d
  have up : (n / d + 1) * d = d * (n / d) + d := by ring
  have down : n / d * d = d * (n / d) := Nat.mul_comm _ _
  rw [roundHalfEven]
  split
  · rw [down]
    omega
  · split
    · have := Nat.mod_lt n hd
      rw [up]
      omega
    · rcases Nat.mod_two_eq_zero_or_one (n / d) with even | odd
      · rw [even, Nat.add_zero, down]
        omega
      · rw [odd, up]
        omega

/-- A fraction that is not negative, rounded to the nearest integer, a half to the even one. -/
def halfEven (q : ℚ) : ℕ :=
  roundHalfEven q.num.toNat q.den

theorem roundHalfEven_eq (n : ℕ) {d : ℕ} (hd : 0 < d) :
    roundHalfEven n d = halfEven ((n : ℚ) / d) := by
  set q : ℚ := (n : ℚ) / d with hq
  have nonneg : 0 ≤ q := by positivity
  have cross : q.num.toNat * d = n * q.den := by
    have whole : (q.num.toNat : ℤ) = q.num := Int.toNat_of_nonneg (Rat.num_nonneg.mpr nonneg)
    have apart : (d : ℚ) ≠ 0 := Nat.cast_ne_zero.mpr hd.ne'
    have same : (q.num : ℚ) / q.den = n / d := q.num_div_den.trans hq
    rw [div_eq_div_iff (Nat.cast_ne_zero.mpr q.den_nz) apart] at same
    zify
    rw [whole]
    exact_mod_cast same
  calc
    roundHalfEven n d = roundHalfEven (n * q.den) (d * q.den) :=
      (roundHalfEven_mul_right n d q.den_pos).symm
    _ = roundHalfEven (q.num.toNat * d) (q.den * d) := by rw [cross, Nat.mul_comm d]
    _ = halfEven q := roundHalfEven_mul_right _ _ hd

theorem halfEven_natCast (n : ℕ) : halfEven n = n := by
  have one := roundHalfEven_eq n Nat.one_pos
  rw [Nat.cast_one, div_one] at one
  rw [← one]
  simpa using roundHalfEven_mul_self n Nat.one_pos

theorem halfEven_bounds {q : ℚ} (hq : 0 ≤ q) :
    (halfEven q : ℚ) ≤ q + 1 / 2 ∧ q ≤ halfEven q + 1 / 2 := by
  obtain ⟨low, high⟩ := roundHalfEven_bounds q.num.toNat q.den_pos
  have whole : ((q.num.toNat : ℕ) : ℚ) = q * q.den := by
    rw [Rat.mul_den_eq_num]
    exact_mod_cast Int.toNat_of_nonneg (Rat.num_nonneg.mpr hq)
  have pos : (0 : ℚ) < q.den := Nat.cast_pos.mpr q.den_pos
  have low' : 2 * ((halfEven q : ℚ) * q.den) ≤ 2 * (q * q.den) + q.den := by
    rw [← whole]
    exact_mod_cast low
  have high' : 2 * (q * q.den) ≤ 2 * ((halfEven q : ℚ) * q.den) + q.den := by
    rw [← whole]
    exact_mod_cast high
  constructor
  · refine le_of_mul_le_mul_right ?_ pos
    linarith
  · refine le_of_mul_le_mul_right ?_ pos
    linarith

theorem halfEven_mono {p q : ℚ} (hp : 0 ≤ p) (h : p ≤ q) : halfEven p ≤ halfEven q := by
  refine Nat.le_of_not_lt fun less => ?_
  -- the two would lie half a unit on either side of one and the same fraction
  have step : (halfEven q : ℚ) + 1 ≤ halfEven p := by exact_mod_cast less
  have lower := (halfEven_bounds hp).1
  have upper := (halfEven_bounds (hp.trans h)).2
  have same : p = q := by linarith
  exact absurd less (by rw [same]; exact Nat.lt_irrefl _)

/-! ## The last place -/

/-- The exponent of the last place for a positive fraction. -/
def place (q : ℚ) : ℤ :=
  max (-1074) (Int.log 2 q - 52)

theorem cast_pow (b k : ℕ) : ((Nat.pow b k : ℕ) : ℚ) = (b : ℚ) ^ (k : ℤ) := by
  rw [zpow_natCast]
  exact Nat.cast_pow b k

theorem cast_hiddenWeight : ((hiddenWeight : ℕ) : ℚ) = 2 ^ (52 : ℤ) := by
  rw [← two_pow_52, cast_pow]
  rfl

theorem cast_two_mul_hiddenWeight : ((2 * hiddenWeight : ℕ) : ℚ) = 2 ^ (53 : ℤ) := by
  rw [← two_pow_53, cast_pow]
  rfl

/-- A power of two on one side of a fraction or the other. -/
theorem scale_div (e : ℤ) (num den : ℕ) :
    ((scale e num den).1 : ℚ) / (scale e num den).2 = (num : ℚ) / den / 2 ^ e := by
  have split : e = (e.toNat : ℤ) - ((-e).toNat : ℤ) := by omega
  rw [scale]
  push_cast [cast_pow]
  conv_rhs => rw [split, zpow_sub₀ two_ne_zero]
  field_simp

theorem scale_pos (e : ℤ) (num : ℕ) {den : ℕ} (hd : 0 < den) : 0 < (scale e num den).2 :=
  Nat.mul_pos hd (pow_two_pos _)

theorem log_lt_iff {q : ℚ} (hq : 0 < q) (x : ℤ) : Int.log 2 q < x ↔ q < 2 ^ x := by
  rw [← Int.lt_zpow_iff_log_lt Nat.one_lt_two hq, Nat.cast_ofNat]

/-- The estimate by the lengths of numerator and denominator is off by at most one, and the
comparison tells which. -/
theorem unitExponent_eq {num den : ℕ} (hn : 0 < num) (hd : 0 < den) :
    unitExponent num den = place ((num : ℚ) / den) := by
  set q : ℚ := (num : ℚ) / den with hq
  have pos : 0 < q := by positivity
  have posDen : (0 : ℚ) < den := Nat.cast_pos.mpr hd
  set a : ℤ := (Nat.log2 num : ℤ) with ha
  set b : ℤ := (Nat.log2 den : ℤ) with hb
  have two : (2 : ℚ) ≠ 0 := two_ne_zero
  have numLow : (2 : ℚ) ^ a ≤ num := by
    rw [ha, zpow_natCast]
    exact_mod_cast Nat.log2_self_le hn.ne'
  have numHigh : (num : ℚ) < 2 ^ (a + 1) := by
    rw [ha, zpow_add_one₀ two, zpow_natCast, ← pow_succ]
    exact_mod_cast (Nat.lt_log2_self : num < 2 ^ (num.log2 + 1))
  have denLow : (2 : ℚ) ^ b ≤ den := by
    rw [hb, zpow_natCast]
    exact_mod_cast Nat.log2_self_le hd.ne'
  have denHigh : (den : ℚ) < 2 ^ (b + 1) := by
    rw [hb, zpow_add_one₀ two, zpow_natCast, ← pow_succ]
    exact_mod_cast (Nat.lt_log2_self : den < 2 ^ (den.log2 + 1))
  have upper : q < 2 ^ (a - b + 1) := by
    rw [hq, div_lt_iff₀ posDen]
    calc
      (num : ℚ) < 2 ^ (a - b + 1) * 2 ^ b := by
        rw [← zpow_add₀ two]
        convert numHigh using 2
        ring
      _ ≤ 2 ^ (a - b + 1) * den := by gcongr
  have lower : ¬ q < 2 ^ (a - b - 1) := by
    rw [not_lt, hq, le_div_iff₀ posDen]
    calc
      (2 : ℚ) ^ (a - b - 1) * den ≤ 2 ^ (a - b - 1) * 2 ^ (b + 1) := by gcongr
      _ = 2 ^ a := by
        rw [← zpow_add₀ two]
        congr 1
        ring
      _ ≤ num := numLow
  have test : (scale (a - b - 53) num den).1 < 2 * hiddenWeight * (scale (a - b - 53) num den).2 ↔
      q < 2 ^ (a - b) := by
    have posScale : (0 : ℚ) < (scale (a - b - 53) num den).2 :=
      Nat.cast_pos.mpr (scale_pos _ num hd)
    rw [← Nat.cast_lt (α := ℚ), Nat.cast_mul, ← div_lt_iff₀ posScale, scale_div, ← hq,
      cast_two_mul_hiddenWeight, div_lt_iff₀ (by positivity), ← zpow_add₀ two]
    congr! 2
    ring
  rw [← log_lt_iff pos] at upper lower test
  rw [unitExponent, place]
  simp only [← ha, ← hb, test]
  split <;> omega

/-! ## The nearest magnitude -/

/-- The magnitude nearest to a fraction that is not negative. -/
def nearest (q : ℚ) : ℕ :=
  if q = 0 then 0
  else min infinityMagnitude ((place q + 1074).toNat * hiddenWeight + halfEven (q / 2 ^ place q))

theorem nearest_le (q : ℚ) : nearest q ≤ infinityMagnitude := by
  rw [nearest]
  split
  · exact Nat.zero_le _
  · exact Nat.min_le_left _ _

theorem nearest_lt (q : ℚ) : nearest q < signWeight :=
  Nat.lt_of_le_of_lt (nearest_le q) (by decide)

theorem nearestMagnitude_eq (num : ℕ) {den : ℕ} (hd : 0 < den) :
    nearestMagnitude num den = nearest ((num : ℚ) / den) := by
  have apart : (den : ℚ) ≠ 0 := Nat.cast_ne_zero.mpr hd.ne'
  rw [nearestMagnitude, nearest]
  by_cases hn : num = 0
  · simp [hn]
  · have differ : (num : ℚ) / den ≠ 0 := div_ne_zero (Nat.cast_ne_zero.mpr hn) apart
    rw [if_neg hn, if_neg differ]
    simp only [unitExponent_eq (Nat.pos_of_ne_zero hn) hd, roundHalfEven_eq _ (scale_pos _ num hd),
      scale_div]

theorem place_mono {p q : ℚ} (hp : 0 < p) (h : p ≤ q) : place p ≤ place q := by
  have := Int.log_mono_right (b := 2) hp h
  rw [place, place]
  omega

/-- In front of its last place a fraction has at most fifty-three digits. -/
theorem div_place_lt {q : ℚ} (hq : 0 < q) : q / 2 ^ place q < (2 * hiddenWeight : ℕ) := by
  rw [cast_two_mul_hiddenWeight, div_lt_iff₀ (by positivity), ← zpow_add₀ two_ne_zero,
    ← log_lt_iff hq, place]
  omega

/-- It has no fewer if the last place is not the least one. -/
theorem le_div_place {q : ℚ} (hq : 0 < q) (ordinary : -1074 < place q) :
    (hiddenWeight : ℚ) ≤ q / 2 ^ place q := by
  rw [cast_hiddenWeight, le_div_iff₀ (by positivity), ← zpow_add₀ two_ne_zero, ← not_lt,
    ← log_lt_iff hq, place]
  rw [place] at ordinary
  omega

/-- A fraction rounded in its last place has no more digits, or is the next power of two. -/
theorem halfEven_div_place_le {q : ℚ} (hq : 0 < q) :
    halfEven (q / 2 ^ place q) ≤ 2 * hiddenWeight := by
  rw [← halfEven_natCast (2 * hiddenWeight)]
  exact halfEven_mono (by positivity) (div_place_lt hq).le

theorem le_halfEven_div_place {q : ℚ} (hq : 0 < q) (ordinary : -1074 < place q) :
    hiddenWeight ≤ halfEven (q / 2 ^ place q) := by
  rw [← halfEven_natCast hiddenWeight]
  exact halfEven_mono (by positivity) (le_div_place hq ordinary)

theorem nearest_mono {p q : ℚ} (hp : 0 ≤ p) (h : p ≤ q) : nearest p ≤ nearest q := by
  rcases eq_or_lt_of_le hp with rfl | pos
  · exact Nat.zero_le _
  have pos' : 0 < q := pos.trans_le h
  rw [nearest, nearest, if_neg pos.ne', if_neg pos'.ne']
  refine min_le_min_left _ ?_
  rcases eq_or_lt_of_le (place_mono pos h) with same | less
  · have scaled : p / 2 ^ place q ≤ q / 2 ^ place q := by gcongr
    rw [same]
    have := halfEven_mono (by positivity) scaled
    omega
  · -- a carry of the smaller one reaches the next exponent at most
    have least : -1074 ≤ place p := le_max_left _ _
    have small := halfEven_div_place_le pos
    have large := le_halfEven_div_place pos' (by omega)
    have next : (place p + 1074).toNat + 1 ≤ (place q + 1074).toNat := by omega
    have := Nat.mul_le_mul_right hiddenWeight next
    rw [Nat.add_mul, Nat.one_mul] at this
    omega

/-- What is rounded keeps its order, if it does so where both are rounded to the same number. -/
theorem le_iff_nearest_le {p q : ℚ} (hp : 0 ≤ p) (hq : 0 ≤ q)
    (same : nearest q = nearest p → p ≤ q) : p ≤ q ↔ nearest p ≤ nearest q := by
  refine ⟨nearest_mono hp, fun h => le_of_not_gt fun less => ?_⟩
  have reached := same (Nat.le_antisymm (nearest_mono hq less.le) h)
  exact absurd less (not_lt.mpr reached)

/-! ## The value of a number -/

def value (x : Binary64) : ℚ :=
  x.numerator / x.denominator

theorem value_eq_intCast_iff (x : Binary64) (i : ℤ) :
    x.isFinite = true ∧ x.value = i ↔ x.integral? = some i := by
  have pos : (x.denominator : ℚ) ≠ 0 := Nat.cast_ne_zero.mpr (pow_two_pos _).ne'
  rw [integral?_eq_some_iff, isFinite, decide_eq_true_eq, value, div_eq_iff pos]
  refine and_congr_right fun _ => ?_
  exact_mod_cast Iff.rfl

theorem abs_value (x : Binary64) : |x.value| = x.significand * 2 ^ x.exponent := by
  have split : x.exponent = (x.exponent.toNat : ℤ) - ((-x.exponent).toNat : ℤ) := by omega
  have top : |(x.numerator : ℚ)| = x.significand * 2 ^ (x.exponent.toNat : ℤ) := by
    rw [← Int.cast_abs, Int.abs_eq_natAbs, natAbs_numerator]
    push_cast [cast_pow]
    rfl
  have bottom : |(x.denominator : ℚ)| = 2 ^ ((-x.exponent).toNat : ℤ) := by
    rw [Nat.abs_cast, denominator, cast_pow]
    rfl
  rw [value, abs_div, top, bottom]
  conv_rhs => rw [split, zpow_sub₀ two_ne_zero]
  ring

theorem abs_value_congr {x y : Binary64} (h : x.magnitude = y.magnitude) :
    |x.value| = |y.value| := by
  rw [abs_value, abs_value, significand, significand, exponent, exponent, h]

/-- The magnitude in terms of significand and exponent. -/
theorem magnitude_eq (x : Binary64) :
    x.magnitude = (x.exponent + 1074).toNat * hiddenWeight + x.significand := by
  rcases Nat.lt_or_ge x.magnitude hiddenWeight with small | normal
  · rw [exponent_of_lt small, significand_of_lt small]
    simp
  · obtain ⟨k, s, parts, low, high⟩ := exists_parts normal
    have weight : (x.exponent + 1074).toNat = k := by
      rw [exponent_of_parts parts low high]
      omega
    rw [weight, significand_of_parts parts low high, parts]

theorem value_eq_zero_iff (x : Binary64) : x.value = 0 ↔ x.isZero = true := by
  have unit : (2 : ℚ) ^ x.exponent ≠ 0 := by positivity
  rw [← abs_eq_zero, abs_value, mul_eq_zero, or_iff_left unit, Nat.cast_eq_zero, isZero, beq_iff_eq,
    significand]
  split
  · rfl
  · next normal =>
    rw [hiddenWeight] at normal ⊢
    omega

theorem place_abs_value {x : Binary64} (apart : x.value ≠ 0) : place |x.value| = x.exponent := by
  have pos : 0 < |x.value| := abs_pos.mpr apart
  have digits (d : ℤ) : Int.log 2 |x.value| < x.exponent + d ↔ (x.significand : ℚ) < 2 ^ d := by
    have unit : (0 : ℚ) < 2 ^ x.exponent := by positivity
    rw [log_lt_iff pos, abs_value, add_comm, zpow_add₀ two_ne_zero, mul_lt_mul_iff_left₀ unit]
  have low := digits 52
  have high := digits 53
  rw [← cast_hiddenWeight, Nat.cast_lt] at low
  rw [← cast_two_mul_hiddenWeight, Nat.cast_lt] at high
  rw [place]
  rcases Nat.lt_or_ge x.magnitude hiddenWeight with small | normal
  · have exponent := exponent_of_lt small
    have := low.mpr (significand_of_lt small ▸ small)
    omega
  · obtain ⟨k, s, parts, hs, hs'⟩ := exists_parts normal
    have significand := significand_of_parts parts hs hs'
    have := exponent_of_parts parts hs hs'
    have := high.mpr (significand ▸ hs')
    have := low.not.mpr (by omega)
    omega

/-- The value of a number is rounded to the number. -/
theorem nearest_abs_value {x : Binary64} (finite : x.isFinite = true) :
    nearest |x.value| = x.magnitude := by
  rw [isFinite, decide_eq_true_eq] at finite
  rw [nearest]
  by_cases zero : x.value = 0
  · have none := (value_eq_zero_iff x).mp zero
    rw [isZero, beq_iff_eq] at none
    rw [zero, abs_zero, if_pos rfl, none]
  · have unit : (2 : ℚ) ^ x.exponent ≠ 0 := by positivity
    rw [if_neg (abs_ne_zero.mpr zero), place_abs_value zero, abs_value,
      mul_div_cancel_right₀ _ unit, halfEven_natCast, ← magnitude_eq]
    omega

end SqlStore.Binary64
