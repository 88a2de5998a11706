import SqlStore.Binary64.Layout
import SqlStore.Proofs.Binary64.Decimal

/-!
# Digits around a point

Between the bounds of a layout a number is written as digits with a point among them. They have the
value of its shortest decimal, so the number is what they denote. Beyond the bounds there is an
exponent mark behind the first digit.
-/

namespace SqlStore

namespace Decimal

/-- The text is digits, at least one, then a point and perhaps further digits, and has the value. -/
def Pointed (q : ℚ) (cs : List Char) : Prop :=
  ∃ whole fraction, cs = whole ++ '.' :: fraction ∧ whole ≠ [] ∧
    (∀ c ∈ whole, c.isDigit = true) ∧ (∀ c ∈ fraction, c.isDigit = true) ∧
    (ofDigits whole fraction).toRat = q

section Padded

variable {ds : List Char} (digits : ∀ c ∈ ds, c.isDigit = true)

include digits

/-- Zeroes in front of digits count nothing, and each one behind them counts ten times. -/
theorem pointed_of_padded {whole fraction : List Char} {k : ℤ} (front behind : ℕ)
    (padded : whole ++ fraction = List.replicate front '0' ++ ds ++ List.replicate behind '0')
    (ne : whole ≠ []) (exponent : k = behind - fraction.length) :
    Pointed (Nat.ofDigitChars 10 ds 0 * 10 ^ k) (whole ++ '.' :: fraction) := by
  have all : ∀ c ∈ whole ++ fraction, c.isDigit = true := by
    rw [padded]
    intro c hc
    rcases List.mem_append.mp hc with hc | hc
    · rcases List.mem_append.mp hc with hc | hc
      · rw [List.eq_of_mem_replicate hc]
        rfl
      · exact digits c hc
    · rw [List.eq_of_mem_replicate hc]
      rfl
  refine ⟨whole, fraction, rfl, ne, fun c hc => all c (List.mem_append_left _ hc),
    fun c hc => all c (List.mem_append_right _ hc), ?_⟩
  have count : Nat.ofDigitChars 10 (whole ++ fraction) 0 =
      10 ^ behind * Nat.ofDigitChars 10 ds 0 := by
    rw [padded, Nat.ofDigitChars_append, Nat.ofDigitChars_append, Nat.ofDigitChars_replicate_zero,
      Nat.ofDigitChars_replicate_zero, Nat.mul_zero]
  rw [toRat, ofDigits, count, exponent, sub_eq_add_neg, zpow_add₀ (by norm_num)]
  push_cast
  rw [zpow_natCast]
  ring

/-- The digit with the exponent zero is the last one before the point. -/
theorem pointed_positional (k : ℤ) :
    Pointed (Nat.ofDigitChars 10 ds 0 * 10 ^ (k + 1 - ds.length))
      (FloatLayout.positional ds k) := by
  rw [FloatLayout.positional]
  split
  · next front =>
    obtain ⟨j, rfl⟩ := Int.eq_ofNat_of_zero_le front
    simp only [Int.toNat_natCast]
    rcases Nat.lt_or_ge (j + 1) ds.length with inside | short
    · have digit : ds.drop (j + 1) ≠ [] := by
        rw [Ne, List.drop_eq_nil_iff]
        omega
      have full : j + 1 - ds.length = 0 := by omega
      rw [if_neg (by simpa using digit), full, List.replicate_zero, List.append_nil]
      apply pointed_of_padded digits 0 0
      · simp
      · apply List.ne_nil_of_length_pos
        rw [List.length_take]
        omega
      · rw [List.length_drop]
        omega
    · have none : ds.drop (j + 1) = [] := List.drop_eq_nil_of_le short
      rw [none, List.take_of_length_le short]
      apply pointed_of_padded digits 0 (j + 1 - ds.length + 1)
      · simp [List.replicate_succ']
      · apply List.ne_nil_of_length_pos
        rw [List.length_append, List.length_replicate]
        omega
      · simp
        omega
  · next behind =>
    have form : '0' :: '.' :: List.replicate (-k - 1).toNat '0' ++ ds =
        ['0'] ++ '.' :: (List.replicate (-k - 1).toNat '0' ++ ds) := rfl
    rw [form]
    apply pointed_of_padded digits ((-k - 1).toNat + 1) 0
    · simp [List.replicate_succ]
    · exact List.cons_ne_nil _ _
    · simp
      omega

end Padded

theorem isDigit_of_mem_toDigits {n : ℕ} : ∀ c ∈ Nat.toDigits 10 n, c.isDigit = true :=
  fun _ => Nat.isDigit_of_mem_toDigits (by decide) (by decide)

/-- Every decimal can be written with a point. -/
theorem exists_pointed (d : Decimal) : ∃ cs, Pointed d.toRat cs := by
  have pointed := pointed_positional (@isDigit_of_mem_toDigits d.digits) d.lead
  have exponent : d.lead + 1 - (Nat.toDigits 10 d.digits).length = d.exponent := by
    rw [lead]
    omega
  rw [Nat.ofDigitChars_ten_toDigits, exponent] at pointed
  exact ⟨_, pointed⟩

/-- The digits without the zeroes at their end. -/
def significant (d : Decimal) : List Char :=
  Text.dropEndWhile (· == '0') (Nat.toDigits 10 d.digits)

theorem exists_significant_append (d : Decimal) :
    ∃ n, Nat.toDigits 10 d.digits = d.significant ++ List.replicate n '0' := by
  obtain ⟨zeroes, all, same⟩ :=
    Text.exists_dropEndWhile_append (· == '0') (Nat.toDigits 10 d.digits)
  refine ⟨zeroes.length, ?_⟩
  rw [← List.eq_replicate_of_mem fun c hc => beq_iff_eq.mp (same c hc)]
  exact all

theorem isDigit_of_mem_significant (d : Decimal) : ∀ c ∈ d.significant, c.isDigit = true := by
  obtain ⟨n, all⟩ := exists_significant_append d
  exact fun c hc => isDigit_of_mem_toDigits c (all ▸ List.mem_append_left _ hc)

/-- The zeroes that are left out count in the place of the first digit. -/
theorem toRat_eq_significant (d : Decimal) :
    d.toRat =
      Nat.ofDigitChars 10 d.significant 0 * 10 ^ (d.lead + 1 - d.significant.length) := by
  obtain ⟨n, all⟩ := exists_significant_append d
  have count : d.digits = 10 ^ n * Nat.ofDigitChars 10 d.significant 0 := by
    rw [← Nat.ofDigitChars_replicate_zero, ← Nat.ofDigitChars_append, ← all,
      Nat.ofDigitChars_ten_toDigits]
  have exponent : d.lead + 1 - d.significant.length = n + d.exponent := by
    rw [lead, all, List.length_append, List.length_replicate]
    omega
  rw [toRat, exponent, count, zpow_add₀ (by norm_num), zpow_natCast]
  push_cast
  ring

theorem significant_ne_nil {d : Decimal} (apart : d.digits ≠ 0) : d.significant ≠ [] := by
  intro none
  have value := toRat_eq_significant d
  rw [none, Nat.ofDigitChars_nil, Nat.cast_zero, zero_mul, toRat, mul_eq_zero] at value
  rcases value with zero | unit
  · exact apart (Nat.cast_eq_zero.mp zero)
  · exact absurd unit (by positivity)

end Decimal

namespace FloatLayout

open Decimal

variable {l : FloatLayout} {x : Binary64}

theorem pointed_renderMagnitude
    (between : l.leastPositional ≤ (shortest l.tie x).lead ∧
      (shortest l.tie x).lead ≤ l.greatestPositional) :
    Pointed (shortest l.tie x).toRat (l.renderMagnitude x) := by
  have form : l.renderMagnitude x =
      positional (shortest l.tie x).significant (shortest l.tie x).lead :=
    if_pos between
  rw [form, toRat_eq_significant]
  exact pointed_positional (isDigit_of_mem_significant _) _

/-- An exponent mark stands behind a digit. -/
theorem exists_mark_renderMagnitude (apart : (shortest l.tie x).digits ≠ 0)
    (beyond : ¬ (l.leastPositional ≤ (shortest l.tie x).lead ∧
      (shortest l.tie x).lead ≤ l.greatestPositional)) :
    ∃ d cs, l.renderMagnitude x = d :: cs ∧ d.isDigit = true ∧ 'e' ∈ cs := by
  have form : l.renderMagnitude x =
      marked l.signedExponent (shortest l.tie x).significant (shortest l.tie x).lead :=
    if_neg beyond
  obtain ⟨d, ds, shown⟩ := List.exists_cons_of_ne_nil (significant_ne_nil apart)
  have digit := isDigit_of_mem_significant (shortest l.tie x) d (shown ▸ List.mem_cons_self)
  rw [form, marked, shown]
  exact ⟨d, _, rfl, digit, by simp⟩

end FloatLayout

end SqlStore
