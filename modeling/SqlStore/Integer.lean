/-!
# Integers in 64 bits
-/

namespace SqlStore

def int64? (i : Int) : Option Int64 :=
  if Int64.minValue.toInt ≤ i ∧ i ≤ Int64.maxValue.toInt then some (Int64.ofInt i) else none

theorem int64?_eq_some_iff (i : Int) (n : Int64) : int64? i = some n ↔ n.toInt = i := by
  have hmin : Int64.minValue.toInt = -9223372036854775808 := by decide
  have hmax : Int64.maxValue.toInt = 9223372036854775807 := by decide
  rw [int64?]
  constructor
  · intro h
    split at h
    · next hi =>
      obtain rfl := Option.some.inj h
      exact Int64.toInt_ofInt_of_le (by omega) (by omega)
    · cases h
  · rintro rfl
    have h₁ := n.le_toInt
    have h₂ := n.toInt_lt
    rw [if_pos ⟨by omega, by omega⟩, Int64.ofInt_toInt]

theorem int64?_eq_none_iff (i : Int) :
    int64? i = none ↔ ¬ (Int64.minValue.toInt ≤ i ∧ i ≤ Int64.maxValue.toInt) := by
  rw [int64?]
  split
  · next fits => exact iff_of_false (fun h => nomatch h) (not_not_intro fits)
  · next outside => exact iff_of_true rfl outside

end SqlStore
