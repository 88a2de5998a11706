import SqlStore.Proofs.Binary64.OfInt
import SqlStore.Value

/-!
# Equality in a condition

A condition compares an integer with a float after the integer has been rounded to a float. So an
integer equals the float whose value is the rounded integer, which is its own value only if the
integer is short enough. The equality contains the one of the indexes and is reflexive and
symmetric. It is transitive but for two integers that a float between them equals because both are
rounded to it.
-/

namespace SqlStore.Value

open Binary64 (rounded lastWeight)

theorem natAbs_toInt_lt (i : Int64) : i.toInt.natAbs < 2 ^ 64 := by
  have low := i.le_toInt
  have high := i.toInt_lt
  omega

/-- An integer meets the float that it is rounded to. -/
theorem sqlEq_int_float_iff (i : Int64) (x : Binary64) :
    (int i).sqlEq (float x) = true ↔ x.isFinite = true ∧ x.value = rounded i.toInt := by
  have whole := Binary64.integral?_ofInt_eq (natAbs_toInt_lt i)
  rw [Binary64.value_eq_intCast_iff, ← whole, sqlEq]
  constructor
  · exact Binary64.integral?_eq_of_numEq
  · intro h
    rw [whole] at h
    rw [← Binary64.ofInt_rounded]
    exact Binary64.numEq_of_integral? h

/-- Unless an integer meets a float, equality in a condition is the one of the indexes. -/
theorem sqlEq_eq_same {v w : Value} (left : ∀ i x, ¬ (v = int i ∧ w = float x))
    (right : ∀ i x, ¬ (v = float x ∧ w = int i)) : v.sqlEq w = v.same w := by
  rw [sqlEq]
  · exact fun i x hv hw => left i x ⟨hv, hw⟩
  · exact fun x i hv hw => right i x ⟨hv, hw⟩

theorem sqlEq_comm (v w : Value) : v.sqlEq w = w.sqlEq v := by
  cases v <;> cases w <;> simp only [sqlEq] <;> exact same_comm _ _

/-- One of two values is an integer and the other the float that it is rounded to. -/
def MeetByRounding (v w : Value) : Prop :=
  ∃ i x, (v = int i ∧ w = float x ∨ v = float x ∧ w = int i) ∧
    x.isFinite = true ∧ x.value = rounded i.toInt

theorem sqlEq_iff (v w : Value) :
    v.sqlEq w = true ↔ v.same w = true ∨ v.MeetByRounding w := by
  by_cases mixed : ∃ i x, v = int i ∧ w = float x ∨ v = float x ∧ w = int i
  · obtain ⟨i, x, ⟨rfl, rfl⟩ | ⟨rfl, rfl⟩⟩ := mixed
    · simp [sqlEq_int_float_iff, same, MeetByRounding]
    · simp [sqlEq_comm (float x), sqlEq_int_float_iff, same, MeetByRounding]
  · push Not at mixed
    rw [sqlEq_eq_same (fun i x h => (mixed i x).1 h.1 h.2) (fun i x h => (mixed i x).2 h.1 h.2)]
    refine ⟨Or.inl, fun h => h.resolve_right ?_⟩
    rintro ⟨i, x, ⟨hv, hw⟩ | ⟨hv, hw⟩, -⟩
    · exact (mixed i x).1 hv hw
    · exact (mixed i x).2 hv hw

theorem sqlEq_refl (v : Value) : v.sqlEq v = true :=
  (sqlEq_iff v v).mpr (Or.inl (same_refl v))

/-! ## Values as floats -/

section Widened

variable {u v w : Value}

theorem widen_eq_self (other : ∀ i, v ≠ int i) : v.widen .float = v := by
  cases v with
  | int i => exact absurd rfl (other i)
  | _ => rfl

/-- A value that is no integer equals the values that become the same as it. -/
theorem sqlEq_eq_same_widen (other : ∀ i, v ≠ int i) (w : Value) :
    v.sqlEq w = v.same (w.widen .float) := by
  cases v with
  | int i => exact absurd rfl (other i)
  | float x =>
    cases w with
    | int i =>
      rw [sqlEq, widen, if_pos rfl, same, Bool.eq_iff_iff, Binary64.numEq_ofInt_iff, beq_iff_eq]
      exact eq_comm
    | _ => rfl
  | _ => cases w <;> rfl

theorem same_widen_of_sqlEq (h : v.sqlEq w = true) :
    (v.widen .float).same (w.widen .float) = true := by
  by_cases left : ∀ i, v ≠ int i
  · rw [sqlEq_eq_same_widen left] at h
    rwa [widen_eq_self left]
  by_cases right : ∀ i, w ≠ int i
  · rw [sqlEq_comm, sqlEq_eq_same_widen right] at h
    rw [widen_eq_self right]
    exact same_symm h
  · push Not at left right
    obtain ⟨i, rfl⟩ := left
    obtain ⟨j, rfl⟩ := right
    obtain rfl : i = j := beq_iff_eq.mp h
    exact same_refl _

/-- Values between two that differ make these two integers. -/
theorem exists_ints_of_not_sqlEq_trans (uv : u.sqlEq v = true) (vw : v.sqlEq w = true)
    (apart : u.sqlEq w = false) : ∃ i j x, i ≠ j ∧ u = int i ∧ v = float x ∧ w = int j := by
  have ends := same_trans (same_widen_of_sqlEq uv) (same_widen_of_sqlEq vw)
  obtain ⟨i, rfl⟩ : ∃ i, u = int i := by
    by_contra! other
    rw [widen_eq_self other, ← sqlEq_eq_same_widen other, apart] at ends
    cases ends
  obtain ⟨j, rfl⟩ : ∃ j, w = int j := by
    by_contra! other
    rw [widen_eq_self other, same_comm, ← sqlEq_eq_same_widen other, sqlEq_comm, apart] at ends
    cases ends
  have differ : i ≠ j := by
    rintro rfl
    rw [sqlEq_refl] at apart
    cases apart
  cases v with
  | float x => exact ⟨i, j, x, differ, rfl, rfl, rfl⟩
  | int k => exact absurd ((beq_iff_eq.mp uv).trans (beq_iff_eq.mp vw)) differ
  | _ => cases uv

end Widened

/-- Equality in a condition is the equality of the indexes and, besides, that of an integer and the
float of finite value that the integer is rounded to. It is reflexive and symmetric. Where it is
not transitive, two integers are rounded to the float between them. An integer equals the floats of
its own value only, exactly when the digits that rounding cuts off are zeroes. -/
theorem sqlEq_rounds_integers (u v w : Value) (i : Int64) :
    (u.sqlEq v = true ↔ u.same v = true ∨ u.MeetByRounding v) ∧
      u.sqlEq u = true ∧
      u.sqlEq v = v.sqlEq u ∧
      ((u.sqlEq v = true ∧ v.sqlEq w = true) ∧ u.sqlEq w = false ↔
        ∃ i j x, i ≠ j ∧ (u = int i ∧ v = float x ∧ w = int j) ∧
          x.isFinite = true ∧ x.value = rounded i.toInt ∧ x.value = rounded j.toInt) ∧
      ((∀ x, (int i).sqlEq (float x) = true ↔ x.isFinite = true ∧ x.value = i.toInt) ↔
        lastWeight i.toInt.natAbs ∣ i.toInt.natAbs) := by
  refine ⟨sqlEq_iff u v, sqlEq_refl u, sqlEq_comm u v, ?_, ?_⟩
  · constructor
    · rintro ⟨⟨uv, vw⟩, apart⟩
      obtain ⟨i, j, x, differ, rfl, rfl, rfl⟩ := exists_ints_of_not_sqlEq_trans uv vw apart
      rw [sqlEq_comm] at vw
      have left := (sqlEq_int_float_iff i x).mp uv
      have right := (sqlEq_int_float_iff j x).mp vw
      exact ⟨i, j, x, differ, ⟨rfl, rfl, rfl⟩, left.1, left.2, right.2⟩
    · rintro ⟨i, j, x, differ, ⟨rfl, rfl, rfl⟩, finite, left, right⟩
      refine ⟨⟨(sqlEq_int_float_iff i x).mpr ⟨finite, left⟩, ?_⟩, ?_⟩
      · rw [sqlEq_comm]
        exact (sqlEq_int_float_iff j x).mpr ⟨finite, right⟩
      · simpa [sqlEq, same] using differ
  · rw [← Binary64.rounded_eq_self_iff]
    constructor
    · intro equal
      have whole := Binary64.integral?_ofInt_eq (natAbs_toInt_lt i)
      have nearest := (Binary64.value_eq_intCast_iff _ _).mpr whole
      have own := (equal _).mp ((sqlEq_int_float_iff i _).mpr nearest)
      exact_mod_cast nearest.2.symm.trans own.2
    · intro exact x
      rw [sqlEq_int_float_iff, exact]

/-- Two integers beyond `2 ^ 53` equal one float, whose value is one of them. -/
theorem sqlEq_not_trans :
    let x : Binary64 := .ofInt 9007199254740992
    x.value = 9007199254740992 ∧
      (int 9007199254740992).sqlEq (float x) = true ∧
      (float x).sqlEq (int 9007199254740993) = true ∧
      (int 9007199254740992).sqlEq (int 9007199254740993) = false := by
  intro x
  have whole : x.integral? = some 9007199254740992 := by decide +kernel
  exact ⟨((Binary64.value_eq_intCast_iff x _).mpr whole).2, by decide +kernel⟩

end SqlStore.Value
