import SqlStore.Binary64.Layout
import SqlStore.SqlType

/-!
# Values

A value is `NULL` or of one of the four column types. Two equalities matter. `same` is the one of
the indexes: kinds never mix, `NULL` is the same as `NULL`, and two floats are the same when
their bits are, with the zeroes folded together. `sqlEq` is the one of conditions and joins: it
differs from `same` in that an integer meets a float by number. `order` is a linear order that
sorts the indexes; it ties exactly on values that are the same.
-/

namespace SqlStore

inductive Value where
  | null
  | int (i : Int64)
  | float (x : Binary64)
  | text (s : String)
  | bool (b : Bool)
  deriving DecidableEq

namespace Value

def isNull : Value → Bool
  | null => true
  | _ => false

def type? : Value → Option SqlType
  | null => none
  | int _ => some .int
  | float _ => some .float
  | text _ => some .text
  | bool _ => some .bool

/-- An integer becomes a float where a float is wanted; every other value stays as it is. -/
def widen (t : SqlType) : Value → Value
  | int i => if t = .float then float (.ofInt i.toInt) else int i
  | v => v

/-- Equality in an index. -/
def same : Value → Value → Bool
  | null, null => true
  | int i, int j => i == j
  | float x, float y => x.keyBits == y.keyBits
  | text s, text t => s == t
  | bool b, bool c => b == c
  | _, _ => false

/-- Equality in a condition or a join. -/
def sqlEq : Value → Value → Bool
  | int i, float x => (Binary64.ofInt i.toInt).numEq x
  | float x, int i => (Binary64.ofInt i.toInt).numEq x
  | v, w => v.same w

def rank : Value → Nat
  | null => 0
  | int _ => 1
  | float _ => 2
  | text _ => 3
  | bool _ => 4

def intPart : Value → Int64
  | int i => i
  | _ => 0

/-- The key bits of a float, zero for the other kinds. -/
def floatPart : Value → UInt64
  | float x => x.keyBits
  | _ => 0

def textPart : Value → String
  | text s => s
  | _ => ""

def boolPart : Value → Bool
  | bool b => b
  | _ => false

/-- Values in order: by kind, then within the kind. -/
def order : Value → Value → Ordering :=
  compareLex (compareOn rank) <| compareLex (compareOn intPart) <|
    compareLex (compareOn floatPart) <| compareLex (compareOn textPart) (compareOn boolPart)

instance : Std.TransCmp order := by
  unfold order
  infer_instance

theorem order_eq_iff_parts (v w : Value) :
    order v w = .eq ↔ v.rank = w.rank ∧ v.intPart = w.intPart ∧ v.floatPart = w.floatPart ∧
      v.textPart = w.textPart ∧ v.boolPart = w.boolPart := by
  simp [order, compareLex_eq_eq, compareOn]

theorem same_iff_parts (v w : Value) :
    v.same w = true ↔ v.rank = w.rank ∧ v.intPart = w.intPart ∧ v.floatPart = w.floatPart ∧
      v.textPart = w.textPart ∧ v.boolPart = w.boolPart := by
  cases v <;> cases w <;> simp [same, rank, intPart, floatPart, textPart, boolPart]

/-- The order ties exactly on values that are the same. -/
theorem order_eq_iff_same (v w : Value) : order v w = .eq ↔ v.same w = true := by
  rw [order_eq_iff_parts, same_iff_parts]

theorem same_refl (v : Value) : v.same v = true := by
  simp [same_iff_parts]

theorem same_symm {v w : Value} (h : v.same w = true) : w.same v = true := by
  rw [same_iff_parts] at h ⊢
  obtain ⟨h₁, h₂, h₃, h₄, h₅⟩ := h
  exact ⟨h₁.symm, h₂.symm, h₃.symm, h₄.symm, h₅.symm⟩

theorem same_comm (v w : Value) : v.same w = w.same v :=
  Bool.eq_iff_iff.mpr ⟨same_symm, same_symm⟩

theorem same_trans {u v w : Value} (h : u.same v = true) (k : v.same w = true) :
    u.same w = true := by
  rw [same_iff_parts] at h k ⊢
  obtain ⟨h₁, h₂, h₃, h₄, h₅⟩ := h
  obtain ⟨k₁, k₂, k₃, k₄, k₅⟩ := k
  exact ⟨h₁.trans k₁, h₂.trans k₂, h₃.trans k₃, h₄.trans k₄, h₅.trans k₅⟩

/-- Floats are shown positionally from `0.0001` up to below `1e16`, always with a point there; of
two shortest decimals at the same distance the upper one is shown. -/
def floatLayout : FloatLayout where
  leastPositional := -4
  greatestPositional := 15
  signedExponent := false
  tie := .up
  nan := "NaN"
  infinity := fun negative => if negative then "-inf" else "inf"

/-- A value as it is shown: texts in single quotes as they are, truth values in lower case. -/
def display : Value → String
  | null => "NULL"
  | int i => toString i.toInt
  | float x => floatLayout.render x
  | text s => "'" ++ s ++ "'"
  | bool b => if b then "true" else "false"

end Value

end SqlStore
