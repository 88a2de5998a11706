/-!
# Binary floating point, by its bits

A binary64 number is its 64 bits, so every not-a-number keeps its payload. All arithmetic is done
on natural numbers and integers: a finite number is exactly `numerator / denominator`, and a
fraction is rounded to the nearest number, ties to even, once and for all in `nearestMagnitude`.
No machine arithmetic is involved.
-/

namespace SqlStore

/-- A binary64 number, by its bits: sign, eleven bits of exponent, fifty-two of fraction. -/
structure Binary64 where
  bits : UInt64
  deriving DecidableEq

namespace Binary64

def signWeight : Nat := 0x8000000000000000

/-- The weight of the lowest exponent bit, `2 ^ 52`: the bit that a significand has in front of its
fraction. -/
def hiddenWeight : Nat := 0x10000000000000

/-- The magnitude of the infinities; a larger magnitude is not a number. -/
def infinityMagnitude : Nat := 2047 * hiddenWeight

/-- The bits below the sign. They grow with the absolute value. -/
def magnitude (x : Binary64) : Nat :=
  x.bits.toNat % signWeight

def isNegative (x : Binary64) : Bool :=
  decide (signWeight ≤ x.bits.toNat)

def ofMagnitude (negative : Bool) (m : Nat) : Binary64 :=
  ⟨UInt64.ofNat ((if negative then signWeight else 0) + m)⟩

/-- The not-a-number that stands for all of them where only one is written. -/
def nan : Binary64 := ofMagnitude false (infinityMagnitude + hiddenWeight / 2)

def infinity (negative : Bool) : Binary64 := ofMagnitude negative infinityMagnitude

def isNaN (x : Binary64) : Bool :=
  decide (infinityMagnitude < x.magnitude)

def isFinite (x : Binary64) : Bool :=
  decide (x.magnitude < infinityMagnitude)

def isZero (x : Binary64) : Bool :=
  x.magnitude == 0

/-- The integer `m` of a finite number `± m · 2 ^ e`. -/
def significand (x : Binary64) : Nat :=
  if x.magnitude < hiddenWeight then x.magnitude
  else hiddenWeight + x.magnitude % hiddenWeight

/-- The exponent `e` of a finite number `± m · 2 ^ e`. -/
def exponent (x : Binary64) : Int :=
  (max (x.magnitude / hiddenWeight) 1 : Nat) - 1075

/-- A finite number is exactly `numerator / denominator`. -/
def numerator (x : Binary64) : Int :=
  let m : Int := (x.significand * Nat.pow 2 x.exponent.toNat : Nat)
  if x.isNegative then -m else m

def denominator (x : Binary64) : Nat :=
  Nat.pow 2 (-x.exponent).toNat

def integral? (x : Binary64) : Option Int :=
  if x.isFinite && x.numerator % x.denominator == 0 then
    some (x.numerator / x.denominator)
  else none

/-- The bits as a key: both zeroes are one key, and every not-a-number is its own. -/
def keyBits (x : Binary64) : UInt64 :=
  if x.isZero then 0 else x.bits

/-- Equality of numbers: a not-a-number equals nothing, and the zeroes are equal. -/
def numEq (x y : Binary64) : Bool :=
  !x.isNaN && x.keyBits == y.keyBits

/-- The quotient rounded to the nearest integer, a half to the even one. -/
def roundHalfEven (n d : Nat) : Nat :=
  let q := n / d
  let r := n % d
  if 2 * r < d then q else if d < 2 * r then q + 1 else q + q % 2

/-- The fraction `num / den` divided by `2 ^ e`, as a fraction. -/
def scale (e : Int) (num den : Nat) : Nat × Nat :=
  (num * Nat.pow 2 (-e).toNat, den * Nat.pow 2 e.toNat)

/-- The exponent of the last place for `num / den`: the significand then lies between `2 ^ 52` and
`2 ^ 53`, unless the number is so small that the least exponent holds it. -/
def unitExponent (num den : Nat) : Int :=
  let e : Int := (Nat.log2 num : Int) - Nat.log2 den - 53
  let s := scale e num den
  max (-1074) (if s.1 < 2 * hiddenWeight * s.2 then e else e + 1)

/-- The magnitude nearest to `num / den`, a tie going to the even one. A significand that rounds
up to the next power of two carries into the exponent by itself, and what lies past the largest
finite number is infinite. -/
def nearestMagnitude (num den : Nat) : Nat :=
  if num = 0 then 0
  else
    let e := unitExponent num den
    let s := scale e num den
    min infinityMagnitude ((e + 1074).toNat * hiddenWeight + roundHalfEven s.1 s.2)

/-- The number nearest to `± num / den`. -/
def ofRatio (negative : Bool) (num den : Nat) : Binary64 :=
  ofMagnitude negative (nearestMagnitude num den)

def ofInt (i : Int) : Binary64 :=
  ofRatio (decide (i < 0)) i.natAbs 1

theorem roundHalfEven_mul_self (n : Nat) {d : Nat} (hd : 0 < d) : roundHalfEven (n * d) d = n := by
  simp [roundHalfEven, Nat.mul_mod_left, Nat.mul_div_cancel n hd, hd]

theorem nearestMagnitude_le (num den : Nat) : nearestMagnitude num den ≤ infinityMagnitude := by
  rw [nearestMagnitude]
  split
  · exact Nat.zero_le _
  · exact Nat.min_le_left _ _

theorem numEq_comm (x y : Binary64) : x.numEq y = y.numEq x := by
  have key : ∀ x y : Binary64, x.numEq y = true → y.numEq x = true := by
    intro x y h
    simp only [numEq, Bool.and_eq_true, Bool.not_eq_true', beq_iff_eq] at h ⊢
    refine ⟨?_, h.2.symm⟩
    have hx := h.1
    have hk := h.2
    by_cases hzy : y.isZero = true
    · simp only [isZero, beq_iff_eq] at hzy
      simp [isNaN, hzy]
    · have hy : y.keyBits = y.bits := by simp [keyBits, hzy]
      by_cases hzx : x.isZero = true
      · have h0 : y.bits = 0 := by rw [← hy, ← hk]; simp [keyBits, hzx]
        simp [isZero, magnitude, h0] at hzy
      · have hxb : x.keyBits = x.bits := by simp [keyBits, hzx]
        have : x = y := by
          cases x
          cases y
          simp_all
        rw [← this]
        exact hx
  cases hxy : x.numEq y with
  | true => exact (key x y hxy).symm
  | false =>
    cases hyx : y.numEq x with
    | true => rw [key y x hyx] at hxy; cases hxy
    | false => rfl

example : (ofInt 1).bits = 0x3ff0000000000000 := by decide
example : (ofInt (-3)).bits = 0xc008000000000000 := by decide
example : ofInt 9007199254740993 = ofInt 9007199254740992 := by decide

end Binary64

end SqlStore
