/-!
# Sets of characters as lists of bounds

A property of characters that a standard lays down is kept as the ascending code points at which
it changes. The first bound opens a range, the second closes it, and so on; nothing below the
first bound has the property. Membership stops reading at the first bound above the character,
so questions about the low code points stay short.
-/

namespace SqlStore

/-- A set of characters, by the ascending code points at which membership changes. -/
structure CharSet where
  bounds : List Nat

namespace CharSet

/-- Whether an odd number of the leading bounds lie at or below `n`. -/
def covers (n : Nat) : List Nat → Bool
  | [] => false
  | b :: bs => if n < b then false else !covers n bs

def contains (s : CharSet) (c : Char) : Bool :=
  covers c.toNat s.bounds

theorem covers_cons_of_lt {n b : Nat} (bs : List Nat) (h : n < b) :
    covers n (b :: bs) = false := by
  simp [covers, h]

theorem covers_cons_of_le {n b : Nat} (bs : List Nat) (h : b ≤ n) :
    covers n (b :: bs) = !covers n bs := by
  simp [covers, Nat.not_lt.mpr h]

end CharSet

end SqlStore
