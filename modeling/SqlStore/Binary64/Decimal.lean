import SqlStore.Binary64.Basic

/-!
# Decimal fractions and binary floating point

A decimal fraction `digits · 10 ^ exponent` is read as the nearest binary64 number. Conversely
every finite number is a decimal fraction exactly, and `shortest` finds the decimal with the
fewest digits that is read back as the same number: for one digit, two digits and so on it takes
the two neighbours of the exact value on that grid and keeps those that read back. Of two such
neighbours the nearer one wins; the caller says which way an exact tie goes.
-/

namespace SqlStore

/-- The decimal fraction `digits · 10 ^ exponent`. -/
structure Decimal where
  digits : Nat
  exponent : Int
  deriving DecidableEq

namespace Decimal

def toBinary64 (negative : Bool) (d : Decimal) : Binary64 :=
  .ofRatio negative (d.digits * Nat.pow 10 d.exponent.toNat) (Nat.pow 10 (-d.exponent).toNat)

/-- The number that a run of digits with a point in it denotes. -/
def ofDigits (whole fraction : List Char) : Decimal where
  digits := Nat.ofDigitChars 10 (whole ++ fraction) 0
  exponent := -fraction.length

/-- The decimal cut down to a grid that is `10 ^ k` times coarser. -/
def cut (k : Nat) (d : Decimal) : Decimal where
  digits := d.digits / Nat.pow 10 k
  exponent := d.exponent + k

def next (d : Decimal) : Decimal where
  digits := d.digits + 1
  exponent := d.exponent

/-- The exact decimal value of a finite number, without its sign: a power of two below the point
is the same power of five and of one tenth. -/
def exact (x : Binary64) : Decimal :=
  if 0 ≤ x.exponent then ⟨x.significand * Nat.pow 2 x.exponent.toNat, 0⟩
  else ⟨x.significand * Nat.pow 5 (-x.exponent).toNat, x.exponent⟩

/-- Whether the decimal is read as the magnitude of `x`. -/
def readsBack (x : Binary64) (d : Decimal) : Bool :=
  (d.toBinary64 false).magnitude == x.magnitude

/-- How the last digit is chosen when two decimals are equally near. -/
inductive Tie where
  | up
  | toEven
  deriving DecidableEq

/-- Whether `e` is nearer to the point above than to the point below it on the grid `10 ^ k` times
coarser, an exact half being decided by `tie`. -/
def roundsUp (tie : Tie) (e : Decimal) (k : Nat) : Bool :=
  let rest := e.digits % Nat.pow 10 k
  if 2 * rest = Nat.pow 10 k then
    match tie with
    | .up => true
    | .toEven => (e.cut k).digits % 2 == 1
  else decide (Nat.pow 10 k < 2 * rest)

/-- The point of the grid `10 ^ k` times coarser than `e` that is the nearer neighbour of `e`
among those that read back as `x`. -/
def neighbour? (tie : Tie) (x : Binary64) (e : Decimal) (k : Nat) : Option Decimal :=
  let below := e.cut k
  let above := below.next
  match readsBack x below, readsBack x above with
  | false, false => none
  | true, false => some below
  | false, true => some above
  | true, true => some (if roundsUp tie e k then above else below)

/-- The decimal with the fewest digits, up to seventeen, that reads back as the magnitude of the
finite number `x`, and the exact value should there be none. -/
def shortest (tie : Tie) (x : Binary64) : Decimal :=
  let e := exact x
  let size := (Nat.toDigits 10 e.digits).length
  ((List.range 17).findSome? fun i => neighbour? tie x e (size - (i + 1))).getD e

theorem readsBack_of_neighbour? {tie : Tie} {x : Binary64} {e d : Decimal} {k : Nat}
    (h : neighbour? tie x e k = some d) : readsBack x d = true := by
  unfold neighbour? at h
  dsimp only at h
  split at h
  · cases h
  · next hb _ => cases h; exact hb
  · next _ ha => cases h; exact ha
  · next hb ha =>
    have hd := Option.some.inj h
    split at hd
    · rw [← hd]; exact ha
    · rw [← hd]; exact hb

end Decimal

end SqlStore
