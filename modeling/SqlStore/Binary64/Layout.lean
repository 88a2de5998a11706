import SqlStore.Binary64.Decimal
import SqlStore.Text.Runs

/-!
# Binary floating point as text

A finite number is written with its shortest digits. A `FloatLayout` holds what a format decides
beyond that: which decimal exponents are written out positionally and which with an exponent
mark, whether a positive exponent has a sign, how a tie between two shortest decimals goes, and
the words for what is not finite. Positional numbers always have a point with a digit after it.
`ofText?` reads all such texts back, correctly rounded.
-/

namespace SqlStore

/-- The decisions of a format for floating point numbers. -/
structure FloatLayout where
  /-- The least decimal exponent of the first digit that is written positionally. -/
  leastPositional : Int
  /-- The greatest decimal exponent of the first digit that is written positionally. -/
  greatestPositional : Int
  /-- Whether a positive exponent is written with a sign. -/
  signedExponent : Bool
  /-- Which of two shortest decimals at the same distance is written. -/
  tie : Decimal.Tie
  /-- The word for not-a-number. -/
  nan : String
  /-- The words for positive and for negative infinity. -/
  infinity : Bool → String

namespace FloatLayout

/-- Digits with the point after the one of exponent zero, filled up with zeroes; the first digit
has the exponent `k`. -/
def positional (ds : List Char) (k : Int) : List Char :=
  if 0 ≤ k then
    let n := k.toNat + 1
    let fraction := ds.drop n
    ds.take n ++ List.replicate (n - ds.length) '0' ++
      '.' :: (if fraction.isEmpty then ['0'] else fraction)
  else
    '0' :: '.' :: List.replicate (-k - 1).toNat '0' ++ ds

/-- One digit before the point and the exponent `k` behind the mark; a single digit has no
point. -/
def marked (signedExponent : Bool) (ds : List Char) (k : Int) : List Char :=
  let fraction := ds.drop 1
  let sign := if k < 0 then ['-'] else if signedExponent then ['+'] else []
  ds.take 1 ++ (if fraction.isEmpty then [] else '.' :: fraction) ++
    'e' :: sign ++ Nat.toDigits 10 k.natAbs

def renderMagnitude (l : FloatLayout) (x : Binary64) : List Char :=
  let d := Decimal.shortest l.tie x
  let all := Nat.toDigits 10 d.digits
  let k : Int := d.exponent + all.length - 1
  let ds := Text.dropEndWhile (· == '0') all
  if l.leastPositional ≤ k ∧ k ≤ l.greatestPositional then positional ds k
  else marked l.signedExponent ds k

/-- The text of a number. A zero keeps its sign, a not-a-number has none. -/
def render (l : FloatLayout) (x : Binary64) : String :=
  if x.isNaN then l.nan
  else if !x.isFinite then l.infinity x.isNegative
  else
    let sign := if x.isNegative then ['-'] else []
    let body := if x.isZero then ['0', '.', '0'] else l.renderMagnitude x
    String.ofList (sign ++ body)

end FloatLayout

namespace Binary64

def ofDigits (negative : Bool) (whole fraction : List Char) : Binary64 :=
  (Decimal.ofDigits whole fraction).toBinary64 negative

/-- A decimal exponent brought into bounds outside of which a number of `size` digits is infinite
or zero whatever its digits. -/
def boundedExponent (size : Nat) (e : Int) : Int :=
  max (-(size + 400)) (min e 400)

/-- An optional sign in front of a text, `true` for a minus. -/
def splitSign : List Char → Bool × List Char
  | '-' :: cs => (true, cs)
  | '+' :: cs => (false, cs)
  | cs => (false, cs)

def exponentOf? : List Char → Option Int
  | [] => some 0
  | c :: cs =>
    if c == 'e' || c == 'E' then
      let (negative, ds) := splitSign cs
      if ds.isEmpty || !ds.all Char.isDigit then none
      else
        let n : Int := Nat.ofDigitChars 10 ds 0
        some (if negative then -n else n)
    else none

/-- Reads a decimal number with an optional sign, point and exponent, or one of the words `inf`
and `NaN`. -/
def ofText? (s : String) : Option Binary64 :=
  let (negative, cs) := splitSign s.toList
  if cs = ['i', 'n', 'f'] then some (infinity negative)
  else if cs = ['N', 'a', 'N'] then some nan
  else
    let whole := cs.takeWhile Char.isDigit
    let (fraction, rest) :=
      match cs.dropWhile Char.isDigit with
      | '.' :: r => (r.takeWhile Char.isDigit, r.dropWhile Char.isDigit)
      | r => ([], r)
    if whole.isEmpty && fraction.isEmpty then none
    else
      (exponentOf? rest).map fun e =>
        let d := Decimal.ofDigits whole fraction
        let size := whole.length + fraction.length
        Decimal.toBinary64 negative ⟨d.digits, boundedExponent size (d.exponent + e)⟩

end Binary64

end SqlStore
