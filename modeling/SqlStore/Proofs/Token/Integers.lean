import Mathlib.Algebra.Ring.Int.Defs
import Mathlib.Algebra.Ring.Nat
import SqlStore.Proofs.Token.Layout

/-!
# Integer literals

Digits without a point, with or without a minus in front, are an integer however many they are. Its
value counts every digit by its place, so zeroes in front change nothing. `integer_read_exactly`
says that such a literal is read as the value itself if a 64-bit integer can be this value, and is
refused with its own text otherwise: no value is wrapped around or cut off.
-/

namespace SqlStore

namespace Token

/-- The number that decimal digits denote: each is worth ten times as much as if it stood one place
further right. -/
def placeValue : List Char → Nat
  | [] => 0
  | d :: ds => (d.toNat - '0'.toNat) * 10 ^ ds.length + placeValue ds

theorem ofDigitChars_eq_placeValue (ds : List Char) : Nat.ofDigitChars 10 ds 0 = placeValue ds := by
  induction ds with
  | nil => rfl
  | cons d ds ih =>
    rw [Nat.ofDigitChars_cons, Nat.ofDigitChars_eq_ofDigitChars_zero, ih, placeValue, Nat.mul_zero,
      Nat.zero_add, Nat.mul_comm]

/-- The number that digits denote behind an optional minus. -/
def literalValue (negative : Bool) (ds : List Char) : Int :=
  if negative then -(placeValue ds : Int) else placeValue ds

theorem signed_eq_literalValue (negative : Bool) (ds : List Char) :
    signed negative ds = literalValue negative ds := by
  rw [signed, literalValue, ofDigitChars_eq_placeValue]

/-- A text that begins with a digit, or with a minus and a digit, is scanned as a number first. -/
theorem scan_sign_digit (negative : Bool) {d : Char} (digit : d.isDigit = true) (cs : List Char) :
    scan (sign negative ++ d :: cs) =
      (number? negative d cs).map Lexeme.pair >>= fun p => (scan p.2).map (p.1 :: ·) := by
  cases negative with
  | false =>
    have first : Text.isBlank d = false := by
      refine Bool.eq_false_iff.mpr fun blank => ?_
      rw [(classes_of_isBlank blank).2.1.1] at digit
      cases digit
    have trimmed : Text.trimStart (d :: cs) = d :: cs :=
      List.dropWhile_cons_of_neg (by simp [first])
    rw [sign, if_neg Bool.false_ne_true, List.nil_append, scan_of_trimStart trimmed,
      pair_lexeme?_of_isDigit digit]
  | true =>
    have trimmed : Text.trimStart ('-' :: d :: cs) = '-' :: d :: cs :=
      List.dropWhile_cons_of_neg (by decide)
    rw [sign, if_pos rfl, List.singleton_append, scan_of_trimStart trimmed,
      pair_lexeme?_minus digit]

/-- Digits that no digit and no point follows are read as exactly the integer that they denote with
their sign, and the rest of the text is read behind it. If the integer does not fit into 64 bits,
the error names the digits with their sign as they stand. -/
theorem integer_read_exactly (negative : Bool) (d : Char) (ds rest : List Char)
    (digits : IsDigits (d :: ds)) (stop : ∀ c ∈ rest.head?, c.isDigit = false ∧ c ≠ '.') :
    let n := literalValue negative (d :: ds)
    let text := sign negative ++ d :: ds
    (-2 ^ 63 ≤ n ∧ n ≤ 2 ^ 63 - 1 → ∃ i : Int64, i.toInt = n ∧
      (number? negative d (ds ++ rest)).map Lexeme.pair = .ok (number i, rest) ∧
      scan (text ++ rest) = (scan rest).map (number i :: ·)) ∧
    (¬ (-2 ^ 63 ≤ n ∧ n ≤ 2 ^ 63 - 1) →
      (number? negative d (ds ++ rest)).map Lexeme.pair =
        .error (.invalidNumber (String.ofList text)) ∧
      scan (text ++ rest) = .error (.invalidNumber (String.ofList text))) := by
  intro n text
  have read := pair_number?_whole negative d (fun c hc => digits.2 c (List.mem_cons_of_mem d hc))
    (fun c hc => (stop c hc).1) fun c hc => (stop c hc).2
  have scanned := scan_sign_digit negative (digits.2 d List.mem_cons_self) (ds ++ rest)
  rw [signed_eq_literalValue] at read
  rw [← List.cons_append, ← List.append_assoc] at scanned
  have refused : int64? n = none ↔ ¬ (-2 ^ 63 ≤ n ∧ n ≤ 2 ^ 63 - 1) := by
    have ends : Int64.minValue.toInt = -2 ^ 63 ∧ Int64.maxValue.toInt = 2 ^ 63 - 1 := by decide
    rw [int64?_eq_none_iff, ends.1, ends.2]
  rw [scanned, read]
  constructor
  · intro inside
    obtain ⟨i, hi⟩ := Option.ne_none_iff_exists'.mp fun none => refused.mp none inside
    refine ⟨i, (int64?_eq_some_iff n i).mp hi, ?_⟩
    rw [hi]
    exact ⟨rfl, rfl⟩
  · intro outside
    rw [refused.mpr outside]
    exact ⟨rfl, rfl⟩

/-- With its minus the least integer is read, also behind further zeroes, and without it the same
digits are refused. -/
theorem integer_read_exactly_at_both_ends :
    let ds := "0009223372036854775808".toList
    IsDigits ('0' :: ds) ∧
      (scan ('-' :: '0' :: ds ++ [',', '7']) =
        .ok [number Int64.minValue, comma, number 7, eof]) ∧
      scan ('0' :: ds ++ [',', '7']) = .error (.invalidNumber "00009223372036854775808") := by
  intro ds
  have digits : IsDigits ('0' :: ds) :=
    ⟨List.cons_ne_nil _ _, List.all_eq_true.mp (by decide)⟩
  have stop : ∀ c ∈ [',', '7'].head?, c.isDigit = false ∧ c ≠ '.' := by
    rintro _ ⟨rfl⟩
    decide
  have behind : scan [',', '7'] = .ok [comma, number 7, eof] := by decide +kernel
  obtain ⟨i, value, -, read⟩ := (integer_read_exactly true '0' ds [',', '7'] digits stop).1
    (by decide)
  obtain ⟨-, refused⟩ := (integer_read_exactly false '0' ds [',', '7'] digits stop).2 (by decide)
  have least : i = Int64.minValue := Int64.toInt_inj.mp (value.trans (by decide))
  rw [least, behind] at read
  exact ⟨digits, read, refused⟩

end Token

end SqlStore
