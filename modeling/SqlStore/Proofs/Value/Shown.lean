import SqlStore.Proofs.Binary64.Layout
import SqlStore.Proofs.Token.Single
import SqlStore.Proofs.Token.Written

/-!
# Shown values read back

A value is shown as a literal that denotes it, unless it is a float that is shown with an exponent
mark or in a word. Literals have no exponents, so such a text is not read as a literal at all.
-/

namespace SqlStore

open Token (Spells Numeral sign)

/-! ## Numbers as literals -/

section Numbers

/-- Digits with a point denote the number that their value is rounded to. -/
theorem Decimal.Pointed.spells {q : ℚ} {cs : List Char} (pointed : Pointed q cs) {x : Binary64}
    (read : Binary64.nearest q = x.magnitude) :
    Spells (sign x.isNegative ++ cs) (.float x) := by
  obtain ⟨whole, fraction, rfl, ne, digits, further, rfl⟩ := pointed
  have denoted : Binary64.ofDigits x.isNegative whole fraction = x := toBinary64_eq_self read
  have numeral : Numeral x.isNegative (whole ++ '.' :: fraction) _ := .point ⟨ne, digits⟩ further
  rw [denoted] at numeral
  exact numeral.spells

theorem toList_toString_int (z : ℤ) :
    (toString z).toList = sign (decide (z < 0)) ++ Nat.toDigits 10 z.natAbs := by
  cases z with
  | ofNat n =>
    have text : toString (Int.ofNat n) = n.repr := rfl
    rw [text, Nat.toList_repr]
    simp [sign]
  | negSucc n =>
    have text : toString (Int.negSucc n) = "-" ++ (n + 1).repr := rfl
    rw [text, String.toList_append, Nat.toList_repr]
    simp [sign, Int.negSucc_lt_zero]

end Numbers

namespace Value

/-- Some text has a literal of the value. -/
def Denoted (v : Value) : Prop :=
  ∃ sql ts t, Token.ofText sql = .ok ts ∧ t ∈ ts ∧ t.literal? = some v

/-- The value is shown as one literal, of a value of the same type that is the same in an index. -/
def ReadsBack (v : Value) : Prop :=
  ∃ t w, Token.ofText v.display = .ok [t, .eof] ∧ t.literal? = some w ∧ w.type? = v.type? ∧
    w.same v = true

theorem ReadsBack.of_spells {v : Value} {t : Token} (spelled : Spells v.display.toList t)
    (literal : t.literal? = some v) : v.ReadsBack :=
  ⟨t, v, Token.ofText_of_spells spelled, literal, rfl, same_refl v⟩

theorem Denoted.of_spells {v : Value} {w : List Char} {t : Token} (spelled : Spells w t)
    (literal : t.literal? = some v) : v.Denoted := by
  have text : (String.ofList w).toList = w := String.toList_ofList
  exact ⟨_, _, t, Token.ofText_of_spells (text.symm ▸ spelled), List.mem_cons_self, literal⟩

/-! ## Values other than floats -/

theorem spells_null : Spells null.display.toList .null := by
  have listed : ("NULL", Token.null) ∈ Token.reserved := by decide
  exact .reserved (by decide) listed (by decide)

theorem spells_bool (b : Bool) : Spells (bool b).display.toList (.bool b) := by
  have listed : ∀ b, ((if b then "TRUE" else "FALSE"), Token.bool b) ∈ Token.reserved := by decide
  have word : ∀ b, Token.IsWord (bool b).display.toList := by decide
  have spelled : ∀ b, Text.upper (bool b).display.toList =
      (if b then "TRUE" else "FALSE").toList := by decide
  exact .reserved (word b) (listed b) (spelled b)

theorem spells_int (i : Int64) : Spells (int i).display.toList (.number i) := by
  have digits : Token.IsDigits (Nat.toDigits 10 i.toInt.natAbs) :=
    ⟨Nat.toDigits_ne_nil, Decimal.isDigit_of_mem_toDigits⟩
  have value : i.toInt = Token.signed (decide (i.toInt < 0)) (Nat.toDigits 10 i.toInt.natAbs) := by
    rw [Token.signed, Nat.ofDigitChars_ten_toDigits]
    split
    · next negative =>
      have := of_decide_eq_true negative
      omega
    · next positive =>
      have := of_decide_eq_false (Bool.eq_false_of_not_eq_true positive)
      omega
  rw [display, toList_toString_int]
  exact (Numeral.whole digits value).spells

theorem toList_display_text (s : String) :
    (text s).display.toList = '\x27' :: (s.toList ++ ['\x27']) := by
  simp [display]

theorem spells_text {s : String} (inside : '\x27' ∉ s.toList) :
    Spells (text s).display.toList (.string s) := by
  have spelled := Spells.string inside
  rwa [← toList_display_text, String.ofList_toList] at spelled

theorem readsBack_text_iff (s : String) : (text s).ReadsBack ↔ '\x27' ∉ s.toList := by
  constructor
  · rintro ⟨t, w, read, -⟩
    obtain ⟨w, trail, all, blank, spelled⟩ :=
      Token.exists_spells_of_ofText read (toList_display_text s) (by decide)
    obtain ⟨c, w, rfl, -⟩ := spelled.exists_first
    rw [List.cons_append] at all
    obtain ⟨rfl, behind⟩ := List.cons.inj all
    obtain ⟨inside, rfl, noQuote, -⟩ := spelled.exists_inside
    -- the text ends in a quote, so no blank is behind the other one
    rcases List.eq_nil_or_concat' trail with rfl | ⟨trail, c, rfl⟩
    · rw [List.append_nil] at behind
      rwa [List.append_cancel_right behind]
    · rw [← List.append_assoc] at behind
      obtain ⟨-, last⟩ := List.append_inj' behind rfl
      have := blank c (by simp)
      rw [← (List.cons.inj last).1] at this
      exact absurd this (by decide)
  · exact fun inside => .of_spells (spells_text inside) rfl

/-! ## Floats -/

theorem toList_display_finite {x : Binary64} (finite : x.isFinite = true) :
    (float x).display.toList = sign x.isNegative ++
      if x.isZero then ['0', '.', '0'] else floatLayout.renderMagnitude x := by
  rw [display, FloatLayout.render, Binary64.isNaN_of_isFinite finite, finite]
  exact String.toList_ofList

theorem readsBack_zero {x : Binary64} (zero : x.isZero = true) : (float x).ReadsBack := by
  have finite : x.isFinite = true := by
    rw [Binary64.isZero, beq_iff_eq] at zero
    rw [Binary64.isFinite, zero]
    rfl
  have digit : ∀ c ∈ ['0'], c.isDigit = true := List.forall_mem_singleton.mpr rfl
  have pointed : Decimal.Pointed 0 ['0', '.', '0'] :=
    ⟨['0'], ['0'], rfl, List.cons_ne_nil _ _, digit, digit, zero_mul _⟩
  have read : Binary64.nearest 0 = x.magnitude := by
    rw [Binary64.nearest, if_pos rfl]
    exact (beq_iff_eq.mp zero).symm
  have spelled := pointed.spells read
  have shown := toList_display_finite finite
  rw [if_pos zero] at shown
  exact .of_spells (shown ▸ spelled) rfl

/-- What is not finite is shown in a word, which is no literal. -/
theorem not_readsBack_of_not_isFinite {x : Binary64} (finite : x.isFinite = false) :
    ¬ (float x).ReadsBack := by
  have words : ∀ s ∈ ["NaN", "inf", "-inf"],
      ((Token.ofText s).toOption.bind List.head?).bind Token.literal? = none := by
    decide +kernel
  have shown : (float x).display ∈ ["NaN", "inf", "-inf"] := by
    rw [display, FloatLayout.render]
    cases x.isNaN
    · rw [finite]
      cases x.isNegative <;> simp [floatLayout]
    · simp [floatLayout]
  rintro ⟨t, w, read, literal, -⟩
  have none := words _ shown
  rw [read] at none
  cases literal.symm.trans none

/-- Digits with a point are read back, and an exponent mark is not. -/
theorem readsBack_iff_of_value_ne_zero {x : Binary64} (finite : x.isFinite = true)
    (apart : x.value ≠ 0) :
    (float x).ReadsBack ↔ 1 / 10 ^ 4 ≤ |x.value| ∧ |x.value| < 10 ^ 16 := by
  have noZero : ¬ x.isZero = true := by
    rw [← Binary64.value_eq_zero_iff]
    exact apart
  have shown := toList_display_finite finite
  rw [if_neg noZero] at shown
  rw [← Decimal.lead_shortest_between_iff finite apart]
  constructor
  · rintro ⟨t, w, read, -⟩
    by_contra beyond
    obtain ⟨d, cs, form, digit, mark⟩ := FloatLayout.exists_mark_renderMagnitude (l := floatLayout)
      (Decimal.digits_ne_zero finite apart) beyond
    rw [form] at shown
    have inside := Token.forall_of_ofText_of_isDigit read shown digit 'e' mark
    exact absurd inside (by decide)
  · intro between
    have pointed := FloatLayout.pointed_renderMagnitude (l := floatLayout) between
    have spelled := pointed.spells (Decimal.nearest_shortest _ finite)
    exact .of_spells (shown ▸ spelled) rfl

theorem readsBack_float_iff (x : Binary64) :
    (float x).ReadsBack ↔ x.isFinite = true ∧
      (x.value = 0 ∨ 1 / 10 ^ 4 ≤ |x.value| ∧ |x.value| < 10 ^ 16) := by
  cases finite : x.isFinite with
  | false => simp [not_readsBack_of_not_isFinite finite]
  | true =>
    rcases eq_or_ne x.value 0 with zero | apart
    · simp [zero, readsBack_zero ((Binary64.value_eq_zero_iff x).mp zero)]
    · simp [apart, readsBack_iff_of_value_ne_zero finite apart]

/-! ## Denoted values -/

theorem Denoted.plain {v : Value} (denoted : v.Denoted) :
    (∀ s, v = text s → '\x27' ∉ s.toList) ∧ ∀ x, v = float x → x.isNaN = false := by
  obtain ⟨sql, ts, t, read, inside, literal⟩ := denoted
  have noEnd : t ≠ .eof := by
    rintro rfl
    cases literal
  obtain ⟨w, spelled⟩ := (Token.scan_eq_ok_iff.mp read).exists_spells inside noEnd
  constructor
  · rintro s rfl
    obtain rfl : t = .string s := by cases t <;> cases literal; rfl
    exact spelled.quote_notMem
  · rintro x rfl
    obtain rfl : t = .float x := by cases t <;> cases literal; rfl
    obtain ⟨negative, whole, fraction, rfl⟩ := spelled.exists_ofDigits
    exact Decimal.isNaN_toBinary64 _ _

theorem denoted_of_plain {v : Value} (quote : ∀ s, v = text s → '\x27' ∉ s.toList)
    (number : ∀ x, v = float x → x.isNaN = false) : v.Denoted := by
  cases v with
  | null => exact .of_spells spells_null rfl
  | int i => exact .of_spells (spells_int i) rfl
  | float x =>
    obtain ⟨d, read⟩ := Decimal.exists_nearest_eq (number x rfl)
    obtain ⟨cs, pointed⟩ := d.exists_pointed
    exact .of_spells (pointed.spells read) rfl
  | text s => exact .of_spells (spells_text (quote s rfl)) rfl
  | bool b => exact .of_spells (spells_bool b) rfl

theorem readsBack_iff {v : Value} : v.ReadsBack ↔
    (∀ s, v = text s → '\x27' ∉ s.toList) ∧ ∀ x, v = float x → x.isFinite = true ∧
      (x.value = 0 ∨ 1 / 10 ^ 4 ≤ |x.value| ∧ |x.value| < 10 ^ 16) := by
  cases v with
  | null => simpa using .of_spells spells_null rfl
  | int i => simpa using .of_spells (spells_int i) rfl
  | float x => simpa using readsBack_float_iff x
  | text s => simpa using readsBack_text_iff s
  | bool b => simpa using .of_spells (spells_bool b) rfl

/-- The texts without a quote, the floats other than not-a-number and all values of the other types
have literals. Of these values, those that are shown as a literal of themselves are all but the
floats that are infinite, at least `10 ^ 16`, or below `10 ^ -4` and not zero. -/
theorem denoted_readsBack_iff (v : Value) :
    (v.Denoted ↔
      (∀ s, v = text s → '\x27' ∉ s.toList) ∧ ∀ x, v = float x → x.isNaN = false) ∧
    (v.ReadsBack ↔ v.Denoted ∧ ∀ x, v = float x → x.isFinite = true ∧
      (x.value = 0 ∨ 1 / 10 ^ 4 ≤ |x.value| ∧ |x.value| < 10 ^ 16)) := by
  refine ⟨⟨Denoted.plain, fun plain => denoted_of_plain plain.1 plain.2⟩, ?_⟩
  rw [readsBack_iff]
  constructor
  · rintro ⟨quote, shown⟩
    have number : ∀ x, v = float x → x.isNaN = false := fun x hx =>
      Binary64.isNaN_of_isFinite (shown x hx).1
    exact ⟨denoted_of_plain quote number, shown⟩
  · rintro ⟨denoted, shown⟩
    exact ⟨denoted.plain.1, shown⟩

/-- A value that is denoted by a literal and shown as an integer with an identifier behind it. -/
theorem exists_denoted_not_readsBack :
    let x : Binary64 := .ofInt 10000000000000000
    Token.ofText "10000000000000000.0" = .ok [.float x, .eof] ∧ (float x).display = "1e16" ∧
      Token.ofText "1e16" = .ok [.number 1, .ident "e16", .eof] ∧
      (float x).Denoted ∧ ¬ (float x).ReadsBack := by
  intro x
  have written : Token.ofText "10000000000000000.0" = .ok [.float x, .eof] := by decide +kernel
  have shown : (float x).display = "1e16" := by decide +kernel
  have cut : Token.ofText "1e16" = .ok [.number 1, .ident "e16", .eof] := by decide +kernel
  refine ⟨written, shown, cut, ⟨_, _, _, written, List.mem_cons_self, rfl⟩, ?_⟩
  rintro ⟨t, w, read, -⟩
  rw [shown, cut] at read
  cases read

end Value

end SqlStore
