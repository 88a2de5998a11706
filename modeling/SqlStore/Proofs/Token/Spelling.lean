import Mathlib.Tactic.FinCases
import Mathlib.Tactic.SplitIfs
import SqlStore.Proofs.Basic
import SqlStore.Token.Scan

/-!
# How tokens are spelled

The lexemes of the language, apart from how a text is cut: the seven symbols, words, numerals with
an optional sign, and strings in single quotes. A word is one of twenty reserved ones, in whatever
case, or an identifier. `pair_lexeme?_eq_ok_iff` says that a lexeme is read exactly when it stands
in front and does not go on: no character that continues a word follows a word, and no digit and no
point follows a number.
-/

namespace SqlStore

namespace Token

/-! ## Lexemes -/

def symbols : List (Char × Token) :=
  [('(', leftParen), (')', rightParen), (',', comma), (';', semicolon), ('*', star),
    ('=', equal), ('.', dot)]

/-- The words that are no identifiers, in uppercase. -/
def reserved : List (String × Token) :=
  [("CREATE", keyword .create), ("TABLE", keyword .table), ("INSERT", keyword .insert),
    ("INTO", keyword .into), ("VALUES", keyword .values), ("SELECT", keyword .select),
    ("FROM", keyword .from), ("JOIN", keyword .join), ("ON", keyword .on),
    ("WHERE", keyword .where), ("UPDATE", keyword .update), ("SET", keyword .set),
    ("DELETE", keyword .delete), ("PRIMARY", keyword .primary), ("KEY", keyword .key),
    ("UNIQUE", keyword .unique), ("NOT", keyword .not), ("NULL", null), ("TRUE", bool true),
    ("FALSE", bool false)]

/-- A letter or an underscore, then letters, numerals and underscores. -/
def IsWord : List Char → Prop
  | [] => False
  | c :: cs => Text.isWordStart c = true ∧ ∀ d ∈ cs, Text.isWordChar d = true

def IsDigits (ds : List Char) : Prop :=
  ds ≠ [] ∧ ∀ d ∈ ds, d.isDigit = true

def signed (negative : Bool) (ds : List Char) : Int :=
  if negative then -(Nat.ofDigitChars 10 ds 0 : Int) else Nat.ofDigitChars 10 ds 0

/-- A number without its sign: digits whose signed value fits into 64 bits, or digits with a point
behind them and perhaps further digits. -/
inductive Numeral (negative : Bool) : List Char → Token → Prop
  | whole {ds : List Char} {i : Int64} (digits : IsDigits ds)
      (value : i.toInt = signed negative ds) : Numeral negative ds (number i)
  | point {ds fraction : List Char} (digits : IsDigits ds)
      (further : ∀ d ∈ fraction, d.isDigit = true) :
      Numeral negative (ds ++ '.' :: fraction) (float (.ofDigits negative ds fraction))

/-- The text is a lexeme and denotes the token. -/
inductive Spells : List Char → Token → Prop
  | symbol {c : Char} {t : Token} (listed : (c, t) ∈ symbols) : Spells [c] t
  | reserved {w : List Char} {u : String} {t : Token} (word : IsWord w)
      (listed : (u, t) ∈ reserved) (spelled : Text.upper w = u.toList) : Spells w t
  | ident {w : List Char} (word : IsWord w)
      (free : ∀ p ∈ Token.reserved, Text.upper w ≠ p.1.toList) :
      Spells w (ident (String.ofList w))
  | number {w : List Char} {t : Token} (numeral : Numeral false w t) : Spells w t
  | negative {w : List Char} {t : Token} (numeral : Numeral true w t) : Spells ('-' :: w) t
  | string {cs : List Char} (inside : '\x27' ∉ cs) :
      Spells ('\x27' :: (cs ++ ['\x27'])) (string (String.ofList cs))

/-- Whether a lexeme of the token would go on with the character. -/
def goesOn : Token → Char → Bool
  | keyword _, c | null, c | bool _, c | ident _, c => Text.isWordChar c
  | number _, c | float _, c => c.isDigit || c == '.'
  | _, _ => false

/-- A lexeme of the token ends before the rest. -/
def Ends (t : Token) (rest : List Char) : Prop :=
  ∀ c ∈ rest.head?, t.goesOn c = false

/-! ## Words -/

theorem ofWord_of_reserved {p : String × Token} (listed : p ∈ reserved) {w : List Char}
    (h : Text.upper w = p.1.toList) : ofWord w = p.2 := by
  rw [ofWord, h]
  unfold reserved at listed
  clear h
  fin_cases listed <;> rfl

theorem ofWord_of_free {w : List Char} (free : ∀ p ∈ reserved, Text.upper w ≠ p.1.toList) :
    ofWord w = ident (String.ofList w) := by
  have listed : ∀ k ∈ Keyword.all, (String.ofList k.letters, keyword k) ∈ reserved := by decide
  have none : (Keyword.all.find? fun k => Text.upper w == k.letters) = none := by
    rw [List.find?_eq_none]
    intro k hk spelled
    have other := free _ (listed k hk)
    rw [String.toList_ofList] at other
    exact other (beq_iff_eq.mp spelled)
  rw [ofWord, none]
  have literal : Text.upper w ≠ ['N', 'U', 'L', 'L'] ∧ Text.upper w ≠ ['T', 'R', 'U', 'E'] ∧
      Text.upper w ≠ ['F', 'A', 'L', 'S', 'E'] :=
    ⟨free ("NULL", null) (by decide), free ("TRUE", bool true) (by decide),
      free ("FALSE", bool false) (by decide)⟩
  simp only [literal, if_false]

theorem spells_ofWord {w : List Char} (word : IsWord w) : Spells w (ofWord w) := by
  by_cases listed : ∃ p ∈ reserved, Text.upper w = p.1.toList
  · obtain ⟨⟨u, t⟩, hp, spelled⟩ := listed
    rw [ofWord_of_reserved hp spelled]
    exact .reserved word hp spelled
  · have free : ∀ p ∈ reserved, Text.upper w ≠ p.1.toList := fun p hp h => listed ⟨p, hp, h⟩
    rw [ofWord_of_free free]
    exact .ident word free

theorem goesOn_ofWord (w : List Char) : (ofWord w).goesOn = Text.isWordChar := by
  funext c
  rw [ofWord]
  cases Keyword.all.find? fun k => Text.upper w == k.letters with
  | some k => rfl
  | none =>
    simp only
    split_ifs <;> rfl

/-! ## Numbers and strings -/

def Lexeme.pair {limit : Nat} (l : Lexeme limit) : Token × List Char :=
  (l.token, l.rest)

theorem Lexeme.map_pair_eq_ok_iff {limit : Nat} {e : Except SyntaxError (Lexeme limit)} {t : Token}
    {rest : List Char} :
    e.map Lexeme.pair = .ok (t, rest) ↔ ∃ l, e = .ok l ∧ l.token = t ∧ l.rest = rest := by
  cases e with
  | error e => simp [Except.map]
  | ok l => simp [Except.map, Lexeme.pair]

def sign (negative : Bool) : List Char :=
  if negative then ['-'] else []

section Number

variable (negative : Bool) (d : Char) {ds fraction rest : List Char}

theorem point_stops (cs : List Char) : ∀ c ∈ ('.' :: cs).head?, c.isDigit = false := by
  simp

theorem false_of_point_cons {cs : List Char} (stop : ∀ c ∈ rest.head?, c ≠ '.')
    (h : rest = '.' :: cs) : False := by
  subst h
  exact stop '.' rfl rfl

theorem pair_number?_whole (digits : ∀ c ∈ ds, c.isDigit = true)
    (stop : ∀ c ∈ rest.head?, c.isDigit = false) (noPoint : ∀ c ∈ rest.head?, c ≠ '.') :
    (number? negative d (ds ++ rest)).map Lexeme.pair =
      match int64? (signed negative (d :: ds)) with
      | some i => .ok (number i, rest)
      | none => .error (.invalidNumber (String.ofList (sign negative ++ d :: ds))) := by
  have taken := takeWhile_append_of_stop digits stop
  have left := dropWhile_append_of_stop digits stop
  rw [number?]
  split
  · next r h => exact (false_of_point_cons noPoint (left.symm.trans h)).elim
  · simp only [taken, signed, sign]
    generalize int64? _ = fitting
    cases fitting with
    | none => rfl
    | some i => simp only [Except.map, Lexeme.pair, left]

theorem pair_number?_point (digits : ∀ c ∈ ds, c.isDigit = true)
    (further : ∀ c ∈ fraction, c.isDigit = true)
    (stop : ∀ c ∈ rest.head?, c.isDigit = false) (noPoint : ∀ c ∈ rest.head?, c ≠ '.') :
    (number? negative d (ds ++ '.' :: (fraction ++ rest))).map Lexeme.pair =
      .ok (float (.ofDigits negative (d :: ds) fraction), rest) := by
  have point := point_stops (fraction ++ rest)
  have taken := takeWhile_append_of_stop digits point
  have left := dropWhile_append_of_stop digits point
  rw [number?]
  split
  · next r h =>
    obtain rfl : fraction ++ rest = r := List.tail_eq_of_cons_eq (left.symm.trans h)
    have behind := dropWhile_append_of_stop further stop
    split
    · next r h => exact (false_of_point_cons noPoint (behind.symm.trans h)).elim
    · simp only [taken, takeWhile_append_of_stop further stop, Except.map, Lexeme.pair, behind]
  · next h => exact (h _ left).elim

theorem pair_number?_points (digits : ∀ c ∈ ds, c.isDigit = true)
    (further : ∀ c ∈ fraction, c.isDigit = true) :
    (number? negative d (ds ++ '.' :: (fraction ++ '.' :: rest))).map Lexeme.pair =
      .error (.invalidNumber
        (String.ofList (sign negative ++ d :: ds ++ '.' :: fraction ++ ['.']))) := by
  have point := point_stops (fraction ++ '.' :: rest)
  have taken := takeWhile_append_of_stop digits point
  have left := dropWhile_append_of_stop digits point
  rw [number?]
  split
  · next r h =>
    obtain rfl : fraction ++ '.' :: rest = r := List.tail_eq_of_cons_eq (left.symm.trans h)
    have behind := dropWhile_append_of_stop further (point_stops rest)
    split
    · simp only [taken, takeWhile_append_of_stop further (point_stops rest), sign, Except.map]
    · next h => exact (h _ behind).elim
  · next h => exact (h _ left).elim

end Number

theorem Numeral.ends_iff {negative : Bool} {w rest : List Char} {t : Token}
    (numeral : Numeral negative w t) :
    Ends t rest ↔
      (∀ c ∈ rest.head?, c.isDigit = false) ∧ ∀ c ∈ rest.head?, c ≠ '.' := by
  have goesOn : ∀ c, t.goesOn c = (c.isDigit || c == '.') := by
    intro c
    cases numeral <;> rfl
  simp only [Ends, goesOn, Bool.or_eq_false_iff, beq_eq_false_iff_ne]
  exact ⟨fun h => ⟨fun c hc => (h c hc).1, fun c hc => (h c hc).2⟩,
    fun h c hc => ⟨h.1 c hc, h.2 c hc⟩⟩

/-- Every text is digits, or digits, a point and digits, that do not go on, unless it has a second
point. -/
theorem number_shape (cs : List Char) :
    (∃ ds rest, cs = ds ++ rest ∧ (∀ c ∈ ds, c.isDigit = true) ∧
      (∀ c ∈ rest.head?, c.isDigit = false) ∧ ∀ c ∈ rest.head?, c ≠ '.') ∨
    (∃ ds fraction rest, cs = ds ++ '.' :: (fraction ++ rest) ∧ (∀ c ∈ ds, c.isDigit = true) ∧
      (∀ c ∈ fraction, c.isDigit = true) ∧ (∀ c ∈ rest.head?, c.isDigit = false) ∧
      ∀ c ∈ rest.head?, c ≠ '.') ∨
    ∃ ds fraction rest, cs = ds ++ '.' :: (fraction ++ '.' :: rest) ∧
      (∀ c ∈ ds, c.isDigit = true) ∧ ∀ c ∈ fraction, c.isDigit = true := by
  have digits : ∀ {cs : List Char}, ∀ c ∈ cs.takeWhile Char.isDigit, c.isDigit = true :=
    fun _ => eq_true_of_mem_takeWhile
  have cut : ∀ {cs : List Char}, cs = cs.takeWhile Char.isDigit ++ cs.dropWhile Char.isDigit :=
    List.takeWhile_append_dropWhile.symm
  have split : ∀ left : List Char, (∃ r, left = '.' :: r) ∨ ∀ c ∈ left.head?, c ≠ '.' := by
    intro left
    cases left with
    | nil => exact Or.inr (by simp)
    | cons c left =>
      by_cases h : c = '.'
      · exact Or.inl ⟨left, by rw [h]⟩
      · exact Or.inr (by simpa using h)
  rcases split (cs.dropWhile Char.isDigit) with ⟨r, hr⟩ | noPoint
  · rcases split (r.dropWhile Char.isDigit) with ⟨r', hr'⟩ | noPoint
    · refine Or.inr (Or.inr ⟨cs.takeWhile Char.isDigit, r.takeWhile Char.isDigit, r', ?_, digits,
        digits⟩)
      rw [← hr', ← cut, ← hr, ← cut]
    · refine Or.inr (Or.inl ⟨cs.takeWhile Char.isDigit, r.takeWhile Char.isDigit,
        r.dropWhile Char.isDigit, ?_, digits, digits, eq_false_of_head_dropWhile, noPoint⟩)
      rw [← cut, ← hr, ← cut]
  · exact Or.inl ⟨_, _, cut, digits, eq_false_of_head_dropWhile, noPoint⟩

/-- A number is read exactly when a numeral stands in front that does not go on. -/
theorem pair_number?_eq_ok_iff {negative : Bool} {d : Char} (hd : d.isDigit = true)
    {cs rest : List Char} {t : Token} :
    (number? negative d cs).map Lexeme.pair = .ok (t, rest) ↔
      ∃ w, d :: cs = w ++ rest ∧ Numeral negative w t ∧ Ends t rest := by
  have digits_cons : ∀ {ds : List Char}, (∀ c ∈ ds, c.isDigit = true) → IsDigits (d :: ds) := by
    intro ds digits
    refine ⟨List.cons_ne_nil _ _, fun c hc => ?_⟩
    rcases List.mem_cons.mp hc with rfl | hc
    · exact hd
    · exact digits c hc
  constructor
  · intro h
    rcases number_shape cs with ⟨ds, left, rfl, digits, stop, noPoint⟩ |
      ⟨ds, fraction, left, rfl, digits, further, stop, noPoint⟩ |
      ⟨ds, fraction, left, rfl, digits, further⟩
    · rw [pair_number?_whole negative d digits stop noPoint] at h
      cases hi : int64? (signed negative (d :: ds)) with
      | none =>
        rw [hi] at h
        cases h
      | some i =>
        rw [hi] at h
        obtain ⟨rfl, rfl⟩ := Prod.mk.inj (Except.ok.inj h)
        have numeral : Numeral negative (d :: ds) (number i) :=
          .whole (digits_cons digits) ((int64?_eq_some_iff _ i).mp hi)
        exact ⟨_, rfl, numeral, numeral.ends_iff.mpr ⟨stop, noPoint⟩⟩
    · rw [pair_number?_point negative d digits further stop noPoint] at h
      obtain ⟨rfl, rfl⟩ := Prod.mk.inj (Except.ok.inj h)
      have numeral : Numeral negative (d :: ds ++ '.' :: fraction) _ :=
        .point (digits_cons digits) further
      exact ⟨_, by simp, numeral, numeral.ends_iff.mpr ⟨stop, noPoint⟩⟩
    · rw [pair_number?_points negative d digits further] at h
      cases h
  · rintro ⟨w, hw, numeral, ends⟩
    obtain ⟨stop, noPoint⟩ := numeral.ends_iff.mp ends
    cases numeral with
    | whole digits value =>
      cases w with
      | nil => exact absurd rfl digits.1
      | cons c ds =>
        rw [List.cons_append] at hw
        obtain ⟨rfl, rfl⟩ := List.cons.inj hw
        have fits := (int64?_eq_some_iff (signed negative (d :: ds)) _).mpr value
        have digits := fun c hc => digits.2 c (List.mem_cons_of_mem _ hc)
        rw [pair_number?_whole negative d digits stop noPoint, fits]
    | @point ds fraction digits further =>
      cases ds with
      | nil => exact absurd rfl digits.1
      | cons c ds =>
        rw [List.append_assoc, List.cons_append, List.cons_append] at hw
        obtain ⟨rfl, rfl⟩ := List.cons.inj hw
        have digits := fun c hc => digits.2 c (List.mem_cons_of_mem _ hc)
        exact pair_number?_point negative d digits further stop noPoint

/-- A string is read exactly when the text has a further quote: what stands before the first. -/
theorem pair_string?_eq_ok_iff {cs rest : List Char} {t : Token} :
    (string? cs).map Lexeme.pair = .ok (t, rest) ↔
      ∃ inside, cs = inside ++ '\x27' :: rest ∧ '\x27' ∉ inside ∧
        t = string (String.ofList inside) := by
  constructor
  · intro h
    rw [string?] at h
    split at h
    · cases h
    · next q left hleft =>
      obtain ⟨rfl, rfl⟩ := Prod.mk.inj (Except.ok.inj h)
      obtain rfl : q = '\x27' := by
        have stop : ∀ c ∈ (cs.dropWhile (· != '\x27')).head?, (c != '\x27') = false :=
          eq_false_of_head_dropWhile
        rw [hleft] at stop
        simpa using stop
      refine ⟨cs.takeWhile (· != '\x27'), ?_, ?_, rfl⟩
      · rw [← hleft, List.takeWhile_append_dropWhile]
      · intro hq
        simpa using eq_true_of_mem_takeWhile hq
  · rintro ⟨inside, rfl, outside, rfl⟩
    have all : ∀ c ∈ inside, (c != '\x27') = true := by
      intro c hc
      have : c ≠ '\x27' := fun h => outside (h ▸ hc)
      simpa using this
    have stop : ∀ c ∈ ('\x27' :: rest).head?, (c != '\x27') = false := by simp
    have left := dropWhile_append_of_stop all stop
    rw [string?]
    split
    · next h => exact absurd (left.symm.trans h) (List.cons_ne_nil _ _)
    · next q r h =>
      obtain rfl : rest = r := List.tail_eq_of_cons_eq (left.symm.trans h)
      simp only [takeWhile_append_of_stop all stop, Except.map, Lexeme.pair]

/-! ## The first character of a lexeme -/

theorem ofSymbol?_eq_some_iff {c : Char} {t : Token} :
    ofSymbol? c = some t ↔ (c, t) ∈ symbols := by
  constructor
  · intro h
    unfold ofSymbol? at h
    split at h <;> cases h <;> decide
  · have read : ∀ p ∈ symbols, ofSymbol? p.1 = some p.2 := by decide
    exact fun h => read _ h

theorem ofSymbol?_eq_none {c : Char} (free : ∀ p ∈ symbols, p.1 ≠ c) : ofSymbol? c = none := by
  cases h : ofSymbol? c with
  | none => rfl
  | some t => exact absurd rfl (free _ (ofSymbol?_eq_some_iff.mp h))

theorem ofSymbol?_of_isWordStart {c : Char} (h : Text.isWordStart c = true) :
    ofSymbol? c = none := by
  have noStart : ∀ p ∈ symbols, Text.isWordStart p.1 = false := by decide
  refine ofSymbol?_eq_none fun p hp same => ?_
  have := noStart p hp
  rw [same, h] at this
  cases this

/-- A digit is no symbol and opens no word. -/
theorem classes_of_isDigit {c : Char} (h : c.isDigit = true) :
    ofSymbol? c = none ∧ Text.isWordStart c = false := by
  have ascii : ∀ n < 128, (Char.ofNat n).isDigit = true →
      ofSymbol? (Char.ofNat n) = none ∧ Text.isWordStart (Char.ofNat n) = false := by decide
  have small : c.toNat < 128 := by
    simp only [Char.isDigit, Bool.and_eq_true, decide_eq_true_eq] at h
    exact Nat.lt_of_le_of_lt (UInt32.le_iff_toNat_le.mp h.2) (by decide)
  have := ascii c.toNat small
  rw [Char.ofNat_toNat] at this
  exact this h

section

variable {c : Char} {cs : List Char}

theorem pair_lexeme?_of_symbol {t : Token} (h : ofSymbol? c = some t) :
    (lexeme? c cs).map Lexeme.pair = .ok (t, cs) := by
  simp only [lexeme?, h, Except.map, Lexeme.pair]

theorem pair_lexeme?_of_isWordStart (h : Text.isWordStart c = true) :
    (lexeme? c cs).map Lexeme.pair =
      .ok (ofWord (c :: cs.takeWhile Text.isWordChar), cs.dropWhile Text.isWordChar) := by
  simp only [lexeme?, ofSymbol?_of_isWordStart h, h, if_true, Except.map, Lexeme.pair]

theorem pair_lexeme?_of_isDigit (h : c.isDigit = true) :
    (lexeme? c cs).map Lexeme.pair = (number? false c cs).map Lexeme.pair := by
  obtain ⟨symbol, start⟩ := classes_of_isDigit h
  simp only [lexeme?, symbol, start, h, if_true, Bool.false_eq_true, if_false]

theorem pair_lexeme?_quote :
    (lexeme? '\x27' cs).map Lexeme.pair = (string? cs).map Lexeme.pair :=
  rfl

theorem pair_lexeme?_minus (h : c.isDigit = true) :
    (lexeme? '-' (c :: cs)).map Lexeme.pair = (number? true c cs).map Lexeme.pair := by
  have start : Text.isWordStart '-' = false := by decide
  have symbol : ofSymbol? '-' = none := by decide
  rw [lexeme?, symbol]
  simp only [start, h]
  cases number? true c cs <;> rfl

/-- The characters that open a lexeme; a minus does so in front of a digit only. -/
theorem opens_of_lexeme? {l : Lexeme cs.length} (h : lexeme? c cs = .ok l) :
    (∃ t, ofSymbol? c = some t) ∨ Text.isWordStart c = true ∨ c.isDigit = true ∨ c = '\x27' ∨
      c = '-' ∧ ∃ d ds, cs = d :: ds ∧ d.isDigit = true := by
  unfold lexeme? at h
  split at h
  · next t symbol => exact Or.inl ⟨t, symbol⟩
  · split_ifs at h with start digit quote minus
    · exact Or.inr (Or.inl start)
    · exact Or.inr (Or.inr (Or.inl digit))
    · exact Or.inr (Or.inr (Or.inr (Or.inl quote)))
    · refine Or.inr (Or.inr (Or.inr (Or.inr ⟨minus, ?_⟩)))
      cases cs with
      | nil => cases h
      | cons d ds =>
        cases digit : d.isDigit with
        | true => exact ⟨d, ds, rfl, digit⟩
        | false =>
          simp only [digit] at h
          cases h

theorem goesOn_of_mem_symbols {t : Token} (listed : (c, t) ∈ symbols) (d : Char) :
    t.goesOn d = false := by
  rw [← ofSymbol?_eq_some_iff] at listed
  unfold ofSymbol? at listed
  split at listed <;> cases listed <;> rfl

theorem pair_lexeme?_of_isWord {w rest : List Char} (word : IsWord w)
    (ends : Ends (ofWord w) rest) (h : c :: cs = w ++ rest) :
    (lexeme? c cs).map Lexeme.pair = .ok (ofWord w, rest) := by
  cases w with
  | nil => exact word.elim
  | cons d ds =>
    rw [List.cons_append] at h
    obtain ⟨rfl, rfl⟩ := List.cons.inj h
    have stop : ∀ c ∈ rest.head?, Text.isWordChar c = false := by
      rw [Ends, goesOn_ofWord] at ends
      exact ends
    rw [pair_lexeme?_of_isWordStart word.1, takeWhile_append_of_stop word.2 stop,
      dropWhile_append_of_stop word.2 stop]

end

theorem Numeral.exists_digit {negative : Bool} {w : List Char} {t : Token}
    (numeral : Numeral negative w t) : ∃ d ds, w = d :: ds ∧ d.isDigit = true := by
  have first : ∀ {ds : List Char}, IsDigits ds → ∃ d es, ds = d :: es ∧ d.isDigit = true := by
    intro ds digits
    cases ds with
    | nil => exact absurd rfl digits.1
    | cons d ds => exact ⟨d, ds, rfl, digits.2 d List.mem_cons_self⟩
  cases numeral with
  | whole digits _ => exact first digits
  | point digits _ =>
    obtain ⟨d, es, rfl, hd⟩ := first digits
    exact ⟨d, _, rfl, hd⟩

/-- A lexeme is read exactly when it stands in front and does not go on. -/
theorem pair_lexeme?_eq_ok_iff {c : Char} {cs rest : List Char} {t : Token} :
    (lexeme? c cs).map Lexeme.pair = .ok (t, rest) ↔
      ∃ w, c :: cs = w ++ rest ∧ Spells w t ∧ Ends t rest := by
  constructor
  · intro h
    obtain ⟨l, hl, -⟩ := Lexeme.map_pair_eq_ok_iff.mp h
    rcases opens_of_lexeme? hl with ⟨s, symbol⟩ | start | digit | rfl | ⟨rfl, d, ds, rfl, digit⟩
    · rw [pair_lexeme?_of_symbol symbol] at h
      obtain ⟨rfl, rfl⟩ := Prod.mk.inj (Except.ok.inj h)
      have listed := ofSymbol?_eq_some_iff.mp symbol
      exact ⟨[c], rfl, .symbol listed, fun d _ => goesOn_of_mem_symbols listed d⟩
    · rw [pair_lexeme?_of_isWordStart start] at h
      obtain ⟨rfl, rfl⟩ := Prod.mk.inj (Except.ok.inj h)
      refine ⟨c :: cs.takeWhile Text.isWordChar, ?_,
        spells_ofWord ⟨start, fun d => eq_true_of_mem_takeWhile⟩, ?_⟩
      · rw [List.cons_append, List.takeWhile_append_dropWhile]
      · rw [Ends, goesOn_ofWord]
        exact eq_false_of_head_dropWhile
    · rw [pair_lexeme?_of_isDigit digit, pair_number?_eq_ok_iff digit] at h
      obtain ⟨w, hw, numeral, ends⟩ := h
      exact ⟨w, hw, .number numeral, ends⟩
    · rw [pair_lexeme?_quote, pair_string?_eq_ok_iff] at h
      obtain ⟨inside, rfl, outside, rfl⟩ := h
      exact ⟨_, by simp, .string outside, fun _ _ => rfl⟩
    · rw [pair_lexeme?_minus digit, pair_number?_eq_ok_iff digit] at h
      obtain ⟨w, hw, numeral, ends⟩ := h
      exact ⟨'-' :: w, by rw [hw, List.cons_append], .negative numeral, ends⟩
  · rintro ⟨w, hw, spelled, ends⟩
    cases spelled with
    | symbol listed =>
      obtain ⟨rfl, rfl⟩ := List.cons.inj hw
      exact pair_lexeme?_of_symbol (ofSymbol?_eq_some_iff.mpr listed)
    | reserved word listed spelled =>
      obtain rfl : ofWord w = t := ofWord_of_reserved listed spelled
      exact pair_lexeme?_of_isWord word ends hw
    | ident word free =>
      rw [← ofWord_of_free free] at ends ⊢
      exact pair_lexeme?_of_isWord word ends hw
    | number numeral =>
      obtain ⟨d, ds, rfl, hd⟩ := numeral.exists_digit
      obtain rfl := (List.cons.inj hw).1
      rw [pair_lexeme?_of_isDigit hd, pair_number?_eq_ok_iff hd]
      exact ⟨_, hw, numeral, ends⟩
    | negative numeral =>
      obtain ⟨d, ds, rfl, hd⟩ := numeral.exists_digit
      rw [List.cons_append, List.cons_append] at hw
      obtain ⟨rfl, rfl⟩ := List.cons.inj hw
      rw [pair_lexeme?_minus hd, pair_number?_eq_ok_iff hd]
      exact ⟨_, rfl, numeral, ends⟩
    | string outside =>
      obtain ⟨rfl, rfl⟩ := List.cons.inj hw
      rw [pair_lexeme?_quote, pair_string?_eq_ok_iff]
      exact ⟨_, by simp, outside, rfl⟩

end Token

end SqlStore
