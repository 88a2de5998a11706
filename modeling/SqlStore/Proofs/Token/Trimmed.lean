import Mathlib.Data.List.TakeWhile
import SqlStore.Proofs.Text
import SqlStore.Proofs.Token.Layout

/-!
# Blanks at the ends of a text

Blanks in front of a text and behind it change neither its tokens nor the error it fails with. In
front they are skipped. Behind they could matter only to a lexeme that goes to the end of the text,
and none goes on with a blank: words and numbers end where they ended, a string without its second
quote still has none, and a minus still has no digit behind it.
-/

namespace SqlStore.Token

section

variable {c d : Char} {cs w : List Char}

/-! ## Lexemes that are refused -/

theorem pair_lexeme?_minus_alone (alone : ∀ d ∈ cs.head?, d.isDigit = false) :
    (lexeme? '-' cs).map Lexeme.pair = .error (.invalidCharacter '-') := by
  have start : Text.isWordStart '-' = false := by decide
  have symbol : ofSymbol? '-' = none := by decide
  cases cs with
  | nil => simp [lexeme?, symbol, start, Except.map]
  | cons d ds => simp [lexeme?, symbol, start, alone d rfl, Except.map]

theorem pair_lexeme?_other (symbol : ofSymbol? c = none) (start : Text.isWordStart c = false)
    (digit : c.isDigit = false) (quote : c ≠ '\x27') (minus : c ≠ '-') :
    (lexeme? c cs).map Lexeme.pair = .error (.invalidCharacter c) := by
  simp [lexeme?, symbol, start, digit, quote, minus, Except.map]

theorem pair_string?_open (noQuote : '\x27' ∉ cs) :
    (string? cs).map Lexeme.pair = .error .unterminatedString := by
  have all : ∀ c ∈ cs, (c != '\x27') = true := by
    intro c hc
    have : c ≠ '\x27' := fun h => noQuote (h ▸ hc)
    simpa using this
  have left : cs.dropWhile (· != '\x27') = [] := List.dropWhile_eq_nil_iff.mpr all
  rw [string?]
  split
  · rfl
  · next h =>
    rw [left] at h
    cases h

/-! ## Blanks behind a lexeme -/

/-- What is read, with more text left after it. -/
def leaving (w : List Char) (p : Token × List Char) : Token × List Char :=
  (p.1, p.2 ++ w)

variable (blank : ∀ c ∈ w, Text.isBlank c = true)

include blank

theorem classes_of_head {rest : List Char} {P : Char → Prop} (front : ∀ c ∈ rest.head?, P c)
    (of_blank : ∀ c, Text.isBlank c = true → P c) : ∀ c ∈ (rest ++ w).head?, P c := by
  cases rest with
  | nil => exact fun c hc => of_blank c (blank c (List.mem_of_mem_head? hc))
  | cons d rest => exact front

theorem pair_number?_append (negative : Bool) :
    (number? negative d (cs ++ w)).map Lexeme.pair =
      ((number? negative d cs).map Lexeme.pair).map (leaving w) := by
  have noDigit : ∀ c, Text.isBlank c = true → c.isDigit = false :=
    fun c hc => (classes_of_isBlank hc).2.1.1
  have point : ∀ c, Text.isBlank c = true → c ≠ '.' :=
    fun c hc => (classes_of_isBlank hc).2.1.2
  rcases number_shape cs with ⟨ds, rest, rfl, digits, stop, noPoint⟩ |
    ⟨ds, fraction, rest, rfl, digits, further, stop, noPoint⟩ |
    ⟨ds, fraction, rest, rfl, digits, further⟩
  · rw [List.append_assoc, pair_number?_whole negative d digits stop noPoint,
      pair_number?_whole negative d digits (classes_of_head blank stop noDigit)
        (classes_of_head blank noPoint point)]
    cases int64? (signed negative (d :: ds)) <;> rfl
  · rw [List.append_assoc, List.cons_append, List.append_assoc,
      pair_number?_point negative d digits further stop noPoint,
      pair_number?_point negative d digits further (classes_of_head blank stop noDigit)
        (classes_of_head blank noPoint point)]
    rfl
  · rw [List.append_assoc, List.cons_append, List.append_assoc, List.cons_append,
      pair_number?_points negative d digits further,
      pair_number?_points negative d digits further]
    rfl

theorem pair_string?_append :
    (string? (cs ++ w)).map Lexeme.pair =
      ((string? cs).map Lexeme.pair).map (leaving w) := by
  have outside : '\x27' ∉ w := fun h => (classes_of_isBlank (blank _ h)).2.2.2.2 rfl
  by_cases h : '\x27' ∈ cs
  · obtain ⟨inside, rest, rfl, free⟩ := List.eq_append_cons_of_mem h
    rw [pair_string?_eq_ok_iff.mpr ⟨inside, rfl, free, rfl⟩,
      pair_string?_eq_ok_iff.mpr ⟨inside, by rw [List.append_assoc, List.cons_append], free, rfl⟩]
    rfl
  · rw [pair_string?_open h, pair_string?_open fun hw => (List.mem_append.mp hw).elim h outside]
    rfl

theorem pair_lexeme?_minus_append :
    (lexeme? '-' (cs ++ w)).map Lexeme.pair =
      ((lexeme? '-' cs).map Lexeme.pair).map (leaving w) := by
  have refused : (∀ d ∈ cs.head?, d.isDigit = false) →
      (lexeme? '-' (cs ++ w)).map Lexeme.pair =
        ((lexeme? '-' cs).map Lexeme.pair).map (leaving w) := by
    intro alone
    have stillAlone := classes_of_head blank alone fun c hc => (classes_of_isBlank hc).2.1.1
    rw [pair_lexeme?_minus_alone alone, pair_lexeme?_minus_alone stillAlone]
    rfl
  cases cs with
  | nil => exact refused (by simp)
  | cons d ds =>
    cases digit : d.isDigit with
    | true =>
      rw [List.cons_append, pair_lexeme?_minus digit, pair_lexeme?_minus digit]
      exact pair_number?_append blank true
    | false => exact refused (by simpa using digit)

/-- Blanks behind a text are left behind its first lexeme, or do not concern its error. -/
theorem pair_lexeme?_append :
    (lexeme? c (cs ++ w)).map Lexeme.pair =
      ((lexeme? c cs).map Lexeme.pair).map (leaving w) := by
  cases symbol : ofSymbol? c with
  | some t =>
    rw [pair_lexeme?_of_symbol symbol, pair_lexeme?_of_symbol symbol]
    rfl
  | none =>
    cases start : Text.isWordStart c with
    | true =>
      have none : ∀ c ∈ w, Text.isWordChar c = false :=
        fun c hc => (classes_of_isBlank (blank c hc)).1
      rw [pair_lexeme?_of_isWordStart start, pair_lexeme?_of_isWordStart start,
        takeWhile_append_of_none none, dropWhile_append_of_none none]
      rfl
    | false =>
      cases digit : c.isDigit with
      | true =>
        rw [pair_lexeme?_of_isDigit digit, pair_lexeme?_of_isDigit digit]
        exact pair_number?_append blank false
      | false =>
        by_cases quote : c = '\x27'
        · rw [quote, pair_lexeme?_quote, pair_lexeme?_quote]
          exact pair_string?_append blank
        by_cases minus : c = '-'
        · rw [minus]
          exact pair_lexeme?_minus_append blank
        · rw [pair_lexeme?_other symbol start digit quote minus,
            pair_lexeme?_other symbol start digit quote minus]
          rfl

/-! ## Blanks around a text -/

theorem scan_append : scan (cs ++ w) = scan cs := by
  -- along the scan, which leaves the blanks behind every lexeme until nothing else is left
  induction cs using scan.induct with
  | case1 cs trimmed =>
    have trimmed' : Text.trimStart (cs ++ w) = [] := by
      rw [Text.trimStart_append blank, if_pos trimmed]
    rw [scan_of_blank trimmed, scan_of_blank trimmed']
  | case2 cs c r trimmed _ ih =>
    have trimmed' : Text.trimStart (cs ++ w) = c :: (r ++ w) := by
      rw [Text.trimStart_append blank, trimmed, if_neg (List.cons_ne_nil _ _), List.cons_append]
    rw [scan_of_trimStart trimmed, scan_of_trimStart trimmed', pair_lexeme?_append blank]
    cases h : lexeme? c r with
    | error e => rfl
    | ok l => exact congrArg (Except.map (l.token :: ·)) (ih l)

theorem scan_blank_append : scan (w ++ cs) = scan cs := by
  have trimmed := Text.trimStart_blank_append blank cs
  cases h : Text.trimStart cs with
  | nil => rw [scan_of_blank h, scan_of_blank (trimmed.trans h)]
  | cons c r => rw [scan_of_trimStart h, scan_of_trimStart (trimmed.trans h)]

end

/-- A text has the tokens of its trimmed form, or fails with the same error. -/
theorem ofText_trim (s : String) : ofText (Text.trim s) = ofText s := by
  obtain ⟨lead, trail, leadBlank, trailBlank, text⟩ := Text.exists_trim s
  rw [ofText, ofText, text, scan_blank_append leadBlank, scan_append trailBlank]

end SqlStore.Token
