import SqlStore.Proofs.Token.Layout

/-!
# Texts of one lexeme

A lexeme that stands alone is read as its one token. If a text is read as one token and begins
with the lexeme, then only blanks are behind it. What a lexeme begins with says what else is in it:
behind a digit or a minus stand digits and a point, behind a quote the text up to the other quote.
-/

namespace SqlStore.Token

theorem ofText_of_spells {s : String} {t : Token} (spelled : Spells s.toList t) :
    ofText s = .ok [t, eof] := by
  have ends : Ends t [] := by simp [Ends]
  have cut := Cut.next (List.forall_mem_nil _) spelled ends (.done (List.forall_mem_nil _))
  rw [List.append_nil, List.nil_append] at cut
  exact scan_eq_ok_iff.mpr cut

theorem exists_spells_of_ofText {s : String} {t : Token} {c : Char} {cs : List Char}
    (read : ofText s = .ok [t, eof]) (text : s.toList = c :: cs) (first : Text.isBlank c = false) :
    ∃ w trail, c :: cs = w ++ trail ∧ (∀ c ∈ trail, Text.isBlank c = true) ∧ Spells w t := by
  have cut : Cut (c :: cs) [t, eof] := text ▸ scan_eq_ok_iff.mp read
  generalize front : c :: cs = all at cut
  cases cut with
  | @next gap w rest _ _ blank spelled _ behind =>
    have noGap : gap = [] := by
      cases gap with
      | nil => rfl
      | cons g gap =>
        obtain rfl := (List.cons.inj front).1
        rw [blank c List.mem_cons_self] at first
        cases first
    cases behind with
    | done trail => exact ⟨w, rest, by rw [noGap, List.nil_append], trail, spelled⟩
    | next _ wrong => exact absurd rfl wrong.ne_eof

/-! ## By the first character -/

section First

variable {c : Char} {cs : List Char} {t : Token}

theorem Spells.pair_lexeme? (spelled : Spells (c :: cs) t) :
    (lexeme? c cs).map Lexeme.pair = .ok (t, []) :=
  pair_lexeme?_eq_ok_iff.mpr ⟨c :: cs, (List.append_nil _).symm, spelled, by simp [Ends]⟩

theorem Spells.numeral_of_isDigit (spelled : Spells (c :: cs) t) (digit : c.isDigit = true) :
    Numeral false (c :: cs) t := by
  have read := spelled.pair_lexeme?
  rw [pair_lexeme?_of_isDigit digit, pair_number?_eq_ok_iff digit] at read
  obtain ⟨w, text, numeral, -⟩ := read
  rwa [text, List.append_nil]

theorem Spells.numeral_of_minus (spelled : Spells ('-' :: cs) t) : Numeral true cs t := by
  have read := spelled.pair_lexeme?
  obtain ⟨l, hl, -⟩ := Lexeme.map_pair_eq_ok_iff.mp read
  rcases opens_of_lexeme? hl with ⟨s, symbol⟩ | start | digit | quote | ⟨-, d, ds, rfl, digit⟩
  · cases symbol
  · exact absurd start (by decide)
  · cases digit
  · cases quote
  · rw [pair_lexeme?_minus digit, pair_number?_eq_ok_iff digit] at read
    obtain ⟨w, text, numeral, -⟩ := read
    rwa [text, List.append_nil]

theorem Spells.exists_inside (spelled : Spells ('\x27' :: cs) t) :
    ∃ inside, cs = inside ++ ['\x27'] ∧ '\x27' ∉ inside ∧
      t = Token.string (String.ofList inside) := by
  have read := spelled.pair_lexeme?
  rwa [pair_lexeme?_quote, pair_string?_eq_ok_iff] at read

theorem literal?_of_mem_symbols (listed : (c, t) ∈ symbols) : t.literal? = none := by
  have none : ∀ p ∈ symbols, p.2.literal? = none := by decide
  exact none _ listed

/-- A string is spelled without quotes inside. -/
theorem Spells.quote_notMem {w : List Char} {s : String} (spelled : Spells w (Token.string s)) :
    '\x27' ∉ s.toList := by
  cases spelled with
  | symbol listed => cases literal?_of_mem_symbols listed
  | reserved _ listed => simp [Token.reserved] at listed
  | number numeral => cases numeral
  | negative numeral => cases numeral
  | string inside => rwa [String.toList_ofList]

/-- A float is what digits with a point denote. -/
theorem Spells.exists_ofDigits {w : List Char} {x : Binary64} (spelled : Spells w (float x)) :
    ∃ negative whole fraction, x = .ofDigits negative whole fraction := by
  cases spelled with
  | symbol listed => cases literal?_of_mem_symbols listed
  | reserved _ listed => simp [Token.reserved] at listed
  | number numeral =>
    cases numeral
    exact ⟨_, _, _, rfl⟩
  | negative numeral =>
    cases numeral
    exact ⟨_, _, _, rfl⟩

end First

theorem Numeral.spells {negative : Bool} {w : List Char} {t : Token}
    (numeral : Numeral negative w t) : Spells (sign negative ++ w) t := by
  cases negative with
  | false => exact .number numeral
  | true => exact .negative numeral

theorem Numeral.isDigit_or_point {negative : Bool} {w : List Char} {t : Token}
    (numeral : Numeral negative w t) : ∀ c ∈ w, c.isDigit = true ∨ c = '.' := by
  intro c hc
  cases numeral with
  | whole digits _ => exact Or.inl (digits.2 c hc)
  | point digits further =>
    rcases List.mem_append.mp hc with hc | hc
    · exact Or.inl (digits.2 c hc)
    · rcases List.mem_cons.mp hc with rfl | hc
      · exact Or.inr rfl
      · exact Or.inl (further c hc)

/-- A text that begins as a number and is read as one token has only digits, points and blanks
behind that. -/
theorem forall_of_ofText_of_isDigit {s : String} {t : Token} {negative : Bool} {d : Char}
    {cs : List Char} (read : ofText s = .ok [t, eof])
    (text : s.toList = sign negative ++ d :: cs) (digit : d.isDigit = true) :
    ∀ c ∈ cs, (c.isDigit = true ∨ c = '.') ∨ Text.isBlank c = true := by
  have digitBlank : Text.isBlank d = false := by
    cases blank : Text.isBlank d with
    | false => rfl
    | true =>
      rw [(classes_of_isBlank blank).2.1.1] at digit
      cases digit
  obtain ⟨w, trail, all, blank, numeral⟩ : ∃ w trail, d :: cs = w ++ trail ∧
      (∀ c ∈ trail, Text.isBlank c = true) ∧ Numeral negative w t := by
    cases negative with
    | false =>
      obtain ⟨w, trail, all, blank, spelled⟩ := exists_spells_of_ofText read text digitBlank
      obtain ⟨c, w, rfl, -⟩ := spelled.exists_first
      obtain rfl := (List.cons.inj all).1
      exact ⟨_, trail, all, blank, spelled.numeral_of_isDigit digit⟩
    | true =>
      obtain ⟨w, trail, all, blank, spelled⟩ := exists_spells_of_ofText read text (by decide)
      obtain ⟨c, w, rfl, -⟩ := spelled.exists_first
      obtain ⟨rfl, rest⟩ := List.cons.inj all
      exact ⟨w, trail, rest, blank, spelled.numeral_of_minus⟩
  intro c hc
  have inside : c ∈ w ++ trail := all ▸ List.mem_cons_of_mem _ hc
  exact (List.mem_append.mp inside).imp (numeral.isDigit_or_point c) (blank c)

end SqlStore.Token
