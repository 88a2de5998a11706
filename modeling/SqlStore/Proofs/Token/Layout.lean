import SqlStore.Proofs.Token.Spelling

/-!
# The texts that can be cut into tokens

A text is cut into lexemes with blanks between them, before them and behind them. `scan_eq_ok_iff`
says which tokens a text has in full, gaps without blanks included: there a lexeme must not go on
with the character that follows it. `ofText_layout` is the part that needs no such care. Lexemes
that stand apart are read one by one whatever they are, and whatever is read was lexemes and blanks
and nothing else.
-/

namespace SqlStore

namespace CharSet

/-- The code points in the ranges that the bounds open and close. -/
def members : List Nat → List Nat
  | a :: b :: bs => List.range' a (b - a) ++ members bs
  | _ => []

theorem mem_members_of_covers {n : Nat} {bs : List Nat} (closed : bs.length % 2 = 0)
    (h : covers n bs = true) : n ∈ members bs := by
  induction bs using members.induct with
  | case1 a b bs ih =>
    rw [members, List.mem_append, List.mem_range'_1]
    by_cases ha : n < a
    · rw [covers_cons_of_lt _ ha] at h
      cases h
    · rw [covers_cons_of_le _ (Nat.le_of_not_lt ha)] at h
      by_cases hb : n < b
      · exact Or.inl (by omega)
      · rw [covers_cons_of_le _ (Nat.le_of_not_lt hb), Bool.not_not] at h
        simp only [List.length_cons] at closed
        exact Or.inr (ih (by omega) h)
  | case2 bs short =>
    match bs, short with
    | [], _ => cases h
    | [a], _ => cases closed
    | a :: b :: bs, short => exact (short a b bs rfl).elim

end CharSet

namespace Token

/-! ## Blanks end a lexeme and open none -/

/-- No blank is part of a word or a number, and none opens a lexeme. -/
theorem classes_of_isBlank {c : Char} (h : Text.isBlank c = true) :
    Text.isWordChar c = false ∧ (c.isDigit = false ∧ c ≠ '.') ∧ ofSymbol? c = none ∧
      c ≠ '-' ∧ c ≠ '\x27' := by
  have listed : ∀ n ∈ CharSet.members Text.blank.bounds,
      Text.isWordChar (Char.ofNat n) = false ∧
        ((Char.ofNat n).isDigit = false ∧ Char.ofNat n ≠ '.') ∧ ofSymbol? (Char.ofNat n) = none ∧
        Char.ofNat n ≠ '-' ∧ Char.ofNat n ≠ '\x27' := by
    decide +kernel
  have := listed c.toNat (CharSet.mem_members_of_covers rfl h)
  rwa [Char.ofNat_toNat] at this

theorem ends_of_blank {rest : List Char} (t : Token)
    (blank : ∀ c ∈ rest.head?, Text.isBlank c = true) : Ends t rest := by
  intro c hc
  obtain ⟨word, ⟨digit, point⟩, -⟩ := classes_of_isBlank (blank c hc)
  rw [← beq_eq_false_iff_ne] at point
  cases t <;> simp only [goesOn, word, digit, point, Bool.or_false]

/-- A lexeme has a first character, and it is no blank. -/
theorem Spells.exists_first {w : List Char} {t : Token} (spelled : Spells w t) :
    ∃ c cs, w = c :: cs ∧ Text.isBlank c = false := by
  obtain ⟨c, cs, rfl⟩ : ∃ c cs, w = c :: cs := by
    refine List.exists_cons_of_ne_nil ?_
    cases spelled with
    | symbol => exact List.cons_ne_nil _ _
    | reserved word => exact fun h => (h ▸ word : IsWord []).elim
    | ident word => exact fun h => (h ▸ word : IsWord []).elim
    | number numeral =>
      obtain ⟨d, ds, rfl, -⟩ := numeral.exists_digit
      exact List.cons_ne_nil _ _
    | negative => exact List.cons_ne_nil _ _
    | string => exact List.cons_ne_nil _ _
  refine ⟨c, cs, rfl, ?_⟩
  cases blank : Text.isBlank c with
  | false => rfl
  | true =>
    -- by itself the lexeme would be read, and no reader opens with a blank
    obtain ⟨word, ⟨digit, -⟩, symbol, minus, quote⟩ := classes_of_isBlank blank
    have ends : Ends t [] := by simp [Ends]
    have read := pair_lexeme?_eq_ok_iff.mpr ⟨c :: cs, (List.append_nil _).symm, spelled, ends⟩
    obtain ⟨l, hl, -⟩ := Lexeme.map_pair_eq_ok_iff.mp read
    rcases opens_of_lexeme? hl with ⟨s, hs⟩ | start | hd | hq | ⟨hm, -⟩
    · rw [symbol] at hs
      cases hs
    · rw [Text.isWordChar_of_isWordStart start] at word
      cases word
    · rw [digit] at hd
      cases hd
    · exact absurd hq quote
    · exact absurd hm minus

theorem Spells.ne_eof {w : List Char} {t : Token} (spelled : Spells w t) : t ≠ eof := by
  cases spelled with
  | symbol listed =>
    have none : ∀ p ∈ symbols, p.2 ≠ eof := by decide
    exact none _ listed
  | reserved _ listed =>
    have none : ∀ p ∈ Token.reserved, p.2 ≠ eof := by decide
    exact none _ listed
  | ident => exact Token.noConfusion
  | number numeral | negative numeral => cases numeral <;> exact Token.noConfusion
  | string => exact Token.noConfusion

/-! ## Cutting a text -/

/-- The text is the tokens' lexemes one behind another with blanks around them, each as long as it
goes. -/
inductive Cut : List Char → List Token → Prop
  | done {gap : List Char} (blank : ∀ c ∈ gap, Text.isBlank c = true) : Cut gap [eof]
  | next {gap w rest : List Char} {t : Token} {ts : List Token}
      (blank : ∀ c ∈ gap, Text.isBlank c = true) (spelled : Spells w t) (ends : Ends t rest)
      (cut : Cut rest ts) : Cut (gap ++ (w ++ rest)) (t :: ts)

section

variable {cs : List Char} {ts : List Token}

theorem scan_of_blank (h : Text.trimStart cs = []) : scan cs = .ok [eof] := by
  rw [scan]
  split
  · rfl
  · next h' =>
    rw [h] at h'
    cases h'

/-- One step of cutting a text. -/
theorem scan_of_trimStart {c : Char} {r : List Char} (h : Text.trimStart cs = c :: r) :
    scan cs = (lexeme? c r).map Lexeme.pair >>= fun p => (scan p.2).map (p.1 :: ·) := by
  rw [scan]
  split
  · next h' =>
    rw [h] at h'
    cases h'
  · next c' r' h' =>
    obtain ⟨rfl, rfl⟩ := List.cons.inj (h.symm.trans h')
    cases lexeme? c r with
    | error e => rfl
    | ok l =>
      simp only [Except.map, Lexeme.pair, bind, Except.bind]
      cases scan l.rest <;> rfl

theorem scan_eq_ok_iff_of_trimStart {c : Char} {r : List Char}
    (h : Text.trimStart cs = c :: r) :
    scan cs = .ok ts ↔
      ∃ t rest us, (lexeme? c r).map Lexeme.pair = .ok (t, rest) ∧ scan rest = .ok us ∧
        ts = t :: us := by
  rw [scan_of_trimStart h, bind_eq_ok_iff, Prod.exists]
  refine exists_congr fun t => exists_congr fun rest => ?_
  cases scan rest <;> simp [Except.map, eq_comm]

theorem trimStart_append_of_first {gap w rest : List Char} {c : Char}
    (blank : ∀ c ∈ gap, Text.isBlank c = true) (first : Text.isBlank c = false) :
    Text.trimStart (gap ++ (c :: w ++ rest)) = c :: (w ++ rest) :=
  dropWhile_append_of_stop blank (by simpa using first)

/-- The tokens of a text, in full. -/
theorem scan_eq_ok_iff : scan cs = .ok ts ↔ Cut cs ts := by
  constructor
  · intro h
    induction cs using scan.induct generalizing ts with
    | case1 cs trimmed =>
      rw [scan_of_blank trimmed] at h
      obtain rfl := Except.ok.inj h
      exact .done ((Text.trimStart_eq_nil_iff cs).mp trimmed)
    | case2 cs c r trimmed _ ih =>
      obtain ⟨t, rest, us, front, hus, rfl⟩ := (scan_eq_ok_iff_of_trimStart trimmed).mp h
      obtain ⟨l, hl, rfl, rfl⟩ := Lexeme.map_pair_eq_ok_iff.mp front
      obtain ⟨w, hw, spelled, ends⟩ := pair_lexeme?_eq_ok_iff.mp front
      have text : cs = cs.takeWhile Text.isBlank ++ (w ++ l.rest) := by
        rw [← hw, ← trimmed, Text.trimStart, List.takeWhile_append_dropWhile]
      rw [text]
      exact .next (fun c => eq_true_of_mem_takeWhile) spelled ends (ih l hus)
  · intro h
    induction h with
    | done blank => exact scan_of_blank ((Text.trimStart_eq_nil_iff _).mpr blank)
    | next blank spelled ends _ ih =>
      obtain ⟨c, w, rfl, first⟩ := spelled.exists_first
      rw [scan_eq_ok_iff_of_trimStart (trimStart_append_of_first blank first)]
      have front := pair_lexeme?_eq_ok_iff.mpr ⟨_, List.cons_append.symm, spelled, ends⟩
      exact ⟨_, _, _, front, ih, rfl⟩

end

/-! ## Lexemes that stand apart -/

structure Placed where
  gap : List Char
  text : List Char
  token : Token
  blank : ∀ c ∈ gap, Text.isBlank c = true
  spelled : Spells text token

def layout (items : List Placed) : List Char :=
  items.flatMap fun p => p.gap ++ p.text

theorem cut_layout {items : List Placed} {trail : List Char}
    (blank : ∀ c ∈ trail, Text.isBlank c = true) (apart : ∀ p ∈ items.tail, p.gap ≠ []) :
    Cut (layout items ++ trail) (items.map Placed.token ++ [eof]) := by
  induction items with
  | nil => exact .done blank
  | cons p items ih =>
    have later := ih fun q hq => apart q (List.mem_of_mem_tail hq)
    -- what follows begins with a blank, of the next gap or of the trail
    have ends : Ends p.token (layout items ++ trail) := by
      refine ends_of_blank _ ?_
      cases items with
      | nil => exact fun c hc => blank c (List.mem_of_mem_head? hc)
      | cons q items =>
        obtain ⟨c, gap, hgap⟩ := List.exists_cons_of_ne_nil (apart q List.mem_cons_self)
        have := q.blank c (hgap ▸ List.mem_cons_self)
        simpa [layout, hgap] using this
    have text : layout (p :: items) ++ trail = p.gap ++ (p.text ++ (layout items ++ trail)) := by
      simp [layout]
    rw [text]
    exact .next p.blank p.spelled ends later

theorem Cut.exists_layout {cs : List Char} {ts : List Token} (cut : Cut cs ts) :
    ∃ (items : List Placed) (trail : List Char), (∀ c ∈ trail, Text.isBlank c = true) ∧
      cs = layout items ++ trail ∧ ts = items.map Placed.token ++ [eof] := by
  induction cut with
  | @done gap blank => exact ⟨[], gap, blank, rfl, rfl⟩
  | @next gap w rest t ts blank spelled _ _ ih =>
    obtain ⟨items, trail, htrail, rfl, rfl⟩ := ih
    exact ⟨⟨gap, w, t, blank, spelled⟩ :: items, trail, htrail, by simp [layout], rfl⟩

/-- Lexemes that stand apart are read as their tokens, with one `eof` behind them. A text that is
read consists of lexemes and blanks, and they are the lexemes of what was read. -/
theorem ofText_layout :
    (∀ (items : List Placed) (trail : List Char), (∀ p ∈ items.tail, p.gap ≠ []) →
      (∀ c ∈ trail, Text.isBlank c = true) →
        ofText (String.ofList (layout items ++ trail)) =
          .ok (items.map Placed.token ++ [eof])) ∧
    ∀ (sql : String) (ts : List Token), ofText sql = .ok ts →
      ∃ (items : List Placed) (trail : List Char), (∀ c ∈ trail, Text.isBlank c = true) ∧
        sql.toList = layout items ++ trail ∧ ts = items.map Placed.token ++ [eof] ∧
          eof ∉ items.map Placed.token := by
  constructor
  · intro items trail apart blank
    rw [ofText, String.toList_ofList, scan_eq_ok_iff]
    exact cut_layout blank apart
  · intro sql ts read
    obtain ⟨items, trail, blank, text, rfl⟩ := (scan_eq_ok_iff.mp read).exists_layout
    refine ⟨items, trail, blank, text, rfl, ?_⟩
    intro h
    obtain ⟨p, -, hp⟩ := List.mem_map.mp h
    exact p.spelled.ne_eof hp

theorem ofText_layout_negative_and_qualified :
    (ofText " set\n-7 " = .ok [keyword .set, number (-7), eof]) ∧
      ofText "a.b" = .ok [ident "a", dot, ident "b", eof] ∧
      ∃ (items : List Placed) (trail : List Char), (∀ c ∈ trail, Text.isBlank c = true) ∧
        "a.b".toList = layout items ++ trail ∧
          [ident "a", dot, ident "b", eof] = items.map Placed.token ++ [eof] ∧
            eof ∉ items.map Placed.token := by
  have listed : ("SET", keyword .set) ∈ Token.reserved := by decide
  have set : Spells ['s', 'e', 't'] (keyword .set) :=
    .reserved ⟨by decide, List.all_eq_true.mp (by decide)⟩ listed (by decide)
  have minusSeven : Spells ['-', '7'] (number (-7)) :=
    .negative (.whole ⟨List.cons_ne_nil _ _, List.all_eq_true.mp (by decide)⟩ (by decide))
  have space : ∀ c ∈ [' '], Text.isBlank c = true := List.all_eq_true.mp (by decide)
  have newline : ∀ c ∈ ['\n'], Text.isBlank c = true := List.all_eq_true.mp (by decide)
  have qualified : ofText "a.b" = .ok [ident "a", dot, ident "b", eof] := by decide +kernel
  exact ⟨ofText_layout.1 [⟨[' '], _, _, space, set⟩, ⟨['\n'], _, _, newline, minusSeven⟩] [' ']
    (by simp) space, qualified, ofText_layout.2 _ _ qualified⟩

end Token

end SqlStore
