import SqlStore.Proofs.Token.Trimmed

/-!
# The tokens in front of a text

What is read from the front of a text does not depend on what the rest turns out to be: the tokens
read so far stand in front of the tokens of the rest, and the error of the rest is the error of the
text. So a text that can be read, a blank and any text whatever have the tokens of the one and then
the tokens or the error of the other.
-/

namespace SqlStore.Token

/-- The tokens are read from the front of the text one after another; the rest is left. -/
inductive Scanned : List Char → List Token → List Char → Prop
  | none (cs : List Char) : Scanned cs [] cs
  | next {cs r mid rest : List Char} {c : Char} {t : Token} {ts : List Token}
      (trimmed : Text.trimStart cs = c :: r)
      (read : (lexeme? c r).map Lexeme.pair = .ok (t, mid)) (later : Scanned mid ts rest) :
      Scanned cs (t :: ts) rest

variable {cs rest : List Char} {ts : List Token}

theorem Scanned.scan_eq (h : Scanned cs ts rest) : scan cs = (scan rest).map (ts ++ ·) := by
  induction h with
  | none cs => cases scan cs <;> rfl
  | @next cs r mid rest c t ts trimmed read _ ih =>
    rw [scan_of_trimStart trimmed, read]
    simp only [bind, Except.bind, ih]
    cases scan rest <;> rfl

/-- A text that can be read is read token by token until only blanks are left. -/
theorem exists_scanned_of_scan (h : scan cs = .ok ts) :
    ∃ us rest, ts = us ++ [eof] ∧ Scanned cs us rest ∧ ∀ c ∈ rest, Text.isBlank c = true := by
  induction cs using scan.induct generalizing ts with
  | case1 cs trimmed =>
    rw [scan_of_blank trimmed] at h
    obtain rfl := Except.ok.inj h
    exact ⟨[], cs, rfl, .none cs, (Text.trimStart_eq_nil_iff cs).mp trimmed⟩
  | case2 cs c r trimmed _ ih =>
    obtain ⟨t, mid, us, front, hus, rfl⟩ := (scan_eq_ok_iff_of_trimStart trimmed).mp h
    obtain ⟨l, hl, rfl, rfl⟩ := Lexeme.map_pair_eq_ok_iff.mp front
    obtain ⟨later, rest, rfl, scanned, blank⟩ := ih l hus
    exact ⟨l.token :: later, rest, rfl, .next trimmed front scanned, blank⟩

/-- A lexeme in front, perhaps behind blanks, is read as its token. -/
theorem Scanned.of_spells {gap w : List Char} {t : Token}
    (blank : ∀ c ∈ gap, Text.isBlank c = true) (spelled : Spells w t) (ends : Ends t rest) :
    Scanned (gap ++ (w ++ rest)) [t] rest := by
  obtain ⟨c, w, rfl, first⟩ := spelled.exists_first
  have front := pair_lexeme?_eq_ok_iff.mpr ⟨_, List.cons_append.symm, spelled, ends⟩
  exact .next (trimStart_append_of_first blank first) front (.none rest)

/-- What is read first is a lexeme behind blanks that does not go on. -/
theorem exists_spells_of_front {r mid : List Char} {c : Char} {t : Token}
    (trimmed : Text.trimStart cs = c :: r)
    (read : (lexeme? c r).map Lexeme.pair = .ok (t, mid)) :
    ∃ gap w, cs = gap ++ (w ++ mid) ∧ c :: r = w ++ mid ∧
      (∀ d ∈ gap, Text.isBlank d = true) ∧ Spells w t ∧ Ends t mid := by
  obtain ⟨w, text, spelled, ends⟩ := pair_lexeme?_eq_ok_iff.mp read
  refine ⟨cs.takeWhile Text.isBlank, w, ?_, text, fun d => eq_true_of_mem_takeWhile, spelled, ends⟩
  rw [← text, ← trimmed, Text.trimStart, List.takeWhile_append_dropWhile]

/-! ## Further text after a blank -/

section Further

variable {further : List Char} (blank : ∀ c ∈ further.head?, Text.isBlank c = true)

include blank

theorem Ends.append {t : Token} (ends : Ends t rest) : Ends t (rest ++ further) := by
  cases rest with
  | nil => exact ends_of_blank t blank
  | cons c rest => exact ends

/-- What is read from the front is read there too if further text stands behind, after a blank. -/
theorem Scanned.append (h : Scanned cs ts rest) :
    Scanned (cs ++ further) ts (rest ++ further) := by
  induction h with
  | none cs => exact .none _
  | @next cs r mid rest c t ts trimmed read _ ih =>
    have trimmed' : Text.trimStart (cs ++ further) = c :: (r ++ further) := by
      rw [Text.trimStart] at trimmed ⊢
      rw [List.dropWhile_append, trimmed]
      rfl
    obtain ⟨w, text, spelled, ends⟩ := pair_lexeme?_eq_ok_iff.mp read
    have text' : c :: (r ++ further) = w ++ (mid ++ further) := by
      rw [← List.cons_append, text, List.append_assoc]
    have read' := pair_lexeme?_eq_ok_iff.mpr ⟨w, text', spelled, ends.append blank⟩
    exact .next trimmed' read' ih

end Further

/-- Behind a text that can be read and a blank every text is read as it is read alone: its tokens
follow those of the first text, and its error is the error of the whole. -/
theorem ofText_append_blank_append (a w b : String) (ta : List Token)
    (read : ofText a = .ok (ta ++ [eof])) (gap : w ≠ "")
    (blank : ∀ c ∈ w.toList, Text.isBlank c = true) :
    ofText (a ++ w ++ b) = (ofText b).map (ta ++ ·) := by
  obtain ⟨us, rest, tokens, front, left⟩ := exists_scanned_of_scan read
  obtain rfl : ta = us := List.append_cancel_right tokens
  have apart : ∀ c ∈ (w.toList ++ b.toList).head?, Text.isBlank c = true := by
    obtain ⟨c, cs, hw⟩ := List.exists_cons_of_ne_nil (mt String.toList_eq_nil_iff.mp gap)
    rw [hw, List.cons_append, List.head?_cons]
    rintro _ ⟨rfl⟩
    exact blank c (hw ▸ List.mem_cons_self)
  rw [ofText, String.toList_append, String.toList_append, List.append_assoc,
    (front.append apart).scan_eq, scan_blank_append left, scan_blank_append blank, ofText]

/-- A blank keeps a point behind digits from making them a fraction, and a quote that stays open is
the error of the whole. -/
theorem ofText_append_blank_append_point_and_quote :
    ofText "id = -7" = .ok ([ident "id", equal, number (-7)] ++ [eof]) ∧
      ofText ("id = -7" ++ " \t" ++ ".5;") =
        .ok [ident "id", equal, number (-7), dot, number 5, semicolon, eof] ∧
      ofText ("id = -7" ++ " \t" ++ "8 'it") = .error .unterminatedString := by
  have read : ofText "id = -7" = .ok ([ident "id", equal, number (-7)] ++ [eof]) := by
    decide +kernel
  have blank : ∀ c ∈ " \t".toList, Text.isBlank c = true := List.all_eq_true.mp (by decide)
  have behind := fun b => ofText_append_blank_append "id = -7" " \t" b _ read (by decide) blank
  have point : ofText ".5;" = .ok [dot, number 5, semicolon, eof] := by decide +kernel
  have quote : ofText "8 'it" = .error .unterminatedString := by decide +kernel
  exact ⟨read, by rw [behind, point]; rfl, by rw [behind, quote]; rfl⟩

end SqlStore.Token
