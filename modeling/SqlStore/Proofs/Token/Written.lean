import SqlStore.Proofs.Token.Layout

/-!
# Texts put together from lexemes

What a printer has to know about the texts it writes. `Written` is closed under putting texts one
behind the other, as long as no word grows, so a text is read as the tokens its parts are read as.
-/

namespace SqlStore.Token

instance : DecidablePred IsWord
  | [] => inferInstanceAs (Decidable False)
  | c :: cs =>
    decidable_of_iff ((Text.isWordStart c && cs.all Text.isWordChar) = true) (by simp [IsWord])

theorem IsWord.ne_nil {w : List Char} (word : IsWord w) : w ≠ [] :=
  fun h => (h ▸ word : IsWord []).elim

theorem IsWord.noBlank {w : List Char} (word : IsWord w) : ∀ c ∈ w, Text.isBlank c = false := by
  intro c hc
  have inside : Text.isWordChar c = true := by
    cases w with
    | nil => exact word.elim
    | cons d w =>
      rcases List.mem_cons.mp hc with rfl | hc
      · exact Text.isWordChar_of_isWordStart word.1
      · exact word.2 c hc
  cases blank : Text.isBlank c with
  | false => rfl
  | true => rw [(classes_of_isBlank blank).1] at inside; cases inside

/-- A blank in front changes nothing. -/
theorem Cut.blank_cons {c : Char} {cs : List Char} {ts : List Token}
    (blank : Text.isBlank c = true) (cut : Cut cs ts) : Cut (c :: cs) ts := by
  have grown : ∀ {gap : List Char}, (∀ d ∈ gap, Text.isBlank d = true) →
      ∀ d ∈ c :: gap, Text.isBlank d = true :=
    fun all => List.forall_mem_cons.mpr ⟨blank, all⟩
  cases cut with
  | done all => exact .done (grown all)
  | next all spelled ends cut => exact .next (grown all) spelled ends cut

/-- Every token that is read has a spelling, apart from the end of the input. -/
theorem Cut.exists_spells {cs : List Char} {ts : List Token} {t : Token} (cut : Cut cs ts)
    (read : t ∈ ts) (inside : t ≠ eof) : ∃ w, Spells w t := by
  induction cut with
  | done => exact absurd (List.mem_singleton.mp read) inside
  | next _ spelled _ _ ih =>
    rcases List.mem_cons.mp read with rfl | read
    · exact ⟨_, spelled⟩
    · exact ih read

/-- Nothing is between a lexeme and the text it begins. -/
theorem Cut.lexeme_append {w rest : List Char} {t : Token} {ts : List Token}
    (cut : Cut rest ts) (spelled : Spells w t) (ends : Ends t rest) : Cut (w ++ rest) (t :: ts) :=
  .next (List.forall_mem_nil _) spelled ends cut

/-- In front of anything that does not continue a word, the text is read as the tokens. -/
structure Written (cs : List Char) (ts : List Token) : Prop where
  cut_append : ∀ {rest : List Char} {us : List Token},
    (∀ c ∈ rest.head?, Text.isWordChar c = false) → Cut rest us → Cut (cs ++ rest) (ts ++ us)

namespace Written

variable {cs ds : List Char} {ts us : List Token}

theorem nil : Written [] [] :=
  ⟨fun _ cut => cut⟩

theorem append (front : Written cs ts) (behind : Written ds us)
    (ends : ∀ c ∈ ds.head?, Text.isWordChar c = false) : Written (cs ++ ds) (ts ++ us) := by
  refine ⟨fun {rest} _ stop cut => ?_⟩
  rw [List.append_assoc, List.append_assoc]
  refine front.cut_append ?_ (behind.cut_append stop cut)
  cases ds with
  | nil => exact stop
  | cons d ds => exact ends

theorem spaced (h : Written cs ts) : Written (' ' :: cs) ts :=
  ⟨fun stop cut => (h.cut_append stop cut).blank_cons (by decide)⟩

/-- Texts with a space between them. -/
theorem append_spaced (front : Written cs ts) (behind : Written ds us) :
    Written (cs ++ ' ' :: ds) (ts ++ us) :=
  front.append behind.spaced (by simpa using by decide)

theorem word (h : IsWord cs) : Written cs [ofWord cs] := by
  refine ⟨fun {rest} _ stop cut => ?_⟩
  have ends : Ends (ofWord cs) rest := by
    rw [Ends, goesOn_ofWord]
    exact stop
  exact cut.lexeme_append (spells_ofWord h) ends

/-- No word goes on with a space. -/
theorem head?_flatMap_spaced {α : Type} (text : α → List Char) (as : List α) :
    ∀ c ∈ (as.flatMap (' ' :: text ·)).head?, Text.isWordChar c = false := by
  cases as with
  | nil => simp
  | cons a as => simpa using by decide

theorem keyword (k : Keyword) : Written k.letters [.keyword k] := by
  have reads : ofWord k.letters = .keyword k := by
    cases k <;> decide
  exact reads ▸ .word (by cases k <;> decide)

/-- A symbol stands in front of anything. -/
theorem symbol_cons {c : Char} {t : Token} (listed : (c, t) ∈ symbols) (behind : Written cs ts) :
    Written (c :: cs) (t :: ts) :=
  ⟨fun stop cut => (behind.cut_append stop cut).lexeme_append (.symbol listed) fun d _ =>
    goesOn_of_mem_symbols listed d⟩

/-- Any number of texts with a space in front of each. -/
theorem flatMap_spaced {α : Type} {text : α → List Char} {tokens : α → List Token}
    (each : ∀ a, Written (text a) (tokens a)) (as : List α) :
    Written (as.flatMap (' ' :: text ·)) (as.flatMap tokens) := by
  induction as with
  | nil => exact nil
  | cons a as ih => exact (each a).spaced.append ih (head?_flatMap_spaced text as)

theorem ofText_eq {s : String} (h : Written s.toList ts) : ofText s = .ok (ts ++ [eof]) := by
  have stop : ∀ c ∈ [].head?, Text.isWordChar c = false := by simp
  have read := h.cut_append stop (.done (List.forall_mem_nil _))
  rw [List.append_nil] at read
  exact scan_eq_ok_iff.mpr read

end Written

end SqlStore.Token
