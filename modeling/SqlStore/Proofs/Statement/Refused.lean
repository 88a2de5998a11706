import SqlStore.Proofs.Statement.Opening
import SqlStore.Proofs.Token.Trimmed
import SqlStore.Proofs.Token.Written

/-!
# What is no statement

Trimming a text changes neither the statement that it is nor the error it fails with. A text that is
blank, that begins with a point or that is a single word is no statement of any kind, and the error
says no more than that.
-/

namespace SqlStore.Statement

/-! ## Trimmed texts -/

theorem opensStatement_trim (s : String) :
    opensStatement (Text.trim s).toList = opensStatement s.toList := by
  obtain ⟨lead, trail, leadBlank, trailBlank, text⟩ := Text.exists_trim s
  have noWord : ∀ {w : List Char}, (∀ c ∈ w, Text.isBlank c = true) →
      ∀ c ∈ w, Text.isWordChar c = false :=
    fun blank c hc => (Token.classes_of_isBlank (blank c hc)).1
  have runs : Text.runs Text.isWordChar s.toList =
      Text.runs Text.isWordChar (Text.trim s).toList := by
    rw [text, Text.runs_append_of_none_left (noWord leadBlank),
      Text.runs_append_of_none_right _ (noWord trailBlank)]
  have first : (Text.trimStart s.toList).head?.any Text.isAlphabetic =
      (Text.trimStart (Text.trim s).toList).head?.any Text.isAlphabetic := by
    rw [text, Text.trimStart_blank_append leadBlank, Text.trimStart_append trailBlank]
    cases Text.trimStart (Text.trim s).toList with
    | nil => rfl
    | cons c cs => rw [if_neg (List.cons_ne_nil _ _)]; rfl
  rw [opensStatement, opensStatement, runs, first]

/-- A text is the statement that its trimmed form is, or fails with the same error. -/
theorem ofText_trim (s : String) : ofText (Text.trim s) = ofText s := by
  rw [ofText, ofText, Token.ofText_trim, opensStatement_trim]

/-! ## Texts that open no statement -/

/-- A text that begins with a point is no statement, whether it can be cut into tokens or not. -/
theorem ofText_of_point {s : String} (first : s.toList.head? = some '.') :
    ofText s = .error .unsupportedStatement := by
  obtain ⟨cs, hs⟩ : ∃ cs, s.toList = '.' :: cs := List.head?_eq_some_iff.mp first
  have trimmed : Text.trimStart s.toList = '.' :: cs := by
    have point : Text.isBlank '.' = false := by decide
    rw [hs, Text.trimStart, List.dropWhile_cons_of_neg (by simp [point])]
  refine ofText_of_no_opening_words ?_
  have letter : Text.isAlphabetic '.' = false := by decide
  simp [opensStatement, trimmed, letter]

/-- Nothing but blanks is no statement. -/
theorem ofText_of_blank {s : String} (blank : Text.trim s = "") :
    ofText s = .error .unsupportedStatement := by
  rw [← ofText_trim, blank]
  exact ofText_of_no_opening_words rfl

/-- A word that is no keyword is no statement. -/
theorem ofText_of_word {s : String} (word : Token.IsWord s.toList)
    (free : ∀ k, Token.ofWord s.toList ≠ .keyword k) :
    ofText s = .error .unsupportedStatement := by
  rw [ofText, (Token.Written.word word).ofText_eq]
  refine ofTokens_eq_unsupported_iff.mpr fun opening => ?_
  obtain ⟨k, us, front⟩ := opening.exists_keyword
  exact free k (List.cons.inj front).1

end SqlStore.Statement
