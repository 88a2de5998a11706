import SqlStore.Proofs.Statement.Grammar
import SqlStore.Proofs.Text
import SqlStore.Proofs.Token.Scanned

/-!
# What opens a statement

A statement is told by its first one or two tokens, and a text that cannot be cut into tokens by its
first two words. The two go together: tokens that open a statement are words of the text with
nothing but blanks before and between them. So what the words rule out the tokens rule out too, and
behind tokens that open a statement every error is one of the statement or of a lexeme.
-/

namespace SqlStore

/-- The tokens begin as one of the statements does. -/
inductive Statement.Opening : List Token → Prop
  | createTable (ts : List Token) : Opening (.keyword .create :: .keyword .table :: ts)
  | insert (ts : List Token) : Opening (.keyword .insert :: .keyword .into :: ts)
  | select (ts : List Token) : Opening (.keyword .select :: ts)
  | update (ts : List Token) : Opening (.keyword .update :: ts)
  | delete (ts : List Token) : Opening (.keyword .delete :: .keyword .from :: ts)

open Statement (Opening)

theorem Statement.Opening.append {ts : List Token} (h : Opening ts) (us : List Token) :
    Opening (ts ++ us) := by
  cases h <;> constructor

theorem Statement.Opening.exists_keyword {ts : List Token} (h : Opening ts) :
    ∃ k us, ts = .keyword k :: us := by
  cases h <;> exact ⟨_, _, rfl⟩

/-- The end of the input opens nothing. -/
theorem Statement.Opening.of_append_eof {ts : List Token} (h : Opening (ts ++ [.eof])) :
    Opening ts := by
  match ts, h with
  | [_], .select _ => exact .select []
  | [_], .update _ => exact .update []
  | _ :: _ :: ts, h =>
    simp only [List.cons_append] at h
    cases h <;> constructor

/-! ## Readers that have recognised their statement -/

namespace Reader

variable {α β : Type}

/-- Whatever stands in front, the reader does not say that the statement is unsupported. -/
def Supports (r : Reader α) : Prop :=
  ∀ ts, r.run ts ≠ .error .unsupportedStatement

theorem Supports.pure (a : α) : Supports (pure a : Reader α) := by
  intro ts h
  cases h

theorem Supports.bind {r : Reader α} {f : α → Reader β} (first : r.Supports)
    (later : ∀ a, (f a).Supports) : (r >>= f).Supports := by
  intro ts h
  rw [run_bind, bind_eq_error_iff] at h
  obtain h | ⟨p, -, h⟩ := h
  · exact first ts h
  · exact later p.1 p.2 h

theorem Supports.fail {e : SyntaxError} (other : e ≠ .unsupportedStatement) :
    Supports (fail e : Reader α) :=
  fun _ h => other (Except.error.inj h)

theorem Supports.front : front.Supports := by
  intro ts h
  cases h

theorem Supports.skip : skip.Supports := by
  intro ts h
  cases h

theorem Supports.failExpecting (e : Expected) : Supports (failExpecting e : Reader α) :=
  front.bind fun _ => fail SyntaxError.noConfusion

theorem Supports.oneOf (f : Token → Option α) (e : Expected) : (oneOf f e).Supports := by
  refine front.bind fun t => ?_
  cases f t with
  | some a => exact skip.bind fun _ => pure a
  | none => exact failExpecting e

theorem Supports.accept (t : Token) : (accept t).Supports := by
  refine front.bind fun u => ?_
  split
  · exact skip.bind fun _ => pure true
  · exact pure false

theorem Supports.expectAs (t : Token) (e : Expected) : (expectAs t e).Supports := by
  refine (accept t).bind fun b => ?_
  cases b with
  | false => exact failExpecting e
  | true => exact pure ()

theorem Supports.commaFold {item : β → Reader β} (items : ∀ b, (item b).Supports) (b : β) :
    Supports (commaFold item b) := by
  intro ts
  -- on the tokens left behind each comma
  induction hn : ts.length using Nat.strongRecOn generalizing b ts with
  | ind n ih =>
    rw [run_commaFold]
    cases hi : (item b).run ts with
    | error e =>
      intro h
      exact items b ts (hi.trans h)
    | ok p =>
      obtain ⟨b', rest⟩ := p
      split
      · next b' us h =>
        obtain ⟨rfl, rfl⟩ := Prod.mk.inj (Except.ok.inj h)
        have shorter := (suffix_of_run hi).length_le
        rw [List.length_cons] at shorter
        exact ih us.length (by omega) b' us rfl
      · simp

theorem Supports.commaList {item : Reader α} (items : item.Supports) :
    (commaList item).Supports :=
  commaFold (fun _ => items.bind fun _ => pure _) []

end Reader

namespace Grammar

open Reader (Supports)

theorem supports_name : name.Supports :=
  .oneOf _ _

theorem supports_literal : literal.Supports :=
  .oneOf _ _

theorem supports_columnRef : columnRef.Supports := by
  refine supports_name.bind fun n => (Supports.accept _).bind fun b => ?_
  cases b with
  | false => exact .pure n
  | true => exact supports_name

theorem supports_condition : condition.Supports :=
  supports_name.bind fun _ => (Supports.expectAs _ _).bind fun _ =>
    supports_literal.bind fun _ => .pure _

theorem supports_columnType : columnType.Supports := by
  refine Supports.front.bind fun t => ?_
  split
  · next s =>
    cases SqlType.ofName? s with
    | some τ => exact Supports.skip.bind fun _ => .pure τ
    | none => exact .fail SyntaxError.noConfusion
  · exact .failExpecting _

theorem supports_constraints (c : Column) : (constraints c).Supports := by
  intro ts
  have widened : ∀ {α : Type} {us rest : List Token} (h : rest <:+ us) {r : Reader α},
      r.run rest ≠ .error .unsupportedStatement →
      (Reader.widen h (r rest)).map Subtype.val ≠ .error .unsupportedStatement := by
    intro α us rest h r hr
    rw [Reader.run_widen]
    exact hr
  rw [Reader.run]
  induction c, ts using constraints.induct with
  | case1 c ts ih => exact widened _ ih
  | case2 c ts _ => simp [constraints, Except.map]
  | case3 c ts ih => exact widened _ ih
  | case4 c ts ih => exact widened _ ih
  | case5 c ts _ => simp [constraints, Except.map]
  | case6 c ts ih => exact widened _ ih
  | case7 c ts => simp [constraints, Except.map]

theorem supports_column : column.Supports :=
  supports_name.bind fun _ => supports_columnType.bind fun _ => supports_constraints _

theorem supports_nextColumn (columns : List Column) : (nextColumn columns).Supports := by
  refine supports_column.bind fun c => ?_
  split
  · exact .fail SyntaxError.noConfusion
  · exact .pure _

theorem supports_createTableRest : createTableRest.Supports :=
  supports_name.bind fun _ => (Supports.expectAs _ _).bind fun _ =>
    (Supports.commaFold supports_nextColumn []).bind fun _ =>
      (Supports.expectAs _ _).bind fun _ => .pure _

theorem supports_insertRest : insertRest.Supports :=
  supports_name.bind fun _ => (Supports.expectAs _ _).bind fun _ =>
    (Supports.expectAs _ _).bind fun _ => supports_literal.commaList.bind fun _ =>
      (Supports.expectAs _ _).bind fun _ => .pure _

theorem supports_projection : projection.Supports := by
  refine (Supports.accept _).bind fun b => ?_
  cases b with
  | true => exact .pure _
  | false => exact supports_columnRef.commaList.bind fun _ => .pure _

theorem supports_join? : join?.Supports := by
  refine (Supports.accept _).bind fun b => ?_
  cases b with
  | false => exact .pure _
  | true =>
    exact supports_name.bind fun _ => (Supports.expectAs _ _).bind fun _ =>
      supports_columnRef.bind fun _ => (Supports.expectAs _ _).bind fun _ =>
        supports_columnRef.bind fun _ => .pure _

theorem supports_where? : where?.Supports := by
  refine (Supports.accept _).bind fun b => ?_
  cases b with
  | false => exact .pure _
  | true => exact supports_condition.bind fun _ => .pure _

theorem supports_selectRest : selectRest.Supports :=
  supports_projection.bind fun _ => (Supports.expectAs _ _).bind fun _ =>
    supports_name.bind fun _ => supports_join?.bind fun _ => supports_where?.bind fun _ => .pure _

theorem supports_updateRest : updateRest.Supports := by
  have assignments : ∀ r : Row, Supports (condition >>= fun c => pure (r.insert c.1 c.2)) :=
    fun r => supports_condition.bind fun _ => .pure _
  exact supports_name.bind fun _ => (Supports.expectAs _ _).bind fun _ =>
    (Supports.commaFold assignments Row.empty).bind fun _ => (Supports.expectAs _ _).bind fun _ =>
      supports_condition.bind fun _ => .pure _

theorem supports_deleteRest : deleteRest.Supports :=
  supports_name.bind fun _ => (Supports.expectAs _ _).bind fun _ =>
    supports_condition.bind fun _ => .pure _

open Reader in
/-- A statement is unsupported exactly if its tokens open none. -/
theorem run_statement_eq_unsupported_iff {ts : List Token} :
    statement.run ts = .error .unsupportedStatement ↔ ¬ Opening ts := by
  have twice : ∀ {r : Reader Statement}, r.Supports →
      Supports (skip >>= fun _ => skip >>= fun _ => r) :=
    fun supports => Supports.skip.bind fun _ => Supports.skip.bind fun _ => supports
  have once : ∀ {r : Reader Statement}, r.Supports → Supports (skip >>= fun _ => r) :=
    fun supports => Supports.skip.bind fun _ => supports
  have front : ∀ {us : List Token} {k : Keyword}, us.headD .eof = .keyword k →
      us = .keyword k :: us.tail := fun h => eq_cons_of_headD h Token.noConfusion
  rw [statement, run_bind_of_ok (run_front ts), run_bind_of_ok (run_second ts)]
  split
  · next first second =>
    refine iff_of_false (twice supports_createTableRest ts) (not_not_intro ?_)
    rw [front first, front second]
    exact .createTable _
  · next first second =>
    refine iff_of_false (twice supports_insertRest ts) (not_not_intro ?_)
    rw [front first, front second]
    exact .insert _
  · next first =>
    refine iff_of_false (once supports_selectRest ts) (not_not_intro ?_)
    rw [front first]
    exact .select _
  · next first =>
    refine iff_of_false (once supports_updateRest ts) (not_not_intro ?_)
    rw [front first]
    exact .update _
  · next first second =>
    refine iff_of_false (twice supports_deleteRest ts) (not_not_intro ?_)
    rw [front first, front second]
    exact .delete _
  · next noSelect noUpdate noCreate noInsert noDelete =>
    refine iff_of_true rfl fun opening => ?_
    cases opening with
    | createTable => exact noCreate rfl rfl
    | insert => exact noInsert rfl rfl
    | select => exact noSelect rfl
    | update => exact noUpdate rfl
    | delete => exact noDelete rfl rfl

end Grammar

namespace Statement

/-- What follows a statement is never taken for another kind of statement. -/
theorem ofTokens_eq_unsupported_iff {ts : List Token} :
    ofTokens ts = .error .unsupportedStatement ↔ ¬ Opening ts := by
  rw [← Grammar.run_statement_eq_unsupported_iff, ofTokens, map_eq_error_iff, Grammar.whole,
    Reader.run_bind, bind_eq_error_iff]
  refine or_iff_left ?_
  rintro ⟨p, -, h⟩
  have behind : Reader.Supports (Reader.accept .semicolon >>= fun _ => Reader.front >>= fun t =>
      if t = .eof then pure p.1 else Reader.fail (.trailingInput t)) := by
    refine (Reader.Supports.accept _).bind fun _ => Reader.Supports.front.bind fun t => ?_
    split
    · exact .pure _
    · exact .fail SyntaxError.noConfusion
  exact behind p.2 h

end Statement

/-! ## The words of a text and its tokens -/

/-- Keywords are spelled by words only. -/
theorem Token.Spells.of_keyword {w : List Char} {k : Keyword} (spelled : Spells w (keyword k)) :
    IsWord w ∧ Text.upper w = k.letters := by
  cases spelled with
  | symbol listed =>
    have none : ∀ p ∈ symbols, p.2.name? = none := by decide
    cases none _ listed
  | @reserved w u _ word listed spelled =>
    have letters : ∀ k ∈ Keyword.all, ∀ p ∈ Token.reserved, p.2 = keyword k →
        p.1.toList = k.letters := by decide
    exact ⟨word, spelled.trans (letters k k.mem_all _ listed rfl)⟩
  | number numeral => cases numeral
  | negative numeral => cases numeral

namespace Statement

open Token (Scanned lexeme?)

section

variable {cs rest : List Char} {k : Keyword} {ts : List Token}

/-- A keyword that is read first is the first word of the text, and begins with a letter. -/
theorem exists_word_of_scanned (scanned : Scanned cs (.keyword k :: ts) rest) :
    ∃ w mid, (Text.trimStart cs).head?.any Text.isAlphabetic = true ∧ Text.upper w = k.letters ∧
      Text.runs Text.isWordChar cs = w :: Text.runs Text.isWordChar mid ∧
        Scanned mid ts rest := by
  cases scanned with
  | @next _ r mid _ c _ _ trimmed read later =>
  obtain ⟨gap, w, rfl, front, blank, spelled, ends⟩ := Token.exists_spells_of_front trimmed read
  obtain ⟨word, upper⟩ := spelled.of_keyword
  cases w with
  | nil => exact word.elim
  | cons d w =>
    obtain rfl : c = d := (List.cons.inj front).1
    have noWord : ∀ d ∈ gap, Text.isWordChar d = false :=
      fun d hd => (Token.classes_of_isBlank (blank d hd)).1
    have inside : ∀ d ∈ c :: w, Text.isWordChar d = true :=
      List.forall_mem_cons.mpr ⟨Text.isWordChar_of_isWordStart word.1, word.2⟩
    refine ⟨c :: w, mid, ?_, upper, ?_, later⟩
    · have start := word.1
      rw [Text.isWordStart, Bool.or_eq_true, beq_iff_eq] at start
      rw [trimmed]
      refine start.resolve_right ?_
      -- no keyword begins with an underscore
      rintro rfl
      have letter : ∀ k ∈ Keyword.all, k.letters.head? ≠ some '_' := by decide
      refine letter k k.mem_all ?_
      rw [← upper]
      rfl
    · rw [Text.runs_append_of_none_left noWord]
      exact Text.runs_append_of_stop (List.cons_ne_nil _ _) inside ends

/-- Tokens that open a statement are read off words that open one. -/
theorem opensStatement_of_scanned (scanned : Scanned cs ts rest) (opening : Opening ts) :
    opensStatement cs = true := by
  have two : ∀ {k l : Keyword} {us : List Token},
      Scanned cs (.keyword k :: .keyword l :: us) rest →
        ((k = .create ∧ l = .table) ∨ (k = .insert ∧ l = .into) ∨ (k = .delete ∧ l = .from)) →
          opensStatement cs = true := by
    intro k l us scanned listed
    obtain ⟨v, mid, letter, hv, runs, later⟩ := exists_word_of_scanned scanned
    obtain ⟨w, _, -, hw, runs', -⟩ := exists_word_of_scanned later
    simp only [opensStatement, letter, runs, runs', List.map_cons, hv, hw, List.take_succ_cons,
      List.take_zero, List.map_nil, Bool.true_and]
    obtain ⟨rfl, rfl⟩ | ⟨rfl, rfl⟩ | ⟨rfl, rfl⟩ := listed <;> rfl
  have one : ∀ {k : Keyword} {us : List Token}, Scanned cs (.keyword k :: us) rest →
      (k = .select ∨ k = .update) → opensStatement cs = true := by
    intro k us scanned listed
    obtain ⟨v, mid, letter, hv, runs, -⟩ := exists_word_of_scanned scanned
    have first : (some (String.ofList k.letters) == some "SELECT" ||
        some (String.ofList k.letters) == some "UPDATE") = true := by
      obtain rfl | rfl := listed <;> rfl
    simp only [opensStatement, letter, runs, List.map_cons, hv, List.take_succ_cons,
      List.head?_cons, first, Bool.true_and, Bool.true_or]
  cases opening with
  | createTable => exact two scanned (Or.inl ⟨rfl, rfl⟩)
  | insert => exact two scanned (Or.inr (Or.inl ⟨rfl, rfl⟩))
  | delete => exact two scanned (Or.inr (Or.inr ⟨rfl, rfl⟩))
  | select => exact one scanned (Or.inl rfl)
  | update => exact one scanned (Or.inr rfl)

end

end Statement

/-! ## Texts that cannot be read -/

namespace Token

variable {c : Char} {cs : List Char}

theorem number?_ne_unsupported (negative : Bool) :
    number? negative c cs ≠ .error .unsupportedStatement := by
  rw [number?]
  split
  · split <;> simp
  · simp only
    split <;> simp

theorem string?_ne_unsupported : string? cs ≠ .error .unsupportedStatement := by
  rw [string?]
  split <;> simp

/-- No lexeme is refused as a statement. -/
theorem lexeme?_ne_unsupported : lexeme? c cs ≠ .error .unsupportedStatement := by
  unfold lexeme?
  split
  · simp
  · split_ifs with start digit quote minus
    · simp
    · exact number?_ne_unsupported false
    · exact string?_ne_unsupported
    · cases cs with
      | nil => simp
      | cons d ds =>
        simp only
        split_ifs
        · exact mt map_eq_error_iff.mp (number?_ne_unsupported true)
        · simp
    · simp

theorem scan_ne_unsupported : scan cs ≠ .error .unsupportedStatement := by
  induction cs using scan.induct with
  | case1 cs trimmed =>
    rw [scan_of_blank trimmed]
    simp
  | case2 cs c r trimmed _ ih =>
    rw [scan_of_trimStart trimmed]
    intro h
    obtain h | ⟨p, front, h⟩ := bind_eq_error_iff.mp h
    · exact lexeme?_ne_unsupported (map_eq_error_iff.mp h)
    · obtain ⟨l, -, -, rest⟩ := Lexeme.map_pair_eq_ok_iff.mp front
      rw [← rest, map_eq_error_iff] at h
      exact ih l h

end Token

namespace Statement

open Token (Scanned)

/-- A text whose leading words open no statement is none. -/
theorem ofText_of_no_opening_words {sql : String} (closed : opensStatement sql.toList = false) :
    ofText sql = .error .unsupportedStatement := by
  rw [ofText]
  cases read : Token.ofText sql with
  | error e => simp only [closed, Bool.false_eq_true, if_false]
  | ok ts =>
    obtain ⟨us, rest, rfl, scanned, -⟩ := Token.exists_scanned_of_scan read
    refine ofTokens_eq_unsupported_iff.mpr fun opening => ?_
    rw [opensStatement_of_scanned scanned opening.of_append_eof] at closed
    cases closed

section

variable {sql : String} {ts rest : List Token} {left : List Char}
  (scanned : Scanned sql.toList ts left)

include scanned

theorem ofText_of_scanned (read : Token.scan left = .ok rest) :
    ofText sql = ofTokens (ts ++ rest) := by
  have tokens : Token.ofText sql = .ok (ts ++ rest) := by
    rw [Token.ofText, scanned.scan_eq, read]
    rfl
  rw [ofText, tokens]

/-- Behind tokens that open a statement the error of a lexeme is kept. -/
theorem ofText_of_unread (opening : Opening ts) {e : SyntaxError}
    (unread : Token.scan left = .error e) :
    Token.ofText sql = .error e ∧ ofText sql = .error e := by
  have failed : Token.ofText sql = .error e := by
    rw [Token.ofText, scanned.scan_eq, unread]
    rfl
  refine ⟨failed, ?_⟩
  rw [ofText, failed]
  simp only [opensStatement_of_scanned scanned opening, if_true]

theorem ofText_ne_unsupported (opening : Opening ts) :
    ofText sql ≠ .error .unsupportedStatement := by
  intro refused
  cases read : Token.scan left with
  | error e =>
    have same := (ofText_of_unread scanned opening read).2.symm.trans refused
    exact Token.scan_ne_unsupported (read.trans (congrArg _ (Except.error.inj same)))
  | ok rest =>
    rw [ofText_of_scanned scanned read] at refused
    exact ofTokens_eq_unsupported_iff.mp refused (opening.append rest)

end

/-- Words and tokens recognise the same statements. A text whose leading words open none is an
unsupported statement, whether or not it can be read. If the tokens in front open one, the text is
never unsupported: it fails with the error of the rest, or is what all its tokens are. -/
theorem recognised_by_words_and_tokens (sql : String) :
    (opensStatement sql.toList = false → ofText sql = .error .unsupportedStatement) ∧
      ∀ ts rest, Scanned sql.toList ts rest → Opening ts →
        ofText sql ≠ .error .unsupportedStatement ∧
          (∀ e, Token.scan rest = .error e →
            Token.ofText sql = .error e ∧ ofText sql = .error e) ∧
          ∀ us, Token.scan rest = .ok us → ofText sql = ofTokens (ts ++ us) := by
  refine ⟨ofText_of_no_opening_words, fun ts rest scanned opening => ⟨?_, ?_, ?_⟩⟩
  · exact ofText_ne_unsupported scanned opening
  · exact fun e => ofText_of_unread scanned opening
  · exact fun us => ofText_of_scanned scanned

/-- No token has a greater-than sign, and a string has to end. -/
theorem recognised_by_words_and_tokens_unreadable :
    ofText "EXPLAIN SELECT * FROM t WHERE a > 1" = .error .unsupportedStatement ∧
      ofText "insert\n into t VALUES ('open" = .error .unterminatedString := by
  have foreign : opensStatement "EXPLAIN SELECT * FROM t WHERE a > 1".toList = false := by
    decide +kernel
  have first : (Token.lexeme? 'i' "nsert\n into t VALUES ('open".toList).map Token.Lexeme.pair =
      .ok (.keyword .insert, "\n into t VALUES ('open".toList) := by
    decide +kernel
  have second : (Token.lexeme? 'i' "nto t VALUES ('open".toList).map Token.Lexeme.pair =
      .ok (.keyword .into, " t VALUES ('open".toList) := by
    decide +kernel
  have insert : Scanned "insert\n into t VALUES ('open".toList [.keyword .insert, .keyword .into]
      " t VALUES ('open".toList :=
    .next (by decide +kernel) first (.next (by decide +kernel) second (.none _))
  have unread : Token.scan " t VALUES ('open".toList = .error .unterminatedString := by
    decide +kernel
  obtain ⟨words, -⟩ := recognised_by_words_and_tokens "EXPLAIN SELECT * FROM t WHERE a > 1"
  obtain ⟨-, tokens⟩ := recognised_by_words_and_tokens "insert\n into t VALUES ('open"
  obtain ⟨-, failed, -⟩ := tokens _ _ insert (.insert [])
  exact ⟨words foreign, (failed _ unread).2⟩

end Statement

end SqlStore
