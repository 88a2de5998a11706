import SqlStore.Proofs.Statement.Following
import SqlStore.Proofs.Statement.Grammar

/-!
# Reading stays within the tokens

One lemma per part of the grammar says that the cursor follows the reader. Main statement: a
position always has a token, every loop comes to an end with the tokens before the first end of
input, and what is read is the statement or the error of these tokens, whatever stands behind.
-/

namespace SqlStore

/-! ## Constraints -/

namespace Grammar

open Reader

/-- A constraint of two words: behind the first one the second is wanted. -/
theorem run_constraints_of_pair {c : Column} {k : Phrase.Constraint} {first second : Token}
    (tokens : k.tokens = [first, second]) (inside : second ≠ .eof) {us : List Token}
    (stop : us.headD .eof ≠ second → (constraints c).run (first :: us) =
      .error (.unexpected (.token second) (us.headD .eof))) :
    (constraints c).run (first :: us) =
      (expect second >>= fun _ => constraints (withConstraint c k)).run us := by
  rw [run_bind, expect, run_expectAs]
  by_cases h : us.headD .eof = second
  · rw [if_pos h]
    have both : first :: us = k.tokens ++ us.tail := by
      rw [tokens, eq_cons_of_headD h inside]
      rfl
    rw [both, run_constraints_append]
    rfl
  · rw [if_neg h]
    exact stop h

/-- One round of constraints, told by the token in front. -/
theorem run_constraints_eq_bind (c : Column) (ts : List Token) :
    (constraints c).run ts =
      (front >>= fun t => match t with
        | .keyword .primary => skip >>= fun _ => expect (.keyword .key) >>= fun _ =>
            constraints { c with primaryKey := true }
        | .keyword .unique => skip >>= fun _ => constraints { c with unique := true }
        | .keyword .not => skip >>= fun _ => expect .null >>= fun _ =>
            constraints { c with nullable := false }
        | .null => skip >>= fun _ => constraints { c with nullable := true }
        | _ => pure c).run ts := by
  rw [run_bind_of_ok (run_front ts)]
  cases ts with
  | nil => rfl
  | cons t us =>
    have taken {r : Reader Column} : (skip >>= fun _ => r).run (t :: us) = r.run us :=
      run_bind_of_ok (run_skip _)
    cases t with
    | null => exact (run_constraints_append c .null us).trans taken.symm
    | keyword k =>
      cases k with
      | unique => exact (run_constraints_append c .unique us).trans taken.symm
      | primary =>
        refine Eq.trans ?_ taken.symm
        refine run_constraints_of_pair (k := .primaryKey) rfl Token.noConfusion fun stop => ?_
        rw [run, constraints]
        · rfl
        · rintro vs rfl
          exact stop rfl
      | not =>
        refine Eq.trans ?_ taken.symm
        refine run_constraints_of_pair (k := .notNull) rfl Token.noConfusion fun stop => ?_
        rw [run, constraints]
        · rfl
        · rintro vs rfl
          exact stop rfl
      | _ => rfl
    | _ => rfl

end Grammar

namespace Cursor

variable {todo : List Token}

/-- Every round takes a token. -/
theorem follows_constraints {n : Nat} (c : Column) (noEof : .eof ∉ todo)
    (enough : todo.length < n) : Follows (constraints n c) (Grammar.constraints c) todo := by
  induction n generalizing c todo with
  | zero => exact absurd enough (Nat.not_lt_zero _)
  | succ n ih =>
    refine .congr (Grammar.run_constraints_eq_bind c) (.front_bind ?_)
    cases todo with
    | nil => exact follows_pure c
    | cons t todo =>
      rw [List.mem_cons, not_or] at noEof
      rw [List.length_cons] at enough
      have later {d : Column} {rest : List Token} (left : rest <:+ todo) :
          Follows (constraints n d) (Grammar.constraints d) rest :=
        ih d (fun h => noEof.2 (left.subset h)) (by have := left.length_le; omega)
      have one {d : Column} : Follows (skip >>= fun _ => constraints n d)
          (Reader.skip >>= fun _ => Grammar.constraints d) (t :: todo) :=
        .skip_bind (later (List.suffix_refl todo))
      have two {u : Token} (inside : u ≠ .eof) {d : Column} :
          Follows (skip >>= fun _ => expect u >>= fun _ => constraints n d)
            (Reader.skip >>= fun _ => Reader.expect u >>= fun _ => Grammar.constraints d)
            (t :: todo) :=
        .skip_bind ((follows_expectAs inside _).bind fun _ _ h => later (Reader.suffix_of_run h))
      cases t with
      | null => exact one
      | keyword k =>
        cases k with
        | primary => exact two Token.noConfusion
        | unique => exact one
        | not => exact two Token.noConfusion
        | _ => exact follows_pure c
      | _ => exact follows_pure c

/-! ## The grammar -/

section

variable {rounds : Nat}

theorem follows_name : FollowsBelow rounds name Grammar.name :=
  .oneOf rfl _

theorem follows_literal : FollowsBelow rounds literal Grammar.literal :=
  .oneOf rfl _

theorem follows_columnRef : FollowsBelow rounds columnRef Grammar.columnRef := by
  refine follows_name.bind fun n => (FollowsBelow.accept Token.noConfusion).bind fun b => ?_
  cases b with
  | false => exact .pure n
  | true => exact follows_name

theorem follows_condition : FollowsBelow rounds condition Grammar.condition :=
  follows_name.bind fun _ => (FollowsBelow.expect Token.noConfusion).bind fun _ =>
    follows_literal.bind fun _ => .pure _

theorem follows_columnType : FollowsBelow rounds columnType Grammar.columnType := by
  refine .of_follows fun todo => .front_bind ?_
  cases todo with
  | nil => exact follows_failExpecting _
  | cons t todo =>
    cases t with
    | ident s =>
      simp only [List.headD_cons]
      cases SqlType.ofName? s with
      | none => exact follows_fail _
      | some τ => exact .skip_bind (follows_pure τ)
    | _ => exact follows_failExpecting _

theorem follows_column : FollowsBelow rounds (column rounds) Grammar.column :=
  follows_name.bind fun _ => follows_columnType.bind fun _ =>
    fun _ noEof enough => follows_constraints _ noEof enough

theorem follows_nextColumn (columns : List Column) :
    FollowsBelow rounds (nextColumn rounds columns) (Grammar.nextColumn columns) := by
  refine follows_column.bind fun c => ?_
  split
  · exact .fail _
  · exact .pure _

theorem follows_createTableRest :
    FollowsBelow rounds (createTableRest rounds) Grammar.createTableRest :=
  follows_name.bind fun _ => (FollowsBelow.expect Token.noConfusion).bind fun _ =>
    (FollowsBelow.commaFold follows_nextColumn []).bind fun _ =>
      (FollowsBelow.expectAs Token.noConfusion _).bind fun _ => .pure _

theorem follows_insertRest : FollowsBelow rounds (insertRest rounds) Grammar.insertRest :=
  follows_name.bind fun _ => (FollowsBelow.expect Token.noConfusion).bind fun _ =>
    (FollowsBelow.expect Token.noConfusion).bind fun _ => follows_literal.commaList.bind fun _ =>
      (FollowsBelow.expect Token.noConfusion).bind fun _ => .pure _

theorem follows_projection : FollowsBelow rounds (projection rounds) Grammar.projection := by
  refine (FollowsBelow.accept Token.noConfusion).bind fun b => ?_
  cases b with
  | true => exact .pure _
  | false => exact follows_columnRef.commaList.bind fun _ => .pure _

theorem follows_join? : FollowsBelow rounds join? Grammar.join? := by
  refine (FollowsBelow.accept Token.noConfusion).bind fun b => ?_
  cases b with
  | false => exact .pure _
  | true =>
    exact follows_name.bind fun _ => (FollowsBelow.expect Token.noConfusion).bind fun _ =>
      follows_columnRef.bind fun _ => (FollowsBelow.expect Token.noConfusion).bind fun _ =>
        follows_columnRef.bind fun _ => .pure _

theorem follows_where? : FollowsBelow rounds where? Grammar.where? := by
  refine (FollowsBelow.accept Token.noConfusion).bind fun b => ?_
  cases b with
  | false => exact .pure _
  | true => exact follows_condition.bind fun _ => .pure _

theorem follows_selectRest : FollowsBelow rounds (selectRest rounds) Grammar.selectRest :=
  follows_projection.bind fun _ => (FollowsBelow.expect Token.noConfusion).bind fun _ =>
    follows_name.bind fun _ => follows_join?.bind fun _ => follows_where?.bind fun _ => .pure _

theorem follows_updateRest : FollowsBelow rounds (updateRest rounds) Grammar.updateRest := by
  have assignments (r : Row) :
      FollowsBelow rounds (condition >>= fun c => pure (r.insert c.1 c.2))
        (Grammar.condition >>= fun c => pure (r.insert c.1 c.2)) :=
    follows_condition.bind fun _ => .pure _
  exact follows_name.bind fun _ => (FollowsBelow.expect Token.noConfusion).bind fun _ =>
    (FollowsBelow.commaFold assignments Row.empty).bind fun _ =>
      (FollowsBelow.expect Token.noConfusion).bind fun _ => follows_condition.bind fun _ => .pure _

theorem follows_deleteRest : FollowsBelow rounds deleteRest Grammar.deleteRest :=
  follows_name.bind fun _ => (FollowsBelow.expect Token.noConfusion).bind fun _ =>
    follows_condition.bind fun _ => .pure _

/-- Where the token behind the one in front does not matter, there is some token to look at. -/
theorem follows_second_bind_fail {d : Token → Cursor β} {s : Token → Reader β} (e : SyntaxError)
    (hd : ∀ t, d t = fail e) (hs : ∀ t, s t = Reader.fail e) :
    Follows (second >>= d) (Reader.second >>= s) todo where
  reader after _ := by
    rw [Reader.run_bind_of_ok (Reader.run_second _), Reader.run_bind_of_ok (Reader.run_second _),
      hs, hs]
    rfl
  cursor before after _ := by
    have inside (p : Nat) : min (p + 1) ((before ++ Token.eof :: after).length - 1) <
        (before ++ Token.eof :: after).length := by
      rw [List.length_append, List.length_cons]
      omega
    rw [bind_eq, second, tokenAt, List.getElem?_eq_getElem (inside _),
      Reader.run_bind_of_ok (Reader.run_second _), hs]
    exact congrFun (congrFun (hd _) _) _

theorem follows_statement : FollowsBelow rounds (statement rounds) Grammar.statement := by
  intro todo noEof enough
  refine .front_bind ?_
  cases todo with
  | nil =>
    -- the token behind the end of input is looked at, but nothing hangs on it
    exact follows_second_bind_fail .unsupportedStatement (fun _ => rfl) (fun _ => rfl)
  | cons t todo =>
    have within {c : Cursor Statement} {r : Reader Statement} {rest : List Token}
        (follows : FollowsBelow rounds c r) (left : rest <:+ t :: todo) : Follows c r rest :=
      follows rest (fun h => noEof (left.subset h)) (Nat.lt_of_le_of_lt left.length_le enough)
    have one {c : Cursor Statement} {r : Reader Statement} (follows : FollowsBelow rounds c r) :
        Follows (skip >>= fun _ => c) (Reader.skip >>= fun _ => r) (t :: todo) :=
      .skip_bind (within follows (List.suffix_cons t todo))
    have two {c : Cursor Statement} {r : Reader Statement} {k : Keyword}
        (second : todo.headD .eof = .keyword k) (follows : FollowsBelow rounds c r) :
        Follows (skip >>= fun _ => skip >>= fun _ => c)
          (Reader.skip >>= fun _ => Reader.skip >>= fun _ => r) (t :: todo) := by
      refine .skip_bind ?_
      rw [Reader.eq_cons_of_headD second Token.noConfusion]
      exact .skip_bind (within follows
        ((List.tail_suffix todo).trans (List.suffix_cons t todo)))
    refine follows_second.bind fun u rest h => ?_
    obtain ⟨rfl, rfl⟩ := Prod.mk.inj (Except.ok.inj h)
    rw [List.headD_cons, List.tail_cons]
    generalize behind : todo.headD .eof = u
    cases t with
    | keyword k =>
      cases k with
      | select => exact one follows_selectRest
      | update => exact one follows_updateRest
      | create =>
        cases u with
        | keyword l =>
          cases l with
          | table => exact two behind follows_createTableRest
          | _ => exact follows_fail _
        | _ => exact follows_fail _
      | insert =>
        cases u with
        | keyword l =>
          cases l with
          | into => exact two behind follows_insertRest
          | _ => exact follows_fail _
        | _ => exact follows_fail _
      | delete =>
        cases u with
        | keyword l =>
          cases l with
          | «from» => exact two behind follows_deleteRest
          | _ => exact follows_fail _
        | _ => exact follows_fail _
      | _ => exact follows_fail _
    | _ => exact follows_fail _

theorem follows_whole : FollowsBelow rounds (whole rounds) Grammar.whole := by
  refine follows_statement.bind fun s => (FollowsBelow.accept Token.noConfusion).bind fun _ => ?_
  refine .of_follows fun todo => .front_bind ?_
  split
  · exact follows_pure s
  · exact follows_fail _

end

end Cursor

/-! ## Statements -/

namespace Token

theorem eof_notMem_takeWhile (ts : List Token) : .eof ∉ ts.takeWhile (· != .eof) := by
  intro h
  have other := eq_true_of_mem_takeWhile h
  simp at other

theorem headD_dropWhile (ts : List Token) : (ts.dropWhile (· != .eof)).headD .eof = .eof := by
  have stop : ∀ t ∈ (ts.dropWhile (· != .eof)).head?, (t != .eof) = false :=
    eq_false_of_head_dropWhile
  cases h : ts.dropWhile (· != .eof) with
  | nil => rfl
  | cons t rest =>
    rw [h] at stop
    simpa using stop

/-- The first end of input is there when the tokens are ended. -/
theorem exists_ended {before after : List Token} (noEof : .eof ∉ before)
    (last : after.headD .eof = .eof) :
    ∃ rest, ended (before ++ after) = before ++ .eof :: rest := by
  rw [ended]
  cases after with
  | nil =>
    have notLast : (before ++ []).getLast? ≠ some .eof := fun h => by
      rw [List.append_nil] at h
      exact noEof (List.mem_of_getLast? h)
    exact ⟨[], by rw [if_neg notLast, List.append_nil]⟩
  | cons t rest =>
    obtain rfl : t = .eof := last
    split
    · exact ⟨rest, rfl⟩
    · exact ⟨rest ++ [.eof], by simp⟩

end Token

/-- Behind a whole statement there is the end of the input. -/
theorem Grammar.headD_of_run_whole {ts rest : List Token} {s : Statement}
    (h : whole.run ts = .ok (s, rest)) : rest.headD .eof = .eof := by
  simp only [whole, Reader.run_bind_eq_ok_iff] at h
  obtain ⟨_, _, -, _, _, -, t, _, front, h⟩ := h
  cases front
  split at h
  · next last =>
    cases h
    exact last
  · cases h

namespace Statement

/-- Whatever the tokens, their statement or error is the one of those before the first end of input
with one end of input behind them. Reading at a position comes to it too, from the first token on
and with as many rounds of a loop as there are tokens up to the first end of input, or more: the
position always has a token, every loop ends, and a statement leaves the position at the first end
of input. -/
theorem ofTokens_stays_before_eof (ts : List Token) (more : Nat) :
    let before := ts.takeWhile (· != .eof)
    ofTokens ts = ofTokens (before ++ [.eof]) ∧
      Cursor.whole (before.length + 1 + more) (Token.ended ts) 0 =
        match ofTokens ts with
        | .ok s => .ok (s, before.length)
        | .error e => .error (.refused e) := by
  intro before
  have split : before ++ ts.dropWhile (· != .eof) = ts := List.takeWhile_append_dropWhile
  have noEof : .eof ∉ before := Token.eof_notMem_takeWhile ts
  have last : (ts.dropWhile (· != .eof)).headD .eof = .eof := Token.headD_dropWhile ts
  have follows : Cursor.Follows (Cursor.whole (before.length + 1 + more)) Grammar.whole before :=
    Cursor.follows_whole before noEof (by omega)
  have alone (after : List Token) (last : after.headD .eof = .eof) :
      ofTokens (before ++ after) = (Grammar.whole.run before).map Prod.fst := by
    rw [ofTokens, follows.reader after last]
    cases Grammar.whole.run before <;> rfl
  have whole : ofTokens ts = (Grammar.whole.run before).map Prod.fst :=
    (congrArg ofTokens split.symm).trans (alone _ last)
  refine ⟨whole.trans (alone [.eof] rfl).symm, ?_⟩
  obtain ⟨rest, ended⟩ := Token.exists_ended noEof last
  have read := follows.cursor before rest (List.suffix_refl before)
  rw [Nat.sub_self, ← ended, split] at read
  rw [read, whole]
  cases h : Grammar.whole.run before with
  | error e => rfl
  | ok p =>
    obtain ⟨s, left⟩ := p
    have nothing : left = [] := by
      cases left with
      | nil => rfl
      | cons t left =>
        obtain rfl : t = .eof := Grammar.headD_of_run_whole h
        exact absurd ((Reader.suffix_of_run h).subset List.mem_cons_self) noEof
    subst nothing
    rfl

end Statement

end SqlStore
