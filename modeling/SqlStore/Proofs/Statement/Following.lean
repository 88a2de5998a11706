import SqlStore.Proofs.Statement.Cursor

/-!
# Reading at a position follows reading off the front

Before the first end of input a position stands for the tokens from there up to it. Looking finds
the token in front of these, and moving on leaves those behind it, provided there is one: a token is
only taken when it is known to be no end of input. So what the reader takes off these tokens the
cursor takes too, and what stands behind the end of input is left alone by both. Sequences and lists
inherit this from their parts.
-/

namespace SqlStore

/-- One round of a list: an item, and the rest of the list if there is a comma. -/
theorem Reader.run_commaFold_eq_bind {β : Type} (item : β → Reader β) (b : β) (ts : List Token) :
    Reader.run (Reader.commaFold item b) ts =
      (item b >>= fun b' => Reader.accept .comma >>= fun more =>
        if more then Reader.commaFold item b' else pure b').run ts := by
  rw [Reader.run_commaFold, Reader.run_bind]
  cases (item b).run ts with
  | error e => rfl
  | ok p =>
    obtain ⟨b', rest⟩ := p
    change _ = Reader.run _ rest
    rw [Reader.run_bind, Reader.run_accept]
    match rest with
    | [] => rfl
    | t :: rest => cases t <;> rfl

namespace Cursor

variable {α β : Type} {todo rest : List Token}

/-- What is read off the front of the last tokens of `n`, with the position instead of the rest. -/
def placed (n : Nat) : Except SyntaxError (α × List Token) → Except Halt (α × Nat)
  | .ok (a, rest) => .ok (a, n - rest.length)
  | .error e => .error (.refused e)

/-- Before an end of input the cursor reads what the reader reads off the tokens up to it. Neither
minds what stands behind the end of input. -/
structure Follows (c : Cursor α) (r : Reader α) (todo : List Token) : Prop where
  reader : ∀ after : List Token, after.headD .eof = .eof →
    r.run (todo ++ after) = (r.run todo).map fun p => (p.1, p.2 ++ after)
  cursor : ∀ before after : List Token, todo <:+ before →
    c (before ++ .eof :: after) (before.length - todo.length) =
      placed before.length (r.run todo)

/-- A cursor that follows the reader on all tokens that are fewer than the rounds of a loop. -/
def FollowsBelow (rounds : Nat) (c : Cursor α) (r : Reader α) : Prop :=
  ∀ todo : List Token, .eof ∉ todo → todo.length < rounds → Follows c r todo

/-! ## Looking and moving -/

theorem headD_append {after : List Token} (last : after.headD .eof = .eof) :
    (todo ++ after).headD .eof = todo.headD .eof := by
  cases todo with
  | nil => exact last
  | cons t todo => rfl

theorem tokenAt_of_suffix {before : List Token} (h : todo <:+ before) (after : List Token) :
    tokenAt (before ++ .eof :: after) (before.length - todo.length) = .ok (todo.headD .eof) := by
  obtain ⟨done, rfl⟩ := h
  have position : (done ++ todo).length - todo.length = done.length := by simp
  rw [tokenAt, position, List.append_assoc, List.getElem?_append_right (Nat.le_refl _),
    Nat.sub_self]
  cases todo <;> rfl

theorem follows_pure (a : α) : Follows (pure a) (pure a) todo where
  reader _ _ := rfl
  cursor _ _ _ := rfl

theorem follows_fail (e : SyntaxError) :
    Follows (fail e : Cursor α) (Reader.fail e) todo where
  reader _ _ := rfl
  cursor _ _ _ := rfl

/-- What is read first leaves a rest, from which what is read next follows. -/
theorem Follows.bind {c : Cursor α} {r : Reader α} {d : α → Cursor β} {s : α → Reader β}
    (first : Follows c r todo)
    (later : ∀ a rest, r.run todo = .ok (a, rest) → Follows (d a) (s a) rest) :
    Follows (c >>= d) (r >>= s) todo := by
  constructor
  · intro after last
    rw [Reader.run_bind, Reader.run_bind, first.reader after last]
    cases h : r.run todo with
    | error e => rfl
    | ok p => exact (later p.1 p.2 h).reader after last
  · intro before after suffix
    have step := first.cursor before after suffix
    rw [Reader.run_bind]
    cases h : r.run todo with
    | error e =>
      rw [h] at step
      rw [bind_eq, step]
      rfl
    | ok p =>
      rw [h] at step
      rw [bind_eq, step]
      exact (later p.1 p.2 h).cursor before after ((Reader.suffix_of_run h).trans suffix)

theorem Follows.congr {c : Cursor α} {r r' : Reader α} (same : ∀ ts, r.run ts = r'.run ts)
    (follows : Follows c r' todo) : Follows c r todo where
  reader after last := by rw [same, same, follows.reader after last]
  cursor before after suffix := by rw [same, follows.cursor before after suffix]

theorem follows_front : Follows front Reader.front todo where
  reader after last := by
    rw [Reader.run_front, Reader.run_front, headD_append last]
    rfl
  cursor before after suffix := by
    rw [front, tokenAt_of_suffix suffix]
    rfl

/-- The token in front decides what is read next. -/
theorem Follows.front_bind {d : Token → Cursor β} {s : Token → Reader β}
    (later : Follows (d (todo.headD .eof)) (s (todo.headD .eof)) todo) :
    Follows (front >>= d) (Reader.front >>= s) todo := by
  refine follows_front.bind fun t rest h => ?_
  cases h
  exact later

section

variable {t : Token}

theorem position_succ {before : List Token} (h : t :: todo <:+ before) :
    before.length - (t :: todo).length + 1 = before.length - todo.length := by
  have := h.length_le
  rw [List.length_cons] at this ⊢
  omega

theorem follows_second : Follows second Reader.second (t :: todo) where
  reader after last := by
    rw [Reader.run_second, Reader.run_second, List.cons_append, List.tail_cons, List.tail_cons,
      headD_append last]
    rfl
  cursor before after suffix := by
    have later : todo <:+ before := (List.suffix_cons t todo).trans suffix
    have inside : min (before.length - todo.length) ((before ++ Token.eof :: after).length - 1) =
        before.length - todo.length := by
      rw [List.length_append, List.length_cons]
      omega
    rw [second, position_succ suffix, inside, tokenAt_of_suffix later]
    rfl

/-- Before the end of input there is room to move on. -/
theorem follows_skip : Follows skip Reader.skip (t :: todo) where
  reader _ _ := rfl
  cursor before after suffix := by
    have room : before.length - (t :: todo).length < (before ++ Token.eof :: after).length - 1 := by
      have := suffix.length_le
      rw [List.length_append, List.length_cons, List.length_cons] at *
      omega
    rw [skip, if_pos room, position_succ suffix, Reader.run_skip]
    rfl

theorem Follows.skip_bind {d : Cursor β} {s : Reader β} (later : Follows d s todo) :
    Follows (skip >>= fun _ => d) (Reader.skip >>= fun _ => s) (t :: todo) := by
  refine follows_skip.bind fun _ rest h => ?_
  cases h
  exact later

end

theorem follows_failExpecting (e : Expected) :
    Follows (failExpecting e : Cursor α) (Reader.failExpecting e) todo :=
  .front_bind (follows_fail _)

/-- A token that denotes something is no end of input, so there is one to be taken. -/
theorem follows_oneOf {f : Token → Option α} (stop : f .eof = none) (e : Expected) :
    Follows (oneOf f e) (Reader.oneOf f e) todo := by
  refine .front_bind ?_
  cases todo with
  | nil =>
    rw [List.headD_nil, stop]
    exact follows_failExpecting e
  | cons t todo =>
    rw [List.headD_cons]
    cases f t with
    | none => exact follows_failExpecting e
    | some a => exact .skip_bind (follows_pure a)

theorem follows_accept {t : Token} (inside : t ≠ .eof) :
    Follows (accept t) (Reader.accept t) todo := by
  refine .front_bind ?_
  cases todo with
  | nil =>
    rw [List.headD_nil, if_neg inside.symm, if_neg inside.symm]
    exact follows_pure false
  | cons u todo =>
    rw [List.headD_cons]
    by_cases h : u = t
    · rw [if_pos h, if_pos h]
      exact .skip_bind (follows_pure true)
    · rw [if_neg h, if_neg h]
      exact follows_pure false

theorem follows_expectAs {t : Token} (inside : t ≠ .eof) (e : Expected) :
    Follows (expectAs t e) (Reader.expectAs t e) todo := by
  refine (follows_accept inside).bind fun taken rest _ => ?_
  cases taken with
  | true => exact follows_pure ()
  | false => exact follows_failExpecting e

/-! ## Loops -/

namespace FollowsBelow

variable {rounds : Nat} {c : Cursor α} {r : Reader α}

theorem of_follows (follows : ∀ todo, Follows c r todo) : FollowsBelow rounds c r :=
  fun todo _ _ => follows todo

theorem bind {d : α → Cursor β} {s : α → Reader β} (first : FollowsBelow rounds c r)
    (later : ∀ a, FollowsBelow rounds (d a) (s a)) :
    FollowsBelow rounds (c >>= d) (r >>= s) := by
  intro todo noEof enough
  refine (first todo noEof enough).bind fun a rest h => ?_
  have left := Reader.suffix_of_run h
  exact later a rest (fun h => noEof (left.subset h)) (Nat.lt_of_le_of_lt left.length_le enough)

theorem pure (a : α) : FollowsBelow rounds (pure a) (Pure.pure a) :=
  of_follows fun _ => follows_pure a

theorem fail (e : SyntaxError) : FollowsBelow rounds (fail e : Cursor α) (Reader.fail e) :=
  of_follows fun _ => follows_fail e

theorem oneOf {f : Token → Option α} (stop : f .eof = none) (e : Expected) :
    FollowsBelow rounds (oneOf f e) (Reader.oneOf f e) :=
  of_follows fun _ => follows_oneOf stop e

theorem accept {t : Token} (inside : t ≠ .eof) :
    FollowsBelow rounds (accept t) (Reader.accept t) :=
  of_follows fun _ => follows_accept inside

theorem expectAs {t : Token} (inside : t ≠ .eof) (e : Expected) :
    FollowsBelow rounds (expectAs t e) (Reader.expectAs t e) :=
  of_follows fun _ => follows_expectAs inside e

theorem expect {t : Token} (inside : t ≠ .eof) :
    FollowsBelow rounds (expect t) (Reader.expect t) :=
  expectAs inside _

end FollowsBelow

/-- Every round takes a comma, so there are no more rounds than tokens. -/
theorem follows_commaFold {rounds : Nat} {item : β → Cursor β} {item' : β → Reader β}
    (items : ∀ b, FollowsBelow rounds (item b) (item' b)) {n : Nat} (b : β)
    (noEof : .eof ∉ todo) (enough : todo.length < n) (bound : n ≤ rounds) :
    Follows (commaFold item n b) (Reader.commaFold item' b) todo := by
  induction n generalizing b todo with
  | zero => exact absurd enough (Nat.not_lt_zero _)
  | succ n ih =>
    refine .congr (Reader.run_commaFold_eq_bind item' b) ?_
    refine (items b todo noEof (by omega)).bind fun b' mid hb => ?_
    refine (follows_accept Token.noConfusion).bind fun more rest hm => ?_
    have left := Reader.suffix_of_run hb
    rcases (Reader.run_accept_eq_ok_iff Token.noConfusion).mp hm with ⟨rfl, rfl⟩ | ⟨rfl, -, rfl⟩
    · have shorter := left.length_le
      rw [List.length_cons] at shorter
      exact ih b' (fun h => noEof (left.subset (List.mem_cons_of_mem _ h))) (by omega) (by omega)
    · exact follows_pure b'

namespace FollowsBelow

variable {rounds : Nat}

theorem commaFold {item : β → Cursor β} {item' : β → Reader β}
    (items : ∀ b, FollowsBelow rounds (item b) (item' b)) (b : β) :
    FollowsBelow rounds (commaFold item rounds b) (Reader.commaFold item' b) :=
  fun _ noEof enough => follows_commaFold items b noEof enough (Nat.le_refl _)

theorem commaList {item : Cursor α} {item' : Reader α} (items : FollowsBelow rounds item item') :
    FollowsBelow rounds (commaList item rounds) (Reader.commaList item') :=
  commaFold (fun _ => items.bind fun _ => pure _) []

end FollowsBelow

end Cursor

end SqlStore
