import SqlStore.Error

/-!
# Reading from a list of tokens

A `Reader` takes something off the front of a list of tokens and leaves a suffix of it, so
nothing is ever read twice and repetition ends by itself. Past the end of the list every token
reads as `eof`. `run` forgets the proof that the rest is a suffix; it is the view under which
readers are compared.
-/

namespace SqlStore

/-- Something to be read off the front of a list of tokens. -/
def Reader (α : Type) : Type :=
  (ts : List Token) → Except SyntaxError { p : α × List Token // p.2 <:+ ts }

namespace Reader

variable {α β : Type}

/-- The result for a suffix is one for the whole list. -/
def widen {ts rest : List Token} (h : rest <:+ ts) :
    Except SyntaxError { p : α × List Token // p.2 <:+ rest } →
      Except SyntaxError { p : α × List Token // p.2 <:+ ts }
  | .ok ⟨p, hp⟩ => .ok ⟨p, hp.trans h⟩
  | .error e => .error e

instance : Monad Reader where
  pure a := fun ts => .ok ⟨(a, ts), List.suffix_refl ts⟩
  bind r f := fun ts =>
    match r ts with
    | .ok ⟨(a, rest), h⟩ => widen h (f a rest)
    | .error e => .error e

/-- What is read and the tokens after it. -/
def run (r : Reader α) (ts : List Token) : Except SyntaxError (α × List Token) :=
  (r ts).map Subtype.val

theorem run_widen {ts rest : List Token} (h : rest <:+ ts)
    (x : Except SyntaxError { p : α × List Token // p.2 <:+ rest }) :
    (widen h x).map Subtype.val = x.map Subtype.val := by
  cases x <;> rfl

theorem run_pure (a : α) (ts : List Token) : (pure a : Reader α).run ts = .ok (a, ts) :=
  rfl

theorem run_bind (r : Reader α) (f : α → Reader β) (ts : List Token) :
    (r >>= f).run ts = r.run ts >>= fun p => (f p.1).run p.2 := by
  simp only [run, bind]
  cases r ts with
  | error e => rfl
  | ok p =>
    obtain ⟨⟨a, rest⟩, h⟩ := p
    exact run_widen h (f a rest)

theorem suffix_of_run {r : Reader α} {ts rest : List Token} {a : α}
    (h : r.run ts = .ok (a, rest)) : rest <:+ ts := by
  rw [run] at h
  cases hr : r ts with
  | error e => rw [hr] at h; cases h
  | ok p =>
    obtain ⟨p, hp⟩ := p
    rw [hr] at h
    obtain rfl : p = (a, rest) := Except.ok.inj h
    exact hp

def fail (e : SyntaxError) : Reader α := fun _ => .error e

/-- The token in front, which stays. -/
def front : Reader Token := fun ts => .ok ⟨(ts.headD .eof, ts), List.suffix_refl ts⟩

/-- The token behind the one in front; both stay. -/
def second : Reader Token := fun ts => .ok ⟨(ts.tail.headD .eof, ts), List.suffix_refl ts⟩

/-- Takes the token in front, if there is one. -/
def skip : Reader Unit := fun ts => .ok ⟨((), ts.tail), List.tail_suffix ts⟩

def failExpecting (e : Expected) : Reader α := do
  fail (.unexpected e (← front))

/-- Takes the token in front if it denotes something. -/
def oneOf (f : Token → Option α) (e : Expected) : Reader α := do
  match f (← front) with
  | some a => skip; pure a
  | none => failExpecting e

/-- Takes the token in front if it is `t`, and says whether it is. -/
def accept (t : Token) : Reader Bool := do
  if (← front) = t then skip; pure true else pure false

/-- Takes the token `t`; another one fails as `e`. -/
def expectAs (t : Token) (e : Expected) : Reader Unit := do
  if !(← accept t) then failExpecting e

def expect (t : Token) : Reader Unit :=
  expectAs t (.token t)

/-- Reads one or more items with commas between them, each with what the items before it came
to. -/
def commaFold (item : β → Reader β) (b : β) (ts : List Token) :
    Except SyntaxError { p : β × List Token // p.2 <:+ ts } :=
  match item b ts with
  | .error e => .error e
  | .ok ⟨(b', .comma :: rest), h⟩ =>
    have := h.length_le
    widen ((List.suffix_cons _ _).trans h) (commaFold item b' rest)
  | .ok p => .ok p
termination_by ts.length
decreasing_by
  simp only [List.length_cons] at this
  omega

def commaList (item : Reader α) : Reader (List α) :=
  commaFold (fun as => do return as ++ [← item]) []

theorem run_fail (e : SyntaxError) (ts : List Token) : (fail e : Reader α).run ts = .error e :=
  rfl

theorem run_front (ts : List Token) : front.run ts = .ok (ts.headD .eof, ts) :=
  rfl

theorem run_second (ts : List Token) : second.run ts = .ok (ts.tail.headD .eof, ts) :=
  rfl

theorem run_skip (ts : List Token) : skip.run ts = .ok ((), ts.tail) :=
  rfl

theorem run_failExpecting (e : Expected) (ts : List Token) :
    (failExpecting e : Reader α).run ts = .error (.unexpected e (ts.headD .eof)) :=
  rfl

theorem run_oneOf (f : Token → Option α) (e : Expected) (ts : List Token) :
    (oneOf f e).run ts =
      match f (ts.headD .eof) with
      | some a => .ok (a, ts.tail)
      | none => .error (.unexpected e (ts.headD .eof)) := by
  rw [oneOf, run_bind, run_front]
  simp only [bind, Except.bind]
  cases f (ts.headD .eof) <;> rfl

theorem run_accept (t : Token) (ts : List Token) :
    (accept t).run ts =
      if ts.headD .eof = t then .ok (true, ts.tail) else .ok (false, ts) := by
  rw [accept, run_bind, run_front]
  by_cases h : ts.headD .eof = t <;> simp only [bind, Except.bind, h, if_true, if_false] <;> rfl

theorem run_expectAs (t : Token) (e : Expected) (ts : List Token) :
    (expectAs t e).run ts =
      if ts.headD .eof = t then .ok ((), ts.tail)
      else .error (.unexpected e (ts.headD .eof)) := by
  rw [expectAs, run_bind, run_accept]
  split <;> rfl

/-- After an item a comma goes on to the next one, and anything else ends the list. -/
theorem run_commaFold (item : β → Reader β) (b : β) (ts : List Token) :
    run (commaFold item b) ts =
      match (item b).run ts with
      | .ok (b', .comma :: rest) => run (commaFold item b') rest
      | x => x := by
  change (commaFold item b ts).map Subtype.val = _
  rw [commaFold.eq_def, run]
  cases h : item b ts with
  | error e => rfl
  | ok p =>
    obtain ⟨⟨b', rest⟩, hp⟩ := p
    match rest, hp with
    | [], _ => rfl
    | t :: rest, hp =>
      cases t with
      | comma => exact run_widen _ _
      | _ => rfl

end Reader

end SqlStore
