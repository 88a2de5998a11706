import SqlStore.Proofs.Basic
import SqlStore.Proofs.Statement.Phrase
import SqlStore.Statement.Reader

/-!
# What readers take

A reader is compared with the phrases it is meant for in both directions: whatever it takes off the
front is such a phrase, and such a phrase is taken off the front wherever it stands, unless the
token behind it is one with which it might go on. Lists with commas inherit both from their items.
-/

namespace SqlStore

open Phrase (CommaList)

namespace Reader

variable {α β : Type}

/-! ## What single steps take -/

section

variable {ts rest : List Token}

theorem run_bind_eq_ok_iff {r : Reader α} {f : α → Reader β} {b : β} :
    (r >>= f).run ts = .ok (b, rest) ↔
      ∃ a mid, r.run ts = .ok (a, mid) ∧ (f a).run mid = .ok (b, rest) := by
  rw [run_bind, bind_eq_ok_iff, Prod.exists]

theorem run_bind_of_ok {r : Reader α} {f : α → Reader β} {mid : List Token} {a : α}
    (h : r.run ts = .ok (a, mid)) : (r >>= f).run ts = (f a).run mid := by
  rw [run_bind, h]
  rfl

/-- One step of an execution, and the steps after it. -/
theorem run_then {r : Reader α} {f : α → Reader β} {mid : List Token} {a : α} {b : β}
    (first : r.run ts = .ok (a, mid)) (next : (f a).run mid = .ok (b, rest)) :
    (r >>= f).run ts = .ok (b, rest) :=
  (run_bind_of_ok first).trans next

theorem eq_cons_of_headD {t : Token} (h : ts.headD .eof = t) (inside : t ≠ .eof) :
    ts = t :: ts.tail := by
  cases ts with
  | nil => exact absurd h.symm inside
  | cons u ts => exact congrArg (· :: ts) h

theorem run_oneOf_eq_ok_iff {f : Token → Option α} {e : Expected} {a : α}
    (stop : f .eof = none) :
    (oneOf f e).run ts = .ok (a, rest) ↔ ∃ t, ts = t :: rest ∧ f t = some a := by
  rw [run_oneOf]
  cases ts with
  | nil => simp [stop]
  | cons t ts =>
    rw [List.headD_cons, List.tail_cons]
    cases h : f t with
    | none => simp [h]
    | some a' => simp [h, and_comm]

theorem run_expectAs_eq_ok_iff {t : Token} {e : Expected} {u : Unit} (inside : t ≠ .eof) :
    (expectAs t e).run ts = .ok (u, rest) ↔ ts = t :: rest := by
  rw [run_expectAs]
  cases ts with
  | nil => simp [inside.symm]
  | cons t' ts => by_cases h : t' = t <;> simp [h]

theorem run_expect_eq_ok_iff {t : Token} {u : Unit} (inside : t ≠ .eof) :
    (expect t).run ts = .ok (u, rest) ↔ ts = t :: rest :=
  run_expectAs_eq_ok_iff inside

theorem run_expect (t : Token) (rest : List Token) :
    (expect t).run (t :: rest) = .ok ((), rest) := by
  rw [expect, run_expectAs]
  simp

theorem run_accept_eq_ok_iff {t : Token} {b : Bool} (inside : t ≠ .eof) :
    (accept t).run ts = .ok (b, rest) ↔
      b = true ∧ ts = t :: rest ∨ b = false ∧ ts.headD .eof ≠ t ∧ ts = rest := by
  rw [run_accept]
  cases ts with
  | nil => simp [inside.symm, eq_comm]
  | cons t' ts =>
    by_cases h : t' = t
    · simp [h, eq_comm]
    · simp [h, eq_comm, Ne.symm h]

theorem run_accept_self {t : Token} (inside : t ≠ .eof) :
    (accept t).run (t :: rest) = .ok (true, rest) :=
  (run_accept_eq_ok_iff inside).mpr (Or.inl ⟨rfl, rfl⟩)

theorem run_accept_other {t : Token} (inside : t ≠ .eof) (h : ts.headD .eof ≠ t) :
    (accept t).run ts = .ok (false, ts) :=
  (run_accept_eq_ok_iff inside).mpr (Or.inr ⟨rfl, h, rfl⟩)

theorem run_commaFold_eq_ok_iff {item : β → Reader β} {b c : β} :
    run (commaFold item b) ts = .ok (c, rest) ↔
      ∃ b' mid, (item b).run ts = .ok (b', mid) ∧
        ((∃ us, mid = .comma :: us ∧ run (commaFold item b') us = .ok (c, rest)) ∨
          mid.headD .eof ≠ .comma ∧ b' = c ∧ mid = rest) := by
  rw [run_commaFold]
  cases h : (item b).run ts with
  | error e => simp
  | ok p =>
    obtain ⟨b', mid⟩ := p
    match mid with
    | [] => simp
    | t :: mid => cases t <;> simp

end

/-! ## Phrases -/

/-- The reader takes phrases of the kind off the front and nothing else. It takes one that stands
there unless a token of `more` follows, with which the phrase might go on. -/
structure Reads (r : Reader α) (phrase : List Token → α → Prop) (more : List Token) : Prop where
  sound : ∀ {ts rest a}, r.run ts = .ok (a, rest) → ∃ used, ts = used ++ rest ∧ phrase used a
  complete : ∀ {used a} (rest), phrase used a → rest.headD .eof ∉ more →
    r.run (used ++ rest) = .ok (a, rest)

/-- Items that are phrases make up lists of phrases. What the items before came to may refuse a
further one. -/
theorem Reads.commaFold {item : β → Reader β} {phrase : List Token → α → Prop}
    {step : β → α → Option β} {more : List Token}
    (items : ∀ b, (item b).Reads (fun used c => ∃ a, phrase used a ∧ step b a = some c) more)
    (comma : .comma ∉ more) (b : β) :
    Reads (Reader.commaFold item b)
      (fun used c => ∃ as, CommaList phrase used as ∧ as.foldlM step b = some c)
      (.comma :: more) := by
  constructor
  · intro ts rest c h
    -- on the tokens left; what the items so far came to is taken along
    induction hn : ts.length using Nat.strongRecOn generalizing b ts with
    | ind n ih =>
      obtain ⟨b', mid, hi, left⟩ := run_commaFold_eq_ok_iff.mp h
      obtain ⟨used, rfl, a, first, hs⟩ := (items b).sound hi
      rcases left with ⟨us, rfl, later⟩ | ⟨-, rfl, rfl⟩
      · have shorter : us.length < n := by
          rw [List.length_append, List.length_cons] at hn
          omega
        obtain ⟨used', rfl, as, others, hf⟩ := ih us.length shorter b' later rfl
        refine ⟨used ++ .comma :: used', by simp, a :: as, .more first others, ?_⟩
        rw [List.foldlM_cons, hs]
        exact hf
      · exact ⟨used, rfl, [a], .one first, by rw [List.foldlM_cons, hs]; rfl⟩
  · rintro used c rest ⟨as, list, hf⟩ stop
    rw [List.mem_cons, not_or] at stop
    induction list generalizing b with
    | @one ts a only =>
      rw [List.foldlM_cons] at hf
      obtain ⟨b', hs, hf⟩ := Option.bind_eq_some_iff.mp hf
      cases hf
      exact run_commaFold_eq_ok_iff.mpr
        ⟨c, rest, (items b).complete _ ⟨a, only, hs⟩ stop.2, Or.inr ⟨stop.1, rfl, rfl⟩⟩
    | @more ts us a as first _ ih =>
      rw [List.foldlM_cons] at hf
      obtain ⟨b', hs, hf⟩ := Option.bind_eq_some_iff.mp hf
      rw [List.append_assoc, List.cons_append]
      exact run_commaFold_eq_ok_iff.mpr
        ⟨b', _, (items b).complete _ ⟨a, first, hs⟩ comma, Or.inl ⟨_, rfl, ih b' hf⟩⟩

/-- Items that are put together by a function, whatever they are. -/
theorem Reads.commaFold_map {item : Reader α} {phrase : List Token → α → Prop}
    {more : List Token} (items : item.Reads phrase more) (comma : .comma ∉ more) (f : β → α → β)
    (b : β) :
    Reads (Reader.commaFold (fun b => item >>= fun a => pure (f b a)) b)
      (fun used c => ∃ as, CommaList phrase used as ∧ as.foldl f b = c) (.comma :: more) := by
  have step : ∀ b, Reads (item >>= fun a => pure (f b a))
      (fun used c => ∃ a, phrase used a ∧ some (f b a) = some c) more := by
    intro b
    constructor
    · intro ts rest c h
      obtain ⟨a, mid, ha, left⟩ := run_bind_eq_ok_iff.mp h
      obtain ⟨used, rfl, first⟩ := items.sound ha
      cases left
      exact ⟨used, rfl, a, first, rfl⟩
    · rintro used _ rest ⟨a, first, ⟨⟩⟩ stop
      exact run_then (items.complete rest first stop) rfl
  have all : ∀ as : List α, as.foldlM (fun b a => some (f b a)) b = some (as.foldl f b) :=
    fun as => List.foldlM_pure
  have fold := Reads.commaFold step comma b
  simp only [all, Option.some.injEq] at fold
  exact fold

theorem Reads.commaList {item : Reader α} {phrase : List Token → α → Prop} {more : List Token}
    (items : item.Reads phrase more) (comma : .comma ∉ more) :
    (Reader.commaList item).Reads (CommaList phrase) (.comma :: more) := by
  have all : ∀ as : List α, as.foldl (fun as a => as ++ [a]) [] = as := by
    intro as
    induction as using List.reverseRecOn with
    | nil => rfl
    | append_singleton as a ih => rw [List.foldl_append, ih]; rfl
  have fold := items.commaFold_map comma (fun as a => as ++ [a]) []
  simp only [all, exists_eq_right] at fold
  exact fold

end Reader

end SqlStore
