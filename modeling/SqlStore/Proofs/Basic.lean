import Mathlib.Data.List.Forall2

/-!
# Attempts and fronts of lists

When a chain of attempts, or one attempt per item of a list, gives a result and when it fails; and
what is taken off the front of a list for as long as a test holds.
-/

namespace SqlStore

/-! ## Attempts that succeed and attempts that fail -/

theorem bind_eq_ok_iff {ε α β : Type} {x : Except ε α} {f : α → Except ε β} {b : β} :
    x >>= f = .ok b ↔ ∃ a, x = .ok a ∧ f a = .ok b := by
  cases x <;> simp [bind, Except.bind]

theorem bind_eq_error_iff {ε α β : Type} {x : Except ε α} {f : α → Except ε β} {e : ε} :
    x >>= f = .error e ↔ x = .error e ∨ ∃ a, x = .ok a ∧ f a = .error e := by
  cases x <;> simp [bind, Except.bind]

theorem map_eq_error_iff {ε α β : Type} {x : Except ε α} {f : α → β} {e : ε} :
    x.map f = .error e ↔ x = .error e := by
  cases x <;> simp [Except.map]

/-- A list of attempts succeeds item by item. -/
theorem mapM_eq_ok_iff {ε α β : Type} {f : α → Except ε β} {as : List α} {bs : List β} :
    as.mapM f = .ok bs ↔ List.Forall₂ (fun a b => f a = .ok b) as bs := by
  induction as generalizing bs with
  | nil =>
    rw [List.mapM_nil, List.forall₂_nil_left_iff]
    exact ⟨fun h => (Except.ok.inj h).symm, fun h => h ▸ rfl⟩
  | cons a as ih =>
    rw [List.mapM_cons, bind_eq_ok_iff, List.forall₂_cons_left_iff]
    constructor
    · rintro ⟨b, hb, h⟩
      obtain ⟨bs', hbs, h⟩ := bind_eq_ok_iff.mp h
      exact ⟨b, bs', hb, ih.mp hbs, (Except.ok.inj h).symm⟩
    · rintro ⟨b, bs', hb, hbs, rfl⟩
      exact ⟨b, hb, bind_eq_ok_iff.mpr ⟨bs', ih.mpr hbs, rfl⟩⟩

/-- A list of attempts fails as the first of them that fails. -/
theorem mapM_eq_error_of_first {ε α β : Type} {f : α → Except ε β} {before after : List α} {a : α}
    {e : ε} (good : ∀ b ∈ before, ∃ c, f b = .ok c) (bad : f a = .error e) :
    (before ++ a :: after).mapM f = .error e := by
  induction before with
  | nil => rw [List.nil_append, List.mapM_cons, bad]; rfl
  | cons b before ih =>
    obtain ⟨c, hc⟩ := good b List.mem_cons_self
    rw [List.cons_append, List.mapM_cons, hc, ih fun b hb => good b (List.mem_cons_of_mem _ hb)]
    rfl

/-! ## Taking as long as it goes -/

section

variable {α : Type} {p : α → Bool} {w rest : List α}

theorem takeWhile_append_of_stop (all : ∀ c ∈ w, p c = true)
    (stop : ∀ c ∈ rest.head?, p c = false) : (w ++ rest).takeWhile p = w := by
  have none : rest.takeWhile p = [] := by
    cases rest with
    | nil => rfl
    | cons c rest => rw [List.takeWhile_cons, stop c rfl]; rfl
  rw [List.takeWhile_append_of_pos all, none, List.append_nil]

theorem dropWhile_append_of_stop (all : ∀ c ∈ w, p c = true)
    (stop : ∀ c ∈ rest.head?, p c = false) : (w ++ rest).dropWhile p = rest := by
  rw [List.dropWhile_append_of_pos all]
  cases rest with
  | nil => rfl
  | cons c rest => rw [List.dropWhile_cons, stop c rfl]; rfl

theorem takeWhile_append_of_none {cs : List α} (none : ∀ c ∈ w, p c = false) :
    (cs ++ w).takeWhile p = cs.takeWhile p := by
  induction cs with
  | nil =>
    have stop : ∀ c ∈ w.head?, p c = false := fun c hc => none c (List.mem_of_mem_head? hc)
    exact takeWhile_append_of_stop (List.forall_mem_nil _) stop
  | cons c cs ih => rw [List.cons_append, List.takeWhile_cons, List.takeWhile_cons, ih]

theorem dropWhile_append_of_none {cs : List α} (none : ∀ c ∈ w, p c = false) :
    (cs ++ w).dropWhile p = cs.dropWhile p ++ w := by
  induction cs with
  | nil =>
    have stop : ∀ c ∈ w.head?, p c = false := fun c hc => none c (List.mem_of_mem_head? hc)
    exact dropWhile_append_of_stop (List.forall_mem_nil _) stop
  | cons c cs ih =>
    rw [List.cons_append, List.dropWhile_cons, List.dropWhile_cons, ih]
    split <;> rfl

theorem eq_true_of_mem_takeWhile {cs : List α} {c : α} (h : c ∈ cs.takeWhile p) :
    p c = true :=
  List.all_eq_true.mp List.all_takeWhile c h

theorem eq_false_of_head_dropWhile {cs : List α} :
    ∀ c ∈ (cs.dropWhile p).head?, p c = false := by
  induction cs with
  | nil => simp
  | cons d cs ih =>
    rw [List.dropWhile_cons]
    cases hd : p d with
    | true => exact ih
    | false => simp [hd]

end

end SqlStore
