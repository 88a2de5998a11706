import SqlStore.Fault

/-!
# Procedures

A procedure does something to a state step by step, and what it has written stands also when a
later step refuses. One that makes all its checks before it writes does the same as a function
that answers with the whole new state or refuses.
-/

namespace SqlStore

/-- Something done to a state step by step. What is written stands when a later step refuses. -/
abbrev Procedure (σ α : Type) : Type :=
  ExceptT Fault (StateM σ) α

namespace Procedure

variable {σ α β : Type}

def exec (p : Procedure σ α) (s : σ) : Except Fault α × σ :=
  p.run.run s

def look (f : σ → α) : Procedure σ α :=
  ExceptT.mk fun s => (.ok (f s), s)

/-- Looks at the state and may refuse. -/
def check (f : σ → Except Fault α) : Procedure σ α :=
  ExceptT.mk fun s => (f s, s)

def write (f : σ → σ) : Procedure σ Unit :=
  ExceptT.mk fun s => (.ok (), f s)

/-- Does all that the function says, or refuses and does nothing. -/
def atOnce (f : σ → Except Fault σ) : Procedure σ Unit :=
  ExceptT.mk fun s =>
    match f s with
    | .ok after => (.ok (), after)
    | .error e => (.error e, s)

@[simp] theorem exec_pure (a : α) (s : σ) : exec (pure a) s = (.ok a, s) :=
  rfl

@[simp] theorem exec_check (f : σ → Except Fault α) (s : σ) : exec (check f) s = (f s, s) :=
  rfl

@[simp] theorem exec_write (f : σ → σ) (s : σ) : exec (write f) s = (.ok (), f s) :=
  rfl

theorem exec_atOnce (f : σ → Except Fault σ) (s : σ) :
    exec (atOnce f) s =
      match f s with
      | .ok after => (.ok (), after)
      | .error e => (.error e, s) :=
  rfl

theorem exec_bind (p : Procedure σ α) (q : α → Procedure σ β) (s : σ) :
    exec (p >>= q) s =
      match exec p s with
      | (.ok a, after) => exec (q a) after
      | (.error e, after) => (.error e, after) := by
  simp only [exec, ExceptT.run_bind, StateT.run_bind]
  rcases h : StateT.run (ExceptT.run p) s with ⟨a | e, after⟩ <;> simp <;> rfl

@[simp] theorem exec_write_bind (f : σ → σ) (q : Unit → Procedure σ β) (s : σ) :
    exec (write f >>= q) s = exec (q ()) (f s) :=
  rfl

@[simp] theorem exec_look_bind (f : σ → α) (q : α → Procedure σ β) (s : σ) :
    exec (look f >>= q) s = exec (q (f s)) s :=
  rfl

theorem ext {p q : Procedure σ α} (h : ∀ s, exec p s = exec q s) : p = q :=
  funext h

/-- After a check that succeeds the state is the one before. -/
theorem exec_check_bind_congr {f : σ → Except Fault α} {p q : α → Procedure σ β} {s : σ}
    (h : ∀ a, f s = .ok a → exec (p a) s = exec (q a) s) :
    exec (check f >>= p) s = exec (check f >>= q) s := by
  rw [exec_bind, exec_bind, exec_check]
  cases hf : f s with
  | ok a => exact h a hf
  | error e => rfl

/-- A check before a change that is made at once is part of it. -/
theorem check_bind_atOnce (f : σ → Except Fault α) (g : α → σ → Except Fault σ) :
    (check f >>= fun a => atOnce (g a)) = atOnce fun s => f s >>= fun a => g a s := by
  apply ext
  intro s
  rw [exec_bind, exec_check, exec_atOnce]
  cases f s <;> rfl

/-- Checks of the items of a list one after another are one check of the list. -/
theorem mapM_check {ι : Type} (f : σ → ι → Except Fault α) (is : List ι) :
    (is.mapM fun i => check (f · i)) = check fun s => is.mapM (f s) := by
  apply ext
  intro s
  induction is with
  | nil => rfl
  | cons i is ih =>
    rw [exec_check] at ih ⊢
    rw [List.mapM_cons, List.mapM_cons, exec_bind, exec_check]
    cases f s i with
    | error e => rfl
    | ok a =>
      simp only [exec_bind, ih]
      cases is.mapM (f s) <;> rfl

/-- Writes for the items of a list one after another. -/
theorem exec_forM_write {ι : Type} (f : ι → σ → σ) (is : List ι) (s : σ) :
    exec (is.forM fun i => write (f i)) s = (.ok (), is.foldl (fun s i => f i s) s) := by
  induction is generalizing s with
  | nil => rfl
  | cons i is ih => exact ih (f i s)

end Procedure

end SqlStore
