import SqlStore.Proofs.Basic
import SqlStore.Text.Blank
import SqlStore.Text.Upper

/-!
# Runs, trimmed texts and lowercase forms

Where the runs of a text begin and end, and what trimming takes away: blanks at both ends and
nothing else. A word is among the casings of its lowercase form.
-/

namespace SqlStore.Text

section Runs

variable {p : Char → Bool} {w rest : List Char}

/-- A run ends where the condition fails, or with the text. -/
theorem runs_append_of_stop (ne : w ≠ []) (all : ∀ c ∈ w, p c = true)
    (stop : ∀ c ∈ rest.head?, p c = false) : runs p (w ++ rest) = w :: runs p rest := by
  induction w with
  | nil => exact absurd rfl ne
  | cons c w ih =>
    have hc := all c List.mem_cons_self
    rw [List.cons_append, runs, if_pos hc]
    cases w with
    | nil =>
      have ends : rest.head?.any p = false := by
        cases rest with
        | nil => rfl
        | cons d rest => exact stop d rfl
      rw [List.nil_append, ends]
    | cons d w =>
      have goesOn : ((d :: w ++ rest).head?.any p) = true := all d (by simp)
      rw [ih (List.cons_ne_nil _ _) fun c hc => all c (List.mem_cons_of_mem _ hc), goesOn]

theorem runs_append_of_none_left (none : ∀ c ∈ w, p c = false) (cs : List Char) :
    runs p (w ++ cs) = runs p cs := by
  induction w with
  | nil => rfl
  | cons c w ih =>
    rw [List.cons_append, runs, none c List.mem_cons_self]
    exact ih fun c hc => none c (List.mem_cons_of_mem _ hc)

theorem runs_append_of_none_right (cs : List Char) (none : ∀ c ∈ w, p c = false) :
    runs p (cs ++ w) = runs p cs := by
  induction cs with
  | nil => simpa [runs] using runs_append_of_none_left none []
  | cons c cs ih =>
    have next : (cs ++ w).head?.any p = cs.head?.any p := by
      cases cs with
      | cons d cs => rfl
      | nil =>
        cases w with
        | nil => rfl
        | cons d w => exact none d List.mem_cons_self
    rw [List.cons_append, runs, runs, ih, next]

/-- A text that does not end in a run has no run to drop there. -/
theorem dropEndWhile_eq_self (last : ∀ c ∈ w.getLast?, p c = false) : dropEndWhile p w = w := by
  obtain ⟨dropped, hw, all⟩ := exists_dropEndWhile_append p w
  by_cases h : dropped = []
  · rw [h, List.append_nil] at hw
    exact hw.symm
  · have ends : dropped.getLast h ∈ w.getLast? := by
      rw [hw, List.getLast?_append_of_ne_nil _ h, List.getLast?_eq_getLast_of_ne_nil h]
      rfl
    have := all _ (List.getLast_mem h)
    rw [last _ ends] at this
    cases this

end Runs

section

variable {w : List Char} (blank : ∀ c ∈ w, isBlank c = true) (cs : List Char)

include blank

theorem trimStart_blank_append : trimStart (w ++ cs) = trimStart cs :=
  List.dropWhile_append_of_pos blank

/-- Blanks behind a text stay behind it, unless there is nothing else. -/
theorem trimStart_append :
    trimStart (cs ++ w) = if trimStart cs = [] then [] else trimStart cs ++ w := by
  have none : w.dropWhile isBlank = [] := (trimStart_eq_nil_iff w).mpr blank
  rw [trimStart, trimStart, List.dropWhile_append, none]
  cases cs.dropWhile isBlank <;> rfl

end

/-- A text is its trimmed form with blanks in front and behind. -/
theorem exists_trim (s : String) :
    ∃ lead trail : List Char, (∀ c ∈ lead, isBlank c = true) ∧ (∀ c ∈ trail, isBlank c = true) ∧
      s.toList = lead ++ ((trim s).toList ++ trail) := by
  obtain ⟨trail, htrail, all⟩ := exists_dropEndWhile_append isBlank (trimStart s.toList)
  refine ⟨s.toList.takeWhile isBlank, trail, fun c => eq_true_of_mem_takeWhile, all, ?_⟩
  rw [trim, String.toList_ofList, trimEnd, ← htrail, trimStart, List.takeWhile_append_dropWhile]

theorem trim_eq_empty {s : String} (blank : isAllBlank s = true) : trim s = "" := by
  have none : trimStart s.toList = [] :=
    (trimStart_eq_nil_iff s.toList).mpr (List.all_eq_true.mp blank)
  rw [trim, none]
  rfl

theorem trim_eq_self {s : String} (first : ∀ c ∈ s.toList.head?, isBlank c = false)
    (last : ∀ c ∈ s.toList.getLast?, isBlank c = false) : trim s = s := by
  have start : trimStart s.toList = s.toList := dropWhile_append_of_stop (w := []) (by simp) first
  rw [trim, start, trimEnd, dropEndWhile_eq_self last, String.ofList_toList]

/-- The words with these letters, each as it stands or in uppercase. -/
def casings : List Char → List (List Char)
  | [] => [[]]
  | c :: cs => (casings cs).flatMap fun w => [c :: w, c.toUpper :: w]

/-- A character is the lowercase letter that stands for it, or that letter in uppercase. -/
theorem eq_or_eq_toUpper_toLower (c : Char) : c = c.toLower ∨ c = c.toLower.toUpper := by
  have ascii : ∀ n < 128, Char.ofNat n = (Char.ofNat n).toLower ∨
      Char.ofNat n = (Char.ofNat n).toLower.toUpper := by decide +kernel
  by_cases small : c.toNat < 128
  · have := ascii c.toNat small
    rwa [Char.ofNat_toNat] at this
  · have upper : ¬ (c.val ≥ 'A'.val ∧ c.val ≤ 'Z'.val) := by
      intro h
      refine small (Nat.lt_of_le_of_lt (UInt32.le_iff_toNat_le.mp h.2) (by decide))
    have same : c.toLower = c := dif_neg upper
    exact Or.inl same.symm

/-- Every word is its lowercase form in some casing. -/
theorem mem_casings (w : List Char) : w ∈ casings (Text.lower w) := by
  induction w with
  | nil => exact List.mem_singleton.mpr rfl
  | cons c w ih =>
    refine List.mem_flatMap.mpr ⟨w, ih, ?_⟩
    rcases eq_or_eq_toUpper_toLower c with h | h
    · exact List.mem_cons.mpr (Or.inl (congrArg (· :: w) h))
    · exact List.mem_cons_of_mem _ (List.mem_singleton.mpr (congrArg (· :: w) h))

end SqlStore.Text
