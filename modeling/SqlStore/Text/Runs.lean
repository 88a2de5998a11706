/-!
# Runs

The maximal stretches of a text whose characters all satisfy a condition: the words between
blanks, the words that a statement opens with, the run at the end of a text.
-/

namespace SqlStore.Text

/-- The maximal runs of characters satisfying `p`, in order. -/
def runs (p : Char → Bool) : List Char → List (List Char)
  | [] => []
  | c :: cs =>
    if p c then
      match cs.head?.any p, runs p cs with
      | true, r :: rs => (c :: r) :: rs
      | _, rs => [c] :: rs
    else runs p cs

/-- The text without the run of characters satisfying `p` at its end. -/
def dropEndWhile (p : Char → Bool) : List Char → List Char
  | [] => []
  | c :: cs =>
    match dropEndWhile p cs with
    | [] => if p c then [] else [c]
    | d :: ds => c :: d :: ds

/-- Nothing but characters satisfying `p` is dropped. -/
theorem exists_dropEndWhile_append (p : Char → Bool) (cs : List Char) :
    ∃ w, cs = dropEndWhile p cs ++ w ∧ ∀ c ∈ w, p c = true := by
  induction cs with
  | nil => exact ⟨[], rfl, by simp⟩
  | cons c cs ih =>
    obtain ⟨w, hw, hall⟩ := ih
    rw [dropEndWhile]
    split
    · next h =>
      rw [h] at hw
      by_cases hc : p c = true
      · refine ⟨c :: w, by simpa [hc] using hw, ?_⟩
        intro d hd
        rcases List.mem_cons.mp hd with rfl | hd
        · exact hc
        · exact hall d hd
      · exact ⟨w, by simpa [hc] using hw, hall⟩
    · next d ds h =>
      exact ⟨w, by rw [h] at hw; simp [← hw], hall⟩

end SqlStore.Text
