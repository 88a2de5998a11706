import Mathlib.Data.List.Perm.Subperm
import SqlStore.Proofs.Row

/-!
# Rows built one name at a time, and when two rows are the same

A row that is built from named values has every name once, where it is named first, with the value
under which it is named last. Two rows are compared from one side only: they have to be of one size,
and every field of the one has to be found in the other. As no name stands twice in a row, none is
left over on the other side then, so the comparison holds exactly if both rows have the same names
with the same values.
-/

namespace SqlStore

/-- Without repetitions a list keeps the order in which its items occur first. -/
theorem pairwise_idxOf_eraseDups {α : Type} [BEq α] [LawfulBEq α] (as : List α) :
    as.eraseDups.Pairwise fun a b => as.idxOf a < as.idxOf b := by
  induction as using List.reverseRecOn with
  | nil => exact List.Pairwise.nil
  | append_singleton as a ih =>
    have earlier : ∀ b ∈ as.eraseDups, (as ++ [a]).idxOf b = as.idxOf b := fun b hb =>
      List.idxOf_append_of_mem (List.mem_eraseDups.mp hb)
    have kept : as.eraseDups.Pairwise fun b c => (as ++ [a]).idxOf b < (as ++ [a]).idxOf c :=
      ih.imp_of_mem fun hb hc less => by rwa [earlier _ hb, earlier _ hc]
    by_cases there : a ∈ as
    · simpa [List.eraseDups_append, List.removeAll, there] using kept
    · have last : (as ++ [a]).idxOf a = as.length := by
        rw [List.idxOf_append_of_notMem there, List.idxOf_cons_self, Nat.add_zero]
      have names : (as ++ [a]).eraseDups = as.eraseDups ++ [a] := by
        simp [List.eraseDups_append, List.removeAll, there, List.eraseDups_cons]
      rw [names, List.pairwise_append]
      refine ⟨kept, List.pairwise_singleton _ a, fun b hb c hc => ?_⟩
      obtain rfl := List.mem_singleton.mp hc
      rw [earlier b hb, last]
      exact List.idxOf_lt_length_of_mem (List.mem_eraseDups.mp hb)

namespace Row

/-! ## Building a row -/

theorem mem_names_ofList (fs : List (String × Value)) (n : String) :
    n ∈ (ofList fs).names ↔ n ∈ fs.map Prod.fst := by
  rw [names_ofList, List.mem_eraseDups]

/-- A name has the value that no later one replaces. -/
theorem get?_ofList_eq_some_iff (fs : List (String × Value)) (n : String) (v : Value) :
    (ofList fs).get? n = some v ↔
      ∃ before after, fs = before ++ (n, v) :: after ∧ n ∉ after.map Prod.fst := by
  have free : ∀ after : List (String × Value),
      (∀ f ∈ after.reverse, (n != f.1) = true) ↔ n ∉ after.map Prod.fst := by
    intro after
    simp only [List.mem_reverse, bne_iff_ne, List.mem_map, not_exists, not_and]
    exact forall₂_congr fun f _ => ne_comm
  rw [get?_ofList, List.lookup_eq_some_iff]
  constructor
  · rintro ⟨after, before, cut, last⟩
    refine ⟨before.reverse, after.reverse, ?_, (free _).mp (by rwa [List.reverse_reverse])⟩
    rw [← List.reverse_reverse fs, cut]
    simp
  · rintro ⟨before, after, rfl, last⟩
    exact ⟨after.reverse, before.reverse, by simp, (free _).mpr last⟩

/-! ## Comparing two rows -/

section Same

variable {r s t : Row}

theorem same_iff_one_sided (r s : Row) :
    r.same s = true ↔
      r.size = s.size ∧ ∀ n v, r.get? n = some v → ∃ w, s.get? n = some w ∧ v.same w = true := by
  simp only [same, Bool.and_eq_true, beq_iff_eq, List.all_eq_true, Option.any_eq_true,
    get?_eq_some_iff, Prod.forall]

/-- Names of one row that are among those of another, and are as many, are all of them. -/
theorem perm_names_of_subset (sizes : r.size = s.size) (among : r.names ⊆ s.names) :
    r.names.Perm s.names := by
  have length (r : Row) : r.names.length = r.size := List.length_map _
  have nodup : r.names.Nodup := r.names_nodup
  refine (nodup.subperm among).perm_of_length_le (Nat.le_of_eq ?_)
  rw [length, length, sizes]

/-- Two rows are the same exactly if they have the same names with the same values. -/
theorem same_iff (r s : Row) :
    r.same s = true ↔
      (∀ n, n ∈ r.names ↔ n ∈ s.names) ∧ ∀ n ∈ r.names, (r.get n).same (s.get n) = true := by
  rw [same_iff_one_sided]
  constructor
  · rintro ⟨sizes, found⟩
    have among : r.names ⊆ s.names := fun n hn => by
      obtain ⟨v, hv⟩ := (r.mem_names_iff n).mp hn
      obtain ⟨w, hw, -⟩ := found n v hv
      exact (s.mem_names_iff n).mpr ⟨w, hw⟩
    refine ⟨fun n => (perm_names_of_subset sizes among).mem_iff, fun n hn => ?_⟩
    obtain ⟨v, hv⟩ := (r.mem_names_iff n).mp hn
    obtain ⟨w, hw, equal⟩ := found n v hv
    rwa [get_of_get? hv, get_of_get? hw]
  · rintro ⟨names, values⟩
    have perm := (List.perm_ext_iff_of_nodup r.names_nodup s.names_nodup).mpr names
    have sizes : r.size = s.size := by simpa [names, size] using perm.length_eq
    refine ⟨sizes, fun n v hv => ?_⟩
    have there : n ∈ r.names := (r.mem_names_iff n).mpr ⟨v, hv⟩
    obtain ⟨w, hw⟩ := (s.mem_names_iff n).mp ((names n).mp there)
    have equal := values n there
    rw [get_of_get? hv, get_of_get? hw] at equal
    exact ⟨w, hw, equal⟩

theorem same_equivalence : Equivalence fun r s : Row => r.same s = true where
  refl r := (same_iff r r).mpr ⟨fun _ => Iff.rfl, fun n _ => Value.same_refl (r.get n)⟩
  symm h := by
    obtain ⟨names, values⟩ := (same_iff _ _).mp h
    exact (same_iff _ _).mpr ⟨fun n => (names n).symm, fun n hn =>
      Value.same_symm (values n ((names n).mpr hn))⟩
  trans h k := by
    obtain ⟨names, values⟩ := (same_iff _ _).mp h
    obtain ⟨names', values'⟩ := (same_iff _ _).mp k
    exact (same_iff _ _).mpr ⟨fun n => (names n).trans (names' n), fun n hn =>
      Value.same_trans (values n hn) (values' n ((names n).mp hn))⟩

end Same

/-- The row that is built from named values one after another has the names that are given, each
once and in the order in which they are given first, and under each name the value that is given
last. Of all rows, those with the same names and the same values under them are the same, in
whatever order their fields stand, and no others are; this is an equivalence. -/
theorem ofList_ordered_and_same_equivalence :
    (∀ fs : List (String × Value),
      let order := fs.map Prod.fst
      (ofList fs).names.Nodup ∧
      (∀ n, n ∈ (ofList fs).names ↔ n ∈ order) ∧
      ((ofList fs).names.Pairwise fun m n => order.idxOf m < order.idxOf n) ∧
      ∀ n v, (ofList fs).get? n = some v ↔
        ∃ before after, fs = before ++ (n, v) :: after ∧ n ∉ after.map Prod.fst) ∧
    (Equivalence fun r s : Row => r.same s = true) ∧
    ∀ r s : Row, r.same s = true ↔
      (∀ n, n ∈ r.names ↔ n ∈ s.names) ∧ ∀ n ∈ r.names, (r.get n).same (s.get n) = true := by
  refine ⟨fun fs => ⟨(ofList fs).names_nodup, mem_names_ofList fs, ?_, get?_ofList_eq_some_iff fs⟩,
    same_equivalence, same_iff⟩
  rw [names_ofList]
  exact pairwise_idxOf_eraseDups _

/-- Neither the order of the fields nor the sign of a zero tells two rows apart. -/
example :
    (ofList [("a", .int 1), ("b", .float ⟨0⟩), ("a", .null)]).same
      (ofList [("b", .float ⟨0x8000000000000000⟩), ("a", .null)]) = true := by
  decide

end Row

end SqlStore
