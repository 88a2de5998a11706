import Mathlib.Data.List.Nodup
import SqlStore.Proofs.Row

/-!
# What merging two rows keeps

A right field whose name is taken when its turn comes goes under a qualified name, whether or not
that one is free. `lookup_merge` says what each name of the merged row holds in any case. Nothing is
lost exactly when no qualified name is met on the left or earlier on the right.
-/

namespace SqlStore

theorem pair_sublist_concat {α : Type} {a b c : α} {l : List α} :
    [a, b].Sublist (l ++ [c]) ↔ [a, b].Sublist l ∨ a ∈ l ∧ b = c := by
  have single : [a, b] = [a] ++ [b] := rfl
  constructor
  · intro h
    obtain ⟨front, back, parts, hfront, hback⟩ := List.sublist_append_iff.mp h
    rcases List.sublist_singleton.mp hback with rfl | rfl
    · exact Or.inl (by rw [parts, List.append_nil]; exact hfront)
    · rw [single] at parts
      obtain ⟨rfl, same⟩ := List.append_inj' parts rfl
      exact Or.inr ⟨List.singleton_sublist.mp hfront, List.singleton_inj.mp same⟩
  · rintro (h | ⟨ha, rfl⟩)
    · exact h.trans (List.sublist_append_left l [c])
    · exact (List.singleton_sublist.mpr ha).append (List.Sublist.refl [b])

/-- Of two members of a list one stands before the other. -/
theorem pair_sublist_or {α : Type} {a b : α} {l : List α} (ha : a ∈ l) (hb : b ∈ l)
    (differ : a ≠ b) : [a, b].Sublist l ∨ [b, a].Sublist l := by
  induction l with
  | nil => cases ha
  | cons c l ih =>
    rcases List.mem_cons.mp ha with rfl | ha'
    · rcases List.mem_cons.mp hb with rfl | hb'
      · exact absurd rfl differ
      · exact Or.inl ((List.singleton_sublist.mpr hb').cons_cons a)
    · rcases List.mem_cons.mp hb with rfl | hb'
      · exact Or.inr ((List.singleton_sublist.mpr ha').cons_cons b)
      · exact (ih ha' hb').imp (·.cons c) (·.cons c)

namespace Row

/-! ## Displaced names -/

/-- The name that a field of a table is given when its own is taken. -/
def qualified (table name : String) : String :=
  table ++ "_" ++ name

theorem qualified_inj {table m n : String} (h : qualified table m = qualified table n) : m = n := by
  have texts := congrArg String.toList h
  simp only [qualified, String.toList_append] at texts
  exact String.toList_injective (List.append_cancel_left texts)

/-- A name on the right that is taken when its turn comes: it stands on the left, or it is the
qualified name of such a name before it. -/
inductive Displaced (left : List String) (table : String) (right : List String) : String → Prop
  | byLeft {n : String} (there : n ∈ left) (own : n ∈ right) : Displaced left table right n
  | byEarlier {m : String} (earlier : Displaced left table right m)
      (order : [m, qualified table m].Sublist right) :
      Displaced left table right (qualified table m)

/-- The qualified name of a displaced name is met neither on the left nor earlier on the right. -/
def Unmet (left : List String) (table : String) (right : List String) (m : String) : Prop :=
  qualified table m ∉ left ∧ ¬ [qualified table m, m].Sublist right

/-- A name that comes after those on the right is taken by the left or by a displaced name. -/
def Taken (left : List String) (table : String) (right : List String) (n : String) : Prop :=
  n ∈ left ∨ ∃ m, Displaced left table right m ∧ qualified table m = n

section Displaced

variable {left right : List String} {table m n : String}

theorem Displaced.mem (h : Displaced left table right n) : n ∈ right := by
  cases h with
  | byLeft _ own => exact own
  | byEarlier _ order => exact order.subset (by simp)

theorem Displaced.concat (h : Displaced left table right m) :
    Displaced left table (right ++ [n]) m := by
  induction h with
  | byLeft there own => exact .byLeft there (List.mem_append_left _ own)
  | byEarlier _ order ih => exact .byEarlier ih (order.trans (List.sublist_append_left _ _))

/-- The last name is displaced if it is taken, and changes nothing for those before it. -/
theorem displaced_concat_iff (fresh : n ∉ right) :
    Displaced left table (right ++ [n]) m ↔
      Displaced left table right m ∨ m = n ∧ Taken left table right n := by
  constructor
  · intro h
    induction h with
    | @byLeft n' there own =>
      rcases List.mem_append.mp own with own | own
      · exact Or.inl (.byLeft there own)
      · obtain rfl := List.mem_singleton.mp own
        exact Or.inr ⟨rfl, Or.inl there⟩
    | @byEarlier k _ order ih =>
      have before : k ∈ right := by
        rcases pair_sublist_concat.mp order with order | ⟨hk, -⟩
        · exact order.subset (by simp)
        · exact hk
      have earlier : Displaced left table right k := by
        rcases ih with earlier | ⟨rfl, -⟩
        · exact earlier
        · exact absurd before fresh
      rcases pair_sublist_concat.mp order with order | ⟨-, last⟩
      · exact Or.inl (.byEarlier earlier order)
      · exact Or.inr ⟨last, Or.inr ⟨k, earlier, last⟩⟩
  · rintro (h | ⟨rfl, there | ⟨k, earlier, rfl⟩⟩)
    · exact h.concat
    · exact .byLeft there (by simp)
    · exact .byEarlier earlier.concat (pair_sublist_concat.mpr (Or.inr ⟨earlier.mem, rfl⟩))

theorem unmet_concat_iff_of_mem (fresh : n ∉ right) (hm : m ∈ right) :
    Unmet left table (right ++ [n]) m ↔ Unmet left table right m := by
  have apart : m ≠ n := fun h => fresh (h ▸ hm)
  simp [Unmet, pair_sublist_concat, apart]

theorem unmet_concat_self_iff (fresh : n ∉ right) :
    Unmet left table (right ++ [n]) n ↔ qualified table n ∉ left ∧ qualified table n ∉ right := by
  have never : ¬ [qualified table n, n].Sublist right := fun h => fresh (h.subset (by simp))
  simp [Unmet, pair_sublist_concat, never]

theorem forall_unmet_concat_iff_of_taken (fresh : n ∉ right) (taken : Taken left table right n) :
    (∀ m, Displaced left table (right ++ [n]) m → Unmet left table (right ++ [n]) m) ↔
      (∀ m, Displaced left table right m → Unmet left table right m) ∧
        qualified table n ∉ left ∧ qualified table n ∉ right := by
  rw [← unmet_concat_self_iff fresh]
  constructor
  · intro h
    refine ⟨fun m hm => ?_, h n ((displaced_concat_iff fresh).mpr (Or.inr ⟨rfl, taken⟩))⟩
    exact (unmet_concat_iff_of_mem fresh hm.mem).mp (h m hm.concat)
  · rintro ⟨earlier, last⟩ m hm
    rcases (displaced_concat_iff fresh).mp hm with hm | ⟨rfl, -⟩
    · exact (unmet_concat_iff_of_mem fresh hm.mem).mpr (earlier m hm)
    · exact last

theorem forall_unmet_concat_iff_of_not_taken (fresh : n ∉ right)
    (free : ¬ Taken left table right n) :
    (∀ m, Displaced left table (right ++ [n]) m → Unmet left table (right ++ [n]) m) ↔
      ∀ m, Displaced left table right m → Unmet left table right m := by
  have same (m : String) :
      Displaced left table (right ++ [n]) m ↔ Displaced left table right m :=
    (displaced_concat_iff fresh).trans (or_iff_left fun h => free h.2)
  simp only [same]
  exact forall₂_congr fun m hm => unmet_concat_iff_of_mem fresh hm.mem

end Displaced

/-! ## Putting fields in one by one -/

/-- A row is built from its fields in order, each new to those before it. -/
theorem induction_on_insert {motive : Row → Prop} (empty : motive Row.empty)
    (insert : ∀ r n v, n ∉ r.names → motive r → motive (r.insert n v)) (r : Row) : motive r := by
  obtain ⟨fs, nodup⟩ := r
  induction fs using List.reverseRecOn with
  | nil => exact empty
  | append_singleton fs f ih =>
    have parts := nodup
    rw [List.map_append, List.nodup_append] at parts
    have fresh : f.1 ∉ fs.map Prod.fst := fun h => parts.2.2 f.1 h f.1 (by simp) rfl
    have built : (⟨fs ++ [f], nodup⟩ : Row) = (⟨fs, parts.1⟩ : Row).insert f.1 f.2 :=
      ext (setField_eq_append fresh f.2).symm
    rw [built]
    exact insert _ _ _ fresh (ih parts.1)

theorem names_insert_of_notMem {r : Row} {n : String} (fresh : n ∉ r.names) (v : Value) :
    (r.insert n v).names = r.names ++ [n] := by
  rw [names_insert, if_neg (fun h => fresh ((r.contains_iff n).mp h))]

theorem get?_eq_none_iff (r : Row) (n : String) : r.get? n = none ↔ n ∉ r.names := by
  rw [mem_names_iff, not_exists, Option.eq_none_iff_forall_ne_some]

theorem merge_empty (left : Row) (table : String) : left.merge Row.empty table = left :=
  rfl

theorem merge_insert (left : Row) (table : String) {right : Row} {n : String}
    (fresh : n ∉ right.names) (v : Value) :
    left.merge (right.insert n v) table =
      (left.merge right table).insert
        (if (left.merge right table).contains n then qualified table n else n) v := by
  have fields : (right.insert n v).fields = right.fields ++ [(n, v)] := setField_eq_append fresh v
  rw [merge, fields, List.foldl_append]
  rfl

/-! ## The values of a merged row -/

section Values

variable (left right : Row) (table : String)

/-- What a lookup finds in a merged row: under the qualified name of a displaced field its value,
and under every other name the value on the left or, where there is none, the one on the right. -/
structure Lookup (merged : Row) (x : String) : Prop where
  given : ∀ m, Displaced left.names table right.names m → qualified table m = x →
    merged.get? x = right.get? m
  other : (∀ m, Displaced left.names table right.names m → qualified table m ≠ x) →
    merged.get? x = (left.get? x).or (right.get? x)

variable {left right table}

section Step

variable {merged : Row} {n x : String} (fresh : n ∉ right.names)

include fresh

theorem Lookup.mem_names_iff (law : Lookup left right table merged n) :
    n ∈ merged.names ↔ Taken left.names table right.names n := by
  by_cases given : ∃ m, Displaced left.names table right.names m ∧ qualified table m = n
  · obtain ⟨m, displaced, same⟩ := given
    have found : merged.get? n = right.get? m := law.given m displaced same
    obtain ⟨v, hv⟩ := (right.mem_names_iff m).mp displaced.mem
    have there : n ∈ merged.names := (merged.mem_names_iff n).mpr ⟨v, found.trans hv⟩
    exact iff_of_true there (Or.inr ⟨m, displaced, same⟩)
  · have absent : right.get? n = none := (right.get?_eq_none_iff n).mpr fresh
    have found : merged.get? n = left.get? n := by
      rw [law.other fun m displaced same => given ⟨m, displaced, same⟩, absent, Option.or_none]
    rw [Row.mem_names_iff, found, ← Row.mem_names_iff]
    exact ⟨Or.inl, fun h => h.resolve_right given⟩

/-- The name of the field is displaced now, and its qualified name holds the value. -/
theorem Lookup.insert_of_taken (law : Lookup left right table merged x)
    (taken : Taken left.names table right.names n) (v : Value) :
    Lookup left (right.insert n v) table (merged.insert (qualified table n) v) x := by
  have grown := names_insert_of_notMem fresh v
  constructor
  · intro m hm same
    rw [grown, displaced_concat_iff fresh] at hm
    rcases hm with hm | ⟨rfl, -⟩
    · have apart : m ≠ n := fun h => fresh (h ▸ hm.mem)
      have other : x ≠ qualified table n := fun h => apart (qualified_inj (same.trans h))
      rw [get?_insert, if_neg other, get?_insert, if_neg apart, law.given m hm same]
    · rw [get?_insert, if_pos same.symm, get?_insert, if_pos rfl]
  · intro free
    rw [grown] at free
    have other : x ≠ qualified table n := fun h =>
      free n ((displaced_concat_iff fresh).mpr (Or.inr ⟨rfl, taken⟩)) h.symm
    have before : ∀ m, Displaced left.names table right.names m → qualified table m ≠ x :=
      fun m hm => free m hm.concat
    rw [get?_insert, if_neg other, law.other before, get?_insert]
    split
    · next h =>
      subst h
      -- a taken name that is no qualified one stands on the left
      rcases taken with there | ⟨m, hm, same⟩
      · obtain ⟨w, hw⟩ := (left.mem_names_iff x).mp there
        rw [hw, Option.some_or, Option.some_or]
      · exact absurd same (before m hm)
    · rfl

/-- The field has its own name, and no other name is displaced than before. -/
theorem Lookup.insert_of_not_taken (law : Lookup left right table merged x)
    (free : ¬ Taken left.names table right.names n) (v : Value) :
    Lookup left (right.insert n v) table (merged.insert n v) x := by
  have grown := names_insert_of_notMem fresh v
  obtain ⟨absent, ungiven⟩ := not_or.mp free
  constructor
  · intro m hm same
    rw [grown, displaced_concat_iff fresh] at hm
    rcases hm with hm | ⟨-, taken⟩
    · have apart : m ≠ n := fun h => fresh (h ▸ hm.mem)
      have other : x ≠ n := fun h => ungiven ⟨m, hm, same.trans h⟩
      rw [get?_insert, if_neg other, get?_insert, if_neg apart, law.given m hm same]
    · exact absurd taken free
  · intro none
    rw [grown] at none
    have before : ∀ m, Displaced left.names table right.names m → qualified table m ≠ x :=
      fun m hm => none m hm.concat
    rw [get?_insert, get?_insert]
    split
    · next h => rw [h, (left.get?_eq_none_iff n).mpr absent, Option.none_or]
    · exact law.other before

end Step

theorem lookup_merge (left right : Row) (table x : String) :
    Lookup left right table (left.merge right table) x := by
  induction right using induction_on_insert generalizing x with
  | empty =>
    constructor
    · exact fun m displaced _ => absurd displaced.mem List.not_mem_nil
    · intro _
      rw [merge_empty, get?_empty, Option.or_none]
  | insert right n v fresh ih =>
    have taken := (ih n).mem_names_iff fresh
    rw [← contains_iff] at taken
    rw [merge_insert left table fresh v]
    split
    · next there => exact (ih x).insert_of_taken fresh (taken.mp there) v
    · next absent => exact (ih x).insert_of_not_taken fresh (fun h => absent (taken.mpr h)) v

end Values

/-! ## Nothing is lost -/

section Lossless

variable {left right : Row} {table : String}

theorem size_insert (r : Row) (n : String) (v : Value) :
    (r.insert n v).size = if n ∈ r.names then r.size else r.size + 1 := by
  have count : ∀ s : Row, s.size = s.names.length := fun s => (List.length_map Prod.fst).symm
  have taken := r.contains_iff n
  rw [count, count, names_insert]
  by_cases h : n ∈ r.names
  · rw [if_pos (taken.mpr h), if_pos h]
  · rw [if_neg (fun c => h (taken.mp c)), if_neg h, List.length_append]
    rfl

/-- The qualified name of a field that is about to be put in is not given to another one, so it is
taken only by a name on the left or on the right. -/
theorem qualified_mem_names_merge_iff {n : String} (fresh : n ∉ right.names) :
    qualified table n ∈ (left.merge right table).names ↔
      qualified table n ∈ left.names ∨ qualified table n ∈ right.names := by
  have free : ∀ m, Displaced left.names table right.names m →
      qualified table m ≠ qualified table n :=
    fun m displaced same => fresh (qualified_inj same ▸ displaced.mem)
  have found := (lookup_merge left right table (qualified table n)).other free
  have absent := (left.merge right table).get?_eq_none_iff (qualified table n)
  rw [found, Option.or_eq_none_iff, get?_eq_none_iff, get?_eq_none_iff] at absent
  rw [← not_iff_not, ← absent, not_or]

/-- Every field that meets its qualified name costs a place in the merged row. -/
theorem size_merge (left right : Row) (table : String) :
    (left.merge right table).size ≤ left.size + right.size ∧
      ((left.merge right table).size = left.size + right.size ↔
        ∀ m, Displaced left.names table right.names m → Unmet left.names table right.names m) := by
  induction right using induction_on_insert with
  | empty =>
    have none : ∀ m, ¬ Displaced left.names table Row.empty.names m :=
      fun m displaced => absurd displaced.mem List.not_mem_nil
    refine ⟨Nat.le_refl _, iff_of_true rfl fun m displaced => absurd displaced (none m)⟩
  | insert right n v fresh ih =>
    obtain ⟨bound, exact⟩ := ih
    have taken := (lookup_merge left right table n).mem_names_iff fresh
    rw [merge_insert left table fresh v, size_insert, size_insert, if_neg fresh,
      names_insert_of_notMem fresh v]
    by_cases there : n ∈ (left.merge right table).names
    · rw [if_pos ((contains_iff _ n).mpr there),
        forall_unmet_concat_iff_of_taken fresh (taken.mp there), ← exact, ← not_or,
        ← qualified_mem_names_merge_iff fresh]
      by_cases met : qualified table n ∈ (left.merge right table).names
      · rw [if_pos met]
        exact ⟨by omega, iff_of_false (by omega) fun h => h.2 met⟩
      · rw [if_neg met]
        refine ⟨by omega, fun h => ⟨by omega, met⟩, fun h => ?_⟩
        have := h.1
        omega
    · rw [if_neg (fun h => there ((contains_iff _ n).mp h)), if_neg there,
        forall_unmet_concat_iff_of_not_taken fresh (fun h => there (taken.mpr h)), ← exact]
      omega

/-- The merged row has every field of both rows: those on the left under their own names, those on
the right under their own or their qualified names, and each in a place of its own. -/
structure Lossless (left right : Row) (table : String) : Prop where
  left_kept : ∀ n v, left.get? n = some v → (left.merge right table).get? n = some v
  right_kept : ∀ n v, right.get? n = some v → (left.merge right table).get? n = some v ∨
    (left.merge right table).get? (qualified table n) = some v
  size_eq : (left.merge right table).size = left.size + right.size

theorem lossless_of_unmet
    (unmet : ∀ m, Displaced left.names table right.names m →
      Unmet left.names table right.names m) : Lossless left right table := by
  constructor
  · intro n v hv
    have free : ∀ m, Displaced left.names table right.names m → qualified table m ≠ n := by
      intro m displaced same
      refine (unmet m displaced).1 ?_
      rw [same]
      exact (left.mem_names_iff n).mpr ⟨v, hv⟩
    rw [(lookup_merge left right table n).other free, hv, Option.some_or]
  · intro n v hv
    have own : n ∈ right.names := (right.mem_names_iff n).mpr ⟨v, hv⟩
    by_cases displaced : Displaced left.names table right.names n
    · exact Or.inr (((lookup_merge left right table _).given n displaced rfl).trans hv)
    · left
      have absent : left.get? n = none :=
        (left.get?_eq_none_iff n).mpr fun there => displaced (.byLeft there own)
      have free : ∀ m, Displaced left.names table right.names m → qualified table m ≠ n := by
        rintro m earlier rfl
        have differ : m ≠ qualified table m := fun h => displaced (h ▸ earlier)
        rcases pair_sublist_or earlier.mem own differ with order | order
        · exact displaced (.byEarlier earlier order)
        · exact (unmet m earlier).2 order
      rw [(lookup_merge left right table n).other free, absent, Option.none_or, hv]
  · exact (size_merge left right table).2.mpr unmet

/-- In a merged row the qualified names of displaced fields have these fields' values, and every
other name has its value on the left or else the one on the right. Nothing is lost exactly when no
qualified name of a displaced field is met, on the left or earlier on the right. -/
theorem lossless_iff_unmet (left right : Row) (table : String) :
    (∀ x, Lookup left right table (left.merge right table) x) ∧
      (left.merge right table).size ≤ left.size + right.size ∧
      (Lossless left right table ↔
        ∀ m, Displaced left.names table right.names m →
          Unmet left.names table right.names m) := by
  refine ⟨lookup_merge left right table, (size_merge left right table).1, ?_⟩
  exact ⟨fun lossless => (size_merge left right table).2.mp lossless.size_eq, lossless_of_unmet⟩

/-- A qualified name replaces the value of a right field that has this name, and of a left one. -/
theorem merge_loses :
    let one := ofList [("a", .int 1)]
    let other := ofList [("t_a", .int 2), ("a", .int 3)]
    let left := ofList [("a", .int 1), ("t_a", .int 2)]
    let right := ofList [("a", .int 3)]
    (one.merge other "t").fields = [("a", .int 1), ("t_a", .int 3)] ∧ ¬ Lossless one other "t" ∧
      (left.merge right "t").fields = [("a", .int 1), ("t_a", .int 3)] ∧
      ¬ Lossless left right "t" := by
  intro one other left right
  refine ⟨by decide, fun lossless => ?_, by decide, fun lossless => ?_⟩
  · rcases lossless.right_kept "t_a" (.int 2) (by decide) with kept | kept <;> revert kept <;>
      decide
  · have kept := lossless.left_kept "t_a" (.int 2) (by decide)
    revert kept
    decide

end Lossless

end Row

end SqlStore
