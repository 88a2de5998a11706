import Mathlib.Data.List.Induction
import SqlStore.Row

/-!
# Rows as maps

What a lookup finds in a row, and what inserting a list of named values does to every lookup. A
list in which no name stands twice is built into the row with exactly these fields. Which names the
row has that results from other rows depends on their names alone.
-/

namespace SqlStore

/-- In a list without repeated names a lookup finds exactly what stands in the list. -/
theorem lookup_eq_some_iff {fs : List (String × Value)} (nodup : (fs.map Prod.fst).Nodup)
    (name : String) (v : Value) :
    (fs.find? fun f => f.1 == name).map Prod.snd = some v ↔ (name, v) ∈ fs := by
  induction fs with
  | nil => simp
  | cons f fs ih =>
    rw [List.map_cons, List.nodup_cons] at nodup
    obtain ⟨fresh, nodup⟩ := nodup
    by_cases h : f.1 = name
    · subst h
      have absent : (f.1, v) ∉ fs := fun hm => fresh (List.mem_map.mpr ⟨_, hm, rfl⟩)
      simp only [List.find?_cons, beq_self_eq_true, Option.map_some, Option.some.injEq,
        List.mem_cons, absent, or_false]
      exact ⟨fun hv => by rw [← hv], fun hf => congrArg Prod.snd hf.symm⟩
    · have other : (name, v) ≠ f := fun hf => h (congrArg Prod.fst hf).symm
      simp only [List.find?_cons, beq_eq_false_iff_ne.mpr h, List.mem_cons, other, false_or]
      exact ih nodup

theorem find?_name_eq_none_iff {fs : List (String × Value)} {name : String} :
    (fs.find? fun f => f.1 == name) = none ↔ name ∉ fs.map Prod.fst := by
  rw [List.find?_eq_none, List.mem_map]
  simp only [beq_iff_eq, not_exists, not_and]

theorem setField_eq_append {name : String} {fs : List (String × Value)}
    (absent : name ∉ fs.map Prod.fst) (v : Value) : setField name v fs = fs ++ [(name, v)] := by
  induction fs with
  | nil => rfl
  | cons f fs ih =>
    rw [List.map_cons, List.mem_cons, not_or] at absent
    rw [setField, if_neg (fun h => absent.1 h.symm), ih absent.2, List.cons_append]

namespace Row

@[ext] theorem ext {r s : Row} (h : r.fields = s.fields) : r = s := by
  cases r
  cases s
  cases h
  rfl

theorem get?_eq_some_iff (r : Row) (name : String) (v : Value) :
    r.get? name = some v ↔ (name, v) ∈ r.fields :=
  lookup_eq_some_iff r.names_nodup name v

theorem mem_names_iff (r : Row) (name : String) :
    name ∈ r.names ↔ ∃ v, r.get? name = some v := by
  constructor
  · intro h
    obtain ⟨f, hf, rfl⟩ := List.mem_map.mp h
    exact ⟨f.2, (r.get?_eq_some_iff f.1 f.2).mpr hf⟩
  · rintro ⟨v, hv⟩
    exact List.mem_map_of_mem ((r.get?_eq_some_iff name v).mp hv)

theorem get_of_get? {r : Row} {name : String} {v : Value} (h : r.get? name = some v) :
    r.get name = v := by
  rw [get, h, Option.getD_some]

theorem insertAll_cons (r : Row) (f : String × Value) (fs : List (String × Value)) :
    r.insertAll (f :: fs) = (r.insert f.1 f.2).insertAll fs :=
  rfl

/-- Names that are not inserted keep their values. -/
theorem get?_insertAll_of_notMem (r : Row) {fs : List (String × Value)} {name : String}
    (absent : name ∉ fs.map Prod.fst) : (r.insertAll fs).get? name = r.get? name := by
  induction fs generalizing r with
  | nil => rfl
  | cons f fs ih =>
    rw [List.map_cons, List.mem_cons, not_or] at absent
    rw [insertAll_cons, ih _ absent.2, get?_insert, if_neg absent.1]

/-- Names that are inserted once get their new values. -/
theorem get?_insertAll_of_mem (r : Row) {fs : List (String × Value)}
    (nodup : (fs.map Prod.fst).Nodup) {name : String} {v : Value} (h : (name, v) ∈ fs) :
    (r.insertAll fs).get? name = some v := by
  induction fs generalizing r with
  | nil => cases h
  | cons f fs ih =>
    rw [List.map_cons, List.nodup_cons] at nodup
    rw [insertAll_cons]
    rcases List.mem_cons.mp h with rfl | h
    · rw [get?_insertAll_of_notMem _ nodup.1, get?_insert, if_pos rfl]
    · exact ih _ nodup.2 h

/-- A field of the row that results was inserted or was there before. -/
theorem mem_fields_insertAll (r : Row) {fs : List (String × Value)}
    (nodup : (fs.map Prod.fst).Nodup) {f : String × Value} (h : f ∈ (r.insertAll fs).fields) :
    f ∈ fs ∨ f ∈ r.fields := by
  have read : (r.insertAll fs).get? f.1 = some f.2 := (get?_eq_some_iff _ f.1 f.2).mpr h
  by_cases hm : f.1 ∈ fs.map Prod.fst
  · obtain ⟨g, hg, hn⟩ := List.mem_map.mp hm
    rw [← hn, get?_insertAll_of_mem r nodup hg] at read
    have same : g = f := Prod.ext hn (Option.some.inj read)
    exact Or.inl (same ▸ hg)
  · rw [get?_insertAll_of_notMem r hm] at read
    exact Or.inr ((r.get?_eq_some_iff f.1 f.2).mp read)

theorem get_insertAll_of_notMem (r : Row) {fs : List (String × Value)} {name : String}
    (absent : name ∉ fs.map Prod.fst) : (r.insertAll fs).get name = r.get name := by
  rw [get, get?_insertAll_of_notMem r absent, get]

theorem get_insertAll_of_mem (r : Row) {fs : List (String × Value)}
    (nodup : (fs.map Prod.fst).Nodup) {name : String} {v : Value} (h : (name, v) ∈ fs) :
    (r.insertAll fs).get name = v :=
  get_of_get? (get?_insertAll_of_mem r nodup h)

/-- New names go behind the old ones, in order. -/
theorem fields_insertAll_of_nodup (r : Row) {fs : List (String × Value)}
    (nodup : ((r.fields ++ fs).map Prod.fst).Nodup) :
    (r.insertAll fs).fields = r.fields ++ fs := by
  induction fs generalizing r with
  | nil => exact (List.append_nil _).symm
  | cons f fs ih =>
    have absent : f.1 ∉ r.fields.map Prod.fst := by
      rw [List.map_append, List.nodup_append] at nodup
      exact fun h => nodup.2.2 f.1 h f.1 (by simp) rfl
    have grown : (r.insert f.1 f.2).fields = r.fields ++ [f] := setField_eq_append absent f.2
    have split : r.fields ++ f :: fs = (r.insert f.1 f.2).fields ++ fs := by
      rw [grown, List.append_assoc, List.singleton_append]
    rw [insertAll_cons, split]
    exact ih _ (split ▸ nodup)

theorem fields_ofList {fs : List (String × Value)} (nodup : (fs.map Prod.fst).Nodup) :
    (ofList fs).fields = fs :=
  fields_insertAll_of_nodup empty nodup

/-! ### Names that are repeated -/

/-- A row is its names, in order, with the values under them. -/
theorem fields_eq_map_names (r : Row) : r.fields = r.names.map fun n => (n, r.get n) := by
  have read : ∀ f ∈ r.fields, (f.1, r.get f.1) = f := fun f hf => by
    rw [get_of_get? ((r.get?_eq_some_iff f.1 f.2).mpr hf)]
  rw [names, List.map_map]
  exact ((List.map_congr_left read).trans (List.map_id _)).symm

theorem eq_of_names_of_get? {r s : Row} (names : r.names = s.names)
    (values : ∀ n, r.get? n = s.get? n) : r = s := by
  apply ext
  simp only [fields_eq_map_names, names, get, values]

theorem ofList_append_singleton (fs : List (String × Value)) (f : String × Value) :
    ofList (fs ++ [f]) = (ofList fs).insert f.1 f.2 :=
  List.foldl_append

/-- A name that is repeated keeps its first position. -/
theorem names_ofList (fs : List (String × Value)) :
    (ofList fs).names = (fs.map Prod.fst).eraseDups := by
  induction fs using List.reverseRecOn with
  | nil => rfl
  | append_singleton fs f ih =>
    have taken : (ofList fs).contains f.1 = true ↔ f.1 ∈ fs.map Prod.fst := by
      rw [contains_iff, ih, List.mem_eraseDups]
    rw [ofList_append_singleton, names_insert, ih, List.map_append, List.eraseDups_append]
    by_cases h : f.1 ∈ fs.map Prod.fst
    · simp [taken, h, List.removeAll]
    · simp [taken, h, List.removeAll, List.eraseDups_cons]

/-- A name that is repeated gets its last value. -/
theorem get?_ofList (fs : List (String × Value)) (n : String) :
    (ofList fs).get? n = fs.reverse.lookup n := by
  induction fs using List.reverseRecOn with
  | nil => rfl
  | append_singleton fs f ih =>
    rw [ofList_append_singleton, get?_insert, ih, List.reverse_append, List.reverse_singleton,
      List.singleton_append, List.lookup_cons]
    by_cases h : n = f.1
    · simp [h]
    · rw [if_neg h, beq_eq_false_iff_ne.mpr h]

/-! ### Names of rows that are put together -/

/-- Setting fields that the row has changes none of its names. -/
theorem names_insertAll_of_subset (r : Row) {fs : List (String × Value)}
    (known : ∀ f ∈ fs, f.1 ∈ r.names) : (r.insertAll fs).names = r.names := by
  induction fs generalizing r with
  | nil => rfl
  | cons f fs ih =>
    have same : (r.insert f.1 f.2).names = r.names := by
      rw [names_insert, if_pos ((r.contains_iff f.1).mpr (known f List.mem_cons_self))]
    rw [insertAll_cons, ih, same]
    intro g hg
    rw [same]
    exact known g (List.mem_cons_of_mem _ hg)

/-- A projection has the names that are asked for and that the row has, each where it is asked for
first. -/
theorem names_project (r : Row) (ns : List String) :
    (r.project ns).names = (ns.filter (· ∈ r.names)).eraseDups := by
  have found : ∀ n, ((r.get? n).map fun v => (n, v)).map Prod.fst =
      Option.guard (fun m => decide (m ∈ r.names)) n := by
    intro n
    have has : n ∈ r.names ↔ (r.get? n).isSome = true := by
      rw [← contains_iff, contains_eq_isSome]
    cases h : r.get? n <;> simp [Option.guard, has, h]
  rw [project, names_ofList, List.map_filterMap]
  simp only [found]
  rw [List.filterMap_eq_filter]

/-- The names of a merged row: those on the left, then those on the right, of which one that is
taken by then goes under the name of its table and its own. -/
def mergedNames (left right : List String) (rightTable : String) : List String :=
  right.foldl
    (fun ns n =>
      let new := if n ∈ ns then rightTable ++ "_" ++ n else n
      if new ∈ ns then ns else ns ++ [new])
    left

theorem names_merge (left right : Row) (rightTable : String) :
    (left.merge right rightTable).names = mergedNames left.names right.names rightTable := by
  have fromRight : right.names = right.fields.map Prod.fst := rfl
  rw [merge, mergedNames, fromRight, List.foldl_map]
  refine (List.foldl_hom names fun merged f => ?_).symm
  simp only [names_insert, contains_iff]

end Row

end SqlStore
