import SqlStore.Proofs.Row.Merge

/-!
# The layout of a merged row

Merging asks for every right field whether its name is taken by then, on the left or by a field that
went in before. Where the qualified name of a common name is free in both rows, only the names on
the left count: no right field that keeps its name and none that is renamed gets in the way of a
later one. Then the merged row is the left row with the right fields behind it, and otherwise it is
not.
-/

namespace SqlStore.Row

theorem qualified_ne (table name : String) : qualified table name ≠ name := by
  intro same
  have sizes := congrArg String.length same
  simp [qualified, String.length_append] at sizes

/-- The name of a right field in a merged row when only the names on the left are taken. -/
def renamed (left : List String) (table name : String) : String :=
  if name ∈ left then qualified table name else name

/-- The qualified name of a common name is a name of neither row. -/
def QualifiedFree (left right : List String) (table : String) : Prop :=
  ∀ n ∈ left, n ∈ right → qualified table n ∉ left ∧ qualified table n ∉ right

section

variable {left right : List String} {table m n : String}

theorem renamed_of_mem (there : n ∈ left) : renamed left table n = qualified table n :=
  if_pos there

theorem renamed_of_notMem (absent : n ∉ left) : renamed left table n = n :=
  if_neg absent

namespace QualifiedFree

variable (free : QualifiedFree left right table)

include free

theorem renamed_notMem (hn : n ∈ right) : renamed left table n ∉ left := by
  by_cases there : n ∈ left
  · rw [renamed_of_mem there]
    exact (free n there hn).1
  · rw [renamed_of_notMem there]
    exact there

/-- No renamed field has the name of another right field. -/
theorem eq_of_renamed_eq (hm : m ∈ right) (hn : n ∈ right) (same : renamed left table m = n) :
    m = n := by
  by_cases there : m ∈ left
  · rw [renamed_of_mem there] at same
    exact absurd hn (same ▸ (free m there hm).2)
  · rwa [renamed_of_notMem there] at same

theorem renamed_inj (hm : m ∈ right) (hn : n ∈ right)
    (same : renamed left table m = renamed left table n) : m = n := by
  by_cases there : n ∈ left
  · by_cases also : m ∈ left
    · rw [renamed_of_mem there, renamed_of_mem also] at same
      exact qualified_inj same
    · rw [renamed_of_notMem also] at same
      exact (free.eq_of_renamed_eq hn hm same.symm).symm
  · rw [renamed_of_notMem there] at same
    exact free.eq_of_renamed_eq hm hn same

end QualifiedFree

/-- The names of the rows laid out one behind the other are distinct exactly if the qualified names
of common names are free. -/
theorem nodup_append_renamed_iff (hleft : left.Nodup) (hright : right.Nodup) :
    (left ++ right.map (renamed left table)).Nodup ↔ QualifiedFree left right table := by
  rw [List.nodup_append]
  constructor
  · rintro ⟨-, distinct, apart⟩ n there own
    have outside : qualified table n ∉ left := fun met => by
      refine apart _ met _ (List.mem_map_of_mem own) ?_
      rw [renamed_of_mem there]
    refine ⟨outside, fun met => qualified_ne table n ?_⟩
    refine List.inj_on_of_nodup_map distinct met own ?_
    rw [renamed_of_notMem outside, renamed_of_mem there]
  · intro free
    refine ⟨hleft, hright.map_on fun m hm n hn => free.renamed_inj hm hn, ?_⟩
    rintro a ha _ hb rfl
    obtain ⟨n, hn, rfl⟩ := List.mem_map.mp hb
    exact free.renamed_notMem hn ha

end

/-- The fields of the left row, then those of the right row under their new names. -/
def laidOut (left right : Row) (table : String) : List (String × Value) :=
  left.fields ++ right.fields.map fun f => (renamed left.names table f.1, f.2)

theorem names_laidOut (left right : Row) (table : String) :
    (laidOut left right table).map Prod.fst =
      left.names ++ right.names.map (renamed left.names table) := by
  simp [laidOut, names, Function.comp_def]

theorem nodup_names_laidOut_iff (left right : Row) (table : String) :
    ((laidOut left right table).map Prod.fst).Nodup ↔
      QualifiedFree left.names right.names table := by
  rw [names_laidOut]
  exact nodup_append_renamed_iff left.names_nodup right.names_nodup

theorem fields_insert_of_notMem {r : Row} {n : String} (fresh : n ∉ r.names) (v : Value) :
    (r.insert n v).fields = r.fields ++ [(n, v)] :=
  setField_eq_append fresh v

theorem fields_merge_of_free {left right : Row} {table : String}
    (free : QualifiedFree left.names right.names table) :
    (left.merge right table).fields = laidOut left right table := by
  -- the fields that went in before are laid out already, so of the names only the left ones count
  induction right using induction_on_insert with
  | empty => exact (List.append_nil left.fields).symm
  | insert right n v fresh ih =>
    have grown := names_insert_of_notMem fresh v
    have earlier : QualifiedFree left.names right.names table := by
      intro m there own
      have met := free m there (grown ▸ List.mem_append_left _ own)
      rw [grown] at met
      exact met.imp_right fun absent h => absent (List.mem_append_left _ h)
    have names : (left.merge right table).names =
        left.names ++ right.names.map (renamed left.names table) := by
      rw [Row.names, ih earlier, names_laidOut]
    have own : n ∈ (right.insert n v).names := by simp [grown]
    have taken : (left.merge right table).contains n = true ↔ n ∈ left.names := by
      rw [contains_iff, names, List.mem_append, or_iff_left]
      intro met
      obtain ⟨m, hm, same⟩ := List.mem_map.mp met
      have both : m ∈ (right.insert n v).names := grown ▸ List.mem_append_left _ hm
      exact fresh (free.eq_of_renamed_eq both own same ▸ hm)
    have name : (if (left.merge right table).contains n then qualified table n else n) =
        renamed left.names table n := if_congr taken rfl rfl
    have new : renamed left.names table n ∉ (left.merge right table).names := by
      have distinct := (nodup_names_laidOut_iff left (right.insert n v) table).mpr free
      rw [names_laidOut, grown, List.map_append, ← List.append_assoc, ← names] at distinct
      exact fun met => (List.nodup_append.mp distinct).2.2 _ met _ (by simp) rfl
    rw [merge_insert left table fresh v, name, fields_insert_of_notMem new, ih earlier, laidOut,
      laidOut, fields_insert_of_notMem fresh, List.map_append, List.append_assoc]
    rfl

/-- A merged row has the fields of the left row unchanged, then those of the right row in their
order, each under its own name or, where the left row has that too, under its qualified name,
exactly if no qualified name of a common name is a name of either row. Exactly then the names laid
out like this are distinct. -/
theorem merge_laidOut_iff (left right : Row) (table : String) :
    ((left.merge right table).fields = laidOut left right table ↔
        QualifiedFree left.names right.names table) ∧
      (((laidOut left right table).map Prod.fst).Nodup ↔
        QualifiedFree left.names right.names table) := by
  have distinct := nodup_names_laidOut_iff left right table
  refine ⟨⟨fun layout => distinct.mp ?_, fields_merge_of_free⟩, distinct⟩
  rw [← layout]
  exact (left.merge right table).names_nodup

/-- A common name is qualified on the right, and the others keep theirs. -/
example :
    ((ofList [("id", .int 1), ("name", .text "Alice")]).merge
        (ofList [("id", .int 7), ("user_id", .int 1)]) "orders").fields =
      [("id", .int 1), ("name", .text "Alice"), ("orders_id", .int 7), ("user_id", .int 1)] := by
  decide

end SqlStore.Row
