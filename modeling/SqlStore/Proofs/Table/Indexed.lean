import SqlStore.Proofs.Index
import SqlStore.Proofs.Table.Calls
import Mathlib.Data.List.InsertIdx

/-!
# What the indexes of a table hold

The key index of a table mirrors the keys of its rows and its unique indexes cover the values of
their columns. A new table is so, every operation keeps it so, and so it is after whatever calls.
An update that gives a row the same key again leaves the entry of the old one in place.
-/

namespace SqlStore.Table

def values (t : Table) (column : String) : List Value :=
  t.rows.toList.map (·.get column)

theorem getElem?_values (t : Table) (column : String) (i : Nat) :
    (t.values column)[i]? = t.rows[i]?.map (·.get column) := by
  rw [values, List.getElem?_map, Array.getElem?_toList]

theorem values_append (t : Table) (row : Row) (column : String) :
    (t.append row).values column = t.values column ++ [row.get column] := by
  simp [values, rows_append]

theorem values_eraseRow (t : Table) (p : Nat) (column : String) :
    (t.eraseRow p).values column = (t.values column).eraseIdx p := by
  rw [values, rows_eraseRow, Array.toList_eraseIdxIfInBounds, values, List.eraseIdx_map]

section SetFields

variable (t : Table) (p : Nat) (key : Value) (k : Option Value) {fs : List (String × Value)}
  {column : String}

theorem getElem?_rows_setFields (i : Nat) :
    (t.setFields p key k fs).rows[i]? =
      if p = i then t.rows[i]?.map (·.insertAll fs) else t.rows[i]? := by
  rw [rows_setFields, Array.getElem?_modify]

/-- A column that is set changes in the row at `p` alone. -/
theorem values_setFields_of_mem (nodup : (fs.map Prod.fst).Nodup) {v : Value}
    (h : (column, v) ∈ fs) :
    (t.setFields p key k fs).values column = (t.values column).set p v := by
  apply List.ext_getElem?
  intro i
  rw [getElem?_values, getElem?_rows_setFields, List.getElem?_set', getElem?_values]
  split
  · cases t.rows[i]? with
    | none => rfl
    | some row => exact congrArg some (row.get_insertAll_of_mem nodup h)
  · rfl

/-- A column that is not set keeps all its values. -/
theorem values_setFields_of_notMem (absent : column ∉ fs.map Prod.fst) :
    (t.setFields p key k fs).values column = t.values column := by
  apply List.ext_getElem?
  intro i
  rw [getElem?_values, getElem?_rows_setFields, getElem?_values]
  split
  · cases t.rows[i]? with
    | none => rfl
    | some row => exact congrArg some (row.get_insertAll_of_notMem absent)
  · rfl

end SetFields

/-- The indexes of the table say exactly what its rows hold. -/
structure Indexed (t : Table) : Prop where
  keys : ∀ c, t.keyColumn? = some c → t.keyIndex.Mirrors (t.values c.name)
  noKeys : t.keyColumn? = none → t.keyIndex.isEmpty = true
  names : t.uniqueIndexes.map Prod.fst = uniqueNames t.columns
  unique : ∀ ix ∈ t.uniqueIndexes, ix.2.Covers (t.values ix.1)

theorem indexed_new (name : String) (columns : List Column) : (new name columns).Indexed where
  keys _ _ := KeyIndex.mirrors_empty
  noKeys _ := Std.TreeMap.isEmpty_emptyc
  names := by simp [new, Function.comp_def]
  unique ix h := by
    obtain ⟨n, -, rfl⟩ := List.mem_map.mp h
    exact ValueSet.covers_empty

/-- Without a primary key no value addresses a row. -/
theorem Indexed.exists_keyColumn {t : Table} (ht : t.Indexed) {v : Value} {p : Nat}
    (hp : t.position? v = some p) : ∃ c, t.keyColumn? = some c := by
  cases hc : t.keyColumn? with
  | some c => exact ⟨c, rfl⟩
  | none =>
    have empty := Std.TreeMap.getElem?_of_isEmpty (a := t.lookupKey v) (ht.noKeys hc)
    exact absurd (hp.symm.trans empty) (by simp)

theorem Indexed.insert {t after : Table} {r : Row} (ht : t.Indexed)
    (h : t.insert r = .ok after) : after.Indexed := by
  obtain ⟨row, -, hkey, -, rfl⟩ := (insert_eq_ok_iff t after r).mp h
  have hfree := (checkKey_eq_ok_iff t row).mp hkey
  refine ⟨?_, ?_, ?_, ?_⟩
  · intro c hc
    have hc : t.keyColumn? = some c := hc
    have size : t.rows.size = (t.values c.name).length := by simp [values]
    have index : (t.append row).keyIndex = t.keyIndex.insert (row.get c.name) t.rows.size := by
      simp only [append, hc]
    rw [index, values_append, size]
    exact (ht.keys c hc).insert (hfree c hc)
  · intro hc
    have hc : t.keyColumn? = none := hc
    simpa only [append, hc] using ht.noKeys hc
  · simpa [append, Function.comp_def] using ht.names
  · intro ix hix
    obtain ⟨old, hold, rfl⟩ := List.mem_map.mp hix
    rw [values_append]
    exact (ht.unique old hold).insert _

/-- The values of the key column after an update are mirrored: the row at `p` keeps its key, gets
the same key again or gets a free one. -/
theorem Indexed.keys_setFields {t : Table} (ht : t.Indexed) {v : Value} {p : Nat}
    (hp : t.position? v = some p) {fs : List (String × Value)}
    (nodup : (fs.map Prod.fst).Nodup) {k : Option Value}
    (hk : t.newKey? (t.lookupKey v) fs = .ok k) {c : Column} (hc : t.keyColumn? = some c) :
    (t.setFields p (t.lookupKey v) k fs).keyIndex.Mirrors
      ((t.setFields p (t.lookupKey v) k fs).values c.name) := by
  have mirrors := ht.keys c hc
  have hk := (newKey?_eq_ok_iff t _ _ _).mp hk
  rw [hc, Option.bind_some] at hk
  cases hf : fs.find? (·.1 == c.name) with
  | none =>
    simp only [hf] at hk
    subst hk
    rw [values_setFields_of_notMem t p _ _ (find?_name_eq_none_iff.mp hf)]
    exact mirrors
  | some f =>
    have hmem : (c.name, f.2) ∈ fs := by
      have hn : f.1 = c.name := by simpa using List.find?_some hf
      exact hn ▸ List.mem_of_find?_eq_some hf
    simp only [hf] at hk
    rw [values_setFields_of_mem t p _ _ nodup hmem]
    split at hk
    · next hs =>
      subst hk
      obtain ⟨old, hold, hsame⟩ := (mirrors _ p).mp hp
      exact mirrors.set_same hold (Value.same_trans hsame (Value.same_symm hs))
    · obtain ⟨fresh, rfl⟩ := hk
      exact mirrors.replace hp fresh

theorem Indexed.update {t after : Table} {v : Value} {assignments : Row} (ht : t.Indexed)
    (h : t.update v assignments = .ok after) : after.Indexed := by
  obtain ⟨p, fs, k, hp, hfs, hk, rfl⟩ := (update_eq_ok_iff t after v assignments).mp h
  have nodup := nodup_of_accepted hfs
  refine ⟨fun c hc => ht.keys_setFields hp nodup hk hc, ?_, ?_, ?_⟩
  · intro hc
    obtain ⟨c, hc'⟩ := ht.exists_keyColumn hp
    exact absurd (hc.symm.trans hc') (by simp)
  · refine Eq.trans ?_ ht.names
    simp only [setFields, List.map_map]
    refine List.map_congr_left fun ix _ => ?_
    simp only [Function.comp_apply]
    split <;> rfl
  · intro ix hix
    obtain ⟨old, hold, rfl⟩ := List.mem_map.mp hix
    split
    · exact ValueSet.covers_indexValues old.1 _
    · next hany =>
      have absent : old.1 ∉ fs.map Prod.fst := by
        intro hm
        obtain ⟨f, hf, hn⟩ := List.mem_map.mp hm
        exact hany (List.any_eq_true.mpr ⟨f, hf, beq_iff_eq.mpr hn⟩)
      rw [values_setFields_of_notMem t p _ _ absent]
      exact ht.unique old hold

theorem Indexed.delete? {t after : Table} {v : Value} (ht : t.Indexed)
    (h : t.delete? v = some after) : after.Indexed := by
  obtain ⟨p, -, rfl⟩ := (delete?_eq_some_iff t after v).mp h
  refine ⟨?_, ?_, ?_, ?_⟩
  · intro c hc
    have hc : t.keyColumn? = some c := hc
    have index : (t.eraseRow p).keyIndex =
        .ofList ((t.eraseRow p).values c.name).zipIdx _ := by
      simp only [eraseRow, hc, indexKeys, values]
    rw [index]
    apply KeyIndex.mirrors_ofList
    rw [values_eraseRow]
    exact (ht.keys c hc).pairwise.sublist (List.eraseIdx_sublist _ p)
  · intro hc
    have hc : t.keyColumn? = none := hc
    simp only [eraseRow, hc]
    exact Std.TreeMap.isEmpty_emptyc
  · simpa [eraseRow, Function.comp_def] using ht.names
  · intro ix hix
    obtain ⟨old, -, rfl⟩ := List.mem_map.mp hix
    exact ValueSet.covers_indexValues old.1 _

theorem indexed_kept : Kept Indexed where
  insert := Indexed.insert
  update := Indexed.update
  delete? := Indexed.delete?

theorem exists_getElem?_values (t : Table) (column : String) (i : Nat) (v : Value) :
    (∃ k : Value, (t.values column)[i]? = some k ∧ k.same v = true) ↔
      ∃ row : Row, t.rows[i]? = some row ∧ (row.get column).same v = true := by
  rw [getElem?_values]
  simp only [Option.map_eq_some_iff]
  constructor
  · rintro ⟨_, ⟨row, hrow, rfl⟩, hs⟩
    exact ⟨row, hrow, hs⟩
  · rintro ⟨row, hrow, hs⟩
    exact ⟨_, ⟨row, hrow, rfl⟩, hs⟩

theorem exists_mem_values (t : Table) (column : String) (v : Value) :
    (∃ w ∈ t.values column, w.same v = true) ↔
      ∃ row ∈ t.rows, (row.get column).same v = true := by
  simp [values]

theorem nodup_eraseDups {α : Type} [BEq α] [LawfulBEq α] (as : List α) : as.eraseDups.Nodup := by
  induction h : as.length using Nat.strongRecOn generalizing as with
  | ind n ih =>
    cases as with
    | nil => exact List.nodup_nil
    | cons a as =>
      rw [List.eraseDups_cons, List.nodup_cons]
      have shorter := List.length_filter_le (fun b => !b == a) as
      refine ⟨by simp, ih _ ?_ _ rfl⟩
      rw [← h, List.length_cons]
      omega

theorem mem_uniqueNames (columns : List Column) (n : String) :
    n ∈ uniqueNames columns ↔ ∃ c ∈ columns, c.unique = true ∧ c.name = n := by
  simp [uniqueNames, List.mem_eraseDups, and_assoc]

/-- The rows of a table with a primary key are addressed by their keys. -/
theorem Indexed.position?_eq_some_iff {t : Table} (ht : t.Indexed) {c : Column}
    (hc : t.keyColumn? = some c) (v : Value) (p : Nat) :
    t.position? v = some p ↔
      ∃ row : Row, t.rows[p]? = some row ∧ (row.get c.name).same (t.lookupKey v) = true := by
  rw [position?, ht.keys c hc, exists_getElem?_values]

theorem Indexed.contains_key_iff {t : Table} (ht : t.Indexed) {c : Column}
    (hc : t.keyColumn? = some c) (v : Value) :
    t.keyIndex.contains v = true ↔ ∃ row ∈ t.rows, (row.get c.name).same v = true := by
  rw [(ht.keys c hc).contains_iff, exists_mem_values]

/-! ### Tables with the same contents -/

/-- The tables have the same columns and rows, and their indexes answer every lookup alike. -/
structure Alike (t u : Table) : Prop where
  name : t.name = u.name
  columns : t.columns = u.columns
  rows : t.rows = u.rows
  keys : ∀ v : Value, t.keyIndex[v]? = u.keyIndex[v]?
  uniqueNames : t.uniqueIndexes.map Prod.fst = u.uniqueIndexes.map Prod.fst
  unique : ∀ ix ∈ t.uniqueIndexes, ∀ iy ∈ u.uniqueIndexes, ix.1 = iy.1 →
    ∀ v : Value, ix.2.contains v = iy.2.contains v

/-- Indexes that say what the rows hold are alike for the same rows. -/
theorem Indexed.alike {t u : Table} (ht : t.Indexed) (hu : u.Indexed) (name : t.name = u.name)
    (columns : t.columns = u.columns) (rows : t.rows = u.rows) : t.Alike u where
  name := name
  columns := columns
  rows := rows
  keys v := by
    have keyColumn : t.keyColumn? = u.keyColumn? := by rw [keyColumn?, columns, keyColumn?]
    cases hc : t.keyColumn? with
    | none =>
      rw [Std.TreeMap.getElem?_of_isEmpty (ht.noKeys hc),
        Std.TreeMap.getElem?_of_isEmpty (hu.noKeys (keyColumn ▸ hc))]
    | some c =>
      have same : t.values c.name = u.values c.name := by rw [values, rows, values]
      rw [(ht.keys c hc).getElem?_eq_findIdx?, (hu.keys c (keyColumn ▸ hc)).getElem?_eq_findIdx?,
        same]
  uniqueNames := by rw [ht.names, hu.names, columns]
  unique ix hix iy hiy same v := by
    have held : t.values ix.1 = u.values iy.1 := by rw [values, rows, same, values]
    rw [Bool.eq_iff_iff, ht.unique ix hix v, hu.unique iy hiy v, held]

/-- After whatever calls the key index of a table with a primary key has one entry for each row,
under the row's key and with the row's position, so that no two rows have the same key; without a
primary key it is empty. There is one set for each name of a unique column, and it holds what the
rows have in that column. -/
theorem indexes_exact (name : String) (columns : List Column) (calls : List Call) :
    let t := (new name columns).afterAll calls
    (∀ c, columns.find? (·.primaryKey) = some c →
      (∀ (v : Value) (i : Nat), t.keyIndex[v]? = some i ↔
        ∃ row : Row, t.rows[i]? = some row ∧ (row.get c.name).same v = true) ∧
      (∀ (i j : Nat) (row row' : Row), t.rows[i]? = some row → t.rows[j]? = some row' →
        (row.get c.name).same (row'.get c.name) = true → i = j) ∧
      t.keyIndex.size = t.rows.size ∧
      ∀ (v : Value) (i : Nat), t.keyIndex[v]? = some i → i < t.rows.size) ∧
    (columns.find? (·.primaryKey) = none → t.keyIndex.isEmpty = true) ∧
    (t.uniqueIndexes.map Prod.fst).Nodup ∧
    (∀ n, n ∈ t.uniqueIndexes.map Prod.fst ↔ ∃ c ∈ columns, c.unique = true ∧ c.name = n) ∧
    ∀ ix ∈ t.uniqueIndexes, ∀ v,
      ix.2.contains v = true ↔ ∃ row ∈ t.rows, (row.get ix.1).same v = true := by
  intro t
  have indexed : t.Indexed := indexed_kept.afterAll (indexed_new name columns) calls
  have declared : t.columns = columns := columns_afterAll (new name columns) calls
  have keyColumn : t.keyColumn? = columns.find? (·.primaryKey) := by rw [keyColumn?, declared]
  refine ⟨?_, ?_, ?_, ?_, ?_⟩
  · intro c hc
    have mirrors := indexed.keys c (keyColumn.trans hc)
    have lookup := fun v i => (mirrors v i).trans (t.exists_getElem?_values c.name i v)
    refine ⟨lookup, ?_, ?_, ?_⟩
    · intro i j row row' hi hj hs
      exact mirrors.position_unique (k := row.get c.name) (l := row'.get c.name)
        (by rw [getElem?_values, hi, Option.map_some])
        (by rw [getElem?_values, hj, Option.map_some]) hs
    · rw [mirrors.size_eq, values, List.length_map, Array.length_toList]
    · intro v i hi
      obtain ⟨row, hrow, -⟩ := (lookup v i).mp hi
      exact (Array.getElem?_eq_some_iff.mp hrow).1
  · exact fun hc => indexed.noKeys (keyColumn.trans hc)
  · rw [indexed.names]
    exact nodup_eraseDups _
  · intro n
    rw [indexed.names, declared, mem_uniqueNames]
  · intro ix hix v
    rw [indexed.unique ix hix v, exists_mem_values]

end SqlStore.Table
