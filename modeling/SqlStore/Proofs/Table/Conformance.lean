import SqlStore.Proofs.Table.Calls
import Mathlib.Data.List.Nodup

/-!
# Stored rows conform to their columns

An insertion checks a row as a whole, an update only the fields that it sets. Both leave the table
with rows whose fields are kept by their columns and in which every column that has to have a value
has one. Columns of the same name are left out of consideration: only the first of them would be
asked.
-/

namespace SqlStore

/-- What a column may hold: `NULL` if it is nullable, and the values of its type. -/
def Column.Holds (c : Column) (v : Value) : Prop :=
  (v = .null ∧ c.nullable = true) ∨ v.type? = some c.type

theorem Column.Holds.ne_null {c : Column} {v : Value} (h : c.Holds v)
    (required : c.nullable = false) : v ≠ .null := by
  rintro rfl
  rcases h with ⟨-, nullable⟩ | typed
  · rw [required] at nullable
    cases nullable
  · cases typed

/-- The row has only fields that their columns may hold, and no column that has to have a value
lacks one. -/
structure Row.ConformsTo (columns : List Column) (r : Row) : Prop where
  fields : ∀ f ∈ r.fields, ∃ c ∈ columns, c.name = f.1 ∧ c.Holds f.2
  required : ∀ c ∈ columns, c.nullable = false → ∃ v, r.get? c.name = some v ∧ v ≠ .null

namespace Table

/-- The names of the columns are distinct and all rows conform to the columns. -/
structure Conforming (t : Table) : Prop where
  distinct : (t.columns.map (·.name)).Nodup
  rows : ∀ row ∈ t.rows, row.ConformsTo t.columns

theorem conforming_new (name : String) {columns : List Column}
    (distinct : (columns.map (·.name)).Nodup) : (new name columns).Conforming where
  distinct := distinct
  rows row h := by cases Array.not_mem_empty row h

theorem holds_of_accepted {t : Table} {fs gs : List (String × Value)}
    (h : fs.mapM t.acceptField = .ok gs) {g : String × Value} (hg : g ∈ gs) :
    ∃ c ∈ t.columns, c.name = g.1 ∧ c.Holds g.2 := by
  obtain ⟨f, -, hf⟩ := exists_of_mem_accepted h hg
  obtain ⟨c, hc, accepted, hn⟩ := (t.acceptField_eq_ok_iff f g).mp hf
  have named : c.name = f.1 := by simpa using List.find?_some hc
  exact ⟨c, List.mem_of_find?_eq_some hc, named.trans hn.symm, Column.accept_ok accepted⟩

section

variable {columns : List Column} (distinct : (columns.map (·.name)).Nodup)

include distinct

/-- A required column does not hold `NULL`, when it is the only one of its name. -/
theorem ne_null_of_required {c : Column} (hc : c ∈ columns) (required : c.nullable = false)
    {f : String × Value} (named : c.name = f.1)
    (holds : ∃ d ∈ columns, d.name = f.1 ∧ d.Holds f.2) : f.2 ≠ .null := by
  obtain ⟨d, hd, hn, holds⟩ := holds
  have same : d = c := List.inj_on_of_nodup_map distinct hd hc (hn.trans named.symm)
  subst same
  exact holds.ne_null required

theorem conformsTo_of_contains {row : Row}
    (fields : ∀ f ∈ row.fields, ∃ c ∈ columns, c.name = f.1 ∧ c.Holds f.2)
    (present : ∀ c ∈ columns, c.nullable = false → row.contains c.name = true) :
    row.ConformsTo columns := by
  refine ⟨fields, ?_⟩
  intro c hc required
  have hm := (row.contains_iff c.name).mp (present c hc required)
  obtain ⟨v, hv⟩ := (row.mem_names_iff c.name).mp hm
  have stored := (row.get?_eq_some_iff c.name v).mp hv
  exact ⟨v, hv, ne_null_of_required distinct hc required rfl (fields _ stored)⟩

/-- Fields that their columns may hold can be set in a row that conforms, whether the row had them
before or not. -/
theorem conformsTo_insertAll {row : Row} (conforms : row.ConformsTo columns)
    {fs : List (String × Value)} (nodup : (fs.map Prod.fst).Nodup)
    (holds : ∀ f ∈ fs, ∃ c ∈ columns, c.name = f.1 ∧ c.Holds f.2) :
    (row.insertAll fs).ConformsTo columns := by
  constructor
  · intro f hf
    rcases row.mem_fields_insertAll nodup hf with h | h
    · exact holds f h
    · exact conforms.fields f h
  · intro c hc required
    by_cases hm : c.name ∈ fs.map Prod.fst
    · obtain ⟨f, hf, hn⟩ := List.mem_map.mp hm
      refine ⟨f.2, ?_, ne_null_of_required distinct hc required hn.symm (holds f hf)⟩
      exact row.get?_insertAll_of_mem nodup (hn ▸ hf)
    · obtain ⟨v, hv, hne⟩ := conforms.required c hc required
      exact ⟨v, (row.get?_insertAll_of_notMem hm).trans hv, hne⟩

end

theorem Conforming.insert {t after : Table} {r : Row} (ht : t.Conforming)
    (h : t.insert r = .ok after) : after.Conforming := by
  obtain ⟨row, hrow, -, -, rfl⟩ := (insert_eq_ok_iff t after r).mp h
  obtain ⟨accepted, present⟩ := (acceptRow_eq_ok_iff t r row).mp hrow
  refine ⟨ht.distinct, ?_⟩
  intro stored hm
  rw [rows_append, Array.mem_push] at hm
  rcases hm with old | rfl
  · exact ht.rows stored old
  · exact conformsTo_of_contains ht.distinct (fun f hf => holds_of_accepted accepted hf) present

theorem Conforming.update {t after : Table} {v : Value} {assignments : Row} (ht : t.Conforming)
    (h : t.update v assignments = .ok after) : after.Conforming := by
  obtain ⟨p, fs, k, -, accepted, -, rfl⟩ := (update_eq_ok_iff t after v assignments).mp h
  refine ⟨ht.distinct, ?_⟩
  intro stored hm
  obtain ⟨i, hi⟩ := Array.mem_iff_getElem?.mp hm
  rw [rows_setFields, Array.getElem?_modify] at hi
  split at hi
  · obtain ⟨old, hold, rfl⟩ := Option.map_eq_some_iff.mp hi
    have conforms := ht.rows old (Array.mem_of_getElem? hold)
    exact conformsTo_insertAll ht.distinct conforms (nodup_of_accepted accepted)
      fun f hf => holds_of_accepted accepted hf
  · exact ht.rows stored (Array.mem_of_getElem? hi)

theorem Conforming.delete? {t after : Table} {v : Value} (ht : t.Conforming)
    (h : t.delete? v = some after) : after.Conforming := by
  obtain ⟨p, -, rfl⟩ := (delete?_eq_some_iff t after v).mp h
  refine ⟨ht.distinct, ?_⟩
  intro stored hm
  rw [rows_eraseRow, ← Array.mem_toList_iff, Array.toList_eraseIdxIfInBounds] at hm
  exact ht.rows stored (Array.mem_toList_iff.mp (List.mem_of_mem_eraseIdx hm))

theorem conforming_kept : Kept Conforming where
  insert := Conforming.insert
  update := Conforming.update
  delete? := Conforming.delete?

end Table

end SqlStore
