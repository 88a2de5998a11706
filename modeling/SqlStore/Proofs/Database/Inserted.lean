import SqlStore.Proofs.Database.InPlace
import SqlStore.Proofs.Database.Rectangular
import SqlStore.Proofs.Table.Inserted
import SqlStore.Proofs.Value.Equality

/-!
# An inserted row is found by what was written

A value is written, stored in the form of its column, indexed and compared. An integer that is
stored as a float is rounded on the way, and rounded again in the same way when it is looked for.
So a query for any of the values as they were written shows the new row, behind the rows that it
showed before, and so does a lookup by the primary key.
-/

namespace SqlStore

/-- A value equals its stored form in a condition. -/
theorem Value.sqlEq_widen (type : SqlType) (v : Value) : (v.widen type).sqlEq v = true := by
  cases v with
  | int i =>
    rw [widen]
    split
    · exact (Binary64.numEq_ofInt_iff _ _).mpr rfl
    · exact sqlEq_refl _
  | _ => exact sqlEq_refl _

/-- The query for the rows, with all columns, that have the value in the column. -/
def Statement.selectWhere (table column : String) (v : Value) : Statement :=
  .select ⟨.all, table, none, some (Row.ofList [(column, v)])⟩

namespace Table

variable {t : Table} {values : List Value} {row : Row}

section

variable (distinct : (t.columns.map (·.name)).Nodup) (size : values.length = t.columns.length)
  (accepted : t.acceptRow (Row.ofList ((t.columns.map (·.name)).zip values)) = .ok row)

include distinct size accepted

/-- A row given by position has the value for each column under its name, in stored form. -/
theorem stored_at {i : Nat} {c : Column} {v : Value} (hc : t.columns[i]? = some c)
    (hv : values[i]? = some v) :
    (Row.ofList ((t.columns.map (·.name)).zip values)).get c.name = v ∧
      c.accept v = .ok (v.widen c.type) ∧ row.fields[i]? = some (c.name, v.widen c.type) := by
  obtain ⟨fields, -⟩ := fields_ofList_values distinct size
  obtain ⟨fits, stored⟩ := acceptRow_eq_ok_iff_fits.mp accepted
  have named := column?_eq_some distinct (List.mem_of_getElem? hc)
  have given : ((t.columns.map (·.name)).zip values)[i]? = some (c.name, v) := by
    rw [List.getElem?_zip_eq_some, List.getElem?_map, hc]
    exact ⟨rfl, hv⟩
  rw [← fields] at given
  have field := List.mem_of_getElem? given
  have fit := fits.fields _ field
  rw [fitsField, named] at fit
  refine ⟨Row.get_of_get? ((Row.get?_eq_some_iff _ _ _).mpr field), ?_, ?_⟩
  · exact (c.accept_eq_ok_iff v _).mpr ⟨fit, rfl⟩
  · rw [stored, List.getElem?_map, given, Option.map_some, storedField, Table.stored, named]

theorem names_of_values : row.names = t.columns.map (·.name) := by
  rw [Row.names, (acceptRow_eq_ok_iff_fits.mp accepted).2, names_map_storedField]
  exact (fields_ofList_values distinct size).2

end

end Table

namespace Database

variable {db after : Database} {name : String}

theorem execute_selectWhere {t : Table} (ht : db.table? name = some t) (column : String)
    (v : Value) :
    (db.execute (.selectWhere name column v)).1 =
      .ok (.rows (t.rows.toList.filter fun r => (r.get column).sqlEq v)) := by
  have all : projectRow .all = id := rfl
  have found : db.table name = .ok t := table_eq_ok_iff.mpr ht
  rw [Statement.selectWhere, execute, select_of_join_none db rfl, found, all]
  simp only [Option.all_some, Table.satisfies_single, List.map_id]
  rfl

/-- An insertion that succeeds puts one row behind the rows of its table, with the columns in schema
order and every value in the form in which its column keeps it. For every value as it was written a
query then shows what it showed before and the new row behind it, and a lookup of the primary key
finds the new row. -/
theorem inserted_row_found (reached : db.Reached)
    (distinct : db.AllTables fun t => (t.columns.map (·.name)).Nodup) {values : List Value}
    (inserted : db.execute (.insert name values) = (.ok .done, after)) :
    ∃ t u row, db.table? name = some t ∧ after.table? name = some u ∧ u.columns = t.columns ∧
      u.rows = t.rows.push row ∧ row.names = t.columns.map (·.name) ∧
      values.length = t.columns.length ∧
      ∀ (i : Nat) c v, t.columns[i]? = some c → values[i]? = some v →
        (∃ w, c.accept v = .ok w ∧ row.fields[i]? = some (c.name, w)) ∧
        (∃ earlier, (db.execute (.selectWhere name c.name v)).1 = .ok (.rows earlier) ∧
          (after.execute (.selectWhere name c.name v)).1 = .ok (.rows (earlier ++ [row]))) ∧
        (t.keyColumn? = some c → u.row? v = some row) := by
  obtain ⟨t, u, ht, hu, rfl⟩ := (change_eq_done_iff db after name _).mp inserted
  obtain ⟨size, h⟩ := (Table.insertValues_eq_ok_iff t u values).mp hu
  have distinct := distinct name t ht
  have appended : u.Indexed := (reached.indexed name t ht).insert h
  obtain ⟨row, accepted, -, -, rfl⟩ := (Table.insert_eq_ok_iff t u _).mp h
  have found : (db.put (t.append row)).table? name = some (t.append row) := by
    rw [table?_put, if_pos]
    exact reached.named name t ht
  refine ⟨t, t.append row, row, ht, found, rfl, t.rows_append row,
    Table.names_of_values distinct size accepted, size, ?_⟩
  intro i c v hc hv
  obtain ⟨given, kept, stored⟩ := Table.stored_at distinct size accepted hc hv
  have value : row.get c.name = v.widen c.type :=
    Row.get_of_get? ((row.get?_eq_some_iff _ _).mpr (List.mem_of_getElem? stored))
  refine ⟨⟨_, kept, stored⟩, ⟨_, execute_selectWhere ht c.name v, ?_⟩, ?_⟩
  · rw [execute_selectWhere found, t.rows_append, Array.toList_push, List.filter_append]
    simp [value, Value.sqlEq_widen]
  · intro key
    have position := appended.position?_append distinct accepted key
    rw [given] at position
    rw [Table.row?, position, Option.bind_some, t.rows_append, Array.getElem?_push_size]

/-- An integer that is rounded for a `FLOAT` key is found as it was written. Of two rows before it,
the query for `NULL` shows the one that has it too and leaves out the other. -/
theorem inserted_row_found_rounded_key :
    let id : Column := { name := "id", type := .float, nullable := false, primaryKey := true }
    let n : Column := { name := "n", type := .int }
    let db := (((empty.createTable "t" [id, n]).2.execute (.insert "t" [.int 1, .null])).2.execute
      (.insert "t" [.int 2, .int 5])).2
    let values : List Value := [.int 9007199254740993, .null]
    ∃ after u row earlier, db.execute (.insert "t" values) = (.ok .done, after) ∧
      after.table? "t" = some u ∧ u.row? (.int 9007199254740993) = some row ∧
      row.fields[0]? = some ("id", .float (.ofInt 9007199254740992)) ∧
      (after.execute (.selectWhere "t" "n" .null)).1 = .ok (.rows (earlier ++ [row])) ∧
      earlier.map (·.fields) = [[("id", .float (.ofInt 1)), ("n", .null)]] ∧ u.rows.size = 3 := by
  intro id n db values
  have reached : db.Reached := .executed _ (.executed _ (.created _ _ .empty))
  have distinct : db.AllTables fun t => (t.columns.map (·.name)).Nodup := by
    have kept := keptByStatements
      (Table.kept_of_schema fun _ columns => (columns.map (·.name)).Nodup)
    refine AllTables.execute (AllTables.execute ?_ kept _ (by simp)) kept _ (by simp)
    exact allTables_empty.createTable (by decide)
  have inserted : db.execute (.insert "t" values) =
      (.ok .done, (db.execute (.insert "t" values)).2) := by
    simp only [db, values, id, n]
    rfl
  obtain ⟨t, u, row, ht, hu, -, pushed, -, -, found⟩ := inserted_row_found reached distinct inserted
  have schema : (db.table? "t").map (·.columns) = some [id, n] := by
    simp only [db, id, n]
    rfl
  rw [ht] at schema
  have columns : t.columns = [id, n] := Option.some.inj schema
  have keyed : t.keyColumn? = some id := by rw [Table.keyColumn?, columns]; rfl
  obtain ⟨⟨w, accepted, stored⟩, -, addressed⟩ :=
    found 0 id (.int 9007199254740993) (by rw [columns]; rfl) rfl
  obtain ⟨-, rfl⟩ := (id.accept_eq_ok_iff _ _).mp accepted
  obtain ⟨-, ⟨earlier, before, shown⟩, -⟩ := found 1 n .null (by rw [columns]; rfl) rfl
  have rounded : (Value.int 9007199254740993).widen id.type =
      .float (.ofInt 9007199254740992) := by decide +kernel
  have one : (db.table? "t").map (fun t => (t.rows.size,
      (t.rows.toList.filter fun r => (r.get "n").sqlEq .null).map (·.fields))) =
        some (2, [[("id", .float (.ofInt 1)), ("n", .null)]]) := by
    decide +kernel
  rw [ht, Option.map_some] at one
  obtain ⟨two, one⟩ := Prod.mk.inj (Option.some.inj one)
  cases before.symm.trans (execute_selectWhere ht "n" .null)
  refine ⟨_, u, row, _, inserted, hu, addressed keyed, rounded ▸ stored, shown, one, ?_⟩
  rw [pushed, Array.size_push, two]

end Database

end SqlStore
