import SqlStore.Proofs.Database.Conformance
import SqlStore.Proofs.Database.Query

/-!
# Result sets are rectangular

A row by itself may have any fields. Texts insert by position and update in place, so in the tables
that they make every row has all columns in schema order. Every query then answers with rows that
have one and the same names, whether they are merged from two tables or cut down to some columns.
-/

namespace SqlStore

namespace Table

/-- The names of the columns are distinct and every row has exactly the columns, in their order. -/
structure Complete (t : Table) : Prop where
  distinct : (t.columns.map (·.name)).Nodup
  rows : ∀ row ∈ t.rows, row.names = t.columns.map (·.name)

theorem complete_declared (name : String) {columns : List Column}
    (distinct : (columns.map (·.name)).Nodup) :
    (new name (columns.map (·.declared))).Complete where
  distinct := (conforming_declared name distinct).distinct
  rows row h := by cases Array.not_mem_empty row h

theorem insertValues_eq_ok_iff (t after : Table) (values : List Value) :
    t.insertValues values = .ok after ↔ values.length = t.columns.length ∧
      t.insert (Row.ofList ((t.columns.map (·.name)).zip values)) = .ok after := by
  rw [insertValues]
  by_cases h : values.length = t.columns.length <;> simp [h]

/-- Values given by position make a row with one field for each column. -/
theorem fields_ofList_values {t : Table} (distinct : (t.columns.map (·.name)).Nodup)
    {values : List Value} (size : values.length = t.columns.length) :
    (Row.ofList ((t.columns.map (·.name)).zip values)).fields =
        (t.columns.map (·.name)).zip values ∧
      (Row.ofList ((t.columns.map (·.name)).zip values)).names = t.columns.map (·.name) := by
  have paired : ((t.columns.map (·.name)).zip values).map Prod.fst = t.columns.map (·.name) :=
    List.map_fst_zip (by rw [List.length_map]; exact Nat.le_of_eq size.symm)
  have fields := Row.fields_ofList (by rw [paired]; exact distinct)
  exact ⟨fields, by rw [Row.names, fields, paired]⟩

theorem Complete.insertValues {t after : Table} {values : List Value} (ht : t.Complete)
    (h : t.insertValues values = .ok after) : after.Complete := by
  obtain ⟨size, h⟩ := (insertValues_eq_ok_iff t after values).mp h
  obtain ⟨row, hrow, -, -, rfl⟩ := (insert_eq_ok_iff t after _).mp h
  have names : row.names = t.columns.map (·.name) := by
    have accepted := names_of_accepted ((acceptRow_eq_ok_iff t _ row).mp hrow).1
    exact accepted.trans (fields_ofList_values ht.distinct size).2
  refine ⟨ht.distinct, ?_⟩
  intro stored hm
  rw [rows_append, Array.mem_push] at hm
  rcases hm with old | rfl
  · exact ht.rows stored old
  · exact names

/-- A row that has all columns gets no further field by an update. -/
theorem Complete.update {t after : Table} {v : Value} {assignments : Row} (ht : t.Complete)
    (h : t.update v assignments = .ok after) : after.Complete := by
  obtain ⟨p, fs, k, -, accepted, -, rfl⟩ := (update_eq_ok_iff t after v assignments).mp h
  refine ⟨ht.distinct, ?_⟩
  intro stored hm
  obtain ⟨i, hi⟩ := Array.mem_iff_getElem?.mp hm
  rw [rows_setFields, Array.getElem?_modify] at hi
  split at hi
  · obtain ⟨old, hold, rfl⟩ := Option.map_eq_some_iff.mp hi
    have names := ht.rows old (Array.mem_of_getElem? hold)
    refine (old.names_insertAll_of_subset ?_).trans names
    intro f hf
    obtain ⟨c, hc, hn, -⟩ := holds_of_accepted accepted hf
    rw [names, ← hn]
    exact List.mem_map_of_mem hc
  · exact ht.rows stored (Array.mem_of_getElem? hi)

theorem Complete.delete? {t after : Table} {v : Value} (ht : t.Complete)
    (h : t.delete? v = some after) : after.Complete := by
  obtain ⟨p, -, rfl⟩ := (delete?_eq_some_iff t after v).mp h
  refine ⟨ht.distinct, ?_⟩
  intro stored hm
  rw [rows_eraseRow, ← Array.mem_toList_iff, Array.toList_eraseIdxIfInBounds] at hm
  exact ht.rows stored (Array.mem_toList_iff.mp (List.mem_of_mem_eraseIdx hm))

end Table

/-- The names that a projection chooses of a row's: those asked for that are there, each where it is
asked for first. -/
def Projection.chosen : Projection → List String → List String
  | all, ns => ns
  | named asked, ns => (asked.filter (· ∈ ns)).eraseDups

namespace Database

theorem names_projectRow (p : Projection) (r : Row) :
    (projectRow p r).names = p.chosen r.names := by
  cases p with
  | all => rfl
  | named asked => exact r.names_project asked

theorem complete_keptByStatements : KeptByStatements Table.Complete where
  insertValues := Table.Complete.insertValues
  update := Table.Complete.update
  delete? := Table.Complete.delete?

theorem complete_runAll (sqls : List String) : (empty.runAll sqls).AllTables Table.Complete :=
  allTables_empty.runAll_of_statements
    (fun name _ distinct => Table.complete_declared name distinct) complete_keptByStatements sqls

/-- The rows from which a query takes its answer: the stored rows of a table, or those of one table
merged with those of another. -/
inductive Source (db : Database) (q : Query) : Row → Prop
  | stored {t : Table} {x : Row} (alone : q.join = none) (table : db.table? q.table = some t)
      (row : x ∈ t.rows) : Source db q x
  | merged {j : Join} {l r : Table} {x y : Row} (join : q.join = some j)
      (left : db.table? q.table = some l) (right : db.table? j.table = some r)
      (leftRow : x ∈ l.rows) (rightRow : y ∈ r.rows) : Source db q (x.merge y r.name)

/-- The names that these rows have, in order, as the columns of the tables decide them. -/
inductive Header (db : Database) (q : Query) : List String → Prop
  | stored {t : Table} (alone : q.join = none) (table : db.table? q.table = some t) :
      Header db q (t.columns.map (·.name))
  | merged {j : Join} {l r : Table} (join : q.join = some j)
      (left : db.table? q.table = some l) (right : db.table? j.table = some r) :
      Header db q (Row.mergedNames (l.columns.map (·.name)) (r.columns.map (·.name)) r.name)

section

variable {db : Database} {q : Query}

theorem Header.names_of_source {ns : List String} (header : db.Header q ns)
    (complete : db.AllTables Table.Complete) {x : Row} (source : db.Source q x) :
    x.names = ns := by
  cases header with
  | stored alone table =>
    cases source with
    | stored _ table' row =>
      obtain rfl := Option.some.inj (table.symm.trans table')
      exact (complete _ _ table).rows x row
    | merged join => exact absurd (alone.symm.trans join) (Option.some_ne_none _).symm
  | merged join left right =>
    cases source with
    | stored alone => exact absurd (alone.symm.trans join) (Option.some_ne_none _).symm
    | merged join' left' right' leftRow rightRow =>
      obtain rfl := Option.some.inj (join.symm.trans join')
      obtain rfl := Option.some.inj (left.symm.trans left')
      obtain rfl := Option.some.inj (right.symm.trans right')
      rw [Row.names_merge, (complete _ _ left).rows _ leftRow, (complete _ _ right).rows _ rightRow]

/-- A query that succeeds has a header, and its answer is made of source rows. -/
theorem exists_header_of_select {rows : List Row} (h : db.select q = .ok rows) :
    (∃ ns, db.Header q ns) ∧
      ∀ row ∈ rows, ∃ x, db.Source q x ∧ projectRow q.columns x = row := by
  cases hj : q.join with
  | none =>
    rw [select_of_join_none db hj] at h
    obtain ⟨t, ht, h⟩ := bind_eq_ok_iff.mp h
    rw [table_eq_ok_iff] at ht
    obtain rfl := Except.ok.inj h
    refine ⟨⟨_, .stored hj ht⟩, ?_⟩
    intro row hrow
    obtain ⟨x, hx, rfl⟩ := List.mem_map.mp hrow
    have stored : x ∈ t.rows := Array.mem_toList_iff.mp (List.mem_of_mem_filter hx)
    exact ⟨x, .stored hj ht stored, rfl⟩
  | some j =>
    rw [select_of_join db hj] at h
    obtain ⟨l, hl, h⟩ := bind_eq_ok_iff.mp h
    obtain ⟨r, hr, h⟩ := bind_eq_ok_iff.mp h
    rw [table_eq_ok_iff] at hl hr
    obtain rfl := Except.ok.inj h
    refine ⟨⟨_, .merged hj hl hr⟩, ?_⟩
    intro row hrow
    obtain ⟨m, hm, rfl⟩ := List.mem_map.mp hrow
    obtain ⟨x, hx, y, hy, -, rfl⟩ := mem_joinRows_iff.mp (List.mem_of_mem_filter hm)
    exact ⟨_, .merged hj hl hr hx hy, rfl⟩

end

/-- After whatever texts every stored row has exactly the columns of its table, in schema order. For
every query on such a database that succeeds the rows that it draws on all have the same names,
which the columns of its tables decide. So have the rows of the answer: all of these names, or, of
the names asked for, the ones that are there, each where it is asked for first. -/
theorem result_sets_rectangular (sqls : List String) :
    (∀ name t, (empty.runAll sqls).table? name = some t →
      ∀ row ∈ t.rows, row.names = t.columns.map (·.name)) ∧
    ∀ q rows, ((empty.runAll sqls).execute (.select q)).1 = .ok (.rows rows) →
      ∃ ns, (empty.runAll sqls).Header q ns ∧
        (∀ x, (empty.runAll sqls).Source q x → x.names = ns) ∧
        ∀ row ∈ rows,
          (∃ x, (empty.runAll sqls).Source q x ∧ projectRow q.columns x = row) ∧
            row.names = q.columns.chosen ns := by
  have complete := complete_runAll sqls
  refine ⟨fun name t ht => (complete name t ht).rows, ?_⟩
  intro q rows h
  rw [execute] at h
  cases hs : (empty.runAll sqls).select q with
  | error e =>
    rw [hs] at h
    cases h
  | ok found =>
    rw [hs] at h
    obtain rfl : found = rows := Outcome.rows.inj (Except.ok.inj h)
    obtain ⟨⟨ns, header⟩, drawn⟩ := exists_header_of_select hs
    refine ⟨ns, header, fun x => header.names_of_source complete, ?_⟩
    intro row hrow
    obtain ⟨x, source, rfl⟩ := drawn row hrow
    refine ⟨⟨x, source, rfl⟩, ?_⟩
    rw [names_projectRow, header.names_of_source complete source]

/-- A field that an update sets keeps its place, and a name of both tables is told apart. -/
theorem result_sets_rectangular_joined_after_update :
    let sqls := ["CREATE TABLE a (id INTEGER PRIMARY KEY, x VARCHAR)",
      "CREATE TABLE b (id INTEGER, y VARCHAR)", "INSERT INTO a VALUES (1, NULL)",
      "INSERT INTO b VALUES (1, 'q')", "UPDATE a SET x = 'p', id = 2 WHERE id = 1",
      "UPDATE a SET id = 1 WHERE id = 2"]
    let q : Query := ⟨.named ["b_id", "nope", "x", "b_id"], "a", some ⟨"b", "id", "id"⟩, none⟩
    ∃ t rows, (empty.runAll sqls).table? "a" = some t ∧
      (∀ row ∈ t.rows, row.names = t.columns.map (·.name)) ∧
      ((empty.runAll sqls).execute (.select q)).1 = .ok (.rows rows) ∧
      rows.map (·.names) = [["b_id", "x"]] ∧
      ∃ ns, (empty.runAll sqls).Header q ns ∧ ∀ row ∈ rows, row.names = q.columns.chosen ns := by
  intro sqls q
  have made : ((empty.runAll sqls).table? "a").isSome = true := by decide +kernel
  have found : ((empty.runAll sqls).select q).toOption.map (·.map (·.names)) =
      some [["b_id", "x"]] := by decide +kernel
  obtain ⟨t, ht⟩ := Option.isSome_iff_exists.mp made
  cases hs : (empty.runAll sqls).select q with
  | error e =>
    rw [hs] at found
    cases found
  | ok rows =>
    have answered : ((empty.runAll sqls).execute (.select q)).1 = .ok (.rows rows) := by
      rw [execute, hs]
      rfl
    rw [hs] at found
    obtain ⟨ns, header, -, names⟩ := (result_sets_rectangular sqls).2 q rows answered
    exact ⟨t, rows, ht, (result_sets_rectangular sqls).1 "a" t ht, answered,
      Option.some.inj found, ns, header, fun row hrow => (names row hrow).2⟩

end Database

end SqlStore
