import SqlStore.Proofs.Database.Rectangular
import SqlStore.Proofs.Session.Schema
import SqlStore.Proofs.Statement.Texts
import SqlStore.Proofs.Table.Inserted
import SqlStore.Proofs.Table.Unique
import SqlStore.Proofs.Value.Shown

/-!
# Which primary key is enforced

A text may declare any number of columns as primary keys, but a table has one key index, and it is
for the first of them. So the first one has distinct values at all times. Every further one is only
never `NULL`: three texts put two rows with the same value into it, whatever else is declared of
the table. They write values that differ in all columns, and then set the column in the second row;
this is not refused even if the column is unique.
-/

namespace SqlStore

open Token (Spelled)

namespace SqlType

def sample (τ : SqlType) (b : Bool) : Value :=
  match τ with
  | .int => .int (if b then 1 else 0)
  | .text => .text (if b then "b" else "a")
  | .bool => .bool b
  | .float => .float (.ofDigits false [if b then '1' else '0'] [])

variable (τ : SqlType) (b : Bool)

theorem type?_sample : (τ.sample b).type? = some τ := by
  cases τ <;> rfl

theorem not_same_sample : (τ.sample b).same (τ.sample !b) = false := by
  cases τ <;> cases b <;> decide +kernel

theorem exists_literal_sample : ∃ t, Spelled t ∧ t.Denotes (τ.sample b) := by
  cases τ with
  | int => exact ⟨_, ⟨_, Value.spells_int _⟩, .number _⟩
  | text =>
    have inside : '\x27' ∉ (if b then "b" else "a").toList := by
      cases b <;> decide
    exact ⟨_, ⟨_, Value.spells_text inside⟩, .string _⟩
  | bool => exact ⟨_, ⟨_, Value.spells_bool b⟩, .bool b⟩
  | float =>
    have digits : Token.IsDigits [if b then '1' else '0'] := by
      refine ⟨List.cons_ne_nil _ _, List.forall_mem_singleton.mpr ?_⟩
      cases b <;> rfl
    exact ⟨_, ⟨_, .number (.point digits (List.forall_mem_nil _))⟩, .float _⟩

end SqlType

namespace Table

/-! ## Rows that differ in every column -/

def samples (t : Table) (b : Bool) : List Value :=
  t.columns.map (·.type.sample b)

def sampleRow (t : Table) (b : Bool) : Row :=
  Row.ofList ((t.columns.map (·.name)).zip (t.samples b))

/-- The table with both rows behind its own. -/
def filled (t : Table) : Table :=
  (t.append (t.sampleRow false)).append (t.sampleRow true)

theorem rows_filled {t : Table} (empty : t.rows = #[]) :
    t.filled.rows = #[t.sampleRow false, t.sampleRow true] := by
  rw [filled, rows_append, rows_append, empty]
  rfl

section

variable {t : Table} (distinct : (t.columns.map (·.name)).Nodup) (b : Bool)

include distinct

theorem fields_sampleRow :
    (t.sampleRow b).fields = t.columns.map fun c => (c.name, c.type.sample b) := by
  have size : (t.samples b).length = t.columns.length := List.length_map _
  rw [sampleRow, (fields_ofList_values distinct size).1, samples, List.zip_map']

theorem get?_sampleRow {c : Column} (hc : c ∈ t.columns) :
    (t.sampleRow b).get? c.name = some (c.type.sample b) := by
  rw [Row.get?_eq_some_iff, fields_sampleRow distinct]
  exact List.mem_map_of_mem hc

theorem get_sampleRow {c : Column} (hc : c ∈ t.columns) :
    (t.sampleRow b).get c.name = c.type.sample b :=
  Row.get_of_get? (get?_sampleRow distinct b hc)

theorem conformsTo_sampleRow : (t.sampleRow b).ConformsTo t.columns where
  fields f hf := by
    rw [fields_sampleRow distinct] at hf
    obtain ⟨c, hc, rfl⟩ := List.mem_map.mp hf
    exact ⟨c, hc, rfl, Or.inr (c.type.type?_sample b)⟩
  required c hc _ := by
    refine ⟨_, get?_sampleRow distinct b hc, fun null => ?_⟩
    have typed := c.type.type?_sample b
    rw [null] at typed
    cases typed

/-- If the table has no row but the other one, the row is inserted. -/
theorem Indexed.insertValues_samples (indexed : t.Indexed)
    (others : ∀ row ∈ t.rows, row = t.sampleRow !b) :
    t.insertValues (t.samples b) = .ok (t.append (t.sampleRow b)) := by
  have apart : ∀ c ∈ t.columns, ∀ other ∈ t.rows,
      ¬ (other.get c.name).same ((t.sampleRow b).get c.name) = true := by
    intro c hc other ho
    rw [others other ho, get_sampleRow distinct _ hc, get_sampleRow distinct _ hc, Value.same_comm,
      c.type.not_same_sample]
    exact Bool.false_ne_true
  have inserted := indexed.insert_of_apart
    (acceptRow_eq_self distinct (conformsTo_sampleRow distinct b))
    (fun d hd => apart d (List.mem_of_find?_eq_some hd))
    fun n hn => by
      obtain ⟨c, hc, -, rfl⟩ := (mem_uniqueNames _ _).mp hn
      exact apart c hc
  exact (insertValues_eq_ok_iff _ _ _).mpr ⟨List.length_map _, inserted⟩

/-- A column that is not the key column can be set to any value of its type. -/
theorem update_of_not_key {p : Nat} {c d : Column} {v w : Value}
    (hc : t.keyColumn? = some c) (hd : d ∈ t.columns) (other : d ≠ c)
    (hp : t.position? v = some p) (typed : w.type? = some d.type) :
    t.update v (Row.ofList [(d.name, w)]) =
      .ok (t.setFields p (t.lookupKey v) none [(d.name, w)]) := by
  have found := column?_eq_some distinct hd
  obtain ⟨takes, same⟩ := Column.Holds.takes (c := d) (Or.inr typed)
  have accepted : (Row.ofList [(d.name, w)]).fields.mapM t.acceptField = .ok [(d.name, w)] := by
    refine (t.acceptFields_eq_ok_iff _ _).mpr ⟨List.forall_mem_singleton.mpr ?_, ?_⟩
    · rw [fitsField, found]
      exact takes
    · have stored : t.storedField (d.name, w) = (d.name, w) := by
        rw [storedField, stored, found]
        exact Prod.ext rfl same
      exact (congrArg (fun f => [f]) stored).symm
  have apart : d.name ≠ c.name := fun h =>
    other (List.inj_on_of_nodup_map distinct hd (List.mem_of_find?_eq_some hc) h)
  have key : t.newKey? (t.lookupKey v) [(d.name, w)] = .ok none := by
    rw [newKey?_eq_ok_iff, hc]
    simp [apart]
  exact (update_eq_ok_iff _ _ _ _).mpr ⟨p, _, none, hp, accepted, key, rfl⟩

/-- A table without rows is filled by two insertions. -/
theorem Indexed.insertValues_filled (indexed : t.Indexed) (empty : t.rows = #[]) :
    t.insertValues (t.samples false) = .ok (t.append (t.sampleRow false)) ∧
      (t.append (t.sampleRow false)).insertValues (t.samples true) = .ok t.filled := by
  have first : t.insertValues (t.samples false) = .ok (t.append (t.sampleRow false)) :=
    indexed.insertValues_samples distinct false (by simp [empty])
  have others : ∀ row ∈ (t.append (t.sampleRow false)).rows, row = t.sampleRow false := by
    rw [rows_append, empty]
    exact fun row h => Array.mem_singleton.mp h
  exact ⟨first, Indexed.insertValues_samples (t := t.append (t.sampleRow false)) distinct true
    (Database.insertValues_kept indexed_kept indexed first) others⟩

/-- An update can then set any column but the key column to the value that it has in the other
row. -/
theorem Indexed.exists_duplicates (indexed : t.Indexed) (empty : t.rows = #[]) {c d : Column}
    (hc : t.keyColumn? = some c) (hd : d ∈ t.columns) (other : d ≠ c) :
    ∃ after, t.filled.update (c.type.sample true)
        (Row.ofList [(d.name, d.type.sample false)]) = .ok after ∧
      after.name = t.name ∧ after.columns = t.columns ∧ ¬ after.Distinct d.name := by
  obtain ⟨first, second⟩ := indexed.insertValues_filled distinct empty
  have filled : t.filled.Indexed := Database.insertValues_kept indexed_kept
    (Database.insertValues_kept indexed_kept indexed first) second
  have position : t.filled.position? (c.type.sample true) = some 1 := by
    have accepted : (t.append (t.sampleRow false)).acceptRow (t.sampleRow true) = .ok _ :=
      acceptRow_eq_self distinct (conformsTo_sampleRow distinct true)
    rw [← get_sampleRow distinct true (List.mem_of_find?_eq_some hc)]
    exact (filled.position?_append distinct accepted hc).trans (by rw [rows_append, empty]; rfl)
  have updated := update_of_not_key (t := t.filled) distinct hc hd other position
    (d.type.type?_sample false)
  refine ⟨_, updated, rfl, rfl, fun apart => ?_⟩
  have nodup : ([(d.name, d.type.sample false)].map Prod.fst).Nodup := List.nodup_singleton _
  have column := values_setFields_of_mem t.filled 1 (t.filled.lookupKey (c.type.sample true)) none
    nodup (List.mem_singleton_self _)
  have values : t.filled.values d.name = [d.type.sample false, d.type.sample true] := by
    rw [Table.values, rows_filled empty, ← get_sampleRow distinct false hd,
      ← get_sampleRow distinct true hd]
    rfl
  rw [Distinct, column, values] at apart
  exact List.rel_of_pairwise_cons apart List.mem_cons_self (Value.same_refl _)

end

/-! ## Tables that a text made -/

/-- The columns of the table are as some text declares them for a table of its name. -/
def Made (t : Table) : Prop :=
  ∃ sql columns, Statement.ofText sql = .ok (.createTable t.name columns) ∧
    t.columns = columns.map (·.declared)

namespace Made

variable {t : Table} (made : t.Made)

include made

theorem distinct : (t.columns.map (·.name)).Nodup := by
  obtain ⟨sql, columns, reads, schema⟩ := made
  rw [schema]
  exact (conforming_declared t.name (Statement.distinctColumns_of_ofText reads)).distinct

/-- What a text named can be named again. -/
theorem exists_names : (∃ u, Spelled u ∧ u.Names t.name) ∧
    ∀ c ∈ t.columns, ∃ u, Spelled u ∧ u.Names c.name := by
  have written : ∀ {n : String}, Token.IsName n → ∃ u, Spelled u ∧ u.Names n :=
    fun name => ⟨_, ⟨_, Token.spells_ofWord name.word⟩, name.names⟩
  obtain ⟨sql, columns, reads, schema⟩ := made
  obtain ⟨table, -, names⟩ := Statement.isName_of_ofText reads
  refine ⟨written table, fun c hc => ?_⟩
  rw [schema] at hc
  obtain ⟨c, listed, rfl⟩ := List.mem_map.mp hc
  rw [Column.declared_name]
  exact written (names c listed)

theorem exists_text_of_samples (b : Bool) :
    ∃ sql, Statement.ofText sql = .ok (.insert t.name (t.samples b)) := by
  refine Statement.exists_text_of_insert made.exists_names.1 ?_ ?_
  · obtain ⟨sql, columns, reads, schema⟩ := made
    obtain ⟨-, nonempty, -⟩ := Statement.isName_of_ofText reads
    simpa [samples, schema] using nonempty
  · intro v hv
    obtain ⟨c, -, rfl⟩ := List.mem_map.mp hv
    exact c.type.exists_literal_sample b

theorem exists_text_of_setting {c d : Column} (hc : c ∈ t.columns) (hd : d ∈ t.columns) :
    ∃ sql, Statement.ofText sql = .ok (.update ⟨t.name,
      Row.ofList [(d.name, d.type.sample false)], c.name, c.type.sample true⟩) := by
  obtain ⟨table, names⟩ := made.exists_names
  exact Statement.exists_text_of_update table (names d hd) (d.type.exists_literal_sample false)
    (names c hc) (c.type.exists_literal_sample true)

end Made

end Table

namespace Database

theorem made_runAll (sqls : List String) : (empty.runAll sqls).AllTables Table.Made := by
  have kept : Table.Kept Table.Made := Table.kept_of_schema fun name columns =>
    ∃ sql written, Statement.ofText sql = .ok (.createTable name written) ∧
      columns = written.map (·.declared)
  exact allTables_empty.runAll_of_texts (keptByStatements kept)
    (fun sql _ columns reads => ⟨sql, columns, reads, rfl⟩) sqls

/-- A text that changes the table that was put last puts the changed table. -/
theorem run_put {sql : String} {s : Statement} {t after : Table} {f : Table → Except Fault Table}
    (reads : Statement.ofText sql = .ok s)
    (changes : ∀ db : Database, db.execute s = db.change t.name f) (h : f t = .ok after)
    (db : Database) : ((db.put t).run sql).2 = (db.put t).put after := by
  have stored : (db.put t).table? t.name = some t := by
    rw [table?_put, if_pos rfl]
  have done := (change_eq_done_iff (db.put t) _ t.name f).mpr ⟨t, after, stored, h, rfl⟩
  rw [run, reads]
  simp only [changes, done]

/-- A table with a further primary key can be made anew, with a value twice in that column. -/
theorem exists_duplicates_of_made {t : Table} (made : t.Made) {c d : Column}
    (hc : t.keyColumn? = some c) (hd : d ∈ t.columns) (other : d ≠ c) :
    ∃ sqls u, (empty.runAll sqls).table? t.name = some u ∧ u.columns = t.columns ∧
      ¬ u.Distinct d.name := by
  let fresh := Table.new t.name t.columns
  have distinct : (fresh.columns.map (·.name)).Nodup := made.distinct
  have indexed : fresh.Indexed := Table.indexed_new t.name t.columns
  obtain ⟨first, second⟩ := indexed.insertValues_filled distinct rfl
  obtain ⟨u, third, name, schema, twice⟩ := indexed.exists_duplicates distinct rfl hc hd other
  obtain ⟨sql₁, reads₁⟩ := made.exists_text_of_samples false
  obtain ⟨sql₂, reads₂⟩ := made.exists_text_of_samples true
  obtain ⟨sql₃, reads₃⟩ := made.exists_text_of_setting (List.mem_of_find?_eq_some hc) hd
  obtain ⟨sql, columns, reads, declared⟩ := made
  have run₀ : (empty.run sql).2 = empty.put fresh := by
    rw [run_of_createTable reads (table?_empty t.name), ← declared]
  have run₁ := run_put (t := fresh) reads₁ (fun _ => rfl) first
  have run₂ := run_put (t := fresh.append (fresh.sampleRow false)) reads₂ (fun _ => rfl) second
  have run₃ := run_put (t := fresh.filled) reads₃ (fun _ => rfl) third
  refine ⟨[sql, sql₁, sql₂, sql₃], u, ?_, schema, twice⟩
  simp only [runAll, List.foldl_cons, List.foldl_nil, run₀, run₁, run₂, run₃]
  exact (table?_put _ _ _).trans (if_pos name)

/-- After whatever texts, a column that is declared a primary key has distinct values if it is the
first such column of its table. If it is a further one, other texts make the table anew, with the
same columns, so that it has a value twice. -/
theorem primary_key_enforced_iff_first {sqls : List String} {name : String} {t : Table}
    (reached : (empty.runAll sqls).table? name = some t) {c : Column} (declared : c ∈ t.columns)
    (key : c.primaryKey = true) :
    (t.keyColumn? = some c → t.Distinct c.name) ∧
      (t.keyColumn? ≠ some c → ∃ sqls' u, (empty.runAll sqls').table? t.name = some u ∧
        u.columns = t.columns ∧ ¬ u.Distinct c.name) := by
  constructor
  · intro first
    have indexed : t.Indexed :=
      allTables_empty.runAll Table.indexed_kept (fun n _ _ => Table.indexed_new n _) sqls name t
        reached
    exact (indexed.keys c first).pairwise
  · intro further
    obtain ⟨k, hk⟩ : ∃ k, t.keyColumn? = some k := by
      rw [← Option.isSome_iff_exists, Table.keyColumn?, List.find?_isSome]
      exact ⟨c, declared, key⟩
    have other : c ≠ k := fun same => further (same ▸ hk)
    exact exists_duplicates_of_made (made_runAll sqls name t reached) hk declared other

/-- Of two primary keys the first is enforced and the second is not. -/
theorem primary_key_enforced_iff_first_of_two :
    let sqls := ["CREATE TABLE t (a INTEGER PRIMARY KEY, b INTEGER UNIQUE PRIMARY KEY)",
      "INSERT INTO t VALUES (1, 1)"]
    ∃ t, (empty.runAll sqls).table? "t" = some t ∧ t.rows.size = 1 ∧ t.Distinct "a" ∧
      ∃ sqls' u, (empty.runAll sqls').table? t.name = some u ∧ u.columns = t.columns ∧
        ¬ u.Distinct "b" := by
  intro sqls
  let a : Column := ⟨"a", .int, true, false, false⟩
  let b : Column := ⟨"b", .int, true, true, false⟩
  have made : ((empty.runAll sqls).table? "t").map (fun t => (t.columns, t.rows.size)) =
      some ([a, b], 1) := by
    decide +kernel
  obtain ⟨t, ht, shape⟩ := Option.map_eq_some_iff.mp made
  obtain ⟨schema, size⟩ := Prod.mk.inj shape
  have first : t.keyColumn? = some a := by
    rw [Table.keyColumn?, schema]
    rfl
  have further : t.keyColumn? ≠ some b := by
    rw [first]
    decide
  exact ⟨t, ht, size, (primary_key_enforced_iff_first ht (by simp [schema]) rfl).1 first,
    (primary_key_enforced_iff_first (c := b) ht (by simp [schema]) rfl).2 further⟩

/-- The second insertion repeats what the first put into the second primary key. -/
theorem further_primary_key_not_enforced :
    ¬ ∀ sqls name t, (empty.runAll sqls).table? name = some t →
      ∀ c ∈ t.columns, c.primaryKey = true → t.Distinct c.name := by
  intro enforced
  let sqls := ["CREATE TABLE t (a INTEGER PRIMARY KEY, b INTEGER PRIMARY KEY)",
    "INSERT INTO t VALUES (1, 1)", "INSERT INTO t VALUES (2, 1)"]
  let b : Column := ⟨"b", .int, true, false, false⟩
  have made : ((empty.runAll sqls).table? "t").map
      (fun t => (decide (b ∈ t.columns), t.values b.name)) =
      some (true, [.int 1, .int 1]) := by
    decide +kernel
  obtain ⟨t, ht, shape⟩ := Option.map_eq_some_iff.mp made
  obtain ⟨declared, values⟩ := Prod.mk.inj shape
  have distinct := enforced sqls "t" t ht b (of_decide_eq_true declared) rfl
  rw [Table.Distinct, values] at distinct
  exact List.rel_of_pairwise_cons distinct List.mem_cons_self (Value.same_refl _)

end Database

end SqlStore
