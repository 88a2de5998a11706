import SqlStore.Proofs.Database.Reached
import SqlStore.Proofs.Statement.Grammar
import SqlStore.Proofs.Table.Conformance

/-!
# Databases that come about by texts

A text gives a new table columns of distinct names and a primary key that is not nullable. So the
rows of all tables conform to their columns, and no primary key is `NULL`.
-/

namespace SqlStore

theorem Column.declared_name (c : Column) : c.declared.name = c.name := by
  rw [declared]
  split <;> rfl

/-- Whatever else is written of a primary key, it is not nullable. -/
theorem Column.declared_required (c : Column) (h : c.declared.primaryKey = true) :
    c.declared.nullable = false := by
  rw [declared] at h ⊢
  split
  · rfl
  · next other =>
    rw [if_neg other] at h
    exact absurd h other

namespace Table

def KeysRequired (t : Table) : Prop :=
  ∀ c ∈ t.columns, c.primaryKey = true → c.nullable = false

theorem keysRequired_declared (name : String) (columns : List Column) :
    (new name (columns.map (·.declared))).KeysRequired := by
  intro c hc
  obtain ⟨written, -, rfl⟩ := List.mem_map.mp hc
  exact written.declared_required

theorem conforming_declared (name : String) {columns : List Column}
    (distinct : (columns.map (·.name)).Nodup) :
    (new name (columns.map (·.declared))).Conforming := by
  apply conforming_new
  have names : (columns.map (·.declared)).map (·.name) = columns.map (·.name) := by
    rw [List.map_map]
    exact List.map_congr_left fun c _ => c.declared_name
  rw [names]
  exact distinct

theorem keysRequired_kept : Kept KeysRequired :=
  kept_of_schema fun _ columns => ∀ c ∈ columns, c.primaryKey = true → c.nullable = false

end Table

namespace Database

section

variable {db : Database} {P : Table → Prop} (kept : KeptByStatements P)

include kept

/-- A text leaves a property of the tables, if it holds of the table that the text makes. -/
theorem AllTables.run (all : db.AllTables P) {sql : String}
    (new : ∀ name columns, Statement.ofText sql = .ok (.createTable name columns) →
      P (.new name (columns.map (·.declared)))) : (db.run sql).2.AllTables P := by
  rw [Database.run]
  cases hs : Statement.ofText sql with
  | error e => exact all
  | ok s =>
    refine all.execute kept s fun name columns created => ?_
    subst created
    exact new name columns hs

/-- What holds of the tables that texts make and is kept by statements holds of all tables after
any texts. -/
theorem AllTables.runAll_of_texts (all : db.AllTables P)
    (new : ∀ sql name columns, Statement.ofText sql = .ok (.createTable name columns) →
      P (.new name (columns.map (·.declared)))) (sqls : List String) :
    (db.runAll sqls).AllTables P := by
  induction sqls generalizing db with
  | nil => exact all
  | cons sql sqls ih => exact ih (all.run kept (new sql))

end

/-- Of the columns that a text gives a table only the distinct names need to be known. -/
theorem AllTables.runAll_of_statements {db : Database} {P : Table → Prop}
    (new : ∀ (name : String) (columns : List Column), (columns.map (·.name)).Nodup →
      P (.new name (columns.map (·.declared)))) (all : db.AllTables P) (kept : KeptByStatements P)
    (sqls : List String) : (db.runAll sqls).AllTables P :=
  all.runAll_of_texts kept
    (fun _ name columns reads => new name columns (Statement.distinctColumns_of_ofText reads)) sqls

/-- What the operations on tables keep is kept by statements. -/
theorem AllTables.runAll {db : Database} {P : Table → Prop} (all : db.AllTables P)
    (kept : Table.Kept P)
    (new : ∀ (name : String) (columns : List Column), (columns.map (·.name)).Nodup →
      P (.new name (columns.map (·.declared)))) (sqls : List String) :
    (db.runAll sqls).AllTables P :=
  all.runAll_of_statements new (keptByStatements kept) sqls

/-- After whatever calls on a table whose columns have distinct names all its rows conform to the
columns: no field is foreign, every value is `NULL` in a nullable column or of the column's type,
and no column that has to have a value lacks one. After whatever texts the columns of every table
have distinct names and its primary keys are not nullable, so that none of them is `NULL`. -/
theorem stored_rows_conform :
    (∀ (name : String) (columns : List Column) (calls : List Call),
      (columns.map (·.name)).Nodup →
      ∀ row ∈ ((Table.new name columns).afterAll calls).rows,
        row.names.Nodup ∧ row.ConformsTo columns) ∧
    ∀ sqls name t, (empty.runAll sqls).table? name = some t →
      (t.columns.map (·.name)).Nodup ∧
      (∀ c ∈ t.columns, c.primaryKey = true → c.nullable = false) ∧
      ∀ row ∈ t.rows, row.names.Nodup ∧ row.ConformsTo t.columns ∧
        ∀ c ∈ t.columns, c.primaryKey = true → row.get c.name ≠ .null := by
  constructor
  · intro name columns calls distinct row hrow
    have start := Table.conforming_new name distinct
    have conforming := Table.conforming_kept.afterAll start calls
    have conforms := conforming.rows row hrow
    rw [Table.columns_afterAll] at conforms
    exact ⟨row.names_nodup, conforms⟩
  · intro sqls name t ht
    have conforming : t.Conforming :=
      allTables_empty.runAll Table.conforming_kept
        (fun _ _ distinct => Table.conforming_declared _ distinct) sqls name t ht
    have required : t.KeysRequired :=
      allTables_empty.runAll Table.keysRequired_kept
        (fun n columns _ => Table.keysRequired_declared n columns) sqls name t ht
    refine ⟨conforming.distinct, required, ?_⟩
    intro row hrow
    have conforms := conforming.rows row hrow
    refine ⟨row.names_nodup, conforms, ?_⟩
    intro c hc key
    obtain ⟨v, hv, hne⟩ := conforms.required c hc (required c hc key)
    rw [Row.get_of_get? hv]
    exact hne

/-- An integer that is set in a `FLOAT` column which the row lacked is kept as a float. -/
theorem stored_rows_conform_widened_field :
    let columns : List Column :=
      [{ name := "id", type := .int, nullable := false, primaryKey := true },
        { name := "x", type := .float }]
    let t := (Table.new "t" columns).afterAll
      [.insert (Row.ofList [("id", .int 1)]), .update (.int 1) (Row.ofList [("x", .int 2)])]
    (columns.map (·.name)).Nodup ∧
      t.rows.toList.map (·.fields) = [[("id", .int 1), ("x", .float (.ofInt 2))]] ∧
      ∀ row ∈ t.rows, row.ConformsTo columns := by
  intro columns t
  have distinct : (columns.map (·.name)).Nodup := by decide
  refine ⟨distinct, by decide +kernel, ?_⟩
  intro row hrow
  exact (stored_rows_conform.1 "t" columns _ distinct row hrow).2

end Database

end SqlStore
