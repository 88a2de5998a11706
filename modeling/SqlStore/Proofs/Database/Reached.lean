import SqlStore.Database.Run
import SqlStore.Proofs.Table.Calls

/-!
# The databases that come about

Statements, texts and calls on single tables make new tables and change old ones, and no table is
changed in another way. A property that holds of the new tables and that the operations on tables
keep holds therefore of all tables, at all times.
-/

namespace SqlStore.Database

/-- Every table stands under its own name. -/
def Named (db : Database) : Prop :=
  ∀ name t, db.table? name = some t → t.name = name

def AllTables (P : Table → Prop) (db : Database) : Prop :=
  ∀ name t, db.table? name = some t → P t

/-- The databases that come about by statements, by calls on a table and by new tables with
columns of any kind. -/
inductive Reached : Database → Prop
  | empty : Reached empty
  | executed {db : Database} (s : Statement) : Reached db → Reached (db.execute s).2
  | created {db : Database} (name : String) (columns : List Column) :
      Reached db → Reached (db.createTable name columns).2
  | called {db : Database} {name : String} {t : Table} (c : Call) :
      Reached db → db.table? name = some t → Reached (db.put (t.answer c).2)

/-- Databases that have the same tables under the same names list them alike. -/
theorem toList_eq_of_table? {db db' : Database} (h : ∀ n, db.table? n = db'.table? n) :
    db.tables.toList = db'.tables.toList :=
  (Std.TreeMap.Equiv.of_forall_constGet?_eq h).toList_eq

section

variable {db : Database} {P : Table → Prop}

theorem named_empty : empty.Named := by
  intro name t h
  rw [table?_empty] at h
  cases h

theorem Named.put (named : db.Named) (t : Table) : (db.put t).Named := by
  intro name u h
  rw [table?_put] at h
  split at h
  · next same =>
    cases h
    exact same
  · exact named name u h

theorem allTables_empty : empty.AllTables P := by
  intro name t h
  rw [table?_empty] at h
  cases h

theorem AllTables.put (all : db.AllTables P) {t : Table} (ht : P t) : (db.put t).AllTables P := by
  intro name u h
  rw [table?_put] at h
  split at h
  · cases h
    exact ht
  · exact all name u h

/-- A change succeeds with the table of the name changed and put back. -/
theorem change_eq (db : Database) (name : String) (f : Table → Except Fault Table) :
    db.change name f = match db.table? name with
      | none => (.error (.tableNotFound name), db)
      | some t =>
        match f t with
        | .ok after => (.ok .done, db.put after)
        | .error e => (.error e, db) := by
  rw [change, table]
  cases db.table? name with
  | none => rfl
  | some t => rfl

theorem change_eq_done_iff (db after : Database) (name : String)
    (f : Table → Except Fault Table) :
    db.change name f = (.ok .done, after) ↔
      ∃ t u, db.table? name = some t ∧ f t = .ok u ∧ db.put u = after := by
  rw [change_eq]
  cases db.table? name with
  | none => simp
  | some t => cases h : f t <;> simp [h]

theorem AllTables.change (all : db.AllTables P) (name : String) {f : Table → Except Fault Table}
    (kept : ∀ t after, P t → f t = .ok after → P after) : (db.change name f).2.AllTables P := by
  rw [change_eq]
  cases ht : db.table? name with
  | none => exact all
  | some t =>
    simp only []
    cases hf : f t with
    | error e => exact all
    | ok after => exact all.put (kept t after (all name t ht) hf)

theorem Named.change (named : db.Named) (name : String) (f : Table → Except Fault Table) :
    (db.change name f).2.Named := by
  rw [change_eq]
  cases db.table? name with
  | none => exact named
  | some t =>
    simp only []
    cases f t with
    | error e => exact named
    | ok after => exact named.put after

theorem AllTables.createTable (all : db.AllTables P) {name : String} {columns : List Column}
    (new : P (.new name columns)) : (db.createTable name columns).2.AllTables P := by
  rw [Database.createTable]
  cases db.table? name with
  | some _ => exact all
  | none => exact all.put new

theorem Named.createTable (named : db.Named) (name : String) (columns : List Column) :
    (db.createTable name columns).2.Named := by
  rw [Database.createTable]
  cases db.table? name with
  | some _ => exact named
  | none => exact named.put _

theorem insertValues_kept (kept : Table.Kept P) {t after : Table} {values : List Value} (ht : P t)
    (h : t.insertValues values = .ok after) : P after := by
  rw [Table.insertValues] at h
  split at h
  · exact kept.insert ht h
  · cases h

/-- A property of tables that statements keep. They insert by position only, so this is less than
to be kept by all operations. -/
structure KeptByStatements (P : Table → Prop) : Prop where
  insertValues : ∀ {t after : Table} {values : List Value}, P t →
    t.insertValues values = .ok after → P after
  update : ∀ {t after : Table} {v : Value} {assignments : Row}, P t →
    t.update v assignments = .ok after → P after
  delete? : ∀ {t after : Table} {v : Value}, P t → t.delete? v = some after → P after

theorem keptByStatements (kept : Table.Kept P) : KeptByStatements P where
  insertValues := insertValues_kept kept
  update := kept.update
  delete? := kept.delete?

/-- A statement leaves a property of the tables, if it holds of the table that the statement
makes. -/
theorem AllTables.execute (all : db.AllTables P) (kept : KeptByStatements P) (s : Statement)
    (new : ∀ name columns, s = .createTable name columns →
      P (.new name (columns.map (·.declared)))) : (db.execute s).2.AllTables P := by
  cases s with
  | createTable name columns => exact all.createTable (new name columns rfl)
  | insert name values =>
    exact all.change name fun t after ht h => kept.insertValues ht h
  | select q => exact all
  | update u => exact all.change u.table fun t after ht h => kept.update ht h
  | delete d =>
    refine all.change d.table fun t after ht h => ?_
    obtain rfl := Except.ok.inj h
    cases hd : t.delete? d.key with
    | none => exact ht
    | some after => exact kept.delete? ht hd

theorem Named.execute (named : db.Named) (s : Statement) : (db.execute s).2.Named := by
  cases s with
  | createTable name columns => exact named.createTable name _
  | insert name values => exact named.change name _
  | select q => exact named
  | update u => exact named.change u.table _
  | delete d => exact named.change d.table _

theorem Named.run (named : db.Named) (sql : String) : (db.run sql).2.Named := by
  rw [Database.run]
  cases Statement.ofText sql with
  | error e => exact named
  | ok s => exact named.execute s

theorem Named.runAll (named : db.Named) (sqls : List String) : (db.runAll sqls).Named := by
  induction sqls generalizing db with
  | nil => exact named
  | cons sql sqls ih => exact ih (named.run sql)

theorem Reached.named (reached : db.Reached) : db.Named := by
  induction reached with
  | empty => exact named_empty
  | executed s _ ih => exact ih.execute s
  | created name columns _ ih => exact ih.createTable name columns
  | called c _ _ ih => exact ih.put _

/-- What holds of every new table and is kept by the operations holds of all tables. -/
theorem Reached.allTables (reached : db.Reached) (new : ∀ name columns, P (.new name columns))
    (kept : Table.Kept P) : db.AllTables P := by
  induction reached with
  | empty => exact allTables_empty
  | executed s _ ih =>
    exact ih.execute (keptByStatements kept) s fun name columns _ => new name _
  | created name columns _ ih => exact ih.createTable (new name columns)
  | called c _ ht ih => exact ih.put (kept.answer (ih _ _ ht) c)

end

end SqlStore.Database
