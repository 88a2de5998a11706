import SqlStore.Statement
import SqlStore.Table

/-!
# Databases

A database is its tables, by name. A statement is answered with an outcome or a fault, and with
the database after it; there is nothing to roll back, since a table that is refused a change is
the table that was there before.
-/

namespace SqlStore

structure Database where
  tables : Std.TreeMap String Table

/-- What a statement that succeeds answers: the rows of a query, or that it is done. -/
inductive Outcome where
  | rows (rs : List Row)
  | done
  deriving DecidableEq

namespace Database

def empty : Database where
  tables := ∅

def table? (db : Database) (name : String) : Option Table :=
  db.tables[name]?

/-- The table of a name, or the fault that there is none. -/
def table (db : Database) (name : String) : Except Fault Table :=
  match db.table? name with
  | some t => .ok t
  | none => .error (.tableNotFound name)

def put (db : Database) (t : Table) : Database where
  tables := db.tables.insert t.name t

def tableNames (db : Database) : List String :=
  db.tables.keys

def createTable (db : Database) (name : String) (columns : List Column) :
    Except Fault Outcome × Database :=
  match db.table? name with
  | some _ => (.error (.tableExists name), db)
  | none => (.ok .done, db.put (.new name columns))

/-- Changes the table of a name. If it is missing or refuses, the database stays as it is. -/
def change (db : Database) (name : String) (f : Table → Except Fault Table) :
    Except Fault Outcome × Database :=
  match db.table name >>= f with
  | .ok t => (.ok .done, db.put t)
  | .error e => (.error e, db)

/-- The pairs of rows whose joined columns agree under the equality of queries, for each left row
in order the right rows in order, each pair as one row. -/
def joinRows (left right : Table) (j : Join) : List Row :=
  left.rows.toList.flatMap fun l =>
    (right.rows.toList.filter fun r => (r.get j.right).sqlEq (l.get j.left)).map fun r =>
      l.merge r right.name

def projectRow : Projection → Row → Row
  | .all, r => r
  | .named names, r => r.project names

def select (db : Database) (q : Query) : Except Fault (List Row) := do
  let left ← db.table q.table
  let rows ←
    match q.join with
    | none => pure (left.select q.conditions)
    | some j => do
      let joined := joinRows left (← db.table j.table) j
      match q.conditions with
      | none => pure joined
      | some cs => pure (joined.filter (·.satisfies cs))
  return rows.map (projectRow q.columns)

def execute (db : Database) : Statement → Except Fault Outcome × Database
  | .createTable name columns => db.createTable name (columns.map (·.declared))
  | .insert table values => db.change table (·.insertValues values)
  | .select q => ((db.select q).map .rows, db)
  | .update u => db.change u.table (·.update u.key u.assignments)
  | .delete d => db.change d.table fun t => .ok ((t.delete? d.key).getD t)

theorem table?_empty (name : String) : empty.table? name = none := by
  simp [table?, empty]

theorem table?_put (db : Database) (t : Table) (name : String) :
    (db.put t).table? name = if t.name = name then some t else db.table? name := by
  simp [table?, put, Std.TreeMap.getElem?_insert]

/-- A change that is refused leaves the database as it is. -/
theorem change_eq_of_error {db : Database} {name : String} {f : Table → Except Fault Table}
    {e : Fault} (h : (db.change name f).1 = .error e) : (db.change name f).2 = db := by
  rw [change] at h ⊢
  cases hf : db.table name >>= f with
  | ok t => rw [hf] at h; cases h
  | error e => rfl

end Database

end SqlStore
