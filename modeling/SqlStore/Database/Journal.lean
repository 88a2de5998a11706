import SqlStore.Database.Run

/-!
# The journal

What a statement leaves in the journal, read off the database before it: that it is executed,
which tables are made and which indexes rebuilt, and where an update or a deletion names a column
that is not the primary key or addresses no row. A text that is no statement leaves nothing.
-/

namespace SqlStore

inductive Level where
  | debug
  | info
  | warn
  deriving DecidableEq

def Level.name : Level → String
  | debug => "DEBUG"
  | info => "INFO"
  | warn => "WARN"

/-- An entry of the journal. -/
inductive Event where
  | executing (kind : String)
  | createdTable (table : String) (columns : Nat)
  | otherColumn (table column keyColumn : String)
  | noKey (table : String)
  | nothingDeleted (table : String) (key : Value)
  | rebuiltKeyIndex (table : String) (rows : Nat)
  | rebuiltUniqueIndex (table column : String)
  deriving DecidableEq

namespace Event

def level : Event → Level
  | createdTable _ _ => .info
  | otherColumn _ _ _ | noKey _ => .warn
  | _ => .debug

def message : Event → String
  | executing _ => "executing statement"
  | createdTable _ _ => "created table"
  | otherColumn _ _ _ =>
    "WHERE column is not the primary key, looking the value up as a primary key"
  | noKey _ => "table has no primary key, no row can match"
  | nothingDeleted _ _ => "no row to delete"
  | rebuiltKeyIndex _ _ => "rebuilt primary key index"
  | rebuiltUniqueIndex _ _ => "rebuilt unique index"

def details : Event → List (String × String)
  | executing k => [("kind", k)]
  | createdTable t n => [("table", t), ("columns", toString n)]
  | otherColumn t c k => [("table", t), ("column", c), ("primary_key", k)]
  | noKey t => [("table", t)]
  | nothingDeleted t k => [("table", t), ("key", k.display)]
  | rebuiltKeyIndex t n => [("table", t), ("rows", toString n)]
  | rebuiltUniqueIndex t c => [("table", t), ("column", c)]

/-- An entry as a line: level, message, particulars. -/
def display (e : Event) : String :=
  " ".intercalate (e.level.name :: e.message :: e.details.map fun d => d.1 ++ "=" ++ d.2)

end Event

namespace Table

/-- The warning about a condition on a column that is not the primary key. -/
def keyWarning (t : Table) (column : String) : List Event :=
  match t.keyColumn? with
  | none => [.noKey t.name]
  | some c => if c.name = column then [] else [.otherColumn t.name column c.name]

def updateEvents (t : Table) (u : Update) : List Event :=
  t.keyWarning u.keyColumn ++
    match t.update u.key u.assignments with
    | .error _ => []
    | .ok _ =>
      (u.assignments.names.filter fun n => t.uniqueIndexes.any (·.1 == n)).map
        (.rebuiltUniqueIndex t.name)

def deleteEvents (t : Table) (d : Delete) : List Event :=
  t.keyWarning d.keyColumn ++
    match t.delete? d.key with
    | none => [.nothingDeleted t.name d.key]
    | some after =>
      .rebuiltKeyIndex t.name after.rows.size ::
        t.uniqueIndexes.map fun ix => .rebuiltUniqueIndex t.name ix.1

end Table

namespace Database

def events (db : Database) (s : Statement) : List Event :=
  .executing s.kind ::
    match s with
    | .createTable name columns =>
      if (db.table? name).isSome then [] else [.createdTable name columns.length]
    | .insert _ _ | .select _ => []
    | .update u => ((db.table? u.table).map (·.updateEvents u)).getD []
    | .delete d => ((db.table? d.table).map (·.deleteEvents d)).getD []

/-- The entries of a text. -/
def journal (db : Database) (sql : String) : List Event :=
  match Statement.ofText sql with
  | .error _ => []
  | .ok s => db.events s

end Database

end SqlStore
