import SqlStore.Database
import SqlStore.Statement.Grammar

/-!
# Running a text

A text is read as a statement and answered. One that cannot be read leaves the database alone.
-/

namespace SqlStore.Database

/-- Reads a text as a statement and answers it. -/
def run (db : Database) (sql : String) : Except Error Outcome × Database :=
  match Statement.ofText sql with
  | .error e => (.error (.reading e), db)
  | .ok s =>
    let (answer, after) := db.execute s
    (answer.mapError .running, after)

def runAll (db : Database) (sqls : List String) : Database :=
  sqls.foldl (fun db sql => (db.run sql).2) db

end SqlStore.Database
