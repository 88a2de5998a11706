import SqlStore.Database.Run
import SqlStore.Text.Backspace

/-!
# Interactive sessions

A session takes one line at a time. Blank lines do nothing, `quit` and `exit` end the session,
lines that start with a point are commands about the session, and everything else is a statement,
whose outcome or error is shown. Errors never end a session.
-/

namespace SqlStore.Session

inductive Reply where
  | output (text : String)
  | nothing
  | exit
  deriving DecidableEq

def banner : String :=
  "Welcome to rdbms. Type SQL statements, .help for help, or 'quit' to exit."

def prompt : String := "rdbms> "

def help : String :=
  "\n".intercalate [
    "Statements:",
    "  CREATE TABLE t (col TYPE [PRIMARY KEY] [UNIQUE] [NOT NULL], ...)",
    "  INSERT INTO t VALUES (v1, v2, ...)",
    "  SELECT * | c1, c2 FROM t [JOIN u ON a = b] [WHERE col = value]",
    "  UPDATE t SET c1 = v1, c2 = v2 WHERE pk = value",
    "  DELETE FROM t WHERE pk = value",
    "Types: INTEGER, FLOAT, VARCHAR, BOOLEAN",
    "Meta commands:",
    "  .tables          list tables",
    "  .schema <table>  show a table definition",
    "  .help            show this message",
    "  quit | exit      leave the shell"]

def errorLine (message : String) : String :=
  "Error: " ++ message

/-- The statement that makes a table's schema. -/
def schema (t : Table) : String :=
  "CREATE TABLE " ++ t.name ++ " (" ++ ", ".intercalate (t.columns.map (·.display)) ++ ")"

/-- An outcome as it is shown: one line for each row and their number, or `OK`. -/
def render : Outcome → String
  | .done => "OK"
  | .rows rs =>
    let count := if rs.length = 1 then "(1 row)" else "(" ++ toString rs.length ++ " rows)"
    "\n".intercalate (rs.map (·.display) ++ [count])

/-- The answer to a line that starts with a point. -/
def command (db : Database) (line : String) : String :=
  let words := (Text.words line.toList).map String.ofList
  let name := words.headD ""
  match name, words.tail.head? with
  | ".help", _ => help
  | ".tables", _ => "\n".intercalate db.tableNames
  | ".schema", some table =>
    match db.table table with
    | .ok t => schema t
    | .error e => errorLine e.message
  | ".schema", none => "Usage: .schema <table>"
  | _, _ => errorLine ("unknown command " ++ name ++ ", try .help")

/-- Whether a line ends the session. No character outside ASCII has a letter of these words as its
lowercase form. -/
def isFarewell (line : String) : Bool :=
  let lowered := Text.lower line.toList
  lowered == ['q', 'u', 'i', 't'] || lowered == ['e', 'x', 'i', 't']

def handle (db : Database) (line : String) : Reply × Database :=
  let line := Text.trim line
  if line = "" then (.nothing, db)
  else if isFarewell line then (.exit, db)
  else if line.toList.head? = some '.' then (.output (command db line), db)
  else
    match db.run line with
    | (.ok o, after) => (.output (render o), after)
    | (.error e, after) => (.output (errorLine e.message), after)

/-- What the session does with a line that is read from a file or a pipe, where nothing else makes
its backspaces take effect, if the line can be restored. -/
def enter? (db : Database) (line : String) : Option (Reply × Database) :=
  (Text.applyBackspaces? line).map (handle db)

/-- The text that an output adds to a transcript: itself and the end of its line, unless it is
empty. -/
def printed (text : String) : String :=
  if text = "" then "" else text ++ "\n"

/-- The exit code of a program that breaks down, as a session does on a line that cannot be
restored. -/
def breakdownCode : Nat := 101

/-- The exit code of a session that reads these lines and what it prints after the banner: the
prompt before each line and before the end of the input, and the outputs. -/
def transcript (db : Database) : List String → Nat × String
  | [] => (0, prompt)
  | line :: lines =>
    match enter? db line with
    | none => (breakdownCode, prompt)
    | some (.exit, _) => (0, prompt)
    | some (.nothing, after) => (transcript after lines).map id (prompt ++ ·)
    | some (.output text, after) =>
      (transcript after lines).map id (prompt ++ printed text ++ ·)

end SqlStore.Session
