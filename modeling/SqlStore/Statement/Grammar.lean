import SqlStore.Statement
import SqlStore.Statement.Reader
import SqlStore.Token.Scan

/-!
# Reading a statement

The grammar, one reader for each of its parts. A name is an identifier or a keyword; a reference
to a column may be qualified by a table, which is dropped. The error is always that of the first
token that does not fit, and nothing may follow a statement but one semicolon.

A text that cannot even be cut into tokens is an unsupported statement unless its leading words
open one of the statements here.
-/

namespace SqlStore

namespace Grammar

open Reader

def name : Reader String :=
  oneOf Token.name? .identifier

def literal : Reader Value :=
  oneOf Token.literal? .literal

/-- `name` or `table.name`, of which the last name counts. -/
def columnRef : Reader String := do
  let n ← name
  if ← accept .dot then name else pure n

/-- `name = literal` -/
def condition : Reader (String × Value) := do
  let n ← name
  expect .equal
  return (n, ← literal)

def columnType : Reader SqlType := do
  match ← front with
  | .ident s =>
    match SqlType.ofName? s with
    | some t => skip; pure t
    | none => fail (.unknownType s)
  | _ => failExpecting .columnType

/-- The constraints of a column, in any order and number; of `NULL` and `NOT NULL` the last one
counts. -/
def constraints (c : Column) : Reader Column
  | .keyword .primary :: .keyword .key :: ts =>
    widen ((List.suffix_cons _ _).trans (List.suffix_cons _ _))
      (constraints { c with primaryKey := true } ts)
  | .keyword .primary :: ts => .error (.unexpected (.token (.keyword .key)) (ts.headD .eof))
  | .keyword .unique :: ts =>
    widen (List.suffix_cons _ _) (constraints { c with unique := true } ts)
  | .keyword .not :: .null :: ts =>
    widen ((List.suffix_cons _ _).trans (List.suffix_cons _ _))
      (constraints { c with nullable := false } ts)
  | .keyword .not :: ts => .error (.unexpected (.token .null) (ts.headD .eof))
  | .null :: ts => widen (List.suffix_cons _ _) (constraints { c with nullable := true } ts)
  | ts => .ok ⟨(c, ts), List.suffix_refl ts⟩

def column : Reader Column := do
  let n ← name
  let t ← columnType
  constraints { name := n, type := t }

/-- One more column, under a name that is not taken. -/
def nextColumn (columns : List Column) : Reader (List Column) := do
  let c ← column
  if columns.any (·.name == c.name) then fail (.duplicateColumn c.name)
  else pure (columns ++ [c])

def createTableRest : Reader Statement := do
  let n ← name
  expect .leftParen
  let columns ← commaFold nextColumn []
  expectAs .rightParen .columnEnd
  return .createTable n columns

def insertRest : Reader Statement := do
  let table ← name
  expect (.keyword .values)
  expect .leftParen
  let values ← commaList literal
  expect .rightParen
  return .insert table values

def projection : Reader Projection := do
  if ← accept .star then pure .all else return .named (← commaList columnRef)

/-- `JOIN table ON column = column`, if it is there. -/
def join? : Reader (Option Join) := do
  if ← accept (.keyword .join) then
    let table ← name
    expect (.keyword .on)
    let left ← columnRef
    expect .equal
    return some ⟨table, left, ← columnRef⟩
  else pure none

/-- `WHERE name = literal`, if it is there. -/
def where? : Reader (Option Row) := do
  if ← accept (.keyword .where) then return some (Row.ofList [← condition]) else pure none

def selectRest : Reader Statement := do
  let columns ← projection
  expect (.keyword .from)
  let table ← name
  let join ← join?
  return .select ⟨columns, table, join, ← where?⟩

def updateRest : Reader Statement := do
  let table ← name
  expect (.keyword .set)
  let assignments ← commaFold (fun (r : Row) => do
    let (n, v) ← condition
    return r.insert n v) Row.empty
  expect (.keyword .where)
  let (keyColumn, key) ← condition
  return .update ⟨table, assignments, keyColumn, key⟩

def deleteRest : Reader Statement := do
  let table ← name
  expect (.keyword .where)
  let (keyColumn, key) ← condition
  return .delete ⟨table, keyColumn, key⟩

/-- A statement, told by its first one or two tokens. -/
def statement : Reader Statement := do
  match ← front, ← second with
  | .keyword .create, .keyword .table => skip; skip; createTableRest
  | .keyword .insert, .keyword .into => skip; skip; insertRest
  | .keyword .select, _ => skip; selectRest
  | .keyword .update, _ => skip; updateRest
  | .keyword .delete, .keyword .from => skip; skip; deleteRest
  | _, _ => fail .unsupportedStatement

/-- A statement with nothing after it but perhaps a semicolon. -/
def whole : Reader Statement := do
  let s ← statement
  let _ ← accept .semicolon
  let t ← front
  if t = .eof then pure s else fail (.trailingInput t)

end Grammar

namespace Statement

def ofTokens (ts : List Token) : Except SyntaxError Statement :=
  (Grammar.whole.run ts).map Prod.fst

/-- Whether the leading words of a text open a statement. -/
def opensStatement (cs : List Char) : Bool :=
  (Text.trimStart cs).head?.any Text.isAlphabetic &&
    let words := (Text.runs Text.isWordChar cs).map Text.upper
    let opened := (words.take 2).map String.ofList
    opened.head? == some "SELECT" || opened.head? == some "UPDATE" ||
      opened == ["CREATE", "TABLE"] || opened == ["INSERT", "INTO"] ||
      opened == ["DELETE", "FROM"]

def ofText (sql : String) : Except SyntaxError Statement :=
  match Token.ofText sql with
  | .ok ts => ofTokens ts
  | .error e => .error (if opensStatement sql.toList then e else .unsupportedStatement)

end Statement

end SqlStore
