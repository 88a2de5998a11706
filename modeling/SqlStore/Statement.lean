import SqlStore.Column
import SqlStore.Row

/-!
# Statements

What a text asks of a database, free of its spelling.
-/

namespace SqlStore

inductive Projection where
  /-- Every column. -/
  | all
  /-- The named columns, in the order asked. -/
  | named (names : List String)
  deriving DecidableEq

/-- The table joined to a query's table, and the columns of the two that have to agree. -/
structure Join where
  table : String
  left : String
  right : String
  deriving DecidableEq

structure Query where
  columns : Projection
  table : String
  join : Option Join
  /-- Conditions `name = value`, all of which have to hold. -/
  conditions : Option Row
  deriving DecidableEq

/-- New values for the row that a key addresses. The column named beside the key is only compared
with the table's key column in order to warn. -/
structure Update where
  table : String
  assignments : Row
  keyColumn : String
  key : Value
  deriving DecidableEq

/-- The removal of the row that a key addresses. -/
structure Delete where
  table : String
  keyColumn : String
  key : Value
  deriving DecidableEq

inductive Statement where
  /-- A new table with columns as they are written. -/
  | createTable (name : String) (columns : List Column)
  /-- A row given by position, one value for each column. -/
  | insert (table : String) (values : List Value)
  | select (query : Query)
  | update (update : Update)
  | delete (delete : Delete)
  deriving DecidableEq

/-- The kind of a statement, as it stands in the journal. -/
def Statement.kind : Statement → String
  | createTable _ _ => "create_table"
  | insert _ _ => "insert"
  | select _ => "select"
  | update _ => "update"
  | delete _ => "delete"

end SqlStore
