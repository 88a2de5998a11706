import SqlStore.Value

/-!
# Faults

The reasons for which a table or a database refuses a call, each with what its message names.
-/

namespace SqlStore

/-- Why a call on a table or a database is refused. -/
inductive Fault where
  | tableExists (table : String)
  | tableNotFound (table : String)
  | unknownColumn (column : String)
  | typeMismatch (column : String) (expected : SqlType) (found : Value)
  | nullViolation (column : String)
  | arityMismatch (expected found : Nat)
  | keyTaken (column : String) (key : Value)
  /-- The first unique column, in schema order, whose value is taken, and the names of the further
  ones. -/
  | uniqueTaken (column : String) (value : Value) (further : List String)
  | rowNotFound (key : Value)
  deriving DecidableEq

namespace Fault

def message : Fault → String
  | tableExists t => "table " ++ t ++ " already exists"
  | tableNotFound t => "table " ++ t ++ " not found"
  | unknownColumn c => "unknown column " ++ c
  | typeMismatch c t v =>
    "value for " ++ c ++ " must be " ++ t.name ++ ", got " ++ v.display
  | nullViolation c => "column " ++ c ++ " cannot be null"
  | arityMismatch e f => "expected " ++ toString e ++ " values, got " ++ toString f
  | keyTaken c v => "primary key violation: " ++ c ++ " = " ++ v.display ++ " already exists"
  | uniqueTaken c v _ =>
    "unique constraint violation for " ++ c ++ ": " ++ v.display ++ " already exists"
  | rowNotFound k => "row not found: no row with primary key " ++ k.display

end Fault

end SqlStore
