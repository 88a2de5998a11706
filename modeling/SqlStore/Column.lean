import SqlStore.Fault

/-!
# Columns

A column has a name, a type and the constraints attached to it. `accept` decides which values it
takes and in which form it keeps them: an integer for a `FLOAT` column becomes a float, so what
is kept always has the column's type or is `NULL`.
-/

namespace SqlStore

structure Column where
  name : String
  type : SqlType
  primaryKey : Bool := false
  unique : Bool := false
  nullable : Bool := true
  deriving DecidableEq

namespace Column

/-- The column as a primary key, which is never `NULL`. -/
def asPrimaryKey (c : Column) : Column :=
  { c with primaryKey := true, nullable := false }

def asUnique (c : Column) : Column :=
  { c with unique := true }

def asNotNull (c : Column) : Column :=
  { c with nullable := false }

/-- The column that a table gets for a column written in a statement: a primary key is never
`NULL`, whatever else was written. -/
def declared (c : Column) : Column :=
  if c.primaryKey then c.asPrimaryKey else c

/-- The form in which the column keeps a value, if it takes the value. -/
def accept (c : Column) (v : Value) : Except Fault Value :=
  if v.isNull then
    if c.nullable then .ok v else .error (.nullViolation c.name)
  else
    let w := v.widen c.type
    if w.type? = some c.type then .ok w else .error (.typeMismatch c.name c.type w)

/-- A column as it is written in a `CREATE TABLE` statement. -/
def display (c : Column) : String :=
  c.name ++ " " ++ c.type.name ++ (if c.primaryKey then " PRIMARY KEY" else "") ++
    (if c.unique then " UNIQUE" else "") ++
    (if !c.nullable && !c.primaryKey then " NOT NULL" else "")

/-- What a column keeps is `NULL` in a nullable column or has the column's type. -/
theorem accept_ok {c : Column} {v w : Value} (h : c.accept v = .ok w) :
    (w = .null ∧ c.nullable = true) ∨ w.type? = some c.type := by
  rw [accept] at h
  split at h
  · next hv =>
    split at h
    · next hn =>
      cases h
      cases v <;> simp_all [Value.isNull]
    · cases h
  · dsimp only at h
    split at h
    · next ht =>
      cases h
      exact Or.inr ht
    · cases h

end Column

end SqlStore
