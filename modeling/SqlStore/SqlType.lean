import SqlStore.Text.Upper

/-!
# Column types

The four types a column can be declared with, under their names in SQL. A name is recognised in
any spelling whose uppercase form is the type's name.
-/

namespace SqlStore

inductive SqlType where
  | int
  | float
  | text
  | bool
  deriving DecidableEq

namespace SqlType

def name : SqlType → String
  | int => "INTEGER"
  | float => "FLOAT"
  | text => "VARCHAR"
  | bool => "BOOLEAN"

def all : List SqlType := [int, float, text, bool]

def ofName? (s : String) : Option SqlType :=
  all.find? fun t => Text.upper s.toList == t.name.toList

theorem mem_all (t : SqlType) : t ∈ all := by
  cases t <;> decide

theorem ofName?_eq_some_iff (s : String) (t : SqlType) :
    ofName? s = some t ↔ Text.upper s.toList = t.name.toList := by
  constructor
  · intro h
    have := List.find?_some h
    simpa using this
  · intro h
    have distinct : ∀ t u : SqlType, t.name.toList = u.name.toList → t = u := by
      intro t u
      cases t <;> cases u <;> decide
    cases hf : ofName? s with
    | none =>
      have := List.find?_eq_none.mp hf t (mem_all t)
      simp [h] at this
    | some u =>
      have hu := List.find?_some hf
      have hu : Text.upper s.toList = u.name.toList := by simpa using hu
      rw [distinct u t (hu ▸ h)]

end SqlType

end SqlStore
