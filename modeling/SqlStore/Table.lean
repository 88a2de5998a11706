import SqlStore.Column
import SqlStore.Integer
import SqlStore.Row
import Std.Data.TreeMap
import Std.Data.TreeSet

/-!
# Tables

A table keeps its columns, its rows in the order of insertion, and indexes for what has to be
distinct: the primary key with the position of each key's row, and for every unique column the
set of values in it. A missing field counts as `NULL`, and `NULL` is an ordinary value of an
index, so a unique column holds it at most once.

Every call that can be refused makes all its checks before it changes anything, so a refusal
comes without a table. An insertion is checked against the indexes alone. An update checks the
types of its values and the primary key, but not the unique columns, whose indexes it rebuilds.
-/

namespace SqlStore

/-- Keys with the positions of their rows. -/
abbrev KeyIndex := Std.TreeMap Value Nat Value.order

/-- The values of a column, each once. -/
abbrev ValueSet := Std.TreeSet Value Value.order

structure Table where
  name : String
  columns : List Column
  rows : Array Row
  keyIndex : KeyIndex
  /-- For every unique column, in schema order, the values in it. -/
  uniqueIndexes : List (String × ValueSet)

namespace Table

/-- The names of the unique columns, each once, in schema order. -/
def uniqueNames (columns : List Column) : List String :=
  ((columns.filter (·.unique)).map (·.name)).eraseDups

def new (name : String) (columns : List Column) : Table where
  name
  columns
  rows := #[]
  keyIndex := ∅
  uniqueIndexes := (uniqueNames columns).map fun n => (n, ∅)

def column? (t : Table) (name : String) : Option Column :=
  t.columns.find? (·.name == name)

/-- The primary key: the first column that is declared as one. -/
def keyColumn? (t : Table) : Option Column :=
  t.columns.find? (·.primaryKey)

def indexKeys (column : String) (rows : Array Row) : KeyIndex :=
  .ofList (rows.toList.map (·.get column)).zipIdx _

def indexValues (column : String) (rows : Array Row) : ValueSet :=
  .ofList (rows.toList.map (·.get column)) _

/-- A field in the form in which its column keeps it. -/
def acceptField (t : Table) (field : String × Value) : Except Fault (String × Value) :=
  match t.column? field.1 with
  | none => .error (.unknownColumn field.1)
  | some c => (c.accept field.2).map fun v => (field.1, v)

/-- A row in the form in which the table keeps it: every field names a column that takes its
value, and no column that has to have a value lacks one. -/
def acceptRow (t : Table) (r : Row) : Except Fault Row := do
  let row := Row.ofList (← r.fields.mapM t.acceptField)
  match t.columns.find? fun c => !c.nullable && !row.contains c.name with
  | some c => throw (.nullViolation c.name)
  | none => return row

def checkKey (t : Table) (row : Row) : Except Fault Unit :=
  match t.keyColumn? with
  | none => .ok ()
  | some c =>
    let key := row.get c.name
    if t.keyIndex.contains key then .error (.keyTaken c.name key) else .ok ()

/-- The unique columns in which another row already has the row's value. -/
def takenColumns (t : Table) (row : Row) : List String :=
  (t.uniqueIndexes.filter fun ix => ix.2.contains (row.get ix.1)).map Prod.fst

def checkUnique (t : Table) (row : Row) : Except Fault Unit :=
  match t.takenColumns row with
  | [] => .ok ()
  | c :: further => .error (.uniqueTaken c (row.get c) further)

def append (t : Table) (row : Row) : Table :=
  { t with
    rows := t.rows.push row
    keyIndex :=
      match t.keyColumn? with
      | none => t.keyIndex
      | some c => t.keyIndex.insert (row.get c.name) t.rows.size
    uniqueIndexes := t.uniqueIndexes.map fun ix => (ix.1, ix.2.insert (row.get ix.1)) }

/-- Inserts a row. The checks are, in this order: the names and values of its fields, the columns
that have to have a value, the primary key, the unique columns. -/
def insert (t : Table) (r : Row) : Except Fault Table := do
  let row ← t.acceptRow r
  t.checkKey row
  t.checkUnique row
  return t.append row

def insertValues (t : Table) (values : List Value) : Except Fault Table :=
  if values.length = t.columns.length then
    t.insert (Row.ofList ((t.columns.map (·.name)).zip values))
  else .error (.arityMismatch t.columns.length values.length)

/-- The key that a value addresses: an integer becomes a float for a `FLOAT` key, and a float that
is an integer in range becomes that integer for an `INTEGER` key. -/
def lookupKey (t : Table) (v : Value) : Value :=
  match t.keyColumn? with
  | none => v
  | some c =>
    match c.type, v with
    | .int, .float x => ((x.integral?.bind int64?).map .int).getD v
    | t, v => v.widen t

def position? (t : Table) (v : Value) : Option Nat :=
  t.keyIndex[t.lookupKey v]?

def row? (t : Table) (v : Value) : Option Row :=
  (t.position? v).bind fun p => t.rows[p]?

/-- The key that a row with key `key` gets from the given fields, if it gets another one; it must
not be the key of another row. -/
def newKey? (t : Table) (key : Value) (fields : List (String × Value)) :
    Except Fault (Option Value) :=
  match t.keyColumn? with
  | none => .ok none
  | some c =>
    match fields.find? (·.1 == c.name) with
    | none => .ok none
    | some f =>
      -- in the index the row's own key is there too
      if f.2.same key then .ok none
      else if t.keyIndex.contains f.2 then .error (.keyTaken c.name f.2)
      else .ok (some f.2)

/-- The table with the given fields set in the row at `p`, whose key `key` becomes `newKey`. The
indexes of the unique columns among the fields are rebuilt. -/
def setFields (t : Table) (p : Nat) (key : Value) (newKey : Option Value)
    (fields : List (String × Value)) : Table :=
  let rows := t.rows.modify p (·.insertAll fields)
  { t with
    rows
    keyIndex :=
      match newKey with
      | none => t.keyIndex
      | some k => (t.keyIndex.erase key).insert k p
    uniqueIndexes := t.uniqueIndexes.map fun ix =>
      if fields.any (·.1 == ix.1) then (ix.1, indexValues ix.1 rows) else ix }

def update (t : Table) (v : Value) (assignments : Row) : Except Fault Table := do
  match t.position? v with
  | none => throw (.rowNotFound v)
  | some p =>
    let key := t.lookupKey v
    -- nothing is set before all is checked
    let fields ← assignments.fields.mapM t.acceptField
    let newKey ← t.newKey? key fields
    return t.setFields p key newKey fields

/-- The table without the row at `p`. The later rows move up, so all indexes are rebuilt. -/
def eraseRow (t : Table) (p : Nat) : Table :=
  let rows := t.rows.eraseIdxIfInBounds p
  { t with
    rows
    keyIndex :=
      match t.keyColumn? with
      | none => ∅
      | some c => indexKeys c.name rows
    uniqueIndexes := t.uniqueIndexes.map fun ix => (ix.1, indexValues ix.1 rows) }

def delete? (t : Table) (v : Value) : Option Table :=
  (t.position? v).map t.eraseRow

def select (t : Table) (conditions : Option Row) : List Row :=
  match conditions with
  | none => t.rows.toList
  | some cs => t.rows.toList.filter (·.satisfies cs)

/-- A set of a column's values holds what some row has there. -/
theorem contains_indexValues (column : String) (rows : Array Row) (v : Value) :
    (indexValues column rows).contains v = rows.toList.any fun r => (r.get column).same v := by
  let _ : BEq Value := ⟨Value.same⟩
  have : Std.LawfulBEqCmp Value.order := ⟨fun {a b} => Value.order_eq_iff_same a b⟩
  rw [indexValues, Std.TreeSet.contains_ofList, List.contains_eq_any_beq, List.any_map]
  refine congrArg (rows.toList.any ·) (funext fun r => ?_)
  exact Value.same_comm v (r.get column)

theorem mem_takenColumns (t : Table) (row : Row) (column : String) :
    column ∈ t.takenColumns row ↔
      ∃ ix ∈ t.uniqueIndexes, ix.1 = column ∧ ix.2.contains (row.get column) = true := by
  simp only [takenColumns, List.mem_map, List.mem_filter]
  constructor
  · rintro ⟨ix, ⟨h, hc⟩, rfl⟩
    exact ⟨ix, h, rfl, hc⟩
  · rintro ⟨ix, h, rfl, hc⟩
    exact ⟨ix, ⟨h, hc⟩, rfl⟩

theorem rows_append (t : Table) (row : Row) : (t.append row).rows = t.rows.push row :=
  rfl

theorem rows_setFields (t : Table) (p : Nat) (key : Value) (newKey : Option Value)
    (fields : List (String × Value)) :
    (t.setFields p key newKey fields).rows = t.rows.modify p (·.insertAll fields) :=
  rfl

theorem rows_eraseRow (t : Table) (p : Nat) :
    (t.eraseRow p).rows = t.rows.eraseIdxIfInBounds p :=
  rfl

end Table

end SqlStore
