import SqlStore.Value

/-!
# Rows

A row maps names to values and remembers the order in which the names were first inserted, so
every name stands in it once. Setting a name that is already there replaces its value in place.
Two rows are the same when they have the same names with the same values, in whatever order.
-/

namespace SqlStore

/-- Sets `name` to `value` in a list of named values: in its place if it is there, else at the
end. -/
def setField (name : String) (value : Value) : List (String × Value) → List (String × Value)
  | [] => [(name, value)]
  | f :: fs => if f.1 = name then (name, value) :: fs else f :: setField name value fs

theorem names_setField (name : String) (value : Value) (fs : List (String × Value)) :
    (setField name value fs).map Prod.fst =
      if name ∈ fs.map Prod.fst then fs.map Prod.fst else fs.map Prod.fst ++ [name] := by
  induction fs with
  | nil => simp [setField]
  | cons f fs ih =>
    rw [setField]
    by_cases h : f.1 = name
    · simp [h]
    · have h' : ¬ name = f.1 := fun e => h e.symm
      rw [if_neg h, List.map_cons, List.map_cons, ih]
      by_cases hm : name ∈ fs.map Prod.fst
      · rw [if_pos hm, if_pos (List.mem_cons_of_mem _ hm)]
      · have hm' : name ∉ f.1 :: fs.map Prod.fst := fun hc =>
          (List.mem_cons.mp hc).elim h' hm
        rw [if_neg hm, if_neg hm', List.cons_append]

/-- A row: its named values in order, each name once. -/
structure Row where
  fields : List (String × Value)
  names_nodup : (fields.map Prod.fst).Nodup
  deriving DecidableEq

namespace Row

def empty : Row where
  fields := []
  names_nodup := List.nodup_nil

def names (r : Row) : List String :=
  r.fields.map Prod.fst

def size (r : Row) : Nat :=
  r.fields.length

def isEmpty (r : Row) : Bool :=
  r.fields.isEmpty

def get? (r : Row) (name : String) : Option Value :=
  (r.fields.find? fun f => f.1 == name).map Prod.snd

/-- The value under a name; a missing field reads as `NULL`. -/
def get (r : Row) (name : String) : Value :=
  (r.get? name).getD .null

def contains (r : Row) (name : String) : Bool :=
  r.fields.any fun f => f.1 == name

/-- Sets a name to a value, in its place if the row has it, else at the end. -/
def insert (r : Row) (name : String) (value : Value) : Row where
  fields := setField name value r.fields
  names_nodup := by
    rw [names_setField]
    split
    · exact r.names_nodup
    · next h =>
      rw [List.nodup_append]
      refine ⟨r.names_nodup, by simp, ?_⟩
      intro a ha b hb
      rw [List.mem_singleton.mp hb]
      exact fun e => h (e ▸ ha)

def insertAll (r : Row) (fs : List (String × Value)) : Row :=
  fs.foldl (fun r f => r.insert f.1 f.2) r

def ofList (fs : List (String × Value)) : Row :=
  empty.insertAll fs

/-- The fields whose names are asked for, in the order asked; names the row lacks are left out,
and a name asked for twice stands where it was asked for first. -/
def project (r : Row) (names : List String) : Row :=
  ofList (names.filterMap fun n => (r.get? n).map fun v => (n, v))

/-- Whether every condition `name = value` holds of the row under the equality of queries. -/
def satisfies (r conditions : Row) : Bool :=
  conditions.fields.all fun f => (r.get f.1).sqlEq f.2

def same (r s : Row) : Bool :=
  r.size == s.size && r.fields.all fun f => (s.get? f.1).any f.2.same

/-- The left row's fields, then the right row's fields; a right field whose name is taken by then
goes under the name of its table, an underscore and its own name. -/
def merge (left right : Row) (rightTable : String) : Row :=
  right.fields.foldl
    (fun merged f =>
      merged.insert (if merged.contains f.1 then rightTable ++ "_" ++ f.1 else f.1) f.2)
    left

def display (r : Row) : String :=
  "\x7b" ++ ", ".intercalate (r.fields.map fun f => f.1 ++ ": " ++ f.2.display) ++ "\x7d"

theorem contains_iff (r : Row) (name : String) : r.contains name = true ↔ name ∈ r.names := by
  simp [contains, names]

theorem names_insert (r : Row) (name : String) (value : Value) :
    (r.insert name value).names =
      if r.contains name then r.names else r.names ++ [name] := by
  have h : r.contains name = true ↔ name ∈ r.fields.map Prod.fst := r.contains_iff name
  simp only [names, insert, names_setField, h]

theorem get?_insert (r : Row) (name : String) (value : Value) (other : String) :
    (r.insert name value).get? other = if other = name then some value else r.get? other := by
  have key : ∀ fs : List (String × Value),
      ((setField name value fs).find? fun f => f.1 == other).map Prod.snd =
        if other = name then some value else (fs.find? fun f => f.1 == other).map Prod.snd := by
    intro fs
    induction fs with
    | nil =>
      by_cases h : other = name
      · simp [setField, h]
      · have h' : ¬ name = other := fun e => h e.symm
        simp [setField, h, h']
    | cons f fs ih =>
      rw [setField]
      by_cases hf : f.1 = name
      · by_cases h : other = name
        · simp [hf, h]
        · have h' : ¬ name = other := fun e => h e.symm
          simp [hf, h, h']
      · rw [if_neg hf]
        by_cases ho : f.1 = other
        · have h : ¬ other = name := fun e => hf (ho.trans e)
          simp [ho, h]
        · simp only [List.find?_cons, beq_eq_false_iff_ne.mpr ho]
          exact ih
  exact key r.fields

theorem get?_empty (name : String) : empty.get? name = none :=
  rfl

theorem contains_eq_isSome (r : Row) (name : String) :
    r.contains name = (r.get? name).isSome := by
  rw [contains, get?, Option.isSome_map, Bool.eq_iff_iff, List.find?_isSome, List.any_eq_true]

end Row

end SqlStore
