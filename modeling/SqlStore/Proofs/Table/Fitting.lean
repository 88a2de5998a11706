import SqlStore.Proofs.Table.Calls

/-!
# Rows that fit a table

Which values a column takes, which rows a table takes as far as its columns go, and what it stores
for them. A name stands for the first column that has it, a missing field for `NULL`, which stays
`NULL` when it is stored.
-/

namespace SqlStore

namespace Column

/-- Whether the column takes a value: `NULL` if it is nullable, another value if it has the type of
the column, once it has been widened. -/
def takes (c : Column) (v : Value) : Bool :=
  if v.isNull then c.nullable else (v.widen c.type).type? == some c.type

def refusal (c : Column) (v : Value) : Fault :=
  if v.isNull then .nullViolation c.name else .typeMismatch c.name c.type (v.widen c.type)

theorem accept_eq (c : Column) (v : Value) :
    c.accept v = if c.takes v then .ok (v.widen c.type) else .error (c.refusal v) := by
  cases v with
  | null => rfl
  | _ => simp only [accept, takes, refusal, Value.isNull, Bool.false_eq_true, if_false, beq_iff_eq]

theorem accept_eq_ok_iff (c : Column) (v w : Value) :
    c.accept v = .ok w ↔ c.takes v = true ∧ w = v.widen c.type := by
  rw [accept_eq]
  by_cases h : c.takes v = true
  · simp [h, eq_comm]
  · simp [h]

end Column

namespace Table

def fitsField (t : Table) (f : String × Value) : Bool :=
  (t.column? f.1).any (·.takes f.2)

def fieldRefusal (t : Table) (f : String × Value) : Fault :=
  match t.column? f.1 with
  | none => .unknownColumn f.1
  | some c => c.refusal f.2

def stored (t : Table) (name : String) (v : Value) : Value :=
  match t.column? name with
  | none => v
  | some c => v.widen c.type

def storedField (t : Table) (f : String × Value) : String × Value :=
  (f.1, t.stored f.1 f.2)

/-- Every field of the row fits, and the row has all columns that have to have a value. -/
structure Fits (t : Table) (r : Row) : Prop where
  fields : ∀ f ∈ r.fields, t.fitsField f = true
  required : ∀ c ∈ t.columns, c.nullable = false → c.name ∈ r.names

variable (t : Table)

theorem stored_null (n : String) : t.stored n .null = .null := by
  rw [stored]
  cases t.column? n <;> rfl

theorem names_map_storedField (fs : List (String × Value)) :
    (fs.map t.storedField).map Prod.fst = fs.map Prod.fst := by
  rw [List.map_map]
  rfl

theorem acceptField_eq (f : String × Value) :
    t.acceptField f =
      if t.fitsField f then .ok (t.storedField f) else .error (t.fieldRefusal f) := by
  rw [acceptField, fitsField, fieldRefusal, storedField, stored]
  cases t.column? f.1 with
  | none => rfl
  | some c =>
    simp only [Column.accept_eq, Option.any_some]
    cases c.takes f.2 <;> rfl

theorem acceptFields_eq_ok_iff (fs gs : List (String × Value)) :
    fs.mapM t.acceptField = .ok gs ↔
      (∀ f ∈ fs, t.fitsField f = true) ∧ gs = fs.map t.storedField := by
  have field : ∀ f g, t.acceptField f = .ok g ↔
      t.fitsField f = true ∧ t.storedField f = g := by
    intro f g
    rw [acceptField_eq]
    by_cases h : t.fitsField f = true <;> simp [h]
  have stored : List.Forall₂ (fun f g => t.storedField f = g) fs gs ↔
      gs = fs.map t.storedField := by
    rw [← List.forall₂_map_left_iff, List.forall₂_eq_eq_eq, eq_comm]
  simp only [mapM_eq_ok_iff, field, List.forall₂_and_left, stored]

variable {t} {r row : Row}

/-- A row is accepted exactly when it fits, with every value in its stored form. -/
theorem acceptRow_eq_ok_iff_fits :
    t.acceptRow r = .ok row ↔
      t.Fits r ∧ row.fields = r.fields.map t.storedField := by
  rw [acceptRow_eq_ok_iff, acceptFields_eq_ok_iff]
  have names (h : row.fields = r.fields.map t.storedField) : row.names = r.names := by
    rw [Row.names, h, names_map_storedField, Row.names]
  constructor
  · rintro ⟨⟨fields, h⟩, present⟩
    refine ⟨⟨fields, fun c hc required => ?_⟩, h⟩
    rw [← names h, ← Row.contains_iff]
    exact present c hc required
  · rintro ⟨⟨fields, required⟩, h⟩
    refine ⟨⟨fields, h⟩, fun c hc present => ?_⟩
    rw [Row.contains_iff, names h]
    exact required c hc present

theorem Fits.exists_accepted (h : t.Fits r) : ∃ row, t.acceptRow r = .ok row := by
  have nodup : ((r.fields.map t.storedField).map Prod.fst).Nodup := by
    rw [names_map_storedField]
    exact r.names_nodup
  exact ⟨⟨_, nodup⟩, acceptRow_eq_ok_iff_fits.mpr ⟨h, rfl⟩⟩

/-- What the accepted row has under a name is the stored form of what was given. -/
theorem get_of_accepted (h : t.acceptRow r = .ok row) (n : String) :
    row.get n = t.stored n (r.get n) := by
  have found : (row.fields.find? fun f => f.1 == n) =
      (r.fields.find? fun f => f.1 == n).map t.storedField := by
    rw [(acceptRow_eq_ok_iff_fits.mp h).2, List.find?_map]
    rfl
  rw [Row.get, Row.get?, found, Row.get, Row.get?]
  cases hf : r.fields.find? fun f => f.1 == n with
  | none => exact (t.stored_null n).symm
  | some f =>
    have named : f.1 = n := by simpa using List.find?_some hf
    exact congrArg (t.stored · f.2) named

end Table

end SqlStore
