import SqlStore.Proofs.Table.Fitting
import SqlStore.Proofs.Table.Indexed

/-!
# Which fault an insertion reports

Of a row with several faults the names of its fields should be looked at first, then the values,
then the primary key, then the unique columns. An insertion keeps this order but for the first two:
it looks at name and value of one field after the other, so a value that its column does not take
is reported although a later field names no column.
-/

namespace SqlStore.Table

def Unknown (t : Table) (n : String) : Prop :=
  ∀ c ∈ t.columns, c.name ≠ n

/-- Some row has under the name what the given row would store there. -/
def Taken (t : Table) (r : Row) (n : String) : Prop :=
  ∃ row ∈ t.rows, (row.get n).same (t.stored n (r.get n)) = true

/-- The answer to the insertion of a row: an unknown name before anything else, then a value that
does not fit or is missing, then the key, then the unique columns with a value that is taken, all
of which are told. Otherwise the row is inserted. -/
structure RefusesInOrder (t : Table) (r : Row) : Prop where
  unknown : (∃ n ∈ r.names, t.Unknown n) →
    ∃ n ∈ r.names, t.Unknown n ∧ t.insert r = .error (.unknownColumn n)
  unfit : (∀ n ∈ r.names, ¬ t.Unknown n) → ¬ t.Fits r →
    (∃ n type v, t.insert r = .error (.typeMismatch n type v)) ∨
      ∃ n, t.insert r = .error (.nullViolation n)
  key : t.Fits r → ∀ c, t.keyColumn? = some c → t.Taken r c.name →
    t.insert r = .error (.keyTaken c.name (t.stored c.name (r.get c.name)))
  unique : t.Fits r → (∀ c, t.keyColumn? = some c → ¬ t.Taken r c.name) →
    (∃ n ∈ uniqueNames t.columns, t.Taken r n) →
    ∃ n further, t.insert r = .error (.uniqueTaken n (t.stored n (r.get n)) further) ∧
      ∀ m, m ∈ n :: further ↔ m ∈ uniqueNames t.columns ∧ t.Taken r m
  inserted : t.Fits r → (∀ c, t.keyColumn? = some c → ¬ t.Taken r c.name) →
    (∀ n ∈ uniqueNames t.columns, ¬ t.Taken r n) → ∃ after, t.insert r = .ok after

/-- Of the fields that do not fit, the first names no column. -/
def UnknownFirst (t : Table) (r : Row) : Prop :=
  ∃ before f after, r.fields = before ++ f :: after ∧
    (∀ g ∈ before, t.fitsField g = true) ∧ t.Unknown f.1

variable {t : Table} {r row : Row}

/-! ## Fields -/

theorem unknown_iff {n : String} : t.Unknown n ↔ t.column? n = none := by
  simp [Unknown, column?, List.find?_eq_none]

theorem fieldRefusal_of_unknown {f : String × Value} (unknown : t.Unknown f.1) :
    t.fieldRefusal f = .unknownColumn f.1 := by
  rw [fieldRefusal, unknown_iff.mp unknown]

theorem fitsField_of_unknown {f : String × Value} (unknown : t.Unknown f.1) :
    t.fitsField f = false := by
  rw [fitsField, unknown_iff.mp unknown]
  rfl

/-- A field that names a column is refused for its value. -/
theorem fieldRefusal_of_known {f : String × Value} (known : ¬ t.Unknown f.1) :
    (∃ n type v, t.fieldRefusal f = .typeMismatch n type v) ∨
      ∃ n, t.fieldRefusal f = .nullViolation n := by
  rw [unknown_iff] at known
  obtain ⟨c, hc⟩ := Option.ne_none_iff_exists'.mp known
  rw [fieldRefusal, hc]
  simp only [Column.refusal]
  split
  · exact Or.inr ⟨_, rfl⟩
  · exact Or.inl ⟨_, _, _, rfl⟩

theorem exists_first_unfit (unfit : ∃ f ∈ r.fields, t.fitsField f = false) :
    ∃ before f after, r.fields = before ++ f :: after ∧
      (∀ g ∈ before, t.fitsField g = true) ∧ t.fitsField f = false := by
  have found : (r.fields.find? fun f => !t.fitsField f).isSome = true := by
    simpa [List.find?_isSome] using unfit
  obtain ⟨f, hf⟩ := Option.isSome_iff_exists.mp found
  obtain ⟨refused, before, after, split, fit⟩ := List.find?_eq_some_iff_append.mp hf
  exact ⟨before, f, after, split, fun g hg => by simpa using fit g hg, by simpa using refused⟩

/-- The first field that does not fit decides. -/
theorem insert_of_first_unfit {before after : List (String × Value)} {f : String × Value}
    (split : r.fields = before ++ f :: after) (fit : ∀ g ∈ before, t.fitsField g = true)
    (unfit : t.fitsField f = false) : t.insert r = .error (t.fieldRefusal f) := by
  have good : ∀ g ∈ before, ∃ h, t.acceptField g = .ok h := fun g hg =>
    ⟨t.storedField g, by rw [acceptField_eq, if_pos (fit g hg)]⟩
  have bad : t.acceptField f = .error (t.fieldRefusal f) := by
    rw [acceptField_eq, unfit]
    rfl
  rw [insert, acceptRow, split, mapM_eq_error_of_first good bad]
  rfl

/-- When all fields fit, the first required column that is missing decides. -/
theorem insert_of_missing (fit : ∀ f ∈ r.fields, t.fitsField f = true) {c : Column}
    (missing : (t.columns.find? fun c => !c.nullable && !r.contains c.name) = some c) :
    t.insert r = .error (.nullViolation c.name) := by
  have accepted := (t.acceptFields_eq_ok_iff r.fields _).mpr ⟨fit, rfl⟩
  have nodup := nodup_of_accepted accepted
  have same : ∀ n, (Row.ofList (r.fields.map t.storedField)).contains n = r.contains n := by
    intro n
    rw [Bool.eq_iff_iff, Row.contains_iff, Row.contains_iff, Row.names, Row.fields_ofList nodup,
      names_map_storedField, Row.names]
  rw [insert, acceptRow, accepted]
  simp only [bind, Except.bind, same, missing]
  rfl

theorem not_fits_cases (unfit : ¬ t.Fits r) :
    (∃ f ∈ r.fields, t.fitsField f = false) ∨
      (∀ f ∈ r.fields, t.fitsField f = true) ∧
        ∃ c, (t.columns.find? fun c => !c.nullable && !r.contains c.name) = some c := by
  by_cases fit : ∀ f ∈ r.fields, t.fitsField f = true
  · right
    refine ⟨fit, ?_⟩
    by_contra none
    rw [← Option.isSome_iff_exists, List.find?_isSome] at none
    refine unfit ⟨fit, fun c hc required => ?_⟩
    by_contra absent
    rw [← Row.contains_iff] at absent
    exact none ⟨c, hc, by simp [required, absent]⟩
  · left
    simpa using fit

/-- When every name is known, a row that does not fit is refused for a value. -/
theorem insert_of_unfit (known : ∀ n ∈ r.names, ¬ t.Unknown n) (unfit : ¬ t.Fits r) :
    (∃ n type v, t.insert r = .error (.typeMismatch n type v)) ∨
      ∃ n, t.insert r = .error (.nullViolation n) := by
  rcases not_fits_cases unfit with some | ⟨fit, c, missing⟩
  · obtain ⟨before, f, after, split, fit, hf⟩ := exists_first_unfit some
    have named : f.1 ∈ r.names := List.mem_map_of_mem (split ▸ by simp)
    rw [insert_of_first_unfit split fit hf]
    simpa using fieldRefusal_of_known (known f.1 named)
  · exact Or.inr ⟨c.name, insert_of_missing fit missing⟩

theorem insert_of_unknownFirst (first : t.UnknownFirst r) :
    ∃ n ∈ r.names, t.Unknown n ∧ t.insert r = .error (.unknownColumn n) := by
  obtain ⟨before, f, after, split, fit, unknown⟩ := first
  have named : f.1 ∈ r.names := List.mem_map_of_mem (split ▸ by simp)
  refine ⟨f.1, named, unknown, ?_⟩
  rw [insert_of_first_unfit split fit (fitsField_of_unknown unknown),
    fieldRefusal_of_unknown unknown]

/-- An unknown name is reported only if no unfit value stands before it. -/
theorem unknownFirst_of_refused {n : String} (unknown : ∃ m ∈ r.names, t.Unknown m)
    (refused : t.insert r = .error (.unknownColumn n)) : t.UnknownFirst r := by
  obtain ⟨m, hm, known⟩ := unknown
  obtain ⟨f, hf, rfl⟩ := List.mem_map.mp hm
  obtain ⟨before, g, after, split, fit, unfit⟩ :=
    exists_first_unfit ⟨f, hf, fitsField_of_unknown known⟩
  refine ⟨before, g, after, split, fit, ?_⟩
  by_contra value
  rw [insert_of_first_unfit split fit unfit] at refused
  rcases fieldRefusal_of_known value with ⟨_, _, _, h⟩ | ⟨_, h⟩ <;> simp [h] at refused

/-! ## Keys and unique values -/

theorem insert_of_accepted (accepted : t.acceptRow r = .ok row) :
    t.insert r = do
      t.checkKey row
      t.checkUnique row
      return t.append row := by
  rw [insert, accepted]
  rfl

section

variable (indexed : t.Indexed)

include indexed

theorem Indexed.mem_takenColumns_iff (accepted : t.acceptRow r = .ok row) (n : String) :
    n ∈ t.takenColumns row ↔ n ∈ uniqueNames t.columns ∧ t.Taken r n := by
  rw [Taken, ← get_of_accepted accepted, mem_takenColumns, ← indexed.names, List.mem_map]
  constructor
  · rintro ⟨ix, hix, rfl, taken⟩
    rw [indexed.unique ix hix, exists_mem_values] at taken
    exact ⟨⟨ix, hix, rfl⟩, taken⟩
  · rintro ⟨⟨ix, hix, rfl⟩, taken⟩
    rw [← exists_mem_values, ← indexed.unique ix hix] at taken
    exact ⟨ix, hix, rfl, taken⟩

theorem Indexed.insert_of_key_taken (fits : t.Fits r) {c : Column} (hc : t.keyColumn? = some c)
    (taken : t.Taken r c.name) :
    t.insert r = .error (.keyTaken c.name (t.stored c.name (r.get c.name))) := by
  obtain ⟨row, accepted⟩ := fits.exists_accepted
  have held := (indexed.contains_key_iff hc _).mpr taken
  rw [insert_of_accepted accepted, checkKey, hc]
  simp only [get_of_accepted accepted, held, if_true]
  rfl

section

variable (free : ∀ c, t.keyColumn? = some c → ¬ t.Taken r c.name)

include free

theorem Indexed.insert_of_free_key (accepted : t.acceptRow r = .ok row) :
    t.insert r = do
      t.checkUnique row
      return t.append row := by
  have checked : t.checkKey row = .ok () := by
    rw [checkKey_eq_ok_iff]
    intro c hc
    rw [← Bool.not_eq_true, indexed.contains_key_iff hc, get_of_accepted accepted]
    exact free c hc
  rw [insert_of_accepted accepted, checked]
  rfl

theorem Indexed.insert_of_unique_taken (fits : t.Fits r)
    (taken : ∃ n ∈ uniqueNames t.columns, t.Taken r n) :
    ∃ n further, t.insert r = .error (.uniqueTaken n (t.stored n (r.get n)) further) ∧
      ∀ m, m ∈ n :: further ↔ m ∈ uniqueNames t.columns ∧ t.Taken r m := by
  obtain ⟨row, accepted⟩ := fits.exists_accepted
  have told := indexed.mem_takenColumns_iff accepted
  rw [indexed.insert_of_free_key free accepted, checkUnique]
  cases columns : t.takenColumns row with
  | nil =>
    obtain ⟨n, hn, held⟩ := taken
    have mem := (told n).mpr ⟨hn, held⟩
    rw [columns] at mem
    cases mem
  | cons n further =>
    rw [columns] at told
    refine ⟨n, further, ?_, told⟩
    rw [← get_of_accepted accepted]
    rfl

theorem Indexed.insert_of_fresh (fits : t.Fits r)
    (fresh : ∀ n ∈ uniqueNames t.columns, ¬ t.Taken r n) : ∃ after, t.insert r = .ok after := by
  obtain ⟨row, accepted⟩ := fits.exists_accepted
  have none : t.takenColumns row = [] := by
    refine List.eq_nil_iff_forall_not_mem.mpr fun n hn => ?_
    obtain ⟨hn, taken⟩ := (indexed.mem_takenColumns_iff accepted n).mp hn
    exact fresh n hn taken
  rw [indexed.insert_of_free_key free accepted, checkUnique, none]
  exact ⟨_, rfl⟩

end

end

/-- After whatever calls on a table an insertion reports the faults of a row in the documented order
exactly when, if the row has unknown names, one of them comes before every value that does not fit.
In any case the first field that does not fit decides. -/
theorem insert_refuses_in_order_iff (name : String) (columns : List Column) (calls : List Call)
    (r : Row) :
    let t := (new name columns).afterAll calls
    (t.RefusesInOrder r ↔ ((∃ n ∈ r.names, t.Unknown n) → t.UnknownFirst r)) ∧
      ∀ before f after, r.fields = before ++ f :: after →
        (∀ g ∈ before, t.fitsField g = true) → t.fitsField f = false →
        t.insert r = .error (t.fieldRefusal f) := by
  intro t
  have indexed : t.Indexed := indexed_kept.afterAll (indexed_new name columns) calls
  refine ⟨⟨?_, ?_⟩, fun before f after => insert_of_first_unfit⟩
  · intro ordered unknown
    obtain ⟨n, -, -, refused⟩ := ordered.unknown unknown
    exact unknownFirst_of_refused unknown refused
  · intro first
    exact {
      unknown := fun unknown => insert_of_unknownFirst (first unknown)
      unfit := insert_of_unfit
      key := fun fits _ hc taken => indexed.insert_of_key_taken fits hc taken
      unique := fun fits free taken => indexed.insert_of_unique_taken free fits taken
      inserted := fun fits free fresh => indexed.insert_of_fresh free fits fresh }

/-- The value is reported and the unknown name behind it is not. -/
theorem insert_not_in_order :
    ¬ ∀ (name : String) (columns : List Column) (calls : List Call) (r : Row),
      ((new name columns).afterAll calls).RefusesInOrder r := by
  intro ordered
  let t := new "t" [{ name := "a", type := .int }]
  let r := Row.ofList [("a", .text "x"), ("b", .int 1)]
  have refused : t.insert r = .error (.typeMismatch "a" .int (.text "x")) := rfl
  have unknown : t.Unknown "b" := by simp [Unknown, t, new]
  obtain ⟨n, -, -, reported⟩ := (ordered "t" _ [] r).unknown ⟨"b", by decide, unknown⟩
  cases refused.symm.trans reported

end SqlStore.Table
