import SqlStore.Proofs.Table.Indexed

/-!
# Tables without indexes

A plain table keeps its columns and its rows and decides every call by looking through the rows.
Forgetting the indexes of a table commutes with every call as long as the indexes say what the
rows hold, so from the start a table and a plain table give the same answers. When values are
taken in several unique columns, both name all of them, in the order of the columns.
-/

namespace SqlStore

structure PlainTable where
  columns : List Column
  rows : List Row

namespace PlainTable

def new (columns : List Column) : PlainTable where
  columns
  rows := []

def holds (t : PlainTable) (column : String) (v : Value) : Bool :=
  t.rows.any fun r => (r.get column).same v

/-- Fields in the form in which they are kept, or the fault of the first that is refused. -/
def acceptFields (columns : List Column) :
    List (String × Value) → Except Fault (List (String × Value))
  | [] => .ok []
  | (n, v) :: fs =>
    match columns.find? (·.name == n) with
    | none => .error (.unknownColumn n)
    | some c => do
      let w ← c.accept v
      return (n, w) :: (← acceptFields columns fs)

/-- A row in the form in which it is kept: every field is accepted, then no column that has to
have a value lacks one. -/
def acceptRow (t : PlainTable) (r : Row) : Except Fault Row := do
  let row := Row.ofList (← acceptFields t.columns r.fields)
  match t.columns.find? fun c => !c.nullable && !row.contains c.name with
  | some c => throw (.nullViolation c.name)
  | none => return row

def takenColumns (t : PlainTable) (row : Row) : List String :=
  (Table.uniqueNames t.columns).filter fun n => t.holds n (row.get n)

def checkKey (t : PlainTable) (row : Row) : Except Fault Unit :=
  match t.columns.find? (·.primaryKey) with
  | none => .ok ()
  | some c =>
    let key := row.get c.name
    if t.holds c.name key then .error (.keyTaken c.name key) else .ok ()

def checkUnique (t : PlainTable) (row : Row) : Except Fault Unit :=
  match t.takenColumns row with
  | [] => .ok ()
  | n :: further => .error (.uniqueTaken n (row.get n) further)

def insert (t : PlainTable) (r : Row) : Except Fault PlainTable := do
  let row ← t.acceptRow r
  t.checkKey row
  t.checkUnique row
  return { t with rows := t.rows ++ [row] }

/-- A value in the type of the key column: an integer as a float for a `FLOAT` key, a float that
is an integer in range as that integer for an `INTEGER` key. -/
def keyForm (c : Column) (v : Value) : Value :=
  match c.type, v with
  | .int, .float x => ((x.integral?.bind int64?).map .int).getD v
  | .float, .int i => .float (.ofInt i.toInt)
  | _, v => v

def addresses (c : Column) (v : Value) (r : Row) : Bool :=
  (r.get c.name).same (keyForm c v)

/-- The position of the first row that a value addresses; none without a primary key. -/
def position? (t : PlainTable) (v : Value) : Option Nat :=
  (t.columns.find? (·.primaryKey)).bind fun c => t.rows.findIdx? (addresses c v)

def row? (t : PlainTable) (v : Value) : Option Row :=
  (t.columns.find? (·.primaryKey)).bind fun c => t.rows.find? (addresses c v)

/-- Refuses a new key for the row at `p` that another row has. -/
def checkNewKey (t : PlainTable) (p : Nat) (fields : List (String × Value)) :
    Except Fault Unit :=
  match t.columns.find? (·.primaryKey) with
  | none => .ok ()
  | some c =>
    match fields.find? (·.1 == c.name) with
    | none => .ok ()
    | some f =>
      let changed := t.rows[p]?.any fun r => !(r.get c.name).same f.2
      let others := t.rows.eraseIdx p
      if changed && others.any fun r => (r.get c.name).same f.2 then .error (.keyTaken c.name f.2)
      else .ok ()

def update (t : PlainTable) (v : Value) (assignments : Row) : Except Fault PlainTable :=
  match t.position? v with
  | none => .error (.rowNotFound v)
  | some p => do
    let fields ← acceptFields t.columns assignments.fields
    t.checkNewKey p fields
    return { t with rows := t.rows.modify p (·.insertAll fields) }

def delete? (t : PlainTable) (v : Value) : Option PlainTable :=
  (t.position? v).map fun p => { t with rows := t.rows.eraseIdx p }

def select (t : PlainTable) (conditions : Option Row) : List Row :=
  t.rows.filter fun r => conditions.all r.satisfies

def answer (t : PlainTable) : Call → Answer × PlainTable
  | .insert r =>
    match t.insert r with
    | .ok after => (.done, after)
    | .error f => (.refused f, t)
  | .update v assignments =>
    match t.update v assignments with
    | .ok after => (.done, after)
    | .error f => (.refused f, t)
  | .delete v =>
    match t.delete? v with
    | some after => (.deleted true, after)
    | none => (.deleted false, t)
  | .find v => (.found (t.row? v), t)
  | .select conditions => (.selected (t.select conditions), t)

def answers (t : PlainTable) : List Call → List Answer
  | [] => []
  | c :: cs => (t.answer c).1 :: (t.answer c).2.answers cs

def afterAll (t : PlainTable) (calls : List Call) : PlainTable :=
  calls.foldl (fun t c => (t.answer c).2) t

end PlainTable

namespace Table

/-- The table with its indexes forgotten. -/
def plain (t : Table) : PlainTable where
  columns := t.columns
  rows := t.rows.toList

theorem plain_acceptFields (t : Table) (fs : List (String × Value)) :
    PlainTable.acceptFields t.columns fs = fs.mapM t.acceptField := by
  induction fs with
  | nil => rfl
  | cons f fs ih =>
    rw [List.mapM_cons, PlainTable.acceptFields, ih, acceptField, column?]
    cases t.columns.find? (·.name == f.1) with
    | none => rfl
    | some c =>
      simp only []
      cases c.accept f.2 <;> rfl

theorem plain_acceptRow (t : Table) (r : Row) : t.plain.acceptRow r = t.acceptRow r := by
  rw [PlainTable.acceptRow, acceptRow, ← plain_acceptFields]
  rfl

theorem plain_holds (t : Table) (column : String) (v : Value) :
    t.plain.holds column v = (t.values column).any fun w => w.same v := by
  rw [values, List.any_map]
  rfl

theorem plain_keyForm {t : Table} {c : Column} (hc : t.keyColumn? = some c) (v : Value) :
    PlainTable.keyForm c v = t.lookupKey v := by
  simp only [lookupKey, hc, PlainTable.keyForm]
  cases c.type <;> cases v <;> rfl

section

variable {t : Table} (indexed : t.Indexed)

include indexed

theorem Indexed.plain_holds_key {c : Column} (hc : t.keyColumn? = some c) (v : Value) :
    t.plain.holds c.name v = t.keyIndex.contains v := by
  rw [Bool.eq_iff_iff, plain_holds, List.any_eq_true, (indexed.keys c hc).contains_iff]

theorem Indexed.plain_checkKey (row : Row) : t.plain.checkKey row = t.checkKey row := by
  have columns : t.plain.columns.find? (·.primaryKey) = t.keyColumn? := rfl
  rw [PlainTable.checkKey, checkKey, columns]
  cases hc : t.keyColumn? with
  | none => rfl
  | some c => simp only [indexed.plain_holds_key hc]

theorem Indexed.plain_takenColumns (row : Row) :
    t.plain.takenColumns row = t.takenColumns row := by
  have agree : ∀ ix ∈ t.uniqueIndexes,
      t.plain.holds ix.1 (row.get ix.1) = ix.2.contains (row.get ix.1) := by
    intro ix hix
    rw [Bool.eq_iff_iff, plain_holds, List.any_eq_true, indexed.unique ix hix]
  have columns : t.plain.columns = t.columns := rfl
  rw [PlainTable.takenColumns, takenColumns, columns, ← indexed.names, List.filter_map]
  exact congrArg (List.map Prod.fst) (List.filter_congr agree)

theorem Indexed.plain_insert (r : Row) : t.plain.insert r = (t.insert r).map plain := by
  rw [PlainTable.insert, Table.insert, plain_acceptRow]
  cases t.acceptRow r with
  | error f => rfl
  | ok row =>
    have appended : ({ t.plain with rows := t.plain.rows ++ [row] } : PlainTable) =
        (t.append row).plain := by
      simp [plain, append]
    simp only [bind, Except.bind, indexed.plain_checkKey, PlainTable.checkUnique, checkUnique,
      indexed.plain_takenColumns, appended]
    cases t.checkKey row with
    | error f => rfl
    | ok _ => cases t.takenColumns row <;> rfl

/-- A value addresses the first row with its key, and there is no other. -/
theorem Indexed.plain_position? (v : Value) : t.plain.position? v = t.position? v := by
  have columns : t.plain.columns.find? (·.primaryKey) = t.keyColumn? := rfl
  rw [PlainTable.position?, position?, columns]
  cases hc : t.keyColumn? with
  | none => exact (Std.TreeMap.getElem?_of_isEmpty (indexed.noKeys hc)).symm
  | some c =>
    rw [(indexed.keys c hc).getElem?_eq_findIdx?, values, List.findIdx?_map, Option.bind_some,
      ← plain_keyForm hc]
    rfl

theorem Indexed.plain_row? (v : Value) : t.plain.row? v = t.row? v := by
  have found : t.plain.row? v = (t.plain.position? v).bind fun p => t.plain.rows[p]? := by
    rw [PlainTable.row?, PlainTable.position?]
    cases t.plain.columns.find? (·.primaryKey) with
    | none => rfl
    | some c => exact List.find?_eq_bind_findIdx?_getElem?
  rw [found, indexed.plain_position?, row?]
  simp only [plain, Array.getElem?_toList]

/-- A value that is not the key of the row at `p` is in the index when another row has it. -/
theorem Indexed.contains_iff_others {c : Column} (hc : t.keyColumn? = some c) {p : Nat} {row : Row}
    (hp : t.rows[p]? = some row) {w : Value} (differs : ¬ (row.get c.name).same w = true) :
    t.keyIndex.contains w = true ↔
      ((t.plain.rows.eraseIdx p).any fun r => (r.get c.name).same w) = true := by
  rw [indexed.contains_key_iff hc, List.any_eq_true, plain]
  constructor
  · rintro ⟨r, hr, hs⟩
    obtain ⟨i, hi⟩ := List.mem_iff_getElem?.mp (Array.mem_toList_iff.mpr hr)
    refine ⟨r, List.mem_eraseIdx_iff_getElem?.mpr ⟨i, ?_, hi⟩, hs⟩
    rintro rfl
    rw [Array.getElem?_toList, hp] at hi
    obtain rfl := Option.some.inj hi
    exact differs hs
  · rintro ⟨r, hr, hs⟩
    exact ⟨r, Array.mem_toList_iff.mp (List.mem_of_mem_eraseIdx hr), hs⟩

/-- The key that an update gives to a row is refused for the index as it is for the other rows. -/
theorem Indexed.plain_checkNewKey {v : Value} {p : Nat} (hp : t.position? v = some p)
    (fs : List (String × Value)) :
    t.plain.checkNewKey p fs = (t.newKey? (t.lookupKey v) fs).map fun _ => () := by
  have columns : t.plain.columns.find? (·.primaryKey) = t.keyColumn? := rfl
  rw [PlainTable.checkNewKey, newKey?, columns]
  cases hc : t.keyColumn? with
  | none => rfl
  | some c =>
    simp only []
    cases fs.find? (·.1 == c.name) with
    | none => rfl
    | some f =>
      obtain ⟨row, hrow, hkey⟩ := (indexed.position?_eq_some_iff hc v p).mp hp
      have same : f.2.same (t.lookupKey v) = (row.get c.name).same f.2 := by
        rw [Bool.eq_iff_iff]
        exact ⟨fun h => Value.same_trans hkey (Value.same_symm h),
          fun h => Value.same_trans (Value.same_symm h) hkey⟩
      have plainRow : t.plain.rows[p]? = some row := by
        rw [plain, Array.getElem?_toList, hrow]
      simp only [plainRow, Option.any_some, same]
      by_cases hs : (row.get c.name).same f.2 = true
      · simp only [hs, Bool.not_true, Bool.false_and, if_true, Bool.false_eq_true, if_false]
        rfl
      · have others := indexed.contains_iff_others hc hrow hs
        simp only [hs, Bool.not_false, Bool.true_and, Bool.false_eq_true, if_false]
        by_cases ht : t.keyIndex.contains f.2 = true
        · rw [if_pos (others.mp ht), if_pos ht]
          rfl
        · rw [if_neg (fun h => ht (others.mpr h)), if_neg ht]
          rfl

theorem Indexed.plain_update (v : Value) (assignments : Row) :
    t.plain.update v assignments = (t.update v assignments).map plain := by
  rw [PlainTable.update, Table.update, indexed.plain_position?]
  cases hp : t.position? v with
  | none => rfl
  | some p =>
    have columns : t.plain.columns = t.columns := rfl
    simp only [columns, plain_acceptFields, indexed.plain_checkNewKey hp]
    cases assignments.fields.mapM t.acceptField with
    | error f => rfl
    | ok fs =>
      simp only [bind, Except.bind]
      cases t.newKey? (t.lookupKey v) fs with
      | error f => rfl
      | ok k =>
        have changed : PlainTable.mk t.columns (t.plain.rows.modify p (·.insertAll fs)) =
            (t.setFields p (t.lookupKey v) k fs).plain := by
          simp [plain, setFields]
        exact congrArg Except.ok changed

theorem Indexed.plain_delete? (v : Value) : t.plain.delete? v = (t.delete? v).map plain := by
  have erased : ∀ p, ({ t.plain with rows := t.plain.rows.eraseIdx p } : PlainTable) =
      (t.eraseRow p).plain := by
    intro p
    simp [plain, eraseRow]
  rw [PlainTable.delete?, Table.delete?, indexed.plain_position?, Option.map_map]
  simp only [erased]
  rfl

/-- Forgetting the indexes commutes with every call. -/
theorem Indexed.plain_answer (c : Call) :
    t.plain.answer c = ((t.answer c).1, (t.answer c).2.plain) := by
  cases c with
  | insert r =>
    rw [PlainTable.answer, answer, indexed.plain_insert]
    cases t.insert r <;> rfl
  | update v assignments =>
    rw [PlainTable.answer, answer, indexed.plain_update]
    cases t.update v assignments <;> rfl
  | delete v =>
    rw [PlainTable.answer, answer, indexed.plain_delete?]
    cases t.delete? v <;> rfl
  | find v => rw [PlainTable.answer, answer, indexed.plain_row?]
  | select conditions =>
    cases conditions with
    | none =>
      have all : t.plain.select none = t.select none := List.filter_eq_self.mpr fun _ _ => rfl
      rw [PlainTable.answer, answer, all]
    | some cs => rfl

theorem Indexed.answers_plain (calls : List Call) :
    t.plain.answers calls = t.answers calls ∧
      t.plain.afterAll calls = (t.afterAll calls).plain := by
  induction calls generalizing t with
  | nil => exact ⟨rfl, rfl⟩
  | cons c calls ih =>
    have next : (t.answer c).2.Indexed := indexed_kept.answer indexed c
    have step := indexed.plain_answer c
    have after : t.plain.afterAll (c :: calls) = (t.plain.answer c).2.afterAll calls := rfl
    obtain ⟨same, states⟩ := ih next
    rw [PlainTable.answers, answers, after, step]
    exact ⟨by rw [same], states⟩

end

/-- A table answers every sequence of calls as a table without indexes does, which decides each
call by looking through its rows, and both end with the same columns and rows. -/
theorem answers_eq_plain (name : String) (columns : List Column) (calls : List Call) :
    (new name columns).answers calls = (PlainTable.new columns).answers calls ∧
      ((new name columns).afterAll calls).columns =
        ((PlainTable.new columns).afterAll calls).columns ∧
      ((new name columns).afterAll calls).rows.toList =
        ((PlainTable.new columns).afterAll calls).rows := by
  have start : (new name columns).plain = PlainTable.new columns := rfl
  obtain ⟨same, states⟩ := (indexed_new name columns).answers_plain calls
  rw [start] at same states
  rw [same, states]
  exact ⟨rfl, rfl, rfl⟩

end Table

end SqlStore
