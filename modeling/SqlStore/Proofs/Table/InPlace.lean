import SqlStore.Proofs.Procedure
import SqlStore.Proofs.Table.Indexed

/-!
# Calls that write where a table stands

Insertions, updates and deletions as procedures, with one write for every row, field and index
that changes. As long as the indexes say what the rows hold, a procedure ends exactly as the
operation on the table as a whole does: with its result, or refused and with nothing written.
-/

namespace SqlStore

namespace Table

open Procedure

/-- The table with the values in one of its unique columns changed, which may look at the rows. -/
def changeIndex (column : String) (f : Array Row → ValueSet → ValueSet) (t : Table) : Table :=
  { t with uniqueIndexes :=
      t.uniqueIndexes.map fun ix => if ix.1 = column then (ix.1, f t.rows ix.2) else ix }

def addUnique (column : String) (v : Value) : Table → Table :=
  changeIndex column fun _ s => s.insert v

def rebuildUnique (column : String) : Table → Table :=
  changeIndex column fun rows _ => indexValues column rows

def pushRow (row : Row) (t : Table) : Table :=
  { t with rows := t.rows.push row }

def setField (p : Nat) (f : String × Value) (t : Table) : Table :=
  { t with rows := t.rows.modify p (·.insert f.1 f.2) }

def dropRow (p : Nat) (t : Table) : Table :=
  { t with rows := t.rows.eraseIdxIfInBounds p }

def addKey (key : Value) (p : Nat) (t : Table) : Table :=
  { t with keyIndex := t.keyIndex.insert key p }

def dropKey (key : Value) (t : Table) : Table :=
  { t with keyIndex := t.keyIndex.erase key }

def rebuildKeys (t : Table) : Table :=
  match t.keyColumn? with
  | none => t
  | some c => { t with keyIndex := indexKeys c.name t.rows }

def indexedNames (t : Table) : List String :=
  t.uniqueIndexes.map Prod.fst

/-- The names among the fields of columns with an index. -/
def touched (fields : List (String × Value)) (t : Table) : List String :=
  (fields.map Prod.fst).filter fun n => decide (n ∈ t.indexedNames)

/-- Appends a row: the unique indexes one by one, the row and its key. -/
def appendInPlace (row : Row) : Procedure Table Unit := do
  let columns ← look indexedNames
  columns.forM fun column => write (addUnique column (row.get column))
  write (pushRow row)
  match ← look keyColumn? with
  | none => return
  | some c => write fun t => addKey (row.get c.name) (t.rows.size - 1) t

/-- Sets fields of the row at `p`: the fields one by one, its key if it gets another one, and the
indexes of the unique columns among the fields. -/
def setFieldsInPlace (p : Nat) (key : Value) (newKey : Option Value)
    (fields : List (String × Value)) : Procedure Table Unit := do
  let columns ← look (touched fields)
  fields.forM fun f => write (setField p f)
  match newKey with
  | none => pure ()
  | some k => do
    write (dropKey key)
    write (addKey k p)
  columns.forM fun column => write (rebuildUnique column)

/-- Takes out the row at `p`: its key, the row itself, then all indexes are made anew. -/
def eraseRowInPlace (p : Nat) (key : Value) : Procedure Table Unit := do
  write (dropKey key)
  write (dropRow p)
  write rebuildKeys
  let columns ← look indexedNames
  columns.forM fun column => write (rebuildUnique column)

def insertInPlace (r : Row) : Procedure Table Unit := do
  let row ← check fun t : Table => t.acceptRow r
  check fun t : Table => t.checkKey row
  check fun t : Table => t.checkUnique row
  appendInPlace row

def insertValuesInPlace (values : List Value) : Procedure Table Unit := do
  let columns ← look fun t : Table => t.columns
  check fun _ =>
    if values.length = columns.length then .ok ()
    else .error (.arityMismatch columns.length values.length)
  insertInPlace (Row.ofList ((columns.map (·.name)).zip values))

/-- Sets fields of the row that a value addresses. The fields are checked one by one. -/
def updateInPlace (v : Value) (assignments : Row) : Procedure Table Unit := do
  let key ← look fun t : Table => t.lookupKey v
  match ← look fun t : Table => t.position? v with
  | none => check fun _ => .error (.rowNotFound v)
  | some p => do
    let fields ← assignments.fields.mapM fun f => check fun t : Table => t.acceptField f
    let newKey ← check fun t : Table => t.newKey? key fields
    setFieldsInPlace p key newKey fields

/-- Takes out the row that a value addresses. Answers whether there was one. -/
def deleteInPlace (v : Value) : Procedure Table Bool := do
  match ← look fun t : Table => t.position? v with
  | none => return false
  | some p => do
    let key ← look fun t : Table => t.lookupKey v
    eraseRowInPlace p key
    return true

/-- Indexes of different columns can be changed one after another or together. -/
theorem foldl_changeIndex (f : String → Array Row → ValueSet → ValueSet) {ns : List String}
    (nodup : ns.Nodup) (t : Table) :
    ns.foldl (fun t n => t.changeIndex n (f n)) t =
      { t with uniqueIndexes :=
          t.uniqueIndexes.map fun ix =>
            if ix.1 ∈ ns then (ix.1, f ix.1 t.rows ix.2) else ix } := by
  induction ns generalizing t with
  | nil => simp
  | cons n ns ih =>
    rw [List.nodup_cons] at nodup
    rw [List.foldl_cons, ih nodup.2]
    simp only [changeIndex, List.map_map]
    congr 1
    refine List.map_congr_left fun ix _ => ?_
    by_cases h : ix.1 = n
    · subst h
      simp [nodup.1]
    · simp [h]

theorem foldl_setField (p : Nat) (fs : List (String × Value)) (t : Table) :
    fs.foldl (fun t f => setField p f t) t =
      { t with rows := t.rows.modify p (·.insertAll fs) } := by
  induction fs generalizing t with
  | nil =>
    have kept : t.rows.modify p (·.insertAll []) = t.rows := by
      apply Array.ext_getElem?
      intro i
      rw [Array.getElem?_modify]
      split <;> cases t.rows[i]? <;> rfl
    rw [kept]
    rfl
  | cons f fs ih =>
    have joined : (t.rows.modify p (·.insert f.1 f.2)).modify p (·.insertAll fs) =
        t.rows.modify p (·.insertAll (f :: fs)) := by
      apply Array.ext_getElem?
      intro i
      rw [Array.getElem?_modify, Array.getElem?_modify, Array.getElem?_modify]
      split <;> cases t.rows[i]? <;> rfl
    rw [List.foldl_cons, ih]
    simp only [setField, joined]

theorem mem_touched_iff {t : Table} {ix : String × ValueSet} (hix : ix ∈ t.uniqueIndexes)
    (fs : List (String × Value)) : ix.1 ∈ touched fs t ↔ fs.any (·.1 == ix.1) = true := by
  have known : ix.1 ∈ t.indexedNames := List.mem_map_of_mem hix
  simp [touched, List.mem_filter, known]

theorem exec_setFieldsInPlace (t : Table) (p : Nat) (key : Value) (k : Option Value)
    {fs : List (String × Value)} (nodup : (fs.map Prod.fst).Nodup) :
    exec (setFieldsInPlace p key k fs) t = (.ok (), t.setFields p key k fs) := by
  have distinct : (touched fs t).Nodup := nodup.filter _
  have rebuilt : (t.uniqueIndexes.map fun ix =>
      if ix.1 ∈ touched fs t then
        (ix.1, indexValues ix.1 (t.rows.modify p (·.insertAll fs))) else ix) =
      (t.setFields p key k fs).uniqueIndexes :=
    List.map_congr_left fun ix hix => if_congr (mem_touched_iff hix fs) rfl rfl
  rw [setFieldsInPlace, exec_look_bind, exec_bind, exec_forM_write, foldl_setField]
  cases k with
  | none =>
    simp only [rebuildUnique, exec_forM_write, foldl_changeIndex _ distinct, rebuilt]
    rfl
  | some k =>
    simp only [exec_write_bind, dropKey, addKey, rebuildUnique, exec_forM_write,
      foldl_changeIndex _ distinct, rebuilt]
    rfl

theorem exec_updateInPlace (t : Table) (v : Value) (assignments : Row) :
    exec (updateInPlace v assignments) t =
      exec (atOnce fun t : Table => t.update v assignments) t := by
  rw [updateInPlace, exec_look_bind, exec_look_bind, exec_atOnce, Table.update]
  cases t.position? v with
  | none => rfl
  | some p =>
    have whole : exec (atOnce fun t' : Table => assignments.fields.mapM t'.acceptField >>= fun fs =>
        t'.newKey? (t.lookupKey v) fs >>= fun k => pure (t'.setFields p (t.lookupKey v) k fs)) t =
        exec (check (fun t : Table => assignments.fields.mapM t.acceptField) >>= fun fs =>
          check (fun t' : Table => t'.newKey? (t.lookupKey v) fs) >>= fun k =>
          atOnce fun t' : Table => pure (t'.setFields p (t.lookupKey v) k fs)) t := by
      simp only [check_bind_atOnce]
    refine Eq.trans ?_ whole.symm
    simp only [mapM_check]
    refine exec_check_bind_congr fun fs hfs => exec_check_bind_congr fun k _ => ?_
    exact exec_setFieldsInPlace t p (t.lookupKey v) k (nodup_of_accepted hfs)

section

variable {t : Table} (indexed : t.Indexed)

include indexed

theorem Indexed.indexedNames_nodup : t.indexedNames.Nodup := by
  rw [indexedNames, indexed.names]
  exact nodup_eraseDups _

theorem Indexed.foldl_addUnique (row : Row) :
    t.indexedNames.foldl (fun t n => addUnique n (row.get n) t) t =
      { t with uniqueIndexes :=
          t.uniqueIndexes.map fun ix => (ix.1, ix.2.insert (row.get ix.1)) } := by
  have changed := foldl_changeIndex (fun n _ s => s.insert (row.get n)) indexed.indexedNames_nodup t
  refine changed.trans ?_
  congr 1
  exact List.map_congr_left fun ix hix => if_pos (List.mem_map_of_mem hix)

theorem Indexed.exec_appendInPlace (row : Row) :
    exec (appendInPlace row) t = (.ok (), t.append row) := by
  rw [appendInPlace, exec_look_bind, exec_bind, exec_forM_write, indexed.foldl_addUnique]
  simp only [exec_write_bind, pushRow]
  rw [exec_look_bind]
  cases hc : t.columns.find? (·.primaryKey) with
  | none => simp only [keyColumn?, hc, append, exec_pure]
  | some c =>
    simp only [keyColumn?, hc, append, exec_write, addKey, Array.size_push, Nat.add_sub_cancel]

theorem Indexed.exec_insertInPlace (r : Row) :
    exec (insertInPlace r) t = exec (atOnce fun t : Table => t.insert r) t := by
  have whole : (atOnce fun t : Table => t.insert r) =
      (check (fun t : Table => t.acceptRow r) >>= fun row =>
        check (fun t : Table => t.checkKey row) >>= fun _ =>
        check (fun t : Table => t.checkUnique row) >>= fun _ =>
        atOnce fun t : Table => pure (t.append row)) := by
    simp only [check_bind_atOnce]
    rfl
  rw [whole, insertInPlace]
  refine exec_check_bind_congr fun row _ => exec_check_bind_congr fun _ _ =>
    exec_check_bind_congr fun _ _ => ?_
  exact indexed.exec_appendInPlace row

theorem Indexed.exec_insertValuesInPlace (values : List Value) :
    exec (insertValuesInPlace values) t =
      exec (atOnce fun t : Table => t.insertValues values) t := by
  rw [insertValuesInPlace, exec_look_bind, exec_bind, exec_check, exec_atOnce, insertValues]
  by_cases h : values.length = t.columns.length
  · rw [if_pos h, if_pos h]
    exact indexed.exec_insertInPlace _
  · rw [if_neg h, if_neg h]

theorem Indexed.exec_eraseRowInPlace (p : Nat) (key : Value) {c : Column}
    (hc : t.keyColumn? = some c) : exec (eraseRowInPlace p key) t = (.ok (), t.eraseRow p) := by
  have every : ∀ rows : Array Row, (t.uniqueIndexes.map fun ix =>
      if ix.1 ∈ t.indexedNames then (ix.1, indexValues ix.1 rows) else ix) =
      t.uniqueIndexes.map fun ix => (ix.1, indexValues ix.1 rows) := fun rows =>
    List.map_congr_left fun ix hix => if_pos (List.mem_map_of_mem hix)
  have keys : rebuildKeys (dropRow p (dropKey key t)) =
      { t with
        rows := t.rows.eraseIdxIfInBounds p
        keyIndex := indexKeys c.name (t.rows.eraseIdxIfInBounds p) } := by
    have hc : (dropRow p (dropKey key t)).keyColumn? = some c := hc
    rw [rebuildKeys, hc]
    rfl
  have names : indexedNames (rebuildKeys (dropRow p (dropKey key t))) = t.indexedNames := by
    rw [keys]
    rfl
  rw [eraseRowInPlace, exec_write_bind, exec_write_bind, exec_write_bind, exec_look_bind, names,
    keys]
  simp only [rebuildUnique, exec_forM_write, foldl_changeIndex _ indexed.indexedNames_nodup,
    every, eraseRow, hc]

theorem Indexed.exec_deleteInPlace (v : Value) :
    exec (deleteInPlace v) t =
      match t.delete? v with
      | some after => (.ok true, after)
      | none => (.ok false, t) := by
  rw [deleteInPlace, exec_look_bind, Table.delete?]
  cases hp : t.position? v with
  | none => exact exec_pure false t
  | some p =>
    obtain ⟨c, hc⟩ := indexed.exists_keyColumn hp
    have erased := indexed.exec_eraseRowInPlace p (t.lookupKey v) hc
    refine (exec_look_bind _ _ t).trans ?_
    rw [exec_bind, erased]
    exact exec_pure true (t.eraseRow p)

end

end Table

end SqlStore
