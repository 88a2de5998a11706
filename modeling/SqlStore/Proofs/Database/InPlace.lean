import SqlStore.Proofs.Database.Reached
import SqlStore.Proofs.Table.InPlace

/-!
# Statements that write where a database stands

Every statement is given here as a procedure on the database: it changes tables where they stand,
and what has been written to a table stands also when the statement is refused. In the databases
that come about a procedure ends as the statement does, and a statement that is refused has written
nothing.
-/

namespace SqlStore.Database

open Procedure

def onTable {α : Type} (name : String) (p : Procedure Table α) : Procedure Database α :=
  ExceptT.mk fun db =>
    match db.table? name with
    | none => (.error (.tableNotFound name), db)
    | some t => ((exec p t).1, { tables := db.tables.insert name (exec p t).2 })

def executeInPlace : Statement → Procedure Database Outcome
  | .createTable name columns => do
    check fun db : Database =>
      match db.table? name with
      | some _ => .error (.tableExists name)
      | none => .ok ()
    write fun db : Database => db.put (.new name (columns.map (·.declared)))
    return .done
  | .insert table values => do
    onTable table (Table.insertValuesInPlace values)
    return .done
  | .select q => do
    let rows ← check fun db : Database => db.select q
    return .rows rows
  | .update u => do
    onTable u.table (Table.updateInPlace u.key u.assignments)
    return .done
  | .delete d => do
    onTable d.table (Table.deleteInPlace d.key >>= fun _ => pure ())
    return .done

def runInPlace (db : Database) (sql : String) : Except Error Outcome × Database :=
  match Statement.ofText sql with
  | .error e => (.error (.reading e), db)
  | .ok s =>
    let (answer, after) := exec (executeInPlace s) db
    (answer.mapError .running, after)

/-- The same answer, and the same tables under the same names. -/
def Agree {ε α : Type} (x y : Except ε α × Database) : Prop :=
  x.1 = y.1 ∧ x.2.tables.toList = y.2.tables.toList

theorem Agree.rfl {ε α : Type} {x : Except ε α × Database} : Agree x x :=
  ⟨Eq.refl _, Eq.refl _⟩

/-- A table that is put back where it stood changes nothing. -/
theorem toList_insert_of_table? {db : Database} {name : String} {t : Table}
    (h : db.table? name = some t) : (db.tables.insert name t).toList = db.tables.toList := by
  let after : Database := { tables := db.tables.insert name t }
  have agree : ∀ other, after.table? other = db.table? other := by
    intro other
    rw [table?, Std.TreeMap.getElem?_insert]
    split
    · next same =>
      rw [← Std.LawfulEqCmp.eq_of_compare same]
      exact h.symm
    · rfl
  exact toList_eq_of_table? agree

section

variable {db : Database}

/-- What is done to a table where it stands ends as a change of the table, if the table is changed
at once or not at all and keeps its name. -/
theorem agree_onTable (named : db.Named) {name : String} {p : Procedure Table Unit}
    {f : Table → Except Fault Table}
    (same : ∀ t, db.table? name = some t → exec p t = exec (atOnce f) t)
    (keeps : ∀ t after, f t = .ok after → after.name = t.name) :
    Agree (exec (onTable name p >>= fun _ => pure .done) db) (db.change name f) := by
  have whole : exec (onTable name p) db =
      match db.table? name with
      | none => (.error (.tableNotFound name), db)
      | some t => ((exec p t).1, { tables := db.tables.insert name (exec p t).2 }) := rfl
  rw [exec_bind, whole, change_eq]
  cases ht : db.table? name with
  | none => exact Agree.rfl
  | some t =>
    simp only [same t ht, exec_atOnce]
    cases hf : f t with
    | error e => exact ⟨rfl, toList_insert_of_table? ht⟩
    | ok after =>
      have hname : after.name = name := (keeps t after hf).trans (named name t ht)
      simp only [put, hname]
      exact Agree.rfl

/-- Statements end in place as they do on the database as a whole. -/
theorem agree_executeInPlace (named : db.Named) (indexed : db.AllTables Table.Indexed)
    (s : Statement) : Agree (exec (executeInPlace s) db) (db.execute s) := by
  have named_kept := fun t : Table => Table.kept_of_schema fun name _ => name = t.name
  cases s with
  | createTable name columns =>
    rw [executeInPlace, exec_bind, exec_check, execute, createTable]
    cases db.table? name with
    | some _ => exact Agree.rfl
    | none => exact Agree.rfl
  | insert name values =>
    refine agree_onTable named (fun t ht => ?_) (fun t after h => ?_)
    · exact (indexed name t ht).exec_insertValuesInPlace values
    · exact insertValues_kept (named_kept t) rfl h
  | select q =>
    rw [executeInPlace, exec_bind, exec_check, execute]
    cases db.select q with
    | error e => exact Agree.rfl
    | ok rows => exact Agree.rfl
  | update u =>
    refine agree_onTable named (fun t _ => ?_) (fun t after h => ?_)
    · exact t.exec_updateInPlace u.key u.assignments
    · exact (named_kept t).update rfl h
  | delete d =>
    refine agree_onTable named (fun t ht => ?_) (fun t after h => ?_)
    · rw [exec_bind, (indexed d.table t ht).exec_deleteInPlace, exec_atOnce]
      cases t.delete? d.key with
      | none => rfl
      | some after => rfl
    · obtain rfl := Except.ok.inj h
      cases hd : t.delete? d.key with
      | none => rfl
      | some after => exact (named_kept t).delete? rfl hd

theorem agree_runInPlace (named : db.Named) (indexed : db.AllTables Table.Indexed)
    (sql : String) : Agree (db.runInPlace sql) (db.run sql) := by
  rw [runInPlace, run]
  cases Statement.ofText sql with
  | error e => exact Agree.rfl
  | ok s =>
    obtain ⟨answers, tables⟩ := agree_executeInPlace named indexed s
    exact ⟨congrArg (Except.mapError Error.running) answers, tables⟩

theorem Reached.indexed (reached : db.Reached) : db.AllTables Table.Indexed :=
  reached.allTables Table.indexed_new Table.indexed_kept

theorem execute_eq_of_error {s : Statement} {e : Fault} (h : (db.execute s).1 = .error e) :
    (db.execute s).2 = db := by
  cases s with
  | createTable name columns =>
    rw [execute, createTable] at h ⊢
    cases ht : db.table? name with
    | some _ => rfl
    | none =>
      rw [ht] at h
      cases h
  | insert name values => exact change_eq_of_error h
  | select q => rfl
  | update u => exact change_eq_of_error h
  | delete d => exact change_eq_of_error h

theorem run_eq_of_error {sql : String} {e : Error} (h : (db.run sql).1 = .error e) :
    (db.run sql).2 = db := by
  rw [run] at h ⊢
  cases hs : Statement.ofText sql with
  | error _ => rfl
  | ok s =>
    rw [hs] at h
    cases ha : (db.execute s).1 with
    | error f => exact execute_eq_of_error ha
    | ok a =>
      simp only [ha, Except.mapError] at h
      cases h

end

/-- A statement or a text that is refused, for whatever reason, leaves the database as it was. So
it does when rows, keys and indexes are written one by one where they stand: the statement ends
with the same answer and the same tables, and if it is refused it has written nothing. -/
theorem refused_changes_nothing {db : Database} (reached : db.Reached) :
    (∀ s, Agree (exec (executeInPlace s) db) (db.execute s)) ∧
    (∀ s e, (db.execute s).1 = .error e →
      (db.execute s).2 = db ∧
        (exec (executeInPlace s) db).2.tables.toList = db.tables.toList) ∧
    ∀ sql e, (db.run sql).1 = .error e →
      (db.run sql).2 = db ∧ Agree (db.runInPlace sql) (.error e, db) := by
  have step := agree_executeInPlace reached.named reached.indexed
  refine ⟨step, ?_, ?_⟩
  · intro s e h
    have same := execute_eq_of_error h
    refine ⟨same, (step s).2.trans ?_⟩
    rw [same]
  · intro sql e h
    have same := run_eq_of_error h
    obtain ⟨answers, tables⟩ := agree_runInPlace reached.named reached.indexed sql
    refine ⟨same, answers.trans h, tables.trans ?_⟩
    rw [same]

/-- A field that is good is not written when the one behind it is not. -/
theorem refused_changes_nothing_bad_after_good :
    let db := ((empty.createTable "t" [{ name := "id", type := .int, primaryKey := true },
      { name := "n", type := .int }]).2.execute (.insert "t" [.int 1, .int 2])).2
    let s := Statement.update
      ⟨"t", Row.ofList [("n", .int 3), ("id", .text "x")], "id", .int 1⟩
    db.Reached ∧ (db.execute s).1 = .error (.typeMismatch "id" .int (.text "x")) ∧
      (db.execute s).2 = db ∧
      (exec (executeInPlace s) db).2.tables.toList = db.tables.toList := by
  intro db s
  have reached : db.Reached := .executed _ (.created _ _ .empty)
  have refused : (db.execute s).1 = .error (.typeMismatch "id" .int (.text "x")) := rfl
  exact ⟨reached, refused, (refused_changes_nothing reached).2.1 s _ refused⟩

end SqlStore.Database
