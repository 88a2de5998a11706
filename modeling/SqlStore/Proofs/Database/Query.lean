import SqlStore.Database
import SqlStore.Proofs.Basic

/-!
# What a query answers

The answer to a query as one expression: the rows of its table, or its left rows merged with its
right rows, that satisfy the conditions, cut down to the columns asked for.
-/

namespace SqlStore

/-- Without conditions every row is selected. -/
theorem Table.select_eq_filter (t : Table) (conditions : Option Row) :
    t.select conditions = t.rows.toList.filter fun r => conditions.all r.satisfies := by
  cases conditions with
  | none => exact (List.filter_eq_self.mpr fun _ _ => rfl).symm
  | some cs => rfl

namespace Database

theorem table_eq_ok_iff {db : Database} {name : String} {t : Table} :
    db.table name = .ok t ↔ db.table? name = some t := by
  rw [table]
  cases db.table? name <;> simp

section

variable (db : Database) {q : Query}

theorem select_of_join_none (alone : q.join = none) :
    db.select q = do
      let t ← db.table q.table
      return (t.rows.toList.filter fun r => q.conditions.all r.satisfies).map
        (projectRow q.columns) := by
  rw [select, alone]
  simp only [← Table.select_eq_filter]
  rfl

theorem select_of_join {j : Join} (join : q.join = some j) :
    db.select q = do
      let l ← db.table q.table
      let r ← db.table j.table
      return ((joinRows l r j).filter fun m => q.conditions.all m.satisfies).map
        (projectRow q.columns) := by
  have all : ∀ rows : List Row, rows.filter (fun m => (none : Option Row).all m.satisfies) = rows :=
    fun rows => List.filter_eq_self.mpr fun _ _ => rfl
  rw [select, join]
  cases q.conditions with
  | none => simp only [all]; rfl
  | some cs => rfl

end

theorem execute_select_eq_ok_iff (db : Database) (q : Query) (rows : List Row) :
    (db.execute (.select q)).1 = .ok (.rows rows) ↔ db.select q = .ok rows := by
  rw [execute]
  cases db.select q <;> simp [Except.map]

theorem mem_joinRows_iff {l r : Table} {j : Join} {row : Row} :
    row ∈ joinRows l r j ↔ ∃ x ∈ l.rows, ∃ y ∈ r.rows,
      (y.get j.right).sqlEq (x.get j.left) = true ∧ x.merge y r.name = row := by
  simp only [joinRows, List.mem_flatMap, List.mem_map, List.mem_filter, Array.mem_toList_iff,
    and_assoc]

end Database

end SqlStore
