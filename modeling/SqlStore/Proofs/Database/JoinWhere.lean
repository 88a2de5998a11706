import SqlStore.Proofs.Database.Inserted
import SqlStore.Proofs.Row.Merge

/-!
# Conditions on a join

A condition on a join is put to the merged rows, one on a single table to the stored ones. In tables
that texts make, every left row has all columns of its table, and merging leaves a left field alone
unless its name is the qualified name of a right column. So a condition on any other left column may
as well be put to the left rows, before they are joined.
-/

namespace SqlStore

/-- What is tested of the results can be tested of what they come from. -/
theorem filter_flatMap_of_forall {α β : Type} {as : List α} {f : α → List β} {p : β → Bool}
    {q : α → Bool} (same : ∀ a ∈ as, ∀ b ∈ f a, p b = q a) :
    (as.flatMap f).filter p = (as.filter q).flatMap f := by
  induction as with
  | nil => rfl
  | cons a as ih =>
    have first := same a List.mem_cons_self
    have others := ih fun a ha => same a (List.mem_cons_of_mem _ ha)
    rw [List.flatMap_cons, List.filter_append, others]
    cases passed : q a with
    | true =>
      rw [List.filter_cons_of_pos passed, List.flatMap_cons,
        List.filter_eq_self.mpr fun b hb => (first b hb).trans passed]
    | false =>
      have none : (f a).filter p = [] :=
        List.filter_eq_nil_iff.mpr fun b hb => by rw [first b hb, passed]; exact Bool.noConfusion
      rw [List.filter_cons_of_neg (by rw [passed]; exact Bool.noConfusion), none, List.nil_append]

/-- A left field keeps its value if no right field is given its name. -/
theorem Row.get_merge_of_mem {left right : Row} {table n : String} (there : n ∈ left.names)
    (own : ∀ m ∈ right.names, qualified table m ≠ n) :
    (left.merge right table).get n = left.get n := by
  have free : ∀ m, Displaced left.names table right.names m → qualified table m ≠ n :=
    fun m displaced => own m displaced.mem
  obtain ⟨v, hv⟩ := (left.mem_names_iff n).mp there
  rw [get, (lookup_merge left right table n).other free, hv, Option.some_or, get, hv]

/-- The query for the joined rows, with all columns, that have the value in the column. -/
def Statement.selectJoinWhere (table : String) (j : Join) (column : String) (v : Value) :
    Statement :=
  .select ⟨.all, table, some j, some (Row.ofList [(column, v)])⟩

namespace Database

theorem execute_selectJoinWhere {db : Database} {table : String} {j : Join} {l r : Table}
    (hl : db.table? table = some l) (hr : db.table? j.table = some r) (column : String)
    (v : Value) :
    (db.execute (.selectJoinWhere table j column v)).1 =
      .ok (.rows ((joinRows l r j).filter fun m => (m.get column).sqlEq v)) := by
  have all : projectRow .all = id := rfl
  have left : db.table table = .ok l := table_eq_ok_iff.mpr hl
  have right : db.table j.table = .ok r := table_eq_ok_iff.mpr hr
  rw [Statement.selectJoinWhere, execute, select_of_join db rfl, left, right, all]
  simp only [Option.all_some, Table.satisfies_single, List.map_id]
  rfl

/-- In a database made by texts, a query for the rows of a join that have a value in a column of the
left table, where this is not the qualified name of a right column. It answers with the rows with
which the query for this value in the left table alone answers, in order, each merged with the right
rows that meet it, in the order in which these are stored. -/
theorem where_before_join (sqls : List String) {left right : String} {l r : Table}
    (hl : (empty.runAll sqls).table? left = some l)
    (hr : (empty.runAll sqls).table? right = some r) (a b : String) {c : Column}
    (hc : c ∈ l.columns) (own : ∀ f ∈ r.columns, c.name ≠ Row.qualified right f.name) (v : Value) :
    ∃ found, ((empty.runAll sqls).execute (.selectWhere left c.name v)).1 = .ok (.rows found) ∧
      ((empty.runAll sqls).execute (.selectJoinWhere left ⟨right, a, b⟩ c.name v)).1 =
        .ok (.rows (found.flatMap fun x =>
          (r.rows.toList.filter fun y => (y.get b).sqlEq (x.get a)).map fun y =>
            x.merge y right)) := by
  refine ⟨_, execute_selectWhere hl c.name v, ?_⟩
  have name : r.name = right := named_empty.runAll sqls right r hr
  have leftNames := (complete_runAll sqls left l hl).rows
  have rightNames := (complete_runAll sqls right r hr).rows
  have kept : ∀ x ∈ l.rows, ∀ y ∈ r.rows, (x.merge y r.name).get c.name = x.get c.name := by
    intro x hx y hy
    refine Row.get_merge_of_mem ?_ fun m hm => ?_
    · rw [leftNames x hx]
      exact List.mem_map_of_mem hc
    · rw [rightNames y hy] at hm
      obtain ⟨f, hf, rfl⟩ := List.mem_map.mp hm
      rw [name]
      exact (own f hf).symm
  have passed : ∀ x ∈ l.rows.toList, ∀ m ∈ (r.rows.toList.filter fun y =>
      (y.get b).sqlEq (x.get a)).map (fun y => x.merge y r.name),
      (m.get c.name).sqlEq v = (x.get c.name).sqlEq v := by
    intro x hx m hm
    obtain ⟨y, hy, rfl⟩ := List.mem_map.mp hm
    have stored := Array.mem_toList_iff.mp (List.mem_of_mem_filter hy)
    rw [kept x (Array.mem_toList_iff.mp hx) y stored]
  rw [execute_selectJoinWhere hl hr, joinRows, filter_flatMap_of_forall passed, name]

/-- The tested column stands in both tables, so that the right one is given another name, and a row
that passes the test is joined twice. -/
theorem where_before_join_common_column :
    let sqls := ["CREATE TABLE a (id INTEGER PRIMARY KEY, x VARCHAR)",
      "CREATE TABLE b (x VARCHAR, id INTEGER)", "INSERT INTO a VALUES (1, 'p')",
      "INSERT INTO a VALUES (2, 'q')", "INSERT INTO a VALUES (3, 'p')",
      "INSERT INTO b VALUES ('p', 3)", "INSERT INTO b VALUES ('p', 2)",
      "INSERT INTO b VALUES (NULL, 3)"]
    let x : Column := { name := "x", type := .text }
    ∃ l r found, (empty.runAll sqls).table? "a" = some l ∧
      (empty.runAll sqls).table? "b" = some r ∧ x ∈ l.columns ∧
      (∀ f ∈ r.columns, x.name ≠ Row.qualified "b" f.name) ∧
      ((empty.runAll sqls).execute (.selectWhere "a" x.name (.text "p"))).1 = .ok (.rows found) ∧
      found.map (·.fields) = [[("id", .int 1), ("x", .text "p")],
        [("id", .int 3), ("x", .text "p")]] ∧
      let query := Statement.selectJoinWhere "a" ⟨"b", "id", "id"⟩ x.name (.text "p")
      ∃ joined, ((empty.runAll sqls).execute query).1 = .ok (.rows joined) ∧
        joined = found.flatMap (fun x =>
          (r.rows.toList.filter fun y => (y.get "id").sqlEq (x.get "id")).map fun y =>
            x.merge y "b") ∧
        joined.map (·.fields) =
          [[("id", .int 3), ("x", .text "p"), ("b_x", .text "p"), ("b_id", .int 3)],
            [("id", .int 3), ("x", .text "p"), ("b_x", .null), ("b_id", .int 3)]] := by
  intro sqls x
  let columns := [{ name := "id", type := .int, nullable := false, primaryKey := true }, x]
  let columns' := [x, { name := "id", type := .int }]
  let condition := some (Row.ofList [(x.name, .text "p")])
  let shown (j : Option Join) :=
    ((empty.runAll sqls).select ⟨.all, "a", j, condition⟩).toOption.map (·.map (·.fields))
  have computed : ((empty.runAll sqls).table? "a").map (·.columns) = some columns ∧
      ((empty.runAll sqls).table? "b").map (·.columns) = some columns' ∧
      shown none = some [[("id", .int 1), ("x", .text "p")], [("id", .int 3), ("x", .text "p")]] ∧
      shown (some ⟨"b", "id", "id"⟩) =
        some [[("id", .int 3), ("x", .text "p"), ("b_x", .text "p"), ("b_id", .int 3)],
          [("id", .int 3), ("x", .text "p"), ("b_x", .null), ("b_id", .int 3)]] := by
    decide +kernel
  obtain ⟨leftColumns, rightColumns, before, after⟩ := computed
  obtain ⟨l, hl, leftColumns⟩ := Option.map_eq_some_iff.mp leftColumns
  obtain ⟨r, hr, rightColumns⟩ := Option.map_eq_some_iff.mp rightColumns
  have there : x ∈ l.columns := by simp [leftColumns, columns]
  have own : ∀ f ∈ r.columns, x.name ≠ Row.qualified "b" f.name := by
    rw [rightColumns]
    decide
  obtain ⟨found, alone, joined⟩ := where_before_join sqls hl hr "id" "id" there own (.text "p")
  have answer (j : Option Join) (rows : List Row)
      (h : ((empty.runAll sqls).execute (.select ⟨.all, "a", j, condition⟩)).1 =
        .ok (.rows rows)) : shown j = some (rows.map (·.fields)) := by
    simp only [shown, (execute_select_eq_ok_iff _ _ _).mp h]
    rfl
  refine ⟨l, r, found, hl, hr, there, own, alone, ?_, _, joined, rfl, ?_⟩
  · exact Option.some.inj ((answer none found alone).symm.trans before)
  · exact Option.some.inj ((answer _ _ joined).symm.trans after)

end Database

end SqlStore
