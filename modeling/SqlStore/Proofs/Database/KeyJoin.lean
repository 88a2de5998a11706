import SqlStore.Proofs.Database.Query
import SqlStore.Proofs.Table.Addressed
import SqlStore.Proofs.Value.Equality

/-!
# Joining on a primary key

A join compares every left row with every right row. If it compares a column with the primary key
of the right table and the two have one type, this comes to one lookup for each left row: the key
that the left row names is its own lookup key, a condition compares two values of one type as the
index does, and a key is held once. `NULL` is no exception, on either side. So a left row is joined
once or not at all.
-/

namespace SqlStore

/-- Values of one type, `NULL` included, are compared in a condition as they are in an index. -/
theorem Value.sqlEq_eq_same_of_type {v w : Value} {τ : SqlType}
    (left : v = .null ∨ v.type? = some τ) (right : w = .null ∨ w.type? = some τ) :
    v.sqlEq w = v.same w := by
  apply sqlEq_eq_same
  · rintro i x ⟨rfl, rfl⟩
    simp only [reduceCtorEq, false_or, type?, Option.some.injEq] at left right
    cases left.trans right.symm
  · rintro i x ⟨rfl, rfl⟩
    simp only [reduceCtorEq, false_or, type?, Option.some.injEq] at left right
    cases left.trans right.symm

/-- A value of the type of a key column addresses the row that has it as its key. -/
theorem PlainTable.keyForm_of_type {p : Column} {v : Value}
    (typed : v = .null ∨ v.type? = some p.type) : keyForm p v = v := by
  apply keyForm_eq_self
  · rintro integer x rfl
    simp [Value.type?, integer] at typed
  · rintro float i rfl
    simp [Value.type?, float] at typed

namespace Table

section

variable {t : Table} (indexed : t.Indexed) {p : Column} (hp : t.keyColumn? = some p)
  {v : Value} (typed : v = .null ∨ v.type? = some p.type)

include indexed hp typed

/-- A row is found by a value of the key's type exactly if it is stored and has this key. -/
theorem Indexed.row?_eq_some_iff_same (row : Row) :
    t.row? v = some row ↔ row ∈ t.rows ∧ (row.get p.name).same v = true := by
  rw [indexed.row?_eq_some_iff hp, PlainTable.keyForm_of_type typed]

/-- The rows whose key meets a value of the key's type are the one that is found by it. -/
theorem Indexed.filter_sqlEq_key (conforming : t.Conforming) :
    (t.rows.toList.filter fun row => (row.get p.name).sqlEq v) = (t.row? v).toList := by
  have declared : p ∈ t.columns := List.mem_of_find?_eq_some hp
  rw [← indexed.filter_addresses hp]
  refine List.filter_congr fun row hrow => ?_
  have stored := conforming.stored_key declared (Array.mem_toList_iff.mp hrow)
  rw [Value.sqlEq_eq_same_of_type stored typed, PlainTable.addresses,
    PlainTable.keyForm_of_type typed]

end

end Table

namespace Database

/-- A join on the key of the right table looks up, for each left row, the value that it has in the
joined column. -/
theorem joinRows_eq_filterMap {left right : Table} {j : Join} {c p : Column}
    (stored : left.Conforming) (declared : c ∈ left.columns) (right_stored : right.Conforming)
    (indexed : right.Indexed) (hp : right.keyColumn? = some p) (type : c.type = p.type)
    (joins : j.left = c.name) (on_key : j.right = p.name) :
    joinRows left right j =
      left.rows.toList.filterMap fun l =>
        (right.row? (l.get c.name)).map fun r => l.merge r right.name := by
  rw [joinRows, List.filterMap_eq_flatMap_toList, joins, on_key]
  refine List.flatMap_congr fun l hl => ?_
  have typed := stored.stored_key declared (Array.mem_toList_iff.mp hl)
  rw [type] at typed
  rw [indexed.filter_sqlEq_key hp typed right_stored, Option.toList_map]

/-- Two tables after whatever calls, joined on a column of the left one and the primary key of the
right one, both of one type. The joined rows are, in the order of the left rows, one for each left
row whose value is the key of a right row, merged with the right row found by that value, and none
for the others; so they are no more than the left rows. -/
theorem join_on_key_looks_up (leftName rightName : String) {columns columns' : List Column}
    (calls calls' : List Call) (distinct : (columns.map (·.name)).Nodup)
    (distinct' : (columns'.map (·.name)).Nodup) {c p : Column} (declared : c ∈ columns)
    (key : columns'.find? (·.primaryKey) = some p) (type : c.type = p.type) (j : Join)
    (joins : j.left = c.name) (on_key : j.right = p.name) :
    let left := (Table.new leftName columns).afterAll calls
    let right := (Table.new rightName columns').afterAll calls'
    joinRows left right j =
        left.rows.toList.filterMap (fun l =>
          (right.row? (l.get c.name)).map fun r => l.merge r right.name) ∧
      (∀ l ∈ left.rows, ∀ r, right.row? (l.get c.name) = some r ↔
        r ∈ right.rows ∧ (r.get p.name).same (l.get c.name) = true) ∧
      (joinRows left right j).length ≤ left.rows.size := by
  intro left right
  have stored : left.Conforming :=
    Table.conforming_kept.afterAll (Table.conforming_new leftName distinct) calls
  have right_stored : right.Conforming :=
    Table.conforming_kept.afterAll (Table.conforming_new rightName distinct') calls'
  have indexed : right.Indexed :=
    Table.indexed_kept.afterAll (Table.indexed_new rightName columns') calls'
  have declared : c ∈ left.columns := by rw [Table.columns_afterAll]; exact declared
  have key : right.keyColumn? = some p := by
    rw [Table.keyColumn?, Table.columns_afterAll]
    exact key
  have joined := joinRows_eq_filterMap stored declared right_stored indexed key type joins on_key
  refine ⟨joined, ?_, ?_⟩
  · intro l hl r
    have typed := stored.stored_key declared hl
    rw [type] at typed
    exact indexed.row?_eq_some_iff_same key typed r
  · rw [joined, ← Array.length_toList]
    exact List.length_filterMap_le _ _

/-- An integer was widened where it was stored, a missing field meets the key `NULL`, zero meets the
negative zero, and a number that is no key is left out. -/
theorem join_on_key_looks_up_null_and_zero :
    let c : Column := { name := "ref", type := .float }
    let p : Column := { name := "id", type := .float, primaryKey := true }
    let columns : List Column := [{ name := "n", type := .int }, c]
    let columns' : List Column := [p, { name := "n", type := .text }]
    let calls : List Call :=
      [.insert (Row.ofList [("n", .int 1), ("ref", .int 5)]), .insert (Row.ofList [("n", .int 2)]),
        .insert (Row.ofList [("n", .int 3), ("ref", .float (.ofInt 7))]),
        .insert (Row.ofList [("ref", .int 0)]), .insert (Row.ofList [("ref", .int 5)])]
    let calls' : List Call :=
      [.insert (Row.ofList [("n", .text "none")]), .insert (Row.ofList [("id", .int 4)]),
        .insert (Row.ofList [("id", .float (.ofDigits true ['0'] [])), ("n", .text "zero")]),
        .update (.int 4) (Row.ofList [("id", .int 5)])]
    let left := (Table.new "l" columns).afterAll calls
    let right := (Table.new "r" columns').afterAll calls'
    let j : Join := ⟨"r", c.name, p.name⟩
    (joinRows left right j).map (·.fields) =
        [[("n", .int 1), ("ref", .float (.ofInt 5)), ("id", .float (.ofInt 5))],
          [("n", .int 2), ("r_n", .text "none")],
          [("ref", .float (.ofInt 0)), ("id", .float (.ofDigits true ['0'] [])),
            ("n", .text "zero")],
          [("ref", .float (.ofInt 5)), ("id", .float (.ofInt 5))]] ∧
      joinRows left right j =
        left.rows.toList.filterMap (fun l =>
          (right.row? (l.get c.name)).map fun r => l.merge r right.name) ∧
      ∀ l ∈ left.rows, ∀ r, right.row? (l.get c.name) = some r ↔
        r ∈ right.rows ∧ (r.get p.name).same (l.get c.name) = true := by
  intro c p columns columns' calls calls'
  have declared : c ∈ columns := List.mem_cons_of_mem _ List.mem_cons_self
  have key : columns'.find? (·.primaryKey) = some p := by decide
  have distinct : (columns.map (·.name)).Nodup := by decide
  have distinct' : (columns'.map (·.name)).Nodup := by decide
  obtain ⟨joined, found, -⟩ := join_on_key_looks_up "l" "r" calls calls' distinct distinct' declared
    key rfl ⟨"r", c.name, p.name⟩ rfl rfl
  exact ⟨by decide +kernel, joined, found⟩

end Database

end SqlStore
