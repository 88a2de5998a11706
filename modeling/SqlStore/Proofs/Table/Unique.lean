import SqlStore.Proofs.Table.Indexed

/-!
# Unique columns over whole runs

An insertion looks into the index of a unique column, never at the rows, and an update does not
look at all. So a unique column has distinct values as long as its index is exact and no update
assigns the column. Other columns may be set at will, the primary key and unique columns that get
the same value twice among them. `NULL` is a value like any other here, and a missing field is
`NULL`.
-/

namespace SqlStore

/-- A value that is not there yet may be put behind distinct ones. -/
theorem pairwise_append_singleton {values : List Value} {v : Value}
    (distinct : values.Pairwise fun v w => ¬ v.same w = true)
    (fresh : ¬ ∃ w ∈ values, w.same v = true) :
    (values ++ [v]).Pairwise fun v w => ¬ v.same w = true := by
  rw [List.pairwise_append]
  refine ⟨distinct, List.pairwise_singleton _ _, ?_⟩
  intro w hw u hu same
  obtain rfl := List.mem_singleton.mp hu
  exact fresh ⟨w, hw, same⟩

namespace Table

def Distinct (t : Table) (column : String) : Prop :=
  (t.values column).Pairwise fun v w => ¬ v.same w = true

theorem distinct_new (name : String) (columns : List Column) (column : String) :
    (new name columns).Distinct column :=
  List.Pairwise.nil

variable {t after : Table} {column : String}

theorem Distinct.eq_of_same (distinct : t.Distinct column) {i j : Nat} {row row' : Row}
    (hi : t.rows[i]? = some row) (hj : t.rows[j]? = some row')
    (same : (row.get column).same (row'.get column) = true) : i = j := by
  have at_i : (t.values column)[i]? = some (row.get column) := by
    rw [getElem?_values, hi, Option.map_some]
  have at_j : (t.values column)[j]? = some (row'.get column) := by
    rw [getElem?_values, hj, Option.map_some]
  obtain ⟨hi, hvi⟩ := List.getElem?_eq_some_iff.mp at_i
  obtain ⟨hj, hvj⟩ := List.getElem?_eq_some_iff.mp at_j
  have apart := List.pairwise_iff_getElem.mp distinct
  rcases Nat.lt_trichotomy i j with h | h | h
  · exact absurd (by rw [hvi, hvj]; exact same) (apart i j hi hj h)
  · exact h
  · exact absurd (by rw [hvi, hvj]; exact Value.same_symm same) (apart j i hj hi h)

/-- The index of a unique column lets only a value in that no row has. -/
theorem Distinct.insert (distinct : t.Distinct column) (indexed : t.Indexed)
    (unique : column ∈ uniqueNames t.columns) {r : Row} (h : t.insert r = .ok after) :
    after.Distinct column := by
  obtain ⟨row, -, -, hunique, rfl⟩ := (insert_eq_ok_iff t after r).mp h
  rw [← indexed.names, List.mem_map] at unique
  obtain ⟨ix, hix, rfl⟩ := unique
  have free := (checkUnique_eq_ok_iff t row).mp hunique ix hix
  have fresh : ¬ ∃ w ∈ t.values ix.1, w.same (row.get ix.1) = true := by
    rw [← indexed.unique ix hix, free]
    exact Bool.false_ne_true
  rw [Distinct, values_append]
  exact pairwise_append_singleton distinct fresh

theorem Distinct.update (distinct : t.Distinct column) {v : Value} {assignments : Row}
    (unset : column ∉ assignments.names) (h : t.update v assignments = .ok after) :
    after.Distinct column := by
  obtain ⟨p, fs, k, -, accepted, -, rfl⟩ := (update_eq_ok_iff t after v assignments).mp h
  have absent : column ∉ fs.map Prod.fst := names_of_accepted accepted ▸ unset
  rw [Distinct, values_setFields_of_notMem t p _ _ absent]
  exact distinct

theorem Distinct.delete? (distinct : t.Distinct column) {v : Value}
    (h : t.delete? v = some after) : after.Distinct column := by
  obtain ⟨p, -, rfl⟩ := (delete?_eq_some_iff t after v).mp h
  rw [Distinct, values_eraseRow]
  exact distinct.sublist (List.eraseIdx_sublist _ p)

/-- A call keeps the values of a unique column distinct, unless it is an update that succeeds and
assigns the column. -/
theorem Distinct.answer (distinct : t.Distinct column) (indexed : t.Indexed)
    (unique : column ∈ uniqueNames t.columns) (c : Call)
    (unset : ∀ v assignments, c = .update v assignments → (t.answer c).1 = .done →
      column ∉ assignments.names) : (t.answer c).2.Distinct column := by
  cases c with
  | insert r =>
    cases h : t.insert r with
    | ok after => simpa only [Table.answer, h] using distinct.insert indexed unique h
    | error f => simpa only [Table.answer, h] using distinct
  | update v assignments =>
    cases h : t.update v assignments with
    | ok after =>
      have unset := unset v assignments rfl (by simp only [Table.answer, h])
      simpa only [Table.answer, h] using distinct.update unset h
    | error f => simpa only [Table.answer, h] using distinct
  | delete v =>
    cases h : t.delete? v with
    | some after => simpa only [Table.answer, h] using distinct.delete? h
    | none => simpa only [Table.answer, h] using distinct
  | find v => exact distinct
  | select conditions => exact distinct

/-- The induction over a run: what a call needs is there before every call. -/
theorem Distinct.afterAll_take (distinct : t.Distinct column) (indexed : t.Indexed)
    (unique : column ∈ uniqueNames t.columns) (calls : List Call)
    (unset : ∀ n v assignments, calls[n]? = some (.update v assignments) →
      ((t.afterAll (calls.take n)).answer (.update v assignments)).1 = .done →
      column ∉ assignments.names) (n : Nat) :
    (t.afterAll (calls.take n)).Distinct column := by
  induction calls generalizing t n with
  | nil =>
    rw [List.take_nil]
    exact distinct
  | cons c calls ih =>
    cases n with
    | zero => exact distinct
    | succ n =>
      rw [List.take_succ_cons, afterAll_cons]
      refine ih ?_ (indexed_kept.answer indexed c) ?_ (fun m => unset (m + 1)) n
      · refine distinct.answer indexed unique c ?_
        rintro v assignments rfl done
        exact unset 0 v assignments rfl done
      · exact (kept_of_schema fun _ columns => column ∈ uniqueNames columns).answer unique c

/-- At every point of a run in which no successful update assigns a unique column, no two rows have
the same value there, and at most one row has `NULL` there or lacks the field. -/
theorem unique_values_distinct (name : String) (columns : List Column) (calls : List Call)
    {c : Column} (hc : c ∈ columns) (unique : c.unique = true)
    (unset : ∀ n v assignments, calls[n]? = some (.update v assignments) →
      (((new name columns).afterAll (calls.take n)).answer (.update v assignments)).1 = .done →
      c.name ∉ assignments.names) (n : Nat) :
    let t := (new name columns).afterAll (calls.take n)
    (t.rows.toList.map (·.get c.name)).Pairwise (fun v w => ¬ v.same w = true) ∧
      ∀ (i j : Nat) (row row' : Row), t.rows[i]? = some row → t.rows[j]? = some row' →
        row.get c.name = .null → row'.get c.name = .null → i = j := by
  intro t
  have declared : c.name ∈ uniqueNames columns := (mem_uniqueNames _ _).mpr ⟨c, hc, unique, rfl⟩
  have distinct : t.Distinct c.name :=
    (distinct_new name columns c.name).afterAll_take (indexed_new name columns) declared calls
      unset n
  refine ⟨distinct, ?_⟩
  intro i j row row' hi hj null null'
  exact distinct.eq_of_same hi hj (by rw [null, null']; rfl)

/-- An update makes two rows alike in one unique column and a third row is deleted; the other
unique column keeps distinct values, one of them for the row that lacks it, and refuses a second
row without it. -/
theorem unique_values_distinct_beside_duplicates :
    let u : Column := { name := "u", type := .float, unique := true }
    let columns : List Column :=
      [{ name := "id", type := .int, nullable := false, primaryKey := true }, u,
        { name := "w", type := .text, unique := true }]
    let calls : List Call :=
      [.insert (Row.ofList [("id", .int 1), ("u", .int 0), ("w", .text "a")]),
        .insert (Row.ofList [("id", .int 2), ("w", .text "b")]),
        .insert (Row.ofList [("id", .int 3), ("u", .int 7), ("w", .text "c")]),
        .update (.int 2) (Row.ofList [("id", .int 9), ("w", .text "a")]),
        .delete (.int 3),
        .insert (Row.ofList [("id", .int 4), ("w", .text "d")])]
    ((new "t" columns).afterAll (calls.take 6)).rows.toList.map (·.fields) =
        [[("id", .int 1), ("u", .float (.ofInt 0)), ("w", .text "a")],
          [("id", .int 9), ("w", .text "a")]] ∧
      (((new "t" columns).afterAll (calls.take 6)).rows.toList.map (·.get u.name)).Pairwise
        fun v w => ¬ v.same w = true := by
  intro u columns calls
  refine ⟨by decide +kernel, ?_⟩
  have unset : ∀ n v assignments, calls[n]? = some (.update v assignments) →
      (((new "t" columns).afterAll (calls.take n)).answer (.update v assignments)).1 = .done →
      u.name ∉ assignments.names := by
    intro n v assignments at_n _
    have called : .update v assignments ∈ calls := List.mem_of_getElem? at_n
    simp only [calls, List.mem_cons, reduceCtorEq, Call.update.injEq, false_or, or_false,
      List.not_mem_nil] at called
    obtain ⟨-, rfl⟩ := called
    decide
  have declared : u ∈ columns := by decide
  have distinct := unique_values_distinct "t" columns calls declared rfl unset 6
  exact distinct.1

end Table

end SqlStore
