import SqlStore.Proofs.Binary64.Integral
import SqlStore.Proofs.Table.Conformance
import SqlStore.Proofs.Table.Plain

/-!
# The row that a key addresses

An update or a deletion finds its row in the key index, by the key that a value becomes in the type
of the key column. A query looks at every row and compares the row's key with the value itself. The
two agree whatever the value, except for a float that meets an `INTEGER` key: the query rounds the
key to the nearest float first, so it may also take rows whose key is another integer. That needs a
key beyond `2 ^ 53`.
-/

namespace SqlStore

theorem filter_eq_toList_find? {α : Type} {p : α → Bool} {as : List α}
    (once : as.Pairwise fun a b => ¬ (p a = true ∧ p b = true)) :
    as.filter p = (as.find? p).toList := by
  induction as with
  | nil => rfl
  | cons a as ih =>
    rw [List.pairwise_cons] at once
    rw [List.filter_cons, List.find?_cons]
    cases ha : p a with
    | false => simpa using ih once.2
    | true =>
      have others : as.filter p = [] := by
        rw [List.filter_eq_nil_iff]
        exact fun b hb hp => once.1 b hb ⟨ha, hp⟩
      simp [others]

namespace Value

/-- An integer equals a float in a condition only because it is rounded for the comparison. -/
def equalByRounding : Value → Value → Bool
  | int i, float x => (Binary64.ofInt i.toInt).numEq x && x.integral? != some i.toInt
  | _, _ => false

theorem exists_of_equalByRounding {k v : Value} (h : k.equalByRounding v = true) :
    ∃ i x, k = int i ∧ v = float x ∧ (Binary64.ofInt i.toInt).numEq x = true ∧
      x.integral? ≠ some i.toInt := by
  match k, v, h with
  | int i, float x, h =>
    simp only [equalByRounding, Bool.and_eq_true, bne_iff_ne] at h
    exact ⟨i, x, rfl, rfl, h⟩

/-- Only integers beyond `2 ^ 53` are changed by rounding. -/
theorem lt_natAbs_of_equalByRounding {i : Int64} {x : Binary64}
    (h : (int i).equalByRounding (float x) = true) :
    2 * Binary64.hiddenWeight < i.toInt.natAbs := by
  simp only [equalByRounding, Bool.and_eq_true, bne_iff_ne] at h
  exact Nat.lt_of_not_le fun small => h.2 (Binary64.integral?_of_numEq small h.1)

end Value

namespace PlainTable

/-- A float is brought to an `INTEGER` key as the integer that it is, if it is one in range. -/
theorem same_keyForm_float {c : Column} (integer : c.type = .int) (i : Int64) (x : Binary64) :
    (Value.int i).same (keyForm c (.float x)) = true ↔ x.integral? = some i.toInt := by
  have form : keyForm c (.float x) = ((x.integral?.bind int64?).map .int).getD (.float x) := by
    rw [keyForm]
    exact integer
  rw [form]
  cases hx : x.integral? with
  | none => simp [Value.same]
  | some n =>
    rw [Option.bind_some]
    cases hn : int64? n with
    | none =>
      have apart : n ≠ i.toInt := fun h => by
        rw [(int64?_eq_some_iff n i).mpr h.symm] at hn
        cases hn
      simp [Value.same, apart]
    | some j =>
      obtain rfl := (int64?_eq_some_iff n j).mp hn
      rw [Option.map_some, Option.getD_some, Value.same, beq_iff_eq, Option.some.injEq,
        Int64.toInt_inj]
      exact eq_comm

/-- An integer is brought to a `FLOAT` key as its nearest float, under which a condition compares
it. -/
theorem same_keyForm_int {c : Column} (float : c.type = .float) (x : Binary64) (i : Int64) :
    (Value.float x).same (keyForm c (.int i)) = (Value.float x).sqlEq (.int i) := by
  have form : keyForm c (.int i) = .float (.ofInt i.toInt) := by
    rw [keyForm]
    exact float
  rw [form, Bool.eq_iff_iff, Value.sqlEq, Binary64.numEq_ofInt_iff, Value.same, beq_iff_eq]
  exact eq_comm

/-- Every other value is its own key. -/
theorem keyForm_eq_self {c : Column} {v : Value} (integer : c.type = .int → ∀ x, v ≠ .float x)
    (float : c.type = .float → ∀ i, v ≠ .int i) : keyForm c v = v := by
  rw [keyForm]
  · exact fun x ht hv => integer ht x hv
  · exact fun i ht hv => float ht i hv

end PlainTable

/-- `NULL` is no key of another value. -/
theorem PlainTable.null_same_keyForm (c : Column) (v : Value) :
    Value.null.same (keyForm c v) = Value.null.same v := by
  unfold keyForm
  split
  · next x _ => cases x.integral?.bind int64? <;> rfl
  · rfl
  · rfl

/-- A value that a key column holds meets another value in a condition when it is the key that the
value becomes, and otherwise only by rounding. -/
theorem sqlEq_iff_same_keyForm {c : Column} {k : Value}
    (stored : k = .null ∨ k.type? = some c.type) (v : Value) :
    k.sqlEq v = true ↔
      k.same (PlainTable.keyForm c v) = true ∨ k.equalByRounding v = true := by
  rcases stored with rfl | typed
  · rw [PlainTable.null_same_keyForm]
    simp [Value.sqlEq, Value.equalByRounding]
  · cases k with
    | null => cases typed
    | int i =>
      have integer : c.type = .int := (Option.some.inj typed).symm
      cases v with
      | float x =>
        rw [PlainTable.same_keyForm_float integer, Value.sqlEq, Value.equalByRounding]
        by_cases hx : x.integral? = some i.toInt
        · simp [hx, Binary64.numEq_of_integral? hx]
        · simp [hx]
      | _ =>
        rw [PlainTable.keyForm_eq_self (by simp) (by simp [integer])]
        simp [Value.sqlEq, Value.equalByRounding]
    | float x =>
      have float : c.type = .float := (Option.some.inj typed).symm
      cases v with
      | int i =>
        rw [PlainTable.same_keyForm_int float]
        simp [Value.equalByRounding]
      | _ =>
        rw [PlainTable.keyForm_eq_self (by simp [float]) (by simp)]
        simp [Value.sqlEq, Value.equalByRounding]
    | text s =>
      have text : c.type = .text := (Option.some.inj typed).symm
      rw [PlainTable.keyForm_eq_self (by simp [text]) (by simp [text])]
      simp [Value.sqlEq, Value.equalByRounding]
    | bool b =>
      have bool : c.type = .bool := (Option.some.inj typed).symm
      rw [PlainTable.keyForm_eq_self (by simp [bool]) (by simp [bool])]
      simp [Value.sqlEq, Value.equalByRounding]

/-- A key that is reached by rounding is not the key that the value becomes. -/
theorem not_same_keyForm_of_equalByRounding {c : Column} {k v : Value}
    (stored : k = .null ∨ k.type? = some c.type) (h : k.equalByRounding v = true) :
    ¬ k.same (PlainTable.keyForm c v) = true := by
  obtain ⟨i, x, rfl, rfl, -, differs⟩ := Value.exists_of_equalByRounding h
  have integer : c.type = .int := by
    rcases stored with none | typed
    · cases none
    · exact (Option.some.inj typed).symm
  rw [PlainTable.same_keyForm_float integer]
  exact differs

namespace Table

theorem Conforming.stored_key {t : Table} (conforming : t.Conforming) {c : Column}
    (hc : c ∈ t.columns) {row : Row} (hrow : row ∈ t.rows) :
    row.get c.name = .null ∨ (row.get c.name).type? = some c.type := by
  cases hv : row.get? c.name with
  | none =>
    left
    rw [Row.get, hv, Option.getD_none]
  | some v =>
    rw [Row.get_of_get? hv]
    have field := (row.get?_eq_some_iff c.name v).mp hv
    obtain ⟨d, hd, named, holds⟩ := (conforming.rows row hrow).fields _ field
    obtain rfl : d = c := List.inj_on_of_nodup_map conforming.distinct hd hc named
    rcases holds with ⟨null, -⟩ | typed
    · exact Or.inl null
    · exact Or.inr typed

theorem satisfies_single (row : Row) (n : String) (v : Value) :
    row.satisfies (Row.ofList [(n, v)]) = (row.get n).sqlEq v := by
  have fields : (Row.ofList [(n, v)]).fields = [(n, v)] := rfl
  rw [Row.satisfies, fields, List.all_cons, List.all_nil, Bool.and_true]

section

variable {t : Table} (indexed : t.Indexed) {c : Column} (hc : t.keyColumn? = some c)

include indexed hc

theorem Indexed.row?_eq_find? (v : Value) :
    t.row? v = t.rows.toList.find? (PlainTable.addresses c v) := by
  rw [← indexed.plain_row?, PlainTable.row?]
  have keyColumn : t.plain.columns.find? (·.primaryKey) = some c := hc
  rw [keyColumn]
  rfl

/-- No two rows are addressed by the same value. -/
theorem Indexed.addressed_once (v : Value) :
    t.rows.toList.Pairwise fun r s =>
      ¬ (PlainTable.addresses c v r = true ∧ PlainTable.addresses c v s = true) := by
  have apart := (indexed.keys c hc).pairwise
  rw [values, List.pairwise_map] at apart
  exact apart.imp fun differ both => differ (Value.same_trans both.1 (Value.same_symm both.2))

theorem Indexed.filter_addresses (v : Value) :
    t.rows.toList.filter (PlainTable.addresses c v) = (t.row? v).toList := by
  rw [indexed.row?_eq_find? hc, filter_eq_toList_find? (indexed.addressed_once hc v)]

/-- A row is found by a value exactly if it is stored and has the key that the value becomes. -/
theorem Indexed.row?_eq_some_iff (v : Value) (row : Row) :
    t.row? v = some row ↔ row ∈ t.rows ∧ (row.get c.name).same (PlainTable.keyForm c v) = true := by
  rw [← Option.mem_toList, ← indexed.filter_addresses hc, List.mem_filter, Array.mem_toList_iff,
    PlainTable.addresses]

/-- A query by the key takes the addressed row, and beside it the rows that meet the value by
rounding. -/
theorem Indexed.mem_select_key_iff (conforming : t.Conforming) (v : Value) (row : Row) :
    row ∈ t.select (some (Row.ofList [(c.name, v)])) ↔
      t.row? v = some row ∨ row ∈ t.rows ∧ (row.get c.name).equalByRounding v = true := by
  have declared : c ∈ t.columns := List.mem_of_find?_eq_some hc
  rw [indexed.row?_eq_some_iff hc, select, List.mem_filter, Array.mem_toList_iff, satisfies_single,
    ← and_or_left]
  refine and_congr_right fun hrow => ?_
  exact sqlEq_iff_same_keyForm (conforming.stored_key declared hrow) v

/-- A query by the key takes nothing but the addressed row exactly when no row meets the value by
rounding. -/
theorem Indexed.select_key_eq_iff (conforming : t.Conforming) (v : Value) :
    t.select (some (Row.ofList [(c.name, v)])) = (t.row? v).toList ↔
      ∀ row ∈ t.rows, (row.get c.name).equalByRounding v = false := by
  have declared : c ∈ t.columns := List.mem_of_find?_eq_some hc
  constructor
  · intro same row hrow
    refine Bool.eq_false_iff.mpr fun rounded => ?_
    have stored := conforming.stored_key declared hrow
    have taken := (indexed.mem_select_key_iff hc conforming v row).mpr (Or.inr ⟨hrow, rounded⟩)
    rw [same, ← indexed.filter_addresses hc, List.mem_filter] at taken
    exact not_same_keyForm_of_equalByRounding stored rounded taken.2
  · intro exact_ones
    rw [← indexed.filter_addresses hc, select]
    refine List.filter_congr fun row hrow => ?_
    have hrow := Array.mem_toList_iff.mp hrow
    have stored := conforming.stored_key declared hrow
    rw [satisfies_single, Bool.eq_iff_iff, sqlEq_iff_same_keyForm stored v, exact_ones row hrow]
    simp [PlainTable.addresses]

end

/-- Updates and deletions reach no row but the addressed one. -/
theorem changed_of_row?_eq_some {t : Table} {v : Value} {row : Row}
    (found : t.row? v = some row) :
    ∃ p, t.rows[p]? = some row ∧
      (∃ after, t.delete? v = some after ∧ after.rows = t.rows.eraseIdxIfInBounds p) ∧
      ∀ assignments after, t.update v assignments = .ok after →
        ∃ fs, fs.map Prod.fst = assignments.names ∧
          after.rows = t.rows.modify p (·.insertAll fs) := by
  obtain ⟨p, hp, hrow⟩ := Option.bind_eq_some_iff.mp found
  refine ⟨p, hrow, ⟨t.eraseRow p, ?_, t.rows_eraseRow p⟩, ?_⟩
  · exact (delete?_eq_some_iff t _ v).mpr ⟨p, hp, rfl⟩
  · intro assignments after h
    obtain ⟨q, fs, k, hq, accepted, -, rfl⟩ := (update_eq_ok_iff t after v assignments).mp h
    obtain rfl := Option.some.inj (hp.symm.trans hq)
    exact ⟨fs, names_of_accepted accepted, t.rows_setFields p _ k fs⟩

/-- Where no row is addressed there is none to update or to delete. -/
theorem Indexed.refused_of_row?_eq_none {t : Table} (indexed : t.Indexed) {v : Value}
    (missing : t.row? v = none) :
    t.delete? v = none ∧ ∀ assignments, t.update v assignments = .error (.rowNotFound v) := by
  have none : t.position? v = none := by
    cases hp : t.position? v with
    | none => rfl
    | some p =>
      obtain ⟨c, hc⟩ := indexed.exists_keyColumn hp
      obtain ⟨row, hrow, -⟩ := (indexed.position?_eq_some_iff hc v p).mp hp
      rw [row?, hp, Option.bind_some, hrow] at missing
      cases missing
  refine ⟨by rw [Table.delete?, none]; rfl, fun assignments => ?_⟩
  rw [Table.update, none]
  rfl

/-- Whatever the value, a query by the primary key takes the row that the value addresses; it takes
exactly this row, or none if there is none, just when no row meets the value by rounding, and every
further row has another integer beyond `2 ^ 53` as its key. The addressed row is the only one that
an update or a deletion by the value reaches. -/
theorem select_key_eq_row?_iff (name : String) {columns : List Column} (calls : List Call)
    (distinct : (columns.map (·.name)).Nodup) {c : Column}
    (hc : columns.find? (·.primaryKey) = some c) (v : Value) :
    let t := (new name columns).afterAll calls
    let chosen := t.select (some (Row.ofList [(c.name, v)]))
    (chosen = (t.row? v).toList ↔
      ∀ row ∈ t.rows, (row.get c.name).equalByRounding v = false) ∧
    (∀ row, t.row? v = some row → row ∈ chosen) ∧
    (∀ row ∈ chosen, t.row? v = some row ∨
      ∃ i x, row.get c.name = .int i ∧ v = .float x ∧ x.integral? ≠ some i.toInt ∧
        2 * Binary64.hiddenWeight < i.toInt.natAbs) ∧
    (t.row? v = none → t.delete? v = none ∧
      ∀ assignments, t.update v assignments = .error (.rowNotFound v)) ∧
    ∀ row, t.row? v = some row → ∃ p, t.rows[p]? = some row ∧
      (∃ after, t.delete? v = some after ∧ after.rows = t.rows.eraseIdxIfInBounds p) ∧
      ∀ assignments after, t.update v assignments = .ok after →
        ∃ fs, fs.map Prod.fst = assignments.names ∧
          after.rows = t.rows.modify p (·.insertAll fs) := by
  intro t chosen
  have indexed : t.Indexed := indexed_kept.afterAll (indexed_new name columns) calls
  have conforming : t.Conforming := conforming_kept.afterAll (conforming_new name distinct) calls
  have hc : t.keyColumn? = some c := by rw [keyColumn?, columns_afterAll]; exact hc
  have taken := indexed.mem_select_key_iff hc conforming v
  refine ⟨indexed.select_key_eq_iff hc conforming v, ?_, ?_, indexed.refused_of_row?_eq_none,
    fun row => changed_of_row?_eq_some⟩
  · exact fun row found => (taken row).mpr (Or.inl found)
  · intro row hrow
    rcases (taken row).mp hrow with found | ⟨-, rounded⟩
    · exact Or.inl found
    · obtain ⟨i, x, hk, rfl, -, differs⟩ := Value.exists_of_equalByRounding rounded
      rw [hk] at rounded
      exact Or.inr ⟨i, x, hk, rfl, differs, Value.lt_natAbs_of_equalByRounding rounded⟩

/-- A float that is a small integer finds its row although the key of another row is beyond
`2 ^ 53`. -/
theorem select_key_eq_row?_iff_large_key_beside :
    let c : Column := { name := "id", type := .int, nullable := false, primaryKey := true }
    let calls : List Call :=
      [.insert (Row.ofList [("id", .int 9007199254740993)]), .insert (Row.ofList [("id", .int 7)])]
    let t := (new "t" [c]).afterAll calls
    let v : Value := .float (.ofInt 7)
    t.select (some (Row.ofList [(c.name, v)])) = (t.row? v).toList ∧
      (t.row? v).map (·.fields) = some [("id", .int 7)] := by
  intro c calls t v
  refine ⟨?_, by decide +kernel⟩
  have keyed : [c].find? (·.primaryKey) = some c := by decide
  refine (select_key_eq_row?_iff "t" calls (by decide) keyed v).1.mpr ?_
  have exact_ones : ∀ row ∈ ((new "t" [c]).afterAll calls).rows.toList,
      (row.get c.name).equalByRounding v = false := by decide +kernel
  exact fun row hrow => exact_ones row (Array.mem_toList_iff.mpr hrow)

/-- A query by a float key can take more rows than the one addressed: `9007199254740993` is rounded
to `9007199254740992.0`. -/
theorem select_key_ne_row? :
    ¬ ∀ (name : String) (columns : List Column) (calls : List Call) (c : Column) (v : Value),
      (columns.map (·.name)).Nodup → columns.find? (·.primaryKey) = some c →
      let t := (new name columns).afterAll calls
      t.select (some (Row.ofList [(c.name, v)])) = (t.row? v).toList := by
  intro agree
  let c : Column := { name := "id", type := .int, nullable := false, primaryKey := true }
  let calls : List Call :=
    [.insert (Row.ofList [("id", .int 9007199254740992)]),
      .insert (Row.ofList [("id", .int 9007199254740993)])]
  let v : Value := .float (.ofInt 9007199254740992)
  let t := (new "t" [c]).afterAll calls
  have two : (t.select (some (Row.ofList [(c.name, v)]))).length = 2 := by decide +kernel
  have one : (t.row? v).toList.length = 1 := by decide +kernel
  have same := congrArg List.length (agree "t" [c] calls c v (by decide) (by decide))
  exact absurd (two.symm.trans (same.trans one)) (by decide)

end Table

end SqlStore
