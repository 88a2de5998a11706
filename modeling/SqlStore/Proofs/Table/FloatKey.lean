import SqlStore.Proofs.Binary64.Narrowing
import SqlStore.Proofs.Table.Addressed

/-!
# Integer keys addressed by floats

A float that is used as a value of an `INTEGER` key is narrowed to an integer. It finds the row
whose key is the exact value of the float, and nothing if it is no integer or one beyond 64 bits.
Above `2 ^ 53` a float stands for itself only, not for the integers that would be rounded to it.
-/

namespace SqlStore.Table

/-- Values that become the same key of a row change the same row in the same way. -/
theorem changed_alike {t : Table} {v w : Value} {row : Row} (key : t.lookupKey v = t.lookupKey w)
    (found : t.row? v = some row) :
    t.row? w = some row ∧ t.delete? v = t.delete? w ∧
      ∀ assignments, t.update v assignments = t.update w assignments := by
  have position : t.position? v = t.position? w := by rw [position?, position?, key]
  obtain ⟨p, hp, -⟩ := Option.bind_eq_some_iff.mp found
  refine ⟨?_, by rw [Table.delete?, Table.delete?, position], fun assignments => ?_⟩
  · rw [row?, ← position]
    exact found
  · rw [Table.update, Table.update, ← position, hp, key]

section

variable {t : Table} {c : Column} (hc : t.keyColumn? = some c) (integer : c.type = .int)

include hc integer

/-- The key that a float becomes. -/
theorem lookupKey_float (x : Binary64) :
    t.lookupKey (.float x) = (x.narrow?.map .int).getD (.float x) := by
  rw [Binary64.narrow?_eq, lookupKey, hc]
  simp only [integer]

theorem lookupKey_int (i : Int64) : t.lookupKey (.int i) = .int i := by
  rw [← plain_keyForm hc]
  exact PlainTable.keyForm_eq_self (by simp) (by simp [integer])

/-- A float finds the stored row whose key is the value of the float. -/
theorem Indexed.row?_float_iff (indexed : t.Indexed) (conforming : t.Conforming) (x : Binary64)
    (row : Row) :
    t.row? (.float x) = some row ↔ row ∈ t.rows ∧ ∃ i : Int64,
      row.get c.name = .int i ∧ x.isFinite = true ∧ x.value = i.toInt := by
  rw [indexed.row?_eq_some_iff hc]
  refine and_congr_right fun hrow => ?_
  have declared : c ∈ t.columns := List.mem_of_find?_eq_some hc
  rcases conforming.stored_key declared hrow with null | typed
  · rw [null, PlainTable.null_same_keyForm]
    refine iff_of_false Bool.false_ne_true ?_
    rintro ⟨i, wrong, -⟩
    cases wrong
  · obtain ⟨i, key⟩ : ∃ i, row.get c.name = .int i := by
      cases key : row.get c.name with
      | int i => exact ⟨i, rfl⟩
      | _ => simp [key, integer, Value.type?] at typed
    rw [key, PlainTable.same_keyForm_float integer, ← Binary64.value_eq_intCast_iff]
    constructor
    · exact fun own => ⟨i, rfl, own⟩
    · rintro ⟨j, same, own⟩
      cases same
      exact own

/-- A row that is found by a float is changed by the float as it is changed by its key. -/
theorem Indexed.changed_alike_by_key (indexed : t.Indexed) (conforming : t.Conforming)
    {x : Binary64} {row : Row} (found : t.row? (.float x) = some row) :
    t.row? (row.get c.name) = some row ∧ t.delete? (.float x) = t.delete? (row.get c.name) ∧
      ∀ assignments, t.update (.float x) assignments = t.update (row.get c.name) assignments := by
  obtain ⟨-, i, key, own⟩ := (indexed.row?_float_iff hc integer conforming x row).mp found
  refine changed_alike ?_ found
  rw [key, lookupKey_int hc integer, lookupKey_float hc integer,
    (Binary64.narrow?_eq_some_iff x i).mpr own]
  rfl

end

/-- A float is narrowed to an integer, by comparing it with the bounds and saturating it, exactly
if this integer is its value. In a table with an `INTEGER` key the integer is the key that the float
becomes. So the float finds the stored row whose key is its value, and nothing if it is not finite,
has a fraction or is beyond 64 bits. An update or a deletion by the float reaches the row that it
finds and no other, as one by the row's own key does. -/
theorem row?_float_exact (name : String) {columns : List Column} (calls : List Call)
    (distinct : (columns.map (·.name)).Nodup) {c : Column}
    (hc : columns.find? (·.primaryKey) = some c) (integer : c.type = .int) (x : Binary64) :
    let t := (new name columns).afterAll calls
    let v : Value := .float x
    (∀ i : Int64, x.narrow? = some i ↔ x.isFinite = true ∧ x.value = i.toInt) ∧
    t.lookupKey v = (x.narrow?.map .int).getD v ∧
    (∀ row, t.row? v = some row ↔
      row ∈ t.rows ∧ ∃ i : Int64, row.get c.name = .int i ∧ x.isFinite = true ∧ x.value = i.toInt) ∧
    ((∀ i : Int64, ¬ (x.isFinite = true ∧ x.value = i.toInt)) → t.row? v = none) ∧
    (t.row? v = none → t.delete? v = none ∧
      ∀ assignments, t.update v assignments = .error (.rowNotFound v)) ∧
    ∀ row, t.row? v = some row →
      (t.row? (row.get c.name) = some row ∧ t.delete? v = t.delete? (row.get c.name) ∧
        ∀ assignments, t.update v assignments = t.update (row.get c.name) assignments) ∧
      ∃ p, t.rows[p]? = some row ∧
        (∃ after, t.delete? v = some after ∧ after.rows = t.rows.eraseIdxIfInBounds p) ∧
        ∀ assignments after, t.update v assignments = .ok after →
          ∃ fs, fs.map Prod.fst = assignments.names ∧
            after.rows = t.rows.modify p (·.insertAll fs) := by
  intro t v
  have indexed : t.Indexed := indexed_kept.afterAll (indexed_new name columns) calls
  have conforming : t.Conforming := conforming_kept.afterAll (conforming_new name distinct) calls
  have hc : t.keyColumn? = some c := by rw [keyColumn?, columns_afterAll]; exact hc
  have found := indexed.row?_float_iff hc integer conforming x
  refine ⟨Binary64.narrow?_eq_some_iff x, lookupKey_float hc integer x, found, fun noInteger => ?_,
    indexed.refused_of_row?_eq_none, fun row hrow => ?_⟩
  · refine Option.eq_none_iff_forall_ne_some.mpr fun row hrow => ?_
    obtain ⟨-, i, -, own⟩ := (found row).mp hrow
    exact noInteger i own
  · exact ⟨indexed.changed_alike_by_key hc integer conforming hrow, changed_of_row?_eq_some hrow⟩

/-- The least integer is found by its float. The float of the greatest one is `2 ^ 63` and finds
nothing, although the greatest integer is stored. -/
theorem row?_float_exact_at_both_ends :
    let c : Column := { name := "id", type := .int, nullable := false, primaryKey := true }
    let calls : List Call :=
      [.insert (Row.ofList [("id", .int Int64.minValue)]),
        .insert (Row.ofList [("id", .int Int64.maxValue)])]
    let t := (new "t" [c]).afterAll calls
    let low : Binary64 := .ofInt Int64.minValue.toInt
    let high : Binary64 := .ofInt Int64.maxValue.toInt
    ((t.row? (.float low)).map (·.fields) = some [("id", .int Int64.minValue)] ∧
        low.value = Int64.minValue.toInt) ∧
      t.row? (.float high) = none ∧ t.delete? (.float high) = none := by
  intro c calls t low high
  have distinct : ([c].map (·.name)).Nodup := by decide
  have keyed : [c].find? (·.primaryKey) = some c := by decide
  obtain ⟨-, -, ofLow, -⟩ := row?_float_exact "t" calls distinct keyed rfl low
  obtain ⟨-, -, -, none, refused, -⟩ := row?_float_exact "t" calls distinct keyed rfl high
  have shown : (t.row? (.float low)).map (·.fields) = some [("id", .int Int64.minValue)] := by
    decide +kernel
  have missing : t.row? (.float high) = Option.none := by
    refine none fun i own => ?_
    have top : (i.toInt : ℚ) = (2 ^ 63 : ℤ) := own.2.symm.trans Binary64.value_bounds.2.2
    exact i.toInt_lt.ne (Int.cast_injective top)
  refine ⟨⟨shown, ?_⟩, missing, (refused missing).1⟩
  obtain ⟨row, found, fields⟩ := Option.map_eq_some_iff.mp shown
  obtain ⟨-, i, key, -, value⟩ := (ofLow row).mp found
  have least : row.get "id" = .int Int64.minValue := by rw [Row.get, Row.get?, fields]; rfl
  obtain rfl := Value.int.inj (key.symm.trans least)
  exact value

end SqlStore.Table
