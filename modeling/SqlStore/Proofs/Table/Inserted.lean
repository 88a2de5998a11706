import SqlStore.Proofs.Table.Addressed
import SqlStore.Proofs.Table.Refusals

/-!
# What an insertion stores

A row that is inserted is addressed by the key as it was written, although the key may be stored in
another form. Deleting it at once leaves the table as it was before; inserting a row that was
deleted gives the table with this row moved to the end, unless another row has a value of it in a
unique column by now.
-/

namespace SqlStore

/-- A value that a key column takes is stored as the key that it addresses. -/
theorem PlainTable.keyForm_eq_widen {c : Column} {v : Value}
    (taken : v = .null ∨ c.takes v = true) : keyForm c v = v.widen c.type := by
  cases v with
  | null =>
    rw [keyForm_eq_self (by simp) (by simp)]
    rfl
  | float x =>
    have other : c.type ≠ .int := by
      intro integer
      simp [Column.takes, Value.isNull, Value.widen, Value.type?, integer] at taken
    rw [keyForm_eq_self (by simp [other]) (by simp)]
    rfl
  | int i =>
    by_cases float : c.type = .float
    · have form : keyForm c (.int i) = .float (.ofInt i.toInt) := by
        rw [keyForm]
        exact float
      rw [form, Value.widen, if_pos float]
    · rw [keyForm_eq_self (by simp) (by simp [float]), Value.widen, if_neg float]
  | text s =>
    rw [keyForm_eq_self (by simp) (by simp)]
    rfl
  | bool b =>
    rw [keyForm_eq_self (by simp) (by simp)]
    rfl

/-- What a column holds it takes as it is. -/
theorem Column.Holds.takes {c : Column} {v : Value} (h : c.Holds v) :
    c.takes v = true ∧ v.widen c.type = v := by
  rcases h with ⟨rfl, nullable⟩ | typed
  · exact ⟨nullable, rfl⟩
  · have same : v.widen c.type = v := by
      cases v with
      | int i =>
        have integer : SqlType.int = c.type := Option.some.inj typed
        simp [Value.widen, ← integer]
      | _ => rfl
    refine ⟨?_, same⟩
    cases v with
    | null => cases typed
    | _ => simpa [Column.takes, Value.isNull, same] using typed

namespace Table

variable {t after : Table} {r row : Row}

/-! ## Stored values -/

section

variable (distinct : (t.columns.map (·.name)).Nodup)

include distinct

theorem column?_eq_some {c : Column} (hc : c ∈ t.columns) : t.column? c.name = some c := by
  cases hd : t.column? c.name with
  | none => exact absurd rfl (unknown_iff.mpr hd c hc)
  | some d =>
    have named : d.name = c.name := by simpa using List.find?_some hd
    rw [List.inj_on_of_nodup_map distinct (List.mem_of_find?_eq_some hd) hc named]

/-- A row is stored under the key that it is written with. -/
theorem stored_eq_lookupKey (fits : t.Fits r) {c : Column}
    (hc : t.keyColumn? = some c) :
    t.stored c.name (r.get c.name) = t.lookupKey (r.get c.name) := by
  have named := column?_eq_some distinct (List.mem_of_find?_eq_some hc)
  have taken : r.get c.name = .null ∨ c.takes (r.get c.name) = true := by
    cases hv : r.get? c.name with
    | none =>
      left
      rw [Row.get, hv, Option.getD_none]
    | some v =>
      right
      have fit := fits.fields _ ((r.get?_eq_some_iff _ _).mp hv)
      rw [fitsField, named] at fit
      rwa [Row.get_of_get? hv]
  rw [← plain_keyForm hc, PlainTable.keyForm_eq_widen taken, stored, named]

end

/-- A row that conforms to the columns is accepted as it is. -/
theorem acceptRow_eq_self (distinct : (t.columns.map (·.name)).Nodup)
    (conforms : r.ConformsTo t.columns) : t.acceptRow r = .ok r := by
  have field : ∀ f ∈ r.fields, t.fitsField f = true ∧ t.storedField f = f := by
    intro f hf
    obtain ⟨c, hc, named, holds⟩ := conforms.fields f hf
    have found := column?_eq_some distinct hc
    rw [named] at found
    rw [fitsField, storedField, stored, found]
    exact ⟨holds.takes.1, Prod.ext rfl holds.takes.2⟩
  refine acceptRow_eq_ok_iff_fits.mpr ⟨⟨fun f hf => (field f hf).1, ?_⟩, ?_⟩
  · intro c hc required
    obtain ⟨v, hv, -⟩ := conforms.required c hc required
    exact (r.mem_names_iff c.name).mpr ⟨v, hv⟩
  · exact ((List.map_congr_left fun f hf => (field f hf).2).trans (List.map_id _)).symm

/-- A row that is accepted as it is goes behind the others, if they have another key and other
values in the unique columns. -/
theorem Indexed.insert_of_apart (indexed : t.Indexed) (accepted : t.acceptRow r = .ok r)
    (key : ∀ d, t.keyColumn? = some d → ∀ other ∈ t.rows,
      ¬ (other.get d.name).same (r.get d.name) = true)
    (free : ∀ n ∈ uniqueNames t.columns, ∀ other ∈ t.rows,
      ¬ (other.get n).same (r.get n) = true) : t.insert r = .ok (t.append r) := by
  have untaken {n : String} (apart : ∀ other ∈ t.rows,
      ¬ (other.get n).same (r.get n) = true) : ¬ t.Taken r n := by
    rintro ⟨other, ho, same⟩
    rw [← get_of_accepted accepted] at same
    exact apart other ho same
  have fits := (acceptRow_eq_ok_iff_fits.mp accepted).1
  obtain ⟨after, h⟩ := indexed.insert_of_fresh (fun d hd => untaken (key d hd)) fits
    fun n hn => untaken (free n hn)
  obtain ⟨row, accepted', -, -, rfl⟩ := (insert_eq_ok_iff _ _ _).mp h
  obtain rfl := Except.ok.inj (accepted.symm.trans accepted')
  exact h

/-! ## An inserted row and its key -/

/-- After an insertion the key as it was written addresses the new row. -/
theorem Indexed.position?_append (appended : (t.append row).Indexed)
    (distinct : (t.columns.map (·.name)).Nodup) (accepted : t.acceptRow r = .ok row) {c : Column}
    (hc : t.keyColumn? = some c) : (t.append row).position? (r.get c.name) = some t.rows.size := by
  have stored : row.get c.name = t.lookupKey (r.get c.name) := by
    rw [get_of_accepted accepted,
      stored_eq_lookupKey distinct (acceptRow_eq_ok_iff_fits.mp accepted).1 hc]
  have lookup : (t.append row).lookupKey (r.get c.name) = row.get c.name := stored.symm
  refine (appended.position?_eq_some_iff hc _ _).mpr ⟨row, ?_, ?_⟩
  · rw [rows_append, Array.getElem?_push_size]
  · rw [lookup]
    exact Value.same_refl _

/-- Without its last row the table has the rows from before the insertion. -/
theorem rows_eraseRow_append (t : Table) (row : Row) :
    ((t.append row).eraseRow t.rows.size).rows = t.rows := by
  apply Array.toList_inj.mp
  rw [rows_eraseRow, rows_append, Array.toList_eraseIdxIfInBounds, Array.toList_push,
    ← Array.length_toList, List.eraseIdx_append_of_length_le (Nat.le_refl _)]
  simp

/-- A row that was just inserted is deleted without a trace. -/
theorem Indexed.delete?_of_insert (indexed : t.Indexed) (distinct : (t.columns.map (·.name)).Nodup)
    {c : Column} (hc : t.keyColumn? = some c) (inserted : t.insert r = .ok after) :
    ∃ restored, after.delete? (r.get c.name) = some restored ∧ restored.Alike t := by
  have appended := indexed.insert inserted
  obtain ⟨row, accepted, -, -, rfl⟩ := (insert_eq_ok_iff t after r).mp inserted
  have position := appended.position?_append distinct accepted hc
  have deleted := (delete?_eq_some_iff _ _ _).mpr ⟨_, position, rfl⟩
  refine ⟨_, deleted, ?_⟩
  exact (appended.delete? deleted).alike indexed rfl rfl (rows_eraseRow_append t row)

/-! ## A deleted row inserted again -/

/-- The other rows have other keys. -/
theorem Indexed.not_same_key_of_mem_eraseRow (indexed : t.Indexed) {c : Column}
    (hc : t.keyColumn? = some c) {p : Nat} (hp : t.rows[p]? = some r) {other : Row}
    (ho : other ∈ (t.eraseRow p).rows) : ¬ (other.get c.name).same (r.get c.name) = true := by
  rw [rows_eraseRow, ← Array.mem_toList_iff, Array.toList_eraseIdxIfInBounds,
    List.mem_eraseIdx_iff_getElem?] at ho
  obtain ⟨i, apart, hi⟩ := ho
  rw [Array.getElem?_toList] at hi
  intro same
  refine apart ((indexed.keys c hc).position_unique ?_ ?_ same)
  · rw [getElem?_values, hi, Option.map_some]
  · rw [getElem?_values, hp, Option.map_some]

/-- A deleted row whose unique values are free fits in again, as it was. -/
theorem insert_of_eraseRow (indexed : t.Indexed) (conforming : t.Conforming) {p : Nat}
    (hp : t.rows[p]? = some r) (erased : (t.eraseRow p).Indexed)
    (free : ∀ n ∈ uniqueNames t.columns, ∀ other ∈ (t.eraseRow p).rows,
      ¬ (other.get n).same (r.get n) = true) :
    (t.eraseRow p).insert r = .ok ((t.eraseRow p).append r) := by
  have accepted : t.acceptRow r = .ok r :=
    acceptRow_eq_self conforming.distinct (conforming.rows r (Array.mem_of_getElem? hp))
  exact erased.insert_of_apart accepted
    (fun _ hd _ ho => indexed.not_same_key_of_mem_eraseRow hd hp ho) free

/-- On a table with a primary key, after whatever calls, deleting a row by its key as it was written
for the insertion leaves the table as it was before the insertion, and inserting a deleted row puts
it behind the others, unless one of them has the same value in a unique column. -/
theorem insert_delete_undo (name : String) {columns : List Column} (calls : List Call)
    (distinct : (columns.map (·.name)).Nodup) {c : Column}
    (hc : columns.find? (·.primaryKey) = some c) :
    let t := (new name columns).afterAll calls
    (∀ r after, t.insert r = .ok after →
      ∃ restored, after.delete? (r.get c.name) = some restored ∧ restored.Alike t) ∧
    ∀ v after, t.delete? v = some after → ∃ p r, t.row? v = some r ∧ t.rows[p]? = some r ∧
      after.rows.toList = t.rows.toList.eraseIdx p ∧
      ((∀ d ∈ columns, d.unique = true → ∀ other ∈ after.rows,
          ¬ (other.get d.name).same (r.get d.name) = true) →
        ∃ again, after.insert r = .ok again ∧
          again.rows.toList = t.rows.toList.eraseIdx p ++ [r] ∧ again.Indexed) := by
  intro t
  have indexed : t.Indexed := indexed_kept.afterAll (indexed_new name columns) calls
  have conforming : t.Conforming := conforming_kept.afterAll (conforming_new name distinct) calls
  have declared : t.columns = columns := columns_afterAll (new name columns) calls
  have hc : t.keyColumn? = some c := by rw [keyColumn?, declared]; exact hc
  constructor
  · intro r after inserted
    exact indexed.delete?_of_insert conforming.distinct hc inserted
  · intro v after deleted
    have erased := indexed.delete? deleted
    obtain ⟨p, hp, rfl⟩ := (delete?_eq_some_iff t after v).mp deleted
    obtain ⟨r, hr, -⟩ := (indexed.position?_eq_some_iff hc v p).mp hp
    have rows : (t.eraseRow p).rows.toList = t.rows.toList.eraseIdx p := by
      rw [rows_eraseRow, Array.toList_eraseIdxIfInBounds]
    refine ⟨p, r, by rw [row?, hp, Option.bind_some, hr], hr, rows, ?_⟩
    intro free
    have fresh : ∀ n ∈ uniqueNames t.columns, ∀ other ∈ (t.eraseRow p).rows,
        ¬ (other.get n).same (r.get n) = true := by
      intro n hn
      obtain ⟨d, hd, unique, rfl⟩ := (mem_uniqueNames _ _).mp hn
      exact free d (declared ▸ hd) unique
    have inserted := insert_of_eraseRow indexed conforming hr erased fresh
    refine ⟨_, inserted, ?_, erased.insert inserted⟩
    rw [rows_append, Array.toList_push, rows]

/-- Beside two rows that an update has made alike in a unique column a row with an integer for its
`FLOAT` key comes and goes, and the first row is deleted and comes back as the last. -/
theorem insert_delete_undo_beside_duplicates :
    let id : Column := { name := "id", type := .float, nullable := false, primaryKey := true }
    let u : Column := { name := "u", type := .int, unique := true }
    let calls : List Call :=
      [.insert (Row.ofList [("id", .int 7), ("u", .int 8)]),
        .insert (Row.ofList [("id", .int 1), ("u", .int 5)]),
        .insert (Row.ofList [("id", .int 2), ("u", .int 6)]),
        .update (.int 2) (Row.ofList [("u", .int 5)])]
    let t := (new "t" [id, u]).afterAll calls
    let r := Row.ofList [("u", .int 6), ("id", .int 3)]
    (∃ after restored, t.insert r = .ok after ∧ after.delete? (.int 3) = some restored ∧
      restored.Alike t) ∧
    ∃ first after again, t.row? (.int 7) = some first ∧ t.delete? (.int 7) = some after ∧
      after.insert first = .ok again ∧ again.Indexed ∧
      again.rows.toList.map (·.get "u") = [.int 5, .int 5, .int 8] := by
  intro id u calls t r
  have distinct : ([id, u].map (·.name)).Nodup := by decide
  have keyed : [id, u].find? (·.primaryKey) = some id := by decide
  have undo := insert_delete_undo "t" calls distinct keyed
  constructor
  · have taken : (t.insert r).toOption.isSome = true := by decide +kernel
    cases inserted : t.insert r with
    | error f =>
      rw [inserted] at taken
      cases taken
    | ok after =>
      obtain ⟨restored, deleted, alike⟩ := undo.1 r after inserted
      exact ⟨after, restored, rfl, deleted, alike⟩
  · have present : (t.delete? (.int 7)).isSome = true := by decide +kernel
    have remaining : (t.delete? (.int 7)).map (·.rows.toList.map (·.get "u")) =
        some [.int 5, .int 5] := by decide +kernel
    have removed : (t.row? (.int 7)).map (·.get "u") = some (.int 8) := by decide +kernel
    obtain ⟨after, deleted⟩ := Option.isSome_iff_exists.mp present
    obtain ⟨p, first, found, -, rest, back⟩ := undo.2 _ after deleted
    rw [deleted] at remaining
    rw [found] at removed
    have others : after.rows.toList.map (·.get "u") = [.int 5, .int 5] := Option.some.inj remaining
    have value : first.get "u" = .int 8 := Option.some.inj removed
    have free : ∀ d ∈ [id, u], d.unique = true → ∀ other ∈ after.rows,
        ¬ (other.get d.name).same (first.get d.name) = true := by
      intro d hd unique other ho
      obtain rfl : d = u := by revert d; decide
      have held : other.get "u" ∈ after.rows.toList.map (·.get "u") :=
        List.mem_map_of_mem (Array.mem_toList_iff.mpr ho)
      have five : other.get u.name = .int 5 := by simpa [others] using held
      have eight : first.get u.name = .int 8 := value
      rw [five, eight]
      decide
    obtain ⟨again, inserted, rows, exact_indexes⟩ := back free
    refine ⟨first, after, again, found, deleted, inserted, exact_indexes, ?_⟩
    rw [rows, ← rest, List.map_append, others, List.map_singleton, value]
    rfl

end Table

end SqlStore
