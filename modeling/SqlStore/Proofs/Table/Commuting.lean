import SqlStore.Proofs.Table.Addressed

/-!
# Calls on different keys

An update that leaves the primary key alone and a deletion reach one row, found by its key, although
a deletion moves the rows behind it and makes all indexes anew. Seen from the rows such a call does
the same to every table: it changes the row that the value addresses, or takes it out, and lets the
others be. Two calls whose values are different keys reach different rows, and neither call moves a
row in or out of the reach of the other, so it does not matter which of them comes first.
-/

namespace SqlStore

theorem filterMap_eq_self {α : Type} {p : α → Bool} {as : List α}
    (none : ∀ a ∈ as, p a = false) (f : α → Option α) :
    (as.filterMap fun a => if p a then f a else some a) = as := by
  refine (List.filterMap_congr fun a ha => ?_).trans List.filterMap_some
  rw [none a ha]
  rfl

/-- Where at most one item passes the test, changing or dropping what passes it is a change at the
position of that item. -/
theorem filterMap_eq_of_findIdx? {α : Type} {p : α → Bool} {as : List α}
    (once : as.Pairwise fun a b => ¬ (p a = true ∧ p b = true)) {i : Nat}
    (found : as.findIdx? p = some i) (f : α → Option α) :
    ∃ a, as[i]? = some a ∧ (as.filterMap fun b => if p b then f b else some b) =
      as.take i ++ ((f a).toList ++ as.drop (i + 1)) := by
  induction as generalizing i with
  | nil => cases found
  | cons a as ih =>
    rw [List.pairwise_cons] at once
    rw [List.findIdx?_cons] at found
    by_cases ha : p a = true
    · rw [if_pos ha] at found
      obtain rfl := Option.some.inj found
      have others : ∀ b ∈ as, p b = false := fun b hb =>
        Bool.eq_false_iff.mpr fun hp => once.1 b hb ⟨ha, hp⟩
      refine ⟨a, rfl, ?_⟩
      rw [List.filterMap_cons, if_pos ha, filterMap_eq_self others]
      cases f a <;> rfl
    · rw [if_neg ha, Option.map_eq_some_iff] at found
      obtain ⟨j, hj, rfl⟩ := found
      obtain ⟨b, hb, rest⟩ := ih once.2 hj
      refine ⟨b, hb, ?_⟩
      rw [List.filterMap_cons, if_neg ha, rest]
      rfl

theorem PlainTable.names_of_accepted {columns : List Column} {fs gs : List (String × Value)}
    (h : acceptFields columns fs = .ok gs) : gs.map Prod.fst = fs.map Prod.fst :=
  Table.names_of_accepted (((Table.new "" columns).plain_acceptFields fs).symm.trans h)

inductive RowChange where
  | set (assignments : Row)
  | remove

namespace RowChange

/-- The call that makes the change to the row that the value addresses. -/
def call (v : Value) : RowChange → Call
  | set assignments => .update v assignments
  | remove => .delete v

def Spares (column : String) : RowChange → Prop
  | set assignments => column ∉ assignments.names
  | remove => True

/-- What becomes of a row; it stays as it is when a field is refused. -/
def apply (columns : List Column) : RowChange → Row → Option Row
  | set assignments, r =>
    match PlainTable.acceptFields columns assignments.fields with
    | .ok fs => some (r.insertAll fs)
    | .error _ => some r
  | remove, _ => none

/-- What becomes of a row when the change is made to the one that the value addresses. -/
def reach (columns : List Column) (c : Column) (v : Value) (a : RowChange) (r : Row) :
    Option Row :=
  if PlainTable.addresses c v r then a.apply columns r else some r

/-- The answer to the change, by whether there is a row to make it to. -/
def answer (columns : List Column) (v : Value) (present : Bool) : RowChange → Answer
  | set assignments =>
    if present then
      match PlainTable.acceptFields columns assignments.fields with
      | .ok _ => .done
      | .error f => .refused f
    else .refused (.rowNotFound v)
  | remove => .deleted present

section

variable {columns : List Column} {c : Column} {a b : RowChange} {v w : Value} {r after : Row}

theorem get_of_apply {column : String} (spares : a.Spares column)
    (h : a.apply columns r = some after) : after.get column = r.get column := by
  cases a with
  | remove => cases h
  | set assignments =>
    rw [apply] at h
    cases accepted : PlainTable.acceptFields columns assignments.fields with
    | error f =>
      rw [accepted] at h
      rw [Option.some.inj h]
    | ok fs =>
      rw [accepted] at h
      obtain rfl := Option.some.inj h
      apply Row.get_insertAll_of_notMem
      rw [PlainTable.names_of_accepted accepted]
      exact spares

/-- A row that a change leaves is addressed by the same values as before. -/
theorem addresses_of_reach (spares : a.Spares c.name) (h : a.reach columns c v r = some after)
    (w : Value) : PlainTable.addresses c w after = PlainTable.addresses c w r := by
  rw [reach] at h
  split at h
  · rw [PlainTable.addresses, get_of_apply spares h, PlainTable.addresses]
  · rw [Option.some.inj h]

/-- A row that the second value does not address is changed as if the second change were not
made. -/
theorem reach_bind_eq_left (spares : a.Spares c.name)
    (other : PlainTable.addresses c w r = false) :
    (a.reach columns c v r).bind (b.reach columns c w) = a.reach columns c v r := by
  cases h : a.reach columns c v r with
  | none => rfl
  | some after =>
    have unaddressed := (addresses_of_reach spares h w).trans other
    rw [Option.bind_some, reach, unaddressed]
    rfl

theorem reach_bind_eq_right (other : PlainTable.addresses c v r = false) :
    (a.reach columns c v r).bind (b.reach columns c w) = b.reach columns c w r := by
  have spared : a.reach columns c v r = some r := by
    rw [reach, other]
    rfl
  rw [spared, Option.bind_some]

/-- Values that are different keys address different rows. -/
theorem not_addresses_both (apart : ¬ (PlainTable.keyForm c v).same (PlainTable.keyForm c w) = true)
    (r : Row) : PlainTable.addresses c v r = false ∨ PlainTable.addresses c w r = false := by
  cases hv : PlainTable.addresses c v r with
  | false => exact Or.inl rfl
  | true =>
    cases hw : PlainTable.addresses c w r with
    | false => exact Or.inr rfl
    | true => exact absurd (Value.same_trans (Value.same_symm hv) hw) apart

section

variable (apart : ¬ (PlainTable.keyForm c v).same (PlainTable.keyForm c w) = true)

include apart

theorem reach_comm (ha : a.Spares c.name) (hb : b.Spares c.name) (r : Row) :
    (a.reach columns c v r).bind (b.reach columns c w) =
      (b.reach columns c w r).bind (a.reach columns c v) := by
  rcases not_addresses_both apart r with other | other
  · rw [reach_bind_eq_right other, reach_bind_eq_left hb other]
  · rw [reach_bind_eq_left ha other, reach_bind_eq_right other]

/-- A change neither makes nor takes away a row that the other value addresses. -/
theorem any_addresses_filterMap_reach (spares : a.Spares c.name) (rows : List Row) :
    (rows.filterMap (a.reach columns c v)).any (PlainTable.addresses c w) =
      rows.any (PlainTable.addresses c w) := by
  rw [List.any_filterMap]
  refine List.any_congr rfl fun r => ?_
  cases h : a.reach columns c v r with
  | some after => exact addresses_of_reach spares h w
  | none =>
    -- only a row that the first value addresses is taken out
    refine ((not_addresses_both apart r).resolve_left fun other => ?_).symm
    rw [reach, other] at h
    cases h

end

end

end RowChange

namespace PlainTable

section

variable {t : PlainTable} {c : Column} (hc : t.columns.find? (·.primaryKey) = some c)

include hc

/-- Fields that spare the key column meet no other row. -/
theorem checkNewKey_eq_ok {fs : List (String × Value)} (spared : c.name ∉ fs.map Prod.fst)
    (p : Nat) : t.checkNewKey p fs = .ok () := by
  rw [checkNewKey, hc]
  simp only [find?_name_eq_none_iff.mpr spared]

theorem answer_change_of_not_addressed {v : Value}
    (missing : ∀ r ∈ t.rows, addresses c v r = false) (a : RowChange) :
    t.answer (a.call v) = (a.answer t.columns v false, t) := by
  have nowhere : t.position? v = none := by
    rw [position?, hc]
    exact List.findIdx?_eq_none_iff.mpr missing
  cases a with
  | set assignments =>
    rw [RowChange.call, answer, update, nowhere]
    rfl
  | remove =>
    rw [RowChange.call, answer, delete?, nowhere]
    rfl

theorem answer_change_of_addressed {v : Value}
    (once : t.rows.Pairwise fun r s => ¬ (addresses c v r = true ∧ addresses c v s = true))
    {p : Nat} (found : t.rows.findIdx? (addresses c v) = some p) {a : RowChange}
    (spares : a.Spares c.name) :
    t.answer (a.call v) =
      (a.answer t.columns v true, { t with rows := t.rows.filterMap (a.reach t.columns c v) }) := by
  have position : t.position? v = some p := by
    rw [position?, hc]
    exact found
  obtain ⟨r, hr, rows⟩ := filterMap_eq_of_findIdx? once found (a.apply t.columns)
  have reached : t.rows.filterMap (a.reach t.columns c v) = _ := rows
  rw [reached]
  cases a with
  | remove =>
    rw [RowChange.call, answer, delete?, position, Option.map_some,
      List.eraseIdx_eq_take_drop_succ]
    rfl
  | set assignments =>
    obtain ⟨inside, rfl⟩ := List.getElem?_eq_some_iff.mp hr
    rw [RowChange.call, answer, update, position, RowChange.answer, RowChange.apply]
    cases accepted : acceptFields t.columns assignments.fields with
    | error f =>
      simp [bind, Except.bind]
    | ok fs =>
      have spared : c.name ∉ fs.map Prod.fst := by
        rw [names_of_accepted accepted]
        exact spares
      simp only [bind, Except.bind, checkNewKey_eq_ok hc spared]
      rw [List.modify_eq_take_cons_drop inside]
      rfl

/-- Where a value addresses at most one row, a change to the addressed row that spares the key is
made row by row. -/
theorem answer_change {v : Value}
    (once : t.rows.Pairwise fun r s => ¬ (addresses c v r = true ∧ addresses c v s = true))
    {a : RowChange} (spares : a.Spares c.name) :
    t.answer (a.call v) =
      (a.answer t.columns v (t.rows.any (addresses c v)),
        { t with rows := t.rows.filterMap (a.reach t.columns c v) }) := by
  cases found : t.rows.findIdx? (addresses c v) with
  | some p =>
    have present : t.rows.any (addresses c v) = true := by
      rw [← List.findIdx?_isSome, found]
      rfl
    rw [answer_change_of_addressed hc once found spares, present]
  | none =>
    have missing := List.findIdx?_eq_none_iff.mp found
    have none : t.rows.any (addresses c v) = false := by
      rw [← List.findIdx?_isSome, found]
      rfl
    have kept : t.rows.filterMap (a.reach t.columns c v) = t.rows :=
      filterMap_eq_self missing (a.apply t.columns)
    rw [answer_change_of_not_addressed hc missing, none, kept]

end

end PlainTable

namespace Table

section

variable {t : Table} (indexed : t.Indexed) {c : Column} (hc : t.keyColumn? = some c)

include indexed hc

theorem Indexed.answer_change {a : RowChange} (spares : a.Spares c.name) (v : Value) :
    (t.answer (a.call v)).1 =
        a.answer t.columns v (t.rows.toList.any (PlainTable.addresses c v)) ∧
      (t.answer (a.call v)).2.rows.toList =
        t.rows.toList.filterMap (a.reach t.columns c v) := by
  have keyed : t.plain.columns.find? (·.primaryKey) = some c := hc
  have forgotten := indexed.plain_answer (a.call v)
  rw [PlainTable.answer_change keyed (indexed.addressed_once hc v) spares] at forgotten
  obtain ⟨answered, left⟩ := Prod.ext_iff.mp forgotten
  exact ⟨answered.symm, congrArg PlainTable.rows left.symm⟩

section

variable {a b : RowChange} (ha : a.Spares c.name) (hb : b.Spares c.name) {v w : Value}
  (apart : ¬ (t.lookupKey v).same (t.lookupKey w) = true)

include ha hb apart

/-- The second of two calls is answered as if it were the first, and the rows change by both. -/
theorem Indexed.answer_change_change :
    ((t.answer (a.call v)).2.answer (b.call w)).1 = (t.answer (b.call w)).1 ∧
      ((t.answer (a.call v)).2.answer (b.call w)).2.rows.toList =
        t.rows.toList.filterMap fun r =>
          (a.reach t.columns c v r).bind (b.reach t.columns c w) := by
  have columns : (t.answer (a.call v)).2.columns = t.columns :=
    (kept_of_schema fun _ columns => columns = t.columns).answer rfl _
  have keyed : (t.answer (a.call v)).2.keyColumn? = some c := by rw [keyColumn?, columns]; exact hc
  rw [← plain_keyForm hc, ← plain_keyForm hc] at apart
  obtain ⟨answered, rows⟩ :=
    (indexed_kept.answer indexed (a.call v)).answer_change keyed hb w
  rw [answered, rows, columns, (indexed.answer_change hc ha v).2,
    RowChange.any_addresses_filterMap_reach apart ha, (indexed.answer_change hc hb w).1,
    List.filterMap_filterMap]
  exact ⟨rfl, rfl⟩

theorem Indexed.rows_change_comm :
    (t.afterAll [a.call v, b.call w]).rows = (t.afterAll [b.call w, a.call v]).rows := by
  have apart' := apart
  rw [← plain_keyForm hc, ← plain_keyForm hc] at apart'
  apply Array.toList_inj.mp
  calc
    _ = t.rows.toList.filterMap fun r =>
          (a.reach t.columns c v r).bind (b.reach t.columns c w) :=
      (indexed.answer_change_change hc ha hb apart).2
    _ = t.rows.toList.filterMap fun r =>
          (b.reach t.columns c w r).bind (a.reach t.columns c v) :=
      List.filterMap_congr fun r _ => RowChange.reach_comm apart' ha hb r
    _ = _ := (indexed.answer_change_change hc hb ha fun h => apart (Value.same_symm h)).2.symm

end

end

/-- On a table with a primary key, after whatever calls, two calls that update or delete by
different keys and leave the keys alone are answered alike in both orders, each as it would be
alone, and leave the same rows in the same order under the same indexes. -/
theorem changes_of_different_keys_commute (name : String) {columns : List Column}
    (calls : List Call) {c : Column} (hc : columns.find? (·.primaryKey) = some c) {a b : RowChange}
    (ha : a.Spares c.name) (hb : b.Spares c.name) (v w : Value) :
    let t := (new name columns).afterAll calls
    ¬ (t.lookupKey v).same (t.lookupKey w) = true →
      t.answers [a.call v, b.call w] = [(t.answer (a.call v)).1, (t.answer (b.call w)).1] ∧
      t.answers [b.call w, a.call v] = [(t.answer (b.call w)).1, (t.answer (a.call v)).1] ∧
      (t.afterAll [a.call v, b.call w]).Alike (t.afterAll [b.call w, a.call v]) := by
  intro t apart
  have indexed : t.Indexed := indexed_kept.afterAll (indexed_new name columns) calls
  have declared : t.columns = columns := columns_afterAll (new name columns) calls
  have hc : t.keyColumn? = some c := by rw [keyColumn?, declared]; exact hc
  have apart' : ¬ (t.lookupKey w).same (t.lookupKey v) = true := fun h => apart (Value.same_symm h)
  have kept := (kept_of_schema fun name columns => name = t.name ∧ columns = t.columns).afterAll
    (t := t) ⟨rfl, rfl⟩
  refine ⟨?_, ?_, ?_⟩
  · rw [answers, answers, answers, (indexed.answer_change_change hc ha hb apart).1]
  · rw [answers, answers, answers, (indexed.answer_change_change hc hb ha apart').1]
  · apply (indexed_kept.afterAll indexed _).alike (indexed_kept.afterAll indexed _)
    · rw [(kept _).1, (kept _).1]
    · rw [(kept _).2, (kept _).2]
    · exact indexed.rows_change_comm hc ha hb apart

/-- A row is updated by an integer for its `FLOAT` key, and one before it is deleted. -/
theorem changes_of_different_keys_commute_moved_row :
    let id : Column := { name := "id", type := .float, nullable := false, primaryKey := true }
    let u : Column := { name := "u", type := .int, unique := true }
    let calls : List Call :=
      [.insert (Row.ofList [("id", .int 1), ("u", .int 4)]),
        .insert (Row.ofList [("id", .int 2), ("u", .int 5)]),
        .insert (Row.ofList [("id", .int 3), ("u", .int 6)])]
    let t := (new "t" [id, u]).afterAll calls
    let x : Call := .update (.int 2) (Row.ofList [("u", .int 4)])
    let y : Call := .delete (.float (.ofInt 1))
    t.answers [x, y] = [.done, .deleted true] ∧ t.answers [y, x] = [.deleted true, .done] ∧
      (t.afterAll [x, y]).Alike (t.afterAll [y, x]) ∧
      (t.afterAll [y, x]).rows.toList.map (·.get "u") = [.int 4, .int 6] := by
  intro id u calls t x y
  have keyed : [id, u].find? (·.primaryKey) = some id := by decide
  have spares : (RowChange.set (Row.ofList [("u", .int 4)])).Spares id.name := by
    rw [RowChange.Spares]
    decide
  have apart : ¬ (t.lookupKey (.int 2)).same (t.lookupKey (.float (.ofInt 1))) = true := by
    decide +kernel
  obtain ⟨forth, back, alike⟩ := changes_of_different_keys_commute "t" calls keyed spares
    (b := .remove) trivial (.int 2) (.float (.ofInt 1)) apart
  have updated : (t.answer x).1 = .done := by
    have accepted : (t.update (.int 2) (Row.ofList [("u", .int 4)])).toOption.isSome = true := by
      decide +kernel
    cases h : t.update (.int 2) (Row.ofList [("u", .int 4)]) with
    | ok after => simp only [x, answer, h]
    | error f =>
      rw [h] at accepted
      cases accepted
  have deleted : (t.answer y).1 = .deleted true := by
    have present : (t.delete? (.float (.ofInt 1))).isSome = true := by decide +kernel
    obtain ⟨after, h⟩ := Option.isSome_iff_exists.mp present
    simp only [y, answer, h]
  rw [RowChange.call, RowChange.call, updated, deleted] at forth back
  exact ⟨forth, back, alike, by decide +kernel⟩

end Table

end SqlStore
