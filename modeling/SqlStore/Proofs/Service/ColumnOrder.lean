import SqlStore.Proofs.Agreement
import SqlStore.Proofs.Row

/-!
# The order of the fields in a response

A service sorts the fields of every row by name before it writes them. Its body is therefore the
JSON text of an outcome, but of the outcome that was asked for only if the names of every row are
in order already.
-/

namespace SqlStore

/-! ## Rows sorted by name -/

namespace Row

def sortByName (r : Row) : Row where
  fields := r.fields.mergeSort fun f g => decide (f.1 ≤ g.1)
  names_nodup := ((List.mergeSort_perm _ _).map Prod.fst).nodup_iff.mpr r.names_nodup

def InNameOrder (r : Row) : Prop :=
  r.names.Pairwise (· ≤ ·)

instance (r : Row) : Decidable r.InNameOrder :=
  inferInstanceAs (Decidable (List.Pairwise _ _))

theorem perm_sortByName (r : Row) : r.sortByName.fields.Perm r.fields :=
  List.mergeSort_perm _ _

theorem inNameOrder_iff (r : Row) :
    r.InNameOrder ↔ r.fields.Pairwise fun f g => decide (f.1 ≤ g.1) = true := by
  simp only [InNameOrder, names, List.pairwise_map, decide_eq_true_eq]

theorem inNameOrder_sortByName (r : Row) : r.sortByName.InNameOrder := by
  rw [inNameOrder_iff]
  refine List.pairwise_mergeSort ?_ ?_ r.fields
  · intro f g h hfg hgh
    rw [decide_eq_true_eq] at hfg hgh ⊢
    exact String.le_trans hfg hgh
  · intro f g
    simpa using String.le_total f.1 g.1

theorem sortByName_eq_self_iff (r : Row) : r.sortByName = r ↔ r.InNameOrder := by
  constructor
  · intro same
    rw [← same]
    exact r.inNameOrder_sortByName
  · intro ordered
    exact ext (List.mergeSort_of_pairwise (r.inNameOrder_iff.mp ordered))

/-- The text of a row is the one of the sorted row only if the row is sorted. -/
theorem sortByName_eq_of_json {r : Row} {x y : List Char}
    (h : (Json.row r).toList ++ x = (Json.row r.sortByName).toList ++ y) : r = r.sortByName :=
  ext (Json.fields_append_inj r.names_nodup r.perm_sortByName.symm h)

end Row

/-! ## Outcomes sorted by name -/

namespace Outcome

def rowList : Outcome → List Row
  | rows rs => rs
  | done => []

def sortByName : Outcome → Outcome
  | rows rs => rows (rs.map Row.sortByName)
  | done => done

/-- Two outcomes that differ in the order of fields only, in the second of which the names of every
row are in order. -/
inductive Sorts : Outcome → Outcome → Prop
  | rows {rs ss : List Row}
      (each : List.Forall₂ (fun r s => s.fields.Perm r.fields ∧ s.InNameOrder) rs ss) :
      Sorts (rows rs) (rows ss)
  | done : Sorts done done

theorem sorts_sortByName (o : Outcome) : o.Sorts o.sortByName := by
  cases o with
  | done => exact .done
  | rows rs =>
    refine .rows (List.forall₂_map_right_iff.mpr (List.forall₂_same.mpr fun r _ => ?_))
    exact ⟨r.perm_sortByName, r.inNameOrder_sortByName⟩

theorem json_sortByName (o : Outcome) :
    Json.outcomeWith Json.sortedRow o = Json.outcome o.sortByName := by
  cases o with
  | done => rfl
  | rows rs =>
    rw [sortByName, Json.outcome, Json.outcomeWith, Json.outcomeWith, List.map_map]
    rfl

theorem json_sortByName_eq_iff (o : Outcome) :
    Json.outcome o.sortByName = Json.outcome o ↔ ∀ r ∈ o.rowList, r.InNameOrder := by
  cases o with
  | done => simp [sortByName, rowList]
  | rows rs =>
    have sorted : rs = rs.map Row.sortByName ↔ ∀ r ∈ rs, r.InNameOrder := by
      simp only [← Row.sortByName_eq_self_iff]
      rw [eq_comm, ← List.map_inj_left, List.map_id']
    refine Iff.trans ?_ sorted
    constructor
    · intro same
      have told : List.Forall₂ (fun r s : Row => ∀ x y : List Char,
          (Json.row r).toList ++ x = (Json.row s).toList ++ y → r = s)
          rs (rs.map Row.sortByName) :=
        List.forall₂_map_right_iff.mpr
          (List.forall₂_same.mpr fun r _ _ _ h => Row.sortByName_eq_of_json h)
      have items : (",".intercalate (rs.map Json.row)).toList ++ [']'] =
          (",".intercalate ((rs.map Row.sortByName).map Json.row)).toList ++ [']'] := by
        simpa [Json.outcome, Json.outcomeWith, Json.array, sortByName] using
          (congrArg String.toList same).symm
      exact Json.intercalate_append_inj told items
    · intro same
      rw [sortByName, ← same]

end Outcome

namespace Service

theorem trim_ne_empty_of_run {db : Database} {sql : String} {o : Outcome}
    (ran : (db.run sql).1 = .ok o) : Text.trim sql ≠ "" := by
  intro blank
  rw [Database.run, Statement.ofText_of_blank blank] at ran
  cases ran

/-- A text that has an outcome is answered with the JSON text of the sorted outcome. -/
theorem answer_eq_of_run {db : Database} {r : Request} {sql : String} {o : Outcome}
    (delivers : Delivers r sql) (ran : (db.run sql).1 = .ok o) :
    answer db r =
      (⟨200, Json.object [("result", Json.outcome o.sortByName)]⟩, (db.run sql).2) := by
  rw [answer_eq_response db delivers (trim_ne_empty_of_run ran), ran, response, inForm, success,
    Outcome.json_sortByName]

theorem body_eq_outcome_iff {db : Database} {r : Request} {sql : String} {o : Outcome}
    (delivers : Delivers r sql) (ran : (db.run sql).1 = .ok o) :
    (answer db r).1.body = Json.object [("result", Json.outcome o)] ↔
      ∀ row ∈ o.rowList, row.InNameOrder := by
  rw [answer_eq_of_run delivers ran, ← o.json_sortByName_eq_iff]
  constructor
  · exact Json.object_singleton_inj
  · exact congrArg fun text => Json.object [("result", text)]

/-- A text that has an outcome is answered with the JSON text of this outcome with the fields of
every row sorted by name. That is the text of the outcome itself exactly if the names of all its
rows are in order. -/
theorem body_keeps_order_iff (db : Database) {r : Request} {sql : String} {o : Outcome}
    (delivers : Delivers r sql) (ran : (db.run sql).1 = .ok o) :
    (∃ sorted, o.Sorts sorted ∧
      answer db r = (⟨200, Json.object [("result", Json.outcome sorted)]⟩, (db.run sql).2)) ∧
    ((answer db r).1.body = Json.object [("result", Json.outcome o)] ↔
      ∀ row ∈ o.rowList, row.InNameOrder) :=
  ⟨⟨o.sortByName, o.sorts_sortByName, answer_eq_of_run delivers ran⟩,
    body_eq_outcome_iff delivers ran⟩

/-- A query that asks for the columns in the order of their names is answered as it is. -/
theorem body_keeps_order_iff_columns_by_name :
    let db := Database.empty.runAll
      ["CREATE TABLE t (b INTEGER, a INTEGER)", "INSERT INTO t VALUES (1, 2)"]
    let sql := "SELECT a, b FROM t"
    let r : Request := ⟨"GET", "/query?sql=SELECT+a,+b+FROM+t"⟩
    Delivers r sql ∧ ∃ o, (db.run sql).1 = .ok o ∧
      Json.outcome o = "[\x7b\"a\":2,\"b\":1\x7d]" ∧
      (answer db r).1.body = Json.object [("result", Json.outcome o)] := by
  intro db sql r
  have delivers : Delivers r sql := ⟨rfl, by decide +kernel, by decide +kernel⟩
  have found : (db.run sql).1.toOption.any (fun o => decide (∀ row ∈ o.rowList, row.InNameOrder) &&
      Json.outcome o == "[\x7b\"a\":2,\"b\":1\x7d]") = true := by decide +kernel
  refine ⟨delivers, ?_⟩
  cases ran : (db.run sql).1 with
  | error e =>
    rw [ran] at found
    cases found
  | ok o =>
    rw [ran] at found
    obtain ⟨ordered, text⟩ := Bool.and_eq_true_iff.mp found
    have body := (body_keeps_order_iff db delivers ran).2.mpr (of_decide_eq_true ordered)
    exact ⟨o, rfl, beq_iff_eq.mp text, body⟩

/-- All columns of a table are not listed in the order in which it has them. -/
theorem body_ne_outcome :
    let db := Database.empty.runAll
      ["CREATE TABLE t (b INTEGER, a INTEGER)", "INSERT INTO t VALUES (1, 2)"]
    let sql := "SELECT * FROM t"
    let r : Request := ⟨"GET", "/query?sql=SELECT+*+FROM+t"⟩
    Delivers r sql ∧ ∃ o, (db.run sql).1 = .ok o ∧
      Json.outcome o = "[\x7b\"b\":1,\"a\":2\x7d]" ∧
      (answer db r).1.body ≠ Json.object [("result", Json.outcome o)] := by
  intro db sql r
  have delivers : Delivers r sql := ⟨rfl, by decide +kernel, by decide +kernel⟩
  have found : (db.run sql).1.toOption.any (fun o =>
      decide (¬ ∀ row ∈ o.rowList, row.InNameOrder) &&
        Json.outcome o == "[\x7b\"b\":1,\"a\":2\x7d]") = true := by decide +kernel
  refine ⟨delivers, ?_⟩
  cases ran : (db.run sql).1 with
  | error e =>
    rw [ran] at found
    cases found
  | ok o =>
    rw [ran] at found
    obtain ⟨disordered, text⟩ := Bool.and_eq_true_iff.mp found
    refine ⟨o, rfl, beq_iff_eq.mp text, fun body => ?_⟩
    exact of_decide_eq_true disordered ((body_eq_outcome_iff delivers ran).mp body)

end Service

end SqlStore
