import SqlStore.Proofs.Basic
import SqlStore.Proofs.Row
import SqlStore.Table

/-!
# Calls on a table

A call inserts, updates, deletes or reads, and is answered together with the table after it. For
every operation one lemma says when it succeeds and what the table is then. `Kept.afterAll` is the
induction over runs: what the three writing operations keep holds after any calls.
-/

namespace SqlStore

inductive Call where
  | insert (row : Row)
  | update (key : Value) (assignments : Row)
  | delete (key : Value)
  | find (key : Value)
  | select (conditions : Option Row)

inductive Answer where
  | done
  | refused (fault : Fault)
  /-- Whether a row was there to delete. -/
  | deleted (present : Bool)
  | found (row : Option Row)
  | selected (rows : List Row)

namespace Table

def answer (t : Table) : Call → Answer × Table
  | .insert r =>
    match t.insert r with
    | .ok after => (.done, after)
    | .error f => (.refused f, t)
  | .update v assignments =>
    match t.update v assignments with
    | .ok after => (.done, after)
    | .error f => (.refused f, t)
  | .delete v =>
    match t.delete? v with
    | some after => (.deleted true, after)
    | none => (.deleted false, t)
  | .find v => (.found (t.row? v), t)
  | .select conditions => (.selected (t.select conditions), t)

def answers (t : Table) : List Call → List Answer
  | [] => []
  | c :: cs => (t.answer c).1 :: (t.answer c).2.answers cs

def afterAll (t : Table) (calls : List Call) : Table :=
  calls.foldl (fun t c => (t.answer c).2) t

theorem afterAll_cons (t : Table) (c : Call) (calls : List Call) :
    t.afterAll (c :: calls) = (t.answer c).2.afterAll calls :=
  rfl

/-- A property of tables that insertions, updates and deletions keep. -/
structure Kept (P : Table → Prop) : Prop where
  insert : ∀ {t after : Table} {r : Row}, P t → t.insert r = .ok after → P after
  update : ∀ {t after : Table} {v : Value} {assignments : Row}, P t →
    t.update v assignments = .ok after → P after
  delete? : ∀ {t after : Table} {v : Value}, P t → t.delete? v = some after → P after

theorem Kept.answer {P : Table → Prop} (kept : Kept P) {t : Table} (start : P t) (c : Call) :
    P (t.answer c).2 := by
  cases c with
  | insert r =>
    cases h : t.insert r with
    | ok after => simpa only [Table.answer, h] using kept.insert start h
    | error f => simpa only [Table.answer, h] using start
  | update v assignments =>
    cases h : t.update v assignments with
    | ok after => simpa only [Table.answer, h] using kept.update start h
    | error f => simpa only [Table.answer, h] using start
  | delete v =>
    cases h : t.delete? v with
    | some after => simpa only [Table.answer, h] using kept.delete? start h
    | none => simpa only [Table.answer, h] using start
  | find v => exact start
  | select conditions => exact start

theorem Kept.afterAll {P : Table → Prop} (kept : Kept P) {t : Table} (start : P t)
    (calls : List Call) : P (t.afterAll calls) := by
  induction calls generalizing t with
  | nil => exact start
  | cons c calls ih =>
    rw [afterAll_cons]
    exact ih (kept.answer start c)

/-- A field is accepted under its name in the form of the first column of that name. -/
theorem acceptField_eq_ok_iff (t : Table) (f g : String × Value) :
    t.acceptField f = .ok g ↔
      ∃ c, t.column? f.1 = some c ∧ c.accept f.2 = .ok g.2 ∧ g.1 = f.1 := by
  rw [acceptField]
  cases t.column? f.1 with
  | none => simp
  | some c =>
    cases h : c.accept f.2 with
    | error e => simp [Except.map, h]
    | ok w =>
      simp only [Except.map, Except.ok.injEq, Option.some.injEq, exists_eq_left', h]
      constructor
      · rintro rfl
        exact ⟨rfl, rfl⟩
      · rintro ⟨rfl, hn⟩
        rw [← hn]

theorem names_of_accepted {t : Table} {fs gs : List (String × Value)}
    (h : fs.mapM t.acceptField = .ok gs) : gs.map Prod.fst = fs.map Prod.fst := by
  rw [mapM_eq_ok_iff] at h
  induction h with
  | nil => rfl
  | cons hf _ ih =>
    obtain ⟨_, _, _, hn⟩ := (t.acceptField_eq_ok_iff _ _).mp hf
    rw [List.map_cons, List.map_cons, hn, ih]

/-- Every accepted field comes from one that was given. -/
theorem exists_of_mem_accepted {t : Table} {fs gs : List (String × Value)}
    (h : fs.mapM t.acceptField = .ok gs) {g : String × Value} (hg : g ∈ gs) :
    ∃ f ∈ fs, t.acceptField f = .ok g := by
  rw [mapM_eq_ok_iff] at h
  induction h with
  | nil => cases hg
  | cons hf _ ih =>
    rcases List.mem_cons.mp hg with rfl | hg
    · exact ⟨_, List.mem_cons_self, hf⟩
    · obtain ⟨f, hm, hf⟩ := ih hg
      exact ⟨f, List.mem_cons_of_mem _ hm, hf⟩

theorem nodup_of_accepted {t : Table} {r : Row} {gs : List (String × Value)}
    (h : r.fields.mapM t.acceptField = .ok gs) : (gs.map Prod.fst).Nodup := by
  rw [names_of_accepted h]
  exact r.names_nodup

theorem acceptRow_eq_ok_iff (t : Table) (r row : Row) :
    t.acceptRow r = .ok row ↔
      r.fields.mapM t.acceptField = .ok row.fields ∧
        ∀ c ∈ t.columns, c.nullable = false → row.contains c.name = true := by
  have present : ∀ row : Row,
      (t.columns.find? fun c => !c.nullable && !row.contains c.name) = none ↔
        ∀ c ∈ t.columns, c.nullable = false → row.contains c.name = true := by
    intro row
    simp [List.find?_eq_none]
  rw [acceptRow, bind_eq_ok_iff]
  constructor
  · rintro ⟨gs, hgs, h⟩
    cases hc : t.columns.find? fun c => !c.nullable && !(Row.ofList gs).contains c.name with
    | some c => simp only [hc] at h; cases h
    | none =>
      simp only [hc] at h
      cases h
      rw [Row.fields_ofList (nodup_of_accepted hgs)]
      exact ⟨hgs, (present _).mp hc⟩
  · rintro ⟨hgs, h⟩
    have hrow : Row.ofList row.fields = row := Row.ext (Row.fields_ofList row.names_nodup)
    refine ⟨row.fields, hgs, ?_⟩
    simp only [hrow, (present row).mpr h]
    rfl

theorem checkKey_eq_ok_iff (t : Table) (row : Row) :
    t.checkKey row = .ok () ↔
      ∀ c, t.keyColumn? = some c → t.keyIndex.contains (row.get c.name) = false := by
  rw [checkKey]
  cases t.keyColumn? with
  | none => simp
  | some c => cases h : t.keyIndex.contains (row.get c.name) <;> simp [h]

theorem checkUnique_eq_ok_iff (t : Table) (row : Row) :
    t.checkUnique row = .ok () ↔
      ∀ ix ∈ t.uniqueIndexes, ix.2.contains (row.get ix.1) = false := by
  have free : t.takenColumns row = [] ↔
      ∀ ix ∈ t.uniqueIndexes, ix.2.contains (row.get ix.1) = false := by
    rw [takenColumns, List.map_eq_nil_iff, List.filter_eq_nil_iff]
    simp only [Bool.not_eq_true]
  rw [← free, checkUnique]
  cases t.takenColumns row <;> simp

theorem insert_eq_ok_iff (t after : Table) (r : Row) :
    t.insert r = .ok after ↔ ∃ row, t.acceptRow r = .ok row ∧ t.checkKey row = .ok () ∧
      t.checkUnique row = .ok () ∧ after = t.append row := by
  rw [insert]
  constructor
  · intro h
    obtain ⟨row, hrow, h⟩ := bind_eq_ok_iff.mp h
    obtain ⟨_, hkey, h⟩ := bind_eq_ok_iff.mp h
    obtain ⟨_, hunique, h⟩ := bind_eq_ok_iff.mp h
    exact ⟨row, hrow, hkey, hunique, (Except.ok.inj h).symm⟩
  · rintro ⟨row, hrow, hkey, hunique, rfl⟩
    refine bind_eq_ok_iff.mpr ⟨row, hrow, ?_⟩
    exact bind_eq_ok_iff.mpr ⟨(), hkey, bind_eq_ok_iff.mpr ⟨(), hunique, rfl⟩⟩

/-- The row gets another key exactly when its key column is set to a value that is not the same as
its key; that value is then free. -/
theorem newKey?_eq_ok_iff (t : Table) (key : Value) (fs : List (String × Value))
    (k : Option Value) :
    t.newKey? key fs = .ok k ↔
      match t.keyColumn?.bind fun c => fs.find? (·.1 == c.name) with
      | none => k = none
      | some f =>
        if f.2.same key then k = none else t.keyIndex.contains f.2 = false ∧ k = some f.2 := by
  have answered : ∀ a : Option Value, (Except.ok a : Except Fault _) = .ok k ↔ k = a := fun a =>
    ⟨fun h => (Except.ok.inj h).symm, fun h => h ▸ rfl⟩
  rw [newKey?]
  cases t.keyColumn? with
  | none => exact answered none
  | some c =>
    simp only [Option.bind_some]
    cases fs.find? (·.1 == c.name) with
    | none => exact answered none
    | some f =>
      by_cases hs : f.2.same key = true
      · simp only [hs, if_true]
        exact answered none
      · by_cases hc : t.keyIndex.contains f.2 = true
        · simp only [hs, hc, if_true, if_false, Bool.true_eq_false, false_and, reduceCtorEq]
        · simp only [hs, hc, true_and]
          exact answered (some f.2)

theorem update_eq_ok_iff (t after : Table) (v : Value) (assignments : Row) :
    t.update v assignments = .ok after ↔ ∃ p fs k, t.position? v = some p ∧
      assignments.fields.mapM t.acceptField = .ok fs ∧
      t.newKey? (t.lookupKey v) fs = .ok k ∧ after = t.setFields p (t.lookupKey v) k fs := by
  rw [update]
  cases t.position? v with
  | none => simp [throw, throwThe, MonadExceptOf.throw]
  | some p =>
    simp only [bind_eq_ok_iff, Option.some.injEq, exists_and_left, exists_eq_left']
    constructor
    · rintro ⟨fs, hfs, k, hk, h⟩
      exact ⟨fs, hfs, k, hk, (Except.ok.inj h).symm⟩
    · rintro ⟨fs, hfs, k, hk, rfl⟩
      exact ⟨fs, hfs, k, hk, rfl⟩

theorem delete?_eq_some_iff (t after : Table) (v : Value) :
    t.delete? v = some after ↔ ∃ p, t.position? v = some p ∧ after = t.eraseRow p := by
  rw [delete?, Option.map_eq_some_iff]
  simp only [eq_comm]

/-- No operation changes the name or the columns. -/
theorem kept_of_schema (Q : String → List Column → Prop) : Kept fun t => Q t.name t.columns where
  insert := by
    intro t after r ht h
    obtain ⟨row, -, -, -, rfl⟩ := (insert_eq_ok_iff t after r).mp h
    exact ht
  update := by
    intro t after v assignments ht h
    obtain ⟨p, fs, k, -, -, -, rfl⟩ := (update_eq_ok_iff t after v assignments).mp h
    exact ht
  delete? := by
    intro t after v ht h
    obtain ⟨p, -, rfl⟩ := (delete?_eq_some_iff t after v).mp h
    exact ht

theorem columns_afterAll (t : Table) (calls : List Call) :
    (t.afterAll calls).columns = t.columns :=
  (kept_of_schema fun _ columns => columns = t.columns).afterAll rfl calls

end Table

end SqlStore
