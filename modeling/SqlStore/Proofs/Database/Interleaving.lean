import SqlStore.Proofs.Database.Query
import SqlStore.Proofs.Database.Reached

/-!
# Clients that share a database

Several clients send statements to one database, which serves them one at a time in whatever order
they arrive. A statement reads and writes only the tables that it mentions. So clients that mention
no common table do not notice each other: each gets the answers that it would get alone, and what
becomes of the database does not depend on the order.
-/

namespace SqlStore

/-- The names of the tables that a statement makes, changes or reads. -/
def Statement.tables : Statement → List String
  | createTable name _ => [name]
  | insert table _ => [table]
  | select q => q.table :: (q.join.map (·.table)).toList
  | update u => [u.table]
  | delete d => [d.table]

namespace Database

/-! ## What a statement reads and writes -/

/-- A statement makes a table, changes one, which keeps its name, or is a query. -/
theorem execute_cases (s : Statement) :
    (∃ name columns, s.tables = [name] ∧ ∀ db, execute db s = db.createTable name columns) ∨
    (∃ name f, s.tables = [name] ∧ (∀ t after, f t = .ok after → after.name = t.name) ∧
      ∀ db, execute db s = db.change name f) ∨
    ∃ q, s = .select q := by
  have named_kept := fun t : Table => Table.kept_of_schema fun name _ => name = t.name
  cases s with
  | createTable name columns => exact Or.inl ⟨name, _, rfl, fun _ => rfl⟩
  | insert name values =>
    refine Or.inr (Or.inl ⟨name, _, rfl, fun t after h => ?_, fun _ => rfl⟩)
    exact insertValues_kept (named_kept t) rfl h
  | select q => exact Or.inr (Or.inr ⟨q, rfl⟩)
  | update u =>
    refine Or.inr (Or.inl ⟨u.table, _, rfl, fun t after h => ?_, fun _ => rfl⟩)
    exact (named_kept t).update rfl h
  | delete d =>
    refine Or.inr (Or.inl ⟨d.table, _, rfl, fun t after h => ?_, fun _ => rfl⟩)
    obtain rfl := Except.ok.inj h
    cases hd : t.delete? d.key with
    | none => rfl
    | some after => exact (named_kept t).delete? rfl hd

/-- Equal answers, and the tables on which the databases agreed before are equal again. -/
def SameOutcome (db db' : Database) (x y : Except Fault Outcome × Database) : Prop :=
  x.1 = y.1 ∧ ∀ n, db.table? n = db'.table? n → x.2.table? n = y.2.table? n

section

variable {db db' : Database} {name : String}

theorem sameOutcome_put (t : Table) (a : Except Fault Outcome) :
    SameOutcome db db' (a, db.put t) (a, db'.put t) := by
  refine ⟨rfl, fun n h => ?_⟩
  rw [table?_put, table?_put, h]

theorem sameOutcome_createTable (agree : db.table? name = db'.table? name)
    (columns : List Column) :
    SameOutcome db db' (db.createTable name columns) (db'.createTable name columns) := by
  rw [createTable, createTable, agree]
  cases db'.table? name with
  | some t => exact ⟨rfl, fun n h => h⟩
  | none => exact sameOutcome_put _ _

theorem sameOutcome_change (agree : db.table? name = db'.table? name)
    (f : Table → Except Fault Table) :
    SameOutcome db db' (db.change name f) (db'.change name f) := by
  rw [change_eq, change_eq, agree]
  cases db'.table? name with
  | none => exact ⟨rfl, fun n h => h⟩
  | some t =>
    cases hf : f t with
    | error e => simpa only [hf] using ⟨rfl, fun n h => h⟩
    | ok after => simpa only [hf] using sameOutcome_put after (.ok .done)

theorem select_congr {q : Query}
    (agree : ∀ n ∈ (Statement.select q).tables, db.table? n = db'.table? n) :
    db.select q = db'.select q := by
  have table : ∀ n ∈ (Statement.select q).tables, db.table n = db'.table n := by
    intro n hn
    rw [Database.table, Database.table, agree n hn]
  have left := table q.table List.mem_cons_self
  cases hj : q.join with
  | none => rw [select_of_join_none db hj, select_of_join_none db' hj, left]
  | some j =>
    have right := table j.table (by simp [Statement.tables, hj])
    rw [select_of_join db hj, select_of_join db' hj, left, right]

/-- A statement does not depend on tables that it does not mention. -/
theorem sameOutcome_execute {s : Statement}
    (agree : ∀ n ∈ s.tables, db.table? n = db'.table? n) :
    SameOutcome db db' (db.execute s) (db'.execute s) := by
  rcases execute_cases s with ⟨name, columns, one, run⟩ | ⟨name, f, one, -, run⟩ | ⟨q, rfl⟩
  · rw [run, run]
    exact sameOutcome_createTable (agree name (by simp [one])) columns
  · rw [run, run]
    exact sameOutcome_change (agree name (by simp [one])) f
  · refine ⟨?_, fun n h => h⟩
    rw [execute, execute, select_congr agree]

theorem table?_createTable_of_ne {n : String} (other : n ≠ name) (columns : List Column) :
    (db.createTable name columns).2.table? n = db.table? n := by
  rw [createTable]
  cases db.table? name with
  | some t => rfl
  | none =>
    rw [table?_put]
    exact if_neg other.symm

theorem table?_change_of_ne (named : db.Named) {n : String} (other : n ≠ name)
    {f : Table → Except Fault Table} (keeps : ∀ t after, f t = .ok after → after.name = t.name) :
    (db.change name f).2.table? n = db.table? n := by
  rw [change_eq]
  cases ht : db.table? name with
  | none => rfl
  | some t =>
    cases hf : f t with
    | error e => simp only [hf]
    | ok after =>
      have same : after.name = name := (keeps t after hf).trans (named name t ht)
      simp only [hf, table?_put, same]
      exact if_neg other.symm

/-- A statement leaves tables alone that it does not mention. -/
theorem table?_execute_of_notMem (named : db.Named) {s : Statement} {n : String}
    (other : n ∉ s.tables) : (db.execute s).2.table? n = db.table? n := by
  rcases execute_cases s with ⟨name, columns, one, run⟩ | ⟨name, f, one, keeps, run⟩ | ⟨q, rfl⟩
  · rw [run]
    exact table?_createTable_of_ne (by simpa [one] using other) columns
  · rw [run]
    exact table?_change_of_ne named (by simpa [one] using other) keeps
  · rfl

end

/-! ## Clients -/

section

variable {ι α : Type}

/-- The answers to the statements that clients have sent, each with its client, in the order in
which they arrive, and the database after them. -/
def serve (db : Database) : List (ι × Statement) → List (ι × Except Fault Outcome) × Database
  | [] => ([], db)
  | (i, s) :: sent =>
    let (answer, after) := db.execute s
    let (answers, last) := after.serve sent
    ((i, answer) :: answers, last)

theorem serve_cons (db : Database) (i : ι) (s : Statement) (sent : List (ι × Statement)) :
    db.serve ((i, s) :: sent) =
      ((i, (db.execute s).1) :: ((db.execute s).2.serve sent).1,
        ((db.execute s).2.serve sent).2) :=
  rfl

/-- Tables that nobody mentions stay as they are. -/
theorem table?_serve_of_unmentioned {sent : List (ι × Statement)} {db : Database}
    (named : db.Named) {n : String} (unmentioned : ∀ p ∈ sent, n ∉ p.2.tables) :
    (db.serve sent).2.table? n = db.table? n := by
  induction sent generalizing db with
  | nil => rfl
  | cons p sent ih =>
    have later := ih (named.execute p.2) fun q hq => unmentioned q (List.mem_cons_of_mem _ hq)
    exact later.trans (table?_execute_of_notMem named (unmentioned p List.mem_cons_self))

variable [DecidableEq ι]

def ofClient (i : ι) (items : List (ι × α)) : List (ι × α) :=
  items.filter fun p => p.1 = i

theorem ofClient_cons (i j : ι) (a : α) (items : List (ι × α)) :
    ofClient i ((j, a) :: items) =
      if j = i then (j, a) :: ofClient i items else ofClient i items := by
  simp [ofClient, List.filter_cons]

theorem mem_ofClient {i : ι} {p : ι × α} {items : List (ι × α)} :
    p ∈ ofClient i items ↔ p ∈ items ∧ p.1 = i := by
  simp [ofClient]

/-- If all that a client mentions is its own and the others mention nothing of it, the client is
served as it is served alone by a database that has the same tables of its own. -/
theorem serve_ofClient {i : ι} {mine : String → Prop} {sent : List (ι × Statement)}
    (own : ∀ p ∈ sent, p.1 = i → ∀ n ∈ p.2.tables, mine n)
    (foreign : ∀ p ∈ sent, p.1 ≠ i → ∀ n ∈ p.2.tables, ¬ mine n) {db alone : Database}
    (named : db.Named) (agree : ∀ n, mine n → db.table? n = alone.table? n) :
    ofClient i (db.serve sent).1 = (alone.serve (ofClient i sent)).1 ∧
      ∀ n, mine n → (db.serve sent).2.table? n = (alone.serve (ofClient i sent)).2.table? n := by
  induction sent generalizing db alone with
  | nil => exact ⟨rfl, agree⟩
  | cons p sent ih =>
    obtain ⟨j, s⟩ := p
    have own' := fun q hq => own q (List.mem_cons_of_mem _ hq)
    have foreign' := fun q hq => foreign q (List.mem_cons_of_mem _ hq)
    by_cases h : j = i
    · obtain ⟨same, kept⟩ := sameOutcome_execute fun n hn =>
        agree n (own (j, s) List.mem_cons_self h n hn)
      obtain ⟨answers, tables⟩ := ih own' foreign' (named.execute s) fun n hn =>
        kept n (agree n hn)
      simp only [serve_cons, ofClient_cons, if_pos h]
      rw [same, answers]
      exact ⟨rfl, tables⟩
    · simp only [serve_cons, ofClient_cons, if_neg h]
      refine ih own' foreign' (named.execute s) fun n hn => ?_
      have other : n ∉ s.tables := fun hm => foreign (j, s) List.mem_cons_self h n hm hn
      rw [table?_execute_of_notMem named other]
      exact agree n hn

/-- Statements of different clients mention no common table. -/
def Apart (sent : List (ι × Statement)) : Prop :=
  ∀ p ∈ sent, ∀ q ∈ sent, p.1 ≠ q.1 → ∀ n ∈ p.2.tables, n ∉ q.2.tables

section

variable {db : Database} (named : db.Named) {sent sent' : List (ι × Statement)}
  (apart : Apart sent)

include named apart

theorem serve_eq_alone (i : ι) :
    ofClient i (db.serve sent).1 = (db.serve (ofClient i sent)).1 ∧
      ∀ p ∈ ofClient i sent, ∀ n ∈ p.2.tables,
        (db.serve sent).2.table? n = (db.serve (ofClient i sent)).2.table? n := by
  let mine := fun n => ∃ p ∈ ofClient i sent, n ∈ p.2.tables
  have own : ∀ p ∈ sent, p.1 = i → ∀ n ∈ p.2.tables, mine n :=
    fun p hp h n hn => ⟨p, mem_ofClient.mpr ⟨hp, h⟩, hn⟩
  have foreign : ∀ p ∈ sent, p.1 ≠ i → ∀ n ∈ p.2.tables, ¬ mine n := by
    rintro p hp h n hn ⟨q, hq, hm⟩
    obtain ⟨sentBy, hi⟩ := mem_ofClient.mp hq
    exact apart p hp q sentBy (fun same => h (same.trans hi)) n hn hm
  obtain ⟨answers, tables⟩ := serve_ofClient own foreign named fun n _ => rfl
  exact ⟨answers, fun p hp n hn => tables n ⟨p, hp, hn⟩⟩

/-- The statements may arrive in any order that keeps those of each client in order. -/
theorem serve_reordered (same : ∀ i, ofClient i sent' = ofClient i sent) :
    (∀ i, ofClient i (db.serve sent').1 = ofClient i (db.serve sent).1) ∧
      (db.serve sent').2.tables.toList = (db.serve sent).2.tables.toList := by
  have arrived : ∀ p, p ∈ sent' ↔ p ∈ sent := by
    intro p
    have := congrArg (p ∈ ·) (same p.1)
    simpa [mem_ofClient] using this
  have apart' : Apart sent' := fun p hp q hq =>
    apart p ((arrived p).mp hp) q ((arrived q).mp hq)
  refine ⟨fun i => ?_, toList_eq_of_table? fun n => ?_⟩
  · rw [(serve_eq_alone named apart' i).1, (serve_eq_alone named apart i).1, same i]
  · by_cases mentioned : ∃ p ∈ sent, n ∈ p.2.tables
    · obtain ⟨p, hp, hn⟩ := mentioned
      have sentBy : p ∈ ofClient p.1 sent := mem_ofClient.mpr ⟨hp, rfl⟩
      rw [(serve_eq_alone named apart p.1).2 p sentBy n hn, ← same p.1]
      exact (serve_eq_alone named apart' p.1).2 p (same p.1 ▸ sentBy) n hn
    · have unmentioned : ∀ p ∈ sent, n ∉ p.2.tables := fun p hp hn => mentioned ⟨p, hp, hn⟩
      rw [table?_serve_of_unmentioned named unmentioned]
      exact table?_serve_of_unmentioned named fun p hp => unmentioned p ((arrived p).mp hp)

end

/-- Clients that mention no common table, two of them or more, are served as if each were alone, in
whatever order their statements arrive: each gets the same answers and leaves the tables that it
mentions the same, and all other tables stay as they are. Any other order that keeps the statements
of each client in order ends with the same answers and the same database. -/
theorem disjoint_clients_independent {db : Database} (named : db.Named)
    {sent : List (ι × Statement)} (apart : Apart sent) :
    (∀ i, ofClient i (db.serve sent).1 = (db.serve (ofClient i sent)).1 ∧
      ∀ p ∈ ofClient i sent, ∀ n ∈ p.2.tables,
        (db.serve sent).2.table? n = (db.serve (ofClient i sent)).2.table? n) ∧
    (∀ n, (∀ p ∈ sent, n ∉ p.2.tables) → (db.serve sent).2.table? n = db.table? n) ∧
    ∀ sent', (∀ i, ofClient i sent' = ofClient i sent) →
      (∀ i, ofClient i (db.serve sent').1 = ofClient i (db.serve sent).1) ∧
        (db.serve sent').2.tables.toList = (db.serve sent).2.tables.toList := by
  refine ⟨serve_eq_alone named apart, ?_, ?_⟩
  · exact fun n => table?_serve_of_unmentioned named
  · exact fun sent' => serve_reordered named apart

/-- A table that the one client fails to make again and fails to fill does not concern the other,
whose query joins two tables of its own. -/
theorem disjoint_clients_independent_join_beside_failures :
    let column : Column := { name := "id", type := .int, primaryKey := true }
    let join : Query := ⟨.all, "a", some ⟨"b", "id", "id"⟩, none⟩
    let sent : List (Bool × Statement) :=
      [(true, .createTable "a" [column]), (false, .createTable "c" [column]),
        (true, .insert "a" [.int 1]), (false, .insert "c" [.int 1]),
        (true, .createTable "b" [column]),
        (false, .createTable "c" [column]), (true, .insert "b" [.int 1]),
        (false, .insert "c" [.int 1]), (true, .select join)]
    empty.Named ∧ Apart sent ∧
      ofClient true (empty.serve sent).1 = (empty.serve (ofClient true sent)).1 ∧
      (ofClient false (empty.serve sent).1).map (fun answer => answer.2.map fun _ => ()) =
        [.ok (), .ok (), .error (.tableExists "c"), .error (.keyTaken "id" (.int 1))] := by
  intro column join sent
  have apart : Apart sent := by
    unfold Apart
    decide
  obtain ⟨alone, -⟩ := disjoint_clients_independent named_empty apart
  refine ⟨named_empty, apart, (alone true).1, ?_⟩
  rw [(alone false).1]
  decide +kernel

end

end Database

end SqlStore
