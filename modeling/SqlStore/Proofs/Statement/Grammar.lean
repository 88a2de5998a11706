import Mathlib.Data.List.Nodup
import SqlStore.Proofs.Statement.Reads
import SqlStore.Statement.Grammar

/-!
# Reading follows the grammar

One lemma per reader says which phrases it takes and behind which tokens, from names up to whole
statements. Of the readers that look ahead a reference to a column goes on with a dot, a column with
what opens a constraint, a list with a comma, and a query with `JOIN` and `WHERE`.
-/

namespace SqlStore

open Phrase (CommaList Constraint)

namespace Grammar

open Reader

/-! ## Names, literals and conditions -/

section

variable {ts rest : List Token}

theorem run_name_eq_ok_iff {n : String} :
    name.run ts = .ok (n, rest) ↔ ∃ t, ts = t :: rest ∧ t.Names n := by
  simp only [name, run_oneOf_eq_ok_iff (f := Token.name?) rfl, Token.name?_eq_some_iff]

theorem run_name {t : Token} {n : String} (h : t.Names n) (rest : List Token) :
    name.run (t :: rest) = .ok (n, rest) :=
  run_name_eq_ok_iff.mpr ⟨t, rfl, h⟩

theorem literal_reads : literal.Reads Phrase.Literal [] := by
  have read : ∀ {ts rest v},
      literal.run ts = .ok (v, rest) ↔ ∃ t, ts = t :: rest ∧ t.Denotes v := by
    intro ts rest v
    simp only [literal, run_oneOf_eq_ok_iff (f := Token.literal?) rfl, Token.literal?_eq_some_iff]
  constructor
  · intro ts rest v h
    obtain ⟨t, rfl, value⟩ := read.mp h
    exact ⟨[t], rfl, .mk value⟩
  · rintro _ v rest ⟨value⟩ -
    exact read.mpr ⟨_, rfl, value⟩

theorem columnRef_reads : columnRef.Reads Phrase.Ref [.dot] := by
  constructor
  · intro ts rest n h
    simp (disch := decide) only [columnRef, run_bind_eq_ok_iff, run_name_eq_ok_iff,
      run_accept_eq_ok_iff] at h
    obtain ⟨m, _, ⟨u, rfl, table⟩, b, _, ⟨rfl, rfl⟩ | ⟨rfl, -, rfl⟩, h⟩ := h
    · obtain ⟨t, rfl, name⟩ := run_name_eq_ok_iff.mp h
      exact ⟨[u, .dot, t], rfl, .qualified table name⟩
    · cases h
      exact ⟨[u], rfl, .plain table⟩
  · intro used n rest ref stop
    cases ref with
    | plain name =>
      refine run_then (run_name name rest) ?_
      exact run_then (run_accept_other (by decide) (by simpa using stop)) rfl
    | qualified table name =>
      refine run_then (run_name table _) ?_
      exact run_then (run_accept_self (by decide)) (run_name name rest)

theorem condition_reads : condition.Reads Phrase.Condition [] := by
  constructor
  · intro ts rest c h
    simp (disch := decide) only [condition, run_bind_eq_ok_iff, run_name_eq_ok_iff,
      run_expect_eq_ok_iff] at h
    obtain ⟨n, _, ⟨t, rfl, name⟩, _, _, rfl, v, _, hv, h⟩ := h
    obtain ⟨_, rfl, ⟨value⟩⟩ := literal_reads.sound hv
    cases h
    exact ⟨_, rfl, .mk name value⟩
  · rintro _ _ rest ⟨name, value⟩ -
    refine run_then (run_name name _) ?_
    refine run_then (run_expect _ _) ?_
    exact run_then (literal_reads.complete rest (.mk value) List.not_mem_nil) rfl

/-! ## Columns of a new table -/

theorem run_columnType_eq_ok_iff {τ : SqlType} :
    columnType.run ts = .ok (τ, rest) ↔
      ∃ s, ts = .ident s :: rest ∧ Text.upper s.toList = τ.name.toList := by
  rw [columnType, run_bind_of_ok (run_front ts)]
  cases ts with
  | nil => simp [run_failExpecting]
  | cons t ts =>
    cases t with
    | ident s =>
      simp only [List.headD_cons, ← SqlType.ofName?_eq_some_iff]
      cases h : SqlType.ofName? s with
      | none => simp [run_fail, h]
      | some τ' => simp [run_bind_of_ok (run_skip _), run_pure, h, and_comm]
    | _ => simp [run_failExpecting]

def withConstraint (c : Column) : Constraint → Column
  | .primaryKey => { c with primaryKey := true }
  | .unique => { c with unique := true }
  | .notNull => { c with nullable := false }
  | .null => { c with nullable := true }

/-- Constraints one after another set the flags that are mentioned. -/
theorem foldl_withConstraint (n : String) (τ : SqlType) (ks : List Constraint) :
    ks.foldl withConstraint { name := n, type := τ } =
      { name := n, type := τ, primaryKey := decide (.primaryKey ∈ ks),
        unique := decide (.unique ∈ ks), nullable := Constraint.nullable ks } := by
  induction ks using List.reverseRecOn with
  | nil => rfl
  | append_singleton ks k ih =>
    rw [List.foldl_append, ih]
    cases k <;> simp [withConstraint, Constraint.nullable]

theorem run_constraints_append (c : Column) (k : Constraint) (ts : List Token) :
    (constraints c).run (k.tokens ++ ts) = (constraints (withConstraint c k)).run ts := by
  cases k <;> exact run_widen _ _

def opening : List Token :=
  [.keyword .primary, .keyword .unique, .keyword .not, .null]

theorem run_constraints_of_stop (c : Column) (stop : ts.headD .eof ∉ opening) :
    (constraints c).run ts = .ok (c, ts) := by
  cases ts with
  | nil => rfl
  | cons t ts =>
    cases t with
    | keyword k =>
      cases k with
      | primary | unique | not => simp [opening] at stop
      | _ => rfl
    | null => simp [opening] at stop
    | _ => rfl

/-- The tokens are constraints that make the column `c` into `d`. -/
def Constrained (c : Column) (used : List Token) (d : Column) : Prop :=
  ∃ ks : List Constraint, used = ks.flatMap Constraint.tokens ∧ ks.foldl withConstraint c = d

/-- What is found behind a constraint is found with it. -/
theorem exists_constrained_append {c d : Column} (k : Constraint)
    (behind : (constraints (withConstraint c k)).run ts = .ok (d, rest) →
      ∃ used, ts = used ++ rest ∧ Constrained (withConstraint c k) used d)
    (h : (constraints c).run (k.tokens ++ ts) = .ok (d, rest)) :
    ∃ used, k.tokens ++ ts = used ++ rest ∧ Constrained c used d := by
  rw [run_constraints_append] at h
  obtain ⟨_, rfl, ks, rfl, rfl⟩ := behind h
  exact ⟨(k :: ks).flatMap Constraint.tokens, by simp, k :: ks, rfl, rfl⟩

theorem constraints_reads (c : Column) : (constraints c).Reads (Constrained c) opening := by
  constructor
  · intro ts rest d h
    induction c, ts using constraints.induct with
    | case1 c ts ih => exact exists_constrained_append .primaryKey ih h
    | case2 c ts noKey =>
      simp only [run, constraints] at h
      cases h
    | case3 c ts ih => exact exists_constrained_append .unique ih h
    | case4 c ts ih => exact exists_constrained_append .notNull ih h
    | case5 c ts noNull =>
      simp only [run, constraints] at h
      cases h
    | case6 c ts ih => exact exists_constrained_append .null ih h
    | case7 c ts =>
      rw [run, constraints] at h
      · cases h
        exact ⟨[], rfl, [], rfl, rfl⟩
      all_goals assumption
  · rintro _ _ rest ⟨ks, rfl, rfl⟩ stop
    induction ks generalizing c with
    | nil => exact run_constraints_of_stop c stop
    | cons k ks ih =>
      rw [List.flatMap_cons, List.append_assoc, run_constraints_append]
      exact ih _

theorem column_reads : column.Reads Phrase.Spec opening := by
  constructor
  · intro ts rest c h
    simp only [column, run_bind_eq_ok_iff, run_name_eq_ok_iff, run_columnType_eq_ok_iff] at h
    obtain ⟨n, _, ⟨t, rfl, name⟩, τ, _, ⟨s, rfl, type⟩, h⟩ := h
    obtain ⟨_, rfl, ks, rfl, rfl⟩ := (constraints_reads _).sound h
    rw [foldl_withConstraint]
    exact ⟨_, rfl, .mk ks name type⟩
  · intro used c rest h stop
    cases h with
    | @mk t n s τ ks name type =>
    refine run_then (run_name name _) ?_
    refine run_then (run_columnType_eq_ok_iff.mpr ⟨s, rfl, type⟩) ?_
    exact (constraints_reads _).complete rest ⟨ks, rfl, foldl_withConstraint n τ ks⟩ stop

/-- The columns with one more, unless its name is taken. -/
def withColumn (cs : List Column) (c : Column) : Option (List Column) :=
  if c.name ∈ cs.map (·.name) then none else some (cs ++ [c])

/-- Columns are put together exactly when their names are distinct. -/
theorem foldlM_withColumn {cs ds es : List Column} (distinct : (cs.map (·.name)).Nodup) :
    ds.foldlM withColumn cs = some es ↔ es = cs ++ ds ∧ ((cs ++ ds).map (·.name)).Nodup := by
  induction ds generalizing cs with
  | nil => simp [distinct, eq_comm]
  | cons d ds ih =>
    rw [List.foldlM_cons, withColumn]
    by_cases h : d.name ∈ cs.map (·.name)
    · have clash : ¬ ((cs ++ d :: ds).map (·.name)).Nodup := by
        rw [List.map_append, List.nodup_append]
        exact fun nodup => nodup.2.2 _ h _ (by simp) rfl
      rw [if_pos h]
      exact ⟨fun h => (nomatch h), fun h => absurd h.2 clash⟩
    · have grown : ((cs ++ [d]).map (·.name)).Nodup := by
        rw [List.map_append, List.map_singleton, ← List.concat_eq_append]
        exact distinct.concat h
      rw [if_neg h]
      exact (ih grown).trans (by rw [List.append_assoc, List.singleton_append])

theorem foldlM_withColumn_nil {ds es : List Column} :
    ds.foldlM withColumn [] = some es ↔ es = ds ∧ (ds.map (·.name)).Nodup :=
  foldlM_withColumn List.nodup_nil

theorem nextColumn_reads (cs : List Column) :
    (nextColumn cs).Reads
      (fun used ds => ∃ c, Phrase.Spec used c ∧ withColumn cs c = some ds) opening := by
  have taken : ∀ c : Column, (cs.any (·.name == c.name) = true) ↔ c.name ∈ cs.map (·.name) := by
    simp
  constructor
  · intro ts rest ds h
    obtain ⟨c, mid, hc, left⟩ := run_bind_eq_ok_iff.mp h
    obtain ⟨used, rfl, spec⟩ := column_reads.sound hc
    split at left
    · cases left
    · next free =>
      cases left
      exact ⟨used, rfl, c, spec, if_neg fun hm => free ((taken c).mpr hm)⟩
  · rintro used ds rest ⟨c, spec, added⟩ stop
    rw [withColumn] at added
    split at added
    · cases added
    · next free =>
      cases added
      refine run_then (column_reads.complete rest spec stop) ?_
      rw [if_neg fun hm => free ((taken c).mp hm)]
      rfl

theorem createTableRest_reads :
    createTableRest.Reads
      (fun used s => Phrase.Derives (.keyword .create :: .keyword .table :: used) s) [] := by
  have columns := Reads.commaFold nextColumn_reads (by decide) []
  constructor
  · intro ts rest s h
    simp (disch := decide) only [createTableRest, run_bind_eq_ok_iff, run_name_eq_ok_iff,
      run_expect_eq_ok_iff] at h
    obtain ⟨n, _, ⟨t, rfl, name⟩, _, _, rfl, h⟩ := h
    -- `commaFold` is a `Reader` only when unfolded, which rewriting does not do
    obtain ⟨cs, _, hcs, left⟩ := run_bind_eq_ok_iff.mp h
    simp (disch := decide) only [run_bind_eq_ok_iff, run_expectAs_eq_ok_iff] at left
    obtain ⟨_, _, rfl, left⟩ := left
    obtain ⟨used, rfl, ds, list, hds⟩ := columns.sound hcs
    obtain ⟨rfl, distinct⟩ := foldlM_withColumn_nil.mp hds
    cases left
    exact ⟨t :: .leftParen :: (used ++ [.rightParen]), by simp, .createTable name list distinct⟩
  · intro _ _ rest h _
    cases h with
    | @createTable t n us cs name list distinct =>
    have all := foldlM_withColumn_nil.mpr ⟨rfl, distinct⟩
    have stop : (Token.rightParen :: rest).headD .eof ∉ .comma :: opening := by
      rw [List.headD_cons]
      decide
    have close : (expectAs .rightParen .columnEnd).run (.rightParen :: rest) = .ok ((), rest) :=
      (run_expectAs_eq_ok_iff (by decide)).mpr rfl
    simp only [List.cons_append, List.append_assoc, List.nil_append]
    refine run_then (run_name name _) ?_
    refine run_then (run_expect _ _) ?_
    refine run_then (columns.complete _ ⟨cs, list, all⟩ stop) ?_
    exact run_then close rfl

/-! ## Statements -/

theorem insertRest_reads :
    insertRest.Reads
      (fun used s => Phrase.Derives (.keyword .insert :: .keyword .into :: used) s) [] := by
  have values := literal_reads.commaList (by decide)
  constructor
  · intro ts rest s h
    simp (disch := decide) only [insertRest, run_bind_eq_ok_iff, run_name_eq_ok_iff,
      run_expect_eq_ok_iff] at h
    obtain ⟨n, _, ⟨t, rfl, table⟩, _, _, rfl, _, _, rfl, vs, _, hvs, _, _, rfl, h⟩ := h
    obtain ⟨used, rfl, list⟩ := values.sound hvs
    cases h
    exact ⟨t :: .keyword .values :: .leftParen :: (used ++ [.rightParen]), by simp,
      .insert table list⟩
  · intro _ _ rest h _
    cases h with
    | @insert t n us vs table list =>
    have read := values.complete (.rightParen :: rest) list (by simp)
    simp only [List.cons_append, List.append_assoc, List.nil_append]
    refine run_then (run_name table _) ?_
    refine run_then (run_expect _ _) ?_
    refine run_then (run_expect _ _) ?_
    refine run_then read ?_
    exact run_then (run_expect _ _) rfl

theorem projection_reads : projection.Reads Phrase.Columns [.comma, .dot] := by
  have refs := columnRef_reads.commaList (by decide)
  constructor
  · intro ts rest p h
    simp (disch := decide) only [projection, run_bind_eq_ok_iff, run_accept_eq_ok_iff] at h
    obtain ⟨b, _, ⟨rfl, rfl⟩ | ⟨rfl, -, rfl⟩, h⟩ := h
    · cases h
      exact ⟨[.star], rfl, .all⟩
    · obtain ⟨ns, mid, hns, left⟩ := run_bind_eq_ok_iff.mp h
      obtain ⟨used, rfl, list⟩ := refs.sound hns
      cases left
      exact ⟨used, rfl, .named list⟩
  · intro used p rest h stop
    cases h with
    | all => exact run_then (run_accept_self (by decide)) rfl
    | named list =>
      have noStar : (used ++ rest).headD .eof ≠ .star := by
        obtain ⟨t, m, us, rfl, name⟩ := list.exists_head
        cases name <;> exact Token.noConfusion
      refine run_then (run_accept_other (by decide) noStar) ?_
      exact run_then (refs.complete rest list stop) rfl

theorem join?_reads : join?.Reads Phrase.Joined [.keyword .join, .dot] := by
  constructor
  · intro ts rest j h
    simp (disch := decide) only [join?, run_bind_eq_ok_iff, run_accept_eq_ok_iff] at h
    obtain ⟨b, _, ⟨rfl, rfl⟩ | ⟨rfl, -, rfl⟩, h⟩ := h
    · simp (disch := decide) only [if_true, run_bind_eq_ok_iff, run_name_eq_ok_iff,
        run_expect_eq_ok_iff] at h
      obtain ⟨n, _, ⟨t, rfl, table⟩, _, _, rfl, l, _, hl, _, _, rfl, r, _, hr, h⟩ := h
      obtain ⟨us, rfl, left⟩ := columnRef_reads.sound hl
      obtain ⟨vs, rfl, right⟩ := columnRef_reads.sound hr
      cases h
      exact ⟨.keyword .join :: t :: .keyword .on :: (us ++ .equal :: vs), by simp,
        .some table left right⟩
    · cases h
      exact ⟨[], rfl, .none⟩
  · intro used j rest h stop
    cases h with
    | none =>
      rw [List.mem_cons, not_or] at stop
      exact run_then (run_accept_other (by decide) stop.1) rfl
    | @some t n l r us vs table left right =>
      have dot : rest.headD .eof ∉ [.dot] := fun h => stop (List.mem_cons_of_mem _ h)
      have readLeft := columnRef_reads.complete (.equal :: (vs ++ rest)) left (by simp)
      have readRight := columnRef_reads.complete rest right dot
      simp only [List.cons_append, List.append_assoc]
      refine run_then (run_accept_self (by decide)) ?_
      refine run_then (run_name table _) ?_
      refine run_then (run_expect _ _) ?_
      refine run_then readLeft ?_
      refine run_then (run_expect _ _) ?_
      exact run_then readRight rfl

theorem where?_reads : where?.Reads Phrase.Filtered [.keyword .where] := by
  constructor
  · intro ts rest w h
    simp (disch := decide) only [where?, run_bind_eq_ok_iff, run_accept_eq_ok_iff] at h
    obtain ⟨b, _, ⟨rfl, rfl⟩ | ⟨rfl, -, rfl⟩, h⟩ := h
    · obtain ⟨c, mid, hc, left⟩ := run_bind_eq_ok_iff.mp h
      obtain ⟨used, rfl, condition⟩ := condition_reads.sound hc
      cases left
      exact ⟨.keyword .where :: used, rfl, .some condition rfl⟩
    · cases h
      exact ⟨[], rfl, .none⟩
  · intro used w rest h stop
    cases h with
    | none => exact run_then (run_accept_other (by decide) (by simpa using stop)) rfl
    | @some ts c r condition only =>
      obtain rfl : Row.ofList [c] = r := Row.ext only.symm
      have read := condition_reads.complete rest condition List.not_mem_nil
      refine run_then (run_accept_self (by decide)) ?_
      exact run_then read rfl

/-- The tokens with which a statement might go on. -/
def continuing : List Token :=
  [.keyword .join, .dot, .keyword .where]

theorem selectRest_reads :
    selectRest.Reads (fun used s => Phrase.Derives (.keyword .select :: used) s) continuing := by
  constructor
  · intro ts rest s h
    simp (disch := decide) only [selectRest, run_bind_eq_ok_iff, run_name_eq_ok_iff,
      run_expect_eq_ok_iff] at h
    obtain ⟨p, _, hp, _, _, rfl, n, _, ⟨t, rfl, table⟩, j, _, hj, w, _, hw, h⟩ := h
    obtain ⟨us, rfl, columns⟩ := projection_reads.sound hp
    obtain ⟨vs, rfl, joined⟩ := join?_reads.sound hj
    obtain ⟨ws, rfl, filtered⟩ := where?_reads.sound hw
    cases h
    exact ⟨us ++ .keyword .from :: t :: (vs ++ ws), by simp,
      .select columns table joined filtered⟩
  · intro _ _ rest h stop
    cases h with
    | @select t n us vs ws p j w columns table joined filtered =>
    simp only [continuing, List.mem_cons, List.not_mem_nil, or_false, not_or] at stop
    obtain ⟨noJoin, noDot, noWhere⟩ := stop
    -- without a `WHERE` the token behind the query is the one behind its `JOIN`
    have behind : (ws ++ rest).headD .eof ∉ [.keyword .join, .dot] := by
      cases filtered with
      | none =>
        simp only [List.nil_append, List.mem_cons, noJoin, noDot, List.not_mem_nil, or_false,
          not_false_eq_true]
      | some => simp
    have readColumns := projection_reads.complete (.keyword .from :: t :: (vs ++ (ws ++ rest)))
      columns (by simp)
    have readJoin := join?_reads.complete (ws ++ rest) joined behind
    have readWhere := where?_reads.complete rest filtered (List.mem_singleton.not.mpr noWhere)
    simp only [List.cons_append, List.append_assoc]
    refine run_then readColumns ?_
    refine run_then (run_expect _ _) ?_
    refine run_then (run_name table _) ?_
    refine run_then readJoin ?_
    exact run_then readWhere rfl

theorem updateRest_reads :
    updateRest.Reads (fun used s => Phrase.Derives (.keyword .update :: used) s) [] := by
  have assignments := condition_reads.commaFold_map (by decide)
    (fun (r : Row) c => r.insert c.1 c.2) Row.empty
  constructor
  · intro ts rest s h
    simp (disch := decide) only [updateRest, run_bind_eq_ok_iff, run_name_eq_ok_iff,
      run_expect_eq_ok_iff] at h
    obtain ⟨n, _, ⟨t, rfl, table⟩, _, _, rfl, h⟩ := h
    obtain ⟨r, _, hr, left⟩ := run_bind_eq_ok_iff.mp h
    simp (disch := decide) only [run_bind_eq_ok_iff, run_expect_eq_ok_iff] at left
    obtain ⟨_, _, rfl, ⟨k, v⟩, _, hk, left⟩ := left
    obtain ⟨us, rfl, cs, list, hcs⟩ := assignments.sound hr
    obtain ⟨vs, rfl, key⟩ := condition_reads.sound hk
    cases left
    exact ⟨t :: .keyword .set :: (us ++ .keyword .where :: vs), by simp,
      .update table list (Phrase.assigned_iff.mpr hcs) key⟩
  · intro _ _ rest h _
    cases h with
    | @update t n k v us vs cs r table list row key =>
    have readAssignments := assignments.complete (.keyword .where :: (vs ++ rest))
      ⟨cs, list, Phrase.assigned_iff.mp row⟩ (by simp)
    have readKey := condition_reads.complete rest key List.not_mem_nil
    simp only [List.cons_append, List.append_assoc]
    refine run_then (run_name table _) ?_
    refine run_then (run_expect _ _) ?_
    refine run_then readAssignments ?_
    refine run_then (run_expect _ _) ?_
    exact run_then readKey rfl

theorem deleteRest_reads :
    deleteRest.Reads (fun used s => Phrase.Derives (.keyword .delete :: .keyword .from :: used) s)
      [] := by
  constructor
  · intro ts rest s h
    simp (disch := decide) only [deleteRest, run_bind_eq_ok_iff, run_name_eq_ok_iff,
      run_expect_eq_ok_iff] at h
    obtain ⟨n, _, ⟨t, rfl, table⟩, _, _, rfl, ⟨k, v⟩, _, hk, h⟩ := h
    obtain ⟨us, rfl, key⟩ := condition_reads.sound hk
    cases h
    exact ⟨t :: .keyword .where :: us, rfl, .delete table key⟩
  · intro _ _ rest h _
    cases h with
    | @delete t n k v us table key =>
    refine run_then (run_name table _) ?_
    refine run_then (run_expect _ _) ?_
    exact run_then (condition_reads.complete rest key List.not_mem_nil) rfl

/-- What is found behind the token in front is found with it. -/
theorem exists_of_skip {α : Type} {r : Reader α} {phrase : List Token → α → Prop} {t : Token}
    {a : α} (front : ts.headD .eof = t) (inside : t ≠ .eof)
    (sound : r.run ts.tail = .ok (a, rest) →
      ∃ used, ts.tail = used ++ rest ∧ phrase (t :: used) a)
    (h : (skip >>= fun _ => r).run ts = .ok (a, rest)) :
    ∃ used, ts = used ++ rest ∧ phrase used a := by
  rw [run_bind_of_ok (run_skip ts)] at h
  obtain ⟨used, tail, found⟩ := sound h
  exact ⟨t :: used, by rw [eq_cons_of_headD front inside, tail]; rfl, found⟩

theorem statement_reads : statement.Reads Phrase.Derives continuing := by
  constructor
  · intro ts rest s h
    rw [statement, run_bind_of_ok (run_front ts), run_bind_of_ok (run_second ts)] at h
    split at h
    · next first second =>
      exact exists_of_skip first (by decide)
        (exists_of_skip second (by decide) createTableRest_reads.sound) h
    · next first second =>
      exact exists_of_skip first (by decide)
        (exists_of_skip second (by decide) insertRest_reads.sound) h
    · next first => exact exists_of_skip first (by decide) selectRest_reads.sound h
    · next first => exact exists_of_skip first (by decide) updateRest_reads.sound h
    · next first second =>
      exact exists_of_skip first (by decide)
        (exists_of_skip second (by decide) deleteRest_reads.sound) h
    · cases h
  · intro used s rest h stop
    have noStop : rest.headD .eof ∉ [] := List.not_mem_nil
    -- `h` is still needed whole: the readers below start behind its first tokens
    have derives := h
    refine run_then (run_front _) (run_then (run_second _) ?_)
    cases derives with
    | createTable =>
      refine run_then (run_skip _) (run_then (run_skip _) ?_)
      exact createTableRest_reads.complete rest h noStop
    | insert =>
      refine run_then (run_skip _) (run_then (run_skip _) ?_)
      exact insertRest_reads.complete rest h noStop
    | select => exact run_then (run_skip _) (selectRest_reads.complete rest h stop)
    | update => exact run_then (run_skip _) (updateRest_reads.complete rest h noStop)
    | delete =>
      refine run_then (run_skip _) (run_then (run_skip _) ?_)
      exact deleteRest_reads.complete rest h noStop

/-- Behind a statement and its semicolon nothing may stand before the end of the input. -/
theorem exists_run_whole_iff {s : Statement} :
    (∃ rest, whole.run ts = .ok (s, rest)) ↔
      ∃ used rest, ts = used ++ rest ∧ Phrase.Whole used s ∧ rest.headD .eof = .eof := by
  constructor
  · rintro ⟨rest, h⟩
    simp (disch := decide) only [whole, run_bind_eq_ok_iff, run_accept_eq_ok_iff] at h
    obtain ⟨s', mid, hs, b, left, semicolon, t, behind, hfront, h⟩ := h
    cases hfront
    split at h
    · next last =>
      cases h
      obtain ⟨used, rfl, derives⟩ := statement_reads.sound hs
      rcases semicolon with ⟨-, rfl⟩ | ⟨-, -, rfl⟩
      · exact ⟨used ++ [.semicolon], rest, by simp, .closed derives, last⟩
      · exact ⟨used, mid, rfl, .bare derives, last⟩
    · cases h
  · rintro ⟨used, rest, rfl, h, last⟩
    have ends : (front >>= fun t => if t = .eof then pure s else fail (.trailingInput t)).run rest =
        .ok (s, rest) := by
      rw [run_bind_of_ok (run_front rest), if_pos last]
      rfl
    cases h with
    | bare derives =>
      have noSemicolon : rest.headD .eof ≠ .semicolon := by
        rw [last]
        decide
      have read := statement_reads.complete rest derives (by rw [last]; decide)
      exact ⟨rest, run_then read (run_then (run_accept_other (by decide) noSemicolon) ends)⟩
    | @closed used s derives =>
      have read := statement_reads.complete (.semicolon :: rest) derives (by simp [continuing])
      rw [List.append_assoc, List.singleton_append]
      exact ⟨rest, run_then read (run_then (run_accept_self (by decide)) ends)⟩

end

end Grammar

def Statement.DistinctColumns : Statement → Prop
  | createTable _ columns => (columns.map (·.name)).Nodup
  | _ => True

theorem Phrase.Whole.distinctColumns {ts : List Token} {s : Statement} (h : Phrase.Whole ts s) :
    s.DistinctColumns := by
  have derived : ∀ {ts : List Token}, Phrase.Derives ts s → s.DistinctColumns := by
    intro ts h
    cases h with
    | createTable _ _ distinct => exact distinct
    | _ => exact trivial
  cases h with
  | bare h => exact derived h
  | closed h => exact derived h

namespace Statement

theorem ofTokens_eq_ok_iff_run {ts : List Token} {s : Statement} :
    ofTokens ts = .ok s ↔ ∃ rest, Grammar.whole.run ts = .ok (s, rest) := by
  rw [ofTokens]
  cases Grammar.whole.run ts <;> simp [Except.map, Prod.ext_iff]

/-- A whole statement is read up to the end of the input. -/
theorem ofTokens_of_whole {ts : List Token} {s : Statement} (whole : Phrase.Whole ts s) :
    ofTokens (ts ++ [.eof]) = .ok s :=
  ofTokens_eq_ok_iff_run.mpr (Grammar.exists_run_whole_iff.mpr ⟨ts, [.eof], rfl, whole, rfl⟩)

/-- A text that is read as a statement can be cut into tokens, and a whole statement is in front. -/
theorem exists_whole_of_ofText {sql : String} {s : Statement} (h : ofText sql = .ok s) :
    ∃ used rest, Token.ofText sql = .ok (used ++ rest) ∧ Phrase.Whole used s := by
  rw [ofText] at h
  cases ht : Token.ofText sql with
  | error e =>
    rw [ht] at h
    cases h
  | ok ts =>
    rw [ht] at h
    obtain ⟨used, rest, rfl, whole, -⟩ :=
      Grammar.exists_run_whole_iff.mp (ofTokens_eq_ok_iff_run.mp h)
    exact ⟨used, rest, rfl, whole⟩

/-- A text that is read as a statement gives the columns of a new table distinct names. -/
theorem distinctColumns_of_ofText {sql : String} {s : Statement} (h : ofText sql = .ok s) :
    s.DistinctColumns := by
  obtain ⟨_, _, _, whole⟩ := exists_whole_of_ofText h
  exact whole.distinctColumns

/-- What is read before the end of the input is a whole statement, and every whole statement is
read as what it denotes. -/
theorem ofTokens_eq_ok_iff_whole {ts : List Token} {s : Statement} :
    ofTokens ts = .ok s ↔ Phrase.Whole (ts.takeWhile (· != .eof)) s := by
  rw [ofTokens_eq_ok_iff_run, Grammar.exists_run_whole_iff]
  constructor
  · rintro ⟨used, rest, rfl, whole, last⟩
    have inside : ∀ t ∈ used, (t != .eof) = true := by
      intro t ht
      have : t ≠ .eof := fun h => whole.noEof (h ▸ ht)
      simpa using this
    have stop : ∀ t ∈ rest.head?, (t != .eof) = false := by
      cases rest with
      | nil => simp
      | cons t rest => simpa using last
    rw [takeWhile_append_of_stop inside stop]
    exact whole
  · intro whole
    refine ⟨_, ts.dropWhile (· != .eof), List.takeWhile_append_dropWhile.symm, whole, ?_⟩
    have stop : ∀ t ∈ (ts.dropWhile (· != .eof)).head?, (t != .eof) = false :=
      eq_false_of_head_dropWhile
    cases h : ts.dropWhile (· != .eof) with
    | nil => rfl
    | cons t rest =>
      rw [h] at stop
      simpa using stop

/-- Every keyword names a column, by its lowercase letters, and a type is read in any letter
case. -/
example :
    (ofText "CREATE TABLE key (create INTEGER, TABLE float, Insert VarChar, into boolean,
        VALUES Integer, select FLOAT, from varchar, JOIN Boolean, on integer, Where Float,
        update VARCHAR, set BOOLEAN, delete integer, PRIMARY float, Key varchar, unique boolean,
        not INTEGER)").toOption =
      some (.createTable "key" [
        { name := "create", type := .int }, { name := "table", type := .float },
        { name := "insert", type := .text }, { name := "into", type := .bool },
        { name := "values", type := .int }, { name := "select", type := .float },
        { name := "from", type := .text }, { name := "join", type := .bool },
        { name := "on", type := .int }, { name := "where", type := .float },
        { name := "update", type := .text }, { name := "set", type := .bool },
        { name := "delete", type := .int }, { name := "primary", type := .float },
        { name := "key", type := .text }, { name := "unique", type := .bool },
        { name := "not", type := .int }]) := by
  decide +kernel

end Statement

end SqlStore
