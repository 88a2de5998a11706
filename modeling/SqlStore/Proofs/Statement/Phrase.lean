import SqlStore.Proofs.Row
import SqlStore.Statement
import SqlStore.Token

/-!
# The grammar of statements

Which lists of tokens are a statement, and which statement. Every phrase of the grammar is a
relation between tokens and what they denote, so nothing here says in which order a reader looks at
them or how far ahead. A keyword may stand for a name anywhere; of a column's constraints only the
last of `NULL` and `NOT NULL` counts; an assignment to the same column again keeps the first
position and the last value.
-/

namespace SqlStore

namespace Token

/-- The token stands for the name. -/
inductive Names : Token → String → Prop
  | ident (n : String) : Names (ident n) n
  | keyword (k : Keyword) : Names (keyword k) k.spelling

/-- The token is a literal for the value. -/
inductive Denotes : Token → Value → Prop
  | null : Denotes null .null
  | bool (b : Bool) : Denotes (bool b) (.bool b)
  | number (i : Int64) : Denotes (number i) (.int i)
  | float (x : Binary64) : Denotes (float x) (.float x)
  | string (s : String) : Denotes (string s) (.text s)

theorem name?_eq_some_iff {t : Token} {n : String} : t.name? = some n ↔ t.Names n := by
  constructor
  · intro h
    cases t <;> cases h <;> constructor
  · rintro (_ | _) <;> rfl

theorem literal?_eq_some_iff {t : Token} {v : Value} : t.literal? = some v ↔ t.Denotes v := by
  constructor
  · intro h
    cases t <;> cases h <;> constructor
  · rintro (_ | _ | _ | _ | _) <;> rfl

end Token

namespace Phrase

/-- One or more items with commas between them. -/
inductive CommaList {α : Type} (item : List Token → α → Prop) : List Token → List α → Prop
  | one {ts : List Token} {a : α} (only : item ts a) : CommaList item ts [a]
  | more {ts us : List Token} {a : α} {as : List α} (first : item ts a)
      (others : CommaList item us as) : CommaList item (ts ++ .comma :: us) (a :: as)

inductive Literal : List Token → Value → Prop
  | mk {t : Token} {v : Value} (value : t.Denotes v) : Literal [t] v

/-- `column` or `table.column`, for the column. -/
inductive Ref : List Token → String → Prop
  | plain {t : Token} {n : String} (name : t.Names n) : Ref [t] n
  | qualified {u t : Token} {m n : String} (table : u.Names m) (name : t.Names n) :
      Ref [u, .dot, t] n

/-- `column = literal` -/
inductive Condition : List Token → String × Value → Prop
  | mk {t u : Token} {n : String} {v : Value} (name : t.Names n) (value : u.Denotes v) :
      Condition [t, .equal, u] (n, v)

/-! ## Columns of a new table -/

/-- What may be written behind the type of a column. -/
inductive Constraint where
  | primaryKey
  | unique
  | notNull
  | null
  deriving DecidableEq

namespace Constraint

def tokens : Constraint → List Token
  | primaryKey => [.keyword .primary, .keyword .key]
  | unique => [.keyword .unique]
  | notNull => [.keyword .not, .null]
  | null => [.null]

/-- Whether a column with these constraints takes `NULL`: the last one that speaks of it decides,
and if none does, the column takes it. -/
def nullable (ks : List Constraint) : Bool :=
  ks.reverse.find? (fun k => k == notNull || k == null) != some notNull

end Constraint

inductive Spec : List Token → Column → Prop
  | mk {t : Token} {n s : String} {τ : SqlType} (ks : List Constraint) (name : t.Names n)
      (type : Text.upper s.toList = τ.name.toList) :
      Spec (t :: .ident s :: ks.flatMap Constraint.tokens)
        { name := n, type := τ, primaryKey := decide (.primaryKey ∈ ks),
          unique := decide (.unique ∈ ks), nullable := Constraint.nullable ks }

/-! ## Statements -/

inductive Columns : List Token → Projection → Prop
  | all : Columns [.star] .all
  | named {ts : List Token} {ns : List String} (refs : CommaList Ref ts ns) :
      Columns ts (.named ns)

/-- `JOIN table ON column = column`, or nothing. -/
inductive Joined : List Token → Option Join → Prop
  | none : Joined [] none
  | some {t : Token} {n l r : String} {us vs : List Token} (table : t.Names n) (left : Ref us l)
      (right : Ref vs r) :
      Joined (.keyword .join :: t :: .keyword .on :: (us ++ .equal :: vs)) (some ⟨n, l, r⟩)

/-- `WHERE column = literal`, or nothing. -/
inductive Filtered : List Token → Option Row → Prop
  | none : Filtered [] none
  | some {ts : List Token} {c : String × Value} {r : Row} (condition : Condition ts c)
      (only : r.fields = [c]) : Filtered (.keyword .where :: ts) (some r)

/-- The row of what is assigned: every column in its first position, with its last value. -/
structure Assigned (cs : List (String × Value)) (r : Row) : Prop where
  names : r.names = (cs.map Prod.fst).eraseDups
  values : ∀ n, r.get? n = cs.reverse.lookup n

theorem assigned_iff {cs : List (String × Value)} {r : Row} :
    Assigned cs r ↔ Row.ofList cs = r := by
  constructor
  · intro h
    refine Row.eq_of_names_of_get? ?_ fun n => ?_
    · rw [Row.names_ofList, h.names]
    · rw [Row.get?_ofList, h.values]
  · rintro rfl
    exact ⟨Row.names_ofList cs, Row.get?_ofList cs⟩

inductive Derives : List Token → Statement → Prop
  | createTable {t : Token} {n : String} {us : List Token} {cs : List Column} (name : t.Names n)
      (columns : CommaList Spec us cs) (distinct : (cs.map (·.name)).Nodup) :
      Derives (.keyword .create :: .keyword .table :: t :: .leftParen :: (us ++ [.rightParen]))
        (.createTable n cs)
  | insert {t : Token} {n : String} {us : List Token} {vs : List Value} (table : t.Names n)
      (values : CommaList Literal us vs) :
      Derives (.keyword .insert :: .keyword .into :: t :: .keyword .values :: .leftParen ::
        (us ++ [.rightParen])) (.insert n vs)
  | select {t : Token} {n : String} {us vs ws : List Token} {p : Projection} {j : Option Join}
      {w : Option Row} (columns : Columns us p) (table : t.Names n) (joined : Joined vs j)
      (filtered : Filtered ws w) :
      Derives (.keyword .select :: (us ++ .keyword .from :: t :: (vs ++ ws)))
        (.select ⟨p, n, j, w⟩)
  | update {t : Token} {n k : String} {v : Value} {us vs : List Token}
      {cs : List (String × Value)} {r : Row} (table : t.Names n)
      (assignments : CommaList Condition us cs) (row : Assigned cs r)
      (key : Condition vs (k, v)) :
      Derives (.keyword .update :: t :: .keyword .set :: (us ++ .keyword .where :: vs))
        (.update ⟨n, r, k, v⟩)
  | delete {t : Token} {n k : String} {v : Value} {us : List Token} (table : t.Names n)
      (key : Condition us (k, v)) :
      Derives (.keyword .delete :: .keyword .from :: t :: .keyword .where :: us)
        (.delete ⟨n, k, v⟩)

/-- A statement, perhaps with a semicolon behind it. -/
inductive Whole : List Token → Statement → Prop
  | bare {ts : List Token} {s : Statement} (statement : Derives ts s) : Whole ts s
  | closed {ts : List Token} {s : Statement} (statement : Derives ts s) :
      Whole (ts ++ [.semicolon]) s

/-! ## References begin with a name -/

theorem Ref.exists_head {ts : List Token} {n : String} (h : Ref ts n) :
    ∃ (t : Token) (m : String) (us : List Token), ts = t :: us ∧ t.Names m := by
  cases h with
  | plain name => exact ⟨_, _, _, rfl, name⟩
  | qualified table _ => exact ⟨_, _, _, rfl, table⟩

theorem CommaList.exists_head {ts : List Token} {ns : List String} (h : CommaList Ref ts ns) :
    ∃ (t : Token) (m : String) (us : List Token), ts = t :: us ∧ t.Names m := by
  cases h with
  | one only => exact only.exists_head
  | more first _ =>
    obtain ⟨t, m, us, rfl, name⟩ := first.exists_head
    exact ⟨t, m, _, rfl, name⟩

/-! ## The end of the input is part of no phrase -/

theorem ne_eof_of_names {t : Token} {n : String} (h : t.Names n) : t ≠ .eof := by
  cases h <;> exact Token.noConfusion

theorem ne_eof_of_denotes {t : Token} {v : Value} (h : t.Denotes v) : t ≠ .eof := by
  cases h <;> exact Token.noConfusion

section

variable {ts : List Token}

theorem CommaList.noEof {α : Type} {item : List Token → α → Prop} {as : List α}
    (items : ∀ ts a, item ts a → .eof ∉ ts) (h : CommaList item ts as) : .eof ∉ ts := by
  induction h with
  | one only => exact items _ _ only
  | more first _ ih => simp [items _ _ first, ih]

theorem Literal.noEof {v : Value} (h : Literal ts v) : .eof ∉ ts := by
  obtain ⟨value⟩ := h
  simp [(ne_eof_of_denotes value).symm]

theorem Ref.noEof {n : String} (h : Ref ts n) : .eof ∉ ts := by
  cases h with
  | plain name => simp [(ne_eof_of_names name).symm]
  | qualified table name => simp [(ne_eof_of_names table).symm, (ne_eof_of_names name).symm]

theorem Condition.noEof {c : String × Value} (h : Condition ts c) : .eof ∉ ts := by
  obtain ⟨name, value⟩ := h
  simp [(ne_eof_of_names name).symm, (ne_eof_of_denotes value).symm]

theorem Spec.noEof {c : Column} (h : Spec ts c) : .eof ∉ ts := by
  obtain ⟨ks, name, -⟩ := h
  have constraints : ∀ k : Constraint, .eof ∉ k.tokens := by
    intro k
    cases k <;> decide
  simp [(ne_eof_of_names name).symm, constraints]

theorem Columns.noEof {p : Projection} (h : Columns ts p) : .eof ∉ ts := by
  cases h with
  | all => decide
  | named refs => exact refs.noEof fun _ _ => Ref.noEof

theorem Joined.noEof {j : Option Join} (h : Joined ts j) : .eof ∉ ts := by
  cases h with
  | none => exact List.not_mem_nil
  | some table left right => simp [(ne_eof_of_names table).symm, left.noEof, right.noEof]

theorem Filtered.noEof {w : Option Row} (h : Filtered ts w) : .eof ∉ ts := by
  cases h with
  | none => exact List.not_mem_nil
  | some condition => simp [condition.noEof]

theorem Derives.noEof {s : Statement} (h : Derives ts s) : .eof ∉ ts := by
  cases h with
  | createTable name columns =>
    simp [(ne_eof_of_names name).symm, columns.noEof fun _ _ => Spec.noEof]
  | insert table values =>
    simp [(ne_eof_of_names table).symm, values.noEof fun _ _ => Literal.noEof]
  | select columns table joined filtered =>
    simp [(ne_eof_of_names table).symm, columns.noEof, joined.noEof, filtered.noEof]
  | update table assignments _ key =>
    simp [(ne_eof_of_names table).symm, assignments.noEof fun _ _ => Condition.noEof, key.noEof]
  | delete table key => simp [(ne_eof_of_names table).symm, key.noEof]

theorem Whole.noEof {s : Statement} (h : Whole ts s) : .eof ∉ ts := by
  cases h with
  | bare statement => exact statement.noEof
  | closed statement => simp [statement.noEof]

end

end Phrase

end SqlStore
