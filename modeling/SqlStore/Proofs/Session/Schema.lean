import SqlStore.Proofs.Database.Conformance
import SqlStore.Proofs.Database.Query
import SqlStore.Proofs.Statement.Grammar
import SqlStore.Proofs.Text
import SqlStore.Proofs.Token.Written
import SqlStore.Session

/-!
# The schema of a table reads back

The text that `.schema` shows is a statement, and the statement makes the table it was shown for.
A name that was read once can be written and read again, whatever letters it has and even if it is
a keyword. Of the constraints only those are written that do not follow from others: a primary key
is not marked `NOT NULL`, and takes no `NULL` either way.
-/

namespace SqlStore

open Phrase (CommaList Constraint Spec)
open Token (Written IsWord)

/-! ## Names -/

namespace Token

/-- The name is a word that stands for it. -/
structure IsName (n : String) : Prop where
  word : IsWord n.toList
  names : (ofWord n.toList).Names n

theorem isName_spelling (k : Keyword) : IsName k.spelling := by
  have reads : ofWord k.spelling.toList = keyword k := by
    cases k <;> decide
  exact ⟨by cases k <;> decide, reads ▸ .keyword k⟩

/-- What a lexeme is a name for can be written as a word. -/
theorem Spells.isName {w : List Char} {t : Token} {n : String} (spelled : Spells w t)
    (names : t.Names n) : IsName n := by
  cases names with
  | keyword k => exact isName_spelling k
  | ident n =>
    cases spelled with
    | symbol listed => simp [symbols] at listed
    | reserved _ listed => simp [Token.reserved] at listed
    | number numeral | negative numeral => cases numeral
    | ident word free =>
      constructor
      · rwa [String.toList_ofList]
      · rw [String.toList_ofList, ofWord_of_free free]
        exact .ident _

end Token

open Token (IsName)

namespace Phrase

theorem CommaList.exists_item {α : Type} {item : List Token → α → Prop} {ts : List Token}
    {as : List α} {a : α} (h : CommaList item ts as) (listed : a ∈ as) :
    ∃ us, us ⊆ ts ∧ item us a := by
  induction h with
  | one only =>
    obtain rfl := List.mem_singleton.mp listed
    exact ⟨_, List.Subset.refl _, only⟩
  | more first _ ih =>
    rcases List.mem_cons.mp listed with rfl | listed
    · exact ⟨_, List.subset_append_left _ _, first⟩
    · obtain ⟨us, sub, found⟩ := ih listed
      exact ⟨us, fun t ht => List.mem_append_right _ (List.mem_cons_of_mem _ (sub ht)), found⟩

theorem CommaList.ne_nil {α : Type} {item : List Token → α → Prop} {ts : List Token}
    {as : List α} (h : CommaList item ts as) : as ≠ [] := by
  cases h <;> exact List.cons_ne_nil _ _

theorem Spec.exists_names {ts : List Token} {c : Column} (h : Spec ts c) :
    ∃ t ∈ ts, t.Names c.name := by
  cases h with
  | mk ks name type => exact ⟨_, List.mem_cons_self, name⟩

end Phrase

/-- The names that a new table is given stand in its tokens. -/
theorem Phrase.Whole.isName {ts : List Token} {name : String} {columns : List Column}
    (h : Whole ts (.createTable name columns)) (names : ∀ t ∈ ts, ∀ n, t.Names n → IsName n) :
    IsName name ∧ columns ≠ [] ∧ ∀ c ∈ columns, IsName c.name := by
  have derived : ∃ us, us ⊆ ts ∧ Derives us (.createTable name columns) := by
    cases h with
    | bare derives => exact ⟨_, List.Subset.refl _, derives⟩
    | closed derives => exact ⟨_, List.subset_append_left _ _, derives⟩
  obtain ⟨us, sub, derives⟩ := derived
  cases derives with
  | createTable named list =>
    refine ⟨names _ (sub (by simp)) _ named, list.ne_nil, fun c listed => ?_⟩
    obtain ⟨vs, inside, spec⟩ := list.exists_item listed
    obtain ⟨t, ht, named⟩ := spec.exists_names
    exact names t (sub (by simp [inside ht])) _ named

/-- The name of a new table and the names of its columns can be written. -/
theorem Statement.isName_of_ofText {sql name : String} {columns : List Column}
    (h : ofText sql = .ok (.createTable name columns)) :
    IsName name ∧ columns ≠ [] ∧ ∀ c ∈ columns, IsName c.name := by
  obtain ⟨used, rest, read, whole⟩ := exists_whole_of_ofText h
  have cut := Token.scan_eq_ok_iff.mp read
  refine whole.isName fun t inside n names => ?_
  obtain ⟨w, spelled⟩ :=
    cut.exists_spells (List.mem_append_left _ inside) (Phrase.ne_eof_of_names names)
  exact spelled.isName names

/-! ## Columns -/

def Phrase.Constraint.text : Constraint → List Char
  | primaryKey => "PRIMARY KEY".toList
  | unique => "UNIQUE".toList
  | notNull => "NOT NULL".toList
  | null => "NULL".toList

theorem Phrase.Constraint.written (k : Constraint) : Written k.text k.tokens := by
  have null : Written "NULL".toList [.null] := .word (by decide)
  cases k with
  | primaryKey => exact (Written.keyword .primary).append_spaced (.keyword .key)
  | unique => exact .keyword .unique
  | notNull => exact (Written.keyword .not).append_spaced null
  | null => exact null

namespace Column

def constraints (c : Column) : List Constraint :=
  (if c.primaryKey then [.primaryKey] else []) ++ (if c.unique then [.unique] else []) ++
    if !c.nullable && !c.primaryKey then [.notNull] else []

/-- The column as it is read from what is written: of a primary key nothing is said about `NULL`. -/
def shown (c : Column) : Column :=
  { c with nullable := c.nullable || c.primaryKey }

/-- A primary key is required again once it is declared. -/
theorem declared_shown {c : Column} (required : c.primaryKey = true → c.nullable = false) :
    c.shown.declared = c := by
  obtain ⟨name, type, primaryKey, unique, nullable⟩ := c
  cases primaryKey with
  | false => simp [shown, declared]
  | true =>
    obtain rfl : nullable = false := required rfl
    rfl

theorem toList_display (c : Column) :
    c.display.toList =
      c.name.toList ++ ' ' :: (c.type.name.toList ++ c.constraints.flatMap (' ' :: ·.text)) := by
  have space : " ".toList = [' '] := rfl
  have key : " PRIMARY KEY".toList = ' ' :: Constraint.text .primaryKey := rfl
  have unique : " UNIQUE".toList = ' ' :: Constraint.text .unique := rfl
  have notNull : " NOT NULL".toList = ' ' :: Constraint.text .notNull := rfl
  simp only [display, constraints, String.toList_append, List.flatMap_append, space]
  cases c.primaryKey <;> cases c.unique <;> cases c.nullable <;>
    simp [key, unique, notNull]

theorem shown_eq (c : Column) :
    c.shown =
      { name := c.name, type := c.type, primaryKey := decide (.primaryKey ∈ c.constraints),
        unique := decide (.unique ∈ c.constraints),
        nullable := Constraint.nullable c.constraints } := by
  obtain ⟨name, type, primaryKey, unique, nullable⟩ := c
  cases primaryKey <;> cases unique <;> cases nullable <;> rfl

/-- A column is written as its specification. -/
theorem exists_written {c : Column} (name : IsName c.name) :
    ∃ ts, Written c.display.toList ts ∧ Spec ts c.shown := by
  have type : Written c.type.name.toList [.ident c.type.name] := by
    have word : IsWord c.type.name.toList := by
      cases c.type <;> decide
    have reads : Token.ofWord c.type.name.toList = .ident c.type.name := by
      cases c.type <;> decide
    exact reads ▸ .word word
  have upper : Text.upper c.type.name.toList = c.type.name.toList := by
    cases c.type <;> decide
  have text : Written c.display.toList (Token.ofWord c.name.toList ::
      .ident c.type.name :: c.constraints.flatMap Constraint.tokens) := by
    rw [toList_display]
    exact (Written.word name.word).append_spaced (type.append
      (.flatMap_spaced Constraint.written c.constraints) (Written.head?_flatMap_spaced _ _))
  have spec : Spec (Token.ofWord c.name.toList :: .ident c.type.name ::
      c.constraints.flatMap Constraint.tokens) c.shown := by
    rw [shown_eq]
    exact .mk c.constraints name.names upper
  exact ⟨_, text, spec⟩

/-- Columns with commas between them are written as a list of specifications. -/
theorem exists_written_list {cs : List Column} (nonempty : cs ≠ [])
    (names : ∀ c ∈ cs, IsName c.name) :
    ∃ ts, Written (", ".intercalate (cs.map (·.display))).toList ts ∧
      CommaList Spec ts (cs.map (·.shown)) := by
  have space : ", ".toList = [',', ' '] := rfl
  rw [String.toList_intercalate, List.map_map, space]
  induction cs with
  | nil => exact absurd rfl nonempty
  | cons c cs ih =>
    obtain ⟨ts, text, spec⟩ := exists_written (names c List.mem_cons_self)
    cases cs with
    | nil => exact ⟨ts, by simpa using text, .one spec⟩
    | cons d cs =>
      obtain ⟨us, texts, specs⟩ :=
        ih (List.cons_ne_nil _ _) fun c h => names c (List.mem_cons_of_mem _ h)
      refine ⟨ts ++ .comma :: us, ?_, .more spec specs⟩
      simp only [List.map_cons, List.intercalate_cons_cons, List.append_assoc] at texts ⊢
      exact text.append (.symbol_cons (by decide) texts.spaced) (by simpa using by decide)

end Column

/-! ## Tables -/

theorem Database.run_of_createTable {db : Database} {sql name : String} {columns : List Column}
    (reads : Statement.ofText sql = .ok (.createTable name columns))
    (free : db.table? name = none) :
    db.run sql = (.ok .done, db.put (.new name (columns.map (·.declared)))) := by
  simp only [run, reads, execute, createTable, free]
  rfl

namespace Session

theorem toList_schema (t : Table) :
    (schema t).toList = Keyword.create.letters ++ ' ' :: (Keyword.table.letters ++
      ' ' :: (t.name.toList ++ ' ' :: '(' ::
        ((", ".intercalate (t.columns.map (·.display))).toList ++ [')']))) := by
  have words : "CREATE TABLE ".toList =
      Keyword.create.letters ++ ' ' :: (Keyword.table.letters ++ [' ']) := rfl
  have opening : " (".toList = [' ', '('] := rfl
  have closing : ")".toList = [')'] := rfl
  unfold schema
  simp only [String.toList_append, words, opening, closing, List.append_assoc,
    List.cons_append, List.nil_append]

/-- The schema of a table is read as the statement that makes it. -/
theorem ofText_schema {t : Table} (name : IsName t.name)
    (columns : ∀ c ∈ t.columns, IsName c.name) (nonempty : t.columns ≠ [])
    (distinct : (t.columns.map (·.name)).Nodup) :
    Statement.ofText (schema t) = .ok (.createTable t.name (t.columns.map (·.shown))) := by
  obtain ⟨ts, list, specs⟩ := Column.exists_written_list nonempty columns
  have text : Token.ofText (schema t) = .ok (.keyword .create :: .keyword .table ::
      Token.ofWord t.name.toList :: .leftParen :: (ts ++ [.rightParen]) ++ [.eof]) := by
    have close : Written [')'] [.rightParen] := Written.nil.symbol_cons (by decide)
    have inside := list.append close (by simpa using by decide)
    have parens := inside.symbol_cons (c := '(') (t := .leftParen) (by decide)
    have front := (Written.keyword .table).append_spaced
      ((Written.word name.word).append_spaced parens)
    have all := (Written.keyword .create).append_spaced front
    rw [← toList_schema] at all
    exact all.ofText_eq
  have distinct : ((t.columns.map (·.shown)).map (·.name)).Nodup := by
    rw [List.map_map]
    exact distinct
  rw [Statement.ofText, text]
  exact Statement.ofTokens_of_whole (.bare (.createTable name.names specs distinct))

section

variable {n : String} (word : IsWord n.toList)

theorem toList_schemaLine (n : String) :
    (".schema " ++ n).toList = ".schema".toList ++ ([' '] ++ n.toList) := by
  simp

include word

theorem trim_schemaLine : Text.trim (".schema " ++ n) = ".schema " ++ n := by
  have first : (".schema " ++ n).toList.head? = some '.' := by simp
  have last : (".schema " ++ n).toList.getLast? = n.toList.getLast? := by
    rw [toList_schemaLine, ← List.append_assoc, List.getLast?_append_of_ne_nil _ word.ne_nil]
  refine Text.trim_eq_self ?_ ?_
  · rw [first]
    simpa using by decide
  · rw [last]
    exact fun c hc => word.noBlank c (List.mem_of_getLast? hc)

theorem words_schemaLine : Text.words (".schema " ++ n).toList = [".schema".toList, n.toList] := by
  have command : ∀ c ∈ ".schema".toList, (!Text.isBlank c) = true :=
    List.all_eq_true.mp (by decide)
  have space : ∀ c ∈ [' '], (!Text.isBlank c) = false := by
    simpa using by decide
  have solid : ∀ c ∈ n.toList, (!Text.isBlank c) = true := by simpa using word.noBlank
  have alone : Text.runs (fun c => !Text.isBlank c) (n.toList ++ []) = [n.toList] :=
    Text.runs_append_of_stop word.ne_nil solid (by simp)
  rw [List.append_nil] at alone
  rw [toList_schemaLine, Text.words, Text.runs_append_of_stop (by decide) command
    (by simpa using by decide), Text.runs_append_of_none_left space, alone]

/-- `.schema` with the name of a table shows the table's schema. -/
theorem handle_schema {db : Database} {t : Table} (stored : db.table? n = some t) :
    handle db (".schema " ++ n) = (.output (schema t), db) := by
  have shown : command db (".schema " ++ n) = schema t := by
    simp only [command, words_schemaLine word, List.map_cons, List.map_nil, List.headD_cons,
      List.tail_cons, List.head?_cons, String.ofList_toList,
      Database.table_eq_ok_iff.mpr stored]
  have first : (".schema " ++ n).toList.head? = some '.' := by simp
  have entered : ".schema " ++ n ≠ "" := by
    intro h
    rw [h] at first
    cases first
  have stays : isFarewell (".schema " ++ n) = false := by
    rw [isFarewell, toList_schemaLine]
    rfl
  rw [handle, trim_schemaLine word]
  simp only [entered, stays, first, shown, if_true, if_false, Bool.false_eq_true]

end

/-- A text that makes a table is answered with the table, and the schema that is shown for it makes
the table again, under the same schema. -/
theorem schema_reads_back {db : Database} {sql name : String} {columns : List Column}
    (reads : Statement.ofText sql = .ok (.createTable name columns))
    (free : db.table? name = none) :
    ∃ t s, t.name = name ∧ t.columns = columns.map (·.declared) ∧
      db.run sql = (.ok .done, db.put t) ∧
      handle (db.put t) (".schema " ++ name) = (.output s, db.put t) ∧
      Database.empty.run s = (.ok .done, Database.empty.put t) ∧
      handle (Database.empty.put t) (".schema " ++ name) =
        (.output s, Database.empty.put t) := by
  obtain ⟨isName, nonempty, columnNames⟩ := Statement.isName_of_ofText reads
  have written : Statement.ofText (schema (.new name (columns.map (·.declared)))) =
      .ok (.createTable name ((columns.map (·.declared)).map (·.shown))) := by
    refine ofText_schema isName ?_ ?_ (Table.conforming_declared name ?_).distinct
    · intro c hc
      obtain ⟨c, listed, rfl⟩ := List.mem_map.mp hc
      rw [Column.declared_name]
      exact columnNames c listed
    · exact mt List.map_eq_nil_iff.mp nonempty
    · exact Statement.distinctColumns_of_ofText reads
  have again : ((columns.map (·.declared)).map (·.shown)).map (·.declared) =
      columns.map (·.declared) := by
    simp only [List.map_map]
    exact List.map_congr_left fun c _ => Column.declared_shown c.declared_required
  have stored : ∀ db : Database, (db.put (.new name (columns.map (·.declared)))).table? name =
      some (.new name (columns.map (·.declared))) := by
    intro db
    rw [Database.table?_put]
    exact if_pos rfl
  have remade := Database.run_of_createTable written (Database.table?_empty name)
  rw [again] at remade
  exact ⟨_, _, rfl, rfl, Database.run_of_createTable reads free,
    handle_schema isName.word (stored db), remade,
    handle_schema isName.word (stored Database.empty)⟩

/-- Keywords are names in lowercase letters, and what contradicts a primary key is left out. -/
theorem schema_reads_back_keyword_names :
    let sql := "create table From (KEY integer unique NULL primary key NULL,\té_1 Float NOT NULL);"
    let s := "CREATE TABLE from (key INTEGER PRIMARY KEY UNIQUE, é_1 FLOAT NOT NULL)"
    let columns : List Column :=
      [⟨"key", .int, true, true, true⟩, ⟨"é_1", .float, false, false, false⟩]
    Statement.ofText sql = .ok (.createTable "from" columns) ∧
      Database.empty.table? "from" = none ∧
      ∃ t, t.columns = columns.map (·.declared) ∧
        Database.empty.run sql = (.ok .done, Database.empty.put t) ∧
        handle (Database.empty.put t) (".schema " ++ "from") =
          (.output s, Database.empty.put t) ∧
        Database.empty.run s = (.ok .done, Database.empty.put t) := by
  intro sql s columns
  have shown : (handle (Database.empty.run sql).2 (".schema " ++ "from")).1 = .output s := by
    decide +kernel
  have tokens : Token.ofText sql = .ok [.keyword .create, .keyword .table, .keyword .from,
      .leftParen, .keyword .key, .ident "integer", .keyword .unique, .null, .keyword .primary,
      .keyword .key, .null, .comma, .ident "é_1", .ident "Float", .keyword .not, .null,
      .rightParen, .semicolon, .eof] := by decide +kernel
  have key : Spec _ ⟨"key", .int, true, true, true⟩ :=
    .mk (s := "integer") [.unique, .null, .primaryKey, .null] (.keyword .key) (by decide)
  have float : Spec _ ⟨"é_1", .float, false, false, false⟩ :=
    .mk (s := "Float") [.notNull] (.ident "é_1") (by decide)
  have reads : Statement.ofText sql = .ok (.createTable "from" columns) := by
    rw [Statement.ofText, tokens]
    exact Statement.ofTokens_of_whole
      (.closed (.createTable (.keyword .from) (.more key (.one float)) (by decide)))
  have free := Database.table?_empty "from"
  obtain ⟨t, s', -, columns_eq, run, schema, again, -⟩ := schema_reads_back reads free
  rw [run, schema] at shown
  obtain rfl : s' = s := Reply.output.inj shown
  exact ⟨reads, free, t, columns_eq, run, schema, again⟩

end Session

end SqlStore
