import Mathlib.Data.List.Forall2
import SqlStore.Proofs.Json
import SqlStore.Proofs.Statement.Refused
import SqlStore.Service
import SqlStore.Session

/-!
# Sessions and services agree with the database

A session and a service answer texts as the database does, each in its own form, and leave the same
database behind them, text by text. The form tells outcomes from errors: what a session shows for an
outcome never looks like an error, and the message of an error can be read back from either. A
session trims its texts, which makes no difference, and keeps some of them to itself, which are no
statements.
-/

namespace SqlStore

/-! ## Trimmed and intercepted texts -/

theorem Database.run_trim (db : Database) (sql : String) : db.run (Text.trim sql) = db.run sql := by
  rw [run, run, Statement.ofText_trim]

namespace Session

/-- The session keeps the line to itself: it ends the session or is a command about it. -/
def Intercepts (line : String) : Prop :=
  isFarewell (Text.trim line) = true ∨ (Text.trim line).toList.head? = some '.'

instance (line : String) : Decidable (Intercepts line) :=
  inferInstanceAs (Decidable (_ ∨ _))

def farewells : List (List Char) :=
  Text.casings ['q', 'u', 'i', 't'] ++ Text.casings ['e', 'x', 'i', 't']

theorem mem_farewells {line : String} (farewell : isFarewell line = true) :
    line.toList ∈ farewells := by
  have mem := Text.mem_casings line.toList
  simp only [isFarewell, Bool.or_eq_true, beq_iff_eq] at farewell
  rcases farewell with h | h
  · exact List.mem_append_left _ (h ▸ mem)
  · exact List.mem_append_right _ (h ▸ mem)

theorem ofText_of_farewell {line : String} (farewell : isFarewell line = true) :
    Statement.ofText line = .error .unsupportedStatement := by
  have all : ∀ w ∈ farewells, Token.IsWord w ∧ Token.ofWord w = .ident (String.ofList w) := by
    decide +kernel
  obtain ⟨word, ident⟩ := all _ (mem_farewells farewell)
  exact Statement.ofText_of_word word fun k => ident ▸ Token.noConfusion

/-- What a session keeps to itself is no statement. -/
theorem run_of_intercepts (db : Database) {line : String} (intercepted : Intercepts line) :
    db.run line = (.error (.reading .unsupportedStatement), db) := by
  have refused : Statement.ofText (Text.trim line) = .error .unsupportedStatement := by
    rcases intercepted with farewell | point
    · exact ofText_of_farewell farewell
    · exact Statement.ofText_of_point point
  rw [← Database.run_trim, Database.run, refused]

end Session

/-! ## Answers in a form of their own -/

section

variable {ρ : Type} (outcome : Outcome → ρ) (failure : String → ρ)

/-- The answer to a statement in the form that outcomes and messages of errors are given. -/
def inForm : Except Error Outcome → ρ
  | .ok o => outcome o
  | .error e => failure e.message

/-- What is shown has the form of an outcome exactly if the answer is one that looks the same, and
the form of a failure exactly if the answer is an error with this message. -/
structure Tells (answer : Except Error Outcome) (shown : ρ) : Prop where
  outcome_iff : ∀ o, shown = outcome o ↔ ∃ o', answer = .ok o' ∧ outcome o' = outcome o
  failure_iff : ∀ m, shown = failure m ↔ ∃ e, answer = .error e ∧ e.message = m

variable {outcome failure}

theorem tells_inForm (apart : ∀ o m, outcome o ≠ failure m) (inj : Function.Injective failure)
    (answer : Except Error Outcome) :
    Tells outcome failure answer (inForm outcome failure answer) := by
  cases answer with
  | ok o =>
    constructor
    · intro o'
      constructor
      · exact fun same => ⟨o, rfl, same⟩
      · rintro ⟨_, ⟨⟩, same⟩
        exact same
    · intro m
      constructor
      · exact fun same => absurd same (apart o m)
      · rintro ⟨_, ⟨⟩, _⟩
  | error e =>
    constructor
    · intro o
      constructor
      · exact fun same => absurd same.symm (apart o _)
      · rintro ⟨_, ⟨⟩, _⟩
    · intro m
      constructor
      · exact fun same => ⟨e, rfl, inj same⟩
      · rintro ⟨_, ⟨⟩, rfl⟩
        rfl

end

namespace Session

theorem head?_intercalate_cons {separator a : String} {as : List String} {c : Char}
    (first : a.toList.head? = some c) :
    (separator.intercalate (a :: as)).toList.head? = some c := by
  obtain ⟨cs, ha⟩ := List.head?_eq_some_iff.mp first
  rw [String.toList_intercalate]
  cases as with
  | nil => simp [ha]
  | cons b as => simp [List.intercalate_cons_cons, ha]

theorem head?_render (o : Outcome) : (render o).toList.head? ≠ some 'E' := by
  intro error
  cases o with
  | done => cases error
  | rows rs =>
    cases rs with
    | nil => cases error
    | cons r rs =>
      have brace : r.display.toList.head? = some '\x7b' := by simp [Row.display]
      have shown : (render (.rows (r :: rs))).toList.head? = some '\x7b' :=
        head?_intercalate_cons brace
      rw [shown] at error
      cases error

/-- No outcome is rendered like an error. -/
theorem render_ne_errorLine (o : Outcome) (m : String) : render o ≠ errorLine m := by
  intro same
  exact head?_render o (by simp [same, errorLine])

theorem errorLine_injective : Function.Injective errorLine := by
  intro m m' same
  have texts := congrArg String.toList same
  simp only [errorLine, String.toList_append] at texts
  exact String.toList_injective (List.append_cancel_left texts)

/-- The reply shows the answer: an outcome as it is rendered, an error by its message on an error
line. -/
def Shows (answer : Except Error Outcome) (reply : Reply) : Prop :=
  Tells (fun o => .output (render o)) (fun m => .output (errorLine m)) answer reply

def reply : Except Error Outcome → Reply :=
  inForm (fun o => .output (render o)) fun m => .output (errorLine m)

/-- A line that is not blank and that the session does not keep to itself is run. -/
theorem handle_eq_reply (db : Database) {line : String} (entered : Text.trim line ≠ "")
    (passed : ¬ Intercepts line) :
    handle db line = (reply (db.run line).1, (db.run line).2) := by
  obtain ⟨stays, noCommand⟩ := not_or.mp passed
  rw [handle, Database.run_trim]
  simp only [if_neg entered, if_neg stays, if_neg noCommand]
  obtain ⟨answer, after⟩ := db.run line
  cases answer <;> rfl

theorem shows_reply (answer : Except Error Outcome) : Shows answer (reply answer) := by
  refine tells_inForm ?_ ?_ answer
  · exact fun o m same => render_ne_errorLine o m (Reply.output.inj same)
  · exact fun m m' same => errorLine_injective (Reply.output.inj same)

end Session

namespace Service

theorem badRequest_injective : Function.Injective badRequest := by
  intro m m' same
  exact Json.string_inj (Json.object_singleton_inj (Response.mk.inj same).2)

def success (o : Outcome) : Response :=
  ⟨200, Json.object [("result", Json.outcomeWith Json.sortedRow o)]⟩

/-- The response carries the answer: an outcome with status 200, an error by its message in a bad
request. -/
structure Carries (answer : Except Error Outcome) (response : Response) : Prop extends
    Tells success badRequest answer response where
  status_iff : response.status = 200 ↔ ∃ o, answer = .ok o

def response : Except Error Outcome → Response :=
  inForm success badRequest

theorem carries_response (answer : Except Error Outcome) : Carries answer (response answer) := by
  have apart : ∀ o m, success o ≠ badRequest m :=
    fun o m same => absurd (Response.mk.inj same).1 (by decide)
  refine ⟨tells_inForm apart badRequest_injective answer, ?_⟩
  cases answer with
  | ok o =>
    constructor
    · exact fun _ => ⟨o, rfl⟩
    · exact fun _ => rfl
  | error e =>
    constructor
    · intro status
      cases status
    · rintro ⟨_, ⟨⟩⟩

/-- The request asks for the text to be run: its query string has the text in the field that counts,
and no second one. -/
structure Delivers (r : Request) (sql : String) : Prop where
  method : r.method = "GET"
  path : (splitTarget r.target).1 = "/query"
  field : (Form.fields (splitTarget r.target).2).filter (fun f => f.1 == "sql") = [("sql", sql)]

/-- A text that is no blank one is run. -/
theorem answer_eq_response (db : Database) {r : Request} {sql : String}
    (delivers : Delivers r sql) (entered : Text.trim sql ≠ "") :
    answer db r = (response (db.run sql).1, (db.run sql).2) := by
  have notBlank : Text.isAllBlank sql = false := by
    cases h : Text.isAllBlank sql with
    | false => rfl
    | true => exact absurd (Text.trim_eq_empty h) entered
  have resource : Resource.ofPath? "/query" = some .query := rfl
  simp only [answer, delivers.path, delivers.method, resource, if_true, get, runQuery,
    delivers.field, notBlank, Bool.false_eq_true, if_false, runText]
  obtain ⟨answer, after⟩ := db.run sql
  cases answer <;> rfl

end Service

/-! ## Text by text -/

section Trace

variable {σ α β γ δ : Type}

/-- What is answered to one input after another, each with the state after it. -/
def trace (step : σ → α → β × σ) (s : σ) : List α → List (β × σ)
  | [] => []
  | a :: as => step s a :: trace step (step s a).2 as

/-- If every single answer is one of the other steps in a form of its own, with the same state
behind it, then so are the answers all the way. -/
theorem trace_eq_map {step : σ → α → β × σ} {step' : σ → γ → δ × σ} {Given : α → γ → Prop}
    {form : β → δ}
    (each : ∀ s a c, Given a c → step' s c = (form (step s a).1, (step s a).2))
    {as : List α} {cs : List γ} (given : List.Forall₂ Given as cs) (s : σ) :
    trace step' s cs = (trace step s as).map fun x => (form x.1, x.2) := by
  induction given generalizing s with
  | nil => rfl
  | cons head _ ih => rw [trace, trace, List.map_cons, each s _ _ head, ih]

theorem forall₂_map_form {Related : β → δ → Prop} {form : β → δ}
    (related : ∀ b, Related b (form b)) (answered : List (β × σ)) :
    List.Forall₂ (fun x y => y.2 = x.2 ∧ Related x.1 y.1) answered
      (answered.map fun x => (form x.1, x.2)) := by
  rw [List.forall₂_map_right_iff, List.forall₂_same]
  exact fun x _ => ⟨rfl, related x.1⟩

end Trace

section

variable (db : Database) {sqls : List String} {requests : List Request}
  (entered : ∀ sql ∈ sqls, Text.trim sql ≠ "")

include entered

theorem Session.trace_handle (passed : ∀ sql ∈ sqls, ¬ Intercepts sql) :
    trace handle db sqls = (trace Database.run db sqls).map fun ran => (reply ran.1, ran.2) := by
  have given : List.Forall₂ (fun sql line => sql = line ∧ Text.trim sql ≠ "" ∧ ¬ Intercepts sql)
      sqls sqls := List.forall₂_same.mpr fun sql h => ⟨rfl, entered sql h, passed sql h⟩
  refine trace_eq_map ?_ given db
  rintro db sql _ ⟨rfl, entered, passed⟩
  exact handle_eq_reply db entered passed

theorem Service.trace_answer
    (delivered : List.Forall₂ (fun sql r => Delivers r sql) sqls requests) :
    trace answer db requests =
      (trace Database.run db sqls).map fun ran => (response ran.1, ran.2) := by
  refine trace_eq_map ?_ ((List.forall₂_and_left _ _).mpr ⟨entered, delivered⟩) db
  rintro db sql r ⟨entered, delivers⟩
  exact answer_eq_response db delivers entered

end

/-- A session that is given texts and a service that is asked for them, none of them blank and none
a line that the session keeps to itself, leave the same database behind every text as running it
does, and their replies and responses show and carry the answer to it. Blanks around a text make no
difference to running it, and what a session keeps to itself is no statement. -/
theorem adapters_agree (db : Database) {sqls : List String} {requests : List Request}
    (entered : ∀ sql ∈ sqls, Text.trim sql ≠ "") (passed : ∀ sql ∈ sqls, ¬ Session.Intercepts sql)
    (delivered : List.Forall₂ (fun sql r => Service.Delivers r sql) sqls requests) :
    List.Forall₂ (fun ran shown => shown.2 = ran.2 ∧ Session.Shows ran.1 shown.1)
      (trace Database.run db sqls) (trace Session.handle db sqls) ∧
    List.Forall₂ (fun ran served => served.2 = ran.2 ∧ Service.Carries ran.1 served.1)
      (trace Database.run db sqls) (trace Service.answer db requests) ∧
    (∀ sql, db.run (Text.trim sql) = db.run sql) ∧
    ∀ sql, Session.Intercepts sql → db.run sql = (.error (.reading .unsupportedStatement), db) := by
  rw [Session.trace_handle db entered passed, Service.trace_answer db entered delivered]
  exact ⟨forall₂_map_form Session.shows_reply _, forall₂_map_form Service.carries_response _,
    db.run_trim, fun sql => Session.run_of_intercepts db⟩

/-- A text that makes a table, with blanks around it, two rows, a query that shows both and one that
shows a part of one, and two texts that fail, one of them in the middle of a string. -/
theorem adapters_agree_with_blanks_and_errors :
    let sqls := [" CREATE TABLE t (b VARCHAR, a INTEGER)\n", "INSERT INTO t VALUES ('x', 1)",
      "INSERT INTO t VALUES ('y', NULL)", "SELECT * FROM t", "SELECT b FROM t WHERE a = 1",
      "SELECT * FROM u", "INSERT INTO t VALUES ('a  "]
    let requests : List Request := [
      ⟨"GET", "/query?sql=+CREATE+TABLE+t+(b+VARCHAR,+a+INTEGER)%0A"⟩,
      ⟨"GET", "/query?sql=INSERT+INTO+t+VALUES+('x',+1)"⟩,
      ⟨"GET", "/query?sql=INSERT+INTO+t+VALUES+('y',+NULL)"⟩,
      ⟨"GET", "/query?sql=SELECT+*+FROM+t"⟩, ⟨"GET", "/query?sql=SELECT+b+FROM+t+WHERE+a+%3D+1"⟩,
      ⟨"GET", "/query?sql=SELECT+*+FROM+u"⟩, ⟨"GET", "/query?sql=INSERT+INTO+t+VALUES+('a++"⟩]
    (∀ sql ∈ sqls, Text.trim sql ≠ "") ∧ (∀ sql ∈ sqls, ¬ Session.Intercepts sql) ∧
      List.Forall₂ (fun sql r => Service.Delivers r sql) sqls requests ∧
      List.Forall₂ (fun ran shown => shown.2 = ran.2 ∧ Session.Shows ran.1 shown.1)
        (trace Database.run .empty sqls) (trace Session.handle .empty sqls) ∧
      List.Forall₂ (fun ran served => served.2 = ran.2 ∧ Service.Carries ran.1 served.1)
        (trace Database.run .empty sqls) (trace Service.answer .empty requests) ∧
      (trace Session.handle .empty sqls).map (·.1) =
        [.output "OK", .output "OK", .output "OK",
          .output "\x7bb: 'x', a: 1\x7d\n\x7bb: 'y', a: NULL\x7d\n(2 rows)",
          .output "\x7bb: 'x'\x7d\n(1 row)", .output "Error: table u not found",
          .output "Error: unterminated string literal"] ∧
      (trace Service.answer .empty requests).map (·.1) =
        [⟨200, "\x7b\"result\":null\x7d"⟩, ⟨200, "\x7b\"result\":null\x7d"⟩,
          ⟨200, "\x7b\"result\":null\x7d"⟩,
          ⟨200, "\x7b\"result\":[\x7b\"a\":1,\"b\":\"x\"\x7d,\x7b\"a\":null,\"b\":\"y\"\x7d]\x7d"⟩,
          ⟨200, "\x7b\"result\":[\x7b\"b\":\"x\"\x7d]\x7d"⟩,
          ⟨400, "\x7b\"error\":\"table u not found\"\x7d"⟩,
          ⟨400, "\x7b\"error\":\"unterminated string literal\"\x7d"⟩] := by
  intro sqls requests
  have entered : ∀ sql ∈ sqls, Text.trim sql ≠ "" := by decide +kernel
  have passed : ∀ sql ∈ sqls, ¬ Session.Intercepts sql := by decide +kernel
  have delivered : List.Forall₂ (fun sql r => Service.Delivers r sql) sqls requests := by
    refine .cons ⟨rfl, ?_, ?_⟩ (.cons ⟨rfl, ?_, ?_⟩ (.cons ⟨rfl, ?_, ?_⟩ (.cons ⟨rfl, ?_, ?_⟩
      (.cons ⟨rfl, ?_, ?_⟩ (.cons ⟨rfl, ?_, ?_⟩ (.cons ⟨rfl, ?_, ?_⟩ .nil)))))) <;>
      decide +kernel
  obtain ⟨shown, carried, -⟩ := adapters_agree .empty entered passed delivered
  have ran : (trace Database.run .empty sqls).map (·.1) =
      [.ok .done, .ok .done, .ok .done,
        .ok (.rows [.ofList [("b", .text "x"), ("a", .int 1)],
          .ofList [("b", .text "y"), ("a", .null)]]),
        .ok (.rows [.ofList [("b", .text "x")]]), .error (.running (.tableNotFound "u")),
        .error (.reading .unterminatedString)] := by
    decide +kernel
  have answered : (trace Service.answer .empty requests).map (·.1) =
      ((trace Database.run .empty sqls).map (·.1)).map Service.response := by
    rw [Service.trace_answer .empty entered delivered, List.map_map, List.map_map]
    rfl
  -- `decide` does not evaluate `List.mergeSort`
  have sorted : ∀ v w : Value, Json.sortedRow (.ofList [("b", v), ("a", w)]) =
      Json.fields [("a", w), ("b", v)] := by
    intro v w
    have order : ([("b", v), ("a", w)].mergeSort fun f g => decide (f.1 ≤ g.1)) =
        [("a", w), ("b", v)] := by
      simp [List.mergeSort]
    exact congrArg Json.fields order
  refine ⟨entered, passed, delivered, shown, carried, by decide +kernel, ?_⟩
  rw [answered, ran]
  simp only [List.map_cons, Service.response, inForm, Service.success, Json.outcomeWith, sorted]
  decide +kernel

end SqlStore
