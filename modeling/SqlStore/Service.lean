import SqlStore.Database.Run
import SqlStore.Json
import SqlStore.Service.Form

/-!
# Answering requests over HTTP

Three resources are served, to `GET` and, without a body, to `HEAD`: a page with a form, the
statement in the field `sql` of the query string, and the names of the tables. A statement answers
with its outcome, whose rows list their fields sorted by name, or as a bad request with the
error's message.
-/

namespace SqlStore

structure Request where
  method : String
  target : String

structure Response where
  status : Nat
  body : String
  deriving DecidableEq

namespace Service

def page : String :=
  "\n".intercalate [
    "<!DOCTYPE html>",
    "<html>",
    "<head><title>rdbms</title></head>",
    "<body>",
    "<h1>rdbms web interface</h1>",
    "<form action=\"/query\" method=\"get\">",
    "  <input type=\"text\" name=\"sql\" placeholder=\"Enter SQL here\" size=\"60\"><br>",
    "  <input type=\"submit\" value=\"Execute\">",
    "</form>",
    "</body>",
    "</html>",
    ""]

/-- The response to a request that cannot be answered, with a message. -/
def badRequest (message : String) : Response :=
  ⟨400, Json.object [("error", Json.string message)]⟩

def runText (db : Database) (sql : String) : Response × Database :=
  match db.run sql with
  | (.ok o, after) =>
    (⟨200, Json.object [("result", Json.outcomeWith Json.sortedRow o)]⟩, after)
  | (.error e, after) => (badRequest e.message, after)

/-- Runs the statement in the field `sql`, which must not stand there twice nor be blank. -/
def runQuery (db : Database) (query : String) : Response × Database :=
  match (Form.fields query).filter fun f => f.1 == "sql" with
  | [] => (badRequest "No SQL provided", db)
  | [(_, sql)] =>
    if Text.isAllBlank sql then (badRequest "No SQL provided", db) else runText db sql
  | _ => (⟨400, "Failed to deserialize query string: duplicate field \x60sql\x60"⟩, db)

inductive Resource where
  | page
  | query
  | tables
  deriving DecidableEq

def Resource.ofPath? (path : String) : Option Resource :=
  match path with
  | "/" => some page
  | "/query" => some query
  | "/tables" => some tables
  | _ => none

/-- The response that a resource gives to `GET`. -/
def get (db : Database) (query : String) : Resource → Response × Database
  | .page => (⟨200, page⟩, db)
  | .query => runQuery db query
  | .tables =>
    (⟨200, Json.object [("tables", Json.array (db.tableNames.map Json.string))]⟩, db)

/-- A target without the scheme and the host that may stand in front of its path. -/
def dropOrigin (cs : List Char) : List Char :=
  match cs.dropWhile fun c => c.isAlphanum || c == '+' || c == '-' || c == '.' || c == '~' with
  | ':' :: '/' :: '/' :: rest =>
    match rest.dropWhile fun c => c != '/' && c != '?' with
    | '/' :: path => '/' :: path
    | query => '/' :: query
  | _ => cs

/-- The path of a target and its query string, without the fragment. -/
def splitTarget (target : String) : String × String :=
  let cs := dropOrigin (target.toList.takeWhile (· != '#'))
  (String.ofList (cs.takeWhile (· != '?')), String.ofList ((cs.dropWhile (· != '?')).drop 1))

def answer (db : Database) (r : Request) : Response × Database :=
  let (path, query) := splitTarget r.target
  match Resource.ofPath? path with
  | none => (⟨404, ""⟩, db)
  | some resource =>
    if r.method = "GET" then get db query resource
    else if r.method = "HEAD" then
      let (response, after) := get db query resource
      ({ response with body := "" }, after)
    else (⟨405, ""⟩, db)

end Service

end SqlStore
