import SqlStore.Binary64.Layout
import SqlStore.Text.Upper
import SqlStore.Value

/-!
# Tokens

The smallest pieces of a statement. A keyword of the grammar may stand where a name is wanted and
then reads as its lowercase spelling; the words `NULL`, `TRUE` and `FALSE` may not.
-/

namespace SqlStore

inductive Keyword where
  | create
  | table
  | insert
  | into
  | values
  | select
  | «from»
  | join
  | on
  | «where»
  | update
  | set
  | delete
  | primary
  | key
  | unique
  | not
  deriving DecidableEq

namespace Keyword

def all : List Keyword :=
  [create, table, insert, into, values, select, «from», join, on, «where», update, set, delete,
    primary, key, unique, not]

/-- The keyword in lowercase, as it reads in the place of a name. -/
def spelling : Keyword → String
  | create => "create"
  | table => "table"
  | insert => "insert"
  | into => "into"
  | values => "values"
  | select => "select"
  | «from» => "from"
  | join => "join"
  | on => "on"
  | «where» => "where"
  | update => "update"
  | set => "set"
  | delete => "delete"
  | primary => "primary"
  | key => "key"
  | unique => "unique"
  | not => "not"

def letters (k : Keyword) : List Char :=
  k.spelling.toList.map Char.toUpper

theorem mem_all (k : Keyword) : k ∈ all := by
  cases k <;> decide

end Keyword

inductive Token where
  | keyword (k : Keyword)
  | null
  /-- One of the words `TRUE` and `FALSE`. -/
  | bool (b : Bool)
  | ident (name : String)
  | number (i : Int64)
  | float (x : Binary64)
  | string (s : String)
  | leftParen
  | rightParen
  | comma
  | semicolon
  | star
  | equal
  | dot
  /-- The end of the input. -/
  | eof
  deriving DecidableEq

namespace Token

/-- The token that a word denotes: the keyword or literal that its uppercase form spells, else the
word itself as an identifier. -/
def ofWord (w : List Char) : Token :=
  let u := Text.upper w
  match Keyword.all.find? fun k => u == k.letters with
  | some k => keyword k
  | none =>
    if u = ['N', 'U', 'L', 'L'] then null
    else if u = ['T', 'R', 'U', 'E'] then bool true
    else if u = ['F', 'A', 'L', 'S', 'E'] then bool false
    else ident (String.ofList w)

/-- The table or column name that a token can stand for. -/
def name? : Token → Option String
  | ident s => some s
  | keyword k => some k.spelling
  | _ => none

def literal? : Token → Option Value
  | null => some .null
  | bool b => some (.bool b)
  | number i => some (.int i)
  | float x => some (.float x)
  | string s => some (.text s)
  | _ => none

def display : Token → String
  | keyword k => String.ofList k.letters
  | null => "NULL"
  | bool b => if b then "TRUE" else "FALSE"
  | ident s => "identifier " ++ s
  | number i => "number " ++ toString i.toInt
  | float x => "number " ++ Value.floatLayout.render x
  | string s => "string '" ++ s ++ "'"
  | leftParen => "'('"
  | rightParen => "')'"
  | comma => "','"
  | semicolon => "';'"
  | star => "'*'"
  | equal => "'='"
  | dot => "'.'"
  | eof => "end of input"

end Token

end SqlStore
