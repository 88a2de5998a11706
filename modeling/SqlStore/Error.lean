import SqlStore.Fault
import SqlStore.Text.Quoted
import SqlStore.Token

/-!
# Errors

A text that is no statement fails with a `SyntaxError`; running a statement fails with a fault.
-/

namespace SqlStore

/-- What the grammar wants at a place. -/
inductive Expected where
  | token (t : Token)
  | identifier
  | columnType
  | literal
  /-- A comma or the closing parenthesis after a column. -/
  | columnEnd
  deriving DecidableEq

def Expected.display : Expected → String
  | token t => t.display
  | identifier => "identifier"
  | columnType => "column type"
  | literal => "literal"
  | columnEnd => "',' or ')'"

/-- Why a text is not a statement. -/
inductive SyntaxError where
  | unsupportedStatement
  | unknownType (name : String)
  | unexpected (expected : Expected) (found : Token)
  | duplicateColumn (name : String)
  | trailingInput (found : Token)
  | invalidCharacter (c : Char)
  | unterminatedString
  | invalidNumber (text : String)
  deriving DecidableEq

namespace SyntaxError

def message : SyntaxError → String
  | unsupportedStatement => "unsupported SQL statement"
  | unknownType s => "unknown column type " ++ s
  | unexpected e t => "expected " ++ e.display ++ ", found " ++ t.display
  | duplicateColumn s => "duplicate column " ++ s
  | trailingInput t => "unexpected input after statement: " ++ t.display
  | invalidCharacter c => "character " ++ Text.quoteChar c ++ " is not supported"
  | unterminatedString => "unterminated string literal"
  | invalidNumber s => "invalid number " ++ s

end SyntaxError

/-- Why a text given to the database has no outcome. -/
inductive Error where
  | reading (e : SyntaxError)
  | running (f : Fault)
  deriving DecidableEq

def Error.message : Error → String
  | reading e => e.message
  | running f => f.message

end SqlStore
