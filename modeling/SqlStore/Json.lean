import SqlStore.Database

/-!
# JSON text

Values, rows and outcomes as compact JSON. Strings escape the quote, the backslash and the
controls and nothing else. A float that is not finite is `null`. A row is an object with its
fields in the row's order, or, where the order of the names is wanted, sorted by name.
-/

namespace SqlStore.Json

def hexPair (n : Nat) : List Char :=
  [Nat.digitChar (n / 16), Nat.digitChar (n % 16)]

/-- What stands between the quotes for one character. -/
def escapeChar (c : Char) : List Char :=
  match c with
  | '\x22' => ['\\', '\x22']
  | '\\' => ['\\', '\\']
  | '\x08' => ['\\', 'b']
  | '\x0c' => ['\\', 'f']
  | '\n' => ['\\', 'n']
  | '\r' => ['\\', 'r']
  | '\t' => ['\\', 't']
  | c => if c.toNat < 32 then ['\\', 'u', '0', '0'] ++ hexPair c.toNat else [c]

def string (s : String) : String :=
  String.ofList ('\x22' :: s.toList.flatMap escapeChar ++ ['\x22'])

/-- Floats are written positionally from `0.00001` up to below `1e16`; a positive exponent has a
sign, and of two shortest decimals at the same distance the even one is written. -/
def floatLayout : FloatLayout where
  leastPositional := -5
  greatestPositional := 15
  signedExponent := true
  tie := .toEven
  nan := "null"
  infinity := fun _ => "null"

def value : Value → String
  | .null => "null"
  | .int i => toString i.toInt
  | .float x => floatLayout.render x
  | .text s => string s
  | .bool b => if b then "true" else "false"

/-- An array of texts that are JSON. -/
def array (items : List String) : String :=
  "[" ++ ",".intercalate items ++ "]"

/-- An object of names with texts that are JSON. -/
def object (members : List (String × String)) : String :=
  "\x7b" ++ ",".intercalate (members.map fun m => string m.1 ++ ":" ++ m.2) ++ "\x7d"

def fields (fs : List (String × Value)) : String :=
  object (fs.map fun f => (f.1, value f.2))

def row (r : Row) : String :=
  fields r.fields

/-- A row with its fields sorted by name. -/
def sortedRow (r : Row) : String :=
  fields (r.fields.mergeSort fun f g => decide (f.1 ≤ g.1))

/-- An outcome, with its rows as `row` writes them. -/
def outcomeWith (row : Row → String) : Outcome → String
  | .rows rs => array (rs.map row)
  | .done => "null"

def outcome : Outcome → String :=
  outcomeWith row

end SqlStore.Json
