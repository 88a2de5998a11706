import SqlStore.Binary64.Layout
import SqlStore.LogFilter.Pattern
import SqlStore.Text.Bytes
import SqlStore.Text.Upper

/-!
# Log filters

A log filter is a list of directives `target[span{field=pattern}]=level` between commas. A directive
that does not have this form is passed over. The places in a directive are counted in bytes without
the blanks in front of it, but its parts are cut out of the whole directive at those places; where
such a place falls within a character, the program cannot go on. The level itself is looked at last
and has no part in this.
-/

namespace SqlStore.LogFilter

inductive Refusal where
  /-- It is passed over. -/
  | malformed
  /-- A part of it would start or end within a character. -/
  | brokenCharacter
  deriving DecidableEq

/-- Where in a directive a character stands; the numbers are the places at which the parts start. -/
inductive Place where
  | start
  | target (start : Nat)
  | span (start : Nat)
  | field (start : Nat)
  | fieldEnd
  | spanEnd
  | level (start : Nat)

def part (directive : List Char) (start stop : Nat) : Except Refusal (List Char) :=
  match Text.cut? start stop directive with
  | some cs => .ok cs
  | none => .error .brokenCharacter

/-- Whether a text is read as a number, in which case it is no pattern. -/
def isNumber (cs : List Char) : Bool :=
  [['i', 'n', 'f'], ['i', 'n', 'f', 'i', 'n', 'i', 't', 'y'], ['n', 'a', 'n']].contains
      (Text.lower (Binary64.splitSign cs).2) ||
    (Binary64.ofText? (String.ofList cs)).isSome

/-- The pattern of a field: what stands behind the first equals sign and before the second. -/
def pattern? (field : List Char) : Option (List Char) :=
  match field.dropWhile (· != '=') with
  | [] => none
  | _ :: cs => some (cs.takeWhile (· != '='))

/-- Reads a field, which has to be there and whose pattern has to compile. -/
def readField (field : List Char) : Except Refusal Unit :=
  if field.isEmpty then .error .malformed
  else
    match pattern? field with
    | none => .ok ()
    | some cs => if isNumber cs || compiles cs then .ok () else .error .malformed

def opensTarget (c : Char) : Bool :=
  c == '-' || c == ':' || Text.isWordChar c

/-- Reads the character at the place `i` of a directive. -/
def step (directive : List Char) (i : Nat) (p : Place) (c : Char) : Except Refusal Place :=
  match p, c with
  | .start, '[' => .ok (.span (i + 1))
  | .start, c => if opensTarget c then .ok (.target i) else .error .malformed
  | .target a, '=' => (part directive a i).map fun _ => .level (i + 1)
  | .target a, '[' => (part directive a i).map fun _ => .span (i + 1)
  | .span a, ']' => (part directive a i).map fun _ => .spanEnd
  | .span a, '\x7b' => (part directive a i).map fun _ => .field (i + 1)
  | .field a, '\x7d' => (part directive a i >>= readField).map fun _ => .fieldEnd
  | .fieldEnd, ']' => .ok .spanEnd
  | .spanEnd, '=' => .ok (.level (i + 1))
  | .fieldEnd, _ | .spanEnd, _ => .error .malformed
  | p, _ => .ok p

def steps (directive : List Char) (i : Nat) (p : Place) : List Char → Except Refusal Place
  | [] => .ok p
  | c :: cs => step directive i p c >>= fun p => steps directive (i + c.utf8Size) p cs

def finish (directive : List Char) : Place → Except Refusal Unit
  | .target a | .level a => (part directive a (Text.byteSize directive)).map fun _ => ()
  | .spanEnd => .ok ()
  | _ => .error .malformed

def readDirective (directive : List Char) : Except Refusal Unit :=
  -- the characters are counted without the blanks, but `finish` cuts the directive with them
  steps directive 0 .start (Text.trimEnd (Text.trimStart directive)) >>= finish directive

/-- Whether the program can go on with a log filter. -/
def isUsable (filter : String) : Bool :=
  (filter.splitOn ",").all fun d =>
    match readDirective d.toList with
    | .error .brokenCharacter => false
    | _ => true

end SqlStore.LogFilter
