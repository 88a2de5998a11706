import SqlStore.Text.Blank
import SqlStore.Text.Numeric

/-!
# Patterns in log filters

A log filter may compare a field with a regular expression. All that is asked here is whether the
expression can be compiled, which `step` decides while it reads one character after another. The
compiler has no Unicode tables at hand, so it refuses classes such as `\d`, bounds of words and
letters of either case unless the expression turns to ASCII, and there it refuses whatever could
match a piece of a character. An opening brace counts repetitions; no closing brace follows it
within a log filter, so it is always refused. An expression may be `heightLimit` levels tall.
-/

namespace SqlStore.LogFilter

/-- The modes of an expression that bear on whether it compiles. -/
structure PatternFlags where
  caseless : Bool := false
  unicode : Bool := true
  /-- Blanks and comments are passed over. -/
  extended : Bool := false

/-- The flags with the one of a letter set or cleared, if there is a flag of that letter. -/
def PatternFlags.switch? (f : PatternFlags) (c : Char) (on : Bool) : Option PatternFlags :=
  match c with
  | 'i' => some { f with caseless := on }
  | 'u' => some { f with unicode := on }
  | 'x' => some { f with extended := on }
  | 'm' | 's' | 'U' | 'R' => some f
  | _ => none

/-- How many expressions stand side by side and how tall the tallest of them is. -/
structure Siblings where
  count : Nat := 0
  tallest : Nat := 0

def Siblings.push (s : Siblings) (height : Nat) : Siblings :=
  ⟨s.count + 1, max s.tallest height⟩

/-- The height of what the expressions make up. One alone stands for itself. -/
def Siblings.height (s : Siblings) : Nat :=
  if s.count ≤ 1 then s.tallest else s.tallest + 1

/-- An open group, or the whole expression. -/
structure PatternFrame where
  /-- The flags that hold at this place. -/
  flags : PatternFlags := {}
  /-- What stands in the current branch. -/
  branch : Siblings := {}
  /-- The branches before it. -/
  branches : Siblings := {}

def PatternFrame.height (f : PatternFrame) : Nat :=
  (f.branches.push f.branch.height).height

structure ClassFrame where
  members : Siblings := {}
  /-- The height of what stands in front of the last operator. -/
  left : Option Nat := none
  /-- The characters since the opening bracket, the last one first. -/
  reversed : List Char := []

def ClassFrame.height (f : ClassFrame) : Nat :=
  f.left.elim f.members.height fun left => max left f.members.height + 1

def ClassFrame.push (f : ClassFrame) (height : Nat) : ClassFrame :=
  { f with members := f.members.push height }

def asciiClassNames : List String :=
  ["alnum", "alpha", "ascii", "blank", "cntrl", "digit", "graph", "lower", "print", "punct",
    "space", "upper", "word", "xdigit"]

/-- Whether a class within a class is one of ASCII such as `[:alpha:]`, and then whether it is
negated. -/
def ClassFrame.ascii? (f : ClassFrame) : Option Bool :=
  let text := String.ofList f.reversed.reverse
  if asciiClassNames.any fun name => text == ":" ++ name ++ ":]" then some false
  else if asciiClassNames.any fun name => text == ":^" ++ name ++ ":]" then some true
  else none

/-- What a repetition would apply to, with its height. -/
inductive Operand where
  | none
  | item (height : Nat)
  /-- An item with a repetition, which a question mark makes lazy. -/
  | repeated (height : Nat)

/-- Where a single character is expected. -/
inductive Spot where
  | body
  /-- In a class of characters. -/
  | member
  /-- At the end of a range that starts with the given code point. -/
  | rangeEnd (start : Nat)

/-- What the characters read so far leave open. -/
inductive PatternMode where
  | body (operand : Operand)
  /-- Behind a backslash. -/
  | escape (spot : Spot)
  /-- Within a code point in hexadecimal of which `left` digits are missing. -/
  | hex (spot : Spot) (byte : Bool) (left value : Nat)
  /-- Behind an opening parenthesis. -/
  | group
  /-- Behind `(?`. -/
  | groupKind
  /-- Behind `(?P`. -/
  | groupAngle
  | groupName (reversed : List Char)
  | flags (seen : List Char) (negated dangling : Bool) (flags : PatternFlags)
  /-- Behind an opening bracket; a caret may follow if `first` is set. -/
  | classOpen (first : Bool)
  /-- Behind hyphens at the start of a class. -/
  | classHyphens
  | classMembers
  /-- Behind a member, with its code point if it is a single character. -/
  | classMember (value : Option Nat)
  /-- Behind a character that stands for an operator if it is doubled. -/
  | classOperator (c : Char)
  /-- Behind a member and a hyphen, and blanks if `apart` is set. -/
  | classRange (value : Option Nat) (apart : Bool)
  | comment (back : PatternMode)

structure PatternState where
  frame : PatternFrame := {}
  /-- The frames around the innermost open group, from the inside. -/
  outer : List PatternFrame := []
  /-- The names of groups, each from its end. -/
  names : List (List Char) := []
  /-- The open classes, from the inside. -/
  classes : List ClassFrame := []
  mode : PatternMode := .body .none

namespace PatternState

def flags (s : PatternState) : PatternFlags :=
  s.frame.flags

def pushItem (s : PatternState) (height : Nat) : PatternState :=
  { s with
    frame := { s.frame with branch := s.frame.branch.push height }
    mode := .body (.item height) }

def repeatItem (s : PatternState) (height : Nat) : PatternState :=
  let branch := s.frame.branch
  { s with
    frame := { s.frame with branch := { branch with tallest := max branch.tallest (height + 1) } }
    mode := .body (.repeated (height + 1)) }

/-- The state with another member in the innermost class. -/
def pushMember (s : PatternState) (height : Nat) (mode : PatternMode) : PatternState :=
  { s with classes := s.classes.modifyHead (·.push height), mode }

def operator (s : PatternState) : PatternState :=
  { s with
    classes := s.classes.modifyHead fun f => { f with members := {}, left := some f.height }
    mode := .classMembers }

/-- The state behind a character or class of characters at the given spot. -/
def finish (s : PatternState) (spot : Spot) (value : Option Nat) : Option PatternState :=
  match spot, value with
  | .body, _ => some (s.pushItem 0)
  | .member, _ => some (s.pushMember 0 (.classMember value))
  | .rangeEnd a, some b => if a ≤ b then some { s with mode := .classMembers } else none
  | .rangeEnd _, none => none

def literal (s : PatternState) (spot : Spot) (n : Nat) : Option PatternState :=
  if s.flags.caseless && (s.flags.unicode || 128 ≤ n) then none
  else
    match spot with
    | .body => s.finish spot (some n)
    | _ => if !s.flags.unicode && 128 ≤ n then none else s.finish spot (some n)

/-- The state behind something that holds between characters. -/
def assertion (s : PatternState) (spot : Spot) : Option PatternState :=
  match spot with
  | .body => some (s.pushItem 0)
  | _ => none

def openGroup (s : PatternState) (flags : PatternFlags) : PatternState :=
  { s with frame := { flags }, outer := s.frame :: s.outer, mode := .body .none }

/-- Outside groups' heads and classes. -/
def stepBody (s : PatternState) (operand : Operand) (c : Char) : Option PatternState :=
  match c with
  | '(' => some { s with mode := .group }
  | ')' =>
    match s.outer with
    | [] => none
    | frame :: outer => some ({ s with frame, outer }.pushItem (s.frame.height + 1))
  | '|' =>
    some { s with
      frame := ⟨s.flags, {}, s.frame.branches.push s.frame.branch.height⟩
      mode := .body .none }
  | '[' => some { s with classes := [{}], mode := .classOpen true }
  | '?' =>
    match operand with
    | .none => none
    | .item height => some (s.repeatItem height)
    | .repeated height => some { s with mode := .body (.item height) }
  | '*' | '+' =>
    match operand with
    | .none => none
    | .item height | .repeated height => some (s.repeatItem height)
  | '\x7b' => none
  | '\\' => some { s with mode := .escape .body }
  | '.' => if s.flags.unicode then s.finish .body none else none
  | '^' | '$' => s.assertion .body
  | c => s.literal .body c.toNat

/-- A character of ASCII that stands for itself behind a backslash. -/
def isEscapable (c : Char) : Bool :=
  c.toNat < 128 && !c.isAlphanum && c != '<' && c != '>'

def stepEscape (s : PatternState) (spot : Spot) (c : Char) : Option PatternState :=
  match c with
  | 'x' => some { s with mode := .hex spot true 2 0 }
  | 'u' => some { s with mode := .hex spot false 4 0 }
  | 'U' => some { s with mode := .hex spot false 8 0 }
  | 'd' | 's' | 'w' => if s.flags.unicode then none else s.finish spot none
  | 'b' | 'B' | '<' | '>' => if s.flags.unicode then none else s.assertion spot
  | 'A' | 'z' => s.assertion spot
  | 'a' => s.literal spot 7
  | 't' => s.literal spot 9
  | 'n' => s.literal spot 10
  | 'v' => s.literal spot 11
  | 'f' => s.literal spot 12
  | 'r' => s.literal spot 13
  | c => if isEscapable c then s.literal spot c.toNat else none

def hexDigit? (c : Char) : Option Nat :=
  if c.isDigit then some (c.toNat - 48)
  else if 'a' ≤ c ∧ c ≤ 'f' then some (c.toNat - 87)
  else if 'A' ≤ c ∧ c ≤ 'F' then some (c.toNat - 55)
  else none

/-- Whether a number is the code point of a character. -/
def isScalar (n : Nat) : Bool :=
  n < 0xd800 || (0xe000 ≤ n && n < 0x110000)

def stepHex (s : PatternState) (spot : Spot) (byte : Bool) (left value : Nat) (c : Char) :
    Option PatternState :=
  match hexDigit? c with
  | none => none
  | some d =>
    let n := 16 * value + d
    if 1 < left then some { s with mode := .hex spot byte (left - 1) n }
    else if !isScalar n || (byte && !s.flags.unicode && 128 ≤ n) then none
    else s.literal spot n

def isNameChar (first : Bool) (c : Char) : Bool :=
  if first then c == '_' || Text.isAlphabetic c
  else Text.isWordChar c || c == '.' || c == '[' || c == ']'

def stepName (s : PatternState) (reversed : List Char) (c : Char) : Option PatternState :=
  if c = '>' then
    if reversed.isEmpty || s.names.contains reversed then none
    else some ({ s with names := reversed :: s.names }.openGroup s.flags)
  else if isNameChar reversed.isEmpty c then some { s with mode := .groupName (c :: reversed) }
  else none

/-- Among the flags of a group; a parenthesis behind them sets them for the rest of the group
around. -/
def stepFlags (s : PatternState) (seen : List Char) (negated dangling : Bool)
    (flags : PatternFlags) (c : Char) : Option PatternState :=
  match c with
  | ':' => if dangling then none else some (s.openGroup flags)
  | ')' =>
    if dangling || seen.isEmpty then none
    else
      some { s with
        frame := { s.frame with flags, branch := s.frame.branch.push 0 }
        mode := .body .none }
  | '-' => if negated then none else some { s with mode := .flags seen true true flags }
  | c =>
    if seen.contains c then none
    else (flags.switch? c !negated).map fun f =>
      { s with mode := .flags (c :: seen) negated false f }

def closeClass (s : PatternState) : Option PatternState :=
  match s.classes with
  | [] => none
  | [f] => some ({ s with classes := [] }.pushItem (f.height + 1))
  | f :: classes =>
    let height :=
      match f.ascii? with
      | some negated => if negated && !s.flags.unicode then none else some 0
      | none => some (f.height + 1)
    height.map fun height => { s with classes }.pushMember height .classMembers

/-- Within a class, at the start of a member. -/
def stepMember (s : PatternState) (c : Char) : Option PatternState :=
  match c with
  | '[' => some { s with classes := {} :: s.classes, mode := .classOpen true }
  | ']' => s.closeClass
  | '\\' => some { s with mode := .escape .member }
  | '&' | '-' | '~' => some { s with mode := .classOperator c }
  | c => s.literal .member c.toNat

/-- At the start of a class, where hyphens and a closing bracket are members. -/
def stepClassOpen (s : PatternState) (first : Bool) (c : Char) : Option PatternState :=
  match c with
  | '^' =>
    if !first then s.stepMember c
    else if s.flags.unicode then some { s with mode := .classOpen false }
    else none
  | '-' => (s.literal .member c.toNat).map fun s => { s with mode := .classHyphens }
  | ']' => (s.literal .member c.toNat).map fun s => { s with mode := .classMembers }
  | c => s.stepMember c

def stepClassMember (s : PatternState) (value : Option Nat) (c : Char) : Option PatternState :=
  if c = '-' then some { s with mode := .classRange value false } else s.stepMember c

/-- Behind a character that stands for an operator if it is doubled and for itself if not. -/
def stepClassOperator (s : PatternState) (op c : Char) : Option PatternState :=
  if c = op then some s.operator
  else (s.literal .member op.toNat).bind fun s => s.stepClassMember (some op.toNat) c

/-- Behind a member and a hyphen: the hyphen makes a range unless the class ends or another hyphen
follows, which together with the first is an operator if no blank is between them. -/
def stepClassRange (s : PatternState) (value : Option Nat) (apart : Bool) (c : Char) :
    Option PatternState :=
  match c, value with
  | ']', _ => (s.pushMember 0 .classMembers).closeClass
  | '-', _ =>
    some (if apart then s.pushMember 0 (.classRange (some '-'.toNat) false) else s.operator)
  | _, none => none
  | '\\', some a => some { s with mode := .escape (.rangeEnd a) }
  | c, some a => s.literal (.rangeEnd a) c.toNat

/-- Reads a character that is not passed over. -/
def stepPlain (s : PatternState) (c : Char) : Option PatternState :=
  match s.mode with
  | .body operand => s.stepBody operand c
  | .escape spot => s.stepEscape spot c
  | .hex spot byte left value => s.stepHex spot byte left value c
  | .group =>
    if c = '?' then some { s with mode := .groupKind }
    else (s.openGroup s.flags).stepBody .none c
  | .groupKind =>
    match c with
    | '<' => some { s with mode := .groupName [] }
    | 'P' => some { s with mode := .groupAngle }
    | c => s.stepFlags [] false false s.flags c
  | .groupAngle => if c = '<' then some { s with mode := .groupName [] } else none
  | .groupName reversed => s.stepName reversed c
  | .flags seen negated dangling flags => s.stepFlags seen negated dangling flags c
  | .classOpen first => s.stepClassOpen first c
  | .classHyphens =>
    if c = '-' then some (s.pushMember 0 .classHyphens) else s.stepMember c
  | .classMembers => s.stepMember c
  | .classMember value => s.stepClassMember value c
  | .classOperator op => s.stepClassOperator op c
  | .classRange value apart => s.stepClassRange value apart c
  | .comment back => some { s with mode := if c = '\n' then back else .comment back }

/-- Whether blanks and comments are passed over here. -/
def passesOver (s : PatternState) : Bool :=
  s.flags.extended &&
    match s.mode with
    | .body _ | .hex _ _ _ _ | .group | .classOpen _ | .classHyphens | .classMembers
    | .classMember _ | .classOperator _ | .classRange _ _ => true
    | _ => false

/-- The state behind a blank or comment: what came before it goes on no further. -/
def pause (s : PatternState) : Option PatternState :=
  match s.mode with
  | .body (.repeated height) => some { s with mode := .body (.item height) }
  | .classOperator op => s.literal .member op.toNat
  | .classRange value _ => some { s with mode := .classRange value true }
  | _ => some s

/-- Reads a character, which is noted where a class is open. -/
def step (s : PatternState) (c : Char) : Option PatternState :=
  let s := { s with
    classes := s.classes.modifyHead fun f => { f with reversed := c :: f.reversed } }
  if s.passesOver && Text.isBlank c then s.pause
  else if s.passesOver && c = '#' then s.pause.map fun s => { s with mode := .comment s.mode }
  else s.stepPlain c

def isComplete (s : PatternState) : Bool :=
  s.outer.isEmpty &&
    match s.mode with
    | .body _ | .comment (.body _) => true
    | _ => false

end PatternState

/-- The height that an expression may have: groups, repetitions, classes, sequences and choices
each stand one level above what they are made of. -/
def heightLimit : Nat := 250

def compiles (pattern : List Char) : Bool :=
  (pattern.foldlM PatternState.step {}).any fun s =>
    s.isComplete && s.frame.height ≤ heightLimit

end SqlStore.LogFilter
