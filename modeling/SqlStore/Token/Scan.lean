import SqlStore.Error
import SqlStore.Integer
import SqlStore.Text.Blank
import SqlStore.Text.Numeric

/-!
# Cutting a text into tokens

`lexeme?` reads the token at the front of a text that does not start with a blank and says what is
left; `scan` skips blanks and reads lexemes to the end, where it puts the one `eof`. Words and
numbers are taken as long as they go. A minus belongs to a number only if a digit follows it, and
a point only if the number has none yet; a string runs to the next single quote, whatever stands
between.
-/

namespace SqlStore.Token

/-- A token with the text that is left after it, which is no longer than `limit`. -/
structure Lexeme (limit : Nat) where
  token : Token
  rest : List Char
  rest_le : rest.length ≤ limit

theorem length_dropWhile_le (p : Char → Bool) (cs : List Char) :
    (cs.dropWhile p).length ≤ cs.length :=
  (List.dropWhile_suffix p).length_le

/-- The number whose first digit is `d`, after an optional minus. Its whole digits may be followed
by a point and further digits; a second point spoils it. -/
def number? (negative : Bool) (d : Char) (cs : List Char) :
    Except SyntaxError (Lexeme cs.length) :=
  let sign := if negative then ['-'] else []
  let whole := d :: cs.takeWhile Char.isDigit
  match h : cs.dropWhile Char.isDigit with
  | '.' :: r =>
    let fraction := r.takeWhile Char.isDigit
    match h' : r.dropWhile Char.isDigit with
    | '.' :: _ =>
      .error (.invalidNumber (String.ofList (sign ++ whole ++ '.' :: fraction ++ ['.'])))
    | rest =>
      .ok ⟨.float (.ofDigits negative whole fraction), rest, by
        have h₁ := length_dropWhile_le Char.isDigit cs
        have h₂ := length_dropWhile_le Char.isDigit r
        rw [h, List.length_cons] at h₁
        rw [h'] at h₂
        omega⟩
  | rest =>
    let n : Int := Nat.ofDigitChars 10 whole 0
    match int64? (if negative then -n else n) with
    | some i =>
      .ok ⟨.number i, rest, by
        have h₁ := length_dropWhile_le Char.isDigit cs
        rw [h] at h₁
        exact h₁⟩
    | none => .error (.invalidNumber (String.ofList (sign ++ whole)))

/-- The string after its opening quote. -/
def string? (cs : List Char) : Except SyntaxError (Lexeme cs.length) :=
  match h : cs.dropWhile (· != '\x27') with
  | [] => .error .unterminatedString
  | _ :: rest =>
    .ok ⟨.string (String.ofList (cs.takeWhile (· != '\x27'))), rest, by
      have h₁ := length_dropWhile_le (· != '\x27') cs
      rw [h, List.length_cons] at h₁
      omega⟩

def ofSymbol? (c : Char) : Option Token :=
  match c with
  | '(' => some leftParen
  | ')' => some rightParen
  | ',' => some comma
  | ';' => some semicolon
  | '*' => some star
  | '=' => some equal
  | '.' => some dot
  | _ => none

/-- The lexeme that starts with `c` in the text `c :: cs`. -/
def lexeme? (c : Char) (cs : List Char) : Except SyntaxError (Lexeme cs.length) :=
  match ofSymbol? c with
  | some t => .ok ⟨t, cs, Nat.le_refl _⟩
  | none =>
    if Text.isWordStart c then
      .ok ⟨ofWord (c :: cs.takeWhile Text.isWordChar), cs.dropWhile Text.isWordChar,
        length_dropWhile_le _ cs⟩
    else if c.isDigit then number? false c cs
    else if c = '\x27' then string? cs
    else if c = '-' then
      match cs with
      | d :: ds =>
        if d.isDigit then
          (number? true d ds).map fun l => ⟨l.token, l.rest, Nat.le_succ_of_le l.rest_le⟩
        else .error (.invalidCharacter c)
      | [] => .error (.invalidCharacter c)
    else .error (.invalidCharacter c)

theorem length_lt_of_trimStart {cs r : List Char} {c : Char} (h : Text.trimStart cs = c :: r) :
    r.length < cs.length := by
  have := length_dropWhile_le Text.isBlank cs
  rw [Text.trimStart] at h
  rw [h, List.length_cons] at this
  omega

/-- The tokens of a text, closed by `eof`, or the first lexeme's error. -/
def scan (cs : List Char) : Except SyntaxError (List Token) :=
  match h : Text.trimStart cs with
  | [] => .ok [eof]
  | c :: r => do
    have := length_lt_of_trimStart h
    let l ← lexeme? c r
    let ts ← scan l.rest
    return l.token :: ts
termination_by cs.length
decreasing_by
  have := l.rest_le
  omega

def ofText (sql : String) : Except SyntaxError (List Token) :=
  scan sql.toList

example : (ofText "SELECT *").toOption = some [keyword .select, star, eof] := by decide +kernel

example : (ofText "a.b = -7,1.").toOption =
    some [ident "a", dot, ident "b", equal, number (-7), comma, float (.ofInt 1), eof] := by
  decide +kernel

end SqlStore.Token
