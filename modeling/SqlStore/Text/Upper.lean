/-!
# Uppercase forms

Keywords and type names are compared by uppercase form. Only forms made of ASCII letters matter
there, so this is the full uppercase mapping cut down to them: the ASCII letters, and the ten
other characters whose uppercase form is a string of ASCII letters. Every other character stands
for itself, which equals no ASCII letter.
-/

namespace SqlStore.Text

/-- The uppercase form of a character where it consists of ASCII letters, else the character. -/
def upperChar (c : Char) : List Char :=
  match c with
  | '\u00df' => ['S', 'S']
  | '\u0131' => ['I']
  | '\u017f' => ['S']
  | '\ufb00' => ['F', 'F']
  | '\ufb01' => ['F', 'I']
  | '\ufb02' => ['F', 'L']
  | '\ufb03' => ['F', 'F', 'I']
  | '\ufb04' => ['F', 'F', 'L']
  | '\ufb05' => ['S', 'T']
  | '\ufb06' => ['S', 'T']
  | c => [c.toUpper]

def upper (w : List Char) : List Char :=
  w.flatMap upperChar

/-- The lowercase form of a text as far as ASCII letters go. -/
def lower (w : List Char) : List Char :=
  w.map Char.toLower

end SqlStore.Text
