import SqlStore.Text.GraphemeExtend
import SqlStore.Text.Unprintable

/-!
# A character in single quotes

How a character is shown in a message: in single quotes, with short escapes for the usual
controls, the quote and the backslash, and the code point in lowercase hexadecimal for a
character that cannot be shown alone.
-/

namespace SqlStore.Text

/-- The code point in lowercase hexadecimal, without leading zeros, between braces. -/
def codePointEscape (c : Char) : List Char :=
  ['\\', 'u', '\x7b'] ++ Nat.toDigits 16 c.toNat ++ ['\x7d']

/-- What stands between the quotes for one character. -/
def escapeChar (c : Char) : List Char :=
  match c with
  | '\x00' => ['\\', '0']
  | '\t' => ['\\', 't']
  | '\r' => ['\\', 'r']
  | '\n' => ['\\', 'n']
  | '\x27' => ['\\', '\x27']
  | '\\' => ['\\', '\\']
  | c => if isGraphemeExtend c || isUnprintable c then codePointEscape c else [c]

def quoteChar (c : Char) : String :=
  String.ofList ('\x27' :: escapeChar c ++ ['\x27'])

end SqlStore.Text
