/-!
# Form data in a query string

A query string is a list of fields `name=value` between ampersands. A plus stands for a space and
a percent sign with two hexadecimal digits for a byte; any other percent sign stands for itself.
The bytes are read as UTF-8, and every ill-formed stretch becomes one replacement character.
-/

namespace SqlStore.Form

def bytes (s : String) : List UInt8 :=
  s.toUTF8.toList

def hexValue? (b : UInt8) : Option Nat :=
  let c := Char.ofNat b.toNat
  if c.isDigit then some (c.toNat - 48)
  else if 'a' ≤ c ∧ c ≤ 'f' then some (c.toNat - 87)
  else if 'A' ≤ c ∧ c ≤ 'F' then some (c.toNat - 55)
  else none

/-- Pluses and percent signs replaced by what they stand for. -/
def decodeBytes : List UInt8 → List UInt8
  | [] => []
  | 0x2b :: bs => 0x20 :: decodeBytes bs
  | 0x25 :: a :: b :: bs =>
    match hexValue? a, hexValue? b with
    | some h, some l => UInt8.ofNat (16 * h + l) :: decodeBytes bs
    | _, _ => 0x25 :: decodeBytes (a :: b :: bs)
  | b :: bs => b :: decodeBytes bs

/-- The character in place of what is not UTF-8. -/
def replacement : Char := '\ufffd'

def isContinuation (b : UInt8) : Bool :=
  0x80 ≤ b && b ≤ 0xbf

/-- How many bytes continue a character that starts with `b`, and the least and greatest second
byte; `none` if no character of several bytes starts with it. The bounds leave out overlong forms,
surrogates and what lies past the last code point. -/
def lead? (b : UInt8) : Option (Nat × UInt8 × UInt8) :=
  if 0xc2 ≤ b && b ≤ 0xdf then some (1, 0x80, 0xbf)
  else if b == 0xe0 then some (2, 0xa0, 0xbf)
  else if b == 0xed then some (2, 0x80, 0x9f)
  else if 0xe1 ≤ b && b ≤ 0xef then some (2, 0x80, 0xbf)
  else if b == 0xf0 then some (3, 0x90, 0xbf)
  else if 0xf1 ≤ b && b ≤ 0xf3 then some (3, 0x80, 0xbf)
  else if b == 0xf4 then some (3, 0x80, 0x8f)
  else none

def assemble (first : UInt8) (more : List UInt8) : Char :=
  let start := first.toNat % Nat.pow 2 (6 - more.length)
  Char.ofNat (more.foldl (fun n b => n * 64 + b.toNat % 64) start)

/-- The character at the front of the bytes `b :: bs` and the bytes after it. The longest beginning
of a character that the text breaks off is replaced as a whole; a byte that begins none is
replaced alone. -/
def nextChar (b : UInt8) (bs : List UInt8) : Char × List UInt8 :=
  if b < 0x80 then (Char.ofNat b.toNat, bs)
  else
    match lead? b, bs with
    | some (n, least, greatest), second :: rest =>
      if least ≤ second && second ≤ greatest then
        let more := (rest.take (n - 1)).takeWhile isContinuation
        (if more.length = n - 1 then assemble b (second :: more) else replacement,
          rest.drop more.length)
      else (replacement, bs)
    | _, _ => (replacement, bs)

theorem length_nextChar_le (b : UInt8) (bs : List UInt8) :
    (nextChar b bs).2.length ≤ bs.length := by
  unfold nextChar
  split
  · exact Nat.le_refl _
  · split
    · split
      · simp only [List.length_drop, List.length_cons]
        omega
      · exact Nat.le_refl _
    · exact Nat.le_refl _

def decodeUtf8 : List UInt8 → List Char
  | [] => []
  | b :: bs => (nextChar b bs).1 :: decodeUtf8 (nextChar b bs).2
termination_by bs => bs.length
decreasing_by exact Nat.lt_succ_of_le (length_nextChar_le b bs)

def decode (bs : List UInt8) : String :=
  String.ofList (decodeUtf8 (decodeBytes bs))

def splitOn (separator : UInt8) : List UInt8 → List (List UInt8)
  | [] => [[]]
  | b :: bs =>
    if b = separator then [] :: splitOn separator bs
    else
      match splitOn separator bs with
      | [] => [[b]]
      | part :: parts => (b :: part) :: parts

/-- The fields of a query string. A field without an equals sign has an empty value; empty parts
are no fields. -/
def fields (query : String) : List (String × String) :=
  ((splitOn 0x26 (bytes query)).filter fun part => !part.isEmpty).map fun part =>
    (decode (part.takeWhile (· != 0x3d)), decode ((part.dropWhile (· != 0x3d)).drop 1))

end SqlStore.Form
