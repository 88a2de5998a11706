import SqlStore.Text.CharSet
import SqlStore.Text.Runs

/-!
# Blanks

The characters with the Unicode property `White_Space`, and the trimming of a text at its ends.
-/

namespace SqlStore.Text

def blank : CharSet where
  bounds := [
    0x9, 0xe, 0x20, 0x21, 0x85, 0x86, 0xa0, 0xa1, 0x1680, 0x1681, 0x2000, 0x200b, 0x2028,
    0x202a, 0x202f, 0x2030, 0x205f, 0x2060, 0x3000, 0x3001]

/-- A blank of any kind: spaces, tabs, line ends. -/
def isBlank (c : Char) : Bool :=
  blank.contains c

def trimStart (cs : List Char) : List Char :=
  cs.dropWhile isBlank

def trimEnd (cs : List Char) : List Char :=
  dropEndWhile isBlank cs

def trim (s : String) : String :=
  String.ofList (trimEnd (trimStart s.toList))

def isAllBlank (s : String) : Bool :=
  s.toList.all isBlank

def words (cs : List Char) : List (List Char) :=
  runs (fun c => !isBlank c) cs

theorem trimStart_eq_nil_iff (cs : List Char) :
    trimStart cs = [] ↔ ∀ c ∈ cs, isBlank c = true := by
  induction cs with
  | nil => simp [trimStart]
  | cons c cs ih =>
    rw [trimStart] at ih ⊢
    by_cases hc : isBlank c = true
    · simp [hc, ih]
    · simp [hc]

end SqlStore.Text
