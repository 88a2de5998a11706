import SqlStore.Text.Bytes
import SqlStore.Text.Cluster

/-!
# Backspaces

A line that was not typed at a terminal may still hold backspaces. Each takes back the cluster that
was entered last and not taken back yet; where there is none it does nothing. The clusters are
those of the whole line, so what a backspace brings together does not grow into one. The size of a
cluster is kept in one byte, so that of a cluster of 256 bytes or more only the remainder goes, and
if the remainder ends within a character, the line cannot be restored.
-/

namespace SqlStore.Text

structure Entered where
  /-- The text, its last character first. -/
  reversed : List Char
  /-- The sizes of the clusters that can be taken back, the last one first. -/
  sizes : List Nat

def Entered.add? (e : Entered) (cluster : List Char) : Option Entered :=
  if cluster = ['\x08'] then
    match e.sizes with
    | [] => some e
    | n :: sizes => (dropBytes? n e.reversed).map fun r => ⟨r, sizes⟩
  else some ⟨cluster.reverse ++ e.reversed, byteSize cluster % 256 :: e.sizes⟩

/-- The line that is left when its backspaces have done their work. -/
def applyBackspaces? (line : String) : Option String :=
  ((clusters line.toList).foldlM Entered.add? ⟨[], []⟩).map fun e =>
    String.ofList e.reversed.reverse

example : applyBackspaces? "ab\x08c" = some "ac" := by decide +kernel

end SqlStore.Text
