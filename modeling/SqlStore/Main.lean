import SqlStore.CommandLine

/-!
# The program

Reads the command line and talks to the terminal. Everything that is decided is decided in
`CommandLine` and `Session`.
-/

namespace SqlStore.CommandLine

/-- Reads and answers lines until the session or the input ends. -/
def runSession : IO UInt32 := do
  let input ← IO.getStdin
  let output ← IO.getStdout
  output.putStrLn Session.banner
  let mut db := Database.empty
  repeat
    output.putStr Session.prompt
    output.flush
    let line ← input.getLine
    if line.isEmpty then break
    match Session.enter? db line with
    | none =>
      IO.eprintln "a backspace ends within a character"
      return Session.breakdownCode.toUInt32
    | some (.exit, _) => break
    | some (.nothing, after) => db := after
    | some (.output text, after) =>
      db := after
      output.putStr (Session.printed text)
  output.flush
  return 0

def refuseLogFilter : IO UInt32 := do
  IO.eprintln "a part of the log filter ends within a character"
  return Session.breakdownCode.toUInt32

/-- Does what the arguments ask for and gives the code to exit with. -/
def run (args : List String) : IO UInt32 := do
  match parse args with
  | .shell log => if LogFilter.isUsable log then runSession else refuseLogFilter
  | .serve log _ _ =>
    if LogFilter.isUsable log then
      IO.eprintln "this program has no listener"
      return 1
    else refuseLogFilter
  | .explain topic =>
    IO.print topic.text
    return 0
  | .usageError =>
    IO.eprintln "usage: rdbms [OPTIONS] [COMMAND]"
    return 2

end SqlStore.CommandLine

def main (args : List String) : IO UInt32 :=
  SqlStore.CommandLine.run args
