import SqlStore.LogFilter
import SqlStore.Session

/-!
# The command line

The program runs a session, which it also does without a command, serves requests, or explains
itself. The arguments are taken from left to right, and the first one that does not fit, or an
option given twice at one level, makes the whole line a usage error; help that is asked for before
that is given. A value that stands apart from its option is looked at one argument late. The log
filter is read after the arguments, and the program breaks down on one that it cannot use.
-/

namespace SqlStore.CommandLine

inductive Topic where
  | program
  | shell
  | serve
  | help
  deriving DecidableEq

inductive Action where
  | shell (log : String)
  | serve (log host : String) (portNumber : Nat)
  | explain (topic : Topic)
  | usageError
  deriving DecidableEq

/-- A number from 0 to 255 without leading zeroes. -/
def isOctet (s : String) : Bool :=
  let ds := s.toList
  !ds.isEmpty && ds.length ≤ 3 && ds.all Char.isDigit && Nat.ofDigitChars 10 ds 0 ≤ 255 &&
    (ds.length == 1 || ds.head? != some '0')

/-- Four octets between points. -/
def isIPv4 (s : String) : Bool :=
  let parts := s.splitOn "."
  parts.length == 4 && parts.all isOctet

/-- One to four hexadecimal digits. -/
def isHexGroup (s : String) : Bool :=
  let ds := s.toList
  !ds.isEmpty && ds.length ≤ 4 && ds.all fun c =>
    c.isDigit || ('a' ≤ c && c ≤ 'f') || ('A' ≤ c && c ≤ 'F')

/-- How many groups of sixteen bits a list of groups makes up; at its end the last two may be
written as four octets, if `octets` allows it. -/
def groupCount? (octets : Bool) : List String → Option Nat
  | [] => some 0
  | [g] => if isHexGroup g then some 1 else if octets && isIPv4 g then some 2 else none
  | g :: gs => if isHexGroup g then (groupCount? octets gs).map (· + 1) else none

def groups (s : String) : List String :=
  if s = "" then [] else s.splitOn ":"

/-- Eight groups, or fewer with one gap written as two colons. -/
def isIPv6 (s : String) : Bool :=
  match s.splitOn "::" with
  | [a] => groupCount? true (groups a) == some 8
  | [a, b] =>
    match groupCount? false (groups a), groupCount? true (groups b) with
    | some m, some n => m + n ≤ 7
    | _, _ => false
  | _ => false

/-- A number from 0 to 65535 with an optional sign. -/
def portNumber? (s : String) : Option Nat :=
  let (negative, ds) := Binary64.splitSign s.toList
  if ds.isEmpty || !ds.all Char.isDigit then none
  else
    let n := Nat.ofDigitChars 10 ds 0
    if n ≤ 65535 ∧ (negative → n = 0) then some n else none

/-- The options given so far at one level, and the log filter of the level around it. -/
structure Options where
  inheritedLog : String := "rdbms=warn,tower_http=info"
  log : Option String := none
  host : Option String := none
  portNumber : Option Nat := none

def Options.effectiveLog (o : Options) : String :=
  o.log.getD o.inheritedLog

/-- The option that an argument names, with a value attached to it. -/
def splitOption (arg : String) : Option (String × Option String) :=
  match arg.toList with
  | '-' :: '-' :: c :: cs =>
    let name := String.ofList ('-' :: '-' :: (c :: cs).takeWhile (· != '='))
    match (c :: cs).dropWhile (· != '=') with
    | [] => some (name, none)
    | _ :: v => some (name, some (String.ofList v))
  | ['-'] => none
  | '-' :: c :: cs =>
    if c = '-' then none
    else
      let v :=
        match cs with
        | [] => none
        | '=' :: v => some (String.ofList v)
        | v => some (String.ofList v)
      some (String.ofList ['-', c], v)
  | _ => none

/-- An argument that can be the value of the option before it. -/
def isPlain (arg : String) : Bool :=
  arg = "-" || arg.toList.head? != some '-'

def knowsOption (serving : Bool) (name : String) : Bool :=
  name == "--log" || (serving && (name == "--host" || name == "--port" || name == "-p"))

/-- The options with one more, where the level knows it, it is new there and its value fits. -/
def Options.set? (o : Options) (serving : Bool) (name value : String) : Option Options :=
  match name with
  | "--log" => if o.log.isNone then some { o with log := some value } else none
  | "--host" =>
    if serving && o.host.isNone && (isIPv4 value || isIPv6 value) then
      some { o with host := some value }
    else none
  | "--port" | "-p" =>
    if serving && o.portNumber.isNone then
      (portNumber? value).map fun n => { o with portNumber := some n }
    else none
  | _ => none

def finish (topic : Topic) (o : Options) : Action :=
  if topic = .serve then
    .serve o.effectiveLog (o.host.getD "127.0.0.1") (o.portNumber.getD 5000)
  else .shell o.effectiveLog

/-- What is asked for where an option has refused its value and these arguments follow. A value that
is an argument of its own is not looked at before the argument behind it, so a command there still
gives its help. -/
def afterRefusal (command? : String → List String → Option Action) : List String → Action
  | [] => .usageError
  | name :: args =>
    match command? name args with
    | some (.explain topic) => .explain topic
    | _ => .usageError

/-- The arguments of a level with its topic; a command among them is taken by `command?`, which is
told the log filter. -/
def parseLevel (topic : Topic) (command? : String → String → List String → Option Action)
    (o : Options) : List String → Action
  | [] => finish topic o
  | "--" :: args => if args.isEmpty then finish topic o else .usageError
  | arg :: args =>
    match splitOption arg with
    | none => (command? o.effectiveLog arg args).getD .usageError
    | some ("-h", _) | some ("--help", none) => .explain topic
    | some (name, some value) =>
      match o.set? (topic = .serve) name value with
      | some o => parseLevel topic command? o args
      | none => .usageError
    | some (name, none) =>
      match args with
      | [] => .usageError
      | value :: args =>
        if isPlain value && knowsOption (topic = .serve) name then
          match o.set? (topic = .serve) name value with
          | some o => parseLevel topic command? o args
          | none => afterRefusal (command? o.effectiveLog) args
        else .usageError

/-- A command of the program with its arguments, under a log filter. -/
def command? (inheritedLog name : String) (args : List String) : Option Action :=
  match name with
  | "shell" => some (parseLevel .shell (fun _ _ _ => none) { inheritedLog } args)
  | "serve" => some (parseLevel .serve (fun _ _ _ => none) { inheritedLog } args)
  | "help" =>
    match args with
    | [] => some (.explain .program)
    | ["shell"] => some (.explain .shell)
    | ["serve"] => some (.explain .serve)
    | ["help"] => some (.explain .help)
    | _ => none
  | _ => none

def parse (args : List String) : Action :=
  parseLevel .program command? {} args

def Topic.text : Topic → String
  | program =>
    "\n".intercalate [
      "A small in-memory relational database",
      "",
      "Usage: rdbms [OPTIONS] [COMMAND]",
      "",
      "Commands:",
      "  shell  Start the interactive shell (default)",
      "  serve  Serve the HTTP API",
      "  help   Print this message or the help of the given subcommand(s)",
      "",
      "Options:",
      "      --log <LOG>  Default log filter, overridden by RUST_LOG " ++
        "[default: rdbms=warn,tower_http=info]",
      "  -h, --help       Print help",
      ""]
  | shell =>
    "\n".intercalate [
      "Start the interactive shell (default)",
      "",
      "Usage: rdbms shell [OPTIONS]",
      "",
      "Options:",
      "      --log <LOG>  Default log filter, overridden by RUST_LOG " ++
        "[default: rdbms=warn,tower_http=info]",
      "  -h, --help       Print help",
      ""]
  | serve =>
    "\n".intercalate [
      "Serve the HTTP API",
      "",
      "Usage: rdbms serve [OPTIONS]",
      "",
      "Options:",
      "      --host <HOST>  Address to bind [default: 127.0.0.1]",
      "      --log <LOG>    Default log filter, overridden by RUST_LOG " ++
        "[default: rdbms=warn,tower_http=info]",
      "  -p, --port <PORT>  Port to listen on [default: 5000]",
      "  -h, --help         Print help",
      ""]
  | help =>
    "\n".intercalate [
      "Print this message or the help of the given subcommand(s)",
      "",
      "Usage: rdbms help [COMMAND]...",
      "",
      "Arguments:",
      "  [COMMAND]...  Print help for the subcommand(s)",
      ""]

/-- The lines of an input; what follows the last line end is a line if it is not empty. -/
def lines (input : String) : List String :=
  let parts := input.splitOn "\n"
  if parts.getLast? = some "" then parts.dropLast else parts

/-- What the program prints and the code it exits with when it reads `input`. Requests are not
served from here. -/
def respond (args : List String) (input : String) : Nat × String :=
  match parse args with
  | .shell log =>
    if LogFilter.isUsable log then
      (Session.transcript .empty (lines input)).map id (Session.banner ++ "\n" ++ ·)
    else (Session.breakdownCode, "")
  | .serve log _ _ => (if LogFilter.isUsable log then 1 else Session.breakdownCode, "")
  | .explain topic => (0, topic.text)
  | .usageError => (2, "")

end SqlStore.CommandLine
