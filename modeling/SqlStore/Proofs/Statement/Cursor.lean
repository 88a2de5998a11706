import SqlStore.Proofs.Statement.Reads
import SqlStore.Statement.Grammar

/-!
# Reading at a position

Another way to read a statement. The tokens stay in place, with an end of input as the last of them,
and a position moves over them one by one. It does not move on from the last token. Where a position
has no token, and where a loop has gone round too often, reading stops with an outcome of its own.
So it can be said of this way of reading, and not only of the other, that neither happens.
-/

namespace SqlStore

/-- Why reading at a position stops without a result. -/
inductive Halt where
  /-- The tokens are no statement. -/
  | refused (e : SyntaxError)
  /-- The position has no token. -/
  | outside (position : Nat)
  /-- A loop has gone round as often as it may. -/
  | endless

/-- Something to be read from a position on, and the position after it. -/
def Cursor (α : Type) : Type :=
  (tokens : List Token) → (position : Nat) → Except Halt (α × Nat)

namespace Cursor

variable {α β : Type}

instance : Monad Cursor where
  pure a := fun _ p => .ok (a, p)
  bind c f := fun ts p => c ts p >>= fun q => f q.1 ts q.2

theorem bind_eq (c : Cursor α) (f : α → Cursor β) (ts : List Token) (p : Nat) :
    (c >>= f) ts p = c ts p >>= fun q => f q.1 ts q.2 :=
  rfl

def halt (h : Halt) : Cursor α := fun _ _ => .error h

/-- The token at a position, which has to be one. -/
def tokenAt (ts : List Token) (p : Nat) : Except Halt Token :=
  match ts[p]? with
  | some t => .ok t
  | none => .error (.outside p)

def front : Cursor Token := fun ts p => (tokenAt ts p).map fun t => (t, p)

/-- The token behind the one at the position, or the last one. -/
def second : Cursor Token := fun ts p =>
  (tokenAt ts (min (p + 1) (ts.length - 1))).map fun t => (t, p)

/-- Moves on, but not from the last token. -/
def skip : Cursor Unit := fun ts p => .ok ((), if p < ts.length - 1 then p + 1 else p)

def fail (e : SyntaxError) : Cursor α := halt (.refused e)

def failExpecting (e : Expected) : Cursor α := do
  fail (.unexpected e (← front))

def oneOf (f : Token → Option α) (e : Expected) : Cursor α := do
  match f (← front) with
  | some a => skip; pure a
  | none => failExpecting e

def accept (t : Token) : Cursor Bool := do
  if (← front) = t then skip; pure true else pure false

def expectAs (t : Token) (e : Expected) : Cursor Unit := do
  if !(← accept t) then failExpecting e

def expect (t : Token) : Cursor Unit :=
  expectAs t (.token t)

/-- Reads one or more items with commas between them, in so many rounds at most. -/
def commaFold (item : β → Cursor β) : (rounds : Nat) → β → Cursor β
  | 0, _ => halt .endless
  | rounds + 1, b => do
    let b' ← item b
    if ← accept .comma then commaFold item rounds b' else pure b'

def commaList (item : Cursor α) (rounds : Nat) : Cursor (List α) :=
  commaFold (fun as => do return as ++ [← item]) rounds []

/-! ## The grammar

Part by part the grammar of the readers. The loops are given the number of their rounds.
-/

def name : Cursor String :=
  oneOf Token.name? .identifier

def literal : Cursor Value :=
  oneOf Token.literal? .literal

def columnRef : Cursor String := do
  let n ← name
  if ← accept .dot then name else pure n

def condition : Cursor (String × Value) := do
  let n ← name
  expect .equal
  return (n, ← literal)

def columnType : Cursor SqlType := do
  match ← front with
  | .ident s =>
    match SqlType.ofName? s with
    | some t => skip; pure t
    | none => fail (.unknownType s)
  | _ => failExpecting .columnType

def constraints : (rounds : Nat) → Column → Cursor Column
  | 0, _ => halt .endless
  | rounds + 1, c => do
    match ← front with
    | .keyword .primary =>
      skip
      expect (.keyword .key)
      constraints rounds { c with primaryKey := true }
    | .keyword .unique =>
      skip
      constraints rounds { c with unique := true }
    | .keyword .not =>
      skip
      expect .null
      constraints rounds { c with nullable := false }
    | .null =>
      skip
      constraints rounds { c with nullable := true }
    | _ => pure c

def column (rounds : Nat) : Cursor Column := do
  let n ← name
  let t ← columnType
  constraints rounds { name := n, type := t }

def nextColumn (rounds : Nat) (columns : List Column) : Cursor (List Column) := do
  let c ← column rounds
  if columns.any (·.name == c.name) then fail (.duplicateColumn c.name)
  else pure (columns ++ [c])

def createTableRest (rounds : Nat) : Cursor Statement := do
  let n ← name
  expect .leftParen
  let columns ← commaFold (nextColumn rounds) rounds []
  expectAs .rightParen .columnEnd
  return .createTable n columns

def insertRest (rounds : Nat) : Cursor Statement := do
  let table ← name
  expect (.keyword .values)
  expect .leftParen
  let values ← commaList literal rounds
  expect .rightParen
  return .insert table values

def projection (rounds : Nat) : Cursor Projection := do
  if ← accept .star then pure .all else return .named (← commaList columnRef rounds)

def join? : Cursor (Option Join) := do
  if ← accept (.keyword .join) then
    let table ← name
    expect (.keyword .on)
    let left ← columnRef
    expect .equal
    return some ⟨table, left, ← columnRef⟩
  else pure none

def where? : Cursor (Option Row) := do
  if ← accept (.keyword .where) then return some (Row.ofList [← condition]) else pure none

def selectRest (rounds : Nat) : Cursor Statement := do
  let columns ← projection rounds
  expect (.keyword .from)
  let table ← name
  let join ← join?
  return .select ⟨columns, table, join, ← where?⟩

def updateRest (rounds : Nat) : Cursor Statement := do
  let table ← name
  expect (.keyword .set)
  let assignments ← commaFold (fun (r : Row) => do
    let (n, v) ← condition
    return r.insert n v) rounds Row.empty
  expect (.keyword .where)
  let (keyColumn, key) ← condition
  return .update ⟨table, assignments, keyColumn, key⟩

def deleteRest : Cursor Statement := do
  let table ← name
  expect (.keyword .where)
  let (keyColumn, key) ← condition
  return .delete ⟨table, keyColumn, key⟩

def statement (rounds : Nat) : Cursor Statement := do
  match ← front, ← second with
  | .keyword .create, .keyword .table => skip; skip; createTableRest rounds
  | .keyword .insert, .keyword .into => skip; skip; insertRest rounds
  | .keyword .select, _ => skip; selectRest rounds
  | .keyword .update, _ => skip; updateRest rounds
  | .keyword .delete, .keyword .from => skip; skip; deleteRest
  | _, _ => fail .unsupportedStatement

/-- A statement with nothing after it but perhaps a semicolon. No loop goes round more than so many
times. -/
def whole (rounds : Nat) : Cursor Statement := do
  let s ← statement rounds
  let _ ← accept .semicolon
  let t ← front
  if t = .eof then pure s else fail (.trailingInput t)

end Cursor

/-- Tokens with an end of input as the last of them, put there if it is missing. -/
def Token.ended (ts : List Token) : List Token :=
  if ts.getLast? = some .eof then ts else ts ++ [.eof]

end SqlStore
