import EndpointGate.Sql.Change
import EndpointGate.Sql.Reading.Statement
import EndpointGate.Sql.Resolution.Statement

/-! A connection: the tables as they are kept, and as the transaction under way has made them. -/

namespace EndpointGate.Sql

inductive Access
  | full
  | reading
  | denied (reason : Failure)
  deriving DecidableEq

namespace Access

def read : Access → Except Failure Unit
  | .denied reason => .error reason
  | _ => .ok ()

def write : Access → Except Failure Unit
  | .full => .ok ()
  | .reading => .error .locked
  | .denied reason => .error reason

end Access

structure Connection where
  committed : Database
  working : Database
  inTransaction : Bool := false
  changes : Nat := 0
  lastId : Int := 0
  access : Access := .full

structure Prepared where
  action : Action
  parameters : Parameters

namespace Prepared

def columnNames (p : Prepared) : List String := p.action.output.map Output.name

/-- A statement changes something or has no result columns unless it only reads. -/
def isReadOnly (p : Prepared) : Bool := p.action.isReadOnly

end Prepared

abbrev Bindings := List (Nat × Value)

def Bindings.value (b : Bindings) (slot : Nat) : Value :=
  ((b.find? (·.1 == slot)).map (·.2)).getD .null

namespace Connection

def ofDatabase (db : Database) : Connection := { committed := db, working := db }

def resolve (c : Connection) (s : Statement) : Except Failure Action := do
  if s.namesTables then c.access.read
  c.working.resolve s

def prepare (c : Connection) (text : String) : Except Failure Prepared := do
  let (statement, parameters) ← parse text
  return ⟨← c.resolve statement, parameters⟩

def settled (c : Connection) : Connection :=
  if c.inTransaction then c else { c with committed := c.working }

def begin (c : Connection) : Except Failure Connection :=
  if c.inTransaction then .error .nestedTransaction else .ok { c with inTransaction := true }

def commit (c : Connection) : Except Failure Connection :=
  if c.inTransaction then .ok { c with committed := c.working, inTransaction := false }
  else .error .noTransaction

def rollback (c : Connection) : Except Failure Connection :=
  if c.inTransaction then .ok { c with working := c.committed, inTransaction := false }
  else .error .noTransaction

def accept (c : Connection) (e : Effect) : Connection :=
  settled { c with working := e.db, changes := e.changes.getD c.changes
                   lastId := e.lastId.getD c.lastId }

def stopped (c : Connection) (s : Stop) (kept : Option Database) : Connection :=
  if s.conflict = .rollback then { c with working := c.committed, inTransaction := false }
  else match kept with
    | some db => settled { c with working := db }
    | none => c

def perform (c : Connection) (a : Action) (b : Bindings) :
    Except Failure (List (List Value)) × Connection :=
  let plain := fun (r : Except Failure Connection) => match r with
    | .ok c => (.ok [], c)
    | .error f => (.error f, c)
  match a with
  | .begin _ => plain c.begin
  | .commit => plain c.commit
  | .rollback => plain c.rollback
  | a => match a.perform c.working b.value with
    | .done e => (.ok e.rows, c.accept e)
    | .stopped s kept => (.error s.failure, c.stopped s kept)

def run (c : Connection) (a : Action) (b : Bindings) :
    Except Failure (List (List Value)) × Connection :=
  match if a.writes then c.access.write else .ok () with
  | .ok () => c.perform a b
  | .error f => (.error f, c)

def runStatement (c : Connection) (s : Statement) (b : Bindings) :
    Except Failure (List (List Value)) × Connection :=
  match c.resolve s with
  | .ok a => c.run a b
  | .error f => (.error f, c)

def runStatements (c : Connection) : List Statement → Except Failure Unit × Connection
  | [] => (.ok (), c)
  | s :: rest => match c.runStatement s [] with
    | (.ok _, c) => runStatements c rest
    | (.error f, c) => (.error f, c)

def runAll (fuel : Nat) (c : Connection) (text : String) : Except Failure Unit × Connection :=
  match fuel with
  | 0 => (.ok (), c)
  | fuel + 1 =>
    if text.isEmpty then (.ok (), c)
    else match c.prepare text with
      | .error f => (.error f, c)
      | .ok p => match p.action with
        | .empty => runAll fuel c (Source.remainder text)
        | a => match c.run a [] with
          | (.ok _, c) => runAll fuel c (Source.remainder text)
          | (.error f, c) => (.error f, c)

def runScript (c : Connection) (text : String) : Except Failure Unit × Connection :=
  c.runAll (text.length + 1) text

end Connection

end EndpointGate.Sql
