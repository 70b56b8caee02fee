import EndpointGate.Sql.Connection
import EndpointGate.Store.Error

/-! The place where tables are kept, and connections to it. -/

namespace EndpointGate

inductive Lock
  | reserved
  | exclusive
  deriving DecidableEq, Repr

inductive Medium
  | unopenable (reason : String)
  | foreign
  /-- Nothing that lasts: each connection starts with no tables and leaves none behind. -/
  | fleeting
  | database (db : Sql.Database)

structure Store where
  path : String
  medium : Medium
  lock : Option Lock := none

namespace Store

def longestWait : Nat := 2147483647

def accessUnder : Option Lock → Sql.Access
  | none => .full
  | some .reserved => .reading
  | some .exclusive => .denied .locked

def connect (s : Store) : Except StoreError Sql.Connection :=
  match s.medium with
  | .unopenable reason => .error (.cannotOpen s.path reason)
  | .foreign => .ok { committed := [], working := [], access := .denied .notADatabase }
  | .fleeting => .ok { committed := [], working := [] }
  | .database db => .ok { committed := db, working := db, access := accessUnder s.lock }

/-- The store when a connection has ended; a transaction that is still under way leaves nothing. -/
def closing (s : Store) (c : Sql.Connection) : Store :=
  match s.medium with
  | .database _ => { s with medium := .database c.committed }
  | _ => s

def tables (s : Store) : Sql.Database :=
  match s.medium with
  | .database db => db
  | _ => []

def runScript (s : Store) (text : String) : Except StoreError Unit × Store :=
  match s.connect with
  | .error e => (.error e, s)
  | .ok c =>
    let (r, c) := c.runScript text
    (r.mapError .sql, s.closing c)

end Store

end EndpointGate
