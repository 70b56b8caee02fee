import EndpointGate.Disk.Basic
import EndpointGate.Store.Open

/-! Stores on a disk. A store's path is cleared of `.` and `..` as it is written, before it is
followed. A file of a store holds all that has been committed: the journal and the log that stand beside
it while it is written are left out, as are names that start with `file:` and are read as URIs. -/

namespace EndpointGate

inductive Companion
  | journal
  | log
  | index
  deriving DecidableEq, Repr

namespace Companion

def suffix : Companion → String
  | .journal => "-journal"
  | .log => "-wal"
  | .index => "-shm"

def place (k : Companion) (p : Place) : Place := p.dropLast ++ [p.getLastD "" ++ k.suffix]

end Companion

namespace Disk

/-- The place of a store: a `..` takes back the name before it, whether or not that is there. -/
def storePlace (d : Disk) (path : String) : Place :=
  (Path.pieces path.toList).foldl step (d.start path.toList)

def hasParent (d : Disk) (p : Place) : Bool := d.isDirectory p.dropLast

def mediumAt (d : Disk) (path : String) : Medium :=
  if path.toList.contains '\x00' then .unopenable DiskFault.nulInPath.message
  else if path.isEmpty || path = ":memory:" then .fleeting
  else
    let p := d.storePlace path
    if !d.hasParent p then .unopenable "unable to open database file"
    else match d.node? p with
      | some .directory => .unopenable "unable to open database file"
      | some (.file (.database db)) => .database db
      | some (.file (.text s)) => if s.isEmpty then .database [] else .foreign
      | none => .database []

def storeAt (d : Disk) (path : String) (lock : Option Lock) : Store :=
  { path, medium := d.mediumAt path, lock }

def touching (d : Disk) (s : Store) : List Deed :=
  match s.medium, d.node? (d.storePlace s.path) with
  | .database _, none => [.wrote (d.storePlace s.path) (.text "")]
  | _, _ => []

def touch (d : Disk) (s : Store) : Disk := (d.touching s).foldl perform d

/-- The disk with a store as it has become. Nothing is written to a file with nothing in it as long as
there are no tables. -/
def keep (d : Disk) (s : Store) : Disk :=
  match s.medium with
  | .database db =>
    if db.isEmpty && !d.hasOctets (d.storePlace s.path) then d.touch s
    else d.put (d.storePlace s.path) (.file (.database db))
  | _ => d

def openStore (d : Disk) (path : String) (lock : Option Lock) : Except StoreError Unit × Disk :=
  let (r, s) := (d.storeAt path lock).open?
  (r, d.keep s)

end Disk

end EndpointGate
