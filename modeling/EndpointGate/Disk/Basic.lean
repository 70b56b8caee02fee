import EndpointGate.Disk.Path
import EndpointGate.Sql.Table

/-! A tree of directories and files. A path is followed step by step, and each place that a step leaves
must be a directory. Links, rights and the room on the disk are left out: what is refused on their account
is given with the call that is refused. -/

namespace EndpointGate

inductive DiskFault
  | notFound
  | busy
  | exists
  | notDirectory
  | isDirectory
  | nulInPath
  | notText
  | other (reason : String)
  deriving DecidableEq, Repr

namespace DiskFault

def message : DiskFault → String
  | .notFound => "No such file or directory (os error 2)"
  | .busy => "Device or resource busy (os error 16)"
  | .exists => "File exists (os error 17)"
  | .notDirectory => "Not a directory (os error 20)"
  | .isDirectory => "Is a directory (os error 21)"
  | .nulInPath => "file name contained an unexpected NUL byte"
  | .notText => "stream did not contain valid UTF-8"
  | .other reason => reason

end DiskFault

inductive Content
  | text (s : String)
  | database (db : Sql.Database)

def Content.isEmpty : Content → Bool
  | .text s => s.isEmpty
  | .database _ => false

inductive Node
  | directory
  | file (c : Content)

abbrev Place := List String

structure Disk where
  nodes : List (Place × Node) := []
  workingDirectory : Place := []

inductive Deed
  | wrote (p : Place) (c : Content)
  | removed (p : Place)
  | moved (p q : Place)

/-- Why what is asked of a path is refused for a reason that is not in the tree. -/
abbrev Refusal := Disk → String → Option DiskFault

namespace Refusal

def never : Refusal := fun _ _ => none

def guard {α : Type} (refused : Refusal) (d : Disk) (path : String) (asked : Except DiskFault α) :
    Except DiskFault α :=
  match refused d path with
  | some fault => .error fault
  | none => asked

end Refusal

namespace Disk

def node? (d : Disk) (p : Place) : Option Node :=
  if p.isEmpty then some .directory else (d.nodes.find? fun n => n.1 == p).map (·.2)

def isDirectory (d : Disk) (p : Place) : Bool :=
  match d.node? p with
  | some .directory => true
  | _ => false

def hasOctets (d : Disk) (p : Place) : Bool :=
  match d.node? p with
  | some (.file c) => !c.isEmpty
  | _ => false

def remove (d : Disk) (p : Place) : Disk := { d with nodes := d.nodes.filter fun n => n.1 != p }

def put (d : Disk) (p : Place) (n : Node) : Disk :=
  { d with nodes := (p, n) :: (d.remove p).nodes }

def perform (d : Disk) : Deed → Disk
  | .wrote p c => d.put p (.file c)
  | .removed p => d.remove p
  | .moved p q =>
    match d.node? p with
    | some n => (d.remove p).put q n
    | none => d

def dropping (d : Disk) (p : Place) : List Deed := if d.hasOctets p then [.removed p] else []

def require (d : Disk) (p : Place) : Except DiskFault Unit :=
  match d.node? p with
  | some .directory => .ok ()
  | some (.file _) => .error .notDirectory
  | none => .error .notFound

def step (p : Place) (piece : List Char) : Place :=
  if Path.isIdle piece then p
  else if piece = ['.', '.'] then p.dropLast
  else p ++ [String.ofList piece]

def follow (d : Disk) (p : Place) : List (List Char) → Except DiskFault Place
  | [] => .ok p
  | piece :: rest => do
    d.require p
    d.follow (step p piece) rest

def start (d : Disk) (path : List Char) : Place :=
  if path.head? = some '/' then [] else d.workingDirectory

def locate (d : Disk) (path : String) : Except DiskFault Place :=
  let cs := path.toList
  if cs.contains '\x00' then .error .nulInPath
  else if cs.isEmpty then .error .notFound
  else d.follow (d.start cs) (Path.pieces cs)

/-- Where a path leads if what it names may be a directory yet to be made: separators at its end do
not count. -/
def locateNew (d : Disk) (path : String) : Except DiskFault Place :=
  let trimmed := (path.toList.reverse.dropWhile (· == '/')).reverse
  if trimmed.isEmpty && !path.isEmpty then .ok [] else d.locate (String.ofList trimmed)

def endsInName (path : String) : Bool :=
  match (Path.pieces (path.toList.reverse.dropWhile (· == '/')).reverse).getLast? with
  | some piece => !Path.isIdle piece && piece ≠ ['.', '.']
  | none => false

def readText (d : Disk) (path : String) : Except DiskFault String := do
  match d.node? (← d.locate path) with
  | none => throw .notFound
  | some .directory => throw .isDirectory
  | some (.file (.text s)) => return s
  | some (.file (.database _)) => throw .notText

def makeDirectory (d : Disk) (path : String) (refused : Refusal := .never) : Except DiskFault Disk :=
  refused.guard d path do
    let p ← d.locateNew path
    match d.node? p with
    | some _ => throw .exists
    | none => return d.put p .directory

def hasDirectory (d : Disk) (path : String) : Bool :=
  match d.locate path with
  | .ok p => d.isDirectory p
  | .error _ => false

/-- Makes a directory and those above it that are missing; `fuel` bounds how many. What has been made
stays if a later one cannot be. -/
def makeDirectories (refused : Refusal) : Nat → Disk → String → Except DiskFault Unit × Disk
  | 0, d, _ => (.error .notFound, d)
  | fuel + 1, d, path =>
    if path.isEmpty then (.ok (), d)
    else match d.makeDirectory path refused with
      | .ok d => (.ok (), d)
      | .error fault =>
        if fault = .notFound then
          match Path.parent? path with
          | none => (.error .notFound, d)
          | some above => match makeDirectories refused fuel d above with
            | (.error fault, d) => (.error fault, d)
            | (.ok (), d) => match d.makeDirectory path refused with
              | .ok d => (.ok (), d)
              | .error fault => if d.hasDirectory path then (.ok (), d) else (.error fault, d)
        else if d.hasDirectory path then (.ok (), d) else (.error fault, d)

def makeAll (d : Disk) (path : String) (refused : Refusal := .never) : Except DiskFault Unit × Disk :=
  makeDirectories refused (path.length + 1) d path

def removeFile (d : Disk) (path : String) (refused : Refusal := .never) : Except DiskFault Disk :=
  refused.guard d path do
    let p ← d.locate path
    match d.node? p with
    | none => throw .notFound
    | some .directory => throw .isDirectory
    | some (.file _) => return d.remove p

def removeIfPresent (d : Disk) (path : String) (refused : Refusal := .never) : Except DiskFault Disk :=
  match d.removeFile path refused with
  | .error .notFound => .ok d
  | r => r

def rename (d : Disk) (source target : String) (refused : Refusal := .never) : Except DiskFault Disk :=
  refused.guard d target do
    let p ← d.locate source
    let q ← d.locateNew target
    unless endsInName target do throw .busy
    let some (.file c) := d.node? p | throw .notFound
    if target.toList.getLast? = some '/' then throw .notDirectory
    match d.node? q with
    | some .directory => throw .isDirectory
    | _ => if p = q then return d else return (d.remove p).put q (.file c)

/-- How many octets a file holds. A database takes a page for itself and one for each table and each
index. -/
def size (c : Content) : Nat :=
  match c with
  | .text s => s.utf8ByteSize
  | .database db => 4096 * (db.map fun t => 1 + t.indexes.length).foldl (· + ·) 1

def listing (d : Disk) (p : Place) : List String :=
  let below := d.nodes.filterMap fun (q, n) =>
    if p.isPrefixOf q && q.length ≠ p.length then
      let path := "/".intercalate (q.drop p.length)
      some (match n with
        | .directory => path ++ "/"
        | .file _ => path)
    else none
  below.mergeSort fun a b => a ≤ b

end Disk

end EndpointGate
