import EndpointGate.Command.Arguments
import EndpointGate.Command.Run
import EndpointGate.Disk.Image
import Std.Time.DateTime.Timestamp

/-! The command line. What a command may touch of the file system is read before it runs, and what it
has changed is written afterwards. No listener can be had here, so that serving ends as soon as it has
been prepared. -/

namespace EndpointGate.CommandLine

def usage : String :=
  "Usage: sqlgate <COMMAND>\n\n" ++
  "Commands:\n" ++
  "  init      Create the database file and the endpoint table\n" ++
  "  serve     Start the HTTP gateway\n" ++
  "  register  Register an endpoint without going through HTTP\n" ++
  "  backup    Write a backup of the database now\n" ++
  "  help      Print this message\n\n" ++
  "Options:\n" ++
  "  -h, --help     Print help\n" ++
  "  -V, --version  Print version\n"

def complaint : Misuse → String
  | .helpWanted | .versionWanted | .noVerb => ""
  | .unknownVerb word => "error: unrecognized subcommand '" ++ word ++ "'\n\n"
  | .unknownArgument word => "error: unexpected argument '" ++ word ++ "' found\n\n"
  | .noValue name => "error: a value is required for '--" ++ name ++ "' but none was supplied\n\n"
  | .extraValue name => "error: unexpected value for '--" ++ name ++ "' found\n\n"
  | .repeated name => "error: the argument '--" ++ name ++ "' cannot be used multiple times\n\n"
  | .invalidPort text => "error: invalid value '" ++ text ++ "' for '--port'\n\n"
  | .missing name => "error: the required argument '--" ++ name ++ "' was not provided\n\n"

def explain (m : Misuse) : IO Unit :=
  match m with
  | .helpWanted => IO.print usage
  | .versionWanted => IO.println (Http.programName ++ " " ++ Http.programVersion)
  | m => IO.eprint (complaint m ++ usage)

def pathOf (p : Place) : String := "/" ++ "/".intercalate p

def places (d : Disk) (path : String) : List Place :=
  let start := d.start path.toList
  let steps := (Path.pieces path.toList).foldl
    (fun (seen : List Place) piece => Disk.step (seen.headD start) piece :: seen) [start]
  (steps.flatMap fun p => (List.range p.length).map fun n => p.take (n + 1)).eraseDups

def nodeAt (p : Place) : IO (Option Node) := do
  let here := (← IO.currentDir) / pathOf p
  if ← here.isDir then return some .directory
  if ← here.pathExists then
    return some (.file (Image.content (Text.shown (← IO.FS.readBinFile here))))
  return none

def look (d : Disk) (ps : List Place) : IO Disk :=
  ps.foldlM (fun d p => do
    if (d.node? p).isSome then return d
    match ← nodeAt p with
    | some n => return d.put p n
    | none => return d) d

def pathsOf (c : Config) : List String :=
  match c.backupPath with
  | none => [c.databasePath]
  | some target =>
    let sibling := (Backup.mk c.databasePath target).sibling
    [c.databasePath, target, sibling] ++
      [Companion.journal, Companion.log].map fun k => sibling ++ k.suffix

def textAt (d : Disk) (p : Place) : Option String :=
  match d.node? p with
  | some (.file c) => some (Image.ofContent c)
  | _ => none

def write (before after : Disk) (p : Place) : IO Unit := do
  let path := pathOf p
  if after.isDirectory p then
    unless before.isDirectory p do IO.FS.createDirAll path
  else match textAt after p with
    | some text => if textAt before p ≠ some text then IO.FS.writeFile path text
    | none => if (textAt before p).isSome then IO.FS.removeFile path

def surroundings : IO Surroundings := do
  let now ← Std.Time.Timestamp.now
  return { now := Timestamp.ofSeconds now.toSecondsSinceUnixEpoch.val.toNat
           listen := fun _ => .error (.other "no listener can be had") }

def run (c : Command) : IO UInt32 := do
  let here := (← IO.currentDir).toString
  let d ← look { workingDirectory := ((here.splitOn "/").filter (!·.isEmpty)) } []
  let d ← look d (places d c.config)
  let touched := match Config.load d c.config with
    | .ok config => (pathsOf config).flatMap (places d)
    | .error _ => []
  let d ← look d (places d "." ++ touched)
  let (result, w) := c.run (← surroundings) { disk := d, journal := {} }
  for p in touched.mergeSort fun a b => a.length ≤ b.length do write d w.disk p
  for e in w.journal.entries.reverse do
    if e.toErrorStream then IO.eprint e.text else IO.print e.text
  match result with
  | .ok () => return 0
  | .error (.refused e) =>
    IO.eprintln e.display
    return e.exitStatus.toUInt32
  | .error (.broken b) =>
    IO.eprintln b.message
    return 101

end EndpointGate.CommandLine

def main (args : List String) : IO UInt32 :=
  match EndpointGate.Arguments.read args with
  | .ok c => EndpointGate.CommandLine.run c
  | .error m => do
    EndpointGate.CommandLine.explain m
    return m.exitStatus.toUInt32
