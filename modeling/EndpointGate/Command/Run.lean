import EndpointGate.Command.Answer
import EndpointGate.Command.Basic

/-! Running commands. Each reads its configuration first, then makes what is missing of the database,
and stops at the first fault; what has been done and logged by then stays. -/

namespace EndpointGate

structure Workplace where
  disk : Disk
  journal : Journal

structure Surroundings where
  now : String
  listen : Http.Listener → Except Http.ListenFault Unit

inductive Failure
  | refused (e : CommandError)
  | broken (b : Breakdown)
  deriving DecidableEq, Repr

abbrev Work := ExceptT Failure (StateM Workplace)

namespace Work

def ofExcept {α ε : Type} (failure : ε → CommandError) : Except ε α → Work α
  | .ok a => pure a
  | .error e => throw (.refused (failure e))

def note (e : Event) (details : Log.Details) : Work Unit :=
  modify fun w => { w with journal := w.journal.event e details }

def print (data : Json) : Work Unit :=
  modify fun w => { w with journal := w.journal.print (Answer.text data) }

def loadConfig (path : String) : Work Config := do
  ofExcept .config (Config.load (← get).disk path)

def makeDirectory (c : Config) : Work Unit := do
  let some directory := Path.directory? c.databasePath | return
  let w ← get
  let (made, disk) := w.disk.makeAll directory
  set { w with disk }
  ofExcept .store (made.mapError (.directory directory))

/-- Tells the first connection to the database how long it shall wait for a lock. The file is there by
then. -/
def setWait (c : Config) : Work Unit := do
  let w ← get
  let store := w.disk.storeAt c.databasePath none
  if store.connect.isOk && Store.longestWait < c.busyTimeoutMs.toNat then
    set { w with disk := w.disk.touch store }
    throw (.broken .waitTooLong)

def openDatabase (c : Config) : Work Unit := do
  makeDirectory c
  setWait c
  let w ← get
  let (opened, disk) := w.disk.openStore c.databasePath none
  set { w with disk }
  ofExcept .store (opened.mapError .store)

def init (config : String) : Work Unit := do
  let c ← loadConfig config
  openDatabase c
  print (.obj [("database_path", .str c.databasePath), ("initialized", .bool true)])

def serve (s : Surroundings) (config : String) (port : Option UInt16) : Work Unit := do
  let c ← loadConfig config
  modify fun w => { w with journal := { w.journal with threshold := c.logLevel } }
  note .bootStart []
  note .configLoaded [("config", config)]
  openDatabase c
  note .storeReady [("database_path", c.databasePath)]
  match Server.ofConfig c port with
  | .error b => throw (.broken b)
  | .ok server =>
    let listening := s.listen server.listener
    if listening.isOk then note .serving [("addr", server.listener.address)]
    note .shutdownComplete []
    ofExcept .listen listening

def register (s : Surroundings) (config : String) (r : Registration) : Work Unit := do
  let c ← loadConfig config
  openDatabase c
  let w ← get
  let (registered, running) := (Server.gatewayOf c).register s.now r
    { holdings := { store := w.disk.storeAt c.databasePath none }, journal := w.journal }
  set ({ disk := w.disk.keep running.holdings.store, journal := running.journal } : Workplace)
  let id ← ofExcept .registration registered
  print (.obj [("endpoint_id", .int id)])

def backup (config : String) : Work Unit := do
  let c ← loadConfig config
  let some target := c.backupPath | throw (.refused (.config .noBackupPath))
  openDatabase c
  let w ← get
  let (made, disk, _, journal) := (Backup.mk c.databasePath target).run none w.disk {} w.journal
  set ({ disk, journal } : Workplace)
  let report ← ofExcept .backup made
  print (.obj [("bytes", .int report.bytes), ("path", .str report.path)])

end Work

def Command.work (c : Command) (s : Surroundings) : Work Unit :=
  match c with
  | .init config => Work.init config
  | .serve config port => Work.serve s config port
  | .register config registration => Work.register s config registration
  | .backup config => Work.backup config

def Command.run (c : Command) (s : Surroundings) (w : Workplace) :
    Except Failure Unit × Workplace := (c.work s).run w

end EndpointGate
