import EndpointGate.Disk.Stores
import EndpointGate.Log.Journal
import EndpointGate.Log.Metrics

/-! Backups: a copy of a store is written beside its target and then moved over it, so that the target
is replaced by a whole copy only. -/

namespace EndpointGate

inductive BackupError
  | target (path : String) (fault : DiskFault)
  | copy (cause : StoreError)
  | finalize (path : String) (fault : DiskFault)
  deriving DecidableEq, Repr

namespace BackupError

def message : BackupError → String
  | .target path fault => "Cannot prepare backup target " ++ path ++ ": " ++ fault.message
  | .copy cause => "Backup copy failed: " ++ cause.message
  | .finalize path fault => "Cannot move backup into " ++ path ++ ": " ++ fault.message

def code : BackupError → String
  | .target .. | .finalize .. => "SQLGATE_BACKUP_IO"
  | .copy _ => "SQLGATE_BACKUP_FAILED"

end BackupError

structure BackupReport where
  path : String
  bytes : Nat
  deriving DecidableEq, Repr

structure Interruption where
  cause : StoreError
  /-- How many of its steps are taken. -/
  after : Nat
  /-- What has been written by then, if writing has been begun. -/
  written : Content

/-- What befalls a backup besides what the tree and the store hold against it. What it has made itself can
always be removed. -/
structure Circumstances where
  making : Refusal := .never
  removing : Refusal := .never
  moving : Refusal := .never
  copying : Option Interruption := none
  /-- What is cleared away beside the store when it is read. -/
  sweeping : List Companion := []

structure Backup where
  primary : String
  target : String
  deriving DecidableEq, Repr

namespace Backup

def sibling (b : Backup) : String := b.target ++ ".partial"

/-- The steps in which a store is written to a file of its own. Its file is made; a journal and then a log
that stand beside it are taken for what an earlier file left over, and go; its own journal is begun, which
goes when all is written. -/
def steps (path : String) (c : Content) (d : Disk) : List (Except StoreError (List Deed)) :=
  let p := d.storePlace path
  let journal := Companion.journal.place p
  let log := Companion.log.place p
  [match d.mediumAt path with
    | .unopenable _ => .error (.sql (.cannotAttach path))
    | _ => if d.hasOctets p then .error (.sql .outputExists) else .ok [.wrote p (.text "")],
   .ok (d.dropping journal),
   if d.isDirectory log then .error (.sql .diskFailed) else .ok (d.dropping log),
   if d.isDirectory journal then .error (.sql .cannotOpen) else .ok [.removed journal],
   .ok [.wrote p c]]

def through : List (Except StoreError (List Deed)) → Except StoreError Unit × List Deed
  | [] => (.ok (), [])
  | .error e :: _ => (.error e, [])
  | .ok deeds :: rest => let (r, more) := through rest; (r, deeds ++ more)

def vacuumInto (path : String) (db : Sql.Database) (d : Disk) :
    Option Interruption → Except StoreError Unit × List Deed
  | none => through (steps path (.database db) d)
  | some i =>
    let (r, deeds) := through ((steps path i.written d).take i.after)
    (r.bind fun _ => .error i.cause, deeds)

def copyInto (b : Backup) (lock : Option Lock) (d : Disk) (w : Circumstances := {}) :
    Except StoreError Unit × List Deed :=
  let s := d.storeAt b.primary lock
  match s.connect with
  | .error e => (.error e, [])
  | .ok c =>
    let reading := d.touching s ++
      w.sweeping.flatMap fun k => d.dropping (k.place (d.storePlace b.primary))
    match c.access.read with
    | .error f => (.error (.sql f), reading)
    | .ok () =>
      if d.storePlace b.sibling = d.storePlace b.primary then (.error (.sql .locked), reading)
      else
        let (r, writing) :=
          vacuumInto b.sibling c.committed (reading.foldl Disk.perform d) w.copying
        (r, reading ++ writing)

def cleared (b : Backup) (d : Disk) : Disk :=
  match d.removeIfPresent b.sibling with
  | .ok d => d
  | .error _ => d

def finish (b : Backup) (d : Disk) (w : Circumstances := {}) :
    Except BackupError BackupReport × Disk :=
  match d.rename b.sibling b.target w.moving with
  | .error fault => (.error (.finalize b.target fault), b.cleared d)
  | .ok d =>
    let bytes := match d.locate b.target with
      | .error _ => none
      | .ok p => match d.node? p with
        | some (.file c) => some (Disk.size c)
        | _ => none
    match bytes with
    | some bytes => (.ok ⟨b.target, bytes⟩, d)
    | none => (.error (.finalize b.target .notFound), d)

def prepareDirectory (b : Backup) (d : Disk) (w : Circumstances := {}) :
    Except BackupError Unit × Disk :=
  match Path.directory? b.target with
  | none => (.ok (), d)
  | some directory =>
    let (r, d) := d.makeAll directory w.making
    (r.mapError (.target directory), d)

def copy (b : Backup) (lock : Option Lock) (d : Disk) (w : Circumstances := {}) :
    Except BackupError BackupReport × Disk :=
  match b.prepareDirectory d w with
  | (.error e, d) => (.error e, d)
  | (.ok (), d) => match d.removeIfPresent b.sibling w.removing with
    | .error fault => (.error (.target b.sibling fault), d)
    | .ok d => match b.copyInto lock d w with
      | (.error e, deeds) => (.error (.copy e), b.cleared (deeds.foldl Disk.perform d))
      | (.ok (), deeds) => b.finish (deeds.foldl Disk.perform d) w

def run (b : Backup) (lock : Option Lock) (d : Disk) (m : Metrics) (j : Journal)
    (w : Circumstances := {}) : Except BackupError BackupReport × Disk × Metrics × Journal :=
  let j := j.event .backupStart [("target", b.target)]
  match b.copy lock d w with
  | (.ok report, d) =>
    (.ok report, d, m.backedUp,
      j.event .backupComplete [("target", b.target), ("bytes", toString report.bytes)])
  | (.error e, d) =>
    (.error e, d, m.backupFailed,
      j.event .backupFailed [("target", b.target), ("code", e.code), ("reason", e.message)])

end Backup

end EndpointGate
