import EndpointGate.Config.Basic
import EndpointGate.Disk.Basic
import EndpointGate.Json.Reader

/-! Reading a configuration from a file. One that can be read may still make no sense; the first fault
found is told. -/

namespace EndpointGate

inductive ConfigFault
  | unreadable (fault : DiskFault)
  | invalidJson (e : Json.ReadError)
  | noDatabasePath
  | zeroInterval
  | intervalTooLong
  | zeroLifetime
  | lifetimeTooLong
  | emptyAdminKey
  | backupOverDatabase
  | invalidOrigin (origin : String)
  | blankField (endpoint : String)
  | noBackupPath
  deriving DecidableEq, Repr

namespace Config

def maxPeriodSecs : UInt64 := 10 * 365 * 24 * 60 * 60

end Config

namespace ConfigFault

def atMost (member : String) : String :=
  member ++ " must be <= " ++ toString Config.maxPeriodSecs.toNat

def message : ConfigFault → String
  | .unreadable fault => "Failed to read config: " ++ fault.message
  | .invalidJson e => "Invalid config JSON: " ++ e.message
  | .noDatabasePath => "database_path must not be empty"
  | .zeroInterval => "backup_interval_secs must be > 0"
  | .intervalTooLong => atMost "backup_interval_secs"
  | .zeroLifetime => "session_ttl_secs must be > 0 when set"
  | .lifetimeTooLong => atMost "session_ttl_secs"
  | .emptyAdminKey => "admin_key must not be empty when set"
  | .backupOverDatabase => "backup_path must differ from database_path"
  | .invalidOrigin origin => "cors_origins contains an invalid origin: " ++ Text.quote origin
  | .blankField endpoint => "Schema for '" ++ endpoint ++ "' contains an empty field name"
  | .noBackupPath => "backup_path is not configured"

end ConfigFault

namespace Config

def blankField? (c : Config) : Option String :=
  (c.schemas.find? fun p => p.2.any Text.allBlank).map (·.1)

def faults (c : Config) : List ConfigFault :=
  let fault := fun (e : ConfigFault) (present : Bool) => if present then [e] else []
  fault .noDatabasePath c.databasePath.isEmpty
  ++ fault .zeroInterval (c.backupIntervalSecs == 0)
  ++ fault .intervalTooLong (maxPeriodSecs < c.backupIntervalSecs)
  ++ fault .zeroLifetime (c.sessionTtlSecs == some 0)
  ++ fault .lifetimeTooLong (c.sessionTtlSecs.any (maxPeriodSecs < ·))
  ++ fault .emptyAdminKey (c.adminKey == some "")
  ++ fault .backupOverDatabase (c.backupPath.any fun p => Path.same p c.databasePath)
  ++ c.listener.invalidOrigins.map .invalidOrigin
  ++ (c.blankField?.map .blankField).toList

def validate (c : Config) : Except ConfigFault Unit :=
  match c.faults with
  | [] => .ok ()
  | fault :: _ => .error fault

theorem faults_of_validate {c : Config} (h : c.validate = .ok ()) : c.faults = [] := by
  unfold validate at h
  split at h
  · assumption
  · cases h

def parse (text : String) : Except ConfigFault Config :=
  match Json.read shape text with
  | .ok j => .ok (ofJson j)
  | .error e => .error (.invalidJson e)

def load (d : Disk) (path : String) : Except ConfigFault Config := do
  let text ← (d.readText path).mapError .unreadable
  let c ← parse text
  c.validate
  return c

end Config

end EndpointGate
