import EndpointGate.Http.Listener
import EndpointGate.Log.Severity

/-! The configuration: one required path, and all else with a default. -/

namespace EndpointGate

structure Config where
  databasePath : String
  busyTimeoutMs : UInt64 := 5000
  listener : Http.Listener := {}
  schemas : Fields (List String) := []
  adminKey : Option String := none
  backupPath : Option String := none
  backupIntervalSecs : UInt64 := 3600
  sessionTtlSecs : Option UInt64 := none
  logLevel : Severity := .info
  deriving DecidableEq, Repr

namespace Config

def ofPath (databasePath : String) : Config := { databasePath }

def isDefault (c : Config) : Bool := c = ofPath c.databasePath

def word : Json.Shape := .natural "u64" 18446744073709551616

def shape : Json.Shape :=
  .record "Config" <|
    [({ name := "database_path", required := true }, .text "path string"),
     ({ name := "busy_timeout_ms" }, word)]
    ++ Http.Listener.members ++
    [({ name := "schemas" }, .dict (.list (.text "a string"))),
     ({ name := "admin_key" }, .optional (.text "a string")),
     ({ name := "backup_path" }, .optional (.text "path string")),
     ({ name := "backup_interval_secs" }, word),
     ({ name := "session_ttl_secs" }, .optional word),
     ({ name := "log_level" }, .choice Severity.configNames)]

def schemasOf (j : Json) : Fields (List String) :=
  (j.asObj?.getD []).map fun p => (p.1, p.2.strings)

def ofJson (j : Json) : Config :=
  let standard := ofPath (j.stringOr "database_path" "")
  { standard with
    busyTimeoutMs := (j.naturalOr "busy_timeout_ms" standard.busyTimeoutMs.toNat).toUInt64
    listener := .ofJson j
    schemas := ((j.get? "schemas").map schemasOf).getD standard.schemas
    adminKey := (j.get? "admin_key").bind Json.asStr?
    backupPath := (j.get? "backup_path").bind Json.asStr?
    backupIntervalSecs :=
      (j.naturalOr "backup_interval_secs" standard.backupIntervalSecs.toNat).toUInt64
    sessionTtlSecs := ((j.get? "session_ttl_secs").bind Json.asNat?).map Nat.toUInt64
    logLevel := (((j.get? "log_level").bind Json.asStr?).bind Severity.ofConfigName?).getD
      standard.logLevel }

def optional {α : Type} (shown : α → Json) (value : Option α) : Json := (value.map shown).getD .null

def toJson (c : Config) : Json :=
  .obj <|
    [("database_path", .str c.databasePath), ("busy_timeout_ms", .int c.busyTimeoutMs.toNat)]
    ++ c.listener.toFields ++
    [("schemas", .obj (c.schemas.map fun p => (p.1, .arr (p.2.map .str)))),
     ("admin_key", optional .str c.adminKey),
     ("backup_path", optional .str c.backupPath),
     ("backup_interval_secs", .int c.backupIntervalSecs.toNat),
     ("session_ttl_secs", optional (fun n => .int n.toNat) c.sessionTtlSecs),
     ("log_level", .str c.logLevel.configName)]

/-- The most seconds that a session's life is counted in: what milliseconds of 64 bits can hold. -/
def greatestLifetime : Nat := 9223372036854775807 / 1000

def sessionTtl (c : Config) : Option Int :=
  c.sessionTtlSecs.map fun secs => min secs.toNat greatestLifetime * 1000

end Config

end EndpointGate
