import EndpointGate.Log.Severity

/-! The events of the program's life that are logged. -/

namespace EndpointGate

inductive Event
  | bootStart
  | configLoaded
  | storeReady
  | serving
  | shutdownComplete
  | endpointRegistered
  | registrationFailed
  | requestReceived
  | requestResolved
  | requestValidated
  | requestExecuting
  | requestCommitted
  | requestAborted
  | requestRejected
  | readServed
  | backupStart
  | backupComplete
  | backupFailed
  | sessionStarted
  | sessionEnded
  | sessionsEvicted
  deriving DecidableEq, Repr

namespace Event

def name : Event → String
  | .bootStart => "SQLGATE_STARTUP_BEGIN"
  | .configLoaded => "CONFIG_LOADED"
  | .storeReady => "STORE_READY"
  | .serving => "SQLGATE_SERVING"
  | .shutdownComplete => "SHUTDOWN_COMPLETE"
  | .endpointRegistered => "ENDPOINT_REGISTERED"
  | .registrationFailed => "ENDPOINT_REGISTRATION_FAILED"
  | .requestReceived => "REQUEST_RECEIVED"
  | .requestResolved => "REQUEST_RESOLVED"
  | .requestValidated => "REQUEST_VALIDATED"
  | .requestExecuting => "REQUEST_EXECUTING"
  | .requestCommitted => "REQUEST_COMMITTED"
  | .requestAborted => "REQUEST_ABORTED"
  | .requestRejected => "REQUEST_REJECTED"
  | .readServed => "READ_SERVED"
  | .backupStart => "BACKUP_BEGIN"
  | .backupComplete => "BACKUP_COMPLETE"
  | .backupFailed => "BACKUP_FAILED"
  | .sessionStarted => "SESSION_STARTED"
  | .sessionEnded => "SESSION_ENDED"
  | .sessionsEvicted => "SESSIONS_EVICTED"

def severity : Event → Severity
  | .requestReceived | .requestResolved | .requestValidated | .requestExecuting => .trace
  | .requestRejected => .warn
  | .requestAborted | .registrationFailed | .backupFailed => .error
  | _ => .info

end Event

end EndpointGate
