import EndpointGate.Json.Basic

/-! Counters of what the program has done, modulo `2 ^ 64`. -/

namespace EndpointGate

structure Metrics where
  requestsReceived : UInt64 := 0
  requestsCommitted : UInt64 := 0
  requestsAborted : UInt64 := 0
  requestsRejected : UInt64 := 0
  readsServed : UInt64 := 0
  rowsApplied : UInt64 := 0
  endpointsRegistered : UInt64 := 0
  backupsCreated : UInt64 := 0
  backupFailures : UInt64 := 0
  deriving DecidableEq, Repr

namespace Metrics

def received (m : Metrics) : Metrics := { m with requestsReceived := m.requestsReceived + 1 }

def committed (m : Metrics) : Metrics := { m with requestsCommitted := m.requestsCommitted + 1 }

def aborted (m : Metrics) : Metrics := { m with requestsAborted := m.requestsAborted + 1 }

def rejected (m : Metrics) : Metrics := { m with requestsRejected := m.requestsRejected + 1 }

def served (m : Metrics) : Metrics := { m with readsServed := m.readsServed + 1 }

def applied (m : Metrics) (rows : Nat) : Metrics :=
  { m with rowsApplied := m.rowsApplied + UInt64.ofNat rows }

def registered (m : Metrics) : Metrics := { m with endpointsRegistered := m.endpointsRegistered + 1 }

def backedUp (m : Metrics) : Metrics := { m with backupsCreated := m.backupsCreated + 1 }

def backupFailed (m : Metrics) : Metrics := { m with backupFailures := m.backupFailures + 1 }

def counters (m : Metrics) : List (String × UInt64) :=
  [("requests_received", m.requestsReceived), ("requests_committed", m.requestsCommitted),
   ("requests_aborted", m.requestsAborted), ("requests_rejected", m.requestsRejected),
   ("reads_served", m.readsServed), ("rows_applied", m.rowsApplied),
   ("endpoints_registered", m.endpointsRegistered), ("backups_created", m.backupsCreated),
   ("backup_failures", m.backupFailures)]

def snapshot (m : Metrics) : Json := .obj (m.counters.map fun p => (p.1, .int p.2.toNat))

end Metrics

end EndpointGate
