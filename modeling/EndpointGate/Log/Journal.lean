import EndpointGate.Log.Event
import EndpointGate.Log.Line

/-! The log as it is written: lines on two streams, those below a threshold left out. -/

namespace EndpointGate

inductive Entry
  | line (severity : Severity) (event : String) (details : Log.Details)
  | printed (text : String)
  deriving DecidableEq, Repr

namespace Entry

def text : Entry → String
  | .line severity event details => Log.render severity event details
  | .printed text => text

def toErrorStream : Entry → Bool
  | .line severity _ _ => severity.toErrorStream
  | .printed _ => false

end Entry

structure Journal where
  threshold : Severity := .info
  /-- What has been written, the last entry first. -/
  entries : List Entry := []
  deriving DecidableEq, Repr

namespace Journal

def enabled (j : Journal) (severity : Severity) : Bool := j.threshold.rank ≤ severity.rank

def log (j : Journal) (severity : Severity) (event : String) (details : Log.Details) : Journal :=
  if j.enabled severity then { j with entries := .line severity event details :: j.entries } else j

def error (j : Journal) (event : String) (details : Log.Details) : Journal :=
  j.log .error event details

def event (j : Journal) (e : Event) (details : Log.Details) : Journal :=
  j.log e.severity e.name details

def print (j : Journal) (text : String) : Journal := { j with entries := .printed text :: j.entries }

def out (j : Journal) : List String :=
  (j.entries.reverse.filter fun e => !e.toErrorStream).map Entry.text

def err (j : Journal) : List String := (j.entries.reverse.filter Entry.toErrorStream).map Entry.text

def cleared (j : Journal) : Journal := { j with entries := [] }

end Journal

end EndpointGate
