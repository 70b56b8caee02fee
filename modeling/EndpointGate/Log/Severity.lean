import EndpointGate.Text.Blank

/-! How grave a log line is. -/

namespace EndpointGate

inductive Severity
  | trace
  | info
  | warn
  | error
  | fatal
  deriving DecidableEq, Repr, Inhabited

namespace Severity

def rank : Severity → Nat
  | .trace => 0
  | .info => 1
  | .warn => 2
  | .error => 3
  | .fatal => 4

def name : Severity → String
  | .trace => "TRACE"
  | .info => "INFO"
  | .warn => "WARN"
  | .error => "ERROR"
  | .fatal => "FATAL"

def configName : Severity → String
  | .trace => "trace"
  | .info => "info"
  | .warn => "warn"
  | .error => "error"
  | .fatal => "fatal"

def all : List Severity := [.trace, .info, .warn, .error, .fatal]

def configNames : List String := all.map configName

def ofConfigName? (s : String) : Option Severity := all.find? fun v => v.configName = s

def parse? (s : String) : Option Severity := ofConfigName? (Text.lowerAscii s)

def unknownMessage (s : String) : String :=
  "unknown log level '" ++ s ++ "' (expected trace, info, warn, error or fatal)"

def toErrorStream (s : Severity) : Bool := 3 ≤ s.rank

end Severity

end EndpointGate
