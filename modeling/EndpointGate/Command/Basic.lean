import EndpointGate.Endpoint.Definition

/-! What the program can be told to do. -/

namespace EndpointGate

inductive Command
  | init (config : String)
  | serve (config : String) (port : Option UInt16)
  | register (config : String) (registration : Registration)
  | backup (config : String)
  deriving DecidableEq, Repr

namespace Command

def config : Command → String
  | .init config | .serve config _ | .register config _ | .backup config => config

end Command

end EndpointGate
