import EndpointGate.Endpoint.Error
import EndpointGate.Engine.Error
import EndpointGate.Gateway.State
import EndpointGate.Schema.Validation

/-! How a request fails, and what of it the caller is told. -/

namespace EndpointGate

inductive GatewayError
  | authRejected
  | notResolved
  | validationRejected (failure : ValidationFailure)
  | malformedRequest (reason : String)
  | executionFailed (cause : ExecutionError)
  | registrationFailed (cause : RegistryError)
  | internal (reason : String)
  deriving DecidableEq, Repr

namespace GatewayError

def ofForbidden (t : ForbiddenTransition) : GatewayError := .internal t.message

def ofResolution : RegistryError → GatewayError
  | .store cause => .executionFailed (.store cause)
  | e => .internal e.message

def kind : GatewayError → String
  | .authRejected => "AuthRejected"
  | .notResolved => "NotResolved"
  | .validationRejected _ => "ValidationRejected"
  | .malformedRequest _ => "MalformedRequest"
  | .executionFailed _ => "ExecutionFailed"
  | .registrationFailed _ => "RegistrationFailed"
  | .internal _ => "Internal"

def message : GatewayError → String
  | .authRejected | .notResolved => "Unauthorized"
  | .validationRejected failure => failure.message
  | .malformedRequest reason => "Malformed request: " ++ reason
  | .executionFailed cause => "Execution failed: " ++ cause.message
  | .registrationFailed cause => "Registration failed: " ++ cause.message
  | .internal reason => "Internal error: " ++ reason

def status : GatewayError → Nat
  | .authRejected | .notResolved => 401
  | .validationRejected _ | .malformedRequest _ => 400
  | .executionFailed _ | .registrationFailed _ | .internal _ => 500

def isServerFault (e : GatewayError) : Bool := 500 ≤ e.status

def publicMessage (e : GatewayError) : String :=
  if e.isServerFault then "Internal Server Error" else e.message

end GatewayError

end EndpointGate
