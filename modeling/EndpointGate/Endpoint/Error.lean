import EndpointGate.Endpoint.Definition
import EndpointGate.Store.Error

/-! How registering or looking up an endpoint fails. -/

namespace EndpointGate

inductive RegistryError
  | missingField (field : RegistrationField)
  | store (cause : StoreError)
  | storage (reason : String)
  deriving DecidableEq, Repr

namespace RegistryError

def message : RegistryError → String
  | .missingField field => "Missing required field: " ++ field.name
  | .store cause => cause.message
  | .storage reason => "Registry storage error: " ++ reason

def isClientError : RegistryError → Bool
  | .missingField _ => true
  | _ => false

end RegistryError

end EndpointGate
