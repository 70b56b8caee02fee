import EndpointGate.Sql.Failure

/-! What can go wrong between the program and its database. -/

namespace EndpointGate

inductive StoreError
  | cannotOpen (path reason : String)
  | sql (failure : Sql.Failure)
  | missingMarker (marker : String)
  | io (reason : String)
  deriving DecidableEq, Repr

namespace StoreError

def message : StoreError → String
  | .cannotOpen path reason => "Failed to open database " ++ path ++ ": " ++ reason
  | .sql failure => "Database error: " ++ failure.message
  | .missingMarker marker => "Statement has no parameter named " ++ marker
  | .io reason => "I/O error: " ++ reason

def isConstraintViolation : StoreError → Bool
  | .sql failure => failure.isConstraint
  | _ => false

end StoreError

end EndpointGate
