import EndpointGate.Store.Error

/-! How running a template fails. -/

namespace EndpointGate

inductive ExecutionError
  | rowFailed (row : Nat) (cause : StoreError)
  | store (cause : StoreError)
  deriving DecidableEq, Repr

namespace ExecutionError

def message : ExecutionError → String
  | .rowFailed row cause =>
    "Row " ++ toString row ++ " failed, batch rolled back: " ++ cause.message
  | .store cause => cause.message

def failedRow? : ExecutionError → Option Nat
  | .rowFailed row _ => some row
  | .store _ => none

def cause : ExecutionError → StoreError
  | .rowFailed _ cause => cause
  | .store cause => cause

end ExecutionError

end EndpointGate
