import EndpointGate.Schema.Descriptor
import EndpointGate.Template

/-! Checks the rows of a request against the descriptor of its endpoint. -/

namespace EndpointGate

inductive ValidationFailure
  | unknownDescriptor (endpoint : String)
  | missingFields (row : Nat) (missing : List String)
  | emptyBatch
  deriving DecidableEq, Repr

def ValidationFailure.message : ValidationFailure → String
  | .unknownDescriptor endpoint =>
    "no expected structure found for endpoint '" ++ endpoint ++ "'"
  | .missingFields row missing =>
    "row " ++ toString row ++ " is missing required fields: " ++ ", ".intercalate missing
  | .emptyBatch => "no row data"

namespace Descriptor

def missingFrom (d : Descriptor) (row : Row) : List String :=
  let present := row.keys.map Text.lowercase
  (d.folded.filter fun p => !present.contains p.1).map (·.2)

def checkRows (d : Descriptor) (index : Nat) : List Row → Except ValidationFailure Unit
  | [] => .ok ()
  | row :: rows =>
    match d.missingFrom row with
    | [] => checkRows d (index + 1) rows
    | missing => .error (.missingFields (index + 1) missing)

end Descriptor

def validate (endpoint : String) (descriptor : Option Descriptor) (batch : Batch) :
    Except ValidationFailure Unit :=
  match descriptor with
  | none => .error (.unknownDescriptor endpoint)
  | some d => d.checkRows 0 batch.rows

end EndpointGate
