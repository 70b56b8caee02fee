import EndpointGate.Gateway.Error

/-! The two forms of a request body: one row, or a list of rows under the member `rows`. -/

namespace EndpointGate

inductive InvocationBody
  | single (row : Row)
  | batch (rows : List Row)
  deriving DecidableEq, Repr

namespace InvocationBody

def rowsOf (index : Nat) : List Json → Except GatewayError (List Row)
  | [] => .ok []
  | .obj row :: items => (rowsOf (index + 1) items).map (row :: ·)
  | _ :: _ =>
    .error (.malformedRequest ("rows[" ++ toString index ++ "] must be a JSON object"))

/-- An object is a batch if its member `rows` is a list, which must hold objects only; any other
object is one row, whatever its member `rows` is. -/
def ofJson : Json → Except GatewayError InvocationBody
  | .obj fields =>
    match Fields.get? "rows" fields with
    | some (.arr items) => (rowsOf 0 items).map .batch
    | _ => .ok (.single fields)
  | _ => .error (.malformedRequest "body must be a JSON object")

end InvocationBody

end EndpointGate
