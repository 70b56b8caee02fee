import EndpointGate.Gateway.Error
import EndpointGate.Log.Journal

/-! The states of a request, from its receipt to one of three ends. -/

namespace EndpointGate

structure Lifecycle where
  endpoint : String
  method : String
  state : RequestState
  deriving DecidableEq, Repr

namespace RequestState

def event : RequestState → Event
  | .received => .requestReceived
  | .resolved => .requestResolved
  | .validated => .requestValidated
  | .executing => .requestExecuting
  | .committed => .requestCommitted
  | .aborted => .requestAborted
  | .rejected => .requestRejected

end RequestState

namespace Lifecycle

def report (l : Lifecycle) (extra : Log.Details) (j : Journal) : Journal :=
  j.event l.state.event
    ([("endpoint", l.endpoint), ("method", l.method), ("state", l.state.name)] ++ extra)

def start (endpoint method : String) (j : Journal) : Lifecycle × Journal :=
  let l : Lifecycle := ⟨endpoint, method, .received⟩
  (l, l.report [] j)

def advance (l : Lifecycle) (next : RequestState) (j : Journal) :
    Except GatewayError (Lifecycle × Journal) :=
  match l.state.transition next with
  | .ok state =>
    let l := { l with state }
    .ok (l, l.report [] j)
  | .error refused => .error (.ofForbidden refused)

def fail (l : Lifecycle) (e : GatewayError) (j : Journal) : Lifecycle × Journal :=
  match l.state.transition (if l.state = .executing then .aborted else .rejected) with
  | .ok state =>
    let l := { l with state }
    (l, l.report [("kind", e.kind), ("reason", e.message)] j)
  | .error _ => (l, j)

end Lifecycle

end EndpointGate
