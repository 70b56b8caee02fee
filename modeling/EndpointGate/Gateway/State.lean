/-! The states of a request and the moves between them. -/

namespace EndpointGate

inductive RequestState
  | received
  | resolved
  | validated
  | executing
  | committed
  | aborted
  | rejected
  deriving DecidableEq, Repr

structure ForbiddenTransition where
  source : RequestState
  target : RequestState
  deriving DecidableEq, Repr

namespace RequestState

def name : RequestState → String
  | .received => "Received"
  | .resolved => "Resolved"
  | .validated => "Validated"
  | .executing => "Executing"
  | .committed => "Committed"
  | .aborted => "Aborted"
  | .rejected => "Rejected"

def isTerminal : RequestState → Bool
  | .committed | .aborted | .rejected => true
  | _ => false

def allows : RequestState → RequestState → Bool
  | .received, .resolved | .resolved, .validated | .validated, .executing => true
  | .executing, .committed | .executing, .aborted => true
  | .received, .rejected | .resolved, .rejected | .validated, .rejected => true
  | _, _ => false

def transition (s next : RequestState) : Except ForbiddenTransition RequestState :=
  if s.allows next then .ok next else .error ⟨s, next⟩

end RequestState

def ForbiddenTransition.message (t : ForbiddenTransition) : String :=
  "Forbidden request transition " ++ t.source.name ++ " -> " ++ t.target.name

end EndpointGate
