import EndpointGate.Http.Percent

/-! What a path asks for, and which methods it takes. -/

namespace EndpointGate.Http

inductive Route
  | health
  | metrics
  | endpoints
  | dynamic (name : List Char)
  | dynamicRow (name id : List Char)
  | sessions
  | session (id : List Char)
  deriving DecidableEq, Repr

namespace Route

def segmentsFrom (piece : List Char) : List Char → List (List Char)
  | [] => [piece.reverse]
  | c :: rest =>
    if c = '/' then piece.reverse :: segmentsFrom [] rest else segmentsFrom (c :: piece) rest

/-- The route of a path. Only the last piece must not be empty. -/
def ofPath? (path : List Char) : Option Route :=
  match segmentsFrom [] (path.drop 1) with
  | [a] => if a = "health".toList then some .health else none
  | [a, b] =>
    if a = "observability".toList && b = "metrics".toList then some .metrics
    else if a = "api".toList && b = "endpoints".toList then some .endpoints
    else if a = "api".toList && b = "sessions".toList then some .sessions
    else none
  | [a, b, c] =>
    if c.isEmpty || a ≠ "api".toList then none
    else if b = "dynamic".toList then some (.dynamic c)
    else if b = "sessions".toList then some (.session c)
    else none
  | [a, b, c, d] =>
    if !d.isEmpty && a = "api".toList && b = "dynamic".toList then some (.dynamicRow c d) else none
  | _ => none

def methods : Route → List String
  | .health | .metrics | .dynamicRow _ _ => ["GET", "HEAD"]
  | .endpoints => ["GET", "HEAD", "POST", "PUT"]
  | .dynamic _ => ["GET", "HEAD", "POST", "PUT", "DELETE"]
  | .sessions => ["POST"]
  | .session _ => ["GET", "HEAD", "PUT", "DELETE"]

def parameters : Route → List (String × List Char)
  | .dynamic name => [("name", name)]
  | .dynamicRow name id => [("name", name), ("id", id)]
  | .session id => [("id", id)]
  | _ => []

def badParameter? (r : Route) : Option String :=
  (r.parameters.find? fun p => (decodeSegment p.2).isNone).map (·.1)

end Route

end EndpointGate.Http
