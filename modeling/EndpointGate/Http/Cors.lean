import EndpointGate.Http.Message

/-! Which origins may use the service from a browser. -/

namespace EndpointGate.Http

inductive Cors
  | anyOrigin
  | origins (allowed : List String)
  deriving DecidableEq

namespace Cors

def isHeaderValue (s : String) : Bool :=
  s.toUTF8.data.all fun b => b == 9 || (32 ≤ b && b != 127)

/-- The policy for a list of origins: none in the list means any, and what cannot be a header value is
passed over. -/
def ofOrigins (origins : List String) : Cors :=
  if origins.isEmpty then .anyOrigin
  else .origins (origins.filter isHeaderValue)

/-- Whether the list names the wildcard, which only stands for itself where any origin is allowed. -/
def hasWildcard : Cors → Bool
  | .anyOrigin => false
  | .origins allowed => allowed.contains "*"

def allowOrigin (c : Cors) (r : Request) : List (String × String) :=
  match c with
  | .anyOrigin => [("access-control-allow-origin", "*")]
  | .origins allowed => match r.header? "origin" with
    | none => []
    | some o => match allowed.find? (·.toUTF8 == o) with
      | some a => [("access-control-allow-origin", a)]
      | none => []

def mark (c : Cors) (r : Request) (answer : Response) : Response :=
  { answer with headers := answer.headers ++ c.allowOrigin r }

def preflight (c : Cors) (r : Request) (allow : List (String × String)) : Response :=
  c.mark r { status := 200, headers := allow ++
    [("access-control-allow-methods", "*"), ("access-control-allow-headers", "*")] }

end Cors

end EndpointGate.Http
