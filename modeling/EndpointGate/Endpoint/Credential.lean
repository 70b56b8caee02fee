import EndpointGate.Endpoint.Definition

/-! Credentials are compared octet by octet, over their whole length. -/

namespace EndpointGate

inductive Access
  | allowed
  | denied
  deriving DecidableEq, Repr

/-- Whether two octet strings of one length agree, looking at every octet. -/
def agreeThroughout : List UInt8 → List UInt8 → Bool
  | a :: as, b :: bs => agreeThroughout as bs && a == b
  | _, _ => true

def sameSecret (a b : String) : Bool :=
  let a := a.toUTF8.data.toList
  let b := b.toUTF8.data.toList
  a.length == b.length && agreeThroughout a b

namespace Definition

def admits (d : Definition) (supplied : String) : Access :=
  if sameSecret d.credential supplied then .allowed else .denied

end Definition

end EndpointGate
