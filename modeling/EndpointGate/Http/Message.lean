import EndpointGate.Text.Utf8

/-! Requests and responses. -/

namespace EndpointGate.Http

structure Request where
  method : String
  target : String
  headers : List (String × ByteArray)
  body : ByteArray

structure Response where
  status : Nat
  headers : List (String × String) := []
  body : String := ""
  deriving DecidableEq, Repr

namespace Request

def header? (r : Request) (name : String) : Option ByteArray :=
  (r.headers.find? fun h => h.1.map Char.toLower == name).map (·.2)

def isVisible (b : UInt8) : Bool := b == 9 || (32 ≤ b && b < 127)

def headerText? (r : Request) (name : String) : Option String :=
  match r.header? name with
  | none => none
  | some octets => if octets.data.all isVisible then String.fromUTF8? octets else none

def path (r : Request) : List Char := r.target.toList.takeWhile fun c => c ≠ '?' && c ≠ '#'

def query (r : Request) : List Char :=
  ((r.target.toList.takeWhile (· ≠ '#')).dropWhile (· ≠ '?')).drop 1

end Request

namespace Response

def text (status : Nat) (body : String) : Response :=
  { status, headers := [("content-type", "text/plain; charset=utf-8")], body }

def json (status : Nat) (body : String) : Response :=
  { status, headers := [("content-type", "application/json")], body }

def empty (status : Nat) : Response := { status }

end Response

end EndpointGate.Http
