import EndpointGate.Json.Basic
import EndpointGate.Text.Base64
import EndpointGate.Text.Blank

/-! Sessions: documents under ids that nobody can guess. A session that is not written for as long as
sessions live is as good as gone, whether or not it has been evicted. Times are in milliseconds, or in
a finer unit if the moments that can be told are given in it. -/

namespace EndpointGate

inductive SessionError
  | notFound
  | invalidId
  | storage (reason : String)
  deriving DecidableEq, Repr

namespace SessionError

def message : SessionError → String
  | .notFound => "Session not found"
  | .invalidId => "Session id must not be empty"
  | .storage reason => "Session storage error: " ++ reason

def status : SessionError → Nat
  | .notFound => 404
  | .invalidId => 400
  | .storage _ => 500

end SessionError

structure Session where
  id : String
  document : Json
  writtenAt : Int
  deriving DecidableEq

structure Sessions where
  ttl : Option Int := none
  entries : List Session := []
  /-- The first and the last moment that can be told: those of the years -262143 to 262142. -/
  earliest : Int := -8334601228800000
  latest : Int := 8210266876799999
  deriving DecidableEq

namespace Sessions

def idOf (octets : ByteArray) : String :=
  String.ofList <| ((Text.base64 octets).toList.filter (· != '=')).map fun c =>
    if c = '+' then '-' else if c = '/' then '_' else c

/-- Whether a session is over. A deadline that cannot be told never comes. -/
def isExpired (s : Sessions) (now : Int) (e : Session) : Bool :=
  match s.ttl with
  | none => false
  | some ttl =>
    let deadline := e.writtenAt + ttl
    s.earliest ≤ deadline && deadline ≤ s.latest && deadline ≤ now

def entry? (s : Sessions) (id : String) : Option Session := s.entries.find? (·.id == id)

def erase (s : Sessions) (id : String) : Sessions :=
  { s with entries := s.entries.filter (·.id != id) }

def write (s : Sessions) (id : String) (document : Json) (now : Int) : Sessions :=
  { s with entries := ⟨id, document, now⟩ :: (s.erase id).entries }

def start (s : Sessions) (id : String) (document : Json) (now : Int) : Sessions :=
  s.write id document now

def get? (s : Sessions) (id : String) (now : Int) : Option Json :=
  ((s.entry? id).filter fun e => !s.isExpired now e).map Session.document

def store (s : Sessions) (id : String) (document : Json) (now : Int) :
    Except SessionError Sessions :=
  if Text.allBlank id then .error .invalidId else .ok (s.write id document now)

def finish (s : Sessions) (id : String) (now : Int) : Option Json × Sessions :=
  (s.get? id now, s.erase id)

def evict (s : Sessions) (now : Int) : Nat × Sessions :=
  let alive := s.entries.filter fun e => !s.isExpired now e
  (s.entries.length - alive.length, { s with entries := alive })

def size (s : Sessions) : Nat := s.entries.length

end Sessions

end EndpointGate
