import EndpointGate.Command.Error
import EndpointGate.Json.Printer

/-! The answer of a command that has done its work: one line of JSON. -/

namespace EndpointGate.Answer

def document (data : Json) : Json := .obj [("status", .str "ok"), ("data", data)]

def text (data : Json) : String := (document data).render ++ "\n"

def write (room : Option Nat) (data : Json) : Except OutputFault String :=
  match room with
  | none => .ok (text data)
  | some room =>
    if room < (document data).render.utf8ByteSize then .error (.json "closed")
    else if room < (text data).utf8ByteSize then .error (.io "closed")
    else .ok (text data)

end EndpointGate.Answer
