import EndpointGate.Json.Basic
import EndpointGate.Json.Shape
import EndpointGate.Text.Blank

/-! Registered endpoints: a SQL template under a name, a method and a credential. -/

namespace EndpointGate

structure EndpointKey where
  name : String
  method : String
  deriving DecidableEq, Repr

def EndpointKey.of (name method : String) : EndpointKey := ⟨name, Text.upperAscii method⟩

structure Definition where
  id : Int
  name : String
  method : String
  credential : String
  sqlTemplate : String
  createdAt : String
  deriving DecidableEq, Repr

namespace Definition

def key (d : Definition) : EndpointKey := .of d.name d.method

def toJson (d : Definition) : Json :=
  .obj [("id", .int d.id), ("name", .str d.name), ("method", .str d.method),
    ("sqlTemplate", .str d.sqlTemplate), ("createdAt", .str d.createdAt)]

end Definition

inductive RegistrationField
  | endpointName
  | method
  | credential
  | sqlTemplate
  deriving DecidableEq, Repr

def RegistrationField.name : RegistrationField → String
  | .endpointName => "endpointName"
  | .method => "method"
  | .credential => "credential"
  | .sqlTemplate => "sqlTemplate"

structure Registration where
  endpointName : String
  method : String
  credential : String
  sqlTemplate : String
  deriving DecidableEq, Repr

namespace Registration

/-- Refuses a registration that lacks a field, naming the first; the method becomes trimmed capitals
and all else stays. A credential of blanks counts as one. -/
def normalize (r : Registration) : Except RegistrationField Registration :=
  if Text.allBlank r.endpointName then .error .endpointName
  else if Text.allBlank r.method then .error .method
  else if r.credential.isEmpty then .error .credential
  else if Text.allBlank r.sqlTemplate then .error .sqlTemplate
  else .ok { r with method := Text.upperAscii (Text.trim r.method) }

def shape : Json.Shape :=
  .record "EndpointRegistration"
    [({ name := "endpointName", required := true }, .text "a string"),
     ({ name := "method", required := true }, .text "a string"),
     ({ name := "credential", aliases := ["apiKey"], required := true }, .text "a string"),
     ({ name := "sqlTemplate", aliases := ["sqlCommand"], required := true }, .text "a string")]

def ofJson (j : Json) : Registration :=
  ⟨j.stringOr "endpointName" "", j.stringOr "method" "", j.stringOr "credential" "",
    j.stringOr "sqlTemplate" ""⟩

end Registration

end EndpointGate
